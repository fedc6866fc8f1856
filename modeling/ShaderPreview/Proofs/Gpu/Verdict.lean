import ShaderPreview.Gpu.Validation
import ShaderPreview.Proofs.Gpu.Connection

/-!
# What is said about a program

On a device that is open, the creation of a pipeline ends with the `verdict` on the program.  It
follows from the check of its stages, whatever that is, and from what the two error scopes report,
which the script says beforehand (`moduleReport`, `linkReport`).
-/

namespace ShaderPreview

namespace Gpu

/-! ## Error scopes -/

/-- The error scopes of a device, innermost first. -/
def World.scopesOf (w : World) (d : DeviceId) : Option (List (Option (List Char))) :=
  w.devices[d]?.map Device.scopes

/-- In a world with the script the device is open and has the error scopes. -/
structure IsOpen (d : DeviceId) (σ : Script) (scopes : List (Option (List Char))) (w : World) :
    Prop where
  script : w.script = σ
  scopesOf : w.scopesOf d = some scopes

namespace IsOpen

variable {d : DeviceId} {σ : Script} {scopes : List (Option (List Char))}
  {error : Option (List Char)} {w w' : World}

theorem of_eq (h : IsOpen d σ scopes w) (hs : w'.script = w.script) (hd : w'.devices = w.devices) :
    IsOpen d σ scopes w' :=
  ⟨hs.trans h.script, by rw [World.scopesOf, hd]; exact h.scopesOf⟩

theorem call (h : IsOpen d σ scopes w) (c : Call) : IsOpen d σ scopes (Gpu.call c w).2 :=
  h.of_eq rfl rfl

theorem note (h : IsOpen d σ scopes w) (e : Event) : IsOpen d σ scopes (Gpu.note e w).2 :=
  h.of_eq rfl rfl

theorem createBuffer (h : IsOpen d σ scopes w) (label : String) (size : Nat)
    (usage : List BufferUsage) : IsOpen d σ scopes (Gpu.createBuffer label size usage w).2 :=
  h.of_eq rfl rfl

/-- The devices are changed in the place of the device, if there it is open. -/
theorem modify (h : IsOpen d σ scopes w) (f : Device → Device) {scopes' : List (Option (List Char))}
    (hf : ∀ v : Device, v.scopes = scopes → (f v).scopes = scopes') :
    IsOpen d σ scopes' { w with devices := w.devices.modify d f } := by
  refine ⟨h.script, ?_⟩
  obtain ⟨v, hv, hscopes⟩ := Option.map_eq_some_iff.1 h.scopesOf
  rw [World.scopesOf, List.getElem?_modify_eq, hv]
  exact congrArg some (hf v hscopes)

theorem pushScope (h : IsOpen d σ scopes w) :
    IsOpen d σ (none :: scopes) (Gpu.pushScope d w).2 := by
  have hpush : IsOpen d σ (none :: scopes) _ :=
    h.modify (fun v => { v with scopes := none :: v.scopes }) fun v hv => by rw [← hv]
  exact hpush.call _

theorem popScope (h : IsOpen d σ (error :: scopes) w) :
    (Gpu.popScope d w).1 = error ∧ IsOpen d σ scopes (Gpu.popScope d w).2 := by
  have hpop : IsOpen d σ scopes _ :=
    h.modify (fun v => { v with scopes := v.scopes.drop 1 }) fun v hv => by rw [hv]; rfl
  refine ⟨?_, hpop.call _⟩
  obtain ⟨v, hv, hscopes⟩ := Option.map_eq_some_iff.1 h.scopesOf
  have hfst : (Gpu.popScope d w).1 = (w.devices[d]?.bind fun v => v.scopes.head?).bind id := rfl
  rw [hfst, hv, Option.bind_some, hscopes]
  rfl

/-- An error goes into the innermost scope, which keeps its first error only. -/
theorem raiseIf (h : IsOpen d σ (error :: scopes) w) (raised : Option (Option (List Char))) :
    IsOpen d σ (error.or raised.join :: scopes) (Gpu.raiseIf d raised w).2 := by
  rcases raised with _ | _ | message
  · rw [Option.join_none, Option.or_none]
    exact h
  · rw [Option.join_some, Option.or_none]
    exact h
  · have hget : (get : StateM World World) w = (w, w) := rfl
    have hscopes : w.devices[d]?.map Device.scopes = some (error :: scopes) := h.scopesOf
    simp only [Gpu.raiseIf, raiseError, bind_apply, hget, hscopes]
    exact h.modify (fun v => { v with scopes := (error.orElse fun _ => some message) :: scopes })
      fun _ _ => by cases error <;> rfl

/-- A script that is used up leaves the devices alone. -/
theorem setScript (h : IsOpen d σ scopes w) (f : Script → Script) :
    IsOpen d (f σ) scopes { w with script := f w.script } :=
  ⟨congrArg f h.script, h.scopesOf⟩

end IsOpen

/-! ## The verdict on a program -/

/-- What the error scope around the creation of the modules reports. -/
def moduleReport (σ : Script) : Option (List Char) :=
  σ.vertexErrors.head?.join.or σ.fragmentErrors.head?.join

/-- What the error scope around the creation of the pipeline reports. -/
def linkReport (σ : Script) : Option (List Char) := σ.pipelineErrors.head?.join

section Scopes

variable {d : DeviceId} {σ : Script} {scopes : List (Option (List Char))}
  {error : Option (List Char)} {w : World}

/-- What a device says about the modules of a stage. -/
def Script.moduleErrors (σ : Script) : Stage → List (Option (List Char))
  | .vertex => σ.vertexErrors
  | .fragment => σ.fragmentErrors

/-- The script behind the creation of a module. -/
def Script.behindModule (σ : Script) : Stage → Script
  | .vertex => { σ with vertexErrors := σ.vertexErrors.drop 1 }
  | .fragment => { σ with fragmentErrors := σ.fragmentErrors.drop 1 }

/-- The script behind the creation of the modules of both stages. -/
def Script.behindModules (σ : Script) : Script := (σ.behindModule .vertex).behindModule .fragment

/-- The script behind the creation of the pipeline. -/
def Script.behindLink (σ : Script) : Script := { σ with pipelineErrors := σ.pipelineErrors.drop 1 }

theorem isOpen_createModule (h : IsOpen d σ (error :: scopes) w) (m : ShaderModule)
    (program : List Char) :
    IsOpen d (σ.behindModule m.stage) (error.or (σ.moduleErrors m.stage).head?.join :: scopes)
      (createModule d m program w).2 := by
  obtain ⟨label, stage, entry⟩ := m
  obtain rfl := h.script
  cases stage with
  | vertex =>
    have hcall := h.call (.createModule ⟨label, .vertex, entry⟩ (Text.byteLength program))
    have hused := hcall.setScript fun σ => σ.behindModule .vertex
    exact hused.raiseIf w.script.vertexErrors.head?
  | fragment =>
    have hcall := h.call (.createModule ⟨label, .fragment, entry⟩ (Text.byteLength program))
    have hused := hcall.setScript fun σ => σ.behindModule .fragment
    exact hused.raiseIf w.script.fragmentErrors.head?

theorem isOpen_createModules (h : IsOpen d σ (error :: scopes) w) (program : List Char) :
    IsOpen d σ.behindModules (error.or (moduleReport σ) :: scopes)
      (createModules d program w).2 := by
  have hall := isOpen_createModule (isOpen_createModule h vertexModule Shader.Triangle.program)
    fragmentModule program
  rw [Option.or_assoc] at hall
  exact hall

theorem isOpen_createPipeline (h : IsOpen d σ (error :: scopes) w) (p : PipelineSetup) :
    IsOpen d σ.behindLink (error.or (linkReport σ) :: scopes) (createPipeline d p w).2 := by
  obtain rfl := h.script
  exact ((h.call (.createPipeline p)).setScript Script.behindLink).raiseIf
    w.script.pipelineErrors.head?

theorem isOpen_createObjects (h : IsOpen d σ (error :: scopes) w) (format : TextureFormat) :
    IsOpen d σ.behindLink (error.or (linkReport σ) :: scopes)
      (createObjects d format w).2 := by
  refine isOpen_createPipeline ?_ _
  exact (((h.call _).createBuffer _ _ _).call _).call _

/-- A step in an error scope of its own is followed by what the scope reports. -/
theorem inScope_spec {α : Type} {step : StateM World α} {σ' : Script}
    (h : IsOpen d σ scopes w)
    (hstep : ∀ w, IsOpen d σ (none :: scopes) w → IsOpen d σ' (error :: scopes) (step w).2) :
    (inScope d step w).1.2 = error ∧ IsOpen d σ' scopes (inScope d step w).2 :=
  (hstep _ h.pushScope).popScope

theorem inScope_createModules (h : IsOpen d σ scopes w) (program : List Char) :
    (inScope d (createModules d program) w).1.2 = moduleReport σ ∧
      IsOpen d σ.behindModules scopes (inScope d (createModules d program) w).2 :=
  inScope_spec h fun _ hw => isOpen_createModules hw program

theorem inScope_createObjects (h : IsOpen d σ scopes w) (format : TextureFormat) :
    (inScope d (createObjects d format) w).1.2 = linkReport σ ∧
      IsOpen d σ.behindLink scopes (inScope d (createObjects d format) w).2 :=
  inScope_spec h fun _ hw => isOpen_createObjects hw format

end Scopes

/-- What is said about a program that was checked, on a device whose error scopes report the given
messages: the first fault, if there is one. -/
def verdict (checked : Except Diagnostic Unit) (modules link : Option (List Char))
    (program : List Char) : Except PipelineError Unit :=
  match checked, modules, link with
  | .error diagnostic, _, _ => .error (.compile diagnostic)
  | .ok _, some message, _ => .error (.compile (.ofMessage .fragment message program))
  | .ok _, none, some message => .error (.link message)
  | .ok _, none, none => .ok ()

/-- The creation of a pipeline ends as the verdict on the program says. -/
theorem createChecked_verdict {d : DeviceId} {σ : Script} {scopes : List (Option (List Char))}
    {w : World} (h : IsOpen d σ scopes w) (checked : Except Diagnostic Unit)
    (format : TextureFormat) (program : List Char) :
    (Pipeline.createChecked checked d format program w).1.map (fun _ => ()) =
      verdict checked (moduleReport σ) (linkReport σ) program := by
  unfold Pipeline.createChecked verdict
  rcases checked with diagnostic | ⟨⟩
  · rfl
  obtain ⟨hreport, hopen⟩ := inScope_createModules h program
  simp only [bind_apply]
  rcases hm : inScope d (createModules d program) w with ⟨⟨_, error⟩, w₁⟩
  rw [hm] at hreport hopen
  obtain rfl : error = moduleReport σ := hreport
  rcases moduleReport σ with _ | message
  · obtain ⟨hreport', -⟩ := inScope_createObjects hopen format
    simp only [bind_apply]
    rcases ho : inScope d (createObjects d format) w₁ with ⟨⟨p, error⟩, w₂⟩
    rw [ho] at hreport'
    -- the modules leave what is said about the pipeline
    obtain rfl : error = linkReport σ := hreport'
    rcases linkReport σ with _ | message <;> rfl
  · rfl

end Gpu

end ShaderPreview
