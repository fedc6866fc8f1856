import ShaderPreview.Proofs.Gpu.Balance
import ShaderPreview.Proofs.Gpu.WorldLibrary

/-!
# What a validation reports

A validation that succeeds reports what the error scope of its trial draw held, and behind that the
newest of the uncaught errors on its device.  It does so with any graphics library, which may report
uncaught errors on any device at every step, and behind any other validations.

What happens in a dialogue is added behind what happened before (`Since`).  For the parts of a
validation `Says` tells which calls are among it; its last part only gives things back.
-/

namespace ShaderPreview

namespace Gpu

variable {α β σ : Type}

/-! ## What happens in a dialogue -/

/-- Between two scenes these things happened. -/
structure Since (s : Scene σ) (hs : List Happening) (s' : Scene σ) : Prop where
  happened : s'.happened = s.happened ++ hs

namespace Since

variable {s s₁ s₂ : Scene σ} {hs hs' : List Happening}

theorem refl (s : Scene σ) : Since s [] s := ⟨(List.append_nil _).symm⟩

theorem trans (h : Since s hs s₁) (h' : Since s₁ hs' s₂) : Since s (hs ++ hs') s₂ :=
  ⟨by rw [h'.happened, h.happened, List.append_assoc]⟩

end Since

/-- The uncaught errors that are heard of during a query. -/
def Scene.heard (s : Scene σ) (lib : Library σ) (q : Query) : List Happening :=
  ((lib.step q s.library).1.filter (·.device < s.devices.length)).map .uncaught

theorem callsOf_heard (s : Scene σ) (lib : Library σ) (q : Query) :
    callsOf (s.heard lib q) = [] := by
  simp [callsOf, Scene.heard, Happening.call?]

namespace Library

variable (lib : Library σ)

theorem since_perform (q : Query) (x : Happening) (s : Scene σ) :
    Since s (x :: s.heard lib q) (lib.perform q x s).2 ∧
      (lib.perform q x s).2.devices = s.devices := by
  obtain ⟨logs, h⟩ := lib.perform_frame q x s
  rw [h]
  exact ⟨⟨rfl⟩, rfl⟩

theorem since_of_perform {p : Dialogue Unit} {q : Query} {x : Happening}
    (hp : p.run lib.answer = lib.perform q x) {s s' : Scene σ} {a : Unit}
    (h : p.run lib.answer s = (a, s')) :
    Since s (x :: s.heard lib q) s' ∧ s'.devices = s.devices := by
  obtain rfl : (lib.perform q x s).2 = s' := by rw [← hp, h]
  exact lib.since_perform q x s

/-- What happened before a query is answered stays. -/
theorem since_answer (q : Query) (s : Scene σ) : ∃ hs, Since s hs (lib.answer q s).2 := by
  cases q with
  | adapterError | recent d => exact ⟨[], .refl s⟩
  | openDevice label timestamps =>
    obtain ⟨hcall, -⟩ := lib.since_perform (.openDevice label timestamps)
      (.called (.requestDevice label timestamps (lib.maxDimension s.library))) s
    rw [lib.answer_openDevice]
    split
    · exact ⟨_, hcall⟩
    · exact ⟨_, ⟨hcall.happened⟩⟩
  | createBuffer label size usage =>
    obtain ⟨hcall, -⟩ := lib.since_perform (.createBuffer label size usage)
      (.called (.createBuffer ⟨s.resources, label⟩ size usage false))
      { s with resources := s.resources + 1 }
    exact ⟨_, ⟨hcall.happened⟩⟩
  | createTexture label width height format =>
    obtain ⟨hcall, -⟩ := lib.since_perform (.createTexture label width height format)
      (.called (.createTexture ⟨s.resources, label⟩ width height format .renderTarget))
      { s with resources := s.resources + 1 }
    exact ⟨_, ⟨hcall.happened⟩⟩
  | _ => exact ⟨_, (lib.since_perform _ _ s).1⟩

/-- What happened before a dialogue stays. -/
theorem since_run {p : Dialogue α} {s s' : Scene σ} {a : α} (h : p.run lib.answer s = (a, s')) :
    ∃ hs, Since s hs s' := by
  rw [show s' = (p.run lib.answer s).2 by rw [h]]
  refine Dialogue.run_induction (P := fun s' => ∃ hs, Since s hs s') ?_ p ⟨[], .refl s⟩
  rintro q s₁ ⟨hs, h⟩
  obtain ⟨hs', h'⟩ := lib.since_answer q s₁
  exact ⟨_, h.trans h'⟩

theorem sound_run {p : Dialogue α} {s s' : Scene σ} {a : α} (h : p.run lib.answer s = (a, s'))
    (hs : s.Sound) : s'.Sound := by
  rw [show s' = (p.run lib.answer s).2 by rw [h]]
  exact Dialogue.run_induction (Scene.Sound.answer lib) p hs

/-- The dialogue makes exactly the calls, and all that happens in it has the property. -/
def Says (P : Happening → Prop) (p : Dialogue α) (cs : List Call) : Prop :=
  ∀ ⦃s s' : Scene σ⦄ ⦃a : α⦄, p.run lib.answer s = (a, s') →
    ∃ hs, Since s hs s' ∧ callsOf hs = cs ∧ ∀ x ∈ hs, P x

namespace Says

variable {lib} {P : Happening → Prop} {p : Dialogue α} {f : α → Dialogue β} {cs ds : List Call}

theorem pure (a : α) : Says lib P (Pure.pure a) [] := by
  rintro s _ _ ⟨⟩
  exact ⟨[], .refl s, rfl, List.forall_mem_nil _⟩

theorem bind (hp : Says lib P p cs) (hf : ∀ a, Says lib P (f a) ds) :
    Says lib P (p >>= f) (cs ++ ds) := by
  intro s s' b h
  obtain ⟨a, s₁, h, h'⟩ := Dialogue.run_bind_eq h
  obtain ⟨hs, hsince, hcs, hP⟩ := hp h
  obtain ⟨hs', hsince', hds, hP'⟩ := hf a h'
  exact ⟨hs ++ hs', hsince.trans hsince', by rw [callsOf_append, hcs, hds],
    List.forall_mem_append.2 ⟨hP, hP'⟩⟩

/-- A part that only does something. -/
theorem of_perform {p : Dialogue Unit} {q : Query} {x : Happening}
    (hp : p.run lib.answer = lib.perform q x) (hx : P x)
    (hq : ∀ s, ∀ e ∈ (lib.step q s).1, P (.uncaught e)) : Says lib P p x.call?.toList := by
  intro s s' _ h
  refine ⟨x :: s.heard lib q, (lib.since_of_perform hp h).1, ?_, ?_⟩
  · rw [callsOf, List.filterMap_cons, ← callsOf, callsOf_heard]
    cases x.call? <;> rfl
  · refine List.forall_mem_cons.2 ⟨hx, fun y hy => ?_⟩
    obtain ⟨e, he, rfl⟩ := List.mem_map.1 hy
    exact hq _ e (List.mem_of_mem_filter he)

theorem forIn {γ : Type} {f : γ → β → Dialogue (ForInStep β)} (hf : ∀ x b, Says lib P (f x b) [])
    (xs : List γ) (b : β) : Says lib P (ForIn.forIn xs b f) [] := by
  induction xs generalizing b with
  | nil => exact .pure b
  | cons x xs ih =>
    rw [List.forIn_cons]
    refine (hf x b).bind fun step => ?_
    cases step with
    | done b => exact .pure b
    | yield b => exact ih b

end Says

end Library

/-! ## The trial frame -/

/-- The calls of the pass of a trial frame. -/
def Trial.passCalls (t : Trial) (p : Pipeline) : List Call :=
  [.createView (.texture t.target), .createEncoder "validation encoder",
    .beginPass "validation pass" (.texture t.target) none] ++
    (p.drawCalls ++ [.endPass, .submit 1, .pollDevice true])

/-- What happened ends with the pass of a trial frame in an error scope, which held the error when
it was closed; nothing but uncaught errors came behind it. -/
def Trial.Drew (t : Trial) (p : Pipeline) (error : Option (List Char)) (hs : List Happening) :
    Prop :=
  ∃ before pass behind,
    hs = before ++ .called (.pushScope t.device) ::
      (pass ++ .called (.popScope t.device error) :: behind) ∧
    callsOf pass = t.passCalls p ∧ callsOf behind = []

theorem Trial.Drew.prepend {t : Trial} {p : Pipeline} {error : Option (List Char)}
    {hs : List Happening} (h : t.Drew p error hs) (hs' : List Happening) :
    t.Drew p error (hs' ++ hs) := by
  obtain ⟨before, pass, behind, rfl, hpass, hbehind⟩ := h
  exact ⟨hs' ++ before, pass, behind, (List.append_assoc _ _ _).symm, hpass, hbehind⟩

namespace Library

variable (lib : Library σ)

/-- A part in an error scope: the scope is opened before it, and behind it the scope is asked for
its error and closed. -/
theorem run_inScope {d : DeviceId} {step : Dialogue α} {s s' : Scene σ} {a : α}
    {error : Option (List Char)}
    (h : (Dialogue.inScope d step).run lib.answer s = ((a, error), s')) :
    ∃ s₁ s₂ hs hs', Since s (.called (.pushScope d) :: hs) s₁ ∧ step.run lib.answer s₁ = (a, s₂) ∧
      Since s₂ (.called (.popScope d error) :: hs') s' ∧ callsOf hs = [] ∧ callsOf hs' = [] := by
  obtain ⟨_, s₁, hpush, h⟩ := Dialogue.run_bind_eq h
  obtain ⟨a', s₂, hstep, h⟩ := Dialogue.run_bind_eq h
  obtain ⟨error', s₃, hpop, h⟩ := Dialogue.run_bind_eq h
  obtain ⟨⟨rfl, rfl⟩, rfl⟩ : (a' = a ∧ error' = error) ∧ s₃ = s' :=
    (Prod.mk.inj h).imp_left Prod.mk.inj
  obtain rfl : lib.scopeError d s₂.library = error' := congrArg Prod.fst hpop
  obtain rfl : (lib.perform (.popScope d) (.called (.popScope d (lib.scopeError d s₂.library)))
    s₂).2 = s₃ := congrArg Prod.snd hpop
  obtain ⟨hpushed, -⟩ := lib.since_of_perform (q := .pushScope d) rfl hpush
  obtain ⟨hpopped, -⟩ := lib.since_perform (.popScope d)
    (.called (.popScope d (lib.scopeError d s₂.library))) s₂
  exact ⟨s₁, s₂, _, _, hpushed, hstep, hpopped, callsOf_heard _ _ _, callsOf_heard _ _ _⟩

/-- The calls of the pass are these, whatever the library reports meanwhile. -/
theorem says_drawPass (t : Trial) (p : Pipeline) :
    Says lib (fun _ => True) (Dialogue.drawPass t p) (t.passCalls p) := by
  have hsend : ∀ (p : Dialogue Unit) (q : Query) (c : Call),
      p.run lib.answer = lib.perform q (.called c) → Says lib (fun _ => True) p [c] :=
    fun _ _ _ hp => .of_perform hp trivial fun _ _ _ => trivial
  have hcall : ∀ c, Says lib (fun _ => True) (Dialogue.call c) [c] := fun c => hsend _ _ c rfl
  have hdraw : Says lib (fun _ => True) (Dialogue.drawPipeline p) p.drawCalls :=
    (hcall _).bind fun _ => (hcall _).bind fun _ => hcall _
  exact (hcall _).bind fun _ => (hcall _).bind fun _ => (hcall _).bind fun _ =>
    hdraw.bind fun _ => (hcall _).bind fun _ => (hsend _ (.submit t.device) _ rfl).bind fun _ =>
      hsend _ (.pollDevice true) _ rfl

/-- The answer to a trial frame is what the error scope of its pass held. -/
theorem run_drawFrame {t : Trial} {p : Pipeline} {today : Date} {s s' : Scene σ}
    {error : Option (List Char)}
    (h : (Dialogue.drawFrame t p today).run lib.answer s = (error, s')) :
    ∃ hs, Since s hs s' ∧ t.Drew p error hs := by
  obtain ⟨_, s₁, hwrite, h⟩ := Dialogue.run_bind_eq h
  obtain ⟨⟨_, error'⟩, s₂, hscope, h⟩ := Dialogue.run_bind_eq h
  obtain ⟨rfl, rfl⟩ : error' = error ∧ s₂ = s' := Prod.mk.inj h
  obtain ⟨before, hbefore⟩ := lib.since_run hwrite
  obtain ⟨s₃, s₄, early, behind, hpush, hpass, hpop, hearly, hbehind⟩ := lib.run_inScope hscope
  obtain ⟨pass, hpass, hcalls, -⟩ := lib.says_drawPass t p hpass
  refine ⟨_, ((hbefore.trans hpush).trans hpass).trans hpop, before, early ++ pass, behind, ?_, ?_,
    hbehind⟩
  · simp only [List.append_assoc, List.cons_append]
  · rw [callsOf_append, hearly, hcalls, List.nil_append]

end Library

/-! ## What is given back -/

/-- Something is given back, or only noted. -/
def Query.isReturn : Query → Bool
  | .call (.destroyBuffer _) | .call (.destroyTexture _) | .call (.destroyDevice _) => true
  | .note _ => true
  | _ => false

namespace Library

variable (lib : Library σ)

/-- No uncaught errors are reported while things are given back. -/
def ReturnsSilently : Prop := ∀ q : Query, q.isReturn → ∀ x, (lib.step q x).1 = []

/-- It is no uncaught error, if the library reports none while things are given back. -/
def Silent (x : Happening) : Prop := lib.ReturnsSilently → ∀ d, x.messageOn? d = none

theorem says_return {p : Dialogue Unit} {q : Query} {x : Happening}
    (hp : p.run lib.answer = lib.perform q x) (hq : q.isReturn) (hx : ∀ d, x.messageOn? d = none) :
    Says lib lib.Silent p x.call?.toList := by
  refine .of_perform hp (fun _ => hx) fun s e he hlib => ?_
  rw [hlib q hq] at he
  cases he

theorem says_note (e : Event) : Says lib lib.Silent (Dialogue.note e) [] :=
  lib.says_return (q := .note e) (x := .noted e) rfl rfl fun _ => rfl

/-- One event is noted for each of the texts. -/
theorem says_noteAll (e : Event) (texts : List (List Char)) :
    Says lib lib.Silent (forIn texts PUnit.unit fun _ _ => do
      Dialogue.note e
      pure (.yield PUnit.unit)) [] :=
  .forIn (fun _ _ => (lib.says_note e).bind fun _ => .pure _) texts PUnit.unit

theorem says_close (t : Trial) : Says lib lib.Silent (Dialogue.close t) t.closeCalls :=
  (lib.says_return (q := .call (.destroyTexture t.target)) (x := .called (.destroyTexture t.target))
    rfl rfl fun _ => rfl).bind fun _ =>
  lib.says_return (q := .call (.destroyDevice t.device)) (x := .called (.destroyDevice t.device))
    rfl rfl fun _ => rfl

/-! ## The report -/

/-- Between two scenes a trial frame was drawn, and the warnings are what its error scope held and
the newest uncaught errors on its device by then.  Behind that the calls were made, and they only
give things back. -/
structure Reported (t : Trial) (p : Pipeline) (error : Option (List Char))
    (warnings : List (List Char)) (cs : List Call) (s s' : Scene σ)
    (drawn returned : List Happening) : Prop where
  since : Since s (drawn ++ returned) s'
  drew : t.Drew p error drawn
  warnings : warnings =
    error.toList ++ (uncaughtOn t.device (s.happened ++ drawn)).rtake Warnings.limit
  calls : callsOf returned = cs
  silent : ∀ x ∈ returned, lib.Silent x

namespace Reported

variable {lib} {t : Trial} {p : Pipeline} {error : Option (List Char)} {ws : List (List Char)}
  {cs ds : List Call} {s s₁ s' : Scene σ} {drawn returned hs : List Happening}

theorem prepend (h : lib.Reported t p error ws cs s₁ s' drawn returned) (hs₁ : Since s hs s₁) :
    lib.Reported t p error ws cs s s' (hs ++ drawn) returned where
  since := by
    rw [List.append_assoc]
    exact hs₁.trans h.since
  drew := h.drew.prepend hs
  warnings := by
    rw [← List.append_assoc, ← hs₁.happened]
    exact h.warnings
  calls := h.calls
  silent := h.silent

theorem append (h : lib.Reported t p error ws cs s s₁ drawn returned) {rest : Dialogue α}
    (hrest : Says lib lib.Silent rest ds) {a : α} (hrun : rest.run lib.answer s₁ = (a, s')) :
    ∃ hs, lib.Reported t p error ws (cs ++ ds) s s' drawn (returned ++ hs) := by
  obtain ⟨hs, hsince, hds, hsilent⟩ := hrest hrun
  refine ⟨hs, ?_, h.drew, h.warnings, ?_, List.forall_mem_append.2 ⟨h.silent, hsilent⟩⟩
  · rw [← List.append_assoc]
    exact h.since.trans hsince
  · rw [callsOf_append, h.calls, hds]

end Reported

/-- The uncaught errors are read when the frame is drawn, and then they are only noted. -/
theorem run_draw {t : Trial} {p : Pipeline} {today : Date} {s s' : Scene σ}
    {warnings : List (List Char)} (hs : s.Sound)
    (h : (Dialogue.draw t p today).run lib.answer s = (warnings, s')) :
    ∃ error drawn returned, lib.Reported t p error warnings [] s s' drawn returned := by
  obtain ⟨error, s₁, hframe, h⟩ := Dialogue.run_bind_eq h
  obtain ⟨recent, s₂, hrecent, h⟩ := Dialogue.run_bind_eq h
  obtain ⟨_, s₃, hnotes, h⟩ := Dialogue.run_bind_eq h
  obtain ⟨rfl, rfl⟩ : error.toList ++ recent = warnings ∧ s₃ = s' := Prod.mk.inj h
  obtain ⟨rfl, rfl⟩ : s₁.recent t.device = recent ∧ s₁ = s₂ := Prod.mk.inj hrecent
  obtain ⟨drawn, hsince, hdrew⟩ := lib.run_drawFrame hframe
  -- the log is read behind the frame, and holds all that was reported by then
  have hread : lib.Reported t p error (error.toList ++ s₁.recent t.device) [] s s₁ drawn [] := by
    refine ⟨?_, hdrew, ?_, rfl, List.forall_mem_nil _⟩
    · rw [List.append_nil]
      exact hsince
    · rw [(lib.sound_run hframe hs).recent_eq, hsince.happened]
  obtain ⟨noted, h⟩ := hread.append (lib.says_noteAll .trialProblem _) hnotes
  exact ⟨error, drawn, noted, h⟩

/-- A device that is opened is a new one. -/
theorem run_openDevice {label : String} {timestamps : Bool} {d : DeviceId} {s s' : Scene σ}
    (h : (Dialogue.openDevice label timestamps).run lib.answer s = (.ok d, s')) :
    d = s.devices.length := by
  rw [Dialogue.run_openDevice, lib.answer_openDevice] at h
  split at h
  · cases congrArg Prod.fst h
  · exact (Except.ok.inj (congrArg Prod.fst h)).symm

/-- A trial starts with a device of its own, whose uncaught errors are watched. -/
theorem run_start {options : GpuOptions} {t : Trial} {s s' : Scene σ}
    (h : (Dialogue.start options).run lib.answer s = (.ok t, s')) :
    t.device = s.devices.length ∧
      ∃ hs, Since s hs s' ∧ .called (.watchErrors t.device) ∈ hs := by
  obtain ⟨_, s₁, hinstance, h⟩ := Dialogue.run_bind_eq h
  obtain ⟨_, s₂, hadapter, h⟩ := Dialogue.run_bind_eq h
  obtain ⟨reason, s₃, hreason, h⟩ := Dialogue.run_bind_eq h
  rcases reason with _ | reason
  swap
  · cases congrArg Prod.fst h
  obtain ⟨_, s₄, hselected, h⟩ := Dialogue.run_bind_eq h
  obtain ⟨opened, s₅, hopen, h⟩ := Dialogue.run_bind_eq h
  rcases opened with reason | d
  · cases congrArg Prod.fst h
  obtain ⟨_, s₆, hwatch, h⟩ := Dialogue.run_bind_eq h
  obtain ⟨target, s₇, htarget, h⟩ := Dialogue.run_bind_eq h
  obtain ⟨rfl, rfl⟩ : (⟨d, target⟩ : Trial) = t ∧ s₇ = s' :=
    (Prod.mk.inj h).imp_left Except.ok.inj
  obtain rfl : s₂ = s₃ := congrArg Prod.snd hreason
  obtain ⟨hinstance, hinstance'⟩ :=
    lib.since_of_perform (q := .call (.openInstance true)) rfl hinstance
  obtain ⟨hadapter, hadapter'⟩ := lib.since_of_perform
    (q := .call (.requestAdapter options.powerPreference false false)) rfl hadapter
  obtain ⟨hselected, hselected'⟩ := lib.since_of_perform (q := .note .adapterSelected) rfl hselected
  obtain ⟨hwatch, -⟩ := lib.since_of_perform (q := .call (.watchErrors d)) rfl hwatch
  obtain ⟨opening, hopened⟩ := lib.since_run hopen
  obtain ⟨creating, hcreated⟩ := lib.since_run htarget
  refine ⟨?_, _, ((((hinstance.trans hadapter).trans hselected).trans hopened).trans
    hwatch).trans hcreated, by simp⟩
  -- no device was opened up to the query for this one
  rw [← hinstance', ← hadapter', ← hselected']
  exact lib.run_openDevice hopen

/-- A trial that succeeds has drawn its frame; then the uniforms of its pipeline are given back. -/
theorem run_runTrial {t : Trial} {checked : Except Diagnostic Unit} {program : List Char}
    {today : Date} {s s' : Scene σ} {warnings : List (List Char)} (hs : s.Sound)
    (h : (Dialogue.runTrial t checked program today).run lib.answer s = (.ok warnings, s')) :
    ∃ p error drawn returned,
      lib.Reported t p error warnings [.destroyBuffer p.uniforms] s s' drawn returned := by
  obtain ⟨created, s₁, hcreate, h⟩ := Dialogue.run_bind_eq h
  rcases created with (d | m) | p
  · cases congrArg Prod.fst h
  · cases congrArg Prod.fst h
  obtain ⟨warnings', s₂, hdraw, h⟩ := Dialogue.run_bind_eq h
  obtain ⟨_, s₃, hreturn, h⟩ := Dialogue.run_bind_eq h
  obtain ⟨rfl, rfl⟩ : warnings' = warnings ∧ s₃ = s' := (Prod.mk.inj h).imp_left Except.ok.inj
  obtain ⟨creating, hcreated⟩ := lib.since_run hcreate
  obtain ⟨error, drawn, returned, hread⟩ := lib.run_draw (lib.sound_run hcreate hs) hdraw
  have hsays : Says lib lib.Silent (Dialogue.call (.destroyBuffer p.uniforms))
      [.destroyBuffer p.uniforms] :=
    lib.says_return (q := .call (.destroyBuffer p.uniforms))
      (x := .called (.destroyBuffer p.uniforms)) rfl rfl fun _ => rfl
  obtain ⟨destroyed, hread⟩ := (hread.prepend hcreated).append hsays hreturn
  exact ⟨p, error, _, _, hread⟩

/-- Between two scenes there was a trial with these warnings, on a device that was opened for it and
closed behind it. -/
def Tried (warnings : List (List Char)) (s s' : Scene σ) : Prop :=
  ∃ t p error drawn returned,
    lib.Reported t p error warnings (.destroyBuffer p.uniforms :: t.closeCalls) s s' drawn
      returned ∧
    t.device = s.devices.length ∧ .called (.watchErrors t.device) ∈ drawn

namespace Tried

variable {lib} {ws : List (List Char)} {e : Event} {s s₁ s' : Scene σ} {a : Unit}

theorem note_before (h : lib.Tried ws s₁ s')
    (hnote : (Dialogue.note e).run lib.answer s = (a, s₁)) : lib.Tried ws s s' := by
  obtain ⟨t, p, error, drawn, returned, hread, hdevice, hwatched⟩ := h
  obtain ⟨hnoted, hdevices⟩ := lib.since_of_perform (q := .note e) rfl hnote
  exact ⟨t, p, error, _, returned, hread.prepend hnoted, hdevices ▸ hdevice,
    List.mem_append_right _ hwatched⟩

theorem note_behind (h : lib.Tried ws s s₁)
    (hnote : (Dialogue.note e).run lib.answer s₁ = (a, s')) : lib.Tried ws s s' := by
  obtain ⟨t, p, error, drawn, returned, hread, hrest⟩ := h
  obtain ⟨noted, hread⟩ := hread.append (lib.says_note e) hnote
  rw [List.append_nil] at hread
  exact ⟨t, p, error, drawn, _, hread, hrest⟩

end Tried

/-- A program that is valid was tried. -/
theorem run_programValidation {check : StageCheck} {options : GpuOptions} {program : List Char}
    {today : Date} {s s' : Scene σ} {report : ValidationReport} (hs : s.Sound)
    (h : (Dialogue.programValidation check options program today).run lib.answer s =
      (.ok report, s')) :
    lib.Tried report.warnings s s' := by
  obtain ⟨started, s₁, hstart, h⟩ := Dialogue.run_bind_eq h
  rcases started with e | t
  · cases congrArg Prod.fst h
  obtain ⟨result, s₂, htrial, h⟩ := Dialogue.run_bind_eq h
  obtain ⟨_, s₃, hclose, h⟩ := Dialogue.run_bind_eq h
  obtain ⟨hreport, rfl⟩ := Prod.mk.inj h
  rcases result with e | warnings
  · cases hreport
  obtain rfl : (⟨program, warnings⟩ : ValidationReport) = report := Except.ok.inj hreport
  obtain ⟨hdevice, starting, hstarted, hwatched⟩ := lib.run_start hstart
  obtain ⟨p, error, drawn, returned, hread⟩ := lib.run_runTrial (lib.sound_run hstart hs) htrial
  obtain ⟨closing, hread⟩ := (hread.prepend hstarted).append (lib.says_close t) hclose
  exact ⟨t, p, error, _, _, hread, hdevice, List.mem_append_left _ hwatched⟩

theorem run_assemblyValidation {check : StageCheck} {options : GpuOptions} {a : Shader.Assembly}
    {today : Date} {s s' : Scene σ} {report : ValidationReport} (hs : s.Sound)
    (h : (Dialogue.assemblyValidation check options a today).run lib.answer s = (.ok report, s')) :
    lib.Tried report.warnings s s' := by
  obtain ⟨_, s₁, hassembled, h⟩ := Dialogue.run_bind_eq h
  obtain ⟨result, s₂, hprogram, h⟩ := Dialogue.run_bind_eq h
  rcases result with e | report'
  · cases congrArg Prod.fst h
  obtain ⟨_, s₃, hvalidated, h⟩ := Dialogue.run_bind_eq h
  obtain ⟨rfl, rfl⟩ : report' = report ∧ s₃ = s' := (Prod.mk.inj h).imp_left Except.ok.inj
  have htried := lib.run_programValidation (lib.sound_run hassembled hs) hprogram
  exact (htried.note_before hassembled).note_behind hvalidated

/-- A source that is valid was tried. -/
theorem run_validation {check : StageCheck} {options : GpuOptions} {source : List Char}
    {today : Date} {s s' : Scene σ} {report : ValidationReport} (hs : s.Sound)
    (h : (Dialogue.validation check options source today).run lib.answer s = (.ok report, s')) :
    lib.Tried report.warnings s s' := by
  unfold Dialogue.validation at h
  rcases hread : Shader.Assembly.read source with e | ⟨a, remarks⟩
  · rw [hread] at h
    cases congrArg Prod.fst h
  rw [hread] at h
  dsimp only at h
  -- the remark on a second entry point comes in front of all else
  split at h
  · obtain ⟨_, s₁, hnote, h⟩ := Dialogue.run_bind_eq h
    exact (lib.run_assemblyValidation (lib.sound_run hnote hs) h).note_before hnote
  · exact lib.run_assemblyValidation hs h

end Library

/-- Each handle of a warning log shows how many messages were pushed through it and its clones, and
the newest 16 of them.

With any graphics library, behind any dialogue with it, a validation that succeeds reports the error
that the scope of its trial frame held, if any, and then the newest 16 of the uncaught errors on its
device, in their order.  The device was opened for it, so no error of another validation is among
them.  The errors are those that were reported until the frame was drawn, and these are all if the
library reports none while the uniforms, the texture and the device are given back.

A validation in a graphics world is one with a library. -/
theorem report_of_validation (lib : Library σ) (x : σ) (past : Dialogue α) (check : StageCheck)
    (options : GpuOptions) (source : List Char) (today : Date) :
    (∀ steps (h o : LogHandle), (PushRecord.ofSteps steps).origins[h]? = some o →
      let pushed := (PushRecord.ofSteps steps).messages o
      (SharedLogs.ofSteps steps).total h = pushed.length ∧
        (SharedLogs.ofSteps steps).recent h = pushed.rtake (min 16 pushed.length)) ∧
      (∀ s s' report, (past.run lib.answer (.ofLibrary x)).2 = s →
        (Dialogue.validation check options source today).run lib.answer s = (.ok report, s') →
        ∃ (t : Trial) (p : Pipeline) (error : Option (List Char)) (drawn returned : List Happening),
          s'.happened = s.happened ++ drawn ++ returned ∧ t.Drew p error drawn ∧
          t.device = s.devices.length ∧ uncaughtOn t.device s.happened = [] ∧
          .called (.watchErrors t.device) ∈ drawn ∧
          callsOf returned = .destroyBuffer p.uniforms :: t.closeCalls ∧
          report.warnings = error.toList ++
            (uncaughtOn t.device drawn).rtake (min 16 (uncaughtOn t.device drawn).length) ∧
          (lib.ReturnsSilently → uncaughtOn t.device s'.happened = uncaughtOn t.device drawn)) ∧
      ∀ script,
        (validateWith check options source today (past.run Query.onWorld (.ofScript script)).2).1 =
          ((Dialogue.validation check options source today).run worldLibrary.answer
            (past.run worldLibrary.answer (.ofLibrary (.ofScript script))).2).1 := by
  refine ⟨?_, ?_, fun script => validateWith_eq_run script past check options source today⟩
  · intro steps h o ho
    obtain ⟨place, hshows⟩ := Shows.ofSteps steps
    exact ⟨hshows.total_eq ho, (hshows.recent_eq ho).trans (rtake_min_length _ _).symm⟩
  · rintro s s' report rfl hrun
    have hsound : (past.run lib.answer (.ofLibrary x)).2.Sound :=
      lib.sound_run (s := .ofLibrary x) rfl (.ofLibrary x)
    obtain ⟨t, p, error, drawn, returned, hread, hdevice, hwatched⟩ :=
      lib.run_validation hsound hrun
    have hbefore : uncaughtOn t.device (past.run lib.answer (.ofLibrary x)).2.happened = [] :=
      hsound.uncaughtOn_eq_nil hdevice.ge
    refine ⟨t, p, error, drawn, returned, ?_, hread.drew, hdevice, hbefore, hwatched, hread.calls,
      ?_, fun hlib => ?_⟩
    · rw [hread.since.happened, List.append_assoc]
    · rw [hread.warnings, uncaughtOn_append, hbefore, List.nil_append]
      exact congrArg _ (rtake_min_length _ _).symm
    · have hsilent : uncaughtOn t.device returned = [] :=
        List.filterMap_eq_nil_iff.2 fun x hx => hread.silent x hx hlib t.device
      rw [hread.since.happened, uncaughtOn_append, uncaughtOn_append, hbefore, hsilent,
        List.nil_append, List.append_nil]

/-- A library that opens every device.  When work is submitted to a device, it reports 20 errors on
this device and one on the first device, and the scope of the work holds another error. -/
def busyLibrary : Library Bool where
  adapterError _ := none
  maxDimension _ := 8192
  deviceError _ := none
  scopeError _ submitted := if submitted then some ['l', 'o', 's', 't'] else none
  step q submitted :=
    match q with
    | .openDevice _ _ => ([], false)
    | .submit d =>
      ((List.range 20).map (fun n => ⟨d, [Char.ofNat (48 + d), Char.ofNat (97 + n)]⟩) ++
        [⟨0, ['l', 'a', 't', 'e']⟩], true)
    | _ => ([], submitted)

theorem returnsSilently_busyLibrary : busyLibrary.ReturnsSilently := by
  intro q hq x
  cases q with
  | call c => rfl
  | note e => rfl
  | _ => cases hq

/-- Two logs: 20 messages for the first one, through two of its handles, and one for the other. -/
def sharedPushes : List LogStep :=
  [.create, .clone 0, .create, .clone 1] ++
    (List.range 20).map (fun n => .push (n % 2) [Char.ofNat (97 + n)]) ++ [.push 2 ['z']]

/-- The validation of a shader that draws nothing. -/
def blankValidation : Dialogue (Except ValidationError ValidationReport) :=
  Dialogue.validation faultless .default Session.blankShader .zero

/-- The library behind one validation. -/
def busyScene : Scene Bool := (blankValidation.run busyLibrary.answer (.ofLibrary false)).2

/-- A second validation reports the newest 16 of the 20 errors on its own device. -/
theorem report_of_validation_busyLibrary :
    ((SharedLogs.ofSteps sharedPushes).total 3 = 20 ∧
      (SharedLogs.ofSteps sharedPushes).recent 3 =
        (List.range 16).map fun n => [Char.ofNat (101 + n)]) ∧
      ∃ report s', blankValidation.run busyLibrary.answer busyScene = (.ok report, s') ∧
        report.warnings =
          ['l', 'o', 's', 't'] :: (List.range 16).map (fun n => ['1', Char.ofNat (101 + n)]) ∧
        (uncaughtOn 0 s'.happened).length = 22 ∧ (uncaughtOn 1 s'.happened).length = 20 ∧
        ∃ error : Option (List Char),
          report.warnings = error.toList ++ (uncaughtOn 1 s'.happened).rtake 16 := by
  obtain ⟨hlogs, hreports, -⟩ := report_of_validation busyLibrary false blankValidation faultless
    .default Session.blankShader .zero
  have hpushed : (PushRecord.ofSteps sharedPushes).messages 0 =
      (List.range 20).map fun n => [Char.ofNat (97 + n)] := by decide +kernel
  obtain ⟨htotal, hrecent⟩ := hlogs sharedPushes 3 0 (by decide +kernel)
  rw [hpushed] at htotal hrecent
  refine ⟨⟨htotal, hrecent⟩, ?_⟩
  obtain ⟨hscene, hwarnings, hfirst, hsecond⟩ : busyScene.devices.length = 1 ∧
      (blankValidation.run busyLibrary.answer busyScene).1.toOption.map ValidationReport.warnings =
        some (['l', 'o', 's', 't'] ::
          (List.range 16).map (fun n => ['1', Char.ofNat (101 + n)])) ∧
      (uncaughtOn 0
        (blankValidation.run busyLibrary.answer busyScene).2.happened).length = 22 ∧
      (uncaughtOn 1
        (blankValidation.run busyLibrary.answer busyScene).2.happened).length = 20 := by
    unfold busyScene blankValidation Session.blankShader
    rw [String.toList_ofList]
    decide +kernel
  rcases hrun : blankValidation.run busyLibrary.answer busyScene with ⟨_ | report, s'⟩
  · rw [hrun] at hwarnings
    cases hwarnings
  rw [hrun] at hwarnings hfirst hsecond
  obtain ⟨t, p, error, drawn, returned, -, -, hdevice, -, -, -, hreport, hreturned⟩ :=
    hreports busyScene s' report rfl hrun
  have hone : t.device = 1 := hdevice.trans hscene
  have hall := hreturned returnsSilently_busyLibrary
  rw [hone] at hreport hall
  rw [← hall, hsecond] at hreport
  exact ⟨report, s', rfl, Option.some.inj hwarnings, hfirst, hsecond, error, hreport⟩

end Gpu

end ShaderPreview
