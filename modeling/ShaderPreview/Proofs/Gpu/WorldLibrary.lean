import ShaderPreview.Proofs.Gpu.Library

/-!
# A graphics world as a library

A graphics world answers as its script says, and each error of the script that no error scope takes
goes to the log of its device.  So it is one of the libraries: with the scene around it every
dialogue goes as it does with the world itself (`Dialogue.run_worldLibrary`), and so does the
validation of a source (`validateWith_eq_run`).
-/

namespace ShaderPreview

namespace Gpu

variable {α : Type}

namespace World

/-- An error that is raised on a device, unless an error scope takes it. -/
def untaken (w : World) (d : DeviceId) (error : Option (List Char)) : List DeviceError :=
  if w.scopesOf d = some [] then (error.map (DeviceError.mk d)).toList else []

/-- The error that the script has ready for a query, unless an error scope takes it. -/
def uncaught (w : World) : Query → List DeviceError
  | .createModule d m _ => w.untaken d (w.script.moduleErrors m.stage).head?.join
  | .createPipeline d _ => w.untaken d w.script.pipelineErrors.head?.join
  | .writeBuffer d _ _ => w.untaken d w.script.writeErrors.head?.join
  | .submit d => w.untaken d w.script.submitErrors.head?.join
  | _ => []

end World

/-- The library that answers as a script says. -/
def worldLibrary : Library World where
  adapterError w := w.script.adapterError
  maxDimension w := w.script.maxDimension
  deviceError w := w.script.deviceError
  scopeError d w := (w.devices[d]?.bind fun v => v.scopes.head?).bind id
  step q w := (w.uncaught q, (q.onWorld w).2)

namespace World

variable {w : World}

/-- The messages that a device pushes into its log go to no other log. -/
theorem warnings_modify (w : World) (d d' : DeviceId) {f : Device → Device} {ms : List (List Char)}
    (hf : ∀ v, w.devices[d]? = some v → (f v).warnings = ms.foldl Warnings.push v.warnings)
    (hms : w.devices[d]? = none → ms = []) :
    ({ w with devices := w.devices.modify d f } : World).warnings d' =
      (if d = d' then ms else []).foldl Warnings.push (w.warnings d') := by
  unfold warnings
  by_cases hd : d = d'
  · subst hd
    rw [List.getElem?_modify_eq, if_pos rfl]
    rcases hv : w.devices[d]? with _ | v
    · rw [hms hv]
      rfl
    · exact hf v hv
  · rw [List.getElem?_modify_ne _ _ hd, if_neg hd]
    rfl

theorem uncaughtOn_untaken (w : World) (d d' : DeviceId) (error : Option (List Char)) :
    uncaughtOn d' ((w.untaken d error).map .uncaught) =
      if d = d' then (w.untaken d error).map DeviceError.message else [] := by
  unfold untaken
  rcases error with _ | message
  · simp [uncaughtOn]
  · split
    · by_cases hd : d = d' <;> simp [hd, uncaughtOn, Happening.messageOn?]
    · simp [uncaughtOn]

/-- All that an error does which is raised, or not: it changes the device alone, whose log it goes
to unless a scope takes it. -/
theorem raiseIf_frame (w : World) (d : DeviceId) (error : Option (Option (List Char))) :
    ∃ f log, (raiseIf d error w).2 = { w with log, devices := w.devices.modify d f } ∧
      (∀ v, w.devices[d]? = some v → (f v).warnings =
        ((w.untaken d error.join).map DeviceError.message).foldl Warnings.push v.warnings) ∧
      (w.devices[d]? = none → w.untaken d error.join = []) := by
  rcases error with _ | _ | message
  · exact ⟨id, w.log, by rw [List.modify_id]; rfl, by simp [untaken], by simp [untaken]⟩
  · exact ⟨id, w.log, by rw [List.modify_id]; rfl, by simp [untaken], by simp [untaken]⟩
  have hget : (get : StateM World World) w = (w, w) := rfl
  show ∃ f log, (raiseError d message w).2 = _ ∧ _
  unfold raiseError
  rcases hv : w.devices[d]? with _ | ⟨_ | ⟨scope, scopes⟩, warnings⟩
  · have hd : w.scopesOf d = none := by rw [scopesOf, hv]; rfl
    simp only [bind_apply, hget, hv, Option.map_none]
    exact ⟨id, w.log, by rw [List.modify_id]; rfl, fun v h => absurd h (Option.some_ne_none v).symm,
      fun _ => by simp [untaken, hd]⟩
  · have hd : w.scopesOf d = some [] := by rw [scopesOf, hv]; rfl
    simp only [bind_apply, hget, hv, Option.map_some]
    exact ⟨_, _, rfl, by simp [untaken, hd], fun h => absurd h (Option.some_ne_none _)⟩
  · have hd : w.scopesOf d = some (scope :: scopes) := by rw [scopesOf, hv]; rfl
    simp only [bind_apply, hget, hv, Option.map_some]
    exact ⟨_, _, rfl, by simp [untaken, hd], fun h => absurd h (Option.some_ne_none _)⟩

/-- Raising an error creates nothing and opens no device. -/
theorem lengths_raiseIf (w : World) (d : DeviceId) (error : Option (Option (List Char))) :
    (raiseIf d error w).2.resources = w.resources ∧
      (raiseIf d error w).2.devices.length = w.devices.length := by
  obtain ⟨f, log, hw, -⟩ := raiseIf_frame w d error
  rw [hw]
  exact ⟨rfl, List.length_modify _ _ _⟩

/-- An error that is raised and not taken by a scope is pushed into the log of its device. -/
theorem warnings_raiseIf (w : World) (d d' : DeviceId) (error : Option (Option (List Char))) :
    (raiseIf d error w).2.warnings d' =
      (uncaughtOn d' ((w.untaken d error.join).map .uncaught)).foldl Warnings.push
        (w.warnings d') := by
  obtain ⟨f, log, hw, hf, hnone⟩ := raiseIf_frame w d error
  rw [hw, uncaughtOn_untaken]
  exact warnings_modify w d d' hf fun h => by rw [hnone h]; rfl

theorem openDevice_onWorld (w : World) (label : String) (timestamps : Bool) :
    openDevice label timestamps w =
      let w' := (call (.requestDevice label timestamps w.script.maxDimension) w).2
      match w.script.deviceError with
      | some e => (.error e, w')
      | none => (.ok w.devices.length, { w' with devices := w.devices ++ [⟨[], .empty⟩] }) := by
  rcases w with ⟨⟨_, _, _ | e⟩⟩ <;> rfl

/-- What a query leaves in the logs of the devices. -/
theorem warnings_onWorld (w : World) (q : Query) (d : DeviceId) :
    (q.onWorld w).2.warnings d =
      (uncaughtOn d ((w.uncaught q).map .uncaught)).foldl Warnings.push (w.warnings d) := by
  cases q with
  | createModule d' m program =>
    obtain ⟨label, stage, entry⟩ := m
    cases stage with
    | vertex => exact warnings_raiseIf _ _ _ _
    | fragment => exact warnings_raiseIf _ _ _ _
  | createPipeline | writeBuffer | submit => exact warnings_raiseIf _ _ _ _
  | openDevice label timestamps =>
    show (Gpu.openDevice label timestamps w).2.warnings d = w.warnings d
    rw [openDevice_onWorld]
    rcases w.script.deviceError with _ | reason
    · -- the log of a device that is not open is empty, and so is that of a new device
      show ((w.devices ++ [⟨[], .empty⟩])[d]?.map Device.warnings).getD .empty = w.warnings d
      rw [warnings, List.getElem?_append]
      split
      · rfl
      · rename_i hle
        rw [List.getElem?_eq_none (Nat.not_lt.1 hle)]
        rcases d - w.devices.length with _ | n <;> rfl
    · rfl
  | pushScope d' | popScope d' =>
    exact (warnings_modify w d' d (fun v _ => rfl) fun _ => rfl).trans (by rw [ite_self]; rfl)
  | _ => rfl

end World

/-! ## The scene around a world -/

/-- The scene around a graphics world shows what the world has: as many devices and resources, and
the same logs. -/
structure Mirrors (s : Scene World) (w : World) : Prop where
  sound : s.Sound
  library : s.library = w
  resources : s.resources = w.resources
  devices : s.devices.length = w.devices.length
  warnings : ∀ d, w.warnings d = .ofMessages (uncaughtOn d s.happened)

namespace Mirrors

variable {s : Scene World} {w : World}

theorem ofLibrary (σ : Script) : Mirrors (.ofLibrary (.ofScript σ)) (.ofScript σ) :=
  ⟨.ofLibrary _, rfl, rfl, rfl, fun _ => rfl⟩

theorem recent_eq (h : Mirrors s w) (d : DeviceId) : s.recent d = (w.warnings d).recent := by
  rw [h.sound.recent_eq, h.warnings, Warnings.recent_ofMessages]

/-- An uncaught error is one on a device that is open. -/
theorem filter_uncaught (h : Mirrors s w) (q : Query) :
    (w.uncaught q).filter (·.device < s.devices.length) = w.uncaught q := by
  have huntaken : ∀ d error, ∀ e ∈ w.untaken d error, e.device < s.devices.length := by
    intro d error e he
    unfold World.untaken at he
    split at he
    · rename_i hopen
      obtain ⟨v, hv, -⟩ := Option.map_eq_some_iff.1 hopen
      obtain ⟨message, -, rfl⟩ := Option.map_eq_some_iff.1 (Option.mem_toList.1 he)
      rw [h.devices]
      exact (List.getElem?_eq_some_iff.1 hv).1
    · cases he
  rw [List.filter_eq_self]
  intro e he
  refine decide_eq_true ?_
  cases q with
  | createModule | createPipeline | writeBuffer | submit => exact huntaken _ _ e he
  | _ => cases he

/-- What a query does to a world is done to the scene around it. -/
theorem perform (h : Mirrors s w) (q : Query) {x : Happening} (hx : ∀ d, x.messageOn? d = none)
    (n : Nat) :
    let s' := (worldLibrary.perform q x { s with resources := n }).2
    s'.Sound ∧ s'.library = (q.onWorld w).2 ∧ s'.resources = n ∧ s'.devices = s.devices ∧
      ∀ d, (q.onWorld w).2.warnings d = .ofMessages (uncaughtOn d s'.happened) := by
  have hsound : ({ s with resources := n } : Scene World).Sound :=
    h.sound.of_eq rfl rfl fun d => rfl
  have hfilter := h.filter_uncaught q
  obtain ⟨logs, hs'⟩ := worldLibrary.perform_frame q x { s with resources := n }
  refine ⟨hsound.perform worldLibrary q hx, ?_⟩
  rw [hs']
  refine ⟨congrArg (fun v => (q.onWorld v).2) h.library, rfl, rfl, fun d => ?_⟩
  show _ = Warnings.ofMessages (uncaughtOn d (s.happened ++ x ::
    ((s.library.uncaught q).filter (·.device < s.devices.length)).map .uncaught))
  rw [h.library, hfilter, World.warnings_onWorld, h.warnings]
  simp [uncaughtOn, Warnings.ofMessages, hx d]

theorem perform_eq (h : Mirrors s w) (q : Query) {x : Happening}
    (hx : ∀ d, x.messageOn? d = none) (n : Nat) (hn : (q.onWorld w).2.resources = n)
    (hd : (q.onWorld w).2.devices.length = w.devices.length) :
    Mirrors (worldLibrary.perform q x { s with resources := n }).2 (q.onWorld w).2 := by
  obtain ⟨hsound, hlibrary, hresources, hdevices, hwarnings⟩ := h.perform q hx n
  exact ⟨hsound, hlibrary, hresources.trans hn.symm, by rw [hdevices, h.devices, hd], hwarnings⟩

/-- A query at which the script may raise an error. -/
theorem perform_raiseIf (h : Mirrors s w) (q : Query) {x : Happening}
    (hx : ∀ d, x.messageOn? d = none) {w' : World} {d : DeviceId}
    {error : Option (Option (List Char))} (hr : (q.onWorld w).2 = (raiseIf d error w').2)
    (hn : w'.resources = w.resources) (hd : w'.devices = w.devices) :
    Mirrors (worldLibrary.perform q x s).2 (q.onWorld w).2 := by
  obtain ⟨hresources, hdevices⟩ := World.lengths_raiseIf w' d error
  refine h.perform_eq q hx s.resources ?_ ?_
  · rw [hr, hresources, hn, h.resources]
  · rw [hr, hdevices, hd]

/-- The scene around a world and the world itself give the same answers. -/
theorem answer (q : Query) (s : Scene World) (w : World) (h : Mirrors s w) :
    (worldLibrary.answer q s).1 = (q.onWorld w).1 ∧
      Mirrors (worldLibrary.answer q s).2 (q.onWorld w).2 := by
  have hn := h.resources.symm
  cases q with
  | adapterError => exact ⟨congrArg (fun v => v.script.adapterError) h.library, h⟩
  | recent d => exact ⟨h.recent_eq d, h⟩
  | openDevice label timestamps =>
    obtain ⟨hsound, hlibrary, hresources, hdevices, hwarnings⟩ :=
      h.perform (.openDevice label timestamps) (x := .called
        (.requestDevice label timestamps (worldLibrary.maxDimension s.library))) (fun _ => rfl)
        s.resources
    have hopen : (Query.openDevice label timestamps).onWorld w = _ :=
      World.openDevice_onWorld w label timestamps
    have herror : worldLibrary.deviceError s.library = w.script.deviceError :=
      congrArg (fun v => v.script.deviceError) h.library
    rw [Library.answer_openDevice, herror]
    rw [hopen] at hlibrary hwarnings ⊢
    generalize w.script.deviceError = refused at hlibrary hwarnings ⊢
    rcases refused with _ | reason
    · refine ⟨congrArg Except.ok h.devices, hsound.openDevice, hlibrary, ?_, ?_, hwarnings⟩
      · exact hresources.trans h.resources
      · show (_ ++ [_]).length = (w.devices ++ [_]).length
        rw [hdevices, List.length_append, List.length_append, h.devices]
        rfl
    · exact ⟨rfl, hsound, hlibrary, hresources.trans h.resources, hdevices ▸ h.devices, hwarnings⟩
  | createBuffer label size usage =>
    refine ⟨congrArg (Buffer.mk · label) h.resources, ?_⟩
    exact h.perform_eq _ (fun _ => rfl) (s.resources + 1) (congrArg (· + 1) hn) rfl
  | createTexture label width height format =>
    refine ⟨congrArg (Texture.mk · label) h.resources, ?_⟩
    exact h.perform_eq _ (fun _ => rfl) (s.resources + 1) (congrArg (· + 1) hn) rfl
  | pushScope d =>
    exact ⟨rfl, h.perform_eq _ (fun _ => rfl) s.resources hn (List.length_modify _ _ _)⟩
  | popScope d =>
    refine ⟨congrArg (worldLibrary.scopeError d) h.library, ?_⟩
    exact h.perform_eq _ (fun _ => rfl) s.resources hn (List.length_modify _ _ _)
  | createModule d m program =>
    obtain ⟨label, stage, entry⟩ := m
    cases stage <;> exact ⟨rfl, h.perform_raiseIf _ (fun _ => rfl) rfl rfl rfl⟩
  | createPipeline d p => exact ⟨rfl, h.perform_raiseIf _ (fun _ => rfl) rfl rfl rfl⟩
  | writeBuffer d b block => exact ⟨rfl, h.perform_raiseIf _ (fun _ => rfl) rfl rfl rfl⟩
  | submit d => exact ⟨rfl, h.perform_raiseIf _ (fun _ => rfl) rfl rfl rfl⟩
  | _ => exact ⟨rfl, h.perform_eq _ (fun _ => rfl) s.resources hn rfl⟩

end Mirrors

/-- A dialogue with a graphics world is one with a library. -/
theorem Dialogue.run_worldLibrary (p : Dialogue α) {s : Scene World} {w : World}
    (h : Mirrors s w) :
    (p.run worldLibrary.answer s).1 = (p.run Query.onWorld w).1 ∧
      Mirrors (p.run worldLibrary.answer s).2 (p.run Query.onWorld w).2 :=
  p.run_simulation Mirrors.answer h

/-- A validation in a graphics world, behind any dialogue with it, is one with a library. -/
theorem validateWith_eq_run (σ : Script) (past : Dialogue α) (check : StageCheck)
    (options : GpuOptions) (source : List Char) (today : Date) :
    (validateWith check options source today (past.run Query.onWorld (.ofScript σ)).2).1 =
      ((Dialogue.validation check options source today).run worldLibrary.answer
        (past.run worldLibrary.answer (.ofLibrary (.ofScript σ))).2).1 := by
  obtain ⟨-, hpast⟩ := past.run_worldLibrary (Mirrors.ofLibrary σ)
  rw [← Dialogue.run_validation_onWorld]
  exact ((Dialogue.validation check options source today).run_worldLibrary hpast).1.symm

end Gpu

end ShaderPreview
