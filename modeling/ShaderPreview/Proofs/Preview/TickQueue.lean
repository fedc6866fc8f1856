import ShaderPreview.Proofs.Preview.Lifecycle

/-!
# The tick queue and its session

A host that serves a session takes the oldest token of the queue and, if there is one, ticks at
once.  In between it asks for operations as it likes.  `Driven` is a session on its host together
with the tokens that were handed out and taken on the way.

`QueueStep` lists all that an operation can do to the pending tick and the queue; an operation never
does two of these at once.  From it follows that the queue holds the pending tick and nothing else
(`Accounted`), so that no token is lost and none is handed out twice.
-/

namespace ShaderPreview

/-! ## Computations that leave the queue alone -/

/-- The computation leaves the tick queue as it is. -/
def KeepsTicks {G α : Type} (m : StateM (Host G) α) : Prop := ∀ h, (m h).2.ticks = h.ticks

namespace KeepsTicks

variable {G α γ : Type}

theorem pure (a : α) : KeepsTicks (Pure.pure a : StateM (Host G) α) := fun _ => rfl

theorem onGraphics (act : StateM G α) : KeepsTicks (Host.onGraphics act) := fun _ => rfl

theorem note [Journal G] (e : Event) : KeepsTicks (Host.note e : StateM (Host G) Unit) :=
  fun _ => rfl

theorem bind {m : StateM (Host G) α} {f : α → StateM (Host G) γ} (hm : KeepsTicks m)
    (hf : ∀ a, KeepsTicks (f a)) : KeepsTicks (m >>= f) :=
  fun h => (hf _ _).trans (hm h)

end KeepsTicks

namespace Session

variable {ρ β G : Type}

section KeepsTicks

variable [Journal G] (s : Session ρ β)

theorem keepsTicks_noteAssembled (remarks : Shader.Remarks) :
    KeepsTicks (noteAssembled remarks : StateM (Host G) Unit) := by
  unfold noteAssembled
  split
  · exact (KeepsTicks.note _).bind fun _ => .note _
  · exact .note _

theorem keepsTicks_setPaused [Seconds ρ] (paused : Bool) (time : ρ) :
    KeepsTicks (setPaused s paused time : StateM (Host G) _) := by
  unfold setPaused
  split
  · exact .pure _
  · dsimp only
    split
    · exact (KeepsTicks.note _).bind fun _ => .pure _
    · exact .pure _

theorem keepsTicks_probeRate (now : Nat) : KeepsTicks (probeRate s now : StateM (Host G) _) := by
  unfold probeRate
  rcases s.probe.record now with ⟨_ | _ | hz, probe⟩
  · exact .pure _
  · exact (KeepsTicks.note _).bind fun _ => .pure _
  · exact (KeepsTicks.note _).bind fun _ => (KeepsTicks.note _).bind fun _ => .pure _

theorem keepsTicks_recordGpu (ms : Float) : KeepsTicks (recordGpu s ms : StateM (Host G) _) := by
  unfold recordGpu
  split
  · exact .pure _
  · exact (KeepsTicks.note _).bind fun _ => .pure _

variable [Renderer G β]

omit [Journal G] in
theorem keepsTicks_releaseRenderer : KeepsTicks (releaseRenderer s : StateM (Host G) _) := by
  unfold releaseRenderer
  rcases s.renderer with _ | r
  · exact .pure _
  · exact (KeepsTicks.onGraphics _).bind fun _ => .pure _

theorem keepsTicks_resize (width height : Nat) :
    KeepsTicks (resize s width height : StateM (Host G) _) := by
  unfold resize
  split
  · exact .pure _
  · rcases s.renderer with _ | r
    · exact .pure _
    · exact (KeepsTicks.onGraphics _).bind fun _ => (KeepsTicks.note _).bind fun _ => .pure _

theorem keepsTicks_applyRequestedSize :
    KeepsTicks (applyRequestedSize s : StateM (Host G) _) := by
  unfold applyRequestedSize
  rcases s.requestedSize with _ | ⟨width, height⟩
  · exact .pure _
  · exact keepsTicks_resize _ width height

theorem keepsTicks_pollTimer (r : β) : KeepsTicks (pollTimer s r : StateM (Host G) _) := by
  unfold pollTimer
  split
  · exact .pure _
  · refine (KeepsTicks.onGraphics _).bind fun (poll, r) => ?_
    cases poll with
    | idle => exact .pure _
    | pending => exact .pure _
    | ready ms => exact (keepsTicks_recordGpu s ms).bind fun _ => .pure _

theorem keepsTicks_beginTick [Seconds ρ] (now : Nat) :
    KeepsTicks (beginTick s now : StateM (Host G) _) := by
  unfold beginTick
  exact (keepsTicks_applyRequestedSize _).bind fun _ =>
    (keepsTicks_probeRate _ now).bind fun _ => .pure _

end KeepsTicks

/-! ## What an operation does to the queue -/

/-- All that an operation can do to the pending tick and to the queue. -/
inductive QueueStep : Option Nat → Ticks → Option Nat → Ticks → Prop where
  | kept (pending : Option Nat) (t : Ticks) : QueueStep pending t pending t
  /-- A tick is asked for where none is pending. -/
  | requested (t : Ticks) : QueueStep none t (some t.request.1) t.request.2
  /-- The pending tick is withdrawn. -/
  | cancelled (token : Nat) (t : Ticks) : QueueStep (some token) t none (t.cancel token)

theorem QueueStep.of_eq {pending pending' : Option Nat} {t t' : Ticks} (hp : pending' = pending)
    (ht : t' = t) : QueueStep pending t pending' t' := by
  rw [hp, ht]
  exact .kept pending t

section Steps

variable {s : Session ρ β} (h : Host G)

theorem queueStep_schedule :
    QueueStep s.pendingTick h.ticks (schedule s h).1.pendingTick (schedule s h).2.ticks := by
  rcases hp : s.pendingTick with _ | token
  · rw [schedule_of_eq_none s h hp]
    exact .requested h.ticks
  · unfold schedule
    rw [if_pos (by rw [hp]; rfl)]
    exact .of_eq hp rfl

theorem queueStep_cancelPending :
    QueueStep s.pendingTick h.ticks none (cancelPending s h).2.ticks := by
  unfold cancelPending
  rcases s.pendingTick with _ | token
  · exact .kept none h.ticks
  · exact .cancelled token h.ticks

theorem queueStep_teardown [Renderer G β] :
    QueueStep s.pendingTick h.ticks none (teardown s h).2.ticks := by
  unfold teardown
  simp only [bind_apply, pure_apply]
  rw [keepsTicks_releaseRenderer]
  exact queueStep_cancelPending h

variable [Journal G]

theorem queueStep_start :
    QueueStep s.pendingTick h.ticks (start s h).1.pendingTick (start s h).2.ticks := by
  unfold start
  split
  · exact .kept _ _
  · simp only [bind_apply]
    exact queueStep_schedule
      (s := { s with phase := if s.clock.paused then .paused else .running })
      (Host.note .previewStarted h).2

theorem queueStep_halt :
    QueueStep s.pendingTick h.ticks (halt s h).1.pendingTick (halt s h).2.ticks := by
  unfold halt
  split
  · exact .kept _ _
  · simp only [bind_apply, pure_apply, cancelPending_fst]
    exact queueStep_cancelPending h

variable [Renderer G β]

theorem queueStep_dispose :
    QueueStep s.pendingTick h.ticks (dispose s h).1.pendingTick (dispose s h).2.ticks := by
  by_cases hd : s.phase = .disposed
  · rw [dispose_of_disposed s hd]
    exact .kept _ _
  · rw [dispose_of_ne_disposed s h hd]
    unfold dispose
    rw [if_neg hd]
    exact queueStep_teardown h

variable [Seconds ρ]

theorem queueStep_load (source : List Char) (width height : Nat)
    (connect : Shader.Assembly → Nat → Nat → StateM G (Except ConnectError β)) :
    QueueStep s.pendingTick h.ticks (load s source width height connect h).1.2.pendingTick
      (load s source width height connect h).2.ticks := by
  by_cases hd : s.phase = .disposed
  · rw [load_of_disposed s source width height connect hd]
    exact .kept _ _
  · have hnone : (load s source width height connect h).1.2.pendingTick = none := by
      rcases load_frame s h source width height connect hd with ⟨a, r, hl⟩ | ⟨e, hl⟩ <;> rw [hl] <;>
        rfl
    have hticks : (load s source width height connect h).2.ticks = (teardown s h).2.ticks := by
      unfold load
      rw [if_neg hd]
      simp only [bind_apply]
      rcases Shader.Assembly.read source with e | ⟨a, remarks⟩
      · rfl
      · have hn := keepsTicks_noteAssembled remarks (teardown s h).2
        simp only [bind_apply, Host.onGraphics_apply]
        rcases (connect a (max width 1) (max height 1) _).1 with e | r <;> exact hn
    rw [hnone, hticks]
    exact queueStep_teardown h

omit [Seconds ρ] in
/-- What follows a draw asks for the next tick, unless the draw failed. -/
theorem queueStep_afterDraw (now : Nat) (outcome : DrawOutcome) (hp : s.pendingTick = none) :
    QueueStep none h.ticks (afterDraw s now outcome h).1.pendingTick
      (afterDraw s now outcome h).2.ticks := by
  cases outcome with
  | presented =>
    simp only [afterDraw, bind_apply]
    rw [finishTick_of_eq_none _ _ now (by exact hp), publishIfDue_ticks]
    exact .requested h.ticks
  | skipped =>
    simp only [afterDraw, bind_apply]
    rw [finishTick_of_eq_none _ _ now (by exact hp)]
    exact .requested h.ticks
  | failed reason =>
    have hd := queueStep_dispose (s := s) (Host.note .drawFailed h).2
    rw [hp] at hd
    exact hd

omit [Seconds ρ] in
theorem queueStep_drawFrame (now : Nat) (r : β) (hp : s.pendingTick = none) :
    QueueStep none h.ticks (drawFrame s now r h).1.pendingTick
      (drawFrame s now r h).2.ticks := by
  have hpending : (pollTimer s r h).1.2.2.pendingTick = none :=
    (sameStanding_pollTimer h r).pendingTick.trans hp
  rw [← keepsTicks_pollTimer s r h]
  unfold drawFrame
  simp only [bind_apply, Host.onGraphics_apply]
  generalize pollTimer s r h = polled at hpending
  obtain ⟨⟨timed, r', t⟩, h'⟩ := polled
  generalize Renderer.draw r' timed h'.graphics = drawn
  exact queueStep_afterDraw (s := { t with renderer := some drawn.1.2 })
    { h' with graphics := drawn.2 } now drawn.1.1 hpending

/-- A tick forgets the token that led to it; what it does then is one step. -/
theorem queueStep_runTick (now : Nat) (today : Date) :
    QueueStep none h.ticks (runTick s now today h).1.pendingTick
      (runTick s now today h).2.ticks := by
  have hpending : (beginTick s now h).1.2.2.pendingTick = none :=
    (sameStanding_beginTick h now).pendingTick
  have hticks := keepsTicks_beginTick s now h
  rcases hb : beginTick s now h with ⟨⟨elapsed, delta, t⟩, h'⟩
  rw [hb] at hpending hticks
  rw [← hticks]
  rcases hu : t.used with _ | used
  · unfold runTick
    simp only [bind_apply, hb, hu]
    exact .of_eq hpending rfl
  · rcases hr : t.renderer with _ | r
    · unfold runTick
      simp only [bind_apply, hb, hu, hr]
      exact .of_eq hpending rfl
    · rw [runTick_of_eq_some s h now today hb hu hr]
      dsimp only
      generalize t.block.writeFrame used (t.frameInputs elapsed delta today) = block
      generalize Renderer.writeUniforms r block h'.graphics = written
      exact queueStep_drawFrame (s := { t with block }) { h' with graphics := written.2 } now
        written.1 hpending

end Steps

end Session

namespace Operation

variable {ρ β G : Type}

/-- The operation is a tick. -/
def isTick : Operation ρ β G → Bool
  | tick .. => true
  | _ => false

end Operation

namespace Session

variable {ρ β G : Type} [Seconds ρ] [Renderer G β] [Journal G]

theorem queueStep_operate {s : Session ρ β} (h : Host G) {op : Operation ρ β G}
    (hop : op.isTick = false) :
    QueueStep s.pendingTick h.ticks (operate s op h).1.pendingTick (operate s op h).2.ticks := by
  cases op with
  | load source width height connect => exact queueStep_load h source width height connect
  | start => exact queueStep_start h
  | setPaused paused time =>
    refine .of_eq ?_ (keepsTicks_setPaused s paused time h)
    by_cases hd : s.phase = .disposed
    · simp only [operate]
      rw [setPaused_of_disposed s paused time hd]
      rfl
    · simp only [operate]
      rw [setPaused_fst s h paused time hd]
  | halt => exact queueStep_halt h
  | resize width height =>
    exact .of_eq (sameStanding_resize h width height).pendingTick
      (keepsTicks_resize s width height h)
  | requestSize width height => exact .kept _ _
  | pointerMoved x y => exact .of_eq (sameStanding_pointerMoved x y).pendingTick rfl
  | pointerPressed x y => exact .of_eq (sameStanding_pointerPressed x y).pendingTick rfl
  | tick now today => cases hop
  | dispose => exact queueStep_dispose h

end Session

/-! ## Accounts -/

/-- The queue holds the pending tick and nothing else, no token was handed out twice, and each is
taken, cancelled or pending. -/
structure Accounted (pending : Option Nat) (t : Ticks) (issued taken : List Nat) : Prop where
  pending_eq : t.pending = pending.toList
  mem_issued : ∀ token ∈ t.pending, token ∈ issued
  le_issued : ∀ token ∈ issued, token ≤ t.issued
  nodup : issued.Nodup
  length_issued : issued.length = t.issued
  balance : t.issued = taken.length + t.cancelled + t.pending.length

namespace Ticks

/-- The tokens of a queue that an earlier state of the queue did not hold. -/
def newSince (earlier t : Ticks) : List Nat :=
  t.pending.filter fun token => token ∉ earlier.pending

end Ticks

namespace Accounted

variable {pending pending' : Option Nat} {t t' : Ticks} {issued taken : List Nat} {token : Nat}

theorem empty : Accounted none .empty [] [] :=
  ⟨rfl, by simp [Ticks.empty], by simp, .nil, rfl, rfl⟩

/-- Asking for a tick hands out a token that was never handed out. -/
theorem request (h : Accounted none t issued taken) :
    Accounted (some t.request.1) t.request.2 (issued ++ [t.request.1]) taken := by
  have hp : t.pending = [] := h.pending_eq
  have hnew : t.issued + 1 ∉ issued := fun hm => Nat.not_succ_le_self _ (h.le_issued _ hm)
  have hb := h.balance
  refine ⟨?_, ?_, ?_, ?_, ?_, ?_⟩
  · simp [Ticks.request, hp]
  · simp [Ticks.request, hp]
  · simp only [Ticks.request, List.mem_append, List.mem_singleton]
    rintro token (hm | rfl)
    · exact Nat.le_succ_of_le (h.le_issued token hm)
    · exact Nat.le_refl _
  · refine List.nodup_append.2 ⟨h.nodup, List.pairwise_singleton _ _, ?_⟩
    rintro token hm _ hr rfl
    obtain rfl := List.mem_singleton.1 hr
    exact hnew hm
  · simp [Ticks.request, h.length_issued]
  · simp only [Ticks.request, List.length_append, List.length_singleton]
    omega

theorem cancel (h : Accounted (some token) t issued taken) :
    Accounted none (t.cancel token) issued taken := by
  have hp : t.pending = [token] := h.pending_eq
  have hb := h.balance
  rw [Ticks.cancel, if_pos (by simp [hp])]
  refine ⟨by simp [hp], by simp [hp], h.le_issued, h.nodup, h.length_issued, ?_⟩
  simp only [hp, List.erase_cons_head, List.length_singleton, List.length_nil] at hb ⊢
  omega

/-- The token that the host takes is the pending one. -/
theorem take (h : Accounted (some token) t issued taken) :
    t.take.1 = some token ∧ Accounted none t.take.2 issued (taken ++ [token]) := by
  have hp : t.pending = [token] := h.pending_eq
  have hb := h.balance
  refine ⟨by simp [Ticks.take, hp], ⟨by simp [Ticks.take, hp], by simp [Ticks.take, hp], h.le_issued,
    h.nodup, h.length_issued, ?_⟩⟩
  simp only [Ticks.take, hp, List.tail_cons, List.length_append, List.length_singleton,
    List.length_nil] at hb ⊢
  omega

theorem take_eq_none (h : Accounted none t issued taken) : t.take = (none, t) := by
  have hp : t.pending = [] := h.pending_eq
  unfold Ticks.take
  rw [hp]
  exact congrArg (fun tokens => (none, { t with pending := tokens })) hp.symm

theorem step (h : Accounted pending t issued taken)
    (hs : Session.QueueStep pending t pending' t') :
    Accounted pending' t' (issued ++ t.newSince t') taken := by
  cases hs with
  | kept =>
    have hnew : t.newSince t = [] := by simp [Ticks.newSince]
    rw [hnew, List.append_nil]
    exact h
  | requested =>
    have hnew : t.newSince t.request.2 = [t.request.1] := by
      have hp : t.pending = [] := h.pending_eq
      simp [Ticks.newSince, Ticks.request, hp]
    rw [hnew]
    exact h.request
  | cancelled token =>
    have hnew : t.newSince (t.cancel token) = [] := by
      have hp : t.pending = [token] := h.pending_eq
      simp [Ticks.newSince, Ticks.cancel, hp]
    rw [hnew, List.append_nil]
    exact h.cancel

end Accounted

/-! ## Served sessions -/

/-- What a host does with a session: it asks for an operation, or it serves the queue. -/
inductive HostAct (ρ β G : Type) where
  | ask (op : Operation ρ β G)
  /-- Takes the oldest token and, if there is one, ticks at once. -/
  | serve (now : Nat) (today : Date)

/-- The host ticks only with a token that it took. -/
def HostAct.TicksWithToken {ρ β G : Type} : HostAct ρ β G → Prop
  | ask op => op.isTick = false
  | serve .. => True

/-- A session on its host, with the tokens that the queue handed out and those that the host took,
oldest first. -/
structure Driven (ρ β G : Type) where
  session : Session ρ β
  host : Host G
  issued : List Nat
  taken : List Nat

namespace Driven

variable {ρ β G : Type}

/-- A session on a host whose queue is new. -/
def onNewQueue (s : Session ρ β) (graphics : G) (published : List Snapshot) : Driven ρ β G :=
  ⟨s, ⟨graphics, .empty, published⟩, [], []⟩

/-- The session and the host are followed by others; the tokens that the queue did not hold before
are those handed out. -/
def followedBy (d : Driven ρ β G) (next : Session ρ β × Host G) : Driven ρ β G :=
  { d with
    session := next.1
    host := next.2
    issued := d.issued ++ d.host.ticks.newSince next.2.ticks }

variable [Seconds ρ] [Renderer G β] [Journal G]

/-- Carries out an act of the host. -/
def act (d : Driven ρ β G) : HostAct ρ β G → Driven ρ β G
  | .ask op => d.followedBy (d.session.operate op d.host)
  | .serve now today =>
    match Host.takeTick d.host with
    | (none, h) => { d with host := h }
    | (some token, h) =>
      { d with host := h, taken := d.taken ++ [token] }.followedBy (d.session.tick now today h)

/-- Carries out acts of the host in order. -/
def drive (d : Driven ρ β G) (acts : List (HostAct ρ β G)) : Driven ρ β G := acts.foldl act d

/-- The session is coherent and its queue accounted for. -/
structure Sound (d : Driven ρ β G) : Prop where
  coherent : d.session.Coherent
  accounted : Accounted d.session.pendingTick d.host.ticks d.issued d.taken

namespace Sound

variable {d : Driven ρ β G}

omit [Seconds ρ] [Renderer G β] [Journal G] in
theorem takeTick_eq_none (hd : Sound d) (hp : d.session.pendingTick = none) :
    Host.takeTick d.host = (none, d.host) := by
  have ht := (hp ▸ hd.accounted).take_eq_none
  unfold Host.takeTick
  rw [ht]

omit [Seconds ρ] [Renderer G β] [Journal G] in
theorem takeTick_eq_some (hd : Sound d) {token : Nat} (hp : d.session.pendingTick = some token) :
    Host.takeTick d.host = (some token, { d.host with ticks := d.host.ticks.take.2 }) := by
  have ht := (hp ▸ hd.accounted).take.1
  unfold Host.takeTick
  rw [← ht]

/-- A host that serves a session for which a tick is pending makes it run that tick. -/
theorem act_serve (hd : Sound d) {token : Nat} (hp : d.session.pendingTick = some token) (now : Nat)
    (today : Date) :
    d.act (.serve now today) =
      { d with
        host := { d.host with ticks := d.host.ticks.take.2 }, taken := d.taken ++ [token] }.followedBy
        (d.session.runTick now today { d.host with ticks := d.host.ticks.take.2 }) := by
  have hpending : d.session.pendingTick.isSome := by rw [hp]; rfl
  simp only [act]
  rw [hd.takeTick_eq_some hp]
  simp only
  rw [Session.tick_eq_runTick _ now today (hd.coherent.pendingTick_iff_isTicking.1 hpending)
    hpending]

theorem act_of_ticksWithToken (hd : Sound d) {a : HostAct ρ β G} (ha : a.TicksWithToken) :
    Sound (d.act a) := by
  cases a with
  | ask op =>
    exact ⟨Session.coherent_operate d.host op hd.coherent,
      hd.accounted.step (Session.queueStep_operate d.host ha)⟩
  | serve now today =>
    rcases hp : d.session.pendingTick with _ | token
    · simp only [act]
      rw [hd.takeTick_eq_none hp]
      exact hd
    · have hpending : d.session.pendingTick.isSome := by rw [hp]; rfl
      have hticking := hd.coherent.pendingTick_iff_isTicking.1 hpending
      have hcoherent := Session.coherent_tick { d.host with ticks := d.host.ticks.take.2 } now today
        hd.coherent
      rw [Session.tick_eq_runTick _ now today hticking hpending] at hcoherent
      have hstep := Session.queueStep_runTick (s := d.session)
        { d.host with ticks := d.host.ticks.take.2 } now today
      rw [hd.act_serve hp]
      exact ⟨hcoherent, (hp ▸ hd.accounted).take.2.step hstep⟩

theorem drive {acts : List (HostAct ρ β G)} (hd : Sound d)
    (ha : ∀ a ∈ acts, a.TicksWithToken) : Sound (d.drive acts) := by
  induction acts generalizing d with
  | nil => exact hd
  | cons a acts ih =>
    exact ih (hd.act_of_ticksWithToken (ha a List.mem_cons_self))
      fun a' hm => ha a' (List.mem_cons_of_mem _ hm)

end Sound

omit [Renderer G β] [Journal G] in
theorem sound_onNewQueue {options : PreviewOptions} {s : Session ρ β}
    (hs : Session.create? options = some s) (graphics : G) (published : List Snapshot) :
    Sound (onNewQueue s graphics published) := by
  obtain ⟨-, -, -, hp⟩ := Session.create?_frame hs
  refine ⟨Session.coherent_of_create? hs, ?_⟩
  have he : (onNewQueue s graphics published).session.pendingTick = none := hp
  rw [he]
  exact .empty

/-- However a session with a queue of its own is driven, as long as the host ticks only with a token
that it took: while ticks go on the queue holds the pending tick and nothing else, at all other
times it is empty, no token is handed out twice, and as many are handed out as are taken,
cancelled and pending. -/
theorem tokens_accounted {options : PreviewOptions} {s : Session ρ β}
    (hs : Session.create? options = some s) (graphics : G) (published : List Snapshot)
    (acts : List (HostAct ρ β G)) (ha : ∀ a ∈ acts, a.TicksWithToken) (d : Driven ρ β G)
    (hd : (onNewQueue s graphics published).drive acts = d) :
    (d.session.phase = .running ∨ d.session.phase = .paused →
      ∃ token, d.session.pendingTick = some token ∧ d.host.ticks.pending = [token]) ∧
    (¬ (d.session.phase = .running ∨ d.session.phase = .paused) → d.host.ticks.pending = []) ∧
    d.issued.Nodup ∧ d.issued.length = d.host.ticks.issued ∧
    d.host.ticks.issued =
      d.taken.length + d.host.ticks.cancelled + d.host.ticks.pending.length := by
  have hsound : Sound d := hd ▸ (sound_onNewQueue hs graphics published).drive ha
  have hiff : d.session.pendingTick.isSome ↔
      d.session.phase = .running ∨ d.session.phase = .paused := by
    rw [hsound.coherent.pendingTick_iff_isTicking]
    simp [Phase.isTicking]
  obtain ⟨hpending, -, -, hnodup, hlength, hbalance⟩ := hsound.accounted
  refine ⟨fun ht => ?_, fun ht => ?_, hnodup, hlength, hbalance⟩
  · obtain ⟨token, hp⟩ := Option.isSome_iff_exists.1 (hiff.2 ht)
    exact ⟨token, hp, by rw [hpending, hp]; rfl⟩
  · rw [hpending, Option.not_isSome_iff_eq_none.1 fun hp => ht (hiff.1 hp)]
    rfl

/-- A shader is loaded and started, ticks, is halted, started again and loaded once more, ticks to
a draw that fails, and is served once more. -/
def servedPreview : List (HostAct Float ScriptedRenderer Recording) :=
  [.ask (.load Session.blankShader 320 240
      (ScriptedRenderer.connect (.ok Session.steadyRenderer))),
    .ask .start, .serve 0 .zero, .serve 16000000 .zero, .ask .halt, .ask .start,
    .ask (.setPaused true 0.5), .serve 32000000 .zero,
    .ask (.load Session.blankShader 320 240
      (ScriptedRenderer.connect (.ok ⟨0, none, [.presented, .failed "lost"], 0⟩))),
    .serve 48000000 .zero, .ask .start, .serve 64000000 .zero, .serve 80000000 .zero,
    .serve 96000000 .zero]

theorem tokens_accounted_servedPreview :
    (∀ a ∈ servedPreview, a.TicksWithToken) ∧
      ∃ d : Driven Float ScriptedRenderer Recording,
        (onNewQueue Session.freshSession Recording.empty []).drive servedPreview = d ∧
        d.session.phase = .disposed ∧ d.host.ticks.pending = [] ∧ d.issued.Nodup ∧
        d.issued.length = 7 ∧ d.taken = [1, 2, 4, 6, 7] ∧ d.host.ticks.cancelled = 2 := by
  have ha : ∀ a ∈ servedPreview, a.TicksWithToken := by
    simp [servedPreview, HostAct.TicksWithToken, Operation.isTick]
  have hrun : ∀ d, (onNewQueue Session.freshSession Recording.empty []).drive servedPreview = d →
      d.session.phase = .disposed ∧ d.taken = [1, 2, 4, 6, 7] ∧ d.host.ticks.issued = 7 ∧
        d.host.ticks.cancelled = 2 := by
    rintro d rfl
    decide +kernel
  refine ⟨ha, ?_⟩
  -- from here on the run is not to be evaluated
  generalize hd : (onNewQueue Session.freshSession Recording.empty []).drive servedPreview = d
    at hrun
  obtain ⟨hphase, htaken, hissued, hcancelled⟩ := hrun d rfl
  obtain ⟨-, hidle, hnodup, hlength, -⟩ := tokens_accounted Session.create?_default
    Recording.empty [] servedPreview ha d hd
  refine ⟨d, rfl, hphase, hidle (by simp [hphase]), hnodup, ?_, htaken, hcancelled⟩
  rw [hlength, hissued]

end Driven

end ShaderPreview
