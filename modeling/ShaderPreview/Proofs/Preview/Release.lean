import Mathlib.Data.List.Induction
import ShaderPreview.Proofs.Preview.Keeping
import ShaderPreview.Proofs.Preview.TickCalls

/-!
# Renderers are released

In a `Tidy` log renderers live one after another: each is connected while there is no other, called
while it lives, and released at most once.  Every operation keeps the log tidy, with the renderer
of the session as the one that lives; a session that has ended has none, so by then each renderer
was released.
-/

namespace ShaderPreview

variable {β : Type}

/-- The call is a release. -/
def RendererCall.isRelease : RendererCall β → Bool
  | release => true
  | _ => false

namespace LogEntry

/-- The entry tells of the connection that made the renderer with the number. -/
def connects (n : Nat) : LogEntry β → Bool
  | connected m => m = n
  | _ => false

/-- The entry tells of a release of the renderer with the number. -/
def releases (n : Nat) : LogEntry β → Bool
  | called m call => m = n ∧ call.isRelease
  | _ => false

theorem connects_iff {n : Nat} {e : LogEntry β} : e.connects n ↔ e = connected n := by
  cases e <;> simp [connects]

theorem releases_iff {n : Nat} {e : LogEntry β} : e.releases n ↔ e = called n .release := by
  cases e with
  | called m call => cases call <;> simp [releases, RendererCall.isRelease]
  | connected m => simp [releases]
  | refused error => simp [releases]

end LogEntry

theorem countP_connects_eq_zero {n : Nat} {entries : List (LogEntry β)} :
    entries.countP (LogEntry.connects n) = 0 ↔ .connected n ∉ entries := by
  rw [List.countP_eq_zero]
  simp only [LogEntry.connects_iff]
  exact ⟨fun h hn => h _ hn rfl, fun h e he hn => h (hn ▸ he)⟩

theorem countP_releases_eq_zero {n : Nat} {entries : List (LogEntry β)} :
    entries.countP (LogEntry.releases n) = 0 ↔ .called n .release ∉ entries := by
  rw [List.countP_eq_zero]
  simp only [LogEntry.releases_iff]
  exact ⟨fun h hn => h _ hn rfl, fun h e he hn => h (hn ▸ he)⟩

/-- The log tells of the connection of the renderer, and of no release. -/
def Unreleased (n : Nat) (entries : List (LogEntry β)) : Prop :=
  .connected n ∈ entries ∧ .called n .release ∉ entries

/-- A log in which renderers live one after another, and the number of the one that lives. -/
inductive Tidy : List (LogEntry β) → Option Nat → Prop where
  | nil : Tidy [] none
  | connected {entries : List (LogEntry β)} (h : Tidy entries none) :
      Tidy (entries ++ [.connected entries.length]) (some entries.length)
  | refused {entries : List (LogEntry β)} (e : ConnectError) (h : Tidy entries none) :
      Tidy (entries ++ [.refused e]) none
  | called {entries : List (LogEntry β)} {n : Nat} {call : RendererCall β}
      (hc : call.isRelease = false) (h : Tidy entries (some n)) :
      Tidy (entries ++ [.called n call]) (some n)
  | released {entries : List (LogEntry β)} {n : Nat} (h : Tidy entries (some n)) :
      Tidy (entries ++ [.called n .release]) none

namespace Tidy

variable {entries before after : List (LogEntry β)} {held : Option Nat} {n : Nat}

/-! ## Parts of a tidy log -/

theorem of_concat {last : LogEntry β} (h : Tidy (before ++ [last]) held) :
    ∃ held', Tidy before held' ∧ ∀ n call, last = .called n call → held' = some n := by
  generalize hl : before ++ [last] = l at h
  cases h with
  | nil => simp at hl
  | connected h =>
    obtain ⟨rfl, he⟩ := List.append_inj' hl rfl
    exact ⟨none, h, by simp_all⟩
  | refused e h =>
    obtain ⟨rfl, he⟩ := List.append_inj' hl rfl
    exact ⟨none, h, by simp_all⟩
  | called hc h =>
    obtain ⟨rfl, he⟩ := List.append_inj' hl rfl
    exact ⟨_, h, by simp_all⟩
  | released h =>
    obtain ⟨rfl, he⟩ := List.append_inj' hl rfl
    exact ⟨_, h, by simp_all⟩

theorem exists_of_append (h : Tidy (before ++ after) held) : ∃ held', Tidy before held' := by
  induction after using List.reverseRecOn generalizing held with
  | nil => exact ⟨held, by simpa using h⟩
  | append_singleton after last ih =>
    rw [← List.append_assoc] at h
    obtain ⟨held', h', -⟩ := of_concat h
    exact ih h'

theorem of_append_called {call : RendererCall β}
    (h : Tidy (before ++ .called n call :: after) held) : Tidy before (some n) := by
  rw [List.append_cons] at h
  obtain ⟨_, h⟩ := exists_of_append h
  obtain ⟨held', h, hn⟩ := of_concat h
  rw [hn n call rfl] at h
  exact h

/-! ## What a tidy log tells -/

theorem lt_length (h : Tidy entries held) (hn : .connected n ∈ entries) : n < entries.length := by
  induction h with
  | nil => simp at hn
  | connected h ih =>
    simp only [List.mem_append, List.mem_singleton, LogEntry.connected.injEq, List.length_append,
      List.length_singleton] at hn ⊢
    rcases hn with hn | rfl
    · exact Nat.lt_succ_of_lt (ih hn)
    · exact Nat.lt_succ_self _
  | refused e h ih => simpa using Nat.lt_succ_of_lt (ih (by simpa using hn))
  | called hc h ih => simpa using Nat.lt_succ_of_lt (ih (by simpa using hn))
  | released h ih => simpa using Nat.lt_succ_of_lt (ih (by simpa using hn))

theorem connected_mem (h : Tidy entries (some n)) : .connected n ∈ entries := by
  generalize hn : some n = held at h
  induction h with
  | nil => cases hn
  | connected h ih => simp [Option.some.inj hn]
  | refused e h ih => cases hn
  | called hc h ih => exact List.mem_append_left _ (ih hn)
  | released h ih => cases hn

theorem connected_mem_of_called {call : RendererCall β} (h : Tidy entries held)
    (hc : .called n call ∈ entries) : .connected n ∈ entries := by
  obtain ⟨before, after, rfl⟩ := List.append_of_mem hc
  exact List.mem_append_left _ (connected_mem (of_append_called h))

theorem length_not_called {call : RendererCall β} (h : Tidy entries held) :
    .called entries.length call ∉ entries :=
  fun hc => Nat.lt_irrefl _ (lt_length h (connected_mem_of_called h hc))

/-- The renderer that lives is the one not released. -/
theorem eq_some_iff (h : Tidy entries held) : held = some n ↔ Unreleased n entries := by
  induction h with
  | nil => simp [Unreleased]
  | @connected entries h ih =>
    constructor
    · intro hn
      obtain rfl := Option.some.inj hn
      exact ⟨by simp, by simpa using length_not_called h⟩
    · rintro ⟨hc, hr⟩
      simp only [List.mem_append, List.mem_singleton, LogEntry.connected.injEq, reduceCtorEq,
        or_false] at hc hr
      rcases hc with hc | rfl
      · cases ih.2 ⟨hc, hr⟩
      · rfl
  | refused e h ih => simpa [Unreleased] using ih
  | @called entries m call hc h ih =>
    rw [ih]
    have hne : RendererCall.release ≠ call := by
      rintro rfl
      cases hc
    simp [Unreleased, hne]
  | @released entries m h ih =>
    constructor
    · intro hn
      cases hn
    · rintro ⟨hc, hr⟩
      simp only [List.mem_append, List.mem_singleton, reduceCtorEq, or_false, not_or] at hc hr
      have hm := ih.2 ⟨hc, hr.1⟩
      exact absurd (by rw [Option.some.inj hm]) hr.2

/-- Numbers are given once. -/
theorem countP_connects (h : Tidy entries held) (hn : .connected n ∈ entries) :
    entries.countP (LogEntry.connects n) = 1 := by
  induction h with
  | nil => simp at hn
  | @connected entries h ih =>
    rw [List.countP_append, List.countP_singleton]
    by_cases hl : entries.length = n
    · have hnot : .connected n ∉ entries := fun hc => Nat.ne_of_lt (lt_length h hc) hl.symm
      rw [countP_connects_eq_zero.2 hnot, if_pos (by simp [LogEntry.connects, hl])]
    · rw [ih (by simpa [Ne.symm hl] using hn), if_neg (by simp [LogEntry.connects, hl])]
  | refused e h ih => simpa [LogEntry.connects] using ih (by simpa using hn)
  | called hc h ih => simpa [LogEntry.connects] using ih (by simpa using hn)
  | released h ih => simpa [LogEntry.connects] using ih (by simpa using hn)

/-- A renderer is released once, unless it lives. -/
theorem countP_releases (h : Tidy entries held) (hn : .connected n ∈ entries) :
    entries.countP (LogEntry.releases n) = if held = some n then 0 else 1 := by
  induction h with
  | nil => simp at hn
  | @connected entries h ih =>
    rw [List.countP_append, List.countP_singleton, if_neg (by simp [LogEntry.releases])]
    by_cases hl : entries.length = n
    · have hnot : .called n .release ∉ entries := hl ▸ length_not_called h
      rw [countP_releases_eq_zero.2 hnot, if_pos (congrArg some hl)]
    · rw [ih (by simpa [Ne.symm hl] using hn)]
      simp [hl]
  | refused e h ih => simpa [LogEntry.releases] using ih (by simpa using hn)
  | called hc h ih => simpa [LogEntry.releases, hc] using ih (by simpa using hn)
  | @released entries m h ih =>
    have hc : .connected n ∈ entries := by simpa using hn
    rw [List.countP_append, List.countP_singleton, ih hc]
    by_cases hm : m = n
    · simp [LogEntry.releases, RendererCall.isRelease, hm]
    · simp [LogEntry.releases, hm]

end Tidy

/-- The log is tidy, and the renderer that is held is the one that lives. -/
def LivesAlone {G : Type} (held : Option (Logged β)) (g : Logbook G β) : Prop :=
  Tidy g.entries (held.map Logged.number)

section LivesAlone

variable {ρ G : Type}

theorem keptByCalls_livesAlone [Renderer G β] [Journal G] :
    KeptByCalls (LivesAlone : Option (Logged β) → Logbook G β → Prop) where
  note _ _ _ h := h
  configure _ _ _ _ h := h.called rfl
  writeUniforms _ _ _ h := h.called rfl
  pollTimer _ _ h := h.called rfl
  draw _ _ _ h := h.called rfl
  release _ _ h := h.released

theorem connects_logged (op : Operation ρ β G) : op.logged.Connects LivesAlone := by
  cases op with
  | load source width height connect =>
    intro a width height g h
    rcases Logbook.connect_cases connect a width height g with ⟨r, world, hc⟩ | ⟨e, world, hc⟩
    · rw [hc]
      exact h.connected
    · rw [hc]
      exact h.refused e
  | _ => trivial

end LivesAlone

namespace Session

variable {ρ G : Type} {s : Session ρ (Logged β)} (h : Host (Logbook G β)) [Journal G] [Renderer G β]

theorem tidy_run_dispose [Seconds ρ] (hs : Coherent s) (hm : Meets LivesAlone s h)
    (ops : List (Operation ρ β G)) :
    Tidy (run s (ops.map .logged ++ [.dispose]) h).2.graphics.entries none := by
  have hops : ∀ op ∈ ops.map Operation.logged, op.Connects LivesAlone := by
    intro op hop
    obtain ⟨op, -, rfl⟩ := List.mem_map.1 hop
    exact connects_logged op
  exact meets_run_dispose keptByCalls_livesAlone h hops hs hm

/-! ## Ended sessions -/

/-- An ended session takes note of a size asked for and of nothing else. -/
theorem operate_of_disposed [Seconds ρ] {s : Session ρ β} (hd : s.phase = .disposed)
    (op : Operation ρ β G) : ∃ size, operate s op = pure { s with requestedSize := size } := by
  have hl : s.phase.isLive = false := by
    rw [hd]
    rfl
  have ht : s.phase.isTicking = false := by
    rw [hd]
    rfl
  cases op with
  | requestSize width height => exact ⟨some (width, height), rfl⟩
  | load source width height connect =>
    refine ⟨s.requestedSize, ?_⟩
    simp only [operate]
    rw [load_of_disposed s source width height connect hd]
    rfl
  | start => exact ⟨s.requestedSize, start_of_ne_ready s (by simp [hd])⟩
  | setPaused paused time => exact ⟨s.requestedSize, setPaused_of_disposed s paused time hd⟩
  | halt => exact ⟨s.requestedSize, halt_of_not_isTicking s ht⟩
  | resize width height => exact ⟨s.requestedSize, resize_eq_pure s (by simp [hl])⟩
  | pointerMoved x y =>
    exact ⟨s.requestedSize, congrArg pure (pointerMoved_of_not_isLive s x y hl)⟩
  | pointerPressed x y =>
    exact ⟨s.requestedSize, congrArg pure (pointerPressed_of_not_isLive s x y hl)⟩
  | tick now today => exact ⟨s.requestedSize, tick_eq_pure s now today (by simp [ht])⟩
  | dispose => exact ⟨s.requestedSize, dispose_of_disposed s hd⟩

theorem run_of_disposed [Seconds ρ] {s : Session ρ β} (hd : s.phase = .disposed)
    (ops : List (Operation ρ β G)) : ∃ size, run s ops = pure { s with requestedSize := size } := by
  induction ops generalizing s with
  | nil => exact ⟨s.requestedSize, rfl⟩
  | cons op ops ih =>
    obtain ⟨size, hop⟩ := operate_of_disposed hd op
    obtain ⟨size', hops⟩ := ih (s := { s with requestedSize := size }) hd
    refine ⟨size', ?_⟩
    funext h
    rw [run_cons_apply, hop, pure_apply, hops]

/-- Whatever is asked of a new session, once it is disposed of at last, each renderer that a
connection made was released exactly once and called only before its release, and at no time were
two of them unreleased.  A session that has ended, by whatever way, does nothing any more and
refuses to load. -/
theorem released_exactly_once [Seconds ρ] {options : PreviewOptions} {s₀ : Session ρ (Logged β)}
    (hs₀ : create? options = some s₀) (ops : List (Operation ρ β G)) (g : G) (ticks : Ticks)
    (published : List Snapshot) {entries : List (LogEntry β)}
    (hentries : (run s₀ (ops.map .logged ++ [.dispose])
      (⟨⟨g, []⟩, ticks, published⟩ : Host (Logbook G β))).2.graphics.entries = entries) :
    (∀ n, .connected n ∈ entries →
      entries.countP (LogEntry.connects n) = 1 ∧ entries.countP (LogEntry.releases n) = 1) ∧
    (∀ before n call after, entries = before ++ .called n call :: after →
      .connected n ∈ before ∧ .called n .release ∉ before) ∧
    (∀ before m n, before <+: entries → Unreleased m before → Unreleased n before → m = n) ∧
    ∀ s : Session ρ β, s.phase = .disposed →
      (∀ ops : List (Operation ρ β G),
        ∃ size, run s ops = pure { s with requestedSize := size }) ∧
      ∀ source width height connect,
        load s source width height connect =
          (pure (.error .disposed, s) : StateM (Host G) (Except LoadError Unit × Session ρ β)) := by
  have htidy : Tidy entries none := by
    rw [← hentries]
    apply tidy_run_dispose _ (coherent_of_create? hs₀)
    unfold Meets LivesAlone
    rw [(create?_frame hs₀).2.1]
    exact .nil
  refine ⟨?_, ?_, ?_, ?_⟩
  · intro n hn
    exact ⟨htidy.countP_connects hn, by simpa using htidy.countP_releases hn⟩
  · intro before n call after he
    rw [he] at htidy
    exact (Tidy.eq_some_iff htidy.of_append_called).1 rfl
  · rintro before m n ⟨after, he⟩ hm hn
    rw [← he] at htidy
    obtain ⟨held, hb⟩ := htidy.exists_of_append
    exact Option.some.inj ((hb.eq_some_iff.2 hm).symm.trans (hb.eq_some_iff.2 hn))
  · intro s hd
    exact ⟨run_of_disposed hd, fun source width height connect =>
      load_of_disposed s source width height connect hd⟩

/-- A shader is loaded and started, and another load replaces it. -/
def reloadingPreview : List (Operation Float ScriptedRenderer Recording) :=
  [.load blankShader 320 240 (ScriptedRenderer.connect (.ok steadyRenderer)), .start,
    .load blankShader 640 480 (ScriptedRenderer.connect (.ok steadyRenderer))]

theorem released_exactly_once_reloadingPreview :
    ∃ entries, (run freshSession (reloadingPreview.map .logged ++ [.dispose])
        blankHost).2.graphics.entries = entries ∧
      entries.countP (LogEntry.releases 0) = 1 ∧ entries.countP (LogEntry.releases 2) = 1 := by
  have hconnected : 0 < (run freshSession (reloadingPreview.map .logged ++ [.dispose])
        blankHost).2.graphics.entries.countP (LogEntry.connects 0) ∧
      0 < (run freshSession (reloadingPreview.map .logged ++ [.dispose])
        blankHost).2.graphics.entries.countP (LogEntry.connects 2) := by decide +kernel
  have honce :=
    (released_exactly_once create?_default reloadingPreview Recording.empty .empty [] rfl).1
  have hmem {n : Nat} {entries : List (LogEntry ScriptedRenderer)}
      (h : 0 < entries.countP (LogEntry.connects n)) : .connected n ∈ entries := by
    obtain ⟨e, he, hn⟩ := List.countP_pos_iff.1 h
    exact LogEntry.connects_iff.1 hn ▸ he
  exact ⟨_, rfl, (honce 0 (hmem hconnected.1)).2, (honce 2 (hmem hconnected.2)).2⟩

end Session

end ShaderPreview
