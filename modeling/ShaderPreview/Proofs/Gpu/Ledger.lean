import Mathlib.Data.List.Count
import Mathlib.Data.List.Nodup
import ShaderPreview.Proofs.Gpu.Connection

/-!
# Buffers and error scopes in a list of calls

A list of calls returns its buffers (`BuffersReturned`) if each buffer that it creates is destroyed
once, and nothing uses it behind that.  This is read off a `Ledger` of the buffers that are held: a
creation enters a buffer with a number not used before, only a buffer that is held can be used or
destroyed, and if nothing is held before and behind the calls, all were returned.

Error scopes are `Nested` if each is closed on its device, behind all scopes that were opened in it.
-/

namespace ShaderPreview

namespace Gpu

/-! ## Buffers -/

namespace Call

/-- The buffer that the call creates. -/
def created? : Call → Option Buffer
  | createBuffer b .. => some b
  | _ => none

/-- The buffer that the call destroys. -/
def destroyed? : Call → Option Buffer
  | destroyBuffer b => some b
  | _ => none

/-- The buffers that the call binds, writes, copies, maps, reads or unmaps. -/
def uses : Call → List Buffer
  | writeBuffer b .. | mapBuffer b | readMapped b | unmap b => [b]
  | resolveQueries _ _ _ target _ => [target]
  | copyBuffer source _ target .. => [source, target]
  | createBindGroup _ _ entries => entries.map Prod.snd
  | _ => []

end Call

/-- The buffers that calls create, in their order. -/
def createdBuffers (cs : List Call) : List Buffer := cs.filterMap Call.created?

/-- The buffers that calls destroy, in their order. -/
def destroyedBuffers (cs : List Call) : List Buffer := cs.filterMap Call.destroyed?

/-- Every buffer that the calls create is given back. -/
structure BuffersReturned (cs : List Call) : Prop where
  /-- No buffer is created twice. -/
  created : (createdBuffers cs).Nodup
  /-- Each buffer is destroyed exactly once. -/
  destroyed : ∀ b ∈ createdBuffers cs, (destroyedBuffers cs).count b = 1
  /-- It is destroyed behind its creation, and not used behind that. -/
  unused : ∀ before b after, cs = before ++ .destroyBuffer b :: after →
    b ∈ createdBuffers before ∧ ∀ c ∈ after, b ∉ c.uses

/-- The buffers that are held.  All of them, and all that were held before, have lower numbers than
the `next`. -/
structure Ledger where
  held : List Buffer
  next : Nat

namespace Ledger

/-- The calls lead from one ledger to another. -/
inductive Leads : Ledger → List Call → Ledger → Prop where
  | nil (l : Ledger) : Leads l [] l
  | create {l l' : Ledger} {b : Buffer} {size : Nat} {usage : List BufferUsage} {mapped : Bool}
      {cs : List Call} (hb : l.next ≤ b.id) (h : Leads ⟨b :: l.held, b.id + 1⟩ cs l') :
      Leads l (.createBuffer b size usage mapped :: cs) l'
  | destroy {l l' : Ledger} {b : Buffer} {cs : List Call} (hb : b ∈ l.held)
      (h : Leads ⟨l.held.erase b, l.next⟩ cs l') : Leads l (.destroyBuffer b :: cs) l'
  | other {l l' : Ledger} {c : Call} {cs : List Call} (hc : c.created? = none)
      (hd : c.destroyed? = none) (hu : ∀ b ∈ c.uses, b ∈ l.held) (h : Leads l cs l') :
      Leads l (c :: cs) l'

/-- No buffer is held twice, and the next one is another. -/
structure Sound (l : Ledger) : Prop where
  nodup : l.held.Nodup
  lt_next : ∀ b ∈ l.held, b.id < l.next

namespace Leads

variable {l l' l'' : Ledger} {cs ds before after : List Call} {b : Buffer}

theorem trans (h : Leads l cs l') (h' : Leads l' ds l'') : Leads l (cs ++ ds) l'' := by
  induction h with
  | nil => exact h'
  | create hb _ ih => exact .create hb (ih h')
  | destroy hb _ ih => exact .destroy hb (ih h')
  | other hc hd hu _ ih => exact .other hc hd hu (ih h')

theorem of_append (h : Leads l (before ++ after) l') :
    ∃ m, Leads l before m ∧ Leads m after l' := by
  induction before generalizing l with
  | nil => exact ⟨l, .nil l, h⟩
  | cons c before ih =>
    cases h with
    | create hb h =>
      obtain ⟨m, hbefore, hafter⟩ := ih h
      exact ⟨m, .create hb hbefore, hafter⟩
    | destroy hb h =>
      obtain ⟨m, hbefore, hafter⟩ := ih h
      exact ⟨m, .destroy hb hbefore, hafter⟩
    | other hc hd hu h =>
      obtain ⟨m, hbefore, hafter⟩ := ih h
      exact ⟨m, .other hc hd hu hbefore, hafter⟩

/-- What was held and what is created is destroyed or still held. -/
theorem count_eq (h : Leads l cs l') (b : Buffer) :
    l.held.count b + (createdBuffers cs).count b =
      (destroyedBuffers cs).count b + l'.held.count b := by
  induction h with
  | nil => simp [createdBuffers, destroyedBuffers]
  | @create l l' c size usage mapped cs hc h ih =>
    simp only [List.count_cons, createdBuffers, destroyedBuffers] at ih ⊢
    simp only [List.filterMap_cons, Call.created?, Call.destroyed?, List.count_cons]
    omega
  | @destroy l l' c cs hc h ih =>
    have hpos : 0 < l.held.count c := List.count_pos_iff.2 hc
    simp only [createdBuffers, destroyedBuffers, List.count_erase] at ih ⊢
    simp only [List.filterMap_cons, Call.created?, Call.destroyed?, List.count_cons]
    by_cases hb : c = b
    · subst hb
      simp only [beq_self_eq_true, if_true] at ih ⊢
      omega
    · simp only [beq_iff_eq, hb, if_false] at ih ⊢
      omega
  | other hc hd hu h ih =>
    simp only [createdBuffers, destroyedBuffers, List.filterMap_cons, hc, hd] at ih ⊢
    exact ih

/-- Buffers are created with new numbers. -/
theorem created_fresh (h : Leads l cs l') :
    (createdBuffers cs).Nodup ∧ ∀ b ∈ createdBuffers cs, l.next ≤ b.id := by
  induction h with
  | nil => exact ⟨List.nodup_nil, List.forall_mem_nil _⟩
  | @create l l' c size usage mapped cs hc h ih =>
    obtain ⟨hnodup, hfresh⟩ := ih
    have hcons : createdBuffers (.createBuffer c size usage mapped :: cs) =
        c :: createdBuffers cs := rfl
    rw [hcons]
    refine ⟨List.nodup_cons.2 ⟨fun hmem => ?_, hnodup⟩, List.forall_mem_cons.2 ⟨hc, ?_⟩⟩
    · have := hfresh c hmem
      dsimp only at this
      omega
    · intro b hb
      have := hfresh b hb
      dsimp only at this
      omega
  | destroy hb h ih => exact ih
  | other hc hd hu h ih =>
    rw [createdBuffers, List.filterMap_cons, hc]
    exact ih

theorem sound (h : Leads l cs l') (hs : Sound l) : Sound l' := by
  induction h with
  | nil => exact hs
  | @create l l' c size usage mapped cs hc h ih =>
    apply ih
    have hlt (b : Buffer) (hb : b ∈ l.held) : b.id < c.id := by
      have := hs.lt_next b hb
      omega
    refine ⟨List.nodup_cons.2 ⟨fun hmem => ?_, hs.nodup⟩, List.forall_mem_cons.2 ⟨?_, ?_⟩⟩
    · exact Nat.lt_irrefl _ (hlt c hmem)
    · exact Nat.lt_succ_self _
    · intro b hb
      exact Nat.lt_succ_of_lt (hlt b hb)
  | destroy hb h ih =>
    exact ih ⟨hs.nodup.erase _, fun b hb' => hs.lt_next b (List.mem_of_mem_erase hb')⟩
  | other hc hd hu h ih => exact ih hs

/-- A buffer that is no longer held stays unused. -/
theorem not_mem_uses (h : Leads l cs l') (hlt : b.id < l.next) (hb : b ∉ l.held) :
    ∀ c ∈ cs, b ∉ c.uses := by
  induction h with
  | nil => exact List.forall_mem_nil _
  | @create l l' c size usage mapped cs hc h ih =>
    refine List.forall_mem_cons.2 ⟨by simp [Call.uses], ih ?_ ?_⟩
    · show b.id < c.id + 1
      omega
    · have hne : b ≠ c := by
        rintro rfl
        omega
      exact List.not_mem_cons_of_ne_of_not_mem hne hb
  | destroy hc h ih =>
    exact List.forall_mem_cons.2 ⟨by simp [Call.uses],
      ih hlt fun hmem => hb (List.mem_of_mem_erase hmem)⟩
  | other hc hd hu h ih =>
    exact List.forall_mem_cons.2 ⟨fun hmem => hb (hu b hmem), ih hlt hb⟩

/-- If nothing is held before and behind the calls, they return their buffers. -/
theorem buffersReturned {n n' : Nat} (h : Leads ⟨[], n⟩ cs ⟨[], n'⟩) : BuffersReturned cs := by
  obtain ⟨hnodup, -⟩ := h.created_fresh
  refine ⟨hnodup, ?_, ?_⟩
  · intro b hb
    have hcount := h.count_eq b
    have hone : (createdBuffers cs).count b = 1 := List.count_eq_one_of_mem hnodup hb
    simp only [List.count_nil] at hcount
    omega
  · rintro before b after rfl
    obtain ⟨m, hbefore, hafter⟩ := h.of_append
    have hsound : Sound m := hbefore.sound ⟨List.nodup_nil, List.forall_mem_nil _⟩
    cases hafter with
    | destroy hb hrest =>
      constructor
      · have hcount := hbefore.count_eq b
        have hheld : 0 < m.held.count b := List.count_pos_iff.2 hb
        simp only [List.count_nil] at hcount
        exact List.count_pos_iff.1 (by omega)
      · exact hrest.not_mem_uses (hsound.lt_next b hb) hsound.nodup.not_mem_erase
    | other hc hd => cases hd

end Leads

end Ledger

/-! ## Error scopes -/

/-- The call opens or closes an error scope. -/
def Call.isScoping : Call → Bool
  | pushScope _ | popScope .. => true
  | _ => false

/-- Every error scope that is opened is closed, on the same device and behind all scopes in it. -/
inductive Nested : List Call → Prop where
  | nil : Nested []
  | other {c : Call} {cs : List Call} (hc : c.isScoping = false) (h : Nested cs) : Nested (c :: cs)
  | scope (d : DeviceId) {body : List Call} (error : Option (List Char)) {cs : List Call}
      (hbody : Nested body) (h : Nested cs) :
      Nested (.pushScope d :: body ++ .popScope d error :: cs)

namespace Nested

variable {cs ds : List Call}

theorem append (h : Nested cs) (h' : Nested ds) : Nested (cs ++ ds) := by
  induction h with
  | nil => exact h'
  | other hc h ih => exact .other hc ih
  | scope d error hbody h _ ih =>
    rw [List.append_assoc]
    exact .scope d error hbody ih

theorem of_forall (h : ∀ c ∈ cs, c.isScoping = false) : Nested cs := by
  induction cs with
  | nil => exact .nil
  | cons c cs ih =>
    exact .other (h c List.mem_cons_self) (ih fun c' hc => h c' (List.mem_cons_of_mem _ hc))

theorem scopeCalls (d : DeviceId) (error : Option (List Char)) (h : Nested cs) :
    Nested (scopeCalls d cs error) :=
  .scope d error h .nil

end Nested

end Gpu

end ShaderPreview
