/-!
# Tick queues

A tick queue hands out tokens for future ticks.  A token can be cancelled until it is taken; the
host takes the oldest one and then ticks.
-/

namespace ShaderPreview

/-- Ticks that were asked for. -/
structure Ticks where
  /-- The number of tokens handed out; tokens count from one. -/
  issued : Nat
  /-- The tokens neither taken nor cancelled, oldest first. -/
  pending : List Nat
  /-- The number of tokens cancelled. -/
  cancelled : Nat
  deriving DecidableEq, Repr

namespace Ticks

/-- No tick was asked for. -/
def empty : Ticks := ⟨0, [], 0⟩

/-- Asks for a tick; the answer is its token. -/
def request (t : Ticks) : Nat × Ticks :=
  (t.issued + 1, { t with issued := t.issued + 1, pending := t.pending ++ [t.issued + 1] })

/-- Withdraws a tick that was not taken. -/
def cancel (t : Ticks) (token : Nat) : Ticks :=
  if t.pending.contains token then
    { t with pending := t.pending.erase token, cancelled := t.cancelled + 1 }
  else t

/-- Takes the oldest token. -/
def take (t : Ticks) : Option Nat × Ticks := (t.pending.head?, { t with pending := t.pending.tail })

end Ticks

end ShaderPreview
