/-!
# The warning log

A warning log counts the warnings it was given and keeps the newest of them.
-/

namespace ShaderPreview

/-- Warnings that were raised outside every scope. -/
structure Warnings where
  total : Nat
  /-- The newest warnings, oldest first. -/
  recent : List (List Char)
  deriving DecidableEq, Repr

namespace Warnings

/-- No warning yet. -/
def empty : Warnings := ⟨0, []⟩

/-- The number of warnings that are kept. -/
def limit : Nat := 16

/-- Adds a warning. -/
def push (w : Warnings) (message : List Char) : Warnings :=
  { total := w.total + 1
    recent := (if w.recent.length = limit then w.recent.tail else w.recent) ++ [message] }

end Warnings

end ShaderPreview
