import ShaderPreview.Number.Double
import ShaderPreview.Number.Word

/-!
# Rolling windows

A window keeps the newest samples, at most `capacity` of them; a new sample drives out the oldest
one.  Figures over a window are its mean, its extremes, its median and the number of samples above
a bound.
-/

namespace ShaderPreview

/-- A bounded queue of samples, oldest first. -/
structure Window (α : Type) where
  capacity : Nat
  samples : List α
  deriving DecidableEq, Repr

namespace Window

variable {α : Type}

/-- An empty window for at least one sample. -/
def ofCapacity (n : Nat) : Window α := ⟨max n 1, []⟩

/-- The most samples, of eight bytes each, for which room can be asked for. -/
def capacityLimit : Nat := (wordCount 63 - 1) / 8

/-- An empty window for at least one sample, if there can be room for so many. -/
def ofCapacity? (n : Nat) : Option (Window α) :=
  if max n 1 ≤ capacityLimit then some (ofCapacity n) else none

/-- Adds the newest sample. -/
def push (w : Window α) (x : α) : Window α :=
  if w.samples.length = w.capacity then { w with samples := w.samples.tail ++ [x] }
  else { w with samples := w.samples ++ [x] }

/-- Drops all samples. -/
def clear (w : Window α) : Window α := { w with samples := [] }

/-- The number of samples. -/
def size (w : Window α) : Nat := w.samples.length

/-- The newest sample. -/
def last? (w : Window α) : Option α := w.samples.getLast?

/-- The newest `n` samples, oldest first. -/
def recent (w : Window α) (n : Nat) : List α := w.samples.drop (w.samples.length - n)

/-! ## Figures -/

/-- The mean of the samples. -/
def mean? (w : Window Double) : Option Float :=
  if w.samples.isEmpty then none
  else some (Double.sum w.samples / Float.ofNat w.samples.length)

/-- The values of the samples. -/
def values (w : Window Double) : List Float := w.samples.map Double.value

/-- The least sample that is a number. -/
def min? (w : Window Double) : Option Float :=
  match w.values with
  | [] => none
  | x :: xs => some (xs.foldl Double.minNum x)

/-- The greatest sample that is a number. -/
def max? (w : Window Double) : Option Float :=
  match w.values with
  | [] => none
  | x :: xs => some (xs.foldl Double.maxNum x)

/-- The samples in the total order. -/
def sorted (w : Window Double) : List Double := w.samples.mergeSort Double.totalLE

/-- The two samples in the middle of the total order; the same one twice for an odd number. -/
def middle? (w : Window Double) : Option (Double × Double) := do
  let n := w.samples.length
  let low ← w.sorted[(n - 1) / 2]?
  let high ← w.sorted[n / 2]?
  return (low, high)

/-- The sample in the middle, or the mean of the two in the middle. -/
def median? (w : Window Double) : Option Float :=
  w.middle?.map fun (low, high) =>
    if w.samples.length % 2 = 0 then (low.value + high.value) / 2.0 else high.value

/-- The number of samples above a bound. -/
def countAbove (w : Window Double) (bound : Float) : Nat :=
  w.samples.countP fun d => d.value > bound

end Window

end ShaderPreview
