import ShaderPreview.Number.Decimal

/-!
# The shortest decimal that reads back

Of all decimals that round to a given number of a binary format, `shortest` takes one with the
fewest digits, and of those the nearest.  The reals that round to `m · 2 ^ e` form an interval
around it, whose ends belong to it iff `m` is even.  Going from coarse to fine decimal grids, the
first grid that has a point in the interval decides; only the two neighbours of the number on that
grid need a look.  `nearest` goes the other way.
-/

namespace ShaderPreview

namespace Decimal

/-- Four times the ends of the interval that rounds to `m · 2 ^ e`, and of its middle, in units of
`2 ^ e`.  Below a power of two the numbers of a format lie twice as close. -/
structure Interval where
  low : Nat
  middle : Nat
  high : Nat
  closed : Bool

/-- The interval of reals that round to `m · 2 ^ e`. -/
def Interval.around (f : BinaryFormat) (m : Nat) (e : Int) : Interval :=
  let isPower : Bool := m = wordCount f.places ∧ e > f.lowest
  ⟨4 * m - (if isPower then 1 else 2), 4 * m, 4 * m + 2, m % 2 = 0⟩

/-- `n · 2 ^ p · 10 ^ q` as a fraction. -/
def fraction (n : Nat) (p q : Int) : Nat × Nat :=
  (n * Nat.pow 2 p.toNat * Nat.pow 10 q.toNat, Nat.pow 2 (-p).toNat * Nat.pow 10 (-q).toNat)

/-- Whether the grid point `d · 10 ^ k` lies in the interval of `m · 2 ^ e`. -/
def Interval.holds (i : Interval) (e k : Int) (d : Nat) : Bool :=
  let (n, q) := fraction 1 (e - 2) (-k)
  let point := d * q
  if i.closed then i.low * n ≤ point && point ≤ i.high * n
  else i.low * n < point && point < i.high * n

/-- The points of the grid `10 ^ k` next to `m · 2 ^ e` that lie in its interval, the nearer one
first. -/
def Interval.points (i : Interval) (e k : Int) : List Nat :=
  let (n, q) := fraction i.middle (e - 2) (-k)
  let d := n / q
  let near := if 2 * (n % q) ≤ q then [d, d + 1] else [d + 1, d]
  near.filter (i.holds e k)

/-- The first grid, from `10 ^ k` downwards, that has a point in the interval. -/
def Interval.firstPoint (i : Interval) (e : Int) : Nat → Int → Nat × Int
  | 0, k => (0, k)
  | fuel + 1, k =>
    match i.points e k with
    | d :: _ => (d, k)
    | [] => i.firstPoint e fuel (k - 1)

/-- The digits and the exponent of the shortest decimal for `m · 2 ^ e`; the grids run from the
largest double down to the finest subnormal. -/
def shortest (f : BinaryFormat) (m : Nat) (e : Int) : Nat × Int :=
  if m = 0 then (0, 0) else (Interval.around f m e).firstPoint e 640 309

/-- The decimal `d · 10 ^ k`, with at least one place behind the point. -/
def positional (d : Nat) (k : Int) : List Char :=
  if 0 ≤ k then ofNat d ++ List.replicate (if d = 0 then 0 else k.toNat) '0' ++ ".0".toList
  else
    let places := (-k).toNat
    let digits := padLeft (places + 1) '0' (ofNat d)
    digits.take (digits.length - places) ++ ['.'] ++ digits.drop (digits.length - places)

/-- The double as the shortest decimal that reads back. -/
def ofFloat (x : Float) : List Char :=
  if x.isNaN then "NaN".toList
  else
    let sign := if Exact.isNegative x then ['-'] else []
    if x.isInf then sign ++ "inf".toList
    else
      let (m, e) := Exact.parts x
      let (d, k) := shortest .double m e
      sign ++ positional d k

/-- The decimal `d · 10 ^ k` with one digit in front of the point and an exponent. -/
def scientific (d : Nat) (k : Int) : List Char :=
  let digits := ofNat d
  digits.take 1 ++ (if digits.length = 1 then [] else '.' :: digits.drop 1) ++ ['e'] ++
    (toString (k + digits.length - 1)).toList

/-- The bits of the number nearest to `m · 10 ^ e`.  Decimals far out of reach are not worked out:
all formats end well within 400 digits on either side of the point. -/
def nearest (f : BinaryFormat) (m : Nat) (e : Int) : Nat :=
  let magnitude := (ofNat m).length + e
  if m = 0 ∨ magnitude < -400 then 0
  else if 400 < magnitude then f.infinity
  else f.nearest (m * Nat.pow 10 e.toNat) (Nat.pow 10 (-e).toNat)

/-- The double nearest to `m · 10 ^ e`. -/
def toFloat (m : Nat) (e : Int) : Float := Float.ofBits (UInt64.ofNat (nearest .double m e))

/-- A single, given by its bits, as the shortest decimal that reads back; it has an exponent from
`10 ^ 16` on and below `10 ^ -4`. -/
def ofSingleBits (bits : Nat) : List Char :=
  if BinaryFormat.single.infinity ≤ bits then "inf".toList
  else
    let (m, e) := BinaryFormat.single.parts bits
    let (d, k) := shortest .single m e
    let leading := k + (ofNat d).length - 1
    if d ≠ 0 ∧ (leading < -4 ∨ 16 ≤ leading) then scientific d k else positional d k

end Decimal

end ShaderPreview
