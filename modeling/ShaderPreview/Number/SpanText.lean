import ShaderPreview.Number.Decimal
import ShaderPreview.Number.Span
import ShaderPreview.Text.Blank

/-!
# Spans of time in words

A span can be written as parts such as `16ms 667us` or `1.5 hours`: each part is a number, perhaps
with a fraction, and a unit.  Blanks may stand between digits, units and parts.  Parts are added up;
a part that is no whole number of nanoseconds is refused, as is a sum beyond the largest span.  The
one sum that no answer is defined for is the largest number of seconds whose nanoseconds fill up one
more.
-/

namespace ShaderPreview

namespace SpanText

/-- What can be wrong with a span in words.  Offsets count bytes. -/
inductive Error where
  | empty
  | numberExpected (offset : Nat)
  | invalidCharacter (offset : Nat)
  | unitMissing (number : Nat)
  | unitUnknown (unit : List Char)
  | numberOverflow
  /-- The nanoseconds fill up a second beyond the largest span. -/
  | endless
  deriving DecidableEq, Repr

/-- The text of an error. -/
def Error.message : Error → List Char
  | empty => "value was empty".toList
  | numberExpected o => "expected number at ".toList ++ Decimal.ofNat o
  | invalidCharacter o => "invalid character at ".toList ++ Decimal.ofNat o
  | unitMissing n =>
    "time unit needed, for example ".toList ++ Decimal.ofNat n ++ "sec or ".toList ++
      Decimal.ofNat n ++ "ms".toList
  | unitUnknown u =>
    "unknown time unit \"".toList ++ u ++
      ("\", supported units: ns, us/µs, ms, sec, min, hours, days, " ++
        "weeks, months, years (and few variations)").toList
  | numberOverflow =>
    ("number is too large or cannot be represented without a lack of precision " ++
      "(values below 1ns are not supported)").toList
  | endless => "the span is too long".toList

/-- Numbers and counts of seconds stay below this. -/
def limit : Nat := wordCount 64

/-- A unit of time. -/
structure TimeUnit where
  names : List String
  /-- The length of the unit: so many nanoseconds, or so many seconds. -/
  length : Nat
  inSeconds : Bool
  /-- What a fraction of the unit is counted in: so many parts, each a nanosecond, or a second. -/
  fractionParts : Option Nat
  fractionInSeconds : Bool

/-- All units. -/
def units : List TimeUnit :=
  [⟨["nanos", "nsec", "ns"], 1, false, none, false⟩,
    ⟨["usec", "us", "µs"], 1000, false, some 1000, false⟩,
    ⟨["millis", "msec", "ms"], 1000000, false, some 1000000, false⟩,
    ⟨["seconds", "second", "secs", "sec", "s"], 1, true, some 1000000000, false⟩,
    ⟨["minutes", "minute", "min", "mins", "m"], 60, true, some 60000000000, false⟩,
    ⟨["hours", "hour", "hr", "hrs", "h"], 3600, true, some 3600, true⟩,
    ⟨["days", "day", "d"], 86400, true, some 86400, true⟩,
    ⟨["weeks", "week", "wk", "wks", "w"], 604800, true, some 604800, true⟩,
    ⟨["months", "month", "M"], 2630016, true, some 2630016, true⟩,
    ⟨["years", "year", "yr", "yrs", "y"], 31557600, true, some 31557600, true⟩]

/-- The unit of a name. -/
def unitOf? (name : List Char) : Option TimeUnit :=
  units.find? fun u => u.names.any fun n => n.toList = name

/-- A fraction `numerator / denominator`. -/
structure Fraction where
  numerator : Nat
  denominator : Nat
  deriving DecidableEq, Repr

/-- A number within the limit. -/
def within (n : Nat) : Except Error Nat := if n < limit then .ok n else .error .numberOverflow

/-- How many parts of a unit a fraction of it makes. -/
def fractionOf (u : TimeUnit) (f : Fraction) : Except Error Nat :=
  match u.fractionParts with
  | none => .error .numberOverflow
  | some parts => do
    let n ← within (f.numerator * parts)
    if n % f.denominator = 0 then .ok (n / f.denominator) else .error .numberOverflow

/-- Adds seconds and nanoseconds to a span; the nanoseconds beside the whole seconds are added up
first. -/
def plus (s : Span) (seconds nanos : Nat) : Except Error Span := do
  let rest ← within (s.restNanos + nanos)
  let whole := s.wholeSeconds + seconds
  if rest = Span.perSecond ∧ whole + 1 = limit then .error .endless
  else if whole + rest / Span.perSecond < limit then .ok ⟨whole * Span.perSecond + rest⟩
  else .error .numberOverflow

/-- Adds so many seconds, or so many nanoseconds. -/
def plusCount (s : Span) (n : Nat) (inSeconds : Bool) : Except Error Span :=
  if inSeconds then plus s n 0 else plus s 0 n

/-- Adds a part to a span, its fraction last. -/
def addPart (s : Span) (n : Nat) (f : Option Fraction) (unit : List Char) : Except Error Span :=
  match unitOf? unit with
  | none => .error (if unit = [] then .unitMissing n else .unitUnknown unit)
  | some u => do
    let s ← plusCount s (← within (n * u.length)) u.inSeconds
    match f with
    | none => return s
    | some f => plusCount s (← fractionOf u f) u.fractionInSeconds

/-- The value of a digit. -/
def digit (c : Char) : Nat := c.toNat - 48

/-- A character of a unit. -/
def isUnitChar (c : Char) : Bool := c.isAlpha || c == 'µ'

/-- Where a reader stands: it has read the digits of a number, of a fraction, or letters of a
unit. -/
inductive Mode where
  /-- Before a number, since byte `start`; the first one has to come. -/
  | gap (isFirst : Bool) (start : Nat)
  | number (n : Nat)
  /-- `offset` is shown if no digit follows the point. -/
  | fraction (n : Nat) (f : Fraction) (offset : Nat)
  | unit (n : Nat) (f : Option Fraction) (reversed : List Char)

/-- Reads on from byte `offset`. -/
def readFrom (s : Span) (mode : Mode) (offset : Nat) : List Char → Except Error Span
  | [] =>
    match mode with
    | .gap true _ => .error .empty
    | .gap false _ => .ok s
    | .number n => addPart s n none []
    | .fraction n f o =>
      if f.denominator = 1 then .error (.invalidCharacter o) else addPart s n (some f) []
    | .unit n f reversed => addPart s n f reversed.reverse
  | c :: t =>
    let next := offset + c.utf8Size
    match mode with
    | .gap isFirst start =>
      if c.isDigit then readFrom s (.number (digit c)) next t
      else if Text.isBlank c then readFrom s (.gap isFirst start) next t
      else .error (.numberExpected start)
    | .number n =>
      if c.isDigit then do readFrom s (.number (← within (n * 10 + digit c))) next t
      else if Text.isBlank c then readFrom s (.number n) next t
      else if isUnitChar c then readFrom s (.unit n none [c]) next t
      else if c = '.' then readFrom s (.fraction n ⟨0, 1⟩ offset) next t
      else .error (.invalidCharacter offset)
    | .fraction n f o =>
      if c.isDigit then do
        let denominator ← within (f.denominator * 10)
        let numerator ← within (f.numerator * 10 + digit c)
        readFrom s (.fraction n ⟨numerator, denominator⟩ next) next t
      else if Text.isBlank c then readFrom s (.fraction n f next) next t
      else if isUnitChar c ∧ f.denominator ≠ 1 then readFrom s (.unit n (some f) [c]) next t
      else .error (.invalidCharacter o)
    | .unit n f reversed =>
      if isUnitChar c then readFrom s (.unit n f (c :: reversed)) next t
      else if Text.isBlank c then do
        readFrom (← addPart s n f reversed.reverse) (.gap false next) next t
      else if c.isDigit then do
        readFrom (← addPart s n f reversed.reverse) (.number (digit c)) next t
      else .error (.invalidCharacter offset)

/-- The span that a text denotes.  A single zero needs no unit. -/
def read (text : List Char) : Except Error Span :=
  if text = ['0'] then .ok ⟨0⟩ else readFrom ⟨0⟩ (.gap true 0) 0 text

end SpanText

end ShaderPreview
