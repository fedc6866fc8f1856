import ShaderPreview.Number.Span
import ShaderPreview.Settings.Basic

/-!
# Reading settings

How a configuration text is written is left open: a `TextReader` takes it apart, and a `WordsReader`
reads spans of time in words.  What the two do not settle is settled here: which span a value stands
for (`SpanValue.read`), and that settings which make no sense are refused (`Settings.read`).

A reader of texts answers with a `Reading`.  It hands over the values that stand for spans, one after
the other, goes on with what each was taken for, and in the end refuses the text or gives settings.
Nothing keeps it from this end but a value to which there is no answer.
-/

namespace ShaderPreview

namespace Settings

/-! ## Spans of time -/

/-- A value that stands where a span of time is expected. -/
inductive SpanValue where
  | words (s : List Char)
  | natural (n : Nat)
  | integer (n : Int)
  | float (x : Float)
  /-- Any other value, as a message names it. -/
  | other (found : List Char)

/-- Reads a span in words, or says what is wrong with them.  There may be no answer. -/
abbrev WordsReader := List Char → Option (Except (List Char) Span)

/-- What is said of numbers below zero, and of those that are not finite. -/
def negativeSpan : List Char := "duration must be non-negative".toList

/-- The span that a value denotes, or what is wrong with it.  There is no answer to a number of
seconds beyond the longest span. -/
def SpanValue.read (words : WordsReader) : SpanValue → Option (Except (List Char) Span)
  | .words s => (words s).map fun r =>
      r.mapError fun m => "invalid duration '".toList ++ s ++ "': ".toList ++ m
  | .natural n => some (.ok (.ofWholeSeconds n))
  | .integer n => some (if n < 0 then .error negativeSpan else .ok (.ofWholeSeconds n.toNat))
  | .float x =>
    if !x.isFinite || Exact.isNegative x then some (.error negativeSpan)
    else (Span.ofSeconds? x).map .ok
  | .other found => some (.error ("invalid type: ".toList ++ found ++
      ", expected a duration as number of seconds or human-readable string".toList))

/-! ## Readings -/

/-- The course of a reading: it refuses or gives something in the end, and on its way hands over
values that stand for spans. -/
inductive Reading (ε α : Type) where
  | refused (e : ε)
  | given (a : α)
  | span (v : SpanValue) (next : Except (List Char) Span → Reading ε α)

namespace Reading

variable {ε α β : Type}

/-- One reading behind the other. -/
def bind : Reading ε α → (α → Reading ε β) → Reading ε β
  | refused e, _ => refused e
  | given a, f => f a
  | span v next, f => span v fun r => (next r).bind f

instance : Monad (Reading ε) where
  pure := given
  bind := bind

/-- The end of a reading, unless one of its values has no answer. -/
def run (words : WordsReader) : Reading ε α → Option (Except ε α)
  | refused e => some (.error e)
  | given a => some (.ok a)
  | span v next => (v.read words).bind fun r => (next r).run words

/-- The values that a reading hands over, up to the first without an answer. -/
def spans (words : WordsReader) : Reading ε α → List SpanValue
  | refused _ => []
  | given _ => []
  | span v next => v :: match v.read words with
    | some r => (next r).spans words
    | none => []

end Reading

/-! ## Texts -/

/-- Takes a configuration text apart. -/
abbrev TextReader (ε : Type) := List Char → Reading ε Settings

/-- Why a configuration text gives no settings. -/
inductive Refusal (ε : Type) where
  /-- The reader refuses the text. -/
  | unread (e : ε)
  | invalid (f : Fault)
  deriving DecidableEq, Repr

/-- Accepts settings without a fault. -/
def accept {ε : Type} (s : Settings) : Except (Refusal ε) Settings :=
  match s.fault? with
  | some f => .error (.invalid f)
  | none => .ok s

/-- The settings of a configuration text, or why it gives none.  There may be no answer. -/
def read {ε : Type} (reader : TextReader ε) (words : WordsReader) (t : List Char) :
    Option (Except (Refusal ε) Settings) :=
  ((reader t).run words).map fun r => r.mapError .unread >>= accept

end Settings

end ShaderPreview
