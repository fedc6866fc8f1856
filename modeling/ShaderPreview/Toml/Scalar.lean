import ShaderPreview.Number.Shortest
import ShaderPreview.Number.Word
import ShaderPreview.Toml.Item

/-!
# Scalar values

Readers for strings, keys, numbers, dates and times.
-/

namespace ShaderPreview

namespace Toml

/-- Drops spaces and tabs. -/
def skipBlanks (s : List Char) : List Char := s.dropWhile fun c => c == ' ' || c == '\t'

/-- Reads the end of a line. -/
def newline : Reader Unit
  | '\n' :: s => some ((), s)
  | '\r' :: '\n' :: s => some ((), s)
  | _ => none

/-- A character that may stand in a comment or a string on one line. -/
def isTextChar (c : Char) : Bool := c == '\t' || (0x20 ≤ c.toNat && c.toNat ≠ 0x7f)

/-! ## Strings -/

/-- The value of a hexadecimal digit. -/
def hexValue? (c : Char) : Option Nat :=
  if c.isDigit then some (c.toNat - 48)
  else if 'a' ≤ c ∧ c ≤ 'f' then some (c.toNat - 87)
  else if 'A' ≤ c ∧ c ≤ 'F' then some (c.toNat - 55)
  else none

/-- Reads `count` hexadecimal digits onto `n`. -/
def hexDigits : Nat → Nat → Reader Nat
  | 0, n, s => some (n, s)
  | count + 1, n, c :: s => do hexDigits count (n * 16 + (← hexValue? c)) s
  | _ + 1, _, [] => none

/-- Reads the code point of a character. -/
def codePoint (count : Nat) : Reader Char := fun s => do
  let (n, s) ← hexDigits count 0 s
  if h : n.isValidChar then some (Char.ofNatAux n h, s) else none

/-- Reads what follows a backslash. -/
def escape : Reader Char
  | 'b' :: s => some ('\x08', s)
  | 't' :: s => some ('\t', s)
  | 'n' :: s => some ('\n', s)
  | 'f' :: s => some ('\x0c', s)
  | 'r' :: s => some ('\r', s)
  | '\\' :: s => some ('\\', s)
  | 'u' :: s => codePoint 4 s
  | 'U' :: s => codePoint 8 s
  | c :: s => if c = '\x22' then some (c, s) else none
  | [] => none

/-- Reads the rest of a string on one line; the fuel is at least its length. -/
def basicRest : Nat → Reader (List Char)
  | 0, _ => none
  | _ + 1, [] => none
  | fuel + 1, c :: s =>
    if c = '\x22' then some ([], s)
    else if c = '\\' then do
      let (d, s) ← escape s
      let (t, s) ← basicRest fuel s
      return (d :: t, s)
    else if isTextChar c then do
      let (t, s) ← basicRest fuel s
      return (c :: t, s)
    else none

/-- Reads the rest of a string without escapes on one line. -/
def literalRest : Reader (List Char)
  | [] => none
  | c :: s =>
    if c = '\x27' then some ([], s)
    else if isTextChar c then (literalRest s).map fun (t, s) => (c :: t, s)
    else none

/-- Drops blanks and line ends. -/
def skipBlankLines : List Char → List Char
  | '\r' :: '\n' :: s => skipBlankLines s
  | c :: s => if c == ' ' || c == '\t' || c == '\n' then skipBlankLines s else c :: s
  | [] => []

/-- Reads three quotes, and up to two more in front of them that belong to the string. -/
def closeLong (q : Char) : Reader (List Char)
  | a :: b :: c :: s =>
    if a = q ∧ b = q ∧ c = q then
      match s with
      | d :: e :: r =>
        if d = q ∧ e = q then some ([q, q], r)
        else if d = q then some ([q], e :: r)
        else some ([], s)
      | [d] => if d = q then some ([q], []) else some ([], s)
      | [] => some ([], [])
    else none
  | _ => none

/-- Reads the rest of a string over several lines, with escapes if `escapes`. -/
def longRest (q : Char) (escapes : Bool) : Nat → Reader (List Char)
  | 0, _ => none
  | fuel + 1, s =>
    match closeLong q s with
    | some answer => some answer
    | none =>
      match s with
      | [] => none
      | c :: r =>
        match newline s with
        | some (_, r) => (longRest q escapes fuel r).map fun (t, s) => ('\n' :: t, s)
        | none =>
          if escapes ∧ c = '\\' then
            if (newline (skipBlanks r)).isSome then longRest q escapes fuel (skipBlankLines r)
            else do
              let (d, r) ← escape r
              let (t, r) ← longRest q escapes fuel r
              return (d :: t, r)
          else if isTextChar c then (longRest q escapes fuel r).map fun (t, s) => (c :: t, s)
          else none

/-- Drops a line end at the front of a string over several lines. -/
def skipFirstNewline (s : List Char) : List Char :=
  match newline s with
  | some (_, r) => r
  | none => s

/-- Reads a string on one line, with either quote. -/
def shortString : Reader (List Char)
  | c :: s =>
    if c = '\x22' then basicRest (s.length + 1) s
    else if c = '\x27' then literalRest s
    else none
  | [] => none

/-- Reads a string of either length, with either quote. -/
def string : Reader (List Char)
  | a :: b :: c :: s =>
    if a = b ∧ b = c ∧ (a = '\x22' ∨ a = '\x27') then
      longRest a (a = '\x22') (s.length + 1) (skipFirstNewline s)
    else shortString (a :: b :: c :: s)
  | s => shortString s

/-! ## Keys -/

/-- A character of a key without quotes. -/
def isBareChar (c : Char) : Bool := c.isAlphanum || c == '_' || c == '-'

/-- Reads a key without dots. -/
def simpleKey : Reader (List Char) := fun s =>
  match shortString s with
  | some answer => some answer
  | none =>
    match s.takeWhile isBareChar with
    | [] => none
    | k => some (k, s.dropWhile isBareChar)

/-- Reads the parts of a dotted key, with blanks around the dots. -/
def keyParts : Nat → Reader (List (List Char))
  | 0, _ => none
  | fuel + 1, s => do
    let (k, s) ← simpleKey (skipBlanks s)
    match skipBlanks s with
    | '.' :: r => (keyParts fuel r).map fun (ks, s) => (k :: ks, s)
    | r => return ([k], r)

/-- Keys and values nest less deeply than this. -/
def nestingLimit : Nat := 80

/-- Reads a dotted key and the blanks behind it: the parts on the way, and the last part. -/
def key : Reader (List (List Char) × List Char) := fun s => do
  let (ks, s) ← keyParts (s.length + 1) s
  let last ← ks.getLast?
  if ks.length < nestingLimit then some ((ks.dropLast, last), s) else none

/-! ## Numbers -/

/-- Reads further digits, each of which may follow an underscore. -/
def moreDigits (isDigit : Char → Bool) : Reader (List Char)
  | '_' :: c :: s =>
    if isDigit c then (moreDigits isDigit s).map fun (t, s) => (c :: t, s) else none
  | ['_'] => none
  | c :: s =>
    if isDigit c then (moreDigits isDigit s).map fun (t, s) => (c :: t, s) else some ([], c :: s)
  | [] => some ([], [])

/-- Reads at least one digit. -/
def digits (isDigit : Char → Bool) : Reader (List Char)
  | c :: s => if isDigit c then (moreDigits isDigit s).map fun (t, s) => (c :: t, s) else none
  | [] => none

/-- Reads a sign, if there is one; the answer says whether it is a minus. -/
def sign : List Char → Bool × List Char
  | '-' :: s => (true, s)
  | '+' :: s => (false, s)
  | s => (false, s)

/-- Reads a decimal number without superfluous zeros in front. -/
def decimalDigits : Reader (List Char)
  | '0' :: s => some (['0'], s)
  | s => digits Char.isDigit s

/-- The number that digits to a base denote. -/
def numberOf (base : Nat) (ds : List Char) : Nat :=
  ds.foldl (fun n c => n * base + (hexValue? c).getD 0) 0

/-- An integer that fits 64 bits. -/
def integerInRange (negative : Bool) (n : Nat) : Option Item :=
  if negative then if n ≤ wordCount 63 then some (.integer (-(n : Int))) else none
  else if n < wordCount 63 then some (.integer n) else none

/-- The base that a letter behind a zero names, with its digits. -/
def base? : Char → Option (Nat × (Char → Bool))
  | 'x' => some (16, fun c => (hexValue? c).isSome)
  | 'o' => some (8, fun c => '0' ≤ c && c ≤ '7')
  | 'b' => some (2, fun c => c == '0' || c == '1')
  | _ => none

/-- Reads an integer in decimal notation. -/
def decimalInteger : Reader Item := fun s => do
  let (negative, s) := sign s
  let (ds, s) ← decimalDigits s
  return (← integerInRange negative (numberOf 10 ds), s)

/-- Reads an integer. -/
def integer : Reader Item
  | '0' :: c :: s =>
    match base? c with
    | some (base, isDigit) => do
      let (ds, s) ← digits isDigit s
      return (← integerInRange false (numberOf base ds), s)
    | none => decimalInteger ('0' :: c :: s)
  | s => decimalInteger s

/-- Reads an exponent, if there is one. -/
def exponent : List Char → Option (Option Int × List Char)
  | c :: s =>
    if c = 'e' ∨ c = 'E' then do
      let (negative, s) := sign s
      let (ds, s) ← digits Char.isDigit s
      let n : Int := numberOf 10 ds
      return (some (if negative then -n else n), s)
    else some (none, c :: s)
  | [] => some (none, [])

/-- Reads the places behind a point, if there is one. -/
def places : List Char → Option (Option (List Char) × List Char)
  | '.' :: s => (digits Char.isDigit s).map fun (ds, s) => (some ds, s)
  | s => some (none, s)

/-- Reads a floating point number in digits: a decimal with a point or an exponent. -/
def decimalFloat : Reader Item := fun s => do
  let (negative, s) := sign s
  let (whole, s) ← decimalDigits s
  let (behind, s) ← places s
  let (e, s) ← exponent s
  if behind.isNone && e.isNone then none
  else
    let behind := behind.getD []
    let x := Decimal.toFloat (numberOf 10 (whole ++ behind)) (e.getD 0 - behind.length)
    if negative then some (.float (-x), s) else if x.isInf then none else some (.float x, s)

/-- Reads an infinity or something that is no number. -/
def specialFloat : Reader Item := fun s =>
  let (negative, s) := sign s
  match s with
  | 'i' :: 'n' :: 'f' :: s =>
    some (.float (if negative then -(1.0 / 0.0) else 1.0 / 0.0), s)
  | 'n' :: 'a' :: 'n' :: s => some (.float (0.0 / 0.0), s)
  | _ => none

/-! ## Dates and times -/

/-- Reads a number of exactly `count` digits between two bounds. -/
def fixedNumber (count low high : Nat) : Reader Nat := fun s =>
  let ds := s.take count
  if ds.length = count ∧ ds.all Char.isDigit ∧ low ≤ numberOf 10 ds ∧ numberOf 10 ds ≤ high then
    some (numberOf 10 ds, s.drop count)
  else none

/-- Reads a character. -/
def char (c : Char) : Reader Unit
  | d :: s => if d = c then some ((), s) else none
  | [] => none

/-- A year with a leap day. -/
def isLeapYear (y : Nat) : Bool := y % 4 == 0 && (y % 100 != 0 || y % 400 == 0)

/-- The number of days of a month. -/
def daysOfMonth (year month : Nat) : Nat :=
  if month = 2 then if isLeapYear year then 29 else 28
  else if month = 4 ∨ month = 6 ∨ month = 9 ∨ month = 11 then 30
  else 31

/-- Reads a date. -/
def date : Reader Unit := fun s => do
  let (year, s) ← fixedNumber 4 0 9999 s
  let (_, s) ← char '-' s
  let (month, s) ← fixedNumber 2 1 12 s
  let (_, s) ← char '-' s
  let (_, s) ← fixedNumber 2 1 (daysOfMonth year month) s
  return ((), s)

/-- Reads a time of day. -/
def time : Reader Unit := fun s => do
  let (_, s) ← fixedNumber 2 0 23 s
  let (_, s) ← char ':' s
  let (_, s) ← fixedNumber 2 0 59 s
  let (_, s) ← char ':' s
  let (_, s) ← fixedNumber 2 0 60 s
  match s with
  | '.' :: c :: r => if c.isDigit then some ((), r.dropWhile Char.isDigit) else none
  | ['.'] => none
  | s => return ((), s)

/-- Reads the distance to universal time, if it is given. -/
def zone : List Char → Option (List Char)
  | 'Z' :: s => some s
  | 'z' :: s => some s
  | c :: s =>
    if c = '+' ∨ c = '-' then do
      let (_, s) ← fixedNumber 2 0 23 s
      let (_, s) ← char ':' s
      let (_, s) ← fixedNumber 2 0 59 s
      return s
    else some (c :: s)
  | [] => some []

/-- Reads a time of day behind a date, if it is given. -/
def timeBehindDate : List Char → Option (List Char)
  | c :: s =>
    if c = 'T' ∨ c = 't' ∨ c = ' ' then
      match time s with
      | some (_, s) => zone s
      | none => some (c :: s)
    else some (c :: s)
  | [] => some []

/-- Reads a date, a time of day, or both. -/
def moment : Reader Item := fun s =>
  match date s with
  | some (_, s) => (timeBehindDate s).map fun s => (.moment, s)
  | none => (time s).map fun (_, s) => (.moment, s)

/-! ## All scalars -/

/-- Reads a truth value. -/
def boolean : Reader Item
  | 't' :: 'r' :: 'u' :: 'e' :: s => some (.boolean true, s)
  | 'f' :: 'a' :: 'l' :: 's' :: 'e' :: s => some (.boolean false, s)
  | _ => none

/-- Reads a value that is neither an array nor a table. -/
def scalar : Reader Item := fun s =>
  ((string s).map fun (t, s) => (Item.text t, s)) <|> boolean s <|> moment s <|> decimalFloat s <|>
    specialFloat s <|> integer s

end Toml

end ShaderPreview
