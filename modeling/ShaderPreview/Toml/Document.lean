import ShaderPreview.Toml.Scalar
import ShaderPreview.Toml.Table

/-!
# Reading a configuration text

`Toml.read?` reads a whole text into the entries of its root table, and fails if the text is not in
the format (version 1.0 of it).
-/

namespace ShaderPreview

namespace Toml

/-- Reads a comment up to the end of its line. -/
def comment : List Char → Option (List Char)
  | '#' :: s => some (s.dropWhile isTextChar)
  | _ => none

/-- Drops blanks, comments and line ends. -/
def skipLines : Nat → List Char → List Char
  | 0, s => s
  | fuel + 1, s =>
    let s := skipBlanks s
    match newline s with
    | some (_, r) => skipLines fuel r
    | none =>
      match (comment s).bind newline with
      | some (_, r) => skipLines fuel r
      | none => s

/-- Drops blanks, comments and line ends. -/
def skipGap (s : List Char) : List Char := skipLines (s.length + 1) s

/-- Reads the elements of an array and the bracket behind them. -/
def arrayRest (value : Reader Item) : Nat → Reader (List Item)
  | 0, _ => none
  | fuel + 1, s =>
    match skipGap s with
    | ']' :: r => some ([], r)
    | r => do
      let (v, r) ← value r
      match skipGap r with
      | ',' :: r => (arrayRest value fuel r).map fun (vs, s) => (v :: vs, s)
      | ']' :: r => return ([v], r)
      | _ => none

/-- Reads a key, an equals sign and a value. -/
def pair (value : Reader Item) : Reader ((List (List Char) × List Char) × Item) := fun s => do
  let (k, s) ← key s
  let (_, s) ← char '=' s
  let (v, s) ← value (skipBlanks s)
  return ((k, v), s)

/-- Reads the pairs of an inline table and the brace behind them. -/
def pairsRest (value : Reader Item) :
    Nat → Reader (List ((List (List Char) × List Char) × Item))
  | 0, _ => none
  | fuel + 1, s => do
    let (p, s) ← pair value s
    match skipBlanks s with
    | ',' :: r => (pairsRest value fuel r).map fun (ps, s) => (p :: ps, s)
    | '}' :: r => return ([p], r)
    | _ => none

/-- Reads the rest of an inline table. -/
def inlineRest (value : Reader Item) : Reader Item := fun s =>
  match skipBlanks s with
  | '}' :: r => some (.table .inline [], r)
  | r => do
    let (ps, s) ← pairsRest value (r.length + 1) r
    return (.table .inline (← Entries.ofPairs ps), s)

/-- Reads a value in which arrays and inline tables nest at most `depth` deep. -/
def value : Nat → Reader Item
  | 0, s => scalar s
  | depth + 1, s =>
    match s with
    | '[' :: r => (arrayRest (value depth) (r.length + 1) r).map fun (vs, s) => (.array vs, s)
    | '{' :: r => inlineRest (value depth) r
    | s => scalar s

/-- Reads the rest of a line, which holds no more than a comment. -/
def lineEnd (s : List Char) : Option (List Char) :=
  match (comment (skipBlanks s)).getD (skipBlanks s) with
  | [] => some []
  | r => (newline r).map Prod.snd

/-- Reads one line, or more where a value has more, into a document. -/
def line (d : Draft) (s : List Char) : Option (Draft × List Char) :=
  match skipBlanks s with
  | '[' :: '[' :: r => do
    let ((path, k), r) ← key r
    match r with
    | ']' :: ']' :: r => return (← d.openElement path k, ← lineEnd r)
    | _ => none
  | '[' :: r => do
    let ((path, k), r) ← key r
    match r with
    | ']' :: r => return (← d.openTable path k, ← lineEnd r)
    | _ => none
  | '#' :: r => do return (d, ← lineEnd ('#' :: r))
  | [] => some (d, [])
  | r =>
    match newline r with
    | some (_, r) => some (d, r)
    | none => do
      let (((path, k), v), r) ← pair (value (nestingLimit - 1)) r
      return (← d.addValue path k v, ← lineEnd r)

/-- Reads all lines. -/
def lines : Nat → Draft → List Char → Option Draft
  | _, d, [] => some d
  | 0, _, _ :: _ => none
  | fuel + 1, d, s => do
    let (d, s) ← line d s
    lines fuel d s

/-- The entries of a configuration text; a mark for the byte order in front of it is skipped. -/
def read? (text : List Char) : Option Entries := do
  let text := if text.head? = some '\ufeff' then text.tail else text
  (← lines (text.length + 1) .empty text).close

end Toml

end ShaderPreview
