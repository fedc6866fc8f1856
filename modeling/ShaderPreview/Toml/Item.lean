/-!
# Configuration items

A configuration text is a tree of items.  The entries of a table are kept in the order in which the
text gives them.
-/

namespace ShaderPreview

namespace Toml

/-- How a table came to be, which decides what may be added to it later. -/
inductive Origin where
  /-- Under a header of its own. -/
  | header
  /-- On the way to a table with a header. -/
  | implied
  /-- By a dotted key. -/
  | dotted
  /-- As a value, between braces. -/
  | inline
  deriving DecidableEq, Repr

/-- A value or a table. -/
inductive Item where
  | text (s : List Char)
  | integer (n : Int)
  | float (x : Float)
  | boolean (b : Bool)
  /-- A date, a time of day, or both. -/
  | moment
  | array (items : List Item)
  | table (origin : Origin) (entries : List (List Char × Item))
  /-- An array of tables, each under a header of its own. -/
  | tables (all : List (List (List Char × Item)))

/-- The key of the single entry of a moment, where it is taken for a table. -/
def momentKey : List Char := "$__toml_private_datetime".toList

/-- The entries of a table. -/
abbrev Entries := List (List Char × Item)

/-- A reader takes a value from the front of a text. -/
abbrev Reader (α : Type) := List Char → Option (α × List Char)

end Toml

end ShaderPreview
