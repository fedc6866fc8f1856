import ShaderPreview.Toml.Item

/-!
# Building tables

A key may name a place inside other tables.  `Entries.descend` goes there and changes the table it
finds, making the tables on the way.  What may be changed is decided by how a table came to be: a
table under a header is not added to by dotted keys, and an inline table not at all.
-/

namespace ShaderPreview

namespace Toml

namespace Entries

/-- The item of a key. -/
def get? (es : Entries) (k : List Char) : Option Item := (es.find? fun e => e.1 = k).map Prod.snd

/-- Puts an item in the place of the one with the same key, or behind all others. -/
def put (es : Entries) (k : List Char) (i : Item) : Entries :=
  if (es.get? k).isSome then es.map fun e => if e.1 = k then (k, i) else e else es ++ [(k, i)]

/-- Takes an item away. -/
def remove (es : Entries) (k : List Char) : Entries := es.filter fun e => e.1 ≠ k

/-- Goes down a path, by dotted keys or by a header, and changes the table at its end.  The change
sees how that table came to be. -/
def descend {α : Type} (dotted : Bool) (change : Origin → Entries → Option (α × Entries)) :
    List (List Char) → Origin → Entries → Option (α × Entries)
  | [], origin, es => change origin es
  | k :: ks, _, es =>
    match es.get? k with
    | none => do
      let origin := if dotted then Origin.dotted else .implied
      let (a, sub) ← descend dotted change ks origin []
      return (a, es.put k (.table origin sub))
    | some (.table origin sub) =>
      if origin = .inline ∨ (dotted ∧ origin = .header) then none
      else do
        let (a, sub) ← descend dotted change ks origin sub
        return (a, es.put k (.table origin sub))
    | some (.tables all) => do
      let last ← all.getLast?
      let (a, sub) ← descend dotted change ks .header last
      return (a, es.put k (.tables (all.dropLast ++ [sub])))
    | some _ => none

/-- Adds a value under a dotted key to a table. -/
def addValue (es : Entries) (path : List (List Char)) (k : List Char) (v : Item) :
    Option Entries :=
  let add (origin : Origin) (es : Entries) : Option (Unit × Entries) :=
    if (path ≠ [] ∧ origin ≠ .dotted) ∨ (es.get? k).isSome then none
    else some ((), es ++ [(k, v)])
  (descend true add path .header es).map Prod.snd

/-- The entries of an inline table. -/
def ofPairs (pairs : List ((List (List Char) × List Char) × Item)) : Option Entries :=
  pairs.foldlM (fun es ((path, k), v) => addValue es path k v) []

end Entries

/-- A document that is being read: its tables so far, and the table under the last header. -/
structure Draft where
  root : Entries
  /-- The header of the open table; the table before all headers has none. -/
  path : Option (List (List Char) × List Char)
  /-- The open table is an element of an array. -/
  inArray : Bool
  open_ : Entries

namespace Draft

/-- An empty document. -/
def empty : Draft := ⟨[], none, false, []⟩

/-- Puts the open table into its place. -/
def close (d : Draft) : Option Entries :=
  match d.path with
  | none => some d.open_
  | some (path, k) =>
    let store (_ : Origin) (es : Entries) : Option (Unit × Entries) :=
      if d.inArray then
        match es.get? k with
        | some (.tables all) => some ((), es.put k (.tables (all ++ [d.open_])))
        | none => some ((), es.put k (.tables [d.open_]))
        | some _ => none
      else
        match es.get? k with
        | none => some ((), es.put k (.table .header d.open_))
        | some _ => none
    (Entries.descend false store path .header d.root).map Prod.snd

/-- Adds a value to the open table. -/
def addValue (d : Draft) (path : List (List Char)) (k : List Char) (v : Item) : Option Draft := do
  return { d with open_ := ← d.open_.addValue path k v }

/-- Opens the table of a header; a table that was only implied so far moves to the end. -/
def openTable (d : Draft) (path : List (List Char)) (k : List Char) : Option Draft := do
  let root ← d.close
  let pick (_ : Origin) (es : Entries) : Option (Entries × Entries) :=
    match es.get? k with
    | none => some ([], es)
    | some (.table .implied sub) => some (sub, es.remove k)
    | some _ => none
  let (sub, root) ← Entries.descend false pick path .header root
  return ⟨root, some (path, k), false, sub⟩

/-- Opens another element of an array of tables. -/
def openElement (d : Draft) (path : List (List Char)) (k : List Char) : Option Draft := do
  let root ← d.close
  let pick (_ : Origin) (es : Entries) : Option (Unit × Entries) :=
    match es.get? k with
    | none => some ((), es.put k (.tables []))
    | some (.tables _) => some ((), es)
    | some _ => none
  let (_, root) ← Entries.descend false pick path .header root
  return ⟨root, some (path, k), true, []⟩

end Draft

end Toml

end ShaderPreview
