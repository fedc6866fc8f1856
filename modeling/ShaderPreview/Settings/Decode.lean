import ShaderPreview.Number.SpanText
import ShaderPreview.Number.Word
import ShaderPreview.Settings.Reading
import ShaderPreview.Text.Lines
import ShaderPreview.Text.Quoted
import ShaderPreview.Toml.Document

/-!
# Reading settings from a configuration text

The entries of a configuration are taken in their order, and the first that does not fit decides
the error; that the version is missing is noticed last.  A section is a table, or an array of its
fields in their order.  `textReader` and `wordsReader` read configurations this way, and
`Settings.ofText` is the reading with the two.
-/

namespace ShaderPreview

namespace Settings

/-- What does not fit in a configuration. -/
inductive Mismatch where
  | missingField (name : String)
  | unknownField (name : List Char) (expected : List String)
  | unknownVariant (name : List Char) (expected : List String)
  /-- Neither a name nor a table stands where one of several names is expected. -/
  | notAName
  /-- A table stands for a name, but not with one entry. -/
  | notOneEntry (found : String)
  /-- A table that stands for a name has something in its entry. -/
  | notEmpty (expected : String)
  | notATable (found : String)
  | invalidType (found : List Char) (expected : String)
  | outOfRange (n : Int) (expected : String)
  /-- What stands for a span of time is none. -/
  | notASpan (message : List Char)
  deriving DecidableEq, Repr

/-- Why a configuration text cannot be taken apart. -/
inductive TextError where
  /-- The text is not in the configuration format. -/
  | syntaxError
  | mismatch (m : Mismatch)
  deriving DecidableEq, Repr

/-- Why a configuration could not be read. -/
inductive ReadError where
  /-- The text is not in the configuration format. -/
  | syntaxError
  | mismatch (m : Mismatch)
  | invalid (f : Fault)
  /-- There is no answer: a span of time is beyond the longest one. -/
  | endlessSpan
  deriving DecidableEq, Repr

/-- A name between marks. -/
def marked (name : List Char) : List Char := ['\x60'] ++ name ++ ['\x60']

/-- The names that are expected, as a message lists them. -/
def oneOf : List String → List Char
  | [] => []
  | [a] => marked a.toList
  | [a, b] => marked a.toList ++ " or ".toList ++ marked b.toList
  | names => "one of ".toList ++ Text.join ", ".toList (names.map fun n => marked n.toList)

/-- The text of a mismatch. -/
def Mismatch.message : Mismatch → List Char
  | missingField name => "missing field ".toList ++ marked name.toList
  | unknownField name expected =>
    "unknown field ".toList ++ marked name ++ ", expected ".toList ++ oneOf expected
  | unknownVariant name expected =>
    "unknown variant ".toList ++ marked name ++ ", expected ".toList ++ oneOf expected
  | notAName => "wanted string or table".toList
  | notOneEntry found => "wanted exactly 1 element, ".toList ++ found.toList
  | notEmpty expected => "expected empty ".toList ++ expected.toList
  | notATable found => "expected table, found ".toList ++ found.toList
  | invalidType found expected =>
    "invalid type: ".toList ++ found ++ ", expected ".toList ++ expected.toList
  | outOfRange n expected =>
    "invalid value: integer ".toList ++ marked (toString n).toList ++
      ", expected ".toList ++ expected.toList
  | notASpan message => message

/-- What is wrong with a configuration. -/
def ReadError.reason : ReadError → List Char
  | syntaxError => "the text is not in the configuration format".toList
  | mismatch m => m.message
  | invalid f => f.message.toList
  | endlessSpan => "the number of seconds is too large".toList

/-- An item as a message names it. -/
def describe : Toml.Item → List Char
  | .text s => "string ".toList ++ Text.quoted s
  | .integer n => "integer ".toList ++ marked (toString n).toList
  | .float x => "floating point ".toList ++ marked (Decimal.ofFloat x)
  | .boolean b => "boolean ".toList ++ marked (toString b).toList
  | .moment => "map".toList
  | .array _ => "sequence".toList
  | .table _ _ => "map".toList
  | .tables _ => "sequence".toList

/-- The decoding of an item. -/
abbrev Decoded (α : Type) := Reading TextError α

/-- Something does not fit. -/
def mismatch {α : Type} (m : Mismatch) : Decoded α := .refused (.mismatch m)

/-- Refuses an item. -/
def refuse {α : Type} (i : Toml.Item) (expected : String) : Decoded α :=
  mismatch (.invalidType (describe i) expected)

/-- A whole number below `limit`. -/
def natural (limit : Nat) (expected : String) : Toml.Item → Decoded Nat
  | .integer n =>
    if 0 ≤ n ∧ n < limit then return n.toNat else mismatch (.outOfRange n expected)
  | i => refuse i expected

/-- A number, with or without a point. -/
def number : Toml.Item → Decoded Float
  | .integer n => return Float.ofInt n
  | .float x => return x
  | i => refuse i "f64"

/-- A truth value. -/
def flag : Toml.Item → Decoded Bool
  | .boolean b => return b
  | i => refuse i "a boolean"

/-- A text. -/
def text : Toml.Item → Decoded (List Char)
  | .text s => return s
  | i => refuse i "a string"

/-- What a name stands for. -/
def named {α : Type} (names : List (String × α)) (s : List Char) : Decoded α :=
  match names.find? fun n => n.1.toList = s with
  | some (_, a) => return a
  | none => mismatch (.unknownVariant s (names.map Prod.fst))

/-- A table or an array without anything in it. -/
def nothing : Toml.Item → Decoded Unit
  | .table _ [] | .array [] | .tables [] => return ()
  | .table _ _ | .array _ => mismatch (.notEmpty "table")
  | .tables _ => mismatch (.notEmpty "array")
  | .text _ => mismatch (.notATable "string")
  | .integer _ => mismatch (.notATable "integer")
  | .float _ => mismatch (.notATable "float")
  | .boolean _ => mismatch (.notATable "boolean")
  | .moment => mismatch (.notATable "datetime")

/-- One of several names.  A table stands for one if the name is its key, with nothing in its
entry. -/
def choice {α : Type} (names : List (String × α)) : Toml.Item → Decoded α
  | .text s => named names s
  | .table _ [(k, i)] => do
    let a ← named names k
    nothing i
    return a
  | .table _ [] => mismatch (.notOneEntry "found 0 elements")
  | .table _ _ => mismatch (.notOneEntry "more than 1 element")
  | _ => mismatch .notAName

/-- An item where a span of time is expected. -/
def spanValue : Toml.Item → SpanValue
  | .text s => .words s
  | .integer n => .integer n
  | .float x => .float x
  | i => .other (describe i)

/-- A span of time. -/
def span (i : Toml.Item) : Decoded Span :=
  .span (spanValue i) fun
    | .ok d => return d
    | .error message => mismatch (.notASpan message)

/-- A field of a section: its name, and how its value is set. -/
structure Field (σ : Type) where
  name : String
  set : Toml.Item → σ → Decoded σ

/-- Sets the field of a name. -/
def setField {σ : Type} (fields : List (Field σ)) (s : σ) (k : List Char) (i : Toml.Item) :
    Decoded σ :=
  match fields.find? fun f => f.name.toList = k with
  | some f => f.set i s
  | none => mismatch (.unknownField k (fields.map Field.name))

/-- Sets the fields that a table names, in the order of the table. -/
def setEntries {σ : Type} (fields : List (Field σ)) (s : σ) (es : Toml.Entries) : Decoded σ :=
  es.foldlM (fun s (k, i) => setField fields s k i) s

/-- Sets the fields, in their order, from the items of an array. -/
def setItems {σ : Type} (fields : List (Field σ)) (s : σ) (items : List Toml.Item) : Decoded σ :=
  (fields.zip items).foldlM (fun s (f, i) => f.set i s) s

/-- Sets the fields of a section.  A moment stands for a table with an entry that no section has. -/
def setSection {σ : Type} (fields : List (Field σ)) (expected : String) (i : Toml.Item) (s : σ) :
    Decoded σ :=
  match i with
  | .table _ es => setEntries fields s es
  | .array items => setItems fields s items
  | .tables all => setItems fields s (all.map fun es => .table .header es)
  | .moment => setEntries fields s [(Toml.momentKey, i)]
  | i => refuse i expected

/-- Numbers of 32 bits. -/
def word32 : Toml.Item → Decoded Nat := natural (wordCount 32) "u32"

/-- Numbers of 64 bits. -/
def word64 : Toml.Item → Decoded Nat := natural (wordCount 64) "u64"

/-- Counts of things in memory. -/
def count : Toml.Item → Decoded Nat := natural (wordCount 64) "usize"

/-- The fields of the window section. -/
def windowFields : List (Field WindowSettings) :=
  [⟨"width", fun i w => return { w with width := ← word32 i }⟩,
    ⟨"height", fun i w => return { w with height := ← word32 i }⟩,
    ⟨"title", fun i w => return { w with title := ← text i }⟩]

/-- The names of the power preferences. -/
def powerNames : List (String × PowerPreference) :=
  [("high-performance", .highPerformance), ("low-power", .lowPower), ("none", .none)]

/-- The names of the present modes. -/
def presentNames : List (String × PresentMode) :=
  [("auto-vsync", .autoVsync), ("auto-no-vsync", .autoNoVsync), ("fifo", .fifo),
    ("mailbox", .mailbox), ("immediate", .immediate)]

/-- The fields of the section on the graphics device. -/
def gpuFields : List (Field GpuOptions) :=
  [⟨"power_preference", fun i g => return { g with powerPreference := ← choice powerNames i }⟩,
    ⟨"timer_queries", fun i g => return { g with timerQueries := ← flag i }⟩,
    ⟨"present_mode", fun i g => return { g with presentMode := ← choice presentNames i }⟩]

/-- The fields of the section on measurements. -/
def measureFields : List (Field MeasureSettings) :=
  [⟨"frame_window", fun i m => do
      return { m with telemetry := { m.telemetry with frameWindow := ← count i } }⟩,
    ⟨"gpu_window", fun i m => do
      return { m with telemetry := { m.telemetry with gpuWindow := ← count i } }⟩,
    ⟨"publish_interval", fun i m => return { m with publishInterval := ← word64 i }⟩,
    ⟨"target_interval", fun i m => do
      return { m with telemetry := { m.telemetry with targetInterval := ← span i } }⟩,
    ⟨"drop_factor", fun i m => do
      return { m with telemetry := { m.telemetry with dropFactor := ← number i } }⟩,
    ⟨"reconcile_band", fun i m => do
      return { m with telemetry := { m.telemetry with reconcileBand := ← number i } }⟩,
    ⟨"diagnostics_samples", fun i m => return { m with diagnosticsSamples := ← count i }⟩]

/-- The fields of the playback section. -/
def playbackFields : List (Field PlaybackSettings) :=
  [⟨"start_paused", fun i p => return { p with startPaused := ← flag i }⟩,
    ⟨"frozen_time", fun i p => return { p with frozenTime := ← span i }⟩]

/-- Settings whose version may not have been met yet. -/
structure Partial where
  version : Option Nat
  settings : Settings

/-- The fields of a configuration. -/
def rootFields : List (Field Partial) :=
  [⟨"version", fun i p => return { p with version := some (← word32 i) }⟩,
    ⟨"window", fun i p => do
      let window ← setSection windowFields "struct WindowSettings" i p.settings.window
      return { p with settings := { p.settings with window } }⟩,
    ⟨"gpu", fun i p => do
      let gpu ← setSection gpuFields "struct GpuSettings" i p.settings.gpu
      return { p with settings := { p.settings with gpu } }⟩,
    ⟨"telemetry", fun i p => do
      let measure ← setSection measureFields "struct TelemetrySettings" i p.settings.measure
      return { p with settings := { p.settings with measure } }⟩,
    ⟨"playback", fun i p => do
      let playback ← setSection playbackFields "struct PlaybackSettings" i p.settings.playback
      return { p with settings := { p.settings with playback } }⟩]

/-- The settings that the entries of a configuration give. -/
def ofEntries (es : Toml.Entries) : Decoded Settings := do
  let p ← setEntries rootFields ⟨none, default⟩ es
  match p.version with
  | some version => return { p.settings with version }
  | none => mismatch (.missingField "version")

/-! ## Texts -/

/-- Takes a text in the configuration format apart. -/
def textReader : TextReader TextError := fun t =>
  match Toml.read? t with
  | none => .refused .syntaxError
  | some es => ofEntries es

/-- Reads a span in words. -/
def wordsReader : WordsReader := fun s =>
  match SpanText.read s with
  | .ok d => some (.ok d)
  | .error .endless => none
  | .error e => some (.error e.message)

/-- The refusal as an error. -/
def Refusal.toError : Refusal TextError → ReadError
  | .unread .syntaxError => .syntaxError
  | .unread (.mismatch m) => .mismatch m
  | .invalid f => .invalid f

/-- The settings of a configuration text. -/
def ofText (t : List Char) : Except ReadError Settings :=
  match read textReader wordsReader t with
  | some r => r.mapError Refusal.toError
  | none => .error .endlessSpan

end Settings

end ShaderPreview
