import ShaderPreview.Glsl.Lexeme
import ShaderPreview.Number.Word

/-!
# Macros and conditional lines

Directives define macros and choose between lines.  `preprocess` answers the lexemes that are left,
with macros expanded, and the faults of directives in between.  A lexeme from a macro keeps the
place that it has in the definition, and one from an argument the place that it has there.
-/

namespace ShaderPreview

namespace Glsl

/-- A fault and the byte offset it is reported at. -/
structure Fault where
  message : List Char
  offset : Nat
  deriving DecidableEq, Repr

/-- What is left of a program. -/
inductive Item where
  | lexeme (l : Lexeme)
  | fault (f : Fault)
  deriving DecidableEq, Repr

/-- A macro: its parameters, if it takes any, and its body. -/
structure Macro where
  name : List Char
  params : Option (List (List Char))
  body : List Lexeme
  deriving DecidableEq, Repr

/-- Two macros that may stand for one another. -/
def Macro.agrees (m n : Macro) : Bool :=
  m.params == n.params && m.body.map Lexeme.text == n.body.map Lexeme.text

/-- The macros that are defined. -/
abbrev Macros := List Macro

/-- The macro of a name. -/
def Macros.get? (ms : Macros) (name : List Char) : Option Macro := ms.find? fun m => m.name == name

/-- Forgets a macro. -/
def Macros.erase (ms : Macros) (name : List Char) : Macros := ms.filter fun m => m.name != name

/-! ## Expanding -/

/-- A lexeme with the macros that it is not expanded by any more. -/
structure Guarded where
  lexeme : Lexeme
  hidden : List (List Char)

/-- Splits the arguments of a macro off, up to the closing parenthesis, which is answered too. -/
def arguments (depth : Nat) (current : List Guarded) (done : List (List Guarded)) :
    List Guarded → Option (List (List Guarded) × Guarded × List Guarded)
  | [] => none
  | g :: gs =>
    if g.lexeme.isMark "(" then arguments (depth + 1) (current ++ [g]) done gs
    else if g.lexeme.isMark ")" then
      if depth = 0 then some (done ++ [current], g, gs)
      else arguments (depth - 1) (current ++ [g]) done gs
    else if g.lexeme.isMark "," && depth == 0 then arguments 0 [] (done ++ [current]) gs
    else arguments depth (current ++ [g]) done gs

/-- A number that stands for a predefined name. -/
def predefined? (name : List Char) : Option (List Char) :=
  if name = "__VERSION__".toList then some "450".toList
  else if name = "__LINE__".toList ∨ name = "__FILE__".toList then some ['0']
  else none

/-- Puts the arguments of a macro into its body; what comes out is not expanded by the names in
`hidden`. -/
def substitute (m : Macro) (params : List (List Char)) (args : List (List Guarded))
    (hidden : List (List Char)) : List Guarded :=
  m.body.flatMap fun l =>
    match (params.zip args).find? fun p => p.1 == l.text && l.kind == .word with
    | some (_, arg) => arg.map fun g => { g with hidden := hidden ++ g.hidden }
    | none => [⟨l, hidden⟩]

/-- What an expansion leaves: lexemes, and the faults between them. -/
inductive Expanded where
  | lexeme (g : Guarded)
  | fault (f : Fault)

/-- The lexeme, if it is one. -/
def Expanded.lexeme? : Expanded → Option Guarded
  | lexeme g => some g
  | fault _ => none

/-- The fault, if it is one. -/
def Expanded.fault? : Expanded → Option Fault
  | lexeme _ => none
  | fault f => some f

/-- What is left of a program for a lexeme or a fault. -/
def Expanded.toItem : Expanded → Item
  | lexeme g => .lexeme g.lexeme
  | fault f => .fault f

/-- What the first lexeme leaves, and what is to be expanded after it.  The arguments of a macro are
expanded on their own before they are put into its body, so that a macro may occur in an argument of
itself.  What comes of a macro is expanded again, but not by that macro. -/
def expandFirst (ms : Macros) (expandArgument : List Guarded → List Expanded) (g : Guarded)
    (gs : List Guarded) : List Expanded × List Guarded :=
  let fault (message : String) : Expanded := .fault ⟨message.toList, g.lexeme.offset⟩
  let keep := ([.lexeme g], gs)
  if g.lexeme.kind == .stray then ([fault "UnexpectedCharacter"], gs)
  else if g.lexeme.kind != .word || g.hidden.contains g.lexeme.text then keep
  else
    match predefined? g.lexeme.text, ms.get? g.lexeme.text with
    | some digits, _ =>
      ([.lexeme { g with lexeme := { g.lexeme with kind := .number, text := digits } }], gs)
    | none, none => keep
    | none, some m =>
      match m.params, gs with
      | none, _ => ([], m.body.map (⟨·, m.name :: g.hidden⟩) ++ gs)
      | some _, [] => keep
      | some params, p :: rest =>
        if !p.lexeme.isMark "(" then keep
        else
          match arguments 0 [] [] rest with
          | none => ([fault "UnexpectedEndOfInput"], [])
          | some (args, q, rest) =>
            let args := if params = [] ∧ args.length = 1 then [] else args
            if args.length < params.length then ([fault "TooFewDefineArguments"], rest)
            else if params.length < args.length then ([fault "TooManyDefineArguments"], rest)
            else
              let args := args.map expandArgument
              let hidden := m.name :: g.hidden.filter q.hidden.contains
              ((args.flatMap (·.filterMap Expanded.fault?)).map .fault,
                substitute m params (args.map (·.filterMap Expanded.lexeme?)) hidden ++ rest)

/-- Expands macros; the fuel bounds the number of steps. -/
def expand (ms : Macros) : Nat → List Guarded → List Expanded
  | 0, _ => []
  | _ + 1, [] => []
  | fuel + 1, g :: gs =>
    let (done, rest) := expandFirst ms (expand ms fuel) g gs
    done ++ expand ms fuel rest

/-- A bound on the steps of an expansion. -/
def expansionFuel (n : Nat) : Nat := 20000 * (n + 1)

/-- Expands the macros in lexemes. -/
def expandAll (ms : Macros) (ls : List Lexeme) : List Item :=
  (expand ms (expansionFuel ls.length) (ls.map (⟨·, []⟩))).map Expanded.toItem

/-! ## Conditions -/

/-- The value of digits with the notation of a program's numbers. -/
def numberValue (s : List Char) : Int :=
  let digits := s.filter fun c => c != 'u' && c != 'U'
  let base (b : Nat) (ds : List Char) : Nat :=
    ds.foldl (fun n c => n * b + (if c.isDigit then c.toNat - 48 else c.toLower.toNat - 87)) 0
  match digits with
  | '0' :: 'x' :: ds => base 16 ds
  | '0' :: 'X' :: ds => base 16 ds
  | '0' :: ds => base 8 ds
  | ds => base 10 ds

/-- What a shift by `n` places multiplies or divides by; no word is longer than 64 bits. -/
def shiftFactor (n : Int) : Int := wordCount (min n.toNat 64)

/-- The binary operators of a condition, loosest first. -/
def conditionLevels : List (List (String × (Int → Int → Int))) :=
  let ofBool (b : Bool) : Int := if b then 1 else 0
  [[("||", fun a b => ofBool (a != 0 || b != 0))], [("&&", fun a b => ofBool (a != 0 && b != 0))],
    [("|", fun a b => Int.ofNat (a.toNat ||| b.toNat))],
    [("^", fun a b => Int.ofNat (a.toNat ^^^ b.toNat))],
    [("&", fun a b => Int.ofNat (a.toNat &&& b.toNat))],
    [("==", fun a b => ofBool (a == b)), ("!=", fun a b => ofBool (a != b))],
    [("<=", fun a b => ofBool (a ≤ b)), (">=", fun a b => ofBool (b ≤ a)),
      ("<", fun a b => ofBool (a < b)), (">", fun a b => ofBool (b < a))],
    [("<<", fun a b => a * shiftFactor b), (">>", fun a b => a / shiftFactor b)],
    [("+", (· + ·)), ("-", (· - ·))], [("*", (· * ·)), ("/", Int.tdiv), ("%", Int.tmod)]]

mutual

/-- The value of an operand of a condition. -/
def conditionOperand : Nat → List Lexeme → Option (Int × List Lexeme)
  | 0, _ => none
  | fuel + 1, l :: ls =>
    if l.kind == .number then some (numberValue l.text, ls)
    else if l.kind == .word then some (0, ls)
    else if l.isMark "!" then
      (conditionOperand fuel ls).map fun (n, ls) => (if n = 0 then 1 else 0, ls)
    else if l.isMark "-" then (conditionOperand fuel ls).map fun (n, ls) => (-n, ls)
    else if l.isMark "+" then conditionOperand fuel ls
    else if l.isMark "~" then (conditionOperand fuel ls).map fun (n, ls) => (-n - 1, ls)
    else if l.isMark "(" then
      match conditionLevel fuel conditionLevels ls with
      | some (n, r :: rs) => if r.isMark ")" then some (n, rs) else none
      | _ => none
    else none
  | _ + 1, [] => none

/-- The value of a condition with the operators of the given levels. -/
def conditionLevel : Nat → List (List (String × (Int → Int → Int))) → List Lexeme →
    Option (Int × List Lexeme)
  | 0, _, _ => none
  | fuel + 1, [], ls => conditionOperand fuel ls
  | fuel + 1, ops :: levels, ls =>
    match conditionLevel fuel levels ls with
    | some (n, ls) => conditionRest fuel ops levels n ls
    | none => none

/-- Applies further operators of one level, from the left. -/
def conditionRest : Nat → List (String × (Int → Int → Int)) →
    List (List (String × (Int → Int → Int))) → Int → List Lexeme → Option (Int × List Lexeme)
  | 0, _, _, _, _ => none
  | _ + 1, _, _, n, [] => some (n, [])
  | fuel + 1, ops, levels, n, l :: ls =>
    match ops.find? fun o => l.isMark o.1 with
    | none => some (n, l :: ls)
    | some (_, op) =>
      match conditionLevel fuel levels ls with
      | some (m, ls) => conditionRest fuel ops levels (op n m) ls
      | none => none

end

/-- Replaces the questions whether a macro is defined by their answers. -/
def answerDefined (ms : Macros) : List Lexeme → List Lexeme
  | [] => []
  | d :: ls =>
    let answer (n : Lexeme) : Lexeme :=
      { d with kind := .number, text := if (ms.get? n.text).isSome then ['1'] else ['0'] }
    if d.isWord "defined" then
      match ls with
      | p :: n :: q :: r =>
        if p.isMark "(" && q.isMark ")" then answer n :: answerDefined ms r
        else answer p :: answerDefined ms (n :: q :: r)
      | [n, m] => [answer n, m]
      | [n] => [answer n]
      | [] => [d]
    else d :: answerDefined ms ls

/-- Whether a condition holds; one that cannot be read does not. -/
def conditionHolds (ms : Macros) (ls : List Lexeme) : Bool :=
  let items := expandAll ms (answerDefined ms ls)
  let ls := items.filterMap fun
    | .lexeme l => some l
    | .fault _ => none
  match conditionLevel (20 * (ls.length + 20)) conditionLevels ls with
  | some (n, _) => n != 0
  | none => false

/-! ## Directives -/

/-- A conditional that is open. -/
structure Conditional where
  /-- Where it was opened. -/
  offset : Nat
  /-- The lines around it count. -/
  outer : Bool
  /-- Its lines count at this point. -/
  active : Bool
  /-- Some branch of it counted. -/
  taken : Bool
  /-- Its last branch was opened. -/
  closing : Bool

/-- The state between two lines. -/
structure Preprocessor where
  macros : Macros
  conditionals : List Conditional

namespace Preprocessor

/-- Lines count at this point. -/
def active (p : Preprocessor) : Bool := (p.conditionals.head?.map Conditional.active).getD true

/-- Opens a conditional. -/
def openConditional (p : Preprocessor) (offset : Nat) (holds : Bool) : Preprocessor :=
  let now := p.active && holds
  { p with conditionals := ⟨offset, p.active, now, now, false⟩ :: p.conditionals }

/-- Reads the names of parameters up to the closing parenthesis. -/
def parameters : List Lexeme → Option (List (List Char) × List Lexeme)
  | [] => none
  | l :: ls =>
    if l.isMark ")" then some ([], ls)
    else if l.isMark "," then parameters ls
    else (parameters ls).map fun (ps, r) => (l.text :: ps, r)

/-- Reads a macro behind its name. -/
def readMacro (name : Lexeme) (ls : List Lexeme) : Macro :=
  match ls with
  | l :: r =>
    if l.isMark "(" && !l.spaced then
      match parameters r with
      | some (ps, body) => ⟨name.text, some ps, body⟩
      | none => ⟨name.text, some [], []⟩
    else ⟨name.text, none, ls⟩
  | [] => ⟨name.text, none, []⟩

/-- A fault at a lexeme. -/
def faultAt (l : Lexeme) (message : String) : List Item := [.fault ⟨message.toList, l.offset⟩]

/-- Carries out a definition. -/
def define (p : Preprocessor) (directive : Lexeme) : List Lexeme → List Item × Preprocessor
  | [] => (faultAt directive "UnexpectedNewLine", p)
  | name :: ls =>
    let m := readMacro name ls
    match p.macros.get? name.text with
    | some old =>
      if old.agrees m then ([], p) else (faultAt name "DefineRedefined", p)
    | none => ([], { p with macros := m :: p.macros })

/-- Whether the macro named first is defined. -/
def isDefined (p : Preprocessor) (ls : List Lexeme) : Bool :=
  match ls with
  | n :: _ => (p.macros.get? n.text).isSome
  | [] => false

/-- Opens another branch of the innermost conditional. -/
def branch (p : Preprocessor) (holds : Bool) (isLast : Bool) (c : Conditional)
    (cs : List Conditional) : Preprocessor :=
  let now := c.outer && !c.taken && holds
  { p with
    conditionals :=
      { c with active := now, taken := c.taken || now, closing := isLast } :: cs }

/-- Carries out a directive that opens, continues or closes a conditional. -/
def conditional? (p : Preprocessor) (d : Lexeme) (ls : List Lexeme) :
    Option (List Item × Preprocessor) :=
  if d.isWord "if" then
    some ([], p.openConditional d.offset (p.active && conditionHolds p.macros ls))
  else if d.isWord "ifdef" then some ([], p.openConditional d.offset (p.isDefined ls))
  else if d.isWord "ifndef" then some ([], p.openConditional d.offset (!p.isDefined ls))
  else if d.isWord "elif" then
    match p.conditionals with
    | [] => some (faultAt d "ElifOutsideOfBlock", p)
    | c :: cs =>
      if c.closing then some (faultAt d "ElifAfterElse", p)
      else
        some ([], p.branch (c.outer && !c.taken && conditionHolds p.macros ls) false c cs)
  else if d.isWord "else" then
    match p.conditionals with
    | [] => some (faultAt d "ElseOutsideOfBlock", p)
    | c :: cs =>
      if c.closing then some (faultAt d "MoreThanOneElse", p)
      else some ([], p.branch true true c cs)
  else if d.isWord "endif" then
    match p.conditionals with
    | [] => some (faultAt d "EndifOutsideOfBlock", p)
    | _ :: cs => some ([], { p with conditionals := cs })
  else none

/-- Carries out a directive, given the lexemes behind the number sign. -/
def directive (p : Preprocessor) : List Lexeme → List Item × Preprocessor
  | [] => ([], p)
  | d :: ls =>
    match p.conditional? d ls with
    | some answer => answer
    | none =>
      if !p.active then ([], p)
      else if d.isWord "define" then p.define d ls
      else if d.isWord "undef" then
        match ls with
        | n :: _ => ([], { p with macros := p.macros.erase n.text })
        | [] => (faultAt d "UnexpectedNewLine", p)
      else if d.isWord "error" then (faultAt d "ErrorDirective", p)
      else if d.isWord "version" || d.isWord "extension" || d.isWord "pragma" || d.isWord "line"
      then ([], p)
      else (faultAt d "UnknownDirective", p)

/-- The faults at the end of a program: conditionals that are open, the innermost first. -/
def finish (p : Preprocessor) : List Item :=
  p.conditionals.map fun c => .fault ⟨"UnfinishedBlock".toList, c.offset⟩

end Preprocessor

/-- The lexemes of each line. -/
def lexemeLines (ls : List Lexeme) : List (List Lexeme) :=
  ls.foldr (fun l acc =>
    if l.kind == .lineEnd then [] :: acc
    else
      match acc with
      | line :: lines => (l :: line) :: lines
      | [] => [[l]]) [[]]

/-- Runs over the lines; lexemes that are not expanded yet wait in `pending`, so that the arguments
of a macro may stand on several lines. -/
def preprocessLines (p : Preprocessor) (pending : List Lexeme) :
    List (List Lexeme) → List Item
  | [] => expandAll p.macros pending ++ p.finish
  | line :: lines =>
    match line with
    | h :: rest =>
      if h.isMark "#" then
        let (items, after) := p.directive rest
        expandAll p.macros pending ++ items ++ preprocessLines after [] lines
      else preprocessLines p (if p.active then pending ++ line else pending) lines
    | [] => preprocessLines p pending lines

/-- What is left of a program when its directives are carried out. -/
def preprocess (source : List Char) : List Item :=
  preprocessLines ⟨[], []⟩ [] (lexemeLines (lexemes source))

end Glsl

end ShaderPreview
