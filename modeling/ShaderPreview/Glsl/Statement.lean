import ShaderPreview.Glsl.Declaration

/-!
# Reading statements

A statement is typed as soon as its expressions are read.  Statements behind a jump are read, but
their types do not count.  Each statement answers whether what follows it is reached, and whether it
always leaves the function, which a function with an answer has to do at its end.
-/

namespace ShaderPreview

namespace Glsl

/-- How control leaves a statement. -/
structure Flow where
  /-- The statements behind it in the same block are not reached. -/
  jumps : Bool
  /-- Control does not fall off its end; missing for a statement that does nothing. -/
  leaves : Option Bool
  deriving DecidableEq, Repr

namespace Flow

/-- A statement that does nothing. -/
def idle : Flow := ⟨false, none⟩

/-- A statement that control passes through. -/
def passes : Flow := ⟨false, some false⟩

/-- A jump to another place of the function. -/
def leap : Flow := ⟨true, some false⟩

/-- A jump out of the function. -/
def jump : Flow := ⟨true, some true⟩

/-- One statement behind another. -/
def followedBy (f g : Flow) : Flow :=
  if f.jumps then f else ⟨g.jumps, g.leaves.orElse fun _ => f.leaves⟩

/-- A statement in a branch of its own: its jumps do not count behind it. -/
def inBranch (f : Flow) : Bool := f.leaves.getD false

end Flow

namespace Check

/-- Reads a part of a program whose statements are reached only if `reached` holds. -/
def whenReached {α : Type} (reached : Bool) (part : Check α) : Check α := do
  let before := (← get).unreached
  modify fun s => { s with unreached := before || !reached }
  let a ← part
  modify fun s => { s with unreached := before }
  return a

/-- Reads the inside of a loop, or that of a `switch`. -/
def inside {α : Type} (isLoop : Bool) (part : Check α) : Check α := do
  let before ← get
  modify fun s => { s with inLoop := before.inLoop || isLoop, inBreakable := true }
  let a ← part
  modify fun s => { s with inLoop := before.inLoop, inBreakable := before.inBreakable }
  return a

/-- Reads a `continue` or a `break`, which has to belong to something around it. -/
def leap : Check Unit := do
  let l ← next
  let s ← get
  if !(if l.isWord "continue" then s.inLoop else s.inBreakable) then markStatement
  semicolon

/-- Reads an expression that a statement consists of. -/
def statementExpression : Check Unit := do
  let e ← expression (← fuel)
  let _ ← typeOf? false e

/-- Reads an expression that has a value. -/
def valueExpression : Check Ty := do typeOf (← expression (← fuel))

/-- Reads the condition of a branch. -/
def branchCondition : Check Unit := do wantStatement .bool (← valueExpression)

/-- Reads the condition of a loop, which is negated to leave the loop. -/
def loopCondition : Check Unit := do
  if Ty.bool.clashes (← valueExpression) then markInvalid

/-- A declaration of variables comes next. -/
def atDeclaration : Check Bool := do
  if ← atQualifier then return true
  if ← atTy then
    match (← get).items with
    | _ :: .lexeme l :: _ => return !l.isMark "("
    | _ => return true
  else return false

/-- Reads a declaration of variables in a function body. -/
def localDeclaration : Check Unit := do
  let fuel ← fuel
  let q ← qualifiers fuel .empty
  let l ← peek
  match ← ty? fuel with
  | some t => declarators .body q t fuel
  | none => note l.offset "Declaration cannot have void type".toList

/-- Reads the condition in the head of a `for` loop, which may declare a variable. -/
def forCondition : Check Unit := do
  if (← atQualifier) || (← atTy) then
    let fuel ← fuel
    let q ← qualifiers fuel .empty
    let t ← ty
    let l ← name
    expect "=" "Assign"
    let given ← initialValue t fuel
    wantStatement t given
    declareLocal ⟨l.text, t, !q.isConst, true⟩ l.offset
    if Ty.bool.clashes t then markInvalid
  else loopCondition

/-- Reads the head of a `for` loop behind its parenthesis. -/
def forHead : Check Unit := do
  if !(← skipMark ";") then
    if (← atQualifier) || (← atTy) then localDeclaration
    else
      statementExpression
      semicolon
  if !(← skipMark ";") then
    forCondition
    semicolon
  if !(← atMark ")") then statementExpression
  expect ")" "RightParen"

/-- Reads the value of a `return`, given the type of the answer of the function. -/
def returned (result : Option Ty) : Check Unit := do
  if ← atMark ";" then
    semicolon
    if result.isSome then markStatement
  else
    let e ← expression (← fuel)
    semicolon
    let t ← typeOf e
    match result with
    | some r => wantStatement r t
    | none => markStatement

/-- Another branch follows. -/
def atElse : Check Bool := do
  match ← peek? with
  | some l => return l.isWord "else"
  | none => return false

/-- The lexeme ends the statements of a case. -/
def endsCase (l : Lexeme) : Bool := l.isWord "case" || l.isWord "default" || l.isMark "\x7d"

mutual

/-- Reads a statement of a function with the given answer. -/
def statement (result : Option Ty) : Nat → Check Flow
  | 0 => tooDeep
  | n + 1 => do
    if ← atDeclaration then
      localDeclaration
      return .idle
    let l ← peek
    if l.isWord "continue" || l.isWord "break" then
      leap
      return .leap
    else if l.isWord "discard" then
      let _ ← next
      semicolon
      return .jump
    else if l.isWord "return" then
      let _ ← next
      returned result
      return .jump
    else if l.isWord "if" then
      let _ ← next
      expect "(" "LeftParen"
      branchCondition
      expect ")" "RightParen"
      let accept ← statement result n
      let reject ←
        if ← atElse then
          let _ ← next
          statement result n
        else pure .passes
      return ⟨false, some (accept.inBranch && reject.inBranch)⟩
    else if l.isWord "switch" then
      let _ ← next
      expect "(" "LeftParen"
      let t ← valueExpression
      if t.isKnown && t != .scalar .int && t != .scalar .uint then markStatement
      expect ")" "RightParen"
      expect "\x7b" "LeftBrace"
      return ⟨false, some (← inside false (cases result n false true))⟩
    else if l.isWord "while" then
      let _ ← next
      expect "(" "LeftParen"
      loopCondition
      expect ")" "RightParen"
      let _ ← inside true (statement result n)
      return .passes
    else if l.isWord "do" then
      let _ ← next
      let flow ← inside true (statement result n)
      let w ← next
      if !w.isWord "while" then unexpected "While" w
      expect "(" "LeftParen"
      whenReached (!flow.jumps) loopCondition
      expect ")" "RightParen"
      return .passes
    else if l.isWord "for" then
      let _ ← next
      openBlock
      expect "(" "LeftParen"
      forHead
      let _ ← inside true (statement result n)
      closeBlock
      return .passes
    else if l.isMark "\x7b" then
      let _ ← next
      block result n
    else if l.isMark ";" then
      let _ ← next
      return .idle
    else
      statementExpression
      semicolon
      return .passes

/-- Reads the statements of a block up to its closing brace. -/
def block (result : Option Ty) : Nat → Check Flow
  | 0 => tooDeep
  | n + 1 => do
    openBlock
    let flow ← statements result (·.isMark "\x7d") n .idle
    expect "\x7d" "RightBrace"
    closeBlock
    return ⟨flow.jumps, some flow.inBranch⟩

/-- Reads statements until a lexeme that ends them. -/
def statements (result : Option Ty) (ends : Lexeme → Bool) : Nat → Flow → Check Flow
  | 0, _ => tooDeep
  | n + 1, flow => do
    if ends (← peek) then return flow
    let g ← whenReached (!flow.jumps) (statement result n)
    statements result ends n (flow.followedBy g)

/-- Reads the cases of a `switch` up to its closing brace; the answer is whether control never falls
off its end.  A case without a jump goes on in the next one. -/
def cases (result : Option Ty) : Nat → Bool → Bool → Check Bool
  | 0, _, _ => tooDeep
  | n + 1, hasDefault, leaves => do
    let l ← next
    if l.isMark "\x7d" then return hasDefault && leaves
    if l.isWord "case" then
      let fuel ← fuel
      let e ← choice fuel (← operand fuel)
      let _ ← typeOf e
    else if !l.isWord "default" then unexpected "Case, Default or RightBrace" l
    expect ":" "Colon"
    let flow ← statements result endsCase n .idle
    let goesOn := !flow.jumps && !(← atMark "\x7d")
    cases result n (hasDefault || l.isWord "default") (leaves && (goesOn || flow.inBranch))

end

end Check

end Glsl

end ShaderPreview
