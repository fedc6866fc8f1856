import ShaderPreview.Text.Lines

/-!
# Outcomes

A command either writes its result or fails.  A failure is shown with the chain of its causes, which
are numbered if there are several; a line of a cause stands under the cause's first line.
-/

namespace ShaderPreview

/-- What a program leaves behind: its exit status and what it wrote. -/
structure Outcome where
  exitStatus : Nat
  output : List Char
  errorOutput : List Char
  deriving DecidableEq, Repr

/-- Why a command failed. -/
structure Failure where
  /-- What is written in front of the failure. -/
  report : List Char
  text : List Char
  /-- The causes, from the outermost to the innermost. -/
  causes : List (List Char)
  deriving DecidableEq, Repr

namespace Failure

/-- A failure without a cause. -/
def ofText (text : List Char) : Failure := ⟨[], text, []⟩

/-- A failure with its causes. -/
def because (text : List Char) (causes : List (List Char)) : Failure := ⟨[], text, causes⟩

/-- The text with every line feed followed by `margin`. -/
def hang (margin s : List Char) : List Char :=
  s.flatMap fun c => if c = '\n' then '\n' :: margin else [c]

/-- The margin of a cause's further lines, if the causes are numbered. -/
def numberedMargin : List Char := List.replicate 7 ' '

/-- The margin of a single cause. -/
def singleMargin : List Char := List.replicate 4 ' '

/-- A cause with its number. -/
def numbered (n : Nat) (cause : List Char) : List Char :=
  List.replicate (5 - (Nat.toDigits 10 n).length) ' ' ++ Nat.toDigits 10 n ++ [':', ' '] ++
    hang numberedMargin cause

/-- Causes numbered from `n` on, each on a line of its own. -/
def numberedFrom : Nat → List (List Char) → List Char
  | _, [] => []
  | n, c :: cs => '\n' :: numbered n c ++ numberedFrom (n + 1) cs

/-- The causes as they are shown below the text. -/
def causesText : List (List Char) → List Char
  | [] => []
  | [c] => "\n\nCaused by:\n".toList ++ singleMargin ++ hang singleMargin c
  | cs => "\n\nCaused by:".toList ++ numberedFrom 0 cs

/-- The failure as it is shown. -/
def display (f : Failure) : List Char := f.text ++ causesText f.causes

/-- The failure in one line. -/
def summary (f : Failure) : List Char := Text.join [':', ' '] (f.text :: f.causes)

/-- The outcome of a program that failed. -/
def outcome (f : Failure) : Outcome :=
  ⟨1, [], f.report ++ "Error: ".toList ++ f.display ++ ['\n']⟩

end Failure

/-- The outcome of a command that writes its result. -/
def Outcome.ofResult : Except Failure (List Char) → Outcome
  | .ok output => ⟨0, output, []⟩
  | .error f => f.outcome

theorem Outcome.exitStatus_ofResult (r : Except Failure (List Char)) :
    (Outcome.ofResult r).exitStatus = 0 ↔ ∃ output, r = .ok output := by
  cases r <;> simp [Outcome.ofResult, Failure.outcome]

end ShaderPreview
