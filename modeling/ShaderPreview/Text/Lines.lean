/-!
# Lines of a text

A line ends at a line feed; a carriage return directly before that line feed belongs to the line
end.  A last line without a line feed keeps a final carriage return, and nothing follows the last
line feed.  `unlines` closes each line with a line feed.
-/

namespace ShaderPreview

namespace Text

/-- The lines of a text, without their ends. -/
def lines : List Char → List (List Char)
  | [] => []
  | '\n' :: s => [] :: lines s
  | '\r' :: '\n' :: s => [] :: lines s
  | c :: s =>
    match lines s with
    | [] => [[c]]
    | l :: ls => (c :: l) :: ls

/-- Each line followed by a line feed. -/
def unlines (ls : List (List Char)) : List Char := ls.flatMap (· ++ ['\n'])

/-- The texts with `sep` between them. -/
def join (sep : List Char) : List (List Char) → List Char
  | [] => []
  | [t] => t
  | t :: ts => t ++ sep ++ join sep ts

end Text

end ShaderPreview
