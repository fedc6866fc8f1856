import ShaderPreview.Text.Lines

/-!
# Checks of texts that are written out

A check of a text that is written out is evaluated, character by character, and what it finds in a
result is then known of the value in it.  By evaluation alone a character of a literal would be decoded
from the bytes of the literal; `map_toList_cons` puts the characters there instead, as
`String.toList_ofList` does for a single literal.
-/

namespace ShaderPreview

/-- The characters of literals, one literal after the other. -/
theorem Text.map_toList_cons (l : List Char) (rest : List String) :
    (String.ofList l :: rest).map String.toList = l :: rest.map String.toList := by
  rw [List.map_cons, String.toList_ofList]

variable {ε α β : Type} {r : Except ε α}

/-- What is found in a result is found in its value. -/
theorem exists_of_map_toOption {f : α → β} {b : β} (h : r.toOption.map f = some b) :
    ∃ a, r = .ok a ∧ f a = b := by
  cases r with
  | error e => cases h
  | ok a => exact ⟨a, rfl, Option.some.inj h⟩

theorem exists_of_isOk (h : r.isOk) : ∃ a, r = .ok a := by
  cases r with
  | error e => cases h
  | ok a => exact ⟨a, rfl⟩

end ShaderPreview
