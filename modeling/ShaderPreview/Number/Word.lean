/-!
# Machine words

A word of `n` bits takes `2 ^ n` values, from zero up.
-/

namespace ShaderPreview

/-- The number of words of the given number of bits. -/
def wordCount (bits : Nat) : Nat := Nat.pow 2 bits

/-- The number of words of 63 bits. -/
theorem wordCount_63 : wordCount 63 = 9223372036854775808 := rfl

/-- The number of words of 64 bits. -/
theorem wordCount_64 : wordCount 64 = 18446744073709551616 := rfl

end ShaderPreview
