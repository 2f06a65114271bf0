/-!
# White space

## Main definitions

* `Text.isSpace` — the characters that Unicode counts as white space
* `Text.isBlank` — the texts that show nothing
-/

namespace WorkFarm.Text

/-- Whether Unicode counts a character as white space. -/
def isSpace (c : Char) : Bool :=
  let n := c.toNat
  (9 ≤ n && n ≤ 13) || n == 0x20 || n == 0x85 || n == 0xA0 || n == 0x1680
    || (0x2000 ≤ n && n ≤ 0x200A) || n == 0x2028 || n == 0x2029 || n == 0x202F || n == 0x205F
    || n == 0x3000

/-- Whether a text has no character but white space. -/
def isBlank (s : String) : Bool := s.toList.all isSpace

/-- Every character that the core library counts as white space is white space. -/
theorem isSpace_of_isWhitespace {c : Char} (h : c.isWhitespace) : isSpace c := by
  have : c = ' ' ∨ c = '\t' ∨ c = '\r' ∨ c = '\n' := by
    simpa [Char.isWhitespace, or_assoc] using h
  rcases this with rfl | rfl | rfl | rfl <;> decide

end WorkFarm.Text
