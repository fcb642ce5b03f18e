import ScannerDispatch.Text.Ranges

/-!
Blank characters: those with the Unicode property White_Space.

* `isBlank` is the property; `isBlank_of_isWhitespace` says that it extends the blanks of ASCII.
-/

namespace ScannerDispatch.Text

/-- The code points with the property White_Space. -/
def blanks : RangeTable := [
  (0x0009, 0x000D), (0x0020, 0x0020), (0x0085, 0x0085), (0x00A0, 0x00A0), (0x1680, 0x1680),
  (0x2000, 0x200A), (0x2028, 0x2029), (0x202F, 0x202F), (0x205F, 0x205F), (0x3000, 0x3000)]

/-- Does `c` have the property White_Space? -/
def isBlank (c : Char) : Bool :=
  blanks.has c.toNat

theorem isBlank_of_isWhitespace {c : Char} (h : c.isWhitespace = true) : isBlank c = true := by
  simp only [Char.isWhitespace, Bool.or_eq_true, decide_eq_true_eq] at h
  rcases h with ((rfl | rfl) | rfl) | rfl <;> decide

end ScannerDispatch.Text
