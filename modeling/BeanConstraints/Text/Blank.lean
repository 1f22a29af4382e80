/-
# Blank characters

White space as the Unicode property `White_Space` has it, and the removal of
blanks around a text. Names in lists and settings on the command line are
trimmed by this rule, so a no-break space counts as blank and a zero-width
space does not.
-/

namespace BeanConstraints.Text

/-- The 25 code points with the property `White_Space`. -/
def isBlank (c : Char) : Bool :=
  let n := c.toNat
  (9 ≤ n && n ≤ 13) || n == 0x20 || n == 0x85 || n == 0xA0 || n == 0x1680 ||
    (0x2000 ≤ n && n ≤ 0x200A) || n == 0x2028 || n == 0x2029 || n == 0x202F ||
    n == 0x205F || n == 0x3000

/-- Drop the blanks at the end, keeping those that a later character protects. -/
def dropTrailingBlanks (cs : List Char) : List Char :=
  (cs.reverse.dropWhile isBlank).reverse

/-- Drop the blanks at both ends. -/
def trimChars (cs : List Char) : List Char :=
  dropTrailingBlanks (cs.dropWhile isBlank)

/-- Drop the blanks at both ends of a text. -/
def trim (s : String) : String :=
  String.ofList (trimChars s.toList)

@[simp]
theorem toList_trim (s : String) : (trim s).toList = trimChars s.toList := by
  simp [trim]

end BeanConstraints.Text
