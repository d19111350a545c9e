/-!
Blank characters: the characters with the Unicode White_Space property. Trimming a text drops
them at both ends, which is how names, versions and lists read from configuration are cleaned.
-/

namespace CsiOperator.Text

/-- Whether a character has the Unicode White_Space property. -/
def isBlank (c : Char) : Bool :=
  let n := c.toNat
  (0x09 ≤ n && n ≤ 0x0d) || n = 0x20 || n = 0x85 || n = 0xa0 || n = 0x1680 ||
    (0x2000 ≤ n && n ≤ 0x200a) || n = 0x2028 || n = 0x2029 || n = 0x202f || n = 0x205f ||
    n = 0x3000

/-- The characters of a text without the blanks at its start and end. -/
def trimBlankList (cs : List Char) : List Char :=
  ((cs.dropWhile isBlank).reverse.dropWhile isBlank).reverse

/-- A text without the blanks at its start and end. -/
def trimBlank (s : String) : String := String.ofList (trimBlankList s.toList)

/-- A text without the blanks at its end. -/
def trimBlankEnd (s : String) : String := String.ofList (s.toList.reverse.dropWhile isBlank).reverse

example : trimBlank "  powermax\n" = "powermax" := by decide

/-- Whether two texts are equal when ASCII letters are compared without case. -/
def sameIgnoringCase (a b : String) : Bool := a.toList.map Char.toLower == b.toList.map Char.toLower

end CsiOperator.Text
