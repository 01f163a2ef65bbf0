/-!
# Blank characters

A character is blank when it has the Unicode property of white space; the property holds of
the twenty-five characters listed here and will not gain others. Trimming removes blank
characters at the ends of a text.
-/

namespace PullDiagnostics.Text

/-- White space in the sense of Unicode. -/
def isBlank (c : Char) : Bool :=
  let n := c.toNat
  (0x09 ≤ n && n ≤ 0x0D) || n == 0x20 || n == 0x85 || n == 0xA0 || n == 0x1680 ||
    (0x2000 ≤ n && n ≤ 0x200A) || n == 0x2028 || n == 0x2029 || n == 0x202F ||
    n == 0x205F || n == 0x3000

/-- A text without the blanks it starts with. -/
def trimStart (text : List Char) : List Char :=
  text.dropWhile isBlank

/-- A text without the blanks it ends with. -/
def trimEnd (text : List Char) : List Char :=
  (text.reverse.dropWhile isBlank).reverse

/-- A text without the blanks at its ends. -/
def trim (text : List Char) : List Char :=
  trimEnd (trimStart text)

/-- Text with nothing in it but blanks. -/
def isBlankText (text : List Char) : Bool :=
  text.all isBlank

/-- The two sides of the first occurrence of a character. -/
def splitOnce (c : Char) : List Char → Option (List Char × List Char)
  | [] => none
  | d :: rest =>
      if d = c then some ([], rest)
      else (splitOnce c rest).map fun (before, after) => (d :: before, after)

/-- The order of texts: the first place at which they differ decides. -/
def order (a b : List Char) : Ordering :=
  compareOfLessAndEq a b

/-- Whether a character is a decimal digit. -/
def isDigit (c : Char) : Bool :=
  '0' ≤ c && c ≤ '9'

/-- The number that a text of decimal digits spells; the empty text spells zero. -/
def numeral (digits : List Char) : Nat :=
  digits.foldl (fun n c => 10 * n + (c.toNat - 48)) 0

end PullDiagnostics.Text
