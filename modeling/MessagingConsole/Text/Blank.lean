/-!
# Blanks

The characters with the Unicode property `White_Space`, and cutting texts at them.
All functions here are on lists of characters.
-/

namespace MessagingConsole.Text

/-- Whether a character has the property `White_Space`. -/
def isBlank (c : Char) : Bool :=
  let n := c.toNat
  (9 ≤ n && n ≤ 13) || n == 0x20 || n == 0x85 || n == 0xA0 || n == 0x1680 ||
    (0x2000 ≤ n && n ≤ 0x200A) || n == 0x2028 || n == 0x2029 || n == 0x202F ||
    n == 0x205F || n == 0x3000

/-- A text without the blanks at its end. -/
def trimRight (cs : List Char) : List Char :=
  (cs.reverse.dropWhile isBlank).reverse

/-- A text without the blanks at its two ends. -/
def trim (cs : List Char) : List Char :=
  trimRight (cs.dropWhile isBlank)

/-- The longest beginning without a blank. -/
def firstWord (cs : List Char) : List Char :=
  cs.takeWhile (! isBlank ·)

/-- What follows the longest beginning without a blank. -/
def afterFirstWord (cs : List Char) : List Char :=
  cs.dropWhile (! isBlank ·)

end MessagingConsole.Text
