/-!
# Blank characters

Settings and command lines are trimmed of every character with the Unicode property of being white
space, not only of the ASCII blanks.
-/

set_option autoImplicit false

namespace Durak

/-- Whether a character is white space. -/
def isBlank (character : Char) : Bool :=
  let code := character.toNat
  (9 ≤ code && code ≤ 13) || code == 0x20 || code == 0x85 || code == 0xA0 || code == 0x1680 ||
    (0x2000 ≤ code && code ≤ 0x200A) || code == 0x2028 || code == 0x2029 || code == 0x202F ||
    code == 0x205F || code == 0x3000

/-- The characters between the blanks at both ends. -/
def trimBlanks (characters : List Char) : List Char :=
  ((characters.dropWhile isBlank).reverse.dropWhile isBlank).reverse

/-- A text without the blanks at both ends. -/
def trim (text : String) : String := String.ofList (trimBlanks text.toList)

end Durak
