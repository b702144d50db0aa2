import Durak.Text.Concealed
import Durak.Text.Symbol

/-!
# Quoted texts in messages

A message quotes a text it complains about between double quotes.  The backslash, the double quote
and the three common controls get a backslash, a character that is not shown gets its number in
braces, and a byte that is no character is written in two hexadecimal digits.  Quoting bytes also
puts a backslash before an apostrophe; quoting a text does not.
-/

set_option autoImplicit false

namespace Durak

/-- The hexadecimal digits of a number, lower case. -/
def hexDigits (number : Nat) : List Char := Nat.toDigits 16 number

/-- How one character appears between quotes. -/
def quotedCharacter (character : Char) : List Char :=
  match character with
  | '\x00' => ['\\', '0']
  | '\t' => ['\\', 't']
  | '\r' => ['\\', 'r']
  | '\n' => ['\\', 'n']
  | '\\' => ['\\', '\\']
  | '"' => ['\\', '"']
  | _ =>
    if isConcealed character then
      '\\' :: 'u' :: '\x7b' :: hexDigits character.toNat ++ ['\x7d']
    else [character]

/-- A text between quotes. -/
def quoted (text : String) : String :=
  String.ofList ('"' :: text.toList.flatMap quotedCharacter ++ ['"'])

/-- The apostrophe. -/
def apostrophe : Char := Char.ofNat 39

/-- How one symbol appears between quotes. -/
def quotedSymbol : Symbol → List Char
  | .character character =>
    if character = apostrophe then ['\\', character] else quotedCharacter character
  | .stray byte =>
    let digits := (hexDigits byte.toNat).map Char.toUpper
    '\\' :: 'x' :: List.replicate (2 - digits.length) '0' ++ digits

/-- Bytes between quotes, read as text as far as they are one. -/
def quotedBytes (bytes : List UInt8) : String :=
  String.ofList ('"' :: (symbols bytes).flatMap quotedSymbol ++ ['"'])

end Durak
