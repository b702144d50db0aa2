import Durak.Json.Document
import Durak.Text.Symbol

/-!
# Reading JSON

The grammar is that of RFC 8259, read over symbols so that a text with broken bytes inside its
strings is still read.  Reading stops at the first place where the text breaks the grammar, and
succeeds only if nothing but blanks follows the value; whether the parts have a meaning is left to
whoever uses the document.

The readers count down from the length of the text, which bounds the nesting and the number of
elements; `Document.read?` and the two functions after it hide that count.
-/

set_option autoImplicit false

namespace Durak

namespace Document

/-! ## Blanks and fixed words -/

/-- The four characters that may stand between the parts of a JSON text. -/
def isSeparator (character : Char) : Bool :=
  character == ' ' || character == '\n' || character == '\t' || character == '\r'

/-- Drops blanks. -/
def skipBlanks : List Symbol → List Symbol
  | .character character :: rest =>
    if isSeparator character then skipBlanks rest else .character character :: rest
  | rest => rest

/-- Takes the given characters. -/
def takeWord? : List Char → List Symbol → Option (List Symbol)
  | [], rest => some rest
  | expected :: word, .character character :: rest =>
    if character = expected then takeWord? word rest else none
  | _ :: _, _ => none

/-! ## Numbers -/

/-- Takes the digits at the head of some symbols. -/
def takeDigitRun : List Symbol → List Digit × List Symbol
  | .character character :: rest =>
    match digit? character with
    | none => ([], .character character :: rest)
    | some digit =>
      let (digits, after) := takeDigitRun rest
      (digit :: digits, after)
  | rest => ([], rest)

/-- Takes the point and the digits after it, if there is a point. -/
def takeFraction? : List Symbol → Option (List Digit × List Symbol)
  | .character '.' :: rest =>
    match takeDigitRun rest with
    | ([], _) => none
    | taken => some taken
  | rest => some ([], rest)

/-- Takes the digits of an exponent after its sign. -/
def takeExponentDigits? (negative : Bool) (text : List Symbol) :
    Option (Option (Bool × List Digit) × List Symbol) :=
  match takeDigitRun text with
  | ([], _) => none
  | (digits, rest) => some (some (negative, digits), rest)

/-- Takes an exponent, if there is one. -/
def takeExponent? : List Symbol → Option (Option (Bool × List Digit) × List Symbol)
  | .character mark :: rest =>
    if mark = 'e' ∨ mark = 'E' then
      match rest with
      | .character '+' :: rest => takeExponentDigits? false rest
      | .character '-' :: rest => takeExponentDigits? true rest
      | rest => takeExponentDigits? false rest
    else some (none, .character mark :: rest)
  | rest => some (none, rest)

/-- Takes the digits before the point: a single nought, or digits that do not start with one. -/
def takeWhole? (text : List Symbol) : Option (List Digit × List Symbol) :=
  match text with
  | .character '0' :: rest => some ([Digit.zero], rest)
  | _ =>
    match takeDigitRun text with
    | ([], _) => none
    | taken => some taken

/-- Takes a number after its sign. -/
def takeUnsigned? (negative : Bool) (text : List Symbol) : Option (Numeral × List Symbol) := do
  let (whole, rest) ← takeWhole? text
  let (fraction, rest) ← takeFraction? rest
  let (exponent, rest) ← takeExponent? rest
  some (⟨negative, whole, fraction, exponent⟩, rest)

/-- Takes a number. -/
def takeNumeral? : List Symbol → Option (Numeral × List Symbol)
  | .character '-' :: rest => takeUnsigned? true rest
  | text => takeUnsigned? false text

/-! ## Strings -/

/-- What one step through a string finds: a character, a sixteen-bit unit written by its number, or
a byte that is no character. -/
inductive Piece where
  | plain (character : Char)
  | unit (code : Nat)
  | damaged
  deriving DecidableEq

/-- The value of a hexadecimal digit. -/
def hexDigit? (character : Char) : Option Nat :=
  let code := character.toNat
  if 48 ≤ code ∧ code ≤ 57 then some (code - 48)
  else if 97 ≤ code ∧ code ≤ 102 then some (code - 87)
  else if 65 ≤ code ∧ code ≤ 70 then some (code - 55)
  else none

/-- The unit four hexadecimal digits stand for. -/
def unitOf? : Symbol → Symbol → Symbol → Symbol → Option Nat
  | .character first, .character second, .character third, .character fourth => do
    some ((((← hexDigit? first) * 16 + (← hexDigit? second)) * 16 + (← hexDigit? third)) * 16 +
      (← hexDigit? fourth))
  | _, _, _, _ => none

/-- The character that stands after a backslash in place of another. -/
def escaped? : Char → Option Char
  | '"' => some '"'
  | '\\' => some '\\'
  | '/' => some '/'
  | 'b' => some '\x08'
  | 'f' => some '\x0c'
  | 'n' => some '\n'
  | 'r' => some '\r'
  | 't' => some '\t'
  | _ => none

/-- Takes the pieces of a string up to its closing quote. -/
def takePieces? : List Symbol → Option (List Piece × List Symbol)
  | [] => none
  | .stray _ :: rest => do
    let (pieces, after) ← takePieces? rest
    some (.damaged :: pieces, after)
  | .character character :: rest =>
    if character = '"' then some ([], rest)
    else if character = '\\' then
      match rest with
      | .character 'u' :: first :: second :: third :: fourth :: rest => do
        let code ← unitOf? first second third fourth
        let (pieces, after) ← takePieces? rest
        some (.unit code :: pieces, after)
      | .character mark :: rest => do
        let meant ← escaped? mark
        let (pieces, after) ← takePieces? rest
        some (.plain meant :: pieces, after)
      | _ => none
    else if character.toNat < 32 then none
    else do
      let (pieces, after) ← takePieces? rest
      some (.plain character :: pieces, after)

/-- The characters the pieces of a string stand for.  Two units that are the halves of a surrogate
pair make one character; half a pair, or a byte that is no character, leaves the string without
content. -/
def assemble? : List Piece → Option (List Char)
  | [] => some []
  | .plain character :: rest => (assemble? rest).map (character :: ·)
  | .damaged :: _ => none
  | .unit high :: .unit low :: rest =>
    if 0xD800 ≤ high ∧ high ≤ 0xDBFF then
      if 0xDC00 ≤ low ∧ low ≤ 0xDFFF then
        let code := 0x10000 + (high - 0xD800) * 1024 + (low - 0xDC00)
        (assemble? rest).map (Char.ofNat code :: ·)
      else none
    else if 0xDC00 ≤ high ∧ high ≤ 0xDFFF then none
    else (assemble? (.unit low :: rest)).map (Char.ofNat high :: ·)
  | .unit code :: rest =>
    if 0xD800 ≤ code ∧ code ≤ 0xDFFF then none
    else (assemble? rest).map (Char.ofNat code :: ·)

/-- Takes a string after its opening quote. -/
def takeString? (text : List Symbol) : Option (Option String × List Symbol) := do
  let (pieces, rest) ← takePieces? text
  some ((assemble? pieces).map String.ofList, rest)

/-! ## Values -/

mutual

/-- Takes a value, with blanks before it. -/
def takeValue? : Nat → List Symbol → Option (Document × List Symbol)
  | 0, _ => none
  | fuel + 1, text =>
    match skipBlanks text with
    | .character '\x7b' :: rest =>
      match skipBlanks rest with
      | .character '\x7d' :: rest => some (object [], rest)
      | rest => do
        let (members, rest) ← takeMembers? fuel rest
        some (object members, rest)
    | .character '[' :: rest =>
      match skipBlanks rest with
      | .character ']' :: rest => some (array [], rest)
      | rest => do
        let (items, rest) ← takeItems? fuel rest
        some (array items, rest)
    | .character '"' :: rest => do
      let (content, rest) ← takeString? rest
      some (string content, rest)
    | .character 'n' :: rest => do some (null, ← takeWord? ['u', 'l', 'l'] rest)
    | .character 't' :: rest => do some (boolean true, ← takeWord? ['r', 'u', 'e'] rest)
    | .character 'f' :: rest => do some (boolean false, ← takeWord? ['a', 'l', 's', 'e'] rest)
    | rest => do
      let (numeral, rest) ← takeNumeral? rest
      some (number numeral, rest)

/-- Takes the elements of an array up to its closing bracket. -/
def takeItems? : Nat → List Symbol → Option (List Document × List Symbol)
  | 0, _ => none
  | fuel + 1, text => do
    let (item, rest) ← takeValue? fuel text
    match skipBlanks rest with
    | .character ',' :: rest => do
      let (items, rest) ← takeItems? fuel rest
      some (item :: items, rest)
    | .character ']' :: rest => some ([item], rest)
    | _ => none

/-- Takes the members of an object up to its closing brace. -/
def takeMembers? : Nat → List Symbol → Option (List (Option String × Document) × List Symbol)
  | 0, _ => none
  | fuel + 1, text =>
    match skipBlanks text with
    | .character '"' :: rest => do
      let (name, rest) ← takeString? rest
      let rest ← takeWord? [':'] (skipBlanks rest)
      let (value, rest) ← takeValue? fuel rest
      match skipBlanks rest with
      | .character ',' :: rest => do
        let (members, rest) ← takeMembers? fuel rest
        some ((name, value) :: members, rest)
      | .character '\x7d' :: rest => some ([(name, value)], rest)
      | _ => none
    | _ => none

end

/-- Reads a whole text given as symbols. -/
def read? (text : List Symbol) : Option Document := do
  let (document, rest) ← takeValue? (text.length + 1) text
  if (skipBlanks rest).isEmpty then some document else none

/-- Reads a whole text given as bytes. -/
def ofBytes? (bytes : List UInt8) : Option Document := read? (symbols bytes)

/-- Reads a whole text. -/
def ofText? (text : String) : Option Document := read? (textSymbols text)

end Document

end Durak
