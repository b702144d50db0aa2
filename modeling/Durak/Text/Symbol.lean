/-!
# Bytes as characters

Commands arrive as bytes that may or may not be UTF-8.  `symbols` reads them as characters as far
as it can: each well-formed sequence becomes one character, and every byte that belongs to none is
kept as a stray byte.  No ASCII byte is ever swallowed by a broken sequence before it, so the
structure of a text survives damage inside its strings.

Well-formed sequences are those of the Unicode standard: no overlong forms, no surrogates, nothing
above `U+10FFFF`.
-/

set_option autoImplicit false

namespace Durak

/-- A character, or a byte that is part of none. -/
inductive Symbol where
  | character (value : Char)
  | stray (byte : UInt8)
  deriving DecidableEq

/-- Whether a byte can continue a sequence. -/
def isContinuation (byte : UInt8) : Bool := byte &&& 0xC0 == 0x80

/-- The six bits a continuation byte carries. -/
def continuationBits (byte : UInt8) : Nat := (byte &&& 0x3F).toNat

/-- The character a sequence of two bytes stands for. -/
def pair? (lead second : UInt8) : Option Char :=
  if 0xC2 ≤ lead ∧ lead ≤ 0xDF ∧ isContinuation second then
    some (Char.ofNat ((lead &&& 0x1F).toNat * 64 + continuationBits second))
  else none

/-- The character a sequence of three bytes stands for. -/
def triple? (lead second third : UInt8) : Option Char :=
  let code := (lead &&& 0x0F).toNat * 4096 + continuationBits second * 64 + continuationBits third
  if 0xE0 ≤ lead ∧ lead ≤ 0xEF ∧ isContinuation second ∧ isContinuation third ∧ 0x800 ≤ code ∧
      ¬(0xD800 ≤ code ∧ code ≤ 0xDFFF) then
    some (Char.ofNat code)
  else none

/-- The character a sequence of four bytes stands for. -/
def quadruple? (lead second third fourth : UInt8) : Option Char :=
  let code := (lead &&& 0x07).toNat * 262144 + continuationBits second * 4096 +
    continuationBits third * 64 + continuationBits fourth
  if 0xF0 ≤ lead ∧ lead ≤ 0xF4 ∧ isContinuation second ∧ isContinuation third ∧
      isContinuation fourth ∧ 0x10000 ≤ code ∧ code ≤ 0x10FFFF then
    some (Char.ofNat code)
  else none

/-- The character that begins with a byte, and how many further bytes it takes. -/
def sequence? (lead : UInt8) (rest : List UInt8) : Option (Char × Nat) :=
  if lead < 0x80 then some (Char.ofNat lead.toNat, 0)
  else
    match rest with
    | second :: third :: fourth :: _ =>
      ((pair? lead second).map (·, 1)).or
        (((triple? lead second third).map (·, 2)).or
          ((quadruple? lead second third fourth).map (·, 3)))
    | [second, third] =>
      ((pair? lead second).map (·, 1)).or ((triple? lead second third).map (·, 2))
    | [second] => (pair? lead second).map (·, 1)
    | [] => none

/-- Reads bytes as symbols after leaving out the first few. -/
def symbolsAfter : Nat → List UInt8 → List Symbol
  | _, [] => []
  | skipped + 1, _ :: rest => symbolsAfter skipped rest
  | 0, lead :: rest =>
    match sequence? lead rest with
    | some (character, further) => .character character :: symbolsAfter further rest
    | none => .stray lead :: symbolsAfter 0 rest

/-- Reads bytes as symbols. -/
def symbols (bytes : List UInt8) : List Symbol := symbolsAfter 0 bytes

/-- The symbols of a text: its characters. -/
def textSymbols (text : String) : List Symbol := text.toList.map .character

/-- The characters of some symbols, if no byte is stray. -/
def charactersOf? : List Symbol → Option (List Char)
  | [] => some []
  | .character character :: rest => (charactersOf? rest).map (character :: ·)
  | .stray _ :: _ => none

/-- The text that bytes encode, if they encode one. -/
def decodeText? (bytes : List UInt8) : Option String :=
  (charactersOf? (symbols bytes)).map String.ofList

/-- The bytes that encode a text. -/
def encodeText (text : String) : List UInt8 := text.toList.flatMap String.utf8EncodeChar

end Durak
