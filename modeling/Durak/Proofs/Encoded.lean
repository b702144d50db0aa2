import Durak.Json.Reader

/-!
# Texts read back from their bytes

The bytes that encode a text are read as the characters of that text, and no byte of them is stray
(`symbols_encodeText`).  A character is encoded by one to four bytes, and which of the four it is
shows in the first byte; so it is enough to follow one character (`symbolsAfter_encoded`), whatever
comes after it.
-/

set_option autoImplicit false

namespace Durak

/-! ## Bytes after the first -/

/-- A byte that carries six bits continues a sequence, and gives them back. -/
theorem continuation_ofNat {bits : Nat} (small : bits < 64) :
    isContinuation (UInt8.ofNat (bits + 128)) = true ∧
      continuationBits (UInt8.ofNat (bits + 128)) = bits := by
  have each : ∀ bits < 64, isContinuation (UInt8.ofNat (bits + 128)) = true ∧
      continuationBits (UInt8.ofNat (bits + 128)) = bits := by decide
  exact each bits small

/-! ## Sequences -/

/-- A character below 128 is its own byte. -/
theorem sequence?_single {code : Nat} (small : code < 128) (rest : List UInt8) :
    sequence? (UInt8.ofNat code) rest = some (Char.ofNat code, 0) := by
  have each : ∀ code < 128, UInt8.ofNat code < 0x80 ∧ (UInt8.ofNat code).toNat = code := by decide
  obtain ⟨below, same⟩ := each code small
  rw [sequence?.eq_def, if_pos below, same]

/-- Two bytes are told by the first. -/
theorem sequence?_pair {high low : Nat} (overlong : 2 ≤ high) (isHigh : high < 32)
    (isLow : low < 64) (rest : List UInt8) :
    sequence? (UInt8.ofNat (high + 192)) (UInt8.ofNat (low + 128) :: rest) =
      some (Char.ofNat (high * 64 + low), 1) := by
  have each : ∀ high < 32, 2 ≤ high → ¬UInt8.ofNat (high + 192) < 0x80 ∧
      0xC2 ≤ UInt8.ofNat (high + 192) ∧ UInt8.ofNat (high + 192) ≤ 0xDF ∧
      (UInt8.ofNat (high + 192) &&& 0x1F).toNat = high := by decide
  obtain ⟨several, least, most, bits⟩ := each high isHigh overlong
  obtain ⟨continues, carried⟩ := continuation_ofNat isLow
  have isPair : pair? (UInt8.ofNat (high + 192)) (UInt8.ofNat (low + 128)) =
      some (Char.ofNat (high * 64 + low)) := by
    rw [pair?, if_pos ⟨least, most, continues⟩, bits, carried]
  rw [sequence?.eq_def, if_neg several]
  match rest with
  | [] => simp only [isPair, Option.map_some]
  | [_] => simp only [isPair, Option.map_some, Option.some_or]
  | _ :: _ :: _ => simp only [isPair, Option.map_some, Option.some_or]

/-- Three bytes are told by the first. -/
theorem sequence?_triple {high middle low : Nat} (isHigh : high < 16) (isMiddle : middle < 64)
    (isLow : low < 64) (overlong : 2048 ≤ high * 4096 + middle * 64 + low)
    (whole : ¬(0xD800 ≤ high * 4096 + middle * 64 + low ∧
      high * 4096 + middle * 64 + low ≤ 0xDFFF)) (rest : List UInt8) :
    sequence? (UInt8.ofNat (high + 224))
        (UInt8.ofNat (middle + 128) :: UInt8.ofNat (low + 128) :: rest) =
      some (Char.ofNat (high * 4096 + middle * 64 + low), 2) := by
  have each : ∀ high < 16, ¬UInt8.ofNat (high + 224) < 0x80 ∧ ¬UInt8.ofNat (high + 224) ≤ 0xDF ∧
      0xE0 ≤ UInt8.ofNat (high + 224) ∧ UInt8.ofNat (high + 224) ≤ 0xEF ∧
      (UInt8.ofNat (high + 224) &&& 0x0F).toNat = high := by decide
  obtain ⟨several, noPair, least, most, bits⟩ := each high isHigh
  obtain ⟨middleContinues, middleCarried⟩ := continuation_ofNat isMiddle
  obtain ⟨lowContinues, lowCarried⟩ := continuation_ofNat isLow
  have notPair : pair? (UInt8.ofNat (high + 224)) (UInt8.ofNat (middle + 128)) = none :=
    if_neg fun isPair => noPair isPair.2.1
  have isTriple : triple? (UInt8.ofNat (high + 224)) (UInt8.ofNat (middle + 128))
      (UInt8.ofNat (low + 128)) = some (Char.ofNat (high * 4096 + middle * 64 + low)) := by
    simp only [triple?, bits, middleCarried, lowCarried]
    rw [if_pos ⟨least, most, middleContinues, lowContinues, overlong, whole⟩]
  rw [sequence?.eq_def, if_neg several]
  match rest with
  | [] => simp only [notPair, isTriple, Option.map_some, Option.map_none, Option.none_or]
  | _ :: _ =>
    simp only [notPair, isTriple, Option.map_some, Option.map_none, Option.none_or, Option.some_or]

/-- Four bytes are told by the first. -/
theorem sequence?_quadruple {high upper middle low : Nat} (isHigh : high < 5) (isUpper : upper < 64)
    (isMiddle : middle < 64) (isLow : low < 64)
    (overlong : 0x10000 ≤ high * 262144 + upper * 4096 + middle * 64 + low)
    (most : high * 262144 + upper * 4096 + middle * 64 + low ≤ 0x10FFFF) (rest : List UInt8) :
    sequence? (UInt8.ofNat (high + 240)) (UInt8.ofNat (upper + 128) ::
        UInt8.ofNat (middle + 128) :: UInt8.ofNat (low + 128) :: rest) =
      some (Char.ofNat (high * 262144 + upper * 4096 + middle * 64 + low), 3) := by
  have each : ∀ high < 5, ¬UInt8.ofNat (high + 240) < 0x80 ∧ ¬UInt8.ofNat (high + 240) ≤ 0xEF ∧
      ¬UInt8.ofNat (high + 240) ≤ 0xDF ∧
      0xF0 ≤ UInt8.ofNat (high + 240) ∧ UInt8.ofNat (high + 240) ≤ 0xF4 ∧
      (UInt8.ofNat (high + 240) &&& 0x07).toNat = high := by decide
  obtain ⟨several, noTriple, noPair, least, last, bits⟩ := each high isHigh
  obtain ⟨upperContinues, upperCarried⟩ := continuation_ofNat isUpper
  obtain ⟨middleContinues, middleCarried⟩ := continuation_ofNat isMiddle
  obtain ⟨lowContinues, lowCarried⟩ := continuation_ofNat isLow
  have notPair : pair? (UInt8.ofNat (high + 240)) (UInt8.ofNat (upper + 128)) = none :=
    if_neg fun isPair => noPair isPair.2.1
  have notTriple : triple? (UInt8.ofNat (high + 240)) (UInt8.ofNat (upper + 128))
      (UInt8.ofNat (middle + 128)) = none := if_neg fun isTriple => noTriple isTriple.2.1
  have isQuadruple : quadruple? (UInt8.ofNat (high + 240)) (UInt8.ofNat (upper + 128))
      (UInt8.ofNat (middle + 128)) (UInt8.ofNat (low + 128)) =
        some (Char.ofNat (high * 262144 + upper * 4096 + middle * 64 + low)) := by
    simp only [quadruple?, bits, upperCarried, middleCarried, lowCarried]
    rw [if_pos ⟨least, last, upperContinues, middleContinues, lowContinues, overlong, most⟩]
  rw [sequence?.eq_def, if_neg several]
  simp only [notPair, notTriple, isQuadruple, Option.map_some, Option.map_none, Option.none_or]

/-! ## Characters -/

/-- Bytes that belong to a character read before are passed over. -/
theorem symbolsAfter_append (further rest : List UInt8) :
    symbolsAfter further.length (further ++ rest) = symbolsAfter 0 rest := by
  induction further with
  | nil => rfl
  | cons byte further hypothesis => exact hypothesis

/-- A character whose bytes are recognised is read, and reading goes on after them. -/
theorem symbolsAfter_of_sequence? {lead : UInt8} {further rest : List UInt8} {character : Char}
    (isSequence : sequence? lead (further ++ rest) = some (character, further.length)) :
    symbolsAfter 0 (lead :: further ++ rest) = .character character :: symbolsAfter 0 rest := by
  rw [List.cons_append, symbolsAfter, isSequence]
  simp only [symbolsAfter_append]

/-- The bytes of a character are read as that character. -/
theorem symbolsAfter_encoded (character : Char) (rest : List UInt8) :
    symbolsAfter 0 (String.utf8EncodeChar character ++ rest) =
      .character character :: symbolsAfter 0 rest := by
  have code : character.val.toNat = character.toNat := rfl
  have isCharacter : Char.ofNat character.toNat = character := Char.ofNat_toNat character
  have valid : character.toNat < 0xD800 ∨ 0xDFFF < character.toNat ∧ character.toNat < 0x110000 :=
    character.valid
  simp only [String.utf8EncodeChar, code]
  generalize character.toNat = value at isCharacter valid
  -- the four lengths of a sequence
  split
  · have read := @sequence?_single value (by omega) rest
    rw [isCharacter] at read
    exact symbolsAfter_of_sequence? read
  split
  · have parts : value / 64 % 32 * 64 + value % 64 = value := by omega
    have read :=
      @sequence?_pair (value / 64 % 32) (value % 64) (by omega) (by omega) (by omega) rest
    rw [parts, isCharacter] at read
    exact symbolsAfter_of_sequence? read
  split
  · have parts : value / 4096 % 16 * 4096 + value / 64 % 64 * 64 + value % 64 = value := by omega
    have read := @sequence?_triple (value / 4096 % 16) (value / 64 % 64) (value % 64) (by omega)
      (by omega) (by omega) (by omega) (by omega) rest
    rw [parts, isCharacter] at read
    exact symbolsAfter_of_sequence? read
  · have parts : value / 262144 % 8 * 262144 + value / 4096 % 64 * 4096 + value / 64 % 64 * 64 +
        value % 64 = value := by omega
    have read := @sequence?_quadruple (value / 262144 % 8) (value / 4096 % 64) (value / 64 % 64)
      (value % 64) (by omega) (by omega) (by omega) (by omega) (by omega) (by omega) rest
    rw [parts, isCharacter] at read
    exact symbolsAfter_of_sequence? read

/-- **The bytes of a text are read as its characters.** -/
theorem symbols_encodeText (text : String) : symbols (encodeText text) = textSymbols text := by
  unfold symbols encodeText textSymbols
  induction text.toList with
  | nil => rfl
  | cons character rest hypothesis =>
    rw [List.flatMap_cons, symbolsAfter_encoded, hypothesis, List.map_cons]

/-- A JSON text is read from its bytes as it is from its characters. -/
theorem Document.ofBytes?_encodeText (text : String) :
    ofBytes? (encodeText text) = ofText? text := by
  rw [ofBytes?, symbols_encodeText, ofText?]

end Durak
