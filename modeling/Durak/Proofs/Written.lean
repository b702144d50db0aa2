import Durak.Codec.Basic
import Durak.Proofs.Numerals

/-!
# What is written reads back

The text of a JSON value is read as the document the value stands for
(`Document.ofText?_text`).  Each reader takes from the head of some symbols what the writer put
there and leaves the rest: a string ends at its own quote, a number before the comma or the closing
bracket that follows it, and an array or an object at its own bracket, which no value inside it
starts with.

The readers count down from the length of the text.  A value is at least one character long and an
element of an array is followed by at least one, so the count lasts.
-/

set_option autoImplicit false

namespace Durak

namespace Document

variable {rest : List Symbol}

/-! ## Strings -/

theorem hexDigit?_hexCharacter {value : Nat} (small : value < 16) :
    hexDigit? (Json.hexCharacter value) = some value := by
  have each : ∀ value < 16, hexDigit? (Json.hexCharacter value) = some value := by decide
  exact each value small

/-- A backslash and a mark are read as the character the mark stands for. -/
theorem takePieces?_escaped {mark meant : Char} (means : escaped? mark = some meant)
    (rest : List Symbol) :
    takePieces? (.character '\\' :: .character mark :: rest) =
      (takePieces? rest).map fun taken => (.plain meant :: taken.1, taken.2) := by
  have notUnit : mark ≠ 'u' := by
    rintro rfl
    cases means
  rw [takePieces?.eq_def]
  simp only [Char.reduceEq, if_false, if_true]
  split
  · rename_i shape
    exact absurd (Symbol.character.inj (List.cons.inj shape).1) notUnit
  · rename_i shape
    cases shape
    rw [means]
    cases takePieces? rest <;> rfl
  · rename_i other
    exact absurd rfl (other mark rest)

/-- A unit that is no half of a pair stands for its character whatever follows. -/
theorem assemble?_unit {code : Nat} (control : code < 32) (pieces : List Piece) :
    assemble? (.unit code :: pieces) = (assemble? pieces).map (Char.ofNat code :: ·) := by
  have noHigh : ¬(0xD800 ≤ code ∧ code ≤ 0xDBFF) := by omega
  have noLow : ¬(0xDC00 ≤ code ∧ code ≤ 0xDFFF) := by omega
  have noHalf : ¬(0xD800 ≤ code ∧ code ≤ 0xDFFF) := by omega
  cases pieces with
  | nil => simp only [assemble?, noHalf, if_false]
  | cons next rest =>
    cases next with
    | plain character => simp only [assemble?, noHalf, if_false]
    | damaged => simp only [assemble?, noHalf, if_false]
    | unit low => simp only [assemble?, noHigh, noLow, if_false]

/-- Each character of a string is read in one step, as a piece that stands for it. -/
theorem exists_takePieces?_writeCharacter (character : Char) :
    ∃ piece,
      (∀ pieces, assemble? (piece :: pieces) = (assemble? pieces).map (character :: ·)) ∧
      ∀ rest, takePieces? ((Json.writeCharacter character).map Symbol.character ++ rest) =
        (takePieces? rest).map fun taken => (piece :: taken.1, taken.2) := by
  unfold Json.writeCharacter
  split
  case h_8 =>
    rename_i noQuote noBackslash _ _ _ _ _
    split
    · rename_i control
      have high := @hexDigit?_hexCharacter (character.toNat / 16) (by omega)
      have low := @hexDigit?_hexCharacter (character.toNat % 16) (by omega)
      have unit : unitOf? (.character '0') (.character '0')
          (.character (Json.hexCharacter (character.toNat / 16)))
          (.character (Json.hexCharacter (character.toNat % 16))) = some character.toNat := by
        have nought : hexDigit? '0' = some 0 := rfl
        simp only [unitOf?, high, low, nought, Option.bind_eq_bind, Option.bind_some]
        congr 1
        omega
      refine ⟨.unit character.toNat, fun pieces => ?_, fun rest => ?_⟩
      · rw [assemble?_unit control, Char.ofNat_toNat]
      show takePieces? (.character '\\' :: .character 'u' :: .character '0' :: .character '0' ::
        .character (Json.hexCharacter (character.toNat / 16)) ::
        .character (Json.hexCharacter (character.toNat % 16)) :: rest) = _
      rw [takePieces?]
      simp only [unit]
      cases takePieces? rest <;> rfl
    · rename_i noControl
      refine ⟨.plain character, fun _ => rfl, fun rest => ?_⟩
      show takePieces? (.character character :: rest) = _
      rw [takePieces?.eq_def]
      simp only
      rw [if_neg noQuote, if_neg noBackslash, if_neg noControl]
      cases takePieces? rest <;> rfl
  all_goals exact ⟨.plain _, fun _ => rfl, takePieces?_escaped rfl⟩

/-- A string is read character by character up to its quote. -/
theorem exists_takePieces?_flatMap (characters : List Char) (rest : List Symbol) :
    ∃ pieces, assemble? pieces = some characters ∧
      takePieces? ((characters.flatMap Json.writeCharacter).map Symbol.character ++
        .character '"' :: rest) = some (pieces, rest) := by
  induction characters with
  | nil => exact ⟨[], rfl, by rw [takePieces?.eq_def]; rfl⟩
  | cons character characters hypothesis =>
    obtain ⟨pieces, assembled, taken⟩ := hypothesis
    obtain ⟨piece, stands, takes⟩ := exists_takePieces?_writeCharacter character
    refine ⟨piece :: pieces, ?_, ?_⟩
    · rw [stands, assembled]
      rfl
    · rw [List.flatMap_cons, List.map_append, List.append_assoc, takes, taken]
      rfl

/-- **A string reads back from the characters it is written in.** -/
theorem takeString?_append (content : String) (rest : List Symbol) :
    takeString? ((content.toList.flatMap Json.writeCharacter).map Symbol.character ++
      .character '"' :: rest) = some (some content, rest) := by
  obtain ⟨pieces, assembled, taken⟩ := exists_takePieces?_flatMap content.toList rest
  simp only [takeString?, taken, assembled, Option.bind_eq_bind, Option.bind_some,
    Option.map_some, String.ofList_toList]

/-! ## Values -/

/-- Whether a character can start a value. -/
def StartsValue (character : Char) : Prop := isSeparator character = false ∧ character ≠ ']'

theorem isSeparator_eq_false_of_digit (digit : Digit) : isSeparator digit.character = false := by
  revert digit
  decide

/-- A number starts with its sign or its first digit. -/
theorem exists_characters_eq_cons {numeral : Numeral} (written : numeral.WellWritten) :
    ∃ first others, numeral.characters = first :: others ∧
      (first = '-' ∨ ∃ digit : Digit, first = digit.character) := by
  obtain ⟨digit, digits, whole⟩ := written.whole.exists_cons
  unfold Numeral.characters
  cases numeral.negative with
  | true => exact ⟨'-', _, rfl, .inl rfl⟩
  | false =>
    rw [whole]
    exact ⟨digit.character, _, rfl, .inr ⟨digit, rfl⟩⟩

theorem skipBlanks_of_solid (first : Char) (solid : isSeparator first = false)
    (rest : List Symbol) :
    skipBlanks (.character first :: rest) = .character first :: rest := by
  simp [skipBlanks, solid]

/-- What starts with a sign or a digit is read as a number. -/
theorem takeValue?_of_number {first : Char}
    (starts : first = '-' ∨ ∃ digit : Digit, first = digit.character) (fuel : Nat)
    (rest : List Symbol) :
    takeValue? (fuel + 1) (.character first :: rest) =
      (takeNumeral? (.character first :: rest)).map fun taken => (.number taken.1, taken.2) := by
  have other : ∀ opening, digit? opening = none → opening ≠ '-' → first ≠ opening := by
    intro opening noDigit noSign
    obtain rfl | ⟨digit, rfl⟩ := starts
    · exact noSign.symm
    · exact digit_character_ne noDigit
  have noBlank : isSeparator first = false := by
    obtain rfl | ⟨digit, rfl⟩ := starts
    · rfl
    · exact isSeparator_eq_false_of_digit digit
  rw [takeValue?, skipBlanks_of_solid first noBlank]
  split
  case h_7 =>
    cases takeNumeral? (.character first :: rest) <;> rfl
  all_goals
    rename_i shape
    exact absurd (Symbol.character.inj (List.cons.inj shape).1) (other _ rfl (by decide))

/-- A value does not start with a blank or a closing bracket. -/
theorem exists_write_eq_cons (value : Json) :
    ∃ first others, value.write = first :: others ∧ StartsValue first := by
  have number : ∀ numeral : Numeral, numeral.WellWritten →
      ∃ first others, numeral.characters = first :: others ∧ StartsValue first := by
    intro numeral written
    obtain ⟨first, others, characters, starts⟩ := exists_characters_eq_cons written
    refine ⟨first, others, characters, ?_⟩
    obtain rfl | ⟨digit, rfl⟩ := starts
    · exact ⟨rfl, by decide⟩
    · exact ⟨isSeparator_eq_false_of_digit digit, digit_character_ne rfl⟩
  cases value with
  | null => exact ⟨_, _, rfl, rfl, by decide⟩
  | boolean value => cases value <;> exact ⟨_, _, rfl, rfl, by decide⟩
  | integer value => exact number _ (Numeral.wellWritten_ofInt value)
  | real value =>
    cases value with
    | finite negative magnitude => exact number _ (Double.wellWritten_serialized negative magnitude)
    | notANumber => exact ⟨_, _, rfl, rfl, by decide⟩
    | infinite negative => exact ⟨_, _, rfl, rfl, by decide⟩
  | string content => exact ⟨_, _, rfl, rfl, by decide⟩
  | array items => exact ⟨_, _, rfl, rfl, by decide⟩
  | object members => exact ⟨_, _, rfl, rfl, by decide⟩

theorem writeItems_cons_cons (item next : Json) (others : List Json) :
    Json.writeItems (item :: next :: others) =
      item.write ++ ',' :: Json.writeItems (next :: others) := rfl

theorem writeMembers_cons_cons (name : String) (value : Json) (next : String × Json)
    (others : List (String × Json)) :
    Json.writeMembers ((name, value) :: next :: others) =
      Json.writeString name ++
        ':' :: (value.write ++ ',' :: Json.writeMembers (next :: others)) := by
  simp [Json.writeMembers]

/-- An array that is not empty starts with the first character of its first element. -/
theorem exists_writeItems_eq_cons (item : Json) (others : List Json) :
    ∃ first rest, Json.writeItems (item :: others) = first :: rest ∧ StartsValue first := by
  obtain ⟨first, rest, characters, starts⟩ := exists_write_eq_cons item
  cases others with
  | nil => exact ⟨first, rest, characters, starts⟩
  | cons next others => exact ⟨first, _, by rw [writeItems_cons_cons, characters]; rfl, starts⟩

/-- An object that is not empty starts with a quote. -/
theorem exists_writeMembers_eq_cons (member : String × Json) (others : List (String × Json)) :
    ∃ rest, Json.writeMembers (member :: others) = '"' :: rest := by
  obtain ⟨name, value⟩ := member
  cases others with
  | nil => exact ⟨_, rfl⟩
  | cons next others => exact ⟨_, rfl⟩

/-- A number is taken whole. -/
theorem takeValue?_numeral {numeral : Numeral} (written : numeral.WellWritten)
    (ends : EndsValue rest) (fuel : Nat) :
    takeValue? (fuel + 1) (numeral.characters.map Symbol.character ++ rest) =
      some (.number numeral, rest) := by
  have taken := takeNumeral?_append written ends
  obtain ⟨first, others, characters, starts⟩ := exists_characters_eq_cons written
  rw [characters] at taken ⊢
  rw [List.map_cons, List.cons_append] at taken ⊢
  rw [takeValue?_of_number starts, taken]
  rfl

/-- A string is taken up to its closing quote. -/
theorem takeString?_writeString (content : String) (rest : List Symbol) :
    ∃ opened, (Json.writeString content).map Symbol.character ++ rest = .character '"' :: opened ∧
      takeString? opened = some (some content, rest) := by
  refine ⟨_, ?_, takeString?_append content rest⟩
  simp [Json.writeString]

/-- An array that is not empty is read element by element. -/
theorem takeValue?_array {first : Char} (starts : StartsValue first) (fuel : Nat)
    (others : List Symbol) :
    takeValue? (fuel + 1) (.character '[' :: .character first :: others) =
      (takeItems? fuel (.character first :: others)).map fun taken =>
        (.array taken.1, taken.2) := by
  rw [takeValue?, skipBlanks_of_solid '[' rfl]
  simp only [skipBlanks_of_solid first starts.1]
  split
  · rename_i shape
    exact absurd (Symbol.character.inj (List.cons.inj shape).1) starts.2
  · cases takeItems? fuel (.character first :: others) <;> rfl

/-- An object that is not empty is read member by member. -/
theorem takeValue?_object (fuel : Nat) (others : List Symbol) :
    takeValue? (fuel + 1) (.character '\x7b' :: .character '"' :: others) =
      (takeMembers? fuel (.character '"' :: others)).map
        fun taken => (.object taken.1, taken.2) := by
  rw [takeValue?, skipBlanks_of_solid '\x7b' rfl]
  simp only [skipBlanks_of_solid '"' rfl]
  split
  · rename_i shape
    exact absurd (Symbol.character.inj (List.cons.inj shape).1) (by decide)
  · cases takeMembers? fuel (.character '"' :: others) <;> rfl

/-- The last member of an object is read up to the closing brace. -/
theorem takeMembers?_last {value : Json} {fuel : Nat} {name : String} {text rest : List Symbol}
    (taken : takeValue? fuel text = some (value.toDocument, .character '\x7d' :: rest)) :
    takeMembers? (fuel + 1)
        ((Json.writeString name).map Symbol.character ++ .character ':' :: text) =
      some ([(some name, value.toDocument)], rest) := by
  obtain ⟨opened, symbols, named⟩ := takeString?_writeString name (.character ':' :: text)
  rw [symbols, takeMembers?, skipBlanks_of_solid '"' rfl]
  simp only [named, skipBlanks_of_solid ':' rfl, skipBlanks_of_solid '\x7d' rfl, takeWord?, if_true,
    taken, Option.bind_eq_bind, Option.bind_some]

/-- Any other member is read up to the comma, and the members after it follow. -/
theorem takeMembers?_next {value : Json} {fuel : Nat} {name : String} {text rest : List Symbol}
    (taken : takeValue? fuel text = some (value.toDocument, .character ',' :: rest)) :
    takeMembers? (fuel + 1)
        ((Json.writeString name).map Symbol.character ++ .character ':' :: text) =
      (takeMembers? fuel rest).map fun later =>
        ((some name, value.toDocument) :: later.1, later.2) := by
  obtain ⟨opened, symbols, named⟩ := takeString?_writeString name (.character ':' :: text)
  rw [symbols, takeMembers?, skipBlanks_of_solid '"' rfl]
  simp only [named, skipBlanks_of_solid ':' rfl, skipBlanks_of_solid ',' rfl, takeWord?, if_true,
    taken, Option.bind_eq_bind, Option.bind_some]
  cases takeMembers? fuel rest <;> rfl

mutual

/-- A value is taken whole. -/
theorem takeValue?_write : ∀ (value : Json) (fuel : Nat) (rest : List Symbol),
    EndsValue rest → value.write.length ≤ fuel →
      takeValue? fuel (value.write.map Symbol.character ++ rest) = some (value.toDocument, rest)
  | value, 0, _, _, enough => by
    obtain ⟨_, _, characters, -⟩ := exists_write_eq_cons value
    simp [characters] at enough
  | .null, fuel + 1, _, _, _ => rfl
  | .boolean true, fuel + 1, _, _, _ => rfl
  | .boolean false, fuel + 1, _, _, _ => rfl
  | .integer value, fuel + 1, _, ends, _ =>
    takeValue?_numeral (Numeral.wellWritten_ofInt value) ends fuel
  | .real (.finite negative magnitude), fuel + 1, _, ends, _ =>
    takeValue?_numeral (Double.wellWritten_serialized negative magnitude) ends fuel
  | .real .notANumber, fuel + 1, _, _, _ => rfl
  | .real (.infinite _), fuel + 1, _, _, _ => rfl
  | .string content, fuel + 1, rest, _, _ => by
    obtain ⟨opened, symbols, taken⟩ := takeString?_writeString content rest
    rw [Json.write, symbols, takeValue?, skipBlanks_of_solid '"' rfl]
    simp only [taken, Option.bind_eq_bind, Option.bind_some, Json.toDocument]
  | .array [], fuel + 1, _, _, _ => rfl
  | .array (item :: others), fuel + 1, rest, _, enough => by
    have taken := takeItems?_write (item :: others) fuel rest (by simp)
      (by simp [Json.write] at enough; omega)
    obtain ⟨first, tail, characters, starts⟩ := exists_writeItems_eq_cons item others
    simp only [Json.write, List.map_cons, List.map_append, List.cons_append, List.append_assoc,
      List.map_nil, List.nil_append, characters] at taken ⊢
    rw [takeValue?_array starts, taken]
    rfl
  | .object [], fuel + 1, _, _, _ => rfl
  | .object ((name, value) :: others), fuel + 1, rest, _, enough => by
    have taken := takeMembers?_write ((name, value) :: others) fuel rest (by simp)
      (by simp [Json.write] at enough; omega)
    obtain ⟨tail, characters⟩ := exists_writeMembers_eq_cons (name, value) others
    simp only [Json.write, List.map_cons, List.map_append, List.cons_append, List.append_assoc,
      List.map_nil, List.nil_append, characters] at taken ⊢
    rw [takeValue?_object, taken]
    rfl

/-- The elements of an array are taken up to its closing bracket. -/
theorem takeItems?_write : ∀ (items : List Json) (fuel : Nat) (rest : List Symbol),
    items ≠ [] → (Json.writeItems items).length < fuel →
      takeItems? fuel ((Json.writeItems items).map Symbol.character ++ .character ']' :: rest) =
        some (Json.itemDocuments items, rest)
  | [], _, _, nonempty, _ => absurd rfl nonempty
  | _, 0, _, _, enough => absurd enough (by omega)
  | [item], fuel + 1, rest, _, enough => by
    have taken := takeValue?_write item fuel (.character ']' :: rest) (.inr (.inl rfl))
      (by simp [Json.writeItems] at enough; omega)
    rw [Json.writeItems, takeItems?, taken]
    rfl
  | item :: next :: others, fuel + 1, rest, _, enough => by
    have longer : item.write.length + 1 + (Json.writeItems (next :: others)).length < fuel + 1 := by
      simp [Json.writeItems] at enough ⊢
      omega
    have taken := takeValue?_write item fuel
      (.character ',' :: ((Json.writeItems (next :: others)).map Symbol.character ++
        .character ']' :: rest)) (.inl rfl) (by omega)
    have later := takeItems?_write (next :: others) fuel rest (by simp) (by omega)
    rw [writeItems_cons_cons, List.map_append, List.append_assoc, takeItems?]
    rw [List.map_cons, List.cons_append, taken]
    simp only [Option.bind_eq_bind, Option.bind_some, skipBlanks_of_solid ',' rfl, later,
      Json.itemDocuments]

/-- The members of an object are taken up to its closing brace. -/
theorem takeMembers?_write : ∀ (members : List (String × Json)) (fuel : Nat) (rest : List Symbol),
    members ≠ [] → (Json.writeMembers members).length < fuel →
      takeMembers? fuel
          ((Json.writeMembers members).map Symbol.character ++ .character '\x7d' :: rest) =
        some (Json.memberDocuments members, rest)
  | [], _, _, nonempty, _ => absurd rfl nonempty
  | _, 0, _, _, enough => absurd enough (by omega)
  | [(name, value)], fuel + 1, rest, _, enough => by
    have taken := takeValue?_write value fuel (.character '\x7d' :: rest) (.inr (.inr rfl))
      (by simp [Json.writeMembers] at enough; omega)
    rw [Json.writeMembers, List.map_append, List.append_assoc, List.map_cons, List.cons_append,
      takeMembers?_last taken]
    rfl
  | (name, value) :: next :: others, fuel + 1, rest, _, enough => by
    have longer : value.write.length + 1 + (Json.writeMembers (next :: others)).length <
        fuel + 1 := by
      simp [Json.writeMembers] at enough ⊢
      omega
    have taken := takeValue?_write value fuel
      (.character ',' :: ((Json.writeMembers (next :: others)).map Symbol.character ++
        .character '\x7d' :: rest)) (.inl rfl) (by omega)
    have later := takeMembers?_write (next :: others) fuel rest (by simp) (by omega)
    rw [writeMembers_cons_cons]
    simp only [List.map_append, List.map_cons, List.append_assoc, List.cons_append]
    rw [takeMembers?_next taken, later]
    rfl

end

/-- **The text of a value reads back as the document it stands for.** -/
theorem ofText?_text (value : Json) : ofText? value.text = some value.toDocument := by
  have taken := takeValue?_write value (value.write.length + 1) [] trivial (by omega)
  rw [List.append_nil] at taken
  unfold ofText? textSymbols Json.text read?
  rw [String.toList_ofList, List.length_map, taken]
  rfl

/-- Decoding the text of a value is decoding the document it stands for. -/
theorem decodeText_text {α : Type} (decode : Document → Decoded α) (value : Json) :
    decodeText decode value.text = value.toDocument.decodeWith decode := by
  rw [decodeText, ofText?_text]

end Document

end Durak
