import Durak.Proofs.Members

/-!
# Which documents are read

A decoder reads a value from a document exactly when the document spells it.  For a simple value,
one string or one kind of numeral does (`Document.asString_eq_ok_iff`, `Document.asByte_eq_ok_iff`);
for a record, its members have to give each of its fields once (`Field.foundIn_iff`); and for a card
and a command, what has to be there is what `Card.SpelledBy` and `Command.SpelledBy` say.

The cards of a command are read from sorted members, where every name has the last of its values.
So a card that is repeated is accepted, while a name of the envelope that is repeated is not.
-/

set_option autoImplicit false

namespace Durak

-- powers of natural numbers are those of the core library
attribute [local instance (high)] instPowNat

theorem bind_eq_ok_iff {ε α β : Type} {first : Except ε α} {next : α → Except ε β} {result : β} :
    first >>= next = .ok result ↔ ∃ value, first = .ok value ∧ next value = .ok result := by
  cases first with
  | error fault => exact iff_of_false (fun same => nomatch same) fun ⟨_, same, _⟩ => nomatch same
  | ok value =>
    constructor
    · exact fun succeeds => ⟨value, rfl, succeeds⟩
    · rintro ⟨_, same, succeeds⟩
      cases same
      exact succeeds

theorem mapError_eq_ok_iff {ε ε' α : Type} {change : ε → ε'} {first : Except ε α} {value : α} :
    first.mapError change = .ok value ↔ first = .ok value := by
  cases first <;> simp [Except.mapError]

/-! ## Simple values -/

/-- The natural numbers of a JSON text are written with digits only. -/
theorem Numeral.number?_eq_natural_iff {numeral : Numeral} {number : Nat} :
    numeral.number? = some (.integer number) ↔
      numeral.Writes number ∧ number ≤ largestInteger := by
  unfold number?
  constructor
  · intro isNumber
    simp only at isNumber
    split at isNumber
    · rename_i natural
      simp only [Bool.and_eq_true, Bool.not_eq_true', decide_eq_true_eq] at natural
      have same : ofDigits numeral.whole = number := by simpa [Int.natCast_inj] using isNumber
      exact ⟨⟨natural.1.2, natural.1.1, same⟩, same ▸ natural.2⟩
    split at isNumber
    · rename_i negative
      simp only [Bool.and_eq_true, decide_eq_true_eq] at negative
      have same : -(ofDigits numeral.whole : Int) = number := by simpa using isNumber
      omega
    · cases isReal : numeral.real? <;> simp [isReal] at isNumber
  · rintro ⟨⟨unsigned, whole, rfl⟩, small⟩
    simp [unsigned, whole, small]

namespace Document

variable {document : Document}

theorem asString_eq_ok_iff {content : String} :
    document.asString = .ok content ↔ document = .string (some content) := by
  unfold asString
  split
  · simp
  · rename_i other
    simp only [reduceCtorEq, false_iff]
    exact other content

/-- A natural number below a bound of at most sixty-four bits is read from its digits. -/
theorem asNat_eq_ok_iff {bound : Nat} (small : bound ≤ largestInteger) {description : String}
    {number : Nat} :
    document.asNat bound description = .ok number ↔
      number < bound ∧ ∃ numeral, document = .number numeral ∧ numeral.Writes number := by
  constructor
  · intro isRead
    cases document with
    | number numeral =>
      simp only [asNat] at isRead
      split at isRead
      · rename_i value isNumber
        split at isRead
        · rename_i inside
          have same : value.toNat = number := by simpa using isRead
          obtain rfl : value = (number : Int) := by omega
          exact ⟨by omega, numeral, rfl, (Numeral.number?_eq_natural_iff.mp isNumber).1⟩
        · cases isRead
      · cases isRead
    | _ => cases isRead
  · rintro ⟨inside, numeral, rfl, writes⟩
    have isNumber := Numeral.number?_eq_natural_iff.mpr ⟨writes, by omega⟩
    have within : 0 ≤ (number : Int) ∧ (number : Int) < bound := by omega
    simp [asNat, isNumber, within]

theorem asByte_eq_ok_iff {byte : UInt8} :
    document.asByte = .ok byte ↔
      ∃ numeral, document = .number numeral ∧ numeral.Writes byte.toNat := by
  have small : 256 ≤ largestInteger := by decide
  simp only [asByte, bind_eq_ok_iff, asNat_eq_ok_iff small, Except.ok.injEq]
  constructor
  · rintro ⟨number, ⟨inside, writes⟩, rfl⟩
    rwa [UInt8.toNat_ofNat_of_lt' inside]
  · intro writes
    exact ⟨byte.toNat, ⟨byte.toNat_lt, writes⟩, UInt8.ofNat_toNat⟩

end Document

/-! ## Records -/

/-- Members give one value to the name of a field, and it is decoded. -/
def Field.FoundIn {α : Type} (field : Field α) (value : α)
    (members : List (Option String × Document)) : Prop :=
  ∃ document, Document.valuesOf field.name members = [document] ∧ field.decode document = .ok value

/-- A required field is found when a record sees no fault in its values and gets one of them. -/
theorem Field.foundIn_iff {α : Type} {field : Field α}
    (required : field.absent = none ∧ field.absentElement = none) (title : String)
    (names : List String) (positional : Bool) {value : α}
    {members : List (Option String × Document)} :
    field.FoundIn value members ↔
      (Document.valuesOf field.check.1 members = [] ∨
        ∃ document, Document.valuesOf field.check.1 members = [document] ∧
          field.check.2 document = none) ∧
      Members.get ⟨title, names, Document.namedMembers members, positional⟩ field = .ok value := by
  simp only [FoundIn, Members.get, Document.lookup_namedMembers, required.1, required.2, check,
    fault?]
  constructor
  · rintro ⟨document, single, isDecoded⟩
    rw [single]
    exact ⟨.inr ⟨document, rfl, by rw [isDecoded]⟩, isDecoded⟩
  · rintro ⟨none_ | ⟨document, single, -⟩, found⟩
    · rw [none_] at found
      cases positional <;> cases found
    · rw [single] at found
      exact ⟨document, single, found⟩

theorem Record.decodeMembers_eq_ok_iff {α : Type} {record : Record} {build : Members → Decoded α}
    {members : List (Option String × Document)} {positional : Bool} {value : α} :
    record.decodeMembers build members positional = .ok value ↔
      record.firstFault? [] members = none ∧
        build ⟨record.title, record.names, Document.namedMembers members, positional⟩ =
          .ok value := by
  rw [decodeMembers]
  cases record.firstFault? [] members <;> simp

/-! ## Cards -/

theorem Suit.decode_eq_ok_iff {document : Document} {suit : Suit} :
    decode document = .ok suit ↔ suit.SpelledBy document := by
  simp only [decode, bind_eq_ok_iff, Document.asString_eq_ok_iff]
  constructor
  · rintro ⟨text, rfl, isSuit⟩
    split at isSuit
    · rename_i found isFound
      cases isSuit
      have same : suit.name = text := by simpa using List.find?_some isFound
      rw [SpelledBy, same]
    · cases isSuit
  · intro spelled
    refine ⟨suit.name, spelled, ?_⟩
    rw [ofName?_name]

theorem Rank.decode_eq_ok_iff {document : Document} {rank : Rank} :
    decode document = .ok rank ↔ rank.SpelledBy document := by
  simp only [decode, bind_eq_ok_iff, Document.asByte_eq_ok_iff]
  constructor
  · rintro ⟨byte, ⟨numeral, rfl, writes⟩, isRank⟩
    split at isRank
    · rename_i found isFound
      cases isRank
      have same : rank.value = byte.toNat := by simpa using List.find?_some isFound
      exact ⟨numeral, rfl, same ▸ writes⟩
    · cases isRank
  · rintro ⟨numeral, rfl, writes⟩
    have small : (UInt8.ofNat rank.value).toNat = rank.value := by cases rank <;> rfl
    refine ⟨UInt8.ofNat rank.value, ⟨numeral, rfl, small.symm ▸ writes⟩, ?_⟩
    rw [small, ofValue?_value]

/-- Sorting changes no suit. -/
theorem Suit.spelledBy_sortedWithin {suit : Suit} {levels : Nat} (document : Document) :
    suit.SpelledBy (document.sortedWithin levels) ↔ suit.SpelledBy document :=
  Document.sortedWithin_eq_string_iff

/-- Sorting changes no rank. -/
theorem Rank.spelledBy_sortedWithin {rank : Rank} {levels : Nat} (document : Document) :
    rank.SpelledBy (document.sortedWithin levels) ↔ rank.SpelledBy document :=
  exists_congr fun _ => and_congr_left fun _ => Document.sortedWithin_eq_number_iff

namespace Card

open Document

variable {card : Card} {members : List (Option String × Document)} {origin : Origin}

/-- Members are read as a card when they give one suit, one rank and nothing else. -/
theorem decodeMembers_eq_ok_iff {positional : Bool} :
    record.decodeMembers (fun members => do
        let suit ← members.get suitField
        let rank ← members.get rankField
        .ok (Card.mk suit rank)) members positional = .ok card ↔
      (∀ member ∈ members, ∃ name, member.1 = some name ∧ name ∈ record.names) ∧
      suitField.FoundIn card.suit members ∧ rankField.FoundIn card.rank members := by
  have refuses : record.refusesUnknown = true := rfl
  have checks : record.checks = [suitField.check, rankField.check] := rfl
  rw [Record.decodeMembers_eq_ok_iff, record.firstFault?_eq_none_iff (by decide), checks,
    suitField.foundIn_iff ⟨rfl, rfl⟩ record.title record.names positional,
    rankField.foundIn_iff ⟨rfl, rfl⟩ record.title record.names positional]
  simp only [refuses, true_implies, List.forall_mem_cons, List.not_mem_nil, false_implies,
    implies_true, and_true, bind_eq_ok_iff, Except.ok.injEq]
  constructor
  · rintro ⟨⟨listed, fewSuits, fewRanks⟩, _, isSuit, _, isRank, rfl⟩
    exact ⟨listed, ⟨fewSuits, isSuit⟩, fewRanks, isRank⟩
  · rintro ⟨listed, ⟨fewSuits, isSuit⟩, fewRanks, isRank⟩
    exact ⟨⟨listed, fewSuits, fewRanks⟩, _, isSuit, _, isRank, rfl⟩

theorem suitField_foundIn {suit : Suit} :
    suitField.FoundIn suit members ↔
      ∃ document, valuesOf "suit" members = [document] ∧ suit.SpelledBy document :=
  exists_congr fun _ => and_congr_right fun _ => Suit.decode_eq_ok_iff

theorem rankField_foundIn {rank : Rank} :
    rankField.FoundIn rank members ↔
      ∃ document, valuesOf "rank" members = [document] ∧ rank.SpelledBy document :=
  exists_congr fun _ => and_congr_right fun _ => Rank.decode_eq_ok_iff

/-- An array is read as a card when it is a pair of a suit and a rank. -/
theorem decode_array_eq_ok_iff {items : List Document} :
    decode origin (.array items) = .ok card ↔
      ∃ suit rank, items = [suit, rank] ∧ card.suit.SpelledBy suit ∧ card.rank.SpelledBy rank := by
  have elements : decode origin (.array items) = .ok card ↔ items.length ≤ 2 ∧
      suitField.FoundIn card.suit ([some "suit", some "rank"].zip items) ∧
      rankField.FoundIn card.rank ([some "suit", some "rank"].zip items) := by
    simp only [decode, Record.decode, Record.decodeElements, bind_eq_ok_iff]
    constructor
    · rintro ⟨value, isRead, few⟩
      split at few
      · cases few
      · rename_i enough
        cases few
        exact ⟨Nat.not_lt.mp enough, (decodeMembers_eq_ok_iff.mp isRead).2⟩
    · rintro ⟨few, found⟩
      refine ⟨card, decodeMembers_eq_ok_iff.mpr ⟨fun member listed => ?_, found⟩,
        if_neg (Nat.not_lt.mpr few)⟩
      have isName := (List.of_mem_zip (show (member.1, member.2) ∈ _ from listed)).1
      obtain ⟨name, isNamed, same⟩ := List.mem_map.mp isName
      exact ⟨name, same.symm, isNamed⟩
  rw [elements, suitField_foundIn, rankField_foundIn]
  match items with
  | [] => simp [valuesOf]
  | [_] => simp [valuesOf]
  | [suit, rank] => simp [valuesOf]
  | _ :: _ :: _ :: _ => simp

/-- Among sorted members a name has one value, the last one. -/
theorem valuesOf_sortedMembers_eq_singleton_iff {levels : Nat} {name : String}
    {reads spells : Document → Prop}
    (same : ∀ document ∈ valuesOf name members,
      (reads (document.sortedWithin levels) ↔ spells document)) :
    (∃ document, valuesOf name (sortedMembers levels members) = [document] ∧ reads document) ↔
      ∃ document, (valuesOf name members).getLast? = some document ∧ spells document := by
  rw [valuesOf_sortedMembers]
  cases isLast : (valuesOf name members).getLast? with
  | none => simp
  | some document => simp [same document (List.mem_of_getLast? isLast)]

/-- **A sorted document is read as a card exactly if the document spells it.** -/
theorem decode_sortedWithin_eq_ok_iff {document : Document} {levels : Nat}
    (valid : document.isStrictWithin (levels + 1) = true) :
    decode origin (document.sortedWithin (levels + 1)) = .ok card ↔ card.SpelledBy document := by
  cases document with
  | object members =>
    have known : ∀ member : Option String × Document,
        (∃ name, member.1 = some name ∧ name ∈ record.names) ↔
          member.1 = some "suit" ∨ member.1 = some "rank" := by
      intro member
      simp only [record, Record.names, suitField, rankField, Field.check, Field.required,
        List.map_cons, List.map_nil, List.mem_cons, List.not_mem_nil, or_false]
      constructor
      · rintro ⟨_, isName, rfl | rfl⟩
        · exact .inl isName
        · exact .inr isName
      · rintro (isName | isName)
        · exact ⟨_, isName, .inl rfl⟩
        · exact ⟨_, isName, .inr rfl⟩
    rw [sortedWithin_object, decode, Record.decode, decodeMembers_eq_ok_iff, suitField_foundIn,
      rankField_foundIn, forall_name_sortedMembers_iff (isSome_of_isStrictWithin valid),
      valuesOf_sortedMembers_eq_singleton_iff fun suit _ => Suit.spelledBy_sortedWithin suit,
      valuesOf_sortedMembers_eq_singleton_iff fun rank _ => Rank.spelledBy_sortedWithin rank]
    simp only [known]
    constructor
    · rintro ⟨only, ⟨suit, lastSuit, isSuit⟩, rank, lastRank, isRank⟩
      exact .record only lastSuit lastRank isSuit isRank
    · intro spelled
      cases spelled with
      | record only lastSuit lastRank isSuit isRank =>
        exact ⟨only, ⟨_, lastSuit, isSuit⟩, _, lastRank, isRank⟩
  | array items =>
    rw [sortedWithin, decode_array_eq_ok_iff]
    constructor
    · rintro ⟨suit, rank, isPair, isSuit, isRank⟩
      obtain ⟨_, _, rfl, rfl, isRest⟩ := List.map_eq_cons_iff.mp isPair
      obtain ⟨_, _, rfl, rfl, isEnd⟩ := List.map_eq_cons_iff.mp isRest
      obtain rfl := List.map_eq_nil_iff.mp isEnd
      exact .pair ((Suit.spelledBy_sortedWithin _).mp isSuit)
        ((Rank.spelledBy_sortedWithin _).mp isRank)
    · intro spelled
      cases spelled with
      | pair isSuit isRank =>
        exact ⟨_, _, rfl, (Suit.spelledBy_sortedWithin _).mpr isSuit,
          (Rank.spelledBy_sortedWithin _).mpr isRank⟩
  | _ =>
    constructor
    · intro isRead
      cases isRead
    · intro spelled
      cases spelled

/-- Among the sorted members of a valid object a field finds the card that is given last. -/
theorem foundIn_sortedMembers_iff {name : String} {levels : Nat}
    (valid : (Document.object members).isStrictWithin (levels + 2) = true) :
    (Field.required name (decode .sorted)).FoundIn card (sortedMembers (levels + 1) members) ↔
      card.GivenAs name members := by
  refine valuesOf_sortedMembers_eq_singleton_iff fun document listed => ?_
  refine decode_sortedWithin_eq_ok_iff ?_
  have member := List.all_eq_true.mp valid _ (mem_valuesOf.mp listed)
  exact (Bool.and_eq_true_iff.mp member).2

end Card

/-! ## Commands -/

namespace Command

open Document

variable {members : List (Option String × Document)}

/-- Members that all have names have none that a tolerant record refuses. -/
theorem names_of_tolerant {record : Record} (tolerant : record.refusesUnknown = false)
    (named : ∀ member ∈ members, member.1.isSome) :
    ∀ member ∈ members, ∃ name, member.1 = some name ∧
      (record.refusesUnknown = true → name ∈ record.names) := by
  intro member listed
  obtain ⟨name, isName⟩ := Option.isSome_iff_exists.mp (named member listed)
  exact ⟨name, isName, fun refuses => by simp [tolerant] at refuses⟩

/-- The envelope is read from members that give each of its three names once. -/
theorem envelopeOf_eq_ok_iff (named : ∀ member ∈ members, member.1.isSome)
    {gameId userId actionName : String} :
    envelopeOf members = .ok (gameId, userId, actionName) ↔
      gameField.FoundIn gameId members ∧ userField.FoundIn userId members ∧
        actionField.FoundIn actionName members := by
  have checks : envelope.checks = [gameField.check, userField.check, actionField.check] := rfl
  rw [envelopeOf, Record.decodeMembers_eq_ok_iff, envelope.firstFault?_eq_none_iff (by decide),
    checks, gameField.foundIn_iff ⟨rfl, rfl⟩ envelope.title envelope.names false,
    userField.foundIn_iff ⟨rfl, rfl⟩ envelope.title envelope.names false,
    actionField.foundIn_iff ⟨rfl, rfl⟩ envelope.title envelope.names false]
  simp only [List.forall_mem_cons, List.not_mem_nil, false_implies, implies_true, and_true,
    bind_eq_ok_iff, Except.ok.injEq, Prod.mk.injEq]
  constructor
  · rintro ⟨⟨-, fewGames, fewUsers, fewActions⟩, _, isGame, _, isUser, _, isAction, rfl, rfl, rfl⟩
    exact ⟨⟨fewGames, isGame⟩, ⟨fewUsers, isUser⟩, fewActions, isAction⟩
  · rintro ⟨⟨fewGames, isGame⟩, ⟨fewUsers, isUser⟩, fewActions, isAction⟩
    exact ⟨⟨names_of_tolerant rfl named, fewGames, fewUsers, fewActions⟩,
      _, isGame, _, isUser, _, isAction, rfl, rfl, rfl⟩

/-- An attack is read from members that give one card. -/
theorem attackRecord_decode_eq_ok_iff (named : ∀ member ∈ members, member.1.isSome)
    {action : Action} :
    attackRecord.decode .sorted (fun members => do
        let card ← members.get cardField
        .ok (Action.attack card)) (.object members) = .ok action ↔
      ∃ card, cardField.FoundIn card members ∧ .attack card = action := by
  have checks : attackRecord.checks = [cardField.check] := rfl
  rw [Record.decode, Record.decodeMembers_eq_ok_iff,
    attackRecord.firstFault?_eq_none_iff (by decide), checks]
  simp only [cardField.foundIn_iff ⟨rfl, rfl⟩ attackRecord.title attackRecord.names false,
    List.forall_mem_singleton, bind_eq_ok_iff, Except.ok.injEq]
  constructor
  · rintro ⟨⟨-, few⟩, card, isCard, same⟩
    exact ⟨card, ⟨few, isCard⟩, same⟩
  · rintro ⟨card, ⟨few, isCard⟩, same⟩
    exact ⟨⟨names_of_tolerant rfl named, few⟩, card, isCard, same⟩

/-- A defence is read from members that give one card to beat and one to beat it with. -/
theorem defendRecord_decode_eq_ok_iff (named : ∀ member ∈ members, member.1.isSome)
    {action : Action} :
    defendRecord.decode .sorted (fun members => do
        let target ← members.get targetField
        let card ← members.get coverField
        .ok (Action.defend target card)) (.object members) = .ok action ↔
      ∃ target card, targetField.FoundIn target members ∧
        coverField.FoundIn card members ∧ .defend target card = action := by
  have checks : defendRecord.checks = [targetField.check, coverField.check] := rfl
  rw [Record.decode, Record.decodeMembers_eq_ok_iff,
    defendRecord.firstFault?_eq_none_iff (by decide), checks]
  simp only [targetField.foundIn_iff ⟨rfl, rfl⟩ defendRecord.title defendRecord.names false,
    coverField.foundIn_iff ⟨rfl, rfl⟩ defendRecord.title defendRecord.names false,
    List.forall_mem_cons, List.not_mem_nil, false_implies, implies_true, and_true, bind_eq_ok_iff,
    Except.ok.injEq]
  constructor
  · rintro ⟨⟨-, fewTargets, fewCards⟩, target, isTarget, card, isCard, same⟩
    exact ⟨target, card, ⟨fewTargets, isTarget⟩, ⟨fewCards, isCard⟩, same⟩
  · rintro ⟨target, card, ⟨fewTargets, isTarget⟩, ⟨fewCards, isCard⟩, same⟩
    exact ⟨⟨names_of_tolerant rfl named, fewTargets, fewCards⟩, target, isTarget, card, isCard,
      same⟩

/-- **The action is read as the members spell it.** -/
theorem actionOf_eq_ok_iff {levels : Nat} {actionName : String} {action : Action}
    (valid : (Document.object members).isStrictWithin (levels + 2) = true) :
    actionOf actionName (.object (sortedMembers (levels + 1) members)) = .ok action ↔
      action.SpelledBy members actionName := by
  have named : ∀ member ∈ sortedMembers (levels + 1) members, member.1.isSome :=
    isSome_of_mem_sortedMembers
  constructor
  · intro isRead
    rw [actionOf] at isRead
    split at isRead
    · rename_i isName
      cases isRead
      exact isName ▸ .ready
    split at isRead
    · rename_i isName
      obtain ⟨card, found, rfl⟩ :=
        (attackRecord_decode_eq_ok_iff named).mp (mapError_eq_ok_iff.mp isRead)
      exact isName ▸ .attack ((Card.foundIn_sortedMembers_iff valid).mp found)
    split at isRead
    · rename_i isName
      obtain ⟨target, card, targetFound, found, rfl⟩ :=
        (defendRecord_decode_eq_ok_iff named).mp (mapError_eq_ok_iff.mp isRead)
      exact isName ▸ .defend ((Card.foundIn_sortedMembers_iff valid).mp targetFound)
        ((Card.foundIn_sortedMembers_iff valid).mp found)
    split at isRead
    · rename_i isName
      cases isRead
      exact isName ▸ .endAttack
    split at isRead
    · rename_i isName
      cases isRead
      exact isName ▸ .takeAllCards
    split at isRead
    · rename_i isName
      cases isRead
      exact isName ▸ .checkAttackTimer
    split at isRead
    · rename_i isName
      cases isRead
      exact isName ▸ .checkDefendTimer
    · cases isRead
      exact .unregistered (by simp [Action.names, *])
  · intro spelled
    cases spelled with
    | attack given =>
      rw [actionOf, if_neg (by simp), if_pos rfl, mapError_eq_ok_iff,
        attackRecord_decode_eq_ok_iff named]
      exact ⟨_, (Card.foundIn_sortedMembers_iff valid).mpr given, rfl⟩
    | defend targetGiven given =>
      rw [actionOf, if_neg (by simp), if_neg (by simp), if_pos rfl, mapError_eq_ok_iff,
        defendRecord_decode_eq_ok_iff named]
      exact ⟨_, _, (Card.foundIn_sortedMembers_iff valid).mpr targetGiven,
        (Card.foundIn_sortedMembers_iff valid).mpr given, rfl⟩
    | unregistered unknown =>
      simp only [Action.names, List.mem_cons, List.not_mem_nil, or_false, not_or] at unknown
      simp only [actionOf, unknown, if_false]
    | _ => rfl

theorem textField_foundIn {name content : String} :
    (Field.required name asString).FoundIn content members ↔
      valuesOf name members = [.string (some content)] := by
  refine (exists_congr fun _ => and_congr_right fun _ => asString_eq_ok_iff).trans ?_
  exact exists_eq_right

/-- A valid object is decoded as the command that its members spell. -/
theorem decode_object_eq_ok_iff (valid : (Document.object members).isStrict = true)
    {command : Command} :
    decode (.object members) = .ok command ↔ command.SpelledBy members := by
  have payload : (Document.object members).sorted =
      .object (sortedMembers (deepestNesting - 2 + 1) members) := rfl
  have validWithin : (Document.object members).isStrictWithin (deepestNesting - 2 + 2) = true :=
    valid
  rw [decode, valid, payload]
  simp only [Bool.not_true, Bool.false_eq_true, if_false, bind_eq_ok_iff, mapError_eq_ok_iff,
    Prod.exists, envelopeOf_eq_ok_iff (isSome_of_isStrictWithin valid), gameField, userField,
    actionField, textField_foundIn, actionOf_eq_ok_iff validWithin, Except.ok.injEq]
  constructor
  · rintro ⟨_, _, actionName, ⟨isGame, isUser, isAction⟩, _, spelled, rfl⟩
    exact ⟨isGame, isUser, actionName, isAction, spelled⟩
  · rintro ⟨isGame, isUser, actionName, isAction, spelled⟩
    exact ⟨_, _, actionName, ⟨isGame, isUser, isAction⟩, _, spelled, rfl⟩

/-- **A document is decoded as a command exactly if it is a valid object that spells it.** -/
theorem decode_eq_ok_iff {document : Document} {command : Command} :
    decode document = .ok command ↔
      document.isStrict = true ∧ ∃ members, document = .object members ∧
        command.SpelledBy members := by
  constructor
  · intro isRead
    have valid : document.isStrict = true := by
      cases invalid : document.isStrict with
      | true => rfl
      | false => simp [decode, invalid] at isRead
    cases document with
    | object members => exact ⟨valid, members, rfl, (decode_object_eq_ok_iff valid).mp isRead⟩
    | _ => simp [decode, valid] at isRead
  · rintro ⟨valid, members, rfl, spelled⟩
    exact (decode_object_eq_ok_iff valid).mpr spelled

/-- **Bytes are read as a command exactly if they are the text of a valid object that spells
it.** -/
theorem ofBytes_eq_ok_iff {bytes : List UInt8} {command : Command} :
    ofBytes bytes = .ok command ↔ ∃ members, Document.ofBytes? bytes = some (.object members) ∧
      (Document.object members).isStrict = true ∧ command.SpelledBy members := by
  rw [ofBytes]
  cases Document.ofBytes? bytes with
  | none => exact iff_of_false (fun isRead => nomatch isRead) fun ⟨_, isRead, _⟩ => nomatch isRead
  | some document =>
    refine decode_eq_ok_iff.trans ?_
    constructor
    · rintro ⟨valid, members, rfl, spelled⟩
      exact ⟨members, rfl, valid, spelled⟩
    · rintro ⟨members, same, valid, spelled⟩
      cases same
      exact ⟨valid, members, rfl, spelled⟩

end Command

end Durak
