import Durak.Proofs.Accepted
import Durak.Proofs.Encoded
import Durak.Proofs.Written

/-!
# What is written spells what it was written for

The members that a command is written with are valid and spell that command
(`Command.isStrict_toDocument`, `Command.spelledBy_written`), whatever characters the names of the
game and the user have.  So it is read back from its bytes (`Command.ofBytes_bytes_iff`).

The one exception is an action that is kept by its name although the name is one of the seven: it is
written as the action of that name.  No such action is ever read (`Action.SpelledBy.isProper`).
-/

set_option autoImplicit false

namespace Durak

open Document

theorem Numeral.writes_ofInt (number : Nat) : (ofInt number).Writes number where
  unsigned := by simp [ofInt]
  whole := rfl
  digits := ofDigits_decimalDigits number

theorem Rank.spelledBy_toDocument (rank : Rank) : rank.SpelledBy rank.toJson.toDocument :=
  ⟨_, rfl, Numeral.writes_ofInt rank.value⟩

theorem Rank.isStrictWithin_toDocument (rank : Rank) (levels : Nat) :
    rank.toJson.toDocument.isStrictWithin levels = true := by
  have small : rank.value ≤ largestInteger := by cases rank <;> decide
  have isNumber := Numeral.number?_eq_natural_iff.mpr ⟨Numeral.writes_ofInt rank.value, small⟩
  simp only [toJson, Json.toDocument, isStrictWithin, isNumber, Option.isSome_some]

namespace Card

variable (card : Card)

theorem toDocument_toJson :
    card.toJson.toDocument = .object [
      (some "suit", card.suit.toJson.toDocument), (some "rank", card.rank.toJson.toDocument)] := rfl

/-- A written card spells it. -/
theorem spelledBy_toDocument : card.SpelledBy card.toJson.toDocument := by
  rw [toDocument_toJson]
  refine .record ?_ rfl rfl rfl card.rank.spelledBy_toDocument
  intro member listed
  simp only [List.mem_cons, List.not_mem_nil, or_false] at listed
  rcases listed with rfl | rfl
  · exact .inl rfl
  · exact .inr rfl

theorem isStrictWithin_toDocument (levels : Nat) :
    card.toJson.toDocument.isStrictWithin (levels + 1) = true := by
  rw [toDocument_toJson]
  simp only [isStrictWithin, List.all_cons, List.all_nil, Option.isSome_some, Suit.toJson,
    Json.toDocument, Rank.isStrictWithin_toDocument, Bool.and_self]

end Card

/-- The bytes of a written value are read as its document. -/
theorem Document.ofBytes?_encodeText_text (value : Json) :
    ofBytes? (encodeText value.text) = some value.toDocument :=
  (ofBytes?_encodeText value.text).trans (ofText?_text value)

/-- An action that some members spell is a proper one. -/
theorem Action.SpelledBy.isProper {action : Action} {name : String}
    {members : List (Option String × Document)} (spelled : action.SpelledBy members name) :
    action.IsProper := by
  rintro kept rfl
  cases spelled with
  | unregistered unknown => exact unknown

namespace Command

/-- The members a command is written with. -/
def written (command : Command) : List (Option String × Document) := [
  (some "gameId", .string (some command.gameId)),
  (some "userId", .string (some command.userId)),
  (some "action", .string (some command.action.name))] ++
    Json.memberDocuments (payloadMembers command.action)

theorem toDocument_toJson (command : Command) :
    command.toJson.toDocument = .object command.written := by
  obtain ⟨gameId, userId, action⟩ := command
  cases action <;> rfl

/-- **A written command spells it.** -/
theorem spelledBy_written {command : Command} (proper : command.action.IsProper) :
    command.SpelledBy command.written := by
  obtain ⟨gameId, userId, action⟩ := command
  cases action with
  | ready => exact ⟨rfl, rfl, _, rfl, .ready⟩
  | attack card =>
    exact ⟨rfl, rfl, _, rfl, .attack ⟨_, rfl, card.spelledBy_toDocument⟩⟩
  | defend target card =>
    exact ⟨rfl, rfl, _, rfl, .defend ⟨_, rfl, target.spelledBy_toDocument⟩
      ⟨_, rfl, card.spelledBy_toDocument⟩⟩
  | endAttack => exact ⟨rfl, rfl, _, rfl, .endAttack⟩
  | takeAllCards => exact ⟨rfl, rfl, _, rfl, .takeAllCards⟩
  | checkAttackTimer => exact ⟨rfl, rfl, _, rfl, .checkAttackTimer⟩
  | checkDefendTimer => exact ⟨rfl, rfl, _, rfl, .checkDefendTimer⟩
  | unregistered name => exact ⟨rfl, rfl, _, rfl, .unregistered (proper name rfl)⟩

/-- A written command is valid. -/
theorem isStrict_toDocument (command : Command) : command.toJson.toDocument.isStrict = true := by
  have payload : ∀ member ∈ Json.memberDocuments (payloadMembers command.action),
      member.1.isSome = true ∧ member.2.isStrictWithin (deepestNesting - 2 + 1) = true := by
    cases command.action <;>
      simp [payloadMembers, Json.memberDocuments, Card.isStrictWithin_toDocument]
  rw [toDocument_toJson]
  refine List.all_eq_true.mpr fun member listed => Bool.and_eq_true_iff.mpr ?_
  rcases List.mem_append.mp listed with envelope | listed
  · simp only [List.mem_cons, List.not_mem_nil, or_false] at envelope
    rcases envelope with rfl | rfl | rfl <;> exact ⟨rfl, rfl⟩
  · exact payload member listed

/-- A written command is decoded as that command. -/
theorem decode_toDocument {command : Command} (proper : command.action.IsProper) :
    decode command.toJson.toDocument = .ok command :=
  decode_eq_ok_iff.mpr
    ⟨command.isStrict_toDocument, _, command.toDocument_toJson, spelledBy_written proper⟩

/-- The bytes of a command as it is written. -/
def bytes (command : Command) : List UInt8 := encodeText command.toJson.text

theorem isProper_of_read {bytes : List UInt8} {command : Command}
    (isRead : ofBytes bytes = .ok command) : command.action.IsProper := by
  obtain ⟨members, -, -, spelled⟩ := ofBytes_eq_ok_iff.mp isRead
  obtain ⟨name, -, action⟩ := spelled.action
  exact action.isProper

/-- **A command is read back from its bytes**, unless its action is kept by a name that is one of
the seven. -/
theorem ofBytes_bytes_iff {command : Command} :
    ofBytes command.bytes = .ok command ↔ command.action.IsProper := by
  constructor
  · exact isProper_of_read
  · intro proper
    rw [bytes, ofBytes, Document.ofBytes?_encodeText_text]
    exact decode_toDocument proper

end Command

end Durak
