import Durak.Proofs.Disclosure
import Durak.Proofs.Spelled

/-!
# Commands are repeated as they were carried out

A pack may hold the result of a command, and the result repeats the command.  Whoever reads the text
of the pack and decodes that part gets the very command that was carried out: other members, their
order and the two ways to write a card are gone, and the command is not
(`Game.commands_read_back`).

Nothing is assumed of the game.  If no two of its seats have the same id, then the pack of whoever
sent the command does hold its result.
-/

set_option autoImplicit false

namespace Durak

open Document

/-! ## Messages in the text of a pack -/

/-- The text of a pack is read as an object with one list of messages, and a document is one of
them. -/
def MessageOf (message : Document) (pack : String) : Prop :=
  ∃ members messages, Document.ofText? pack = some (.object members) ∧
    valuesOf "messages" members = [.array messages] ∧ message ∈ messages

/-- The members of a message are those of the result of a command. -/
def HoldResult (members : List (Option String × Document)) : Prop :=
  valuesOf tagName members = [.string (some resultTag)]

/-- The members of a message repeat a command. -/
def Command.RepeatedBy (command : Command) (members : List (Option String × Document)) : Prop :=
  ∃ echo, valuesOf "command" members = [echo] ∧ Command.decode echo = .ok command

theorem Json.itemDocuments_eq_map (items : List Json) :
    itemDocuments items = items.map toDocument := by
  induction items with
  | nil => rfl
  | cons item items hypothesis => rw [itemDocuments, hypothesis, List.map_cons]

/-- The messages in the text of a pack are those of the pack. -/
theorem messageOf_text {pack : Pack} {json : Json} (written : pack.toJson? = some json)
    {document : Document} :
    MessageOf document json.text ↔ ∃ message ∈ pack.messages, ∃ json,
      message.toJson? = some json ∧ json.toDocument = document := by
  obtain ⟨messages, areWritten, same⟩ := Option.bind_eq_some_iff.mp written
  cases same
  have listed : MessageOf document (Json.object
      [("messages", .array messages), ("gameState", pack.view.toJson)]).text ↔
        document ∈ Json.itemDocuments messages := by
    rw [MessageOf, ofText?_text]
    constructor
    · rintro ⟨_, _, isRead, isList, member⟩
      cases isRead
      cases isList
      exact member
    · intro member
      exact ⟨_, _, rfl, rfl, member⟩
  rw [listed, Json.itemDocuments_eq_map, List.mem_map]
  constructor
  · rintro ⟨json, member, same⟩
    obtain ⟨message, told, isWritten⟩ := (mem_iff_of_mapM areWritten).mp member
    exact ⟨message, told, json, isWritten, same⟩
  · rintro ⟨message, told, json, isWritten, same⟩
    exact ⟨json, (mem_iff_of_mapM areWritten).mpr ⟨message, told, isWritten⟩, same⟩

/-- No event is taken for a result. -/
theorem Event.not_holdResult {event : Event} {json : Json} (written : event.toJson? = some json)
    {members : List (Option String × Document)} (same : json.toDocument = .object members) :
    ¬HoldResult members := by
  obtain ⟨fields, -, isJson⟩ := Option.bind_eq_some_iff.mp written
  cases isJson
  cases same
  intro isResult
  have tags : event.kind.tag = resultTag := by
    rw [HoldResult, Json.memberDocuments, valuesOf_cons, if_pos rfl] at isResult
    simpa [Json.toDocument] using (List.cons.inj isResult).1
  cases event <;> simp [kind, EventKind.tag, resultTag] at tags

/-- A result repeats its command, if that is a proper one. -/
theorem CommandResult.repeats {result : CommandResult} (proper : result.command.action.IsProper)
    {members : List (Option String × Document)}
    (same : result.toJson.toDocument = .object members) :
    HoldResult members ∧ result.command.RepeatedBy members := by
  cases same
  exact ⟨rfl, _, rfl, Command.decode_toDocument proper⟩

namespace Game

/-! ## Packs of a transaction -/

variable {game : Game} {command : Command} {violation : Option Violation}

/-- Seats are told the result of the command and events, and nothing else. -/
theorem messages_of_seatPacks {answered : Bool} {players : List Player} {recipient : String}
    {pack : Pack} (listed : (recipient, pack) ∈ game.seatPacks command violation answered players)
    {message : Message} (told : message ∈ pack.messages) :
    (∃ view, message = .result ⟨command, violation, view⟩) ∨ ∃ event, message = .event event := by
  have ofEvents : message ∈ game.events.map Message.event → ∃ event, message = .event event := by
    intro told
    obtain ⟨event, -, rfl⟩ := List.mem_map.mp told
    exact ⟨event, rfl⟩
  induction players generalizing answered with
  | nil => cases listed
  | cons player rest hypothesis =>
    rw [seatPacks] at listed
    split at listed
    · rcases List.mem_cons.mp listed with same | listed
      · cases same
        rcases List.mem_cons.mp told with rfl | told
        · exact .inl ⟨_, rfl⟩
        · exact .inr (ofEvents told)
      · exact hypothesis listed
    · rcases List.mem_cons.mp listed with same | listed
      · cases same
        exact .inr (ofEvents told)
      · exact hypothesis listed

/-- The pack of the sender holds the result of the command. -/
theorem result_of_packFor {player : Player} (sender : player.id = command.userId) :
    .result ⟨command, violation, game.viewFrom player⟩ ∈
      (game.packFor command violation player).messages := by
  rw [packFor, messagesFor, if_pos sender]
  exact List.mem_cons_self

/-- Packs that are answered with are those of seats. -/
theorem exists_pack_of_writePacks {packs : List (String × Pack)} {written answer : Packs}
    (answered : (game.writePacks written packs).1 = .ok answer) {recipient : String} {json : Json}
    (listed : (recipient, json) ∈ answer) :
    (recipient, json) ∈ written ∨
      ∃ pack, (recipient, pack) ∈ packs ∧ pack.toJson? = some json := by
  induction packs generalizing written with
  | nil =>
    cases answered
    exact .inl listed
  | cons entry rest hypothesis =>
    obtain ⟨other, pack⟩ := entry
    rw [writePacks] at answered
    split at answered
    · rename_i first isWritten
      rcases hypothesis answered with before | ⟨later, member, isLater⟩
      · rcases eq_or_mem_of_mem_insertKeyed before with same | before
        · cases same
          exact .inr ⟨pack, List.mem_cons_self, isWritten⟩
        · exact .inl before
      · exact .inr ⟨later, List.mem_cons_of_mem _ member, isLater⟩
    · cases answered

/-- Packs that are answered with are those of seats after a command that has been carried out. -/
theorem exists_pack_of_answer {bytes : List UInt8} {now : Instant} {packs : Packs}
    (answered : (game.handle bytes now).answer = .ok packs) :
    ∃ command, Command.ofBytes bytes = .ok command ∧
      let outcome := game.apply command.userId command.action now
      (game.handle bytes now).game = outcome.game.withoutEvents ∧
      ∀ recipient json, (recipient, json) ∈ packs → ∃ pack, pack.toJson? = some json ∧
        (recipient, pack) ∈
          outcome.game.seatPacks command outcome.violation false outcome.game.players := by
  obtain ⟨command, decoded, -, -, executed⟩ := exists_command_of_answer answered
  rw [executed] at answered ⊢
  refine ⟨command, decoded, rfl, fun recipient json listed => ?_⟩
  rcases exists_pack_of_writePacks answered listed with none_ | ⟨pack, member, written⟩
  · cases none_
  · exact ⟨pack, written, member⟩

/-- **Commands are read back.**  A command is read back from the bytes it is written with, unless
its action is kept by a name that is one of the seven; so a command that has been read, from
whatever bytes, is read back from those.

Whenever a transaction hands out packs, every result in the text of a pack repeats the command that
was carried out, and is decoded as that command.  In a game whose seats have distinct ids, there is
such a result in the pack of whoever sent the command. -/
theorem commands_read_back :
    (∀ command : Command,
      Command.ofBytes command.bytes = .ok command ↔ command.action.IsProper) ∧
    (∀ bytes command, Command.ofBytes bytes = .ok command →
      Command.ofBytes command.bytes = .ok command) ∧
    ∀ (game : Game) bytes now packs, (game.handle bytes now).answer = .ok packs →
      ∃ command, Command.ofBytes bytes = .ok command ∧
        (game.handle bytes now).game =
          (game.apply command.userId command.action now).game.withoutEvents ∧
        ∀ recipient json, (recipient, json) ∈ packs →
          (∀ members, MessageOf (.object members) json.text → HoldResult members →
            command.RepeatedBy members) ∧
          (game.seatIds.Nodup → recipient = command.userId →
            ∃ members, MessageOf (.object members) json.text ∧ HoldResult members) := by
  refine ⟨fun command => Command.ofBytes_bytes_iff, fun bytes command isRead =>
    Command.ofBytes_bytes_iff.mpr (Command.isProper_of_read isRead), ?_⟩
  intro game bytes now packs answered
  obtain ⟨command, decoded, after, handedOut⟩ := exists_pack_of_answer answered
  have proper := Command.isProper_of_read decoded
  refine ⟨command, decoded, after, fun recipient json listed => ?_⟩
  obtain ⟨pack, written, isPack⟩ := handedOut recipient json listed
  constructor
  · intro members isMessage isResult
    obtain ⟨message, told, _, messageWritten, same⟩ := (messageOf_text written).mp isMessage
    rcases messages_of_seatPacks isPack told with ⟨view, rfl⟩ | ⟨event, rfl⟩
    · cases messageWritten
      exact (CommandResult.repeats proper same).2
    · exact absurd isResult (Event.not_holdResult messageWritten same)
  · rintro distinct rfl
    rw [← game.seatIds_apply command.userId command.action now] at distinct
    rw [seatPacks_of_distinct distinct] at isPack
    obtain ⟨player, -, same⟩ := List.mem_map.mp isPack
    obtain ⟨sender, rfl⟩ := Prod.mk.inj same
    exact ⟨_, (messageOf_text written).mpr ⟨_, result_of_packFor sender, _, rfl, rfl⟩, rfl⟩

/-- The first of two players gets ready and is told so. -/
theorem reads_back_getting_ready :
    let command : Command := ⟨"g", "a", .ready⟩
    ∃ packs json members, (duel.handle command.bytes (.ofUnixSeconds 0)).answer = .ok packs ∧
      ("a", json) ∈ packs ∧ MessageOf (.object members) json.text ∧ HoldResult members ∧
      command.RepeatedBy members := by
  intro command
  obtain ⟨readBack, -, repeated⟩ := commands_read_back
  have decoded : Command.ofBytes command.bytes = .ok command :=
    (readBack command).mpr fun _ kept => nomatch kept
  have distinct : duel.seatIds.Nodup := by decide +kernel
  have seated : command.userId ∈ duel.seatIds := by decide +kernel
  have occurred : (duel.apply "a" .ready (.ofUnixSeconds 0)).game.events = [.ready "a"] := by
    decide +kernel
  have written : (duel.apply "a" .ready (.ofUnixSeconds 0)).game.events.mapM Event.toJson? =
      some [Event.tagged "EVENT_READY" [("userId", .string "a")]] := by
    rw [occurred]
    rfl
  obtain ⟨packs, executed, recipients, -⟩ :=
    @exists_packs_of_execute duel distinct command (.ofUnixSeconds 0) _ written
  have answered : (duel.handle command.bytes (.ofUnixSeconds 0)).answer = .ok packs := by
    rw [handle_of_seated decoded rfl seated]
    exact executed
  obtain ⟨carriedOut, alsoDecoded, -, each⟩ := repeated duel _ _ packs answered
  obtain rfl : command = carriedOut := Except.ok.inj (decoded.symm.trans alsoDecoded)
  obtain ⟨⟨_, json⟩, listed, rfl⟩ := List.mem_map.mp (recipients.mem_iff.mpr seated)
  obtain ⟨repeats, hasResult⟩ := each _ json listed
  obtain ⟨members, isMessage, isResult⟩ := hasResult distinct rfl
  exact ⟨packs, json, members, answered, listed, isMessage, isResult,
    repeats members isMessage isResult⟩

end Game

end Durak
