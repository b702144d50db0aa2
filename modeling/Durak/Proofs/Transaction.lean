import Durak.Proofs.Packs
import Durak.Proofs.Rotation

/-!
# One transaction

The bytes of a command are judged in a fixed order: whether they are a command, whether it is for
this game, whether its user has a seat.  As soon as one of these fails the game is left as it was,
with whatever events it holds.  Otherwise the command is applied, and the events of the game are
handed out, all of them and to every seat, or to nobody if one of them cannot be written.  Only a
deadline outside the years nought to 9999 can keep an event from being written.

All of this holds for any game with distinct player ids.  That a game came from a deal plays no part.
-/

set_option autoImplicit false

namespace Durak

/-- The bytes of a command without any characters but those of ASCII. -/
def Command.asciiBytes (command : Command) : List UInt8 :=
  command.toJson.write.map fun character => UInt8.ofNat character.toNat

/-- Messages by which two players get ready. -/
def Game.bothReady : List (List UInt8 × Instant) := [
  (Command.asciiBytes ⟨"g", "a", .ready⟩, .ofUnixSeconds 0),
  (Command.asciiBytes ⟨"g", "b", .ready⟩, .ofUnixSeconds 0)]

/-- A command by which the first attacker of the duel lays a nine. -/
def Game.laysNine : Command := ⟨"g", "b", .attack ⟨.clubs, .nine⟩⟩

/-- A pack as it is written for a recipient, from the written events and the view. -/
def writtenPack (command : Command) (violation : Option Violation) (events : List Json)
    (recipient : String) (view : View) : Json :=
  .object [
    ("messages", .array <|
      if recipient = command.userId then (CommandResult.mk command violation view).toJson :: events
      else events),
    ("gameState", view.toJson)]

/-! ## Writing events -/

/-- Only a deadline can keep an event from being written. -/
theorem Event.toJson?_eq_none_iff {event : Event} :
    event.toJson? = none ↔ ∃ timer completed deadline,
      event = .timerState timer completed (some deadline) ∧ deadline.timestamp? = none := by
  cases event with
  | timerState timer completed endsAt =>
    cases endsAt with
    | none => exact iff_of_false (fun none_ => nomatch none_) fun ⟨_, _, _, same, _⟩ => nomatch same
    | some deadline =>
      have written : (Event.timerState timer completed (some deadline)).toJson? = none ↔
          deadline.timestamp? = none := by
        simp only [toJson?, members?, Json.instantOrNull?, Instant.toJson?]
        cases deadline.timestamp? <;> simp
      rw [written]
      constructor
      · exact fun unwritable => ⟨timer, completed, deadline, rfl, unwritable⟩
      · rintro ⟨_, _, _, same, unwritable⟩
        cases same
        exact unwritable
  | _ => exact iff_of_false (fun none_ => nomatch none_) fun ⟨_, _, _, same, _⟩ => nomatch same

/-- Whatever has been written comes from something, and something that is written is among it. -/
theorem mem_iff_of_mapM {α β : Type} {write? : α → Option β} {items : List α} {results : List β}
    (written : items.mapM write? = some results) {result : β} :
    result ∈ results ↔ ∃ item ∈ items, write? item = some result := by
  induction items generalizing results with
  | nil =>
    cases written
    simp
  | cons item items hypothesis =>
    rw [List.mapM_cons] at written
    obtain ⟨first, isFirst, written⟩ := Option.bind_eq_some_iff.mp written
    obtain ⟨others, areOthers, same⟩ := Option.bind_eq_some_iff.mp written
    cases same
    rw [List.mem_cons, hypothesis areOthers, List.exists_mem_cons_iff, isFirst,
      Option.some.injEq, @eq_comm _ first]

namespace Game

variable {game : Game}

/-- **When the events can be written every seat gets its pack, and nobody else does.** -/
theorem exists_packs (distinct : game.seatIds.Nodup) (command : Command)
    (violation : Option Violation) {events : List Json}
    (written : game.events.mapM Event.toJson? = some events) :
    ∃ packs, (game.buildPacks command violation).answer = .ok packs ∧
      (packs.map Prod.fst).Perm game.seatIds ∧
      ∀ recipient pack, (recipient, pack) ∈ packs → ∃ player,
        game.player? recipient = some player ∧
          pack = writtenPack command violation events recipient (game.viewFrom player) := by
  have answer := buildPacks_answer_of_writable distinct command violation (by simp [written])
  simp only [toJson?_packFor written, Option.getD_some] at answer
  have perm := @sortKeyed_perm Json (game.players.map fun player =>
    (player.id, writtenPack command violation events player.id (game.viewFrom player)))
    (by rwa [List.map_map])
  refine ⟨_, answer, ?_, fun recipient pack member => ?_⟩
  · have keys := perm.map Prod.fst
    rw [List.map_map] at keys
    exact keys
  · obtain ⟨player, seated, same⟩ := List.mem_map.mp (perm.mem_iff.mp member)
    obtain ⟨rfl, rfl⟩ := Prod.mk.inj same
    exact ⟨player, player?_of_mem distinct seated, rfl⟩

/-! ## The whole transaction -/

theorem seatIds_apply (game : Game) (userId : String) (action : Action) (now : Instant) :
    (game.apply userId action now).game.seatIds = game.seatIds :=
  seatIds_eq_of_terms (terms_apply game userId action now)

/-- When an event cannot be written nobody is answered. -/
theorem execute_answer_of_unwritable (distinct : game.seatIds.Nodup) {command : Command}
    (seated : command.userId ∈ game.seatIds) {now : Instant}
    (unwritable : (game.apply command.userId command.action now).game.events.mapM Event.toJson? =
      none) :
    (game.execute command now).answer = .error (.unwritablePack Instant.unwritable) := by
  have seats := game.seatIds_apply command.userId command.action now
  refine buildPacks_answer_of_unwritable (seats ▸ distinct) command _ (fun empty => ?_) unwritable
  rw [← seats, seatIds, empty] at seated
  exact List.not_mem_nil seated

/-- When the events can be written every seat gets its pack, and nobody else does. -/
theorem exists_packs_of_execute (distinct : game.seatIds.Nodup) {command : Command} {now : Instant}
    {events : List Json}
    (written : (game.apply command.userId command.action now).game.events.mapM Event.toJson? =
      some events) :
    let outcome := game.apply command.userId command.action now
    ∃ packs, (game.execute command now).answer = .ok packs ∧
      (packs.map Prod.fst).Perm game.seatIds ∧
      ∀ recipient pack, (recipient, pack) ∈ packs → ∃ view,
        (game.execute command now).game.view? recipient = some view ∧
          pack = writtenPack command outcome.violation events recipient view := by
  intro outcome
  have seats := game.seatIds_apply command.userId command.action now
  obtain ⟨packs, answer, recipients, contents⟩ :=
    exists_packs (seats ▸ distinct) command outcome.violation written
  refine ⟨packs, answer, seats ▸ recipients, fun recipient pack member => ?_⟩
  obtain ⟨player, isSeated, rfl⟩ := contents recipient pack member
  exact ⟨outcome.game.viewFrom player, congrArg (Option.map outcome.game.viewFrom) isSeated, rfl⟩

end Game

end Durak
