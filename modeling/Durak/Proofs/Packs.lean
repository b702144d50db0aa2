import Durak.Proofs.Seats
import Durak.Transaction

/-!
# What a transaction hands out

The bytes of a command are judged in a fixed order, and whatever fails first is the answer; packs
are given only for a command that is carried out (`exists_command_of_answer`).  When the players'
ids are distinct, every seat gets a pack of its own: the events, with the result of the command
before them for whoever sent it, and the game as that seat sees it (`seatPacks_of_distinct`).
Writing packs can only fail on an event, and all packs hold the same events, so either no pack can
be written or all can (`buildPacks_answer_of_writable`, `buildPacks_answer_of_unwritable`).
-/

set_option autoImplicit false

namespace Durak

/-! ## Tables that are filled one entry after another -/

/-- Among entries with distinct names, put one after another into a table, a name is looked up
among the entries first. -/
theorem lookup_foldl_insertKeyed {α : Type} {entries : Keyed α}
    (distinct : (entries.map Prod.fst).Nodup) (table : Keyed α) (name : String) :
    (entries.foldl (fun table entry => insertKeyed entry.1 entry.2 table) table).lookup name =
      (entries.lookup name).or (table.lookup name) := by
  induction entries generalizing table with
  | nil => rfl
  | cons entry rest hypothesis =>
    obtain ⟨first, value⟩ := entry
    obtain ⟨fresh, distinct⟩ := List.nodup_cons.mp distinct
    rw [List.foldl_cons, hypothesis distinct]
    by_cases same : name = first
    · subst same
      rw [lookup_eq_none_iff_keys.mpr fresh, Option.none_or, lookup_insertKeyed_self,
        List.lookup_cons_self, Option.some_or]
    · have apart : (name == first) = false := by simpa using same
      rw [lookup_insertKeyed_of_ne same, List.lookup_cons, apart]

/-- Sorting entries with distinct names does not change what a name stands for. -/
theorem lookup_sortKeyed {α : Type} {entries : Keyed α}
    (distinct : (entries.map Prod.fst).Nodup) (name : String) :
    (sortKeyed entries).lookup name = entries.lookup name :=
  (lookup_foldl_insertKeyed distinct [] name).trans (Option.or_none)

namespace Game

/-! ## Which commands are carried out -/

section Handle

variable {game : Game} {bytes : List UInt8} {command : Command}

theorem handle_of_fault {fault : CommandFault} (refused : Command.ofBytes bytes = .error fault)
    (now : Instant) : game.handle bytes now = ⟨game, .error fault.toFailure, []⟩ := by
  simp only [handle, refused]

theorem handle_of_wrongGame (decoded : Command.ofBytes bytes = .ok command)
    (other : command.gameId ≠ game.id) (now : Instant) :
    game.handle bytes now = ⟨game, .error (.wrongGame command.gameId game.id), []⟩ := by
  simp only [handle, decoded, if_pos other]

theorem handle_of_unseated (decoded : Command.ofBytes bytes = .ok command)
    (ours : command.gameId = game.id) (unseated : command.userId ∉ game.seatIds) (now : Instant) :
    game.handle bytes now = ⟨game, .error (.notSeated command.userId game.id), []⟩ := by
  have noSeat : (game.player? command.userId).isNone = true := by
    rw [← Option.not_isSome, Bool.not_eq_true', ← Bool.not_eq_true, isSome_player?_iff]
    exact unseated
  simp only [handle, decoded, ours, noSeat, ne_eq, not_true_eq_false, if_false, if_true]

theorem handle_of_seated (decoded : Command.ofBytes bytes = .ok command)
    (ours : command.gameId = game.id) (seated : command.userId ∈ game.seatIds) (now : Instant) :
    game.handle bytes now = game.execute command now := by
  have isSeated : (game.player? command.userId).isNone = false := by
    rw [Option.isNone_eq_false_iff]
    exact isSome_player?_iff.mpr seated
  simp only [handle, decoded, ours, isSeated, ne_eq, not_true_eq_false, Bool.false_eq_true,
    if_false]

/-- Packs are given only for a command that is carried out. -/
theorem exists_command_of_answer {packs : Packs} {now : Instant}
    (answered : (game.handle bytes now).answer = .ok packs) :
    ∃ command, Command.ofBytes bytes = .ok command ∧ command.gameId = game.id ∧
      command.userId ∈ game.seatIds ∧ game.handle bytes now = game.execute command now := by
  cases decoded : Command.ofBytes bytes with
  | error fault => simp [handle_of_fault decoded] at answered
  | ok command =>
    by_cases ours : command.gameId = game.id
    · by_cases seated : command.userId ∈ game.seatIds
      · exact ⟨command, rfl, ours, seated, handle_of_seated decoded ours seated now⟩
      · simp [handle_of_unseated decoded ours seated] at answered
    · simp [handle_of_wrongGame decoded ours] at answered

end Handle

/-! ## The pack of a seat -/

/-- What a seat is told: the events, after the result for whoever sent the command. -/
def messagesFor (game : Game) (command : Command) (violation : Option Violation)
    (player : Player) : List Message :=
  let events := game.events.map Message.event
  if player.id = command.userId then .result ⟨command, violation, game.viewFrom player⟩ :: events
  else events

/-- The pack of a seat. -/
def packFor (game : Game) (command : Command) (violation : Option Violation)
    (player : Player) : Pack :=
  ⟨game.messagesFor command violation player, game.viewFrom player⟩

theorem viewFor_of_mem {game : Game} (distinct : game.seatIds.Nodup) {player : Player}
    (seated : player ∈ game.players) : game.viewFor player = game.viewFrom player := by
  unfold viewFor
  rw [player?_of_mem distinct seated, Option.getD_some]

/-- Once the sender has been answered, the seats of others get the events only. -/
theorem seatPacks_of_answered {game : Game} (command : Command) (violation : Option Violation)
    {answered : Bool} {players : List Player}
    (others : answered = true ∨ command.userId ∉ players.map (·.id)) :
    game.seatPacks command violation answered players = players.map fun player =>
      (player.id, ⟨game.events.map Message.event, game.viewFor player⟩) := by
  induction players with
  | nil => rfl
  | cons player rest hypothesis =>
    have apart : (!answered && player.id == command.userId) = false := by
      rcases others with rfl | absent
      · rfl
      · have different : player.id ≠ command.userId := fun same => absent (by simp [same])
        simp [different]
    have later : answered = true ∨ command.userId ∉ rest.map (·.id) :=
      others.imp_right fun absent member => absent (List.mem_cons_of_mem _ member)
    simp only [seatPacks, apart, Bool.false_eq_true, if_false, hypothesis later, List.map_cons]

/-- **Every seat gets its own pack, and only the sender's starts with the result.** -/
theorem seatPacks_of_distinct {game : Game} (distinct : game.seatIds.Nodup) (command : Command)
    (violation : Option Violation) :
    game.seatPacks command violation false game.players =
      game.players.map fun player => (player.id, game.packFor command violation player) := by
  have views : ∀ player ∈ game.players, game.viewFor player = game.viewFrom player :=
    fun _ => viewFor_of_mem distinct
  unfold seatIds at distinct
  generalize game.players = players at *
  induction players with
  | nil => rfl
  | cons player rest hypothesis =>
    obtain ⟨fresh, distinct⟩ := List.nodup_cons.mp distinct
    have own := views player List.mem_cons_self
    have later := fun other member => views other (List.mem_cons_of_mem player member)
    by_cases sender : player.id = command.userId
    · have others : command.userId ∉ rest.map (·.id) := sender ▸ fresh
      have toOthers : ∀ other ∈ rest, other.id ≠ command.userId :=
        fun other member same => others (same ▸ List.mem_map_of_mem member)
      simp only [seatPacks, sender, own, Bool.not_false, beq_self_eq_true, Bool.and_self, if_true,
        seatPacks_of_answered command violation (.inl rfl), List.map_cons, packFor, messagesFor]
      refine congrArg _ (List.map_congr_left fun other member => ?_)
      rw [if_neg (toOthers other member), later other member]
    · have apart : (player.id == command.userId) = false := by simpa using sender
      simp only [seatPacks, apart, own, Bool.and_false, Bool.false_eq_true, if_false,
        hypothesis distinct later, List.map_cons, packFor, messagesFor, sender]

/-! ## Writing the packs -/

theorem mapM_map_event (events : List Event) :
    (events.map Message.event).mapM Message.toJson? = events.mapM Event.toJson? := by
  induction events with
  | nil => rfl
  | cons event rest hypothesis =>
    simp only [List.map_cons, List.mapM_cons, hypothesis]
    rfl

/-- A pack can be written when the events can. -/
theorem toJson?_packFor {game : Game} {events : List Json}
    (written : game.events.mapM Event.toJson? = some events) (command : Command)
    (violation : Option Violation) (player : Player) :
    (game.packFor command violation player).toJson? = some (.object [
      ("messages", .array <|
        if player.id = command.userId then
          (CommandResult.mk command violation (game.viewFrom player)).toJson :: events
        else events),
      ("gameState", (game.viewFrom player).toJson)]) := by
  unfold Pack.toJson? packFor messagesFor
  simp only
  split
  · simp only [List.mapM_cons, mapM_map_event, written]
    rfl
  · simp only [mapM_map_event, written]
    rfl

/-- A pack cannot be written when some event cannot. -/
theorem toJson?_packFor_eq_none {game : Game}
    (unwritable : game.events.mapM Event.toJson? = none) (command : Command)
    (violation : Option Violation) (player : Player) :
    (game.packFor command violation player).toJson? = none := by
  unfold Pack.toJson? packFor messagesFor
  simp only
  split
  · simp only [List.mapM_cons, mapM_map_event, unwritable]
    rfl
  · simp only [mapM_map_event, unwritable]
    rfl

/-- Packs that can all be written are put into the table one after another. -/
theorem writePacks_of_writable {game : Game} {packs : List (String × Pack)} (write : Pack → Json)
    (writable : ∀ pack ∈ packs, pack.2.toJson? = some (write pack.2)) (written : Packs) :
    (game.writePacks written packs).1 = .ok ((packs.map fun pack => (pack.1, write pack.2)).foldl
      (fun table entry => insertKeyed entry.1 entry.2 table) written) := by
  induction packs generalizing written with
  | nil => rfl
  | cons pack rest hypothesis =>
    obtain ⟨recipient, pack⟩ := pack
    have first := writable (recipient, pack) List.mem_cons_self
    have later := hypothesis fun other member => writable other (List.mem_cons_of_mem _ member)
    rw [writePacks, first]
    exact later _

variable {game : Game} (distinct : game.seatIds.Nodup) (command : Command)
  (violation : Option Violation)

include distinct

/-- When the events can be written every seat is answered. -/
theorem buildPacks_answer_of_writable (writable : (game.events.mapM Event.toJson?).isSome) :
    (game.buildPacks command violation).answer = .ok (sortKeyed <| game.players.map fun player =>
      (player.id, ((game.packFor command violation player).toJson?).getD .null)) := by
  obtain ⟨events, written⟩ := Option.isSome_iff_exists.mp writable
  unfold buildPacks
  rw [seatPacks_of_distinct distinct]
  show (game.writePacks [] _).1 = _
  rw [writePacks_of_writable fun pack => (pack.toJson?).getD .null, List.map_map]
  · rfl
  · intro pack member
    obtain ⟨player, -, rfl⟩ := List.mem_map.mp member
    simp only [toJson?_packFor written, Option.getD_some]

/-- When some event cannot be written nobody is answered, as soon as somebody is seated. -/
theorem buildPacks_answer_of_unwritable (seated : game.players ≠ [])
    (unwritable : game.events.mapM Event.toJson? = none) :
    (game.buildPacks command violation).answer = .error (.unwritablePack Instant.unwritable) := by
  unfold buildPacks
  rw [seatPacks_of_distinct distinct]
  show (game.writePacks [] _).1 = _
  obtain ⟨first, rest, seats⟩ := List.exists_cons_of_ne_nil seated
  rw [seats, List.map_cons, writePacks, toJson?_packFor_eq_none unwritable]

end Game

end Durak
