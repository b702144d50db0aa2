import Durak.Proofs.Accepted
import Durak.Proofs.Packs
import Durak.Proofs.Run
import Durak.Service

/-!
# Routing

A command is routed by the name of its game, which `Command.gameIdOf` reads without looking at the
rest.  Whatever `Command.ofBytes` decodes is routed to the game it names (`gameIdOf_of_ofBytes`), so
a transaction that answers with packs is one on a game of the id it was routed to, and the game it
gives has that id too (`Game.id_of_handle`).
-/

set_option autoImplicit false

namespace Durak

namespace Command

open Document

/-- The name of the game is read from any object that gives it once. -/
theorem routing_decode_object {members : List (Option String × Document)} {gameId : String}
    (named : ∀ member ∈ members, member.1.isSome)
    (given : valuesOf "gameId" members = [.string (some gameId)]) :
    routing.decode .text (fun members => members.get gameField) (.object members) = .ok gameId := by
  obtain ⟨passes, isGame⟩ :=
    (gameField.foundIn_iff ⟨rfl, rfl⟩ routing.title routing.names false).mp
      (textField_foundIn.mpr given)
  have faultless : routing.firstFault? [] members = none := by
    refine (Record.firstFault?_eq_none_iff (by decide)).mpr ⟨names_of_tolerant rfl named, ?_⟩
    intro check listed
    obtain rfl := List.mem_singleton.mp listed
    exact passes
  rw [Record.decode, Record.decodeMembers_eq_ok_iff]
  exact ⟨faultless, isGame⟩

/-- A command that can be decoded is routed to the game it names. -/
theorem gameIdOf_of_ofBytes {bytes : List UInt8} {command : Command}
    (isCommand : ofBytes bytes = .ok command) : gameIdOf bytes = .ok command.gameId := by
  obtain ⟨members, isRead, valid, spelled⟩ := ofBytes_eq_ok_iff.mp isCommand
  have routed := routing_decode_object (isSome_of_isStrictWithin valid) spelled.game
  simp only [gameIdOf, decodeBytes, isRead, decodeWith, routed, Except.mapError]

end Command

/-! ## The game of a transaction -/

/-- A transaction that gives packs is on a game of the id that its command is routed to, and keeps
that id. -/
theorem Game.id_of_handle {game : Game} {bytes : List UInt8} {now : Instant} {packs : Packs}
    (answered : (game.handle bytes now).answer = .ok packs) :
    Command.gameIdOf bytes = .ok game.id ∧ (game.handle bytes now).game.id = game.id := by
  obtain ⟨command, decoded, ours, -, executed⟩ := exists_command_of_answer answered
  rw [executed]
  refine ⟨ours ▸ Command.gameIdOf_of_ofBytes decoded, ?_⟩
  exact congrArg Prod.fst (terms_apply game command.userId command.action now)

end Durak
