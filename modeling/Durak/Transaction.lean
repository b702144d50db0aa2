import Durak.Pack
import Durak.Rules.Apply

/-!
# Transactions

A transaction takes the bytes of one command and a game, and gives the game after it and a pack for
every player.  Bytes that are no command, a command for another game and a user without a seat are
failures, and leave the game as it was.  A command that breaks a rule is no failure: its sender is
told which.
-/

set_option autoImplicit false

namespace Durak

/-- Packs by recipient, in the order of the recipients' ids. -/
abbrev Packs := Keyed Json

/-- What a transaction gives: the game after it, the answer, and the records of what happened. -/
structure Handled where
  game : Game
  answer : Except Failure Packs
  log : Log

namespace Game

/-- The game as the player of a seat sees it: a player who is seated twice sees the first seat. -/
def viewFor (game : Game) (player : Player) : View :=
  game.viewFrom ((game.player? player.id).getD player)

/-- The pack of each seat.  The result goes to the first seat of whoever sent the command. -/
def seatPacks (game : Game) (command : Command) (violation : Option Violation) :
    Bool → List Player → List (String × Pack)
  | _, [] => []
  | answered, player :: rest =>
    let view := game.viewFor player
    let events := game.events.map Message.event
    if !answered && player.id == command.userId then
      (player.id, ⟨.result ⟨command, violation, view⟩ :: events, view⟩) ::
        game.seatPacks command violation true rest
    else (player.id, ⟨events, view⟩) :: game.seatPacks command violation answered rest

/-- The record of a pack that cannot be written. -/
def unwritableRecord (game : Game) (recipient : String) : LogRecord :=
  ⟨.error, .transaction, "Failed to encode pack",
    [("game_id", .text game.id), ("player_id", .text recipient),
      ("error", .text Instant.unwritable)]⟩

/-- Writes packs one after another; `written` are the ones written before. -/
def writePacks (game : Game) (written : Packs) :
    List (String × Pack) → Except Failure Packs × Log
  | [] => (.ok written, [])
  | (recipient, pack) :: rest =>
    match pack.toJson? with
    | some json => game.writePacks (insertKeyed recipient json written) rest
    | none => (.error (.unwritablePack Instant.unwritable), [game.unwritableRecord recipient])

/-- Hands out the events of a game in one pack for each player. -/
def buildPacks (game : Game) (command : Command) (violation : Option Violation) : Handled :=
  let (answer, log) :=
    game.writePacks [] (game.seatPacks command violation false game.players)
  ⟨game.withoutEvents, answer, log⟩

/-- The record of a command that broke a rule. -/
def rejectionRecord (game : Game) (command : Command) (violation : Violation) : LogRecord :=
  ⟨.debug, .transaction, "Command rejected",
    [("game_id", .text game.id), ("user_id", .text command.userId),
      ("action", .text command.action.name), ("violation", .text violation.code)]⟩

/-- Carries out a command that is known to be for this game and of one of its players. -/
def execute (game : Game) (command : Command) (now : Instant) : Handled :=
  let outcome := game.apply command.userId command.action now
  let rejection := (outcome.violation.map (outcome.game.rejectionRecord command)).toList
  let handled := outcome.game.buildPacks command outcome.violation
  { handled with log := outcome.log ++ rejection ++ handled.log }

/-- Handles the bytes of a command. -/
def handle (game : Game) (bytes : List UInt8) (now : Instant) : Handled :=
  match Command.ofBytes bytes with
  | .error fault => ⟨game, .error fault.toFailure, []⟩
  | .ok command =>
    if command.gameId ≠ game.id then ⟨game, .error (.wrongGame command.gameId game.id), []⟩
    else if (game.player? command.userId).isNone then
      ⟨game, .error (.notSeated command.userId game.id), []⟩
    else game.execute command now

end Game

end Durak
