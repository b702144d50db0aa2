import Durak.Deal
import Durak.Store
import Durak.Transaction

/-!
# The service

The service deals new games into the store and handles commands on the games that are there.  A
command is routed by the game's id alone, its game is loaded, the transaction is carried out, and
the game is saved again only if there were packs, so a failure leaves every stored game as it was.

`Service.handle` handles one command at a time; `Durak.Service.Lanes` handles many at once and
gives the same answers.
-/

set_option autoImplicit false

namespace Durak

/-- A store of games, and the settings of the games that are dealt into it. -/
structure Service where
  store : Store
  settings : Settings

/-- What a command did: the service after it, the answer, and the records of what happened. -/
structure Served where
  service : Service
  answer : Except Failure Packs
  log : Log

namespace Service

/-- A service without games. -/
def ofSettings (settings : Settings) : Service := ⟨.empty, settings⟩

/-! ## Dealing -/

/-- The record of a game that has been dealt. -/
def dealtRecord (game : Game) : LogRecord :=
  ⟨.info, .service, "Game created",
    [("game_id", .text game.id), ("players", .count game.players.length),
      ("trump", .text game.trump.title)]⟩

/-- Deals a game and stores it. -/
def create (service : Service) (id : String) (seed : UInt64) (entrants : List Entrant) :
    Except Failure (Service × Game × Log) :=
  match Game.deal id entrants service.settings seed with
  | .error fault => .error fault.toDomainFault.toFailure
  | .ok game =>
    match service.store.save game with
    | .error failure => .error failure
    | .ok store => .ok ({ service with store }, game, [dealtRecord game])

/-! ## Handling a command -/

/-- The record of a command that has been handled. -/
def handledRecord (gameId : String) (packs : Packs) : LogRecord :=
  ⟨.debug, .service, "Command handled",
    [("game_id", .text gameId), ("recipients", .count packs.length)]⟩

/-- Saves a game after its transaction, and answers with the packs if that succeeds. -/
def finish (service : Service) (gameId : String) (game : Game) (packs : Packs) : Served :=
  match service.store.save game with
  | .ok store => ⟨{ service with store }, .ok packs, [handledRecord gameId packs]⟩
  | .error failure => ⟨service, .error failure, []⟩

/-- Carries out a command on the stored game of an id. -/
def transact (service : Service) (gameId : String) (bytes : List UInt8) (now : Instant) :
    Served :=
  match service.store.load gameId with
  | .error failure => ⟨service, .error failure, service.store.loadLog gameId⟩
  | .ok game =>
    let handled := game.handle bytes now
    match handled.answer with
    | .error failure => ⟨service, .error failure, handled.log⟩
    | .ok packs =>
      let served := service.finish gameId handled.game packs
      { served with log := handled.log ++ served.log }

/-- Handles the bytes of a command. -/
def handle (service : Service) (bytes : List UInt8) (now : Instant) : Served :=
  match Command.gameIdOf bytes with
  | .error fault => ⟨service, .error fault.toFailure, []⟩
  | .ok gameId => service.transact gameId bytes now

end Service

end Durak
