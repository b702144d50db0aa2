import Durak.Service

/-!
# Games in memory

A service is asked to deal games and to handle commands, one request after another.  `Memory` is
what it is meant to look like from outside: the games themselves by id, never written down, and
each handled where it is.

The one thing a memory has to know of the store is which games the store cannot write, because a
command that leads to such a game fails and is undone: those with a timer that was started at an
instant without a timestamp, `Game.isWritable`.  What it does not know is that a turn timeout may be
read as another double than the one that was written; `Double.readsBack` says for which doubles that
does not happen.
-/

set_option autoImplicit false

namespace Durak

/-! ## Requests -/

/-- What a service is asked for: a new game of some id, or to handle the bytes of a command. -/
inductive Request where
  | create (id : String) (seed : UInt64) (entrants : List Entrant)
  | command (bytes : List UInt8) (now : Instant)

/-- What a service gives to a request. -/
inductive Response where
  | dealt (game : Game)
  | packs (packs : Packs)

/-- Whether a request is about the game of an id. -/
def Request.concerns (gameId : String) : Request → Prop
  | create id _ _ => id = gameId
  | command bytes _ => Command.gameIdOf bytes = .ok gameId

namespace Service

/-- What becomes of a service by a request, and what the request is given. -/
def serve (service : Service) : Request → Service × Except Failure Response
  | .create id seed entrants =>
    match service.create id seed entrants with
    | .ok (service, game, _) => (service, .ok (.dealt game))
    | .error failure => (service, .error failure)
  | .command bytes now =>
    let served := service.handle bytes now
    (served.service, served.answer.map .packs)

/-- A service after some requests. -/
def after (service : Service) (requests : List Request) : Service :=
  requests.foldl (fun service request => (service.serve request).1) service

end Service

/-! ## Games that can be written and read -/

/-- Whether a timer can be written: whether its start, if it has one, has a timestamp. -/
def Timer.isWritable (timer : Timer) : Bool :=
  timer.startedAt.all fun instant => instant.timestamp?.isSome

/-- Whether a game can be written. -/
def Game.isWritable (game : Game) : Bool :=
  game.attackTimer.isWritable && game.defendTimer.isWritable

/-- What the numeral a double is written as is read as; a double that is not finite has none. -/
def Double.restored? : Double → Option Double
  | .finite negative magnitude => (Double.serialized negative magnitude).real?
  | _ => none

/-- Whether a double is read as the double that was written. -/
def Double.readsBack (value : Double) : Bool := value.restored? == some value

/-! ## The games themselves -/

/-- Games by id, and the settings of the games that are dealt. -/
structure Memory where
  games : Keyed Game
  settings : Settings

namespace Memory

/-- A memory without games. -/
def ofSettings (settings : Settings) : Memory := ⟨[], settings⟩

/-- Deals a game, and keeps it if that succeeds. -/
def create (memory : Memory) (id : String) (seed : UInt64) (entrants : List Entrant) :
    Memory × Except Failure Response :=
  match Game.deal id entrants memory.settings seed with
  | .error fault => (memory, .error fault.toDomainFault.toFailure)
  | .ok game => ({ memory with games := insertKeyed id game memory.games }, .ok (.dealt game))

/-- Carries out a command on the game of an id, and keeps what became of it if there are packs and
the game can be written. -/
def transact (memory : Memory) (gameId : String) (game : Game) (bytes : List UInt8)
    (now : Instant) : Memory × Except Failure Response :=
  let handled := game.handle bytes now
  match handled.answer with
  | .error failure => (memory, .error failure)
  | .ok packs =>
    if handled.game.isWritable then
      ({ memory with games := insertKeyed gameId handled.game memory.games }, .ok (.packs packs))
    else (memory, .error (.unstorableGame gameId Instant.unwritable))

/-- Handles the bytes of a command. -/
def handle (memory : Memory) (bytes : List UInt8) (now : Instant) :
    Memory × Except Failure Response :=
  match Command.gameIdOf bytes with
  | .error fault => (memory, .error fault.toFailure)
  | .ok gameId =>
    match memory.games.lookup gameId with
    | none => (memory, .error (.unknownGame gameId))
    | some game => memory.transact gameId game bytes now

/-- What becomes of a memory by a request, and what the request is given. -/
def serve (memory : Memory) : Request → Memory × Except Failure Response
  | .create id seed entrants => memory.create id seed entrants
  | .command bytes now => memory.handle bytes now

/-- A memory after some requests. -/
def after (memory : Memory) (requests : List Request) : Memory :=
  requests.foldl (fun memory request => (memory.serve request).1) memory

end Memory

end Durak
