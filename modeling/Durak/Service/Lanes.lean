import Durak.Service

/-!
# Many commands at once

Commands on one game are handled strictly one after another, commands on different games side by
side.  Each game that is being worked on has a lane, a queue that a command joins before it loads
the game and leaves after it has saved it; the first in the queue is the one that works.  A lane
exists only while somebody is in it, and a lane opened later for the same game is another lane.

`Traffic` is the state of a service with any number of commands in flight.  A command makes its way
in steps, and between two steps any other command may move: a step is one access to the store, or
joining a lane, or waiting in it, or leaving it.  `Traffic.step` lets one command take its next
step, and a schedule is a list of the commands that are to move.
-/

set_option autoImplicit false

namespace Durak

/-- A lane: whose game it is for, which lane it is, and the commands that hold it, the working one
first. -/
structure Lane where
  number : Nat
  gameId : String
  holders : List Nat
  deriving DecidableEq

/-- How far a command has come. -/
inductive Stage where
  /-- Nothing has been read yet. -/
  | arrived
  /-- The game's id is known, and the game is about to be looked up. -/
  | routed (gameId : String)
  /-- The game is there, and the command is about to join its lane. -/
  | found (gameId : String)
  /-- The command is in the queue of a lane. -/
  | queued (gameId : String) (lane : Nat)
  /-- The command has its lane to itself and is about to load the game. -/
  | working (gameId : String) (lane : Nat)
  /-- The transaction has been carried out and the game is about to be saved. -/
  | saving (gameId : String) (lane : Nat) (game : Game) (packs : Packs)
  /-- The answer is known, and the command is about to leave its lane. -/
  | leaving (gameId : String) (lane : Nat) (answer : Except Failure Packs)
  /-- The answer has been given. -/
  | done (answer : Except Failure Packs)

/-- A command in flight. -/
structure Flight where
  bytes : List UInt8
  now : Instant
  stage : Stage

/-- The answer of a command that is done. -/
def Flight.answer? (flight : Flight) : Option (Except Failure Packs) :=
  match flight.stage with
  | .done answer => some answer
  | _ => none

/-- A service with commands in flight.  `opened` counts the lanes opened so far, and `current`
holds the number of the lane that a game has now. -/
structure Traffic where
  service : Service
  flights : List Flight
  lanes : List Lane
  current : Keyed Nat
  opened : Nat
  log : Log

namespace Traffic

/-- A service to which some commands have just been sent, each with its clock. -/
def arriving (service : Service) (commands : List (List UInt8 × Instant)) : Traffic where
  service := service
  flights := commands.map fun command => ⟨command.1, command.2, .arrived⟩
  lanes := []
  current := []
  opened := 0
  log := []

/-- Number of games that have a lane. -/
def activeLanes (traffic : Traffic) : Nat := traffic.current.length

/-! ## Lanes -/

/-- The commands that hold a lane. -/
def holders (traffic : Traffic) (lane : Nat) : List Nat :=
  ((traffic.lanes.find? fun other => other.number == lane).map Lane.holders).getD []

/-- The lanes with the holders of one changed. -/
def changeHolders (change : List Nat → List Nat) (lane : Nat) (lanes : List Lane) : List Lane :=
  updateFirst (fun other => other.number == lane)
    (fun other => { other with holders := change other.holders }) lanes

/-- The lane of a game, opened if there is none. -/
def laneOf (traffic : Traffic) (gameId : String) : Nat × Traffic :=
  match traffic.current.lookup gameId with
  | some lane => (lane, traffic)
  | none =>
    let lane := traffic.opened
    (lane, { traffic with
      lanes := traffic.lanes ++ [⟨lane, gameId, []⟩]
      current := insertKeyed gameId lane traffic.current
      opened := lane + 1 })

/-- A command joins the lane of a game: the lane, and everything after it. -/
def join (traffic : Traffic) (flight : Nat) (gameId : String) : Nat × Traffic :=
  let (lane, traffic) := traffic.laneOf gameId
  (lane, { traffic with lanes := changeHolders (· ++ [flight]) lane traffic.lanes })

/-- A command leaves its lane.  The game's lane is closed if nobody else holds it. -/
def leave (traffic : Traffic) (flight : Nat) (gameId : String) (lane : Nat) : Traffic :=
  let closing :=
    match traffic.current.lookup gameId with
    | some current => (traffic.holders current).length == 1
    | none => false
  { traffic with
    current := if closing then eraseKeyed gameId traffic.current else traffic.current
    lanes := changeHolders (·.erase flight) lane traffic.lanes }

/-! ## Steps -/

/-- The traffic with a command at another stage. -/
def setStage (traffic : Traffic) (flight : Nat) (stage : Stage) : Traffic :=
  { traffic with flights := traffic.flights.modify flight fun entry => { entry with stage } }

/-- The traffic with more records in its log. -/
def record (traffic : Traffic) (log : Log) : Traffic := { traffic with log := traffic.log ++ log }

/-- A command that is in a lane starts to work if it is the first there. -/
def enter (traffic : Traffic) (flight : Nat) (gameId : String) (lane : Nat) : Traffic :=
  if (traffic.holders lane).head? = some flight then
    traffic.setStage flight (.working gameId lane)
  else traffic.setStage flight (.queued gameId lane)

/-- The next step of a command that stands at a stage. -/
def advance (traffic : Traffic) (flight : Nat) (bytes : List UInt8) (now : Instant) :
    Stage → Traffic
  | .arrived =>
    match Command.gameIdOf bytes with
    | .error fault => traffic.setStage flight (.done (.error fault.toFailure))
    | .ok gameId => traffic.setStage flight (.routed gameId)
  | .routed gameId =>
    match traffic.service.store.load gameId with
    | .error failure =>
      (traffic.record (traffic.service.store.loadLog gameId)).setStage flight
        (.done (.error failure))
    | .ok _ => traffic.setStage flight (.found gameId)
  | .found gameId =>
    let (lane, joined) := traffic.join flight gameId
    joined.enter flight gameId lane
  | .queued gameId lane => traffic.enter flight gameId lane
  | .working gameId lane =>
    match traffic.service.store.load gameId with
    | .error failure =>
      (traffic.record (traffic.service.store.loadLog gameId)).setStage flight
        (.leaving gameId lane (.error failure))
    | .ok game =>
      let handled := game.handle bytes now
      match handled.answer with
      | .error failure =>
        (traffic.record handled.log).setStage flight (.leaving gameId lane (.error failure))
      | .ok packs =>
        (traffic.record handled.log).setStage flight (.saving gameId lane handled.game packs)
  | .saving gameId lane game packs =>
    let served := traffic.service.finish gameId game packs
    let saved := { traffic with service := served.service }
    (saved.record served.log).setStage flight (.leaving gameId lane served.answer)
  | .leaving gameId lane answer => (traffic.leave flight gameId lane).setStage flight (.done answer)
  | .done _ => traffic

/-- Lets one command take its next step. -/
def step (traffic : Traffic) (flight : Nat) : Traffic :=
  match traffic.flights[flight]? with
  | some entry => traffic.advance flight entry.bytes entry.now entry.stage
  | none => traffic

/-- Lets commands move in the order of a schedule. -/
def run (traffic : Traffic) (schedule : List Nat) : Traffic := schedule.foldl step traffic

/-- Whether every command is done. -/
def isDone (traffic : Traffic) : Bool :=
  traffic.flights.all fun flight => flight.answer?.isSome

end Traffic

end Durak
