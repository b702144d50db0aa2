import Durak.Card
import Durak.Timer

/-!
# Events

An event tells every player what happened, and holds nothing that is not public.  A transaction
collects its events on the game, and they are handed out with the packs.
-/

set_option autoImplicit false

namespace Durak

/-- How a game ended. -/
inductive GameResult where
  | win
  | draw
  deriving DecidableEq, Repr

namespace GameResult

/-- Both results. -/
def all : List GameResult := [win, draw]

/-- The result's name on the wire. -/
def name : GameResult → String
  | win => "win"
  | draw => "draw"

/-- The result's name in a log record. -/
def title : GameResult → String
  | win => "Win"
  | draw => "Draw"

end GameResult

/-- Something that happened in a game. -/
inductive Event where
  | ready (userId : String)
  | start (attackerId defenderId : String) (trump : Suit)
  | attack (card : Card) (attackerId : String)
  | defend (target card : Card) (defenderId : String)
  | endAttack
  | takeAllCards (userId : String)
  | timerState (timer : TimerKind) (completed : Bool) (endsAt : Option Instant)
  | endGame (result : GameResult)
  deriving DecidableEq

/-- The kinds of events. -/
inductive EventKind where
  | ready
  | start
  | attack
  | defend
  | endAttack
  | takeAllCards
  | timerState
  | endGame
  deriving DecidableEq, Repr

namespace EventKind

/-- Every kind of event. -/
def all : List EventKind :=
  [ready, start, attack, defend, endAttack, takeAllCards, timerState, endGame]

/-- The tag that names a kind on the wire. -/
def tag : EventKind → String
  | ready => "EVENT_READY"
  | start => "EVENT_START"
  | attack => "EVENT_ATTACK"
  | defend => "EVENT_DEFEND"
  | endAttack => "EVENT_END_ATTACK"
  | takeAllCards => "EVENT_TAKE_ALL_CARDS"
  | timerState => "EVENT_TIMER_STATE"
  | endGame => "EVENT_END_GAME"

/-- The code a kind goes by where no event is written, as in a list of the kinds. -/
def code : EventKind → String
  | ready => "EVENT_READY"
  | start => "EVENT_START"
  | attack => "EVENT_ATTACK"
  | defend => "EVENT_DEFEND"
  | endAttack => "EVENT_END_ATTACK"
  | takeAllCards => "EVENT_TAKE_ALL_CARDS"
  | timerState => "EVENT_TIMER_STATE"
  | endGame => "EVENT_END_GAME"

/-- The kind's name. -/
def title : EventKind → String
  | ready => "Ready"
  | start => "Start"
  | attack => "Attack"
  | defend => "Defend"
  | endAttack => "EndAttack"
  | takeAllCards => "TakeAllCards"
  | timerState => "TimerState"
  | endGame => "EndGame"

end EventKind

/-- The kind of an event. -/
def Event.kind : Event → EventKind
  | .ready _ => .ready
  | .start _ _ _ => .start
  | .attack _ _ => .attack
  | .defend _ _ _ => .defend
  | .endAttack => .endAttack
  | .takeAllCards _ => .takeAllCards
  | .timerState _ _ _ => .timerState
  | .endGame _ => .endGame

end Durak
