import Durak.Rules.Check
import Durak.View

/-!
# The scene and the events

The scene is what everybody at the table can see: the seats with the sizes of hands and of last
draws, the size of the deck, the table, who attacks and who defends, and whether the game has been
started.

`Scene.replay` is what a client does that only hears the events of a transaction.  Most events are
changes of their own.  The end of an attack stands for a whole closing of the round: hands are
filled up in the drawing order, the table is emptied, and the attack moves on by one seat; but
right after somebody has taken up the cards it passes over that player.
-/

set_option autoImplicit false

namespace Durak

/-- What everybody can see of a game. -/
structure Scene where
  seats : List OtherPlayer
  deckSize : Nat
  table : List TableEntry
  attackerId : String
  defenderId : String
  started : Bool
  deriving DecidableEq

/-- The scene of a game. -/
def Game.scene (game : Game) : Scene where
  seats := game.players.map Player.seenByOthers
  deckSize := game.deck.length
  table := game.table
  attackerId := game.attackerId
  defenderId := game.defenderId
  started := game.started

/-- A hand below six cards is filled up from the deck, and its last draw is what it draws now: the
seat, and the size of the deck that is left. -/
def OtherPlayer.toppedUp (seat : OtherPlayer) (deckSize : Nat) : OtherPlayer × Nat :=
  if handSize ≤ seat.cardCount then (seat, deckSize)
  else
    let drawn := min (handSize - seat.cardCount) deckSize
    ({ seat with cardCount := seat.cardCount + drawn, takenCount := drawn }, deckSize - drawn)

namespace Scene

/-! ## Seats -/

/-- The ids of the seats, in seat order. -/
def ids (scene : Scene) : List String := scene.seats.map (·.id)

/-- Who sits after a player, going around the table. -/
def nextSeat? (scene : Scene) (id : String) : Option String := do
  let position ← scene.ids.idxOf? id
  scene.ids[(position + 1) % scene.ids.length]?

/-- Everybody but the attacker and the defender, in seat order starting after the attacker. -/
def bystanders (scene : Scene) : List String :=
  let start := (scene.ids.idxOf? scene.attackerId).getD 0
  (scene.ids.drop (start + 1) ++ scene.ids.take start).filter fun id =>
    id != scene.attackerId && id != scene.defenderId

/-- The order in which cards are drawn. -/
def drawingOrder (scene : Scene) : List String :=
  scene.attackerId :: scene.bystanders ++ [scene.defenderId]

/-- The scene with a seat changed. -/
def changeSeat (scene : Scene) (id : String) (change : OtherPlayer → OtherPlayer) : Scene :=
  { scene with seats := updateFirst (fun seat => seat.id == id) change scene.seats }

/-! ## What an event changes -/

/-- Fills up one hand. -/
def topUp (scene : Scene) (id : String) : Scene :=
  match scene.seats.find? fun seat => seat.id == id with
  | some seat =>
    let (filled, deckSize) := seat.toppedUp scene.deckSize
    { scene.changeSeat id fun _ => filled with deckSize }
  | none => scene

/-- Fills up every hand. -/
def topUpAll (scene : Scene) : Scene := scene.drawingOrder.foldl topUp scene

/-- The attack moves on: the defender attacks, and the next seat defends. -/
def switchRoles (scene : Scene) : Scene :=
  match scene.nextSeat? scene.defenderId with
  | some next => { scene with attackerId := scene.defenderId, defenderId := next }
  | none => scene

/-- The attack passes over a player: the next seat attacks the one after it. -/
def passOver (scene : Scene) (id : String) : Scene :=
  match scene.nextSeat? id with
  | some attackerId =>
    match scene.nextSeat? attackerId with
    | some defenderId => { scene with attackerId, defenderId }
    | none => scene
  | none => scene

/-- The round is closed; `taker` is who has just taken up the cards, if anybody has. -/
def closeRound (scene : Scene) (taker : Option String) : Scene :=
  let cleared := { scene.topUpAll with table := [] }
  match taker with
  | some id => cleared.passOver id
  | none => cleared.switchRoles

/-- A player takes up the table. -/
def takeTable (scene : Scene) (id : String) : Scene :=
  let taken := scene.changeSeat id fun seat =>
    { seat with cardCount := seat.cardCount + (tableCards scene.table).length }
  { taken with table := [] }

/-- One card leaves a hand. -/
def playCard (scene : Scene) (id : String) : Scene :=
  scene.changeSeat id fun seat => { seat with cardCount := seat.cardCount - 1 }

/-- What an event changes; `taker` is who has just taken up the cards, if anybody has. -/
def afterEvent (scene : Scene) (taker : Option String) : Event → Scene
  | .start _ _ _ => { scene with started := true }
  | .attack card attackerId =>
    { scene.playCard attackerId with table := scene.table ++ [⟨card, none⟩] }
  | .defend target card defenderId =>
    { scene.playCard defenderId with
      table := updateFirst (Check.isOpenTarget target) (fun entry => { entry with cover := some card })
        scene.table }
  | .takeAllCards userId => scene.takeTable userId
  | .endAttack => scene.closeRound taker
  | .ready _ => scene
  | .timerState _ _ _ => scene
  | .endGame _ => scene

/-- Who has taken up the cards with an event. -/
def takerOf? : Event → Option String
  | .takeAllCards userId => some userId
  | _ => none

/-- Replays events; `taker` is who took up the cards with the event before them. -/
def replayAfter (scene : Scene) (taker : Option String) : List Event → Scene
  | [] => scene
  | event :: rest => (scene.afterEvent taker event).replayAfter (takerOf? event) rest

/-- Replays the events of one transaction. -/
def replay (scene : Scene) (events : List Event) : Scene := scene.replayAfter none events

end Scene

end Durak
