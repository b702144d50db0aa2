import Durak.Game

/-!
# What a player sees

A player sees the own hand and nothing of anybody else's but how many cards it has and how many of
them were drawn last.  The deck is a number, and the discard pile does not show at all.
-/

set_option autoImplicit false

namespace Durak

/-- What is shown of another player. -/
structure OtherPlayer where
  id : String
  name : String
  seat : UInt8
  cardCount : Nat
  takenCount : Nat
  deriving DecidableEq

/-- The game as one player sees it. -/
structure View where
  viewerId : String
  viewerHand : List Card
  viewerLastDrawn : List Card
  otherPlayers : List OtherPlayer
  attackerId : String
  defenderId : String
  deckSize : Nat
  trump : Suit
  table : List TableEntry
  started : Bool
  deriving DecidableEq

/-- What others are shown of a player. -/
def Player.seenByOthers (player : Player) : OtherPlayer :=
  ⟨player.id, player.name, player.seat, player.hand.length, player.lastDrawn.length⟩

namespace Game

/-- The game as the holder of a seat sees it. -/
def viewFrom (game : Game) (viewer : Player) : View where
  viewerId := viewer.id
  viewerHand := viewer.hand
  viewerLastDrawn := viewer.lastDrawn
  otherPlayers := (game.players.filter fun player => player.id != viewer.id).map
    Player.seenByOthers
  attackerId := game.attackerId
  defenderId := game.defenderId
  deckSize := game.deck.length
  trump := game.trump
  table := game.table
  started := game.started

/-- The game as a player sees it; nobody without a seat sees anything. -/
def view? (game : Game) (viewerId : String) : Option View :=
  (game.player? viewerId).map game.viewFrom

end Game

end Durak
