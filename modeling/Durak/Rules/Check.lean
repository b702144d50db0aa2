import Durak.Game
import Durak.Violation

/-!
# Checks

Each rule a command has to keep is a check of its own: it passes, `none`, or names the violation.
A command runs its checks in a fixed order, and the first that fails is the one reported.
-/

set_option autoImplicit false

namespace Durak

/-- The violation, unless the condition holds. -/
def Violation.unless (violation : Violation) (condition : Bool) : Option Violation :=
  if condition then none else some violation

namespace Check

variable (game : Game)

/-- The game has been started. -/
def gameStarted : Option Violation := Violation.gameShouldBeStarted.unless game.started

/-- The user attacks in this round. -/
def isAttacker (userId : String) : Option Violation :=
  Violation.notYourTurn.unless (game.roleOf userId = .attacker)

/-- The user defends in this round. -/
def isDefender (userId : String) : Option Violation :=
  Violation.notYourTurn.unless (game.roleOf userId = .defender)

/-- The user does not defend in this round. -/
def isNotDefender (userId : String) : Option Violation :=
  Violation.notYourTurn.unless (game.roleOf userId ≠ .defender)

/-- The player holds the card. -/
def hasCard (player : Player) (card : Card) : Option Violation :=
  Violation.userNoHasCard.unless (player.hand.contains card)

/-- The user has a seat and holds the card. -/
def userHasCard (userId : String) (card : Card) : Option Violation :=
  match game.player? userId with
  | some player => hasCard player card
  | none => some .notYourTurn

/-- The attack timer has not run out. -/
def attackTimeLeft (now : Instant) : Option Violation :=
  Violation.attackTimeOver.unless
    !(game.attackTimer.expired game.settings.turnTimeoutSeconds now)

/-- The defend timer has not run out. -/
def defendTimeLeft (now : Instant) : Option Violation :=
  Violation.defendTimeOver.unless
    !(game.defendTimer.expired game.settings.turnTimeoutSeconds now)

/-- The defender has a seat and at least one card. -/
def defenderHasCards : Option Violation :=
  match game.player? game.defenderId with
  | some defender => Violation.defenderNoCards.unless !defender.hand.isEmpty
  | none => some .defenderNoCards

/-- There is room on the table. -/
def tableNotFull : Option Violation :=
  Violation.tableHoldsOnlySixCards.unless (game.table.length < tableLimit)

/-- Some card on the table, attacking or covering, has the rank. -/
def sameRankOnTable (rank : Rank) : Option Violation :=
  Violation.noSameRankCardInTable.unless ((tableCards game.table).any fun card => card.rank = rank)

/-- The rank is on the table, or nothing is. -/
def rankMayJoin (rank : Rank) : Option Violation :=
  if game.table.isEmpty then none else sameRankOnTable game rank

/-- Whether an entry of the table is a given card, not yet beaten. -/
def isOpenTarget (target : Card) (entry : TableEntry) : Bool :=
  entry.card = target && !entry.isBeaten

/-- The target lies on the table and is not yet beaten. -/
def targetOnTable (target : Card) : Option Violation :=
  Violation.notFoundCardOnTable.unless (game.table.any (isOpenTarget target))

/-- The card beats the target. -/
def cardBeatsTarget (card target : Card) : Option Violation :=
  Violation.targetCardGreaterThenYour.unless (card.beats game.trump target)

/-- There is a card on the table. -/
def tableNotEmpty : Option Violation :=
  Violation.cannotEndAttackInFirstTurn.unless !game.table.isEmpty

/-- Every attacking card on the table has been beaten. -/
def allCardsBeaten : Option Violation :=
  Violation.allCardShouldBeBeatOffBeforeEndAttack.unless (game.table.all TableEntry.isBeaten)

/-- The user has not said to be ready before. -/
def notReadyYet (userId : String) : Option Violation :=
  Violation.userAlreadyReady.unless !game.readyVotes.contains userId

end Check

end Durak
