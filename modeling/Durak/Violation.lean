/-!
# Rule violations

A command that breaks the rules is answered with the rule it breaks.  This is an ordinary outcome
of a command and travels back to whoever sent it.
-/

set_option autoImplicit false

namespace Durak

/-- A rule that a command broke. -/
inductive Violation where
  | notYourTurn
  | userNoHasCard
  | attackTimeOver
  | defendTimeOver
  | noSameRankCardInTable
  | notFoundCardOnTable
  | targetCardGreaterThenYour
  | gameShouldBeStarted
  | cannotEndAttackInFirstTurn
  | allCardShouldBeBeatOffBeforeEndAttack
  | tableHoldsOnlySixCards
  | defenderNoCards
  | userAlreadyReady
  | unregisteredAction
  /-- A change could not be carried out although the command had been found to keep the rules. -/
  | serverError
  deriving DecidableEq, Repr

namespace Violation

/-- Every violation. -/
def all : List Violation :=
  [notYourTurn, userNoHasCard, attackTimeOver, defendTimeOver, noSameRankCardInTable,
    notFoundCardOnTable, targetCardGreaterThenYour, gameShouldBeStarted,
    cannotEndAttackInFirstTurn, allCardShouldBeBeatOffBeforeEndAttack, tableHoldsOnlySixCards,
    defenderNoCards, userAlreadyReady, unregisteredAction, serverError]

/-- The code a violation is reported as. -/
def code : Violation → String
  | notYourTurn => "NOT_YOUR_TURN"
  | userNoHasCard => "USER_NO_HAS_CARD"
  | attackTimeOver => "ATTACK_TIME_OVER"
  | defendTimeOver => "DEFEND_TIME_OVER"
  | noSameRankCardInTable => "NO_SAME_RANK_CARD_IN_TABLE"
  | notFoundCardOnTable => "NOT_FOUND_CARD_ON_TABLE"
  | targetCardGreaterThenYour => "TARGET_CARD_GREATER_THEN_YOUR"
  | gameShouldBeStarted => "GAME_SHOULD_BE_STARTED"
  | cannotEndAttackInFirstTurn => "CANNOT_END_ATTACK_IN_FIRST_TURN"
  | allCardShouldBeBeatOffBeforeEndAttack => "ALL_CARD_SHOULD_BE_BEAT_OFF_BEFORE_END_ATTACK"
  | tableHoldsOnlySixCards => "TABLE_HOLDS_ONLY_SIX_CARDS"
  | defenderNoCards => "DEFENDER_NO_CARDS"
  | userAlreadyReady => "USER_ALREADY_READY"
  | unregisteredAction => "UNREGISTERED_ACTION"
  | serverError => "SERVER_ERROR"

theorem mem_all (violation : Violation) : violation ∈ all := by cases violation <;> decide

end Violation

end Durak
