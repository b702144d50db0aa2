import Durak.Card

/-!
# Actions

What a player can ask for.  A name that stands for none of the seven actions is kept, so that the
answer can say that the action is not known.
-/

set_option autoImplicit false

namespace Durak

/-- What a player asks for. -/
inductive Action where
  | ready
  | attack (card : Card)
  | defend (target card : Card)
  | endAttack
  | takeAllCards
  | checkAttackTimer
  | checkDefendTimer
  | unregistered (name : String)
  deriving DecidableEq

namespace Action

/-- The name of an action on the wire. -/
def name : Action → String
  | ready => "ACTION_READY"
  | attack _ => "ACTION_ATTACK"
  | defend _ _ => "ACTION_DEFEND"
  | endAttack => "ACTION_END_ATTACK"
  | takeAllCards => "ACTION_TAKE_ALL_CARDS"
  | checkAttackTimer => "ACTION_CHECK_ATTACK_TIMER"
  | checkDefendTimer => "ACTION_CHECK_DEFEND_TIMER"
  | unregistered name => name

/-- Whether an action is one of the seven. -/
def isRegistered : Action → Bool
  | unregistered _ => false
  | _ => true

end Action

end Durak
