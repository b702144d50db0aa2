import Durak.Command

/-!
# How commands are spelled

A command can be spelled in many ways: members stand in any order, members that nobody asks for may
stand among them, and a card is an object or a pair.  `Command.SpelledBy` says which members spell
which command, without decoding anything.

The two levels of a command treat a repeated name differently.  The three names of the envelope have
to occur once each.  Of the cards, and inside of them, the last member of a name counts.
-/

set_option autoImplicit false

namespace Durak

/-- The values that members give to a name, in their order. -/
def Document.valuesOf (name : String) (members : List (Option String × Document)) :
    List Document :=
  (members.filter fun member => member.1 == some name).map (·.2)

/-- Whether a numeral writes a natural number, with digits only. -/
structure Numeral.Writes (numeral : Numeral) (number : Nat) : Prop where
  unsigned : numeral.negative = false
  whole : numeral.isWhole = true
  digits : ofDigits numeral.whole = number

/-! ## Cards -/

/-- A suit is spelled by its name. -/
def Suit.SpelledBy (suit : Suit) (document : Document) : Prop :=
  document = .string (some suit.name)

/-- A rank is spelled by its number. -/
def Rank.SpelledBy (rank : Rank) (document : Document) : Prop :=
  ∃ numeral, document = .number numeral ∧ numeral.Writes rank.value

/-- A card is spelled by an object that gives a suit and a rank and nothing else, the last of each
counting, or by a pair of the two. -/
inductive Card.SpelledBy (card : Card) : Document → Prop where
  | record {members : List (Option String × Document)} {suit rank : Document}
      (only : ∀ member ∈ members, member.1 = some "suit" ∨ member.1 = some "rank")
      (lastSuit : (Document.valuesOf "suit" members).getLast? = some suit)
      (lastRank : (Document.valuesOf "rank" members).getLast? = some rank)
      (isSuit : card.suit.SpelledBy suit) (isRank : card.rank.SpelledBy rank) :
      SpelledBy card (.object members)
  | pair {suit rank : Document} (isSuit : card.suit.SpelledBy suit)
      (isRank : card.rank.SpelledBy rank) : SpelledBy card (.array [suit, rank])

/-- Members give a card under a name if the last member of that name spells it. -/
def Card.GivenAs (card : Card) (name : String) (members : List (Option String × Document)) :
    Prop :=
  ∃ document, (Document.valuesOf name members).getLast? = some document ∧ card.SpelledBy document

/-! ## Commands -/

namespace Action

/-- The names of the seven actions. -/
def names : List String := [
  "ACTION_READY", "ACTION_ATTACK", "ACTION_DEFEND", "ACTION_END_ATTACK", "ACTION_TAKE_ALL_CARDS",
  "ACTION_CHECK_ATTACK_TIMER", "ACTION_CHECK_DEFEND_TIMER"]

/-- Whether an action is one that a name can stand for: a name that is kept is none of the seven. -/
def IsProper (action : Action) : Prop := ∀ name, action = .unregistered name → name ∉ names

/-- Which action a name and the members beside it spell.  Only attacks and defences have to be given
cards; a name that is none of the seven stands for itself, whatever else there is. -/
inductive SpelledBy (members : List (Option String × Document)) : Action → String → Prop where
  | ready : SpelledBy members .ready "ACTION_READY"
  | attack {card : Card} (given : card.GivenAs "card" members) :
      SpelledBy members (.attack card) "ACTION_ATTACK"
  | defend {target card : Card} (targetGiven : target.GivenAs "targetCard" members)
      (given : card.GivenAs "userCard" members) :
      SpelledBy members (.defend target card) "ACTION_DEFEND"
  | endAttack : SpelledBy members .endAttack "ACTION_END_ATTACK"
  | takeAllCards : SpelledBy members .takeAllCards "ACTION_TAKE_ALL_CARDS"
  | checkAttackTimer : SpelledBy members .checkAttackTimer "ACTION_CHECK_ATTACK_TIMER"
  | checkDefendTimer : SpelledBy members .checkDefendTimer "ACTION_CHECK_DEFEND_TIMER"
  | unregistered {name : String} (unknown : name ∉ names) :
      SpelledBy members (.unregistered name) name

end Action

namespace Command

/-- Which command the members of an object spell. -/
structure SpelledBy (command : Command) (members : List (Option String × Document)) : Prop where
  game : Document.valuesOf "gameId" members = [.string (some command.gameId)]
  user : Document.valuesOf "userId" members = [.string (some command.userId)]
  action : ∃ name, Document.valuesOf "action" members = [.string (some name)] ∧
    Action.SpelledBy members command.action name

end Command

end Durak
