/-!
# Cards

The game is played with the thirty-six card pack: four suits, nine ranks from the six up to the
ace.  This module holds the cards, the order in which a pack is laid out, and the one comparison
the rules make, `Card.beats`.

Beating is not an order.  A trump beats every card that is not a trump, and within trumps, or
among cards that are not trumps, the higher rank wins *whatever the two suits are*.  Two cards of
one rank that are both plain, or both trumps, therefore never beat each other.
-/

set_option autoImplicit false

namespace Durak

/-- The four suits. -/
inductive Suit where
  | clubs
  | diamonds
  | hearts
  | spades
  deriving DecidableEq, Repr, Inhabited

/-- The nine ranks of the short pack, lowest first. -/
inductive Rank where
  | six
  | seven
  | eight
  | nine
  | ten
  | jack
  | queen
  | king
  | ace
  deriving DecidableEq, Repr, Inhabited

/-- A card is a suit and a rank. -/
structure Card where
  suit : Suit
  rank : Rank
  deriving DecidableEq, Repr, Inhabited

/-! ## Suits -/

namespace Suit

/-- Every suit, in the order of the pack. -/
def all : List Suit := [.clubs, .diamonds, .hearts, .spades]

/-- Position of a suit in the pack. -/
def index : Suit → Nat
  | clubs => 0
  | diamonds => 1
  | hearts => 2
  | spades => 3

/-- The suit's name on the wire. -/
def name : Suit → String
  | clubs => "CLUBS"
  | diamonds => "DIAMONDS"
  | hearts => "HEARTS"
  | spades => "SPADES"

/-- The suit's name in a log record. -/
def title : Suit → String
  | clubs => "Clubs"
  | diamonds => "Diamonds"
  | hearts => "Hearts"
  | spades => "Spades"

/-- The suit a wire name stands for. -/
def ofName? (text : String) : Option Suit :=
  all.find? fun suit => suit.name == text

theorem mem_all (suit : Suit) : suit ∈ all := by cases suit <;> decide

theorem ofName?_name (suit : Suit) : ofName? suit.name = some suit := by cases suit <;> decide

end Suit

/-! ## Ranks -/

namespace Rank

/-- Every rank, lowest first. -/
def all : List Rank := [.six, .seven, .eight, .nine, .ten, .jack, .queen, .king, .ace]

/-- The number a rank is written as: six to ten by their face, then eleven to fourteen. -/
def value : Rank → Nat
  | six => 6
  | seven => 7
  | eight => 8
  | nine => 9
  | ten => 10
  | jack => 11
  | queen => 12
  | king => 13
  | ace => 14

/-- The rank written as a number, if there is one. -/
def ofValue? (number : Nat) : Option Rank :=
  all.find? fun rank => rank.value == number

theorem mem_all (rank : Rank) : rank ∈ all := by cases rank <;> decide

theorem ofValue?_value (rank : Rank) : ofValue? rank.value = some rank := by cases rank <;> decide

theorem value_injective {first second : Rank} (same : first.value = second.value) :
    first = second := by
  cases first <;> cases second <;> first | rfl | exact absurd same (by decide)

end Rank

/-! ## Cards -/

namespace Card

/-- The full pack, suit by suit and by rank within a suit. -/
def pack : List Card :=
  Suit.all.flatMap fun suit => Rank.all.map fun rank => ⟨suit, rank⟩

/-- Number of cards in the pack. -/
def packSize : Nat := 36

theorem length_pack : pack.length = packSize := by decide

theorem mem_pack (card : Card) : card ∈ pack := by
  obtain ⟨suit, rank⟩ := card
  cases suit <;> cases rank <;> decide

/-- The order of the pack: suit first, rank within the suit.  It sorts cards and decides nothing
in the game. -/
def compare (first second : Card) : Ordering :=
  (Ord.compare first.suit.index second.suit.index).then
    (Ord.compare first.rank.value second.rank.value)

/-- Whether `cover` beats `attack` when `trump` is the trump suit. -/
def beats (trump : Suit) (cover attack : Card) : Bool :=
  if cover.suit = trump ∧ attack.suit ≠ trump then true
  else if attack.suit = trump ∧ cover.suit ≠ trump then false
  else attack.rank.value < cover.rank.value

/-- A card never beats itself, or any card it would also lose to. -/
theorem not_beats_of_beats {trump : Suit} {cover attack : Card}
    (beaten : beats trump cover attack = true) : beats trump attack cover = false := by
  unfold beats at *
  split at beaten
  · rename_i trumps
    simp [trumps]
  · split at beaten
    · simp at beaten
    · rename_i notTrumping notTrumped
      simp only [decide_eq_true_eq] at beaten
      rw [if_neg notTrumped, if_neg notTrumping]
      simp only [decide_eq_false_iff_not]
      omega

end Card

end Durak
