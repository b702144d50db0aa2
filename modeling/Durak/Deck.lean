import Durak.Card

/-!
# Drawing from a deck

A deck is drawn from its end, one card at a time, so the last card is drawn first.  `draw` takes
several at once, and `draw_append` says that what is drawn, put back in reverse, gives the deck
again.
-/

set_option autoImplicit false

namespace Durak

/-- Draws up to so many cards from the end of a deck: the cards in the order they are drawn, and
what is left. -/
def draw (count : Nat) (deck : List Card) : List Card × List Card :=
  let remaining := deck.length - count
  ((deck.drop remaining).reverse, deck.take remaining)

/-- No card is lost by drawing. -/
theorem draw_append (count : Nat) (deck : List Card) :
    (draw count deck).2 ++ (draw count deck).1.reverse = deck := by
  simp [draw]

/-- As many cards are drawn as were asked for, if the deck holds them. -/
theorem length_draw (count : Nat) (deck : List Card) :
    (draw count deck).1.length = min count deck.length := by
  simp only [draw, List.length_reverse, List.length_drop]
  omega

end Durak
