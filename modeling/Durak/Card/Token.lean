import Durak.Card

/-!
# Card tokens

People write cards as two characters, the rank and then the suit: `6H`, `TS`, `AD`.  Reading a
token takes exactly two characters, so `10H` is no card; `ofToken?_token` says that every card
reads back from the token it is shown as.
-/

set_option autoImplicit false

namespace Durak

/-- The character a rank is shown as. -/
def Rank.letter : Rank → Char
  | .six => '6'
  | .seven => '7'
  | .eight => '8'
  | .nine => '9'
  | .ten => 'T'
  | .jack => 'J'
  | .queen => 'Q'
  | .king => 'K'
  | .ace => 'A'

/-- The character a suit is shown as. -/
def Suit.letter : Suit → Char
  | .clubs => 'C'
  | .diamonds => 'D'
  | .hearts => 'H'
  | .spades => 'S'

namespace Card

/-- The two characters that show a card. -/
def token (card : Card) : String :=
  String.ofList [card.rank.letter, card.suit.letter]

/-- The card a token shows. -/
def ofToken? (text : String) : Option Card :=
  match text.toList with
  | [rankLetter, suitLetter] => do
    let rank ← Rank.all.find? fun rank => rank.letter == rankLetter
    let suit ← Suit.all.find? fun suit => suit.letter == suitLetter
    some ⟨suit, rank⟩
  | _ => none

theorem ofToken?_token (card : Card) : ofToken? card.token = some card := by
  obtain ⟨suit, rank⟩ := card
  unfold ofToken? token
  rw [String.toList_ofList]
  cases suit <;> cases rank <;> decide

end Card

end Durak
