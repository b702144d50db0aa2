import Durak.Deal.Draws

/-!
# Shuffling

Items are shuffled by going through their places in order and exchanging each place with one drawn
among the places up to it.  Small choices share a draw: one number below the product
`m * (m + 1) * …` holds a choice among `m`, one among `m + 1`, and so on, as its remainder by `m`,
the remainder of the quotient by `m + 1`, and so on.  Each draw covers as many places as keep the
product within one word.

Whatever is drawn, the result holds the same items, `shuffled_perm`.
-/

set_option autoImplicit false

namespace Durak

/-- Multiplies a product by consecutive factors, starting from the given one, for as long as it
stays below the limit of a word: the product and the number of factors used. -/
def consecutiveProduct : Nat → Nat → Nat → Nat × Nat
  | 0, product, _ => (product, 0)
  | steps + 1, product, factor =>
    if product * factor < wordLimit then
      let (whole, count) := consecutiveProduct steps (product * factor) (factor + 1)
      (whole, count + 1)
    else (product, 0)

/-- Choices still to be read off a number, how many they are, and the draws after it. -/
structure Choices where
  draws : Draws
  number : Nat
  left : Nat

namespace Choices

/-- No choices yet. -/
def ofDraws (draws : Draws) : Choices := ⟨draws, 0, 0⟩

/-- Chooses among so many places, drawing a new number when the last one is used up.  Among one
place there is nothing to draw. -/
def choose (choices : Choices) (places : Nat) : Nat × Choices :=
  if places ≤ 1 then (0, choices)
  else
    let ready :=
      if choices.left = 0 then
        let (product, count) := consecutiveProduct 32 1 places
        let (number, draws) := choices.draws.below product
        Choices.mk draws number count
      else choices
    (ready.number % places, { ready with number := ready.number / places, left := ready.left - 1 })

end Choices

/-- Exchanges each of the next places of an array with one drawn among the places up to it. -/
def shufflePlaces {α : Type} : Nat → Nat → Choices → Array α → Array α × Choices
  | 0, _, choices, items => (items, choices)
  | remaining + 1, place, choices, items =>
    let (chosen, choices) := choices.choose (place + 1)
    shufflePlaces remaining (place + 1) choices (items.swapIfInBounds place chosen)

/-- Shuffles items. -/
def Draws.shuffled {α : Type} (draws : Draws) (items : List α) : List α × Draws :=
  let (places, choices) := shufflePlaces items.length 0 (Choices.ofDraws draws) items.toArray
  (places.toList, choices.draws)

theorem swapIfInBounds_perm {α : Type} (items : Array α) (first second : Nat) :
    (items.swapIfInBounds first second).Perm items := by
  unfold Array.swapIfInBounds
  split
  · split
    · exact Array.swap_perm _ _
    · exact Array.Perm.refl _
  · exact Array.Perm.refl _

theorem shufflePlaces_perm {α : Type} (remaining : Nat) :
    ∀ (place : Nat) (choices : Choices) (items : Array α),
      (shufflePlaces remaining place choices items).1.Perm items := by
  induction remaining with
  | zero => exact fun _ _ items => Array.Perm.refl items
  | succ remaining hypothesis =>
    intro place choices items
    unfold shufflePlaces
    exact (hypothesis _ _ _).trans (swapIfInBounds_perm _ _ _)

/-- Shuffling only changes the order. -/
theorem shuffled_perm {α : Type} (draws : Draws) (items : List α) :
    (draws.shuffled items).1.Perm items := by
  have perm := shufflePlaces_perm items.length 0 (Choices.ofDraws draws) items.toArray
  have := perm.toList
  simpa [Draws.shuffled] using this

end Durak
