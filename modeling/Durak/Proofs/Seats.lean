import Durak.Rules.Apply
import Mathlib.Data.List.Nodup

/-!
# Seats

A player is found by id, and a player is changed by changing the first seat with that id.  This
module says what both do to the list of seats, for any list: `updateFirst` changes exactly the
element that `find?` finds (`exists_updateFirst`), and changes nothing else.

What never changes is kept in `Game.seating`: who sits where, with names and seat numbers.  When
the ids are distinct a seat is a position, and the seat after a player is the next position, going
around (`nextSeat?_of_seated`).
-/

set_option autoImplicit false

namespace Durak

/-! ## Changing one element of a list -/

/-- Changing the first element that satisfies a condition changes the element that is found first,
whatever the change is. -/
theorem exists_updateFirst {α : Type} {condition : α → Bool} {items : List α} {found : α}
    (first : items.find? condition = some found) :
    ∃ before after, items = before ++ found :: after ∧
      ∀ change, updateFirst condition change items = before ++ change found :: after := by
  induction items with
  | nil => simp at first
  | cons item rest hypothesis =>
    by_cases satisfies : condition item
    · obtain rfl : item = found := by simpa [List.find?_cons, satisfies] using first
      exact ⟨[], rest, rfl, fun change => by simp [updateFirst, satisfies]⟩
    · obtain ⟨before, after, split, changed⟩ :=
        hypothesis (by simpa [List.find?_cons, satisfies] using first)
      refine ⟨item :: before, after, by rw [split]; rfl, fun change => ?_⟩
      simp [updateFirst, satisfies, changed change]

/-- Without an element that satisfies the condition nothing changes. -/
theorem updateFirst_of_find?_eq_none {α : Type} {condition : α → Bool} {items : List α}
    (absent : items.find? condition = none) (change : α → α) :
    updateFirst condition change items = items := by
  induction items with
  | nil => rfl
  | cons item rest hypothesis =>
    simp only [List.find?_eq_none, List.mem_cons, forall_eq_or_imp] at absent
    simp only [updateFirst, absent.1, Bool.false_eq_true, if_false, List.cons.injEq, true_and]
    exact hypothesis (List.find?_eq_none.mpr absent.2)

/-- What the change keeps is kept in every element. -/
theorem map_updateFirst {α β : Type} {condition : α → Bool} {change : α → α} {items : List α}
    (view : α → β)
    (kept : ∀ found, items.find? condition = some found → view (change found) = view found) :
    (updateFirst condition change items).map view = items.map view := by
  cases first : items.find? condition with
  | none => rw [updateFirst_of_find?_eq_none first]
  | some found =>
    obtain ⟨before, after, split, changed⟩ := exists_updateFirst first
    rw [changed change, split]
    simp only [List.map_append, List.map_cons, kept found first]

@[simp] theorem length_updateFirst {α : Type} (condition : α → Bool) (change : α → α)
    (items : List α) : (updateFirst condition change items).length = items.length := by
  have kept : (updateFirst condition change items).map (fun _ => ()) = items.map fun _ => () :=
    map_updateFirst (fun _ => ()) fun _ _ => rfl
  simpa using congrArg List.length kept

/-! ## Who sits where -/

/-- What a seat keeps for the whole game: the id, the name and the number of the seat. -/
def Player.chair (player : Player) : String × String × UInt8 :=
  (player.id, player.name, player.seat)

namespace Game

/-- Who sits where. -/
def seating (game : Game) : List (String × String × UInt8) := game.players.map Player.chair

/-- The ids of the players in seat order. -/
def seatIds (game : Game) : List String := game.players.map (·.id)

theorem seatIds_eq_map_seating (game : Game) : game.seatIds = game.seating.map (·.1) := by
  simp only [seatIds, seating, List.map_map]
  rfl

theorem seatIds_congr {first second : Game} (same : first.seating = second.seating) :
    first.seatIds = second.seatIds := by
  rw [seatIds_eq_map_seating, seatIds_eq_map_seating, same]

@[simp] theorem length_seatIds (game : Game) : game.seatIds.length = game.players.length := by
  simp [seatIds]

/-- A change of a player that keeps the chair keeps the seating. -/
theorem seating_updatePlayer {game : Game} {id : String} {change : Player → Player}
    (kept : ∀ player, game.player? id = some player → (change player).chair = player.chair) :
    (game.updatePlayer id change).seating = game.seating :=
  map_updateFirst Player.chair kept

/-- A user is seated exactly when the id is the id of a seat. -/
theorem isSome_player?_iff {game : Game} {id : String} :
    (game.player? id).isSome ↔ id ∈ game.seatIds := by
  simp [player?, seatIds, List.find?_isSome]

/-- With distinct ids a player has the seat that is found under the player's id. -/
theorem player?_of_mem {game : Game} (distinct : game.seatIds.Nodup) {player : Player}
    (seated : player ∈ game.players) : game.player? player.id = some player := by
  unfold seatIds at distinct
  unfold player?
  generalize game.players = players at *
  induction players with
  | nil => cases seated
  | cons first rest hypothesis =>
    obtain ⟨fresh, distinct⟩ := List.nodup_cons.mp distinct
    rcases List.mem_cons.mp seated with rfl | seated
    · simp
    · have apart : first.id ≠ player.id :=
        fun same => fresh (List.mem_map.mpr ⟨player, seated, same.symm⟩)
      rw [List.find?_cons_of_neg (by simpa using apart)]
      exact hypothesis distinct seated

/-- Where a player sits depends only on the seating. -/
theorem position?_eq_idxOf? (game : Game) (id : String) :
    game.position? id = game.seatIds.idxOf? id := by
  simp only [position?, seatIds, List.idxOf?, List.findIdx?_map]
  rfl

/-- The seat after a player depends only on the seating. -/
theorem nextSeat?_eq (game : Game) (id : String) :
    game.nextSeat? id = (game.seatIds.idxOf? id).bind fun position =>
      game.seatIds[(position + 1) % game.seatIds.length]? := by
  simp only [nextSeat?, position?_eq_idxOf?, length_seatIds, Option.bind_eq_bind]
  refine Option.bind_congr fun position _ => ?_
  simp only [seatIds, List.getElem?_map]
  cases game.players[(position + 1) % game.players.length]? <;> rfl

/-- Who the observers are depends only on the seating and the two roles. -/
theorem map_id_observers (game : Game) :
    game.observers.map (·.id) =
      (game.seatIds.drop ((game.seatIds.idxOf? game.attackerId).getD 0 + 1) ++
        game.seatIds.take ((game.seatIds.idxOf? game.attackerId).getD 0)).filter fun id =>
          id != game.attackerId && id != game.defenderId := by
  unfold observers
  rw [position?_eq_idxOf?]
  simp only [seatIds, ← List.map_drop, ← List.map_take, ← List.map_append, List.filter_map]
  rfl

/-- With distinct ids, a player sits at a position exactly when the id stands there. -/
theorem position?_eq_some_iff {game : Game} (distinct : game.seatIds.Nodup) {id : String}
    {position : Nat} : game.position? id = some position ↔ game.seatIds[position]? = some id := by
  rw [position?_eq_idxOf?, List.idxOf?_eq_some_iff]
  constructor
  · rintro ⟨inside, here, -⟩
    rw [List.getElem?_eq_getElem inside, here]
  · intro here
    obtain ⟨inside, here⟩ := List.getElem?_eq_some_iff.mp here
    refine ⟨inside, here, fun earlier before same => ?_⟩
    have := (List.Nodup.getElem_inj_iff distinct).mp (same.trans here.symm)
    omega

/-- With distinct ids, the seat after the player at a position is the next position, going
around. -/
theorem nextSeat?_of_seated {game : Game} (distinct : game.seatIds.Nodup) {id : String}
    {position : Nat} (seated : game.seatIds[position]? = some id) :
    game.nextSeat? id = game.seatIds[(position + 1) % game.seatIds.length]? := by
  have place := (position?_eq_some_iff distinct).mpr seated
  rw [position?_eq_idxOf?] at place
  rw [nextSeat?_eq, place]
  rfl

end Game

end Durak
