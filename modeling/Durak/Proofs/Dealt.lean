import Durak.Deal
import Durak.Proofs.Seats

/-!
# The dealt game

A game can be dealt exactly when the setup is in order (`setupFault?_eq_none_iff`), and the dealt
game is an arranged one: the pack in some order, some trump suit, and some seat that attacks first
(`deal_eq_ok`).  Which order, suit and seat a seed stands for plays no part in what follows.

What is known about an arranged game is that the seats are the entrants in their order, each with
the number of its position, that the first attacker sits at the chosen seat and the defender right
after, and that hands and deck together are the pack.
-/

set_option autoImplicit false

namespace Durak

/-! ## Setups in order -/

theorem firstRepeated?_eq_none_iff {seen ids : List String} :
    firstRepeated? seen ids = none ↔ ids.Nodup ∧ ∀ id ∈ ids, id ∉ seen := by
  induction ids generalizing seen with
  | nil => simp [firstRepeated?]
  | cons id rest hypothesis =>
    unfold firstRepeated?
    by_cases repeated : id ∈ seen
    · simp [repeated]
    · rw [if_neg repeated, hypothesis]
      simp only [List.nodup_cons, List.mem_cons, not_or, forall_eq_or_imp]
      constructor
      · rintro ⟨distinct, fresh⟩
        exact ⟨⟨fun member => (fresh id member).1 rfl, distinct⟩, repeated,
          fun other member => (fresh other member).2⟩
      · rintro ⟨⟨notLater, distinct⟩, -, fresh⟩
        exact ⟨distinct, fun other member =>
          ⟨fun same => notLater (same ▸ member), fresh other member⟩⟩

/-- **A setup is in order when there are two to six players with distinct ids and the timeout is
allowed.** -/
theorem setupFault?_eq_none_iff {entrants : List Entrant} {settings : Settings} :
    setupFault? entrants settings = none ↔
      (fewestPlayers ≤ entrants.length ∧ entrants.length ≤ mostPlayers) ∧
        (entrants.map (·.id)).Nodup ∧
          settings.turnTimeoutSeconds.isWithin longestTimeout = true := by
  unfold setupFault?
  by_cases count : entrants.length < fewestPlayers ∨ mostPlayers < entrants.length
  · simp only [if_pos count, reduceCtorEq, false_iff]
    rintro ⟨bounds, -⟩
    omega
  · rw [if_neg count]
    have bounds : fewestPlayers ≤ entrants.length ∧ entrants.length ≤ mostPlayers := by omega
    cases repeated : firstRepeated? [] (entrants.map (·.id)) with
    | some id =>
      simp only [reduceCtorEq, false_iff]
      rintro ⟨-, distinct, -⟩
      rw [firstRepeated?_eq_none_iff.mpr ⟨distinct, fun _ _ => List.not_mem_nil⟩] at repeated
      cases repeated
    | none =>
      have distinct := (firstRepeated?_eq_none_iff.mp repeated).1
      simp [bounds, distinct]

/-- Two players and half a minute are a setup in order. -/
theorem setupFault?_pair : setupFault? [⟨"a", ""⟩, ⟨"b", ""⟩] ⟨Double.ofInt 30⟩ = none := by
  decide +kernel

/-- A game that was dealt was arranged from some order of the pack, for a setup in order. -/
theorem deal_eq_ok {id : String} {entrants : List Entrant} {settings : Settings} {seed : UInt64}
    {game : Game} (dealt : Game.deal id entrants settings seed = .ok game) :
    setupFault? entrants settings = none ∧ ∃ trump cards attackerSeat,
      cards.Perm Card.pack ∧ attackerSeat < entrants.length ∧
        game = Game.arranged id entrants settings trump cards attackerSeat := by
  unfold Game.deal at dealt
  split at dealt
  · cases dealt
  · rename_i inOrder
    have positive : 0 < entrants.length :=
      Nat.lt_of_lt_of_le (by decide) (setupFault?_eq_none_iff.mp inOrder).1.1
    exact ⟨inOrder, _, _, _, shuffled_perm _ _, Draws.below_lt _ positive,
      (Except.ok.inj dealt).symm⟩

/-- A setup in order is dealt. -/
theorem exists_deal_eq_ok {entrants : List Entrant} {settings : Settings}
    (inOrder : setupFault? entrants settings = none) (id : String) (seed : UInt64) :
    ∃ game, Game.deal id entrants settings seed = .ok game := by
  unfold Game.deal
  rw [inOrder]
  exact ⟨_, rfl⟩

/-! ## Seats -/

theorem map_id_dealHands (entrants : List Entrant) (seat : Nat) (cards : List Card) :
    (dealHands seat entrants cards).1.map (·.id) = entrants.map (·.id) := by
  induction entrants generalizing seat cards with
  | nil => rfl
  | cons entrant rest hypothesis =>
    simp only [dealHands, List.map_cons, hypothesis]

theorem seat_dealHands {entrants : List Entrant} {seat : Nat} {cards : List Card}
    {position : Nat} {player : Player}
    (there : (dealHands seat entrants cards).1[position]? = some player) :
    player.seat = UInt8.ofNat (seat + position) := by
  induction entrants generalizing seat cards position with
  | nil => simp [dealHands] at there
  | cons entrant rest hypothesis =>
    simp only [dealHands] at there
    cases position with
    | zero =>
      simp only [List.getElem?_cons_zero, Option.some.injEq] at there
      rw [← there, Nat.add_zero]
    | succ position =>
      rw [List.getElem?_cons_succ] at there
      rw [hypothesis there, Nat.add_right_comm, Nat.add_assoc]

/-- Seats are numbered by their positions, as far as a number of eight bits can tell. -/
theorem seatMismatch?_eq_none_iff {position : Nat} {players : List Player} :
    Game.seatMismatch? position players = none ↔
      ∀ offset player, players[offset]? = some player → player.seat.toNat = position + offset := by
  induction players generalizing position with
  | nil => simp [Game.seatMismatch?]
  | cons player rest hypothesis =>
    unfold Game.seatMismatch?
    by_cases right : player.seat.toNat = position
    · rw [if_pos right, hypothesis]
      constructor
      · intro later offset other there
        cases offset with
        | zero =>
          simp only [List.getElem?_cons_zero, Option.some.injEq] at there
          rw [← there, right, Nat.add_zero]
        | succ offset =>
          rw [List.getElem?_cons_succ] at there
          rw [later offset other there]
          omega
      · intro every offset other there
        have := every (offset + 1) other (by rw [List.getElem?_cons_succ, there])
        omega
    · rw [if_neg right]
      simp only [reduceCtorEq, false_iff, not_forall]
      exact ⟨0, player, by simp, by omega⟩

namespace Game

/-- The seats of an arranged game are the entrants. -/
theorem seatIds_arranged (id : String) (entrants : List Entrant) (settings : Settings)
    (trump : Suit) (cards : List Card) (attackerSeat : Nat) :
    (arranged id entrants settings trump cards attackerSeat).seatIds = entrants.map (·.id) :=
  map_id_dealHands entrants 0 cards

/-- In an arranged game every seat has the number of its position. -/
theorem seatMismatch?_arranged (id : String) {entrants : List Entrant} (settings : Settings)
    (trump : Suit) (cards : List Card) (attackerSeat : Nat)
    (few : entrants.length ≤ mostPlayers) :
    seatMismatch? 0 (arranged id entrants settings trump cards attackerSeat).players = none := by
  refine seatMismatch?_eq_none_iff.mpr fun offset player there => ?_
  have seat : player.seat = UInt8.ofNat (0 + offset) := seat_dealHands there
  have inside : offset < entrants.length := by
    have := (List.getElem?_eq_some_iff.mp there).1
    have length := congrArg List.length (map_id_dealHands entrants 0 cards)
    simp only [List.length_map] at length
    exact Nat.lt_of_lt_of_eq this length
  have small : offset < 256 :=
    Nat.lt_trans (Nat.lt_of_lt_of_le inside few) (by decide)
  rw [seat, Nat.zero_add, UInt8.toNat_ofNat_of_lt' small]

/-! ## Two dealt games -/

theorem eq_ok_of_toOption {ε α : Type} {result : Except ε α} {value : α}
    (is : result.toOption = some value) : result = .ok value := by
  cases result with
  | error => cases is
  | ok => exact congrArg Except.ok (Option.some.inj is)

/-- The game that is dealt to two players from the seed seven. -/
def duel : Game where
  id := "g"
  settings := ⟨Double.ofInt 30⟩
  players := [
    ⟨"a", "", 0, [⟨.spades, .king⟩, ⟨.clubs, .ace⟩, ⟨.hearts, .jack⟩, ⟨.clubs, .eight⟩,
      ⟨.spades, .seven⟩, ⟨.hearts, .queen⟩], []⟩,
    ⟨"b", "", 1, [⟨.clubs, .nine⟩, ⟨.hearts, .seven⟩, ⟨.spades, .eight⟩, ⟨.clubs, .jack⟩,
      ⟨.spades, .queen⟩, ⟨.diamonds, .king⟩], []⟩]
  attackerId := "b"
  defenderId := "a"
  deck := [
    ⟨.hearts, .eight⟩, ⟨.diamonds, .eight⟩, ⟨.spades, .ace⟩, ⟨.hearts, .six⟩, ⟨.clubs, .king⟩,
    ⟨.clubs, .six⟩, ⟨.hearts, .nine⟩, ⟨.spades, .nine⟩, ⟨.diamonds, .ten⟩, ⟨.diamonds, .seven⟩,
    ⟨.clubs, .ten⟩, ⟨.diamonds, .queen⟩, ⟨.spades, .jack⟩, ⟨.diamonds, .six⟩, ⟨.clubs, .seven⟩,
    ⟨.diamonds, .nine⟩, ⟨.hearts, .ten⟩, ⟨.hearts, .ace⟩, ⟨.hearts, .king⟩, ⟨.diamonds, .ace⟩,
    ⟨.diamonds, .jack⟩, ⟨.clubs, .queen⟩, ⟨.spades, .six⟩, ⟨.spades, .ten⟩]
  trump := .clubs
  table := []
  discard := []
  endVotes := .none
  readyVotes := .none
  started := false
  attackTimer := .stopped
  defendTimer := .stopped
  events := []

theorem deal_duel : deal "g" [⟨"a", ""⟩, ⟨"b", ""⟩] ⟨Double.ofInt 30⟩ 7 = .ok duel :=
  eq_ok_of_toOption (by decide +kernel)

/-- The game that is dealt to three players from the seed zero. -/
def trio : Game where
  id := "g"
  settings := ⟨Double.ofInt 30⟩
  players := [
    ⟨"a", "", 0, [⟨.diamonds, .six⟩, ⟨.diamonds, .eight⟩, ⟨.clubs, .king⟩,
      ⟨.diamonds, .nine⟩, ⟨.spades, .king⟩, ⟨.clubs, .ace⟩], []⟩,
    ⟨"b", "", 1, [⟨.spades, .six⟩, ⟨.hearts, .eight⟩, ⟨.hearts, .seven⟩,
      ⟨.clubs, .eight⟩, ⟨.spades, .ace⟩, ⟨.diamonds, .ten⟩], []⟩,
    ⟨"c", "", 2, [⟨.spades, .queen⟩, ⟨.spades, .ten⟩, ⟨.diamonds, .ace⟩,
      ⟨.hearts, .jack⟩, ⟨.spades, .jack⟩, ⟨.clubs, .seven⟩], []⟩]
  attackerId := "a"
  defenderId := "b"
  deck := [
    ⟨.clubs, .ten⟩, ⟨.clubs, .six⟩, ⟨.hearts, .queen⟩, ⟨.clubs, .queen⟩, ⟨.clubs, .jack⟩,
    ⟨.diamonds, .seven⟩, ⟨.diamonds, .jack⟩, ⟨.diamonds, .queen⟩, ⟨.hearts, .ten⟩, ⟨.hearts, .ace⟩,
    ⟨.diamonds, .king⟩, ⟨.spades, .nine⟩, ⟨.hearts, .king⟩, ⟨.hearts, .six⟩, ⟨.spades, .seven⟩,
    ⟨.hearts, .nine⟩, ⟨.spades, .eight⟩, ⟨.clubs, .nine⟩]
  trump := .hearts
  table := []
  discard := []
  endVotes := .none
  readyVotes := .none
  started := false
  attackTimer := .stopped
  defendTimer := .stopped
  events := []

theorem deal_trio :
    deal "g" [⟨"a", ""⟩, ⟨"b", ""⟩, ⟨"c", ""⟩] ⟨Double.ofInt 30⟩ 0 = .ok trio :=
  eq_ok_of_toOption (by decide +kernel)

end Game

end Durak
