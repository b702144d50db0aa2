import Durak.Proofs.Plays
import Mathlib.Data.List.Perm.Basic
import Mathlib.Data.List.Induction

/-!
# Covers in any order

A defender who can lay several covers, each over another card of the table and each with another
card of the hand, can lay them in any order.  Laying one takes nothing away that another needs: a
target stays open until it is covered itself (`Cover.mem_foldl_laidOn`), a card stays in the hand
until it is played, and the time and the roles stay as they are.

What a game becomes by some covers is therefore told at once, without an order: `Game.coveredBy` has
the cards out of the hand, the covers on the table, and the attack timer started if now the attacker
has to be waited for.  A further cover leads from the game with some covers to the game with one
more (`layCover_coveredBy`), because as long as its target is open nobody is waited for; and the
order of the covers shows in the events only (`coveredBy_perm`).
-/

set_option autoImplicit false

namespace Durak

/-! ## Changing two elements -/

/-- An element that a change does not concern stays. -/
theorem mem_updateFirst_of_not {α : Type} {condition : α → Bool} {change : α → α} {items : List α}
    {item : α} (member : item ∈ items) (other : condition item = false) :
    item ∈ updateFirst condition change items := by
  induction items with
  | nil => cases member
  | cons first rest hypothesis =>
    rw [updateFirst]
    split
    · rename_i satisfies
      rcases List.mem_cons.mp member with rfl | later
      · cases other.symm.trans satisfies
      · exact List.mem_cons_of_mem _ later
    · rcases List.mem_cons.mp member with rfl | later
      · exact List.mem_cons_self
      · exact List.mem_cons_of_mem _ (hypothesis later)

/-- Two changes of an element that satisfies the same condition, before and after the first, are one
change. -/
theorem updateFirst_updateFirst {α : Type} {condition : α → Bool} {change further : α → α}
    (kept : ∀ item, condition (change item) = condition item) (items : List α) :
    updateFirst condition further (updateFirst condition change items) =
      updateFirst condition (fun item => further (change item)) items := by
  induction items with
  | nil => rfl
  | cons first rest hypothesis =>
    by_cases satisfies : condition first = true
    · simp only [updateFirst, kept, satisfies, if_true]
    · simp only [updateFirst, satisfies, Bool.false_eq_true, if_false, hypothesis]

/-- Changes of two elements that cannot be taken for each other may be made in either order. -/
theorem updateFirst_comm {α : Type} {condition other : α → Bool} {change otherChange : α → α}
    (apart : ∀ item, condition item = true → other item = false)
    (stillApart : ∀ item, condition item = true → other (change item) = false)
    (alsoApart : ∀ item, other item = true → condition (otherChange item) = false)
    (items : List α) :
    updateFirst condition change (updateFirst other otherChange items) =
      updateFirst other otherChange (updateFirst condition change items) := by
  induction items with
  | nil => rfl
  | cons first rest hypothesis =>
    by_cases satisfies : condition first = true
    · simp only [updateFirst, satisfies, apart first satisfies, stillApart first satisfies,
        Bool.false_eq_true, if_true, if_false]
    · by_cases otherSatisfies : other first = true
      · simp only [updateFirst, satisfies, otherSatisfies, alsoApart first otherSatisfies,
          Bool.false_eq_true, if_true, if_false]
      · simp only [updateFirst, satisfies, otherSatisfies, Bool.false_eq_true, if_false,
          hypothesis]

/-! ## Covers on a table -/

/-- A cover that is to be laid: the card it goes over, and the card that covers it. -/
structure Cover where
  target : Card
  card : Card
  deriving DecidableEq

namespace Cover

/-- The step by which a user lays a cover. -/
def step (userId : String) (now : Instant) (cover : Cover) : Step :=
  .command userId (.defend cover.target cover.card) now

/-- What is announced of a cover. -/
def event (userId : String) (cover : Cover) : Event := .defend cover.target cover.card userId

/-- The table with a cover laid on it. -/
def laidOn (table : List TableEntry) (cover : Cover) : List TableEntry :=
  updateFirst (Check.isOpenTarget cover.target)
    (fun entry => { entry with cover := some cover.card }) table

/-- A card is one target only. -/
theorem isOpenTarget_of_ne {target other : Card} (apart : target ≠ other) (entry : TableEntry)
    (isOpen : Check.isOpenTarget target entry = true) : Check.isOpenTarget other entry = false := by
  simp only [Check.isOpenTarget, Bool.and_eq_true, decide_eq_true_eq] at isOpen ⊢
  simp [isOpen.1, apart]

/-- What is covered is open no more. -/
theorem isOpenTarget_covered (target : Card) (card : Card) (entry : TableEntry) :
    Check.isOpenTarget target { entry with cover := some card } = false := by
  simp [Check.isOpenTarget, TableEntry.isBeaten]

/-- Covers over different cards may be laid in either order. -/
theorem laidOn_comm {first second : Cover} (apart : first.target ≠ second.target)
    (table : List TableEntry) :
    laidOn (laidOn table first) second = laidOn (laidOn table second) first := by
  refine updateFirst_comm (isOpenTarget_of_ne apart.symm) ?_ ?_ table
  · intro entry _
    exact isOpenTarget_covered _ _ entry
  · intro entry _
    exact isOpenTarget_covered _ _ entry

/-- Covers over different cards may be laid in any order. -/
theorem foldl_laidOn_perm {covers order : List Cover} (reordered : order.Perm covers)
    (apart : (covers.map target).Nodup) (table : List TableEntry) :
    order.foldl laidOn table = covers.foldl laidOn table := by
  refine (reordered.symm.foldl_eq' ?_ table).symm
  intro first isFirst second isSecond current
  by_cases same : first = second
  · rw [same]
  · refine laidOn_comm ?_ current
    intro sameTarget
    exact same (List.inj_on_of_nodup_map apart isFirst isSecond sameTarget)

/-- An open card stays on the table while others are covered. -/
theorem mem_foldl_laidOn {entry : TableEntry} {target : Card} {covers : List Cover}
    {table : List TableEntry} (member : entry ∈ table)
    (isOpen : Check.isOpenTarget target entry = true) (others : target ∉ covers.map Cover.target) :
    entry ∈ covers.foldl laidOn table := by
  induction covers generalizing table with
  | nil => exact member
  | cons cover covers hypothesis =>
    rw [List.map_cons, List.mem_cons, not_or] at others
    refine hypothesis (mem_updateFirst_of_not member ?_) others.2
    exact isOpenTarget_of_ne others.1 entry isOpen

end Cover

namespace Game

/-! ## All covers at once -/

/-- The game after a user has laid some covers. -/
def coveredBy (game : Game) (userId : String) (covers : List Cover) (now : Instant) : Game :=
  { game.updatePlayer userId fun player =>
      { player with hand := player.hand.diff (covers.map Cover.card) } with
    table := covers.foldl Cover.laidOn game.table
    attackTimer :=
      if covers ≠ [] ∧
          { game with table := covers.foldl Cover.laidOn game.table }.awaitsAttack = true then
        .startedNow now
      else game.attackTimer
    events := game.events ++ covers.map (Cover.event userId) }

/-- Covers that a user may lay, each on its own, over different cards and with different cards. -/
structure Coverable (game : Game) (userId : String) (covers : List Cover) (now : Instant) :
    Prop where
  targets : (covers.map Cover.target).Nodup
  cards : (covers.map Cover.card).Nodup
  permitted : ∀ cover ∈ covers, game.DefencePermitted userId cover.target cover.card now

variable {game : Game} {userId : String} {covers order : List Cover} {cover : Cover} {now : Instant}

theorem Coverable.perm (coverable : game.Coverable userId covers now)
    (reordered : order.Perm covers) : game.Coverable userId order now where
  targets := (reordered.map Cover.target).nodup_iff.mpr coverable.targets
  cards := (reordered.map Cover.card).nodup_iff.mpr coverable.cards
  permitted other member := coverable.permitted other (reordered.mem_iff.mp member)

theorem Coverable.of_append {later : List Cover}
    (coverable : game.Coverable userId (covers ++ later) now) :
    game.Coverable userId covers now where
  targets := by
    have targets := coverable.targets
    rw [List.map_append] at targets
    exact targets.of_append_left
  cards := by
    have cards := coverable.cards
    rw [List.map_append] at cards
    exact cards.of_append_left
  permitted other member := coverable.permitted other (List.mem_append_left later member)

/-- The last of some covers goes over another card than the others, with another card. -/
theorem Coverable.last_apart (coverable : game.Coverable userId (covers ++ [cover]) now) :
    cover.target ∉ covers.map Cover.target ∧ cover.card ∉ covers.map Cover.card := by
  obtain ⟨targets, cards, -⟩ := coverable
  rw [List.map_append, List.map_singleton, List.nodup_append] at targets cards
  constructor
  · intro member
    exact targets.2.2 _ member _ List.mem_cons_self rfl
  · intro member
    exact cards.2.2 _ member _ List.mem_cons_self rfl

/-- Without covers the game stays as it is. -/
theorem coveredBy_nil (game : Game) (userId : String) (now : Instant) :
    game.coveredBy userId [] now = game := by
  have players : (game.updatePlayer userId fun player =>
      { player with hand := player.hand.diff [] }).players = game.players := by
    have same := @map_updateFirst _ _ (fun player : Player => player.id == userId)
      (fun player => { player with hand := player.hand.diff [] }) game.players
      (fun player => player) fun _ _ => rfl
    rwa [List.map_id', List.map_id'] at same
  unfold coveredBy
  simp only [List.map_nil, players, ne_eq, not_true, false_and, if_false, List.append_nil]
  rfl

/-- **The order of the covers shows in the events only.** -/
theorem coveredBy_perm (reordered : order.Perm covers)
    (apart : (covers.map Cover.target).Nodup) :
    game.coveredBy userId order now =
      { game.coveredBy userId covers now with
        events := game.events ++ order.map (Cover.event userId) } := by
  have table := Cover.foldl_laidOn_perm reordered apart game.table
  have hand : ∀ player : Player,
      player.hand.diff (order.map Cover.card) = player.hand.diff (covers.map Cover.card) := by
    intro player
    exact List.Perm.diff_left player.hand (reordered.map Cover.card)
  have laid : (order ≠ []) = (covers ≠ []) := by
    rw [ne_eq, ne_eq, ← List.length_eq_zero_iff, ← List.length_eq_zero_iff, reordered.length_eq]
  unfold coveredBy
  simp only [table, hand, laid]

/-- While a target is open, nobody waits for the attacker. -/
theorem attackTimer_coveredBy_of_open {entry : TableEntry} {target : Card}
    (member : entry ∈ game.table) (isOpen : Check.isOpenTarget target entry = true)
    (others : target ∉ covers.map Cover.target) :
    (game.coveredBy userId covers now).attackTimer = game.attackTimer := by
  have stays := Cover.mem_foldl_laidOn member isOpen others
  refine if_neg ?_
  rintro ⟨-, awaits⟩
  rw [awaitsAttack, Bool.and_eq_true, List.all_eq_true] at awaits
  have beaten := awaits.1 entry stays
  simp [Check.isOpenTarget, beaten] at isOpen

/-- A cover that may be laid on its own may still be laid after others. -/
theorem Coverable.permitted_last (coverable : game.Coverable userId (covers ++ [cover]) now) :
    (game.coveredBy userId covers now).DefencePermitted userId cover.target cover.card now := by
  obtain ⟨otherTargets, otherCards⟩ := coverable.last_apart
  have alone := coverable.permitted cover (List.mem_append_right covers List.mem_cons_self)
  obtain ⟨player, seat, held⟩ := alone.held
  obtain ⟨entry, member, isOpen⟩ := alone.open_
  have isUser := List.find?_some seat
  exact {
    started := alone.started
    inTime := alone.inTime
    notAttacker := alone.notAttacker
    defender := alone.defender
    held := ⟨_, find?_updateFirst_self seat isUser, List.mem_diff_of_mem held otherCards⟩
    open_ := ⟨entry, Cover.mem_foldl_laidOn member isOpen otherTargets, isOpen⟩
    beats := alone.beats }

/-- Taking one more card out of the hand. -/
theorem players_withoutCard_coveredBy (game : Game) (userId : String) (covers : List Cover)
    (cover : Cover) (now : Instant) :
    ((game.coveredBy userId covers now).withoutCard userId cover.card).players =
      (game.coveredBy userId (covers ++ [cover]) now).players := by
  have once := @updateFirst_updateFirst _ (fun player : Player => player.id == userId)
    (fun player => { player with hand := player.hand.diff (covers.map Cover.card) })
    (fun player => { player with hand := player.hand.erase cover.card }) (fun _ => rfl) game.players
  refine once.trans ?_
  simp only [coveredBy, updatePlayer, List.map_append, List.map_singleton, List.diff_append,
    List.diff_cons, List.diff_nil]

/-- **A further cover leads from the game with some covers to the game with one more.** -/
theorem layCover_coveredBy (coverable : game.Coverable userId (covers ++ [cover]) now) :
    ((game.coveredBy userId covers now).withoutCard userId cover.card).layCover userId cover.target
      cover.card now = game.coveredBy userId (covers ++ [cover]) now := by
  obtain ⟨otherTargets, -⟩ := coverable.last_apart
  have alone := coverable.permitted cover (List.mem_append_right covers List.mem_cons_self)
  obtain ⟨entry, member, isOpen⟩ := alone.open_
  have timer : (game.coveredBy userId covers now).attackTimer = game.attackTimer :=
    attackTimer_coveredBy_of_open member isOpen otherTargets
  have players := players_withoutCard_coveredBy game userId covers cover now
  have laid : (((game.coveredBy userId covers now).withoutCard userId cover.card).cover cover.target
      cover.card).pushEvent (cover.event userId) =
        { game.coveredBy userId (covers ++ [cover]) now with attackTimer := game.attackTimer } := by
    have together : (((game.coveredBy userId covers now).withoutCard userId cover.card).cover
        cover.target cover.card).pushEvent (cover.event userId) =
          { game.coveredBy userId covers now with
            players := ((game.coveredBy userId covers now).withoutCard userId cover.card).players
            table := Cover.laidOn (covers.foldl Cover.laidOn game.table) cover
            attackTimer := (game.coveredBy userId covers now).attackTimer
            events :=
              game.events ++ covers.map (Cover.event userId) ++ [cover.event userId] } := rfl
    rw [together, players, timer]
    simp only [coveredBy, List.foldl_append, List.foldl_cons, List.foldl_nil, List.map_append,
      List.map_cons, List.map_nil, List.append_assoc]
    rfl
  have some_ : covers ++ [cover] ≠ [] :=
    List.append_ne_nil_of_right_ne_nil covers (List.cons_ne_nil cover [])
  have started : (game.coveredBy userId (covers ++ [cover]) now).attackTimer =
      if (game.coveredBy userId (covers ++ [cover]) now).awaitsAttack = true then .startedNow now
      else game.attackTimer :=
    if_congr (and_iff_right some_) rfl rfl
  unfold layCover
  simp only
  rw [show Event.defend cover.target cover.card userId = cover.event userId from rfl, laid]
  split
  · rename_i awaits
    have running := started.trans (if_pos awaits)
    rw [← running]
  · rename_i busy
    have same := started.trans (if_neg busy)
    rw [← same]

/-! ## One cover after another -/

/-- **Laying covers one after another gives the game with all of them.** -/
theorem afterAll_covers (coverable : game.Coverable userId covers now) :
    game.afterAll (covers.map (Cover.step userId now)) = game.coveredBy userId covers now := by
  induction covers using List.reverseRecOn with
  | nil => exact (coveredBy_nil game userId now).symm
  | append_singleton covers cover hypothesis =>
    rw [List.map_append, afterAll_append, hypothesis coverable.of_append]
    exact (apply_defend coverable.permitted_last).trans (layCover_coveredBy coverable)

/-- A cover is accepted exactly when it is permitted. -/
theorem defend_accepted_iff {target card : Card} :
    (game.apply userId (.defend target card) now).violation = none ↔
      game.DefencePermitted userId target card now := by
  constructor
  · intro accepted
    have effect := apply_effect game userId (.defend target card) now
    rw [accepted] at effect
    generalize (game.apply userId (.defend target card) now).game = result at effect
    cases effect with
    | defend _ _ permitted => exact permitted
    | timerClosed kind asks | timerShown kind asks => cases asks
  · intro permitted
    show (game.defend userId target card now).violation = none
    rw [defend, defendViolation?_eq_none_iff.mpr permitted]
    simp only [if_pos (List.any_eq_true.mpr permitted.open_), removeCard_of_held permitted.held]
    rfl

/-- **Covers commute.**  Take any game whatsoever, a user, an instant, and covers over different
cards with different cards, each of which would be accepted if it were the only one.  In whatever
order they are laid, every one of them is accepted, and the game is the same, whole hands, table and
timers, but for the order in which the covers are announced. -/
theorem covers_commute (game : Game) (userId : String) (now : Instant) (covers : List Cover)
    (targets : (covers.map Cover.target).Nodup) (cards : (covers.map Cover.card).Nodup)
    (accepted : ∀ cover ∈ covers,
      (game.apply userId (.defend cover.target cover.card) now).violation = none)
    (order : List Cover) (reordered : order.Perm covers) :
    (∀ before cover after, order = before ++ cover :: after →
      ((game.afterAll (before.map (Cover.step userId now))).apply userId
        (.defend cover.target cover.card) now).violation = none) ∧
    game.afterAll (order.map (Cover.step userId now)) =
      { game.afterAll (covers.map (Cover.step userId now)) with
        events := game.events ++ order.map (Cover.event userId) } := by
  have coverable : game.Coverable userId covers now :=
    ⟨targets, cards, fun cover member => defend_accepted_iff.mp (accepted cover member)⟩
  constructor
  · rintro before cover after split
    have inOrder := coverable.perm reordered
    rw [split, ← List.singleton_append, ← List.append_assoc] at inOrder
    have upToHere := inOrder.of_append
    rw [defend_accepted_iff, afterAll_covers upToHere.of_append]
    exact upToHere.permitted_last
  · rw [afterAll_covers (coverable.perm reordered), afterAll_covers coverable]
    exact coveredBy_perm reordered targets

/-- A game between two players in which two sixes wait to be covered; the defender holds a card for
each of them, and one more. -/
def twoSixes : Game where
  id := "g"
  settings := ⟨Double.ofInt 30⟩
  players := [⟨"a", "", 0, [⟨.diamonds, .six⟩], []⟩,
    ⟨"b", "", 1, [⟨.hearts, .seven⟩, ⟨.diamonds, .nine⟩, ⟨.spades, .eight⟩], []⟩]
  attackerId := "a"
  defenderId := "b"
  deck := [⟨.spades, .ace⟩]
  trump := .clubs
  table := [⟨⟨.hearts, .six⟩, none⟩, ⟨⟨.spades, .six⟩, none⟩]
  discard := []
  endVotes := .none
  readyVotes := .none
  started := true
  attackTimer := .startedNow (.ofUnixSeconds 0)
  defendTimer := .startedNow (.ofUnixSeconds 9)
  events := [.attack ⟨.spades, .six⟩ "a"]

/-- The two sixes may be covered in either order.  Both covers are accepted, the ten seconds after
the first attack are forgotten, and only the announcements tell the order. -/
theorem covers_commute_over_two_sixes :
    let heart : Cover := ⟨⟨.hearts, .six⟩, ⟨.hearts, .seven⟩⟩
    let spade : Cover := ⟨⟨.spades, .six⟩, ⟨.spades, .eight⟩⟩
    let now : Instant := .ofUnixSeconds 10
    ((twoSixes.afterAll [spade.step "b" now]).apply "b" (.defend heart.target heart.card)
        now).violation = none ∧
      (twoSixes.afterAll [heart.step "b" now, spade.step "b" now]).attackTimer =
        .startedNow now ∧
      twoSixes.afterAll [spade.step "b" now, heart.step "b" now] =
        { twoSixes.afterAll [heart.step "b" now, spade.step "b" now] with
          events := twoSixes.events ++ [spade.event "b", heart.event "b"] } := by
  intro heart spade now
  obtain ⟨accepted, same⟩ := covers_commute twoSixes "b" now [heart, spade] (by decide) (by decide)
    (by decide +kernel) [spade, heart] (List.Perm.swap heart spade [])
  exact ⟨accepted [spade] heart [] rfl, by decide +kernel, same⟩

end Game

end Durak
