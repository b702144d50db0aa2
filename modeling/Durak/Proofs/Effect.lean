import Durak.Proofs.Seats

/-!
# What a command can do

`Game.apply` decides by chains of checks.  Here the decision is read off once, for every game, and
kept as a relation: `Effect game userId now action violation result` lists the ways in which an
action of a user at an instant can turn out, each with everything the checks have established and
with the game that results.  `apply_effect` says that every outcome of `apply` is one of them.

What follows about single commands and about whole runs is proved by cases on `Effect`, and does
not look at the checks again.
-/

set_option autoImplicit false

namespace Durak

/-! ## Checks -/

namespace Violation

@[simp] theorem unless_eq_none {violation : Violation} {condition : Bool} :
    violation.unless condition = none ↔ condition = true := by
  cases condition <;> simp [Violation.unless]

@[simp] theorem unless_eq_some {violation other : Violation} {condition : Bool} :
    violation.unless condition = some other ↔ condition = false ∧ violation = other := by
  cases condition <;> simp [Violation.unless]

end Violation

/-- A violation reported by a chain of checks is the violation of one of them. -/
theorem mem_of_firstViolation {checks : List (Option Violation)} {violation : Violation}
    (reported : firstViolation checks = some violation) : some violation ∈ checks := by
  obtain ⟨check, member, found⟩ := List.exists_of_findSome?_eq_some reported
  rwa [← show check = some violation from found]

/-- What a chain of checks reports is what its first check reports, or that passes and the others
report it. -/
theorem firstViolation_cons {check : Option Violation} {checks : List (Option Violation)}
    {violation : Violation} :
    firstViolation (check :: checks) = some violation ↔
      check = some violation ∨ check = none ∧ firstViolation checks = some violation := by
  cases check <;> simp [firstViolation]

/-- The timer an action asks about. -/
def Action.timer? : Action → Option TimerKind
  | .checkAttackTimer => some .attack
  | .checkDefendTimer => some .defend
  | _ => none

namespace Game

theorem roleOf_eq_attacker {game : Game} {userId : String} :
    game.roleOf userId = .attacker ↔ userId = game.attackerId := by
  unfold roleOf
  by_cases attacks : userId = game.attackerId
  · simp [attacks]
  · by_cases defends : userId = game.defenderId
    · rw [if_neg attacks, if_pos defends]
      exact ⟨fun same => Role.noConfusion same, fun same => absurd same attacks⟩
    · rw [if_neg attacks, if_neg defends]
      exact ⟨fun same => Role.noConfusion same, fun same => absurd same attacks⟩

theorem roleOf_eq_defender {game : Game} {userId : String} :
    game.roleOf userId = .defender ↔ userId ≠ game.attackerId ∧ userId = game.defenderId := by
  unfold roleOf
  by_cases attacks : userId = game.attackerId
  · simp [attacks]
  · by_cases defends : userId = game.defenderId
    · rw [if_neg attacks, if_pos defends]
      exact ⟨fun _ => ⟨attacks, defends⟩, fun _ => rfl⟩
    · rw [if_neg attacks, if_neg defends]
      exact ⟨fun same => Role.noConfusion same, fun both => absurd both.2 defends⟩

theorem userHasCard_eq_none {game : Game} {userId : String} {card : Card} :
    Check.userHasCard game userId card = none ↔
      ∃ player, game.player? userId = some player ∧ card ∈ player.hand := by
  unfold Check.userHasCard
  cases game.player? userId <;> simp [Check.hasCard]

theorem userHasCard_eq_some {game : Game} {userId : String} {card : Card} {violation : Violation}
    (reported : Check.userHasCard game userId card = some violation) :
    violation = .userNoHasCard ∨ violation = .notYourTurn := by
  unfold Check.userHasCard at reported
  cases seat : game.player? userId with
  | none =>
    rw [seat] at reported
    exact .inr (Option.some.inj reported).symm
  | some player =>
    rw [seat] at reported
    exact .inl (Violation.unless_eq_some.mp reported).2.symm

theorem defenderHasCards_eq_none {game : Game} :
    Check.defenderHasCards game = none ↔
      ∃ defender, game.player? game.defenderId = some defender ∧ defender.hand ≠ [] := by
  unfold Check.defenderHasCards
  cases game.player? game.defenderId <;> simp

theorem defenderHasCards_eq_some {game : Game} {violation : Violation}
    (reported : Check.defenderHasCards game = some violation) : violation = .defenderNoCards := by
  unfold Check.defenderHasCards at reported
  cases seat : game.player? game.defenderId with
  | none =>
    rw [seat] at reported
    exact (Option.some.inj reported).symm
  | some defender =>
    rw [seat] at reported
    exact (Violation.unless_eq_some.mp reported).2.symm

theorem rankMayJoin_eq_none {game : Game} {rank : Rank} :
    Check.rankMayJoin game rank = none ↔
      game.table = [] ∨ ∃ card ∈ tableCards game.table, card.rank = rank := by
  unfold Check.rankMayJoin
  split
  · rename_i empty
    simp [List.isEmpty_iff.mp empty]
  · rename_i laid
    have laid : game.table ≠ [] := fun empty => laid (List.isEmpty_iff.mpr empty)
    simp [Check.sameRankOnTable, laid]

theorem rankMayJoin_eq_some {game : Game} {rank : Rank} {violation : Violation}
    (reported : Check.rankMayJoin game rank = some violation) :
    violation = .noSameRankCardInTable := by
  unfold Check.rankMayJoin at reported
  split at reported
  · cases reported
  · exact (Violation.unless_eq_some.mp reported).2.symm

/-! ## When an action is permitted -/

/-- What has to hold for an attack. -/
structure AttackPermitted (game : Game) (userId : String) (card : Card) (now : Instant) :
    Prop where
  started : game.started = true
  attacker : userId = game.attackerId
  held : ∃ player, game.player? userId = some player ∧ card ∈ player.hand
  inTime : game.timerExpired .attack now = false
  opposed : ∃ defender, game.player? game.defenderId = some defender ∧ defender.hand ≠ []
  room : game.table.length < tableLimit
  joins : game.table = [] ∨ ∃ laid ∈ tableCards game.table, laid.rank = card.rank

theorem attackViolation?_eq_none_iff {game : Game} {userId : String} {card : Card}
    {now : Instant} :
    game.attackViolation? userId card now = none ↔ game.AttackPermitted userId card now := by
  simp only [attackViolation?, firstViolation_eq_none_iff, List.forall_mem_cons,
    List.not_mem_nil, false_implies, implies_true, and_true, Check.gameStarted, Check.isAttacker,
    Check.attackTimeLeft, Check.tableNotFull, Violation.unless_eq_none, decide_eq_true_eq,
    roleOf_eq_attacker, userHasCard_eq_none, defenderHasCards_eq_none, rankMayJoin_eq_none,
    Bool.not_eq_true']
  exact ⟨fun ⟨started, attacker, held, inTime, opposed, room, joins⟩ =>
      ⟨started, attacker, held, inTime, opposed, room, joins⟩,
    fun ⟨started, attacker, held, inTime, opposed, room, joins⟩ =>
      ⟨started, attacker, held, inTime, opposed, room, joins⟩⟩

/-- What has to hold for a defence. -/
structure DefencePermitted (game : Game) (userId : String) (target card : Card) (now : Instant) :
    Prop where
  started : game.started = true
  inTime : game.timerExpired .defend now = false
  notAttacker : userId ≠ game.attackerId
  defender : userId = game.defenderId
  held : ∃ player, game.player? userId = some player ∧ card ∈ player.hand
  open_ : ∃ entry ∈ game.table, Check.isOpenTarget target entry = true
  beats : card.beats game.trump target = true

theorem defendViolation?_eq_none_iff {game : Game} {userId : String} {target card : Card}
    {now : Instant} :
    game.defendViolation? userId target card now = none ↔
      game.DefencePermitted userId target card now := by
  simp only [defendViolation?, firstViolation_eq_none_iff, List.forall_mem_cons,
    List.not_mem_nil, false_implies, implies_true, and_true, Check.gameStarted, Check.isDefender,
    Check.defendTimeLeft, Check.targetOnTable, Check.cardBeatsTarget, Violation.unless_eq_none,
    decide_eq_true_eq, roleOf_eq_defender, userHasCard_eq_none, List.any_eq_true,
    Bool.not_eq_true']
  exact ⟨fun ⟨started, inTime, ⟨notAttacker, defender⟩, held, open_, beats⟩ =>
      ⟨started, inTime, notAttacker, defender, held, open_, beats⟩,
    fun ⟨started, inTime, notAttacker, defender, held, open_, beats⟩ =>
      ⟨started, inTime, ⟨notAttacker, defender⟩, held, open_, beats⟩⟩

/-- What has to hold for a vote to end the attack. -/
structure EndPermitted (game : Game) (userId : String) (now : Instant) : Prop where
  laid : game.table ≠ []
  started : game.started = true
  notDefender : userId = game.attackerId ∨ userId ≠ game.defenderId
  inTime : game.timerExpired .attack now = false
  beaten : ∀ entry ∈ game.table, entry.isBeaten = true

theorem endAttackViolation?_eq_none_iff {game : Game} {userId : String} {now : Instant} :
    game.endAttackViolation? userId now = none ↔ game.EndPermitted userId now := by
  simp only [endAttackViolation?, firstViolation_eq_none_iff, List.forall_mem_cons,
    List.not_mem_nil, false_implies, implies_true, and_true, Check.tableNotEmpty,
    Check.gameStarted, Check.isNotDefender, Check.attackTimeLeft, Check.allCardsBeaten,
    Violation.unless_eq_none, decide_eq_true_eq, ne_eq, roleOf_eq_defender, List.all_eq_true,
    Bool.not_eq_true', List.isEmpty_eq_false_iff, not_and]
  constructor
  · rintro ⟨laid, started, notDefender, inTime, beaten⟩
    refine ⟨laid, started, ?_, inTime, beaten⟩
    by_cases attacker : userId = game.attackerId
    · exact .inl attacker
    · exact .inr (notDefender attacker)
  · rintro ⟨laid, started, notDefender, inTime, beaten⟩
    exact ⟨laid, started, fun notAttacker => notDefender.resolve_left notAttacker, inTime, beaten⟩

/-- What has to hold for taking the cards. -/
structure TakePermitted (game : Game) (userId : String) : Prop where
  started : game.started = true
  notAttacker : userId ≠ game.attackerId
  defender : userId = game.defenderId

theorem takeViolation?_eq_none_iff {game : Game} {userId : String} :
    game.takeViolation? userId = none ↔ game.TakePermitted userId := by
  simp only [takeViolation?, firstViolation_eq_none_iff, List.forall_mem_cons,
    List.not_mem_nil, false_implies, implies_true, and_true, Check.gameStarted, Check.isDefender,
    Violation.unless_eq_none, decide_eq_true_eq, roleOf_eq_defender]
  exact ⟨fun ⟨started, notAttacker, defender⟩ => ⟨started, notAttacker, defender⟩,
    fun ⟨started, notAttacker, defender⟩ => ⟨started, notAttacker, defender⟩⟩

/-! ## What checks can report -/

theorem attackViolation?_mem {game : Game} {userId : String} {card : Card} {now : Instant}
    {violation : Violation} (reported : game.attackViolation? userId card now = some violation) :
    violation ∈ [Violation.gameShouldBeStarted, .notYourTurn, .userNoHasCard, .attackTimeOver,
      .defenderNoCards, .tableHoldsOnlySixCards, .noSameRankCardInTable] := by
  have member := mem_of_firstViolation reported
  simp only [List.mem_cons, List.not_mem_nil, or_false] at member
  rcases member with check | check | check | check | check | check | check
  · simp [← (Violation.unless_eq_some.mp check.symm).2]
  · simp [← (Violation.unless_eq_some.mp check.symm).2]
  · rcases userHasCard_eq_some check.symm with rfl | rfl <;> simp
  · simp [← (Violation.unless_eq_some.mp check.symm).2]
  · simp [defenderHasCards_eq_some check.symm]
  · simp [← (Violation.unless_eq_some.mp check.symm).2]
  · simp [rankMayJoin_eq_some check.symm]

theorem defendViolation?_mem {game : Game} {userId : String} {target card : Card} {now : Instant}
    {violation : Violation}
    (reported : game.defendViolation? userId target card now = some violation) :
    violation ∈ [Violation.gameShouldBeStarted, .defendTimeOver, .notYourTurn, .userNoHasCard,
      .notFoundCardOnTable, .targetCardGreaterThenYour] := by
  have member := mem_of_firstViolation reported
  simp only [List.mem_cons, List.not_mem_nil, or_false] at member
  rcases member with check | check | check | check | check | check
  · simp [← (Violation.unless_eq_some.mp check.symm).2]
  · simp [← (Violation.unless_eq_some.mp check.symm).2]
  · simp [← (Violation.unless_eq_some.mp check.symm).2]
  · rcases userHasCard_eq_some check.symm with rfl | rfl <;> simp
  · simp [← (Violation.unless_eq_some.mp check.symm).2]
  · simp [← (Violation.unless_eq_some.mp check.symm).2]

theorem endAttackViolation?_mem {game : Game} {userId : String} {now : Instant}
    {violation : Violation} (reported : game.endAttackViolation? userId now = some violation) :
    violation ∈ [Violation.cannotEndAttackInFirstTurn, .gameShouldBeStarted, .notYourTurn,
      .attackTimeOver, .allCardShouldBeBeatOffBeforeEndAttack] := by
  have member := mem_of_firstViolation reported
  simp only [List.mem_cons, List.not_mem_nil, or_false] at member
  rcases member with check | check | check | check | check <;>
    simp [← (Violation.unless_eq_some.mp check.symm).2]

theorem takeViolation?_mem {game : Game} {userId : String} {violation : Violation}
    (reported : game.takeViolation? userId = some violation) :
    violation ∈ [Violation.gameShouldBeStarted, .notYourTurn] := by
  have member := mem_of_firstViolation reported
  simp only [List.mem_cons, List.not_mem_nil, or_false] at member
  rcases member with check | check <;> simp [← (Violation.unless_eq_some.mp check.symm).2]

/-! A check never reports a failed change. -/

theorem attackViolation?_ne_serverError {game : Game} {userId : String} {card : Card}
    {now : Instant} : game.attackViolation? userId card now ≠ some .serverError :=
  fun reported => by simpa using attackViolation?_mem reported

theorem defendViolation?_ne_serverError {game : Game} {userId : String} {target card : Card}
    {now : Instant} : game.defendViolation? userId target card now ≠ some .serverError :=
  fun reported => by simpa using defendViolation?_mem reported

theorem endAttackViolation?_ne_serverError {game : Game} {userId : String} {now : Instant} :
    game.endAttackViolation? userId now ≠ some .serverError :=
  fun reported => by simpa using endAttackViolation?_mem reported

theorem takeViolation?_ne_serverError {game : Game} {userId : String} :
    game.takeViolation? userId ≠ some .serverError :=
  fun reported => by simpa using takeViolation?_mem reported

/-! ## The ways a command can turn out -/

/-- The game after a user has said to be ready. -/
def markReady (game : Game) (userId : String) : Game :=
  { game with readyVotes := game.readyVotes.insert userId }.pushEvent (.ready userId)

/-- The game after a user has voted to end the attack. -/
def voteEnd (game : Game) (userId : String) : Game :=
  { game with endVotes := game.endVotes.insert userId }

/-- The game after a card has been taken out of a player's hand. -/
def withoutCard (game : Game) (userId : String) (card : Card) : Game :=
  game.updatePlayer userId fun player => { player with hand := player.hand.erase card }

theorem removeCard_of_held {game : Game} {userId : String} {card : Card}
    (held : ∃ player, game.player? userId = some player ∧ card ∈ player.hand) :
    game.removeCard userId card = some (game.withoutCard userId card) := by
  obtain ⟨player, seat, member⟩ := held
  simp [removeCard, seat, member, withoutCard]

/-- The ways in which an action of a user at an instant can turn out: the violation, if there is
one, and the game that results. -/
inductive Effect (game : Game) (userId : String) (now : Instant) :
    Action → Option Violation → Game → Prop where
  | unregistered (name : String) :
      Effect game userId now (.unregistered name) (some .unregisteredAction) game
  | readyAgain (already : userId ∈ game.readyVotes) :
      Effect game userId now .ready (some .userAlreadyReady) game
  | ready (fresh : userId ∉ game.readyVotes)
      (waiting : (game.markReady userId).everyoneReady = false ∨ game.started = true) :
      Effect game userId now .ready none (game.markReady userId)
  | start (fresh : userId ∉ game.readyVotes)
      (everyone : (game.markReady userId).everyoneReady = true)
      (notStarted : game.started = false) :
      Effect game userId now .ready none ((game.markReady userId).start now)
  | attackRefused (card : Card) (violation : Violation)
      (reported : game.attackViolation? userId card now = some violation)
      (other : violation ≠ .attackTimeOver) :
      Effect game userId now (.attack card) (some violation) game
  | attackLate (card : Card)
      (reported : game.attackViolation? userId card now = some .attackTimeOver) :
      Effect game userId now (.attack card) (some .attackTimeOver) (game.resolveRound true)
  | attack (card : Card) (permitted : game.AttackPermitted userId card now) :
      Effect game userId now (.attack card) none
        ((game.withoutCard userId card).layAttack userId card now)
  | defendRefused (target card : Card) (violation : Violation)
      (reported : game.defendViolation? userId target card now = some violation)
      (other : violation ≠ .defendTimeOver) :
      Effect game userId now (.defend target card) (some violation) game
  | defendLate (target card : Card)
      (reported : game.defendViolation? userId target card now = some .defendTimeOver) :
      Effect game userId now (.defend target card) (some .defendTimeOver)
        (game.pushEvent .endAttack)
  | defend (target card : Card) (permitted : game.DefencePermitted userId target card now) :
      Effect game userId now (.defend target card) none
        ((game.withoutCard userId card).layCover userId target card now)
  | endRefused (violation : Violation)
      (reported : game.endAttackViolation? userId now = some violation) :
      Effect game userId now .endAttack (some violation) game
  | vote (permitted : game.EndPermitted userId now)
      (waiting : (game.voteEnd userId).everyoneEnds = false) :
      Effect game userId now .endAttack none (game.voteEnd userId)
  | endRound (permitted : game.EndPermitted userId now)
      (everyone : (game.voteEnd userId).everyoneEnds = true) :
      Effect game userId now .endAttack none (game.voteEnd userId).endRound.game
  | takeRefused (violation : Violation) (reported : game.takeViolation? userId = some violation) :
      Effect game userId now .takeAllCards (some violation) game
  | takeUnseated (permitted : game.TakePermitted userId) (unseated : game.player? userId = none) :
      Effect game userId now .takeAllCards (some .serverError) game
  | take (permitted : game.TakePermitted userId) (player : Player)
      (seat : game.player? userId = some player) :
      Effect game userId now .takeAllCards none
        (((game.takeTable userId).resolveRound false).passOver userId)
  | timerRefused {action : Action} (kind : TimerKind) (asks : action.timer? = some kind)
      (notStarted : game.started = false) :
      Effect game userId now action (some .gameShouldBeStarted) game
  | timerClosed {action : Action} (kind : TimerKind) (asks : action.timer? = some kind)
      (started : game.started = true) (expired : game.timerExpired kind now = true) :
      Effect game userId now action none ((game.resolveRound true).announceTimer kind)
  | timerShown {action : Action} (kind : TimerKind) (asks : action.timer? = some kind)
      (started : game.started = true) (running : game.timerExpired kind now = false) :
      Effect game userId now action none (game.announceTimer kind)

theorem endRound_violation (game : Game) : game.endRound.violation = none := by
  unfold endRound
  simp only
  split <;> rfl

theorem ready_effect (game : Game) (userId : String) (now : Instant) :
    Effect game userId now .ready (game.ready userId now).violation
      (game.ready userId now).game := by
  unfold ready Check.notReadyYet
  by_cases already : userId ∈ game.readyVotes
  · have contained := Voters.contains_iff.mpr already
    simp only [contained, Bool.not_true, Violation.unless, Bool.false_eq_true, if_false]
    exact .readyAgain already
  · have absent : game.readyVotes.contains userId = false :=
      Bool.eq_false_iff.mpr fun contained => already (Voters.contains_iff.mp contained)
    simp only [absent, Bool.not_false, Violation.unless, if_true]
    split
    · rename_i begins
      simp only [Bool.and_eq_true, Bool.not_eq_true'] at begins
      exact .start already begins.1 begins.2
    · rename_i waits
      refine .ready already ?_
      rw [Bool.and_eq_true, Bool.not_eq_true', not_and_or, Bool.not_eq_true,
        Bool.not_eq_false] at waits
      exact waits

theorem attack_effect (game : Game) (userId : String) (card : Card) (now : Instant) :
    Effect game userId now (.attack card) (game.attack userId card now).violation
      (game.attack userId card now).game := by
  unfold attack
  split
  · rename_i reported
    exact .attackLate card reported
  · rename_i violation other reported
    exact .attackRefused card violation reported other
  · rename_i nothing
    have permitted := attackViolation?_eq_none_iff.mp nothing
    rw [removeCard_of_held permitted.held]
    exact .attack card permitted

theorem defend_effect (game : Game) (userId : String) (target card : Card) (now : Instant) :
    Effect game userId now (.defend target card) (game.defend userId target card now).violation
      (game.defend userId target card now).game := by
  unfold defend
  split
  · rename_i reported
    exact .defendLate target card reported
  · rename_i violation other reported
    exact .defendRefused target card violation reported other
  · rename_i nothing
    have permitted := defendViolation?_eq_none_iff.mp nothing
    rw [if_pos (List.any_eq_true.mpr permitted.open_), removeCard_of_held permitted.held]
    exact .defend target card permitted

theorem endAttack_of_permitted {game : Game} {userId : String} {now : Instant}
    (nothing : game.endAttackViolation? userId now = none) :
    game.endAttack userId now =
      if (game.voteEnd userId).everyoneEnds then (game.voteEnd userId).endRound
      else .accepted (game.voteEnd userId)
        [(game.voteEnd userId).userRecord .debug userId [] "End attack vote recorded"] := by
  unfold endAttack
  rw [nothing]
  rfl

theorem endAttack_effect (game : Game) (userId : String) (now : Instant) :
    Effect game userId now .endAttack (game.endAttack userId now).violation
      (game.endAttack userId now).game := by
  cases reported : game.endAttackViolation? userId now with
  | some violation =>
    unfold endAttack
    rw [reported]
    exact .endRefused violation reported
  | none =>
    have permitted := endAttackViolation?_eq_none_iff.mp reported
    rw [endAttack_of_permitted reported]
    by_cases everyone : (game.voteEnd userId).everyoneEnds = true
    · rw [if_pos everyone, endRound_violation]
      exact .endRound permitted everyone
    · rw [if_neg everyone]
      exact .vote permitted (Bool.eq_false_iff.mpr everyone)

theorem takeAllCards_effect (game : Game) (userId : String) (now : Instant) :
    Effect game userId now .takeAllCards (game.takeAllCards userId).violation
      (game.takeAllCards userId).game := by
  unfold takeAllCards
  split
  · rename_i violation reported
    exact .takeRefused violation reported
  · rename_i nothing
    have permitted := takeViolation?_eq_none_iff.mp nothing
    split
    · rename_i player seat
      exact .take permitted player seat
    · rename_i unseated
      exact .takeUnseated permitted unseated

theorem checkTimer_effect (game : Game) (userId : String) {action : Action} {kind : TimerKind}
    (asks : action.timer? = some kind) (now : Instant) :
    Effect game userId now action (game.checkTimer kind now).violation
      (game.checkTimer kind now).game := by
  unfold checkTimer Check.gameStarted
  by_cases started : game.started = true
  · simp only [started, Violation.unless, if_true]
    split
    · rename_i expired
      exact .timerClosed kind asks started expired
    · rename_i running
      exact .timerShown kind asks started (Bool.eq_false_iff.mpr running)
  · simp only [started, Violation.unless, Bool.false_eq_true, if_false]
    exact .timerRefused kind asks (Bool.eq_false_iff.mpr started)

/-- **Every outcome of a command is one of the listed ones.** -/
theorem apply_effect (game : Game) (userId : String) (action : Action) (now : Instant) :
    Effect game userId now action (game.apply userId action now).violation
      (game.apply userId action now).game := by
  show Effect game userId now action (game.act userId action now).violation
    (game.act userId action now).game
  cases action with
  | ready => exact ready_effect game userId now
  | attack card => exact attack_effect game userId card now
  | defend target card => exact defend_effect game userId target card now
  | endAttack => exact endAttack_effect game userId now
  | takeAllCards => exact takeAllCards_effect game userId now
  | checkAttackTimer => exact checkTimer_effect game userId rfl now
  | checkDefendTimer => exact checkTimer_effect game userId rfl now
  | unregistered name => exact .unregistered name

end Game

end Durak
