import Durak.Proofs.DeadEnd

/-!
# Ways to play

The players of a game that rests between two rounds can always move it on in a few ways, and each
is a short run of commands at instants that a clock can show:

* the defender takes up a clear table, which passes the attack over the defender;
* the attacker lays a card and the defender takes it up, which hands the card over;
* the attacker lays a card and nobody goes on until the defend timer has run out, which puts the
  card aside and moves the attack to the defender.

`Leads` says that some such run leads from one game to another.  `Quiet game place` is what they
all start from and lead back to: a game at rest with the attack at a place.
-/

set_option autoImplicit false

namespace Durak

/-! ## How long a timer runs -/

/-- A quotient that is at most a whole number is rounded to at most one more. -/
theorem roundHalfEven_le_of_le {numerator denominator most : Nat}
    (le : numerator ≤ most * denominator) : roundHalfEven numerator denominator ≤ most + 1 := by
  have quotient : numerator / denominator ≤ most :=
    Nat.div_le_of_le_mul (by rwa [Nat.mul_comm])
  exact (roundHalfEven_le _ _).trans (Nat.add_le_add_right quotient 1)

/-- An allowed timeout is some number of nanoseconds, at most a day. -/
theorem exists_nanoseconds {timeout : Double}
    (allowed : timeout.isWithin longestTimeout = true) :
    ∃ nanoseconds : Nat, timeout.nanoseconds? = some (nanoseconds : Int) ∧
      nanoseconds ≤ longestTimeout * 1000000000 + 1 := by
  cases timeout with
  | notANumber | infinite => cases allowed
  | finite negative magnitude =>
    cases negative with
    | true => cases allowed
    | false =>
      simp only [Double.isWithin, Bool.and_eq_true, decide_eq_true_eq] at allowed
      refine ⟨_, rfl, roundHalfEven_le_of_le ?_⟩
      rw [Nat.mul_right_comm]
      exact Nat.mul_le_mul_right _ allowed.2

/-- A sum that stays in the calendar exists. -/
theorem Instant.exists_later {instant : Instant} {nanoseconds : Int}
    (inside : Instant.earliestClock ≤ instant.wallClock + nanoseconds ∧
      instant.wallClock + nanoseconds < Instant.endOfClock) :
    ∃ sum, instant.later? nanoseconds = some sum := by
  unfold Instant.later?
  exact ⟨_, if_pos inside⟩

namespace Timer

/-- A timer has not run out before it was started. -/
theorem notExpired_before {timeout : Double} (allowed : timeout.isWithin longestTimeout = true)
    {start earlier : Instant} (before : earlier.absolute < start.absolute) :
    (Timer.startedNow start).expired timeout earlier = false := by
  obtain ⟨nanoseconds, isTimeout, -⟩ := exists_nanoseconds allowed
  unfold expired
  split
  · rename_i endsAt ends
    have deadline : endsAt.absolute = start.absolute + nanoseconds := by
      simp only [endsAt?, startedNow, isTimeout, Option.bind_eq_bind, Option.bind_some] at ends
      exact Instant.absolute_later? ends
    simp only [decide_eq_false_iff_not, Instant.le_def]
    omega
  · rfl

/-- A timer that was started well within the calendar has run out after a hundred thousand
seconds. -/
theorem expired_after {timeout : Double} (allowed : timeout.isWithin longestTimeout = true)
    {start later : Instant} (early : Instant.earliestClock ≤ start.wallClock)
    (notLate : start.wallClock + 100000 * 1000000000 < Instant.endOfClock)
    (long : start.absolute + 100000 * 1000000000 ≤ later.absolute) :
    (Timer.startedNow start).expired timeout later = true := by
  obtain ⟨nanoseconds, isTimeout, most⟩ := exists_nanoseconds allowed
  have longest : longestTimeout = 86400 := rfl
  have inside : Instant.earliestClock ≤ start.wallClock + nanoseconds ∧
      start.wallClock + nanoseconds < Instant.endOfClock := by
    omega
  obtain ⟨endsAt, deadline⟩ := Instant.exists_later inside
  have ends : (Timer.startedNow start).endsAt? timeout = some endsAt := by
    simp only [endsAt?, startedNow, isTimeout, Option.bind_eq_bind, Option.bind_some, deadline]
  have late := Instant.absolute_later? deadline
  rw [expired, ends]
  simp only [decide_eq_true_eq, Instant.le_def]
  omega

end Timer

namespace Game

/-! ## What players can lead to -/

/-- The players can bring a game to another one. -/
def Leads (game later : Game) : Prop :=
  ∃ steps : List Step, (∀ step ∈ steps, step.ByPlayerOf game) ∧ game.afterAll steps = later

/-- Whether a step is by a player depends only on who sits where. -/
theorem byPlayerOf_congr {first second : Game} (same : first.terms = second.terms) (step : Step) :
    step.ByPlayerOf first ↔ step.ByPlayerOf second := by
  cases step with
  | command userId action now =>
    unfold Step.ByPlayerOf
    rw [seatIds_congr (seating_eq_of_terms same)]
  | handOut => exact Iff.rfl

theorem afterAll_append (game : Game) (first second : List Step) :
    game.afterAll (first ++ second) = (game.afterAll first).afterAll second :=
  List.foldl_append

theorem emitted_append (game : Game) (first second : List Step) :
    game.emitted (first ++ second) =
      game.emitted first ++ (game.afterAll first).emitted second := by
  induction first generalizing game with
  | nil => rfl
  | cons step first hypothesis =>
    simp only [List.cons_append, emitted, hypothesis, List.append_assoc, afterAll_cons]

namespace Leads

theorem refl (game : Game) : game.Leads game :=
  ⟨[], fun _ member => absurd member List.not_mem_nil, rfl⟩

theorem terms {game later : Game} (leads : game.Leads later) : later.terms = game.terms := by
  obtain ⟨steps, -, rfl⟩ := leads
  exact terms_afterAll game steps

theorem cards {game later : Game} (leads : game.Leads later) : later.cards = game.cards := by
  obtain ⟨steps, -, rfl⟩ := leads
  exact cards_afterAll game steps

theorem trans {first second third : Game} (leads : first.Leads second)
    (further : second.Leads third) : first.Leads third := by
  have same := leads.terms
  obtain ⟨steps, byPlayers, rfl⟩ := leads
  obtain ⟨more, alsoByPlayers, rfl⟩ := further
  refine ⟨steps ++ more, fun step member => ?_, afterAll_append first steps more⟩
  rcases List.mem_append.mp member with early | late
  · exact byPlayers step early
  · exact (byPlayerOf_congr same step).mp (alsoByPlayers step late)

/-- A player gives a command. -/
theorem command {game : Game} {userId : String} (seated : userId ∈ game.seatIds) (action : Action)
    {now : Instant} (shown : now.InCalendar) :
    game.Leads (game.apply userId action now).game := by
  refine ⟨[.command userId action now], fun step member => ?_, rfl⟩
  obtain rfl := List.mem_singleton.mp member
  exact ⟨seated, shown⟩

/-- What a game leads to decides whether it can be finished. -/
theorem finishes {game later : Game} (leads : game.Leads later) (finishes : later.Finishes) :
    game.Finishes := by
  have same := leads.terms
  obtain ⟨steps, byPlayers, rfl⟩ := leads
  obtain ⟨more, alsoByPlayers, result, ends⟩ := finishes
  refine ⟨steps ++ more, fun step member => ?_, result, ?_⟩
  · rcases List.mem_append.mp member with early | late
    · exact byPlayers step early
    · exact (byPlayerOf_congr same step).mp (alsoByPlayers step late)
  · rw [emitted_append]
    exact List.mem_append_right _ ends

end Leads

/-! ## Permitted commands are carried out -/

theorem apply_attack {game : Game} {userId : String} {card : Card} {now : Instant}
    (permitted : game.AttackPermitted userId card now) :
    (game.apply userId (.attack card) now).game =
      (game.withoutCard userId card).layAttack userId card now := by
  show (game.attack userId card now).game = _
  rw [attack, attackViolation?_eq_none_iff.mpr permitted]
  simp only [removeCard_of_held permitted.held]
  rfl

theorem apply_defend {game : Game} {userId : String} {target card : Card} {now : Instant}
    (permitted : game.DefencePermitted userId target card now) :
    (game.apply userId (.defend target card) now).game =
      (game.withoutCard userId card).layCover userId target card now := by
  show (game.defend userId target card now).game = _
  rw [defend, defendViolation?_eq_none_iff.mpr permitted]
  simp only [if_pos (List.any_eq_true.mpr permitted.open_), removeCard_of_held permitted.held]
  rfl

theorem apply_takeAllCards {game : Game} {place : Nat} (attacks : game.AttacksFrom place)
    (started : game.started = true) (now : Instant) :
    (game.apply game.defenderId .takeAllCards now).game = game.taken := by
  have permitted : game.TakePermitted game.defenderId :=
    ⟨started, attacks.attacker_ne_defender.symm, rfl⟩
  obtain ⟨player, seat⟩ :=
    Option.isSome_iff_exists.mp (isSome_player?_iff.mpr attacks.defender_mem)
  show (game.takeAllCards game.defenderId).game = _
  rw [takeAllCards, takeViolation?_eq_none_iff.mpr permitted]
  simp only [seat]
  rfl

theorem apply_timer {game : Game} (started : game.started = true) {kind : TimerKind}
    {now : Instant} (expired : game.timerExpired kind now = true) (userId : String) :
    ∃ action,
      (game.apply userId action now).game = (game.resolveRound true).announceTimer kind := by
  have closed : (game.checkTimer kind now).game = (game.resolveRound true).announceTimer kind := by
    rw [checkTimer, Check.gameStarted, started]
    simp only [Violation.unless, if_true, expired]
    rfl
  cases kind with
  | attack => exact ⟨.checkAttackTimer, closed⟩
  | defend => exact ⟨.checkDefendTimer, closed⟩

/-! ## Quiet games -/

/-- A game at rest, with the attack at a place and an allowed timeout. -/
structure Quiet (game : Game) (place : Nat) : Prop where
  rests : game.Resting
  attacks : game.AttacksFrom place
  allowed : game.settings.turnTimeoutSeconds.isWithin longestTimeout = true

/-- Who attacks and who defends is decided by the place. -/
theorem AttacksFrom.roles {first second : Game} {place : Nat} (attacks : first.AttacksFrom place)
    (other : second.AttacksFrom place) (seats : second.seatIds = first.seatIds) :
    second.attackerId = first.attackerId ∧ second.defenderId = first.defenderId := by
  have attacker := other.attacker
  have defender := other.defender
  rw [seats] at attacker defender
  exact ⟨Option.some.inj (attacker.symm.trans attacks.attacker),
    Option.some.inj (defender.symm.trans attacks.defender)⟩

/-- Places are counted around the table. -/
theorem AttacksFrom.around {game : Game} {place other : Nat} (attacks : game.AttacksFrom place)
    (same : other % game.seatIds.length = place % game.seatIds.length) :
    game.AttacksFrom other := by
  refine ⟨attacks.distinct, attacks.several, ?_, ?_⟩
  · rw [same, attacks.attacker]
  · rw [← attacks.defender, ← Nat.mod_add_mod, same, Nat.mod_add_mod]

namespace Quiet

variable {game : Game} {place : Nat}

/-- What a quiet game leads to is quiet if it is at rest. -/
theorem of_leads (quiet : game.Quiet place) {later : Game} (leads : game.Leads later)
    (rests : later.Resting) {there : Nat} (attacks : later.AttacksFrom there) :
    later.Quiet there := by
  refine ⟨rests, attacks, ?_⟩
  rw [settings_eq_of_terms leads.terms]
  exact quiet.allowed

theorem inTime (quiet : game.Quiet place) (kind : TimerKind) (now : Instant) :
    game.timerExpired kind now = false := quiet.rests.notExpired kind now

/-! ## Passing over -/

/-- The defender takes up a clear table.  With an empty deck that changes no hand. -/
theorem exists_passed (quiet : game.Quiet place) (empty : game.deck = []) :
    ∃ later, game.Leads later ∧ later.Quiet (place + 2) ∧ later.deck = [] ∧
      ∀ id, later.handOf id = game.handOf id := by
  have leads : game.Leads game.taken := by
    rw [← apply_takeAllCards quiet.attacks quiet.rests.started (.ofUnixSeconds 0)]
    exact .command quiet.attacks.defender_mem .takeAllCards (by decide +kernel)
  refine ⟨game.taken, leads, quiet.of_leads leads (resting_taken quiet.rests.started)
    quiet.attacks.take, ((fillsUp_taken quiet.attacks).empty empty).1, fun id => ?_⟩
  rw [handOf_taken quiet.attacks empty, quiet.rests.table]
  simp [tableCards]

/-- Passing over defenders again and again. -/
theorem exists_passedOver (quiet : game.Quiet place) (empty : game.deck = []) (times : Nat) :
    ∃ later, game.Leads later ∧ later.Quiet (place + 2 * times) ∧ later.deck = [] ∧
      ∀ id, later.handOf id = game.handOf id := by
  induction times with
  | zero => exact ⟨game, .refl game, quiet, empty, fun _ => rfl⟩
  | succ times hypothesis =>
    obtain ⟨between, leads, stillQuiet, stillEmpty, same⟩ := hypothesis
    obtain ⟨later, further, ever, gone, again⟩ := stillQuiet.exists_passed stillEmpty
    exact ⟨later, leads.trans further, ever, gone, fun id => (again id).trans (same id)⟩

end Quiet

/-! ## Laying a card -/

/-- The game after the attacker has laid a card. -/
def attacked (game : Game) (card : Card) (now : Instant) : Game :=
  (game.withoutCard game.attackerId card).layAttack game.attackerId card now

theorem terms_attacked (game : Game) (card : Card) (now : Instant) :
    (game.attacked card now).terms = game.terms :=
  (terms_layAttack _ game.attackerId card now).trans (terms_withoutCard game game.attackerId card)

theorem attacksFrom_attacked {game : Game} {place : Nat} (attacks : game.AttacksFrom place)
    (card : Card) (now : Instant) : (game.attacked card now).AttacksFrom place :=
  (attacks.withoutCard game.attackerId card).layAttack game.attackerId card now

theorem handOf_attacked {game : Game} {card : Card} (held : card ∈ game.handOf game.attackerId)
    (now : Instant) (id : String) :
    (game.attacked card now).handOf id =
      if id = game.attackerId then (game.handOf game.attackerId).erase card
      else game.handOf id :=
  handOf_withoutCard held id

namespace Quiet

variable {game : Game} {place : Nat} {card : Card}

/-- The attacker may lay any card, if the defender holds one. -/
theorem leads_attacked (quiet : game.Quiet place) (held : card ∈ game.handOf game.attackerId)
    (opposed : game.handOf game.defenderId ≠ []) {now : Instant} (shown : now.InCalendar) :
    game.Leads (game.attacked card now) ∧
      (game.attacked card now).table = [TableEntry.mk card none] := by
  have permitted : game.AttackPermitted game.attackerId card now := by
    refine ⟨quiet.rests.started, rfl, mem_handOf.mp held, quiet.inTime .attack now,
      handOf_ne_nil.mp opposed, ?_, .inl quiet.rests.table⟩
    rw [quiet.rests.table]
    decide
  have leads : game.Leads (game.attacked card now) := by
    rw [attacked, ← apply_attack permitted]
    exact .command quiet.attacks.attacker_mem (.attack card) shown
  have table : (game.attacked card now).table = game.table ++ [TableEntry.mk card none] := rfl
  rw [quiet.rests.table] at table
  exact ⟨leads, table⟩

/-- The attacker hands over a card: it is laid, the defender takes it up, and the attack goes
around until it comes back.  With an empty deck nothing is drawn. -/
theorem exists_handedOver (quiet : game.Quiet place) (empty : game.deck = [])
    (held : card ∈ game.handOf game.attackerId) (opposed : game.handOf game.defenderId ≠ []) :
    ∃ later, game.Leads later ∧ later.Quiet place ∧ later.deck = [] ∧
      ∀ id, later.handOf id =
        if id = game.defenderId then game.handOf id ++ [card]
        else if id = game.attackerId then (game.handOf id).erase card
        else game.handOf id := by
  have shown : (Instant.ofUnixSeconds 0).InCalendar := by decide +kernel
  obtain ⟨leads, table⟩ := quiet.leads_attacked held opposed shown
  have attacks := attacksFrom_attacked quiet.attacks card (.ofUnixSeconds 0)
  have started : (game.attacked card (.ofUnixSeconds 0)).started = true := quiet.rests.started
  have stillEmpty : (game.attacked card (.ofUnixSeconds 0)).deck = [] := empty
  have takes : (game.attacked card (.ofUnixSeconds 0)).Leads
      (game.attacked card (.ofUnixSeconds 0)).taken := by
    rw [← apply_takeAllCards attacks started (.ofUnixSeconds 0)]
    exact .command attacks.defender_mem .takeAllCards shown
  have resting := quiet.of_leads (leads.trans takes) (resting_taken started) attacks.take
  obtain ⟨later, passes, stillQuiet, gone, same⟩ := resting.exists_passedOver
    ((fillsUp_taken attacks).empty stillEmpty).1 (game.seatIds.length - 1)
  have all := (leads.trans takes).trans passes
  refine ⟨later, all, ⟨stillQuiet.rests, stillQuiet.attacks.around ?_, stillQuiet.allowed⟩, gone,
    fun id => ?_⟩
  · have several := quiet.attacks.several
    have whole : place + 2 + 2 * (game.seatIds.length - 1) =
        place + game.seatIds.length + game.seatIds.length := by omega
    rw [seatIds_eq_of_terms all.terms, whole, Nat.add_mod_right, Nat.add_mod_right]
  · have beside := quiet.attacks.attacker_ne_defender
    have defender : (game.attacked card (.ofUnixSeconds 0)).defenderId = game.defenderId := rfl
    rw [same, handOf_taken attacks stillEmpty, handOf_attacked held, table, defender]
    by_cases defends : id = game.defenderId
    · rw [if_pos defends, if_pos defends, if_neg (defends ▸ beside.symm)]
      rfl
    · rw [if_neg defends, if_neg defends]
      split
      · rename_i attacks_
        rw [attacks_]
      · rfl

end Quiet

/-- A round is closed because a timer has run out. -/
theorem leads_closedByTime {game : Game} {place : Nat} (attacks : game.AttacksFrom place)
    (started : game.started = true) {kind : TimerKind} {now : Instant} (shown : now.InCalendar)
    (expired : game.timerExpired kind now = true) :
    ∃ event, game.Leads ((game.resolveRound true).pushEvent event) := by
  obtain ⟨action, closed⟩ := apply_timer started expired game.attackerId
  obtain ⟨completed, endsAt, announced⟩ := exists_announced (game.resolveRound true) kind
  rw [announced] at closed
  refine ⟨.timerState kind completed endsAt, ?_⟩
  rw [← closed]
  exact .command attacks.attacker_mem action shown

namespace Quiet

variable {game : Game} {place : Nat} {card : Card}

/-- The attacker lays a card, and nobody goes on until time has run out: the card is put aside,
hands are filled up, and the defender attacks next. -/
theorem exists_putAside (quiet : game.Quiet place) (held : card ∈ game.handOf game.attackerId)
    (opposed : game.handOf game.defenderId ≠ []) :
    ∃ later, game.Leads later ∧ later.Quiet (place + 1) ∧
      (game.attacked card (.ofUnixSeconds 0)).FillsUp later game.seatIds ∧
      min handSize ((game.handOf game.attackerId).length - 1 + game.deck.length) ≤
        (later.handOf game.attackerId).length ∧
      later.discard = game.discard ++ [card] := by
  have shown : (Instant.ofUnixSeconds 0).InCalendar := by decide +kernel
  obtain ⟨leads, table⟩ := quiet.leads_attacked held opposed shown
  have attacks := attacksFrom_attacked quiet.attacks card (.ofUnixSeconds 0)
  have started : (game.attacked card (.ofUnixSeconds 0)).started = true := quiet.rests.started
  have hand := handOf_attacked held (.ofUnixSeconds 0) game.attackerId
  have expired : (game.attacked card (.ofUnixSeconds 0)).timerExpired .defend
      (.ofUnixSeconds 100000) = true :=
    Timer.expired_after quiet.allowed (by decide +kernel) (by decide +kernel) (by decide +kernel)
  have aside : (game.attacked card (.ofUnixSeconds 0)).discard = game.discard := rfl
  have left : (game.attacked card (.ofUnixSeconds 0)).deck = game.deck := rfl
  have seats := seatIds_eq_of_terms (terms_attacked game card (.ofUnixSeconds 0))
  have attacker : (game.attacked card (.ofUnixSeconds 0)).attackerId = game.attackerId := rfl
  generalize game.attacked card (.ofUnixSeconds 0) = laid at *
  obtain ⟨event, closes⟩ := leads_closedByTime attacks started (by decide +kernel) expired
  have rests := (resting_resolveRound started true).pushEvent event
  have fills := (fillsUp_resolveRound attacks true).pushEvent event
  rw [seats] at fills
  have drawn := attacker_replenishAll attacks
  rw [← handOf_resolveRound laid true, attacker, hand, if_pos rfl, left,
    List.length_erase_of_mem held] at drawn
  have discard := discard_resolveRound laid true
  rw [table, aside] at discard
  exact ⟨_, leads.trans closes, quiet.of_leads (leads.trans closes) rests
    (attacks.resolveRound_true.pushEvent event), fills, drawn, discard⟩

end Quiet

end Game

end Durak
