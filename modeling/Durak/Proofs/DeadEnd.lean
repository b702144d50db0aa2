import Durak.Proofs.Hands
import Durak.Proofs.Replay

/-!
# Dead ends

A game ends when an event says so, and only a vote that closes a round emits that event.  A game
`Finishes` if its players can give commands, at instants that a clock can show, that lead to it.

Not every started game does.  Rounds are also closed by taking the cards and by timers, and neither
asks whether the game is over; and once the deck is empty, nobody whose next neighbour has no cards
can lay a card any more.  What is left then is a game of hands: `Hands.Playable` says which hands
can still be played to a card that is beaten, in rounds in which nothing is beaten.

A round that starts from hands that are not playable is hopeless.  Whatever is asked of such a game,
it stays so and never ends (`Hopeless.apply`, `Hopeless.not_endGame`).  So a game at rest with an
empty deck can be finished only if its hands are playable (`Resting.isPlayable_of_finishes`).
-/

set_option autoImplicit false

namespace Durak

/-- Whether a clock can show the instant. -/
def Instant.InCalendar (instant : Instant) : Prop :=
  Instant.earliestClock ≤ instant.wallClock ∧ instant.wallClock < Instant.endOfClock

instance (instant : Instant) : Decidable instant.InCalendar :=
  inferInstanceAs (Decidable (_ ∧ _))

/-- A command that a player of the game gives, at an instant that a clock can show. -/
def Step.ByPlayerOf (game : Game) : Step → Prop
  | .command userId _ now => userId ∈ game.seatIds ∧ now.InCalendar
  | .handOut => False

instance (game : Game) : DecidablePred (Step.ByPlayerOf game)
  | .command userId _ now => inferInstanceAs (Decidable (userId ∈ game.seatIds ∧ now.InCalendar))
  | .handOut => inferInstanceAs (Decidable False)

namespace Game

/-! ## What a run emits -/

/-- The events that a step emits. -/
def emittedBy (game : Game) : Step → List Event
  | .command userId action now => game.occurred userId action now
  | .handOut => []

/-- The events that a run emits. -/
def emitted : Game → List Step → List Event
  | _, [] => []
  | game, step :: steps => game.emittedBy step ++ (game.after step).emitted steps

/-- Whether the players can bring the game to its end. -/
def Finishes (game : Game) : Prop :=
  ∃ steps : List Step, (∀ step ∈ steps, step.ByPlayerOf game) ∧
    ∃ result, Event.endGame result ∈ game.emitted steps

theorem exists_announced (game : Game) (kind : TimerKind) :
    ∃ completed endsAt,
      game.announceTimer kind = game.pushEvent (.timerState kind completed endsAt) := ⟨_, _, rfl⟩

/-- Only a vote that everybody else has joined ends a game. -/
theorem vote_of_endGame {game : Game} {userId : String} {action : Action} {now : Instant}
    {result : GameResult} (ends : .endGame result ∈ game.occurred userId action now) :
    action = .endAttack ∧ game.EndPermitted userId now ∧
      (game.voteEnd userId).everyoneEnds = true := by
  have effect := apply_effect game userId action now
  have told : ∀ events, (game.apply userId action now).game.events = game.events ++ events →
      .endGame result ∈ events := fun events appended => occurred_of_append appended ▸ ends
  generalize (game.apply userId action now).violation = verdict,
    (game.apply userId action now).game = after at effect told
  cases effect with
  | unregistered | readyAgain | attackRefused | defendRefused | endRefused | takeRefused
  | takeUnseated | timerRefused | vote =>
    exact absurd (told [] (List.append_nil _).symm) List.not_mem_nil
  | ready => simpa using told [.ready userId] rfl
  | start =>
    simpa using told [.ready userId, .start game.attackerId game.defenderId game.trump]
      (List.append_assoc _ _ _)
  | attackLate => simpa using told [.endAttack] (events_resolveRound game true)
  | attack card => simpa using told [.attack card userId] rfl
  | defendLate => simpa using told [.endAttack] rfl
  | defend target card =>
    simpa using told [.defend target card userId] (events_layCover _ _ _ _ _)
  | endRound permitted everyone => exact ⟨rfl, permitted, everyone⟩
  | take =>
    refine absurd (told [.takeAllCards userId, .endAttack] ?_) (by simp)
    rw [events_passOver, events_resolveRound]
    exact List.append_assoc _ _ _
  | timerClosed kind =>
    obtain ⟨completed, endsAt, announced⟩ := exists_announced (game.resolveRound true) kind
    have both := told [.endAttack, .timerState kind completed endsAt] (by
      rw [announced, pushEvent, events_resolveRound, List.append_assoc, List.singleton_append])
    simp at both
  | timerShown kind => simpa using told [_] rfl

/-! ## Between two rounds -/

/-- The game has been started, the table is clear and no timer is running. -/
structure Resting (game : Game) : Prop where
  started : game.started = true
  table : game.table = []
  timers : ∀ kind, game.timer kind = .stopped

/-- A closed round leaves a game at rest. -/
theorem resting_resolveRound {game : Game} (started : game.started = true) (switch : Bool) :
    (game.resolveRound switch).Resting := by
  refine ⟨?_, rfl, fun kind => by cases kind <;> rfl⟩
  rw [resolveRound_eq, pushEvent, clearTable]
  exact (filled_keeps Game.started (fun _ _ _ _ _ => rfl) game switch).trans started

theorem resting_passOver {game : Game} (rests : game.Resting) (id : String) :
    (game.passOver id).Resting := by
  refine ⟨?_, ?_, fun kind => ?_⟩
  · rw [passOver_keeps Game.started (fun _ _ _ => rfl), rests.started]
  · rw [passOver_keeps Game.table (fun _ _ _ => rfl), rests.table]
  · have kept := passOver_keeps (fun game => game.timer kind) (fun _ _ _ => by cases kind <;> rfl)
      game id
    exact kept.trans (rests.timers kind)

theorem resting_taken {game : Game} (started : game.started = true) : game.taken.Resting := by
  have inPlay : (game.takeTable game.defenderId).started = true := started
  exact resting_passOver (resting_resolveRound inPlay false) game.defenderId

namespace Resting

variable {game : Game}

theorem congr {other : Game} (rests : game.Resting) (started : other.started = game.started)
    (table : other.table = game.table) (attackTimer : other.attackTimer = game.attackTimer)
    (defendTimer : other.defendTimer = game.defendTimer) : other.Resting := by
  refine ⟨started.trans rests.started, table.trans rests.table, fun kind => ?_⟩
  rw [← rests.timers kind]
  cases kind
  · exact attackTimer
  · exact defendTimer

theorem pushEvent (rests : game.Resting) (event : Event) : (game.pushEvent event).Resting :=
  rests.congr rfl rfl rfl rfl

/-- While no timer is running, none has run out. -/
theorem notExpired (rests : game.Resting) (kind : TimerKind) (now : Instant) :
    game.timerExpired kind now = false := by
  rw [timerExpired, rests.timers kind]
  rfl

end Resting

/-- An attack comes too late only if the attack timer has run out. -/
theorem expired_of_attackLate {game : Game} {userId : String} {card : Card} {now : Instant}
    (late : game.attackViolation? userId card now = some .attackTimeOver) :
    game.timerExpired .attack now = true := by
  have member := mem_of_firstViolation late
  simp only [List.mem_cons, List.not_mem_nil, or_false] at member
  rcases member with check | check | check | check | check | check | check
  · cases (Violation.unless_eq_some.mp check.symm).2
  · cases (Violation.unless_eq_some.mp check.symm).2
  · rcases userHasCard_eq_some check.symm with other | other <;> cases other
  · have expired := (Violation.unless_eq_some.mp check.symm).1
    rwa [Bool.not_eq_false'] at expired
  · cases defenderHasCards_eq_some check.symm
  · cases (Violation.unless_eq_some.mp check.symm).2
  · cases rankMayJoin_eq_some check.symm

/-! ## Hands that can be played on -/

/-- A pair of hands is promising if some card of the first is beaten by a card of either, and
the second is not empty. -/
def PromisingPair (trump : Suit) (attacking defending : List Card) : Prop :=
  defending ≠ [] ∧ ∃ card ∈ attacking, ∃ cover ∈ attacking ++ defending,
    cover.beats trump card = true

end Game

/-- What everybody holds, by id. -/
abbrev Hands := String → List Card

namespace Hands

/-- The hands after a card has left one of them. -/
def givenUp (hands : Hands) (giver : String) (card : Card) : Hands :=
  fun id => if id = giver then (hands id).erase card else hands id

/-- The hands after cards have come into one of them. -/
def withCards (hands : Hands) (taker : String) (cards : List Card) : Hands :=
  fun id => if id = taker then hands id ++ cards else hands id

/-- The hands after a card has gone from one player to another. -/
def handedOver (hands : Hands) (giver taker : String) (card : Card) : Hands :=
  (hands.givenUp giver card).withCards taker [card]

/-- All that is left of a game once the deck is empty: the hands, and whose attack it is.  They can
be played on if the attacker and the next player are a promising pair, or if such a pair is got to
in rounds of three kinds.  The attack passes over the next player; the attacker hands over one card
to the next player and attacks again; or the attacker puts a card aside, and the next player
attacks.  For the last two the next player has to hold a card. -/
inductive Playable (trump : Suit) (next : String → String) : Hands → String → Prop where
  | pair {hands : Hands} {attacker : String}
      (promising : Game.PromisingPair trump (hands attacker) (hands (next attacker))) :
      Playable trump next hands attacker
  | passOver {hands : Hands} {attacker : String}
      (later : Playable trump next hands (next (next attacker))) :
      Playable trump next hands attacker
  | handOver {hands : Hands} {attacker : String} {card : Card} (held : card ∈ hands attacker)
      (opposed : hands (next attacker) ≠ [])
      (later : Playable trump next (hands.handedOver attacker (next attacker) card) attacker) :
      Playable trump next hands attacker
  | putAside {hands : Hands} {attacker : String} {card : Card} (held : card ∈ hands attacker)
      (opposed : hands (next attacker) ≠ [])
      (later : Playable trump next (hands.givenUp attacker card) (next attacker)) :
      Playable trump next hands attacker

variable {trump : Suit} {next : String → String} {hands more : Hands} {attacker : String}

theorem ne_nil_of_subperm {first second : List Card} (within : first.Subperm second)
    (some_ : first ≠ []) : second ≠ [] := by
  rintro rfl
  exact some_ (List.subperm_nil.mp within)

/-- A card of the second part may be taken out there. -/
theorem perm_erase_append {card : Card} {first second : List Card} (held : card ∈ second) :
    ((first ++ second).erase card).Perm (first ++ second.erase card) := by
  have split := ((List.perm_cons_erase held).append_left first).trans List.perm_middle
  have left := split.erase card
  rwa [List.erase_cons_head] at left

theorem givenUp_subperm (within : ∀ id, (hands id).Subperm (more id)) (giver : String) (card : Card)
    (id : String) :
    (hands.givenUp giver card id).Subperm (more.givenUp giver card id) := by
  unfold givenUp
  split
  · exact (within id).erase card
  · exact within id

theorem withCards_subperm (within : ∀ id, (hands id).Subperm (more id)) (taker : String)
    (cards : List Card) (id : String) :
    (hands.withCards taker cards id).Subperm (more.withCards taker cards id) := by
  unfold withCards
  split
  · exact (List.subperm_append_right cards).mpr (within id)
  · exact within id

/-- **Whoever holds more can play on as well.** -/
theorem Playable.mono (playable : Playable trump next hands attacker)
    (within : ∀ id, (hands id).Subperm (more id)) : Playable trump next more attacker := by
  induction playable generalizing more with
  | @pair hands attacker promising =>
    obtain ⟨opposed, card, held, cover, among, beats⟩ := promising
    refine .pair ⟨ne_nil_of_subperm (within _) opposed, card, (within _).subset held, cover, ?_,
      beats⟩
    rcases List.mem_append.mp among with mine | theirs
    · exact List.mem_append_left _ ((within _).subset mine)
    · exact List.mem_append_right _ ((within _).subset theirs)
  | passOver _ hypothesis => exact .passOver (hypothesis within)
  | @handOver hands attacker card held opposed _ hypothesis =>
    exact .handOver ((within _).subset held) (ne_nil_of_subperm (within _) opposed)
      (hypothesis (withCards_subperm (givenUp_subperm within attacker card) _ _))
  | @putAside hands attacker card held opposed _ hypothesis =>
    exact .putAside ((within _).subset held) (ne_nil_of_subperm (within _) opposed)
      (hypothesis (givenUp_subperm within attacker card))

/-- Cards that the next player may hold as well as the attacker are handed over one by one. -/
theorem Playable.handOverAll (apart : next attacker ≠ attacker) {cards : List Card}
    (opposed : cards = [] ∨ hands (next attacker) ≠ [])
    (playable : Playable trump next (hands.withCards (next attacker) cards) attacker) :
    Playable trump next (hands.withCards attacker cards) attacker := by
  induction cards generalizing hands with
  | nil =>
    have same : ∀ taker, hands.withCards taker [] = hands := fun taker => by
      funext id
      simp [withCards]
    rwa [same] at playable ⊢
  | cons card cards hypothesis =>
    have opposed := opposed.resolve_left (List.cons_ne_nil card cards)
    have afterwards : Playable trump next
        ((hands.withCards (next attacker) [card]).withCards (next attacker) cards) attacker := by
      refine playable.mono fun id => ?_
      unfold withCards
      split
      · rw [List.append_cons]
      · exact List.Subperm.refl _
    have later := hypothesis (.inr (by simp [withCards])) afterwards
    have held : card ∈ hands.withCards attacker (card :: cards) attacker := by simp [withCards]
    refine .handOver held (by simpa [withCards, apart] using opposed) (later.mono fun id => ?_)
    unfold handedOver givenUp withCards
    by_cases taker : id = next attacker
    · simp [taker, apart, List.Subperm.refl]
    · by_cases giver : id = attacker
      · have left := @perm_erase_append card (hands id) (card :: cards) List.mem_cons_self
        rw [List.erase_cons_head] at left
        simp only [if_neg taker, if_pos giver]
        exact left.symm.subperm
      · simp [taker, giver, List.Subperm.refl]

/-- Where no two neighbours both hold cards, nothing can be played on. -/
theorem not_playable_of_apart (apart : ∀ id, hands id = [] ∨ hands (next id) = []) :
    ¬Playable trump next hands attacker := by
  intro playable
  induction playable with
  | pair promising =>
    obtain ⟨opposed, card, held, -⟩ := promising
    exact (apart _).elim (fun none_ => List.ne_nil_of_mem held none_) opposed
  | passOver _ hypothesis => exact hypothesis apart
  | handOver held opposed | putAside held opposed =>
    exact (apart _).elim (fun none_ => List.ne_nil_of_mem held none_) opposed

end Hands

namespace Game

/-- Who sits after a player. -/
def seatAfter (game : Game) (id : String) : String := (game.nextSeat? id).getD id

theorem seatAfter_congr {first second : Game} (same : second.seatIds = first.seatIds) :
    second.seatAfter = first.seatAfter := by
  funext id
  rw [seatAfter, seatAfter, nextSeat?_eq, nextSeat?_eq, same]

/-- Whether the hands of a game can be played on. -/
def IsPlayable (game : Game) : Prop :=
  Hands.Playable game.trump game.seatAfter game.handOf game.attackerId

namespace AttacksFrom

variable {game later : Game} {place : Nat}

theorem seatAfter_attacker (attacks : game.AttacksFrom place) :
    game.seatAfter game.attackerId = game.defenderId := by
  rw [seatAfter, attacks.nextSeat?_attacker, Option.getD_some]

/-- When the attack has moved by one place, the defender attacks. -/
theorem attackerId_next (attacks : game.AttacksFrom place) (moved : later.AttacksFrom (place + 1))
    (seats : later.seatIds = game.seatIds) : later.attackerId = game.defenderId := by
  have attacker := moved.attacker
  rw [seats, attacks.defender] at attacker
  exact (Option.some.inj attacker).symm

/-- When the attack has moved by two places, whoever sits after the defender attacks. -/
theorem attackerId_passed (attacks : game.AttacksFrom place)
    (moved : later.AttacksFrom (place + 2)) (seats : later.seatIds = game.seatIds) :
    later.attackerId = game.seatAfter game.defenderId := by
  have attacker := moved.attacker
  have beside : game.nextSeat? game.defenderId = some later.attackerId := by
    rw [attacks.nextSeat?_at attacks.defender, ← seats, attacker]
  rw [seatAfter, beside, Option.getD_some]

end AttacksFrom

/-! ## Hopeless games -/

/-- The hands as they were before the attacker laid the cards on the table. -/
def handsBefore (game : Game) : Hands :=
  Hands.withCards game.handOf game.attackerId (tableCards game.table)

/-- A game in which no card will be beaten any more: the deck is empty, no card on the table is
beaten, and the hands from before the round cannot be played on.  With a clear table no timer
runs. -/
structure Hopeless (game : Game) : Prop where
  started : game.started = true
  deck : game.deck = []
  unbeaten : ∀ entry ∈ game.table, entry.isBeaten = false
  opposed : game.table ≠ [] → game.handOf game.defenderId ≠ []
  rests : game.table = [] → ∀ kind, game.timer kind = .stopped
  unplayable : ¬Hands.Playable game.trump game.seatAfter game.handsBefore game.attackerId

theorem handsBefore_of_clear {game : Game} (clear : game.table = []) :
    game.handsBefore = game.handOf := by
  funext id
  simp [handsBefore, Hands.withCards, clear, tableCards]

/-- A game at rest with an empty deck is hopeless if its hands cannot be played on. -/
theorem Resting.hopeless {game : Game} (rests : game.Resting) (empty : game.deck = [])
    (unplayable : ¬game.IsPlayable) : game.Hopeless where
  started := rests.started
  deck := empty
  unbeaten := by simp [rests.table]
  opposed laid := absurd rests.table laid
  rests _ := rests.timers
  unplayable := by rwa [handsBefore_of_clear rests.table]

namespace Hopeless

variable {game : Game} {place : Nat}

/-- Events, votes and who is ready play no part in whether a game is hopeless. -/
theorem congr {other : Game} (hopeless : game.Hopeless)
    (same : (other.started, other.trump, other.players, other.deck, other.table) =
      (game.started, game.trump, game.players, game.deck, game.table))
    (roles : (other.attackerId, other.defenderId) = (game.attackerId, game.defenderId))
    (timers : (other.attackTimer, other.defendTimer) = (game.attackTimer, game.defendTimer)) :
    other.Hopeless := by
  simp only [Prod.mk.injEq] at same roles timers
  obtain ⟨started, trump, players, deck, table⟩ := same
  obtain ⟨attacker, defender⟩ := roles
  have hands : other.handOf = game.handOf := funext (handOf_congr players)
  have seats : other.seatAfter = game.seatAfter :=
    seatAfter_congr (congrArg (List.map Player.id) players)
  refine ⟨started.trans hopeless.started, deck.trans hopeless.deck, ?_, ?_,
    fun clear kind => ?_, ?_⟩
  · rw [table]
    exact hopeless.unbeaten
  · rw [table, hands, defender]
    exact hopeless.opposed
  · have stopped := hopeless.rests (table ▸ clear) kind
    cases kind
    · exact timers.1.trans stopped
    · exact timers.2.trans stopped
  · rw [handsBefore, trump, seats, hands, attacker, table]
    exact hopeless.unplayable

/-- No timer runs out over a clear table. -/
theorem laid_of_expired (hopeless : game.Hopeless) {kind : TimerKind} {now : Instant}
    (expired : game.timerExpired kind now = true) : game.table ≠ [] := by
  intro clear
  rw [timerExpired, hopeless.rests clear kind] at expired
  cases expired

/-- Putting all cards of the table aside is no better than putting one of them aside. -/
theorem resolveRound_true (attacks : game.AttacksFrom place) (hopeless : game.Hopeless)
    (laid : game.table ≠ []) : (game.resolveRound true).Hopeless := by
  obtain ⟨left, hands⟩ := (fillsUp_resolveRound attacks true).empty hopeless.deck
  have terms := terms_resolveRound game true
  have seats := seatIds_eq_of_terms terms
  have moved := attacks.attackerId_next attacks.resolveRound_true seats
  refine (resting_resolveRound hopeless.started true).hopeless left fun playable => ?_
  obtain ⟨entry, others, isTable⟩ := List.exists_cons_of_ne_nil laid
  have onTable : entry.card ∈ tableCards game.table := by
    rw [isTable]
    exact List.mem_append_left _ List.mem_cons_self
  rw [IsPlayable, trump_eq_of_terms terms, seatAfter_congr seats, funext hands, moved,
    ← attacks.seatAfter_attacker] at playable
  have held : entry.card ∈ game.handsBefore game.attackerId := by
    simp [handsBefore, Hands.withCards, onTable]
  refine hopeless.unplayable (.putAside held ?_ (playable.mono fun id => ?_))
  · rw [attacks.seatAfter_attacker, handsBefore, Hands.withCards,
      if_neg attacks.attacker_ne_defender.symm]
    exact hopeless.opposed laid
  · unfold Hands.givenUp handsBefore Hands.withCards
    split
    · exact (List.sublist_append_left _ _).subperm.trans
        (Hands.perm_erase_append onTable).symm.subperm
    · exact List.Subperm.refl _

/-- Taking up the cards of the table is no better than handing them over one by one. -/
theorem taken (attacks : game.AttacksFrom place) (hopeless : game.Hopeless) :
    game.taken.Hopeless := by
  have left := ((fillsUp_taken attacks).empty hopeless.deck).1
  have terms := terms_taken game
  have seats := seatIds_eq_of_terms terms
  have moved : game.taken.attackerId = game.seatAfter game.defenderId :=
    attacks.attackerId_passed attacks.take seats
  have hands : game.taken.handOf =
      Hands.withCards game.handOf game.defenderId (tableCards game.table) :=
    funext (handOf_taken attacks hopeless.deck)
  refine (resting_taken hopeless.started).hopeless left fun playable => hopeless.unplayable ?_
  rw [IsPlayable, trump_eq_of_terms terms, seatAfter_congr seats, hands,
    moved, ← attacks.seatAfter_attacker] at playable
  refine .handOverAll ?_ ?_ (.passOver playable)
  · rw [attacks.seatAfter_attacker]
    exact attacks.attacker_ne_defender.symm
  · rw [attacks.seatAfter_attacker]
    by_cases clear : game.table = []
    · exact .inl (by rw [clear]; rfl)
    · exact .inr (hopeless.opposed clear)

/-- A card that is laid was in the attacker's hand before the round. -/
theorem attacked (attacks : game.AttacksFrom place) (hopeless : game.Hopeless) {card : Card}
    {now : Instant} (permitted : game.AttackPermitted game.attackerId card now) :
    ((game.withoutCard game.attackerId card).layAttack game.attackerId card now).Hopeless := by
  have held := mem_handOf.mpr permitted.held
  have hands := handOf_withoutCard held
  have terms := terms_withoutCard game game.attackerId card
  have seats := seatIds_eq_of_terms terms
  refine ⟨hopeless.started, hopeless.deck, fun entry laid => ?_, fun _ => ?_, fun clear => ?_,
    fun playable => hopeless.unplayable ?_⟩
  · rcases List.mem_append.mp laid with before | new
    · exact hopeless.unbeaten entry before
    · rw [List.mem_singleton.mp new]
      rfl
  · show (game.withoutCard game.attackerId card).handOf game.defenderId ≠ []
    rw [hands, if_neg attacks.attacker_ne_defender.symm]
    exact handOf_ne_nil.mpr permitted.opposed
  · exact absurd clear (List.append_ne_nil_of_right_ne_nil _ (List.cons_ne_nil _ _))
  · have sameSeats : ((game.withoutCard game.attackerId card).layAttack game.attackerId card
        now).seatAfter = game.seatAfter := seatAfter_congr seats
    rw [sameSeats] at playable
    refine playable.mono fun id => ?_
    show (if id = game.attackerId then (game.withoutCard game.attackerId card).handOf id ++
        tableCards (game.table ++ [TableEntry.mk card none])
      else (game.withoutCard game.attackerId card).handOf id).Subperm (game.handsBefore id)
    rw [hands, handsBefore, Hands.withCards]
    split
    · rename_i isAttacker
      have table : tableCards (game.table ++ [TableEntry.mk card none]) =
          tableCards game.table ++ [card] := List.flatMap_append
      rw [isAttacker, table]
      have back := (List.perm_cons_erase held).append_right (tableCards game.table)
      refine List.Perm.subperm (List.Perm.trans ?_ back.symm)
      rw [← List.append_assoc]
      exact List.perm_append_singleton _ _
    · exact List.Subperm.refl _

/-- A card that could be beaten would have made the pair promising. -/
theorem not_defencePermitted (attacks : game.AttacksFrom place) (hopeless : game.Hopeless)
    {target card : Card} {now : Instant} :
    ¬game.DefencePermitted game.defenderId target card now := by
  intro permitted
  obtain ⟨entry, laid, isOpen⟩ := permitted.open_
  have held := mem_handOf.mpr permitted.held
  have onTable : target ∈ tableCards game.table := by
    refine List.mem_flatMap.mpr ⟨entry, laid, ?_⟩
    simp only [Check.isOpenTarget, Bool.and_eq_true, decide_eq_true_eq] at isOpen
    rw [← isOpen.1]
    exact List.mem_cons_self
  refine hopeless.unplayable (.pair ?_)
  rw [attacks.seatAfter_attacker, handsBefore, Hands.withCards, Hands.withCards, if_pos rfl,
    if_neg attacks.attacker_ne_defender.symm]
  exact ⟨List.ne_nil_of_mem held, target, List.mem_append_right _ onTable, card,
    List.mem_append_right _ held, permitted.beats⟩

/-- Nobody may vote to end the attack. -/
theorem not_endPermitted (hopeless : game.Hopeless) {userId : String} {now : Instant} :
    ¬game.EndPermitted userId now := by
  intro permitted
  obtain ⟨entry, others, isTable⟩ := List.exists_cons_of_ne_nil permitted.laid
  have laid : entry ∈ game.table := by
    rw [isTable]
    exact List.mem_cons_self
  cases (hopeless.unbeaten entry laid).symm.trans (permitted.beaten entry laid)

/-- **Whatever is asked of a hopeless game, it stays hopeless.** -/
theorem apply (attacks : game.AttacksFrom place) (hopeless : game.Hopeless) (userId : String)
    (action : Action) (now : Instant) : (game.apply userId action now).game.Hopeless := by
  have effect := apply_effect game userId action now
  generalize (game.apply userId action now).violation = verdict,
    (game.apply userId action now).game = result at effect ⊢
  cases effect with
  | unregistered | readyAgain | attackRefused | defendRefused | endRefused | takeRefused
  | takeUnseated | timerRefused => exact hopeless
  | ready | defendLate | timerShown => exact hopeless.congr rfl rfl rfl
  | start fresh everyone notStarted => cases hopeless.started.symm.trans notStarted
  | attackLate card reported =>
    exact resolveRound_true attacks hopeless
      (hopeless.laid_of_expired (expired_of_attackLate reported))
  | attack card permitted =>
    obtain rfl := permitted.attacker
    exact attacked attacks hopeless permitted
  | defend target card permitted =>
    obtain rfl := permitted.defender
    exact absurd permitted (not_defencePermitted attacks hopeless)
  | vote permitted | endRound permitted => exact absurd permitted hopeless.not_endPermitted
  | take permitted =>
    obtain rfl := permitted.defender
    exact taken attacks hopeless
  | timerClosed kind asks started expired =>
    exact (resolveRound_true attacks hopeless (hopeless.laid_of_expired expired)).congr rfl rfl rfl

/-- **A hopeless game never ends.** -/
theorem not_endGame (attacks : game.AttacksFrom place) (hopeless : game.Hopeless)
    (steps : List Step) (result : GameResult) : .endGame result ∉ game.emitted steps := by
  induction steps generalizing game place with
  | nil => exact List.not_mem_nil
  | cons step steps hypothesis =>
    have later : (game.after step).Hopeless := by
      cases step with
      | command userId action now => exact apply attacks hopeless userId action now
      | handOut => exact hopeless.congr rfl rfl rfl
    intro ends
    rcases List.mem_append.mp ends with now_ | afterwards
    · cases step with
      | command userId action now => exact hopeless.not_endPermitted (vote_of_endGame now_).2.1
      | handOut => exact List.not_mem_nil now_
    · exact hypothesis (attacks.after step) later afterwards

end Hopeless

/-- **A game at rest with an empty deck can be finished only if its hands can be played on.** -/
theorem Resting.isPlayable_of_finishes {game : Game} {place : Nat} (rests : game.Resting)
    (attacks : game.AttacksFrom place) (empty : game.deck = []) (finishes : game.Finishes) :
    game.IsPlayable := by
  by_contra unplayable
  obtain ⟨steps, -, result, ends⟩ := finishes
  exact Hopeless.not_endGame attacks (rests.hopeless empty unplayable) steps result ends

/-! ## A dead end between two players -/

/-- Two players cannot play on when one of them has no cards. -/
theorem not_isPlayable_of_pair {game : Game} {first second : String}
    (seats : game.seatIds = [first, second]) (none_ : game.handOf second = []) :
    ¬game.IsPlayable := by
  refine Hands.not_playable_of_apart fun id => ?_
  by_cases isFirst : id = first
  · refine .inr ?_
    have beside : game.nextSeat? first = some second := by
      simp [nextSeat?_eq, seats, List.idxOf?, List.findIdx?_cons]
    rw [isFirst, seatAfter, beside]
    exact none_
  · by_cases isSecond : id = second
    · exact .inl (isSecond ▸ none_)
    · exact .inl (handOf_of_unseated (by simp [seats, isFirst, isSecond]))

/-- A run in which one of two players hands over every card: the player attacks with whatever
there is in the hand, and the other takes it up. -/
def handingOver (cards : List Card) : List Step :=
  .command "a" .ready (.ofUnixSeconds 0) :: .command "b" .ready (.ofUnixSeconds 0) ::
    cards.flatMap fun card => [
      .command "b" (.attack card) (.ofUnixSeconds 0),
      .command "a" .takeAllCards (.ofUnixSeconds 0)]

/-- A dealt game between two players can be played into a dead end: one player holds the whole
pack, the game has not ended, and it cannot be finished any more. -/
theorem duel_can_be_stranded :
    ∃ dealt steps, deal "g" [⟨"a", ""⟩, ⟨"b", ""⟩] ⟨Double.ofInt 30⟩ 7 = .ok dealt ∧
      (∀ step ∈ steps, step.ByPlayerOf dealt) ∧
      (dealt.afterAll steps).started = true ∧
      (∀ result, .endGame result ∉ dealt.emitted steps) ∧
      ¬(dealt.afterAll steps).Finishes := by
  refine ⟨duel, handingOver (duel.handOf "b" ++ duel.deck.reverse), deal_duel, by decide +kernel,
    by decide +kernel, fun result => ?_, ?_⟩
  · have quiet : ∀ result ∈ GameResult.all, .endGame result ∉
        duel.emitted (handingOver (duel.handOf "b" ++ duel.deck.reverse)) := by decide +kernel
    exact quiet result (by cases result <;> decide)
  · have rests : (duel.afterAll
        (handingOver (duel.handOf "b" ++ duel.deck.reverse))).Resting := by
      refine ⟨by decide +kernel, by decide +kernel, fun kind => ?_⟩
      cases kind <;> decide +kernel
    obtain ⟨place, attacks⟩ := attacksFrom_of_deal deal_duel
    exact fun finishes => @not_isPlayable_of_pair _ "a" "b" (by decide +kernel) (by decide +kernel)
      (rests.isPlayable_of_finishes (attacks.afterAll _) (by decide +kernel) finishes)

end Game

end Durak
