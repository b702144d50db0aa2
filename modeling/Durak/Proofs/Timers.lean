import Durak.Proofs.Confinement
import Durak.Proofs.Table
import Mathlib.Data.List.Induction

/-!
# Timers and the table

Three commands start a timer.  The one that starts the game starts the attack timer, and so does a
cover that leaves the attacker to be waited for; an attack starts the defend timer.  Both timers are
stopped when a round is closed, on any of the ways there are, and at no other time.  `TimerMove`
lists what a command can do with the timers, the table and the start of the game, and all that
follows is read off it.

So a timer follows the table (`Coupled`).  The defend timer runs while there are cards on the table,
and the attack timer runs while every card is beaten and there is room for more.  With a clear table
only the attack timer can run, and only until the first round is closed: what runs then was started
by the start of the game.  A timer that runs was started by some step after which no round was
closed (`exists_lastStarted`), so a round that is closed because time has run out is the one in
which the timer was started.
-/

set_option autoImplicit false

namespace Durak

/-- The timer by which an action can close the round: when it has run out. -/
def Action.clock? : Action → Option TimerKind
  | .attack _ | .checkAttackTimer => some .attack
  | .checkDefendTimer => some .defend
  | _ => none

namespace Game

/-- Whether a step is an attack that is accepted. -/
def laysCard (game : Game) : Step → Bool
  | .command userId (.attack card) now =>
    (game.apply userId (.attack card) now).violation == none
  | _ => false

/-- Whether a step starts a timer.  The attack timer is started with the game, and by a cover after
which every card is beaten and there is room for more; the defend timer is started by an attack. -/
def startsTimer (game : Game) (kind : TimerKind) (step : Step) : Bool :=
  match kind, step with
  | .attack, .command userId .ready now =>
    !game.started && (game.apply userId .ready now).game.started
  | .attack, .command userId (.defend target card) now =>
    (game.apply userId (.defend target card) now).violation == none &&
      (game.apply userId (.defend target card) now).game.awaitsAttack
  | .attack, _ => false
  | .defend, step => game.laysCard step

/-- What a command can do with the timers of a game. -/
inductive TimerMove (game : Game) (userId : String) (action : Action) (now : Instant)
    (after : Game) : Prop where
  | stay (goesOn : game.endsRound (.command userId action now) = false)
      (startsNone : ∀ kind, game.startsTimer kind (.command userId action now) = false)
      (timers : ∀ kind, after.timer kind = game.timer kind)
      (table : after.table = game.table) (started : after.started = game.started)
  | start (goesOn : game.endsRound (.command userId action now) = false)
      (starts : ∀ kind, game.startsTimer kind (.command userId action now) = (kind == .attack))
      (attackTimer : after.attackTimer = .startedNow now)
      (defendTimer : after.defendTimer = game.defendTimer)
      (table : after.table = game.table) (waited : game.started = false)
      (started : after.started = true)
  | attack (goesOn : game.endsRound (.command userId action now) = false)
      (starts : ∀ kind, game.startsTimer kind (.command userId action now) = (kind == .defend))
      (attackTimer : after.attackTimer = game.attackTimer)
      (defendTimer : after.defendTimer = .startedNow now)
      (card : Card) (table : after.table = game.table ++ [⟨card, none⟩])
      (started : after.started = true)
  | defend (goesOn : game.endsRound (.command userId action now) = false)
      (starts : ∀ kind, game.startsTimer kind (.command userId action now) =
        (kind == .attack && after.awaitsAttack))
      (attackTimer : after.attackTimer =
        if after.awaitsAttack then .startedNow now else game.attackTimer)
      (defendTimer : after.defendTimer = game.defendTimer)
      (laid : game.table ≠ []) (stillLaid : after.table ≠ []) (started : after.started = true)
  | close (closes : game.endsRound (.command userId action now) = true) (rests : after.Resting)

/-- How the timers of a game go with the rest of it. -/
structure Coupled (game : Game) : Prop where
  timed : ∀ kind, game.timer kind = .stopped ∨ ∃ instant, game.timer kind = .startedNow instant
  waiting : game.started = false → ∀ kind, game.timer kind = .stopped
  defends : game.defendTimer.running = true ↔ game.table ≠ []
  attacks : game.table ≠ [] → game.awaitsAttack = true → game.attackTimer.running = true

/-- A game whose attack timer does not run while the table is clear. -/
structure Settled (game : Game) : Prop where
  started : game.started = true
  idle : game.table = [] → game.attackTimer.running = false

/-- A timer was started by a step of a run at an instant, and since then no step has started it
again or closed the round. -/
def LastStarted (game : Game) (steps : List Step) (kind : TimerKind) (instant : Instant) : Prop :=
  ∃ before userId action later, steps = before ++ .command userId action instant :: later ∧
    (game.afterAll before).startsTimer kind (.command userId action instant) = true ∧
    countSteps (fun game => game.startsTimer kind)
      (game.afterAll (before ++ [.command userId action instant])) later = 0 ∧
    countSteps endsRound (game.afterAll (before ++ [.command userId action instant])) later = 0

/-! ## One command -/

theorem started_of_attackLate {game : Game} {userId : String} {card : Card} {now : Instant}
    (late : game.attackViolation? userId card now = some .attackTimeOver) :
    game.started = true := by
  rcases firstViolation_cons.mp late with first | ⟨passed, -⟩
  · cases (Violation.unless_eq_some.mp first).2
  · exact Violation.unless_eq_none.mp passed

theorem attackTimer_layCover (game : Game) (userId : String) (target card : Card) (now : Instant) :
    (game.layCover userId target card now).attackTimer =
      if (game.layCover userId target card now).awaitsAttack then .startedNow now
      else game.attackTimer := by
  rw [layCover_keeps awaitsAttack fun _ _ _ => rfl]
  unfold layCover
  show Game.attackTimer (if (game.cover target card).awaitsAttack then _ else _) = _
  split <;> rfl

theorem resting_endRound {game : Game} (started : game.started = true) (userId : String) :
    (game.voteEnd userId).endRound.game.Resting := by
  have rests := resting_resolveRound started true
  rw [endRound_voteEnd]
  rcases endRound_game game with same | ⟨result, same⟩ <;> rw [same]
  · exact rests
  · exact rests.pushEvent (.endGame result)

/-- Only a timer that is running can run out. -/
theorem running_of_expired {game : Game} {kind : TimerKind} {now : Instant}
    (expired : game.timerExpired kind now = true) : (game.timer kind).running = true := by
  unfold timerExpired Timer.expired Timer.endsAt? at expired
  cases running : (game.timer kind).running with
  | true => rfl
  | false => simp [running] at expired

/-- A question about a timer starts none. -/
theorem startsTimer_timer (game : Game) {action : Action} {asked : TimerKind}
    (asks : action.timer? = some asked) (userId : String) (now : Instant) (kind : TimerKind) :
    game.startsTimer kind (.command userId action now) = false := by
  cases action <;> cases asks <;> cases kind <;> rfl

/-- A rejected command starts no timer. -/
theorem startsTimer_of_rejected {game : Game} {userId : String} {action : Action} {now : Instant}
    {violation : Violation} (rejected : (game.apply userId action now).violation = some violation)
    (same : (game.apply userId action now).game.started = game.started) (kind : TimerKind) :
    game.startsTimer kind (.command userId action now) = false := by
  cases action <;> cases kind <;> simp [startsTimer, laysCard, rejected, same]

/-- **Every command does one of the five things.** -/
theorem timerMove_apply (game : Game) (userId : String) (action : Action) (now : Instant) :
    game.TimerMove userId action now (game.apply userId action now).game := by
  have effect := apply_effect game userId action now
  generalize verdictIs : (game.apply userId action now).violation = verdict,
    resultIs : (game.apply userId action now).game = result at effect ⊢
  have startedIs := congrArg Game.started resultIs
  cases effect with
  | unregistered | readyAgain | defendRefused | defendLate | endRefused | takeRefused
  | takeUnseated =>
    refine .stay ?_ (startsTimer_of_rejected verdictIs startedIs) (fun kind => ?_) rfl rfl
    · simp [endsRound, closesRound, takesCards, verdictIs]
    · cases kind <;> rfl
  | attackRefused card violation reported other =>
    refine .stay ?_ (startsTimer_of_rejected verdictIs startedIs) (fun _ => rfl) rfl rfl
    simp [endsRound, closesRound, takesCards, verdictIs, other]
  | ready =>
    refine .stay rfl (fun kind => ?_) (fun kind => by cases kind <;> rfl) rfl rfl
    cases kind with
    | attack => simp [startsTimer, startedIs, markReady, pushEvent]
    | defend => rfl
  | start fresh everyone notStarted =>
    refine .start rfl (fun kind => ?_) rfl rfl rfl notStarted rfl
    cases kind with
    | attack =>
      rw [startsTimer, startedIs, notStarted]
      rfl
    | defend => rfl
  | vote permitted waiting =>
    refine .stay ?_ (fun kind => by cases kind <;> rfl) (fun kind => by cases kind <;> rfl) rfl rfl
    simp [endsRound, closesRound, takesCards, waiting]
  | timerRefused kind asks notStarted =>
    refine .stay ?_ (game.startsTimer_timer asks userId now) (fun _ => rfl) rfl rfl
    obtain ⟨closes, takes⟩ := game.closesRound_timer asks userId now
    rw [endsRound, closes, takes, notStarted, Bool.false_and, Bool.false_or]
  | timerShown kind asks started running =>
    refine .stay ?_ (game.startsTimer_timer asks userId now) (fun kind => by cases kind <;> rfl) rfl
      rfl
    obtain ⟨closes, takes⟩ := game.closesRound_timer asks userId now
    rw [endsRound, closes, takes, running, Bool.and_false, Bool.false_or]
  | attack card permitted =>
    refine .attack (endsRound_of_played rfl verdictIs) (fun kind => ?_) rfl rfl card rfl
      permitted.started
    cases kind <;> simp [startsTimer, laysCard, verdictIs]
  | defend target card permitted =>
    obtain ⟨before, later, isOpen, covered⟩ := exists_covered card permitted.open_
    have table := (layCover_keeps table (fun _ _ _ => rfl) (game.withoutCard userId card) userId
      target card now).trans covered
    have begun := layCover_keeps Game.started (fun _ _ _ => rfl) (game.withoutCard userId card)
      userId target card now
    refine .defend (endsRound_of_played rfl verdictIs) (fun kind => ?_)
      (attackTimer_layCover _ userId target card now)
      (layCover_keeps defendTimer (fun _ _ _ => rfl) _ userId target card now)
      (by simp [isOpen]) (by simp [table]) (begun.trans permitted.started)
    cases kind <;> simp [startsTimer, laysCard, verdictIs, resultIs]
  | attackLate card reported =>
    refine .close ?_ (resting_resolveRound (started_of_attackLate reported) true)
    simp [endsRound, closesRound, verdictIs]
  | endRound permitted everyone =>
    refine .close ?_ (resting_endRound permitted.started userId)
    simp [endsRound, closesRound, verdictIs, everyone]
  | take permitted =>
    rw [permitted.defender]
    refine .close ?_ (resting_taken permitted.started)
    simp [endsRound, takesCards, ← permitted.defender, verdictIs]
  | timerClosed kind asks started expired =>
    obtain ⟨closes, -⟩ := game.closesRound_timer asks userId now
    refine .close ?_ ((resting_resolveRound started true).pushEvent _)
    rw [endsRound, closes, started, expired, Bool.and_self, Bool.true_or]

section Command

variable {game : Game} {userId : String} {action : Action} {now : Instant} {after : Game}

/-- **What a command does to a timer.**  It is stopped if the command closes the round; otherwise it
runs from now on if the command starts it, and else it is what it was. -/
theorem TimerMove.timer (move : game.TimerMove userId action now after) (kind : TimerKind) :
    after.timer kind =
      if game.endsRound (.command userId action now) then .stopped
      else if game.startsTimer kind (.command userId action now) then .startedNow now
      else game.timer kind := by
  cases move with
  | stay goesOn startsNone timers =>
    rw [goesOn, startsNone]
    exact timers kind
  | start goesOn starts attackTimer defendTimer =>
    rw [goesOn, starts]
    cases kind
    · exact attackTimer
    · exact defendTimer
  | attack goesOn starts attackTimer defendTimer =>
    rw [goesOn, starts]
    cases kind
    · exact attackTimer
    · exact defendTimer
  | defend goesOn starts attackTimer defendTimer =>
    rw [goesOn, starts]
    cases kind
    · exact attackTimer
    · exact defendTimer
  | close closes rests =>
    rw [closes]
    exact rests.timers kind

/-- A step that closes the round leaves the game at rest. -/
theorem TimerMove.resting (move : game.TimerMove userId action now after)
    (ends : game.endsRound (.command userId action now) = true) : after.Resting := by
  cases move with
  | stay goesOn | start goesOn | attack goesOn | defend goesOn => cases goesOn.symm.trans ends
  | close closes rests => exact rests

/-- Stopped timers go with a clear table. -/
theorem Coupled.of_stopped (timers : ∀ kind, game.timer kind = .stopped)
    (table : game.table = []) : game.Coupled where
  timed kind := .inl (timers kind)
  waiting _ := timers
  defends := by
    have stopped : game.defendTimer = .stopped := timers .defend
    simp [stopped, Timer.stopped, table]
  attacks laid := absurd table laid

/-- Whatever a timer was, a command leaves it stopped, as it was, or started by that command. -/
theorem TimerMove.timed (move : game.TimerMove userId action now after) {kind : TimerKind}
    (timed : game.timer kind = .stopped ∨ ∃ instant, game.timer kind = .startedNow instant) :
    after.timer kind = .stopped ∨ ∃ instant, after.timer kind = .startedNow instant := by
  rw [move.timer kind]
  split
  · exact .inl rfl
  · split
    · exact .inr ⟨now, rfl⟩
    · exact timed

/-- **A command leaves the timers coupled.** -/
theorem TimerMove.coupled (move : game.TimerMove userId action now after)
    (coupled : game.Coupled) : after.Coupled := by
  have timed := fun kind => move.timed (coupled.timed kind)
  cases move with
  | stay goesOn startsNone timers table started =>
    have attackTimer : after.attackTimer = game.attackTimer := timers .attack
    have defendTimer : after.defendTimer = game.defendTimer := timers .defend
    refine ⟨timed, fun waits kind => ?_, ?_, ?_⟩
    · rw [timers kind]
      exact coupled.waiting (started ▸ waits) kind
    · rw [defendTimer, table]
      exact coupled.defends
    · rw [attackTimer, table, awaitsAttack, table]
      exact coupled.attacks
  | start goesOn starts attackTimer defendTimer table waited started =>
    refine ⟨timed, fun waits => ?_, ?_, fun _ _ => ?_⟩
    · cases started.symm.trans waits
    · rw [defendTimer, table]
      exact coupled.defends
    · rw [attackTimer]
      rfl
  | attack goesOn starts attackTimer defendTimer card table started =>
    refine ⟨timed, fun waits => ?_, ?_, fun _ awaits => ?_⟩
    · cases started.symm.trans waits
    · rw [defendTimer, table]
      exact iff_of_true rfl (by simp)
    · -- the card that has just been laid is open
      simp [awaitsAttack, table, TableEntry.isBeaten] at awaits
  | defend goesOn starts attackTimer defendTimer laid stillLaid started =>
    refine ⟨timed, fun waits => ?_, ?_, fun _ awaits => ?_⟩
    · cases started.symm.trans waits
    · rw [defendTimer]
      exact iff_of_true (coupled.defends.mpr laid) stillLaid
    · rw [attackTimer, if_pos awaits]
      rfl
  | close closes rests => exact .of_stopped rests.timers rests.table

theorem Settled.of_resting (rests : game.Resting) : game.Settled :=
  ⟨rests.started, fun _ => by rw [show game.attackTimer = .stopped from rests.timers .attack]; rfl⟩

theorem TimerMove.settled (move : game.TimerMove userId action now after)
    (settled : game.Settled) : after.Settled := by
  cases move with
  | stay goesOn startsNone timers table started =>
    have attackTimer : after.attackTimer = game.attackTimer := timers .attack
    refine ⟨started.trans settled.started, ?_⟩
    rw [table, attackTimer]
    exact settled.idle
  | start goesOn starts attackTimer defendTimer table waited =>
    cases settled.started.symm.trans waited
  | attack goesOn starts attackTimer defendTimer card table started =>
    exact ⟨started, fun clear => by simp [table] at clear⟩
  | defend goesOn starts attackTimer defendTimer laid stillLaid started =>
    exact ⟨started, fun clear => absurd clear stillLaid⟩
  | close closes rests => exact .of_resting rests

end Command

/-! ## Runs -/

variable {game : Game} {steps : List Step} {kind : TimerKind}

theorem timer_withoutEvents (game : Game) (kind : TimerKind) :
    game.withoutEvents.timer kind = game.timer kind := by cases kind <;> rfl

theorem Coupled.withoutEvents (coupled : game.Coupled) : game.withoutEvents.Coupled := by
  refine ⟨fun kind => ?_, fun waits kind => ?_, coupled.defends, coupled.attacks⟩
  · rw [timer_withoutEvents]
    exact coupled.timed kind
  · rw [timer_withoutEvents]
    exact coupled.waiting waits kind

/-- Along a run the timers stay coupled. -/
theorem Coupled.afterAll (coupled : game.Coupled) (steps : List Step) :
    (game.afterAll steps).Coupled :=
  invariant_afterAll (fun game step kept => by
    cases step with
    | command userId action now => exact (game.timerMove_apply userId action now).coupled kept
    | handOut => exact kept.withoutEvents) coupled steps

/-- No timer runs in a game that has just been dealt. -/
theorem timer_of_deal {id : String} {entrants : List Entrant} {settings : Settings} {seed : UInt64}
    {dealt : Game} (isDealt : deal id entrants settings seed = .ok dealt) (kind : TimerKind) :
    dealt.timer kind = .stopped := by
  obtain ⟨-, trump, order, attackerSeat, -, -, rfl⟩ := deal_eq_ok isDealt
  cases kind <;> rfl

theorem Coupled.of_deal {id : String} {entrants : List Entrant} {settings : Settings}
    {seed : UInt64} {dealt : Game} (isDealt : deal id entrants settings seed = .ok dealt) :
    dealt.Coupled := by
  refine .of_stopped (timer_of_deal isDealt) ?_
  obtain ⟨-, trump, order, attackerSeat, -, -, rfl⟩ := deal_eq_ok isDealt
  rfl

theorem countSteps_append_singleton (counted : Game → Step → Bool) (game : Game)
    (steps : List Step) (step : Step) :
    countSteps counted game (steps ++ [step]) =
      countSteps counted game steps + (counted (game.afterAll steps) step).toNat :=
  countSteps_append counted game steps [step]

theorem afterAll_append_singleton (game : Game) (steps : List Step) (step : Step) :
    game.afterAll (steps ++ [step]) = (game.afterAll steps).after step :=
  afterAll_append game steps [step]

/-- Once a round has been closed, the attack timer runs only while there are cards on the table. -/
theorem settled_afterAll (closed : countSteps endsRound game steps ≠ 0) :
    (game.afterAll steps).Settled := by
  induction steps using List.reverseRecOn with
  | nil => exact absurd rfl closed
  | append_singleton steps step hypothesis =>
    rw [countSteps_append_singleton] at closed
    rw [afterAll_append_singleton]
    cases step with
    | handOut =>
      obtain ⟨started, idle⟩ := hypothesis closed
      exact ⟨started, idle⟩
    | command userId action now =>
      have move := (game.afterAll steps).timerMove_apply userId action now
      cases ends : (game.afterAll steps).endsRound (.command userId action now) with
      | true => exact .of_resting (move.resting ends)
      | false =>
        rw [ends] at closed
        exact move.settled (hypothesis closed)

/-- A step that neither starts a timer nor closes the round leaves the last start of it the last. -/
theorem LastStarted.append {instant : Instant} (last : game.LastStarted steps kind instant)
    {step : Step} (startsNone : (game.afterAll steps).startsTimer kind step = false)
    (goesOn : (game.afterAll steps).endsRound step = false) :
    game.LastStarted (steps ++ [step]) kind instant := by
  obtain ⟨before, userId, action, later, rfl, starts, notAgain, notClosed⟩ := last
  have upTo : game.afterAll (before ++ .command userId action instant :: later) =
      (game.afterAll (before ++ [.command userId action instant])).afterAll later := by
    rw [← afterAll_append, List.append_assoc, List.singleton_append]
  rw [upTo] at startsNone goesOn
  refine ⟨before, userId, action, later ++ [step], by simp, starts, ?_, ?_⟩
  · rw [countSteps_append_singleton, notAgain, startsNone]
    rfl
  · rw [countSteps_append_singleton, notClosed, goesOn]
    rfl

/-- **A timer that runs was started by some step, after which no round has been closed.** -/
theorem exists_lastStarted (idle : game.timer kind = .stopped) (steps : List Step) :
    (game.afterAll steps).timer kind = .stopped ∨ ∃ instant,
      game.LastStarted steps kind instant ∧
        (game.afterAll steps).timer kind = .startedNow instant := by
  induction steps using List.reverseRecOn with
  | nil => exact .inl idle
  | append_singleton steps step hypothesis =>
    rw [afterAll_append_singleton]
    cases step with
    | handOut =>
      rw [after, timer_withoutEvents]
      refine hypothesis.imp_right fun ⟨instant, last, timer⟩ => ⟨instant, last.append ?_ rfl, timer⟩
      cases kind <;> rfl
    | command userId action now =>
      have timer := ((game.afterAll steps).timerMove_apply userId action now).timer kind
      rw [after]
      cases ends : (game.afterAll steps).endsRound (.command userId action now) with
      | true =>
        rw [ends, if_pos rfl] at timer
        exact .inl timer
      | false =>
        cases starts : (game.afterAll steps).startsTimer kind (.command userId action now) with
        | true =>
          rw [ends, starts, if_neg Bool.false_ne_true, if_pos rfl] at timer
          exact .inr ⟨now, ⟨steps, userId, action, [], rfl, starts, rfl, rfl⟩, timer⟩
        | false =>
          rw [ends, starts, if_neg Bool.false_ne_true, if_neg Bool.false_ne_true] at timer
          rw [timer]
          exact hypothesis.imp_right fun ⟨instant, last, same⟩ =>
            ⟨instant, last.append starts ends, same⟩

/-- An action that goes by a timer closes the round only if that timer has run out. -/
theorem expired_of_endsRound {userId : String} {action : Action} {now : Instant}
    (ends : game.endsRound (.command userId action now) = true)
    (byTimer : action.clock? = some kind) : game.timerExpired kind now = true := by
  cases action with
  | attack card =>
    cases byTimer
    have late : (game.apply userId (.attack card) now).violation = some .attackTimeOver := by
      simpa [endsRound, closesRound, takesCards] using ends
    have effect := attack_effect game userId card now
    rw [show (game.attack userId card now).violation = _ from late] at effect
    generalize (game.attack userId card now).game = result at effect
    cases effect with
    | attackRefused _ _ _ other => exact absurd rfl other
    | attackLate _ reported => exact expired_of_attackLate reported
  | checkAttackTimer | checkDefendTimer =>
    cases byTimer
    simp only [endsRound, closesRound, takesCards, Bool.or_false, Bool.and_eq_true] at ends
    exact ends.2
  | _ => cases byTimer

/-- The card that was laid last started the defend timer. -/
theorem LastStarted.attack {instant : Instant} (last : game.LastStarted steps .defend instant) :
    ∃ before userId card later, steps = before ++ .command userId (.attack card) instant :: later ∧
      ((game.afterAll before).apply userId (.attack card) instant).violation = none ∧
      countSteps laysCard (game.afterAll (before ++ [.command userId (.attack card) instant]))
        later = 0 := by
  obtain ⟨before, userId, action, later, split, starts, notAgain, -⟩ := last
  cases action with
  | attack card =>
    have accepted : ((game.afterAll before).apply userId (.attack card) instant).violation = none :=
      eq_of_beq starts
    exact ⟨before, userId, card, later, split, accepted, notAgain⟩
  | _ => cases starts

/-- When no timer runs, one that runs later has been started in between. -/
theorem exists_lastStarted_of_running (idle : game.timer kind = .stopped)
    (running : ((game.afterAll steps).timer kind).running = true) :
    ∃ instant, game.LastStarted steps kind instant ∧
      ((game.afterAll steps).timer kind).startedAt = some instant := by
  rcases exists_lastStarted idle steps with stopped | ⟨instant, last, started⟩
  · rw [stopped] at running
    cases running
  · exact ⟨instant, last, congrArg Timer.startedAt started⟩

/-- Whatever closes the round leaves every timer stopped. -/
theorem timer_after_of_endsRound {closing : Step} (ends : game.endsRound closing = true)
    (kind : TimerKind) : (game.after closing).timer kind = .stopped := by
  cases closing with
  | command userId action now =>
    exact ((game.timerMove_apply userId action now).resting ends).timers kind
  | handOut => cases ends

/-- **The timers follow the table.**  In every game that a run from a deal reaches, whatever the
clocks show, a timer is running exactly when it has a start, and before the game is started none
is.  The defend timer is running exactly while there are cards on the table, and was started by the
last attack that was accepted.  When all cards on the table are beaten and there is room for more,
the attack timer is running; with a clear table it is running only if no round has been closed yet.

Whenever a round is closed both timers are stopped.  So a timer that is running later was started
after that, and if its time having run out closes a round, then it was started in that round. -/
theorem timers_follow_the_table {id : String} {entrants : List Entrant} {settings : Settings}
    {seed : UInt64} {dealt : Game} (isDealt : deal id entrants settings seed = .ok dealt)
    (steps : List Step) :
    let game := dealt.afterAll steps
    (∀ kind, (game.timer kind).running = (game.timer kind).startedAt.isSome) ∧
    (game.started = false → ∀ kind, game.timer kind = .stopped) ∧
    (game.defendTimer.running = true ↔ game.table ≠ []) ∧
    (game.table ≠ [] → ∃ before userId card instant later,
      steps = before ++ .command userId (.attack card) instant :: later ∧
      ((dealt.afterAll before).apply userId (.attack card) instant).violation = none ∧
      countSteps laysCard (dealt.afterAll (before ++ [.command userId (.attack card) instant]))
        later = 0 ∧
      game.defendTimer.startedAt = some instant) ∧
    (game.table ≠ [] → (∀ entry ∈ game.table, entry.isBeaten = true) →
      game.table.length < tableLimit → game.attackTimer.running = true) ∧
    (game.attackTimer.running = true → game.table = [] → countSteps endsRound dealt steps = 0) ∧
    ∀ before closing later, steps = before ++ closing :: later →
      (dealt.afterAll before).endsRound closing = true →
      (∀ kind, (dealt.afterAll (before ++ [closing])).timer kind = .stopped) ∧
      (∀ kind, (game.timer kind).running = true → ∃ instant,
        (dealt.afterAll (before ++ [closing])).LastStarted later kind instant ∧
          (game.timer kind).startedAt = some instant) ∧
      ∀ userId action now kind, game.endsRound (.command userId action now) = true →
        action.clock? = some kind → game.timerExpired kind now = true ∧ ∃ instant,
          (dealt.afterAll (before ++ [closing])).LastStarted later kind instant ∧
            (game.timer kind).startedAt = some instant := by
  intro game
  have coupled : game.Coupled := (Coupled.of_deal isDealt).afterAll steps
  refine ⟨fun kind => ?_, coupled.waiting, coupled.defends, fun laid => ?_,
    fun laid beaten room => ?_, fun running clear => ?_, fun before closing later split ends => ?_⟩
  · rcases coupled.timed kind with stopped | ⟨instant, started⟩
    · rw [stopped]
      rfl
    · rw [started]
      rfl
  · obtain ⟨instant, last, startedAt⟩ :=
      exists_lastStarted_of_running (timer_of_deal isDealt .defend) (coupled.defends.mpr laid)
    obtain ⟨before, userId, card, later, split, accepted, notAgain⟩ := last.attack
    exact ⟨before, userId, card, instant, later, split, accepted, notAgain, startedAt⟩
  · refine coupled.attacks laid ?_
    rw [awaitsAttack, List.all_eq_true.mpr beaten, decide_eq_true room, Bool.and_self]
  · by_contra closed
    cases running.symm.trans ((settled_afterAll closed).idle clear)
  · have reached : game = (dealt.afterAll (before ++ [closing])).afterAll later := by
      rw [← afterAll_append, List.append_assoc, List.singleton_append, ← split]
    have idle : ∀ kind, (dealt.afterAll (before ++ [closing])).timer kind = .stopped := by
      rw [afterAll_append_singleton]
      exact timer_after_of_endsRound ends
    clear_value game
    subst reached
    exact ⟨idle, fun kind => exists_lastStarted_of_running (idle kind),
      fun userId action now kind endsAgain byTimer =>
        have expired := expired_of_endsRound endsAgain byTimer
        ⟨expired, exists_lastStarted_of_running (idle kind) (running_of_expired expired)⟩⟩

/-- A step that closes the first round between three players, by the last vote. -/
def lastVote : Step := .command "c" .endAttack (.ofUnixSeconds 4)

/-- What comes before it. -/
def firstRound : List Step := [
  .command "a" .ready (.ofUnixSeconds 0), .command "b" .ready (.ofUnixSeconds 0),
  .command "c" .ready (.ofUnixSeconds 0),
  .command "a" (.attack ⟨.diamonds, .six⟩) (.ofUnixSeconds 1),
  .command "b" (.defend ⟨.diamonds, .six⟩ ⟨.diamonds, .ten⟩) (.ofUnixSeconds 2), .handOut,
  .command "a" .endAttack (.ofUnixSeconds 3)]

/-- What comes after it: the next attacker lays a card. -/
def secondAttack : List Step := [.command "b" (.attack ⟨.spades, .six⟩) (.ofUnixSeconds 9)]

/-- The defend timer runs since the second attack; nothing is left of what the first round
started. -/
theorem timers_follow_the_table_into_a_second_round :
    deal "g" [⟨"a", ""⟩, ⟨"b", ""⟩, ⟨"c", ""⟩] ⟨Double.ofInt 30⟩ 0 = .ok trio ∧
      let closed := trio.afterAll (firstRound ++ [lastVote])
      let game := trio.afterAll (firstRound ++ lastVote :: secondAttack)
      (∀ kind, closed.timer kind = .stopped) ∧ game.defendTimer.running = true ∧
        ∃ instant, closed.LastStarted secondAttack .defend instant ∧
          game.defendTimer.startedAt = some instant := by
  refine ⟨deal_trio, ?_⟩
  obtain ⟨-, -, defends, -, -, -, rounds⟩ :=
    timers_follow_the_table deal_trio (firstRound ++ lastVote :: secondAttack)
  obtain ⟨idle, startedAfter, -⟩ := rounds firstRound lastVote secondAttack rfl (by decide +kernel)
  have running := defends.mpr (by decide +kernel)
  have started := startedAfter .defend
  simp only [timer] at started
  exact ⟨idle, running, started running⟩

end Game

end Durak
