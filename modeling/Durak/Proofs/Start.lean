import Durak.Proofs.Advance
import Durak.Proofs.Timers
import Durak.Proofs.Voting

/-!
# How a game starts

A dealt game waits until all its players have said to be ready.  Each handler has a guard of its own
that rejects whatever else is asked before that, but what they amount to is a single fact, `Waits`:
in a game that has not been started, a command is rejected and changes nothing, or it is the first
time that a user gets ready, and then the game is started exactly if there is nobody left to wait
for.

So along a run the flag and the votes stay in step, and until the start nothing but the votes has
changed since the deal (`Gathers`).  The last player to get ready opens the game (`Opens`): the
start is told right after that, and once, and the game that then begins is decided by the deal and
the clock alone, whatever the order in which the players got ready and whatever was rejected in
between (`start_waits_for_everybody`).
-/

set_option autoImplicit false

namespace Durak

/-- Whether an event tells the start of the game. -/
def Event.isStart (event : Event) : Bool := event.kind == .start

theorem Voters.mem_ofList {ids : List String} {id : String} :
    id ∈ Voters.ofList ids ↔ id ∈ ids := by
  have members : id ∈ Voters.none.insertAll ids ↔ id ∈ Voters.none ∨ id ∈ ids := mem_insertAll
  exact members.trans (or_iff_right List.not_mem_nil)

namespace Game

theorem everyoneReady_iff {game : Game} :
    game.everyoneReady = true ↔ ∀ id ∈ game.seatIds, id ∈ game.readyVotes := by
  simp [everyoneReady, seatIds, Voters.contains_iff]

/-! ## Who is ready -/

/-- Nothing but getting ready changes who is ready. -/
theorem readyVotes_apply_of_ne (game : Game) (userId : String) {action : Action} (now : Instant)
    (other : action ≠ .ready) :
    (game.apply userId action now).game.readyVotes = game.readyVotes := by
  have effect := apply_effect game userId action now
  have closed : ∀ game : Game, ∀ switch, (game.resolveRound switch).readyVotes = game.readyVotes :=
    filled_keeps readyVotes fun _ _ _ _ _ => rfl
  generalize (game.apply userId action now).violation = verdict,
    (game.apply userId action now).game = result at effect ⊢
  cases effect with
  | unregistered | attackRefused | defendRefused | endRefused | takeRefused | takeUnseated
  | timerRefused => rfl
  | attack | defendLate | vote | timerShown => rfl
  | readyAgain | ready | start => exact absurd rfl other
  | attackLate | timerClosed => exact closed game true
  | defend target card =>
    exact layCover_keeps readyVotes (fun _ _ _ => rfl) _ userId target card now
  | endRound => exact (endRound_keeps readyVotes (fun _ _ => rfl) _).trans (closed _ true)
  | take => exact (passOver_keeps readyVotes (fun _ _ _ => rfl) _ userId).trans (closed _ false)

/-- After asking for it a user is ready, whether or not the user was ready before. -/
theorem mem_readyVotes_ready (game : Game) (userId : String) (now : Instant) {id : String} :
    id ∈ (game.apply userId .ready now).game.readyVotes ↔ id = userId ∨ id ∈ game.readyVotes := by
  have effect := apply_effect game userId .ready now
  generalize (game.apply userId .ready now).violation = verdict,
    (game.apply userId .ready now).game = result at effect ⊢
  cases effect with
  | readyAgain already => exact (or_iff_right_of_imp fun same => same ▸ already).symm
  | ready | start => exact Voters.mem_insert
  | timerRefused kind asks | timerClosed kind asks | timerShown kind asks => cases asks

theorem mem_readyVotes_after {game : Game} {step : Step} {id : String} :
    id ∈ (game.after step).readyVotes ↔
      id ∈ game.readyVotes ∨ ∃ now, step = .command id .ready now := by
  cases step with
  | handOut => exact (or_iff_left fun ⟨_, same⟩ => Step.noConfusion same).symm
  | command userId action now =>
    by_cases gets : action = .ready
    · subst gets
      refine (mem_readyVotes_ready game userId now).trans (or_comm.trans (or_congr_right ?_))
      exact ⟨fun same => ⟨now, same ▸ rfl⟩, fun ⟨_, same⟩ => by cases same; rfl⟩
    · have asksElse : ¬∃ now', Step.command userId action now = .command id .ready now' := by
        rintro ⟨_, same⟩
        cases same
        exact gets rfl
      show id ∈ (game.apply userId action now).game.readyVotes ↔ _
      rw [readyVotes_apply_of_ne game userId now gets, or_iff_left asksElse]

/-- **Those are ready who were, and who have asked for it since.** -/
theorem mem_readyVotes_afterAll {game : Game} {steps : List Step} {id : String} :
    id ∈ (game.afterAll steps).readyVotes ↔
      id ∈ game.readyVotes ∨ ∃ now, Step.command id .ready now ∈ steps := by
  induction steps generalizing game with
  | nil => simp
  | cons step steps hypothesis =>
    rw [afterAll_cons, hypothesis, mem_readyVotes_after, or_assoc]
    refine or_congr_right ⟨?_, ?_⟩
    · rintro (⟨now, rfl⟩ | ⟨now, later⟩)
      · exact ⟨now, List.mem_cons_self⟩
      · exact ⟨now, List.mem_cons_of_mem _ later⟩
    · rintro ⟨now, member⟩
      rcases List.mem_cons.mp member with same | later
      · exact .inl ⟨now, same.symm⟩
      · exact .inr ⟨now, later⟩

/-! ## A game that has not been started -/

/-- What an action can do to a game that has not been started. -/
inductive Waits (game : Game) (userId : String) (now : Instant) :
    Action → Option Violation → Game → Prop where
  | refused (action : Action) (violation : Violation) :
      Waits game userId now action (some violation) game
  | ready (fresh : userId ∉ game.readyVotes)
      (waiting : (game.markReady userId).everyoneReady = false) :
      Waits game userId now .ready none (game.markReady userId)
  | start (fresh : userId ∉ game.readyVotes)
      (everyone : (game.markReady userId).everyoneReady = true) :
      Waits game userId now .ready none ((game.markReady userId).start now)

/-- **Before the start nothing is accepted but getting ready.** -/
theorem waits_apply {game : Game} (notStarted : game.started = false) (userId : String)
    (action : Action) (now : Instant) :
    game.Waits userId now action (game.apply userId action now).violation
      (game.apply userId action now).game := by
  have never : game.started ≠ true := Bool.eq_false_iff.mp notStarted
  have effect := apply_effect game userId action now
  generalize (game.apply userId action now).violation = verdict,
    (game.apply userId action now).game = result at effect ⊢
  cases effect with
  | unregistered | readyAgain | attackRefused | defendRefused | endRefused | takeRefused
  | takeUnseated | timerRefused => exact .refused _ _
  | ready fresh waiting => exact .ready fresh (waiting.resolve_right never)
  | start fresh everyone => exact .start fresh everyone
  | attackLate card reported => exact absurd (started_of_attackLate reported) never
  | defendLate target card reported =>
    -- that the game has been started is checked before the clock
    simp [defendViolation?, firstViolation, Check.gameStarted, Violation.unless, notStarted]
      at reported
  | attack card permitted => exact absurd permitted.started never
  | defend target card permitted => exact absurd permitted.started never
  | vote permitted | endRound permitted => exact absurd permitted.started never
  | take permitted => exact absurd permitted.started never
  | timerClosed kind asks started | timerShown kind asks started => exact absurd started never

theorem Waits.accepted {game result : Game} {userId : String} {now : Instant} {action : Action}
    {verdict : Option Violation} (waits : game.Waits userId now action verdict result) :
    (verdict = none → action = .ready ∧ userId ∉ game.readyVotes) ∧
      (verdict ≠ none → result = game) := by
  cases waits with
  | refused => exact ⟨nofun, fun _ => rfl⟩
  | ready fresh | start fresh => exact ⟨fun _ => ⟨rfl, fresh⟩, fun rejected => absurd rfl rejected⟩

/-! ## From the deal to the start -/

/-- A game that still waits for players: as it was dealt, but for who is ready and what there is to
tell. -/
def waiting (dealt : Game) (readyVotes : Voters) (events : List Event) : Game :=
  { dealt with readyVotes, events }

/-- The game that begins when everybody has got ready. -/
def begun (dealt : Game) (now : Instant) : Game :=
  { dealt with
    readyVotes := .ofList dealt.seatIds
    started := true
    attackTimer := .startedNow now
    events := [] }

/-- A game has been started exactly if everybody is ready, and before that it is the dealt one. -/
structure Gathers (dealt game : Game) : Prop where
  inStep : game.started = game.everyoneReady
  frozen : game.started = false → ∃ readyVotes events, game = dealt.waiting readyVotes events

/-- A game is opened by a user: everybody else is ready, and when the user gets ready too, that and
right after it the start is told, and the game begins. -/
structure Opens (dealt game : Game) (userId : String) (now : Instant) : Prop where
  waits : game.started = false
  others : ∀ id ∈ dealt.seatIds, id ∈ game.readyVotes ↔ id ≠ userId
  told : game.emittedBy (.command userId .ready now) =
    [.ready userId, .start dealt.attackerId dealt.defenderId dealt.trump]
  begins : (game.after (.command userId .ready now)).withoutEvents = dealt.begun now

namespace Gathers

variable {dealt game : Game}

/-- **No command lets votes and start come apart, and none but getting ready changes anything
before the start.** -/
theorem apply (gathers : dealt.Gathers game) (userId : String) (action : Action) (now : Instant) :
    dealt.Gathers (game.apply userId action now).game := by
  cases begun : game.started with
  | true =>
    have advances := advances_apply game userId action now
    have started := advances.started begun
    have everyone := everyoneReady_iff.mp (gathers.inStep.symm.trans begun)
    have still : (game.apply userId action now).game.everyoneReady = true := by
      refine everyoneReady_iff.mpr fun id seated => advances.ready id (everyone id ?_)
      rwa [seatIds_eq_of_terms advances.terms] at seated
    exact ⟨started.trans still.symm, fun not_ => Bool.noConfusion (started.symm.trans not_)⟩
  | false =>
    have waits := waits_apply begun userId action now
    generalize (game.apply userId action now).violation = verdict,
      (game.apply userId action now).game = result at waits ⊢
    cases waits with
    | refused => exact gathers
    | ready fresh waiting =>
      obtain ⟨readyVotes, events, rfl⟩ := gathers.frozen begun
      exact ⟨begun.trans waiting.symm, fun _ => ⟨_, _, rfl⟩⟩
    | start fresh everyone => exact ⟨everyone.symm, fun not_ => Bool.noConfusion not_⟩

theorem afterAll (gathers : dealt.Gathers game) (steps : List Step) :
    dealt.Gathers (game.afterAll steps) :=
  invariant_afterAll (fun game step kept => by
    cases step with
    | command userId action now => exact kept.apply userId action now
    | handOut =>
      refine ⟨kept.inStep, fun notStarted => ?_⟩
      obtain ⟨readyVotes, events, rfl⟩ := kept.frozen notStarted
      exact ⟨readyVotes, [], rfl⟩) gathers steps

/-- A dealt game waits for at least one player. -/
theorem of_deal {id : String} {entrants : List Entrant} {settings : Settings} {seed : UInt64}
    (isDealt : deal id entrants settings seed = .ok dealt) : dealt.Gathers dealt := by
  obtain ⟨place, attacks⟩ := attacksFrom_of_deal isDealt
  have seated := attacks.attacker_mem
  obtain ⟨-, trump, order, attackerSeat, -, -, rfl⟩ := deal_eq_ok isDealt
  refine ⟨(Bool.eq_false_iff.mpr fun everyone => ?_).symm, fun _ => ⟨_, _, rfl⟩⟩
  exact List.not_mem_nil (everyoneReady_iff.mp everyone _ seated)

/-- **The game that begins is decided by the deal and the clock.** -/
theorem withoutEvents_start (gathers : dealt.Gathers game) (notStarted : game.started = false)
    {userId : String} (seated : ∀ id, id ∈ game.readyVotes.insert userId → id ∈ dealt.seatIds)
    (everyone : (game.markReady userId).everyoneReady = true) (now : Instant) :
    ((game.markReady userId).start now).withoutEvents = dealt.begun now := by
  obtain ⟨readyVotes, events, rfl⟩ := gathers.frozen notStarted
  have all : readyVotes.insert userId = .ofList dealt.seatIds := by
    refine Voters.ext_mem fun id => ?_
    rw [Voters.mem_ofList]
    exact ⟨seated id, everyoneReady_iff.mp everyone id⟩
  exact congrArg (fun readyVotes : Voters =>
    { dealt with readyVotes, started := true, attackTimer := .startedNow now, events := [] }) all

/-- **The last player to get ready opens the game.** -/
theorem opens (gathers : dealt.Gathers game) (notStarted : game.started = false) {userId : String}
    {now : Instant} (fresh : userId ∉ game.readyVotes)
    (everyone : (game.markReady userId).everyoneReady = true)
    (becomes : (game.apply userId .ready now).game = (game.markReady userId).start now)
    (seated : ∀ id, id ∈ game.readyVotes.insert userId → id ∈ dealt.seatIds) :
    dealt.Opens game userId now where
  waits := notStarted
  others id member := by
    obtain ⟨readyVotes, events, rfl⟩ := gathers.frozen notStarted
    have ready := Voters.mem_insert.mp (everyoneReady_iff.mp everyone id member)
    exact ⟨fun already same => fresh (same ▸ already), ready.resolve_left⟩
  told := by
    refine occurred_of_append ?_
    rw [becomes]
    obtain ⟨readyVotes, events, rfl⟩ := gathers.frozen notStarted
    exact List.append_assoc events _ _
  begins := by
    show (game.apply userId .ready now).game.withoutEvents = _
    rw [becomes]
    exact gathers.withoutEvents_start notStarted seated everyone now

end Gathers

/-! ## The start is told -/

/-- No command tells the start of a game that has been started. -/
theorem isStart_eq_false_of_occurred {game : Game} (started : game.started = true) {userId : String}
    {action : Action} {now : Instant} {event : Event}
    (occurs : event ∈ game.occurred userId action now) : event.isStart = false := by
  have effect := apply_effect game userId action now
  have untold : ∀ events, (game.apply userId action now).game.events = game.events ++ events →
      events.any Event.isStart = false → event.isStart = false := by
    intro events appended others
    rw [occurred_of_append appended] at occurs
    exact Bool.eq_false_iff.mpr (List.any_eq_false.mp others event occurs)
  generalize (game.apply userId action now).violation = verdict,
    (game.apply userId action now).game = after at effect untold
  cases effect with
  | unregistered | readyAgain | attackRefused | defendRefused | endRefused | takeRefused
  | takeUnseated | timerRefused | vote => exact untold [] (List.append_nil _).symm rfl
  | ready => exact untold [.ready userId] rfl rfl
  | start fresh everyone notStarted => exact Bool.noConfusion (started.symm.trans notStarted)
  | attackLate => exact untold [.endAttack] (events_resolveRound game true) rfl
  | attack card => exact untold [.attack card userId] rfl rfl
  | defendLate => exact untold [.endAttack] rfl rfl
  | defend target card =>
    exact untold [.defend target card userId] (events_layCover _ _ _ _ _) rfl
  | endRound =>
    refine untold _ (events_endRound (game.voteEnd userId)) ?_
    cases ((game.voteEnd userId).resolveRound true).evaluateEnd? _ _ <;> rfl
  | take =>
    refine untold [.takeAllCards userId, .endAttack] ?_ rfl
    rw [events_passOver, events_resolveRound]
    exact List.append_assoc _ _ _
  | timerClosed kind =>
    obtain ⟨completed, endsAt, announced⟩ := exists_announced (game.resolveRound true) kind
    refine untold [.endAttack, .timerState kind completed endsAt] ?_ rfl
    rw [announced, pushEvent, events_resolveRound, List.append_assoc, List.singleton_append]
  | timerShown kind => exact untold [_] rfl rfl

/-- What is told of the start along a run from a game that has been started: nothing. -/
theorem filter_emitted_of_started {game : Game} (started : game.started = true)
    (steps : List Step) : (game.emitted steps).filter Event.isStart = [] := by
  refine List.filter_eq_nil_iff.mpr fun event told => ?_
  obtain ⟨before, step, later, -, there⟩ := exists_step_of_emitted told
  rw [Bool.not_eq_true]
  cases step with
  | command => exact isStart_eq_false_of_occurred (started_afterAll started before) there
  | handOut => exact absurd there List.not_mem_nil

/-- **The start is told once if the game has been started, and otherwise not.** -/
theorem filter_emitted {game : Game} (notStarted : game.started = false) (steps : List Step) :
    (game.emitted steps).filter Event.isStart =
      if (game.afterAll steps).started then
        [.start game.attackerId game.defenderId game.trump]
      else [] := by
  induction steps generalizing game with
  | nil => rw [afterAll_nil, notStarted]; rfl
  | cons step steps hypothesis =>
    rw [emitted, List.filter_append, afterAll_cons]
    cases step with
    | handOut => exact hypothesis notStarted
    | command userId action now =>
      have waits := waits_apply notStarted userId action now
      have told : ∀ events,
          (game.apply userId action now).game.events = game.events ++ events →
            game.emittedBy (.command userId action now) = events := fun _ => occurred_of_append
      rw [show game.after (.command userId action now) = (game.apply userId action now).game
        from rfl]
      generalize (game.apply userId action now).violation = verdict,
        (game.apply userId action now).game = result at waits told ⊢
      cases waits with
      | refused =>
        rw [told [] (List.append_nil _).symm]
        exact hypothesis notStarted
      | ready =>
        rw [told [.ready userId] rfl]
        exact hypothesis notStarted
      | start =>
        rw [told [.ready userId, .start game.attackerId game.defenderId game.trump]
            (List.append_assoc _ _ _), filter_emitted_of_started rfl steps,
          started_afterAll rfl steps]
        rfl

/-- A game that is started along a run is started by a user who gets ready, and is the last to. -/
theorem exists_last_ready {game : Game} (notStarted : game.started = false) {steps : List Step}
    (started : (game.afterAll steps).started = true) :
    ∃ before userId now later, steps = before ++ .command userId .ready now :: later ∧
      let current := game.afterAll before
      current.started = false ∧ userId ∉ current.readyVotes ∧
        (current.markReady userId).everyoneReady = true ∧
          (current.apply userId .ready now).game = (current.markReady userId).start now := by
  induction steps generalizing game with
  | nil => exact Bool.noConfusion (notStarted.symm.trans started)
  | cons step steps hypothesis =>
    cases already : (game.after step).started with
    | false =>
      obtain ⟨before, userId, now, later, rfl, last⟩ := hypothesis already started
      exact ⟨step :: before, userId, now, later, rfl, last⟩
    | true =>
      cases step with
      | handOut => exact Bool.noConfusion (notStarted.symm.trans already)
      | command userId action now =>
        have waits := waits_apply notStarted userId action now
        have begun : (game.apply userId action now).game.started = true := already
        generalize (game.apply userId action now).violation = verdict,
          isResult : (game.apply userId action now).game = result at waits begun
        cases waits with
        | refused | ready => exact Bool.noConfusion (notStarted.symm.trans begun)
        | start fresh everyone =>
          exact ⟨[], userId, now, steps, rfl, notStarted, fresh, everyone, isResult⟩

/-! ## Runs from a deal -/

section Dealt

variable {id : String} {entrants : List Entrant} {settings : Settings} {seed : UInt64}
  {dealt : Game} {steps : List Step}

theorem started_of_deal (isDealt : deal id entrants settings seed = .ok dealt) :
    dealt.started = false := by
  obtain ⟨-, trump, order, attackerSeat, -, -, rfl⟩ := deal_eq_ok isDealt
  rfl

theorem mem_readyVotes_of_deal (isDealt : deal id entrants settings seed = .ok dealt)
    (steps : List Step) (userId : String) : userId ∈ (dealt.afterAll steps).readyVotes ↔
      ∃ now, Step.command userId .ready now ∈ steps := by
  have nobody : userId ∉ dealt.readyVotes := by
    obtain ⟨-, trump, order, attackerSeat, -, -, rfl⟩ := deal_eq_ok isDealt
    exact List.not_mem_nil
  exact mem_readyVotes_afterAll.trans (or_iff_right nobody)

/-- When commands come from the seats only, nobody else gets ready. -/
theorem seated_of_ready (isDealt : deal id entrants settings seed = .ok dealt)
    (fromSeats : ∀ step ∈ steps, step.FromSeatOf dealt) {userId : String}
    (ready : userId ∈ (dealt.afterAll steps).readyVotes) : userId ∈ dealt.seatIds := by
  obtain ⟨now, member⟩ := (mem_readyVotes_of_deal isDealt steps userId).mp ready
  exact fromSeats _ member

/-- Whoever gets ready last along a run opens the game. -/
theorem exists_opens (isDealt : deal id entrants settings seed = .ok dealt)
    (fromSeats : ∀ step ∈ steps, step.FromSeatOf dealt)
    (started : (dealt.afterAll steps).started = true) :
    ∃ before userId now later, steps = before ++ .command userId .ready now :: later ∧
      dealt.Opens (dealt.afterAll before) userId now := by
  obtain ⟨before, userId, now, later, rfl, waits, fresh, everyone, becomes⟩ :=
    exists_last_ready (started_of_deal isDealt) started
  rw [List.forall_mem_append, List.forall_mem_cons] at fromSeats
  refine ⟨before, userId, now, later, rfl,
    ((Gathers.of_deal isDealt).afterAll before).opens waits fresh everyone becomes ?_⟩
  intro other isReady
  rcases Voters.mem_insert.mp isReady with rfl | already
  · exact fromSeats.2.1
  · exact seated_of_ready isDealt fromSeats.1 already

/-- **A game starts when, and only when, the last of its players gets ready.**  Take any run from a
deal with commands from its seats.  Those are ready who have asked for it; they are all seated; and
the game has been started exactly if every seat is ready.

Until then it is the dealt game but for who is ready and what there is to tell: a command is
accepted only if it gets a user ready for the first time, and a rejected one changes nothing.

A started game stays started.  There is a last player to get ready, who opens the game: at that
command everybody else was ready, it tells that the player is ready and right after that the start,
and the game it leads to is, but for what there is to tell, given by the deal and the instant of
the command.  No other event of the run tells a start. -/
theorem start_waits_for_everybody (isDealt : deal id entrants settings seed = .ok dealt)
    (fromSeats : ∀ step ∈ steps, step.FromSeatOf dealt) :
    let game := dealt.afterAll steps
    (∀ userId, userId ∈ game.readyVotes ↔ ∃ now, .command userId .ready now ∈ steps) ∧
      (∀ userId ∈ game.readyVotes, userId ∈ game.seatIds) ∧
      (game.started = true ↔ ∀ userId ∈ game.seatIds, userId ∈ game.readyVotes) ∧
      (game.started = false → game = dealt.waiting game.readyVotes game.events ∧
        ∀ userId action now, let outcome := game.apply userId action now
          (outcome.violation = none → action = .ready ∧ userId ∉ game.readyVotes) ∧
            (outcome.violation ≠ none → outcome.game = game)) ∧
      (game.started = true → (∀ later, (game.afterAll later).started = true) ∧
        ∃ before userId now later, steps = before ++ .command userId .ready now :: later ∧
          dealt.Opens (dealt.afterAll before) userId now) ∧
      (dealt.emitted steps).filter Event.isStart =
        if game.started then [.start dealt.attackerId dealt.defenderId dealt.trump] else [] := by
  intro game
  have gathers : dealt.Gathers game := (Gathers.of_deal isDealt).afterAll steps
  have seats : game.seatIds = dealt.seatIds := seatIds_eq_of_terms (terms_afterAll dealt steps)
  refine ⟨mem_readyVotes_of_deal isDealt steps, fun userId isReady => ?_, ?_,
    fun waits => ⟨?_, fun userId action now => ?_⟩, fun started => ⟨fun later => ?_, ?_⟩,
    filter_emitted (started_of_deal isDealt) steps⟩
  · exact seats ▸ seated_of_ready isDealt fromSeats isReady
  · rw [gathers.inStep, everyoneReady_iff]
  · obtain ⟨readyVotes, events, same⟩ := gathers.frozen waits
    exact same.trans (by rw [same]; rfl)
  · exact (waits_apply waits userId action now).accepted
  · exact started_afterAll started later
  · exact exists_opens isDealt fromSeats started

end Dealt

/-- A run in which three players get ready, one of them twice, and others try to play too early. -/
def impatient : List Step := [
  .command "c" .ready (.ofUnixSeconds 1), .handOut,
  .command "a" (.attack ⟨.diamonds, .six⟩) (.ofUnixSeconds 2),
  .command "a" .ready (.ofUnixSeconds 3), .command "c" .ready (.ofUnixSeconds 4),
  .command "b" .takeAllCards (.ofUnixSeconds 5), .command "b" .ready (.ofUnixSeconds 6), .handOut,
  .command "a" (.attack ⟨.diamonds, .six⟩) (.ofUnixSeconds 7)]

/-- After five commands the three players have their dealt hands and one of them is waited for;
with that one the game starts, and the start is told once. -/
theorem start_waits_for_everybody_of_three :
    deal "g" [⟨"a", ""⟩, ⟨"b", ""⟩, ⟨"c", ""⟩] ⟨Double.ofInt 30⟩ 0 = .ok trio ∧
      (∀ step ∈ impatient, step.FromSeatOf trio) ∧
      let early := trio.afterAll (impatient.take 6)
      early = trio.waiting early.readyVotes early.events ∧ "b" ∉ early.readyVotes ∧
        (trio.emitted impatient).filter Event.isStart = [.start "a" "b" .hearts] ∧
        ∃ before userId now later, impatient = before ++ .command userId .ready now :: later ∧
          ((trio.afterAll before).after (.command userId .ready now)).withoutEvents =
            trio.begun now := by
  have fromSeats : ∀ step ∈ impatient, step.FromSeatOf trio := by decide +kernel
  have waits : (trio.afterAll (impatient.take 6)).started = false := by decide +kernel
  have started : (trio.afterAll impatient).started = true := by decide +kernel
  obtain ⟨-, -, -, frozen, -⟩ := start_waits_for_everybody deal_trio
    fun step member => fromSeats step (List.mem_of_mem_take member)
  obtain ⟨-, -, -, -, begins, told⟩ := start_waits_for_everybody deal_trio fromSeats
  obtain ⟨-, before, userId, now, later, split, opens⟩ := begins started
  rw [if_pos started] at told
  exact ⟨deal_trio, fromSeats, (frozen waits).1, by decide +kernel, told,
    before, userId, now, later, split, opens.begins⟩

end Game

end Durak
