import Durak.Proofs.Lanes

/-!
# Progress

Commands in flight never block each other for good.  As long as one of them is not done, some
command can take a step that brings it nearer to its answer (`Orderly.exists_progress`): if all
others wait in queues, it is the first holder of any lane.  So every schedule can be continued until
all commands are done (`exists_schedule_isDone`).
-/

set_option autoImplicit false

namespace Durak

-- sums of natural numbers are those of the core library
attribute [local instance (high)] Zero.ofOfNat0

/-- Number of moves that a command still has to make, waiting apart. -/
def Stage.remaining : Stage → Nat
  | .arrived => 7
  | .routed _ => 6
  | .found _ => 5
  | .queued _ _ => 4
  | .working _ _ => 3
  | .saving _ _ _ _ => 2
  | .leaving _ _ _ => 1
  | .done _ => 0

namespace Traffic

/-- Number of moves that all commands together still have to make, waiting apart. -/
def remaining (traffic : Traffic) : Nat :=
  (traffic.flights.map fun flight => flight.stage.remaining).sum

variable {traffic moved : Traffic} {sent : Sent} {old new : Stage}

/-- The flight of a command that stands somewhere, between those before it and those after it. -/
theorem At.exists_flights (stands : traffic.At sent old) :
    ∃ before after, traffic.flights = before ++ ⟨sent.bytes, sent.now, old⟩ :: after ∧
      (traffic.setStage sent.number new).flights =
        before ++ ⟨sent.bytes, sent.now, new⟩ :: after := by
  obtain ⟨inRange, isFlight⟩ := List.getElem?_eq_some_iff.mp stands
  refine ⟨traffic.flights.take sent.number, traffic.flights.drop (sent.number + 1), ?_, ?_⟩
  · rw [← isFlight, ← List.drop_eq_getElem_cons inRange, List.take_append_drop]
  · rw [setStage, List.modify_eq_take_cons_drop inRange, isFlight]

theorem remaining_setStage_lt (sameFlights : moved.flights = traffic.flights)
    (stands : traffic.At sent old) (fewer : new.remaining < old.remaining) :
    (moved.setStage sent.number new).remaining < traffic.remaining := by
  have movedStands : moved.At sent old := by
    rw [At, sameFlights]
    exact stands
  obtain ⟨before, after, flightsAre, changed⟩ := @At.exists_flights _ _ _ new movedStands
  rw [remaining, remaining, changed, ← sameFlights, flightsAre]
  simp only [List.map_append, List.map_cons, List.sum_append, List.sum_cons]
  omega

/-- Every move but waiting brings a command nearer to its answer. -/
theorem Move.remaining_lt (move : traffic.Move sent old new moved) :
    new.remaining < old.remaining ∨ ∃ gameId lane, old = .queued gameId lane := by
  cases move with
  | wait => exact .inr ⟨_, _, rfl⟩
  | join entered => cases entered <;> exact .inl (by simp [Stage.remaining])
  | _ => exact .inl (by simp [Stage.remaining])

theorem exists_pending_of_not_isDone (pending : traffic.isDone ≠ true) :
    ∃ sent stage, traffic.At sent stage ∧ ∀ answer, stage ≠ .done answer := by
  rw [isDone, ne_eq, List.all_eq_true] at pending
  simp only [not_forall, exists_prop] at pending
  obtain ⟨flight, isFlight, unanswered⟩ := pending
  obtain ⟨number, inRange, rfl⟩ := List.getElem_of_mem isFlight
  refine ⟨⟨number, _, _⟩, _, List.getElem?_eq_getElem inRange, ?_⟩
  intro answer isDone
  have answered : traffic.flights[number].stage = .done answer := isDone
  simp [Flight.answer?, answered] at unanswered

/-- If not all commands are done, some command can come nearer to its answer. -/
theorem Orderly.exists_progress (orderly : traffic.Orderly) (pending : traffic.isDone ≠ true) :
    ∃ number, (traffic.step number).remaining < traffic.remaining := by
  by_contra stuck
  rw [not_exists] at stuck
  have waits {sent : Sent} {stage : Stage} (stands : traffic.At sent stage)
      (isPending : ∀ answer, stage ≠ .done answer) :
      ∃ gameId lane, stage = .queued gameId lane := by
    obtain ⟨new, moved, move, stepIs⟩ := exists_move stands isPending
    rcases move.remaining_lt with fewer | isQueued
    · have nearer := remaining_setStage_lt move.sameFlights stands fewer
      exact absurd (stepIs ▸ nearer) (stuck sent.number)
    · exact isQueued
  obtain ⟨sent, stage, stands, isPending⟩ := exists_pending_of_not_isDone pending
  obtain ⟨gameId, lane, rfl⟩ := waits stands isPending
  -- the first holder of that lane waits as well, and need not
  have inOrder := orderly.inOrder (orderly.isCurrent stands rfl)
  obtain ⟨number, later, holdersAre⟩ := List.exists_cons_of_ne_nil inOrder.held
  obtain ⟨first, there, firstStands, rfl, inLane⟩ :=
    inOrder.holder (holdersAre ▸ List.mem_cons_self : number ∈ traffic.holders lane)
  obtain ⟨firstId, firstLane, rfl⟩ := waits firstStands fun answer isDone => by
    rw [isDone] at inLane
    cases inLane
  cases inLane
  obtain ⟨new, moved, move, stepIs⟩ := exists_move firstStands fun _ isDone => nomatch isDone
  refine stuck first.number ?_
  rw [stepIs]
  refine remaining_setStage_lt move.sameFlights firstStands ?_
  cases move with
  | wait entered =>
    cases entered with
    | first => simp [Stage.remaining]
    | queue isLater => exact absurd (by rw [holdersAre]; rfl) isLater

/-- Every schedule can be continued until all commands are done. -/
theorem exists_schedule_isDone (orderly : traffic.Orderly) :
    ∃ schedule, (traffic.run schedule).isDone = true := by
  induction total : traffic.remaining using Nat.strongRecOn generalizing traffic with
  | ind total hypothesis =>
    by_cases isDone : traffic.isDone = true
    · exact ⟨[], isDone⟩
    · obtain ⟨number, fewer⟩ := orderly.exists_progress isDone
      obtain ⟨schedule, isDone⟩ := hypothesis _ (total ▸ fewer) (orderly.step number) rfl
      exact ⟨number :: schedule, isDone⟩

end Traffic

end Durak
