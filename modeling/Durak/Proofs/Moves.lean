import Durak.Proofs.Sequence
import Durak.Service.Lanes

/-!
# Moves

`Traffic.At` says where a command in flight stands, and `Traffic.Move` what its next step can do,
stage by stage.  A step is a move of one command or changes nothing (`step_cases`), and a move
leaves all other commands where they stand (`at_setStage_iff`).
-/

set_option autoImplicit false

namespace Durak

/-! ## Where commands stand -/

namespace Stage

/-- The lane that a command waits for or has, with the game it is for. -/
def lane? : Stage → Option (String × Nat)
  | .queued gameId lane | .working gameId lane | .saving gameId lane _ _
  | .leaving gameId lane _ => some (gameId, lane)
  | _ => none

/-- The lane that a command has got and not released yet. -/
def inside? : Stage → Option (String × Nat)
  | .working gameId lane | .saving gameId lane _ _ | .leaving gameId lane _ => some (gameId, lane)
  | _ => none

theorem lane?_of_inside? {stage : Stage} {place : String × Nat}
    (isInside : stage.inside? = some place) : stage.lane? = some place := by
  cases stage <;> first | exact isInside | cases isInside

end Stage

namespace Traffic

/-- A command of the traffic stands at a stage. -/
def At (traffic : Traffic) (sent : Sent) (stage : Stage) : Prop :=
  traffic.flights[sent.number]? = some ⟨sent.bytes, sent.now, stage⟩

variable {traffic : Traffic} {sent other : Sent} {stage old new : Stage}

/-- A number stands for one command, which stands at one stage. -/
theorem At.unique {there : Stage} (stands : traffic.At sent stage)
    (otherStands : traffic.At other there) (same : sent.number = other.number) :
    sent = other ∧ stage = there := by
  obtain ⟨number, bytes, now⟩ := sent
  obtain ⟨_, _, _⟩ := other
  cases same
  cases Option.some.inj (stands.symm.trans otherStands)
  exact ⟨rfl, rfl⟩

/-- After a command has been moved, it stands where it has been put, and the others where they
stood. -/
theorem at_setStage_iff {moved : Traffic} (sameFlights : moved.flights = traffic.flights)
    (stands : traffic.At sent old) :
    (moved.setStage sent.number new).At other stage ↔
      (other = sent ∧ stage = new) ∨ (other ≠ sent ∧ traffic.At other stage) := by
  rw [At, setStage, List.getElem?_modify, sameFlights]
  by_cases same : sent.number = other.number
  · have mine : traffic.flights[other.number]? = some ⟨sent.bytes, sent.now, old⟩ := same ▸ stands
    rw [mine, Option.map_eq_map, Option.map_some, if_pos same]
    constructor
    · intro moved
      simp only [Option.some.injEq, Flight.mk.injEq] at moved
      obtain ⟨sameBytes, sameNow, sameStage⟩ := moved
      have there : traffic.At other old := by rw [At, mine, sameBytes, sameNow]
      exact .inl ⟨(stands.unique there same).1.symm, sameStage.symm⟩
    · rintro (⟨rfl, rfl⟩ | ⟨apart, there⟩)
      · rfl
      · exact absurd (there.unique stands same.symm).1 apart
  · have apart : other ≠ sent := fun equal => same (congrArg Sent.number equal.symm)
    simp [same, apart, At]

theorem At.moved {moved : Traffic} (stands : traffic.At sent old)
    (sameFlights : moved.flights = traffic.flights) :
    (moved.setStage sent.number new).At sent new :=
  (at_setStage_iff sameFlights stands).mpr (.inl ⟨rfl, rfl⟩)

theorem At.stays {moved : Traffic} (otherStands : traffic.At other stage) (apart : other ≠ sent)
    (stands : traffic.At sent old) (sameFlights : moved.flights = traffic.flights) :
    (moved.setStage sent.number new).At other stage :=
  (at_setStage_iff sameFlights stands).mpr (.inr ⟨apart, otherStands⟩)

@[simp] theorem holders_setStage (number : Nat) (stage : Stage) (lane : Nat) :
    (traffic.setStage number stage).holders lane = traffic.holders lane := rfl

/-! ## Steps -/

/-- The stage of a command that has looked whether it is the first in its lane. -/
inductive Entered (traffic : Traffic) (number : Nat) (gameId : String) (lane : Nat) : Stage → Prop
  | first (isFirst : (traffic.holders lane).head? = some number) :
      Entered traffic number gameId lane (.working gameId lane)
  | queue (isLater : (traffic.holders lane).head? ≠ some number) :
      Entered traffic number gameId lane (.queued gameId lane)

theorem exists_entered (traffic : Traffic) (number : Nat) (gameId : String) (lane : Nat) :
    ∃ stage, traffic.Entered number gameId lane stage ∧
      traffic.enter number gameId lane = traffic.setStage number stage := by
  by_cases isFirst : (traffic.holders lane).head? = some number
  · exact ⟨_, .first isFirst, if_pos isFirst⟩
  · exact ⟨_, .queue isFirst, if_neg isFirst⟩

/-- Why a command that has its lane to itself does not get so far as to save. -/
def Fails (traffic : Traffic) (sent : Sent) (gameId : String) (failure : Failure) : Prop :=
  traffic.service.store.load gameId = .error failure ∨
    ∃ game, traffic.service.store.load gameId = .ok game ∧
      (game.handle sent.bytes sent.now).answer = .error failure

/-- The traffic after a game has been saved. -/
def saved (traffic : Traffic) (gameId : String) (game : Game) (packs : Packs) : Traffic :=
  { traffic with service := (traffic.service.finish gameId game packs).service }

/-- What a step of a command can do to the traffic: it starts at a stage of the command, puts the
command at another stage, and gives the traffic after it. -/
inductive Move (traffic : Traffic) (sent : Sent) : Stage → Stage → Traffic → Prop
  | unreadable {fault : CommandFault} (unread : Command.gameIdOf sent.bytes = .error fault) :
      Move traffic sent .arrived (.done (.error fault.toFailure)) traffic
  | route {gameId : String} (isRouted : Command.gameIdOf sent.bytes = .ok gameId) :
      Move traffic sent .arrived (.routed gameId) traffic
  | turnAway {gameId : String} {failure : Failure} (log : Log)
      (unloaded : traffic.service.store.load gameId = .error failure) :
      Move traffic sent (.routed gameId) (.done (.error failure)) (traffic.record log)
  | find {gameId : String} {game : Game}
      (loaded : traffic.service.store.load gameId = .ok game) :
      Move traffic sent (.routed gameId) (.found gameId) traffic
  | join {gameId : String} {stage : Stage}
      (entered : (traffic.join sent.number gameId).2.Entered sent.number gameId
        (traffic.join sent.number gameId).1 stage) :
      Move traffic sent (.found gameId) stage (traffic.join sent.number gameId).2
  | wait {gameId : String} {lane : Nat} {stage : Stage}
      (entered : traffic.Entered sent.number gameId lane stage) :
      Move traffic sent (.queued gameId lane) stage traffic
  | fail {gameId : String} {lane : Nat} {failure : Failure} (log : Log)
      (fails : traffic.Fails sent gameId failure) :
      Move traffic sent (.working gameId lane) (.leaving gameId lane (.error failure))
        (traffic.record log)
  | prepare {gameId : String} {lane : Nat} {game : Game} {packs : Packs} (log : Log)
      (loaded : traffic.service.store.load gameId = .ok game)
      (answered : (game.handle sent.bytes sent.now).answer = .ok packs) :
      Move traffic sent (.working gameId lane)
        (.saving gameId lane (game.handle sent.bytes sent.now).game packs) (traffic.record log)
  | save {gameId : String} {lane : Nat} {game : Game} {packs : Packs} (log : Log) :
      Move traffic sent (.saving gameId lane game packs)
        (.leaving gameId lane (traffic.service.finish gameId game packs).answer)
        ((traffic.saved gameId game packs).record log)
  | leave {gameId : String} {lane : Nat} {answer : Except Failure Packs} :
      Move traffic sent (.leaving gameId lane answer) (.done answer)
        (traffic.leave sent.number gameId lane)

/-- Every step is a move, unless it is one of a command that is done. -/
theorem exists_move (stands : traffic.At sent old) (pending : ∀ answer, old ≠ .done answer) :
    ∃ stage moved, traffic.Move sent old stage moved ∧
      traffic.step sent.number = moved.setStage sent.number stage := by
  have stepIs : traffic.step sent.number = traffic.advance sent.number sent.bytes sent.now old := by
    rw [step, stands]
  rw [stepIs]
  cases old with
  | arrived =>
    rw [advance]
    cases isRouted : Command.gameIdOf sent.bytes with
    | error fault => exact ⟨_, _, .unreadable isRouted, rfl⟩
    | ok gameId => exact ⟨_, _, .route isRouted, rfl⟩
  | routed gameId =>
    rw [advance]
    cases loaded : traffic.service.store.load gameId with
    | error failure => exact ⟨_, _, .turnAway _ loaded, rfl⟩
    | ok game => exact ⟨_, _, .find loaded, rfl⟩
  | found gameId =>
    obtain ⟨stage, entered, enterIs⟩ := exists_entered (traffic.join sent.number gameId).2
      sent.number gameId (traffic.join sent.number gameId).1
    exact ⟨stage, _, .join entered, enterIs⟩
  | queued gameId lane =>
    obtain ⟨stage, entered, enterIs⟩ := exists_entered traffic sent.number gameId lane
    exact ⟨stage, _, .wait entered, enterIs⟩
  | working gameId lane =>
    rw [advance]
    cases loaded : traffic.service.store.load gameId with
    | error failure => exact ⟨_, _, .fail _ (.inl loaded), rfl⟩
    | ok game =>
      dsimp only
      cases answered : (game.handle sent.bytes sent.now).answer with
      | error failure => exact ⟨_, _, .fail _ (.inr ⟨game, loaded, answered⟩), rfl⟩
      | ok packs => exact ⟨_, _, .prepare _ loaded answered, rfl⟩
  | saving gameId lane game packs => exact ⟨_, _, .save _, rfl⟩
  | leaving gameId lane answer => exact ⟨_, _, .leave, rfl⟩
  | done answer => exact absurd rfl (pending answer)

/-- A step changes nothing, or is a move of the command with that number. -/
theorem step_cases (traffic : Traffic) (number : Nat) :
    traffic.step number = traffic ∨ ∃ sent old new moved, sent.number = number ∧
      traffic.At sent old ∧ traffic.Move sent old new moved ∧
      traffic.step number = moved.setStage number new := by
  cases isFlight : traffic.flights[number]? with
  | none => exact .inl (by rw [step, isFlight])
  | some flight =>
    obtain ⟨bytes, now, old⟩ := flight
    have stands : traffic.At ⟨number, bytes, now⟩ old := isFlight
    by_cases pending : ∀ answer, old ≠ .done answer
    · obtain ⟨new, moved, move, stepIs⟩ := exists_move stands pending
      exact .inr ⟨_, old, new, moved, rfl, stands, move, stepIs⟩
    · simp only [not_forall, not_not] at pending
      obtain ⟨answer, rfl⟩ := pending
      refine .inl ?_
      rw [step, isFlight]
      rfl

end Traffic

end Durak
