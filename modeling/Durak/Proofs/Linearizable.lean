import Durak.Proofs.Mirror
import Durak.Proofs.Progress
import Durak.Proofs.Transaction
import Mathlib.Data.List.Permutation

/-!
# Commands in flight are commands one at a time

A command has its turn once it has got its lane, or has been answered without one, and
`Traffic.turns` lists the commands in the order in which they have their turns.  The service that
handles one command at a time in that order runs ahead of the one with commands in flight: of a game
on which a command is at work it knows already what that command is going to leave, and of every
other game it has the same text (`Linear`).  That is kept by every move (`Move.linear`), because
nobody else is past the queue of the same game.

When every command is done, and every schedule can be continued until it is, the two services agree
on every game and every answer, and so does any order that has the commands on each stored game in
the order of their turns (`commands_linearize`).
-/

set_option autoImplicit false

namespace Durak

namespace Stage

/-- The game whose id is known of a command that is under way. -/
def named? : Stage → Option String
  | .routed gameId | .found gameId | .queued gameId _ | .working gameId _ | .saving gameId _ _ _
  | .leaving gameId _ _ => some gameId
  | _ => none

/-- The game that a command has found and not finished with. -/
def admitted? : Stage → Option String
  | .found gameId | .queued gameId _ | .working gameId _ | .saving gameId _ _ _
  | .leaving gameId _ _ => some gameId
  | _ => none

/-- The game that a command is at work on: it has its lane, and has not saved the game. -/
def busy? : Stage → Option String
  | .working gameId _ | .saving gameId _ _ _ => some gameId
  | _ => none

/-- The answer of a command, as soon as it is known. -/
def outcome? : Stage → Option (Except Failure Packs)
  | .leaving _ _ answer | .done answer => some answer
  | _ => none

/-- Whether a command has got its lane, or has been answered without one. -/
def hasTurn : Stage → Bool
  | .working _ _ | .saving _ _ _ _ | .leaving _ _ _ | .done _ => true
  | _ => false

variable {stage : Stage} {gameId : String}

theorem named?_of_admitted? (isAdmitted : stage.admitted? = some gameId) :
    stage.named? = some gameId := by
  cases stage <;> first | exact isAdmitted | cases isAdmitted

theorem admitted?_of_busy? (isBusy : stage.busy? = some gameId) :
    stage.admitted? = some gameId := by
  cases stage <;> first | exact isBusy | cases isBusy

theorem exists_inside?_of_busy? (isBusy : stage.busy? = some gameId) :
    ∃ lane, stage.inside? = some (gameId, lane) := by
  cases stage with
  | working id lane | saving id lane =>
    cases isBusy
    exact ⟨lane, rfl⟩
  | _ => cases isBusy

theorem hasTurn_of_busy? (isBusy : stage.busy? = some gameId) : stage.hasTurn = true := by
  cases stage <;> first | rfl | cases isBusy

theorem busy?_ne_of_hasTurn (before : stage.hasTurn = false) : stage.busy? ≠ some gameId := by
  intro isBusy
  cases before.symm.trans (hasTurn_of_busy? isBusy)

theorem hasTurn_of_outcome? {answer : Except Failure Packs}
    (isKnown : stage.outcome? = some answer) : stage.hasTurn = true := by
  cases stage <;> first | rfl | cases isKnown

theorem admitted?_of_lane? {lane : Nat} (inLane : stage.lane? = some (gameId, lane)) :
    stage.admitted? = some gameId := by
  cases stage <;> cases inLane <;> rfl

end Stage

namespace Traffic

/-! ## Turns -/

/-- A command has its turn by going from one stage to another, or it has not. -/
def newTurn (sent : Sent) (old new : Stage) : List Sent :=
  if !old.hasTurn && new.hasTurn then [sent] else []

/-- The command that has its turn by a step, if there is one. -/
def turnOf (before after : Traffic) (number : Nat) : List Sent :=
  match before.flights[number]?, after.flights[number]? with
  | some flight, some moved =>
    newTurn ⟨number, flight.bytes, flight.now⟩ flight.stage moved.stage
  | _, _ => []

/-- The commands in the order in which they have their turns. -/
def turns (traffic : Traffic) : List Nat → List Sent
  | [] => []
  | number :: schedule =>
    traffic.turnOf (traffic.step number) number ++ (traffic.step number).turns schedule

variable {traffic moved : Traffic} {sent other : Sent} {old new stage : Stage}

theorem newTurn_of_same (sameTurn : new.hasTurn = old.hasTurn) : newTurn sent old new = [] := by
  simp [newTurn, sameTurn]

theorem newTurn_of_turn (before : old.hasTurn = false) (after : new.hasTurn = true) :
    newTurn sent old new = [sent] := by
  simp [newTurn, before, after]

theorem turnOf_setStage (sameFlights : moved.flights = traffic.flights)
    (stands : traffic.At sent old) :
    traffic.turnOf (moved.setStage sent.number new) sent.number = newTurn sent old new := by
  rw [turnOf, stands, stands.moved sameFlights]

theorem turnOf_self (number : Nat) : traffic.turnOf traffic number = [] := by
  rw [turnOf]
  split
  · rename_i flight moved isFlight isMoved
    cases isFlight.symm.trans isMoved
    exact newTurn_of_same rfl
  · rfl

/-! ## Running ahead -/

/-- The service that has handled the commands of some turns one at a time is ahead of the traffic by
the commands that are at work. -/
structure Linear (service : Service) (turns : List Sent) (traffic : Traffic) : Prop where
  known {sent : Sent} {stage : Stage} {gameId : String} : traffic.At sent stage →
    stage.named? = some gameId → Command.gameIdOf sent.bytes = .ok gameId
  admitted {sent : Sent} {stage : Stage} {gameId : String} : traffic.At sent stage →
    stage.admitted? = some gameId → ∃ game, service.store.load gameId = .ok game
  settled {gameId : String} :
    (∀ sent stage, traffic.At sent stage → stage.busy? ≠ some gameId) →
      (service.handleAll turns).text? gameId = traffic.service.text? gameId
  foreseen {sent : Sent} {stage : Stage} {gameId : String} : traffic.At sent stage →
    stage.busy? = some gameId →
      (service.handleAll turns).text? gameId =
          (traffic.service.handle sent.bytes sent.now).service.text? gameId ∧
        Service.answerTo sent service turns =
          some (traffic.service.handle sent.bytes sent.now).answer
  prepared {sent : Sent} {gameId : String} {lane : Nat} {game : Game} {packs : Packs} :
    traffic.At sent (.saving gameId lane game packs) →
      ∃ stored, traffic.service.store.load gameId = .ok stored ∧
        (stored.handle sent.bytes sent.now).game = game ∧
        (stored.handle sent.bytes sent.now).answer = .ok packs
  answered {sent : Sent} {stage : Stage} {answer : Except Failure Packs} : traffic.At sent stage →
    stage.outcome? = some answer → Service.answerTo sent service turns = some answer
  taken {sent : Sent} {stage : Stage} : traffic.At sent stage →
    (sent ∈ turns ↔ stage.hasTurn = true)
  stood {sent : Sent} : sent ∈ turns → ∃ stage, traffic.At sent stage
  once : turns.Nodup

/-- The turns after a move: the command that moves has its turn now, or nobody has. -/
inductive Extends (turns : List Sent) (sent : Sent) (old new : Stage) : List Sent → Prop
  | same (sameTurn : new.hasTurn = old.hasTurn) : Extends turns sent old new turns
  | turn (before : old.hasTurn = false) (after : new.hasTurn = true) :
      Extends turns sent old new (turns ++ [sent])

variable {service : Service} {turns later : List Sent}

theorem Linear.not_mem (linear : traffic.Linear service turns) (stands : traffic.At sent old)
    (before : old.hasTurn = false) : sent ∉ turns := by
  intro present
  rw [linear.taken stands, before] at present
  cases present

/-- Whoever has had a turn before a move keeps the answer. -/
theorem Linear.answerTo_extends (linear : traffic.Linear service turns)
    (growth : Extends turns sent old new later) (stands : traffic.At other stage)
    (hasTurn : stage.hasTurn = true) :
    Service.answerTo other service later = Service.answerTo other service turns := by
  cases growth with
  | same => rfl
  | turn => exact Service.answerTo_append_of_mem ((linear.taken stands).mpr hasTurn) _

/-- What has to be seen of one move, so that the sequential service still runs ahead: what it knows
of the command that moves, and that the games others are at work on are left alone. -/
theorem Linear.after (linear : traffic.Linear service turns) (stands : traffic.At sent old)
    (sameFlights : moved.flights = traffic.flights)
    (growth : Extends turns sent old new later)
    (known : ∀ gameId, new.named? = some gameId → Command.gameIdOf sent.bytes = .ok gameId)
    (admitted : ∀ gameId, new.admitted? = some gameId →
      ∃ game, service.store.load gameId = .ok game)
    (others : ∀ other there gameId, other ≠ sent → traffic.At other there →
      there.busy? = some gameId →
        (service.handleAll later).text? gameId = (service.handleAll turns).text? gameId ∧
          moved.service.text? gameId = traffic.service.text? gameId)
    (settled : ∀ gameId, new.busy? ≠ some gameId →
      (∀ other there, other ≠ sent → traffic.At other there → there.busy? ≠ some gameId) →
        (service.handleAll later).text? gameId = moved.service.text? gameId)
    (foreseen : ∀ gameId, new.busy? = some gameId →
      (service.handleAll later).text? gameId =
          (moved.service.handle sent.bytes sent.now).service.text? gameId ∧
        Service.answerTo sent service later =
          some (moved.service.handle sent.bytes sent.now).answer)
    (prepared : ∀ gameId lane game packs, new = .saving gameId lane game packs →
      ∃ stored, moved.service.store.load gameId = .ok stored ∧
        (stored.handle sent.bytes sent.now).game = game ∧
        (stored.handle sent.bytes sent.now).answer = .ok packs)
    (answered : ∀ answer, new.outcome? = some answer →
      Service.answerTo sent service later = some answer) :
    (moved.setStage sent.number new).Linear service later := by
  constructor
  case known =>
    intro other there gameId otherStands isNamed
    rcases (at_setStage_iff sameFlights stands).mp otherStands with
      ⟨rfl, rfl⟩ | ⟨-, otherStands⟩
    · exact known gameId isNamed
    · exact linear.known otherStands isNamed
  case admitted =>
    intro other there gameId otherStands isAdmitted
    rcases (at_setStage_iff sameFlights stands).mp otherStands with
      ⟨rfl, rfl⟩ | ⟨-, otherStands⟩
    · exact admitted gameId isAdmitted
    · exact linear.admitted otherStands isAdmitted
  case settled =>
    intro gameId idle
    refine settled gameId (idle sent new (stands.moved sameFlights)) ?_
    intro other there apart otherStands
    exact idle other there (otherStands.stays apart stands sameFlights)
  case foreseen =>
    intro other there gameId otherStands isBusy
    rcases (at_setStage_iff sameFlights stands).mp otherStands with
      ⟨rfl, rfl⟩ | ⟨apart, otherStands⟩
    · exact foreseen gameId isBusy
    · obtain ⟨sameAhead, sameNow⟩ := others other there gameId apart otherStands isBusy
      obtain ⟨ahead, answer⟩ := linear.foreseen otherStands isBusy
      have isRouted := linear.known otherStands
        (Stage.named?_of_admitted? (Stage.admitted?_of_busy? isBusy))
      obtain ⟨textSame, answerSame⟩ := @Service.handle_congr _ _ _ _ other.now isRouted sameNow
      refine ⟨sameAhead.trans (ahead.trans textSame.symm), ?_⟩
      rw [linear.answerTo_extends growth otherStands (Stage.hasTurn_of_busy? isBusy), answer]
      exact congrArg some answerSame.symm
  case prepared =>
    intro other gameId lane game packs otherStands
    rcases (at_setStage_iff sameFlights stands).mp otherStands with
      ⟨rfl, isNew⟩ | ⟨apart, otherStands⟩
    · exact prepared gameId lane game packs isNew.symm
    · obtain ⟨-, sameNow⟩ := others other _ gameId apart otherStands rfl
      have sameLoad : moved.service.store.load gameId = traffic.service.store.load gameId :=
        Service.load_congr sameNow
      obtain ⟨stored, loaded, handled⟩ := linear.prepared otherStands
      exact ⟨stored, sameLoad.trans loaded, handled⟩
  case answered =>
    intro other there answer otherStands isKnown
    rcases (at_setStage_iff sameFlights stands).mp otherStands with
      ⟨rfl, rfl⟩ | ⟨apart, otherStands⟩
    · exact answered answer isKnown
    · rw [linear.answerTo_extends growth otherStands (Stage.hasTurn_of_outcome? isKnown)]
      exact linear.answered otherStands isKnown
  case taken =>
    intro other there otherStands
    rcases (at_setStage_iff sameFlights stands).mp otherStands with
      ⟨rfl, rfl⟩ | ⟨apart, otherStands⟩
    · cases growth with
      | same sameTurn => rw [linear.taken stands, sameTurn]
      | turn before after => simp [after]
    · cases growth with
      | same => exact linear.taken otherStands
      | turn => simp [apart, linear.taken otherStands]
  case stood =>
    intro other present
    by_cases same : other = sent
    · exact ⟨new, same ▸ stands.moved sameFlights⟩
    · have before : other ∈ turns := by
        cases growth with
        | same => exact present
        | turn => simpa [same] using present
      obtain ⟨stage, otherStands⟩ := linear.stood before
      exact ⟨stage, otherStands.stays same stands sameFlights⟩
  case once =>
    cases growth with
    | same => exact linear.once
    | turn before after =>
      refine List.Nodup.append linear.once (List.nodup_singleton _) ?_
      rw [List.disjoint_singleton]
      exact linear.not_mem stands before

/-- A game that cannot be loaded is the same game to the service that is ahead. -/
theorem Linear.text?_of_unloaded {gameId : String} {failure : Failure}
    (linear : traffic.Linear service turns)
    (unloaded : traffic.service.store.load gameId = .error failure) :
    (service.handleAll turns).text? gameId = traffic.service.text? gameId := by
  by_cases idle : ∀ sent stage, traffic.At sent stage → stage.busy? ≠ some gameId
  · exact linear.settled idle
  · simp only [not_forall, not_not, exists_prop] at idle
    obtain ⟨other, there, otherStands, isBusy⟩ := idle
    have isRouted := linear.known otherStands
      (Stage.named?_of_admitted? (Stage.admitted?_of_busy? isBusy))
    rw [(linear.foreseen otherStands isBusy).1, (Service.handle_of_unloaded isRouted unloaded).1]

section

variable (linear : traffic.Linear service turns) (stands : traffic.At sent old)
include linear stands

theorem Linear.settled_of_others {gameId : String} (notBusy : old.busy? ≠ some gameId)
    (othersIdle : ∀ other there, other ≠ sent → traffic.At other there →
      there.busy? ≠ some gameId) :
    (service.handleAll turns).text? gameId = traffic.service.text? gameId := by
  refine linear.settled fun other there otherStands => ?_
  by_cases same : other = sent
  · subst same
    obtain ⟨-, rfl⟩ := otherStands.unique stands rfl
    exact notBusy
  · exact othersIdle other there same otherStands

/-- A move that has nothing to do with the store or with turns. -/
theorem Linear.quiet (sameFlights : moved.flights = traffic.flights)
    (sameService : moved.service = traffic.service) (sameTurn : new.hasTurn = old.hasTurn)
    (sameBusy : new.busy? = old.busy?)
    (known : ∀ gameId, new.named? = some gameId → Command.gameIdOf sent.bytes = .ok gameId)
    (admitted : ∀ gameId, new.admitted? = some gameId →
      ∃ game, service.store.load gameId = .ok game)
    (prepared : ∀ gameId lane game packs, new = .saving gameId lane game packs →
      ∃ stored, traffic.service.store.load gameId = .ok stored ∧
        (stored.handle sent.bytes sent.now).game = game ∧
        (stored.handle sent.bytes sent.now).answer = .ok packs)
    (answered : ∀ answer, new.outcome? = some answer → old.outcome? = some answer) :
    (moved.setStage sent.number new).Linear service (turns ++ newTurn sent old new) := by
  rw [newTurn_of_same sameTurn, List.append_nil]
  refine linear.after stands sameFlights (.same sameTurn) known admitted ?_ ?_ ?_ ?_ ?_
  · exact fun _ _ _ _ _ _ => ⟨rfl, by rw [sameService]⟩
  · rw [sameService]
    exact fun _ notBusy => linear.settled_of_others stands (sameBusy ▸ notBusy)
  · rw [sameService]
    exact fun gameId isBusy => linear.foreseen stands (sameBusy ▸ isBusy)
  · rw [sameService]
    exact prepared
  · exact fun answer isKnown => linear.answered stands (answered answer isKnown)

/-- A command is answered without a lane, by a failure that the service which is ahead gives as
well. -/
theorem Linear.turnedAway {answer : Except Failure Packs}
    (sameFlights : moved.flights = traffic.flights) (sameService : moved.service = traffic.service)
    (before : old.hasTurn = false)
    (kept : ((service.handleAll turns).handle sent.bytes sent.now).service =
      service.handleAll turns)
    (isAnswer : ((service.handleAll turns).handle sent.bytes sent.now).answer = answer) :
    (moved.setStage sent.number (.done answer)).Linear service
      (turns ++ newTurn sent old (.done answer)) := by
  have after : (Stage.done answer).hasTurn = true := rfl
  rw [newTurn_of_turn before after]
  have sameAhead : service.handleAll (turns ++ [sent]) = service.handleAll turns := by
    rw [Service.handleAll_append]
    exact kept
  refine linear.after stands sameFlights (.turn before after) ?_ ?_ ?_ ?_ ?_ ?_ ?_
  · exact fun _ isNamed => nomatch isNamed
  · exact fun _ isAdmitted => nomatch isAdmitted
  · intro other there gameId _ _ _
    rw [sameAhead, sameService]
    exact ⟨rfl, rfl⟩
  · intro gameId _ othersIdle
    rw [sameAhead, sameService]
    exact linear.settled_of_others stands (Stage.busy?_ne_of_hasTurn before) othersIdle
  · exact fun _ isBusy => nomatch isBusy
  · exact fun _ _ _ _ isSaving => nomatch isSaving
  · intro known isKnown
    cases isKnown
    rw [Service.answerTo_last (linear.not_mem stands before), isAnswer]

/-- A command gets its lane, and nobody else is at work on its game. -/
theorem Linear.entered {gameId : String} {lane : Nat}
    (sameFlights : moved.flights = traffic.flights) (sameService : moved.service = traffic.service)
    (before : old.hasTurn = false) (isAdmitted : old.admitted? = some gameId)
    (alone : ∀ other there, other ≠ sent → traffic.At other there → there.busy? ≠ some gameId) :
    (moved.setStage sent.number (.working gameId lane)).Linear service
      (turns ++ newTurn sent old (.working gameId lane)) := by
  have after : (Stage.working gameId lane).hasTurn = true := rfl
  rw [newTurn_of_turn before after]
  have isRouted := linear.known stands (Stage.named?_of_admitted? isAdmitted)
  have sameNow := linear.settled_of_others stands (Stage.busy?_ne_of_hasTurn before) alone
  obtain ⟨sameText, sameAnswer⟩ := @Service.handle_congr _ _ _ _ sent.now isRouted sameNow
  have elsewhere {other : String} (apart : other ≠ gameId) :
      (service.handleAll (turns ++ [sent])).text? other =
        (service.handleAll turns).text? other := by
    rw [Service.handleAll_append]
    refine Service.text?_handle_of_ne fun otherRouted => apart ?_
    exact Except.ok.inj (otherRouted.symm.trans isRouted)
  refine linear.after stands sameFlights (.turn before after) ?_ ?_ ?_ ?_ ?_ ?_ ?_
  · intro named isNamed
    cases isNamed
    exact isRouted
  · intro named isNamed
    cases isNamed
    exact linear.admitted stands isAdmitted
  · intro other there otherId apart otherStands isBusy
    refine ⟨elsewhere ?_, by rw [sameService]⟩
    rintro rfl
    exact alone other there apart otherStands isBusy
  · intro otherId notBusy othersIdle
    rw [sameService, elsewhere fun same => notBusy (congrArg some same.symm)]
    exact linear.settled_of_others stands (Stage.busy?_ne_of_hasTurn before) othersIdle
  · intro busy isBusy
    cases isBusy
    rw [sameService, Service.handleAll_append, Service.answerTo_last (linear.not_mem stands before)]
    exact ⟨sameText, congrArg some sameAnswer⟩
  · exact fun _ _ _ _ isSaving => nomatch isSaving
  · exact fun _ isKnown => nomatch isKnown

/-- A command that was at work has its answer, and the store is what handling it leaves. -/
theorem Linear.finished {gameId : String} {lane : Nat} {answer : Except Failure Packs}
    (sameFlights : moved.flights = traffic.flights) (isBusy : old.busy? = some gameId)
    (alone : ∀ other there, other ≠ sent → traffic.At other there → there.busy? ≠ some gameId)
    (isHandled : moved.service = (traffic.service.handle sent.bytes sent.now).service)
    (isAnswer : (traffic.service.handle sent.bytes sent.now).answer = answer) :
    (moved.setStage sent.number (.leaving gameId lane answer)).Linear service
      (turns ++ newTurn sent old (.leaving gameId lane answer)) := by
  have sameTurn : (Stage.leaving gameId lane answer).hasTurn = old.hasTurn :=
    (Stage.hasTurn_of_busy? isBusy).symm
  rw [newTurn_of_same sameTurn, List.append_nil]
  have isAdmitted := Stage.admitted?_of_busy? isBusy
  have isRouted := linear.known stands (Stage.named?_of_admitted? isAdmitted)
  obtain ⟨ahead, answered⟩ := linear.foreseen stands isBusy
  have elsewhere {other : String} (apart : other ≠ gameId) :
      moved.service.text? other = traffic.service.text? other := by
    rw [isHandled]
    refine Service.text?_handle_of_ne fun otherRouted => apart ?_
    exact Except.ok.inj (otherRouted.symm.trans isRouted)
  refine linear.after stands sameFlights (.same sameTurn) ?_ ?_ ?_ ?_ ?_ ?_ ?_
  · intro named isNamed
    cases isNamed
    exact isRouted
  · intro named isNamed
    cases isNamed
    exact linear.admitted stands isAdmitted
  · intro other there otherId apart otherStands otherBusy
    refine ⟨rfl, elsewhere ?_⟩
    rintro rfl
    exact alone other there apart otherStands otherBusy
  · intro otherId _ othersIdle
    by_cases mine : otherId = gameId
    · rw [mine, ahead, isHandled]
    · rw [elsewhere mine]
      refine linear.settled_of_others stands ?_ othersIdle
      rw [isBusy]
      exact fun same => mine (Option.some.inj same).symm
  · exact fun _ isBusy => nomatch isBusy
  · exact fun _ _ _ _ isSaving => nomatch isSaving
  · intro known isKnown
    cases isKnown
    rw [answered, isAnswer]

end

/-- Nobody else is at work on the game of a command that is past the queue. -/
theorem Orderly.alone {gameId : String} {lane : Nat} (orderly : traffic.Orderly)
    (stands : traffic.At sent stage) (isInside : stage.inside? = some (gameId, lane)) :
    ∀ other there, other ≠ sent → traffic.At other there → there.busy? ≠ some gameId := by
  intro other there apart otherStands isBusy
  obtain ⟨otherLane, otherInside⟩ := Stage.exists_inside?_of_busy? isBusy
  exact apart (orderly.same_of_inside otherStands otherInside stands isInside)

/-- A command looks whether it is the first in its lane. -/
theorem Linear.looked {gameId : String} {lane : Nat} (linear : traffic.Linear service turns)
    (stands : traffic.At sent old) (sameFlights : moved.flights = traffic.flights)
    (sameService : moved.service = traffic.service) (before : old.hasTurn = false)
    (isAdmitted : old.admitted? = some gameId) (idle : old.busy? = none)
    (entered : moved.Entered sent.number gameId lane new)
    (orderly : (moved.setStage sent.number new).Orderly) :
    (moved.setStage sent.number new).Linear service (turns ++ newTurn sent old new) := by
  cases entered with
  | first =>
    refine linear.entered stands sameFlights sameService before isAdmitted ?_
    intro other there apart otherStands
    exact orderly.alone (stands.moved sameFlights) rfl other there apart
      (otherStands.stays apart stands sameFlights)
  | queue =>
    refine linear.quiet stands sameFlights sameService before.symm idle.symm ?_ ?_ ?_ ?_
    · intro named isNamed
      cases isNamed
      exact linear.known stands (Stage.named?_of_admitted? isAdmitted)
    · intro named isNamed
      cases isNamed
      exact linear.admitted stands isAdmitted
    · exact fun _ _ _ _ isSaving => nomatch isSaving
    · exact fun _ isKnown => nomatch isKnown

/-- A game that can be loaded could be loaded from the start. -/
theorem Linear.exists_load {gameId : String} {game : Game} (linear : traffic.Linear service turns)
    (loaded : traffic.service.store.load gameId = .ok game) :
    ∃ first, service.store.load gameId = .ok first := by
  cases atFirst : service.store.load gameId with
  | ok first => exact ⟨first, rfl⟩
  | error failure =>
    have idle : ∀ sent stage, traffic.At sent stage → stage.busy? ≠ some gameId := by
      intro other there otherStands isBusy
      obtain ⟨first, loadedFirst⟩ :=
        linear.admitted otherStands (Stage.admitted?_of_busy? isBusy)
      cases atFirst.symm.trans loadedFirst
    have sameText : service.text? gameId = traffic.service.text? gameId :=
      (Service.text?_of_unloaded atFirst turns).symm.trans (linear.settled idle)
    cases atFirst.symm.trans ((Service.load_congr sameText).trans loaded)

/-- Handling a command that fails changes nothing. -/
theorem handle_of_fails {gameId : String} {failure : Failure}
    (isRouted : Command.gameIdOf sent.bytes = .ok gameId)
    (fails : traffic.Fails sent gameId failure) :
    (traffic.service.handle sent.bytes sent.now).service = traffic.service ∧
      (traffic.service.handle sent.bytes sent.now).answer = .error failure := by
  rcases fails with unloaded | ⟨game, loaded, failed⟩
  · exact Service.handle_of_unloaded isRouted unloaded
  · exact Service.handle_of_failed isRouted loaded failed

/-- Every move keeps the sequential service ahead, with the turn that the move brings. -/
theorem Move.linear (move : traffic.Move sent old new moved) (stands : traffic.At sent old)
    (orderly : traffic.Orderly) (linear : traffic.Linear service turns) :
    (moved.setStage sent.number new).Linear service (turns ++ newTurn sent old new) := by
  have orderlyAfter := move.orderly stands orderly
  cases move with
  | unreadable unread =>
    refine linear.turnedAway stands rfl rfl rfl ?_ ?_ <;> rw [Service.handle_of_unreadable unread]
  | turnAway log unloaded =>
    have isRouted := linear.known stands rfl
    have aheadUnloaded := (Service.load_congr (linear.text?_of_unloaded unloaded)).trans unloaded
    obtain ⟨kept, isAnswer⟩ := @Service.handle_of_unloaded _ _ _ sent.now _ isRouted aheadUnloaded
    exact linear.turnedAway stands rfl rfl rfl kept isAnswer
  | join entered =>
    exact linear.looked stands (join_keeps _ _).1 (join_keeps _ _).2 rfl rfl rfl entered
      orderlyAfter
  | wait entered => exact linear.looked stands rfl rfl rfl rfl rfl entered orderlyAfter
  | route isRouted =>
    refine linear.quiet stands rfl rfl rfl rfl ?_ ?_ ?_ ?_
    · intro named isNamed
      cases isNamed
      exact isRouted
    · exact fun _ isAdmitted => nomatch isAdmitted
    · exact fun _ _ _ _ isSaving => nomatch isSaving
    · exact fun _ isKnown => nomatch isKnown
  | find loaded =>
    refine linear.quiet stands rfl rfl rfl rfl ?_ ?_ ?_ ?_
    · exact fun named isNamed => linear.known stands isNamed
    · intro named isNamed
      cases isNamed
      exact linear.exists_load loaded
    · exact fun _ _ _ _ isSaving => nomatch isSaving
    · exact fun _ isKnown => nomatch isKnown
  | fail log fails =>
    obtain ⟨kept, isAnswer⟩ := handle_of_fails (linear.known stands rfl) fails
    exact linear.finished stands rfl rfl (orderly.alone stands rfl) kept.symm isAnswer
  | prepare log loaded answered =>
    refine linear.quiet stands rfl rfl rfl rfl ?_ ?_ ?_ ?_
    · exact fun named isNamed => linear.known stands isNamed
    · exact fun named isNamed => linear.admitted stands isNamed
    · intro gameId lane game packs isSaving
      cases isSaving
      exact ⟨_, loaded, rfl, answered⟩
    · exact fun _ isKnown => nomatch isKnown
  | save log =>
    obtain ⟨stored, loaded, rfl, answered⟩ := linear.prepared stands
    obtain ⟨isHandled, isAnswer⟩ :=
      Service.handle_of_answered (linear.known stands rfl) loaded answered
    exact linear.finished stands rfl rfl (orderly.alone stands rfl) isHandled.symm isAnswer
  | leave =>
    refine linear.quiet stands rfl rfl rfl rfl ?_ ?_ ?_ ?_
    · exact fun _ isNamed => nomatch isNamed
    · exact fun _ isAdmitted => nomatch isAdmitted
    · exact fun _ _ _ _ isSaving => nomatch isSaving
    · exact fun answer isKnown => isKnown

/-! ## Runs -/

theorem Linear.step (linear : traffic.Linear service turns) (orderly : traffic.Orderly)
    (number : Nat) :
    (traffic.step number).Linear service
      (turns ++ traffic.turnOf (traffic.step number) number) := by
  rcases step_cases traffic number with same | ⟨sent, old, new, moved, rfl, stands, move, stepIs⟩
  · rw [same, turnOf_self, List.append_nil]
    exact linear
  · rw [stepIs, turnOf_setStage move.sameFlights stands]
    exact move.linear stands orderly linear

theorem Linear.run (linear : traffic.Linear service turns) (orderly : traffic.Orderly)
    (schedule : List Nat) :
    (traffic.run schedule).Linear service (turns ++ traffic.turns schedule) := by
  induction schedule generalizing traffic turns with
  | nil => exact (List.append_nil turns).symm ▸ linear
  | cons number schedule hypothesis =>
    rw [Traffic.turns, ← List.append_assoc]
    exact hypothesis (linear.step orderly number) (orderly.step number)

variable {commands : List (List UInt8 × Instant)}

theorem linear_arriving (service : Service) (commands : List (List UInt8 × Instant)) :
    (arriving service commands).Linear service [] where
  known stands isNamed := by cases at_arriving stands; cases isNamed
  admitted stands isAdmitted := by cases at_arriving stands; cases isAdmitted
  settled _ := rfl
  foreseen stands isBusy := by cases at_arriving stands; cases isBusy
  prepared stands := by cases at_arriving stands
  answered stands isKnown := by cases at_arriving stands; cases isKnown
  taken stands := by cases at_arriving stands; simp [Stage.hasTurn]
  stood present := nomatch present
  once := List.nodup_nil

/-- No step adds or removes a command. -/
theorem exists_at_step_iff (number : Nat) :
    (∃ stage, (traffic.step number).At sent stage) ↔ ∃ stage, traffic.At sent stage := by
  rcases step_cases traffic number with same | ⟨mover, old, new, moved, rfl, stands, move, stepIs⟩
  · rw [same]
  · simp only [stepIs, at_setStage_iff move.sameFlights stands]
    constructor
    · rintro ⟨stage, ⟨rfl, -⟩ | ⟨-, sentStands⟩⟩
      · exact ⟨old, stands⟩
      · exact ⟨stage, sentStands⟩
    · rintro ⟨stage, sentStands⟩
      by_cases same : sent = mover
      · exact ⟨new, .inl ⟨same, rfl⟩⟩
      · exact ⟨stage, .inr ⟨same, sentStands⟩⟩

theorem exists_at_run_iff (schedule : List Nat) :
    (∃ stage, ((arriving service commands).run schedule).At sent stage) ↔
      sent ∈ Sent.all commands := by
  have kept (traffic : Traffic) : (∃ stage, (traffic.run schedule).At sent stage) ↔
      ∃ stage, traffic.At sent stage := by
    induction schedule generalizing traffic with
    | nil => rfl
    | cons number schedule hypothesis =>
      exact (hypothesis (traffic.step number)).trans (exists_at_step_iff number)
  rw [kept, Sent.mem_all_iff]
  simp only [At, arriving, List.getElem?_map, Option.map_eq_some_iff, Flight.mk.injEq]
  constructor
  · rintro ⟨stage, command, isCommand, sameBytes, sameNow, -⟩
    rw [isCommand, ← sameBytes, ← sameNow]
  · intro isCommand
    exact ⟨.arrived, _, isCommand, rfl, rfl, rfl⟩

theorem exists_done_of_isDone (isDone : traffic.isDone = true) (stands : traffic.At sent stage) :
    ∃ answer, stage = .done answer := by
  have answered := List.all_eq_true.mp isDone _ (List.mem_of_getElem? stands)
  cases stage with
  | done answer => exact ⟨answer, rfl⟩
  | _ => cases answered

/-- Nobody is in a lane when every command is done, so there is none. -/
theorem Orderly.current_of_isDone (orderly : traffic.Orderly) (isDone : traffic.isDone = true) :
    traffic.current = [] := by
  cases currentIs : traffic.current with
  | nil => rfl
  | cons entry rest =>
    obtain ⟨gameId, lane⟩ := entry
    have isCurrent : traffic.current.lookup gameId = some lane := by simp [currentIs]
    obtain ⟨sent, stage, stands, inLane⟩ := (orderly.inOrder isCurrent).exists_at
    obtain ⟨answer, rfl⟩ := exists_done_of_isDone isDone stands
    cases inLane

/-- When every command is done, each has had its turn. -/
theorem Linear.mem_turns_iff (linear : traffic.Linear service turns)
    (isDone : traffic.isDone = true) : sent ∈ turns ↔ ∃ stage, traffic.At sent stage := by
  constructor
  · exact linear.stood
  · rintro ⟨stage, stands⟩
    obtain ⟨answer, rfl⟩ := exists_done_of_isDone isDone stands
    exact (linear.taken stands).mpr rfl

/-- When every command is done, the service that was ahead is ahead no longer. -/
theorem Linear.text?_of_isDone (linear : traffic.Linear service turns)
    (isDone : traffic.isDone = true) (gameId : String) :
    (service.handleAll turns).text? gameId = traffic.service.text? gameId := by
  refine linear.settled fun sent stage stands => ?_
  obtain ⟨answer, rfl⟩ := exists_done_of_isDone isDone stands
  exact fun isBusy => nomatch isBusy

/-- Commands in flight, under any schedule.  At most one command of a game is past the queue of the
game's lanes.  A game has a lane exactly while a command waits for it or has it, and never if it
could not be loaded at the start.  However far the commands have come, they can go on until all are
done.  Then there are no lanes, every command has had one turn, and every game and every answer is
as if the commands had been handled one at a time, in the order of their turns or in any other that
has the commands on each stored game in that order. -/
theorem commands_linearize (service : Service) (commands : List (List UInt8 × Instant))
    (schedule : List Nat) :
    let start := arriving service commands
    let traffic := start.run schedule
    (∀ gameId sent stage lane other there otherLane,
      traffic.At sent stage → stage.inside? = some (gameId, lane) →
      traffic.At other there → there.inside? = some (gameId, otherLane) → sent = other) ∧
    (∀ gameId, (traffic.current.lookup gameId).isSome ↔
      ∃ sent stage lane, traffic.At sent stage ∧ stage.lane? = some (gameId, lane)) ∧
    (∀ gameId failure, service.store.load gameId = .error failure →
      traffic.current.lookup gameId = none) ∧
    (∃ more, (traffic.run more).isDone = true) ∧
    (traffic.isDone = true →
      traffic.current = [] ∧
      (start.turns schedule).Perm (Sent.all commands) ∧
      ∀ order : List Sent, order.Perm (Sent.all commands) →
        (∀ gameId game, service.store.load gameId = .ok game →
          order.filter (Sent.addresses gameId) =
            (start.turns schedule).filter (Sent.addresses gameId)) →
        (∀ gameId, traffic.service.text? gameId = (service.handleAll order).text? gameId) ∧
        ∀ sent ∈ Sent.all commands, ∃ answer,
          traffic.At sent (.done answer) ∧ Service.answerTo sent service order = some answer) := by
  intro start traffic
  have orderly : traffic.Orderly := (orderly_arriving service commands).run schedule
  have linear : traffic.Linear service (start.turns schedule) :=
    (linear_arriving service commands).run (orderly_arriving service commands) schedule
  refine ⟨?_, ?_, ?_, exists_schedule_isDone orderly, ?_⟩
  · intro gameId sent stage lane other there otherLane stands isInside otherStands otherInside
    exact orderly.same_of_inside stands isInside otherStands otherInside
  · exact fun gameId => orderly.isSome_current_iff
  · intro gameId failure unloaded
    rw [← Option.not_isSome_iff_eq_none, orderly.isSome_current_iff]
    rintro ⟨sent, stage, lane, stands, inLane⟩
    obtain ⟨game, loaded⟩ := linear.admitted stands (Stage.admitted?_of_lane? inLane)
    cases unloaded.symm.trans loaded
  · intro isDone
    have turnsAre : (start.turns schedule).Perm (Sent.all commands) :=
      (List.perm_ext_iff_of_nodup linear.once (Sent.nodup_all commands)).mpr fun sent =>
        (linear.mem_turns_iff isDone).trans (exists_at_run_iff schedule)
    refine ⟨orderly.current_of_isDone isDone, turnsAre, fun order orderIs agree => ⟨?_, ?_⟩⟩
    · intro gameId
      rw [Service.text?_of_agreement agree gameId]
      exact (linear.text?_of_isDone isDone gameId).symm
    · intro sent isSent
      obtain ⟨stage, stands⟩ := (exists_at_run_iff schedule).mpr isSent
      obtain ⟨answer, rfl⟩ := exists_done_of_isDone isDone stands
      refine ⟨answer, stands, ?_⟩
      rw [Service.answerTo_of_agreement agree (orderIs.mem_iff.mpr isSent)
        (turnsAre.mem_iff.mpr isSent)]
      exact linear.answered stands rfl

/-- Two commands that are sent at once both find their game before either has its lane, and then one
of them has to wait for the other. -/
theorem stages_of_two {service : Service} {game : Game} {gameId : String}
    (loaded : service.store.load gameId = .ok game) {first second : List UInt8 × Instant}
    (isFirst : Command.gameIdOf first.1 = .ok gameId)
    (isSecond : Command.gameIdOf second.1 = .ok gameId) :
    ((arriving service [first, second]).run [0, 1, 0, 1, 0, 1]).flights.map Flight.stage =
      [.working gameId 0, .queued gameId 0] := by
  have inLane : (insertKeyed gameId 0 []).lookup gameId = some 0 := lookup_insertKeyed_self _ _ _
  simp [run, arriving, step, advance, isFirst, isSecond, loaded, setStage, join, laneOf, enter,
    holders, changeHolders, updateFirst, inLane]

/-- Two commands, one after the other, leave a started game and are both answered with packs, if that
is what they do to the games in memory. -/
theorem served_of_mirrors {service : Service} {memory : Memory} (mirrors : service.Mirrors memory)
    {first second : Sent} (apart : first ≠ second) {gameId : String}
    (isFirst : (memory.handle first.bytes first.now).2.toOption.isSome = true)
    (isSecond : ((memory.handle first.bytes first.now).1.handle second.bytes
      second.now).2.toOption.isSome = true)
    (starts : (((memory.handle first.bytes first.now).1.handle second.bytes
      second.now).1.games.lookup gameId).any Game.started = true) :
    (∃ game, (service.handleAll [first, second]).store.load gameId = .ok game ∧
        game.started = true) ∧
      ∀ sent ∈ [first, second], ∃ packs,
        Service.answerTo sent service [first, second] = some (.ok packs) := by
  have answers : ∀ {answer : Except Failure Packs} {reply : Except Failure Response},
      answer.map .packs = reply → reply.toOption.isSome = true → ∃ packs, answer = .ok packs := by
    rintro (failure | packs) reply rfl isPacks
    · cases isPacks
    · exact ⟨packs, rfl⟩
  obtain ⟨firstSame, between⟩ := mirrors.handle first.bytes first.now
  obtain ⟨secondSame, later⟩ := between.handle second.bytes second.now
  obtain ⟨packs, firstAnswer⟩ := answers firstSame isFirst
  obtain ⟨morePacks, secondAnswer⟩ := answers secondSame isSecond
  obtain ⟨game, isHeld, started⟩ := (Option.any_eq_true _ _).mp starts
  refine ⟨⟨game, later.load_of_held isHeld, started⟩, fun sent member => ?_⟩
  rcases List.mem_cons.mp member with rfl | member
  · exact ⟨packs, by rw [Service.answerTo, if_pos rfl, firstAnswer]⟩
  · obtain rfl := List.mem_singleton.mp member
    refine ⟨morePacks, ?_⟩
    rw [Service.answerTo, if_neg apart, Service.answerTo, if_pos rfl, secondAnswer]

/-- A service with a duel that has just been dealt. -/
def duelHall : Service :=
  (Service.ofSettings ⟨Double.ofInt 30⟩).after [.create "g" 7 [⟨"a", ""⟩, ⟨"b", ""⟩]]

/-- Both players of a duel get ready at once, and one command has to wait for the other.  Both are
answered, and the game has been started. -/
theorem commands_linearize_in_a_duel :
    let halfway := (arriving duelHall Game.bothReady).run [0, 1, 0, 1, 0, 1]
    halfway.flights.map Flight.stage = [.working "g" 0, .queued "g" 0] ∧
      ∃ more, (halfway.run more).isDone = true ∧ (halfway.run more).current = [] ∧
        (∃ game, (halfway.run more).service.store.load "g" = .ok game ∧ game.started = true) ∧
        ∀ sent ∈ Sent.all Game.bothReady, ∃ packs,
          (halfway.run more).At sent (.done (.ok packs)) := by
  -- for any service and commands first, so that nothing computes with the ones given
  have served : ∀ (service : Service) (first second : List UInt8 × Instant) (game : Game),
      service.store.load "g" = .ok game →
      Command.gameIdOf first.1 = .ok "g" → Command.gameIdOf second.1 = .ok "g" →
      (∀ order, order.Perm (Sent.all [first, second]) →
        (∃ game, (service.handleAll order).store.load "g" = .ok game ∧ game.started = true) ∧
          ∀ sent ∈ order, ∃ packs, Service.answerTo sent service order = some (.ok packs)) →
      let halfway := (arriving service [first, second]).run [0, 1, 0, 1, 0, 1]
      halfway.flights.map Flight.stage = [.working "g" 0, .queued "g" 0] ∧
        ∃ more, (halfway.run more).isDone = true ∧ (halfway.run more).current = [] ∧
          (∃ game, (halfway.run more).service.store.load "g" = .ok game ∧ game.started = true) ∧
          ∀ sent ∈ Sent.all [first, second], ∃ packs,
            (halfway.run more).At sent (.done (.ok packs)) := by
    intro service first second game loaded isFirst isSecond inAnyOrder halfway
    refine ⟨stages_of_two loaded isFirst isSecond, ?_⟩
    obtain ⟨-, -, -, ⟨more, isDone⟩, -⟩ :=
      commands_linearize service [first, second] [0, 1, 0, 1, 0, 1]
    obtain ⟨-, -, -, -, ends⟩ :=
      commands_linearize service [first, second] ([0, 1, 0, 1, 0, 1] ++ more)
    rw [run, List.foldl_append] at ends
    obtain ⟨noLanes, turnsAre, agrees⟩ := ends isDone
    obtain ⟨texts, answers⟩ := agrees _ turnsAre fun _ _ _ => rfl
    obtain ⟨⟨left, isLeft, started⟩, answered⟩ := inAnyOrder _ turnsAre
    refine ⟨more, isDone, noLanes, ⟨left, ?_, started⟩, fun sent isSent => ?_⟩
    · exact (Service.load_congr (texts "g")).trans isLeft
    · obtain ⟨answer, stands, isAnswer⟩ := answers sent isSent
      obtain ⟨packs, isPacks⟩ := answered sent (turnsAre.mem_iff.mpr isSent)
      cases isAnswer.symm.trans isPacks
      exact ⟨packs, stands⟩
  have mirrors := @Service.mirrors_of_deal (Double.ofInt 30)
    (Double.readsBack_ofInt (by decide) (by decide)) _ _ _ _ Game.deal_duel
  have isRouted : ∀ sent ∈ Game.bothReady, Command.gameIdOf sent.1 = .ok "g" := by
    intro sent isSent
    refine Game.eq_ok_of_toOption ?_
    revert sent
    decide +kernel
  refine served duelHall _ _ Game.duel (mirrors.load_of_held rfl)
    (isRouted _ List.mem_cons_self) (isRouted _ (List.mem_cons_of_mem _ List.mem_cons_self)) ?_
  intro order isOrder
  rcases List.perm_pair.mp isOrder with rfl | rfl
  · exact served_of_mirrors mirrors (by simp) (by decide +kernel) (by decide +kernel)
      (by decide +kernel)
  · exact served_of_mirrors mirrors (by simp) (by decide +kernel) (by decide +kernel)
      (by decide +kernel)

end Traffic

end Durak
