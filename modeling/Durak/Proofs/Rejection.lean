import Durak.Proofs.Rotation

/-!
# Rejected commands

A rejected command leaves the game as it was, events included.  There are two exceptions, and
`remains` names them: an attack that comes after the attack timer has run out closes the round, and
a defence that comes after the defend timer has run out announces the end of the attack.

Every other change is made only when the whole chain of checks has passed, and then it cannot fail:
`serverError`, the violation for a change that could not be carried out, is answered only when the
cards are asked for in the name of a defender without a seat, and along a run from a deal the
defender always has one.
-/

set_option autoImplicit false

namespace Durak

namespace Game

/-- What remains of a game when an action is rejected with a violation. -/
def remains (game : Game) : Action → Violation → Game
  | .attack _, .attackTimeOver => game.resolveRound true
  | .defend _ _, .defendTimeOver => game.pushEvent .endAttack
  | _, _ => game

/-- Outside the two exceptions a rejected action leaves the game. -/
theorem remains_eq_self {game : Game} {action : Action} {violation : Violation}
    (noLateAttack : ∀ card, action = .attack card → violation ≠ .attackTimeOver)
    (noLateDefence : ∀ target card, action = .defend target card → violation ≠ .defendTimeOver) :
    game.remains action violation = game := by
  unfold remains
  split
  · exact absurd rfl (noLateAttack _ rfl)
  · exact absurd rfl (noLateDefence _ _ rfl)
  · rfl

/-- The two exceptions are changes: each appends an event. -/
theorem events_resolveRound (game : Game) (switch : Bool) :
    (game.resolveRound switch).events = game.events ++ [.endAttack] := by
  rw [← filled_keeps events (fun _ _ _ _ _ => rfl) game switch]
  rfl

/-- What a rejected command leaves. -/
theorem game_of_rejected {game : Game} {userId : String} {action : Action} {now : Instant}
    {violation : Violation}
    (rejected : (game.apply userId action now).violation = some violation) :
    (game.apply userId action now).game = game.remains action violation := by
  have effect := apply_effect game userId action now
  rw [rejected] at effect
  generalize (game.apply userId action now).game = result at effect ⊢
  cases effect with
  | unregistered | readyAgain | endRefused | takeRefused | takeUnseated =>
    exact (remains_eq_self (fun _ same => by cases same) fun _ _ same => by cases same).symm
  | attackRefused card violation reported other =>
    exact (remains_eq_self (fun _ _ => other) fun _ _ same => by cases same).symm
  | attackLate | defendLate => rfl
  | defendRefused target card violation reported other =>
    exact (remains_eq_self (fun _ same => by cases same) fun _ _ _ => other).symm
  | timerRefused kind asks =>
    refine (remains_eq_self (fun _ _ same => ?_) fun _ _ _ same => ?_).symm <;> cases same

/-- Only asking for the cards can run into a failed change, and only when the defender is not
seated. -/
theorem unseated_of_serverError {game : Game} {userId : String} {action : Action} {now : Instant}
    (failed : (game.apply userId action now).violation = some .serverError) :
    action = .takeAllCards ∧ game.player? game.defenderId = none := by
  have effect := apply_effect game userId action now
  rw [failed] at effect
  generalize (game.apply userId action now).game = result at effect
  cases effect with
  | attackRefused card _ reported => exact absurd reported attackViolation?_ne_serverError
  | defendRefused target card _ reported => exact absurd reported defendViolation?_ne_serverError
  | endRefused _ reported => exact absurd reported endAttackViolation?_ne_serverError
  | takeRefused _ reported => exact absurd reported takeViolation?_ne_serverError
  | takeUnseated permitted unseated => exact ⟨rfl, permitted.defender ▸ unseated⟩

/-- Along a run from a deal no change fails. -/
theorem no_serverError_of_deal {id : String} {entrants : List Entrant} {settings : Settings}
    {seed : UInt64} {dealt : Game} (isDealt : deal id entrants settings seed = .ok dealt)
    (steps : List Step) (userId : String) (action : Action) (now : Instant) :
    ((dealt.afterAll steps).apply userId action now).violation ≠ some .serverError := by
  intro failed
  obtain ⟨place, start⟩ := attacksFrom_of_deal isDealt
  have seated := isSome_player?_iff.mpr (start.afterAll steps).defender_mem
  rw [(unseated_of_serverError failed).2] at seated
  cases seated

/-- **A rejected command is atomic.**  For any game whatsoever, a command that is rejected leaves
the whole game as it was, with two exceptions: a late attack leaves the game with its round closed,
and a late defence appends one event.  A change that the checks have permitted never fails, except
that the cards cannot be taken up by a defender without a seat, which no run from a deal reaches. -/
theorem rejected_command_is_atomic :
    (∀ (game : Game) (userId : String) (action : Action) (now : Instant) (violation : Violation),
      (game.apply userId action now).violation = some violation →
        (∀ card, action = .attack card → violation = .attackTimeOver →
            (game.apply userId action now).game = game.resolveRound true) ∧
          (∀ target card, action = .defend target card → violation = .defendTimeOver →
            (game.apply userId action now).game =
              { game with events := game.events ++ [.endAttack] }) ∧
          (((∀ card, action = .attack card → violation ≠ .attackTimeOver) ∧
              ∀ target card, action = .defend target card → violation ≠ .defendTimeOver) ↔
            (game.apply userId action now).game = game)) ∧
      (∀ (game : Game) (userId : String) (action : Action) (now : Instant),
        (game.apply userId action now).violation = some .serverError →
          action = .takeAllCards ∧ game.player? game.defenderId = none) ∧
      ∀ (id : String) (entrants : List Entrant) (settings : Settings) (seed : UInt64)
        (dealt : Game), deal id entrants settings seed = .ok dealt →
          ∀ (steps : List Step) (userId : String) (action : Action) (now : Instant),
            ((dealt.afterAll steps).apply userId action now).violation ≠ some .serverError := by
  refine ⟨fun game userId action now violation rejected => ?_,
    fun game userId action now failed => unseated_of_serverError failed,
    fun id entrants settings seed dealt isDealt steps userId action now =>
      no_serverError_of_deal isDealt steps userId action now⟩
  have left := game_of_rejected rejected
  refine ⟨?_, ?_, fun ⟨noLateAttack, noLateDefence⟩ => ?_, fun same => ⟨?_, ?_⟩⟩
  · rintro card rfl rfl
    exact left
  · rintro target card rfl rfl
    exact left
  · exact left.trans (remains_eq_self noLateAttack noLateDefence)
  · rintro card rfl rfl
    have longer := congrArg (fun game => game.events.length) (same.symm.trans left)
    simp [remains, events_resolveRound] at longer
  · rintro target card rfl rfl
    have longer := congrArg (fun game => game.events.length) (same.symm.trans left)
    simp [remains, pushEvent] at longer

/-- A game between two players with one card each.  It has been started, and the attack timer has
been running since the start of 1970. -/
def waitingDuel : Game where
  id := "g"
  settings := ⟨Double.ofInt 30⟩
  players := [⟨"a", "", 0, [⟨.hearts, .six⟩], []⟩, ⟨"b", "", 1, [⟨.hearts, .seven⟩], []⟩]
  attackerId := "a"
  defenderId := "b"
  deck := [⟨.spades, .ace⟩]
  trump := .clubs
  table := []
  discard := []
  endVotes := .none
  readyVotes := .none
  started := true
  attackTimer := .startedNow (.ofUnixSeconds 0)
  defendTimer := .stopped
  events := [.ready "a"]

/-- An attack after a minute comes too late; a defence out of turn leaves everything as it was. -/
theorem rejected_command_is_atomic_in_a_duel :
    ((waitingDuel.apply "a" (.attack ⟨.hearts, .six⟩) (.ofUnixSeconds 60)).violation =
        some .attackTimeOver ∧
      (waitingDuel.apply "a" (.attack ⟨.hearts, .six⟩) (.ofUnixSeconds 60)).game =
        waitingDuel.resolveRound true) ∧
      (waitingDuel.apply "a" (.defend ⟨.hearts, .six⟩ ⟨.hearts, .seven⟩)
          (.ofUnixSeconds 60)).violation = some .notYourTurn ∧
        (waitingDuel.apply "a" (.defend ⟨.hearts, .six⟩ ⟨.hearts, .seven⟩)
          (.ofUnixSeconds 60)).game = waitingDuel := by
  have late : (waitingDuel.apply "a" (.attack ⟨.hearts, .six⟩) (.ofUnixSeconds 60)).violation =
      some .attackTimeOver := by decide +kernel
  have outOfTurn : (waitingDuel.apply "a" (.defend ⟨.hearts, .six⟩ ⟨.hearts, .seven⟩)
      (.ofUnixSeconds 60)).violation = some .notYourTurn := by decide +kernel
  exact ⟨⟨late, (rejected_command_is_atomic.1 _ _ _ _ _ late).1 _ rfl rfl⟩, outOfTurn,
    (rejected_command_is_atomic.1 _ _ _ _ _ outOfTurn).2.2.mp
      ⟨fun _ same => (by cases same), fun _ _ _ same => (by cases same)⟩⟩

end Game

end Durak
