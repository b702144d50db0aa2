import Durak.Proofs.Effect

/-!
# Runs

A game goes on in steps: somebody asks for something at an instant, or the events collected so far
are handed out.  `Game.after` is the game after one step and `Game.afterAll` the game after a list
of them; users, actions and clocks are arbitrary, and events may be handed out after every command,
as a transaction does it, or never.

An invariant is proved for one step and then holds of every run (`invariant_afterAll`).  The first
one is that a run never changes what was settled when the game was dealt (`terms_afterAll`).
-/

set_option autoImplicit false

namespace Durak

/-- What can happen to a game. -/
inductive Step where
  | command (userId : String) (action : Action) (now : Instant)
  | handOut

namespace Game

/-- The game after a step. -/
def after (game : Game) : Step → Game
  | .command userId action now => (game.apply userId action now).game
  | .handOut => game.withoutEvents

/-- The game after some steps. -/
def afterAll (game : Game) (steps : List Step) : Game := steps.foldl after game

@[simp] theorem afterAll_nil (game : Game) : game.afterAll [] = game := rfl

@[simp] theorem afterAll_cons (game : Game) (step : Step) (steps : List Step) :
    game.afterAll (step :: steps) = (game.after step).afterAll steps := rfl

/-- What every step keeps, every run keeps. -/
theorem invariant_afterAll {holds : Game → Prop}
    (kept : ∀ game step, holds game → holds (game.after step)) {game : Game}
    (start : holds game) (steps : List Step) : holds (game.afterAll steps) := by
  induction steps generalizing game with
  | nil => exact start
  | cons step steps hypothesis => exact hypothesis (kept game step start)

/-! ## Filling up hands -/

/-- Filling up a hand, with the player that fills it read off the seat. -/
theorem replenish_of_player? {game : Game} {id : String} {player : Player}
    (seat : game.player? id = some player) :
    game.replenish id =
      { game.updatePlayer id fun _ => (player.replenished game.deck).1 with
        deck := (player.replenished game.deck).2 } := by
  unfold replenish
  rw [seat]

theorem replenish_of_unseated {game : Game} {id : String} (unseated : game.player? id = none) :
    game.replenish id = game := by
  unfold replenish
  rw [unseated]

/-- Filling up changes the hands and the deck only. -/
theorem replenish_keeps {β : Type} (view : Game → β)
    (free : ∀ game players deck, view { game with players, deck } = view game)
    (game : Game) (id : String) : view (game.replenish id) = view game := by
  cases seat : game.player? id with
  | none => rw [replenish_of_unseated seat]
  | some player =>
    rw [replenish_of_player? seat]
    exact free game _ _

theorem foldl_replenish_keeps {β : Type} (view : Game → β)
    (kept : ∀ game id, view (game.replenish id) = view game) (ids : List String) (game : Game) :
    view (ids.foldl replenish game) = view game := by
  induction ids generalizing game with
  | nil => rfl
  | cons id ids hypothesis => rw [List.foldl_cons, hypothesis, kept]

theorem replenishAll_keeps {β : Type} (view : Game → β)
    (free : ∀ game players deck, view { game with players, deck } = view game) (game : Game) :
    view game.replenishAll = view game :=
  foldl_replenish_keeps view (replenish_keeps view free) game.drawingOrder game

/-- A hand is filled up in its seat. -/
theorem chair_replenished (player : Player) (deck : List Card) :
    (player.replenished deck).1.chair = player.chair := by
  unfold Player.replenished
  split <;> rfl

@[simp] theorem seating_replenish (game : Game) (id : String) :
    (game.replenish id).seating = game.seating := by
  cases seat : game.player? id with
  | none => rw [replenish_of_unseated seat]
  | some player =>
    rw [replenish_of_player? seat]
    refine seating_updatePlayer fun found same => ?_
    rw [seat] at same
    cases same
    exact chair_replenished player game.deck

@[simp] theorem seating_replenishAll (game : Game) : game.replenishAll.seating = game.seating :=
  foldl_replenish_keeps seating seating_replenish game.drawingOrder game

/-! ## What else a command is made of -/

/-- Moving the roles on changes the roles only. -/
theorem switchRoles_keeps {β : Type} (view : Game → β)
    (free : ∀ game attackerId defenderId, view { game with attackerId, defenderId } = view game)
    (game : Game) : view game.switchRoles = view game := by
  unfold switchRoles
  split
  · exact free game _ _
  · rfl

/-- Passing over a player changes the roles only. -/
theorem passOver_keeps {β : Type} (view : Game → β)
    (free : ∀ game attackerId defenderId, view { game with attackerId, defenderId } = view game)
    (game : Game) (id : String) : view (game.passOver id) = view game := by
  unfold passOver
  split
  · split
    · exact free game _ _
    · rfl
  · rfl

/-- Laying a cover does more than covering the card only to the attack timer and the events. -/
theorem layCover_keeps {β : Type} (view : Game → β)
    (free : ∀ game attackTimer events, view { game with attackTimer, events } = view game)
    (game : Game) (userId : String) (target card : Card) (now : Instant) :
    view (game.layCover userId target card now) = view (game.cover target card) := by
  unfold layCover
  simp only
  split
  · exact free (game.cover target card) _ _
  · exact free (game.cover target card) (game.cover target card).attackTimer _

/-- The game with its hands filled up, and its roles moved on if asked for. -/
def filled (game : Game) (switch : Bool) : Game :=
  if switch then game.replenishAll.switchRoles else game.replenishAll

theorem resolveRound_eq (game : Game) (switch : Bool) :
    game.resolveRound switch = (game.filled switch).clearTable.pushEvent .endAttack := rfl

/-- Before the table is cleared, closing a round changes the hands, the deck and the roles only. -/
theorem filled_keeps {β : Type} (view : Game → β)
    (free : ∀ game players deck attackerId defenderId,
      view { game with players, deck, attackerId, defenderId } = view game)
    (game : Game) (switch : Bool) : view (game.filled switch) = view game := by
  have dealt : view game.replenishAll = view game :=
    replenishAll_keeps view (fun game players deck => free game players deck _ _) game
  cases switch with
  | false => exact dealt
  | true =>
    exact (switchRoles_keeps view (fun game => free game _ _) game.replenishAll).trans dealt

/-! ## What was settled when the game was dealt -/

/-- What is settled when a game is dealt: its id, its settings, the trump suit and who sits
where. -/
def terms (game : Game) : String × Settings × Suit × List (String × String × UInt8) :=
  (game.id, game.settings, game.trump, game.seating)

theorem settings_eq_of_terms {first second : Game} (same : first.terms = second.terms) :
    first.settings = second.settings := congrArg (·.2.1) same

theorem trump_eq_of_terms {first second : Game} (same : first.terms = second.terms) :
    first.trump = second.trump := congrArg (·.2.2.1) same

theorem terms_replenishAll (game : Game) : game.replenishAll.terms = game.terms := by
  unfold terms
  rw [seating_replenishAll]
  exact congrArg
    (fun kept : String × Settings × Suit => (kept.1, kept.2.1, kept.2.2, game.seating))
    (replenishAll_keeps (fun game => (game.id, game.settings, game.trump))
      (fun _ _ _ => rfl) game)

theorem terms_switchRoles (game : Game) : game.switchRoles.terms = game.terms :=
  switchRoles_keeps terms (fun _ _ _ => rfl) game

theorem terms_filled (game : Game) (switch : Bool) : (game.filled switch).terms = game.terms := by
  cases switch with
  | false => exact terms_replenishAll game
  | true => exact (terms_switchRoles game.replenishAll).trans (terms_replenishAll game)

theorem terms_resolveRound (game : Game) (switch : Bool) :
    (game.resolveRound switch).terms = game.terms := by
  rw [resolveRound_eq, ← terms_filled game switch]
  rfl

theorem terms_updatePlayer {game : Game} {id : String} {change : Player → Player}
    (kept : ∀ player, (change player).chair = player.chair) :
    (game.updatePlayer id change).terms = game.terms :=
  congrArg (fun seating => (game.id, game.settings, game.trump, seating))
    (seating_updatePlayer fun player _ => kept player)

theorem terms_withoutCard (game : Game) (userId : String) (card : Card) :
    (game.withoutCard userId card).terms = game.terms :=
  terms_updatePlayer fun _ => rfl

theorem terms_layAttack (game : Game) (userId : String) (card : Card) (now : Instant) :
    (game.layAttack userId card now).terms = game.terms := rfl

theorem terms_layCover (game : Game) (userId : String) (target card : Card) (now : Instant) :
    (game.layCover userId target card now).terms = game.terms :=
  layCover_keeps terms (fun _ _ _ => rfl) game userId target card now

theorem terms_takeTable (game : Game) (userId : String) :
    (game.takeTable userId).terms = game.terms := by
  have kept := @terms_updatePlayer game userId
    (fun player => { player with hand := player.hand ++ tableCards game.table }) fun _ => rfl
  rw [← kept]
  rfl

theorem terms_passOver (game : Game) (userId : String) :
    (game.passOver userId).terms = game.terms :=
  passOver_keeps terms (fun _ _ _ => rfl) game userId

/-- Closing a round that everyone wants to end, with the last event told apart. -/
theorem endRound_game (game : Game) :
    game.endRound.game = game.resolveRound true ∨
      ∃ result, game.endRound.game = (game.resolveRound true).pushEvent (.endGame result) := by
  unfold endRound
  simp only
  split
  · exact .inr ⟨_, rfl⟩
  · exact .inl rfl

theorem terms_pushEvent (game : Game) (event : Event) :
    (game.pushEvent event).terms = game.terms := rfl

/-- That the game may end with the round shows in the events only. -/
theorem endRound_keeps {β : Type} (view : Game → β)
    (free : ∀ game events, view { game with events } = view game) (game : Game) :
    view game.endRound.game = view (game.resolveRound true) := by
  rcases endRound_game game with same | ⟨result, same⟩ <;> rw [same]
  exact free (game.resolveRound true) _

theorem table_endRound (game : Game) : game.endRound.game.table = [] :=
  endRound_keeps table (fun _ _ => rfl) game

theorem terms_endRound (game : Game) : game.endRound.game.terms = game.terms :=
  (endRound_keeps terms (fun _ _ => rfl) game).trans (terms_resolveRound game true)

/-- **No command changes what was settled when the game was dealt.** -/
theorem terms_apply (game : Game) (userId : String) (action : Action) (now : Instant) :
    (game.apply userId action now).game.terms = game.terms := by
  have effect := apply_effect game userId action now
  generalize (game.apply userId action now).violation = verdict,
    (game.apply userId action now).game = result at effect ⊢
  cases effect with
  | unregistered | readyAgain | attackRefused | defendRefused | endRefused | takeRefused
  | takeUnseated | timerRefused => rfl
  | ready | start | defendLate | vote | timerShown => rfl
  | attackLate => exact terms_resolveRound game true
  | attack card =>
    exact (terms_layAttack _ userId card now).trans (terms_withoutCard game userId card)
  | defend target card =>
    exact (terms_layCover _ userId target card now).trans (terms_withoutCard game userId card)
  | endRound => exact terms_endRound (game.voteEnd userId)
  | take =>
    exact (terms_passOver _ userId).trans
      ((terms_resolveRound _ false).trans (terms_takeTable game userId))
  | timerClosed => exact (terms_pushEvent _ _).trans (terms_resolveRound game true)

theorem terms_after (game : Game) (step : Step) : (game.after step).terms = game.terms := by
  cases step with
  | command userId action now => exact terms_apply game userId action now
  | handOut => rfl

/-- **No run changes what was settled when the game was dealt.** -/
theorem terms_afterAll (game : Game) (steps : List Step) :
    (game.afterAll steps).terms = game.terms :=
  @invariant_afterAll (fun later => later.terms = game.terms)
    (fun later step same => (terms_after later step).trans same) game rfl steps

end Game

end Durak
