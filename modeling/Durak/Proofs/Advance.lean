import Durak.Proofs.Ending

/-!
# Nothing is undone

A game only goes forward.  Cards leave the deck from its end and never come back; the discard pile
only grows, and what is put on it has been on the table just before; whoever is ready stays ready; a
game that has been started stays started; and what was settled by the deal stays settled.

`Advances` says this of two games, one step apart.  It holds for every step and for every game, also
for one that no deal leads to, as nothing is asked of the game (`advances_after`).  For a whole run
the parts are put together one after another (`progress_is_never_undone`).
-/

set_option autoImplicit false

namespace Durak

namespace Game

/-- A game has gone forward, or is the same. -/
structure Advances (before after : Game) : Prop where
  deck : after.deck <+: before.deck
  discard : ∃ added, after.discard = before.discard ++ added ∧
    ∀ card ∈ added, card ∈ tableCards before.table
  ready : ∀ id ∈ before.readyVotes, id ∈ after.readyVotes
  started : before.started = true → after.started = true
  terms : after.terms = before.terms

/-! ## The deck is drawn from -/

/-- A hand is filled up from the end of the deck, whatever the hand and the deck. -/
theorem deck_prefix_replenished (player : Player) (deck : List Card) :
    (player.replenished deck).2 <+: deck := by
  rw [(hand_replenished player deck).2]
  exact List.take_prefix _ deck

theorem deck_prefix_replenish (game : Game) (id : String) :
    (game.replenish id).deck <+: game.deck := by
  cases seat : game.player? id with
  | none =>
    have same : (game.replenish id).deck = game.deck := congrArg deck (replenish_of_unseated seat)
    exact same ▸ List.prefix_rfl
  | some player =>
    rw [replenish_of_player? seat]
    exact deck_prefix_replenished player game.deck

/-- Filling up hands one after another takes cards from the end of the deck only. -/
theorem deck_prefix_foldl_replenish (ids : List String) (game : Game) :
    (ids.foldl replenish game).deck <+: game.deck := by
  induction ids generalizing game with
  | nil => exact List.prefix_rfl
  | cons id ids hypothesis =>
    exact (hypothesis (game.replenish id)).trans (deck_prefix_replenish game id)

theorem deck_prefix_resolveRound (game : Game) (switch : Bool) :
    (game.resolveRound switch).deck <+: game.deck := by
  rw [(players_resolveRound game switch).2]
  exact deck_prefix_foldl_replenish game.drawingOrder game

/-! ## One step -/

variable {game after : Game}

/-- When deck and discard pile stay, a game advances as its ready players and its start do. -/
theorem Advances.of_same (deck : after.deck = game.deck) (discard : after.discard = game.discard)
    (ready : ∀ id ∈ game.readyVotes, id ∈ after.readyVotes)
    (started : game.started = true → after.started = true) (terms : after.terms = game.terms) :
    game.Advances after where
  deck := deck ▸ List.prefix_rfl
  discard := ⟨[], discard.trans (List.append_nil _).symm,
    fun _ member => absurd member List.not_mem_nil⟩
  ready := ready
  started := started
  terms := terms

theorem Advances.pushEvent (advances : game.Advances after) (event : Event) :
    game.Advances (after.pushEvent event) :=
  ⟨advances.deck, advances.discard, advances.ready, advances.started, advances.terms⟩

/-- Closing a round draws from the deck and puts the table on the discard pile. -/
theorem advances_resolveRound (game : Game) (switch : Bool) :
    game.Advances (game.resolveRound switch) where
  deck := deck_prefix_resolveRound game switch
  discard := ⟨tableCards game.table, discard_resolveRound game switch, fun _ laid => laid⟩
  ready id isReady := by
    rwa [show (game.resolveRound switch).readyVotes = game.readyVotes from
      filled_keeps readyVotes (fun _ _ _ _ _ => rfl) game switch]
  started begun := (filled_keeps Game.started (fun _ _ _ _ _ => rfl) game switch).trans begun
  terms := terms_resolveRound game switch

/-- Closing a round on a vote puts the table on the discard pile too, also when it ends the game. -/
theorem advances_endRound (game : Game) : game.Advances game.endRound.game := by
  rcases endRound_game game with same | ⟨result, same⟩ <;> rw [same]
  · exact advances_resolveRound game true
  · exact (advances_resolveRound game true).pushEvent _

/-- Taking the cards draws from the deck.  The table has gone to a hand, so nothing is discarded. -/
theorem advances_take (game : Game) (userId : String) :
    game.Advances (((game.takeTable userId).resolveRound false).passOver userId) where
  deck := by
    rw [passOver_keeps deck fun _ _ _ => rfl]
    exact deck_prefix_resolveRound (game.takeTable userId) false
  discard := by
    rw [passOver_keeps discard fun _ _ _ => rfl, discard_resolveRound]
    exact ⟨[], rfl, fun _ member => absurd member List.not_mem_nil⟩
  ready id isReady := by
    rw [passOver_keeps readyVotes fun _ _ _ => rfl]
    exact (advances_resolveRound (game.takeTable userId) false).ready id isReady
  started begun := by
    rw [passOver_keeps Game.started fun _ _ _ => rfl]
    exact (advances_resolveRound (game.takeTable userId) false).started begun
  terms := (terms_passOver _ userId).trans
    ((terms_resolveRound _ false).trans (terms_takeTable game userId))

/-- **Every command advances every game**, or leaves it. -/
theorem advances_apply (game : Game) (userId : String) (action : Action) (now : Instant) :
    game.Advances (game.apply userId action now).game := by
  have terms := terms_apply game userId action now
  have effect := apply_effect game userId action now
  generalize (game.apply userId action now).violation = verdict,
    (game.apply userId action now).game = result at effect terms ⊢
  have more : ∀ id ∈ game.readyVotes, id ∈ game.readyVotes.insert userId := fun id isReady =>
    Voters.mem_insert.mpr (.inr isReady)
  cases effect with
  | unregistered | readyAgain | attackRefused | defendRefused | endRefused | takeRefused
  | takeUnseated | timerRefused | defendLate | vote | timerShown | attack =>
    exact .of_same rfl rfl (fun _ isReady => isReady) (fun begun => begun) terms
  | ready => exact .of_same rfl rfl more (fun begun => begun) terms
  | start => exact .of_same rfl rfl more (fun _ => rfl) terms
  | attackLate => exact advances_resolveRound game true
  | defend target card =>
    have ready := layCover_keeps readyVotes (fun _ _ _ => rfl) (game.withoutCard userId card) userId
      target card now
    have started := layCover_keeps Game.started (fun _ _ _ => rfl) (game.withoutCard userId card)
      userId target card now
    exact .of_same (layCover_keeps deck (fun _ _ _ => rfl) _ userId target card now)
      (layCover_keeps discard (fun _ _ _ => rfl) _ userId target card now)
      (fun id isReady => ready ▸ isReady) (fun begun => started.trans begun) terms
  | endRound =>
    rw [endRound_voteEnd]
    exact advances_endRound game
  | take => exact advances_take game userId
  | timerClosed => exact (advances_resolveRound game true).pushEvent _

theorem advances_after (game : Game) (step : Step) : game.Advances (game.after step) := by
  cases step with
  | command userId action now => exact advances_apply game userId action now
  | handOut => exact .of_same rfl rfl (fun _ isReady => isReady) (fun begun => begun) rfl

/-! ## Runs -/

/-- Along a run the deck is drawn from its end. -/
theorem deck_prefix_afterAll (game : Game) (steps : List Step) :
    (game.afterAll steps).deck <+: game.deck :=
  @invariant_afterAll (fun later => later.deck <+: game.deck)
    (fun later step kept => (advances_after later step).deck.trans kept) game List.prefix_rfl steps

theorem ready_afterAll {id : String} (isReady : id ∈ game.readyVotes) (steps : List Step) :
    id ∈ (game.afterAll steps).readyVotes :=
  @invariant_afterAll (fun later => id ∈ later.readyVotes)
    (fun later step kept => (advances_after later step).ready id kept) game isReady steps

theorem started_afterAll (started : game.started = true) (steps : List Step) :
    (game.afterAll steps).started = true :=
  @invariant_afterAll (fun later => later.started = true)
    (fun later step kept => (advances_after later step).started kept) game started steps

/-- What a run puts on the discard pile has been on the table at some step of it. -/
theorem exists_discarded (game : Game) (steps : List Step) :
    ∃ added, (game.afterAll steps).discard = game.discard ++ added ∧
      ∀ card ∈ added, ∃ before step after, steps = before ++ step :: after ∧
        card ∈ tableCards (game.afterAll before).table := by
  induction steps generalizing game with
  | nil => exact ⟨[], (List.append_nil _).symm, fun _ member => absurd member List.not_mem_nil⟩
  | cons step steps hypothesis =>
    obtain ⟨first, isFirst, laid⟩ := (advances_after game step).discard
    obtain ⟨rest, isRest, laidLater⟩ := hypothesis (game.after step)
    refine ⟨first ++ rest, ?_, fun card member => ?_⟩
    · rw [afterAll_cons, isRest, isFirst, List.append_assoc]
    · rcases List.mem_append.mp member with early | late
      · exact ⟨[], step, steps, rfl, laid card early⟩
      · obtain ⟨before, other, after, split, there⟩ := laidLater card late
        exact ⟨step :: before, other, after, congrArg (step :: ·) split, there⟩

/-- **Progress is never undone.**  Let anybody give any commands to any game at any instants.
However far the run has come, the next step draws from the end of the deck or leaves it; it adds to
the discard pile, and only cards that are on the table, or leaves it; nobody who is ready stops
being so; a started game stays started; and id, settings, trump suit and seating stay what they are.
So the deck at the end is what is left of the first deck, the discard pile still begins with the
first one, and every card on it since then was on the table at some step of the run. -/
theorem progress_is_never_undone (game : Game) (steps : List Step) :
    let later := game.afterAll steps
    (∀ step, later.Advances (later.after step)) ∧
      later.deck <+: game.deck ∧
      (∃ added, later.discard = game.discard ++ added ∧
        ∀ card ∈ added, ∃ before step after, steps = before ++ step :: after ∧
          card ∈ tableCards (game.afterAll before).table) ∧
      (∀ id ∈ game.readyVotes, id ∈ later.readyVotes) ∧
      (game.started = true → later.started = true) ∧
      later.id = game.id ∧ later.settings = game.settings ∧ later.trump = game.trump ∧
      later.seating = game.seating := by
  intro later
  have terms : later.terms = game.terms := terms_afterAll game steps
  exact ⟨advances_after later, deck_prefix_afterAll game steps, exists_discarded game steps,
    fun _ isReady => ready_afterAll isReady steps, fun started => started_afterAll started steps,
    congrArg (·.1) terms, settings_eq_of_terms terms, trump_eq_of_terms terms,
    seating_eq_of_terms terms⟩

end Game

end Durak
