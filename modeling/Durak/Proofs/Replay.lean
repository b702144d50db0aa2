import Durak.Proofs.Rejection
import Durak.Scene

/-!
# The events tell what happened

A command appends events to a game and takes none away (`events_apply`).  Replaying the appended
events on the scene before the command gives the scene after it, for any game, whether the command
was accepted, rejected, or rejected with the round closed.

There is one exception.  A defence that comes after the defend timer has run out announces the end
of the attack, but does not close the round: the scene stays, and replaying the announcement would
change it (`late_defence_is_only_announced`).

Each change of a game has a change of the scene beside it, and the lemmas say that the scene of the
changed game is the changed scene.
-/

set_option autoImplicit false

namespace Durak

/-- Changing the first element that satisfies a condition, seen through a view that the condition
and the change respect. -/
theorem map_updateFirst_of_commutes {α β : Type} {condition : α → Bool} {shown : β → Bool}
    {change : α → α} {shownChange : β → β} (view : α → β)
    (respects : ∀ item, shown (view item) = condition item) {items : List α}
    (commutes : ∀ found, items.find? condition = some found →
      view (change found) = shownChange (view found)) :
    (updateFirst condition change items).map view =
      updateFirst shown shownChange (items.map view) := by
  induction items with
  | nil => rfl
  | cons item rest hypothesis =>
    rw [List.map_cons, updateFirst, updateFirst, respects]
    by_cases satisfies : condition item = true
    · rw [if_pos satisfies, if_pos satisfies, List.map_cons,
        commutes item (List.find?_cons_of_pos satisfies)]
    · rw [if_neg satisfies, if_neg satisfies, List.map_cons, hypothesis fun found first =>
        commutes found ((List.find?_cons_of_neg satisfies).trans first)]

namespace Game

/-! ## The scene and the seats -/

@[simp] theorem ids_scene (game : Game) : game.scene.ids = game.seatIds := by
  simp only [Scene.ids, scene, seatIds, List.map_map]
  rfl

@[simp] theorem nextSeat?_scene (game : Game) (id : String) :
    game.scene.nextSeat? id = game.nextSeat? id := by
  rw [nextSeat?_eq, Scene.nextSeat?, ids_scene]
  rfl

theorem drawingOrder_scene (game : Game) : game.scene.drawingOrder = game.drawingOrder := by
  unfold Scene.drawingOrder Scene.bystanders drawingOrder
  rw [ids_scene, map_id_observers]
  rfl

theorem find?_seats_scene (game : Game) (id : String) :
    (game.scene.seats.find? fun seat => seat.id == id) =
      (game.player? id).map Player.seenByOthers :=
  List.find?_map

/-- A change of a player whose effect others can see is a change of the scene. -/
theorem scene_updatePlayer {game : Game} {id : String} {change : Player → Player}
    {shown : OtherPlayer → OtherPlayer}
    (commutes : ∀ player, game.player? id = some player →
      (change player).seenByOthers = shown player.seenByOthers) :
    (game.updatePlayer id change).scene = game.scene.changeSeat id shown := by
  unfold scene updatePlayer Scene.changeSeat
  simp only [Scene.mk.injEq, and_true]
  have respects : ∀ player : Player, (player.seenByOthers.id == id) = (player.id == id) :=
    fun _ => rfl
  exact map_updateFirst_of_commutes Player.seenByOthers respects commutes

/-! ## Closing a round -/

/-- Others see how many cards a player draws. -/
theorem toppedUp_seenByOthers (player : Player) (deck : List Card) :
    player.seenByOthers.toppedUp deck.length =
      ((player.replenished deck).1.seenByOthers, (player.replenished deck).2.length) := by
  unfold OtherPlayer.toppedUp Player.replenished Player.seenByOthers
  by_cases full : handSize ≤ player.hand.length
  · simp only [if_pos full]
  · have left : (draw (handSize - player.hand.length) deck).2.length =
        deck.length - min (handSize - player.hand.length) deck.length := by
      simp only [draw, List.length_take]
      omega
    simp only [if_neg full, List.length_append, length_draw, left]

theorem scene_replenish (game : Game) (id : String) :
    (game.replenish id).scene = game.scene.topUp id := by
  unfold Scene.topUp
  rw [find?_seats_scene]
  cases seat : game.player? id with
  | none => rw [replenish_of_unseated seat, Option.map_none]
  | some player =>
    have filled := toppedUp_seenByOthers player game.deck
    have deckSize : game.scene.deckSize = game.deck.length := rfl
    have changed := @scene_updatePlayer game id (fun _ => (player.replenished game.deck).1)
      (fun _ => (player.replenished game.deck).1.seenByOthers) fun _ _ => rfl
    rw [replenish_of_player? seat]
    simp only [Option.map_some, deckSize, filled, ← changed]
    rfl

theorem scene_foldl_replenish (ids : List String) (game : Game) :
    (ids.foldl replenish game).scene = ids.foldl Scene.topUp game.scene := by
  induction ids generalizing game with
  | nil => rfl
  | cons id ids hypothesis => rw [List.foldl_cons, List.foldl_cons, hypothesis, scene_replenish]

theorem scene_replenishAll (game : Game) : game.replenishAll.scene = game.scene.topUpAll := by
  unfold replenishAll Scene.topUpAll
  rw [scene_foldl_replenish, drawingOrder_scene]

theorem scene_switchRoles (game : Game) : game.switchRoles.scene = game.scene.switchRoles := by
  have defender : game.scene.defenderId = game.defenderId := rfl
  unfold switchRoles Scene.switchRoles
  simp only [defender, nextSeat?_scene]
  cases game.nextSeat? game.defenderId <;> rfl

theorem scene_passOver (game : Game) (id : String) :
    (game.passOver id).scene = game.scene.passOver id := by
  unfold passOver Scene.passOver
  simp only [nextSeat?_scene]
  cases game.nextSeat? id with
  | none => rfl
  | some attackerId =>
    simp only
    cases game.nextSeat? attackerId <;> rfl

theorem scene_pushEvent (game : Game) (event : Event) :
    (game.pushEvent event).scene = game.scene := rfl

theorem scene_clearTable (game : Game) :
    game.clearTable.scene = { game.scene with table := [] } := rfl

/-- Whether the table is emptied before or after the roles move on makes no difference. -/
theorem switchRoles_cleared (scene : Scene) :
    { scene.switchRoles with table := [] } = { scene with table := [] }.switchRoles := by
  have next : ({ scene with table := [] } : Scene).nextSeat? scene.defenderId =
      scene.nextSeat? scene.defenderId := rfl
  unfold Scene.switchRoles
  simp only [next]
  cases scene.nextSeat? scene.defenderId <;> rfl

theorem scene_resolveRound_true (game : Game) :
    (game.resolveRound true).scene = game.scene.closeRound none := by
  rw [resolveRound_eq, scene_pushEvent, scene_clearTable]
  show { game.replenishAll.switchRoles.scene with table := [] } = _
  rw [scene_switchRoles, scene_replenishAll, switchRoles_cleared]
  rfl

theorem scene_resolveRound_false (game : Game) :
    (game.resolveRound false).scene = { game.scene.topUpAll with table := [] } := by
  rw [resolveRound_eq, scene_pushEvent, scene_clearTable]
  show { game.replenishAll.scene with table := [] } = _
  rw [scene_replenishAll]

/-! ## Playing and taking cards -/

theorem scene_withoutCard {game : Game} {userId : String} {card : Card}
    (held : ∃ player, game.player? userId = some player ∧ card ∈ player.hand) :
    (game.withoutCard userId card).scene = game.scene.playCard userId := by
  obtain ⟨player, seat, member⟩ := held
  refine scene_updatePlayer fun found same => ?_
  rw [seat] at same
  cases same
  simp only [Player.seenByOthers, List.length_erase_of_mem member]

theorem scene_takeTable (game : Game) (userId : String) :
    (game.takeTable userId).scene = game.scene.takeTable userId := by
  have taken := @scene_updatePlayer game userId
    (fun player => { player with hand := player.hand ++ tableCards game.table })
    (fun seat => { seat with cardCount := seat.cardCount + (tableCards game.table).length })
    fun player _ => by simp only [Player.seenByOthers, List.length_append]
  show { (game.updatePlayer userId _).scene with table := [] } = _
  rw [taken]
  rfl

theorem scene_layCover (game : Game) (userId : String) (target card : Card) (now : Instant) :
    (game.layCover userId target card now).scene = (game.cover target card).scene :=
  layCover_keeps scene (fun _ _ _ => rfl) game userId target card now

/-! ## The events of a command -/

/-- The events that a command appends. -/
def occurred (game : Game) (userId : String) (action : Action) (now : Instant) : List Event :=
  (game.apply userId action now).game.events.drop game.events.length

theorem events_layCover (game : Game) (userId : String) (target card : Card) (now : Instant) :
    (game.layCover userId target card now).events =
      game.events ++ [.defend target card userId] := by
  unfold layCover
  simp only
  split <;> rfl

theorem events_passOver (game : Game) (userId : String) :
    (game.passOver userId).events = game.events :=
  passOver_keeps events (fun _ _ _ => rfl) game userId

/-- Whether an action at this instant is a defence that comes too late. -/
def DefendsLate (game : Game) (userId : String) (action : Action) (now : Instant) : Prop :=
  (∃ target card, action = .defend target card) ∧
    (game.apply userId action now).violation = some .defendTimeOver

/-- What the appended events tell about a command that leads from one game to another. -/
def Tells (before after : Game) (events : List Event) : Prop :=
  after.events = before.events ++ events ∧ before.scene.replay events = after.scene

theorem tells_nothing {before after : Game} (events : after.events = before.events)
    (scene : after.scene = before.scene) : before.Tells after [] :=
  ⟨events.trans (List.append_nil _).symm, scene.symm⟩

/-- What every command but a late defence appends tells what it did. -/
theorem exists_tells {game : Game} {userId : String} {action : Action} {now : Instant}
    (inTime : ¬game.DefendsLate userId action now) :
    ∃ events, game.Tells (game.apply userId action now).game events := by
  have effect := apply_effect game userId action now
  unfold DefendsLate at inTime
  generalize (game.apply userId action now).violation = verdict,
    (game.apply userId action now).game = result at effect inTime ⊢
  have closing : ∀ other : Game, other.events = game.events → other.scene = game.scene →
      ∀ event, (∀ scene : Scene, scene.afterEvent none event = scene) →
        game.Tells ((other.resolveRound true).pushEvent event) [.endAttack, event] := by
    intro other events scene event idle
    refine ⟨?_, ?_⟩
    · show (other.resolveRound true).events ++ [event] = _
      rw [events_resolveRound, events, List.append_assoc]
      rfl
    · show (game.scene.closeRound none).afterEvent none event = _
      rw [idle, scene_pushEvent, scene_resolveRound_true, scene]
  cases effect with
  | unregistered | readyAgain | attackRefused | defendRefused | endRefused | takeRefused
  | takeUnseated | timerRefused => exact ⟨[], tells_nothing rfl rfl⟩
  | vote => exact ⟨[], tells_nothing rfl rfl⟩
  | ready => exact ⟨[.ready userId], rfl, rfl⟩
  | start =>
    exact ⟨[.ready userId, .start game.attackerId game.defenderId game.trump],
      List.append_assoc _ _ _, rfl⟩
  | attackLate =>
    exact ⟨[.endAttack], events_resolveRound game true, (scene_resolveRound_true game).symm⟩
  | attack card permitted =>
    refine ⟨[.attack card userId], rfl, ?_⟩
    exact congrArg
      (fun scene : Scene => { scene with table := game.table ++ [TableEntry.mk card none] })
      (scene_withoutCard permitted.held).symm
  | defendLate target card => exact absurd ⟨⟨target, card, rfl⟩, rfl⟩ inTime
  | defend target card permitted =>
    refine ⟨[.defend target card userId], events_layCover _ _ _ _ _, ?_⟩
    rw [scene_layCover]
    exact congrArg (fun scene : Scene => { scene with table := (game.cover target card).table })
      (scene_withoutCard permitted.held).symm
  | endRound =>
    rcases endRound_game (game.voteEnd userId) with same | ⟨result, same⟩ <;> rw [same]
    · exact ⟨[.endAttack], events_resolveRound (game.voteEnd userId) true,
        (scene_resolveRound_true (game.voteEnd userId)).symm⟩
    · exact ⟨_, closing (game.voteEnd userId) rfl rfl (.endGame result) fun _ => rfl⟩
  | take =>
    refine ⟨[.takeAllCards userId, .endAttack], ?_, ?_⟩
    · rw [events_passOver, events_resolveRound]
      exact List.append_assoc _ _ _
    · rw [scene_passOver, scene_resolveRound_false, scene_takeTable]
      rfl
  | timerClosed kind => exact ⟨_, closing game rfl rfl _ fun _ => rfl⟩
  | timerShown kind => exact ⟨[_], rfl, rfl⟩

/-- A defence that comes too late appends the end of the attack, and leaves the scene. -/
theorem defendsLate_game {game : Game} {userId : String} {action : Action} {now : Instant}
    (late : game.DefendsLate userId action now) :
    (game.apply userId action now).game = game.pushEvent .endAttack := by
  obtain ⟨⟨target, card, rfl⟩, rejected⟩ := late
  exact game_of_rejected rejected

theorem occurred_of_append {game : Game} {userId : String} {action : Action} {now : Instant}
    {events : List Event}
    (appended : (game.apply userId action now).game.events = game.events ++ events) :
    game.occurred userId action now = events := by
  rw [occurred, appended, List.drop_left]

/-- Events are only appended. -/
theorem events_apply (game : Game) (userId : String) (action : Action) (now : Instant) :
    (game.apply userId action now).game.events =
      game.events ++ game.occurred userId action now := by
  by_cases late : game.DefendsLate userId action now
  · have appended : (game.apply userId action now).game.events = game.events ++ [.endAttack] := by
      rw [defendsLate_game late]
      rfl
    rw [occurred_of_append appended, appended]
  · obtain ⟨events, appended, -⟩ := exists_tells late
    rw [occurred_of_append appended, appended]

/-- **The events of a command tell what it did.**  In any game, for a command of anybody at any
instant, the appended events replayed on the scene before give the scene after.  The one exception
is a defence that comes after the defend timer has run out: it appends a lone end of the attack,
and the scene stays as it is. -/
theorem events_replay_to_scene (game : Game) (userId : String) (action : Action)
    (now : Instant) :
    (game.apply userId action now).game.events =
        game.events ++ game.occurred userId action now ∧
      (¬game.DefendsLate userId action now →
        game.scene.replay (game.occurred userId action now) =
          (game.apply userId action now).game.scene) ∧
      (game.DefendsLate userId action now →
        game.occurred userId action now = [.endAttack] ∧
          (game.apply userId action now).game.scene = game.scene) := by
  refine ⟨events_apply game userId action now, fun inTime => ?_, fun late => ?_⟩
  · obtain ⟨events, appended, told⟩ := exists_tells inTime
    rw [occurred_of_append appended, told]
  · have left := defendsLate_game late
    exact ⟨occurred_of_append (by rw [left]; rfl), by rw [left]; rfl⟩

/-- A run in which two players get ready and the first attacker lays a card. -/
def firstAttack : List Step := [
  .command "a" .ready (.ofUnixSeconds 0), .command "b" .ready (.ofUnixSeconds 0),
  .command "b" (.attack ⟨.hearts, .seven⟩) (.ofUnixSeconds 1), .handOut]

/-- After the first attack of a dealt game, a defence a minute later appends an end of the attack
whose replay is not what happened. -/
theorem late_defence_is_only_announced :
    ∃ dealt, deal "g" [⟨"a", ""⟩, ⟨"b", ""⟩] ⟨Double.ofInt 30⟩ 7 = .ok dealt ∧
      let game := dealt.afterAll firstAttack
      let defence := Action.defend ⟨.hearts, .seven⟩ ⟨.hearts, .jack⟩
      game.scene.replay (game.occurred "a" defence (.ofUnixSeconds 60)) ≠
        (game.apply "a" defence (.ofUnixSeconds 60)).game.scene :=
  ⟨duel, deal_duel, by decide +kernel⟩

end Game

end Durak
