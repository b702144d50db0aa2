import Durak.Proofs.Packs
import Durak.Proofs.Rejection

/-!
# What stays hidden

Two games look alike to a viewer when they agree on everything the rules show to that viewer: the
seats with the sizes of hands and last draws, the viewer's own cards, the roles, the size of the
deck, the trump suit, the table, whether the game has been started, and the events not yet handed
out.  They may differ in everything else: the cards others hold and drew, the deck and its order,
the discard pile, votes, timers, settings.

Views depend only on what is shown (`LooksAlike.viewFrom`), and so do the packs: whatever is handed
out in the two games, the viewer gets the same.
-/

set_option autoImplicit false

namespace Durak

namespace Game

/-- Two games agree on everything that is shown to a viewer. -/
structure LooksAlike (first second : Game) (viewer : String) : Prop where
  seats : first.players.map Player.seenByOthers = second.players.map Player.seenByOthers
  ownCards : (first.player? viewer).map (fun player => (player.hand, player.lastDrawn)) =
    (second.player? viewer).map fun player => (player.hand, player.lastDrawn)
  attacker : first.attackerId = second.attackerId
  defender : first.defenderId = second.defenderId
  deckSize : first.deck.length = second.deck.length
  trump : first.trump = second.trump
  table : first.table = second.table
  started : first.started = second.started
  events : first.events = second.events

/-- The ids of the seats can be read off what others see of them. -/
theorem seatIds_eq_map_seenByOthers (game : Game) :
    game.seatIds = (game.players.map Player.seenByOthers).map (·.id) := by
  simp only [seatIds, List.map_map]
  rfl

/-- What a viewer sees of the others is what can be seen of every seat, without the own seat. -/
theorem otherPlayers_viewFrom (game : Game) (viewer : Player) :
    (game.viewFrom viewer).otherPlayers =
      (game.players.map Player.seenByOthers).filter fun other => other.id != viewer.id := by
  rw [List.filter_map]
  rfl

/-- A value kept for every seat under the player's id is found by that id. -/
theorem lookup_map_players {α : Type} (value : Player → α) (game : Game) (id : String) :
    (game.players.map fun player => (player.id, value player)).lookup id =
      (game.player? id).map value := by
  unfold player?
  generalize game.players = players
  induction players with
  | nil => rfl
  | cons player rest hypothesis =>
    by_cases same : player.id = id
    · simp [same]
    · have apart : (id == player.id) = false := by simpa using fun equal => same equal.symm
      rw [List.map_cons, List.lookup_cons, apart, List.find?_cons_of_neg (by simpa using same)]
      exact hypothesis

/-- With distinct ids, the packs that are handed out hold the pack of every seat under its id. -/
theorem lookup_packs {game : Game} (distinct : game.seatIds.Nodup) (command : Command)
    (violation : Option Violation) (id : String) :
    (sortKeyed <| game.players.map fun player =>
        (player.id, ((game.packFor command violation player).toJson?).getD .null)).lookup id =
      (game.player? id).map fun player =>
        ((game.packFor command violation player).toJson?).getD .null := by
  rw [lookup_sortKeyed, lookup_map_players]
  rwa [List.map_map]

namespace LooksAlike

variable {first second : Game} {viewer : String} (alike : first.LooksAlike second viewer)

include alike

theorem seatIds_eq : first.seatIds = second.seatIds := by
  rw [seatIds_eq_map_seenByOthers, seatIds_eq_map_seenByOthers, alike.seats]

/-- The viewer sits in both games, with the same cards. -/
theorem exists_viewers (seated : viewer ∈ first.seatIds) :
    ∃ here there, first.player? viewer = some here ∧ second.player? viewer = some there ∧
      here.id = viewer ∧ there.id = viewer ∧
      here.hand = there.hand ∧ here.lastDrawn = there.lastDrawn := by
  obtain ⟨here, isHere⟩ := Option.isSome_iff_exists.mp (isSome_player?_iff.mpr seated)
  obtain ⟨there, isThere⟩ :=
    Option.isSome_iff_exists.mp (isSome_player?_iff.mpr (alike.seatIds_eq ▸ seated))
  have cards := alike.ownCards
  rw [isHere, isThere, Option.map_some, Option.map_some, Option.some_inj, Prod.mk.injEq] at cards
  exact ⟨here, there, isHere, isThere, by simpa using List.find?_some isHere,
    by simpa using List.find?_some isThere, cards⟩

/-- What is seen depends only on what is shown. -/
theorem viewFrom {here there : Player} (ids : here.id = there.id) (hands : here.hand = there.hand)
    (drawn : here.lastDrawn = there.lastDrawn) : first.viewFrom here = second.viewFrom there := by
  have others : (first.viewFrom here).otherPlayers = (second.viewFrom there).otherPlayers := by
    rw [otherPlayers_viewFrom, otherPlayers_viewFrom, alike.seats, ids]
  unfold Game.viewFrom at others ⊢
  simp only at others
  simp only [View.mk.injEq]
  exact ⟨ids, hands, drawn, others, alike.attacker, alike.defender, alike.deckSize, alike.trump,
    alike.table, alike.started⟩

end LooksAlike

/-- **Hidden cards do not show.**  Let two games with distinct player ids look alike to a seated
viewer, and let the same command be answered in both with the same violation, or with none.  Then
either no packs can be written for either game, for the same reason, or both viewers get the very
same pack. -/
theorem hidden_cards_do_not_show {first second : Game} {viewer : String}
    (alike : first.LooksAlike second viewer) (distinct : first.seatIds.Nodup)
    (seated : viewer ∈ first.seatIds) (command : Command) (violation : Option Violation) :
    (∃ failure, (first.buildPacks command violation).answer = .error failure ∧
        (second.buildPacks command violation).answer = .error failure) ∨
      ∃ packs otherPacks pack, (first.buildPacks command violation).answer = .ok packs ∧
        (second.buildPacks command violation).answer = .ok otherPacks ∧
          packs.lookup viewer = some pack ∧ otherPacks.lookup viewer = some pack := by
  have otherDistinct : second.seatIds.Nodup := alike.seatIds_eq ▸ distinct
  have occupied : ∀ {game : Game}, viewer ∈ game.seatIds → game.players ≠ [] := by
    intro game member empty
    simp [seatIds, empty] at member
  cases written : first.events.mapM Event.toJson? with
  | none =>
    refine .inl ⟨.unwritablePack Instant.unwritable, ?_, ?_⟩
    · exact buildPacks_answer_of_unwritable distinct command violation (occupied seated) written
    · exact buildPacks_answer_of_unwritable otherDistinct command violation
        (occupied (alike.seatIds_eq ▸ seated)) (alike.events ▸ written)
  | some events =>
    have otherWritten : second.events.mapM Event.toJson? = some events := alike.events ▸ written
    obtain ⟨here, there, isHere, isThere, hereId, thereId, hands, drawn⟩ :=
      alike.exists_viewers seated
    have ids : here.id = there.id := hereId.trans thereId.symm
    have same : (first.packFor command violation here).toJson? =
        (second.packFor command violation there).toJson? := by
      rw [toJson?_packFor written, toJson?_packFor otherWritten, alike.viewFrom ids hands drawn,
        ids]
    refine .inr ⟨_, _, ((first.packFor command violation here).toJson?).getD .null,
      buildPacks_answer_of_writable distinct command violation (by simp [written]),
      buildPacks_answer_of_writable otherDistinct command violation (by simp [otherWritten]),
      ?_, ?_⟩
    · rw [lookup_packs distinct, isHere, Option.map_some]
    · rw [lookup_packs otherDistinct, isThere, Option.map_some, same]

/-- The waiting duel with other cards in the second hand, in the deck and in the discard pile,
other votes, another timer and other settings. -/
def otherDuel : Game :=
  { waitingDuel with
    settings := ⟨Double.ofInt 5⟩
    players := [⟨"a", "", 0, [⟨.hearts, .six⟩], []⟩, ⟨"b", "", 1, [⟨.clubs, .ace⟩], []⟩]
    deck := [⟨.hearts, .seven⟩]
    discard := [⟨.spades, .ace⟩]
    readyVotes := Voters.none.insert "b"
    attackTimer := .stopped }

/-- The first player is told the same of a rejected attack in both duels. -/
theorem hidden_cards_do_not_show_in_duels :
    ∃ packs otherPacks pack,
      (waitingDuel.buildPacks ⟨"g", "a", .attack ⟨.hearts, .nine⟩⟩ (some .userNoHasCard)).answer =
          .ok packs ∧
        (otherDuel.buildPacks ⟨"g", "a", .attack ⟨.hearts, .nine⟩⟩ (some .userNoHasCard)).answer =
            .ok otherPacks ∧
          packs.lookup "a" = some pack ∧ otherPacks.lookup "a" = some pack := by
  have alike : waitingDuel.LooksAlike otherDuel "a" :=
    ⟨rfl, by decide +kernel, rfl, rfl, rfl, rfl, rfl, rfl, rfl⟩
  have distinct : waitingDuel.seatIds.Nodup := by decide +kernel
  have writable : (waitingDuel.events.mapM Event.toJson?).isSome := by decide +kernel
  rcases hidden_cards_do_not_show alike distinct (by decide +kernel)
      ⟨"g", "a", .attack ⟨.hearts, .nine⟩⟩ (some .userNoHasCard) with ⟨failure, failed, -⟩ | handed
  · rw [buildPacks_answer_of_writable distinct _ _ writable] at failed
    simp only [reduceCtorEq] at failed
  · exact handed

end Game

end Durak
