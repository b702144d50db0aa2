import Durak.Proofs.Ending
import Durak.Proofs.Shown
import Durak.Proofs.Transaction
import Mathlib.Data.List.Pairwise

/-!
# What packs show

A pack shows its recipient the own hand, the cards drawn last, the cards on the table and, if the
recipient sent the command, the cards the command names.  Nothing else in it is a card.

Two facts about the game make this more than a remark about the format.  The events of a pack are
those of its own command, as a transaction leaves none behind, and a card that they name lies on the
table when the pack is made up (`laid_of_occurred`).  And cards drawn by anybody have left the deck
for good (`Drained`): they may be played and taken up by others, but they are never drawn again.  As
no card lies in two places, a pack then shows no card of the deck, and of another hand only such as
the recipient drew.
-/

set_option autoImplicit false

namespace Durak

namespace Game

/-- The game after some messages, each the bytes of a command and the instant of its arrival. -/
def afterMessages (game : Game) (messages : List (List UInt8 × Instant)) : Game :=
  messages.foldl (fun game message => (game.handle message.1 message.2).game) game

/-- The path in a pack at which the command of its recipient is repeated. -/
def echoPath : List PathStep := [.member "messages", .item 0, .member "command"]

/-- Cards that were drawn last, by whomever, are not in the deck, and no card is twice in it. -/
structure Drained (game : Game) : Prop where
  distinct : game.deck.Nodup
  gone : ∀ player ∈ game.players, ∀ card ∈ player.lastDrawn, card ∉ game.deck

/-- No card lies in two places. -/
structure Apart (game : Game) : Prop where
  deck : game.deck.Nodup
  hand_of_deck : ∀ card ∈ game.deck, ∀ player ∈ game.players, card ∉ player.hand
  table_of_deck : ∀ card ∈ game.deck, card ∉ tableCards game.table
  table_of_hand : ∀ player ∈ game.players, ∀ card ∈ player.hand, card ∉ tableCards game.table
  hands : ∀ first ∈ game.players, ∀ second ∈ game.players, first ≠ second →
    ∀ card ∈ first.hand, card ∉ second.hand

/-! ## Messages are steps -/

/-- A message leaves the game alone, or is a command after which the events are handed out. -/
theorem exists_steps_of_handle (game : Game) (bytes : List UInt8) (now : Instant) :
    ∃ steps, (game.handle bytes now).game = game.afterAll steps ∧
      (game.events = [] → (game.handle bytes now).game.events = []) := by
  cases decoded : Command.ofBytes bytes with
  | error fault =>
    rw [handle_of_fault decoded]
    exact ⟨[], rfl, fun none_ => none_⟩
  | ok command =>
    by_cases ours : command.gameId = game.id
    · by_cases seated : command.userId ∈ game.seatIds
      · rw [handle_of_seated decoded ours seated]
        exact ⟨[.command command.userId command.action now, .handOut], rfl, fun _ => rfl⟩
      · rw [handle_of_unseated decoded ours seated]
        exact ⟨[], rfl, fun none_ => none_⟩
    · rw [handle_of_wrongGame decoded ours]
      exact ⟨[], rfl, fun none_ => none_⟩

/-- Messages lead where some run leads, and leave no events behind. -/
theorem exists_steps_of_messages {game : Game} (handedOut : game.events = [])
    (messages : List (List UInt8 × Instant)) :
    ∃ steps, game.afterMessages messages = game.afterAll steps ∧
      (game.afterMessages messages).events = [] := by
  induction messages generalizing game with
  | nil => exact ⟨[], rfl, handedOut⟩
  | cons message messages hypothesis =>
    obtain ⟨first, carriedOut, clear⟩ := game.exists_steps_of_handle message.1 message.2
    obtain ⟨rest, leads, stillClear⟩ := hypothesis (clear handedOut)
    refine ⟨first ++ rest, ?_, stillClear⟩
    rw [afterAll_append, ← carriedOut]
    exact leads

/-! ## Where cards lie -/

/-- Cards that are the pack lie in one place each. -/
theorem apart_of_whole {game : Game} (whole : game.cards = (Card.pack : Multiset Card)) :
    game.Apart := by
  have different := nodup_of_whole whole
  simp only [List.nodup_append, List.mem_append, List.mem_flatMap] at different
  obtain ⟨⟨⟨deck, hands, deckHands⟩, -, tableOthers⟩, -⟩ := different
  have symmetric : Std.Symm (Function.onFun List.Disjoint Player.hand) :=
    ⟨fun _ _ apart => apart.symm⟩
  refine ⟨deck, fun card inDeck player seated inHand => ?_, fun card inDeck laid => ?_,
    fun player seated card inHand laid => ?_, fun first here second there other => ?_⟩
  · exact deckHands card inDeck card ⟨player, seated, inHand⟩ rfl
  · exact tableOthers card (.inl inDeck) card laid rfl
  · exact tableOthers card (.inr ⟨player, seated, inHand⟩) card laid rfl
  · exact (List.nodup_flatMap.mp hands).2.forall here there other

theorem apart_afterAll {id : String} {entrants : List Entrant} {settings : Settings}
    {seed : UInt64} {dealt : Game} (isDealt : deal id entrants settings seed = .ok dealt)
    (steps : List Step) : (dealt.afterAll steps).Apart :=
  apart_of_whole ((cards_afterAll dealt steps).trans (cards_of_deal isDealt))

/-! ## What has been drawn is gone -/

/-- What a hand is filled up with is taken out of the deck. -/
theorem drained_replenished {player : Player} {deck : List Card} (distinct : deck.Nodup)
    (gone : ∀ card ∈ player.lastDrawn, card ∉ deck) :
    (player.replenished deck).2.Sublist deck ∧
      ∀ card ∈ (player.replenished deck).1.lastDrawn, card ∉ (player.replenished deck).2 := by
  unfold Player.replenished
  split
  · exact ⟨List.Sublist.refl deck, gone⟩
  · have whole := draw_append (handSize - player.hand.length) deck
    generalize draw (handSize - player.hand.length) deck = drawn at whole ⊢
    rw [← whole] at distinct ⊢
    refine ⟨List.sublist_append_left _ _, fun card isDrawn left => ?_⟩
    exact (List.nodup_append.mp distinct).2.2 card left card (List.mem_reverse.mpr isDrawn) rfl

theorem lastDrawn_dealHands {entrants : List Entrant} {seat : Nat} {cards : List Card}
    {player : Player} (dealt : player ∈ (dealHands seat entrants cards).1) :
    player.lastDrawn = [] := by
  induction entrants generalizing seat cards with
  | nil => cases dealt
  | cons entrant rest hypothesis =>
    rcases List.mem_cons.mp dealt with rfl | later
    · rfl
    · exact hypothesis later

namespace Drained

variable {game : Game}

/-- Only the deck and what was drawn from it matter. -/
theorem congr {other : Game} (drained : game.Drained) (deck : other.deck = game.deck)
    (drawn : other.players.map (·.lastDrawn) = game.players.map (·.lastDrawn)) : other.Drained := by
  refine ⟨deck ▸ drained.distinct, fun player seated card inDrawn inDeck => ?_⟩
  have member : player.lastDrawn ∈ game.players.map (·.lastDrawn) :=
    drawn ▸ List.mem_map_of_mem seated
  obtain ⟨found, isSeated, same⟩ := List.mem_map.mp member
  exact drained.gone found isSeated card (same ▸ inDrawn) (deck ▸ inDeck)

theorem replenish (drained : game.Drained) (id : String) : (game.replenish id).Drained := by
  cases seat : game.player? id with
  | none =>
    rw [replenish_of_unseated seat]
    exact drained
  | some player =>
    have seated := List.mem_of_find?_eq_some seat
    obtain ⟨fewer, gone⟩ := drained_replenished drained.distinct (drained.gone player seated)
    obtain ⟨before, after, split, changed⟩ := exists_updateFirst seat
    rw [replenish_of_player? seat]
    refine ⟨fewer.nodup drained.distinct, fun other there card inDrawn inDeck => ?_⟩
    have there : other ∈ before ++ (player.replenished game.deck).1 :: after :=
      changed (fun _ => _) ▸ there
    rcases List.mem_append.mp there with there | there
    · exact drained.gone other (by simp [split, there]) card inDrawn (fewer.subset inDeck)
    · rcases List.mem_cons.mp there with rfl | there
      · exact gone card inDrawn inDeck
      · exact drained.gone other (by simp [split, there]) card inDrawn (fewer.subset inDeck)

theorem replenishAll (drained : game.Drained) : game.replenishAll.Drained := by
  unfold Game.replenishAll
  generalize game.drawingOrder = order
  induction order generalizing game with
  | nil => exact drained
  | cons id order hypothesis => exact hypothesis (drained.replenish id)

theorem resolveRound (drained : game.Drained) (switch : Bool) :
    (game.resolveRound switch).Drained := by
  obtain ⟨players, deck⟩ := players_resolveRound game switch
  exact drained.replenishAll.congr deck (by rw [players])

/-- A hand may change, as long as it is remembered what was drawn last. -/
theorem withoutCard (drained : game.Drained) (userId : String) (card : Card) :
    (game.withoutCard userId card).Drained :=
  drained.congr rfl (map_updateFirst Player.lastDrawn fun _ _ => rfl)

theorem takeTable (drained : game.Drained) (userId : String) : (game.takeTable userId).Drained :=
  drained.congr rfl (map_updateFirst Player.lastDrawn fun _ _ => rfl)

/-- **No command puts a card back into the deck.** -/
theorem apply (drained : game.Drained) (userId : String) (action : Action) (now : Instant) :
    (game.apply userId action now).game.Drained := by
  have effect := apply_effect game userId action now
  generalize (game.apply userId action now).violation = verdict,
    (game.apply userId action now).game = result at effect ⊢
  cases effect with
  | unregistered | readyAgain | attackRefused | defendRefused | endRefused | takeRefused
  | takeUnseated | timerRefused => exact drained
  | ready | start | defendLate | vote | timerShown => exact drained.congr rfl rfl
  | attackLate => exact drained.resolveRound true
  | attack card => exact (drained.withoutCard userId card).congr rfl rfl
  | defend target card =>
    exact (drained.withoutCard userId card).congr
      (layCover_keeps deck (fun _ _ _ => rfl) _ userId target card now)
      (congrArg _ (layCover_keeps players (fun _ _ _ => rfl) _ userId target card now))
  | endRound =>
    rw [endRound_voteEnd]
    exact (drained.resolveRound true).congr (endRound_keeps deck (fun _ _ => rfl) game)
      (congrArg _ (endRound_keeps players (fun _ _ => rfl) game))
  | take =>
    exact ((drained.takeTable userId).resolveRound false).congr
      (passOver_keeps deck (fun _ _ _ => rfl) _ userId)
      (congrArg _ (passOver_keeps players (fun _ _ _ => rfl) _ userId))
  | timerClosed => exact (drained.resolveRound true).congr rfl rfl

theorem afterAll (drained : game.Drained) (steps : List Step) : (game.afterAll steps).Drained :=
  invariant_afterAll (fun _ step kept => by
    cases step with
    | command userId action now => exact kept.apply userId action now
    | handOut => exact kept.congr rfl rfl) drained steps

/-- In a game that has just been dealt nobody has drawn yet. -/
theorem of_deal {id : String} {entrants : List Entrant} {settings : Settings} {seed : UInt64}
    {dealt : Game} (isDealt : deal id entrants settings seed = .ok dealt) : dealt.Drained := by
  refine ⟨(apart_afterAll isDealt []).deck, fun player seated card inDrawn => ?_⟩
  obtain ⟨-, trump, order, attackerSeat, -, -, rfl⟩ := deal_eq_ok isDealt
  rw [lastDrawn_dealHands seated] at inDrawn
  exact absurd inDrawn List.not_mem_nil

end Drained

/-! ## What events name -/

/-- **A card that an event of a command names lies on the table after the command.** -/
theorem laid_of_occurred {game : Game} {userId : String} {action : Action} {now : Instant}
    {event : Event} (occurs : event ∈ game.occurred userId action now) {card : Card}
    (named : card ∈ event.cards) :
    card ∈ tableCards (game.apply userId action now).game.table := by
  have effect := apply_effect game userId action now
  have names : ∀ events, (game.apply userId action now).game.events = game.events ++ events →
      card ∈ events.flatMap Event.cards := fun events appended =>
    List.mem_flatMap.mpr ⟨event, occurred_of_append appended ▸ occurs, named⟩
  generalize (game.apply userId action now).violation = verdict,
    (game.apply userId action now).game = after at effect names ⊢
  cases effect with
  | unregistered | readyAgain | attackRefused | defendRefused | endRefused | takeRefused
  | takeUnseated | timerRefused | vote =>
    exact absurd (names [] (List.append_nil _).symm) List.not_mem_nil
  | ready => simpa [Event.cards] using names [.ready userId] rfl
  | start =>
    simpa [Event.cards] using names
      [.ready userId, .start game.attackerId game.defenderId game.trump] (List.append_assoc _ _ _)
  | attackLate => simpa [Event.cards] using names [.endAttack] (events_resolveRound game true)
  | attack laid =>
    have isLaid : card = laid := by simpa [Event.cards] using names [.attack laid userId] rfl
    show card ∈ tableCards (game.table ++ [⟨laid, none⟩])
    exact List.mem_flatMap.mpr ⟨⟨laid, none⟩, by simp, isLaid ▸ List.mem_cons_self⟩
  | defendLate => simpa [Event.cards] using names [.endAttack] rfl
  | defend target cover permitted =>
    obtain ⟨before, later, -, covered⟩ := exists_covered cover permitted.open_
    have table := (layCover_keeps table (fun _ _ _ => rfl) (game.withoutCard userId cover) userId
      target cover now).trans covered
    have isLaid : card = target ∨ card = cover := by
      simpa [Event.cards] using names [.defend target cover userId] (events_layCover _ _ _ _ _)
    rw [table]
    exact List.mem_flatMap.mpr
      ⟨⟨target, some cover⟩, by simp, by simpa [TableEntry.cards] using isLaid⟩
  | endRound =>
    have none_ := names _ (events_endRound (game.voteEnd userId))
    simp [Event.cards] at none_
  | take =>
    have none_ := names [.takeAllCards userId, .endAttack] (by
      rw [events_passOver, events_resolveRound]
      exact List.append_assoc _ _ _)
    simp [Event.cards] at none_
  | timerClosed kind =>
    obtain ⟨completed, endsAt, announced⟩ := exists_announced (game.resolveRound true) kind
    have both := names [.endAttack, .timerState kind completed endsAt] (by
      rw [announced, pushEvent, events_resolveRound, List.append_assoc, List.singleton_append])
    simp [Event.cards] at both
  | timerShown kind => simpa [Event.cards] using names [_] rfl

/-! ## What a pack shows -/

/-- The result of a command shows the cards the command names, under the name of the command, and
what the view shows. -/
theorem shown_of_result {command : Command} {violation : Option Violation} {view : View}
    {path : List PathStep} {card : Card}
    (shown : card.ShownAt path (CommandResult.mk command violation view).toJson) :
    view.toJson.Shows card ∨
      [.member "command"] <+: path ∧ card ∈ command.action.cards := by
  cases shown with
  | here suit => simp [tagName] at suit
  | @member name value path _ listed inside =>
    simp only [List.mem_cons, List.not_mem_nil, or_false, Prod.mk.injEq] at listed
    rcases listed with ⟨rfl, rfl⟩ | ⟨rfl, rfl⟩ | ⟨rfl, rfl⟩ | ⟨rfl, rfl⟩
    · cases inside
    · exact .inr ⟨List.prefix_append [_] path, Command.shows_toJson.mp ⟨path, inside⟩⟩
    · cases violation <;> cases inside
    · exact .inl ⟨path, inside⟩

/-- **A pack shows what its view shows, what its events name and, to whoever sent the command, what
the command names, where it is repeated.** -/
theorem shown_of_writtenPack {events : List Event} {written : List Json}
    (isWritten : events.mapM Event.toJson? = some written) {command : Command}
    {violation : Option Violation} {recipient : String} {view : View} {path : List PathStep}
    {card : Card}
    (shown : card.ShownAt path (writtenPack command violation written recipient view)) :
    view.toJson.Shows card ∨ (∃ event ∈ events, card ∈ event.cards) ∨
      recipient = command.userId ∧ echoPath <+: path ∧ card ∈ command.action.cards := by
  have ofEvent : ∀ json ∈ written, json.Shows card → ∃ event ∈ events, card ∈ event.cards := by
    intro json member shows_
    obtain ⟨event, occurs, isEvent⟩ := (mem_iff_of_mapM isWritten).mp member
    exact ⟨event, occurs, (Event.shows_toJson? isEvent).mp shows_⟩
  cases shown with
  | here suit => simp at suit
  | @member name value path _ listed inside =>
    simp only [List.mem_cons, List.not_mem_nil, or_false, Prod.mk.injEq] at listed
    rcases listed with ⟨rfl, rfl⟩ | ⟨rfl, rfl⟩
    · cases inside with
      | @item position message path _ listed inside =>
        by_cases sender : recipient = command.userId
        · rw [if_pos sender] at listed
          cases position with
          | zero =>
            cases listed
            rcases shown_of_result inside with viewed | ⟨⟨rest, rfl⟩, named⟩
            · exact .inl viewed
            · exact .inr (.inr ⟨sender, List.prefix_append echoPath rest, named⟩)
          | succ position =>
            exact .inr (.inl (ofEvent message (List.mem_of_getElem? listed) ⟨path, inside⟩))
        · rw [if_neg sender] at listed
          exact .inr (.inl (ofEvent message (List.mem_of_getElem? listed) ⟨path, inside⟩))
    · exact .inl ⟨path, inside⟩

/-- A transaction that gives packs has carried out a command of one of the players. -/
theorem exists_command_of_packs {game : Game} (distinct : game.seatIds.Nodup) {bytes : List UInt8}
    {now : Instant} {packs : Packs} (answered : (game.handle bytes now).answer = .ok packs) :
    ∃ command events, Command.ofBytes bytes = .ok command ∧
      (game.apply command.userId command.action now).game.events.mapM Event.toJson? =
        some events ∧
      (game.handle bytes now).game =
        (game.apply command.userId command.action now).game.withoutEvents ∧
      ∀ recipient pack, (recipient, pack) ∈ packs → ∃ view,
        (game.handle bytes now).game.view? recipient = some view ∧
          pack = writtenPack command (game.apply command.userId command.action now).violation
            events recipient view := by
  obtain ⟨command, decoded, -, seated, executed⟩ := exists_command_of_answer answered
  rw [executed] at answered ⊢
  cases written :
      (game.apply command.userId command.action now).game.events.mapM Event.toJson? with
  | none => cases (execute_answer_of_unwritable distinct seated written).symm.trans answered
  | some events =>
    obtain ⟨others, alsoAnswered, -, contents⟩ := exists_packs_of_execute distinct written
    obtain rfl := Except.ok.inj (alsoAnswered.symm.trans answered)
    exact ⟨command, events, decoded, written, rfl, contents⟩

theorem events_of_deal {id : String} {entrants : List Entrant} {settings : Settings}
    {seed : UInt64} {dealt : Game} (isDealt : deal id entrants settings seed = .ok dealt) :
    dealt.events = [] := by
  obtain ⟨-, trump, order, attackerSeat, -, -, rfl⟩ := deal_eq_ok isDealt
  rfl

/-- **Packs show only what their recipients may know.**  Let a game be dealt and messages be handled
on it, and let one more message be answered with packs.  Every card that some part of a pack gives
is in the hand of its recipient after the command, or among the cards the recipient drew last, or on
the table, or, if the recipient sent the command, among those that the command names, in the part
where it is repeated.

Apart from that part no pack gives a card of the deck, and of the hand of another player only cards
that the recipient drew last. -/
theorem packs_show_only_what_may_be_known {id : String} {entrants : List Entrant}
    {settings : Settings} {seed : UInt64} {dealt : Game}
    (isDealt : deal id entrants settings seed = .ok dealt)
    (messages : List (List UInt8 × Instant)) (bytes : List UInt8) (now : Instant) {packs : Packs}
    (answered : ((dealt.afterMessages messages).handle bytes now).answer = .ok packs) :
    let after := ((dealt.afterMessages messages).handle bytes now).game
    ∃ command, Command.ofBytes bytes = .ok command ∧
      ∀ recipient pack, (recipient, pack) ∈ packs → ∃ viewer,
        after.player? recipient = some viewer ∧
        ∀ path card, card.ShownAt path pack →
          (card ∈ viewer.hand ∨ card ∈ viewer.lastDrawn ∨ card ∈ tableCards after.table ∨
            recipient = command.userId ∧ echoPath <+: path ∧ card ∈ command.action.cards) ∧
          (¬(recipient = command.userId ∧ echoPath <+: path) → card ∉ after.deck ∧
            ∀ other ∈ after.players, other.id ≠ recipient → card ∈ other.hand →
              card ∈ viewer.lastDrawn) := by
  intro after
  obtain ⟨steps, reached, handedOut⟩ := exists_steps_of_messages (events_of_deal isDealt) messages
  obtain ⟨place, attacks⟩ := attacksFrom_of_deal isDealt
  have distinct : (dealt.afterMessages messages).seatIds.Nodup :=
    reached ▸ (attacks.afterAll steps).distinct
  obtain ⟨command, events, decoded, written, made, contents⟩ :=
    exists_command_of_packs distinct answered
  have isAfter : after = dealt.afterAll
      (steps ++ [.command command.userId command.action now, .handOut]) := by
    rw [afterAll_append, ← reached]
    exact made
  have apart : after.Apart := isAfter ▸ apart_afterAll isDealt _
  have drained : after.Drained := isAfter ▸ (Drained.of_deal isDealt).afterAll _
  refine ⟨command, decoded, fun recipient pack member => ?_⟩
  obtain ⟨view, isView, rfl⟩ := contents recipient pack member
  obtain ⟨viewer, isViewer, rfl⟩ := Option.map_eq_some_iff.mp isView
  refine ⟨viewer, isViewer, fun path card shown => ?_⟩
  have known : card ∈ viewer.hand ∨ card ∈ viewer.lastDrawn ∨ card ∈ tableCards after.table ∨
      recipient = command.userId ∧ echoPath <+: path ∧ card ∈ command.action.cards := by
    rcases shown_of_writtenPack written shown with viewed | ⟨event, collected, named⟩ | echoed
    · exact (View.shows_toJson.mp viewed).imp_right fun others => others.imp_right .inl
    · rw [events_apply, handedOut, List.nil_append] at collected
      have laid := laid_of_occurred collected named
      rw [show after.table = _ from congrArg table made]
      exact .inr (.inr (.inl laid))
    · exact .inr (.inr (.inr echoed))
  refine ⟨known, fun elsewhere => ?_⟩
  have seated : viewer ∈ after.players := List.mem_of_find?_eq_some isViewer
  have isRecipient : viewer.id = recipient := by simpa using List.find?_some isViewer
  rcases known with own | drawn | laid | ⟨sender, echoes, -⟩
  · refine ⟨fun inDeck => apart.hand_of_deck card inDeck viewer seated own,
      fun other there isOther held => absurd held ?_⟩
    exact apart.hands viewer seated other there (fun same => isOther (same ▸ isRecipient)) card own
  · exact ⟨drained.gone viewer seated card drawn, fun _ _ _ _ => drawn⟩
  · exact ⟨fun inDeck => apart.table_of_deck card inDeck laid,
      fun other there _ held => absurd laid (apart.table_of_hand other there card held)⟩
  · exact absurd ⟨sender, echoes⟩ elsewhere

/-- When the attacker lays a nine, the pack of the defender shows nothing but the nine and the
defender's own hand. -/
theorem packs_show_only_what_may_be_known_to_the_defender :
    deal "g" [⟨"a", ""⟩, ⟨"b", ""⟩] ⟨Double.ofInt 30⟩ 7 = .ok duel ∧
      ∃ packs, ((duel.afterMessages bothReady).handle laysNine.asciiBytes
          (.ofUnixSeconds 1)).answer = .ok packs ∧
        ∀ pack, ("a", pack) ∈ packs → ∀ path card, card.ShownAt path pack →
          card ∈ duel.handOf "a" ∨ card = ⟨.clubs, .nine⟩ := by
  have isDecoded : Command.ofBytes laysNine.asciiBytes = .ok laysNine :=
    eq_ok_of_toOption (by decide +kernel)
  have isAnswered : ((duel.afterMessages bothReady).handle laysNine.asciiBytes
      (.ofUnixSeconds 1)).answer.toOption.isSome = true := by decide +kernel
  have cards : (((duel.afterMessages bothReady).handle laysNine.asciiBytes
      (.ofUnixSeconds 1)).game.player? "a").map (fun player => (player.hand, player.lastDrawn)) =
        some (duel.handOf "a", []) := by decide +kernel
  have table : tableCards ((duel.afterMessages bothReady).handle laysNine.asciiBytes
      (.ofUnixSeconds 1)).game.table = [⟨.clubs, .nine⟩] := by decide +kernel
  obtain ⟨packs, isPacks⟩ := Option.isSome_iff_exists.mp isAnswered
  have answered := eq_ok_of_toOption isPacks
  refine ⟨deal_duel, packs, answered, fun pack member path card shown => ?_⟩
  obtain ⟨command, decoded, contents⟩ :=
    packs_show_only_what_may_be_known deal_duel bothReady _ _ answered
  obtain ⟨viewer, isViewer, known⟩ := contents "a" pack member
  rw [isViewer, Option.map_some, Option.some.injEq, Prod.mk.injEq] at cards
  rcases (known path card shown).1 with own | drawn | laid | ⟨sender, -, -⟩
  · exact .inl (cards.1 ▸ own)
  · rw [cards.2] at drawn
    exact absurd drawn List.not_mem_nil
  · rw [table] at laid
    exact .inr (List.mem_singleton.mp laid)
  · cases isDecoded.symm.trans decoded
    exact absurd sender (by decide)

end Game

end Durak
