import Durak.Proofs.Ending
import Durak.Proofs.Refill

/-!
# Whose cards a command touches

A command does one of four things with the cards, and `CardMove` lists them.  It leaves hands and
table as they are; it moves a card from the attacker's hand to the end of the table; it moves a card
from the defender's hand over one open card; or it closes the round.  The first two plays are made
only by the player whose hand it is.  Anybody may close a round, but that takes nothing from a hand:
it puts cards of the deck at the end of it, and before them the whole table if the defender takes
the cards.

So nobody else's play takes a card out of a hand, no hand is ever put in another order, and a cover
is never laid over a beaten card.
-/

set_option autoImplicit false

namespace Durak

/-- The card that an action would play. -/
def Action.played? : Action → Option Card
  | .attack card | .defend _ card => some card
  | _ => none

/-- A question about a timer plays no card. -/
theorem Action.played?_of_timer? {action : Action} {kind : TimerKind}
    (asks : action.timer? = some kind) : action.played? = none := by
  cases action <;> first | rfl | cases asks

namespace Game

/-- What a player picks up from the table in a step: all its cards, if it is the defender and the
step takes the cards. -/
def pickedUp (game : Game) (step : Step) (id : String) : List Card :=
  if game.takesCards step = true ∧ id = game.defenderId then tableCards game.table else []

/-- Cards that have been drawn one after another from the end of the deck, which others may have
done before and afterwards. -/
def Popped (before after : Game) (cards : List Card) : Prop :=
  ∃ earlier later, before.deck = after.deck ++ (earlier ++ cards ++ later).reverse

/-- A card has gone from a user's own hand, and no other hand has changed. -/
structure PlaysOwn (game : Game) (userId : String) (action : Action) (now : Instant) (card : Card)
    (after : Game) : Prop where
  accepted : (game.apply userId action now).violation = none
  held : card ∈ game.handOf userId
  hands : ∀ id, after.handOf id =
    if id = userId then (game.handOf userId).erase card else game.handOf id

/-- What a command can do with the cards of a game. -/
inductive CardMove (game : Game) (userId : String) (action : Action) (now : Instant)
    (after : Game) : Prop where
  | stay (goesOn : game.endsRound (.command userId action now) = false)
      (unplayed : (game.apply userId action now).violation = none → action.played? = none)
      (hands : ∀ id, after.handOf id = game.handOf id) (table : after.table = game.table)
  | attack (card : Card) (isAttack : action = .attack card) (attacker : userId = game.attackerId)
      (plays : game.PlaysOwn userId action now card after)
      (table : after.table = game.table ++ [⟨card, none⟩])
  | defend (target card : Card) (isDefence : action = .defend target card)
      (defender : userId = game.defenderId) (plays : game.PlaysOwn userId action now card after)
      (before later : List TableEntry) (isOpen : game.table = before ++ ⟨target, none⟩ :: later)
      (covered : after.table = before ++ ⟨target, some card⟩ :: later)
  | close (closes : game.endsRound (.command userId action now) = true)
      (taker : game.takesCards (.command userId action now) = true → userId = game.defenderId)
      (hands : ∀ id ∈ game.seatIds, ∃ drawn, game.Popped after drawn ∧
        after.handOf id = game.handOf id ++ game.pickedUp (.command userId action now) id ++ drawn)
      (table : after.table = [])

/-- What a command can do with the hand of a player. -/
inductive HandMove (game : Game) (userId : String) (action : Action) (now : Instant)
    (after : Game) (player : String) : Prop where
  | keep (goesOn : game.endsRound (.command userId action now) = false)
      (unplayed : (game.apply userId action now).violation = none → userId = player →
        action.played? = none)
      (same : after.handOf player = game.handOf player)
  | play (card : Card) (own : userId = player)
      (accepted : (game.apply userId action now).violation = none)
      (role : (player = game.attackerId ∧ action = .attack card) ∨
        player = game.defenderId ∧ ∃ target, action = .defend target card)
      (held : card ∈ game.handOf player)
      (erased : after.handOf player = (game.handOf player).erase card)
  | fill (closes : game.endsRound (.command userId action now) = true)
      (taker : game.takesCards (.command userId action now) = true → userId = game.defenderId)
      (drawn : List Card) (popped : game.Popped after drawn)
      (grown : after.handOf player =
        game.handOf player ++ game.pickedUp (.command userId action now) player ++ drawn)

/-- What a command can do with the table. -/
inductive TableMove (game : Game) (userId : String) (action : Action) (now : Instant)
    (after : Game) : Prop where
  | keep (goesOn : game.endsRound (.command userId action now) = false)
      (unplayed : (game.apply userId action now).violation = none → action.played? = none)
      (same : after.table = game.table)
  | attack (card : Card) (isAttack : action = .attack card) (attacker : userId = game.attackerId)
      (accepted : (game.apply userId action now).violation = none)
      (laid : after.table = game.table ++ [⟨card, none⟩])
  | defend (target card : Card) (isDefence : action = .defend target card)
      (defender : userId = game.defenderId)
      (accepted : (game.apply userId action now).violation = none)
      (before later : List TableEntry) (isOpen : game.table = before ++ ⟨target, none⟩ :: later)
      (covered : after.table = before ++ ⟨target, some card⟩ :: later)
  | clear (closes : game.endsRound (.command userId action now) = true) (none_ : after.table = [])

variable {game : Game} {place : Nat}

/-! ## Closing a round -/

/-- Closing a round only adds cards of the deck to a hand. -/
theorem exists_popped (attacks : game.AttacksFrom place) (switch : Bool) {id : String}
    (seated : id ∈ game.seatIds) :
    ∃ drawn, game.Popped (game.resolveRound switch) drawn ∧
      (game.resolveRound switch).handOf id = game.handOf id ++ drawn := by
  obtain ⟨earlier, drawn, later, grown, left⟩ := exists_drawn attacks seated
  refine ⟨drawn, ⟨earlier, later, ?_⟩, ?_⟩
  · rw [(players_resolveRound game switch).2, left]
  · rw [handOf_resolveRound, grown]

/-- The defender takes up the table before the deck is drawn from. -/
theorem exists_popped_taken (attacks : game.AttacksFrom place) {id : String}
    (seated : id ∈ game.seatIds) :
    ∃ drawn, game.Popped game.taken drawn ∧
      game.taken.handOf id = game.handOf id ++
        (if id = game.defenderId then tableCards game.table else []) ++ drawn := by
  have stillSeated : id ∈ (game.takeTable game.defenderId).seatIds := by
    rwa [seatIds_eq_of_terms (terms_takeTable game game.defenderId)]
  obtain ⟨drawn, ⟨earlier, later, left⟩, grown⟩ :=
    exists_popped (attacksFrom_takeTable attacks) false stillSeated
  have sameDeck : game.taken.deck = ((game.takeTable game.defenderId).resolveRound false).deck :=
    passOver_keeps deck (fun _ _ _ => rfl) _ _
  have sameHand : game.taken.handOf id =
      ((game.takeTable game.defenderId).resolveRound false).handOf id :=
    passOver_keeps (fun later => later.handOf id) (fun _ _ _ => rfl) _ _
  refine ⟨drawn, ⟨earlier, later, ?_⟩, ?_⟩
  · rw [sameDeck]
    exact left
  · rw [sameHand, grown, handOf_takeTable attacks.defender_mem]
    by_cases defends : id = game.defenderId
    · rw [if_pos defends, if_pos defends, defends]
    · rw [if_neg defends, if_neg defends, List.append_nil]

/-- A round that is closed without the cards being taken. -/
theorem cardMove_close (attacks : game.AttacksFrom place) {userId : String} {action : Action}
    {now : Instant} {after : Game} (closes : game.closesRound (.command userId action now) = true)
    (left : game.takesCards (.command userId action now) = false)
    (players : after.players = (game.resolveRound true).players)
    (deck : after.deck = (game.resolveRound true).deck) (table : after.table = []) :
    game.CardMove userId action now after := by
  refine .close (Bool.or_eq_true_iff.mpr (.inl closes))
    (fun takes => absurd takes (Bool.eq_false_iff.mp left)) (fun id seated => ?_) table
  obtain ⟨drawn, ⟨earlier, later, popped⟩, grown⟩ := exists_popped attacks true seated
  refine ⟨drawn, ⟨earlier, later, deck ▸ popped⟩, ?_⟩
  rw [handOf_congr players, grown, pickedUp, left]
  simp

/-! ## Any command -/

/-- **Every command does one of the four things.** -/
theorem cardMove_apply (attacks : game.AttacksFrom place) (userId : String) (action : Action)
    (now : Instant) : game.CardMove userId action now (game.apply userId action now).game := by
  have effect := apply_effect game userId action now
  generalize verdictIs : (game.apply userId action now).violation = verdict,
    (game.apply userId action now).game = result at effect ⊢
  cases effect with
  | unregistered | readyAgain | defendRefused | takeRefused | takeUnseated | endRefused =>
    refine .stay ?_ (fun accepted => ?_) (fun _ => rfl) rfl
    · simp [endsRound, closesRound, takesCards, verdictIs]
    · cases verdictIs.symm.trans accepted
  | attackRefused card violation reported other =>
    refine .stay ?_ (fun accepted => ?_) (fun _ => rfl) rfl
    · simp [endsRound, closesRound, takesCards, verdictIs, other]
    · cases verdictIs.symm.trans accepted
  | defendLate =>
    refine .stay rfl (fun accepted => ?_) (fun _ => rfl) rfl
    cases verdictIs.symm.trans accepted
  | ready | start => exact .stay rfl (fun _ => rfl) (fun _ => rfl) rfl
  | vote permitted waiting =>
    refine .stay ?_ (fun _ => rfl) (fun _ => rfl) rfl
    simp [endsRound, closesRound, takesCards, waiting]
  | timerRefused kind asks notStarted =>
    refine .stay ?_ (fun _ => Action.played?_of_timer? asks) (fun _ => rfl) rfl
    obtain ⟨closes, takes⟩ := game.closesRound_timer asks userId now
    rw [endsRound, closes, takes, notStarted, Bool.false_and, Bool.false_or]
  | timerShown kind asks started running =>
    refine .stay ?_ (fun _ => Action.played?_of_timer? asks) (fun _ => rfl) rfl
    obtain ⟨closes, takes⟩ := game.closesRound_timer asks userId now
    rw [endsRound, closes, takes, running, Bool.and_false, Bool.false_or]
  | attack card permitted =>
    have held := mem_handOf.mpr permitted.held
    exact .attack card rfl permitted.attacker ⟨verdictIs, held, handOf_withoutCard held⟩ rfl
  | defend target card permitted =>
    have held := mem_handOf.mpr permitted.held
    have covered := layCover_keeps table (fun _ _ _ => rfl) (game.withoutCard userId card) userId
      target card now
    obtain ⟨before, later, isOpen, isCovered⟩ := exists_covered card permitted.open_
    refine .defend target card rfl permitted.defender ⟨verdictIs, held, fun id => ?_⟩ before later
      isOpen (covered.trans isCovered)
    rw [layCover_keeps (fun later => later.handOf id) fun _ _ _ => rfl]
    exact handOf_withoutCard held id
  | attackLate card =>
    exact cardMove_close attacks (by simp [closesRound, verdictIs]) rfl rfl rfl rfl
  | timerClosed kind asks started expired =>
    obtain ⟨closes, takes⟩ := game.closesRound_timer asks userId now
    rw [started, expired] at closes
    exact cardMove_close attacks closes takes rfl rfl rfl
  | endRound permitted everyone =>
    have closes : game.closesRound (.command userId .endAttack now) = true := by
      simp [closesRound, verdictIs, everyone]
    rw [endRound_voteEnd]
    exact cardMove_close attacks closes rfl (endRound_keeps players (fun _ _ => rfl) game)
      (endRound_keeps deck (fun _ _ => rfl) game) (table_endRound game)
  | take permitted =>
    have takes : game.takesCards (.command userId .takeAllCards now) = true := by
      simp [takesCards, verdictIs]
    obtain rfl := permitted.defender
    refine .close (Bool.or_eq_true_iff.mpr (.inr takes)) (fun _ => rfl) (fun id seated => ?_)
      (resting_taken permitted.started).table
    obtain ⟨drawn, popped, grown⟩ := exists_popped_taken attacks seated
    refine ⟨drawn, popped, grown.trans ?_⟩
    simp [pickedUp, takes]

/-- An action that plays a card does not close the round when it is accepted. -/
theorem endsRound_of_played {userId : String} {action : Action} {now : Instant} {card : Card}
    (isPlayed : action.played? = some card)
    (accepted : (game.apply userId action now).violation = none) :
    game.endsRound (.command userId action now) = false := by
  cases action with
  | attack => simp [endsRound, closesRound, takesCards, accepted]
  | defend => rfl
  | _ => cases isPlayed

/-- A play takes the card out of the hand of the one who plays it. -/
theorem PlaysOwn.handMove {userId : String} {action : Action} {now : Instant} {card : Card}
    {after : Game} (plays : game.PlaysOwn userId action now card after)
    (role : (userId = game.attackerId ∧ action = .attack card) ∨
      userId = game.defenderId ∧ ∃ target, action = .defend target card) (player : String) :
    game.HandMove userId action now after player := by
  have changed := plays.hands player
  by_cases own : player = userId
  · subst own
    rw [if_pos rfl] at changed
    exact .play card rfl plays.accepted role plays.held changed
  · rw [if_neg own] at changed
    have isPlayed : action.played? = some card := by
      rcases role with ⟨-, rfl⟩ | ⟨-, target, rfl⟩ <;> rfl
    exact .keep (endsRound_of_played isPlayed plays.accepted) (fun _ same => absurd same.symm own)
      changed

/-- **Nobody else's play touches a hand.**  In every game that a run from a deal reaches, a command
does one of three things with the hand of a player.  While the round goes on, and unless the player
plays a card, the hand stays as it is.  A card that the player lays as the attacker, or covers a
card with as the defender, is taken out of it.  When the command closes the round, cards that have
been drawn from the end of the deck follow the hand, and before them the whole table, in its order,
if the player is the defender and takes the cards.

The table stays as it is, or the attacker lays a card at its end, or the defender covers one card
that was open, or the round is closed and the table is clear. -/
theorem only_own_plays_touch_a_hand {id : String} {entrants : List Entrant} {settings : Settings}
    {seed : UInt64} {dealt : Game} (isDealt : deal id entrants settings seed = .ok dealt)
    (steps : List Step) (userId : String) (action : Action) (now : Instant) :
    let game := dealt.afterAll steps
    let after := (game.apply userId action now).game
    (∀ player ∈ game.seatIds, game.HandMove userId action now after player) ∧
      game.TableMove userId action now after := by
  intro game after
  obtain ⟨place, start⟩ := attacksFrom_of_deal isDealt
  have move : game.CardMove userId action now after :=
    cardMove_apply (start.afterAll steps) userId action now
  cases move with
  | stay goesOn unplayed hands table =>
    exact ⟨fun player _ => .keep goesOn (fun accepted _ => unplayed accepted) (hands player),
      .keep goesOn unplayed table⟩
  | attack card isAttack attacker plays table =>
    exact ⟨fun player _ => plays.handMove (.inl ⟨attacker, isAttack⟩) player,
      .attack card isAttack attacker plays.accepted table⟩
  | defend target card isDefence defender plays before later isOpen covered =>
    exact ⟨fun player _ => plays.handMove (.inr ⟨defender, target, isDefence⟩) player,
      .defend target card isDefence defender plays.accepted before later isOpen covered⟩
  | close closes taker hands table =>
    refine ⟨fun player seated => ?_, .clear closes table⟩
    obtain ⟨drawn, popped, grown⟩ := hands player seated
    exact .fill closes taker drawn popped grown

/-- A run in which three players get ready, and the first attacker lays a card. -/
def laidSix : List Step := [
  .command "a" .ready (.ofUnixSeconds 0), .command "b" .ready (.ofUnixSeconds 0),
  .command "c" .ready (.ofUnixSeconds 0),
  .command "a" (.attack ⟨.diamonds, .six⟩) (.ofUnixSeconds 1)]

/-- The next player takes the card up: it follows the hand. -/
theorem only_own_plays_touch_a_hand_taking_a_six :
    deal "g" [⟨"a", ""⟩, ⟨"b", ""⟩, ⟨"c", ""⟩] ⟨Double.ofInt 30⟩ 0 = .ok trio ∧
      let game := trio.afterAll laidSix
      let after := (game.apply "b" .takeAllCards (.ofUnixSeconds 2)).game
      ∃ drawn, game.Popped after drawn ∧
        after.handOf "b" = game.handOf "b" ++ [⟨.diamonds, .six⟩] ++ drawn := by
  refine ⟨deal_trio, ?_⟩
  intro game after
  obtain ⟨hands, -⟩ :=
    only_own_plays_touch_a_hand deal_trio laidSix "b" .takeAllCards (.ofUnixSeconds 2)
  have closes : game.endsRound (.command "b" .takeAllCards (.ofUnixSeconds 2)) = true := by
    decide +kernel
  have pickedUp : game.pickedUp (.command "b" .takeAllCards (.ofUnixSeconds 2)) "b" =
      [⟨.diamonds, .six⟩] := by decide +kernel
  cases hands "b" (by decide +kernel) with
  | keep goesOn => cases closes.symm.trans goesOn
  | play card own accepted role =>
    rcases role with ⟨-, isAttack⟩ | ⟨-, target, isDefence⟩
    · cases isAttack
    · cases isDefence
  | fill closes taker drawn popped grown => exact ⟨drawn, popped, pickedUp ▸ grown⟩

end Game

end Durak
