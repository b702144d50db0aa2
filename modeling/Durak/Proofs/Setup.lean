import Durak.Proofs.Disclosure

/-!
# Which games are dealt, and how

A game is dealt to two to six players with distinct ids, with a turn timeout that is finite, above
nought and at most a day; otherwise the first of these three that fails is reported, the players'
number before their ids and the timeout last.

Every seed stands for an order of the pack (`packOf`).  The hands are consecutive pieces of six
cards from the end of that order, in the order of the seats, and the deck is what they leave: that
is nothing at all for six players, and there are never too few cards.  `Game.deal_sets_up` says this
for every list of players, every timeout and every seed.
-/

set_option autoImplicit false

namespace Durak

-- sums of natural numbers are those of the core library
attribute [local instance (high)] Zero.ofOfNat0

/-! ## Hands -/

section Hands

variable (entrants : List Entrant) (seat : Nat) (cards : List Card)

/-- The hand of a place is the piece of six cards that begins where the hands before end. -/
theorem getElem?_dealHands (place : Nat) :
    (dealHands seat entrants cards).1[place]? = entrants[place]?.map fun entrant =>
      ⟨entrant.id, entrant.name, UInt8.ofNat (seat + place),
        (cards.reverse.drop (handSize * place)).take handSize, []⟩ := by
  induction entrants generalizing seat cards place with
  | nil => rfl
  | cons entrant rest hypothesis =>
    have first : (draw handSize cards).1 = cards.reverse.take handSize := by
      rw [draw, List.take_reverse]
    have left : (draw handSize cards).2.reverse = cards.reverse.drop handSize := by
      rw [draw, List.drop_reverse]
    cases place with
    | zero => simp only [dealHands, List.getElem?_cons_zero, first, Option.map_some, Nat.mul_zero,
        List.drop_zero, Nat.add_zero]
    | succ place =>
      have further : handSize + handSize * place = handSize * (place + 1) := by
        rw [Nat.mul_succ, Nat.add_comm]
      have counted : seat + 1 + place = seat + (place + 1) := by omega
      simp only [dealHands, List.getElem?_cons_succ, hypothesis, left, List.drop_drop, further,
        counted]

/-- The deck is what the hands leave. -/
theorem deck_dealHands :
    (dealHands seat entrants cards).2 =
      cards.take (cards.length - handSize * entrants.length) := by
  induction entrants generalizing seat cards with
  | nil => simp [dealHands]
  | cons entrant rest hypothesis =>
    simp only [dealHands, hypothesis, draw, List.take_take, List.length_take, List.length_cons,
      Nat.mul_succ]
    congr 1
    omega

end Hands

/-! ## Setups that are refused -/

/-- An id is repeated after ids that are distinct, and is one of them. -/
theorem firstRepeated?_eq_some_of_seen {seen ids : List String} (distinct : seen.Nodup)
    {id : String} (found : firstRepeated? seen ids = some id) :
    ∃ before after, ids = before ++ id :: after ∧ (before.reverse ++ seen).Nodup ∧
      id ∈ before.reverse ++ seen := by
  induction ids generalizing seen with
  | nil => cases found
  | cons first rest hypothesis =>
    rw [firstRepeated?] at found
    split at found
    · rename_i again
      cases found
      exact ⟨[], rest, rfl, distinct, again⟩
    · rename_i fresh
      obtain ⟨before, after, rfl, different, again⟩ :=
        hypothesis (List.nodup_cons.mpr ⟨fresh, distinct⟩) found
      have around : (first :: before).reverse ++ seen = before.reverse ++ first :: seen := by simp
      exact ⟨first :: before, after, rfl, around ▸ different, around ▸ again⟩

/-- When ids are not distinct, the first that has occurred before is found. -/
theorem exists_firstRepeated? {ids : List String} (repeats : ¬ids.Nodup) :
    ∃ before id after, ids = before ++ id :: after ∧ before.Nodup ∧ id ∈ before ∧
      firstRepeated? [] ids = some id := by
  cases found : firstRepeated? [] ids with
  | none => exact absurd (firstRepeated?_eq_none_iff.mp found).1 repeats
  | some id =>
    obtain ⟨before, after, split, distinct, again⟩ :=
      firstRepeated?_eq_some_of_seen List.nodup_nil found
    rw [List.append_nil] at distinct again
    exact ⟨before, id, after, split, List.nodup_reverse.mp distinct, List.mem_reverse.mp again, rfl⟩

/-- A timeout that is finite, above nought and at most a day. -/
def TimeoutAllowed (timeout : Double) : Prop :=
  ∃ magnitude, timeout = .finite false magnitude ∧ 0 < magnitude.units ∧
    magnitude.units ≤ 86400 * unitsInOne

theorem isWithin_iff_timeoutAllowed {timeout : Double} :
    timeout.isWithin longestTimeout = true ↔ TimeoutAllowed timeout := by
  have bounds : ∀ magnitude, Double.isWithin longestTimeout (.finite false magnitude) = true ↔
      0 < magnitude.units ∧ magnitude.units ≤ 86400 * unitsInOne := by
    intro magnitude
    rw [Double.isWithin, Bool.and_eq_true_iff, decide_eq_true_iff, decide_eq_true_iff,
      longestTimeout]
  constructor
  · intro within
    cases timeout with
    | finite negative magnitude =>
      cases negative with
      | false => exact ⟨magnitude, rfl, (bounds magnitude).mp within⟩
      | true => simp [Double.isWithin] at within
    | _ => simp [Double.isWithin] at within
  · rintro ⟨magnitude, rfl, inside⟩
    exact (bounds magnitude).mpr inside

section SetupFault

variable {entrants : List Entrant} {settings : Settings}

theorem wrongCount_iff :
    (entrants.length < fewestPlayers ∨ mostPlayers < entrants.length) ↔
      ¬(2 ≤ entrants.length ∧ entrants.length ≤ 6) := by
  rw [fewestPlayers, mostPlayers]
  omega

/-- A wrong number of players is what is reported first. -/
theorem setupFault?_of_count (wrong : ¬(2 ≤ entrants.length ∧ entrants.length ≤ 6)) :
    setupFault? entrants settings = some (.playerCount entrants.length) := by
  rw [setupFault?, if_pos (wrongCount_iff.mpr wrong)]

variable (enough : 2 ≤ entrants.length ∧ entrants.length ≤ 6)

include enough

/-- An id that is repeated is what is reported next. -/
theorem setupFault?_of_repeated {id : String}
    (found : firstRepeated? [] (entrants.map (·.id)) = some id) :
    setupFault? entrants settings = some (.duplicatePlayer id) := by
  rw [setupFault?, if_neg fun wrong => wrongCount_iff.mp wrong enough, found]

/-- The timeout is what is reported last. -/
theorem setupFault?_of_timeout (distinct : (entrants.map (·.id)).Nodup)
    (wrong : ¬TimeoutAllowed settings.turnTimeoutSeconds) :
    setupFault? entrants settings = some (.invalidTimeout settings.turnTimeoutSeconds) := by
  have fresh : firstRepeated? [] (entrants.map (·.id)) = none :=
    firstRepeated?_eq_none_iff.mpr ⟨distinct, fun _ _ => List.not_mem_nil⟩
  rw [setupFault?, if_neg fun wrong => wrongCount_iff.mp wrong enough, fresh]
  exact if_neg (mt isWithin_iff_timeoutAllowed.mp wrong)

end SetupFault

/-- The order of the pack that a seed stands for, and the draws after it.  The trump suit is drawn
before. -/
def packOf (seed : UInt64) : List Card × Draws :=
  ((Draws.ofSeed seed).below Suit.all.length).2.shuffled Card.pack

namespace Game

/-- A game that has just been set up for some players from the cards in some order. -/
structure SetUpFrom (game : Game) (entrants : List Entrant) (cards : List Card) : Prop where
  shuffled : cards.Perm Card.pack
  /-- The seats are the players in their order, with the pieces of the pack as hands. -/
  seats : ∀ place : Nat, game.players[place]? = entrants[place]?.map fun entrant =>
    { id := entrant.id
      name := entrant.name
      seat := UInt8.ofNat place
      hand := (cards.reverse.drop (handSize * place)).take handSize
      lastDrawn := [] }
  numbered : ∀ (place : Nat) player, game.players[place]? = some player → player.seat.toNat = place
  six : ∀ player ∈ game.players, player.hand.length = handSize
  deck : game.deck = cards.take (Card.packSize - handSize * entrants.length)
  left : game.deck.length = Card.packSize - handSize * entrants.length
  whole : (game.deck ++ game.players.flatMap (·.hand)).Perm Card.pack
  /-- The first attacker sits somewhere, and the defender right after. -/
  roles : ∃ place : Nat, place < entrants.length ∧
    entrants[place]?.map (·.id) = some game.attackerId ∧
    entrants[(place + 1) % entrants.length]?.map (·.id) = some game.defenderId
  table : game.table = []
  discard : game.discard = []
  endVotes : game.endVotes = .none
  readyVotes : game.readyVotes = .none
  events : game.events = []
  waiting : game.started = false
  attackTimer : game.attackTimer = .stopped
  defendTimer : game.defendTimer = .stopped
  regular : game.irregularity? = none

/-- A dealing is refused with a complaint of some kind. -/
def RefusedAs (kind : InvalidKind) (outcome : Except SetupFault Game) : Prop :=
  ∃ fault detail, outcome = .error fault ∧ fault.toDomainFault = .invalid kind detail

variable {id : String} {entrants : List Entrant} {settings : Settings} {seed : UInt64}

/-- A game is dealt from the pack in the order of its seed. -/
theorem exists_deal_eq_arranged (inOrder : setupFault? entrants settings = none) :
    ∃ trump attackerSeat, attackerSeat < entrants.length ∧
      deal id entrants settings seed =
        .ok (arranged id entrants settings trump (packOf seed).1 attackerSeat) := by
  have positive : 0 < entrants.length :=
    Nat.lt_of_lt_of_le (by decide) (setupFault?_eq_none_iff.mp inOrder).1.1
  unfold deal
  rw [inOrder]
  exact ⟨_, _, Draws.below_lt (packOf seed).2 positive, rfl⟩

/-- Six players at most get six cards each from thirty-six. -/
theorem length_piece {cards : List Card} (whole : cards.length = Card.packSize) {place : Nat}
    (few : place < mostPlayers) :
    ((cards.reverse.drop (handSize * place)).take handSize).length = handSize := by
  have enough : handSize * place + handSize ≤ Card.packSize := Nat.mul_le_mul_left handSize few
  rw [List.length_take, List.length_drop, List.length_reverse, whole]
  omega

/-- Whoever attacks first sits among the players, and the next of them defends. -/
theorem roles_arranged {trump : Suit} {cards : List Card} {attackerSeat : Nat}
    (inside : attackerSeat < entrants.length) :
    let game := arranged id entrants settings trump cards attackerSeat
    entrants[attackerSeat]?.map (·.id) = some game.attackerId ∧
      entrants[(attackerSeat + 1) % entrants.length]?.map (·.id) = some game.defenderId := by
  have around : ∀ place, entrants[place % entrants.length]?.map (·.id) =
      some (idAround (entrants.map (·.id)) place) := by
    intro place
    have there : place % entrants.length < (entrants.map (·.id)).length := by
      rw [List.length_map]
      exact Nat.mod_lt _ (Nat.zero_lt_of_lt inside)
    rw [idAround, List.getD_eq_getElem?_getD, List.length_map, ← List.getElem?_map,
      List.getElem?_eq_getElem there, Option.getD_some]
  have first := around attackerSeat
  rw [Nat.mod_eq_of_lt inside] at first
  exact ⟨first, around (attackerSeat + 1)⟩

/-- With nothing on the table and nothing put aside, hands and deck hold all cards. -/
theorem perm_pack_of_cards {game : Game} (whole : game.cards = (Card.pack : Multiset Card))
    (table : game.table = []) (discard : game.discard = []) :
    (game.deck ++ game.players.flatMap (·.hand)).Perm Card.pack := by
  have nothing : ((tableCards [] : List Card) : Multiset Card) = 0 := rfl
  rw [← Multiset.coe_eq_coe, ← whole, cards, table, discard, nothing, Multiset.coe_nil, add_zero,
    add_zero, ← Multiset.coe_add, coe_flatMap, handCards]

/-- A dealt game is set up from the pack in the order of its seed. -/
theorem setUpFrom_of_deal {game : Game} (dealt : deal id entrants settings seed = .ok game) :
    game.SetUpFrom entrants (packOf seed).1 := by
  have inOrder := (deal_eq_ok dealt).1
  obtain ⟨⟨-, few⟩, -, -⟩ := setupFault?_eq_none_iff.mp inOrder
  have whole : game.cards = (Card.pack : Multiset Card) := cards_of_deal dealt
  obtain ⟨place, attacks⟩ := attacksFrom_of_deal dealt
  have count : game.cardCount = Card.packSize := cardCount_afterAll dealt []
  obtain ⟨trump, attackerSeat, inside, same⟩ :=
    @exists_deal_eq_arranged id entrants settings seed inOrder
  obtain rfl := Except.ok.inj (same.symm.trans dealt)
  have shuffled : (packOf seed).1.Perm Card.pack := shuffled_perm _ Card.pack
  have length : (packOf seed).1.length = Card.packSize :=
    shuffled.length_eq.trans Card.length_pack
  have numbers := seatMismatch?_arranged id settings trump (packOf seed).1 attackerSeat few
  have seats := getElem?_dealHands entrants 0 (packOf seed).1
  have left := deck_dealHands entrants 0 (packOf seed).1
  rw [length] at left
  simp only [Nat.zero_add] at seats
  refine ⟨shuffled, seats, fun position player there => ?_, fun player member => ?_, left, ?_,
    perm_pack_of_cards whole rfl rfl, ⟨attackerSeat, inside, roles_arranged inside⟩,
    rfl, rfl, rfl, rfl, rfl, rfl, rfl, rfl,
    irregularity?_eq_none attacks (Nat.zero_le _) numbers count⟩
  · rw [seatMismatch?_eq_none_iff.mp numbers position player there, Nat.zero_add]
  · obtain ⟨position, there⟩ := List.mem_iff_getElem?.mp member
    obtain ⟨entrant, isEntrant, rfl⟩ :=
      Option.map_eq_some_iff.mp ((seats position).symm.trans there)
    exact length_piece length ((List.getElem?_eq_some_iff.mp isEntrant).1.trans_le few)
  · show (dealHands 0 entrants (packOf seed).1).2.length = _
    rw [left, List.length_take, length]
    exact Nat.min_eq_left (Nat.sub_le _ _)

/-- A setup is refused for the first thing that is wrong with it. -/
theorem deal_eq_error {fault : SetupFault} (wrong : setupFault? entrants settings = some fault) :
    deal id entrants settings seed = .error fault := by
  rw [deal, wrong]

/-- **What dealing does.**  For every list of players, every timeout and every seed, a game is dealt
exactly if there are two to six players, their ids are distinct, and the timeout is allowed.  If
not, the number of players is reported when it is wrong, else the first id that occurred before,
else the timeout.

The dealt game is set up from the order of the pack that the seed stands for: six cards for each
seat, piece by piece from the end, and the rest in the deck. -/
theorem deal_sets_up (id : String) (entrants : List Entrant) (settings : Settings)
    (seed : UInt64) :
    let outcome := deal id entrants settings seed
    let enough := 2 ≤ entrants.length ∧ entrants.length ≤ 6
    let distinct := (entrants.map (·.id)).Nodup
    let allowed := TimeoutAllowed settings.turnTimeoutSeconds
    ((∃ game, outcome = .ok game) ↔ enough ∧ distinct ∧ allowed) ∧
    (¬enough → outcome = .error (.playerCount entrants.length) ∧
      RefusedAs .playerCount outcome) ∧
    (enough → ¬distinct →
      (∃ before repeated after, entrants.map (·.id) = before ++ repeated :: after ∧
        before.Nodup ∧ repeated ∈ before ∧ outcome = .error (.duplicatePlayer repeated)) ∧
      RefusedAs .duplicatePlayer outcome) ∧
    (enough → distinct → ¬allowed →
      outcome = .error (.invalidTimeout settings.turnTimeoutSeconds) ∧
      RefusedAs .invalidSettings outcome) ∧
    ∀ game, outcome = .ok game →
      game.id = id ∧ game.settings = settings ∧ game.SetUpFrom entrants (packOf seed).1 := by
  intro outcome enough distinct allowed
  have inOrder : setupFault? entrants settings = none ↔ enough ∧ distinct ∧ allowed :=
    setupFault?_eq_none_iff.trans
      (and_congr_right fun _ => and_congr_right fun _ => isWithin_iff_timeoutAllowed)
  refine ⟨⟨?_, ?_⟩, fun wrong => ?_, fun right repeats => ?_, fun right different wrong => ?_, ?_⟩
  · rintro ⟨game, dealt⟩
    exact inOrder.mp (deal_eq_ok dealt).1
  · exact fun right => exists_deal_eq_ok (inOrder.mpr right) id seed
  · have refused := @deal_eq_error id entrants settings seed _ (setupFault?_of_count wrong)
    exact ⟨refused, _, _, refused, rfl⟩
  · obtain ⟨before, repeated, after, split, fresh, again, found⟩ := exists_firstRepeated? repeats
    have refused := @deal_eq_error id entrants settings seed _ (setupFault?_of_repeated right found)
    exact ⟨⟨before, repeated, after, split, fresh, again, refused⟩, _, _, refused, rfl⟩
  · have refused :=
      @deal_eq_error id entrants settings seed _ (setupFault?_of_timeout right different wrong)
    exact ⟨refused, _, _, refused, rfl⟩
  · intro game dealt
    obtain ⟨-, _, _, _, -, -, rfl⟩ := deal_eq_ok dealt
    exact ⟨rfl, rfl, setUpFrom_of_deal dealt⟩

/-- As many players as a game is ever dealt to. -/
def sixEntrants : List Entrant :=
  [⟨"a", ""⟩, ⟨"b", ""⟩, ⟨"c", ""⟩, ⟨"d", ""⟩, ⟨"e", ""⟩, ⟨"f", ""⟩]

/-- Six players get the whole pack. -/
theorem deal_sets_up_six_entrants :
    ∃ game, deal "g" sixEntrants ⟨Double.ofInt 30⟩ 7 = .ok game ∧ game.deck = [] ∧
      ∀ player ∈ game.players, player.hand.length = handSize := by
  obtain ⟨isDealt, -, -, -, setsUp⟩ := deal_sets_up "g" sixEntrants ⟨Double.ofInt 30⟩ 7
  have allowed : TimeoutAllowed (⟨Double.ofInt 30⟩ : Settings).turnTimeoutSeconds :=
    isWithin_iff_timeoutAllowed.mp (by decide +kernel)
  obtain ⟨game, dealt⟩ := isDealt.mpr ⟨by decide, by decide, allowed⟩
  obtain ⟨-, -, setUp⟩ := setsUp game dealt
  exact ⟨game, dealt, List.length_eq_zero_iff.mp setUp.left, setUp.six⟩

end Game

end Durak
