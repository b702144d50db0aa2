import Durak.Proofs.Conservation
import Durak.View

/-!
# The table

A card may be laid beside others when its rank is on the table, and a card may be covered by one
that beats it.  Both are judged once, when the card is laid.  They stay true all the same, because
a table only grows: a card is laid at its end, an open card gets its cover, and nothing is taken
away but everything at once.  So the cards that let an entry join are still there, before it.

`LegalTable` is what this comes to for a table as it lies.  A command keeps it
(`TableInOrder.apply`), so every game that a run reaches has a legal table, and so has every view of
it (`seen_tables_are_legal`).  Covers count for ranks only where they lie before an entry; that a
later cover has the rank of an earlier card is neither asked for nor true.
-/

set_option autoImplicit false

namespace Durak

/-- Every cover beats the card it lies on, and every entry but the first has the rank of a card,
attacking or covering, of some entry before it. -/
structure LegalTable (trump : Suit) (table : List TableEntry) : Prop where
  beaten : ∀ entry ∈ table, ∀ cover, entry.cover = some cover →
    cover.beats trump entry.card = true
  joined : ∀ before entry after, table = before ++ entry :: after → before ≠ [] →
    ∃ earlier ∈ before, ∃ card ∈ earlier.cards, card.rank = entry.card.rank

/-- Two elements of one list: the second stands before the first, or is the first, or stands after
it. -/
theorem append_cons_cases {α : Type} {before after earlier later : List α} {first second : α}
    (same : before ++ first :: after = earlier ++ second :: later) :
    (∃ between, before = earlier ++ second :: between ∧ later = between ++ first :: after) ∨
      (before = earlier ∧ first = second) ∨
      ∃ between, earlier = before ++ first :: between ∧ after = between ++ second :: later := by
  rcases List.append_eq_append_iff.mp same with ⟨between, split, rest⟩ | ⟨between, split, rest⟩
  · cases between with
    | nil =>
      rw [List.nil_append, List.cons.injEq] at rest
      exact .inr (.inl ⟨by rw [split, List.append_nil], rest.1⟩)
    | cons item between =>
      rw [List.cons_append, List.cons.injEq] at rest
      exact .inr (.inr ⟨between, by rw [split, rest.1], rest.2⟩)
  · cases between with
    | nil =>
      rw [List.nil_append, List.cons.injEq] at rest
      exact .inr (.inl ⟨by rw [split, List.append_nil], rest.1.symm⟩)
    | cons item between =>
      rw [List.cons_append, List.cons.injEq] at rest
      exact .inl ⟨between, by rw [split, rest.1], rest.2⟩

namespace LegalTable

variable {trump : Suit} {table : List TableEntry}

theorem nil : LegalTable trump [] :=
  ⟨fun _ member => absurd member List.not_mem_nil, fun _ _ _ split => by simp at split⟩

/-- A card whose rank is on the table may be laid at its end, open. -/
theorem lay (legal : LegalTable trump table) {card : Card}
    (joins : table = [] ∨ ∃ laid ∈ tableCards table, laid.rank = card.rank) :
    LegalTable trump (table ++ [⟨card, none⟩]) := by
  refine ⟨fun entry member cover covered => ?_, fun before entry after split some_ => ?_⟩
  · rcases List.mem_append.mp member with there | new
    · exact legal.beaten entry there cover covered
    · rw [List.mem_singleton.mp new] at covered
      cases covered
  · rcases append_cons_cases split with
      ⟨between, there, -⟩ | ⟨rfl, rfl⟩ | ⟨between, -, nothing⟩
    · exact legal.joined before entry between there some_
    · obtain ⟨laid, member, sameRank⟩ := joins.resolve_left some_
      obtain ⟨earlier, lies, ofEntry⟩ := List.mem_flatMap.mp member
      exact ⟨earlier, lies, laid, ofEntry, sameRank⟩
    · simp at nothing

/-- An open card may be covered by one that beats it. -/
theorem cover {before later : List TableEntry} {target card : Card}
    (legal : LegalTable trump (before ++ ⟨target, none⟩ :: later))
    (beats : card.beats trump target = true) :
    LegalTable trump (before ++ ⟨target, some card⟩ :: later) := by
  refine ⟨fun entry member cover covered => ?_, fun earlier entry after split some_ => ?_⟩
  · rcases List.mem_append.mp member with there | there
    · exact legal.beaten entry (List.mem_append_left _ there) cover covered
    · rcases List.mem_cons.mp there with rfl | there
      · cases covered
        exact beats
      · exact legal.beaten entry (List.mem_append_right _ (List.mem_cons_of_mem _ there)) cover
          covered
  · rcases append_cons_cases split with
      ⟨between, rfl, rfl⟩ | ⟨rfl, rfl⟩ | ⟨between, rfl, rfl⟩
    · refine legal.joined earlier entry (between ++ ⟨target, none⟩ :: later) ?_ some_
      rw [List.append_assoc, List.cons_append]
    · exact legal.joined before ⟨target, none⟩ later rfl some_
    · -- the entry that let this one join may be the covered one, which has only more cards now
      obtain ⟨witness, lies, laid, ofWitness, sameRank⟩ :=
        legal.joined (before ++ ⟨target, none⟩ :: between) entry after (by simp) (by simp)
      rcases List.mem_append.mp lies with there | there
      · exact ⟨witness, List.mem_append_left _ there, laid, ofWitness, sameRank⟩
      · rcases List.mem_cons.mp there with rfl | there
        · refine ⟨⟨target, some card⟩, by simp, laid, ?_, sameRank⟩
          simp only [TableEntry.cards, Option.toList_none, List.mem_singleton] at ofWitness
          exact ofWitness ▸ List.mem_cons_self
        · exact ⟨witness, List.mem_append_right _ (List.mem_cons_of_mem _ there), laid,
            ofWitness, sameRank⟩

end LegalTable

namespace Game

/-- A game that has not been started has a clear table, and a table is always legal. -/
structure TableInOrder (game : Game) : Prop where
  started : game.table ≠ [] → game.started = true
  legal : LegalTable game.trump game.table

namespace TableInOrder

variable {game : Game}

theorem congr {other : Game} (inOrder : game.TableInOrder) (table : other.table = game.table)
    (trump : other.trump = game.trump) (started : game.started = true → other.started = true) :
    other.TableInOrder := by
  refine ⟨fun laid => started (inOrder.started (table ▸ laid)), ?_⟩
  rw [table, trump]
  exact inOrder.legal

theorem of_clear {game : Game} (clear : game.table = []) : game.TableInOrder :=
  ⟨fun laid => absurd clear laid, clear ▸ .nil⟩

/-- **A command leaves the table in order.** -/
theorem apply (inOrder : game.TableInOrder) (userId : String) (action : Action) (now : Instant) :
    (game.apply userId action now).game.TableInOrder := by
  have effect := apply_effect game userId action now
  generalize (game.apply userId action now).violation = verdict,
    (game.apply userId action now).game = result at effect ⊢
  cases effect with
  | unregistered | readyAgain | attackRefused | defendRefused | endRefused | takeRefused
  | takeUnseated | timerRefused => exact inOrder
  | ready | defendLate | vote | timerShown => exact inOrder.congr rfl rfl fun started => started
  | start => exact inOrder.congr rfl rfl fun _ => rfl
  | attackLate | timerClosed => exact of_clear rfl
  | endRound => exact of_clear (table_endRound _)
  | take => exact of_clear (passOver_keeps table (fun _ _ _ => rfl) _ _)
  | attack card permitted => exact ⟨fun _ => permitted.started, inOrder.legal.lay permitted.joins⟩
  | defend target card permitted =>
    obtain ⟨before, later, isOpen, covered⟩ := exists_covered card permitted.open_
    have laid : ((game.withoutCard userId card).layCover userId target card now).table =
        before ++ ⟨target, some card⟩ :: later :=
      (layCover_keeps table (fun _ _ _ => rfl) _ userId target card now).trans covered
    have begun : ((game.withoutCard userId card).layCover userId target card now).started =
        game.started :=
      layCover_keeps Game.started (fun _ _ _ => rfl) _ userId target card now
    have sameTrump : ((game.withoutCard userId card).layCover userId target card now).trump =
        game.trump :=
      layCover_keeps trump (fun _ _ _ => rfl) _ userId target card now
    refine ⟨fun _ => begun.trans permitted.started, ?_⟩
    have legal := inOrder.legal
    rw [isOpen] at legal
    rw [laid, sameTrump]
    exact legal.cover permitted.beats

/-- Along a run the table stays in order. -/
theorem afterAll (inOrder : game.TableInOrder) (steps : List Step) :
    (game.afterAll steps).TableInOrder :=
  invariant_afterAll (fun _ step kept => by
    cases step with
    | command userId action now => exact kept.apply userId action now
    | handOut => exact kept.congr rfl rfl fun started => started) inOrder steps

theorem of_deal {id : String} {entrants : List Entrant} {settings : Settings} {seed : UInt64}
    {dealt : Game} (isDealt : deal id entrants settings seed = .ok dealt) :
    dealt.TableInOrder := by
  obtain ⟨-, trump, order, attackerSeat, -, -, rfl⟩ := deal_eq_ok isDealt
  exact of_clear rfl

end TableInOrder

/-- **Every table that a player sees is legal.**  In every game that a run from a deal reaches, a
card lies on the table only if the game has been started, every cover beats the card it lies on
under the trump suit of the game, and every entry but the first has the rank of a card, attacking or
covering, of some entry before it.  The same holds of what anybody is shown of the game. -/
theorem seen_tables_are_legal {id : String} {entrants : List Entrant} {settings : Settings}
    {seed : UInt64} {dealt : Game} (isDealt : deal id entrants settings seed = .ok dealt)
    (steps : List Step) :
    let game := dealt.afterAll steps
    (game.table ≠ [] → game.started = true) ∧ LegalTable game.trump game.table ∧
      ∀ viewerId view, game.view? viewerId = some view →
        (view.table ≠ [] → view.started = true) ∧ LegalTable view.trump view.table := by
  intro game
  have inOrder : game.TableInOrder := (TableInOrder.of_deal isDealt).afterAll steps
  refine ⟨inOrder.started, inOrder.legal, fun viewerId view shown => ?_⟩
  obtain ⟨viewer, -, rfl⟩ := Option.map_eq_some_iff.mp shown
  exact ⟨inOrder.started, inOrder.legal⟩

/-- A run in which three players get ready, the first attacker lays a six, it is beaten by an eight
of trumps, and the attacker adds another eight. -/
def joinedByCover : List Step := [
  .command "a" .ready (.ofUnixSeconds 0), .command "b" .ready (.ofUnixSeconds 0),
  .command "c" .ready (.ofUnixSeconds 0),
  .command "a" (.attack ⟨.diamonds, .six⟩) (.ofUnixSeconds 1),
  .command "b" (.defend ⟨.diamonds, .six⟩ ⟨.hearts, .eight⟩) (.ofUnixSeconds 2), .handOut,
  .command "a" (.attack ⟨.diamonds, .eight⟩) (.ofUnixSeconds 3)]

/-- The second eight joins by the cover: no attacking card before it has its rank. -/
theorem seen_tables_are_legal_joined_by_cover :
    deal "g" [⟨"a", ""⟩, ⟨"b", ""⟩, ⟨"c", ""⟩] ⟨Double.ofInt 30⟩ 0 = .ok trio ∧
      (trio.afterAll joinedByCover).table =
        [⟨⟨.diamonds, .six⟩, some ⟨.hearts, .eight⟩⟩, ⟨⟨.diamonds, .eight⟩, none⟩] ∧
      (trio.afterAll joinedByCover).started = true ∧
      LegalTable .hearts
        [⟨⟨.diamonds, .six⟩, some ⟨.hearts, .eight⟩⟩, ⟨⟨.diamonds, .eight⟩, none⟩] := by
  have table : (trio.afterAll joinedByCover).table =
      [⟨⟨.diamonds, .six⟩, some ⟨.hearts, .eight⟩⟩, ⟨⟨.diamonds, .eight⟩, none⟩] := by
    decide +kernel
  have trump : (trio.afterAll joinedByCover).trump = .hearts := by decide +kernel
  obtain ⟨started, legal, -⟩ := seen_tables_are_legal deal_trio joinedByCover
  rw [table, trump] at legal
  exact ⟨deal_trio, table, started (by simp [table]), legal⟩

end Game

end Durak
