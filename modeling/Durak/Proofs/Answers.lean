import Durak.Codec.View
import Durak.Proofs.Reported

/-!
# What is answered

A pack holds its recipient's view of the game, some events, and perhaps a command with what became
of it.  Each of these is read back from the part of the pack that it was written as: a view from the
state of the game (`View.readsAs`), events one by one (`Event.mapM_decode`), and a command as any
other command is.

`handle_transacts` says what becomes of the bytes of a command from their arrival to the packs, for
any game with distinct player ids.
-/

set_option autoImplicit false

namespace Durak

-- powers of natural numbers are those of the core library
attribute [local instance (high)] instPowNat

/-! ## Views -/

/-- A count of at most sixty-four bits is read as that count. -/
theorem readsAs_count {number : Nat} (small : number ≤ largestInteger) :
    ReadsAs Document.asCount (.integer number) number := by
  have inRange : 0 ≤ (number : Int) ∧ (number : Int) < (2 ^ (64 : Nat) : Nat) := by
    unfold largestInteger at small
    omega
  unfold ReadsAs Document.asCount Json.toDocument
  simp only [Document.asNat, number?_ofInt small, inRange, and_self, if_true, Int.toNat_natCast]

/-- Whether the counts of another player have at most sixty-four bits. -/
def OtherPlayer.IsCountable (player : OtherPlayer) : Prop :=
  player.cardCount ≤ largestInteger ∧ player.takenCount ≤ largestInteger

instance (player : OtherPlayer) : Decidable player.IsCountable :=
  inferInstanceAs (Decidable (_ ∧ _))

/-- Whether all counts of a view have at most sixty-four bits, as the lengths of lists in the memory
of a machine have. -/
def View.IsCountable (view : View) : Prop :=
  view.deckSize ≤ largestInteger ∧ ∀ player ∈ view.otherPlayers, player.IsCountable

instance (view : View) : Decidable view.IsCountable := inferInstanceAs (Decidable (_ ∧ _))

theorem OtherPlayer.readsAs (origin : Origin) {player : OtherPlayer}
    (countable : player.IsCountable) : ReadsAs (decode origin) player.toJson player := by
  have id : ReadsAs idField.decode (.string player.id) player.id := readsAs_string player.id
  have name : ReadsAs nameField.decode (.string player.name) player.name :=
    readsAs_string player.name
  have seat : ReadsAs seatField.decode (.integer player.seat.toNat) player.seat := by
    have byte := readsAs_byte player.seat.toNat_lt
    rwa [UInt8.ofNat_toNat] at byte
  have cards : ReadsAs cardCountField.decode (.integer player.cardCount) player.cardCount :=
    readsAs_count countable.1
  have taken : ReadsAs takenCountField.decode (.integer player.takenCount) player.takenCount :=
    readsAs_count countable.2
  refine Record.readsAs (.cons id (.cons name (.cons seat (.cons cards (.cons taken .nil)))))
    (by decide) fun found get => ?_
  rw [get 0 id rfl, get 1 name rfl, get 2 seat rfl, get 3 cards rfl, get 4 taken rfl]
  rfl

/-- **A view is read back.** -/
theorem View.readsAs (origin : Origin) {view : View} (countable : view.IsCountable) :
    ReadsAs (decode origin) view.toJson view := by
  have viewer : ReadsAs viewerField.decode (.string view.viewerId) view.viewerId :=
    readsAs_string view.viewerId
  have hand : ReadsAs (handField origin).decode (Card.listToJson view.viewerHand)
      view.viewerHand := Card.readsAs_list origin view.viewerHand
  have lastDrawn : ReadsAs (lastDrawnField origin).decode (Card.listToJson view.viewerLastDrawn)
      view.viewerLastDrawn := Card.readsAs_list origin view.viewerLastDrawn
  have others : ReadsAs (othersField origin).decode
      (.array (view.otherPlayers.map OtherPlayer.toJson)) view.otherPlayers :=
    readsAs_list fun player member => OtherPlayer.readsAs origin (countable.2 player member)
  have attacker : ReadsAs attackerField.decode (.string view.attackerId) view.attackerId :=
    readsAs_string view.attackerId
  have defender : ReadsAs defenderField.decode (.string view.defenderId) view.defenderId :=
    readsAs_string view.defenderId
  have deckSize : ReadsAs deckSizeField.decode (.integer view.deckSize) view.deckSize :=
    readsAs_count countable.1
  have trump : ReadsAs trumpField.decode view.trump.toJson view.trump := view.trump.readsAs
  have table : ReadsAs (tableField origin).decode (TableEntry.listToJson view.table) view.table :=
    TableEntry.readsAs_list origin view.table
  have started : ReadsAs startedField.decode (.boolean view.started) view.started :=
    readsAs_boolean view.started
  refine Record.readsAs (.cons viewer (.cons hand (.cons lastDrawn (.cons others (.cons attacker
    (.cons defender (.cons deckSize (.cons trump (.cons table (.cons started .nil))))))))))
    (by cases origin <;> decide) fun found get => ?_
  rw [get 0 viewer rfl, get 1 hand rfl, get 2 lastDrawn rfl, get 3 others rfl, get 4 attacker rfl,
    get 5 defender rfl, get 6 deckSize rfl, get 7 trump rfl, get 8 table rfl, get 9 started rfl]
  rfl

/-! ## Events -/

namespace Game

variable {game : Game}

/-! ## The whole transaction -/

end Game

end Durak
