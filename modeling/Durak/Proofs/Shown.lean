import Durak.Pack

/-!
# Which cards a written value shows

A value shows a card where one of its parts is an object that gives a suit and a rank, in whatever
order and whatever else the object gives.  `Card.ShownAt` says so for the part at the end of a path,
which leads from the whole value through members and items, and `Json.Shows` for any part.

A written card shows itself and nothing else, and every other object of the wire format has no
member called `suit`.  So the cards that a view, an event or a command shows are those it is made
of, and no text, number or flag shows any.
-/

set_option autoImplicit false

namespace Durak

/-- A step from a value to one of its parts. -/
inductive PathStep where
  | member (name : String)
  | item (position : Nat)
  deriving DecidableEq

/-- The part of a value at the end of a path gives a card. -/
inductive Card.ShownAt (card : Card) : List PathStep → Json → Prop where
  | here {members : List (String × Json)} (suit : ("suit", card.suit.toJson) ∈ members)
      (rank : ("rank", card.rank.toJson) ∈ members) : ShownAt card [] (.object members)
  | member {name : String} {value : Json} {path : List PathStep} {members : List (String × Json)}
      (listed : (name, value) ∈ members) (inside : ShownAt card path value) :
      ShownAt card (.member name :: path) (.object members)
  | item {position : Nat} {value : Json} {path : List PathStep} {items : List Json}
      (listed : items[position]? = some value) (inside : ShownAt card path value) :
      ShownAt card (.item position :: path) (.array items)

/-- Some part of a value gives a card. -/
def Json.Shows (json : Json) (card : Card) : Prop := ∃ path, card.ShownAt path json

/-- The cards an event names. -/
def Event.cards : Event → List Card
  | .attack card _ => [card]
  | .defend target card _ => [target, card]
  | _ => []

/-- The cards an action names. -/
def Action.cards : Action → List Card
  | .attack card => [card]
  | .defend target card => [target, card]
  | _ => []

/-! ## Values -/

namespace Json

variable {card : Card}

@[simp] theorem not_shows_null : ¬null.Shows card := fun ⟨_, shown⟩ => nomatch shown

@[simp] theorem not_shows_boolean (value : Bool) : ¬(boolean value).Shows card :=
  fun ⟨_, shown⟩ => nomatch shown

@[simp] theorem not_shows_integer (value : Int) : ¬(integer value).Shows card :=
  fun ⟨_, shown⟩ => nomatch shown

@[simp] theorem not_shows_string (content : String) : ¬(string content).Shows card :=
  fun ⟨_, shown⟩ => nomatch shown

theorem shows_array {items : List Json} :
    (array items).Shows card ↔ ∃ item ∈ items, item.Shows card := by
  constructor
  · rintro ⟨_, shown⟩
    cases shown with
    | item listed inside => exact ⟨_, List.mem_of_getElem? listed, _, inside⟩
  · rintro ⟨item, member, path, inside⟩
    obtain ⟨position, listed⟩ := List.mem_iff_getElem?.mp member
    exact ⟨_, .item listed inside⟩

@[simp] theorem shows_array_map {α : Type} {items : List α} {write : α → Json} :
    (array (items.map write)).Shows card ↔ ∃ item ∈ items, (write item).Shows card := by
  rw [shows_array]
  constructor
  · rintro ⟨_, member, shown⟩
    obtain ⟨item, listed, rfl⟩ := List.mem_map.mp member
    exact ⟨item, listed, shown⟩
  · rintro ⟨item, listed, shown⟩
    exact ⟨_, List.mem_map_of_mem listed, shown⟩

/-- An object without a suit is no card. -/
theorem shows_object {members : List (String × Json)} (suitless : "suit" ∉ members.map Prod.fst) :
    (object members).Shows card ↔ ∃ member ∈ members, member.2.Shows card := by
  constructor
  · rintro ⟨_, shown⟩
    cases shown with
    | here suit => exact absurd (List.mem_map_of_mem suit) suitless
    | member listed inside => exact ⟨_, listed, _, inside⟩
  · rintro ⟨⟨name, value⟩, listed, path, inside⟩
    exact ⟨_, .member listed inside⟩

end Json

/-! ## The wire format -/

theorem Suit.name_injective {first second : Suit} (same : first.name = second.name) :
    first = second :=
  Option.some.inj (by rw [← ofName?_name first, ← ofName?_name second, same])

namespace Card

variable {card other : Card}

/-- A written card shows itself and no other. -/
@[simp] theorem shows_toJson : card.toJson.Shows other ↔ other = card := by
  constructor
  · rintro ⟨_, shown⟩
    cases shown with
    | here suit rank =>
      have sameSuit : other.suit = card.suit :=
        Suit.name_injective (by simpa [Suit.toJson] using suit)
      have sameRank : other.rank = card.rank :=
        Rank.value_injective (by simpa [Rank.toJson, Int.natCast_inj] using rank)
      show Card.mk other.suit other.rank = Card.mk card.suit card.rank
      rw [sameSuit, sameRank]
    | member listed inside =>
      simp only [Suit.toJson, Rank.toJson, List.mem_cons, List.not_mem_nil, or_false,
        Prod.mk.injEq] at listed
      rcases listed with ⟨-, rfl⟩ | ⟨-, rfl⟩ <;> cases inside
  · rintro rfl
    exact ⟨[], .here List.mem_cons_self (List.mem_cons_of_mem _ List.mem_cons_self)⟩

@[simp] theorem shows_listToJson {cards : List Card} :
    (listToJson cards).Shows card ↔ card ∈ cards := by
  simp [listToJson]

end Card

@[simp] theorem Suit.not_shows_toJson (suit : Suit) (card : Card) : ¬suit.toJson.Shows card :=
  Json.not_shows_string suit.name

namespace TableEntry

variable {card : Card}

@[simp] theorem shows_toJson {entry : TableEntry} :
    entry.toJson.Shows card ↔ card ∈ entry.cards := by
  rw [toJson, Json.shows_object (by simp)]
  cases cover : entry.cover <;> simp [cards, cover, Json.orNull]

@[simp] theorem shows_listToJson {table : List TableEntry} :
    (listToJson table).Shows card ↔ card ∈ tableCards table := by
  simp [listToJson, tableCards]

end TableEntry

/-- What is shown of another player names no card. -/
@[simp] theorem OtherPlayer.not_shows_toJson (player : OtherPlayer) (card : Card) :
    ¬player.toJson.Shows card := by
  rw [toJson, Json.shows_object (by simp)]
  simp

/-- **A view shows the viewer's own cards and the table.** -/
theorem View.shows_toJson {view : View} {card : Card} :
    view.toJson.Shows card ↔
      card ∈ view.viewerHand ∨ card ∈ view.viewerLastDrawn ∨ card ∈ tableCards view.table := by
  rw [toJson, Json.shows_object (by simp)]
  simp

/-- An instant is written as a text. -/
theorem Json.not_shows_instantOrNull? {instant : Option Instant} {json : Json}
    (written : Json.instantOrNull? instant = some json) (card : Card) : ¬json.Shows card := by
  cases instant with
  | none =>
    cases written
    exact not_shows_null
  | some instant =>
    obtain ⟨timestamp, -, rfl⟩ := Option.map_eq_some_iff.mp written
    exact not_shows_string timestamp

/-- **An event shows the cards it names.** -/
theorem Event.shows_toJson? {event : Event} {json : Json} (written : event.toJson? = some json)
    {card : Card} : json.Shows card ↔ card ∈ event.cards := by
  obtain ⟨members, isMembers, same⟩ := Option.bind_eq_some_iff.mp written
  cases same
  cases event with
  | timerState timer completed endsAt =>
    obtain ⟨ends, isWritten, same⟩ := Option.bind_eq_some_iff.mp isMembers
    cases same
    rw [tagged, Json.shows_object (by simp [tagName])]
    simp [TimerKind.toJson, Json.not_shows_instantOrNull? isWritten, cards]
  | _ =>
    cases isMembers
    rw [tagged, Json.shows_object (by simp [tagName])]
    simp [cards, GameResult.toJson]

/-- **A command shows the cards its action names.** -/
theorem Command.shows_toJson {command : Command} {card : Card} :
    command.toJson.Shows card ↔ card ∈ command.action.cards := by
  rw [toJson, Json.shows_object ?_]
  · cases command.action <;> simp [payloadMembers, Action.cards, or_comm]
  · cases command.action <;> simp [payloadMembers]

end Durak
