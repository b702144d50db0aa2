import Durak.Codec.Game
import Durak.Proofs.Members
import Durak.Proofs.Timestamps
import Durak.Proofs.Written

/-!
# Stored games read back

`ReadsAs decode json value` says that a decoder takes what is written for the value it was written
from.  A record is written with its fields in their order, each under its own name (`Fits`), and
then the decoder of the record meets no fault and finds every field, in this order of the members or
in another (`Record.decode_of_perm`); so it is enough to follow the fields down to texts, numbers
and timestamps.

The one value that may come back changed is the turn timeout, because the digits of a double are
the shortest that name it when they are rounded once, and they are read in two roundings.
`Game.readsAs` says what a stored game is read as, whatever its timeout became.
-/

set_option autoImplicit false

namespace Durak

-- powers of natural numbers are those of the core library
attribute [local instance (high)] instPowNat

/-- Whether a decoder takes what is written for a value. -/
def ReadsAs {α : Type} (decode : Document → Decoded α) (json : Json) (value : α) : Prop :=
  decode json.toDocument = .ok value

/-! ## Simple values -/

theorem readsAs_string (text : String) : ReadsAs Document.asString (.string text) text := rfl

theorem readsAs_boolean (value : Bool) : ReadsAs Document.asBool (.boolean value) value := rfl

/-- A natural number of at most sixty-four bits is read as an integer. -/
theorem number?_ofInt {number : Nat} (small : number ≤ largestInteger) :
    (Numeral.ofInt number).number? = some (.integer number) := by
  have positive : ((number : Int) < 0) = False := by simp
  simp [Numeral.number?, Numeral.ofInt, Numeral.isWhole, positive, ofDigits_decimalDigits, small]

theorem readsAs_byte {number : Nat} (small : number < 256) :
    ReadsAs Document.asByte (.integer number) (UInt8.ofNat number) := by
  have isNumber : (Numeral.ofInt number).number? = some (.integer number) :=
    number?_ofInt (Nat.le_trans (Nat.le_of_lt small) (by decide))
  have inRange : 0 ≤ (number : Int) ∧ (number : Int) < (256 : Nat) := by omega
  unfold ReadsAs Document.asByte Json.toDocument
  simp only [Document.asNat, isNumber, inRange, and_self, if_true, Int.toNat_natCast]
  rfl

/-- The elements of a list are read one by one. -/
theorem readsAs_list {α : Type} {decode : Document → Decoded α} {write : α → Json} {values : List α}
    (each : ∀ value ∈ values, ReadsAs decode (write value) value) :
    ReadsAs (Document.asList decode) (.array (values.map write)) values := by
  show (Json.itemDocuments (values.map write)).mapM decode = .ok values
  induction values with
  | nil => rfl
  | cons value values hypothesis =>
    have first : decode (write value).toDocument = .ok value := each value List.mem_cons_self
    have later := hypothesis fun other member => each other (List.mem_cons_of_mem _ member)
    rw [List.map_cons, Json.itemDocuments, List.mapM_cons, first, later]
    rfl

theorem readsAs_option {α : Type} {decode : Document → Decoded α} {write : α → Json}
    (each : ∀ value, ReadsAs decode (write value) value)
    (solid : ∀ value, (write value).toDocument ≠ .null) (value : Option α) :
    ReadsAs (Document.asOption decode) (.orNull (value.map write)) value := by
  cases value with
  | none => rfl
  | some value =>
    show Document.asOption decode (write value).toDocument = .ok (some value)
    have isRead : decode (write value).toDocument = .ok value := each value
    have notNull := solid value
    generalize (write value).toDocument = document at *
    cases document with
    | null => exact absurd rfl notNull
    | _ => simp only [Document.asOption, isRead]; rfl

/-- An instant is read from its timestamp. -/
theorem readsAs_instant {startedAt : Option Instant} {json : Json}
    (written : Json.instantOrNull? startedAt = some json) :
    ReadsAs (Document.asOption Document.asInstant) json startedAt := by
  cases startedAt with
  | none =>
    cases written
    rfl
  | some instant =>
    obtain ⟨text, isText, rfl⟩ := Option.map_eq_some_iff.mp written
    simp only [ReadsAs, Json.toDocument, Document.asOption, Document.asInstant,
      Instant.ofTimestamp?_of_timestamp? isText]
    rfl

/-! ## Records -/

/-- The members of an object as a decoder finds them. -/
def writtenMembers (members : List (String × Json)) : Keyed Document :=
  members.map fun member => (member.1, member.2.toDocument)

/-- Whether members are the fields of a record in their order, each with a value it can read. -/
inductive Fits : List (String × (Document → Option Fault)) → List (String × Json) → Prop where
  | nil : Fits [] []
  | cons {α : Type} {field : Field α} {json : Json} {value : α}
      {checks : List (String × (Document → Option Fault))} {members : List (String × Json)}
      (reads : ReadsAs field.decode json value) (rest : Fits checks members) :
      Fits (field.check :: checks) ((field.name, json) :: members)

theorem Json.memberDocuments_eq_map (members : List (String × Json)) :
    memberDocuments members = members.map fun member => (some member.1, member.2.toDocument) := by
  induction members with
  | nil => rfl
  | cons member members hypothesis => rw [memberDocuments, hypothesis, List.map_cons]

theorem namedMembers_memberDocuments (members : List (String × Json)) :
    Document.namedMembers (Json.memberDocuments members) = writtenMembers members := by
  rw [Json.memberDocuments_eq_map, Document.namedMembers, List.filterMap_map]
  exact congrFun List.filterMap_eq_map' members

theorem Fits.names_eq {checks : List (String × (Document → Option Fault))}
    {members : List (String × Json)} (fits : Fits checks members) :
    members.map Prod.fst = checks.map Prod.fst := by
  induction fits with
  | nil => rfl
  | cons _ _ hypothesis => exact congrArg (_ :: ·) hypothesis

/-- Every field is among the members that fit, with a value that passes its check. -/
theorem Fits.exists_passing {checks : List (String × (Document → Option Fault))}
    {members : List (String × Json)} (fits : Fits checks members) :
    ∀ check ∈ checks, ∃ json, (check.1, json) ∈ members ∧ check.2 json.toDocument = none := by
  induction fits with
  | nil => exact fun _ listed => nomatch listed
  | @cons α field json value checks members reads _ hypothesis =>
    intro check listed
    rcases List.mem_cons.mp listed with rfl | later
    · have isRead : field.decode json.toDocument = .ok value := reads
      refine ⟨json, .head _, ?_⟩
      simp only [Field.check, Field.fault?, isRead]
    · obtain ⟨other, member, passes⟩ := hypothesis check later
      exact ⟨other, .tail _ member, passes⟩

/-- Members that fit a record are no fault in it. -/
theorem Fits.firstFault?_eq_none {record : Record} {members : List (String × Json)}
    (fits : Fits record.checks members) (distinct : record.names.Nodup) :
    record.firstFault? [] (Json.memberDocuments members) = none := by
  have keys : (members.map Prod.fst).Nodup := fits.names_eq ▸ distinct
  rw [Json.memberDocuments_eq_map]
  refine (Record.firstFault?_eq_none_iff distinct).mpr ⟨fun member listed => ?_,
    fun check listed => ?_⟩
  · obtain ⟨written, isWritten, rfl⟩ := List.mem_map.mp listed
    have known : written.1 ∈ record.checks.map Prod.fst :=
      fits.names_eq ▸ List.mem_map_of_mem isWritten
    exact ⟨written.1, rfl, fun _ => known⟩
  · obtain ⟨json, isWritten, passes⟩ := fits.exists_passing check listed
    refine .inr ⟨json.toDocument, ?_, passes⟩
    rw [Document.valuesOf_map keys, lookup_of_mem keys isWritten]
    rfl

/-- A field is found among values of distinct names, wherever it stands. -/
theorem Members.get_of_mem {α : Type} {field : Field α} {json : Json} {value : α} {title : String}
    {names : List String} {values : Keyed Document} (distinct : (values.map Prod.fst).Nodup)
    (reads : ReadsAs field.decode json value) (member : (field.name, json.toDocument) ∈ values) :
    get ⟨title, names, values, false⟩ field = .ok value := by
  simp only [get, lookup_of_mem distinct member]
  exact reads

/-- Whether every field that was written is found with its value. -/
def Members.Hold (found : Members) (members : List (String × Json)) : Prop :=
  ∀ {α : Type} {field : Field α} {json : Json} {value : α} (index : Nat),
    ReadsAs field.decode json value → members[index]? = some (field.name, json) →
      found.get field = .ok value

/-- **A record is read from members that fit it, in any order**, once its value is built from the
fields. -/
theorem Record.decode_of_perm {α : Type} {record : Record} {origin : Origin}
    {build : Members → Decoded α} {members : List (String × Json)} {value : α}
    (fits : Fits record.checks members) (distinct : record.names.Nodup)
    (built : ∀ found : Members, found.Hold members → build found = .ok value)
    {others : List (Option String × Document)}
    (reordered : others.Perm (Json.memberDocuments members)) :
    record.decode origin build (.object others) = .ok value := by
  have values : (Document.namedMembers others).Perm (writtenMembers members) :=
    namedMembers_memberDocuments members ▸ reordered.filterMap _
  -- names stay distinct in another order, so that what is found is settled by what is listed
  have names : ((Document.namedMembers others).map Prod.fst).Nodup := by
    rw [(values.map Prod.fst).nodup_iff, writtenMembers, List.map_map]
    exact fits.names_eq ▸ distinct
  show record.decodeMembers build others false = .ok value
  rw [decodeMembers,
    firstFault?_eq_none_of_perm distinct reordered (fits.firstFault?_eq_none distinct)]
  refine built _ fun index reads member => Members.get_of_mem names reads (values.mem_iff.mpr ?_)
  exact List.mem_map.mpr ⟨_, List.mem_of_getElem? member, rfl⟩

/-- A record is read from members that fit it. -/
theorem Record.readsAs {α : Type} {record : Record} {origin : Origin} {build : Members → Decoded α}
    {members : List (String × Json)} {value : α} (fits : Fits record.checks members)
    (distinct : record.names.Nodup)
    (built : ∀ found : Members, found.Hold members → build found = .ok value) :
    ReadsAs (record.decode origin build) (.object members) value :=
  decode_of_perm fits distinct built (List.Perm.refl _)

/-! ## Cards -/

theorem Suit.readsAs (suit : Suit) : ReadsAs decode suit.toJson suit := by
  have text : suit.toJson.toDocument.asString = .ok suit.name := rfl
  unfold ReadsAs decode
  rw [text]
  simp only [bind, Except.bind, ofName?_name]

theorem Rank.readsAs (rank : Rank) : ReadsAs decode rank.toJson rank := by
  have small : rank.value < 256 := by cases rank <;> decide
  have same : (UInt8.ofNat rank.value).toNat = rank.value := by cases rank <;> rfl
  have byte : (Json.integer rank.value).toDocument.asByte = .ok (UInt8.ofNat rank.value) :=
    readsAs_byte small
  unfold ReadsAs decode toJson
  rw [byte]
  simp only [bind, Except.bind, same, ofValue?_value]

namespace Card

theorem readsAs (origin : Origin) (card : Card) : ReadsAs (decode origin) card.toJson card := by
  have suit : ReadsAs suitField.decode card.suit.toJson card.suit := card.suit.readsAs
  have rank : ReadsAs rankField.decode card.rank.toJson card.rank := card.rank.readsAs
  refine Record.readsAs (.cons suit (.cons rank .nil)) (by decide) fun found get => ?_
  rw [get 0 suit rfl, get 1 rank rfl]
  rfl

theorem readsAs_list (origin : Origin) (cards : List Card) :
    ReadsAs (decodeList origin) (listToJson cards) cards :=
  Durak.readsAs_list fun card _ => card.readsAs origin

end Card

/-! ## Parts of a game -/

namespace TableEntry

theorem readsAs (origin : Origin) (entry : TableEntry) :
    ReadsAs (decode origin) entry.toJson entry := by
  have card : ReadsAs (cardField origin).decode entry.card.toJson entry.card :=
    entry.card.readsAs origin
  have cover : ReadsAs (coverField origin).decode (.orNull (entry.cover.map Card.toJson))
      entry.cover :=
    readsAs_option (fun card => card.readsAs origin) (fun _ isNull => by cases isNull) entry.cover
  refine Record.readsAs (.cons card (.cons cover .nil)) (by cases origin <;> decide)
    fun found get => ?_
  rw [get 0 card rfl, get 1 cover rfl]
  rfl

theorem readsAs_list (origin : Origin) (table : List TableEntry) :
    ReadsAs (decodeList origin) (listToJson table) table :=
  Durak.readsAs_list fun entry _ => entry.readsAs origin

end TableEntry

/-- Settings are read with what became of the timeout. -/
theorem Settings.readsAs (origin : Origin) {settings : Settings} {timeout : Double}
    (isRead : ReadsAs Document.asDouble (.real settings.turnTimeoutSeconds) timeout) :
    ReadsAs (decode origin) settings.toJson ⟨timeout⟩ := by
  have seconds : ReadsAs timeoutField.decode (.real settings.turnTimeoutSeconds) timeout := isRead
  refine Record.readsAs (.cons seconds .nil) (by decide) fun found get => ?_
  rw [get 0 seconds rfl]
  rfl

theorem Timer.readsAs (origin : Origin) {timer : Timer} {json : Json}
    (written : timer.toJson? = some json) : ReadsAs (decode origin) json timer := by
  obtain ⟨startedJson, isStarted, isJson⟩ := Option.bind_eq_some_iff.mp written
  cases isJson
  have running : ReadsAs runningField.decode (.boolean timer.running) timer.running :=
    readsAs_boolean timer.running
  have startedAt : ReadsAs startedAtField.decode startedJson timer.startedAt :=
    readsAs_instant isStarted
  refine Record.readsAs (.cons running (.cons startedAt .nil)) (by decide) fun found get => ?_
  rw [get 0 running rfl, get 1 startedAt rfl]
  rfl

theorem Player.readsAs (origin : Origin) (player : Player) :
    ReadsAs (decode origin) player.toJson player := by
  have id : ReadsAs idField.decode (.string player.id) player.id := readsAs_string player.id
  have name : ReadsAs nameField.decode (.string player.name) player.name :=
    readsAs_string player.name
  have seat : ReadsAs seatField.decode (.integer player.seat.toNat) player.seat := by
    have byte := readsAs_byte player.seat.toNat_lt
    rwa [UInt8.ofNat_toNat] at byte
  have hand : ReadsAs (handField origin).decode (Card.listToJson player.hand) player.hand :=
    Card.readsAs_list origin player.hand
  have lastDrawn : ReadsAs (lastDrawnField origin).decode (Card.listToJson player.lastDrawn)
      player.lastDrawn := Card.readsAs_list origin player.lastDrawn
  refine Record.readsAs (.cons id (.cons name (.cons seat (.cons hand (.cons lastDrawn .nil)))))
    (by cases origin <;> decide) fun found get => ?_
  rw [get 0 id rfl, get 1 name rfl, get 2 seat rfl, get 3 hand rfl, get 4 lastDrawn rfl]
  rfl

/-! ## Votes -/

/-- A name that comes after all others is put at the end. -/
theorem insertName_of_last {name : String} {names : List String}
    (last : ∀ other ∈ names, other < name) : insertName name names = names ++ [name] := by
  induction names with
  | nil => rfl
  | cons first rest hypothesis =>
    have before := last first List.mem_cons_self
    have different : name ≠ first := by
      rintro rfl
      exact String.lt_irrefl name before
    rw [insertName, if_neg different, if_neg (String.lt_asymm before),
      hypothesis fun other member => last other (List.mem_cons_of_mem _ member)]
    rfl

namespace Voters

/-- Ids in increasing order are added one after another at the end. -/
theorem members_foldl_insert {ids : List String} {voters : Voters}
    (ascending : (voters.members ++ ids).Pairwise (· < ·)) :
    (ids.foldl insert voters).members = voters.members ++ ids := by
  induction ids generalizing voters with
  | nil => simp
  | cons id ids hypothesis =>
    have last : ∀ other ∈ voters.members, other < id := fun other member =>
      (List.pairwise_append.mp ascending).2.2 other member id List.mem_cons_self
    have added : (voters.insert id).members = voters.members ++ [id] := insertName_of_last last
    have shifted : voters.members ++ id :: ids = (voters.insert id).members ++ ids := by
      rw [added, List.append_assoc]
      rfl
    rw [List.foldl_cons, shifted]
    exact hypothesis (shifted ▸ ascending)

/-- A set is the set of the ids it shows. -/
theorem ofList_members (voters : Voters) : ofList voters.members = voters := by
  have members : (ofList voters.members).members = voters.members :=
    @members_foldl_insert voters.members none voters.ascending
  obtain ⟨_, _⟩ := voters
  generalize ofList _ = same at members
  obtain ⟨_, _⟩ := same
  cases members
  rfl

theorem readsAs (voters : Voters) : ReadsAs decode voters.toJson voters := by
  have ids : ReadsAs (Document.asList Document.asString) (.array (voters.members.map .string))
      voters.members := readsAs_list fun id _ => readsAs_string id
  unfold ReadsAs decode toJson Json.strings
  rw [show (Json.array _).toDocument.asList Document.asString = .ok voters.members from ids]
  exact congrArg Except.ok voters.ofList_members

end Voters

/-! ## Games -/

namespace Game

/-- **A stored game is read as the game without its events**, with the timeout that is read for
its own. -/
theorem readsAs (origin : Origin) {game : Game} {json : Json} {timeout : Double}
    (written : game.toJson? = some json)
    (isRead : ReadsAs Document.asDouble (.real game.settings.turnTimeoutSeconds) timeout) :
    ReadsAs (decode origin) json { game with settings := ⟨timeout⟩, events := [] } := by
  obtain ⟨attackJson, isAttack, written⟩ := Option.bind_eq_some_iff.mp written
  obtain ⟨defendJson, isDefend, written⟩ := Option.bind_eq_some_iff.mp written
  cases written
  have id : ReadsAs idField.decode (.string game.id) game.id := readsAs_string game.id
  have settings : ReadsAs (settingsField origin).decode game.settings.toJson ⟨timeout⟩ :=
    Settings.readsAs origin isRead
  have players : ReadsAs (playersField origin).decode (.array (game.players.map Player.toJson))
      game.players := readsAs_list fun player _ => player.readsAs origin
  have attackerId : ReadsAs attackerField.decode (.string game.attackerId) game.attackerId :=
    readsAs_string game.attackerId
  have defenderId : ReadsAs defenderField.decode (.string game.defenderId) game.defenderId :=
    readsAs_string game.defenderId
  have deck : ReadsAs (deckField origin).decode (Card.listToJson game.deck) game.deck :=
    Card.readsAs_list origin game.deck
  have trump : ReadsAs trumpField.decode game.trump.toJson game.trump := game.trump.readsAs
  have table : ReadsAs (tableField origin).decode (TableEntry.listToJson game.table) game.table :=
    TableEntry.readsAs_list origin game.table
  have discard : ReadsAs (discardField origin).decode (Card.listToJson game.discard) game.discard :=
    Card.readsAs_list origin game.discard
  have endVotes : ReadsAs endVotesField.decode game.endVotes.toJson game.endVotes :=
    game.endVotes.readsAs
  have readyVotes : ReadsAs readyVotesField.decode game.readyVotes.toJson game.readyVotes :=
    game.readyVotes.readsAs
  have started : ReadsAs startedField.decode (.boolean game.started) game.started :=
    readsAs_boolean game.started
  have attackTimer : ReadsAs (attackTimerField origin).decode attackJson game.attackTimer :=
    Timer.readsAs origin isAttack
  have defendTimer : ReadsAs (defendTimerField origin).decode defendJson game.defendTimer :=
    Timer.readsAs origin isDefend
  refine Record.readsAs (.cons id (.cons settings (.cons players (.cons attackerId
    (.cons defenderId (.cons deck (.cons trump (.cons table (.cons discard (.cons endVotes
    (.cons readyVotes (.cons started (.cons attackTimer (.cons defendTimer .nil))))))))))))))
    (by cases origin <;> decide) fun found get => ?_
  rw [get 0 id rfl, get 1 settings rfl, get 2 players rfl, get 3 attackerId rfl,
    get 4 defenderId rfl, get 5 deck rfl, get 6 trump rfl, get 7 table rfl, get 8 discard rfl,
    get 9 endVotes rfl, get 10 readyVotes rfl, get 11 started rfl, get 12 attackTimer rfl,
    get 13 defendTimer rfl]
  rfl

/-- The text of a stored game is read as the game without its events. -/
theorem ofStoredText_of_storedText? {game : Game} {text : String} {timeout : Double}
    (stored : game.storedText? = some text)
    (isRead : ReadsAs Document.asDouble (.real game.settings.turnTimeoutSeconds) timeout) :
    ofStoredText text = .ok { game with settings := ⟨timeout⟩, events := [] } := by
  obtain ⟨json, written, rfl⟩ := Option.map_eq_some_iff.mp stored
  rw [ofStoredText, Document.decodeText_text, Document.decodeWith]
  simp only [show decode .text json.toDocument = _ from readsAs .text written isRead]

end Game

end Durak
