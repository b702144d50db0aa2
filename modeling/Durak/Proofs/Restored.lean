import Durak.Proofs.Mirror

/-!
# What a stored game is read as

Storing a game fails only on a timer that was started at an instant without a timestamp.  Otherwise
every part of the text reads back, whatever game it is, with one exception: the turn timeout is
read as what its digits stand for, `Double.restored?`.  So the game that is read is the stored one
without its events if that is the timeout itself, it has another timeout if they stand for another
double, and there is none if the timeout is no number (`stored_game_reads_back`).

That reading succeeds only if the timeout can be read is the converse of what `ReadsAs` says: a
record that is read has no fault, so each of its members passes the check of its own field
(`Record.check_eq_none_of_decoded`).
-/

set_option autoImplicit false

namespace Durak

/-! ## Members of a record that was read -/

namespace Record

variable {record : Record} {members : List (String × Json)} {name : String} {json : Json}
  {check : Document → Option Fault}

/-- **In a record that was read every member that is a field passes its check.** -/
theorem check_eq_none_of_decoded {α : Type} {origin : Origin} {build : Members → Decoded α}
    {value : α} (distinct : record.names.Nodup)
    (decoded : ReadsAs (record.decode origin build) (.object members) value)
    (member : (name, json) ∈ members) (known : (name, check) ∈ record.checks) :
    check json.toDocument = none := by
  have listed : json.toDocument ∈ Document.valuesOf name (Json.memberDocuments members) := by
    rw [Document.mem_valuesOf, Json.memberDocuments_eq_map]
    exact List.mem_map.mpr ⟨_, member, rfl⟩
  change record.decodeMembers build (Json.memberDocuments members) false = .ok value at decoded
  rw [decodeMembers] at decoded
  split at decoded
  · cases decoded
  · rename_i faultless
    obtain ⟨-, each⟩ := (firstFault?_eq_none_iff distinct).mp faultless
    rcases each _ known with absent | ⟨other, only, passes⟩
    · rw [absent] at listed
      cases listed
    · rw [only, List.mem_singleton] at listed
      exact listed ▸ passes

end Record

/-- A value that passes the check of a field can be read. -/
theorem Field.exists_readsAs {α : Type} {field : Field α} {json : Json}
    (passes : field.fault? json.toDocument = none) : ∃ value, ReadsAs field.decode json value := by
  unfold fault? at passes
  split at passes
  · rename_i value isRead
    exact ⟨value, isRead⟩
  · cases passes

/-! ## The timeout of a game that was read -/

/-- A double is read only as what its numeral stands for. -/
theorem Double.exists_restored? {timeout : Double}
    (isRead : ∃ other, ReadsAs Document.asDouble (.real timeout) other) :
    ∃ other, timeout.restored? = some other := by
  obtain ⟨other, isRead⟩ := isRead
  cases timeout with
  | finite negative magnitude =>
    cases isReal : (Double.serialized negative magnitude).real? with
    | some real => exact ⟨real, isReal⟩
    | none =>
      have noNumber : (Double.serialized negative magnitude).number? = none := by
        simp [Numeral.number?, Double.isWhole_serialized, isReal]
      unfold ReadsAs Json.toDocument Document.asDouble at isRead
      simp only [noNumber] at isRead
      cases isRead
  | notANumber => cases isRead
  | infinite negative => cases isRead

namespace Game

variable {game : Game}

/-- **A game that was read was stored with a timeout that can be read.** -/
theorem exists_restored?_of_decoded {origin : Origin} {json : Json} {read : Game}
    (written : game.toJson? = some json) (decoded : ReadsAs (decode origin) json read) :
    ∃ other, game.settings.turnTimeoutSeconds.restored? = some other := by
  obtain ⟨attackJson, -, written⟩ := Option.bind_eq_some_iff.mp written
  obtain ⟨defendJson, -, written⟩ := Option.bind_eq_some_iff.mp written
  cases written
  have passes : (settingsField origin).fault? game.settings.toJson.toDocument = none :=
    Record.check_eq_none_of_decoded (by cases origin <;> decide) decoded (.tail _ (.head _))
      (.tail _ (.head _))
  obtain ⟨settings, isRead⟩ := Field.exists_readsAs passes
  have seconds : Settings.timeoutField.fault?
      (Json.real game.settings.turnTimeoutSeconds).toDocument = none :=
    Record.check_eq_none_of_decoded (by decide) isRead (.head _) (.head _)
  exact Double.exists_restored? (Field.exists_readsAs seconds)

/-- A game whose timers have timestamps can be stored. -/
theorem exists_storedText? (printable : ∀ kind instant,
    (game.timer kind).startedAt = some instant → instant.timestamp?.isSome = true) :
    ∃ text, game.storedText? = some text := by
  have writable : ∀ kind, (game.timer kind).isWritable = true := fun kind =>
    (Option.all_eq_true _ _).mpr (printable kind)
  refine Option.isSome_iff_exists.mp (game.isSome_storedText?.trans ?_)
  rw [isWritable, Bool.and_eq_true]
  exact ⟨writable .attack, writable .defend⟩

/-- **A stored game reads back.**  Take any game whatever, also one that no deal leads to, whose
timers were started, if at all, at instants with a timestamp.  It can be stored, and what its text
is read as is the game itself without its events exactly if the turn timeout is a number whose
digits are read as that number.

If they are read as another number, that timeout is all that has changed; and if the timeout is no
number, the text cannot be read. -/
theorem stored_game_reads_back (game : Game) (printable : ∀ kind instant,
    (game.timer kind).startedAt = some instant → instant.timestamp?.isSome = true) :
    ∃ text, game.storedText? = some text ∧
      (ofStoredText text = .ok game.withoutEvents ↔
        game.settings.turnTimeoutSeconds.restored? = some game.settings.turnTimeoutSeconds) ∧
      (∀ other, game.settings.turnTimeoutSeconds.restored? = some other →
        ofStoredText text = .ok { game.withoutEvents with settings := ⟨other⟩ }) ∧
      (game.settings.turnTimeoutSeconds.restored? = none →
        ∀ read, ofStoredText text ≠ .ok read) := by
  obtain ⟨text, isText⟩ := exists_storedText? printable
  have isRead : ∀ other, game.settings.turnTimeoutSeconds.restored? = some other →
      ofStoredText text = .ok { game.withoutEvents with settings := ⟨other⟩ } :=
    fun other restored => ofStoredText_of_storedText? isText (readsAs_of_restored? restored)
  have restored : ∀ read, ofStoredText text = .ok read →
      ∃ other, game.settings.turnTimeoutSeconds.restored? = some other := by
    intro read decoded
    obtain ⟨json, written, rfl⟩ := Option.map_eq_some_iff.mp isText
    rw [ofStoredText, Document.decodeText_text, Document.decodeWith] at decoded
    split at decoded
    · rename_i isRead
      exact exists_restored?_of_decoded written isRead
    · cases decoded
  refine ⟨text, isText, ⟨fun same => ?_, fun back => isRead _ back⟩, isRead,
    fun none_ read is => ?_⟩
  · obtain ⟨other, isOther⟩ := restored _ same
    have games := Except.ok.inj (same.symm.trans (isRead other isOther))
    have timeouts : game.settings.turnTimeoutSeconds = other :=
      congrArg (fun game => game.settings.turnTimeoutSeconds) games
    rw [isOther, timeouts]
  · obtain ⟨other, isOther⟩ := restored read is
    exact Option.some_ne_none other (isOther.symm.trans none_)

/-- A game that no deal leads to: two seats have the same id and number, ids and names hold what
has to be escaped, the same card is in several places, and the timers were started by clocks of
different offsets. -/
def oddGame : Game where
  id := "партия \"1\"\n"
  settings := ⟨Double.ofDecimal true 125 (-2)⟩
  players := [⟨"é", "\\", 255, [⟨.hearts, .ace⟩, ⟨.hearts, .ace⟩], []⟩,
    ⟨"é", "\t♠", 255, [], [⟨.clubs, .six⟩]⟩]
  attackerId := "nobody"
  defenderId := ""
  deck := [⟨.hearts, .ace⟩]
  trump := .spades
  table := [⟨⟨.hearts, .ace⟩, none⟩, ⟨⟨.clubs, .six⟩, some ⟨.clubs, .six⟩⟩]
  discard := [⟨.diamonds, .ten⟩]
  endVotes := .ofList ["я", "a"]
  readyVotes := .ofList ["", "é"]
  started := false
  attackTimer := ⟨false, some ⟨-1, ⟨-210, by decide, by decide⟩⟩⟩
  defendTimer := ⟨true, some ⟨1500000000, ⟨330, by decide, by decide⟩⟩⟩
  events := [.endAttack]

/-- It is stored and read as it was, but for the event. -/
theorem stored_game_reads_back_odd :
    (∀ kind instant, (oddGame.timer kind).startedAt = some instant →
        instant.timestamp?.isSome = true) ∧
      oddGame.events ≠ [] ∧
      ∃ text, oddGame.storedText? = some text ∧ ofStoredText text = .ok oddGame.withoutEvents := by
  have printable : ∀ kind instant, (oddGame.timer kind).startedAt = some instant →
      instant.timestamp?.isSome = true := by
    intro kind instant isStart
    cases kind <;> cases isStart <;> decide +kernel
  obtain ⟨text, isText, reads, -⟩ := stored_game_reads_back oddGame printable
  exact ⟨printable, List.cons_ne_nil _ _, text, isText, reads.mpr (by decide +kernel)⟩

end Game

end Durak
