import Durak.Proofs.Members
import Durak.Proofs.Spelled
import Durak.Proofs.Stored
import Durak.Proofs.Transaction

/-!
# Events read back

An event is written with the tag of its kind before its fields.  Whoever reads it does not know the
kind yet, and finds the tag wherever it stands among the members (`Event.separateTag_of_valuesOf`).
What is left are the fields of that kind, and those are the fields of a record, which is read in any
order (`Record.decode_of_perm`).  So an event is read from every object with the members it was
written with, however they are arranged (`Event.decode_of_perm`).

The tags are listed apart from the codes that kinds go by elsewhere, and each is the code of its
kind (`Event.tag_eq_code`).  As a text is read as one event at most, no two events have the same
text (`Event.written_event_reads_back`).
-/

set_option autoImplicit false

namespace Durak

open Document

/-! ## Variants -/

/-- Under distinct names a variant is found by its name. -/
theorem Document.variantNamed_name {α : Type} {name : α → String} {all : List α}
    (distinct : (all.map name).Nodup) {variant : α} (listed : variant ∈ all) :
    variantNamed name all (name variant) = .ok variant := by
  obtain ⟨found, isFound⟩ : ∃ found, all.find? (fun other => name other == name variant) =
      some found := by
    rw [← Option.isSome_iff_exists, List.find?_isSome]
    exact ⟨variant, listed, beq_self_eq_true _⟩
  have same : found = variant :=
    List.inj_on_of_nodup_map distinct (List.mem_of_find?_eq_some isFound) listed
      (by simpa using List.find?_some isFound)
  rw [variantNamed, isFound, same]

theorem TimerKind.readsAs (origin : Origin) (kind : TimerKind) :
    ReadsAs (decode origin) kind.toJson kind :=
  variantNamed_name (by decide) (by cases kind <;> decide)

theorem GameResult.readsAs (origin : Origin) (result : GameResult) :
    ReadsAs (decode origin) result.toJson result :=
  variantNamed_name (by decide) (by cases result <;> decide)

namespace Event

/-! ## The tag -/

theorem decodeTag_tag (kind : EventKind) : decodeTag (.string (some kind.tag)) = .ok kind :=
  variantNamed_name (by decide) (by cases kind <;> decide)

/-- The tag of a kind is the code that kinds go by. -/
theorem tag_eq_code (kind : EventKind) : kind.tag = kind.code := by
  cases kind <;> rfl

/-- The members of an event without its tag. -/
def untagged (members : List (Option String × Document)) : List (Option String × Document) :=
  members.filter fun member => member.1 != some tagName

section Tag

variable {members : List (Option String × Document)}

theorem untagged_of_absent (absent : valuesOf tagName members = []) :
    untagged members = members := by
  refine List.filter_eq_self.mpr fun member listed => bne_iff_ne.mpr fun isTag => ?_
  have value : member.2 ∈ valuesOf tagName members :=
    mem_valuesOf.mpr (isTag ▸ listed)
  rw [absent] at value
  cases value

/-- Once the tag has been found, the members after it are the fields. -/
theorem separateTag_of_found (kind : EventKind) (absent : valuesOf tagName members = []) :
    separateTag (some kind) members = .ok (kind, members) := by
  induction members with
  | nil => rfl
  | cons member members hypothesis =>
    obtain ⟨name, value⟩ := member
    rw [valuesOf_cons] at absent
    split at absent
    · cases absent
    · rename_i other
      rw [separateTag, if_neg other, hypothesis absent]
      rfl

/-- **The tag is found wherever it stands among the members.** -/
theorem separateTag_of_valuesOf {tag : Document} {kind : EventKind}
    (only : valuesOf tagName members = [tag]) (means : decodeTag tag = .ok kind) :
    separateTag none members = .ok (kind, untagged members) := by
  induction members with
  | nil => cases only
  | cons member members hypothesis =>
    obtain ⟨name, value⟩ := member
    rw [valuesOf_cons] at only
    split at only
    · rename_i isTag
      obtain ⟨rfl, absent⟩ := List.cons.inj only
      have fields : untagged ((name, value) :: members) = members := by
        rw [untagged, List.filter_cons_of_neg (by simpa using isTag)]
        exact untagged_of_absent absent
      rw [separateTag, if_pos isTag, fields, means]
      exact separateTag_of_found kind absent
    · rename_i other
      have fields : untagged ((name, value) :: members) = (name, value) :: untagged members :=
        List.filter_cons_of_pos (by simpa using other)
      rw [separateTag, if_neg other, hypothesis only, fields]
      rfl

end Tag

/-! ## The fields -/

variable {event : Event} {fields : List (String × Json)}

/-- No field of an event is named like the tag, and all of them are valid. -/
theorem spec_of_members? (written : event.members? = some fields) :
    ∀ field ∈ fields, field.1 ≠ tagName ∧
      field.2.toDocument.isStrictWithin (deepestNesting - 2 + 1) = true := by
  cases event with
  -- the one event with a field that may fail to be written
  | timerState timer completed endsAt =>
    obtain ⟨json, isJson, same⟩ := Option.bind_eq_some_iff.mp written
    cases same
    have deadline : json.toDocument.isStrictWithin (deepestNesting - 2 + 1) = true := by
      cases endsAt with
      | none =>
        cases isJson
        rfl
      | some instant =>
        obtain ⟨text, -, rfl⟩ := Option.map_eq_some_iff.mp isJson
        rfl
    simp [tagName, deadline, TimerKind.toJson, Json.toDocument, isStrictWithin]
  | _ =>
    cases written
    simp [tagName, Card.isStrictWithin_toDocument, Suit.toJson, GameResult.toJson, Json.toDocument,
      isStrictWithin]

theorem nodup_names_record (kind : EventKind) : (record kind).names.Nodup := by
  cases kind <;> decide

/-- What an event is written with are the fields of its kind, and it is built from them again. -/
theorem fits_of_members? (written : event.members? = some fields) :
    Fits (checks event.kind) fields ∧
      ∀ found : Members, found.Hold fields → build event.kind found = .ok event := by
  cases event with
  | ready userId =>
    cases written
    have user : ReadsAs userField.decode (.string userId) userId := readsAs_string userId
    refine ⟨.cons user .nil, fun found get => ?_⟩
    simp only [kind, build, get 0 user rfl]
    rfl
  | start attackerId defenderId trump =>
    cases written
    have attacker : ReadsAs attackerField.decode (.string attackerId) attackerId :=
      readsAs_string attackerId
    have defender : ReadsAs defenderField.decode (.string defenderId) defenderId :=
      readsAs_string defenderId
    have suit : ReadsAs trumpField.decode trump.toJson trump := trump.readsAs
    refine ⟨.cons attacker (.cons defender (.cons suit .nil)), fun found get => ?_⟩
    simp only [kind, build, get 0 attacker rfl, get 1 defender rfl, get 2 suit rfl]
    rfl
  | attack card attackerId =>
    cases written
    have laid : ReadsAs cardField.decode card.toJson card := card.readsAs .event
    have attacker : ReadsAs attackerField.decode (.string attackerId) attackerId :=
      readsAs_string attackerId
    refine ⟨.cons laid (.cons attacker .nil), fun found get => ?_⟩
    simp only [kind, build, get 0 laid rfl, get 1 attacker rfl]
    rfl
  | defend target card defenderId =>
    cases written
    have covered : ReadsAs targetField.decode target.toJson target := target.readsAs .event
    have cover : ReadsAs coverField.decode card.toJson card := card.readsAs .event
    have defender : ReadsAs defenderField.decode (.string defenderId) defenderId :=
      readsAs_string defenderId
    refine ⟨.cons covered (.cons cover (.cons defender .nil)), fun found get => ?_⟩
    simp only [kind, build, get 0 covered rfl, get 1 cover rfl, get 2 defender rfl]
    rfl
  | endAttack =>
    cases written
    exact ⟨.nil, fun _ _ => rfl⟩
  | takeAllCards userId =>
    cases written
    have user : ReadsAs userField.decode (.string userId) userId := readsAs_string userId
    refine ⟨.cons user .nil, fun found get => ?_⟩
    simp only [kind, build, get 0 user rfl]
    rfl
  | timerState timer completed endsAt =>
    obtain ⟨json, isJson, same⟩ := Option.bind_eq_some_iff.mp written
    cases same
    have which : ReadsAs timerField.decode timer.toJson timer := timer.readsAs .event
    have stopped : ReadsAs completedField.decode (.boolean completed) completed :=
      readsAs_boolean completed
    have deadline : ReadsAs endsAtField.decode json endsAt := readsAs_instant isJson
    refine ⟨.cons which (.cons stopped (.cons deadline .nil)), fun found get => ?_⟩
    simp only [kind, build, get 0 which rfl, get 1 stopped rfl, get 2 deadline rfl]
    rfl
  | endGame result =>
    cases written
    have ending : ReadsAs resultField.decode result.toJson result := result.readsAs .event
    refine ⟨.cons ending .nil, fun found get => ?_⟩
    simp only [kind, build, get 0 ending rfl]
    rfl

/-! ## Events -/

/-- The members of an event as they are read: the tag, and then the fields. -/
def membersWith (event : Event) (fields : List (String × Json)) :
    List (Option String × Document) :=
  (some tagName, .string (some event.kind.tag)) :: Json.memberDocuments fields

/-- The tag is not among the fields. -/
theorem valuesOf_tagName_fields (written : event.members? = some fields) :
    valuesOf tagName (Json.memberDocuments fields) = [] := by
  refine List.eq_nil_iff_forall_not_mem.mpr fun value isTag => ?_
  rw [mem_valuesOf, Json.memberDocuments_eq_map] at isTag
  obtain ⟨field, listed, same⟩ := List.mem_map.mp isTag
  exact (spec_of_members? written field listed).1 (Option.some.inj (congrArg Prod.fst same))

/-- The tag is there once. -/
theorem valuesOf_tagName_membersWith (written : event.members? = some fields) :
    valuesOf tagName (event.membersWith fields) = [.string (some event.kind.tag)] := by
  rw [membersWith, valuesOf_cons, if_pos rfl, valuesOf_tagName_fields written]

theorem isStrict_membersWith (written : event.members? = some fields) :
    (Document.object (event.membersWith fields)).isStrict = true := by
  refine List.all_eq_true.mpr fun member listed => ?_
  rcases List.mem_cons.mp listed with rfl | listed
  · rfl
  · rw [Json.memberDocuments_eq_map] at listed
    obtain ⟨field, isField, rfl⟩ := List.mem_map.mp listed
    exact (spec_of_members? written field isField).2

/-- **An event is read from the members it was written with, in any order.** -/
theorem decode_of_perm (written : event.members? = some fields)
    {others : List (Option String × Document)}
    (reordered : others.Perm (event.membersWith fields)) :
    decode (.object others) = .ok event := by
  have valid : (Document.object others).isStrict = true :=
    Eq.trans reordered.all_eq (isStrict_membersWith written)
  have isTag : valuesOf tagName others = [.string (some event.kind.tag)] :=
    valuesOf_eq_singleton_of_perm reordered (valuesOf_tagName_membersWith written)
  have left : untagged (event.membersWith fields) = Json.memberDocuments fields := by
    rw [membersWith, untagged, List.filter_cons_of_neg (by simp)]
    exact untagged_of_absent (valuesOf_tagName_fields written)
  have rest : (untagged others).Perm (Json.memberDocuments fields) := left ▸ reordered.filter _
  obtain ⟨fits, built⟩ := fits_of_members? written
  rw [decode, valid]
  simp only [Bool.not_true, Bool.false_eq_true, if_false,
    separateTag_of_valuesOf isTag (decodeTag_tag event.kind)]
  show decodeFields event.kind (.object (untagged others)) = .ok event
  exact Record.decode_of_perm fits (nodup_names_record event.kind) built rest

variable {text : String}

/-- The text of an event is read as an object of the tag and the fields. -/
theorem exists_members_of_text? (written : event.text? = some text) :
    ∃ fields, event.members? = some fields ∧
      Document.ofText? text = some (.object (event.membersWith fields)) := by
  obtain ⟨json, isJson, rfl⟩ := Option.map_eq_some_iff.mp written
  obtain ⟨fields, areFields, same⟩ := Option.bind_eq_some_iff.mp isJson
  cases same
  exact ⟨fields, areFields, ofText?_text _⟩

/-- A text is read as an event if it is an object of the members of that event, in any order. -/
theorem ofText_of_perm (written : event.members? = some fields)
    {others : List (Option String × Document)}
    (isRead : Document.ofText? text = some (.object others))
    (reordered : others.Perm (event.membersWith fields)) : ofText text = .ok event := by
  rw [ofText, decodeText, isRead]
  simp only [decodeWith, decode_of_perm written reordered]

/-- An event is read from its text. -/
theorem ofText_of_text? (written : event.text? = some text) : ofText text = .ok event := by
  obtain ⟨fields, areFields, isRead⟩ := exists_members_of_text? written
  exact ofText_of_perm areFields isRead (List.Perm.refl _)

/-- An event can be written when its deadline has a timestamp. -/
theorem exists_text? (printable : ∀ timer completed deadline,
    event = .timerState timer completed (some deadline) → deadline.timestamp?.isSome = true) :
    ∃ text, event.text? = some text := by
  cases isWritten : event.toJson? with
  | some json => exact ⟨json.text, congrArg (Option.map Json.text) isWritten⟩
  | none =>
    obtain ⟨timer, completed, deadline, isTimer, noStamp⟩ := toJson?_eq_none_iff.mp isWritten
    have stamp := printable timer completed deadline isTimer
    rw [noStamp] at stamp
    cases stamp

/-- **Written events read back.**  Take any event, with any texts for its ids, whose deadline has a
timestamp if there is one.  It can be written, and from its text that very event is read.

The text is an object in which the tag occurs once, and the tag is the code of the event's kind.
Whatever other text has the same members, in any order and with any blanks between them, is read as
the same event; and no other event has the same text. -/
theorem written_event_reads_back (event : Event)
    (printable : ∀ timer completed deadline,
      event = .timerState timer completed (some deadline) → deadline.timestamp?.isSome = true) :
    ∃ text members, event.text? = some text ∧ ofText text = .ok event ∧
      Document.ofText? text = some (.object members) ∧
      valuesOf tagName members = [.string (some event.kind.code)] ∧
      (∀ otherText others, Document.ofText? otherText = some (.object others) →
        others.Perm members → ofText otherText = .ok event) ∧
      ∀ other : Event, other.text? = some text → other = event := by
  obtain ⟨text, written⟩ := exists_text? printable
  obtain ⟨fields, areFields, isRead⟩ := exists_members_of_text? written
  refine ⟨text, event.membersWith fields, written, ofText_of_text? written, isRead, ?_, ?_, ?_⟩
  · rw [valuesOf_tagName_membersWith areFields, tag_eq_code]
  · intro otherText others isOther reordered
    exact ofText_of_perm areFields isOther reordered
  · intro other sameText
    exact Except.ok.inj ((ofText_of_text? sameText).symm.trans (ofText_of_text? written))

/-- A deadline in the first second of the year nought, on a clock nine and a half hours behind
universal time. -/
def oddDeadline : Instant := ⟨-62167219200000000000 + 120000, ⟨-570, by decide, by decide⟩⟩

/-- An event that announces it is read back, with the fraction of the second and the offset. -/
theorem written_event_reads_back_odd_deadline :
    oddDeadline.timestamp? = some "0000-01-01T00:00:00.00012-09:30" ∧
      (∀ timer completed deadline,
        Event.timerState .defend false (some oddDeadline) =
          .timerState timer completed (some deadline) → deadline.timestamp?.isSome = true) ∧
      ∃ text, (Event.timerState .defend false (some oddDeadline)).text? = some text ∧
        ofText text = .ok (.timerState .defend false (some oddDeadline)) := by
  have stamp : oddDeadline.timestamp? = some "0000-01-01T00:00:00.00012-09:30" := by
    decide +kernel
  have printable : ∀ timer completed deadline,
      Event.timerState .defend false (some oddDeadline) =
        .timerState timer completed (some deadline) → deadline.timestamp?.isSome = true := by
    rintro _ _ _ ⟨⟩
    rw [stamp]
    rfl
  obtain ⟨text, -, written, isRead, -⟩ := written_event_reads_back _ printable
  exact ⟨stamp, printable, text, written, isRead⟩

end Event

end Durak
