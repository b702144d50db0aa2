import Durak.Spelling
import Durak.Voters
import Mathlib.Data.List.Basic

/-!
# Members of an object

What a decoder finds in an object depends on which values the members give to which names
(`Document.valuesOf`).  A record that asks for some names finds no fault in an object exactly when
each of them occurs at most once, with a value that passes, and no name is refused
(`Record.firstFault?_eq_none_iff`); so their order does not matter
(`Record.firstFault?_eq_none_of_perm`), and members that a tolerant record does not know play no
part (`Record.firstFault?_filter`).

Sorting the members of an object keeps the last value of every name (`valuesOf_sortedMembers`), and
leaving out names before or after sorting comes to the same (`filter_sortedMembers`).
-/

set_option autoImplicit false

namespace Durak

/-! ## Values in the order of their names -/

section Sorting

variable {α : Type} {name : String} {values table : Keyed α}

theorem keys_insertKeyed (name : String) (value : α) (table : Keyed α) :
    (insertKeyed name value table).map Prod.fst = insertName name (table.map Prod.fst) := by
  induction table with
  | nil => rfl
  | cons entry rest hypothesis =>
    obtain ⟨other, kept⟩ := entry
    simp only [insertKeyed, List.map_cons, insertName]
    split
    · rename_i same
      rw [List.map_cons, same]
    · split
      · rfl
      · rw [List.map_cons, hypothesis]

/-- Putting in a value adds nothing but it. -/
theorem eq_or_mem_of_mem_insertKeyed {value : α} {entry : String × α}
    (listed : entry ∈ insertKeyed name value table) : entry = (name, value) ∨ entry ∈ table := by
  induction table with
  | nil => exact .inl (List.mem_singleton.mp listed)
  | cons first rest hypothesis =>
    obtain ⟨other, kept⟩ := first
    rw [insertKeyed] at listed
    split at listed
    · exact (List.mem_cons.mp listed).imp_right (List.mem_cons_of_mem _)
    split at listed
    · exact List.mem_cons.mp listed
    · rcases List.mem_cons.mp listed with rfl | listed
      · exact .inr List.mem_cons_self
      · exact (hypothesis listed).imp_right (List.mem_cons_of_mem _)

/-- Putting in values one after another keeps the names in their order. -/
theorem ascending_foldl_insertKeyed (ascending : (table.map Prod.fst).Pairwise (· < ·)) :
    ((values.foldl (fun table entry => insertKeyed entry.1 entry.2 table) table).map
      Prod.fst).Pairwise (· < ·) := by
  induction values generalizing table with
  | nil => exact ascending
  | cons entry rest hypothesis =>
    refine hypothesis ?_
    rw [keys_insertKeyed]
    exact ascending_insertName ascending

theorem nodup_keys_sortKeyed (values : Keyed α) : ((sortKeyed values).map Prod.fst).Nodup := by
  refine List.Pairwise.imp ?_ (@ascending_foldl_insertKeyed α values [] List.Pairwise.nil)
  rintro first second before rfl
  exact String.lt_irrefl first before

/-- Of the values that are put in under a name, the last one is found. -/
theorem lookup_foldl_insertKeyed_getLast? (values table : Keyed α) (name : String) :
    (values.foldl (fun table entry => insertKeyed entry.1 entry.2 table) table).lookup name =
      ((values.filter (·.1 == name)).getLast?.map (·.2)).or (table.lookup name) := by
  induction values generalizing table with
  | nil => rfl
  | cons entry rest hypothesis =>
    obtain ⟨first, value⟩ := entry
    rw [List.foldl_cons, hypothesis]
    by_cases same : first = name
    · subst same
      rw [lookup_insertKeyed_self, List.filter_cons_of_pos (by simp), List.getLast?_cons]
      cases (rest.filter (·.1 == first)).getLast? <;> rfl
    · rw [lookup_insertKeyed_of_ne (Ne.symm same), List.filter_cons_of_neg (by simpa using same)]

/-- **Sorting keeps the last value of every name.** -/
theorem lookup_sortKeyed_getLast? (values : Keyed α) (name : String) :
    (sortKeyed values).lookup name = (values.filter (·.1 == name)).getLast?.map (·.2) :=
  (lookup_foldl_insertKeyed_getLast? values [] name).trans Option.or_none

end Sorting

/-! ## The values of a name -/

namespace Document

variable {name : String} {members : List (Option String × Document)}

theorem valuesOf_cons (name : String) (member : Option String × Document)
    (members : List (Option String × Document)) :
    valuesOf name (member :: members) =
      if member.1 = some name then member.2 :: valuesOf name members
      else valuesOf name members := by
  by_cases same : member.1 = some name <;> simp [valuesOf, same]

theorem namedMembers_cons (name : String) (value : Document)
    (members : List (Option String × Document)) :
    namedMembers ((some name, value) :: members) = (name, value) :: namedMembers members := rfl

/-- The values of a name are the values of the entries of that name. -/
theorem filter_namedMembers (name : String) (members : List (Option String × Document)) :
    ((namedMembers members).filter (·.1 == name)).map (·.2) = valuesOf name members := by
  induction members with
  | nil => rfl
  | cons member members hypothesis =>
    obtain ⟨name?, value⟩ := member
    rw [valuesOf_cons, ← hypothesis]
    cases name? with
    | none => rfl
    | some other =>
      rw [namedMembers_cons]
      by_cases same : other = name <;> simp [same]

/-- A name stands for its first value. -/
theorem lookup_namedMembers (name : String) (members : List (Option String × Document)) :
    (namedMembers members).lookup name = (valuesOf name members).head? := by
  induction members with
  | nil => rfl
  | cons member members hypothesis =>
    obtain ⟨name?, value⟩ := member
    rw [valuesOf_cons]
    cases name? with
    | none => exact hypothesis
    | some other =>
      rw [namedMembers_cons, List.lookup_cons, hypothesis]
      by_cases same : other = name
      · subst same
        simp
      · have apart : (name == other) = false := by simpa using Ne.symm same
        simp [apart, same]

/-- A name has a value when some member is of that name. -/
theorem mem_valuesOf {value : Document} :
    value ∈ valuesOf name members ↔ (some name, value) ∈ members := by
  simp only [valuesOf, List.mem_map, List.mem_filter, beq_iff_eq, Prod.exists]
  constructor
  · rintro ⟨_, _, ⟨member, rfl⟩, rfl⟩
    exact member
  · exact fun member => ⟨_, _, ⟨member, rfl⟩, rfl⟩

/-- A name has the same values in any order of the members. -/
theorem valuesOf_perm {others : List (Option String × Document)} (reordered : others.Perm members)
    (name : String) : (valuesOf name others).Perm (valuesOf name members) :=
  (reordered.filter _).map _

/-- The only value of a name is its only one in any order of the members. -/
theorem valuesOf_eq_singleton_of_perm {others : List (Option String × Document)}
    (reordered : others.Perm members) {value : Document} (only : valuesOf name members = [value]) :
    valuesOf name others = [value] :=
  List.perm_singleton.mp (only ▸ valuesOf_perm reordered name)

/-! ## Sorted members -/

/-- The members of an object in the order of their names, each sorted down to so many levels. -/
def sortedMembers (levels : Nat) (members : List (Option String × Document)) :
    List (Option String × Document) :=
  (sortKeyed (namedMembers members)).map fun member => (some member.1, sortedWithin levels member.2)

theorem sortedWithin_object (levels : Nat) (members : List (Option String × Document)) :
    sortedWithin (levels + 1) (.object members) = .object (sortedMembers levels members) := rfl

/-- Among entries of distinct names a name has at most one value. -/
theorem valuesOf_map {α : Type} {entries : Keyed α} (distinct : (entries.map Prod.fst).Nodup)
    (value : α → Document) (name : String) :
    valuesOf name (entries.map fun entry => (some entry.1, value entry.2)) =
      ((entries.lookup name).map value).toList := by
  induction entries with
  | nil => rfl
  | cons entry entries hypothesis =>
    obtain ⟨fresh, distinct⟩ := List.nodup_cons.mp distinct
    rw [List.map_cons, valuesOf_cons, hypothesis distinct]
    by_cases same : entry.1 = name
    · subst same
      rw [if_pos rfl, lookup_eq_none_iff_keys.mpr fresh, List.lookup_cons_self]
      rfl
    · have apart : (name == entry.1) = false := by simpa using Ne.symm same
      rw [if_neg (by simpa using same), List.lookup_cons, apart]

/-- **Sorting the members of an object keeps the last value of every name.** -/
theorem valuesOf_sortedMembers (levels : Nat) (name : String)
    (members : List (Option String × Document)) :
    valuesOf name (sortedMembers levels members) =
      ((valuesOf name members).getLast?.map (sortedWithin levels)).toList := by
  rw [sortedMembers, valuesOf_map (nodup_keys_sortKeyed _), lookup_sortKeyed_getLast?,
    ← filter_namedMembers, List.getLast?_map]

/-- The members of a valid object have names. -/
theorem isSome_of_isStrictWithin {levels : Nat}
    (valid : isStrictWithin levels (.object members) = true) :
    ∀ member ∈ members, member.1.isSome := by
  cases levels with
  | zero => cases valid
  | succ levels =>
    intro member listed
    exact (Bool.and_eq_true_iff.mp (List.all_eq_true.mp valid member listed)).1

theorem isSome_of_mem_sortedMembers {levels : Nat} :
    ∀ member ∈ sortedMembers levels members, member.1.isSome := by
  intro member listed
  obtain ⟨_, -, rfl⟩ := List.mem_map.mp listed
  rfl

theorem sortedWithin_eq_string_iff {levels : Nat} {document : Document} {content : Option String} :
    document.sortedWithin levels = .string content ↔ document = .string content := by
  cases levels <;> cases document <;> simp [sortedWithin]

theorem sortedWithin_eq_number_iff {levels : Nat} {document : Document} {numeral : Numeral} :
    document.sortedWithin levels = .number numeral ↔ document = .number numeral := by
  cases levels <;> cases document <;> simp [sortedWithin]

/-- Sorted members have the names that the members have. -/
theorem exists_mem_sortedMembers {levels : Nat} :
    (∃ value, (some name, value) ∈ sortedMembers levels members) ↔
      ∃ value, (some name, value) ∈ members := by
  simp only [← mem_valuesOf, valuesOf_sortedMembers, Option.mem_toList, Option.map_eq_some_iff]
  constructor
  · rintro ⟨_, value, last, -⟩
    exact ⟨value, List.mem_of_getLast? last⟩
  · rintro ⟨value, member⟩
    obtain ⟨last, isLast⟩ := Option.ne_none_iff_exists'.mp
      (mt List.getLast?_eq_none_iff.mp (List.ne_nil_of_mem member))
    exact ⟨_, last, isLast, rfl⟩

/-- What is true of the names of sorted members is true of the names of the members. -/
theorem forall_name_sortedMembers_iff {levels : Nat} {condition : String → Prop}
    (named : ∀ member ∈ members, member.1.isSome) :
    (∀ member ∈ sortedMembers levels members, ∃ name, member.1 = some name ∧ condition name) ↔
      ∀ member ∈ members, ∃ name, member.1 = some name ∧ condition name := by
  constructor
  · rintro each ⟨name?, value⟩ listed
    obtain ⟨name, rfl⟩ := Option.isSome_iff_exists.mp (named _ listed)
    obtain ⟨_, sorted⟩ := exists_mem_sortedMembers.mpr ⟨value, listed⟩
    obtain ⟨_, same, holds⟩ := each _ sorted
    exact ⟨_, same, holds⟩
  · rintro each ⟨name?, value⟩ sorted
    obtain ⟨⟨name, _⟩, -, same⟩ := List.mem_map.mp sorted
    cases same
    obtain ⟨_, listed⟩ := exists_mem_sortedMembers.mp ⟨_, sorted⟩
    obtain ⟨_, same, holds⟩ := each _ listed
    exact ⟨_, same, holds⟩

end Document

/-! ## Faults of a record -/

namespace Record

open Document

variable {record : Record} {members : List (Option String × Document)} {seen : List String}

/-- What keeps a record from finding a fault in some members, once some names have been seen. -/
theorem firstFault?_eq_none_iff_of_seen (distinct : record.names.Nodup) :
    record.firstFault? seen members = none ↔
      (∀ member ∈ members, ∃ name, member.1 = some name ∧
        (record.refusesUnknown = true → name ∈ record.names)) ∧
      ∀ check ∈ record.checks, valuesOf check.1 members = [] ∨ check.1 ∉ seen ∧
        ∃ value, valuesOf check.1 members = [value] ∧ check.2 value = none := by
  induction members generalizing seen with
  | nil => simp [firstFault?, valuesOf]
  | cons member members hypothesis =>
    obtain ⟨name?, value⟩ := member
    cases name? with
    | none => simp [firstFault?]
    | some name =>
      rw [firstFault?]
      simp only [List.forall_mem_cons, valuesOf_cons, Option.some.injEq, exists_eq_left']
      cases known : record.checks.lookup name with
      | none =>
        have unknown : name ∉ record.names := lookup_eq_none_iff_keys.mp known
        have apart : ∀ check ∈ record.checks, name ≠ check.1 := by
          rintro check member rfl
          exact unknown (List.mem_map_of_mem member)
        cases refuses : record.refusesUnknown with
        | true => simp [unknown]
        | false =>
          rw [refuses] at hypothesis
          simp only [Bool.false_eq_true, if_false, false_implies, true_and] at hypothesis ⊢
          rw [hypothesis]
          refine and_congr Iff.rfl (forall₂_congr fun check member => ?_)
          rw [if_neg (apart check member)]
      | some check =>
        obtain ⟨_, _, split, -⟩ := List.lookup_eq_some_iff.mp known
        have isCheck : (name, check) ∈ record.checks := split ▸ List.mem_append_cons_self
        have isName : name ∈ record.names := List.mem_map_of_mem isCheck
        simp only
        by_cases isSeen : name ∈ seen
        · simp only [isSeen, if_true, reduceCtorEq, false_iff, not_and]
          intro _ each
          simpa [isSeen] using each _ isCheck
        rw [if_neg isSeen, Option.or_eq_none_iff, hypothesis]
        constructor
        · rintro ⟨passes, listed, each⟩
          refine ⟨⟨fun _ => isName, listed⟩, fun other member => ?_⟩
          by_cases same : name = other.1
          · obtain rfl : check = other.2 := by
              rw [same, lookup_of_mem distinct member] at known
              exact (Option.some.inj known).symm
            have noMore : valuesOf other.1 members = [] :=
              (each other member).resolve_right fun later =>
                later.1 (same ▸ List.mem_cons_self)
            rw [if_pos same, noMore]
            exact .inr ⟨same ▸ isSeen, value, rfl, passes⟩
          · rw [if_neg same]
            exact (each other member).imp_right fun later =>
              ⟨fun isSeen => later.1 (List.mem_cons_of_mem _ isSeen), later.2⟩
        · rintro ⟨⟨-, listed⟩, each⟩
          have first := each _ isCheck
          simp only [if_true, List.cons.injEq, reduceCtorEq, false_or] at first
          obtain ⟨-, _, ⟨rfl, noMore⟩, passes⟩ := first
          refine ⟨passes, listed, fun other member => ?_⟩
          by_cases same : name = other.1
          · exact .inl (same ▸ noMore)
          · have later := each other member
            rw [if_neg same] at later
            refine later.imp_right fun later => ⟨fun isSeen => ?_, later.2⟩
            rcases List.mem_cons.mp isSeen with isName | isSeen
            · exact same isName.symm
            · exact later.1 isSeen

/-- **A record finds no fault in members** that have names, none that it refuses, and at most one
value for each name it asks for, which passes. -/
theorem firstFault?_eq_none_iff (distinct : record.names.Nodup) :
    record.firstFault? [] members = none ↔
      (∀ member ∈ members, ∃ name, member.1 = some name ∧
        (record.refusesUnknown = true → name ∈ record.names)) ∧
      ∀ check ∈ record.checks, valuesOf check.1 members = [] ∨
        ∃ value, valuesOf check.1 members = [value] ∧ check.2 value = none := by
  simpa using @firstFault?_eq_none_iff_of_seen record members [] distinct

/-- A record that finds no fault in some members finds none in another order of them. -/
theorem firstFault?_eq_none_of_perm {others : List (Option String × Document)}
    (distinct : record.names.Nodup) (reordered : others.Perm members)
    (faultless : record.firstFault? [] members = none) : record.firstFault? [] others = none := by
  obtain ⟨named, each⟩ := (firstFault?_eq_none_iff distinct).mp faultless
  refine (firstFault?_eq_none_iff distinct).mpr ⟨fun member listed => ?_, fun check listed => ?_⟩
  · exact named member (reordered.mem_iff.mp listed)
  · rcases each check listed with absent | ⟨value, only, passes⟩
    · exact .inl (List.perm_nil.mp (absent ▸ valuesOf_perm reordered check.1))
    · exact .inr ⟨value, valuesOf_eq_singleton_of_perm reordered only, passes⟩

end Record

end Durak
