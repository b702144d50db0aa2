/-!
# Tables keyed by a name

Stored games, packs by recipient, the members of an object as a mapping holds them: all of these
are lists of named values.  `insertKeyed` keeps such a list in the order of its names and replaces
a value of the same name, so looking up the name gives the new value (`lookup_insertKeyed_self`)
and looking up any other gives what it gave before (`lookup_insertKeyed_of_ne`), whatever the list.
`eraseKeyed` removes one value, and is used where every name occurs once.
-/

set_option autoImplicit false

namespace Durak

/-- Named values. -/
abbrev Keyed (α : Type) := List (String × α)

/-- Puts a value among values in the order of their names, in place of one of the same name. -/
def insertKeyed {α : Type} (name : String) (value : α) : Keyed α → Keyed α
  | [] => [(name, value)]
  | (other, kept) :: rest =>
    if name = other then (name, value) :: rest
    else if name < other then (name, value) :: (other, kept) :: rest
    else (other, kept) :: insertKeyed name value rest

/-- Values in the order of their names, the last of those with one name kept. -/
def sortKeyed {α : Type} (values : Keyed α) : Keyed α :=
  values.foldl (fun sorted entry => insertKeyed entry.1 entry.2 sorted) []

/-- The values without the first one of a name. -/
def eraseKeyed {α : Type} (name : String) : Keyed α → Keyed α
  | [] => []
  | (other, kept) :: rest =>
    if name = other then rest else (other, kept) :: eraseKeyed name rest

theorem lookup_insertKeyed_self {α : Type} (name : String) (value : α) (values : Keyed α) :
    (insertKeyed name value values).lookup name = some value := by
  induction values with
  | nil => simp [insertKeyed]
  | cons entry rest hypothesis =>
    obtain ⟨other, kept⟩ := entry
    unfold insertKeyed
    split
    · simp
    · rename_i different
      have apart : (name == other) = false := by simpa using different
      split
      · simp
      · simp only [List.lookup_cons, apart, hypothesis]

theorem lookup_insertKeyed_of_ne {α : Type} {name other : String} (different : other ≠ name)
    (value : α) (values : Keyed α) :
    (insertKeyed name value values).lookup other = values.lookup other := by
  have apart : (other == name) = false := by simpa using different
  induction values with
  | nil => simp [insertKeyed, List.lookup_cons, apart]
  | cons entry rest hypothesis =>
    obtain ⟨first, kept⟩ := entry
    unfold insertKeyed
    split
    · rename_i same
      subst same
      simp [List.lookup_cons, apart]
    · split
      · simp [List.lookup_cons, apart]
      · simp only [List.lookup_cons, hypothesis]

theorem lookup_eq_none_iff_keys {α : Type} {name : String} {values : Keyed α} :
    values.lookup name = none ↔ name ∉ values.map Prod.fst := by
  induction values with
  | nil => simp
  | cons entry rest hypothesis =>
    obtain ⟨first, kept⟩ := entry
    by_cases same : name = first
    · simp [same]
    · have apart : (name == first) = false := by simpa using same
      simp only [List.lookup_cons, apart, hypothesis, List.map_cons, List.mem_cons, same, false_or]

/-- Under distinct names every entry is found. -/
theorem lookup_of_mem {α : Type} {entries : Keyed α} (distinct : (entries.map Prod.fst).Nodup)
    {name : String} {value : α} (member : (name, value) ∈ entries) :
    entries.lookup name = some value := by
  induction member with
  | head => exact List.lookup_cons_self
  | tail entry later hypothesis =>
    obtain ⟨fresh, distinct⟩ := List.nodup_cons.mp distinct
    have apart : (name == entry.1) = false := by
      refine beq_false_of_ne fun same => fresh ?_
      exact same ▸ List.mem_map.mpr ⟨_, later, rfl⟩
    rw [List.lookup_cons, apart]
    exact hypothesis distinct

/-- A value of a new name is put among the others. -/
theorem insertKeyed_perm {α : Type} {name : String} (value : α) {values : Keyed α}
    (fresh : name ∉ values.map Prod.fst) :
    (insertKeyed name value values).Perm ((name, value) :: values) := by
  induction values with
  | nil => exact List.Perm.refl _
  | cons entry rest hypothesis =>
    obtain ⟨first, kept⟩ := entry
    simp only [List.map_cons, List.mem_cons, not_or] at fresh
    rw [insertKeyed, if_neg fresh.1]
    split
    · exact List.Perm.refl _
    · exact ((hypothesis fresh.2).cons (first, kept)).trans (List.Perm.swap _ _ _)

theorem keys_insertKeyed_perm {α : Type} {name : String} (value : α) {values : Keyed α}
    (fresh : name ∉ values.map Prod.fst) :
    ((insertKeyed name value values).map Prod.fst).Perm (name :: values.map Prod.fst) :=
  (insertKeyed_perm value fresh).map Prod.fst

/-- Values of distinct names that are put one after another among others are all there. -/
theorem foldl_insertKeyed_perm {α : Type} {entries table : Keyed α}
    (distinct : ((entries ++ table).map Prod.fst).Nodup) :
    (entries.foldl (fun table entry => insertKeyed entry.1 entry.2 table) table).Perm
      (entries ++ table) := by
  induction entries generalizing table with
  | nil => exact List.Perm.refl _
  | cons entry rest hypothesis =>
    obtain ⟨name, value⟩ := entry
    rw [List.cons_append, List.map_cons] at distinct
    have fresh : name ∉ table.map Prod.fst := fun member =>
      (List.nodup_cons.mp distinct).1 (by simp [member])
    have placed : (rest ++ insertKeyed name value table).Perm ((name, value) :: (rest ++ table)) :=
      ((insertKeyed_perm value fresh).append_left rest).trans List.perm_middle
    exact (hypothesis ((placed.map Prod.fst).nodup_iff.mpr distinct)).trans placed

/-- Sorting values of distinct names only changes their order. -/
theorem sortKeyed_perm {α : Type} {entries : Keyed α} (distinct : (entries.map Prod.fst).Nodup) :
    (sortKeyed entries).Perm entries := by
  have all := @foldl_insertKeyed_perm α entries [] (by rwa [List.append_nil])
  rwa [List.append_nil] at all

theorem lookup_eraseKeyed_of_ne {α : Type} {name other : String} (different : other ≠ name)
    (values : Keyed α) : (eraseKeyed name values).lookup other = values.lookup other := by
  have apart : (other == name) = false := by simpa using different
  induction values with
  | nil => rfl
  | cons entry rest hypothesis =>
    obtain ⟨first, kept⟩ := entry
    rw [eraseKeyed]
    split
    · rename_i same
      subst same
      rw [List.lookup_cons, apart]
    · simp only [List.lookup_cons, hypothesis]

theorem keys_eraseKeyed_sublist {α : Type} (name : String) (values : Keyed α) :
    ((eraseKeyed name values).map Prod.fst).Sublist (values.map Prod.fst) := by
  induction values with
  | nil => exact List.Sublist.refl _
  | cons entry rest hypothesis =>
    obtain ⟨first, kept⟩ := entry
    rw [eraseKeyed]
    split
    · exact List.sublist_cons_self first _
    · exact hypothesis.cons_cons first

theorem lookup_eraseKeyed_self {α : Type} {name : String} {values : Keyed α}
    (once : (values.map Prod.fst).Nodup) : (eraseKeyed name values).lookup name = none := by
  induction values with
  | nil => rfl
  | cons entry rest hypothesis =>
    obtain ⟨first, kept⟩ := entry
    obtain ⟨fresh, once⟩ := List.nodup_cons.mp once
    rw [eraseKeyed]
    split
    · rename_i same
      subst same
      exact lookup_eq_none_iff_keys.mpr fresh
    · rename_i different
      have apart : (name == first) = false := by simpa using different
      simp only [List.lookup_cons, apart, hypothesis once]

end Durak
