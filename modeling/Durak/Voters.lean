/-!
# Voters

Who is ready, and who wants the attack to end, are sets of player ids.  A set is kept as the list
of its members in increasing order, so two sets with the same members are equal, and a set always
shows its members in that order.
-/

set_option autoImplicit false

namespace Durak

/-- Puts a name in its place in an increasing list, unless it is there already. -/
def insertName (name : String) : List String → List String
  | [] => [name]
  | other :: rest =>
    if name = other then other :: rest
    else if name < other then name :: other :: rest
    else other :: insertName name rest

theorem mem_insertName {name other : String} {names : List String} :
    other ∈ insertName name names ↔ other = name ∨ other ∈ names := by
  induction names with
  | nil => simp [insertName]
  | cons first rest hypothesis =>
    unfold insertName
    split
    · rename_i same
      subst same
      simp
    · split
      · simp
      · simp only [List.mem_cons, hypothesis]
        exact or_left_comm

theorem ascending_insertName {name : String} {names : List String}
    (ascending : names.Pairwise (· < ·)) : (insertName name names).Pairwise (· < ·) := by
  induction names with
  | nil => simp [insertName]
  | cons first rest hypothesis =>
    rw [List.pairwise_cons] at ascending
    unfold insertName
    split
    · exact List.pairwise_cons.mpr ascending
    · rename_i different
      split
      · rename_i before
        refine List.pairwise_cons.mpr ⟨?_, List.pairwise_cons.mpr ascending⟩
        intro other member
        rcases List.mem_cons.mp member with rfl | member
        · exact before
        · exact String.lt_trans before (ascending.1 other member)
      · rename_i notBefore
        refine List.pairwise_cons.mpr ⟨?_, hypothesis ascending.2⟩
        intro other member
        rcases mem_insertName.mp member with rfl | member
        · exact Decidable.byContradiction fun notAfter =>
            different (String.le_antisymm (String.not_lt.mp notAfter) (String.not_lt.mp notBefore))
        · exact ascending.1 other member

/-- A set of player ids. -/
structure Voters where
  members : List String
  ascending : members.Pairwise (· < ·)
  deriving DecidableEq

namespace Voters

/-- Nobody. -/
def none : Voters := ⟨[], List.Pairwise.nil⟩

/-- The set with one more member. -/
def insert (voters : Voters) (id : String) : Voters :=
  ⟨insertName id voters.members, ascending_insertName voters.ascending⟩

/-- The set of the ids in a list. -/
def ofList (ids : List String) : Voters := ids.foldl insert none

/-- Whether an id is in the set. -/
def contains (voters : Voters) (id : String) : Bool := voters.members.contains id

instance : Membership String Voters := ⟨fun voters id => id ∈ voters.members⟩

instance (id : String) (voters : Voters) : Decidable (id ∈ voters) :=
  inferInstanceAs (Decidable (id ∈ voters.members))

theorem mem_def {id : String} {voters : Voters} : id ∈ voters ↔ id ∈ voters.members := Iff.rfl

theorem contains_iff {id : String} {voters : Voters} :
    voters.contains id = true ↔ id ∈ voters := by
  simp [contains, mem_def]

theorem mem_insert {id other : String} {voters : Voters} :
    other ∈ voters.insert id ↔ other = id ∨ other ∈ voters := mem_insertName

end Voters

end Durak
