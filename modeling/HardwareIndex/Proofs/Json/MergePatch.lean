import HardwareIndex.Json.Basic

/-!
# Merge patches

A merge patch is a value that tells what is to change in another. An object tells
it member by member: null removes a member, an object changes the one there is,
and any other value takes its place. What is no object is taken for an empty one
where an object tells what changes. The main statement is what becomes of each
member (`member?_mergeMembers`).
-/

namespace HardwareIndex.Json

/-- The members of an object; anything else has none. -/
def members : Json → List (String × Json)
  | .obj members => members
  | _ => []

/-- Members without those of a name. -/
def removeMember (name : String) (members : List (String × Json)) : List (String × Json) :=
  members.filter fun (other, _) => other != name

mutual

/-- A value after a change. -/
def mergePatch (target : Json) : Json → Json
  | .obj changes => .obj (mergeMembers target.members changes)
  | value => value

/-- Members after changes, one after the other. -/
def mergeMembers (members : List (String × Json)) : List (String × Json) → List (String × Json)
  | [] => members
  | (name, change) :: rest =>
    mergeMembers
      (if change.isNull then removeMember name members
        else setMember name (mergePatch ((member? members name).getD .null) change) members)
      rest

end

/-- What becomes of a member for which a change is told. -/
def mergeMember (old : Option Json) : Option Json → Option Json
  | none => old
  | some change => if change.isNull then none else some (mergePatch (old.getD .null) change)

theorem member?_removeMember (name other : String) (members : List (String × Json)) :
    member? (removeMember name members) other =
      if other = name then none else member? members other := by
  induction members with
  | nil => simp [removeMember, member?]
  | cons m rest ih =>
    obtain ⟨n, v⟩ := m
    simp only [member?, removeMember] at ih
    grind [removeMember, member?]

/-- Each member becomes what is told of it, and one of which nothing is told stays as it is. -/
theorem member?_mergeMembers {changes : List (String × Json)}
    (distinct : (changes.map Prod.fst).Nodup) (members : List (String × Json)) (name : String) :
    member? (mergeMembers members changes) name =
      mergeMember (member? members name) (member? changes name) := by
  induction changes generalizing members with
  | nil => simp [mergeMembers, mergeMember, member?]
  | cons first rest ih =>
    obtain ⟨n, change⟩ := first
    obtain ⟨apart, distinct⟩ := List.nodup_cons.1 distinct
    rw [mergeMembers, ih distinct, member?_cons]
    by_cases here : name = n
    · subst here
      -- Nothing else is told of this member.
      rw [if_pos rfl, member?_eq_none apart, mergeMember, mergeMember]
      split
      · rw [member?_removeMember, if_pos rfl]
      · rw [member?_setMember, if_pos rfl]
    · rw [if_neg here]
      split
      · rw [member?_removeMember, if_neg here]
      · rw [member?_setMember, if_neg here]

/-- A change of one member that is not null leaves the others as they are. -/
theorem member?_mergeMembers_single {change : Json} (there : change.isNull = false)
    (members : List (String × Json)) (name other : String) :
    member? (mergeMembers members [(name, change)]) other =
      if other = name then some (mergePatch ((member? members name).getD .null) change)
      else member? members other := by
  have alone : ([(name, change)].map Prod.fst).Nodup := List.pairwise_singleton _ _
  rw [member?_mergeMembers alone, member?_cons]
  by_cases here : other = name
  · rw [if_pos here, if_pos here, mergeMember, if_neg (by simp [there]), here]
  · rw [if_neg here, if_neg here]
    rfl

end HardwareIndex.Json
