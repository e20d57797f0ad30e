import HardwareIndex.Json.Record

/-!
# Records read from what is written of them

A record is written as an object of the fields that are present. Each field is
found again under its name, and a field that was left out is found to be missing,
if no two fields have one name. So it is enough that each field by itself is read
from what is written of it: what may be missing is left out, and an empty list
too.
-/

namespace HardwareIndex.Json

variable {α : Type} {read : Json → Option α} {write : α → Json}

/-- A field is found under its name with what was written of it, and not found if nothing was. -/
theorem member?_present {members : List (String × Option Json)} {name : String}
    {value : Option Json} (distinct : (members.map Prod.fst).Nodup)
    (among : (name, value) ∈ members) :
    member? (members.filterMap fun (n, v) => v.map (n, ·)) name = value := by
  induction members with
  | nil => cases among
  | cons first rest ih =>
    obtain ⟨n, v⟩ := first
    obtain ⟨apart, distinct⟩ := List.nodup_cons.1 distinct
    rcases List.mem_cons.1 among with here | later
    · cases here
      cases value with
      | some written =>
        simp only [List.filterMap_cons, Option.map_some]
        rw [member?_cons, if_pos rfl]
      | none =>
        -- No field after this one has its name.
        simp only [List.filterMap_cons, Option.map_none]
        refine member?_eq_none fun present => apart ?_
        obtain ⟨_, written, rfl⟩ := List.mem_map.1 present
        obtain ⟨⟨_, _⟩, other, made⟩ := List.mem_filterMap.1 written
        obtain ⟨_, _, rfl⟩ := Option.map_eq_some_iff.1 made
        exact List.mem_map.2 ⟨_, other, rfl⟩
    · have differs : name ≠ n := by
        rintro rfl
        exact apart (List.mem_map.2 ⟨_, later, rfl⟩)
      have found := ih distinct later
      cases v with
      | none => exact found
      | some written =>
        simp only [List.filterMap_cons, Option.map_some]
        rw [member?_cons, if_neg differs, found]

/-- The fields of a record are found as they were written. -/
theorem fields?_ofPresent {names : List String} {members : List (String × Option Json)}
    (named : members.map Prod.fst = names) (distinct : names.Nodup) :
    fields? names (ofPresent members) = some (members.map Prod.snd) := by
  subst named
  rw [ofPresent, fields?, List.map_map]
  refine congrArg some (List.map_congr_left ?_)
  rintro ⟨name, value⟩ among
  exact member?_present distinct among

/-! ## Single fields -/

@[simp] theorem required?_some (read : Json → Option α) (value : Json) :
    required? read (some value) = read value := rfl

@[simp] theorem defaulted?_some (default : α) (read : Json → Option α) (value : Json) :
    defaulted? default read (some value) = read value := rfl

@[simp] theorem asString?_str (s : String) : asString? (.str s) = some s := rfl

theorem optional?_some {value : Json} (there : value ≠ .null) :
    optional? read (some value) = (read value).map some := by
  cases value with
  | null => exact absurd rfl there
  | _ => rfl

/-- A field that may be missing was read from what is there, if anything was read. -/
theorem bind_of_optional? {field : Option Json} {a : α}
    (found : optional? read field = some (some a)) : field.bind read = some a := by
  unfold optional? at found
  split at found
  · cases found
  · cases found
  · obtain ⟨_, read, same⟩ := Option.map_eq_some_iff.1 found
    cases same
    exact read

/-- A field that may be missing is read from what is written of it, if that is not null. -/
theorem optional?_map (again : ∀ a, read (write a) = some a) (there : ∀ a, write a ≠ .null)
    (value : Option α) : optional? read (value.map write) = some value := by
  cases value with
  | none => rfl
  | some a =>
    rw [Option.map_some, optional?_some (there a), again a, Option.map_some]

@[simp] theorem optional?_text (text : Option String) :
    optional? asString? (text.map .str) = some text :=
  @optional?_map String asString? .str (fun _ => rfl) (fun _ => nofun) text

/-- Free-form values that were read are not null, which counts as missing. -/
theorem optional?_any?_again {field value : Option Json}
    (found : optional? any? field = some value) : optional? any? value = some value := by
  unfold optional? at found
  split at found <;> cases found
  · rfl
  · rfl
  · rename_i v there
    exact optional?_some there

theorem mapM_map (again : ∀ a, read (write a) = some a) (items : List α) :
    (items.map write).mapM read = some items := by
  induction items with
  | nil => rfl
  | cons a rest ih => simp [again, ih]

/-- A list is read from what is written of its items. -/
theorem list?_map (again : ∀ a, read (write a) = some a) (items : List α) :
    list? read (.arr (items.map write)) = some items :=
  mapM_map again items

/-- A list that is left out when it is empty is empty when it is missing. -/
theorem defaulted?_unlessEmpty {readAll : Json → Option (List α)}
    (again : ∀ items, readAll (.arr (items.map write)) = some items) (items : List α) :
    defaulted? [] readAll (unlessEmpty write items) = some items := by
  cases items with
  | nil => rfl
  | cons a rest => exact again (a :: rest)

@[simp] theorem asStrings?_strings (texts : List String) :
    asStrings? (strings texts) = some texts :=
  @mapM_map String asString? .str (fun _ => rfl) texts

end HardwareIndex.Json
