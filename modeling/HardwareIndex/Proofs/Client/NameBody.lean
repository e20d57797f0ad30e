import Mathlib.Data.List.Permutation
import HardwareIndex.Client.NameBody
import HardwareIndex.Client.Transport
import HardwareIndex.Proofs.Json.Skipping

/-!
# Reading names back

A name is read from what is written of any object that has its two fields, each
once. What other members the object has, what they hold and how deep they are
nested makes no difference.
-/

namespace HardwareIndex

/-- Joining texts takes a comma for each but one. -/
theorem Json.length_le_intercalate (text : List Char) (more : List (List Char)) :
    more.length ≤ ([','].intercalate (text :: more)).length := by
  induction more generalizing text with
  | nil => exact Nat.zero_le _
  | cons next more ih =>
    have later := ih next
    rw [List.intercalate_cons_cons, List.length_append, List.length_append, List.length_cons,
      List.length_singleton]
    omega

namespace Client

open Json (memberWritten)

namespace NameBody

open Json.Reader (skip Closes Skips)
open Text.Utf8 (codes)

variable {fields fields' left : List (String × String)} {rest : List Char}

/-- What becomes of the fields at a member that is read or skipped. -/
inductive Takes (fields : List (String × String)) :
    String × Json → List (String × String) → Prop
  | field (key value : String) : isField key = true → fields.lookup key = none →
    Takes fields (key, .str value) ((key, value) :: fields)
  | other (m : String × Json) : isField m.1 = false → m.2.Integral → Takes fields m fields

/-- What becomes of the fields at some members. -/
inductive TakesAll : List (String × String) → List (String × Json) → List (String × String) → Prop
  | nil (fields : List (String × String)) : TakesAll fields [] fields
  | cons {fields fields' left : List (String × String)} {m : String × Json}
    {more : List (String × Json)} : Takes fields m fields' → TakesAll fields' more left →
    TakesAll fields (m :: more) left

/-- A string is read from what is written of it. -/
theorem text?_written (cs rest : List Char) :
    text? ('"' :: (codes (cs.flatMap Json.escape) ++ '"' :: rest)) =
      some (String.ofList cs, rest) :=
  Json.Reader.utf8?_flatMap cs

theorem member?_written {m : String × Json} (takes : Takes fields m fields')
    (closes : Closes rest) : member? fields (memberWritten m ++ rest) = some (fields', rest) := by
  have key : text? (memberWritten m ++ rest) = some (m.1, ':' :: (m.2.written ++ rest)) := by
    have read := text?_written m.1.toList (':' :: (m.2.written ++ rest))
    simpa [memberWritten] using read
  have colon : Text.dropChar? ':' (skip (':' :: (m.2.written ++ rest))) =
      some (m.2.written ++ rest) := rfl
  simp only [member?, key, colon, Option.bind_eq_bind, Option.bind_some]
  cases takes with
  | field key value named unread =>
    have string : text? ((Json.str value).written ++ rest) = some (value, rest) := by
      simpa [Json.written_str] using text?_written value.toList rest
    simp only [named, unread, string, if_true, Option.isSome_none, Option.bind_some]
    rfl
  | other m other integral =>
    have skipped : Json.Reader.skipValue? (2 * (m.2.written ++ rest).length + 2)
        (m.2.written ++ rest) = some rest :=
      integral.skips (2 * (m.2.written ++ rest).length + 2) rest closes
        (by rw [List.length_append]; omega)
    simp only [other, skipped, Option.bind_some]
    rfl

/-- The members of an object are read up to the bracket that closes it. -/
theorem members?_written {fuel : Nat} {m : String × Json} {more : List (String × Json)}
    (takes : TakesAll fields (m :: more) left) (enough : more.length < fuel) :
    members? fuel fields ([','].intercalate ((m :: more).map memberWritten) ++ '\x7d' :: rest) =
      (ofFields? left).map (·, rest) := by
  induction more generalizing m fields fuel with
  | nil =>
    obtain ⟨fuel, rfl⟩ := Nat.exists_eq_succ_of_ne_zero (show fuel ≠ 0 by omega)
    cases takes with
    | cons first none =>
      cases none
      rw [List.map_singleton, List.intercalate_singleton, members?,
        member?_written first ⟨_, _, rfl, .inr (.inr rfl)⟩]
      rfl
  | cons next more ih =>
    obtain ⟨fuel, rfl⟩ := Nat.exists_eq_succ_of_ne_zero (show fuel ≠ 0 by omega)
    cases takes with
    | cons first others =>
      rw [List.map_cons, List.map_cons, List.intercalate_cons_cons, ← List.map_cons,
        List.append_assoc, List.append_assoc, List.singleton_append, members?,
        member?_written first ⟨_, _, rfl, .inl rfl⟩]
      exact ih others (Nat.lt_of_succ_lt_succ enough)

/-- Members with names of their own are read if each is either a field or skipped. -/
theorem takesAll_of_filter {members : List (String × Json)} {named : List (String × String)}
    (strings : members.filter (isField ·.1) = named.map fun n => (n.1, Json.str n.2))
    (distinct : (named.map Prod.fst).Nodup) (unread : ∀ n ∈ named, fields.lookup n.1 = none)
    (others : ∀ m ∈ members, isField m.1 = false → m.2.Integral) :
    TakesAll fields members (named.reverse ++ fields) := by
  induction members generalizing named fields with
  | nil =>
    obtain rfl : named = [] := by simpa using strings.symm
    exact .nil fields
  | cons m more ih =>
    have others' : ∀ m' ∈ more, isField m'.1 = false → m'.2.Integral := fun m' member =>
      others m' (List.mem_cons_of_mem m member)
    cases field : isField m.1 with
    | false =>
      rw [List.filter_cons_of_neg (by simp [field])] at strings
      exact .cons (.other m field (others m List.mem_cons_self field))
        (ih strings distinct unread others')
    | true =>
      rw [List.filter_cons_of_pos (by simpa using field)] at strings
      cases named with
      | nil => cases strings
      | cons n named =>
        obtain ⟨rfl, later⟩ := List.cons.inj strings
        rw [List.map_cons, List.nodup_cons] at distinct
        have unread' : ∀ n' ∈ named, ((n :: fields).lookup n'.1) = none := by
          intro n' member
          have apart : n'.1 ≠ n.1 := by
            intro same
            exact distinct.1 (same ▸ List.mem_map_of_mem member)
          rw [List.lookup_cons, beq_eq_false_iff_ne.2 apart]
          exact unread n' (List.mem_cons_of_mem n member)
        rw [List.reverse_cons, List.append_assoc]
        exact .cons (.field n.1 n.2 field (unread n List.mem_cons_self))
          (ih later distinct.2 unread' others')

variable {members : List (String × Json)} {name : ObjectName}

/-- The two fields of a name make it up, in either order. -/
theorem exists_takesAll
    (two : (members.filter (isField ·.1)).Perm
      [("namespace", .str name.space), ("name", .str name.name)])
    (others : ∀ m ∈ members, isField m.1 = false → m.2.Integral) :
    ∃ left, TakesAll [] members left ∧ ofFields? left = some name := by
  have taken (named : List (String × String)) (distinct : (named.map Prod.fst).Nodup)
      (order : members.filter (isField ·.1) = named.map fun n => (n.1, Json.str n.2)) :
      TakesAll [] members (named.reverse ++ []) :=
    takesAll_of_filter order distinct (fun _ _ => rfl) others
  rcases List.perm_pair.1 two with order | order
  · exact ⟨_, taken [("namespace", name.space), ("name", name.name)] (by simp) order, rfl⟩
  · exact ⟨_, taken [("name", name.name), ("namespace", name.space)] (by simp) order, rfl⟩

end NameBody

/-- A name is read from what is written of an object that has the fields of the name, each once and
    in any order, whatever else the object has. -/
theorem nameOfBody?_compact {members : List (String × Json)} {name : ObjectName}
    (two : (members.filter (NameBody.isField ·.1)).Perm
      [("namespace", .str name.space), ("name", .str name.name)])
    (others : ∀ m ∈ members, NameBody.isField m.1 = false → m.2.Integral) :
    nameOfBody? (Text.Utf8.bytes (Json.obj members).compact) = some name := by
  obtain ⟨left, takes, made⟩ := NameBody.exists_takesAll two others
  have object : (Text.Utf8.bytes (Json.obj members).compact).map Text.Utf8.charOf =
      '\x7b' :: ([','].intercalate (members.map memberWritten) ++ ['\x7d']) :=
    Json.written_obj members
  cases members with
  | nil =>
    cases takes
    cases made
  | cons m more =>
    have enough : more.length <
        ([','].intercalate ((m :: more).map memberWritten) ++ ['\x7d']).length := by
      have commas := Json.length_le_intercalate (memberWritten m) (more.map memberWritten)
      rw [List.length_map] at commas
      rw [List.length_append]
      exact Nat.lt_succ_of_le commas
    have named : NameBody.name?
        ('\x7b' :: ([','].intercalate ((m :: more).map memberWritten) ++ ['\x7d'])) =
          some (name, []) :=
      (NameBody.members?_written takes enough).trans (by rw [made]; rfl)
    rw [nameOfBody?, object, named]
    rfl

/-- Of what is skipped no text is made, so an escape in it may be of a lone surrogate. -/
example : nameOfBody? (Text.Utf8.bytes
    "\x7b\"note\":\"\\ud800\",\"namespace\":\"lab\",\"name\":\"a\"\x7d") = some ⟨"lab", "a"⟩ := by
  decide +kernel

/-- A name is read from its own body. -/
theorem nameOfBody?_body (name : ObjectName) :
    nameOfBody? (Text.Utf8.bytes name.body) = some name := by
  have others : ∀ m ∈ [("namespace", Json.str name.space), ("name", Json.str name.name)],
      NameBody.isField m.1 = false → m.2.Integral := by
    simp [NameBody.isField]
  exact nameOfBody?_compact (.refl _) others

/-- The body of a reply that is the text of a name is read as the name. -/
theorem nameOfBody?_ofText (status : StatusCode) (name : ObjectName) :
    (ServerReply.ofText status name.body).body.bind nameOfBody? = some name := by
  rw [ServerReply.body_ofText, Option.bind_some, nameOfBody?_body]

end Client

end HardwareIndex
