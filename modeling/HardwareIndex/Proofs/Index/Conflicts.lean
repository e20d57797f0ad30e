import HardwareIndex.Proofs.Index.Ownership

/-!
# Keys that move

A record that is set takes each of its keys from whoever had it. An operator is
told of exactly those keys that a record of another name lists, each once, the
addresses before the identifier, with the record from which the key was taken.
That the old version of the record lets go of its keys first makes no difference:
what it owned and another record lists has by then gone to the first such record.
Records that are inserted one after the other are told of as if each had been set
alone.
-/

namespace HardwareIndex

open Std

/-! ## Lists -/

/-- To take elements out of a list and repetitions out of the rest can be done in either order. -/
theorem filter_eraseDups {α : Type} [BEq α] [LawfulBEq α] (keep : α → Bool) :
    ∀ l : List α, (l.filter keep).eraseDups = l.eraseDups.filter keep
  | [] => rfl
  | a :: l => by
    have shorter : (l.filter fun b => !b == a).length < l.length + 1 :=
      Nat.lt_succ_of_le (List.length_filter_le _ _)
    have rest := filter_eraseDups keep (l.filter fun b => !b == a)
    rw [List.eraseDups_cons]
    cases kept : keep a with
    | true =>
      rw [List.filter_cons_of_pos kept, List.filter_cons_of_pos kept, List.eraseDups_cons, ← rest,
        List.filter_comm]
    | false =>
      have unchanged : (l.filter fun b => !b == a).filter keep = l.filter keep := by
        rw [List.filter_filter]
        apply List.filter_congr
        intro b _
        by_cases same : b = a
        · simp [same, kept]
        · simp [same]
      rw [List.filter_cons_of_neg (by simp [kept]), List.filter_cons_of_neg (by simp [kept]),
        ← rest, unchanged]
termination_by l => l.length

/-- The elements that have a value, each with its value. -/
theorem forall₂_filterMap {α β : Type} {f : α → Option β} {p : α → Bool}
    (some_iff : ∀ a, (f a).isSome = p a) (l : List α) :
    List.Forall₂ (fun a b => f a = some b) (l.filter p) (l.filterMap f) := by
  induction l with
  | nil => exact .nil
  | cons a l ih =>
    cases value : f a with
    | none =>
      have left : ¬p a = true := by simp [← some_iff, value]
      rwa [List.filter_cons_of_neg left, List.filterMap_cons_none value]
    | some b =>
      have kept : p a = true := by simp [← some_iff, value]
      rw [List.filter_cons_of_pos kept, List.filterMap_cons_some value]
      exact .cons value ih

/-! ## What is to be told -/

/-- The warning that a key has gone from one record to another. -/
def RecordKey.moved (kind : RecordKind) (previous object : ObjectName) : RecordKey → Warning
  | .mac address => .macMoved kind address previous object
  | .uuid identifier => .uuidMoved kind identifier previous object

namespace Entries

variable {R : Type} [Indexed R] {e : Entries R} {r : R} {name previous : ObjectName}
  {key : RecordKey}

/-- The keys of a record, each once: its addresses in the order in which they are first listed,
    then its identifier. -/
def keys (r : R) : List RecordKey :=
  (Indexed.macs r).eraseDups.map RecordKey.mac ++ (Indexed.uuid r).toList.map RecordKey.uuid

/-- A record of another name lists a key. -/
def ListedElsewhere (e : Entries R) (name : ObjectName) (key : RecordKey) : Prop :=
  ∃ (other : ObjectName) (r : R), other ≠ name ∧ e.records[other]? = some r ∧ lists key r = true

/-- A name that takes a key takes it from this record: from the owner, if that is another one,
    and otherwise from the first other one, in name order, that lists the key. -/
def TakesFrom (e : Entries R) (name : ObjectName) (key : RecordKey) (previous : ObjectName) :
    Prop :=
  if e.owner? key = some name then
    NameMap.IsFirst (e.records.erase name) (lists key) (some previous)
  else e.owner? key = some previous

theorem listedElsewhere_iff : e.ListedElsewhere name key ↔
    ∃ (other : ObjectName) (r : R), (e.records.erase name)[other]? = some r ∧
      lists key r = true := by
  constructor
  · rintro ⟨other, r, apart, held, listed⟩
    exact ⟨other, r, by simpa [ExtTreeMap.getElem?_erase, Ne.symm apart] using held, listed⟩
  · rintro ⟨other, r, held, listed⟩
    by_cases same : name = other
    · simp [same] at held
    · exact ⟨other, r, Ne.symm same, by simpa [ExtTreeMap.getElem?_erase, same] using held, listed⟩

instance (e : Entries R) (name : ObjectName) (key : RecordKey) :
    Decidable (e.ListedElsewhere name key) :=
  decidable_of_iff
    ((claimant? { e with records := e.records.erase name } (lists key)).isSome = true)
    (isSome_claimant?_iff.trans listedElsewhere_iff.symm)

/-- What is to be told when a record is set: of each of its keys that a record of another name
    lists, in their order, that it has moved. -/
def Tells (e : Entries R) (r : R) (warnings : List Warning) : Prop :=
  List.Forall₂ (fun key warning => ∃ previous, e.TakesFrom (Indexed.name r) key previous ∧
      warning = key.moved (Indexed.kind R) previous (Indexed.name r))
    ((keys r).filter fun key => e.ListedElsewhere (Indexed.name r) key) warnings

/-- What is to be told when records are set one after the other. -/
inductive TellsAll : Entries R → List R → List Warning → Prop
  | nil (e : Entries R) : TellsAll e [] []
  | cons {e : Entries R} {r : R} {records : List R} {first rest : List Warning} :
      e.Tells r first → TellsAll (e.insert r).1 records rest →
      TellsAll e (r :: records) (first ++ rest)

/-! ## What an insertion tells -/

/-- What is told when a name takes a key from its owner, if that is another one. -/
def takeover? (kind : RecordKind) (name : ObjectName) (owner : Option ObjectName)
    (key : RecordKey) : Option Warning :=
  (owner.filter (· != name)).map fun previous => key.moved kind previous name

theorem takeover?_of_ne {kind : RecordKind} {owner : Option ObjectName}
    (other : owner ≠ some name) :
    takeover? kind name owner key = owner.map fun previous => key.moved kind previous name := by
  cases owner with
  | none => rfl
  | some previous =>
    have apart : previous ≠ name := fun same => other (congrArg some same)
    simp [takeover?, apart]

theorem claimMac_warnings (name : ObjectName) (p : Entries R × List Warning) (mac : Mac) :
    (claimMac name p mac).2 =
      p.2 ++ (takeover? (Indexed.kind R) name (p.1.owner? (.mac mac)) (.mac mac)).toList := by
  obtain ⟨e, warnings⟩ := p
  simp only [claimMac, owner?]
  cases e.macOwners[mac]? with
  | none => rfl
  | some previous =>
    by_cases same : previous = name
    · simp [takeover?, same, Option.filter]
    · rw [takeover?_of_ne fun owner => same (Option.some.inj owner)]
      simp [same, RecordKey.moved]

theorem claimUuid_warnings (name : ObjectName) (p : Entries R × List Warning) (uuid : Uuid) :
    (claimUuid name p uuid).2 =
      p.2 ++ (takeover? (Indexed.kind R) name (p.1.owner? (.uuid uuid)) (.uuid uuid)).toList := by
  obtain ⟨e, warnings⟩ := p
  simp only [claimUuid, owner?]
  cases e.uuidOwners[uuid]? with
  | none => rfl
  | some previous =>
    by_cases same : previous = name
    · simp [takeover?, same, Option.filter]
    · rw [takeover?_of_ne fun owner => same (Option.some.inj owner)]
      simp [same, RecordKey.moved]

/-- An address that is listed again is told of once: the name has it by then. -/
theorem claimMacs_warnings (name : ObjectName) (macs : List Mac) (p : Entries R × List Warning) :
    (macs.foldl (claimMac name) p).2 = p.2 ++ macs.eraseDups.filterMap fun mac =>
      takeover? (Indexed.kind R) name (p.1.owner? (.mac mac)) (.mac mac) := by
  induction macs generalizing p with
  | nil => simp
  | cons mac macs ih =>
    have later : (macs.eraseDups.filterMap fun k =>
          takeover? (Indexed.kind R) name ((claimMac name p mac).1.owner? (.mac k)) (.mac k)) =
        (macs.filter fun k => !k == mac).eraseDups.filterMap fun k =>
          takeover? (Indexed.kind R) name (p.1.owner? (.mac k)) (.mac k) := by
      rw [filter_eraseDups, List.filterMap_filter]
      apply List.filterMap_congr
      intro k _
      rw [owner?, owner?, claimMac_macOwners, ExtTreeMap.getElem?_insert]
      by_cases first : k = mac
      · simp [first, takeover?, Option.filter]
      · simp [first, Ne.symm first]
    rw [List.foldl_cons, ih, later, claimMac_warnings, List.append_assoc, List.eraseDups_cons,
      List.filterMap_cons]
    cases takeover? (Indexed.kind R) name (p.1.owner? (.mac mac)) (.mac mac) <;> simp

theorem claim_warnings (e : Entries R) (r : R) : (e.claim r).2 =
    (keys r).filterMap fun key =>
      takeover? (Indexed.kind R) (Indexed.name r) (e.owner? key) key := by
  have macs := claimMacs_warnings (Indexed.name r) (Indexed.macs r) (e, [])
  unfold claim keys
  rw [List.filterMap_append, List.filterMap_map]
  cases Indexed.uuid r with
  | none => simpa using macs
  | some uuid =>
    have owner :
        ((Indexed.macs r).foldl (claimMac (Indexed.name r)) (e, [])).1.owner? (.uuid uuid) =
          e.owner? (.uuid uuid) := by
      rw [owner?, owner?, claimMacs_uuidOwners]
    rw [Option.elim_some, claimUuid_warnings, macs, owner, List.nil_append]
    cases taken :
        takeover? (Indexed.kind R) (Indexed.name r) (e.owner? (.uuid uuid)) (.uuid uuid) <;>
      simp [taken]

/-- Once the old version of a record has let go of its keys, a key has an owner exactly if another
    record lists it. -/
theorem Consistent.isSome_owner?_remove_iff (h : e.Consistent) :
    ((e.remove name).owner? key).isSome = true ↔ e.ListedElsewhere name key := by
  rw [(h.remove name).owners.isSome_iff, remove_records, listedElsewhere_iff]

/-- By then it is with the record from which the name takes it. -/
theorem Consistent.takesFrom_of_owner?_remove (h : e.Consistent)
    (owner : (e.remove name).owner? key = some previous) : e.TakesFrom name key previous := by
  rw [h.owner?_remove] at owner
  unfold TakesFrom
  split
  · rename_i owned
    rw [if_pos owned] at owner
    exact NameMap.first?_eq_iff.1 owner
  · rename_i owned
    rwa [if_neg owned] at owner

/-- An insertion tells what is to be told. -/
theorem Consistent.tells_insert (h : e.Consistent) (r : R) : e.Tells r (e.insert r).2 := by
  have absent : (e.remove (Indexed.name r)).records[Indexed.name r]? = none := by simp
  have told : (e.insert r).2 = (keys r).filterMap fun key =>
      ((e.remove (Indexed.name r)).owner? key).map fun previous =>
        key.moved (Indexed.kind R) previous (Indexed.name r) := by
    refine (claim_warnings (e.remove (Indexed.name r)) r).trans ?_
    apply List.filterMap_congr
    intro key _
    exact takeover?_of_ne ((h.remove _).owner?_ne_of_absent absent key)
  have known (key : RecordKey) : (((e.remove (Indexed.name r)).owner? key).map fun previous =>
      key.moved (Indexed.kind R) previous (Indexed.name r)).isSome =
        decide (e.ListedElsewhere (Indexed.name r) key) := by
    rw [Option.isSome_map, Bool.eq_iff_iff, decide_eq_true_iff, h.isSome_owner?_remove_iff]
  rw [told]
  refine (forall₂_filterMap known (keys r)).imp ?_
  intro key warning moved
  obtain ⟨previous, owner, rfl⟩ := Option.map_eq_some_iff.1 moved
  exact ⟨previous, h.takesFrom_of_owner?_remove owner, rfl⟩

theorem insertAll_cons_warnings (e : Entries R) (r : R) (records : List R) :
    (e.insertAll (r :: records)).2 = (e.insert r).2 ++ ((e.insert r).1.insertAll records).2 := by
  have added : ∀ (records : List R) (e : Entries R) (w : List Warning),
      (records.foldl (fun (p : Entries R × List Warning) r =>
        ((p.1.insert r).1, p.2 ++ (p.1.insert r).2)) (e, w)).2 =
      w ++ (records.foldl (fun (p : Entries R × List Warning) r =>
        ((p.1.insert r).1, p.2 ++ (p.1.insert r).2)) (e, [])).2 := by
    intro records
    induction records with
    | nil => simp
    | cons r records ih =>
      intro e w
      rw [List.foldl_cons, List.foldl_cons, ih, ih _ ([] ++ _), List.nil_append, List.append_assoc]
  exact added records _ _

theorem Consistent.tellsAll_insertAll (h : e.Consistent) (records : List R) :
    e.TellsAll records (e.insertAll records).2 := by
  induction records generalizing e with
  | nil => exact .nil e
  | cons r records ih =>
    rw [insertAll_cons_warnings]
    exact .cons (h.tells_insert r) (ih (h.insert r))

end Entries

end HardwareIndex
