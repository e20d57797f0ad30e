import HardwareIndex.Proofs.Address.LeadingBits
import HardwareIndex.Proofs.Index.Answers

/-!
# Classification by prefix

A machine type has no keys of its own: its index owns no address and no
identifier, and an address is looked for among the prefixes of all records. The
record that is found has the least name of those with a prefix that covers the
address bit for bit. What is indexed under which name therefore decides every
answer, and how it came to be indexed has no part in it.
-/

namespace HardwareIndex

open Std

namespace MachineType

/-- A machine type covers an address if one of its prefixes does: the address has the bits that
    count, and they are those of the prefix. -/
def Covers (t : MachineType) (m : Mac) : Prop :=
  ∃ p ∈ t.prefixes, p.bits ≤ 8 * m.len ∧
    ∀ j < p.bits, Mac.bitAt m.bytes j = Mac.bitAt p.address.octets.toList j

theorem covers_iff {t : MachineType} {m : Mac} :
    t.Covers m ↔ (Indexed.prefixes t).any (·.contains m) = true := by
  rw [List.any_eq_true]
  apply exists_congr
  intro p
  apply and_congr_right
  intro _
  rw [MacPrefix.contains_iff]
  apply and_congr_right
  intro long
  apply forall₂_congr
  intro j counts
  rw [MacPrefix.bitAt_bytes m (by omega)]

/-- The answer for an address: of the records that cover it the one with the least name, or none
    if there is no such record. -/
def Classifies (records : NameMap MachineType) (m : Mac) : Option MachineType → Prop
  | some t => records[t.name]? = some t ∧ t.Covers m ∧
    ∀ (name : ObjectName) (other : MachineType), records[name]? = some other → other.Covers m →
      t.name.NotAfter name
  | none => ∀ (name : ObjectName) (t : MachineType), records[name]? = some t → ¬t.Covers m

end MachineType

namespace Entries

variable {e e' : Entries MachineType}

theorem classifies_byMac? (h : e.Consistent) (m : Mac) :
    MachineType.Classifies e.records m (e.byMac? m) := by
  have least : IsLeast e.records (·.Covers m) (e.byMac? m) :=
    h.isLeast_find? _ fun _ => MachineType.covers_iff.symm
  cases found : e.byMac? m with
  | none =>
    rw [found] at least
    exact least
  | some t =>
    rw [found] at least
    exact least

/-- Machine types list no key, so none has an owner. -/
theorem Consistent.owner?_eq_none (h : e.Consistent) (key : RecordKey) : e.owner? key = none := by
  cases owner : e.owner? key with
  | none => rfl
  | some name =>
    obtain ⟨t, _, listed⟩ := h.owners.listed owner
    cases key <;> cases listed

/-- What is indexed decides the entries. -/
theorem Consistent.eq_of_records (h : e.Consistent) (h' : e'.Consistent)
    (same : ∀ name : ObjectName, e.records[name]? = e'.records[name]?) : e = e' := by
  apply ext_owners same
  intro key
  rw [h.owner?_eq_none, h'.owner?_eq_none]

end Entries

namespace Run

/-- After any run of an index of machine types no key has an owner. Once the index is ready, it
    answers for an address with the record that has the least name of those with a prefix that
    covers the address, and with none if there is no such record. Two runs, however different, that
    end with the same records under the same names answer alike for every address. -/
theorem classifies (steps : List (Step MachineType)) :
    let session := (of steps).session
    let entries := session.index.entries
    entries.macOwners = ∅ ∧ entries.uuidOwners = ∅ ∧
    (session.index.isReady = true → ∀ m : Mac, ∃ found : Option MachineType,
      (session.step steps.length (.ask (.byMac m))).2.1 = .returned (.found found) ∧
      MachineType.Classifies entries.records m found) ∧
    ∀ steps' : List (Step MachineType),
      let session' := (of steps').session
      (∀ name : ObjectName, entries.records[name]? = session'.index.entries.records[name]?) →
      session.index.isReady = true → session'.index.isReady = true → ∀ m : Mac,
      (session.step steps.length (.ask (.byMac m))).2.1 =
        (session'.step steps'.length (.ask (.byMac m))).2.1 := by
  intro session entries
  have consistent : entries.Consistent := consistent steps
  have answers (steps : List (Step MachineType))
      (ready : (of steps).session.index.isReady = true) (m : Mac) :
      ((of steps).session.step steps.length (.ask (.byMac m))).2.1 =
        .returned (.found ((of steps).session.index.entries.byMac? m)) := by
    have idle := (reached steps).coherent.calls_eq_nil (reached steps).rest ready
    rw [Session.step_ask_of_ready ready idle]
    rfl
  refine ⟨?_, ?_, ?_, ?_⟩
  · apply ExtTreeMap.ext_getElem?
    intro mac
    rw [ExtTreeMap.getElem?_empty]
    exact consistent.owner?_eq_none (.mac mac)
  · apply ExtTreeMap.ext_getElem?
    intro uuid
    rw [ExtTreeMap.getElem?_empty]
    exact consistent.owner?_eq_none (.uuid uuid)
  · intro ready m
    exact ⟨entries.byMac? m, answers steps ready m, Entries.classifies_byMac? consistent m⟩
  · intro steps' session' same ready ready' m
    have entries' := consistent.eq_of_records (Run.consistent steps') same
    rw [answers steps ready, answers steps' ready']
    exact congrArg (fun e : Entries MachineType => Reply.returned (.found (e.byMac? m))) entries'

/-- Of a wide range and a narrow one within it, the first name counts, whichever came last. -/
theorem first_name_classifies :
    let wide : MachineType := ⟨⟨"vendor", "a"⟩, "", "", [.ofOctets [0x20] 4], .null⟩
    let narrow : MachineType := ⟨⟨"vendor", "b"⟩, "", "", [.ofOctets [0x21, 0x80] 16], .null⟩
    let mac : Mac := ⟨Mac.buffer [0x21, 0x80, 0x23, 0x24, 0x25, 0x16], 6⟩
    let run (updates : List (Step MachineType)) := .setup (.atOnce (.ok [])) :: updates
    let steps := run [.set wide, .set narrow]
    let steps' := run [.set narrow, .set wide, .delete narrow.name, .set narrow]
    let reply (steps : List (Step MachineType)) :=
      ((of steps).session.step steps.length (.ask (.byMac mac))).2.1
    (∃ t : MachineType, reply steps = .returned (.found (some t)) ∧ t.Covers mac ∧
      t.name.NotAfter wide.name) ∧ reply steps' = reply steps := by
  intro wide narrow mac run steps steps' reply
  have empty : (of (run [])).session.index.isReady = true := by decide +kernel
  have ready : (of steps).session.index.isReady = true := by decide +kernel
  have ready' : (of steps').session.index.isReady = true := by decide +kernel
  have held := getElem?_append_of_ready empty [.set wide, .set narrow]
  have held' :=
    getElem?_append_of_ready empty [.set narrow, .set wide, .delete narrow.name, .set narrow]
  have indexed : (of steps).session.index.entries.records[wide.name]? = some wide :=
    held wide.name
  have covered : wide.Covers mac := MachineType.covers_iff.2 (by decide +kernel)
  obtain ⟨_, _, answers, alike⟩ := classifies steps
  refine ⟨?_, ?_⟩
  · obtain ⟨found, answer, classified⟩ := answers ready mac
    cases found with
    | none => cases classified wide.name wide indexed covered
    | some t =>
      obtain ⟨_, covered', least⟩ := classified
      exact ⟨t, answer, covered', least wide.name wide indexed covered⟩
  · refine (alike steps' ?_ ready ready' mac).symm
    intro name
    refine (held name).trans (Eq.trans ?_ (held' name).symm)
    by_cases first : wide.name = name <;> by_cases second : narrow.name = name <;>
      simp [Step.lastWrite?, Step.write?, Indexed.name, first, second]

end Run

end HardwareIndex
