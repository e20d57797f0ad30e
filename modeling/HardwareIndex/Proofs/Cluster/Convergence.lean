import HardwareIndex.Proofs.Cluster.Population
import HardwareIndex.Proofs.Json.MergePatch
import HardwareIndex.Proofs.Json.Records

/-!
# Status writes come to an end

A status is written as a merge patch that leaves out an empty message, and the
next event of the object carries what the patch made of the status there was. Had
the outcome of a conversion an empty message, an old one would survive the patch,
the status would still differ, and it would be written again after every event.
But each outcome says something (`IndexStatus.message_ofRecord`), so that one
write is enough: the status that is read after it is the one that was written,
and an object that carries its status is left alone.
-/

namespace HardwareIndex

open Json

/-! ## Outcomes say something -/

theorem RecordKind.okMessage_ne_empty (kind : RecordKind) : kind.okMessage ≠ "" := by
  cases kind <;> decide

theorem Fault.message_ne_empty (fault : Fault) : fault.message ≠ "" := by
  unfold Fault.message
  -- Each wording begins with words of its own.
  cases fault <;> dsimp only <;> simp [String.append_eq_empty_iff, toString]

namespace IndexStatus

/-- No outcome of a conversion has an empty message. -/
theorem message_ofRecord {R : Type} [Indexed R] (outcome : Except ValidationError R) :
    (ofRecord outcome).message ≠ "" := by
  cases outcome with
  | ok => exact RecordKind.okMessage_ne_empty _
  | error e => exact e.fault.message_ne_empty

/-- A status that says something is read from whatever it is merged into. -/
theorem ofJson?_mergePatch (old : Json) {s : IndexStatus} (said : s.message ≠ "") :
    ofJson? (old.mergePatch s.toJson) = some s := by
  have written : s.toJson = .obj [("state", .str s.state.text), ("message", .str s.message)] := by
    simp [toJson, ofPresent, said, IndexedState.toJson]
  have distinct : ([("state", Json.str s.state.text), ("message", .str s.message)].map
      Prod.fst).Nodup := by
    simp
  have fields : fields? ["state", "message"] (old.mergePatch s.toJson) =
      some [some (.str s.state.text), some (.str s.message)] := by
    rw [written, mergePatch, fields?, List.map_cons, List.map_cons, List.map_nil,
      member?_mergeMembers distinct, member?_mergeMembers distinct]
    rfl
  have state : IndexedState.ofJson? (.str s.state.text) = some s.state :=
    IndexedState.ofText?_text s.state
  simp [ofJson?, fields, state]

-- Without a message of its own a status would get the one that was there.
example : ofJson? ((toJson ⟨.invalid, "mac: too short"⟩).mergePatch (toJson ⟨.ok, ""⟩)) =
    some ⟨.ok, "mac: too short"⟩ := by
  decide

/-- What a status is merged into is an object. -/
theorem mergePatch_toJson_ne_null (old : Json) (s : IndexStatus) :
    old.mergePatch s.toJson ≠ .null := by
  simp [toJson, ofPresent, mergePatch]

end IndexStatus

namespace Object

variable {S R : Type} [Convertible S R] {o : Object S} {stored : Json}

/-- An object is read field by field. -/
theorem ofJson?_obj_iff {members : List (String × Json)} : ofJson? (.obj members) = some o ↔
    required? Metadata.ofJson? (member? members "metadata") = some o.metadata ∧
    required? Convertible.specOfJson? (member? members "spec") = some o.spec ∧
    optional? IndexStatus.ofJson? (member? members "status") = some o.status := by
  simp only [ofJson?, get?, Option.bind_eq_bind, Option.bind_eq_some_iff]
  constructor
  · rintro ⟨metadata, readMetadata, spec, readSpec, status, readStatus, object⟩
    obtain rfl := Option.some.inj object
    exact ⟨readMetadata, readSpec, readStatus⟩
  · rintro ⟨readMetadata, readSpec, readStatus⟩
    exact ⟨_, readMetadata, _, readSpec, _, readStatus, rfl⟩

/-- A stored object with a status that says something merged into it is read as the object with
    this status. -/
theorem ofJson?_mergePatch (found : ofJson? stored = some o) {status : IndexStatus}
    (said : status.message ≠ "") :
    ofJson? (stored.mergePatch status.patch.body) = some { o with status := some status } := by
  cases stored with
  | obj members =>
    let old := (member? members "status").getD .null
    have member (name : String) : member? (mergeMembers members [("status", status.toJson)]) name =
        if name = "status" then some (old.mergePatch status.toJson) else member? members name :=
      member?_mergeMembers_single rfl members "status" name
    obtain ⟨metadata, spec, _⟩ := ofJson?_obj_iff.1 found
    have told : optional? IndexStatus.ofJson? (some (old.mergePatch status.toJson)) =
        some (some status) := by
      rw [optional?_some (IndexStatus.mergePatch_toJson_ne_null old status),
        IndexStatus.ofJson?_mergePatch old said, Option.map_some]
    rw [IndexStatus.patch, mergePatch, Json.members, ofJson?_obj_iff]
    refine ⟨?_, ?_, ?_⟩
    · rw [member, if_neg (by decide), metadata]
    · rw [member, if_neg (by decide), spec]
    · rw [member, if_pos rfl, told]
  | _ => cases found

/-- The status of an object is read from its member. -/
theorem status_of_ofJson? (found : ofJson? stored = some o) {status : IndexStatus}
    (carried : o.status = some status) :
    (stored.get? "status").bind IndexStatus.ofJson? = some status := by
  cases stored with
  | obj members =>
    obtain ⟨_, _, read⟩ := ofJson?_obj_iff.1 found
    rw [carried] at read
    exact bind_of_optional? read
  | _ => cases found

end Object

/-! ## One event -/

namespace Site

variable {R : Type} [Indexed R] [PerKind.Field R]

theorem server_apply (s : Site) (o : Observed R) : (s.apply o).1.server = s.server := by
  unfold apply
  cases o.record <;> rfl

/-- The requests that are sent when an object is reconciled. -/
def requests (s : Site) (o : Observed R) : List ClusterRequest :=
  (s.reconcile o).1.server.log.drop s.server.log.length

/-- An object that is to be in the index and has the status that it ought to have is left alone. -/
theorem reconcile_of_status (s : Site) {o : Observed R}
    (held : Finalizer.stage (Indexed.kind R) o.metadata = .apply)
    (carried : o.status = some (.ofRecord o.record)) :
    s.reconcile o = ((s.apply o).1, .resync) := by
  simp only [reconcile, held, status_apply]
  exact if_pos carried

/-- Where the status is another one, its write is asked for, if it can be sent. -/
theorem server_reconcile_of_status_ne (s : Site) {o : Observed R}
    (held : Finalizer.stage (Indexed.kind R) o.metadata = .apply)
    (differs : o.status ≠ some (.ofRecord o.record)) :
    (s.reconcile o).1.server = { s.server with log := s.server.log ++
      (StatusWrite.request? (Indexed.kind R) ⟨o.name, .ofRecord o.record⟩).toList } := by
  have written : s.reconcile o =
      afterPatch .resync ((s.apply o).1.patchStatus R o.name (.ofRecord o.record)) := by
    simp only [reconcile, held, status_apply]
    exact if_neg differs
  rw [written]
  exact (Server.patch_fst ..).trans (by rw [server_apply]; rfl)

theorem requests_of_status (s : Site) {o : Observed R}
    (held : Finalizer.stage (Indexed.kind R) o.metadata = .apply)
    (carried : o.status = some (.ofRecord o.record)) : s.requests o = [] := by
  rw [requests, reconcile_of_status s held carried, server_apply, List.drop_length]

theorem requests_of_status_ne (s : Site) {o : Observed R}
    (held : Finalizer.stage (Indexed.kind R) o.metadata = .apply)
    (differs : o.status ≠ some (.ofRecord o.record)) :
    s.requests o = (StatusWrite.request? (Indexed.kind R) ⟨o.name, .ofRecord o.record⟩).toList := by
  rw [requests, server_reconcile_of_status_ne s held differs, List.drop_left]

end Site

/-! ## Rounds -/

theorem Observed.readers_get (kind : RecordKind) :
    readers.get kind.Record = reader kind.Spec := by
  cases kind <;> rfl

/-- A stored object after a request: a merge patch is merged into it. -/
def ClusterRequest.mergedInto (stored : Json) (r : ClusterRequest) : Json :=
  match r.patch with
  | some ⟨.merge, body⟩ => stored.mergePatch body
  | _ => stored

theorem StatusWrite.mergedInto_of_request? {kind : RecordKind} {w : StatusWrite}
    {request : ClusterRequest} (asked : w.request? kind = some request) (stored : Json) :
    request.mergedInto stored = stored.mergePatch w.status.patch.body := by
  unfold request? Server.patchRequest? at asked
  split at asked
  · cases asked
  · obtain ⟨_, _, rfl⟩ := Option.map_eq_some_iff.1 asked
    rfl

/-- A round that a stored object goes through: it is reconciled at a site, and the cluster applies
    what it is asked for or does not. -/
structure Round where
  site : Site
  applies : Bool

namespace Round

variable (kind : RecordKind) {o : Object kind.Spec} {stored : Json}

/-- What the cluster is asked for in a round. -/
def asked (stored : Json) (r : Round) : List ClusterRequest :=
  match Observed.readers.get kind.Record stored with
  | some o => r.site.requests o
  | none => []

/-- What the cluster applies in a round. -/
def applied (stored : Json) (r : Round) : List ClusterRequest :=
  if r.applies then r.asked kind stored else []

/-- A stored object after a round. -/
def after (stored : Json) (r : Round) : Json :=
  (r.applied kind stored).foldl ClusterRequest.mergedInto stored

/-- What the cluster applies in rounds, one after the other. -/
def appliedIn (stored : Json) : List Round → List ClusterRequest
  | [] => []
  | r :: rest => r.applied kind stored ++ appliedIn (r.after kind stored) rest

/-- A stored object after rounds, one after the other. -/
def afterAll (stored : Json) (rounds : List Round) : Json :=
  rounds.foldl (after kind) stored

variable {kind}

theorem asked_eq (found : Object.ofJson? stored = some o) (r : Round) :
    r.asked kind stored = r.site.requests o.observe := by
  rw [asked, Observed.readers_get, Observed.reader, found]
  rfl

/-- Nothing more is asked for an object that carries its status. -/
theorem asked_of_status (found : Object.ofJson? stored = some o)
    (held : Finalizer.stage kind o.metadata = .apply)
    (carried : o.status = some (.ofRecord o.toRecord)) (r : Round) : r.asked kind stored = [] := by
  rw [asked_eq found]
  exact r.site.requests_of_status (by rwa [RecordKind.kind_record]) carried

/-- An object of which nothing is asked in any round stays as it is. -/
theorem rounds_of_asked_nil (rest : ∀ r : Round, r.asked kind stored = []) (rounds : List Round) :
    appliedIn kind stored rounds = [] ∧ afterAll kind stored rounds = stored := by
  have unapplied (r : Round) : r.applied kind stored = [] := by simp [applied, rest r]
  have same (r : Round) : r.after kind stored = stored := by rw [after, unapplied, List.foldl_nil]
  induction rounds with
  | nil => exact ⟨rfl, rfl⟩
  | cons r later ih =>
    rw [appliedIn, afterAll, List.foldl_cons, unapplied, same, List.nil_append]
    exact ih

/-- In one round of an object that carries another status, either nothing is applied or the status
    it ought to have is written. -/
theorem round_of_status_ne (found : Object.ofJson? stored = some o)
    (held : Finalizer.stage kind o.metadata = .apply)
    (differs : o.status ≠ some (.ofRecord o.toRecord)) (r : Round) :
    (r.applied kind stored = [] ∧ r.after kind stored = stored) ∨
      ∃ request, (StatusWrite.ofObject o).request? kind = some request ∧
        r.applied kind stored = [request] ∧
        r.after kind stored =
          stored.mergePatch (IndexStatus.ofRecord o.toRecord).patch.body := by
  have asks : r.asked kind stored = ((StatusWrite.ofObject o).request? kind).toList := by
    rw [asked_eq found, Site.requests_of_status_ne _ (by rwa [RecordKind.kind_record]) differs,
      RecordKind.kind_record]
    rfl
  by_cases applies : r.applies = true
  · cases sent : (StatusWrite.ofObject o).request? kind with
    | none =>
      have nothing : r.applied kind stored = [] := by simp [applied, asks, sent]
      exact .inl ⟨nothing, by rw [after, nothing, List.foldl_nil]⟩
    | some request =>
      have one : r.applied kind stored = [request] := by simp [applied, applies, asks, sent]
      refine .inr ⟨request, rfl, one, ?_⟩
      rw [after, one, List.foldl_cons, List.foldl_nil, StatusWrite.mergedInto_of_request? sent]
      rfl
  · have nothing : r.applied kind stored = [] := by simp [applied, applies]
    exact .inl ⟨nothing, by rw [after, nothing, List.foldl_nil]⟩

/-- However many rounds an object goes through, at most one write is applied, and nothing is asked
    for after it. -/
theorem rounds_of_status_ne (found : Object.ofJson? stored = some o)
    (held : Finalizer.stage kind o.metadata = .apply)
    (differs : o.status ≠ some (.ofRecord o.toRecord)) (rounds : List Round) :
    let merged := stored.mergePatch (IndexStatus.ofRecord o.toRecord).patch.body
    (appliedIn kind stored rounds = [] ∧ afterAll kind stored rounds = stored) ∨
      ∃ request, (StatusWrite.ofObject o).request? kind = some request ∧
        appliedIn kind stored rounds = [request] ∧ afterAll kind stored rounds = merged := by
  intro merged
  have reread := Object.ofJson?_mergePatch found (IndexStatus.message_ofRecord o.toRecord)
  have rest : ∀ r : Round, r.asked kind merged = [] := asked_of_status reread held rfl
  induction rounds with
  | nil => exact .inl ⟨rfl, rfl⟩
  | cons r later ih =>
    rw [appliedIn, afterAll, List.foldl_cons]
    rcases round_of_status_ne found held differs r with ⟨none, same⟩ | ⟨request, sent, one, next⟩
    · rw [none, same, List.nil_append]
      exact ih
    · obtain ⟨nothing, same⟩ := rounds_of_asked_nil rest later
      rw [one, next]
      exact .inr ⟨request, sent, by rw [nothing, List.append_nil], same⟩

end Round

/-- A stored value is read as an object that is to be in the index, with any status or none. At any
    site the write of the status that applying it tells is asked for exactly if it carries another
    one, as far as that write can be sent, and nothing else is. What the write makes of the stored
    value is read as the object with this status, and the member there as the status itself. An
    object of the same name and specification that carries the status is set in the index and left
    alone, to be looked at again in due time. So however many rounds the object goes through, at
    whatever sites, at most one write is applied, and nothing is asked for after it. -/
theorem Site.status_written_once (kind : RecordKind) (stored : Json) (o : Object kind.Spec)
    (found : Object.ofJson? stored = some o)
    (held : Finalizer.stage kind o.metadata = .apply) :
    let status := IndexStatus.ofRecord o.toRecord
    let write := (StatusWrite.ofObject o).request? kind
    let merged := stored.mergePatch status.patch.body
    (∀ s : Site, (s.apply o.observe).2 = status ∧
      (s.reconcile o.observe).1.server = { s.server with
        log := s.server.log ++ if o.status = some status then [] else write.toList }) ∧
    (∀ request, write = some request → request.mergedInto stored = merged) ∧
    (Object.ofJson? merged = some { o with status := some status } ∧
      (merged.get? "status").bind IndexStatus.ofJson? = some status) ∧
    (∀ (s : Site) (o' : Object kind.Spec), o'.name = o.name → o'.spec = o.spec →
      o'.status = some status → Finalizer.stage kind o'.metadata = .apply →
      s.reconcile o'.observe = ((s.apply o'.observe).1, .resync) ∧
        (s.apply o'.observe).1.server = s.server) ∧
    ∀ rounds : List Round,
      let applied := Round.appliedIn kind stored rounds
      let left := Round.afterAll kind stored rounds
      (applied = [] ∧ left = stored) ∨
        o.status ≠ some status ∧ (∃ request, write = some request ∧ applied = [request]) ∧
          left = merged ∧ ∀ r : Round, r.asked kind left = [] := by
  intro status write merged
  have atStage : Finalizer.stage (Indexed.kind kind.Record) o.metadata = .apply := by
    rwa [RecordKind.kind_record]
  have reread : Object.ofJson? merged = some { o with status := some status } :=
    Object.ofJson?_mergePatch found (IndexStatus.message_ofRecord o.toRecord)
  refine ⟨?_, ?_, ⟨reread, Object.status_of_ofJson? reread rfl⟩, ?_, ?_⟩
  · intro s
    refine ⟨s.status_apply o.observe, ?_⟩
    by_cases carried : o.status = some status
    · rw [s.reconcile_of_status atStage carried, server_apply, if_pos carried, List.append_nil]
    · rw [s.server_reconcile_of_status_ne atStage carried, if_neg carried, RecordKind.kind_record]
      rfl
  · intro request sent
    exact StatusWrite.mergedInto_of_request? sent stored
  · intro s o' sameName sameSpec carried held'
    have same : o'.toRecord = o.toRecord := by
      rw [Object.toRecord, sameName, sameSpec, Object.toRecord]
    refine ⟨s.reconcile_of_status (by rwa [RecordKind.kind_record]) ?_, s.server_apply _⟩
    exact carried.trans (congrArg (some ∘ IndexStatus.ofRecord) same.symm)
  · intro rounds
    by_cases carried : o.status = some status
    · exact .inl (Round.rounds_of_asked_nil (Round.asked_of_status found held carried) rounds)
    · have course := Round.rounds_of_status_ne found held carried rounds
      rcases course with nothing | ⟨request, sent, one, left⟩
      · exact .inl nothing
      · refine .inr ⟨carried, ⟨request, sent, one⟩, left, ?_⟩
        rw [left]
        exact Round.asked_of_status reread held rfl

/-- A machine with a malformed address carries a status from when it had another fault. Its first
    write is lost; after the second it carries the status for the address. -/
theorem Site.changed_fault_written :
    let metadata : Json := .obj [("name", .str "node-1"), ("namespace", .str "lab"),
      ("finalizers", .arr [.str "machindex.io/machine-finalizer"])]
    let spec : Json := .obj [("nics", .arr [.obj [("mac", .str "00:de")]])]
    let old : Json := .obj [("state", .str "Invalid"), ("message", .str "uuid: too short"),
      ("since", .int 3)]
    let stored : Json := .obj [("metadata", metadata), ("spec", spec), ("status", old)]
    let o : Object RecordKind.machine.Spec :=
      ⟨⟨some "node-1", some "lab", none, some ["machindex.io/machine-finalizer"], none⟩,
        ⟨none, [⟨none, "00:de", none⟩], none⟩, some ⟨.invalid, "uuid: too short"⟩⟩
    let status := IndexStatus.ofRecord o.toRecord
    let site : Site := ⟨Server.empty, ⟨.new, .new, .new⟩, .empty, []⟩
    let rounds : List Round := [⟨site, false⟩, ⟨site, true⟩, ⟨site, true⟩]
    Object.ofJson? stored = some o ∧ Finalizer.stage .machine o.metadata = .apply ∧
      o.status ≠ some status ∧
      (Round.appliedIn .machine stored rounds).length = 1 ∧
      Object.ofJson? (Round.afterAll .machine stored rounds) =
        some { o with status := some status } := by
  intro metadata spec old stored o status site rounds
  have found : Object.ofJson? stored = some o := rfl
  have held : Finalizer.stage .machine o.metadata = .apply := by decide
  obtain ⟨_, _, _, _, once⟩ := status_written_once .machine stored o found held
  rcases once rounds with ⟨none, _⟩ | ⟨differs, ⟨_, _, one⟩, left, _⟩
  · -- What is asked for in the second round is applied.
    have second : Round.applied .machine stored ⟨site, true⟩ = [] :=
      (List.append_eq_nil_iff.1 (List.append_eq_nil_iff.1 none).2).1
    have asked : (Round.applied .machine stored ⟨site, true⟩).length = 1 := by decide +kernel
    rw [second] at asked
    cases asked
  · refine ⟨found, held, differs, congrArg List.length one, ?_⟩
    rw [left]
    exact Object.ofJson?_mergePatch found (IndexStatus.message_ofRecord o.toRecord)

end HardwareIndex
