import HardwareIndex.Proofs.Cluster.Mirroring

/-!
# Populating an index

An index is populated in two ways. A setup converts all that is listed and inserts
the valid records in one go; a controller receives one object after the other, and
takes an invalid one out. From a new index both leave the same entries, owners of
shared keys included, if the objects have names of their own: then no object
replaces another, and what an invalid one takes out was never there.

A setup also writes the status of each invalid object. What becomes of that reaches
neither the index nor what is measured of it.
-/

namespace HardwareIndex

open Std

/-! ## Listings -/

namespace Listing

variable {S R : Type} [Convertible S R]

theorem ofObjects_cons (o : Object S) (objects : List (Object S)) :
    (ofObjects (o :: objects) : Listing R) = o.toRecord :: ofObjects objects := rfl

omit [Convertible S R] in
@[simp] theorem valid_cons_ok (r : R) (l : Listing R) : valid (.ok r :: l) = r :: l.valid := rfl

@[simp] theorem valid_cons_error (e : ValidationError) (l : Listing R) :
    valid (.error e :: l) = l.valid := rfl

@[simp] theorem invalid_cons_ok (r : R) (l : Listing R) : invalid (.ok r :: l) = l.invalid := rfl

@[simp] theorem invalid_cons_error (e : ValidationError) (l : Listing R) :
    invalid (.error e :: l) = e :: l.invalid := rfl

/-- The valid and the invalid objects are all there are. -/
theorem length_valid_add_length_invalid (l : Listing R) :
    l.valid.length + l.invalid.length = l.length := by
  induction l with
  | nil => rfl
  | cons o rest ih => cases o <;> simp <;> omega

/-- The valid objects are among all, in the same order. -/
theorem names_valid_sublist [LawfulConvertible S] (objects : List (Object S)) :
    ((ofObjects objects : Listing R).valid.map Indexed.name).Sublist (objects.map Object.name) := by
  induction objects with
  | nil => exact .slnil
  | cons o rest ih =>
    rw [ofObjects_cons]
    cases converted : o.toRecord with
    | ok r =>
      rw [valid_cons_ok, List.map_cons, Object.name_of_toRecord converted]
      exact ih.cons_cons _
    | error e =>
      rw [valid_cons_error]
      exact ih.cons _

end Listing

/-! ## Both ways of inserting -/

namespace Index

variable {S R : Type} [Convertible S R]

/-- The index after objects were received one after the other. -/
def receiveAll (index : Index R) (objects : List (Object S)) : Index R :=
  objects.foldl (fun index o => (index.receive o.toRecord).1) index

/-- Receiving objects that are not indexed yet, each with a name of its own, inserts the valid
    ones. -/
theorem entries_receiveAll [LawfulConvertible S] (index : Index R) (objects : List (Object S))
    (distinct : (objects.map Object.name).Nodup)
    (absent : ∀ o ∈ objects, index.entries.records[o.name]? = none) :
    (index.receiveAll objects).entries =
      (index.entries.insertAll (Listing.ofObjects objects).valid).1 := by
  induction objects generalizing index with
  | nil => rfl
  | cons o rest ih =>
    obtain ⟨apart, distinct⟩ := List.nodup_cons.1 distinct
    -- What is received leaves the names of the others as free as they were.
    have absent' : ∀ o' ∈ rest, (index.receive o.toRecord).1.entries.records[o'.name]? = none := by
      intro o' among
      have other : o'.name ≠ o.name := fun same => apart (same ▸ List.mem_map_of_mem among)
      rw [index.getElem?_receive o'.name (fun _ valid => Object.name_of_toRecord valid)
        (fun _ invalid => Object.object_of_toRecord invalid), if_neg other]
      exact absent o' (List.mem_cons_of_mem _ among)
    refine (ih (index.receive o.toRecord).1 distinct absent').trans ?_
    rw [Listing.ofObjects_cons]
    cases converted : o.toRecord with
    | ok r =>
      rw [Listing.valid_cons_ok, Entries.insertAll_cons]
      rfl
    | error e =>
      have free : index.entries.records[e.object]? = none := by
        rw [Object.object_of_toRecord converted]
        exact absent o List.mem_cons_self
      rw [Listing.valid_cons_error, receive, delete, Entries.remove_of_absent free]

end Index

namespace Entries

variable {R : Type} [Indexed R]

/-- Records with names of their own that are not there yet are so many more. -/
theorem size_insertAll (e : Entries R) (records : List R)
    (distinct : (records.map Indexed.name).Nodup)
    (absent : ∀ r ∈ records, e.records[Indexed.name r]? = none) :
    (e.insertAll records).1.size = e.size + records.length := by
  induction records generalizing e with
  | nil => rfl
  | cons r rest ih =>
    obtain ⟨apart, distinct⟩ := List.nodup_cons.1 distinct
    have free : Indexed.name r ∉ e.records := by
      simpa using absent r List.mem_cons_self
    have grown : (e.insert r).1.size = e.size + 1 := by
      simp [size, ExtTreeMap.size_insert, ExtTreeMap.size_erase, free]
    have absent' : ∀ r' ∈ rest, (e.insert r).1.records[Indexed.name r']? = none := by
      intro r' among
      have other : Indexed.name r ≠ Indexed.name r' := fun same =>
        apart (same ▸ List.mem_map_of_mem among)
      simpa [ExtTreeMap.getElem?_insert, ExtTreeMap.getElem?_erase, other] using
        absent r' (List.mem_cons_of_mem _ among)
    rw [insertAll_cons, ih _ distinct absent', grown, List.length_cons]
    omega

end Entries

/-! ## Writing statuses -/

namespace Server

/-- The request that a patch sends, if it can be sent. -/
def patchRequest? (name : ObjectName) (path : String) (p : Patch) : Option ClusterRequest :=
  if name.name.isEmpty then none else (arrivingPath? path).map fun path => ⟨some p, path⟩

/-- A patch is written down, and changes nothing else. -/
theorem patch_fst (s : Server) (name : ObjectName) (path : String) (p : Patch) :
    (s.patch name path p).1 = { s with log := s.log ++ (patchRequest? name path p).toList } := by
  unfold patch patchRequest? send
  split
  · simp
  · cases arrivingPath? path <;> simp [record]

/-- What was asked before does not change an answer. -/
theorem patch_snd_log (s : Server) (log : List ClusterRequest) (name : ObjectName) (path : String)
    (p : Patch) : ({ s with log }.patch name path p).2 = (s.patch name path p).2 := by
  unfold patch send
  split
  · rfl
  · cases arrivingPath? path <;> rfl

end Server

/-- A status that is to be written to the object of a name. -/
structure StatusWrite where
  name : ObjectName
  status : IndexStatus

namespace StatusWrite

/-- The status of an object, to be written to it. -/
def ofObject {S R : Type} [Convertible S R] (o : Object S) : StatusWrite :=
  ⟨o.name, IndexStatus.ofRecord o.toRecord⟩

/-- The status of an object that was skipped. -/
def ofError (e : ValidationError) : StatusWrite := ⟨e.object, .rejected e⟩

@[simp] theorem name_ofError (e : ValidationError) : (ofError e).name = e.object := rfl

/-- The request that asks for a status to be written, if it can be sent. -/
def request? (kind : RecordKind) (w : StatusWrite) : Option ClusterRequest :=
  Server.patchRequest? w.name (statusPath kind w.name) w.status.patch

/-- The objects whose statuses say that they are invalid are the ones that were skipped. -/
theorem invalid_ofObjects {S R : Type} [Convertible S R] (objects : List (Object S)) :
    (Listing.ofObjects objects : Listing R).invalid.map ofError =
      (objects.map ofObject).filter (·.status.state = .invalid) := by
  induction objects with
  | nil => rfl
  | cons o rest ih =>
    rw [Listing.ofObjects_cons, List.map_cons]
    cases converted : o.toRecord with
    | ok r =>
      rw [Listing.invalid_cons_ok, ih, List.filter_cons_of_neg]
      simp [ofObject, converted, IndexStatus.ofRecord, IndexStatus.indexed]
    | error e =>
      rw [Listing.invalid_cons_error, List.map_cons, ih, List.filter_cons_of_pos]
      · simp [ofObject, ofError, converted, IndexStatus.ofRecord,
          Object.object_of_toRecord converted]
      · simp [ofObject, converted, IndexStatus.ofRecord, IndexStatus.rejected]

end StatusWrite

namespace Site

variable {R : Type} [Indexed R] [PerKind.Field R]

/-- Whether a status could not be written. -/
def fails (s : Site) (R : Type) [Indexed R] [PerKind.Field R] (w : StatusWrite) : Bool :=
  !(s.patchStatus R w.name w.status).2

/-- What was asked before does not make a write fail. -/
theorem fails_of_log {s s' : Site} {log : List ClusterRequest}
    (asked : s'.server = { s.server with log }) (w : StatusWrite) : s'.fails R w = s.fails R w := by
  unfold fails patchStatus patch
  rw [asked]
  simp only [Server.patch_snd_log]

/-- What the marking of an object that was skipped changes, and what it leaves as it was. -/
structure Marked (s : Site) (R : Type) [Indexed R] [PerKind.Field R] (writes : List StatusWrite)
    (left : Site) : Prop where
  indices : left.indices = s.indices
  records : left.metrics.get? (.records (Indexed.kind R)) =
    s.metrics.get? (.records (Indexed.kind R))
  /-- Every write is asked for that can be sent. -/
  server : left.server = { s.server with
    log := s.server.log ++ writes.filterMap (StatusWrite.request? (Indexed.kind R)) }
  /-- Every write that fails is warned of. -/
  warnings : left.warnings = s.warnings ++
    (writes.filter (s.fails R)).map fun w => .markingFailed (Indexed.kind R) w.name

theorem Marked.append {s middle left : Site} {writes more : List StatusWrite}
    (first : s.Marked R writes middle) (later : middle.Marked R more left) :
    s.Marked R (writes ++ more) left := by
  have fails : middle.fails R = s.fails R := funext (fails_of_log first.server)
  refine ⟨later.indices.trans first.indices, later.records.trans first.records, ?_, ?_⟩
  · rw [later.server, first.server, List.filterMap_append, List.append_assoc]
  · rw [later.warnings, first.warnings, fails, List.filter_append, List.map_append,
      List.append_assoc]

theorem marked_markInvalid (s : Site) (e : ValidationError) :
    s.Marked R [StatusWrite.ofError e] (s.markInvalid R e) := by
  let written := (s.countInvalid (Indexed.kind R)).patchStatus R e.object (.rejected e)
  have records : written.1.metrics.get? (.records (Indexed.kind R)) =
      s.metrics.get? (.records (Indexed.kind R)) :=
    Metrics.get?_set_of_ne _ _ nofun
  have unwarned : written.1.warnings = s.warnings := rfl
  have server : written.1.server = { s.server with
      log := s.server.log ++
        [StatusWrite.ofError e].filterMap (StatusWrite.request? (Indexed.kind R)) } := by
    refine (Server.patch_fst ..).trans ?_
    change { s.server with log := s.server.log ++
      (StatusWrite.request? (Indexed.kind R) (.ofError e)).toList } = _
    cases requested : StatusWrite.request? (Indexed.kind R) (.ofError e) <;> simp [requested]
  have fails : s.fails R (.ofError e) = !written.2 := rfl
  have left : s.markInvalid R e =
      if written.2 then written.1
      else { written.1 with
        warnings := written.1.warnings ++ [.markingFailed (Indexed.kind R) e.object] } := rfl
  cases succeeded : written.2 with
  | true =>
    rw [left, succeeded, if_pos rfl]
    exact ⟨rfl, records, server, by simp [fails, succeeded, unwarned]⟩
  | false =>
    rw [left, succeeded, if_neg nofun]
    exact ⟨rfl, records, server, by simp [fails, succeeded, unwarned]⟩

/-- Objects that were skipped are marked one after the other. -/
theorem marked_foldl_markInvalid (s : Site) (errors : List ValidationError) :
    s.Marked R (errors.map StatusWrite.ofError) (errors.foldl (markInvalid R) s) := by
  induction errors generalizing s with
  | nil => exact ⟨rfl, rfl, by simp, by simp⟩
  | cons e rest ih => exact (s.marked_markInvalid e).append (ih (s.markInvalid R e))

/-! ## Setups -/

/-- A site with a new index populated from a listing, before any status is written. -/
def populated (s : Site) (l : Listing R) : Site :=
  let (index, report, warnings) := (Index.new : Index R).populate l
  { s.withIndex index warnings with
    metrics := s.metrics.set (.records (Indexed.kind R)) report.indexed }

end Site

namespace Site

variable {S R : Type} [Convertible S R] [PerKind.Field R]

/-- A setup populates a new index and marks the objects that were skipped. -/
theorem setupFrom_of_new (s : Site) (fresh : s.indices.get R = .new)
    (objects : List (Object S)) :
    let l : Listing R := Listing.ofObjects objects
    s.setupFrom R (.ok (objects.map Object.observe)) =
      (l.invalid.foldl (markInvalid R) (s.populated l),
        .ok ⟨l.valid.length, l.invalid, false⟩) := by
  intro l
  have listed : (objects.map Object.observe).map Observed.record = l := by
    rw [List.map_map]
    rfl
  unfold setupFrom
  rw [fresh, Except.map, listed]
  rfl

/-- A setup of a new index leaves the valid records, and has that number measured. -/
theorem index_setupFrom [PerKind.LawfulField R] (s : Site) (fresh : s.indices.get R = .new)
    (objects : List (Object S)) :
    let l : Listing R := Listing.ofObjects objects
    let left := (s.setupFrom R (.ok (objects.map Object.observe))).1
    left.indices.get R = ⟨(Entries.empty.insertAll l.valid).1, .ready⟩ ∧
      left.metrics.get? (.records (Indexed.kind R)) = some l.valid.length := by
  intro l left
  have marked := (s.populated l).marked_foldl_markInvalid (R := R) l.invalid
  simp only [left]
  rw [setupFrom_of_new s fresh]
  refine ⟨?_, marked.records.trans (Metrics.get?_set_self ..)⟩
  exact (congrArg (·.get R) marked.indices).trans (PerKind.LawfulField.get_modify ..)

/-- A setup of a new index writes the statuses of the invalid objects. -/
theorem writes_setupFrom (s : Site) (fresh : s.indices.get R = .new) (objects : List (Object S)) :
    let l : Listing R := Listing.ofObjects objects
    let writes := (objects.map StatusWrite.ofObject).filter (·.status.state = .invalid)
    let left := (s.setupFrom R (.ok (objects.map Object.observe))).1
    left.server = { s.server with
        log := s.server.log ++ writes.filterMap (StatusWrite.request? (Indexed.kind R)) } ∧
      left.warnings = s.warnings ++ ((Index.new : Index R).populate l).2.2 ++
        (writes.filter (s.fails R)).map fun w => .markingFailed (Indexed.kind R) w.name := by
  intro l writes left
  have marked := (s.populated l).marked_foldl_markInvalid (R := R) l.invalid
  rw [StatusWrite.invalid_ofObjects] at marked
  simp only [left]
  rw [setupFrom_of_new s fresh]
  exact ⟨marked.server, marked.warnings⟩

/-- A controller that applies objects passes each of them to the index. -/
theorem indices_afterEvents_apply [PerKind.LawfulField R] (s : Site)
    (objects : List (Object S)) :
    (s.afterEvents (objects.map .apply)).indices.get R = (s.indices.get R).receiveAll objects := by
  induction objects generalizing s with
  | nil => rfl
  | cons o rest ih =>
    refine (ih (s.apply o.observe).1).trans ?_
    rw [indices_apply]
    rfl

end Site

/-- The objects of one kind, each with a name of its own, are listed to set up a new index at one
    site, and applied one after the other to a new index at another one, where the cluster may
    answer differently. The setup leaves the same records and owners of keys as the applications,
    and measures the number of records there are. It asks for the status of exactly those objects
    to be written that are invalid according to the status that applying them tells, at whatever
    site: for each once, in the order of the listing, with that status; a write that fails is
    warned of.
    What it reports accounts for all objects. A setup at the other site leaves the same index,
    report and number of records, whatever becomes of its writes. The setup of an index from the
    cluster is one from what the cluster lists. -/
theorem Site.setup_agrees_with_applications (kind : RecordKind) (objects : List (Object kind.Spec))
    (distinct : (objects.map Object.name).Nodup) (s t : Site)
    (fresh : s.indices.get kind.Record = .new) (fresh' : t.indices.get kind.Record = .new) :
    let listing : Listing kind.Record := Listing.ofObjects objects
    let setup (site : Site) := site.setupFrom kind.Record (.ok (objects.map Object.observe))
    let index (site : Site) := site.indices.get kind.Record
    let measured (site : Site) := site.metrics.get? (.records kind)
    let left := (setup s).1
    let writes := (objects.map StatusWrite.ofObject).filter (·.status.state = .invalid)
    ((index left).entries = (index (t.afterEvents (objects.map .apply))).entries ∧
      (index left).phase = .ready) ∧
    measured left = some (index left).entries.size ∧
    (∀ (u : Site) (o : Object kind.Spec),
      (u.apply o.observe).2 = (StatusWrite.ofObject o).status) ∧
    left.server = { s.server with
      log := s.server.log ++ writes.filterMap (StatusWrite.request? kind) } ∧
    left.warnings = s.warnings ++ ((Index.new : Index kind.Record).populate listing).2.2 ++
      (writes.filter (s.fails kind.Record)).map (fun w => .markingFailed kind w.name) ∧
    (∃ report, (setup s).2 = .ok report ∧
      report.indexed + report.invalid.length = objects.length) ∧
    (index (setup t).1 = index left ∧ (setup t).2 = (setup s).2 ∧
      measured (setup t).1 = measured left) ∧
    ∀ space : Option String,
      let store : ClusterStore kind.Record := ⟨space, Observed.readers.get kind.Record⟩
      s.setupIndex kind.Record space =
        { s with server := (store.list s.server).1 }.setupFrom kind.Record
          (store.list s.server).2 := by
  intro listing setup index measured left writes
  obtain ⟨indexS, measuredS⟩ := Site.index_setupFrom s fresh objects
  obtain ⟨indexT, measuredT⟩ := Site.index_setupFrom t fresh' objects
  obtain ⟨server, warnings⟩ := Site.writes_setupFrom s fresh objects
  rw [RecordKind.kind_record] at measuredS measuredT server warnings
  have applied : (index (t.afterEvents (objects.map .apply))).entries =
      (Entries.empty.insertAll listing.valid).1 := by
    simp only [index]
    rw [Site.indices_afterEvents_apply, fresh']
    exact Index.entries_receiveAll Index.new objects distinct fun o _ => by
      simp [Index.new, Entries.empty]
  have size : (Entries.empty.insertAll listing.valid).1.size = listing.valid.length := by
    have names := (Listing.names_valid_sublist objects).nodup distinct
    refine (Entries.size_insertAll Entries.empty listing.valid names fun r _ => ?_).trans ?_
    · simp [Entries.empty]
    · simp [Entries.size, Entries.empty]
  refine ⟨⟨?_, ?_⟩, ?_, fun u o => u.status_apply o.observe, server, warnings, ?_, ⟨?_, ?_, ?_⟩, ?_⟩
  · rw [applied]
    exact congrArg Index.entries indexS
  · exact congrArg Index.phase indexS
  · refine measuredS.trans (congrArg some ?_)
    exact size.symm.trans (congrArg (·.entries.size) indexS).symm
  · refine ⟨_, congrArg Prod.snd (Site.setupFrom_of_new s fresh objects), ?_⟩
    refine (Listing.length_valid_add_length_invalid _).trans ?_
    exact List.length_map _
  · exact indexT.trans indexS.symm
  · simp only [setup]
    rw [Site.setupFrom_of_new s fresh, Site.setupFrom_of_new t fresh']
  · exact measuredT.trans measuredS.symm
  · intro space store
    rw [Site.setupIndex, fresh]
    rfl

/-- Two machines share an address and one between them is invalid; its status cannot be written at
    one of the sites. At both the address belongs to the machine that is listed last. -/
theorem Site.shared_address_populated :
    let object (name mac : String) : Object RecordKind.machine.Spec :=
      ⟨⟨some name, some "lab", none, none, none⟩, ⟨none, [⟨none, mac, none⟩], none⟩, none⟩
    let objects := [object "node-1" "00:de:11:64:00:01", object "node-2" "00:de:11",
      object "node-3" "00-DE-11-64-00-01"]
    let site (codes : List (String × Nat)) : Site :=
      ⟨{ Server.empty with codes }, ⟨.new, .new, .new⟩, .empty, []⟩
    let s := site [("PATCH " ++ statusPath .machine ⟨"lab", "node-2"⟩, 500)]
    let t := site []
    let index (site : Site) := site.indices.get RecordKind.machine.Record
    let left := (s.setupFrom RecordKind.machine.Record (.ok (objects.map Object.observe))).1
    let applied := t.afterEvents (objects.map .apply)
    (objects.map Object.name).Nodup ∧ index s = .new ∧ index t = .new ∧
      (index left).entries = (index applied).entries ∧
      (index applied).entries.macOwners.values = [⟨"lab", "node-3"⟩] ∧
      left.warnings.length = 3 := by
  intro object objects site s t index left applied
  have distinct : (objects.map Object.name).Nodup := by decide
  have agree := setup_agrees_with_applications .machine objects distinct s t rfl rfl
  exact ⟨distinct, rfl, rfl, agree.1.1, by decide +kernel, by decide +kernel⟩

end HardwareIndex
