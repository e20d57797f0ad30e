import HardwareIndex.Proofs.Client.Served

/-!
# Keys of one request

A service leaves out the keys that it knows nothing of, and a client caches the
name it is told under every key of the request. So a key that resolves is always
answered with its own name, whereas one that does not may be answered, from the
cache, with the name of a key that was once given with it. That is the only way
in which an answer can differ from what the service replies to the key alone.
-/

namespace HardwareIndex

namespace Serving

variable {send : Transport} {base : Url} {kind : RecordKind} {s : Service}
  {index : Index kind.Record} {calls : List (PerSpace (Option String))} {capacity : Nat}

/-- What calls can make a client learn of a key: its own name or, if the index knows nothing of
    the key, that of another one that was given with it. -/
def Learnt (index : Index kind.Record) (calls : List (PerSpace (Option String)))
    (key : WrittenKey) (name : ObjectName) : Prop :=
  index.entries.nameOf? key = some name ∨
    index.entries.nameOf? key = none ∧ ∃ keys ∈ calls, Client.Gives keys key ∧
      ∃ other, Client.Gives keys other ∧ index.entries.nameOf? other = some name

theorem keeps_learnt (h : Serving send base s index) (capacity : Nat)
    (calls : List (PerSpace (Option String))) :
    ((Client.new base capacity).after send calls).Keeps base capacity (Learnt index calls) := by
  induction calls using List.reverseRecOn with
  | nil => exact Client.keeps_new base capacity _
  | append_singleton calls keys ih =>
    have before : ((Client.new base capacity).after send calls).Keeps base capacity
        (Learnt index (calls ++ [keys])) := by
      refine ⟨ih.base, ih.cache.mono ?_⟩
      rintro key name (own | ⟨unknown, given, member, gives⟩)
      · exact Or.inl own
      · exact Or.inr ⟨unknown, given, List.mem_append_left _ member, gives⟩
    rw [Client.after_append_singleton]
    refine before.resolve ?_
    intro name asked told key gives
    have tells := Client.request_of_told asked told
    rw [ih.base] at tells
    obtain ⟨each, other, gives', known⟩ := h.request_eq_ok_iff.1 tells
    rcases each key gives with own | unknown
    · exact Or.inl own
    · exact Or.inr ⟨unknown, keys, List.mem_append_right _ (List.mem_singleton_self keys), gives,
        other, gives', known⟩

/-- If every request that tells a name tells it of keys that all have this name, a client keeps
    nothing else. -/
theorem keeps_own (tells : ∀ (m : Nat) (keys : PerSpace (Option String)) (name : ObjectName),
      calls[m]? = some keys →
      let call := (((Client.new base capacity).after send (calls.take m)).resolve send
        keys.mac keys.uuid).2
      call.request.isSome = true → call.result = .ok name →
      ∀ key, Client.Gives keys key → index.entries.nameOf? key = some name) (m : Nat) :
    ((Client.new base capacity).after send (calls.take m)).Keeps base capacity fun key name =>
      index.entries.nameOf? key = some name := by
  induction m with
  | zero => exact Client.keeps_new base capacity _
  | succ m ih =>
    cases call : calls[m]? with
    | none =>
      rw [List.take_add_one, call, Option.toList_none, List.append_nil]
      exact ih
    | some keys =>
      rw [Client.after_take_succ _ send call]
      exact ih.resolve fun name => tells m keys name call

end Serving

namespace Client

variable {send : Transport} {base : Url} {kind : RecordKind} {s : Service}
  {index : Index kind.Record}

/-- Let a ready index of any kind stay as it is and be served to a client of any capacity, which
    makes any calls. At any point a call that gives one key alone is answered with the name that
    the service replies to this key, if it replies one; the only other name that it can be
    answered with is that of a key with which it was given before, and then the service knows
    nothing of it. So all answers to single keys are the service's own exactly if no request was
    told a name that one of its keys does not have. -/
theorem answers_key_or_companion (published : (s.slots.get kind.Record).value = some index)
    (ready : index.isReady = true) (serves : send.Serves base s kind) (capacity : Nat)
    (calls : List (PerSpace (Option String))) :
    let call (m : Nat) (keys : PerSpace (Option String)) : Resolved :=
      (((new base capacity).after send (calls.take m)).resolve send keys.mac keys.uuid).2
    let own (key : WrittenKey) (name : ObjectName) : Prop :=
      s.replyTo kind base key = .ofText .ok name.body
    (∀ m key name, own key name → (call m key.alone).result = .ok name) ∧
    (∀ m key name, (call m key.alone).result = .ok name → own key name ∨
      s.replyTo kind base key = .ofText .notFound "" ∧ ∃ keys ∈ calls.take m, Gives keys key ∧
        ∃ other, Gives keys other ∧ own other name) ∧
    ((∀ m key name, (call m key.alone).result = .ok name → own key name) ↔
      ∀ m keys name, calls[m]? = some keys → (call m keys).request.isSome = true →
        (call m keys).result = .ok name → ∀ key, Gives keys key → own key name) := by
  intro call own
  have h : Serving send base s index := ⟨published, ready, serves⟩
  have own_iff : ∀ key name, own key name ↔ index.entries.nameOf? key = some name := fun _ _ =>
    h.replyTo_eq_ok_iff
  have keeps := fun m => h.keeps_learnt capacity (calls.take m)
  have ended := fun m key => h.answers_alone (keeps m).base key
  refine ⟨?_, ?_, ?_, ?_⟩
  · intro m key name known
    refine (ended m key).eq_ok ((own_iff key name).1 known) ?_
    intro name' owned
    exact ((keeps m).cache.knows key name' owned).imp_right And.left
  · intro m key name answered
    have ended := ended m key
    rw [answered] at ended
    simp only [own_iff, h.replyTo_eq_notFound_iff]
    rcases ended.known_or_cached with known | owned
    · exact Or.inl known
    · exact (keeps m).cache.knows key name owned
  · intro meets m keys name given asked told key gives
    have owned := (keeps m).ownerOf?_resolve asked told gives
    rw [← after_take_succ _ send given] at owned
    exact meets (m + 1) key name (result_of_owned (ne_empty_of_gives gives) owned)
  · intro tells m key name answered
    simp only [own_iff] at tells ⊢
    have kept := Serving.keeps_own tells m
    have ended := ended m key
    rw [answered] at ended
    exact ended.known_or_cached.elim id (kept.cache.knows key name)

/-- An address that the index knows is answered with its name, also after it was given along with
    an identifier that the index does not know. -/
theorem known_key_answered :
    let machine : Machine := ⟨⟨"lab", "node-1"⟩, none,
      [⟨none, ⟨Mac.buffer [0x00, 0xDE, 0x11, 0x64, 0x00, 0x01], 6⟩, none⟩], .obj []⟩
    let index : Index Machine := (Index.new.populate [.ok machine]).1
    let s := ((Service.new .plain).publish Machine index).1
    let base : Url :=
      ⟨"http", "", none, some (.named "index"), some 8080, .segments ["info"], none, none⟩
    let send := Transport.toService s .machine
    let both : PerSpace (Option String) :=
      ⟨some "00:de:11:64:00:01", some "5f1c9bb0-0b1e-4a4e-9a8e-2f3a61d0c1a7"⟩
    let key : WrittenKey := ⟨.mac, "00:de:11:64:00:01"⟩
    index.isReady = true ∧ send.Serves base s .machine ∧
      (((new base 10).after send ([both].take 1)).resolve send
        key.alone.mac key.alone.uuid).2.result = .ok machine.name := by
  intro machine index s base send both key
  have serves : send.Serves base s .machine := Transport.serves_toService rfl s .machine
  have h : @Serving send base .machine s index := ⟨rfl, rfl, serves⟩
  have known : index.entries.nameOf? key = some machine.name := by decide +kernel
  obtain ⟨answered, _, _⟩ :=
    @answers_key_or_companion send base .machine s index rfl rfl serves 10 [both]
  exact ⟨rfl, serves, answered 1 key machine.name (h.replyTo_eq_ok_iff.2 known)⟩

/-- An identifier that the index knows nothing of is answered with the name of the address that it
    was once given with, where the service replies that there is no such key. -/
theorem unknown_key_answered :
    let machine : Machine := ⟨⟨"lab", "node-1"⟩, none,
      [⟨none, ⟨Mac.buffer [0x00, 0xDE, 0x11, 0x64, 0x00, 0x01], 6⟩, none⟩], .obj []⟩
    let index : Index Machine := (Index.new.populate [.ok machine]).1
    let s := ((Service.new .plain).publish Machine index).1
    let base : Url :=
      ⟨"http", "", none, some (.named "index"), some 8080, .segments ["info"], none, none⟩
    let send := Transport.toService s .machine
    let both : PerSpace (Option String) :=
      ⟨some "00:de:11:64:00:01", some "5f1c9bb0-0b1e-4a4e-9a8e-2f3a61d0c1a7"⟩
    let key : WrittenKey := ⟨.uuid, "5f1c9bb0-0b1e-4a4e-9a8e-2f3a61d0c1a7"⟩
    (s.slots.get Machine).value = some index ∧ index.isReady = true ∧ send.Serves base s .machine ∧
      (((new base 10).after send [both]).resolve send key.alone.mac key.alone.uuid).2.result =
        .ok machine.name ∧
      s.replyTo .machine base key = .ofText .notFound "" := by
  intro machine index s base send both key
  have serves : send.Serves base s .machine := Transport.serves_toService rfl s .machine
  have h : @Serving send base .machine s index := ⟨rfl, rfl, serves⟩
  have known : index.entries.nameOf? ⟨.mac, "00:de:11:64:00:01"⟩ = some machine.name := by
    decide +kernel
  have unknown : index.entries.nameOf? key = none := by decide +kernel
  have tells : request base send both = .ok machine.name := by
    refine h.request_eq_ok_iff.2 ⟨?_, ⟨.mac, "00:de:11:64:00:01"⟩, rfl, known⟩
    rintro ⟨space, text⟩ gives
    cases space with
    | mac =>
      cases gives
      exact Or.inl known
    | uuid =>
      cases gives
      exact Or.inr unknown
  have gives : Gives both key := rfl
  obtain ⟨asked, told⟩ : ((new base 10).resolve send both.mac both.uuid).2.request.isSome = true ∧
      ((new base 10).resolve send both.mac both.uuid).2.result = .ok machine.name :=
    told_of_request ⟨key, gives⟩ (KeyCache.ownerOf?_new 10) tells
  have cached := (keeps_new base 10 fun _ _ => True).ownerOf?_resolve asked told gives
  refine ⟨rfl, rfl, serves, ?_, h.replyTo_eq_notFound_iff.2 unknown⟩
  have written : key.text ≠ "" := by decide
  have answered := @result_of_owned _ send key written _ cached
  have calls : (new base 10).after send [both] =
      ((new base 10).resolve send both.mac both.uuid).1 := after_append_singleton _ send [] both
  rw [calls]
  exact answered

end Client

end HardwareIndex
