import HardwareIndex.Proofs.Client.Calls
import HardwareIndex.Proofs.Service.Lookup

/-!
# Clients of a service

A service replies to a request with the verdict on what its index knows of each
key on its own. So a request tells a name only if one of its keys has this name,
and none of them another one: it may tell a name under a key that the index knows
nothing of.
-/

namespace HardwareIndex

namespace ObjectName

/-- Different names have different bodies. -/
theorem body_inj {name other : ObjectName} : name.body = other.body ↔ name = other := by
  constructor
  · intro same
    have read := Client.nameOfBody?_body name
    rw [same, Client.nameOfBody?_body] at read
    exact (Option.some.inj read).symm
  · rintro rfl
    rfl

end ObjectName

/-- Different texts make different replies. -/
theorem ServerReply.ofText_inj {status status' : StatusCode} {text text' : String} :
    ofText status text = ofText status' text' ↔ status = status' ∧ text = text' := by
  constructor
  · intro same
    have octets := Option.some.inj (congrArg body same)
    exact ⟨congrArg ServerReply.status same,
      String.toList_inj.1 (Text.Utf8.encode_injective octets)⟩
  · rintro ⟨rfl, rfl⟩
    rfl

/-- What a service replies to a client that asks for one key alone. -/
def Service.replyTo (s : Service) (kind : RecordKind) (base : Url) (key : WrittenKey) :
    ServerReply :=
  s.reply kind (Client.requestUrl base key.alone.mac key.alone.uuid).query

/-- A service whose ready index a client reaches. -/
structure Serving (send : Transport) (base : Url) {kind : RecordKind} (s : Service)
    (index : Index kind.Record) : Prop where
  published : (s.slots.get kind.Record).value = some index
  ready : index.isReady = true
  serves : send.Serves base s kind

namespace Serving

variable {send : Transport} {base : Url} {kind : RecordKind} {s : Service}
  {index : Index kind.Record} {keys : PerSpace (Option String)} {key : WrittenKey}
  {name : ObjectName}

theorem request_eq (h : Serving send base s index) (keys : PerSpace (Option String)) :
    Client.request base send keys = (Lookup.Verdict.ofNames
      ((KeyCache.present? keys.mac).bind fun text => index.entries.nameOf? ⟨.mac, text⟩)
      ((KeyCache.present? keys.uuid).bind fun text =>
        index.entries.nameOf? ⟨.uuid, text⟩)).result := by
  have sent : ∀ mac uuid, send (Client.requestUrl base mac uuid) =
      .ok (s.reply kind (Client.requestUrl base mac uuid).query) := fun mac uuid =>
    h.serves.delivers _
  rw [Client.request, sent,
    Service.reply_requestUrl h.serves.keyless h.published h.ready]
  exact Lookup.Verdict.judge_reply _

/-- What a request tells is the name of one of its keys, and of the other one if that is known. -/
theorem request_eq_ok_iff (h : Serving send base s index) :
    Client.request base send keys = .ok name ↔
      (∀ key, Client.Gives keys key →
        index.entries.nameOf? key = some name ∨ index.entries.nameOf? key = none) ∧
      ∃ key, Client.Gives keys key ∧ index.entries.nameOf? key = some name := by
  let known? (space : KeySpace) : Option ObjectName :=
    (KeyCache.present? (keys.get space)).bind fun text => index.entries.nameOf? ⟨space, text⟩
  have verdict : Client.request base send keys = .ok name ↔
      (known? .mac = some name ∨ known? .mac = none) ∧
        (known? .uuid = some name ∨ known? .uuid = none) ∧
        (known? .mac = some name ∨ known? .uuid = some name) := by
    rw [h.request_eq]
    exact Lookup.Verdict.result_ofNames_eq_ok
  have known_of_gives : ∀ {key}, Client.Gives keys key →
      known? key.space = index.entries.nameOf? key := fun {key} gives => by
    have gives : KeyCache.present? (keys.get key.space) = some key.text := gives
    simp only [known?, gives, Option.bind_some]
  have gives_of_known : ∀ {space}, known? space = some name →
      ∃ key, Client.Gives keys key ∧ index.entries.nameOf? key = some name := by
    intro space known
    obtain ⟨text, gives, known⟩ := Option.bind_eq_some_iff.1 known
    exact ⟨⟨space, text⟩, gives, known⟩
  rw [verdict]
  constructor
  · rintro ⟨mac, uuid, one⟩
    refine ⟨?_, one.elim gives_of_known gives_of_known⟩
    rintro ⟨space, text⟩ gives
    rw [← known_of_gives gives]
    cases space
    · exact mac
    · exact uuid
  · rintro ⟨each, ⟨space, text⟩, gives, known⟩
    have either : ∀ space, known? space = some name ∨ known? space = none := by
      intro space
      cases given : KeyCache.present? (keys.get space) with
      | none => exact Or.inr (by simp only [known?, given, Option.bind_none])
      | some text =>
        have gives : Client.Gives keys ⟨space, text⟩ := given
        exact (known_of_gives gives).symm ▸ each _ gives
    refine ⟨either .mac, either .uuid, ?_⟩
    rw [← known_of_gives gives] at known
    cases space
    · exact Or.inl known
    · exact Or.inr known

/-- A request for one key alone tells what is known of it. -/
theorem request_alone (h : Serving send base s index) (written : key.text ≠ "") :
    Client.request base send key.alone =
      (index.entries.nameOf? key).elim (.error .notFound) .ok := by
  obtain ⟨space, text⟩ := key
  have present : KeyCache.present? (some text) = some text := by
    simpa [KeyCache.present?, Option.filter_some] using written
  have absent : KeyCache.present? none = none := rfl
  rw [h.request_eq]
  cases space <;> simp only [WrittenKey.alone, present, absent, Option.bind_some, Option.bind_none]
  · cases index.entries.nameOf? ⟨.mac, text⟩ <;> rfl
  · cases index.entries.nameOf? ⟨.uuid, text⟩ <;> rfl

theorem replyTo_eq (h : Serving send base s index) (key : WrittenKey) :
    s.replyTo kind base key = (Lookup.Verdict.ofNames (index.entries.nameOf? key) none).reply := by
  rw [Service.replyTo, Service.reply_requestUrl h.serves.keyless h.published h.ready]
  obtain ⟨space, text⟩ := key
  cases space with
  | mac => rfl
  | uuid =>
    show (Lookup.Verdict.ofNames none (index.entries.nameOf? ⟨.uuid, text⟩)).reply = _
    cases index.entries.nameOf? ⟨.uuid, text⟩ <;> rfl

theorem replyTo_eq_ok_iff (h : Serving send base s index) :
    s.replyTo kind base key = .ofText .ok name.body ↔ index.entries.nameOf? key = some name := by
  rw [h.replyTo_eq]
  cases index.entries.nameOf? key with
  | none =>
    simp [Lookup.Verdict.ofNames, Lookup.Verdict.reply, ServerReply.ofText_inj, StatusCode.ok,
      StatusCode.notFound]
  | some found =>
    simp [Lookup.Verdict.ofNames, Lookup.Verdict.reply, ServerReply.ofText_inj, ObjectName.body_inj]

theorem replyTo_eq_notFound_iff (h : Serving send base s index) :
    s.replyTo kind base key = .ofText .notFound "" ↔ index.entries.nameOf? key = none := by
  rw [h.replyTo_eq]
  cases index.entries.nameOf? key with
  | none => simp [Lookup.Verdict.ofNames, Lookup.Verdict.reply]
  | some found =>
    simp [Lookup.Verdict.ofNames, Lookup.Verdict.reply, ServerReply.ofText_inj, StatusCode.ok,
      StatusCode.notFound]

/-- How a call ends that gives one key alone: from the cache, or as the index knows the key. -/
inductive AnswersAlone (c : Client) (index : Index kind.Record) (key : WrittenKey) :
    Except ClientError ObjectName → Prop
  | cached (name : ObjectName) : key.text ≠ "" → c.cache.ownerOf? key = some name →
      AnswersAlone c index key (.ok name)
  | told (name : ObjectName) : index.entries.nameOf? key = some name →
      AnswersAlone c index key (.ok name)
  | unknown (e : ClientError) : index.entries.nameOf? key = none → e = .notFound ∨ e = .missingKey →
      AnswersAlone c index key (.error e)

/-- A key that the index knows is answered with its name, unless another one is cached for it. -/
theorem AnswersAlone.eq_ok {c : Client} {result : Except ClientError ObjectName}
    (ended : AnswersAlone c index key result) (known : index.entries.nameOf? key = some name)
    (cached : ∀ name, c.cache.ownerOf? key = some name →
      index.entries.nameOf? key = some name ∨ index.entries.nameOf? key = none) :
    result = .ok name := by
  cases ended with
  | cached name' _ owned =>
    rcases cached name' owned with known' | unknown
    · exact congrArg Except.ok (Option.some.inj (known'.symm.trans known))
    · cases unknown.symm.trans known
  | told name' known' => exact congrArg Except.ok (Option.some.inj (known'.symm.trans known))
  | unknown e unknown => cases unknown.symm.trans known

/-- A name is answered that the index knows for the key or that is cached for it. -/
theorem AnswersAlone.known_or_cached {c : Client} (ended : AnswersAlone c index key (.ok name)) :
    index.entries.nameOf? key = some name ∨ c.cache.ownerOf? key = some name := by
  cases ended with
  | cached _ _ owned => exact Or.inr owned
  | told _ known => exact Or.inl known

theorem answers_alone (h : Serving send base s index) {c : Client} (address : c.base = base)
    (key : WrittenKey) :
    AnswersAlone c index key (c.resolve send key.alone.mac key.alone.uuid).2.result := by
  have course := Client.resolve_course c send key.alone
  generalize c.resolve send key.alone.mac key.alone.uuid = ended at course
  -- What a request tells is what the index knows of the key.
  have request : ∀ {given}, Client.Gives key.alone given →
      Client.request c.base send key.alone =
        (index.entries.nameOf? key).elim (.error .notFound) .ok := fun given => by
    rw [address]
    exact h.request_alone (Client.gives_alone.1 given).2
  cases course with
  | missing nothing =>
    have empty : key.text = "" := by
      by_contra written
      exact nothing key (Client.gives_alone.2 ⟨rfl, written⟩)
    have unknown : index.entries.nameOf? key = none := by
      obtain ⟨space, text⟩ := key
      subst empty
      rw [Entries.nameOf?, Entries.byText?_empty]
      rfl
    exact .unknown _ unknown (Or.inr rfl)
  | hit given name gives owned =>
    obtain ⟨rfl, written⟩ := Client.gives_alone.1 gives
    exact .cached name written owned
  | failed e url events given _ asked =>
    obtain ⟨_, gives⟩ := given
    have known := (request gives).symm.trans asked
    cases found : index.entries.nameOf? key <;> rw [found] at known <;> cases known
    exact .unknown _ found (Or.inl rfl)
  | learnt name url events given _ asked =>
    obtain ⟨_, gives⟩ := given
    have known := (request gives).symm.trans asked
    cases found : index.entries.nameOf? key <;> rw [found] at known <;> cases known
    exact .told name found

end Serving

end HardwareIndex
