import HardwareIndex.Proofs.Client.Calls
import HardwareIndex.Proofs.Service.Lookup

/-!
# What a call does to the cache

A call that gives no key and one whose request brings no name leave the cache as
it was, and a hit touches the entry of its name alone. A name that a request
brings is cached under every key of the call. Only the first key can cost another
name its entry: when the second one comes the name has an entry already, so that
the cache does not grow. This holds whatever has become of the cache between the
request and the reply.
-/

namespace HardwareIndex

open Std

namespace KeyCache

variable {c c' c'' : KeyCache} {name : ObjectName} {space : KeySpace} {text : String}
  {given given' : WrittenKey → Prop} {evicted : Option ObjectName}

theorem containsName_iff :
    c.containsName name = true ↔ ∃ entry, c.entries[name]? = some entry := by
  rw [containsName, ExtTreeMap.contains_eq_isSome_getElem?, Option.isSome_iff_exists]

/-! ## Using an entry -/

/-- A use changes the stamp of one entry and the clock. -/
theorem touch_eq {entry : CacheEntry} (held : c.entries[name]? = some entry) :
    c.touch name = { c with
      clock := c.clock + 1
      entries := c.entries.insert name { entry with last := c.clock + 1 } } := by
  rw [← entries_touch held]
  rfl

/-! ## Learning a name -/

/-- A cache has learnt a name under some keys, and another name may have been evicted for it.
    The keys resolve to the name. Of the other keys none changes but those of the evicted name,
    and no entry does but those of the evicted name and of names that a key was taken from. -/
structure Learns (before after : KeyCache) (given : WrittenKey → Prop) (name : ObjectName)
    (evicted : Option ObjectName) : Prop where
  keys : ∀ key, given key → after.ownerOf? key = some name
  rest : ∀ key, ¬given key → after.ownerOf? key =
    if before.ownerOf? key = evicted then none else before.ownerOf? key
  cached : after.containsName name = true
  entries : ∀ other, other ≠ name → (∀ key, given key → before.ownerOf? key ≠ some other) →
    after.entries[other]? = if some other = evicted then none else before.entries[other]?
  older : ∀ other, other ≠ name → after.containsName other = true →
    before.containsName other = true
  spared : evicted ≠ some name
  gone : ∀ victim, evicted = some victim →
    before.containsName victim = true ∧ after.containsName victim = false

/-- Nobody's key is taken from nobody. -/
theorem ite_eq_none (owner : Option ObjectName) :
    (if owner = none then none else owner) = owner := by
  cases owner with
  | none => rfl
  | some n => exact if_neg (Option.some_ne_none n)

theorem Learns.of_iff (h : c.Learns c' given name evicted)
    (same : ∀ key, given key ↔ given' key) : c.Learns c' given' name evicted := by
  obtain rfl : given = given' := funext fun key => propext (same key)
  exact h

theorem getElem?_taken_of_ne {other : ObjectName}
    (unowned : other = name ∨ c.ownerOf? ⟨space, text⟩ ≠ some other) :
    (c.taken space text name)[other]? = c.entries[other]? := by
  rcases taken_cases c space text name with ⟨taken, _⟩ | ⟨previous, owned, moved, taken⟩
  · rw [taken]
  · have apart : other ≠ previous := by
      rintro rfl
      rcases unowned with same | unowned
      · exact moved same
      · exact unowned owned
    rw [taken, getElem?_disown, if_neg apart]

theorem exists_of_taken {other : ObjectName} {entry : CacheEntry}
    (held : (c.taken space text name)[other]? = some entry) :
    ∃ entry, c.entries[other]? = some entry := by
  rcases taken_cases c space text name with ⟨taken, _⟩ | ⟨previous, _, _, taken⟩
  · rw [taken] at held
    exact ⟨entry, held⟩
  · rw [taken, getElem?_disown] at held
    by_cases same : other = previous
    · rw [if_pos same] at held
      obtain ⟨entry', held', _⟩ := Option.map_eq_some_iff.1 (Option.filter_eq_some_iff.1 held).1
      exact ⟨entry', held'⟩
    · rw [if_neg same] at held
      exact ⟨entry, held⟩

theorem getElem?_assign_of_ne {other : ObjectName} (different : other ≠ name) :
    (c.assign space text name).entries[other]? = (c.taken space text name)[other]? := by
  have apart : name ≠ other := Ne.symm different
  rw [entries_assign, ExtTreeMap.getElem?_insert]
  simp [apart]

/-- A key is given without an eviction. -/
theorem learns_assign (c : KeyCache) (space : KeySpace) (text : String) (name : ObjectName) :
    c.Learns (c.assign space text name) (· = ⟨space, text⟩) name none := by
  refine ⟨?_, ?_, ?_, ?_, ?_, (Option.some_ne_none name).symm, ?_⟩
  · rintro _ rfl
    rw [ownerOf?, getElem?_owners_assign, if_pos ⟨rfl, rfl⟩]
  · rintro ⟨space', text'⟩ other
    have apart : ¬(space' = space ∧ text' = text) := by
      rintro ⟨rfl, rfl⟩
      exact other rfl
    rw [ite_eq_none, ownerOf?, getElem?_owners_assign, if_neg apart]
    rfl
  · obtain ⟨entry, held, _⟩ := exists_held_assign c space text name
    exact containsName_iff.2 ⟨entry, held⟩
  · intro other different unowned
    rw [getElem?_assign_of_ne different, getElem?_taken_of_ne (Or.inr (unowned _ rfl)),
      if_neg (Option.some_ne_none other)]
  · intro other different held
    obtain ⟨entry, held⟩ := containsName_iff.1 held
    rw [getElem?_assign_of_ne different] at held
    exact containsName_iff.2 (exists_of_taken held)
  · intro victim none
    cases none

/-! ## Evicting another name -/

theorem getElem?_evict {victim : ObjectName} {entry : CacheEntry}
    (held : c.entries[victim]? = some entry) (other : ObjectName) :
    (c.evict victim).entries[other]? = if other = victim then none else c.entries[other]? := by
  rw [entries_evict held, ExtTreeMap.getElem?_erase]
  by_cases same : other = victim
  · simp [same]
  · have apart : victim ≠ other := Ne.symm same
    simp [same, apart]

/-- The keys that go with an entry are those that resolve to its name. -/
theorem ownerOf?_evict (sound : c.Sound) {victim : ObjectName} {entry : CacheEntry}
    (held : c.entries[victim]? = some entry) (key : WrittenKey) :
    (c.evict victim).ownerOf? key =
      if c.ownerOf? key = some victim then none else c.ownerOf? key := by
  have member : key.text ∈ entry.keys.get key.space ↔ c.ownerOf? key = some victim := by
    constructor
    · intro member
      exact sound.owns.2 ⟨entry, held, member⟩
    · intro owned
      obtain ⟨entry', held', member⟩ := sound.owns.1 owned
      cases held.symm.trans held'
      exact member
  rw [ownerOf?, getElem?_owners_evict held]
  by_cases owned : c.ownerOf? key = some victim
  · rw [if_pos owned, if_pos (member.2 owned)]
  · rw [if_neg owned, if_neg fun inside => owned (member.1 inside)]
    rfl

/-- What has been learnt stays when another name is evicted. -/
theorem Learns.evict (h : c.Learns c' given name none) (sound : c'.Sound) {victim : ObjectName}
    {entry : CacheEntry} (held : c'.entries[victim]? = some entry) (different : victim ≠ name) :
    c.Learns (c'.evict victim) given name (some victim) := by
  have other_name : name ≠ victim := Ne.symm different
  refine ⟨?_, ?_, ?_, ?_, ?_, ?_, ?_⟩
  · intro key gives
    rw [ownerOf?_evict sound held, h.keys key gives]
    exact if_neg fun same => other_name (Option.some.inj same)
  · intro key spared
    rw [ownerOf?_evict sound held, h.rest key spared, ite_eq_none]
  · obtain ⟨used, held'⟩ := containsName_iff.1 h.cached
    rw [containsName_iff, getElem?_evict held, if_neg other_name]
    exact ⟨used, held'⟩
  · intro other apart unowned
    have kept := h.entries other apart unowned
    rw [if_neg (Option.some_ne_none other)] at kept
    rw [getElem?_evict held, kept]
    simp only [Option.some.injEq]
  · intro other apart held'
    obtain ⟨entry', held'⟩ := containsName_iff.1 held'
    rw [getElem?_evict held] at held'
    split at held'
    · cases held'
    · exact h.older other apart (containsName_iff.2 ⟨entry', held'⟩)
  · intro same
    exact different (Option.some.inj same)
  · intro victim' same
    obtain rfl := Option.some.inj same
    refine ⟨h.older victim different (containsName_iff.2 ⟨entry, held⟩), ?_⟩
    rw [containsName, ExtTreeMap.contains_eq_isSome_getElem?, getElem?_evict held, if_pos rfl]
    rfl

/-- A key that is inserted costs at most one other name its entry. -/
theorem learns_insert (sound : c.Sound) (fits : c.Fits) (space : KeySpace) (text : String)
    (name : ObjectName) : ∃ evicted : Option ObjectName,
      (c.insert space text name).2 = evicted.toList.length ∧
      c.Learns (c.insert space text name).1 (· = ⟨space, text⟩) name evicted := by
  have assigned := c.learns_assign space text name
  rcases insert_cases sound fits space text name with result | ⟨victim, _, other, held, result, _⟩
  · rw [result]
    exact ⟨none, rfl, assigned⟩
  · rw [result]
    exact ⟨some victim, rfl, assigned.evict (sound.assign space text name) held other⟩

/-! ## Two keys -/

/-- A name that is cached needs no room for one more key. -/
theorem insert_of_containsName (fits : c.Fits) (held : c.containsName name = true)
    (space : KeySpace) (text : String) :
    c.insert space text name = (c.assign space text name, 0) := by
  have kept : (c.taken space text name).contains name = true := by
    obtain ⟨entry, held⟩ := containsName_iff.1 held
    rw [ExtTreeMap.contains_eq_isSome_getElem?, getElem?_taken_of_ne (Or.inl rfl), held]
    rfl
  have size : (c.assign space text name).size ≤ c.size := by
    rw [KeyCache.size, entries_assign, ExtTreeMap.size_insert, if_pos kept]
    exact size_taken_le
  apply shrink_of_fits
  rcases fits with unbounded | enough
  · exact Or.inl unbounded
  · exact Or.inr (Nat.le_trans size enough)

/-- What is learnt under some keys and then under some more. -/
theorem Learns.trans (first : c.Learns c' given name evicted)
    (second : c'.Learns c'' given' name none) :
    c.Learns c'' (fun key => given key ∨ given' key) name evicted := by
  have rest (key : WrittenKey) (other : ¬given' key) : c''.ownerOf? key = c'.ownerOf? key := by
    rw [second.rest key other, ite_eq_none]
  -- A name that loses none of the keys loses none of the second ones after the first ones.
  have entries (other : ObjectName) (different : other ≠ name)
      (unowned : ∀ key, given key ∨ given' key → c.ownerOf? key ≠ some other) :
      c''.entries[other]? = if some other = evicted then none else c.entries[other]? := by
    have still (key : WrittenKey) (gives : given' key) : c'.ownerOf? key ≠ some other := by
      intro owned
      by_cases learnt : given key
      · cases (first.keys key learnt).symm.trans owned
        exact different rfl
      · rw [first.rest key learnt] at owned
        split at owned
        · cases owned
        · exact unowned key (Or.inr gives) owned
    rw [second.entries other different still, if_neg (Option.some_ne_none other)]
    exact first.entries other different fun key gives => unowned key (Or.inl gives)
  refine ⟨?_, ?_, second.cached, entries, ?_, first.spared, ?_⟩
  · intro key gives
    by_cases again : given' key
    · exact second.keys key again
    · rw [rest key again]
      exact first.keys key (gives.resolve_right again)
  · intro key spared
    rw [rest key fun again => spared (Or.inr again)]
    exact first.rest key fun gives => spared (Or.inl gives)
  · intro other different held
    exact first.older other different (second.older other different held)
  · intro victim same
    obtain ⟨before, after⟩ := first.gone victim same
    refine ⟨before, ?_⟩
    rw [Bool.eq_false_iff]
    intro held
    have different : victim ≠ name := by
      rintro rfl
      exact first.spared same
    cases after.symm.trans (second.older victim different held)

end KeyCache

namespace Client

variable {base : Url} {capacity : Nat} {send : Transport} {keys : PerSpace (Option String)}
  {name : ObjectName}

/-- A call gives an address, an identifier, or both. -/
theorem gives_iff {key : WrittenKey} : Gives keys key ↔
    (∃ text, KeyCache.present? keys.mac = some text ∧ ⟨.mac, text⟩ = key) ∨
      ∃ text, KeyCache.present? keys.uuid = some text ∧ ⟨.uuid, text⟩ = key := by
  obtain ⟨space, text⟩ := key
  cases space <;> simp [Gives, PerSpace.get]

/-- Whatever a cache holds, a name is learnt under all keys of a call at the price of one other
    name at most. -/
theorem learns_remember (steps : List CacheStep) (given : ∃ key, Gives keys key)
    (name : ObjectName) :
    let cache := KeyCache.of capacity steps
    let remembered := remember cache (KeyCache.present? keys.mac) (KeyCache.present? keys.uuid) name
    ∃ evicted : Option ObjectName, remembered.2 = evicted.toList.length ∧
      cache.Learns remembered.1 (Gives keys) name evicted := by
  intro cache remembered
  have reached : KeyCache.Reached capacity steps cache := KeyCache.reached capacity steps
  have inserted := KeyCache.learns_insert reached.sound reached.fits
  cases mac : KeyCache.present? keys.mac with
  | none =>
    cases uuid : KeyCache.present? keys.uuid with
    | none =>
      obtain ⟨key, gives⟩ := given
      simp [gives_iff, mac, uuid] at gives
    | some text =>
      obtain ⟨evicted, count, learns⟩ := inserted .uuid text name
      have result : remembered = cache.insert .uuid text name := by
        simp only [remembered, remember, mac, uuid, Option.elim, Nat.zero_add]
      rw [result]
      refine ⟨evicted, count, learns.of_iff ?_⟩
      simp [gives_iff, mac, uuid, eq_comm]
  | some text =>
    obtain ⟨evicted, count, learns⟩ := inserted .mac text name
    cases uuid : KeyCache.present? keys.uuid with
    | none =>
      have result : remembered = cache.insert .mac text name := by
        simp only [remembered, remember, mac, uuid, Option.elim, Nat.add_zero]
      rw [result]
      refine ⟨evicted, count, learns.of_iff ?_⟩
      simp [gives_iff, mac, uuid, eq_comm]
    | some text' =>
      let first := (cache.insert .mac text name).1
      have next : KeyCache.Reached capacity _ first := reached.next (.insert .mac text name)
      -- The second key needs no room, for its name has an entry by then.
      have second := KeyCache.insert_of_containsName next.fits learns.cached .uuid text'
      have result :
          remembered = (first.assign .uuid text' name, (cache.insert .mac text name).2) := by
        simp only [remembered, remember, mac, uuid, Option.elim]
        rw [second]
        rfl
      rw [result]
      refine ⟨evicted, count, (learns.trans (first.learns_assign .uuid text' name)).of_iff ?_⟩
      simp [gives_iff, mac, uuid, eq_comm]

/-- What comes of a request, by what it brings: a name from a successful reply whose body arrives
    and is a name, and an error from everything else. -/
inductive Brings : Except TransportFault ServerReply → Except ClientError ObjectName → Prop
  | transport (fault : TransportFault) : Brings (.error fault) (.error (.transport fault))
  | notFound (reply : ServerReply) : reply.status = .notFound →
    Brings (.ok reply) (.error .notFound)
  | notReady (reply : ServerReply) : reply.status = .notAcceptable →
    Brings (.ok reply) (.error .notReady)
  | status (reply : ServerReply) : reply.status ≠ .notFound → reply.status ≠ .notAcceptable →
    reply.status.isSuccess = false → Brings (.ok reply) (.error (.status reply.status))
  | decode (reply : ServerReply) : reply.status.isSuccess = true →
    reply.body.bind nameOfBody? = none → Brings (.ok reply) (.error .decode)
  | told (reply : ServerReply) (name : ObjectName) : reply.status.isSuccess = true →
    reply.body.bind nameOfBody? = some name → Brings (.ok reply) (.ok name)

theorem brings_judge (reply : ServerReply) : Brings (.ok reply) (judge reply) := by
  rw [judge]
  by_cases notFound : reply.status = .notFound
  · rw [if_pos notFound]
    exact .notFound reply notFound
  rw [if_neg notFound]
  by_cases notReady : reply.status = .notAcceptable
  · rw [if_pos notReady]
    exact .notReady reply notReady
  rw [if_neg notReady]
  cases success : reply.status.isSuccess with
  | false => exact .status reply notFound notReady success
  | true =>
    cases written : reply.body.bind nameOfBody? with
    | none => exact .decode reply success written
    | some name => exact .told reply name success written

theorem brings_request (base : Url) (send : Transport) (keys : PerSpace (Option String)) :
    Brings (send (requestUrl base (KeyCache.present? keys.mac) (KeyCache.present? keys.uuid)))
      (request base send keys) := by
  rw [request]
  cases send (requestUrl base (KeyCache.present? keys.mac) (KeyCache.present? keys.uuid)) with
  | error fault => exact .transport fault
  | ok reply => exact brings_judge reply

/-- A request carries the keys that are given, after what its address had before. -/
theorem decode_requestUrl (base : Url) (mac uuid : Option String) :
    Form.decode ((requestUrl base mac uuid).query.getD "") = Form.decode (base.query.getD "") ++
      (mac.toList.map ("mac", ·) ++ uuid.toList.map ("uuid", ·)) := by
  rw [requestUrl, base.decode_addPairs, pairs, Option.toList_map, Option.toList_map]

/-- Looking for the keys that a call gives is looking for its keys. -/
theorem find?_present? (cache : KeyCache) (mac uuid : Option String) :
    cache.find? (KeyCache.present? mac) (KeyCache.present? uuid) = cache.find? mac uuid := by
  have present (key : Option String) :
      KeyCache.present? (KeyCache.present? key) = KeyCache.present? key := by
    simp [KeyCache.present?, Option.filter_filter]
  simp only [KeyCache.find?, KeyCache.owner?, present]

section Miss

variable {c : Client}

theorem resolve_congr (given : ∃ key, Gives keys key)
    (found : c.cache.find? (KeyCache.present? keys.mac) (KeyCache.present? keys.uuid) = none)
    {send' : Transport} (same : request c.base send' keys = request c.base send keys) :
    c.resolve send' keys.mac keys.uuid = c.resolve send keys.mac keys.uuid := by
  rw [resolve_of_miss given found, resolve_of_miss given found, same]

/-- A request in vain leaves the client as it was. -/
theorem resolve_of_failed (given : ∃ key, Gives keys key)
    (found : c.cache.find? (KeyCache.present? keys.mac) (KeyCache.present? keys.uuid) = none)
    {e : ClientError} (failed : request c.base send keys = .error e) :
    let url := requestUrl c.base (KeyCache.present? keys.mac) (KeyCache.present? keys.uuid)
    c.resolve send keys.mac keys.uuid = (c, ⟨.error e, some url, [(.miss, 1)]⟩) := by
  rw [resolve_of_miss given found, failed]

/-- A name that a request brings is remembered, and the evictions are counted. -/
theorem resolve_of_told (given : ∃ key, Gives keys key)
    (found : c.cache.find? (KeyCache.present? keys.mac) (KeyCache.present? keys.uuid) = none)
    (told : request c.base send keys = .ok name) {evicted : Option ObjectName} :
    let url := requestUrl c.base (KeyCache.present? keys.mac) (KeyCache.present? keys.uuid)
    let remembered :=
      remember c.cache (KeyCache.present? keys.mac) (KeyCache.present? keys.uuid) name
    remembered.2 = evicted.toList.length →
    c.resolve send keys.mac keys.uuid = (⟨c.base, remembered.1⟩, ⟨.ok name, some url,
      (.miss, 1) :: evicted.toList.map fun _ => (.eviction, 1)⟩) := by
  intro url remembered count
  have evictions : (if remembered.2 = 0 then [] else [(CacheEvent.eviction, remembered.2)]) =
      evicted.toList.map fun _ => (CacheEvent.eviction, 1) := by
    rw [count]
    cases evicted <;> rfl
  rw [resolve_of_miss given found, told, ← evictions]

end Miss

/-- Call a client whatever has happened to its cache, with whatever keys and server. Without a
    key nothing is sent and nothing changes. If the cache knows the address, or else the
    identifier, nothing is sent, and only the stamp of that entry and the clock change. If not, one
    request is sent, with the keys that are given added to the address of the client, and what it
    brings decides the rest. An error leaves the client as it was. A name is learnt under all
    keys that were given, each of which resolves to it from then on without a request, and at most
    one other name is evicted for it. That is so too if the cache has changed meanwhile. -/
theorem resolve_caches (base : Url) (capacity : Nat) (steps : List CacheStep) (send : Transport)
    (keys : PerSpace (Option String)) :
    let cache := KeyCache.of capacity steps
    let c : Client := ⟨base, cache⟩
    let call (send : Transport) := c.resolve send keys.mac keys.uuid
    let mac := KeyCache.present? keys.mac
    let uuid := KeyCache.present? keys.uuid
    ((∀ key, ¬Gives keys key) → call send = (c, ⟨.error .missingKey, none, []⟩)) ∧
    (∀ name, cache.find? keys.mac keys.uuid = some name →
      ∃ entry, cache.entries[name]? = some entry ∧
      let touched := { cache with
        clock := cache.clock + 1
        entries := cache.entries.insert name { entry with last := cache.clock + 1 } }
      call send = (⟨base, touched⟩, ⟨.ok name, none, [(.hit, 1)]⟩)) ∧
    ((∃ key, Gives keys key) → cache.find? keys.mac keys.uuid = none →
      ∃ url : Url, (call send).2.request = some url ∧ url = { base with query := url.query } ∧
      Form.decode (url.query.getD "") = Form.decode (base.query.getD "") ++
        (mac.toList.map ("mac", ·) ++ uuid.toList.map ("uuid", ·)) ∧
      (∀ send' : Transport, send' url = send url → call send' = call send) ∧
      Brings (send url) (call send).2.result ∧
      (∀ e, (call send).2.result = .error e →
        call send = (c, ⟨.error e, some url, [(.miss, 1)]⟩)) ∧
      ∀ name, (call send).2.result = .ok name →
        ∃ (evicted : Option ObjectName) (after : KeyCache),
        let evictions := evicted.toList.map fun _ => (CacheEvent.eviction, 1)
        call send = (⟨base, after⟩, ⟨.ok name, some url, (.miss, 1) :: evictions⟩) ∧
        cache.Learns after (Gives keys) name evicted ∧
        (∀ other, other ≠ name → after.entries[other]? =
          if some other = evicted then none else cache.entries[other]?) ∧
        ∀ (key : WrittenKey) (send' : Transport), Gives keys key →
          (resolve ⟨base, after⟩ send' key.alone.mac key.alone.uuid).2 =
            ⟨.ok name, none, [(.hit, 1)]⟩) ∧
    ∀ (steps' : List CacheStep) (name : ObjectName), (∃ key, Gives keys key) →
      let meanwhile := KeyCache.of capacity steps'
      let remembered := remember meanwhile mac uuid name
      ∃ evicted : Option ObjectName, remembered.2 = evicted.toList.length ∧
        meanwhile.Learns remembered.1 (Gives keys) name evicted := by
  intro cache c call mac uuid
  refine ⟨resolve_of_missing, ?_, ?_, fun steps' name given => learns_remember steps' given name⟩
  · intro name found
    obtain ⟨entry, held⟩ := (KeyCache.reached capacity steps).sound.held_of_find? found
    refine ⟨entry, held, ?_⟩
    rw [← find?_present?] at found
    exact (resolve_of_hit (c := c) found).trans (by rw [KeyCache.touch_eq held])
  · intro given found
    have unowned (key : WrittenKey) (gives : Gives keys key) : cache.ownerOf? key = none :=
      ownerOf?_of_find? ((find?_present? ..).trans found) gives
    rw [← find?_present?] at found
    let url := requestUrl base mac uuid
    have same (send' : Transport) (brought : send' url = send url) : call send' = call send :=
      resolve_congr given found (by rw [request, request, brought])
    have brings : Brings (send url) (request base send keys) := brings_request base send keys
    cases asked : request base send keys with
    | error e =>
      have ended : call send = (c, ⟨.error e, some url, [(.miss, 1)]⟩) :=
        resolve_of_failed given found asked
      rw [asked] at brings
      rw [ended]
      refine ⟨url, rfl, rfl, decode_requestUrl base mac uuid, ended ▸ same, brings, ?_, nofun⟩
      intro e' failed
      cases failed
      rfl
    | ok name =>
      obtain ⟨evicted, count, learns⟩ := learns_remember steps given name
      let after := (remember cache mac uuid name).1
      have ended : call send = (⟨base, after⟩, ⟨.ok name, some url,
          (.miss, 1) :: evicted.toList.map fun _ => (CacheEvent.eviction, 1)⟩) :=
        resolve_of_told given found asked count
      rw [asked] at brings
      rw [ended]
      refine ⟨url, rfl, rfl, decode_requestUrl base mac uuid, ended ▸ same, brings, nofun, ?_⟩
      intro name' told
      cases told
      refine ⟨evicted, after, rfl, learns, ?_, ?_⟩
      · intro other different
        apply learns.entries other different
        intro key gives owned
        cases (unowned key gives).symm.trans owned
      · intro key send' gives
        have owned : after.ownerOf? key = some name := learns.keys key gives
        rw [resolve_alone (ne_empty_of_gives gives) owned]

/-- In a cache for one name, the name that two keys resolve to takes the place of the one before
    and keeps both. -/
theorem both_keys_resolve :
    let name : ObjectName := ⟨"lab", "b"⟩
    let base : Url :=
      ⟨"http", "", none, some (.named "index"), some 8080, .segments ["info"], none, none⟩
    let cache := KeyCache.of 1 [.insert .mac "00:de:11:64:00:01" ⟨"lab", "a"⟩]
    let send : Transport := fun _ => .ok (.ofText .ok name.body)
    let keys : PerSpace (Option String) :=
      ⟨some "00:de:11:64:00:02", some "5f1c9bb0-0b1e-4a4e-9a8e-2f3a61d0c1a7"⟩
    let called := resolve ⟨base, cache⟩ send keys.mac keys.uuid
    called.2.request.isSome = true ∧ called.2.result = .ok name ∧
      called.1.cache.containsName name = true ∧
      ∀ (key : WrittenKey) (send' : Transport), Gives keys key →
        (called.1.resolve send' key.alone.mac key.alone.uuid).2 =
          ⟨.ok name, none, [(.hit, 1)]⟩ := by
  intro name base cache send keys called
  obtain ⟨_, _, asks, _⟩ :=
    resolve_caches base 1 [.insert .mac "00:de:11:64:00:01" ⟨"lab", "a"⟩] send keys
  obtain ⟨url, asked, _, _, _, brings, _, learnt⟩ :=
    asks ⟨⟨.mac, "00:de:11:64:00:02"⟩, rfl⟩ (by decide +kernel)
  have told : called.2.result = .ok name := by
    change Brings (.ok (.ofText .ok name.body)) called.2.result at brings
    generalize called.2.result = result at brings
    cases brings with
    | notFound _ failed => exact absurd failed (by decide)
    | notReady _ failed => exact absurd failed (by decide)
    | status _ _ _ failed => exact absurd failed (by decide)
    | decode _ _ unread => cases unread.symm.trans (nameOfBody?_ofText .ok name)
    | told _ name' _ written =>
      rw [Option.some.inj (written.symm.trans (nameOfBody?_ofText .ok name))]
  obtain ⟨evicted, after, ended, learns, _, alone⟩ := learnt name told
  have left : called.1 = ⟨base, after⟩ := congrArg Prod.fst ended
  rw [left]
  exact ⟨congrArg Option.isSome asked, told, learns.cached, alone⟩

end Client

end HardwareIndex
