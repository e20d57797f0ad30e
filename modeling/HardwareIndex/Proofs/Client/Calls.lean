import HardwareIndex.Client.Resolver
import HardwareIndex.Proofs.Client.CacheIntegrity

/-!
# Calls of a client

A call ends in one of four ways: no key is given, the cache knows one, the server
is asked in vain, or it is asked and the name it tells is cached under every key
of the call. What is true of all keys that requests bring is true of all keys in
the cache, whatever is evicted meanwhile; and right after a request its keys are
cached.
-/

namespace HardwareIndex

open Std

/-! ## What is known to a cache -/

namespace KeyCache

variable {c : KeyCache} {known : WrittenKey → ObjectName → Prop}

/-- The name that a written key is cached for. -/
def ownerOf? (c : KeyCache) (key : WrittenKey) : Option ObjectName :=
  (c.owners.get key.space)[key.text]?

/-- A key that is cached after an insertion is the one inserted or was cached before. -/
theorem ownerOf?_insert (h : c.Sound) (fits : c.Fits) {space : KeySpace} {text : String}
    {name : ObjectName} {key : WrittenKey} {n : ObjectName}
    (owned : (c.insert space text name).1.ownerOf? key = some n) :
    key = ⟨space, text⟩ ∧ n = name ∨ c.ownerOf? key = some n := by
  have assigned : (c.assign space text name).ownerOf? key = some n := by
    rcases insert_cases h fits space text name with result | ⟨victim, entry, _, held, result, _⟩
    · rw [result] at owned
      exact owned
    · rw [result, ownerOf?, getElem?_owners_evict held] at owned
      split at owned
      · cases owned
      · exact owned
  rw [ownerOf?, getElem?_owners_assign] at assigned
  split at assigned
  · rename_i same
    obtain ⟨k, t⟩ := key
    obtain ⟨rfl, rfl⟩ := same
    exact Or.inl ⟨rfl, (Option.some.inj assigned).symm⟩
  · exact Or.inr assigned

/-- The keys of a name stay when it is given one more. -/
theorem holds_insert_of_holds (h : c.Sound) (fits : c.Fits) {space space' : KeySpace}
    {text text' : String} {name : ObjectName} (holds : Holds c.entries name space' text') :
    Holds (c.insert space text name).1.entries name space' text' := by
  have assigned : Holds (c.assign space text name).entries name space' text' := by
    rw [entries_assign, KeyCache.holds_insert, if_pos rfl, CacheEntry.mem_add, mem_getD_iff,
      holds_taken h]
    exact Or.inl ⟨holds, fun taken => taken.1 rfl⟩
  rcases insert_cases h fits space text name with result | ⟨victim, entry, other, held, result, _⟩
  · rw [result]
    exact assigned
  · rw [result, entries_evict held, holds_erase]
    exact ⟨assigned, Ne.symm other⟩

theorem ownerOf?_new (capacity : Nat) (key : WrittenKey) :
    (new capacity).ownerOf? key = none := by
  obtain ⟨space, text⟩ := key
  cases space <;> simp [new, ownerOf?, PerSpace.get]

/-- A cache that has come about by steps, and holds only what is known. -/
structure Informed (c : KeyCache) (capacity : Nat) (known : WrittenKey → ObjectName → Prop) :
    Prop where
  built : ∃ steps, c = of capacity steps
  knows : ∀ key name, c.ownerOf? key = some name → known key name

namespace Informed

variable {capacity : Nat}

theorem new (capacity : Nat) (known : WrittenKey → ObjectName → Prop) :
    Informed (KeyCache.new capacity) capacity known := by
  refine ⟨⟨[], rfl⟩, ?_⟩
  intro key name owned
  cases (ownerOf?_new capacity key).symm.trans owned

theorem mono (h : Informed c capacity known) {known' : WrittenKey → ObjectName → Prop}
    (more : ∀ key name, known key name → known' key name) : Informed c capacity known' :=
  ⟨h.built, fun key name owned => more key name (h.knows key name owned)⟩

theorem reached (h : Informed c capacity known) : ∃ steps, Reached capacity steps c := by
  obtain ⟨steps, rfl⟩ := h.built
  exact ⟨steps, KeyCache.reached capacity steps⟩

theorem lookup (h : Informed c capacity known) (mac uuid : Option String) :
    Informed (c.lookup mac uuid).1 capacity known := by
  refine ⟨?_, ?_⟩
  · obtain ⟨steps, rfl⟩ := h.built
    exact ⟨_, (of_append_singleton capacity steps (.lookup mac uuid)).symm⟩
  · intro key name owned
    refine h.knows key name ?_
    rw [← owned]
    unfold KeyCache.lookup
    split <;> rfl

theorem insert (h : Informed c capacity known) {space : KeySpace} {text : String}
    {name : ObjectName} (new : known ⟨space, text⟩ name) :
    Informed (c.insert space text name).1 capacity known := by
  refine ⟨?_, ?_⟩
  · obtain ⟨steps, rfl⟩ := h.built
    exact ⟨_, (of_append_singleton capacity steps (.insert space text name)).symm⟩
  · intro key n owned
    obtain ⟨steps, reached⟩ := h.reached
    rcases ownerOf?_insert reached.sound reached.fits owned with ⟨rfl, rfl⟩ | before
    · exact new
    · exact h.knows key n before

/-- However little is known of a key, a cache is sound once it has been inserted. -/
theorem sound_insert (h : Informed c capacity known) (space : KeySpace) (text : String)
    (name : ObjectName) : (c.insert space text name).1.Informed capacity (fun _ _ => True) ∧
      (c.insert space text name).1.Sound := by
  have informed : (c.insert space text name).1.Informed capacity (fun _ _ => True) :=
    (h.mono fun _ _ _ => trivial).insert trivial
  obtain ⟨_, reached⟩ := informed.reached
  exact ⟨informed, reached.sound⟩

theorem ownerOf?_insert_self (h : Informed c capacity known) (space : KeySpace) (text : String)
    (name : ObjectName) : (c.insert space text name).1.ownerOf? ⟨space, text⟩ = some name := by
  obtain ⟨_, before⟩ := h.reached
  exact (h.sound_insert space text name).2.owns.2
    (holds_insert_self before.sound before.fits space text name)

/-- The keys of a name stay with it when it is given one more. -/
theorem ownerOf?_insert_of_owned (h : Informed c capacity known) {key : WrittenKey}
    {name : ObjectName} (owned : c.ownerOf? key = some name) (space : KeySpace) (text : String) :
    (c.insert space text name).1.ownerOf? key = some name := by
  obtain ⟨_, before⟩ := h.reached
  exact (h.sound_insert space text name).2.owns.2
    (holds_insert_of_holds before.sound before.fits (before.sound.owns.1 owned))

end Informed

end KeyCache

namespace Client

/-! ## The four ends of a call -/

/-- A call gives a key: it is there and not empty. -/
def Gives (keys : PerSpace (Option String)) (key : WrittenKey) : Prop :=
  KeyCache.present? (keys.get key.space) = some key.text

theorem ne_empty_of_gives {keys : PerSpace (Option String)} {key : WrittenKey}
    (given : Gives keys key) : key.text ≠ "" := by
  have kept := (Option.filter_eq_some_iff.1 given).2
  rintro empty
  rw [empty] at kept
  cases kept

/-- A call with one key alone gives that key, unless it is empty. -/
theorem gives_alone {key given : WrittenKey} :
    Gives key.alone given ↔ given = key ∧ key.text ≠ "" := by
  obtain ⟨space, text⟩ := key
  constructor
  · intro gives
    have written := ne_empty_of_gives gives
    obtain ⟨space', text'⟩ := given
    have present := (Option.filter_eq_some_iff.1 gives).1
    cases space <;> cases space' <;> cases present <;> exact ⟨rfl, written⟩
  · rintro ⟨rfl, written⟩
    have kept : (!text.isEmpty) = true := by simpa using written
    cases space <;> exact Option.filter_eq_some_iff.2 ⟨rfl, kept⟩

/-- What comes of a request for the keys of a call. -/
def request (base : Url) (send : Transport) (keys : PerSpace (Option String)) :
    Except ClientError ObjectName :=
  match send (requestUrl base (KeyCache.present? keys.mac) (KeyCache.present? keys.uuid)) with
  | .ok reply => judge reply
  | .error fault => .error (.transport fault)

/-- How a call ends. -/
inductive Course (c : Client) (send : Transport) (keys : PerSpace (Option String)) :
    Client × Resolved → Prop
  | missing : (∀ key, ¬Gives keys key) → Course c send keys (c, ⟨.error .missingKey, none, []⟩)
  | hit (key : WrittenKey) (name : ObjectName) : Gives keys key → c.cache.ownerOf? key = some name →
      Course c send keys
        ({ c with cache :=
            (c.cache.lookup (KeyCache.present? keys.mac) (KeyCache.present? keys.uuid)).1 },
          ⟨.ok name, none, [(.hit, 1)]⟩)
  | failed (e : ClientError) (url : Url) (events : List (CacheEvent × Nat)) :
      (∃ key, Gives keys key) → (∀ key, Gives keys key → c.cache.ownerOf? key = none) →
      request c.base send keys = .error e →
      Course c send keys (c, ⟨.error e, some url, events⟩)
  | learnt (name : ObjectName) (url : Url) (events : List (CacheEvent × Nat)) :
      (∃ key, Gives keys key) → (∀ key, Gives keys key → c.cache.ownerOf? key = none) →
      request c.base send keys = .ok name →
      Course c send keys
        ({ c with cache :=
            (remember c.cache (KeyCache.present? keys.mac) (KeyCache.present? keys.uuid) name).1 },
          ⟨.ok name, some url, events⟩)

/-- The cache is asked for a key that is given. -/
theorem owner?_present? (cache : KeyCache) (keys : PerSpace (Option String)) (space : KeySpace) :
    cache.owner? space (KeyCache.present? (keys.get space)) =
      (KeyCache.present? (keys.get space)).bind fun text => cache.ownerOf? ⟨space, text⟩ := by
  have present : KeyCache.present? (KeyCache.present? (keys.get space)) =
      KeyCache.present? (keys.get space) := by
    simp [KeyCache.present?, Option.filter_filter]
  rw [KeyCache.owner?, present]
  rfl

theorem exists_owner_of_find? {cache : KeyCache} {keys : PerSpace (Option String)}
    {name : ObjectName}
    (found : cache.find? (KeyCache.present? keys.mac) (KeyCache.present? keys.uuid) = some name) :
    ∃ key, Gives keys key ∧ cache.ownerOf? key = some name := by
  have owned : ∀ space, cache.owner? space (KeyCache.present? (keys.get space)) = some name →
      ∃ key, Gives keys key ∧ cache.ownerOf? key = some name := by
    intro space owned
    rw [owner?_present?] at owned
    obtain ⟨text, given, owned⟩ := Option.bind_eq_some_iff.1 owned
    exact ⟨⟨space, text⟩, given, owned⟩
  rcases Option.or_eq_some_iff.1 found with mac | ⟨_, uuid⟩
  · exact owned .mac mac
  · exact owned .uuid uuid

theorem ownerOf?_of_find? {cache : KeyCache} {keys : PerSpace (Option String)}
    (found : cache.find? (KeyCache.present? keys.mac) (KeyCache.present? keys.uuid) = none)
    {key : WrittenKey} (given : Gives keys key) : cache.ownerOf? key = none := by
  obtain ⟨mac, uuid⟩ := Option.or_eq_none_iff.1 found
  have unowned : cache.owner? key.space (KeyCache.present? (keys.get key.space)) = none := by
    cases key.space
    · exact mac
    · exact uuid
  rw [owner?_present?, given] at unowned
  exact unowned

theorem exists_gives_iff {keys : PerSpace (Option String)} : (∃ key, Gives keys key) ↔
    ((KeyCache.present? keys.mac).isNone && (KeyCache.present? keys.uuid).isNone) = false := by
  constructor
  · rintro ⟨⟨space, text⟩, given⟩
    cases space <;> simp_all [Gives, PerSpace.get]
  · intro some
    cases mac : KeyCache.present? keys.mac with
    | some text => exact ⟨⟨.mac, text⟩, mac⟩
    | none =>
      cases uuid : KeyCache.present? keys.uuid with
      | some text => exact ⟨⟨.uuid, text⟩, uuid⟩
      | none => simp [mac, uuid] at some

section Resolve

variable {c : Client} {send : Transport} {keys : PerSpace (Option String)}

/-- A call without a key does nothing. -/
theorem resolve_of_missing (missing : ∀ key, ¬Gives keys key) :
    c.resolve send keys.mac keys.uuid = (c, ⟨.error .missingKey, none, []⟩) := by
  have none : ((KeyCache.present? keys.mac).isNone && (KeyCache.present? keys.uuid).isNone) =
      true := by
    rw [← Bool.not_eq_false, ← exists_gives_iff]
    rintro ⟨key, given⟩
    exact missing key given
  simp only [resolve, none, if_true]

/-- A call that gives a key the cache knows uses the entry of its name. -/
theorem resolve_of_hit {name : ObjectName}
    (found : c.cache.find? (KeyCache.present? keys.mac) (KeyCache.present? keys.uuid) = some name) :
    c.resolve send keys.mac keys.uuid =
      ({ c with cache := c.cache.touch name }, ⟨.ok name, none, [(.hit, 1)]⟩) := by
  obtain ⟨key, given, _⟩ := exists_owner_of_find? found
  simp only [resolve, exists_gives_iff.1 ⟨key, given⟩, Bool.false_eq_true, if_false,
    KeyCache.lookup, found]

/-- A call that gives keys of which the cache knows none makes a request for them. -/
theorem resolve_of_miss (given : ∃ key, Gives keys key)
    (found : c.cache.find? (KeyCache.present? keys.mac) (KeyCache.present? keys.uuid) = none) :
    c.resolve send keys.mac keys.uuid =
      let url := requestUrl c.base (KeyCache.present? keys.mac) (KeyCache.present? keys.uuid)
      match request c.base send keys with
      | .error e => (c, ⟨.error e, some url, [(.miss, 1)]⟩)
      | .ok name =>
        let (cache, evicted) :=
          remember c.cache (KeyCache.present? keys.mac) (KeyCache.present? keys.uuid) name
        let evictions := if evicted = 0 then [] else [(CacheEvent.eviction, evicted)]
        ({ c with cache }, ⟨.ok name, some url, (.miss, 1) :: evictions⟩) := by
  simp only [resolve, exists_gives_iff.1 given, Bool.false_eq_true, if_false, KeyCache.lookup,
    found]
  rfl

end Resolve

theorem resolve_course (c : Client) (send : Transport) (keys : PerSpace (Option String)) :
    Course c send keys (c.resolve send keys.mac keys.uuid) := by
  by_cases given : ∃ key, Gives keys key
  · cases found : c.cache.find? (KeyCache.present? keys.mac) (KeyCache.present? keys.uuid) with
    | some name =>
      obtain ⟨key, given, owned⟩ := exists_owner_of_find? found
      have looked : (c.cache.lookup (KeyCache.present? keys.mac) (KeyCache.present? keys.uuid)).1 =
          c.cache.touch name := by
        simp only [KeyCache.lookup, found]
      rw [resolve_of_hit found, ← looked]
      exact .hit key name given owned
    | none =>
      have unowned : ∀ key, Gives keys key → c.cache.ownerOf? key = none := fun _ =>
        ownerOf?_of_find? found
      rw [resolve_of_miss given found]
      cases asked : request c.base send keys with
      | error e => exact .failed e _ _ given unowned asked
      | ok name => exact .learnt name _ _ given unowned asked
  · have missing : ∀ key, ¬Gives keys key := fun key gives => given ⟨key, gives⟩
    rw [resolve_of_missing missing]
    exact .missing missing

/-! ## What a client keeps -/

variable {c : Client} {send : Transport} {keys : PerSpace (Option String)} {base : Url}
  {capacity : Nat} {known : WrittenKey → ObjectName → Prop}

/-- A name is remembered under the keys that are given. -/
theorem remember_fst (cache : KeyCache) (mac uuid : Option String) (name : ObjectName) :
    (remember cache mac uuid name).1 =
      let cache := mac.elim cache fun text => (cache.insert .mac text name).1
      uuid.elim cache fun text => (cache.insert .uuid text name).1 := by
  cases mac <;> cases uuid <;> rfl

theorem informed_remember {cache : KeyCache} (h : cache.Informed capacity known)
    {name : ObjectName} (new : ∀ key, Gives keys key → known key name) :
    (remember cache (KeyCache.present? keys.mac) (KeyCache.present? keys.uuid) name).1.Informed
      capacity known := by
  have first : ((KeyCache.present? keys.mac).elim cache fun text =>
      (cache.insert .mac text name).1).Informed capacity known := by
    cases given : KeyCache.present? keys.mac with
    | none => exact h
    | some text => exact h.insert (new ⟨.mac, text⟩ given)
  rw [remember_fst]
  cases given : KeyCache.present? keys.uuid with
  | none => exact first
  | some text => exact first.insert (new ⟨.uuid, text⟩ given)

/-- After a request its keys are cached, the first one too when the second one had to make room. -/
theorem ownerOf?_remember {cache : KeyCache} (h : cache.Informed capacity known)
    {name : ObjectName} {key : WrittenKey} (given : Gives keys key) :
    (remember cache (KeyCache.present? keys.mac)
      (KeyCache.present? keys.uuid) name).1.ownerOf? key = some name := by
  obtain ⟨space, text⟩ := key
  rw [remember_fst]
  cases space with
  | mac =>
    have given : KeyCache.present? keys.mac = some text := given
    have first := h.ownerOf?_insert_self .mac text name
    rw [given]
    cases KeyCache.present? keys.uuid with
    | none => exact first
    | some text' =>
      exact (h.sound_insert .mac text name).1.ownerOf?_insert_of_owned first .uuid text'
  | uuid =>
    have given : KeyCache.present? keys.uuid = some text := given
    rw [given]
    cases KeyCache.present? keys.mac with
    | none => exact h.ownerOf?_insert_self .uuid text name
    | some text' => exact (h.sound_insert .mac text' name).1.ownerOf?_insert_self .uuid text name

/-- A client of an address whose cache holds only what is known. -/
structure Keeps (c : Client) (base : Url) (capacity : Nat)
    (known : WrittenKey → ObjectName → Prop) : Prop where
  base : c.base = base
  cache : c.cache.Informed capacity known

theorem keeps_new (base : Url) (capacity : Nat) (known : WrittenKey → ObjectName → Prop) :
    (new base capacity).Keeps base capacity known :=
  ⟨rfl, .new capacity known⟩

/-- A client keeps to what is known if its requests tell nothing else. -/
theorem Keeps.resolve (h : c.Keeps base capacity known)
    (tells : ∀ name, (c.resolve send keys.mac keys.uuid).2.request.isSome = true →
      (c.resolve send keys.mac keys.uuid).2.result = .ok name →
      ∀ key, Gives keys key → known key name) :
    (c.resolve send keys.mac keys.uuid).1.Keeps base capacity known := by
  have course := resolve_course c send keys
  generalize c.resolve send keys.mac keys.uuid = ended at course tells ⊢
  cases course with
  | missing => exact h
  | hit => exact ⟨h.base, h.cache.lookup _ _⟩
  | failed => exact h
  | learnt name => exact ⟨h.base, informed_remember h.cache (tells name rfl rfl)⟩

/-- What a call with a request tells is what comes of the request. -/
theorem request_of_told {name : ObjectName}
    (asked : (c.resolve send keys.mac keys.uuid).2.request.isSome = true)
    (told : (c.resolve send keys.mac keys.uuid).2.result = .ok name) :
    request c.base send keys = .ok name := by
  have course := resolve_course c send keys
  generalize c.resolve send keys.mac keys.uuid = ended at course asked told
  cases course with
  | missing => cases asked
  | hit => cases asked
  | failed => cases told
  | learnt _ _ _ _ _ tells =>
    cases told
    exact tells

/-- A call with none of its keys in the cache makes a request and tells what comes of it. -/
theorem told_of_request {name : ObjectName} (given : ∃ key, Gives keys key)
    (unowned : ∀ key, c.cache.ownerOf? key = none) (tells : request c.base send keys = .ok name) :
    (c.resolve send keys.mac keys.uuid).2.request.isSome = true ∧
      (c.resolve send keys.mac keys.uuid).2.result = .ok name := by
  have course := resolve_course c send keys
  generalize c.resolve send keys.mac keys.uuid = ended at course ⊢
  cases course with
  | missing nothing =>
    obtain ⟨key, gives⟩ := given
    exact absurd gives (nothing key)
  | hit key _ _ owned => cases (unowned key).symm.trans owned
  | failed _ _ _ _ _ fails => cases fails.symm.trans tells
  | learnt _ _ _ _ _ tells' =>
    cases tells'.symm.trans tells
    exact ⟨rfl, rfl⟩

/-- A request that tells a name leaves its keys in the cache. -/
theorem Keeps.ownerOf?_resolve (h : c.Keeps base capacity known) {name : ObjectName}
    (asked : (c.resolve send keys.mac keys.uuid).2.request.isSome = true)
    (told : (c.resolve send keys.mac keys.uuid).2.result = .ok name) {key : WrittenKey}
    (given : Gives keys key) :
    (c.resolve send keys.mac keys.uuid).1.cache.ownerOf? key = some name := by
  have course := resolve_course c send keys
  generalize c.resolve send keys.mac keys.uuid = ended at course asked told ⊢
  cases course with
  | missing => cases asked
  | hit => cases asked
  | failed => cases told
  | learnt =>
    cases told
    exact ownerOf?_remember h.cache given

/-- A key that is cached is answered from the cache. -/
theorem resolve_alone {key : WrittenKey} (written : key.text ≠ "") {name : ObjectName}
    (owned : c.cache.ownerOf? key = some name) : c.resolve send key.alone.mac key.alone.uuid =
      ({ c with cache := c.cache.touch name }, ⟨.ok name, none, [(.hit, 1)]⟩) := by
  have given : Gives key.alone key := gives_alone.2 ⟨rfl, written⟩
  cases found : c.cache.find? (KeyCache.present? key.alone.mac)
      (KeyCache.present? key.alone.uuid) with
  | none => cases (ownerOf?_of_find? found given).symm.trans owned
  | some name' =>
    obtain ⟨key', given', owned'⟩ := exists_owner_of_find? found
    obtain ⟨rfl, _⟩ := gives_alone.1 given'
    cases owned'.symm.trans owned
    exact resolve_of_hit found

theorem result_of_owned {key : WrittenKey} (written : key.text ≠ "") {name : ObjectName}
    (owned : c.cache.ownerOf? key = some name) :
    (c.resolve send key.alone.mac key.alone.uuid).2.result = .ok name := by
  rw [resolve_alone written owned]

theorem after_append_singleton (c : Client) (send : Transport)
    (calls : List (PerSpace (Option String))) (keys : PerSpace (Option String)) :
    c.after send (calls ++ [keys]) =
      ((c.after send calls).resolve send keys.mac keys.uuid).1 := by
  simp [after]

theorem after_take_succ (c : Client) (send : Transport) {calls : List (PerSpace (Option String))}
    {m : Nat} (call : calls[m]? = some keys) : c.after send (calls.take (m + 1)) =
      ((c.after send (calls.take m)).resolve send keys.mac keys.uuid).1 := by
  rw [List.take_add_one, call, Option.toList_some, after_append_singleton]

end Client

end HardwareIndex
