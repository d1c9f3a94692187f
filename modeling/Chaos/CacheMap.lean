-- The cache as a map from keys to buffers: what is stored is found with its length and its bytes
-- until it is deleted, whatever the hash function is and however far the table has grown. A value
-- that is too large for every class, and memory that runs out while items may be evicted, break
-- this.
import Chaos.CacheOperations
import Chaos.Runs

open Function chained_table chaos.memory runs

namespace chaos.common.data.cache

/-- The cache, and for each key the buffer of the last `storeItem` that succeeded and was not
deleted. -/
structure Session where
  dataCache : DataCache
  stored : Key → Option Buffer

def Session.start (dataCache : DataCache) : Session :=
  { dataCache := dataCache, stored := fun _ => none }

def Session.step (hash : Key → UInt32) (s : Session) : Call → Option Session
  | .getItem stack k => (s.dataCache.getItem hash stack k).map fun r => { s with dataCache := r.1 }
  | .storeItem w k buffer => (s.dataCache.storeItem hash w k buffer).map fun r =>
      { dataCache := r.1
        stored := if r.2 then update s.stored k (some buffer) else s.stored }
  | .deleteItem stack k => (s.dataCache.deleteItem hash stack k).map fun r =>
      { dataCache := r.1
        stored := if r.2 then update s.stored k none else s.stored }
  | .isItemPresent k => some { s with dataCache := (s.dataCache.isItemPresent hash k).1 }
  | .moveNextBucket => (s.dataCache.moveNextBucket hash).map fun t => { s with dataCache := t }

/-- What is claimed: each key is answered as it was stored. -/
def Session.Answered (hash : Key → UInt32) (s : Session) : Prop :=
  ∀ stack k,
    (∃ t, s.dataCache.getItem hash stack k =
      some (t, (s.stored k).map fun buffer => (buffer.bufferLen, buffer.bytes))) ∧
    (s.dataCache.isItemPresent hash k).2 = (s.stored k).isSome

namespace DataCache

variable {hash : Key → UInt32} {s t u : DataCache} {p q : Nat} {c : Chunk} {a : Answers}
  {w : World} {k : Key} {buffer : Buffer} {pool : ManagedMemory} {table : Bool}
  {stored : Key → Option Buffer}

/-! ## What the table shows -/

/-- What an answer is made of. -/
def content (s : DataCache) (p : Nat) : Key × UInt32 × List UInt8 :=
  ((s.items p).key, (s.items p).nbytes, (s.items p).item_data)

/-- The items in the table are the buffers that are stored. -/
structure Shows (stored : Key → Option Buffer) (s : DataCache) : Prop where
  of_mem : ∀ p ∈ s.table, ∃ buffer, stored (s.key p) = some buffer ∧
    s.content p = (s.key p, buffer.bufferLen, buffer.bytes)
  mem : ∀ k buffer, stored k = some buffer → ∃ p ∈ s.table, s.key p = k

/-- The same items in the table, with the same contents. -/
theorem Shows.congr (h : Shows stored s) (htable : ∀ q, q ∈ t.table ↔ q ∈ s.table)
    (hcontent : ∀ q ∈ s.table, t.content q = s.content q) : Shows stored t := by
  have hkey : ∀ q ∈ s.table, t.key q = s.key q := fun q hq => congrArg Prod.fst (hcontent q hq)
  refine ⟨fun q hq => ?_, fun k buffer hk => ?_⟩
  · rw [htable] at hq
    rw [hkey q hq, hcontent q hq]
    exact h.of_mem q hq
  · obtain ⟨q, hq, heq⟩ := h.mem k buffer hk
    exact ⟨q, (htable q).mpr hq, (hkey q hq).trans heq⟩

/-- Without an item its key shows nothing. -/
theorem Shows.unlinked (hsound : Sound hash s) (h : Shows stored s) (hp : p ∈ s.table) :
    Shows (update stored (s.key p) none) (s.unlinked hash p) := by
  have hmem : ∀ q, q ∈ (s.unlinked hash p).table ↔ q ∈ s.table ∧ q ≠ p :=
    fun q => hsound.mem_unlinked hp
  refine ⟨fun q hq => ?_, fun k buffer hk => ?_⟩
  · obtain ⟨hq, hne⟩ := (hmem q).mp hq
    have hother : s.key q ≠ s.key p := fun heq => hne (hsound.placed.eq_of_key_eq hq hp heq)
    obtain ⟨buffer, hstored, hcontent⟩ := h.of_mem q hq
    refine ⟨buffer, ?_, ?_⟩
    · rw [unlinked_key, update_of_ne hother]
      exact hstored
    · rw [content, unlinked_key, unlinked_of_ne hne]
      exact hcontent
  · by_cases hkp : k = s.key p
    · rw [hkp, update_self] at hk
      cases hk
    · rw [update_of_ne hkp] at hk
      obtain ⟨q, hq, rfl⟩ := h.mem k buffer hk
      refine ⟨q, (hmem q).mpr ⟨hq, ?_⟩, congrFun unlinked_key q⟩
      rintro rfl
      exact hkp rfl

/-- A new item shows its buffer. -/
theorem Shows.linkedIn (table : Bool) (hsound : Sound hash s) (h : Shows stored s)
    (hnew : ∀ q ∈ s.table, s.key q ≠ s.key p)
    (hcontent : s.content p = (k, buffer.bufferLen, buffer.bytes)) :
    Shows (update stored k (some buffer)) (s.linkedIn hash table p) := by
  have hmem : ∀ q, q ∈ (s.linkedIn hash table p).table ↔ q = p ∨ q ∈ s.table :=
    fun q => hsound.mem_linkedTable hnew
  have hkey : s.key p = k := congrArg Prod.fst hcontent
  subst hkey
  refine ⟨fun q hq => ?_, fun k buffer' hk => ?_⟩
  · rcases (hmem q).mp hq with rfl | hq
    · refine ⟨buffer, ?_, ?_⟩
      · rw [linkedIn_key, update_self]
      · rw [content, linkedIn_key, linkedIn_self]
        exact hcontent
    · have hne : q ≠ p := fun heq => hnew q hq (congrArg s.key heq)
      obtain ⟨buffer', hstored, hcontent'⟩ := h.of_mem q hq
      refine ⟨buffer', ?_, ?_⟩
      · rw [linkedIn_key, update_of_ne (hnew q hq)]
        exact hstored
      · rw [content, linkedIn_key, linkedIn_of_ne hne]
        exact hcontent'
  · by_cases hkp : k = s.key p
    · exact ⟨p, (hmem p).mpr (.inl rfl), (congrFun linkedIn_key p).trans hkp.symm⟩
    · rw [update_of_ne hkp] at hk
      obtain ⟨q, hq, heq⟩ := h.mem k buffer' hk
      exact ⟨q, (hmem q).mpr (.inr hq), (congrFun linkedIn_key q).trans heq⟩

theorem content_setItem {i : Item} (h : (i.key, i.nbytes, i.item_data) = s.content p)
    (q : Nat) : (s.setItem p i).content q = s.content q :=
  setItem_congr (f := fun it => (it.key, it.nbytes, it.item_data)) h q

theorem Shows.setRef (h : Shows stored s) (p : Nat) (n : UInt16) : Shows stored (s.setRef p n) :=
  h.congr (fun _ => Iff.rfl) fun q _ =>
    content_setItem (i := { s.items p with refcount := n }) rfl q

theorem Shows.used (h : Shows stored s) (p : Nat) : Shows stored (s.used p) := h.setRef p _

theorem Shows.dropped (h : Shows stored s) (a : Answers) (p : Nat) :
    Shows stored (s.dropped a p) := by
  unfold DataCache.dropped
  split
  · have hset := h.setRef p (lessOne (s.items p).refcount)
    refine hset.congr (fun _ => Iff.rfl) fun q _ => ?_
    generalize s.setRef p (lessOne (s.items p).refcount) = t
    exact content_setItem (i := { t.items p with slabs_clsid := 0, slabbed := true }) rfl q
  · exact h.setRef p _

theorem Shows.tried (h : Shows stored s) (htried : Tried hash s u) : Shows stored u := by
  refine h.congr (fun q => by rw [htried.table_eq]) fun q _ => ?_
  rw [content, content, htried.items_eq]

/-- An item that is not linked yet is of no concern. -/
theorem Shows.filled (pool : ManagedMemory) (k : Key) (buffer : Buffer) (h : Shows stored u)
    (hout : p ∉ u.table) :
    Shows stored (u.filled pool p k buffer) := by
  refine h.congr (fun _ => Iff.rfl) fun q hq => ?_
  rw [content, content, filled_of_ne (ne_of_mem_of_not_mem hq hout)]

/-! ## The operations -/

theorem content_filled : (u.filled pool p k buffer).content p =
    (k, buffer.bufferLen, buffer.bytes) := by
  rw [content, filled_self]
  rfl

/-- A store that succeeds is shown, and one that does not changes nothing. -/
theorem Shows.stores (hsound : Sound hash s) (h : Shows stored s) {ok : Bool}
    (hstores : Stores hash s w k buffer t ok) :
    Shows (if ok then update stored k (some buffer) else stored) t := by
  cases hstores with
  | refused hfind htried => exact h.tried htried
  | refusedAgain hold hfind htried => exact ((h.used _).tried htried).dropped _ _
  | @stored u a pool p hgets hfind htried htakes =>
    have hout := htried.sound.not_mem_of_takes htakes
    have hnew := htried.sound.filled_key_ne (htried.absent hsound hfind) htakes
    have hshows := (h.tried htried).filled pool k buffer hout
    have hlinked := Shows.linkedIn w.table (htried.sound.filled htakes).2 hshows hnew
      content_filled
    exact hlinked.dropped w.stack p
  | @replaced u old a pool p hgets hold hfind htried htakes =>
    have hout := htried.sound.not_mem_of_takes htakes
    obtain ⟨hp, hkey, -⟩ := htried.present hsound hfind
    have hfilled := (htried.sound.filled htakes).2
    have heq := htried.sound.filled_key_eq hp hkey htakes
    have hshows := ((h.used old.ptr).tried htried).filled pool k buffer hout
    have hnew := hfilled.key_unlinked_ne hp heq
    have hcontent : ((u.filled pool p k buffer).unlinked hash old.ptr).content p =
        (k, buffer.bufferLen, buffer.bytes) := by
      have hne : p ≠ old.ptr := (ne_of_mem_of_not_mem hp hout).symm
      rw [content, unlinked_of_ne hne]
      exact content_filled
    have hlinked := Shows.linkedIn w.table (hfilled.unlinked hp)
      (Shows.unlinked hfilled hshows hp) hnew hcontent
    rw [← heq, filled_key_self, update_idem] at hlinked
    have hdropped := hlinked.dropped w.stack old.ptr
    rw [if_pos rfl, DataCache.replaced]
    exact hdropped.dropped w.stack p

theorem Shows.deleted {stack : Answers} (hsound : Sound hash s) (h : Shows stored s)
    (hfind : s.assoc_find hash k = some p) :
    Shows (update stored k none) (((s.used p).unlinked hash p).dropped stack p) := by
  obtain ⟨hp, hkey⟩ := hsound.assoc_find_eq_some_iff.mp hfind
  have hout := Shows.unlinked (hsound.used p) (h.used p) hp
  rw [DataCache.used, setRef_key, hkey] at hout
  exact hout.dropped _ _

/-- What a lookup finds is what is stored. -/
theorem Shows.find (hsound : Sound hash s) (h : Shows stored s) (k : Key) :
    (s.assoc_find hash k = none ∧ stored k = none) ∨
    ∃ p buffer, s.assoc_find hash k = some p ∧ stored k = some buffer ∧
      (s.items p).nbytes = buffer.bufferLen ∧ (s.items p).item_data = buffer.bytes := by
  cases hfind : s.assoc_find hash k with
  | none =>
    refine .inl ⟨rfl, Option.eq_none_iff_forall_ne_some.mpr fun buffer hk => ?_⟩
    obtain ⟨p, hp, hkey⟩ := h.mem k buffer hk
    exact hsound.assoc_find_eq_none_iff.mp hfind p hp hkey
  | some p =>
    obtain ⟨hp, rfl⟩ := hsound.assoc_find_eq_some_iff.mp hfind
    obtain ⟨buffer, hstored, hcontent⟩ := h.of_mem p hp
    have hrest := congrArg Prod.snd hcontent
    exact .inr ⟨p, buffer, rfl, hstored, congrArg Prod.fst hrest, congrArg Prod.snd hrest⟩

/-- The length of a buffer is the number of its bytes. -/
theorem take_bufferLen (buffer : Buffer) :
    buffer.bytes.take buffer.bufferLen.toNat = buffer.bytes := by
  have hlen : buffer.bufferLen.toNat = buffer.bytes.length :=
    Nat.mod_eq_of_lt buffer.inRange
  rw [hlen, List.take_length]

theorem Sound.init {settings : CacheSettings} {zeroed table : Bool} {area : Answers}
    {pages : Nat → Answers} (hok : InitGiven settings.initCall area pages)
    (hinit : init settings zeroed table area pages = some s) : Sound hash s := by
  unfold DataCache.init at hinit
  split at hinit
  · obtain ⟨pool, hpool, rfl⟩ := Option.map_eq_some_iff.mp hinit
    have hempty : ∀ p, p ∉ (Table.empty HASHPOWER : Table Nat) := fun p => Table.not_mem_empty _
    refine ⟨Holds.init (Kept.init hok hpool), Table.Placed.empty _, fun p hp => ?_, nofun,
      fun id p => ?_, fun id => List.nodup_nil, fun p _ => rfl⟩
    · exact absurd hp (hempty p)
    · exact iff_of_false List.not_mem_nil fun hp => hempty p hp.1
  · cases hinit

theorem Shows.init {settings : CacheSettings} {zeroed table : Bool} {area : Answers}
    {pages : Nat → Answers} (hinit : init settings zeroed table area pages = some s) :
    Shows (fun _ => none) s := by
  unfold DataCache.init at hinit
  split at hinit
  · obtain ⟨pool, hpool, rfl⟩ := Option.map_eq_some_iff.mp hinit
    exact ⟨fun p hp => absurd hp (Table.not_mem_empty _), nofun⟩
  · cases hinit

end DataCache

/-! ## Runs -/

namespace Session

open DataCache

variable {hash : Key → UInt32} {s : Session}

/-- The invariant of the runs. -/
structure Mapped (hash : Key → UInt32) (s : Session) : Prop where
  sound : Sound hash s.dataCache
  shows : Shows s.stored s.dataCache

/-- A call that meets the condition is defined, and does to the map what its answer says. -/
theorem Mapped.step (h : Mapped hash s) (c : Call) (hok : s.dataCache.CallOk hash c) :
    ∃ t, s.step hash c = some t ∧ Mapped hash t := by
  cases c with
  | getItem stack k =>
    rcases h.sound.getItem stack k with ⟨-, heq⟩ | ⟨c, -, -, heq, hsound⟩
    · exact ⟨_, congrArg (Option.map _) heq, h⟩
    · exact ⟨_, congrArg (Option.map _) heq, hsound, (h.shows.used _).dropped _ _⟩
  | storeItem w k buffer =>
    obtain ⟨t, ok, heq, hstores, hsound⟩ := h.sound.storeItem hok.1 hok.2
    exact ⟨_, congrArg (Option.map _) heq, hsound, Shows.stores h.sound h.shows hstores⟩
  | deleteItem stack k =>
    rcases h.sound.deleteItem stack hok with ⟨-, heq⟩ | ⟨c, -, hfind, heq, hsound⟩
    · exact ⟨_, congrArg (Option.map _) heq, h⟩
    · exact ⟨_, congrArg (Option.map _) heq, hsound, Shows.deleted h.sound h.shows hfind⟩
  | isItemPresent k =>
    refine ⟨_, rfl, ?_⟩
    cases hfind : s.dataCache.assoc_find hash k with
    | none =>
      rw [isItemPresent, do_item_get_none hfind]
      exact h
    | some p =>
      rw [isItemPresent, do_item_get_some hfind]
      exact ⟨h.sound.used p, h.shows.used p⟩
  | moveNextBucket =>
    rcases h.sound.moveNextBucket hok with heq | ⟨hexp, heq⟩
    · exact ⟨_, congrArg (Option.map _) heq, h⟩
    · refine ⟨_, congrArg (Option.map _) heq, h.sound.moveBucket hexp, ?_⟩
      exact h.shows.congr (fun q => Table.mem_moveBucket) fun q _ => rfl

theorem Mapped.answered (h : Mapped hash s) : Answered hash s := by
  intro stack k
  rcases Shows.find h.sound h.shows k with ⟨hfind, hstored⟩ | ⟨p, buffer, hfind, hstored, hn, hd⟩
  · constructor
    · rcases h.sound.getItem stack k with ⟨-, heq⟩ | ⟨c, -, hsome, -⟩
      · exact ⟨s.dataCache, by rw [heq, hstored]; rfl⟩
      · rw [hfind] at hsome
        cases hsome
    · rw [isItemPresent, do_item_get_none hfind, hstored]
      rfl
  · constructor
    · rcases h.sound.getItem stack k with ⟨hnone, -⟩ | ⟨c, -, hsome, heq, -⟩
      · rw [hfind] at hnone
        cases hnone
      · rw [hfind] at hsome
        obtain rfl := Option.some.inj hsome
        exact ⟨_, by rw [heq, hn, hd, take_bufferLen, hstored]; rfl⟩
    · rw [isItemPresent, do_item_get_some hfind, hstored]
      rfl

variable {settings : CacheSettings} {zeroed table : Bool} {area : Answers}
  {pages : Nat → Answers} {d : DataCache} {calls : List Call}

/-- Every run of calls that meet the condition is defined, and at its end each key is answered as
it was stored. -/
theorem data_cache_is_a_map (hash : Key → UInt32)
    (hpages : InitGiven settings.initCall area pages)
    (hinit : DataCache.init settings zeroed table area pages = some d)
    (hok : RunOk (Session.step hash) (fun s c => s.dataCache.CallOk hash c) (start d) calls) :
    ∃ t, run (Session.step hash) (start d) calls = some t ∧ Answered hash t := by
  have hstart : Mapped hash (start d) := ⟨Sound.init hpages hinit, Shows.init hinit⟩
  obtain ⟨t, hrun, ht⟩ := run_ends_of_ok (Mapped hash) (fun s c hs hc => hs.step c hc) hstart hok
  exact ⟨t, hrun, ht.answered⟩

/-- Chunks of 48, 96, 192, 384 and 1024 bytes. -/
def fiveClasses : CacheSettings :=
  { maxbytes := 0
    evict_to_free := 0
    fits := fun size => size ≤ 512
    grow := fun size => size * 2
    chunk_size := 48
    use_cas := 0
    item_size_max := 1024
    preallocation := 0 }

def enoughWorld : World :=
  { page := enoughMemory, second := enoughMemory, table := true, stack := enoughMemory }

def keyOf (byte : UInt8) : Key := { bytes := [byte], short := Nat.le_add_left 1 249 }

/-- A byte that is repeated. -/
def bufferOf (byte : UInt8) (n : UInt16) : Buffer :=
  { bytes := List.replicate n.toNat byte
    inRange := by
      rw [List.length_replicate]
      exact Nat.lt_trans n.toNat_lt (by decide) }

/-- Two keys with one hash value, of which the first is replaced and the second deleted. -/
def twoKeys : List Call :=
  [.storeItem enoughWorld (keyOf 1) (bufferOf 7 5),
    .storeItem enoughWorld (keyOf 2) (bufferOf 8 6),
    .storeItem enoughWorld (keyOf 1) (bufferOf 9 200),
    .isItemPresent (keyOf 1), .deleteItem enoughMemory (keyOf 2),
    .getItem enoughMemory (keyOf 1), .moveNextBucket]

theorem two_keys_are_a_map :
    ∃ d t, DataCache.init fiveClasses true true enoughMemory (fun _ => enoughMemory) = some d ∧
      run (Session.step fun _ => 7) (start d) twoKeys = some t ∧ Answered (fun _ => 7) t ∧
      t.stored (keyOf 1) = some (bufferOf 9 200) ∧ t.stored (keyOf 2) = none := by
  have hsome : (DataCache.init fiveClasses true true enoughMemory
      fun _ => enoughMemory).isSome := by decide +kernel
  have hrun : ∀ d ∈ DataCache.init fiveClasses true true enoughMemory fun _ => enoughMemory,
      RunOk (Session.step fun _ => 7) (fun s c => s.dataCache.CallOk (fun _ => 7) c) (start d)
        twoKeys ∧
      ∀ t ∈ run (Session.step fun _ => 7) (start d) twoKeys,
        t.stored (keyOf 1) = some (bufferOf 9 200) ∧ t.stored (keyOf 2) = none := by
    decide +kernel
  obtain ⟨d, hd⟩ := Option.isSome_iff_exists.mp hsome
  obtain ⟨hok, hstored⟩ := hrun d hd
  obtain ⟨t, ht, hanswered⟩ := data_cache_is_a_map (fun _ => 7) (by decide +kernel) hd hok
  exact ⟨d, t, hd, ht, hanswered, hstored t ht⟩

/-- A value that no class holds has no class in the arrays, and the count of the class -1 is past
their end. -/
theorem too_large_value_is_undefined :
    InitGiven fiveClasses.initCall enoughMemory (fun _ => enoughMemory) ∧
      ∃ d, DataCache.init fiveClasses true true enoughMemory (fun _ => enoughMemory) = some d ∧
        run (Session.step fun _ => 7) (start d)
          [.storeItem enoughWorld (keyOf 1) (bufferOf 7 2000)] = none := by
  have hsome : (DataCache.init fiveClasses true true enoughMemory
      fun _ => enoughMemory).isSome := by decide +kernel
  have hrun : ∀ d ∈ DataCache.init fiveClasses true true enoughMemory fun _ => enoughMemory,
      (run (Session.step fun _ => 7) (start d)
        [.storeItem enoughWorld (keyOf 1) (bufferOf 7 2000)]).isNone := by
    decide +kernel
  obtain ⟨d, hd⟩ := Option.isSome_iff_exists.mp hsome
  exact ⟨by decide +kernel, d, hd, Option.isNone_iff_eq_none.mp (hrun d hd)⟩

end Session

end chaos.common.data.cache
