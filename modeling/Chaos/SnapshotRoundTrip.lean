-- A dataset of a snapshot comes back as it was stored. Where the name of the producer has a dot,
-- the dataset is stored inside of another field than the one that is read, and an error is never
-- returned.
import Chaos.NumberedList
import Chaos.SnapshotDatasets

namespace chaos.data_service.snapshot_dataset

open dotted_fields runs unique_index

namespace SnapshotData

/-! ## The invariant -/

/-- What the field of a dataset holds: nothing where the name of the producer has a dot, and else
what the job has stored last. -/
def heldBy (s : SnapshotData) (n k c : String) (type : DataPackPrefixID) : Option (Node Value) :=
  if '.' ∈ k.toList then none else (s.lastOf n k c type).map fun data => .value (.dataset data)

/-- There is one document for each snapshot, producer and job, and each dataset that is stored has
its document. -/
structure Good (s : SnapshotData) : Prop where
  keys : (s.snapshot_data.map keyOf).Nodup
  docs : ∀ d ∈ s.snapshot_data, ∃ n k c, keyOf d = (some n, some k, some c) ∧
    ∀ type : DataPackPrefixID, d.lookup (k ++ type.text) = s.heldBy n k c type
  found : ∀ e ∈ s.stored, ∃ d ∈ s.snapshot_data,
    keyOf d = (some e.snapshot_name, some e.unique_id, some e.job_work_code)

variable {s t : SnapshotData}

theorem good_start : Good {} :=
  ⟨List.nodup_nil, fun _ h => absurd h List.not_mem_nil, fun _ h => absurd h List.not_mem_nil⟩

/-- Nothing is stored where there is no document. -/
theorem Good.heldBy_eq_none (h : Good s) {n k c : String}
    (hnone : ∀ d ∈ s.snapshot_data, keyOf d ≠ (some n, some k, some c)) (type : DataPackPrefixID) :
    s.heldBy n k c type = none := by
  have hlast : s.lastOf n k c type = none := by
    unfold lastOf
    rw [Option.map_eq_none_iff, List.find?_eq_none]
    intro e he hmatch
    obtain ⟨d, hd, hkey⟩ := h.found e he
    simp only [decide_eq_true_eq] at hmatch
    obtain ⟨rfl, rfl, rfl, -⟩ := hmatch
    exact hnone d hd hkey
  unfold heldBy
  rw [hlast]
  split <;> rfl

/-! ## The store -/

/-- The state after a dataset was stored in the document `d'`. -/
def stores (s : SnapshotData) (n k c : String) (type : DataPackPrefixID) (data : Dataset)
    (snapshot_data : List DataDocument) : SnapshotData :=
  { s with snapshot_data := snapshot_data, stored := ⟨n, k, type, c, data⟩ :: s.stored }

/-- What is stored is the last of its job, and leaves what the other jobs have stored. -/
theorem lastOf_stores (n k c : String) (type : DataPackPrefixID) (data : Dataset)
    (docs : List DataDocument) (n' k' c' : String) (type' : DataPackPrefixID) :
    (s.stores n k c type data docs).lastOf n' k' c' type' =
      if n = n' ∧ k = k' ∧ c = c' ∧ type = type' then some data else s.lastOf n' k' c' type' := by
  unfold lastOf stores
  rw [List.find?_cons]
  by_cases heq : n = n' ∧ k = k' ∧ c = c' ∧ type = type'
  · rw [if_pos heq, decide_eq_true heq]
    rfl
  · rw [if_neg heq, decide_eq_false heq]

/-- The document after the store. -/
theorem lookup_after_set {d d' : DataDocument} {n k c : String} {type : DataPackPrefixID}
    {data : Dataset} (docs : List DataDocument)
    (hd : ∀ type : DataPackPrefixID, d.lookup (k ++ type.text) = s.heldBy n k c type)
    (hset : set (k ++ type.text) (.dataset data) d = .ok d') (type' : DataPackPrefixID) :
    d'.lookup (k ++ type'.text) = (s.stores n k c type data docs).heldBy n k c type' := by
  have hdots := dot_mem_field k
  unfold heldBy at hd ⊢
  rw [lastOf_stores]
  by_cases hdot : '.' ∈ k.toList
  · rw [lookup_set_dotted ((hdots type').mpr hdot) hset, hd, if_pos hdot, if_pos hdot]
  rw [if_neg hdot]
  by_cases htype : type = type'
  · subst htype
    rw [lookup_set_self (fun hmem => hdot ((hdots type).mp hmem)) hset, if_pos ⟨rfl, rfl, rfl, rfl⟩]
    rfl
  · rw [lookup_set_ne (fun hmem => hdot ((hdots type).mp hmem))
      (fun heq => htype (field_inj k heq.symm)) hset, hd, if_neg hdot,
      if_neg fun heq => htype heq.2.2.2]

theorem heldBy_stores_of_ne {n k c n' k' c' : String} {type : DataPackPrefixID} {data : Dataset}
    (docs : List DataDocument)
    (hne : (some n', some k', some c') ≠ (some n, some k, some c)) (type' : DataPackPrefixID) :
    (s.stores n k c type data docs).heldBy n' k' c' type' = s.heldBy n' k' c' type' := by
  have hother : ¬(n = n' ∧ k = k' ∧ c = c' ∧ type = type') := by
    rintro ⟨rfl, rfl, rfl, -⟩
    exact hne rfl
  unfold heldBy
  rw [lastOf_stores, if_neg hother]

/-- A document of another key is not touched. -/
theorem Good.other_doc (h : Good s) {n k c : String} {type : DataPackPrefixID} {data : Dataset}
    (docs : List DataDocument) {d : DataDocument} (hd : d ∈ s.snapshot_data)
    (hne : keyOf d ≠ (some n, some k, some c)) :
    ∃ n' k' c', keyOf d = (some n', some k', some c') ∧ ∀ type' : DataPackPrefixID,
      d.lookup (k' ++ type'.text) = (s.stores n k c type data docs).heldBy n' k' c' type' := by
  obtain ⟨n', k', c', hkey, hlookup⟩ := h.docs d hd
  refine ⟨n', k', c', hkey, fun type' => ?_⟩
  rw [hlookup, heldBy_stores_of_ne docs (hkey ▸ hne)]

theorem ofJob_iff {n k c : String} {d : DataDocument} :
    ofJob n k c d = true ↔ keyOf d = (some n, some k, some c) := decide_eq_true_iff

/-- A store in the document of the job. -/
theorem Good.stores_in_place (h : Good s) {n k c : String} {type : DataPackPrefixID}
    {data : Dataset} {d d' : DataDocument} (hd : d ∈ s.snapshot_data)
    (hkey : keyOf d = (some n, some k, some c))
    (hset : set (k ++ type.text) (.dataset data) d = .ok d') :
    Good (s.stores n k c type data
      (s.snapshot_data.map fun e => if ofJob n k c e then d' else e)) := by
  have hkey' := keyOf_set hkey hset
  have hkeys : ∀ e, keyOf (if ofJob n k c e then d' else e) = keyOf e := by
    intro e
    split
    · rename_i he
      rw [hkey', ofJob_iff.mp he]
    · rfl
  refine ⟨?_, ?_, ?_⟩
  · have hmap : (s.snapshot_data.map fun e => if ofJob n k c e then d' else e).map keyOf =
        s.snapshot_data.map keyOf := by
      rw [List.map_map]
      exact List.map_congr_left fun e _ => hkeys e
    exact hmap ▸ h.keys
  · intro e' he'
    obtain ⟨e, he, rfl⟩ := List.mem_map.mp he'
    by_cases hjob : ofJob n k c e = true
    · rw [if_pos hjob]
      obtain ⟨n', k', c', hkey₀, hlookup⟩ := h.docs d hd
      rw [hkey] at hkey₀
      cases hkey₀
      exact ⟨n, k, c, hkey', lookup_after_set _ hlookup hset⟩
    · rw [if_neg hjob]
      exact h.other_doc _ he fun heq => hjob (ofJob_iff.mpr heq)
  · intro e he
    rcases List.mem_cons.mp he with rfl | he
    · exact ⟨_, List.mem_map_of_mem hd, by rw [hkeys, hkey]⟩
    · obtain ⟨d₁, hd₁, hkey₁⟩ := h.found e he
      exact ⟨_, List.mem_map_of_mem hd₁, by rw [hkeys, hkey₁]⟩

/-- A store in a new document. -/
theorem Good.stores_in_new (h : Good s) {n k c : String} {type : DataPackPrefixID}
    {data : Dataset} {oid : List UInt8} {d' : DataDocument}
    (hnone : ∀ d ∈ s.snapshot_data, keyOf d ≠ (some n, some k, some c))
    (hset : set (k ++ type.text) (.dataset data) (newDocument oid n k c) = .ok d') :
    Good (s.stores n k c type data (s.snapshot_data ++ [d'])) := by
  have hkey' := keyOf_set (keyOf_newDocument oid) hset
  refine ⟨?_, ?_, ?_⟩
  · simp only [stores, List.map_append, List.map_cons, List.map_nil]
    refine numbered_list.nodup_snoc h.keys fun hmem => ?_
    obtain ⟨d, hd, hkey⟩ := List.mem_map.mp hmem
    exact hnone d hd (hkey.trans hkey')
  · intro d hd
    rcases List.mem_append.mp hd with hd | hd
    · exact h.other_doc _ hd (hnone d hd)
    · rw [List.mem_singleton.mp hd]
      refine ⟨n, k, c, hkey', lookup_after_set _ (fun type => ?_) hset⟩
      rw [lookup_newDocument, h.heldBy_eq_none hnone]
  · intro e he
    rcases List.mem_cons.mp he with rfl | he
    · exact ⟨d', by simp [stores], hkey'⟩
    · obtain ⟨d, hd, hkey⟩ := h.found e he
      exact ⟨d, List.mem_append_left _ hd, hkey⟩

/-- A store that reports success sets the field in the document of the job, or in a new one. -/
theorem Good.stores_of_set (h : Good s) {n k c : String} {type : DataPackPrefixID}
    {data : Dataset} {oid : List UInt8} {d' : DataDocument}
    (hset : set (k ++ type.text) (.dataset data)
      ((s.snapshot_data.find? (ofJob n k c)).getD (newDocument oid n k c)) = .ok d') :
    Good (s.stores n k c type data
      (upsert (ofJob n k c) (fun _ => d') (newDocument oid n k c) s.snapshot_data)) := by
  cases hfind : s.snapshot_data.find? (ofJob n k c) with
  | none =>
    rw [hfind] at hset
    have hnone : ∀ d ∈ s.snapshot_data, ¬ofJob n k c d = true := List.find?_eq_none.mp hfind
    have hany : s.snapshot_data.any (ofJob n k c) = false := by simpa using hnone
    rw [upsert, hany]
    exact h.stores_in_new (fun d hd heq => hnone d hd (ofJob_iff.mpr heq)) hset
  | some d =>
    rw [hfind] at hset
    have hd := List.mem_of_find?_eq_some hfind
    have hjob := List.find?_some hfind
    rw [upsert, List.any_eq_true.mpr ⟨d, hd, hjob⟩, if_pos rfl, update_eq_map h.keys]
    · exact h.stores_in_place hd (ofJob_iff.mp hjob) hset
    · intro a _ b _ ha hb
      rw [ofJob_iff.mp ha, ofJob_iff.mp hb]

/-! ## The steps -/

theorem Good.reads (h : Good s) (reads : List DatasetRead) : Good { s with reads := reads } :=
  ⟨h.keys, h.docs, h.found⟩

/-- A delete takes the documents of a name, and what is stored in them. -/
theorem Good.deletes (h : Good s) (name : String) : Good { s with
    snapshot_data := s.snapshot_data.filter fun d => textOf "snap_name" d ≠ some name
    stored := s.stored.filter fun e => e.snapshot_name ≠ name } := by
  refine ⟨(List.filter_sublist.map keyOf).nodup h.keys, ?_, ?_⟩
  · intro d hd
    rw [List.mem_filter, decide_eq_true_eq] at hd
    obtain ⟨n, k, c, hkey, hlookup⟩ := h.docs d hd.1
    have hn : n ≠ name := by
      rintro rfl
      exact hd.2 (keyOf_eq.mp hkey).1
    refine ⟨n, k, c, hkey, fun type => ?_⟩
    rw [hlookup]
    unfold heldBy lastOf
    rw [List.find?_filter]
    congr 4
    funext e
    by_cases he : e.snapshot_name = n
    · simp [he, hn]
    · simp [he]
  · intro e he
    rw [List.mem_filter, decide_eq_true_eq] at he
    obtain ⟨d, hd, hkey⟩ := h.found e he.1
    refine ⟨d, List.mem_filter.mpr ⟨hd, ?_⟩, hkey⟩
    rw [(keyOf_eq.mp hkey).1]
    simpa using he.2

/-- What the store of a dataset does. -/
theorem store_cases (docs : List DataDocument) (c n k : String) (type : DataPackPrefixID)
    (cache : Int × Option Dataset) (oid : List UInt8) (err : Int) :
    (∃ e, e ≠ 0 ∧ storeDatasetTypeInSnapsnot docs c n k type cache oid err = (e, docs)) ∨
    ∃ data d', cache.2 = some data ∧
      set (k ++ type.text) (.dataset data)
        ((docs.find? (ofJob n k c)).getD (newDocument oid n k c)) = .ok d' ∧
      storeDatasetTypeInSnapsnot docs c n k type cache oid err =
        (0, upsert (ofJob n k c) (fun _ => d') (newDocument oid n k c) docs) := by
  unfold storeDatasetTypeInSnapsnot
  split
  · rename_i hcache
    exact .inl ⟨_, hcache, rfl⟩
  split
  · exact .inl ⟨-1, by decide, rfl⟩
  rename_i data hdata
  unfold snapshotAddElementToSnapshot
  split
  · rename_i herr
    exact .inl ⟨_, herr, rfl⟩
  dsimp only
  split
  · rename_i refusal _
    exact .inl ⟨_, by cases refusal <;> decide, rfl⟩
  · rename_i d' hset
    exact .inr ⟨data, d', hdata, hset, rfl⟩

theorem Good.step (h : Good s) {a : Label} (ht : s.step a = some t) : Good t := by
  cases a with
  | store c n k type cache oid err =>
    simp only [SnapshotData.step] at ht
    rcases store_cases s.snapshot_data c n k type cache oid err with
      ⟨e, he, heq⟩ | ⟨data, d', hdata, hset, heq⟩
    · rw [heq] at ht
      split at ht
      · rename_i h0 _
        exact absurd h0 he
      · cases ht
        exact h
    · rw [heq, hdata] at ht
      cases ht
      exact h.stores_of_set hset
  | get n k type choice err =>
    cases ht
    exact h.reads _
  | deleteWithName name err =>
    simp only [SnapshotData.step, snapshotDeleteWithName] at ht
    split at ht <;> cases ht
    · exact h
    · exact h.deletes name

/-! ## The reads -/

/-- `findOne` returns a document of the snapshot and the producer. -/
theorem findOne_eq_some {docs : List DataDocument} {n k : String} {choice : Nat}
    {d : DataDocument} (h : findOne docs n k choice = some d) :
    d ∈ docs ∧ textOf "snap_name" d = some n ∧ textOf "producer_id" d = some k := by
  simpa using List.mem_of_getElem? h

/-- What a call returns is what the job of the document has stored last, or nothing where the name
of the producer has a dot. -/
theorem Good.get_eq (h : Good s) {n k : String} {choice : Nat} {d : DataDocument}
    (hd : findOne s.snapshot_data n k choice = some d) (type : DataPackPrefixID) :
    ∃ c, textOf "check_code" d = some c ∧
      snapshotGetDatasetForProducerKey s.snapshot_data n k type choice 0 =
        (0, if '.' ∈ k.toList then none else (s.lastOf n k c type).map (·.bytes)) := by
  obtain ⟨hmem, hn, hk⟩ := findOne_eq_some hd
  obtain ⟨n', k', c, hkey, hlookup⟩ := h.docs d hmem
  rw [keyOf_eq, hn, hk] at hkey
  obtain ⟨hn', hk', hc⟩ := hkey
  cases hn'
  cases hk'
  refine ⟨c, hc, ?_⟩
  simp only [snapshotGetDatasetForProducerKey, hd, Option.getD_some, hlookup type, heldBy]
  by_cases hdot : '.' ∈ k.toList
  · simp only [if_pos hdot, ne_eq, not_true_eq_false, if_false]
  · simp only [if_neg hdot, ne_eq, not_true_eq_false, if_false]
    cases s.lastOf n k c type with
    | none => rfl
    | some data =>
      obtain ⟨hpos, htake⟩ := take_objsize data
      simp only [Option.map_some, getObjectField, if_pos hpos, htake]

/-- A call is right just when the condition holds for it. -/
theorem Good.isRight_iff (h : Good s) (n k : String) (type : DataPackPrefixID) (choice : Nat)
    (err : Int) :
    (⟨err, s.last n k type,
      snapshotGetDatasetForProducerKey s.snapshot_data n k type choice err⟩ :
        DatasetRead).IsRight ↔ s.ReadsBack (.get n k type choice err) := by
  unfold DatasetRead.IsRight ReadsBack
  cases hlast : s.last n k type with
  | none => simp [snapshotGetDatasetForProducerKey, hlast]
  | some data =>
    by_cases herr : err = 0
    · subst herr
      cases hfind : findOne s.snapshot_data n k choice with
      | none => simp [snapshotGetDatasetForProducerKey, hfind]
      | some d =>
        obtain ⟨c, hc, hget⟩ := h.get_eq hfind type
        have hbytes : ∀ a b : Dataset, a.bytes = b.bytes ↔ a = b := by
          rintro ⟨a, _, _⟩ ⟨b, _, _⟩
          simp
        by_cases hdot : '.' ∈ k.toList
        · simp [hget, hdot]
        · simp [hget, hdot, hc, hbytes, hlast, hfind]
    · simp [snapshotGetDatasetForProducerKey, herr]

/-- A store leaves the calls that were answered before it. -/
theorem reads_store {c n k : String} {type : DataPackPrefixID} {cache : Int × Option Dataset}
    {oid : List UInt8} {err : Int} (ht : s.step (.store c n k type cache oid err) = some t) :
    t.reads = s.reads := by
  simp only [SnapshotData.step] at ht
  split at ht <;> cases ht <;> rfl

/-! ## The law -/

/-- In a run every call is right just when each of its calls meets the condition: a dataset that is
stored comes back with its bytes, and without one, or when the database fails, there is an error. -/
theorem datasets_come_back_iff (as : List Label) :
    RunOk step ReadsBack {} as ↔
      ∀ n t, run step {} (as.take n) = some t → ∀ r ∈ t.reads, r.IsRight := by
  refine runOk_iff_all_good (fun s => Good s ∧ ∀ r ∈ s.reads, r.IsRight) (fun _ h => h.2)
    (fun s a t h ht hgood => ⟨h.1.step ht, hgood⟩) ?_ ⟨good_start, by simp⟩
  rintro s a ⟨h, hreads⟩
  cases a with
  | store c n k type cache oid err =>
    refine iff_of_true trivial fun t ht => ?_
    rw [reads_store ht]
    exact hreads
  | get n k type choice err =>
    rw [← h.isRight_iff]
    constructor
    · intro hright t ht r hr
      cases ht
      rcases List.mem_append.mp hr with hr | hr
      · exact hreads r hr
      · exact List.mem_singleton.mp hr ▸ hright
    · intro hall
      exact hall _ rfl _ (by simp)
  | deleteWithName name err =>
    refine iff_of_true trivial fun t ht => ?_
    cases ht
    exact hreads

/-- A producer with a dot in its name: the store reports success, and the call returns no data. -/
theorem dotted_producer_is_lost : ¬∀ n t, run step {}
    ([.store "code" "snap" "LINAC.PS" .output (0, some ⟨[5, 0, 0, 0, 0], rfl, by decide⟩) [] 0,
      .get "snap" "LINAC.PS" .output 0 0].take n) = some t → ∀ r ∈ t.reads, r.IsRight := by
  intro h
  have hread : (0, none) = ((0, some [5, 0, 0, 0, 0]) : Int × Option (List UInt8)) :=
    h 2 _ rfl _ List.mem_cons_self
  cases hread

end SnapshotData

end chaos.data_service.snapshot_dataset
