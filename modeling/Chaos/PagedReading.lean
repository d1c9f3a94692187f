-- The laws of the paged reading of a query. The reader gets every index that the cursor has
-- found, once and in order, just when it takes the whole last page in one call and no page
-- but the last ends at a time stamp that the cursor cannot go on from.
import Mathlib.Data.Int.Order.Basic
import Mathlib.Data.List.TakeDrop
import Chaos.IndexCursor

namespace chaos.data_service.vfs

open db_system MongoDBIndexCursor ordered_scan

/-! ## Time stamps -/

theorem toLongLong_next {t : Int} (hlow : -2 ^ 63 ≤ t) (hhigh : t < 2 ^ 63 - 1) :
    toLongLong (ofLongLong t + 1) = t + 1 := by
  have hnat : (ofLongLong t + 1).toNat = ((t % 2 ^ 64).toNat + 1) % 2 ^ 64 := by
    simp only [ofLongLong, UInt64.toNat_add, UInt64.toNat_ofNat']
    have : (1 : UInt64).toNat = 1 := rfl
    omega
  unfold toLongLong
  rw [hnat]
  split <;> omega

/-! ## The documents of a query -/

variable {db : IndexCollection} {q : DataPackIndexQuery}

theorem ascending_selected (db : IndexCollection) (q : DataPackIndexQuery) :
    Ascending IndexDocument.acq_ts_numeric (selected db q) := by
  have hsame : ∀ d ∈ selected db q, d.did = q.did ∧ d.ds_type = q.ds_type := by
    intro d hd
    have := (List.mem_filter.mp hd).2
    simp only [decide_eq_true_eq] at this
    exact ⟨this.1, this.2.1⟩
  refine (List.Pairwise.filter _ db.ordered).imp_of_mem ?_
  intro a b ha hb hab
  obtain ⟨ha₁, ha₂⟩ := hsame a ha
  obtain ⟨hb₁, hb₂⟩ := hsame b hb
  exact hab (ha₁.trans hb₁.symm) (ha₂.trans hb₂.symm)

theorem ascending_since (db : IndexCollection) (q : DataPackIndexQuery) :
    Ascending IndexDocument.acq_ts_numeric (since db q) :=
  (ascending_selected db q).filter _

/-- The found documents are the first ones from the start time on. -/
theorem found_eq_take (db : IndexCollection) (q : DataPackIndexQuery) :
    found db q = (since db q).take (found db q).length :=
  filter_le_eq_take (ascending_since db q) (toLongLong q.end_ts)

theorem found_getElem? {k : Nat} (hk : k < (found db q).length) :
    (found db q)[k]? = (since db q)[k]? := by
  rw [found_eq_take, List.getElem?_take_of_lt hk]

theorem mem_documents_of_since {d : IndexDocument} (hd : d ∈ since db q) : d ∈ db.documents :=
  (List.mem_filter.mp (List.mem_filter.mp hd).1).1

/-- The search that starts after the time stamp of the element at place `k` goes on with the
next element. -/
theorem since_next {k : Nat} {d : IndexDocument} (hd : (since db q)[k]? = some d)
    (hnext : k + 1 < (since db q).length) :
    since db { q with start_ts := ofLongLong d.acq_ts_numeric + 1 } =
      (since db q).drop (k + 1) := by
  have hmem := List.mem_of_getElem? hd
  have hstart : toLongLong q.start_ts ≤ d.acq_ts_numeric := by
    simpa using (List.mem_filter.mp hmem).2
  have hbound : -2 ^ 63 ≤ d.acq_ts_numeric ∧ d.acq_ts_numeric < 2 ^ 63 - 1 := by
    -- the next element has a larger time stamp, which still is a long long
    have hlt : d.acq_ts_numeric < (since db q)[k + 1].acq_ts_numeric := by
      have hk : k < (since db q).length := by omega
      have hget : (since db q)[k] = d := by
        rw [List.getElem?_eq_getElem hk] at hd
        exact Option.some.inj hd
      have := List.pairwise_iff_getElem.mp (ascending_since db q) k (k + 1) hk hnext (by omega)
      rwa [hget] at this
    have hlow := (db.longLong d (mem_documents_of_since hmem)).1
    have hhigh := (db.longLong _ (mem_documents_of_since (List.getElem_mem hnext))).2
    omega
  rw [← filter_gt_eq_drop (ascending_since db q) hd]
  unfold since
  rw [List.filter_filter]
  refine List.filter_congr ?_
  intro x _
  rw [toLongLong_next hbound.1 hbound.2, Bool.eq_iff_iff]
  simp only [decide_eq_true_eq, Bool.and_eq_true]
  omega

/-! ## The loop of a call -/

variable {readable : IndexDocument → Bool} {limit_to : UInt32}

/-- Where every data pack can be read, a call takes as many elements as it may. -/
theorem readLoop_of_readable (h : 1 ≤ limit_to.toNat) {l : List IndexDocument}
    (hl : ∀ d ∈ l, readable d = true) :
    readLoop readable l limit_to = (min limit_to.toNat l.length, l.take limit_to.toNat) := by
  induction l generalizing limit_to with
  | nil => simp [readLoop]
  | cons d ds ih =>
    have hsub : (limit_to - 1).toNat = limit_to.toNat - 1 := by
      have : (1 : UInt32) ≤ limit_to := UInt32.le_iff_toNat_le.mpr h
      rw [UInt32.toNat_sub_of_le _ _ this]
      rfl
    simp only [readLoop, hl d List.mem_cons_self, if_true]
    split
    · rename_i hone
      have hlimit : limit_to.toNat = 1 := by
        have := congrArg UInt32.toNat hone
        rw [hsub] at this
        simp at this
        omega
      simp [hlimit]
    · rename_i hmore
      have hlimit : 1 ≤ (limit_to - 1).toNat := by
        have : (limit_to - 1).toNat ≠ 0 := fun h0 => hmore (UInt32.toNat_inj.mp h0)
        omega
      rw [ih hlimit fun x hx => hl x (List.mem_cons_of_mem _ hx), hsub]
      obtain ⟨n, hn⟩ : ∃ n, limit_to.toNat = n + 1 := ⟨limit_to.toNat - 1, by omega⟩
      simp [hn, Nat.succ_min_succ]

theorem readable_of_mem_readLoop {l : List IndexDocument} {d : IndexDocument}
    (hd : d ∈ (readLoop readable l limit_to).2) : readable d = true := by
  induction l generalizing limit_to with
  | nil => simp [readLoop] at hd
  | cons x xs ih =>
    unfold readLoop at hd
    split at hd
    · rename_i hx
      split at hd
      · rw [List.mem_singleton.mp hd]
        exact hx
      · rcases List.mem_cons.mp hd with rfl | hd
        · exact hx
        · exact ih hd
    · cases hd

/-! ## The position of a cursor -/

/-- The last time stamp of the first `k` found elements, as the cursor keeps it. -/
def lastMax (m : List IndexDocument) (k : Nat) : UInt64 :=
  (m.take k).getLast?.elim 0 fun d => ofLongLong d.acq_ts_numeric

variable {page_dimension : UInt32}

/-- The cursor has fetched `k` of the found elements, and the reader has taken `o` of them. -/
structure At (db : IndexCollection) (q : DataPackIndexQuery) (page_dimension : UInt32)
    (c : MongoDBIndexCursor) (o k : Nat) : Prop where
  query : c.query = q
  dimension : c.result_page_dimension = page_dimension
  found_eq : c.element_found = UInt64.ofNat (found db q).length
  fetched_eq : c.number_of_element_fetched = UInt64.ofNat k
  taken : o ≤ k
  fetched : k ≤ (found db q).length
  aligned : k = (found db q).length ∨ page_dimension.toNat ∣ k
  returned : c.number_of_returned_element_in_page.toNat ≤ c.fetched_element_page.length
  rest : c.fetched_element_page.drop c.number_of_returned_element_in_page.toNat =
    ((found db q).take k).drop o
  page : c.fetched_element_page.length < 2 ^ 31
  last : c.last_max_ts_searched = lastMax (found db q) k

/-- What is left to fetch is counted in 32 bits, and the size of a page is an `int`. -/
structure PagesFit (page_dimension : UInt32) (n : Nat) : Prop where
  left : n < 2 ^ 32
  page : min page_dimension.toNat n < 2 ^ 31

variable {c : MongoDBIndexCursor} {o k : Nat}

/-- The elements of the page that were not returned yet. -/
theorem length_rest (hk : k ≤ (found db q).length)
    (hrest : c.fetched_element_page.drop c.number_of_returned_element_in_page.toNat =
      ((found db q).take k).drop o) :
    c.fetched_element_page.length - c.number_of_returned_element_in_page.toNat = k - o := by
  have hlen := congrArg List.length hrest
  simp only [List.length_drop, List.length_take] at hlen
  omega

theorem hasNext_iff (hok : o ≤ k)
    (hret : c.number_of_returned_element_in_page.toNat ≤ c.fetched_element_page.length)
    (hrest : c.fetched_element_page.length - c.number_of_returned_element_in_page.toNat = k - o) :
    c.hasNext = true ↔ o < k := by
  simp only [MongoDBIndexCursor.hasNext, decide_eq_true_eq]
  omega

/-- What is left to fetch is counted in 32 bits. -/
theorem toNat_toFetch {n : Nat} (hk : k ≤ n) (hn : n < 2 ^ 64)
    (hfound : c.element_found = UInt64.ofNat n)
    (hfetched : c.number_of_element_fetched = UInt64.ofNat k) :
    c.toFetch.toNat = min c.result_page_dimension.toNat ((n - k) % 2 ^ 32) := by
  have hleft : (c.element_found - c.number_of_element_fetched).toUInt32.toNat =
      (n - k) % 2 ^ 32 := by
    rw [hfound, hfetched, UInt64.toNat_toUInt32, UInt64.toNat_sub, UInt64.toNat_ofNat',
      UInt64.toNat_ofNat']
    omega
  simp only [MongoDBIndexCursor.toFetch, UInt32.lt_iff_toNat_lt, hleft]
  split <;> omega

theorem At.rest_length (h : At db q page_dimension c o k) :
    c.fetched_element_page.length - c.number_of_returned_element_in_page.toNat = k - o :=
  length_rest h.fetched h.rest

theorem At.hasNext (h : At db q page_dimension c o k) : c.hasNext = true ↔ o < k :=
  hasNext_iff h.taken h.returned h.rest_length

theorem At.fetched_all (h : At db q page_dimension c o k) (hn : (found db q).length < 2 ^ 32) :
    c.element_found = c.number_of_element_fetched ↔ k = (found db q).length := by
  have hk := h.fetched
  rw [h.found_eq, h.fetched_eq, ← UInt64.toNat_inj, UInt64.toNat_ofNat', UInt64.toNat_ofNat']
  omega

theorem At.not_all_fetched (h : At db q page_dimension c o k)
    (hn : (found db q).length < 2 ^ 32) (hk : k < (found db q).length) :
    ¬ c.element_found = c.number_of_element_fetched := by
  rw [h.fetched_all hn]
  exact Nat.ne_of_lt hk

/-- The reader takes elements of the page that the cursor has. -/
theorem At.take (h : At db q page_dimension c o k) {n : Nat} (hn : n ≤ k - o) :
    At db q page_dimension { c with number_of_returned_element_in_page :=
      c.number_of_returned_element_in_page + UInt32.ofNat n } (o + n) k := by
  have h1 := h.rest_length
  have h2 := h.returned
  have h3 := h.page
  have h4 := h.taken
  have hret : (c.number_of_returned_element_in_page + UInt32.ofNat n).toNat =
      c.number_of_returned_element_in_page.toNat + n := by
    rw [UInt32.toNat_add, UInt32.toNat_ofNat']
    omega
  refine ⟨h.query, h.dimension, h.found_eq, h.fetched_eq, by omega, h.fetched, h.aligned, ?_, ?_,
    h.page, h.last⟩
  · simp only [hret]
    omega
  · simp only [hret]
    rw [← List.drop_drop, h.rest, List.drop_drop]

/-- The number of elements that a call takes at the position. -/
def callSize (limit_to : UInt32) (o k : Nat) : Nat := min limit_to.toNat (k - o)

theorem callSize_pos (hlimit : 1 ≤ limit_to.toNat) (hok : o < k) : 0 < callSize limit_to o k := by
  unfold callSize
  omega

theorem At.readLoop (h : At db q page_dimension c o k) (hlimit : 1 ≤ limit_to.toNat)
    (hread : ∀ d ∈ found db q, readable d = true) :
    vfs.readLoop readable
        (c.fetched_element_page.drop c.number_of_returned_element_in_page.toNat) limit_to =
      (callSize limit_to o k, ((found db q).drop o).take (callSize limit_to o k)) := by
  have hk := h.fetched
  have hmem : ∀ d ∈ ((found db q).take k).drop o, readable d = true := fun d hd =>
    hread d (List.mem_of_mem_take (List.mem_of_mem_drop hd))
  rw [h.rest, readLoop_of_readable hlimit hmem, List.drop_take, List.take_take]
  simp only [callSize, List.length_take, List.length_drop]
  congr 1
  omega

/-! ## The next page -/

/-- The cursor goes on from the first `k` found elements. -/
def PageStarts (db : IndexCollection) (q : DataPackIndexQuery) (k : Nat) : Prop :=
  lastMax (found db q) k < q.end_ts ∧ (k = 0 ∨ lastMax (found db q) k ≠ 0)

instance (db : IndexCollection) (q : DataPackIndexQuery) (k : Nat) :
    Decidable (PageStarts db q k) :=
  inferInstanceAs (Decidable (_ ∧ _))

theorem lastMax_zero (m : List IndexDocument) : lastMax m 0 = 0 := rfl

theorem lastMax_succ {m : List IndexDocument} {d : IndexDocument} (h : m[k]? = some d) :
    lastMax m (k + 1) = ofLongLong d.acq_ts_numeric := by
  have hk : k < m.length := (List.getElem?_eq_some_iff.mp h).1
  have hlast : (m.take (k + 1)).getLast? = some d := by
    rw [List.getLast?_eq_getElem?, List.length_take, Nat.min_eq_left hk, Nat.succ_sub_one,
      List.getElem?_take_of_lt (Nat.lt_succ_self k), h]
  rw [lastMax, hlast]
  rfl

theorem At.toFetch (h : At db q page_dimension c o k) (hn : (found db q).length < 2 ^ 32) :
    c.toFetch.toNat = min page_dimension.toNat ((found db q).length - k) := by
  rw [toNat_toFetch h.fetched (by omega) h.found_eq h.fetched_eq, h.dimension,
    Nat.mod_eq_of_lt (by omega)]

theorem findN_eq_take {docs : List IndexDocument} {n : UInt32} (hpos : 0 < n.toNat)
    (hint : n.toNat < 2 ^ 31) : findN db docs n = docs.take n.toNat := by
  have hn : n.toInt32.toInt = n.toNat := by
    exact BitVec.toInt_eq_toNat_of_lt (x := n.toBitVec) (by simpa using by omega)
  rw [findN, hn, if_pos (by omega)]

/-- Where a page starts, the search goes on with the first element that is not fetched. -/
theorem since_nextStart (hquery : c.query = q)
    (hlast : c.last_max_ts_searched = lastMax (found db q) k) (hk : k < (found db q).length)
    (hstart : PageStarts db q k) :
    since db { q with start_ts := c.nextStart } = (since db q).drop k := by
  cases k with
  | zero =>
    have hnext : c.nextStart = q.start_ts := by
      rw [MongoDBIndexCursor.nextStart, hlast, lastMax_zero, hquery]
      rfl
    rw [hnext]
    rfl
  | succ k =>
    have hlt : k < (found db q).length := by omega
    have hd := List.getElem?_eq_getElem hlt
    have hne : lastMax (found db q) (k + 1) ≠ 0 := hstart.2.resolve_left (Nat.succ_ne_zero k)
    have hnext : c.nextStart = ofLongLong (found db q)[k].acq_ts_numeric + 1 := by
      rw [MongoDBIndexCursor.nextStart, hlast, if_pos hne, lastMax_succ hd]
    have hlen : (found db q).length ≤ (since db q).length := List.length_filter_le _ _
    rw [hnext]
    exact since_next ((found_getElem? hlt).symm.trans hd) (by omega)

/-- The first found elements are the first elements of the search. -/
theorem drop_take_found (db : IndexCollection) (q : DataPackIndexQuery) {n : Nat}
    (hn : k + n ≤ (found db q).length) :
    ((found db q).drop k).take n = ((since db q).drop k).take n := by
  conv_lhs => rw [found_eq_take db q]
  rw [List.drop_take, List.take_take, Nat.min_eq_left (by omega)]

/-- A page with a last element becomes the page of the cursor. -/
theorem performNextPagedQuery_eq {page : List IndexDocument} {last : IndexDocument}
    (hend : ¬ c.query.end_ts ≤ c.last_max_ts_searched)
    (hpage : findN db (since db { c.query with start_ts := c.nextStart }) c.toFetch = page)
    (hlast : page.getLast? = some last) :
    c.performNextPagedQuery db = some
      { c with
        number_of_element_fetched :=
          c.number_of_element_fetched + (UInt32.ofNat page.length).toUInt64
        last_max_ts_searched := ofLongLong last.acq_ts_numeric
        number_of_returned_element_in_page := 0
        fetched_element_page := page } := by
  subst hpage
  unfold MongoDBIndexCursor.performNextPagedQuery
  rw [if_neg hend]
  exact Option.map_eq_some_iff.mpr ⟨last, hlast, rfl⟩

/-- Where a page starts, the cursor fetches the next found elements. -/
theorem At.performNextPagedQuery (h : At db q page_dimension c k k)
    (hdim : 1 ≤ page_dimension.toNat) (hfit : PagesFit page_dimension (found db q).length)
    (hk : k < (found db q).length) (hstart : PageStarts db q k) :
    ∃ c', c.performNextPagedQuery db = some c' ∧
      At db q page_dimension c' k (k + min page_dimension.toNat ((found db q).length - k)) := by
  have hfetch := h.toFetch hfit.left
  have hint := hfit.page
  obtain ⟨n, hn⟩ : ∃ n, n = min page_dimension.toNat ((found db q).length - k) := ⟨_, rfl⟩
  rw [← hn] at hfetch ⊢
  obtain ⟨n, rfl⟩ : ∃ p, n = p + 1 := ⟨n - 1, by omega⟩
  -- the page is the next part of the found elements
  have hpage : findN db (since db { q with start_ts := c.nextStart }) c.toFetch =
      ((found db q).drop k).take (n + 1) := by
    rw [findN_eq_take (by omega) (by omega), hfetch, since_nextStart h.query h.last hk hstart,
      drop_take_found db q (by omega)]
  have hlen : (((found db q).drop k).take (n + 1)).length = n + 1 := by
    rw [List.length_take, List.length_drop]
    omega
  have hlt : k + n < (found db q).length := by omega
  have hlast : (((found db q).drop k).take (n + 1)).getLast? = some (found db q)[k + n] := by
    rw [List.getLast?_eq_getElem?, hlen, Nat.add_sub_cancel,
      List.getElem?_take_of_lt (Nat.lt_succ_self n), List.getElem?_drop,
      List.getElem?_eq_getElem hlt]
  refine ⟨_, performNextPagedQuery_eq (by rw [h.query, h.last]; exact UInt64.not_le.mpr hstart.1)
    (by rw [h.query]; exact hpage) hlast, ?_⟩
  refine ⟨h.query, h.dimension, h.found_eq, ?_, by omega, by omega, ?_, Nat.zero_le _, ?_, ?_, ?_⟩
  · -- the counter of the fetched elements
    show c.number_of_element_fetched + _ = _
    rw [h.fetched_eq, hlen, ← UInt64.toNat_inj, UInt64.toNat_add, UInt64.toNat_ofNat',
      UInt64.toNat_ofNat', UInt32.toNat_toUInt64, UInt32.toNat_ofNat']
    omega
  · have haligned := h.aligned.resolve_left (by omega)
    by_cases hfull : page_dimension.toNat ≤ (found db q).length - k
    · right
      rw [hn, Nat.min_eq_left hfull]
      exact Nat.dvd_add haligned (Nat.dvd_refl _)
    · left
      omega
  · have htake : ((found db q).take (k + (n + 1))).drop k = ((found db q).drop k).take (n + 1) := by
      rw [List.drop_take, Nat.add_sub_cancel_left]
    exact htake.symm
  · show (((found db q).drop k).take (n + 1)).length < _
    omega
  · rw [← Nat.add_assoc, lastMax_succ (List.getElem?_eq_getElem hlt)]

/-! ## The calls -/

section

variable (hlimit : 1 ≤ limit_to.toNat) (hread : ∀ d ∈ found db q, readable d = true)
include hlimit hread

/-- A call where the page has elements left takes the next ones. -/
theorem At.call_rest (h : At db q page_dimension c o k) (hn : (found db q).length < 2 ^ 32)
    (hok : o < k) (hk : k < (found db q).length) :
    ∃ c', readDataPackPage db readable c limit_to =
        some (c', ((found db q).drop o).take (callSize limit_to o k)) ∧
      At db q page_dimension c' (o + callSize limit_to o k) k := by
  have hmore := h.not_all_fetched hn hk
  refine ⟨_, ?_, h.take (Nat.min_le_right _ _)⟩
  rw [readDataPackPage, if_neg hmore, if_pos (h.hasNext.mpr hok), Option.map_some,
    h.readLoop hlimit hread]

/-- A call where a page starts takes the first elements of the page. -/
theorem At.call_next (h : At db q page_dimension c k k)
    (hdim : 1 ≤ page_dimension.toNat) (hfit : PagesFit page_dimension (found db q).length)
    (hk : k < (found db q).length) (hstart : PageStarts db q k) {k' : Nat}
    (hk' : k' = k + min page_dimension.toNat ((found db q).length - k)) :
    ∃ c', readDataPackPage db readable c limit_to =
        some (c', ((found db q).drop k).take (callSize limit_to k k')) ∧
      At db q page_dimension c' (k + callSize limit_to k k') k' := by
  have hmore := h.not_all_fetched hfit.left hk
  have hnone : ¬ c.hasNext = true := by
    rw [h.hasNext]
    omega
  obtain ⟨c', hc', hat⟩ := h.performNextPagedQuery hdim hfit hk hstart
  rw [← hk'] at hat
  refine ⟨_, ?_, hat.take (Nat.min_le_right _ _)⟩
  rw [readDataPackPage, if_neg hmore, if_neg hnone, hc', Option.map_some,
    hat.readLoop hlimit hread]

/-- A call where no page starts gives nothing, or begins again with the first element. -/
theorem At.call_stuck (h : At db q page_dimension c k k)
    (hdim : 1 ≤ page_dimension.toNat) (hfit : PagesFit page_dimension (found db q).length)
    (hk : k < (found db q).length) (hstart : ¬ PageStarts db q k) :
    ∃ c' packs, readDataPackPage db readable c limit_to = some (c', packs) ∧
      (packs = [] ∨ 0 < k ∧ packs.head? = (found db q).head?) := by
  have hmore := h.not_all_fetched hfit.left hk
  have hnone : ¬ c.hasNext = true := by
    rw [h.hasNext]
    omega
  rw [readDataPackPage, if_neg hmore, if_neg hnone]
  by_cases hend : c.query.end_ts ≤ c.last_max_ts_searched
  · -- the cursor takes the query for finished
    rw [MongoDBIndexCursor.performNextPagedQuery, if_pos hend]
    exact ⟨_, _, rfl, Or.inl rfl⟩
  · have hzero : 0 < k ∧ lastMax (found db q) k = 0 := by
      rw [h.query, h.last, UInt64.not_le] at hend
      by_contra hcon
      refine hstart ⟨hend, ?_⟩
      by_cases hk0 : k = 0
      · exact Or.inl hk0
      · exact Or.inr fun hlast => hcon ⟨Nat.pos_of_ne_zero hk0, hlast⟩
    have hnext : c.nextStart = q.start_ts := by
      rw [MongoDBIndexCursor.nextStart, h.last, hzero.2, h.query]
      rfl
    have hfetch := h.toFetch hfit.left
    have hint := hfit.page
    obtain ⟨n, hn⟩ : ∃ n, n = min page_dimension.toNat ((found db q).length - k) := ⟨_, rfl⟩
    rw [← hn] at hfetch
    -- the page is the first part of the found elements again
    have hpage : findN db (since db { c.query with start_ts := c.nextStart }) c.toFetch =
        (found db q).take n := by
      have htake := drop_take_found (k := 0) db q (n := n) (by omega)
      simp only [List.drop_zero] at htake
      rw [hnext, h.query, findN_eq_take (by omega) (by omega), hfetch, htake]
    obtain ⟨last, hlast⟩ : ∃ last, ((found db q).take n).getLast? = some last := by
      refine ⟨_, List.getLast?_eq_some_getLast (List.ne_nil_of_length_pos ?_)⟩
      rw [List.length_take]
      omega
    rw [performNextPagedQuery_eq hend hpage hlast]
    refine ⟨_, _, rfl, Or.inr ⟨hzero.1, ?_⟩⟩
    show (vfs.readLoop readable ((found db q).take n) limit_to).2.head? = _
    rw [readLoop_of_readable hlimit fun d hd => hread d (List.mem_of_mem_take hd),
      List.take_take, List.head?_take, if_neg (by omega)]

end

theorem At.call_done (h : At db q page_dimension c o k) (hn : (found db q).length < 2 ^ 32)
    (hk : k = (found db q).length) : readDataPackPage db readable c limit_to = some (c, []) := by
  rw [readDataPackPage, if_pos ((h.fetched_all hn).mpr hk)]

/-! ## The whole reading -/

/-- The condition under which the calls give all the found elements. -/
structure Drains (db : IndexCollection) (q : DataPackIndexQuery) (readable : IndexDocument → Bool)
    (page_dimension limit_to : UInt32) : Prop where
  fit : PagesFit page_dimension (found db q).length
  readable : ∀ d ∈ found db q, readable d = true
  starts : ∀ k < (found db q).length, page_dimension.toNat ∣ k → PageStarts db q k
  lastPage : ((found db q).length - 1) % page_dimension.toNat + 1 ≤ limit_to.toNat

/-- The size of the last page. -/
theorem last_page_size {n k p : Nat} (hk : k < n) (hdvd : p ∣ k) (hlast : n - k ≤ p) :
    (n - 1) % p + 1 = n - k := by
  obtain ⟨j, rfl⟩ := hdvd
  have hn : n - 1 = p * j + (n - 1 - p * j) := by omega
  rw [hn, Nat.mul_add_mod, Nat.mod_eq_of_lt (by omega)]
  omega

theorem readAll_succ {fuel : Nat} {c c' : MongoDBIndexCursor} {packs : List IndexDocument}
    (h : readDataPackPage db readable c limit_to = some (c', packs)) (hne : packs ≠ []) :
    readAll db readable limit_to (fuel + 1) c =
      (readAll db readable limit_to fuel c').map (packs ++ ·) := by
  rw [readAll, h]
  cases packs with
  | nil => exact absurd rfl hne
  | cons d ds => rfl

theorem readAll_last {fuel : Nat} {c c' : MongoDBIndexCursor}
    (h : readDataPackPage db readable c limit_to = some (c', [])) :
    readAll db readable limit_to (fuel + 1) c = some [] := by
  rw [readAll, h]

theorem readable_of_mem_call {c' : MongoDBIndexCursor} {packs : List IndexDocument}
    {d : IndexDocument} (h : readDataPackPage db readable c limit_to = some (c', packs))
    (hd : d ∈ packs) : readable d = true := by
  unfold readDataPackPage at h
  split at h
  · cases h
    cases hd
  · obtain ⟨_, _, hr⟩ := Option.map_eq_some_iff.mp h
    cases hr
    exact readable_of_mem_readLoop hd

theorem readable_of_mem_readAll {fuel : Nat} {out : List IndexDocument} {d : IndexDocument}
    (h : readAll db readable limit_to fuel c = some out) (hd : d ∈ out) : readable d = true := by
  induction fuel generalizing c out with
  | zero => cases h
  | succ fuel ih =>
    cases hcall : readDataPackPage db readable c limit_to with
    | none =>
      rw [readAll, hcall] at h
      cases h
    | some r =>
      obtain ⟨c', packs⟩ := r
      by_cases hne : packs = []
      · subst hne
        rw [readAll_last hcall] at h
        cases h
        cases hd
      · rw [readAll_succ hcall hne, Option.map_eq_some_iff] at h
        obtain ⟨out', hout, rfl⟩ := h
        rcases List.mem_append.mp hd with hd | hd
        · exact readable_of_mem_call hcall hd
        · exact ih hout hd

/-- A call that takes elements leaves the rest to the calls after it. -/
theorem readAll_drop {fuel n : Nat} {m : List IndexDocument} {c c' : MongoDBIndexCursor}
    (h : readDataPackPage db readable c limit_to = some (c', (m.drop o).take n))
    (hn : 0 < n) (ho : o < m.length) :
    readAll db readable limit_to (fuel + 1) c = some (m.drop o) ↔
      readAll db readable limit_to fuel c' = some (m.drop (o + n)) := by
  have hne : (m.drop o).take n ≠ [] := by
    refine List.ne_nil_of_length_pos ?_
    rw [List.length_take, List.length_drop]
    omega
  have hsplit : m.drop o = (m.drop o).take n ++ m.drop (o + n) := by
    rw [← List.drop_drop, List.take_append_drop]
  rw [readAll_succ h hne, Option.map_eq_some_iff]
  constructor
  · rintro ⟨out, hout, heq⟩
    rw [hout, List.append_cancel_left (heq.trans hsplit)]
  · intro hout
    exact ⟨_, hout, hsplit.symm⟩

/-- Under the condition, the calls from a position give the rest of the found elements. -/
theorem At.readAll_of_drains (hdim : 1 ≤ page_dimension.toNat) (hlimit : 1 ≤ limit_to.toNat)
    (hdrains : Drains db q readable page_dimension limit_to) (h : At db q page_dimension c o k)
    (hend : k = (found db q).length → o = k) :
    ∃ fuel, readAll db readable limit_to fuel c = some ((found db q).drop o) := by
  -- each call takes at least one element
  induction hleft : (found db q).length - o using Nat.strongRecOn generalizing c o k with
  | ind left ih =>
    have hfetched := h.fetched
    have htaken := h.taken
    by_cases hk : k = (found db q).length
    · refine ⟨1, ?_⟩
      rw [readAll_last (h.call_done hdrains.fit.left hk), List.drop_eq_nil_of_le]
      have := hend hk
      omega
    · by_cases hok : o < k
      · obtain ⟨c', hcall, hat⟩ :=
          h.call_rest hlimit hdrains.readable hdrains.fit.left hok (by omega)
        have hpos := callSize_pos hlimit hok
        obtain ⟨fuel, hfuel⟩ := ih _ (by omega) hat (fun hk' => absurd hk' hk) rfl
        exact ⟨fuel + 1, (readAll_drop hcall hpos (by omega)).mpr hfuel⟩
      · obtain rfl : o = k := by omega
        have hlt : o < (found db q).length := by omega
        have hdvd := h.aligned.resolve_left hk
        obtain ⟨k', hk'⟩ : ∃ k', k' = o + min page_dimension.toNat ((found db q).length - o) :=
          ⟨_, rfl⟩
        obtain ⟨c', hcall, hat⟩ := h.call_next hlimit hdrains.readable hdim hdrains.fit hlt
          (hdrains.starts o hlt hdvd) hk'
        have hpos : 0 < callSize limit_to o k' := callSize_pos hlimit (by omega)
        have hend' : k' = (found db q).length → o + callSize limit_to o k' = k' := by
          intro hlast
          have hsize := last_page_size hlt hdvd (by omega)
          have := hdrains.lastPage
          unfold callSize
          omega
        obtain ⟨fuel, hfuel⟩ := ih _ (by omega) hat hend' rfl
        exact ⟨fuel + 1, (readAll_drop hcall hpos hlt).mpr hfuel⟩

theorem ascending_found (db : IndexCollection) (q : DataPackIndexQuery) :
    Ascending IndexDocument.acq_ts_numeric (found db q) :=
  (ascending_since db q).filter _

/-- Where no page starts, the calls do not give the rest of the found elements. -/
theorem At.readAll_ne_of_stuck (hdim : 1 ≤ page_dimension.toNat) (hlimit : 1 ≤ limit_to.toNat)
    (hfit : PagesFit page_dimension (found db q).length)
    (hread : ∀ d ∈ found db q, readable d = true) {fuel : Nat}
    (h : At db q page_dimension c k k) (hk : k < (found db q).length)
    (hstuck : ¬ PageStarts db q k) :
    readAll db readable limit_to (fuel + 1) c ≠ some ((found db q).drop k) := by
  intro hall
  have h0 : 0 < (found db q).length := by omega
  obtain ⟨c', packs, hcall, hpacks⟩ := h.call_stuck hlimit hread hdim hfit hk hstuck
  rcases hpacks with rfl | ⟨hpos, hhead⟩
  · rw [readAll_last hcall] at hall
    have := List.drop_eq_nil_iff.mp (Option.some.inj hall).symm
    omega
  · have hfirst : (found db q).head? = some (found db q)[0] := by
      rw [List.head?_eq_getElem?, List.getElem?_eq_getElem h0]
    rw [hfirst] at hhead
    obtain ⟨ds, rfl⟩ := List.head?_eq_some_iff.mp hhead
    rw [readAll_succ hcall (List.cons_ne_nil _ _), Option.map_eq_some_iff] at hall
    obtain ⟨out, -, hout⟩ := hall
    -- the element at the position would be the first one
    have hsame : (found db q)[k] = (found db q)[0] := by
      have := congrArg List.head? hout
      rw [List.head?_drop, List.getElem?_eq_getElem hk] at this
      exact (Option.some.inj this).symm
    have hlt := List.pairwise_iff_getElem.mp (ascending_found db q) 0 k h0 hk hpos
    rw [hsame] at hlt
    exact absurd hlt (lt_irrefl _)

/-- What the calls from a position need. -/
structure DrainsFrom (db : IndexCollection) (q : DataPackIndexQuery)
    (page_dimension limit_to : UInt32) (o k : Nat) : Prop where
  starts : ∀ j, k ≤ j → j < (found db q).length → page_dimension.toNat ∣ j → PageStarts db q j
  lastPage : k < (found db q).length →
    ((found db q).length - 1) % page_dimension.toNat + 1 ≤ limit_to.toNat
  drained : k = (found db q).length → o = k

/-- If the calls from a position give the rest of the found elements, no page is in their way. -/
theorem At.drainsFrom_of_readAll (hdim : 1 ≤ page_dimension.toNat) (hlimit : 1 ≤ limit_to.toNat)
    (hfit : PagesFit page_dimension (found db q).length)
    (hread : ∀ d ∈ found db q, readable d = true) {fuel : Nat}
    (h : At db q page_dimension c o k)
    (hall : readAll db readable limit_to fuel c = some ((found db q).drop o)) :
    DrainsFrom db q page_dimension limit_to o k := by
  induction fuel generalizing c o k with
  | zero => cases hall
  | succ fuel ih =>
    have hfetched := h.fetched
    have htaken := h.taken
    by_cases hk : k = (found db q).length
    · rw [readAll_last (h.call_done hfit.left hk)] at hall
      have hnil := List.drop_eq_nil_iff.mp (Option.some.inj hall).symm
      exact ⟨fun j _ _ => by omega, fun _ => by omega, fun _ => by omega⟩
    · have hlt : k < (found db q).length := by omega
      by_cases hok : o < k
      · obtain ⟨c', hcall, hat⟩ := h.call_rest hlimit hread hfit.left hok hlt
        have hpos := callSize_pos hlimit hok
        have hrest := ih hat ((readAll_drop hcall hpos (by omega)).mp hall)
        exact ⟨hrest.starts, hrest.lastPage, fun hk' => absurd hk' hk⟩
      · obtain rfl : o = k := by omega
        have hdvd := h.aligned.resolve_left hk
        have hstart : PageStarts db q o := by
          by_contra hstuck
          exact h.readAll_ne_of_stuck hdim hlimit hfit hread hlt hstuck hall
        obtain ⟨k', hk'⟩ : ∃ k', k' = o + min page_dimension.toNat ((found db q).length - o) :=
          ⟨_, rfl⟩
        obtain ⟨c', hcall, hat⟩ := h.call_next hlimit hread hdim hfit hlt hstart hk'
        have hpos : 0 < callSize limit_to o k' := callSize_pos hlimit (by omega)
        have hrest := ih hat ((readAll_drop hcall hpos hlt).mp hall)
        refine ⟨?_, ?_, fun hk => absurd hk (by omega)⟩
        · intro j hj hjlt hjdvd
          by_cases heq : j = o
          · rw [heq]
            exact hstart
          · refine hrest.starts j ?_ hjlt hjdvd
            have : page_dimension.toNat ≤ j - o :=
              Nat.le_of_dvd (by omega) (Nat.dvd_sub hjdvd hdvd)
            omega
        · intro _
          by_cases hlast : k' < (found db q).length
          · exact hrest.lastPage hlast
          · have hsize := last_page_size hlt hdvd (by omega)
            have hdrained := hrest.drained (by omega)
            unfold callSize at hdrained
            omega

/-- A new cursor is before the first found element. -/
theorem at_start {q₀ : DataPackIndexQuery} (h : start db q₀ page_dimension = .ok c) :
    At db c.query page_dimension c 0 0 := by
  unfold start at h
  split at h
  · cases h
  · split at h
    · cases h
    · cases h
      exact ⟨rfl, rfl, rfl, rfl, Nat.le_refl 0, Nat.zero_le _, Or.inr (Nat.dvd_zero _),
        Nat.le_refl 0, rfl, Nat.two_pow_pos 31, rfl⟩

/-- The found elements of a new cursor are not none. -/
theorem found_start {q₀ : DataPackIndexQuery} (h : start db q₀ page_dimension = .ok c) :
    0 < (found db c.query).length := by
  unfold start at h
  split at h
  · cases h
  · split at h
    · cases h
    · rename_i hne
      cases h
      exact Nat.pos_of_ne_zero hne

/-- The calls until one gives nothing return every found index once and in order if the
condition holds, and only then as long as the pages fit. -/
theorem every_index_is_read_iff {q₀ : DataPackIndexQuery} (hdim : 1 ≤ page_dimension.toNat)
    (hlimit : 1 ≤ limit_to.toNat) (hstart : start db q₀ page_dimension = .ok c) :
    (Drains db c.query readable page_dimension limit_to →
      ∃ fuel, readAll db readable limit_to fuel c = some (found db c.query)) ∧
    (PagesFit page_dimension (found db c.query).length →
      (∃ fuel, readAll db readable limit_to fuel c = some (found db c.query)) →
      Drains db c.query readable page_dimension limit_to) := by
  have hat := at_start hstart
  have hpos := found_start hstart
  constructor
  · intro hdrains
    simpa using hat.readAll_of_drains hdim hlimit hdrains (by omega)
  · rintro hfit ⟨fuel, hall⟩
    have hread : ∀ d ∈ found db c.query, readable d = true := fun d hd =>
      readable_of_mem_readAll hall hd
    have hfrom := hat.drainsFrom_of_readAll hdim hlimit hfit hread (by simpa using hall)
    exact ⟨hfit, hread, fun k hk hdvd => hfrom.starts k (Nat.zero_le k) hk hdvd,
      hfrom.lastPage hpos⟩

def indexAt (acq_ts_numeric : Int) : IndexDocument :=
  { did := "bpm"
    ds_type := 0
    querable := true
    acq_ts_numeric := acq_ts_numeric
    block_vfs_domain := "infn"
    block_vfs_path := "/chaos/domain/bpm/block"
    offset := 0
    datapack_size := 1 }

/-- Three indexes of a device. -/
def threeIndexes : IndexCollection :=
  { documents := [indexAt 10, indexAt 20, indexAt 30]
    ordered := by decide
    longLong := by decide
    findNOther := fun _ _ => [] }

def queryAll : DataPackIndexQuery := { did := "bpm", ds_type := 0, start_ts := 5, end_ts := 40 }

/-- Pages of two, read two at a time. -/
theorem three_indexes_are_read :
    ∃ c, start threeIndexes queryAll 2 = .ok c ∧
      ∃ fuel, readAll threeIndexes (fun _ => true) 2 fuel c =
        some [indexAt 10, indexAt 20, indexAt 30] := by
  have hstart : start threeIndexes queryAll 2 = .ok _ := rfl
  refine ⟨_, hstart, ?_⟩
  exact (every_index_is_read_iff (by decide) (by decide) hstart).1
    ⟨⟨by decide, by decide⟩, by decide, by decide, by decide⟩

/-- With the page dimension of the code and one element a call, the last page is not drained:
the calls give only the first of the three indexes. -/
theorem one_a_call_loses_indexes :
    ∃ c, start threeIndexes queryAll 100 = .ok c ∧
      found threeIndexes c.query = [indexAt 10, indexAt 20, indexAt 30] ∧
      ¬ ∃ fuel,
        readAll threeIndexes (fun _ => true) 1 fuel c = some (found threeIndexes c.query) := by
  refine ⟨_, rfl, rfl, ?_⟩
  rintro ⟨fuel, hfuel⟩
  match fuel with
  | 0 => cases hfuel
  | 1 => cases hfuel
  | _ + 2 =>
    -- the second call gives nothing
    have hlist : [indexAt 10] = [indexAt 10, indexAt 20, indexAt 30] := Option.some.inj hfuel
    exact absurd hlist (by decide)

end chaos.data_service.vfs
