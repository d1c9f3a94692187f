-- The pages of a cursor that are drained one after the other. They give the indexes that a query
-- asks for, where its end time is a long long and there are fewer than 2^32 of them.
import Chaos.LittleEndian
import Chaos.PagedReading

namespace chaos.data_service.db_system

open MongoDBIndexCursor ordered_scan vfs

variable {db : IndexCollection} {q : DataPackIndexQuery} {page_dimension : UInt32}
  {c : MongoDBIndexCursor} {o k : Nat}

/-! ## What a query asks for -/

/-- The querable documents of the device and the type in the range of a query, where a bound of 0
is the first or the last time. -/
def asked (db : IndexCollection) (q : DataPackIndexQuery) : List IndexDocument :=
  (selected db q).filter fun d => decide
    ((q.start_ts.toNat : Int) ≤ d.acq_ts_numeric ∧
      (q.end_ts = 0 ∨ d.acq_ts_numeric ≤ q.end_ts.toNat))

/-- All time stamps are positive. -/
def Positive (db : IndexCollection) : Prop := ∀ d ∈ db.documents, 0 < d.acq_ts_numeric

/-- What the client gives for a number that is not positive: all documents for 0, and some first
ones, no more than asked for, for a negative number. -/
structure FindsFirst (db : IndexCollection) : Prop where
  zero : ∀ docs, db.findNOther 0 docs = docs
  negative : ∀ n docs, n < 0 → docs ≠ [] →
    ∃ p : Nat, 0 < p ∧ (p : Int) ≤ -n ∧ db.findNOther n docs = docs.take p

theorem mem_documents_of_selected {d : IndexDocument} (hd : d ∈ selected db q) :
    d ∈ db.documents :=
  (List.mem_filter.mp hd).1

theorem toLongLong_ofLongLong {t : Int} (hlow : -2 ^ 63 ≤ t) (hhigh : t < 2 ^ 63) :
    toLongLong (ofLongLong t) = t := by
  unfold toLongLong ofLongLong
  rw [UInt64.toNat_ofNat']
  split <;> omega

theorem toLongLong_eq_toNat {x : UInt64} (h : x.toNat < 2 ^ 63) : toLongLong x = x.toNat := by
  unfold toLongLong
  rw [if_pos h]

theorem toLongLong_neg {x : UInt64} (h : ¬ x.toNat < 2 ^ 63) : toLongLong x < 0 := by
  have := x.toNat_lt
  unfold toLongLong
  rw [if_neg h]
  omega

theorem toNat_ofLongLong {t : Int} (hlow : 0 ≤ t) (hhigh : t < 2 ^ 63) :
    ((ofLongLong t).toNat : Int) = t := by
  unfold ofLongLong
  rw [UInt64.toNat_ofNat']
  omega

/-- A query with a match has the start time of a document, or a start time that is a long long. -/
theorem start_lt_of_asked (hmatch : asked db q ≠ []) : q.start_ts.toNat < 2 ^ 63 := by
  obtain ⟨d, hd⟩ := List.exists_mem_of_ne_nil _ hmatch
  obtain ⟨hmem, hrange⟩ := List.mem_filter.mp hd
  have hhigh := (db.longLong d (mem_documents_of_selected hmem)).2
  have hstart := (of_decide_eq_true hrange).1
  omega

/-- The documents that are counted for a query whose bounds are there. -/
theorem found_of_bounds {start_ts end_ts : UInt64}
    (hstart : ∀ d ∈ selected db q,
      toLongLong start_ts ≤ d.acq_ts_numeric ↔ (q.start_ts.toNat : Int) ≤ d.acq_ts_numeric)
    (hend : ∀ d ∈ selected db q, d.acq_ts_numeric ≤ toLongLong end_ts ↔
      q.end_ts = 0 ∨ d.acq_ts_numeric ≤ q.end_ts.toNat) :
    found db { q with start_ts := start_ts, end_ts := end_ts } = asked db q := by
  unfold found since asked
  rw [List.filter_filter]
  refine List.filter_congr ?_
  intro d hd
  rw [← Bool.decide_and, decide_eq_decide, hend d hd, hstart d hd]
  exact and_comm

/-- A start time that is completed has the same documents behind it. -/
theorem start_iff {first d : IndexDocument} (hpos : Positive db) (hlow : q.start_ts.toNat < 2 ^ 63)
    (hfirst : (selected db q).head? = some first) (hd : d ∈ selected db q) :
    toLongLong (if q.start_ts = 0 then ofLongLong first.acq_ts_numeric else q.start_ts) ≤
        d.acq_ts_numeric ↔ (q.start_ts.toNat : Int) ≤ d.acq_ts_numeric := by
  split
  · rename_i hzero
    have hmem := mem_documents_of_selected (List.mem_of_head? hfirst)
    rw [toLongLong_ofLongLong (db.longLong _ hmem).1 (db.longLong _ hmem).2, hzero]
    refine iff_of_true ?_ (hpos d (mem_documents_of_selected hd)).le
    obtain ⟨ds, hds⟩ := List.head?_eq_some_iff.mp hfirst
    have hasc := ascending_selected db q
    unfold Ascending at hasc
    rw [hds] at hd hasc
    rcases List.mem_cons.mp hd with rfl | hd
    · exact le_refl _
    · exact ((List.pairwise_cons.mp hasc).1 d hd).le
  · rw [toLongLong_eq_toNat hlow]

/-- And so has an end time that is completed, when it is a long long. -/
theorem end_iff {last d : IndexDocument} (hhigh : q.end_ts.toNat < 2 ^ 63)
    (hlast : (selected db q).getLast? = some last) (hd : d ∈ selected db q) :
    d.acq_ts_numeric ≤
        toLongLong (if q.end_ts = 0 then ofLongLong last.acq_ts_numeric else q.end_ts) ↔
      q.end_ts = 0 ∨ d.acq_ts_numeric ≤ q.end_ts.toNat := by
  split
  · rename_i hzero
    have hmem := mem_documents_of_selected (List.mem_of_getLast? hlast)
    rw [toLongLong_ofLongLong (db.longLong _ hmem).1 (db.longLong _ hmem).2]
    refine iff_of_true ?_ (.inl hzero)
    obtain ⟨ds, hds⟩ := List.getLast?_eq_some_iff.mp hlast
    have hasc := ascending_selected db q
    unfold Ascending at hasc
    rw [hds] at hd hasc
    rcases List.mem_append.mp hd with hd | hd
    · exact ((List.pairwise_append.mp hasc).2.2 d hd last (List.mem_singleton_self _)).le
    · rw [List.mem_singleton.mp hd]
  · rename_i hne
    rw [toLongLong_eq_toNat hhigh, or_iff_right hne]

/-- A query with a match is completed, and the documents that are counted for it are the ones that
it asks for, when its end time is a long long. Otherwise there are none. -/
theorem completeQuery_spec (hpos : Positive db) (hmatch : asked db q ≠ []) :
    ∃ q', completeQuery db q = .ok q' ∧
      (q.end_ts.toNat < 2 ^ 63 → q'.end_ts.toNat < 2 ^ 63 ∧ found db q' = asked db q) ∧
      (¬ q.end_ts.toNat < 2 ^ 63 → found db q' = []) := by
  have hlow := start_lt_of_asked hmatch
  have hne : selected db q ≠ [] := by
    intro hnil
    unfold asked at hmatch
    rw [hnil] at hmatch
    exact hmatch rfl
  obtain ⟨first, hfirst⟩ := Option.isSome_iff_exists.mp (List.isSome_head?.mpr hne)
  obtain ⟨last, hlast⟩ := Option.isSome_iff_exists.mp (List.getLast?_isSome.mpr hne)
  refine ⟨{ q with
    start_ts := if q.start_ts = 0 then ofLongLong first.acq_ts_numeric else q.start_ts
    end_ts := if q.end_ts = 0 then ofLongLong last.acq_ts_numeric else q.end_ts }, ?_, ?_, ?_⟩
  · unfold completeQuery
    split
    · rw [hfirst, hlast]
    · rename_i hset
      rw [not_or] at hset
      rw [if_neg hset.1, if_neg hset.2]
  · intro hhigh
    refine ⟨?_, found_of_bounds (fun d => start_iff hpos hlow hfirst) fun d => end_iff hhigh hlast⟩
    dsimp only
    split
    · have hmem := mem_documents_of_selected (List.mem_of_getLast? hlast)
      have hts := toNat_ofLongLong (hpos last hmem).le (db.longLong last hmem).2
      have := (db.longLong last hmem).2
      omega
    · exact hhigh
  · intro hhigh
    unfold found
    rw [List.filter_eq_nil_iff]
    intro d hd
    have hd := hpos d (mem_documents_of_since hd)
    have hneg := toLongLong_neg hhigh
    have hset : q.end_ts ≠ 0 := by
      rintro hzero
      rw [hzero] at hhigh
      exact hhigh (by decide)
    dsimp only
    rw [if_neg hset, decide_eq_true_eq]
    omega

/-! ## The position of a cursor -/

/-- The cursor has fetched `k` of the counted documents, and `o` of them were taken from it. -/
structure Fetched (db : IndexCollection) (q : DataPackIndexQuery) (page_dimension : UInt32)
    (c : MongoDBIndexCursor) (o k : Nat) : Prop where
  query : c.query = q
  dimension : c.result_page_dimension = page_dimension
  found_eq : c.element_found = UInt64.ofNat (found db q).length
  fetched_eq : c.number_of_element_fetched = UInt64.ofNat k
  taken : o ≤ k
  fetched : k ≤ (found db q).length
  returned : c.number_of_returned_element_in_page.toNat ≤ c.fetched_element_page.length
  rest : c.fetched_element_page.drop c.number_of_returned_element_in_page.toNat =
    ((found db q).take k).drop o
  page : c.fetched_element_page.length < 2 ^ 32
  last : c.last_max_ts_searched = lastMax (found db q) k

/-- The counted documents have different positive long longs. -/
theorem length_found_lt (hpos : Positive db) (q : DataPackIndexQuery) :
    (found db q).length < 2 ^ 63 := by
  have hmem : ∀ d ∈ found db q, d ∈ db.documents := fun d hd =>
    mem_documents_of_since (List.mem_filter.mp hd).1
  have := (ascending_found db q).length_lt (show (0 : Int) < 2 ^ 63 by decide)
    (fun d hd => hpos d (hmem d hd)) fun d hd => (db.longLong d (hmem d hd)).2
  omega

theorem Fetched.hasNext (h : Fetched db q page_dimension c o k) : c.hasNext = true ↔ o < k :=
  hasNext_iff h.taken h.returned (length_rest h.fetched h.rest)

/-- `getIndex` gives the next of the counted documents. -/
theorem Fetched.getIndex (h : Fetched db q page_dimension c o k) (hok : o < k) :
    ∃ d c', (found db q)[o]? = some d ∧ c.getIndex = some (d, c') ∧
      Fetched db q page_dimension c' (o + 1) k := by
  have hlen := length_rest h.fetched h.rest
  have hpage := h.page
  have hfetched := h.fetched
  have hd := List.getElem?_eq_getElem (show o < (found db q).length by omega)
  have hnext : c.fetched_element_page[c.number_of_returned_element_in_page.toNat]? =
      (found db q)[o]? := by
    rw [← Nat.add_zero c.number_of_returned_element_in_page.toNat, ← List.getElem?_drop, h.rest,
      List.getElem?_drop, Nat.add_zero, List.getElem?_take_of_lt hok]
  have hone : (c.number_of_returned_element_in_page + 1).toNat =
      c.number_of_returned_element_in_page.toNat + 1 := by
    rw [UInt32.toNat_add, show (1 : UInt32).toNat = 1 from rfl]
    omega
  refine ⟨_, { c with
    number_of_returned_element_in_page := c.number_of_returned_element_in_page + 1 }, hd, ?_,
    h.query, h.dimension, h.found_eq, h.fetched_eq, hok, h.fetched, ?_, ?_, h.page, h.last⟩
  · unfold MongoDBIndexCursor.getIndex
    rw [if_pos (h.hasNext.mpr hok), hnext, hd]
    rfl
  · dsimp only
    rw [hone]
    omega
  · dsimp only
    rw [hone, ← List.drop_drop, h.rest, List.drop_drop]

theorem Fetched.all_iff (hpos : Positive db) (h : Fetched db q page_dimension c o k) :
    c.number_of_element_fetched = c.element_found ↔ k = (found db q).length := by
  have hk := h.fetched
  have hlen := length_found_lt hpos q
  rw [h.found_eq, h.fetched_eq, ← UInt64.toNat_inj, UInt64.toNat_ofNat', UInt64.toNat_ofNat']
  omega

/-! ## The next page -/

/-- What is left to fetch is taken in 32 bits. -/
theorem Fetched.toFetch (hpos : Positive db) (h : Fetched db q page_dimension c o k) :
    c.toFetch.toNat = min page_dimension.toNat (((found db q).length - k) % 2 ^ 32) := by
  have hlen := length_found_lt hpos q
  rw [toNat_toFetch h.fetched (by omega) h.found_eq h.fetched_eq, h.dimension]

/-- A number of documents that is not 0 gives some first ones, and no more. -/
theorem findN_first (hother : FindsFirst db) {docs : List IndexDocument} {n : UInt32}
    (hn : 0 < n.toNat) (hdocs : docs ≠ []) :
    ∃ p, 0 < p ∧ p ≤ n.toNat ∧ findN db docs n = docs.take p := by
  have hlt := n.toNat_lt
  have hint := little_endian.toInt_toInt32 n
  unfold findN
  by_cases hsmall : n.toNat < 2 ^ 31
  · rw [if_pos hsmall] at hint
    rw [if_pos (by omega)]
    exact ⟨n.toNat, hn, Nat.le_refl _, rfl⟩
  · rw [if_neg hsmall] at hint
    obtain ⟨p, hp, hle, htake⟩ := hother.negative n.toInt32.toInt docs (by omega) hdocs
    rw [if_neg (by omega), htake]
    exact ⟨p, hp, by omega, rfl⟩

/-- With positive time stamps and an end time that is a long long, each page can start. -/
theorem pageStarts (hpos : Positive db) (hend : q.end_ts.toNat < 2 ^ 63)
    (hk : k < (found db q).length) : PageStarts db q k := by
  have hmem : ∀ d ∈ found db q, 0 < d.acq_ts_numeric ∧ d.acq_ts_numeric < 2 ^ 63 ∧
      d.acq_ts_numeric ≤ q.end_ts.toNat := by
    intro d hd
    obtain ⟨hsince, hle⟩ := List.mem_filter.mp hd
    have hdoc := mem_documents_of_since hsince
    rw [toLongLong_eq_toNat hend] at hle
    exact ⟨hpos d hdoc, (db.longLong d hdoc).2, of_decide_eq_true hle⟩
  unfold PageStarts
  cases k with
  | zero =>
    obtain ⟨hlow, -, hle⟩ := hmem _ (List.getElem_mem hk)
    refine ⟨?_, .inl rfl⟩
    rw [lastMax_zero, UInt64.lt_iff_toNat_lt, show (0 : UInt64).toNat = 0 from rfl]
    omega
  | succ k =>
    have hlt : k < (found db q).length := by omega
    obtain ⟨hlow, hhigh, -⟩ := hmem _ (List.getElem_mem hlt)
    obtain ⟨-, -, hle⟩ := hmem _ (List.getElem_mem hk)
    have hup := List.pairwise_iff_getElem.mp (ascending_found db q) k (k + 1) hlt hk (by omega)
    have hts := toNat_ofLongLong hlow.le hhigh
    rw [lastMax_succ (List.getElem?_eq_getElem hlt)]
    refine ⟨?_, .inr ?_⟩
    · rw [UInt64.lt_iff_toNat_lt]
      omega
    · intro hzero
      rw [hzero, show (0 : UInt64).toNat = 0 from rfl] at hts
      omega

/-- The documents that the next page is taken from. -/
theorem Fetched.since_next (hpos : Positive db) (hend : q.end_ts.toNat < 2 ^ 63)
    (h : Fetched db q page_dimension c o k) (hk : k < (found db q).length) :
    ¬ c.query.end_ts ≤ c.last_max_ts_searched ∧
      since db { c.query with start_ts := c.nextStart } = (since db q).drop k := by
  have hstart := pageStarts hpos hend hk
  refine ⟨?_, ?_⟩
  · rw [h.query, h.last]
    exact UInt64.not_le.mpr hstart.1
  · rw [h.query]
    exact since_nextStart h.query h.last hk hstart

/-- As long as the rest is not a multiple of 2^32, the next page has some of the counted documents
that come next. -/
theorem Fetched.next_page (hpos : Positive db) (hother : FindsFirst db)
    (hdim : 1 ≤ page_dimension.toNat) (hend : q.end_ts.toNat < 2 ^ 63)
    (h : Fetched db q page_dimension c k k) (hleft : 0 < ((found db q).length - k) % 2 ^ 32) :
    ∃ p c', 0 < p ∧ p ≤ ((found db q).length - k) % 2 ^ 32 ∧
      c.performNextPagedQuery db = some c' ∧ Fetched db q page_dimension c' k (k + p) := by
  have hmod := Nat.mod_le ((found db q).length - k) (2 ^ 32)
  have hmodlt := Nat.mod_lt ((found db q).length - k) (Nat.two_pow_pos 32)
  have hk : k < (found db q).length := by omega
  have hlen := length_found_lt hpos q
  have hfetch := h.toFetch hpos
  obtain ⟨hgoes, hsince⟩ := h.since_next hpos hend hk
  have hne : (since db q).drop k ≠ [] := by
    have hle : (found db q).length ≤ (since db q).length := List.length_filter_le _ _
    intro hnil
    have := List.drop_eq_nil_iff.mp hnil
    omega
  obtain ⟨p, hp, hple, hfind⟩ := findN_first hother (n := c.toFetch) (by omega) hne
  have hpage : findN db (since db { c.query with start_ts := c.nextStart }) c.toFetch =
      ((found db q).drop k).take p := by
    rw [hsince, hfind, drop_take_found db q (by omega)]
  have hlength : (((found db q).drop k).take p).length = p := by
    rw [List.length_take, List.length_drop]
    omega
  obtain ⟨p, rfl⟩ : ∃ r, p = r + 1 := ⟨p - 1, by omega⟩
  have hlt : k + p < (found db q).length := by omega
  have hlast : (((found db q).drop k).take (p + 1)).getLast? = some (found db q)[k + p] := by
    rw [List.getLast?_eq_getElem?, hlength, Nat.add_sub_cancel,
      List.getElem?_take_of_lt (Nat.lt_succ_self p), List.getElem?_drop,
      List.getElem?_eq_getElem hlt]
  refine ⟨p + 1, _, hp, by omega, performNextPagedQuery_eq hgoes hpage hlast, h.query, h.dimension,
    h.found_eq, ?_, by omega, by omega, Nat.zero_le _, ?_, ?_, ?_⟩
  · change c.number_of_element_fetched + _ = _
    rw [h.fetched_eq, hlength, ← UInt64.toNat_inj, UInt64.toNat_add, UInt64.toNat_ofNat',
      UInt64.toNat_ofNat', UInt32.toNat_toUInt64, UInt32.toNat_ofNat']
    omega
  · have htake : ((found db q).take (k + (p + 1))).drop k = ((found db q).drop k).take (p + 1) := by
      rw [List.drop_take, Nat.add_sub_cancel_left]
    exact htake.symm
  · change (((found db q).drop k).take (p + 1)).length < _
    omega
  · rw [← Nat.add_assoc, lastMax_succ (List.getElem?_eq_getElem hlt)]

/-- Where the rest is a multiple of 2^32, the next page has no limit. -/
theorem Fetched.next_page_all (hpos : Positive db) (hother : FindsFirst db)
    (hend : q.end_ts.toNat < 2 ^ 63) (h : Fetched db q page_dimension c k k)
    (hleft : ((found db q).length - k) % 2 ^ 32 = 0) (hlarge : 2 ^ 32 ≤ (found db q).length - k) :
    ∃ c', c.performNextPagedQuery db = some c' ∧ 2 ^ 32 ≤ c'.fetched_element_page.length := by
  have hle : (found db q).length ≤ (since db q).length := List.length_filter_le _ _
  have hlength : ((since db q).drop k).length = (since db q).length - k := List.length_drop ..
  obtain ⟨hgoes, hsince⟩ := h.since_next hpos hend (by omega)
  have hzero : c.toFetch = 0 := by
    rw [← UInt32.toNat_inj, h.toFetch hpos, hleft]
    exact Nat.min_zero _
  have hpage : findN db (since db { c.query with start_ts := c.nextStart }) c.toFetch =
      (since db q).drop k := by
    rw [hsince, hzero]
    exact hother.zero _
  have hne : (since db q).drop k ≠ [] := by
    refine List.ne_nil_of_length_pos ?_
    omega
  refine ⟨_, performNextPagedQuery_eq hgoes hpage (List.getLast?_eq_some_getLast hne), ?_⟩
  change 2 ^ 32 ≤ ((since db q).drop k).length
  omega

/-! ## The drained pages -/

/-- With fewer than 2^32 counted documents the pages give them all. -/
theorem Fetched.readIndexes_rest (hpos : Positive db) (hother : FindsFirst db)
    (hdim : 1 ≤ page_dimension.toNat) (hend : q.end_ts.toNat < 2 ^ 63)
    (hn : (found db q).length < 2 ^ 32) (h : Fetched db q page_dimension c o k) :
    ∃ fuel, readIndexes db fuel c = some ((found db q).drop o) := by
  -- each step fetches an element or takes one
  induction hleft : ((found db q).length - k) + ((found db q).length - o) using
    Nat.strong_induction_on generalizing c o k with
  | _ left ih =>
    have htaken := h.taken
    have hfetched := h.fetched
    by_cases hok : o < k
    · obtain ⟨d, c', hd, hget, hnext⟩ := h.getIndex hok
      obtain ⟨fuel, hfuel⟩ := ih _ (by omega) hnext rfl
      refine ⟨fuel + 1, ?_⟩
      unfold readIndexes
      rw [if_pos (h.hasNext.mpr hok), hget, Option.bind_some, hfuel, Option.map_some]
      obtain ⟨hlt, rfl⟩ := List.getElem?_eq_some_iff.mp hd
      rw [List.drop_eq_getElem_cons hlt]
    · obtain rfl : o = k := by omega
      have hdrained : ¬ c.hasNext = true := fun hnext => hok (h.hasNext.mp hnext)
      by_cases hall : o = (found db q).length
      · refine ⟨1, ?_⟩
        unfold readIndexes
        rw [if_neg hdrained, if_pos ((h.all_iff hpos).mpr hall), List.drop_eq_nil_of_le hall.ge]
      · have hmod : ((found db q).length - o) % 2 ^ 32 = (found db q).length - o :=
          Nat.mod_eq_of_lt (by omega)
        obtain ⟨p, c', hp, hle, hperform, hnext⟩ :=
          h.next_page hpos hother hdim hend (by omega)
        obtain ⟨fuel, hfuel⟩ := ih _ (by omega) hnext rfl
        refine ⟨fuel + 1, ?_⟩
        unfold readIndexes
        rw [if_neg hdrained, if_neg fun heq => hall ((h.all_iff hpos).mp heq), hperform,
          Option.bind_some, hfuel]

/-- A page with 2^32 elements is never drained: their number is counted in 32 bits. -/
theorem readIndexes_large (hlarge : 2 ^ 32 ≤ c.fetched_element_page.length) (fuel : Nat) :
    readIndexes db fuel c = none := by
  induction fuel generalizing c with
  | zero => rfl
  | succ fuel ih =>
    have hlt := c.number_of_returned_element_in_page.toNat_lt
    have hnext : c.hasNext = true := by
      simp only [MongoDBIndexCursor.hasNext, decide_eq_true_eq]
      omega
    unfold readIndexes MongoDBIndexCursor.getIndex
    rw [if_pos hnext, if_pos hnext, List.getElem?_eq_getElem (by omega), Option.map_some,
      Option.bind_some]
    exact Option.map_eq_none_iff.mpr (ih hlarge)

/-- With 2^32 documents left the reading never comes to its end. -/
theorem Fetched.readIndexes_none (hpos : Positive db) (hother : FindsFirst db)
    (hdim : 1 ≤ page_dimension.toNat) (hend : q.end_ts.toNat < 2 ^ 63)
    (h : Fetched db q page_dimension c o k) (hlarge : 2 ^ 32 ≤ (found db q).length - k)
    (fuel : Nat) : readIndexes db fuel c = none := by
  induction fuel generalizing c o k with
  | zero => rfl
  | succ fuel ih =>
    unfold readIndexes
    have htaken := h.taken
    by_cases hok : o < k
    · obtain ⟨d, c', -, hget, hnext⟩ := h.getIndex hok
      rw [if_pos (h.hasNext.mpr hok), hget, Option.bind_some, ih hnext hlarge, Option.map_none]
    · obtain rfl : o = k := by omega
      rw [if_neg fun hnext => hok (h.hasNext.mp hnext), if_neg]
      · rcases Nat.eq_zero_or_pos (((found db q).length - o) % 2 ^ 32) with hzero | hleft
        · obtain ⟨c', hperform, hpage⟩ := h.next_page_all hpos hother hend hzero hlarge
          rw [hperform, Option.bind_some, readIndexes_large hpage]
        · obtain ⟨p, c', -, hle, hperform, hnext⟩ := h.next_page hpos hother hdim hend hleft
          rw [hperform, Option.bind_some]
          exact ih hnext (by omega)
      · rw [h.all_iff hpos]
        omega

/-- A new cursor has fetched nothing. -/
theorem fetched_start (page_dimension : UInt32) {q' : DataPackIndexQuery}
    (hcomplete : completeQuery db q = .ok q')
    (hfound : found db q' ≠ []) :
    ∃ c, start db q page_dimension = .ok c ∧ Fetched db q' page_dimension c 0 0 := by
  unfold start
  rw [hcomplete]
  dsimp only
  rw [if_neg fun hlen => hfound (List.length_eq_zero_iff.mp hlen)]
  exact ⟨_, rfl, rfl, rfl, rfl, rfl, Nat.le_refl 0, Nat.zero_le _, Nat.le_refl 0, rfl,
    Nat.two_pow_pos 32, rfl⟩

/-- The pages give the documents that the query asks for, once and in order, just when its end time
is a long long and there are fewer than 2^32 of them. -/
theorem all_matches_are_read_iff (hpos : Positive db) (hother : FindsFirst db)
    (hdim : 1 ≤ page_dimension.toNat) (hmatch : asked db q ≠ []) :
    (∃ c fuel, start db q page_dimension = .ok c ∧ readIndexes db fuel c = some (asked db q)) ↔
      q.end_ts.toNat < 2 ^ 63 ∧ (asked db q).length < 2 ^ 32 := by
  obtain ⟨q', hcomplete, hlong, hnone⟩ := completeQuery_spec hpos hmatch
  by_cases hend : q.end_ts.toNat < 2 ^ 63
  · obtain ⟨hend', hfound⟩ := hlong hend
    rw [← hfound] at hmatch ⊢
    obtain ⟨c, hstart, hat⟩ := fetched_start page_dimension hcomplete hmatch
    rw [and_iff_right hend]
    constructor
    · rintro ⟨c', fuel, hstart', hread⟩
      rw [hstart] at hstart'
      cases hstart'
      by_contra hlarge
      rw [hat.readIndexes_none hpos hother hdim hend' (by omega) fuel] at hread
      cases hread
    · intro hn
      obtain ⟨fuel, hread⟩ := hat.readIndexes_rest hpos hother hdim hend' hn
      exact ⟨c, fuel, hstart, hread⟩
  · refine iff_of_false ?_ fun hcond => hend hcond.1
    rintro ⟨c, fuel, hstart, -⟩
    have hlen : (found db q').length = 0 := List.length_eq_zero_iff.mpr (hnone hend)
    unfold start at hstart
    rw [hcomplete] at hstart
    dsimp only at hstart
    rw [if_pos hlen] at hstart
    cases hstart

/-- Four indexes of a device, in a database that takes a negative number for a single answer. -/
def fourIndexes : IndexCollection where
  documents := [indexAt 10, indexAt 20, indexAt 30, indexAt 40]
  ordered := by decide
  longLong := by decide
  findNOther n docs := if n = 0 then docs else docs.take n.natAbs

theorem findsFirst_fourIndexes : FindsFirst fourIndexes where
  zero _ := rfl
  negative n docs hn _ := by
    refine ⟨n.natAbs, by omega, by omega, ?_⟩
    change (if n = 0 then docs else docs.take n.natAbs) = _
    rw [if_neg (by omega)]

/-- Pages of two, and no end time. -/
theorem four_indexes_are_read :
    ∃ c fuel, start fourIndexes ⟨"bpm", 0, 15, 0⟩ 2 = .ok c ∧
      readIndexes fourIndexes fuel c = some [indexAt 20, indexAt 30, indexAt 40] :=
  (all_matches_are_read_iff (show ∀ d ∈ _, _ by decide) findsFirst_fourIndexes (by decide)
    (by decide)).mpr (by decide)

/-- An end time from 2^63 on is negative for the database, which then counts no document. -/
theorem late_end_finds_nothing : ¬ ∀ (db : IndexCollection) (q : DataPackIndexQuery)
    (page_dimension : UInt32), Positive db → FindsFirst db → 1 ≤ page_dimension.toNat →
    asked db q ≠ [] →
    ∃ c fuel, start db q page_dimension = .ok c ∧ readIndexes db fuel c = some (asked db q) := by
  intro h
  obtain ⟨c, fuel, hstart, -⟩ := h fourIndexes ⟨"bpm", 0, 15, 0xffffffffffffffff⟩ 2
    (show ∀ d ∈ _, _ by decide) findsFirst_fourIndexes (by decide) (by decide)
  cases hstart

end chaos.data_service.db_system
