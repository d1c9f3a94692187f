-- What the readers of a common buffer receive. A read looks at the age of an element only where it
-- begins, and it compares time-outs where it should compare places, so that the elements have to
-- go out of date in the order of the queue.
import Chaos.BufferSafety
import Chaos.NumberedList

open Function runs

namespace chaos.caching_system.System

variable {U : Type} {w t : System U} {r : IteratorReader} {n c d : Nat}

/-! ## What a reader should receive -/

/-- The reader receives the elements in the order of the queue and none twice. Each one is not out
of date when its read begins. An element that it passed without receiving it was out of date at
one of its reads, or lay before the pivot at its first read. -/
structure InOrder (w : System U) (r : IteratorReader) : Prop where
  ascending : (r.received.map Prod.fst).Pairwise (· < ·)
  valid : ∀ p ∈ r.received, ∃ time, w.timeouts[p.1]? = some time ∧ p.2 ≤ time
  skipped : ∀ c ∈ r.current, ∀ n, n < c → n ∉ r.received.map Prod.fst →
    (∃ p ∈ r.first, n < p) ∨ ∃ now ∈ r.reads, ∃ time, w.timeouts[n]? = some time ∧ time < now

/-- The elements from `e` on are valid, as far as the limit goes. -/
def ValidFrom (w : System U) (e limit : Nat) : Prop :=
  ∀ n < w.queue.head, e ≤ n → n < e + limit → w.queue.isValid w.now n = some true

/-- The elements from `p` to `c` are out of date. -/
def OutOfDate (w : System U) (p c : Nat) : Prop :=
  ∀ n < c, p ≤ n → w.queue.isValid w.now n = some false

/-- The time-out of an element. -/
def timedOut (w : System U) (n : Nat) : UInt64 :=
  (w.queue.elements.lookup n).elim 0 Element.timedOut

/-- What a read has to find. At the first read the elements from the pivot on are valid. At another
read they are so from the first valid one on that is not before the place of the reader; and where
this place is out of date and its time-out is not after the one of the pivot, the elements from the
pivot to the place are out of date too. -/
def ReadFits (w : System U) (limit : Nat) : Option Nat → Prop
  | none => w.ValidFrom w.queue.pivot limit
  | some c =>
    (w.queue.isValid w.now c = some false → w.timedOut c ≤ w.timedOut w.queue.pivot →
      w.OutOfDate w.queue.pivot c) ∧
    ∀ e < w.queue.head, max c w.queue.pivot ≤ e → w.queue.isValid w.now e = some true →
      w.OutOfDate (max c w.queue.pivot) e → w.ValidFrom e limit

/-- What the reads and the collections of a run have to find. -/
def ReadsFit (w : System U) : Op U → Prop
  | .bufferedReader i limit =>
    match w.readers[i]? with
    | none => True
    | some r => w.ReadFits (CommonBuffer.readLimit limit) r.current
  | .clearQueue => ∀ n < w.queue.allocati, w.refs n < 2 ^ 32
  | _ => True

instance (w : System U) (e limit : Nat) : Decidable (w.ValidFrom e limit) :=
  inferInstanceAs (Decidable (∀ n < w.queue.head, e ≤ n → n < e + limit →
    w.queue.isValid w.now n = some true))

instance (w : System U) (p c : Nat) : Decidable (w.OutOfDate p c) :=
  inferInstanceAs (Decidable (∀ n < c, p ≤ n → w.queue.isValid w.now n = some false))

instance (w : System U) (limit : Nat) : ∀ current, Decidable (w.ReadFits limit current)
  | none => inferInstanceAs (Decidable (w.ValidFrom _ _))
  | some _ => inferInstanceAs (Decidable (_ ∧ _))

instance (w : System U) : ∀ op, Decidable (w.ReadsFit op)
  | .bufferedReader i limit =>
    match h : w.readers[i]? with
    | none => isTrue (by simp [ReadsFit, h])
    | some r =>
      decidable_of_iff (w.ReadFits (CommonBuffer.readLimit limit) r.current)
        (by simp [ReadsFit, h])
  | .clearQueue => inferInstanceAs (Decidable (∀ n < w.queue.allocati, w.refs n < 2 ^ 32))
  | .setValidity _ | .newReader | .enqueue _ _ | .release _ | .getIteratorGarbage
  | .tick _ => inferInstanceAs (Decidable True)

/-! ## The time-outs -/

/-- The time-outs are the ones of the enqueues, and the elements before the pivot are out of
date. -/
structure Timed (w : System U) : Prop where
  length : w.timeouts.length = w.queue.head
  times : ∀ n e, w.queue.elements.lookup n = some e → n < w.queue.head →
    w.timeouts[n]? = some e.timedOut
  old : ∀ n, n < w.queue.pivot → ∃ time, w.timeouts[n]? = some time ∧ time < w.now

theorem Timed.of_invalid (ht : w.Timed) (h : w.Good)
    (hv : w.queue.isValid w.now n = some false) :
    ∃ time, w.timeouts[n]? = some time ∧ time < w.now := by
  have hlt := h.linked.lt_head_of_invalid hv
  obtain ⟨e, he, hbool⟩ := Option.map_eq_some_iff.mp hv
  refine ⟨e.timedOut, ht.times n e he hlt, ?_⟩
  simp at hbool
  exact hbool.2

theorem Timed.of_valid (ht : w.Timed) (h : w.Good) (hlt : n < w.queue.head)
    (hv : w.queue.isValid w.now n = some true) :
    ∃ time, w.timeouts[n]? = some time ∧ w.now ≤ time := by
  obtain ⟨e, he, hbool⟩ := Option.map_eq_some_iff.mp hv
  refine ⟨e.timedOut, ht.times n e he hlt, ?_⟩
  obtain ⟨hdata, -⟩ := h.linked.linked n e he hlt
  simp [hdata] at hbool
  exact hbool

/-- An element that is valid is not before the pivot. -/
theorem Timed.pivot_le (ht : w.Timed) (h : w.Good) (hlt : n < w.queue.head)
    (hv : w.queue.isValid w.now n = some true) : w.queue.pivot ≤ n := by
  refine Nat.le_of_not_lt fun hn => ?_
  obtain ⟨time, htime, hle⟩ := ht.of_valid h hlt hv
  obtain ⟨time', htime', hold⟩ := ht.old n hn
  rw [htime] at htime'
  cases htime'
  exact absurd hold (UInt64.not_lt.mpr hle)

/-! ## Where a read begins -/

/-- A read that begins at `c` passes only elements that are out of date, and finds valid ones. -/
structure Begins (w : System U) (current : Option Nat) (limit c : Nat) : Prop where
  pivot : w.queue.pivot ≤ c
  fresh : current = none → c = w.queue.pivot
  after : ∀ p ∈ current, p ≤ c
  passed : ∀ p ∈ current, ∀ n, p ≤ n → n < c →
    ∃ time, w.timeouts[n]? = some time ∧ time < w.now
  valid : w.ValidFrom c limit

/-- The elements up to the first valid one are out of date, whether they are there or freed. -/
theorem Timed.passed (ht : w.Timed) (h : w.Good) {p : Nat}
    (hf : w.queue.FirstValid w.now p c) (hp : p ≤ n) (hn : n < c) :
    ∃ time, w.timeouts[n]? = some time ∧ time < w.now := by
  rcases Nat.lt_or_ge n w.queue.pivot with hlt | hge
  · exact ht.old n hlt
  · have hle := h.linked.le_head hf.allocated
    have hna := h.linked.allocated_from_pivot hge (by omega)
    exact ht.of_invalid h (hf.before n hp hn hna)

theorem Timed.pivot_le_first (ht : w.Timed) (h : w.Good) {p : Nat}
    (hf : w.queue.FirstValid w.now p c) : w.queue.pivot ≤ c := by
  rcases Nat.lt_or_eq_of_le (h.linked.le_head hf.allocated) with hlt | rfl
  · rcases hf.valid with rfl | hv
    · exact h.linked.pivot_le
    · exact ht.pivot_le h hlt hv
  · exact h.linked.pivot_le

/-- At the first valid element that is not before the place of the reader all is as it should
be. -/
theorem ReadFits.begins_at {limit p : Nat} (hfit : w.ReadFits limit (some p)) (hpc : p ≤ c)
    (hle : w.queue.pivot ≤ c) (hv : c = w.queue.head ∨ w.queue.isValid w.now c = some true)
    (hbefore : w.OutOfDate (max p w.queue.pivot) c)
    (hpassed : ∀ n, p ≤ n → n < c → ∃ time, w.timeouts[n]? = some time ∧ time < w.now) :
    w.Begins (some p) limit c := by
  refine ⟨hle, nofun, ?_, ?_, ?_⟩
  · rintro _ ⟨⟩
    exact hpc
  · rintro _ ⟨⟩
    exact hpassed
  · intro n hn hcn hlimit
    rcases hv with rfl | hv
    · omega
    · exact hfit.2 c (by omega) (Nat.max_le.mpr ⟨hpc, hle⟩) hv hbefore n hn hcn hlimit

theorem ReadFits.begins {limit : Nat} {current : Option Nat} (hfit : w.ReadFits limit current)
    (h : w.Good) (ht : w.Timed) (hr : ∀ p ∈ current, w.queue.Allocated p)
    (hchosen : w.queue.Chosen w.now current c) : w.Begins current limit c := by
  cases hchosen with
  | attach => exact ⟨Nat.le_refl _, fun _ => rfl, nofun, nofun, hfit⟩
  | resume hv =>
    have hle := h.linked.le_head (hr c rfl)
    have hpivot : w.queue.pivot ≤ c := by
      rcases Nat.lt_or_eq_of_le hle with hlt | heq
      · exact ht.pivot_le h hlt hv
      · rw [heq]
        exact h.linked.pivot_le
    refine hfit.begins_at (Nat.le_refl c) hpivot (.inr hv) ?_ ?_
    · intro n hn hcn
      omega
    · intro n hcn hn
      omega
  | forward hinv he hpiv hlt hf =>
    refine hfit.begins_at hf.le (ht.pivot_le_first h hf) hf.valid ?_ ?_
    · intro n hn hpn
      have := h.linked.le_head hf.allocated
      exact hf.before n (by omega) hn (h.linked.allocated_from_pivot (by omega) (by omega))
    · exact fun n hpn hn => ht.passed h hf hpn hn
  | @restart p _ e piv hinv he hpiv hle hf =>
    have htime : w.timedOut p ≤ w.timedOut w.queue.pivot := by
      simp only [timedOut, he, hpiv]
      exact UInt64.not_lt.mp hle
    have hback := hfit.1 hinv htime
    have hplt := h.linked.lt_head_of_invalid hinv
    -- a valid element before the place of the reader would be read again
    have hpc : p ≤ c := by
      refine Nat.le_of_not_lt fun hlt => ?_
      have hfalse := hback c hlt hf.le
      rcases hf.valid with rfl | hv
      · omega
      · rw [hv] at hfalse
        cases hfalse
    refine hfit.begins_at hpc hf.le hf.valid ?_ ?_
    · intro n hn hpn
      have := h.linked.le_head hf.allocated
      exact hf.before n (by omega) hn (h.linked.allocated_from_pivot (by omega) (by omega))
    · intro n hpn hn
      rcases Nat.lt_or_ge n w.queue.pivot with hlt | hge
      · exact ht.old n hlt
      · exact ht.passed h hf hge hn

/-! ## One call after another -/

/-- What each reader was given so far is in order, and its place is after all of it. -/
structure Served (w : System U) (r : IteratorReader) : Prop extends InOrder w r where
  ahead : ∀ p ∈ r.received, ∃ c, r.current = some c ∧ p.1 < c
  attached : r.current = none → r.first = none

structure Delivers (w : System U) : Prop where
  good : w.Good
  timed : w.Timed
  served : ∀ r ∈ w.readers, w.Served r

/-- The time-outs of the past stay, so that a reader that does not read keeps what it has. -/
theorem Served.keep (hs : w.Served r) (htime : ∀ (n : Nat) time, w.timeouts[n]? = some time →
    t.timeouts[n]? = some time) : t.Served r :=
  { hs with
    valid := by
      intro p hp
      obtain ⟨time, h, hle⟩ := hs.valid p hp
      exact ⟨time, htime _ _ h, hle⟩
    skipped := by
      intro c hc n hn hskip
      rcases hs.skipped c hc n hn hskip with hfirst | ⟨now, hnow, time, h, hlt⟩
      · exact .inl hfirst
      · exact .inr ⟨now, hnow, time, htime _ _ h, hlt⟩ }

theorem Served.read {limit : Nat} {buffer : List Nat} (hs : w.Served r) (h : w.Good)
    (ht : w.Timed) (hb : w.Begins r.current limit c) (hread : w.queue.ReadFrom limit c buffer d)
    (htime : t.timeouts = w.timeouts) :
    t.Served (r.note w.now w.queue.pivot buffer ⟨some d, some d⟩) := by
  have hdle := h.linked.le_head hread.allocated
  have hshort := hread.short hb.pivot
  have hfst : (r.note w.now w.queue.pivot buffer ⟨some d, some d⟩).received.map Prod.fst =
      r.received.map Prod.fst ++ buffer := by
    simp [IteratorReader.note, Function.comp_def]
  have hbefore : ∀ n ∈ r.received.map Prod.fst, n < c := by
    intro n hn
    obtain ⟨p, hp, rfl⟩ := List.mem_map.mp hn
    obtain ⟨q, hq, hlt⟩ := hs.ahead p hp
    exact Nat.lt_of_lt_of_le hlt (hb.after q hq)
  exact {
    ascending := by
      rw [hfst, List.pairwise_append]
      refine ⟨hs.ascending, hread.ascending, ?_⟩
      intro a ha b hb'
      exact Nat.lt_of_lt_of_le (hbefore a ha) ((hread.members b).mp hb').1
    valid := by
      intro p hp
      rw [htime]
      rcases List.mem_append.mp hp with hp | hp
      · exact hs.valid p hp
      · obtain ⟨n, hn, rfl⟩ := List.mem_map.mp hp
        obtain ⟨hcn, hnd, -⟩ := (hread.members n).mp hn
        exact ht.of_valid h (by omega) (hb.valid n (by omega) hcn (by omega))
    skipped := by
      rintro _ ⟨⟩ n hn hskip
      rw [hfst, List.mem_append, not_or] at hskip
      rw [htime]
      have hnc : n < c := by
        refine Nat.lt_of_not_le fun hcn => hskip.2 ?_
        have hpivot := hb.pivot
        have hna := h.linked.allocated_from_pivot (Nat.le_trans hpivot hcn) (by omega)
        exact (hread.members n).mpr ⟨hcn, hn, hna⟩
      cases hcur : r.current with
      | none =>
        refine .inl ⟨w.queue.pivot, ?_, ?_⟩
        · simp [IteratorReader.note, hs.attached hcur]
        · rw [← hb.fresh hcur]
          exact hnc
      | some p =>
        rcases Nat.lt_or_ge n p with hlt | hge
        · rcases hs.skipped p hcur n hlt hskip.1 with ⟨q, hq, hnq⟩ | ⟨now, hnow, hold⟩
          · refine .inl ⟨q, ?_, hnq⟩
            simp [IteratorReader.note, Option.mem_def.mp hq]
          · exact .inr ⟨now, List.mem_append_left _ hnow, hold⟩
        · refine .inr ⟨w.now, List.mem_append_right _ (List.mem_singleton_self _), ?_⟩
          exact hb.passed p hcur n hge hnc
    ahead := by
      intro p hp
      refine ⟨d, rfl, ?_⟩
      rcases List.mem_append.mp hp with hp | hp
      · exact Nat.lt_of_lt_of_le (hbefore _ (List.mem_map_of_mem hp)) hread.le
      · obtain ⟨n, hn, rfl⟩ := List.mem_map.mp hp
        exact ((hread.members n).mp hn).2.1
    attached := nofun }

theorem Timed.enqueue (ht : w.Timed) (h : w.Good) (data : AbstractDataElement U)
    (smartPointer : Bool) (pointers : List Nat) :
    Timed { w with
      queue := w.queue.enqueued data smartPointer
      pointers := pointers
      timeouts := w.timeouts ++ [data.timestamp + w.queue.validita] } := by
  have hfresh := h.linked.fresh
  have hlen := ht.length
  exact {
    length := by
      show (w.timeouts ++ [_]).length = w.queue.allocati
      rw [List.length_append, List.length_singleton, hlen, hfresh]
    times := by
      intro n e he hlt
      rw [CommonBuffer.lookup_enqueued] at he
      replace hlt : n < w.queue.allocati := hlt
      split at he
      case isTrue heq =>
        cases he
        rw [List.getElem?_append_right (by omega), heq, hlen, Nat.sub_self]
        rfl
      case isFalse hne =>
        rw [if_neg (by omega)] at he
        rw [List.getElem?_append_left (by omega)]
        exact ht.times n e he (by omega)
    old := by
      intro n hn
      obtain ⟨time, htime, hlt⟩ := ht.old n hn
      exact ⟨time, numbered_list.getElem?_append_of_some htime _, hlt⟩ }

theorem Timed.clearQueue (ht : w.Timed) {c : CommonBuffer U} {q : Nat}
    {g : IteratorGarbage} (hclear : Cleared w.queue c)
    (hold : ∀ n, w.queue.pivot ≤ n → n < q → c.isValid w.now n = some false) :
    Timed { w with queue := c.marked q, garbage := some g } := by
  have htimes : ∀ n e, c.elements.lookup n = some e → n < w.queue.head →
      w.timeouts[n]? = some e.timedOut := by
    intro n e he hlt
    obtain ⟨f, hf, -, htime⟩ := hclear.same n e he
    rw [htime]
    exact ht.times n f hf hlt
  exact {
    length := ht.length.trans hclear.head.symm
    times := by
      intro n e he hlt
      refine htimes n e he ?_
      rw [← hclear.head]
      exact hlt
    old := by
      intro n hn
      rcases Nat.lt_or_ge n w.queue.pivot with hlt | hge
      · exact ht.old n hlt
      · have hv := hold n hge hn
        have hlt := hclear.linked.lt_head_of_invalid hv
        obtain ⟨e, he, hbool⟩ := Option.map_eq_some_iff.mp hv
        refine ⟨e.timedOut, htimes n e he (hclear.head ▸ hlt), ?_⟩
        simp at hbool
        exact hbool.2 }

theorem Delivers.read {i : Nat} {limit : Int} {buffer : List Nat} (hw : w.Delivers)
    (hr : w.readers[i]? = some r) (hfit : w.ReadFits (CommonBuffer.readLimit limit) r.current)
    (hchosen : w.queue.Chosen w.now r.current c)
    (hread : w.queue.ReadFrom (CommonBuffer.readLimit limit) c buffer d) :
    Delivers { w with
      queue := { w.queue with
        referenceCount := bump (buffer.foldl bump
          (CommonBuffer.released w.queue.referenceCount r.toIteratorBase)) d }
      readers := w.readers.set i (r.note w.now w.queue.pivot buffer ⟨some d, some d⟩)
      pointers := w.pointers ++ buffer } := by
  have hmem := List.mem_of_getElem? hr
  have hb := hfit.begins hw.good hw.timed (hw.good.current r hmem) hchosen
  refine ⟨hw.good.read hr hread, { hw.timed with }, ?_⟩
  intro s hs
  rcases List.mem_or_eq_of_mem_set hs with hs | rfl
  · exact (hw.served s hs).keep fun _ _ htime => htime
  · exact (hw.served r hmem).read hw.good hw.timed hb hread rfl

theorem Does.delivers {op : Op U} (hd : w.Does op t) (hw : w.Delivers)
    (hfit : w.ReadsFit op) : t.Delivers := by
  have hgood : t.Good := by
    refine hd.good hw.good ?_
    rintro rfl
    exact hfit
  cases hd with
  | enqueue data smartPointer =>
    refine ⟨hgood, hw.timed.enqueue hw.good data smartPointer _, ?_⟩
    intro r hr
    exact (hw.served r hr).keep fun _ _ htime => numbered_list.getElem?_append_of_some htime _
  | setValidity validity =>
    exact ⟨hgood, { hw.timed with }, fun r hr => (hw.served r hr).keep fun _ _ htime => htime⟩
  | newReader =>
    refine ⟨hgood, { hw.timed with }, ?_⟩
    intro r hr
    rcases List.mem_append.mp hr with hr | hr
    · exact (hw.served r hr).keep fun _ _ htime => htime
    · cases List.mem_singleton.mp hr
      exact ⟨⟨.nil, nofun, nofun⟩, nofun, fun _ => rfl⟩
  | noReader => exact hw
  | read hr hchosen hread =>
    simp only [ReadsFit, hr] at hfit
    exact hw.read hr hfit hchosen hread
  | noPointer => exact hw
  | release hp =>
    exact ⟨hgood, { hw.timed with }, fun r hr => (hw.served r hr).keep fun _ _ htime => htime⟩
  | garbageStays => exact hw
  | getIteratorGarbage hg =>
    exact ⟨hgood, { hw.timed with }, fun r hr => (hw.served r hr).keep fun _ _ htime => htime⟩
  | noGarbage => exact hw
  | clearQueue hg hclear hle hq hold hat =>
    refine ⟨hgood, hw.timed.clearQueue hclear hold, ?_⟩
    exact fun r hr => (hw.served r hr).keep fun _ _ htime => htime
  | tick time =>
    refine ⟨hgood, { hw.timed with old := ?_ }, ?_⟩
    · intro n hn
      obtain ⟨out, hout, hlt⟩ := hw.timed.old n hn
      refine ⟨out, hout, ?_⟩
      show out < if w.now ≤ time then time else w.now
      split
      case isTrue hle => exact UInt64.lt_of_lt_of_le hlt hle
      case isFalse => exact hlt
    · exact fun r hr => (hw.served r hr).keep fun _ _ htime => htime

/-- In a run whose reads all find the time-outs in order, each reader receives the elements in the
order of the queue, none twice and none that is out of date, and it skips only those that are. -/
theorem readers_receive_in_order (validity now : UInt64) (ops : List (Op U))
    (hfit : RunOk step ReadsFit (new U validity now) ops) :
    ∃ t, run step (new U validity now) ops = some t ∧ ∀ r ∈ t.readers, t.InOrder r := by
  have hstep : ∀ (w : System U) op, w.Delivers → w.ReadsFit op →
      ∃ t, w.step op = some t ∧ t.Delivers := by
    intro w op hw hfit
    obtain ⟨t, ht, hd⟩ := hw.good.step_does op
    exact ⟨t, ht, hd.delivers hw hfit⟩
  have hstart : (new U validity now).Delivers := by
    refine ⟨new_good U validity now, ⟨rfl, ?_, ?_⟩, nofun⟩
    · exact fun n e _ hlt => absurd hlt (Nat.not_lt_zero n)
    · exact fun n hn => absurd hn (Nat.not_lt_zero n)
  obtain ⟨t, ht, hw⟩ := run_ends_of_ok Delivers hstep hstart hfit
  exact ⟨t, ht, fun r hr => (hw.served r hr).toInOrder⟩

/-- A reader stops at an element that goes out of date, and goes on at the pivot. -/
def skipping : List (Op Unit) :=
  [.enqueue ⟨(), 5⟩ true, .enqueue ⟨(), 6⟩ false, .enqueue ⟨(), 20⟩ false, .newReader,
    .bufferedReader 0 1, .getIteratorGarbage, .tick 17, .clearQueue, .clearQueue,
    .bufferedReader 0 5]

theorem skipping_reader_receives_in_order :
    RunOk step ReadsFit (new Unit 10 0) skipping ∧
      ∃ t, run step (new Unit 10 0) skipping = some t ∧ ∀ r ∈ t.readers, t.InOrder r := by
  have hfit : RunOk step ReadsFit (new Unit 10 0) skipping := by decide
  exact ⟨hfit, readers_receive_in_order 10 0 skipping hfit⟩

/-- The elements that the readers received in a run, with the times of the reads, and the
time-outs of the elements. -/
def receipts (ops : List (Op Unit)) : Option (List (List (Nat × UInt64)) × List UInt64) :=
  (run step (new Unit 10 0) ops).map fun t => (t.readers.map fun r => r.received, t.timeouts)

/-- A first read begins at the pivot without a look at its age, and so does every element after
the first one of a read. A reader whose place is out of date goes back to a pivot with a later
time-out, and receives again what it had. -/
theorem readers_receive_old_elements_and_some_twice :
    receipts [.enqueue ⟨(), 5⟩ false, .tick 100, .newReader, .bufferedReader 0 1] =
      some ([[(0, 100)]], [15]) ∧
    receipts [.enqueue ⟨(), 1000⟩ false, .enqueue ⟨(), 10⟩ false, .tick 25, .newReader,
      .bufferedReader 0 2] = some ([[(0, 25), (1, 25)]], [1010, 20]) ∧
    receipts [.enqueue ⟨(), 1000⟩ false, .enqueue ⟨(), 10⟩ false, .newReader, .bufferedReader 0 1,
      .tick 25, .bufferedReader 0 1] = some ([[(0, 0), (0, 25)]], [1010, 20]) := by
  refine ⟨?_, ?_, ?_⟩ <;> decide

end chaos.caching_system.System
