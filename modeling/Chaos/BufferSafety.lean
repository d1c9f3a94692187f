-- A common buffer never frees what is in use, whatever order the calls come in, as long as its
-- counters of 32 bits do not run over: the counter of the elements at an enqueue, and the
-- counters of the smart pointers at a collection.
import Chaos.BufferGarbage
import Mathlib.Data.List.Perm.Basic

open Function runs linked_heap

namespace chaos.caching_system

variable {U : Type}

/-! ## The chain from the tail to the head -/

namespace Linked

variable {b : CommonBuffer U} {n : Nat}

/-- From an element on the chain has all that is there. -/
theorem chain_from (h : Linked b) (hn : b.Allocated n) :
    ∃ l, Chain Element.next b.elements (some n) l ∧ (l.map Prod.fst).Pairwise (· < ·) ∧
      (l.map Prod.fst).getLast? = some b.head ∧
      ∀ k, k ∈ l.map Prod.fst ↔ n ≤ k ∧ b.Allocated k := by
  obtain ⟨steps, hsteps⟩ : ∃ steps, steps = b.head - n := ⟨_, rfl⟩
  induction steps using Nat.strong_induction_on generalizing n with
  | _ steps ih =>
    have hle := h.le_head hn
    obtain ⟨e, he⟩ := Option.isSome_iff_exists.mp hn
    rcases Nat.lt_or_eq_of_le hle with hlt | rfl
    · obtain ⟨-, m, hnext, hnm, hm, hgap⟩ := h.linked n e he hlt
      obtain ⟨l, hchain, hsorted, hlast, hmem⟩ := ih (b.head - m) (by omega) hm rfl
      refine ⟨(n, e) :: l, ⟨rfl, he, hnext ▸ hchain⟩, ?_, ?_, ?_⟩
      · refine List.pairwise_cons.mpr ⟨fun k hk => ?_, hsorted⟩
        have := ((hmem k).mp hk).1
        omega
      · rw [List.map_cons, List.getLast?_cons, hlast]
        rfl
      · intro k
        rw [List.map_cons, List.mem_cons, hmem]
        constructor
        · rintro (rfl | ⟨hmk, hk⟩)
          · exact ⟨Nat.le_refl _, hn⟩
          · exact ⟨by omega, hk⟩
        · rintro ⟨hnk, hk⟩
          rcases Nat.eq_or_lt_of_le hnk with rfl | hlt'
          · exact .inl rfl
          · refine .inr ⟨Nat.le_of_not_lt fun hkm => ?_, hk⟩
            exact ((h.allocated k).mp hk).2 (hgap k hlt' hkm)
    · refine ⟨[(b.head, e)], ⟨rfl, he, (h.at_head e he).1⟩, List.pairwise_singleton _ _, rfl, ?_⟩
      intro k
      rw [List.map_cons, List.map_nil, List.mem_singleton]
      constructor
      · rintro rfl
        exact ⟨Nat.le_refl _, hn⟩
      · rintro ⟨hk, hka⟩
        exact Nat.le_antisymm (h.le_head hka) hk

/-- The elements that are there and the ones that were freed are all that were enqueued. -/
theorem chain (h : Linked b) :
    ∃ l, Chain Element.next b.elements (some b.tail) l ∧ (l.map Prod.fst).Pairwise (· < ·) ∧
      (l.map Prod.fst).getLast? = some b.head ∧
      l.length = b.head - b.eliminati.length + 1 := by
  obtain ⟨l, hchain, hsorted, hlast, hmem⟩ := h.chain_from h.at_tail.1
  refine ⟨l, hchain, hsorted, hlast, ?_⟩
  have hmem' : ∀ k, k ∈ l.map Prod.fst ↔ k ≤ b.head ∧ k ∉ b.eliminati := by
    intro k
    rw [hmem, h.allocated]
    refine and_iff_right_of_imp fun hk => ?_
    exact Nat.le_of_not_lt fun hlt => hk.2 (h.at_tail.2 k hlt)
  have hnodup : (l.map Prod.fst).Nodup := hsorted.imp fun hlt => Nat.ne_of_lt hlt
  have hperm : (l.map Prod.fst ++ b.eliminati).Perm (List.range (b.head + 1)) := by
    refine (List.perm_ext_iff_of_nodup ?_ List.nodup_range).mpr ?_
    · refine hnodup.append h.once ?_
      intro k hk hk'
      exact ((hmem' k).mp hk).2 hk'
    · intro k
      have hle := h.pivot_le
      have hbehind := h.behind k
      rw [List.mem_append, hmem', List.mem_range]
      grind
  have hlen := hperm.length_eq
  rw [List.length_append, List.length_map, List.length_range] at hlen
  have := h.length_eliminati_le
  have := h.pivot_le
  omega

end Linked

/-! ## The counters of the references -/

section

variable {f : Nat → UInt32} {n k : Nat}

theorem bump_eq_ofNat (h : f n = UInt32.ofNat k) (m : Nat) :
    bump f m n = UInt32.ofNat (k + if n = m then 1 else 0) := by
  rw [bump_apply]
  split
  · rw [h, UInt32.ofNat_add]
    rfl
  · exact h

theorem drop_eq_ofNat {m : Nat} (h : f n = UInt32.ofNat (k + if n = m then 1 else 0)) :
    drop f m n = UInt32.ofNat k := by
  rw [drop_apply]
  split
  case isTrue heq =>
    rw [h, if_pos heq, UInt32.ofNat_add]
    exact UInt32.add_sub_cancel _ _
  case isFalse hne =>
    rw [h, if_neg hne, Nat.add_zero]

theorem foldl_bump_eq_ofNat (h : f n = UInt32.ofNat k) (l : List Nat) :
    l.foldl bump f n = UInt32.ofNat (k + l.count n) := by
  induction l generalizing f k with
  | nil => exact h
  | cons m l ih =>
    rw [List.foldl_cons, ih (bump_eq_ofNat h m), List.count_cons]
    congr 1
    grind

end

/-! ## The invariant -/

namespace System

/-- The smart pointers to an element: the ones of the clients and the ones of the readers. -/
def refs (w : System U) (n : Nat) : Nat :=
  w.pointers.count n + (w.readers.map fun r => r.stopAndResume).count (some n)

/-- Between two calls every reader stands at an element that its smart pointer holds. -/
structure Good (w : System U) : Prop where
  linked : Linked w.queue
  parked : ∀ r ∈ w.readers, r.stopAndResume = r.current
  current : ∀ r ∈ w.readers, ∀ n ∈ r.current, w.queue.Allocated n
  pointers : ∀ n ∈ w.pointers, w.queue.Allocated n
  counted : ∀ n, w.queue.referenceCount n = UInt32.ofNat (w.refs n)
  idle : w.garbage = none → w.queue.readerCount = fun _ => 0
  atPivot : ∀ g ∈ w.garbage, w.queue.AtPivot g

variable {w : System U}

theorem new_good (U : Type) (validity now : UInt64) : (new U validity now).Good := by
  have halloc : ∀ n, (CommonBuffer.new U validity).Allocated n ↔ n = 0 := by
    intro n
    unfold CommonBuffer.Allocated CommonBuffer.new
    simp only [lookup_insert_ite]
    split <;> simp_all
  have hlinked : Linked (CommonBuffer.new U validity) := {
    fresh := rfl
    allocated := by
      intro n
      rw [halloc]
      simp [CommonBuffer.new]
    once := .nil
    behind := nofun
    pivot_le := Nat.le_refl 0
    pivot_lt := fun hne => absurd rfl hne
    at_head := by
      intro e he
      simp only [CommonBuffer.new, lookup_insert_ite, if_true, Option.some.injEq] at he
      subst he
      exact ⟨rfl, rfl⟩
    linked := fun n e _ hlt => absurd hlt (Nat.not_lt_zero n)
    at_tail := ⟨(halloc 0).mpr rfl, fun k hk => absurd hk (Nat.not_lt_zero k)⟩
    at_last := rfl
    counter := rfl }
  exact {
    linked := hlinked
    parked := nofun
    current := nofun
    pointers := nofun
    counted := fun _ => rfl
    idle := fun _ => rfl
    atPivot := nofun }

/-- What is not there has no smart pointer. -/
theorem Good.refs_eq_zero (h : w.Good) {n : Nat} (hn : ¬ w.queue.Allocated n) : w.refs n = 0 := by
  have hpointers : w.pointers.count n = 0 :=
    List.count_eq_zero.mpr fun hmem => hn (h.pointers n hmem)
  have hreaders : (w.readers.map fun r => r.stopAndResume).count (some n) = 0 := by
    refine List.count_eq_zero.mpr fun hmem => ?_
    obtain ⟨r, hr, hstop⟩ := List.mem_map.mp hmem
    exact hn (h.current r hr n ((h.parked r hr).symm.trans hstop))
  rw [refs, hpointers, hreaders]

/-- At most the garbage iterator is counted as a reader. -/
theorem Good.readerCount_le (h : w.Good) (n : Nat) : (w.queue.readerCount n).toNat ≤ 1 := by
  cases hg : w.garbage with
  | none =>
    rw [h.idle hg]
    exact Nat.zero_le 1
  | some g =>
    rw [(h.atPivot g hg).reading, CommonBuffer.onlyAt]
    split <;> decide

/-! ## What a call does -/

/-- All that a call can do between two states that are good. -/
inductive Does (w : System U) : Op U → System U → Prop
  | enqueue (data : AbstractDataElement U) (smartPointer : Bool) :
      Does w (.enqueue data smartPointer) { w with
        queue := w.queue.enqueued data smartPointer
        pointers := w.pointers ++ (if smartPointer then some w.queue.head else none).toList
        timeouts := w.timeouts ++ [data.timestamp + w.queue.validita] }
  | setValidity (validity : UInt64) :
      Does w (.setValidity validity) { w with queue := w.queue.setValidity validity }
  | newReader : Does w .newReader { w with readers := w.readers ++ [{}] }
  | noReader {i : Nat} (limit : Int) (hr : w.readers[i]? = none) :
      Does w (.bufferedReader i limit) w
  | read {i c d : Nat} {limit : Int} {r : IteratorReader} {buffer : List Nat}
      (hr : w.readers[i]? = some r) (hchosen : w.queue.Chosen w.now r.current c)
      (hread : w.queue.ReadFrom (CommonBuffer.readLimit limit) c buffer d) :
      Does w (.bufferedReader i limit) { w with
        queue := { w.queue with
          referenceCount := bump (buffer.foldl bump
            (CommonBuffer.released w.queue.referenceCount r.toIteratorBase)) d }
        readers := w.readers.set i (r.note w.now w.queue.pivot buffer ⟨some d, some d⟩)
        pointers := w.pointers ++ buffer }
  | noPointer {i : Nat} (hp : w.pointers[i]? = none) : Does w (.release i) w
  | release {i m : Nat} (hp : w.pointers[i]? = some m) :
      Does w (.release i) { w with
        queue := w.queue.counted w.queue.readerCount (drop w.queue.referenceCount m)
        pointers := w.pointers.eraseIdx i }
  | garbageStays (hg : w.garbage.isSome) : Does w .getIteratorGarbage w
  | getIteratorGarbage (hg : w.garbage = none) :
      Does w .getIteratorGarbage { w with
        queue := w.queue.counted (bump w.queue.readerCount w.queue.pivot) w.queue.referenceCount
        garbage := some { current := w.queue.pivot } }
  | noGarbage (hg : w.garbage = none) : Does w .clearQueue w
  | clearQueue {c : CommonBuffer U} {q : Nat} {g g' : IteratorGarbage} (hg : w.garbage = some g)
      (hclear : Cleared w.queue c) (hle : w.queue.pivot ≤ q)
      (hq : q = w.queue.pivot ∨ q < w.queue.head)
      (hold : ∀ n, w.queue.pivot ≤ n → n < q → c.isValid w.now n = some false)
      (hat : (c.marked q).AtPivot g') :
      Does w .clearQueue { w with queue := c.marked q, garbage := some g' }
  | tick (time : UInt64) : Does w (.tick time) { w with now := max w.now time }

/-- No call uses an element that is freed or a null pointer, and no loop goes round. -/
theorem Good.step_does (h : w.Good) (op : Op U) : ∃ t, w.step op = some t ∧ w.Does op t := by
  cases op with
  | enqueue data smartPointer =>
    refine ⟨_, ?_, .enqueue data smartPointer⟩
    simp only [step, System.enqueue, CommonBuffer.enqueue_spec h.linked, Option.bind_eq_bind,
      Option.bind_some, Option.pure_def]
  | setValidity validity => exact ⟨_, rfl, .setValidity validity⟩
  | newReader => exact ⟨_, rfl, .newReader⟩
  | bufferedReader i limit =>
    simp only [step, System.bufferedReader]
    cases hr : w.readers[i]? with
    | none => exact ⟨w, rfl, .noReader limit hr⟩
    | some r =>
      have hmem := List.mem_of_getElem? hr
      obtain ⟨c, d, buffer, hchosen, hread, hrun⟩ := CommonBuffer.bufferedReader_spec w.now
        h.linked h.readerCount_le (h.parked r hmem) (h.current r hmem) limit
      refine ⟨_, ?_, .read hr hchosen hread⟩
      simp only [hrun, Option.bind_eq_bind, Option.bind_some, Option.pure_def]
  | release i =>
    simp only [step, System.release]
    cases hp : w.pointers[i]? with
    | none => exact ⟨w, rfl, .noPointer hp⟩
    | some m =>
      have hdel : w.queue.deleteSmartPointer m = some (w.queue.counted w.queue.readerCount
          (drop w.queue.referenceCount m)) :=
        CommonBuffer.deleteSmartPointer_counted (h.pointers m (List.mem_of_getElem? hp))
      refine ⟨_, ?_, .release hp⟩
      simp only [hdel, Option.bind_eq_bind, Option.bind_some, Option.pure_def]
  | getIteratorGarbage =>
    simp only [step, System.getIteratorGarbage]
    cases hg : w.garbage with
    | some g => exact ⟨w, rfl, .garbageStays (by rw [hg]; rfl)⟩
    | none =>
      have hinc : w.queue.increment w.queue.pivot = some (w.queue.counted
          (bump w.queue.readerCount w.queue.pivot) w.queue.referenceCount) :=
        CommonBuffer.increment_counted h.linked.allocated_pivot
      refine ⟨_, ?_, .getIteratorGarbage hg⟩
      simp only [CommonBuffer.getIteratorGarbage, hinc, Option.isSome_none, Bool.false_eq_true,
        if_false, Option.bind_eq_bind, Option.bind_some, Option.pure_def]
  | clearQueue =>
    simp only [step, System.clearQueue]
    cases hg : w.garbage with
    | none => exact ⟨w, rfl, .noGarbage hg⟩
    | some g =>
      obtain ⟨c, q, g', hclear, hle, hq, hold, hat, hrun⟩ :=
        CommonBuffer.clearQueue_spec w.now h.linked (h.atPivot g hg)
      refine ⟨_, ?_, .clearQueue hg hclear hle hq hold hat⟩
      simp only [hrun, Option.bind_eq_bind, Option.bind_some, Option.pure_def]
  | tick time => exact ⟨_, rfl, .tick time⟩

/-! ## One call after another -/

theorem Good.enqueue (h : w.Good) (data : AbstractDataElement U) (smartPointer : Bool) :
    Good { w with
      queue := w.queue.enqueued data smartPointer
      pointers := w.pointers ++ (if smartPointer then some w.queue.head else none).toList
      timeouts := w.timeouts ++ [data.timestamp + w.queue.validita] } := by
  have hfresh := h.linked.fresh
  have hpivot := h.linked.pivot_le
  have hstays : ∀ n, w.queue.Allocated n → (w.queue.enqueued data smartPointer).Allocated n := by
    intro n hn
    have hmem := (h.linked.allocated n).mp hn
    refine ((h.linked.enqueued data smartPointer).allocated n).mpr ⟨?_, hmem.2⟩
    show n ≤ w.queue.allocati
    omega
  have hcount : ∀ g ∈ w.garbage,
      (w.queue.enqueued data smartPointer).readerCount = CommonBuffer.onlyAt w.queue.pivot := by
    intro g hg
    show update w.queue.readerCount w.queue.allocati 0 = _
    rw [(h.atPivot g hg).reading]
    refine update_eq_self_iff.mpr ?_
    rw [CommonBuffer.onlyAt, if_neg (by omega)]
  have hzero : w.refs w.queue.allocati = 0 := by
    refine h.refs_eq_zero fun hn => ?_
    have := h.linked.le_head hn
    omega
  exact {
    linked := h.linked.enqueued data smartPointer
    parked := h.parked
    current := fun r hr n hn => hstays n (h.current r hr n hn)
    pointers := by
      intro n hn
      rcases List.mem_append.mp hn with hn | hn
      · exact hstays n (h.pointers n hn)
      · have : n = w.queue.head := by
          cases smartPointer <;> simp_all
        exact hstays n (this ▸ h.linked.allocated_head)
    counted := by
      intro n
      have hfresh' : update w.queue.referenceCount w.queue.allocati 0 = w.queue.referenceCount := by
        refine update_eq_self_iff.mpr ?_
        rw [h.counted, hzero]
        rfl
      cases smartPointer with
      | false =>
        show update w.queue.referenceCount w.queue.allocati 0 n = _
        rw [hfresh', h.counted]
        simp [refs]
      | true =>
        show bump (update w.queue.referenceCount w.queue.allocati 0) w.queue.head n = _
        rw [hfresh', bump_eq_ofNat (h.counted n)]
        congr 1
        simp only [refs, if_true, Option.toList_some, List.count_append, List.count_singleton]
        grind
    idle := by
      intro hg
      show update w.queue.readerCount w.queue.allocati 0 = _
      rw [h.idle hg]
      exact update_eq_self _ _
    atPivot := by
      intro g hg
      obtain ⟨hcur, hdiv, -⟩ := h.atPivot g hg
      exact ⟨hcur, hdiv, hcount g hg⟩ }

/-- The smart pointers of all but one reader, and then what a read gives to it. -/
theorem refs_set {t : System U} {i : Nat} {r s : IteratorReader} {buffer : List Nat}
    (hr : w.readers[i]? = some r) (hreaders : t.readers = w.readers.set i s)
    (hpointers : t.pointers = w.pointers ++ buffer) (n : Nat) :
    ∃ k, w.refs n = k + (if r.stopAndResume = some n then 1 else 0) ∧
      t.refs n = k + buffer.count n + if s.stopAndResume = some n then 1 else 0 := by
  obtain ⟨hi, hri⟩ := List.getElem?_eq_some_iff.mp hr
  let l := w.readers.map fun r => r.stopAndResume
  have hlen : i < l.length := by rwa [List.length_map]
  have hli : l[i] = r.stopAndResume := by rw [List.getElem_map, hri]
  have hpos : (if r.stopAndResume = some n then 1 else 0) ≤ l.count (some n) := by
    split
    case isTrue heq =>
      refine List.count_pos_iff.mpr ?_
      rw [← heq, ← hli]
      exact List.getElem_mem hlen
    case isFalse => exact Nat.zero_le _
  refine ⟨w.pointers.count n + (l.count (some n) - if r.stopAndResume = some n then 1 else 0),
    ?_, ?_⟩
  · show w.pointers.count n + l.count (some n) = _
    omega
  · simp only [refs, hreaders, hpointers, List.map_set, List.count_append]
    rw [List.count_set hlen, hli]
    simp only [beq_iff_eq]
    omega

theorem released_eq_ofNat {f : Nat → UInt32} {it : IteratorBase} {n k : Nat}
    (h : f n = UInt32.ofNat (k + if it.stopAndResume = some n then 1 else 0)) :
    CommonBuffer.released f it n = UInt32.ofNat k := by
  unfold CommonBuffer.released
  cases hstop : it.stopAndResume with
  | none =>
    rw [hstop] at h
    exact h
  | some m =>
    rw [hstop] at h
    refine drop_eq_ofNat (h.trans ?_)
    simp only [Option.some.injEq, eq_comm]

theorem Good.counted_read (h : w.Good) {t : System U} {i d : Nat} {r s : IteratorReader}
    {buffer : List Nat} (hr : w.readers[i]? = some r) (hstop : s.stopAndResume = some d)
    (hreaders : t.readers = w.readers.set i s) (hpointers : t.pointers = w.pointers ++ buffer)
    (n : Nat) :
    bump (buffer.foldl bump (CommonBuffer.released w.queue.referenceCount r.toIteratorBase)) d n =
      UInt32.ofNat (t.refs n) := by
  obtain ⟨k, hk, hk'⟩ := refs_set hr hreaders hpointers n
  have hrel := released_eq_ofNat ((h.counted n).trans (congrArg _ hk))
  rw [hk', hstop]
  refine (bump_eq_ofNat (foldl_bump_eq_ofNat hrel buffer) d).trans ?_
  simp only [Option.some.injEq, eq_comm]

theorem Good.read (h : w.Good) {i c d : Nat} {limit : Int} {r : IteratorReader}
    {buffer : List Nat} (hr : w.readers[i]? = some r)
    (hread : w.queue.ReadFrom (CommonBuffer.readLimit limit) c buffer d) :
    Good { w with
      queue := { w.queue with
        referenceCount := bump (buffer.foldl bump
          (CommonBuffer.released w.queue.referenceCount r.toIteratorBase)) d }
      readers := w.readers.set i (r.note w.now w.queue.pivot buffer ⟨some d, some d⟩)
      pointers := w.pointers ++ buffer } :=
  { linked := { h.linked with }
    parked := by
      intro s hs
      rcases List.mem_or_eq_of_mem_set hs with hs | rfl
      · exact h.parked s hs
      · rfl
    current := by
      intro s hs n hn
      rcases List.mem_or_eq_of_mem_set hs with hs | rfl
      · exact h.current s hs n hn
      · cases hn
        exact hread.allocated
    pointers := by
      intro n hn
      rcases List.mem_append.mp hn with hn | hn
      · exact h.pointers n hn
      · exact ((hread.members n).mp hn).2.2
    counted := by
      intro n
      exact h.counted_read hr rfl rfl rfl n
    idle := h.idle
    atPivot := fun g hg => { h.atPivot g hg with } }

theorem Good.release (h : w.Good) {i m : Nat} (hp : w.pointers[i]? = some m) :
    Good { w with
      queue := w.queue.counted w.queue.readerCount (drop w.queue.referenceCount m)
      pointers := w.pointers.eraseIdx i } :=
  { linked := { h.linked with }
    parked := h.parked
    current := h.current
    pointers := fun n hn => h.pointers n (List.mem_of_mem_eraseIdx hn)
    counted := by
      intro n
      obtain ⟨hi, hpi⟩ := List.getElem?_eq_some_iff.mp hp
      have hperm := (List.getElem_cons_eraseIdx_perm hi).count_eq n
      rw [hpi, List.count_cons] at hperm
      refine drop_eq_ofNat ((h.counted n).trans ?_)
      congr 1
      simp only [refs]
      grind
    idle := h.idle
    atPivot := fun g hg => { h.atPivot g hg with } }

theorem Good.getIteratorGarbage (h : w.Good) (hg : w.garbage = none) :
    Good { w with
      queue := w.queue.counted (bump w.queue.readerCount w.queue.pivot) w.queue.referenceCount
      garbage := some { current := w.queue.pivot } } :=
  { linked := { h.linked with }
    parked := h.parked
    current := h.current
    pointers := h.pointers
    counted := h.counted
    idle := nofun
    atPivot := by
      rintro g ⟨⟩
      refine ⟨rfl, nofun, ?_⟩
      show bump w.queue.readerCount w.queue.pivot = CommonBuffer.onlyAt w.queue.pivot
      funext n
      rw [h.idle hg, bump_apply, CommonBuffer.onlyAt]
      rfl }

/-- An element that has smart pointers shows it, when they are fewer than the counter can count. -/
theorem Good.clearQueue (h : w.Good) (hfit : ∀ n < w.queue.allocati, w.refs n < 2 ^ 32)
    {c : CommonBuffer U} {q : Nat} {g : IteratorGarbage} (hclear : Cleared w.queue c)
    (hle : w.queue.pivot ≤ q) (hq : q = w.queue.pivot ∨ q < w.queue.head)
    (hat : (c.marked q).AtPivot g) :
    Good { w with queue := c.marked q, garbage := some g } := by
  have hstays : ∀ n, w.queue.Allocated n → w.refs n ≠ 0 → c.Allocated n := by
    intro n hn href
    refine hclear.held n hn fun hzero => href ?_
    have hlt := hfit n (by have := h.linked.le_head hn; have := h.linked.fresh; omega)
    have := congrArg UInt32.toNat ((h.counted n).symm.trans hzero)
    rwa [UInt32.toNat_ofNat_of_lt' hlt] at this
  exact {
    linked := by
      refine CommonBuffer.linked_marked hclear.linked ?_ ?_
      · rw [hclear.pivot]
        exact hle
      · rw [hclear.pivot, hclear.head]
        exact hq
    parked := h.parked
    current := by
      intro r hr n hn
      refine hstays n (h.current r hr n hn) (Nat.ne_of_gt ?_)
      have hmem : some n ∈ w.readers.map fun r => r.stopAndResume :=
        List.mem_map.mpr ⟨r, hr, (h.parked r hr).trans hn⟩
      exact Nat.add_pos_right _ (List.count_pos_iff.mpr hmem)
    pointers := by
      intro n hn
      refine hstays n (h.pointers n hn) (Nat.ne_of_gt ?_)
      exact Nat.add_pos_left (List.count_pos_iff.mpr hn) _
    counted := by
      intro n
      show c.referenceCount n = _
      rw [hclear.referenceCount]
      exact h.counted n
    idle := nofun
    atPivot := by
      rintro g ⟨⟩
      exact hat }

theorem Good.newReader (h : w.Good) : Good { w with readers := w.readers ++ [{}] } :=
  { linked := h.linked
    parked := by
      intro r hr
      rcases List.mem_append.mp hr with hr | hr
      · exact h.parked r hr
      · cases List.mem_singleton.mp hr
        rfl
    current := by
      intro r hr n hn
      rcases List.mem_append.mp hr with hr | hr
      · exact h.current r hr n hn
      · cases List.mem_singleton.mp hr
        cases hn
    pointers := h.pointers
    counted := by
      intro n
      rw [h.counted]
      congr 1
      simp [refs, List.count_append]
    idle := h.idle
    atPivot := h.atPivot }

theorem Does.good {t : System U} {op : Op U} (hd : w.Does op t) (h : w.Good)
    (hfit : op = .clearQueue → ∀ n < w.queue.allocati, w.refs n < 2 ^ 32) : t.Good := by
  cases hd with
  | enqueue data smartPointer => exact h.enqueue data smartPointer
  | setValidity validity =>
    exact { h with linked := { h.linked with }, atPivot := fun g hg => { h.atPivot g hg with } }
  | newReader => exact h.newReader
  | noReader => exact h
  | read hr hchosen hread => exact h.read hr hread
  | noPointer => exact h
  | release hp => exact h.release hp
  | garbageStays => exact h
  | getIteratorGarbage hg => exact h.getIteratorGarbage hg
  | noGarbage => exact h
  | clearQueue hg hclear hle hq hold hat => exact h.clearQueue (hfit rfl) hclear hle hq hat
  | tick time => exact { h with }

/-- The counters do not run over: the element counter at an enqueue, and at a collection the
counter of each element that smart pointers hold. -/
def CountersFit (w : System U) : Op U → Prop
  | .enqueue _ _ => w.queue.elementiInCodaCorrenti.toNat + 1 < 2 ^ 32
  | .clearQueue => ∀ n < w.queue.allocati, w.refs n < 2 ^ 32
  | _ => True

instance (w : System U) : ∀ op, Decidable (w.CountersFit op)
  | .enqueue _ _ => inferInstanceAs (Decidable (_ < _))
  | .clearQueue => inferInstanceAs (Decidable (∀ n < w.queue.allocati, w.refs n < 2 ^ 32))
  | .setValidity _ | .newReader | .bufferedReader _ _ | .release _ | .getIteratorGarbage
  | .tick _ => inferInstanceAs (Decidable True)

/-! ## The law -/

/-- The elements of the queue that have data. -/
def length (w : System U) : Nat := w.queue.head - w.queue.eliminati.length

/-- Only an enqueue makes the queue longer. -/
theorem Does.length_le {t : System U} {op : Op U} (hd : w.Does op t) (h : w.Good)
    (hfit : w.CountersFit op) (hlen : w.length < 2 ^ 32) : t.length < 2 ^ 32 := by
  cases hd with
  | enqueue data smartPointer =>
    have hcount : w.queue.elementiInCodaCorrenti.toNat = w.length := by
      rw [h.linked.counter]
      exact UInt32.toNat_ofNat_of_lt' hlen
    have hfit' : w.queue.elementiInCodaCorrenti.toNat + 1 < 2 ^ 32 := hfit
    have hfresh := h.linked.fresh
    show w.queue.allocati - w.queue.eliminati.length < 2 ^ 32
    unfold length at hcount
    omega
  | clearQueue hg hclear hle hq hold hat =>
    have hfreed := hclear.freed
    have hhead := hclear.head
    show _ - _ < _
    simp only [CommonBuffer.marked, hhead]
    unfold length at hlen
    omega
  | _ => exact hlen

/-- What is in use is there: the head, the pivot, the last element with data, where the readers
stand and what the smart pointers point to. The elements from the tail to the head are one chain
in the order of the enqueues, and the counter is the number of those that have data. -/
structure Sound (w : System U) : Prop where
  head : w.queue.Allocated w.queue.head
  pivot : w.queue.Allocated w.queue.pivot
  last : ∀ n ∈ w.queue.last, w.queue.Allocated n
  current : ∀ r ∈ w.readers, ∀ n ∈ r.current, w.queue.Allocated n
  resume : ∀ r ∈ w.readers, ∀ n ∈ r.stopAndResume, w.queue.Allocated n
  pointers : ∀ n ∈ w.pointers, w.queue.Allocated n
  once : w.queue.eliminati.Nodup
  chain : ∃ l, Chain Element.next w.queue.elements (some w.queue.tail) l ∧
    (l.map Prod.fst).Pairwise (· < ·) ∧ (l.map Prod.fst).getLast? = some w.queue.head ∧
    l.length = w.queue.elementiInCodaCorrenti.toNat + 1

theorem Good.sound (h : w.Good) (hlen : w.length < 2 ^ 32) : w.Sound :=
  { head := h.linked.allocated_head
    pivot := h.linked.allocated_pivot
    last := by
      intro n hn
      rw [h.linked.at_last] at hn
      split at hn
      case isTrue => cases hn
      case isFalse hne =>
        cases hn
        have := h.linked.pivot_lt hne
        exact h.linked.allocated_from_pivot (by omega) (by omega)
    current := h.current
    resume := fun r hr n hn => h.current r hr n ((h.parked r hr).symm.trans hn)
    pointers := h.pointers
    once := h.linked.once
    chain := by
      obtain ⟨l, hchain, hsorted, hlast, hl⟩ := h.linked.chain
      refine ⟨l, hchain, hsorted, hlast, ?_⟩
      rw [hl, h.linked.counter]
      exact congrArg (· + 1) (UInt32.toNat_ofNat_of_lt' hlen).symm }

/-- As long as the counters do not run over, what is in use is never freed, whatever the calls
are and whatever their order is. -/
theorem nothing_in_use_is_freed (validity now : UInt64) (ops : List (Op U))
    (hfit : RunOk step CountersFit (new U validity now) ops) :
    ∃ t, run step (new U validity now) ops = some t ∧ t.Sound := by
  have hstep : ∀ (w : System U) op, w.Good ∧ w.length < 2 ^ 32 → w.CountersFit op →
      ∃ t, w.step op = some t ∧ t.Good ∧ t.length < 2 ^ 32 := by
    rintro w op ⟨h, hlen⟩ hfit
    obtain ⟨t, ht, hd⟩ := h.step_does op
    refine ⟨t, ht, hd.good h ?_, hd.length_le h hfit hlen⟩
    rintro rfl
    exact hfit
  have hstart : (new U validity now).Good ∧ (new U validity now).length < 2 ^ 32 :=
    ⟨new_good U validity now, Nat.two_pow_pos 32⟩
  obtain ⟨t, ht, h, hlen⟩ :=
    run_ends_of_ok (fun w : System U => w.Good ∧ w.length < 2 ^ 32) hstep hstart hfit
  exact ⟨t, ht, h.sound hlen⟩

/-- Two elements go out of date. A reader stands at the second one, and a client holds the
first. -/
def collection : List (Op Unit) :=
  [.enqueue ⟨(), 5⟩ true, .enqueue ⟨(), 6⟩ false, .enqueue ⟨(), 20⟩ false, .newReader,
    .bufferedReader 0 1, .getIteratorGarbage, .tick 17, .clearQueue, .release 1, .clearQueue,
    .release 0, .clearQueue]

theorem collection_frees_nothing_in_use :
    RunOk step CountersFit (new Unit 10 0) collection ∧
      ∃ t, run step (new Unit 10 0) collection = some t ∧ t.Sound := by
  have hfit : RunOk step CountersFit (new Unit 10 0) collection := by decide
  exact ⟨hfit, nothing_in_use_is_freed 10 0 collection hfit⟩

/-! ## The counters run over -/

theorem run_enqueues (data : AbstractDataElement U) (n : Nat) (h : w.Good) :
    ∃ t, run step w (List.replicate n (.enqueue data false)) = some t ∧ t.Good ∧
      t.queue.head = w.queue.head + n ∧ t.queue.eliminati = w.queue.eliminati := by
  induction n generalizing w with
  | zero => exact ⟨w, rfl, h, rfl, rfl⟩
  | succ n ih =>
    obtain ⟨u, hstep, hd⟩ := h.step_does (.enqueue data false)
    cases hd
    obtain ⟨t, ht, hgood, hhead, helim⟩ := ih (h.enqueue data false)
    refine ⟨t, run_cons_some.mpr ⟨_, hstep, ht⟩, hgood, ?_, helim⟩
    have hfresh := h.linked.fresh
    rw [hhead]
    show w.queue.allocati + n = _
    omega

/-- A reader that has read nothing yet, at the first element. -/
def parkedAtFirst : IteratorReader :=
  { current := some 0, stopAndResume := some 0, reads := [0], first := some 0 }

/-- `n` readers make a first read of no element. -/
def idleReads (n : Nat) : List (Op Unit) :=
  (List.range n).flatMap fun i => [.newReader, .bufferedReader i 0]

/-- The buffer with two elements that are out of date after the time 1. -/
def twoElements : System Unit :=
  { new Unit 1 0 with
    queue := ((CommonBuffer.new Unit 1).enqueued ⟨(), 0⟩ false).enqueued ⟨(), 0⟩ false
    timeouts := [1, 1] }

theorem twoElements_good : twoElements.Good :=
  ((new_good Unit 1 0).enqueue ⟨(), 0⟩ false).enqueue ⟨(), 0⟩ false

/-- The buffer with `n` readers at its first element. -/
def crowded (referenceCount : Nat → UInt32) (n : Nat) : System Unit :=
  { twoElements with
    queue := { twoElements.queue with referenceCount := referenceCount }
    readers := List.replicate n parkedAtFirst }

theorem run_idleReads (n : Nat) :
    ∃ f, run step twoElements (idleReads n) = some (crowded f n) ∧ (crowded f n).Good := by
  induction n with
  | zero => exact ⟨_, rfl, twoElements_good⟩
  | succ n ih =>
    obtain ⟨f, ht, h⟩ := ih
    obtain ⟨u, hu, hd⟩ := h.newReader.step_does (.bufferedReader n 0)
    have hlast : (List.replicate n parkedAtFirst ++ [({} : IteratorReader)])[n]? = some {} := by
      simp
    have hset : crowded (bump f 0) (n + 1) = { crowded (bump f 0) n with
        readers := (List.replicate n parkedAtFirst ++ [({} : IteratorReader)]).set n
          parkedAtFirst } := by
      simp [crowded, List.replicate_succ']
    cases hd with
    | noReader _ hr => exact absurd (hr.symm.trans hlast) (by simp)
    | @read _ c d _ r buffer hr hchosen hread =>
      obtain rfl : r = {} := Option.some.inj (hr.symm.trans hlast)
      cases hchosen
      -- a read of no element ends where it begins
      have hd : d = 0 := Nat.le_zero.mp (hread.short (Nat.le_refl _))
      have hbuffer : buffer = [] := by
        refine List.eq_nil_iff_forall_not_mem.mpr fun m hm => ?_
        have := ((hread.members m).mp hm).2.1
        omega
      subst hd hbuffer
      have hgood := h.newReader.read hr hread
      refine ⟨bump f 0, ?_, ?_⟩
      · rw [idleReads, List.range_succ, List.flatMap_append, run_append]
        show (run step twoElements (idleReads n)).bind _ = _
        rw [ht, Option.bind_some, hset]
        exact run_cons_some.mpr ⟨_, rfl, run_cons_some.mpr ⟨_, hu, rfl⟩⟩
      · rw [hset]
        exact hgood

theorem clear_twoElements (l : List IteratorReader) :
    ∃ t, run step { twoElements with readers := l }
      [.getIteratorGarbage, .tick 5, .clearQueue, .clearQueue] = some t ∧ t.readers = l ∧
        ¬ t.queue.Allocated 0 := by
  -- the readers have no part in it
  have hqueue : ((twoElements.queue.getIteratorGarbage.bind fun p => p.1.clearQueue 5 p.2).bind
      fun p => p.1.clearQueue 5 p.2).any fun p => (p.1.elements.lookup 0).isNone := by decide
  obtain ⟨⟨b, g⟩, hrun, hnone⟩ := (Option.any_eq_true _ _).mp hqueue
  obtain ⟨⟨b₂, g₂⟩, hrun, hclear₂⟩ := Option.bind_eq_some_iff.mp hrun
  obtain ⟨⟨b₁, g₁⟩, hget, hclear₁⟩ := Option.bind_eq_some_iff.mp hrun
  refine ⟨{ twoElements with readers := l, queue := b, garbage := some g, now := 5 }, ?_, rfl, ?_⟩
  · refine run_cons_some.mpr ⟨{ twoElements with readers := l, queue := b₁, garbage := some g₁ },
      ?_, ?_⟩
    · simp only [step, System.getIteratorGarbage, hget, Option.bind_eq_bind, Option.bind_some]
      rfl
    refine run_cons_some.mpr ⟨_, rfl, ?_⟩
    refine run_cons_some.mpr
      ⟨{ twoElements with readers := l, queue := b₂, garbage := some g₂, now := 5 }, ?_, ?_⟩
    · simp only [step, System.clearQueue]
      rw [show b₁.clearQueue (max twoElements.now 5) g₁ = _ from hclear₁]
      rfl
    refine run_cons_some.mpr ⟨_, ?_, rfl⟩
    simp only [step, System.clearQueue]
    rw [show b₂.clearQueue 5 g₂ = _ from hclear₂]
    rfl
  · unfold CommonBuffer.Allocated
    rw [Option.isNone_iff_eq_none.mp hnone]
    exact Bool.false_ne_true

/-- The counters of the elements and of the references have 32 bits. After 2 ^ 32 enqueues the
element counter is zero, and an element that 2 ^ 32 readers stand at is freed. -/
theorem counters_run_over :
    (∃ t, run step (new Unit 1 0) (List.replicate (2 ^ 32) (.enqueue ⟨(), 0⟩ false)) = some t ∧
      t.queue.elementiInCodaCorrenti = 0 ∧
      ∀ l, Chain Element.next t.queue.elements (some t.queue.tail) l → l.length = 2 ^ 32 + 1) ∧
    ∃ t, run step (new Unit 1 0) ([.enqueue ⟨(), 0⟩ false, .enqueue ⟨(), 0⟩ false] ++
        idleReads (2 ^ 32) ++ [.getIteratorGarbage, .tick 5, .clearQueue, .clearQueue]) = some t ∧
      ∃ r ∈ t.readers, r.current = some 0 ∧ ¬ t.queue.Allocated 0 := by
  constructor
  · obtain ⟨t, ht, h, hhead, helim⟩ := run_enqueues ⟨(), 0⟩ (2 ^ 32) (new_good Unit 1 0)
    have hlen : t.queue.head - t.queue.eliminati.length = 2 ^ 32 := by
      rw [hhead, helim]
      exact Nat.zero_add _
    refine ⟨t, ht, ?_, ?_⟩
    · rw [h.linked.counter, hlen]
      decide
    · intro l hl
      obtain ⟨l', hl', -, -, hlength⟩ := h.linked.chain
      rw [hl.unique hl', hlength, hlen]
  · obtain ⟨f, hrun, h⟩ := run_idleReads (2 ^ 32)
    have hzero : crowded f (2 ^ 32) =
        { twoElements with readers := List.replicate (2 ^ 32) parkedAtFirst } := by
      have hf : f = twoElements.queue.referenceCount := by
        funext k
        refine (h.counted k).trans (Eq.trans ?_ (twoElements_good.counted k).symm)
        show UInt32.ofNat (0 + ((List.replicate (2 ^ 32) parkedAtFirst).map _).count (some k)) = 0
        rw [List.map_replicate, List.count_replicate, Nat.zero_add]
        split <;> decide
      rw [hf]
      rfl
    obtain ⟨t, ht, hreaders, hfreed⟩ := clear_twoElements (List.replicate (2 ^ 32) parkedAtFirst)
    refine ⟨t, ?_, parkedAtFirst, ?_, rfl, hfreed⟩
    · have htwo : run step (new Unit 1 0) [.enqueue ⟨(), 0⟩ false, .enqueue ⟨(), 0⟩ false] =
          some twoElements := rfl
      rw [run_append, run_append, htwo, Option.bind_some, hrun, Option.bind_some, hzero]
      exact ht
    · rw [hreaders]
      exact List.mem_replicate.mpr ⟨by decide, rfl⟩

end System

end chaos.caching_system
