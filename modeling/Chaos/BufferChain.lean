-- The laws of the chain of a common buffer. What is in use is never freed: the pivot stays behind
-- the last element, the elements from the pivot on are all there, and an element before it goes
-- only when the counter of its smart pointers is zero.
import Chaos.CommonBuffer

open Function runs linked_heap

namespace chaos.caching_system

variable {U : Type}

/-! ## The counters -/

theorem bump_apply (f : Nat → UInt32) (n m : Nat) :
    bump f n m = if m = n then f m + 1 else f m := by
  unfold bump
  rw [update_apply]
  split
  case isTrue h => rw [h]
  case isFalse h => rfl

theorem drop_apply (f : Nat → UInt32) (n m : Nat) :
    drop f n m = if m = n then f m - 1 else f m := by
  unfold drop
  rw [update_apply]
  split
  case isTrue h => rw [h]
  case isFalse h => rfl

@[simp] theorem drop_bump (f : Nat → UInt32) (n : Nat) : drop (bump f n) n = f := by
  funext m
  rw [drop_apply, bump_apply]
  split <;> simp

/-- What was counted first goes, and what was counted after it stays. -/
@[simp] theorem drop_bump_bump (f : Nat → UInt32) (n m : Nat) :
    drop (bump (bump f n) m) n = bump f m := by
  funext k
  simp only [drop_apply, bump_apply]
  grind

theorem bump_pos {f : Nat → UInt32} {n : Nat} (h : ∀ n, (f n).toNat ≤ 2) : 0 < bump f n n := by
  have := h n
  rw [bump_apply, if_pos rfl, UInt32.lt_iff_toNat_lt, UInt32.toNat_add]
  simp
  omega

/-! ## The chain -/

/-- The element is allocated and not freed. -/
def CommonBuffer.Allocated (b : CommonBuffer U) (n : Nat) : Prop := (b.elements.lookup n).isSome

instance (b : CommonBuffer U) (n : Nat) : Decidable (b.Allocated n) :=
  inferInstanceAs (Decidable (_ = true))

/-- An element stays until it is freed, and only elements before the pivot are freed. The pointer
`next` goes to the next element that is there. -/
structure Linked (b : CommonBuffer U) : Prop where
  fresh : b.allocati = b.head + 1
  allocated : ∀ n, b.Allocated n ↔ n ≤ b.head ∧ n ∉ b.eliminati
  once : b.eliminati.Nodup
  behind : ∀ n ∈ b.eliminati, n < b.pivot
  pivot_le : b.pivot ≤ b.head
  pivot_lt : b.head ≠ 0 → b.pivot < b.head
  at_head : ∀ e, b.elements.lookup b.head = some e → e.next = none ∧ e.data = none
  linked : ∀ n e, b.elements.lookup n = some e → n < b.head → e.data.isSome ∧
    ∃ m, e.next = some m ∧ n < m ∧ b.Allocated m ∧ ∀ k, n < k → k < m → k ∈ b.eliminati
  at_tail : b.Allocated b.tail ∧ ∀ k, k < b.tail → k ∈ b.eliminati
  at_last : b.last = if b.head = 0 then none else some (b.head - 1)
  counter : b.elementiInCodaCorrenti = UInt32.ofNat (b.head - b.eliminati.length)

namespace Linked

variable {b : CommonBuffer U} {now : UInt64} {n c : Nat}

theorem le_head (h : Linked b) (hn : b.Allocated n) : n ≤ b.head := ((h.allocated n).mp hn).1

/-- The elements from the pivot on are all there. -/
theorem allocated_from_pivot (h : Linked b) (hp : b.pivot ≤ n) (hn : n ≤ b.head) :
    b.Allocated n := by
  refine (h.allocated n).mpr ⟨hn, fun hmem => ?_⟩
  have := h.behind n hmem
  omega

theorem allocated_pivot (h : Linked b) : b.Allocated b.pivot :=
  h.allocated_from_pivot (Nat.le_refl _) h.pivot_le

theorem allocated_head (h : Linked b) : b.Allocated b.head :=
  h.allocated_from_pivot h.pivot_le (Nat.le_refl _)

theorem isReady (h : Linked b) (hc : b.Allocated c) :
    b.isReady (some c) = some (decide (c < b.head)) := by
  obtain ⟨e, he⟩ := Option.isSome_iff_exists.mp hc
  have hle := h.le_head hc
  rcases Nat.lt_or_eq_of_le hle with hlt | heq
  · obtain ⟨hdata, m, hm, -⟩ := h.linked c e he hlt
    have hne : c ≠ b.head := by omega
    simp [CommonBuffer.isReady, he, hm, hne, hlt, hdata]
  · subst heq
    simp [CommonBuffer.isReady, he]

theorem isValid (now : UInt64) (hc : b.Allocated c) : ∃ v, b.isValid now c = some v := by
  obtain ⟨e, he⟩ := Option.isSome_iff_exists.mp hc
  simp [CommonBuffer.isValid, he]

/-- The head has no data, so that it is never out of date. -/
theorem lt_head_of_invalid (h : Linked b) (hc : b.isValid now c = some false) : c < b.head := by
  obtain ⟨e, he, hv⟩ := Option.map_eq_some_iff.mp hc
  have hle : c ≤ b.head := h.le_head (Option.isSome_iff_exists.mpr ⟨e, he⟩)
  refine Nat.lt_of_le_of_ne hle fun heq => ?_
  subst heq
  simp [(h.at_head e he).2] at hv

end Linked

namespace CommonBuffer

variable {b : CommonBuffer U} {now : UInt64} {rd rf : Nat → UInt32} {it : IteratorBase} {n c : Nat}

/-- The queue with other counters: all that a read changes in it. -/
def counted (b : CommonBuffer U) (rd rf : Nat → UInt32) : CommonBuffer U :=
  { b with readerCount := rd, referenceCount := rf }

theorem increment_counted (h : b.Allocated n) :
    (b.counted rd rf).increment n = some (b.counted (bump rd n) rf) := by
  obtain ⟨e, he⟩ := Option.isSome_iff_exists.mp h
  simp [increment, counted, he]

theorem decrementCounter_counted (h : b.Allocated n) :
    (b.counted rd rf).decrementCounter n = some (b.counted (drop rd n) rf) := by
  obtain ⟨e, he⟩ := Option.isSome_iff_exists.mp h
  simp [decrementCounter, counted, he]

theorem newSmartPointer_counted (h : b.Allocated n) :
    (b.counted rd rf).newSmartPointer n = some (b.counted rd (bump rf n)) := by
  obtain ⟨e, he⟩ := Option.isSome_iff_exists.mp h
  simp [newSmartPointer, incrementReferenceCount, counted, he]

theorem deleteSmartPointer_counted (h : b.Allocated n) :
    (b.counted rd rf).deleteSmartPointer n = some (b.counted rd (drop rf n)) := by
  obtain ⟨e, he⟩ := Option.isSome_iff_exists.mp h
  simp [deleteSmartPointer, decrementReferenceCount, counted, he]

@[simp] theorem lookup_counted : (b.counted rd rf).elements = b.elements := rfl

@[simp] theorem head_counted : (b.counted rd rf).head = b.head := rfl

@[simp] theorem pivot_counted : (b.counted rd rf).pivot = b.pivot := rfl

@[simp] theorem isValid_counted : (b.counted rd rf).isValid now n = b.isValid now n := rfl

@[simp] theorem isReady_counted {c : Option Nat} :
    (b.counted rd rf).isReady c = b.isReady c := rfl

/-! ## The steps of a reader -/

theorem updateIterator_counted (rf : Nat → UInt32) (h : Linked b) (hrd : ∀ n, (rd n).toNat ≤ 2)
    (hcur : it.current = some c) (hc : b.Allocated c) (hlt : c < b.head) :
    ∃ m, c < m ∧ b.Allocated m ∧ (∀ k, c < k → k < m → k ∈ b.eliminati) ∧
      (b.counted (bump rd c) rf).updateIterator it =
        some (b.counted (bump rd m) rf, { it with current := some m }) := by
  obtain ⟨e, he⟩ := Option.isSome_iff_exists.mp hc
  obtain ⟨-, m, hnext, hcm, hm, hgap⟩ := h.linked c e he hlt
  refine ⟨m, hcm, hm, hgap, ?_⟩
  -- the next element is another one, so that the counter of this one is not zero
  have hpos : 0 < (b.counted (bump (bump rd c) m) rf).readerCount c := by
    show 0 < bump (bump rd c) m c
    rw [bump_apply, if_neg (Nat.ne_of_lt hcm)]
    exact bump_pos hrd
  simp only [updateIterator, hcur, lookup_counted, he, hnext, increment_counted hm, if_pos hpos,
    decrementCounter_counted hc, drop_bump_bump, Option.bind_eq_bind, Option.bind_some,
    Option.pure_def]

theorem leaveStream_counted (hrd : ∀ n, (rd n).toNat ≤ 2) (hcur : it.current = some c)
    (hc : b.Allocated c) :
    (b.counted (bump rd c) rf).leaveStream it = some (b.counted rd rf) := by
  obtain ⟨e, he⟩ := Option.isSome_iff_exists.mp hc
  have hpos : 0 < (b.counted (bump rd c) rf).readerCount c := bump_pos hrd
  simp only [leaveStream, hcur, lookup_counted, he, Option.bind_eq_bind, Option.bind_some,
    if_pos hpos, decrementCounter_counted hc, drop_bump]

theorem attachStream_counted (h : Linked b) :
    (b.counted rd rf).attachStream it =
      some (b.counted (bump rd b.pivot) rf, { it with current := some b.pivot }) := by
  have hpivot : (b.counted rd rf).increment (b.counted rd rf).pivot =
      some (b.counted (bump rd b.pivot) rf) := increment_counted h.allocated_pivot
  simp only [attachStream, hpivot, Option.bind_eq_bind, Option.bind_some, Option.pure_def]
  rfl

/-- The counters of the references without the one of the iterator. -/
def released (rf : Nat → UInt32) (it : IteratorBase) : Nat → UInt32 :=
  it.stopAndResume.elim rf (drop rf)

theorem dropResume_counted (hstop : ∀ n ∈ it.stopAndResume, b.Allocated n) :
    (b.counted rd rf).dropResume it =
      some (b.counted rd (released rf it), { it with stopAndResume := none }) := by
  obtain ⟨current, stop⟩ := it
  cases stop with
  | none => rfl
  | some n =>
    have hn : b.Allocated n := hstop n rfl
    simp only [dropResume, deleteSmartPointer_counted hn, Option.bind_eq_bind, Option.bind_some,
      Option.pure_def, released, Option.elim_some]

theorem stopHere_counted (hcur : it.current = some c) (hc : b.Allocated c)
    (hstop : ∀ n ∈ it.stopAndResume, b.Allocated n) :
    (b.counted rd rf).stopHere it =
      some (b.counted rd (bump (released rf it) c), ⟨some c, some c⟩) := by
  simp only [stopHere, dropResume_counted hstop, hcur, newSmartPointer_counted hc,
    Option.bind_eq_bind, Option.bind_some, Option.pure_def]

/-- The first element from `p` on that is not out of date, or the head. -/
structure FirstValid (b : CommonBuffer U) (now : UInt64) (p c : Nat) : Prop where
  le : p ≤ c
  allocated : b.Allocated c
  valid : c = b.head ∨ b.isValid now c = some true
  before : ∀ n, p ≤ n → n < c → b.Allocated n → b.isValid now n = some false

theorem FirstValid.self (hc : b.Allocated c) (hv : b.isValid now c = some true) :
    b.FirstValid now c c :=
  { le := Nat.le_refl c
    allocated := hc
    valid := .inr hv
    before := fun n hle hlt => absurd hlt (by omega) }

/-- Behind an element that is out of date the search goes on at the next one. -/
theorem FirstValid.later (h : Linked b) {m d : Nat} (hinv : b.isValid now c = some false)
    (hcm : c < m) (hgap : ∀ k, c < k → k < m → k ∈ b.eliminati) (hf : b.FirstValid now m d) :
    b.FirstValid now c d := by
  refine ⟨by have := hf.le; omega, hf.allocated, hf.valid, ?_⟩
  intro n hcn hnd hn
  rcases Nat.lt_or_ge n m with hnm | hmn
  · rcases Nat.eq_or_lt_of_le hcn with rfl | hlt
    · exact hinv
    · exact absurd (hgap n hlt hnm) ((h.allocated n).mp hn).2
  · exact hf.before n hmn hnd hn

theorem jumpLoop_counted (h : Linked b) (hrd : ∀ n, (rd n).toNat ≤ 2) {fuel : Nat}
    (hcur : it.current = some c) (hc : b.Allocated c) (hinv : b.isValid now c = some false)
    (hfuel : b.head ≤ fuel + c) :
    ∃ d, b.FirstValid now c d ∧ jumpLoop now b.head fuel (b.counted (bump rd c) rf) it =
      some (true, b.counted (bump rd d) rf, { it with current := some d }) := by
  have hlt := h.lt_head_of_invalid hinv
  induction fuel generalizing c it with
  | zero => omega
  | succ fuel ih =>
    have hready := h.isReady hc
    rw [decide_eq_true hlt] at hready
    obtain ⟨m, hcm, hm, hgap, hupd⟩ := updateIterator_counted rf h hrd hcur hc hlt
    simp only [jumpLoop, hcur, isReady_counted, hready, hupd, isValid_counted,
      Option.bind_eq_bind, Option.bind_some, if_true]
    obtain ⟨v, hv⟩ := Linked.isValid now hm
    cases v with
    | true =>
      refine ⟨m, (FirstValid.self hm hv).later h hinv hcm hgap, ?_⟩
      simp [hv]
    | false =>
      have hmlt := h.lt_head_of_invalid hv
      obtain ⟨d, hd, hrun⟩ := @ih { it with current := some m } m rfl hm hv (by omega) hmlt
      refine ⟨d, hd.later h hinv hcm hgap, ?_⟩
      have hne : m ≠ b.head := by omega
      simp [hv, hne, hrun]

theorem jumpToNextValidElement_counted (now : UInt64) (rf : Nat → UInt32) (h : Linked b)
    (hrd : ∀ n, (rd n).toNat ≤ 2) (hcur : it.current = some c) (hc : b.Allocated c)
    (hlt : c < b.head) :
    ∃ d, b.FirstValid now c d ∧ jumpToNextValidElement now (b.counted (bump rd c) rf) it =
      some (true, b.counted (bump rd d) rf, { it with current := some d }) := by
  obtain ⟨e, he⟩ := Option.isSome_iff_exists.mp hc
  have hne : (b.counted (bump rd c) rf).readerCount c ≠ 0 := by
    have : 0 < (b.counted (bump rd c) rf).readerCount c := bump_pos hrd
    intro h0
    rw [h0] at this
    exact absurd this (by decide)
  have hready := h.isReady hc
  rw [decide_eq_true hlt] at hready
  obtain ⟨v, hv⟩ := Linked.isValid now hc
  simp only [jumpToNextValidElement, hcur, lookup_counted, he, if_neg hne, isReady_counted, hready,
    isValid_counted, hv, Option.bind_eq_bind, Option.bind_some, if_true]
  cases v with
  | true =>
    refine ⟨c, .self hc hv, ?_⟩
    simp [← hcur]
  | false =>
    obtain ⟨d, hd, hrun⟩ := jumpLoop_counted h hrd hcur hc hv
      (show b.head ≤ b.allocati + c by have := h.fresh; omega)
    exact ⟨d, hd, hrun⟩

/-- The element that a read begins with, from where the reader stands. -/
inductive Chosen (b : CommonBuffer U) (now : UInt64) : Option Nat → Nat → Prop
  | attach : Chosen b now none b.pivot
  | resume {c : Nat} (hv : b.isValid now c = some true) : Chosen b now (some c) c
  | forward {c d : Nat} {e p : Element U} (hinv : b.isValid now c = some false)
      (he : b.elements.lookup c = some e) (hp : b.elements.lookup b.pivot = some p)
      (hlt : p.timedOut < e.timedOut) (hfirst : b.FirstValid now c d) : Chosen b now (some c) d
  | restart {c d : Nat} {e p : Element U} (hinv : b.isValid now c = some false)
      (he : b.elements.lookup c = some e) (hp : b.elements.lookup b.pivot = some p)
      (hle : ¬ p.timedOut < e.timedOut) (hfirst : b.FirstValid now b.pivot d) :
      Chosen b now (some c) d

theorem restartAtPivot_counted (now : UInt64) (rf : Nat → UInt32) (h : Linked b)
    (hrd : ∀ n, (rd n).toNat ≤ 2) (hcur : it.current = some c) (hc : b.Allocated c)
    (hhead : b.head ≠ 0)
    (hstop : ∀ n ∈ it.stopAndResume, b.Allocated n) :
    ∃ d, b.FirstValid now b.pivot d ∧ restartAtPivot now (b.counted (bump rd c) rf) it =
      some (true, b.counted (bump rd d) (released rf it), ⟨some d, none⟩) := by
  have hcur' : IteratorBase.current ⟨some b.pivot, none⟩ = some b.pivot := rfl
  obtain ⟨d, hd, hjump⟩ := jumpToNextValidElement_counted now (released rf it) h hrd hcur'
    h.allocated_pivot (h.pivot_lt hhead)
  refine ⟨d, hd, ?_⟩
  simp only [restartAtPivot, leaveStream_counted hrd hcur hc, dropResume_counted hstop,
    attachStream_counted h, hjump, Option.bind_eq_bind, Option.bind_some]

theorem chooseCurrent_counted (now : UInt64) (rf : Nat → UInt32) (h : Linked b)
    (hrd : ∀ n, (rd n).toNat ≤ 2) (hpark : it.stopAndResume = it.current)
    (halloc : ∀ n ∈ it.current, b.Allocated n) :
    ∃ d, b.Chosen now it.current d ∧ b.Allocated d ∧ chooseCurrent now (b.counted rd rf) it =
      some (true, b.counted (bump rd d) (released rf it), ⟨some d, none⟩) := by
  obtain ⟨current, stop⟩ := it
  obtain rfl : stop = current := hpark
  cases stop with
  | none =>
    refine ⟨b.pivot, .attach, h.allocated_pivot, ?_⟩
    simp [chooseCurrent, attachStream_counted h, released]
  | some c =>
    have hcur : IteratorBase.current ⟨some c, some c⟩ = some c := rfl
    have hc : b.Allocated c := halloc c rfl
    obtain ⟨e, he⟩ := Option.isSome_iff_exists.mp hc
    obtain ⟨v, hv⟩ := Linked.isValid now hc
    have hinc : (b.counted rd rf).increment c = some (b.counted (bump rd c) rf) :=
      increment_counted hc
    simp only [chooseCurrent, Option.isSome_some, if_true, lookup_counted, he, isValid_counted, hv,
      hinc, Option.bind_eq_bind, Option.bind_some]
    cases v with
    | true =>
      refine ⟨c, .resume hv, hc, ?_⟩
      have hdrop : (b.counted (bump rd c) rf).dropResume ⟨some c, some c⟩ = _ :=
        dropResume_counted halloc
      simp only [if_true, hdrop, Option.bind_some, Option.pure_def]
    | false =>
      have hlt := h.lt_head_of_invalid hv
      have hhead : b.head ≠ 0 := by omega
      obtain ⟨-, m, hnext, -⟩ := h.linked c e he hlt
      obtain ⟨p, hp⟩ := Option.isSome_iff_exists.mp h.allocated_pivot
      have hgo : (e.next.isNone || c == b.head) = false := by
        have hne : c ≠ b.head := Nat.ne_of_lt hlt
        simp [hnext, hne]
      have hpivot : b.pivot ≠ b.head := Nat.ne_of_lt (h.pivot_lt hhead)
      simp only [head_counted, pivot_counted, hgo, hpivot, hp, Bool.false_eq_true, if_false,
        ne_eq, not_false_eq_true, if_true, Option.bind_some]
      split
      case isTrue hlate =>
        obtain ⟨d, hd, hjump⟩ := jumpToNextValidElement_counted now rf h hrd hcur hc hlt
        refine ⟨d, .forward hv he hp hlate hd, hd.allocated, ?_⟩
        have hdrop : (b.counted (bump rd d) rf).dropResume ⟨some d, some c⟩ = _ :=
          dropResume_counted halloc
        simp only [hjump, hdrop, Option.bind_some, if_true, Option.pure_def]
        rfl
      case isFalse hlate =>
        obtain ⟨d, hd, hrestart⟩ := restartAtPivot_counted now rf h hrd hcur hc hhead halloc
        refine ⟨d, .restart hv he hp hlate hd, hd.allocated, ?_⟩
        exact hrestart

/-- A read from `c` gives the elements that are there up to `d`. -/
structure ReadFrom (b : CommonBuffer U) (limit c : Nat) (buffer : List Nat) (d : Nat) : Prop where
  le : c ≤ d
  allocated : b.Allocated d
  members : ∀ n, n ∈ buffer ↔ c ≤ n ∧ n < d ∧ b.Allocated n
  ascending : buffer.Pairwise (· < ·)
  short : b.pivot ≤ c → d ≤ c + limit

theorem ReadFrom.nothing (hc : b.Allocated c) (limit : Nat) : b.ReadFrom limit c [] c :=
  { le := Nat.le_refl c
    allocated := hc
    members := by
      intro n
      simp only [List.not_mem_nil, false_iff]
      omega
    ascending := .nil
    short := fun _ => Nat.le_add_right c limit }

theorem ReadFrom.cons (h : Linked b) {limit m d : Nat} {buffer : List Nat} (hc : b.Allocated c)
    (hcm : c < m) (hgap : ∀ k, c < k → k < m → k ∈ b.eliminati)
    (hread : b.ReadFrom limit m buffer d) : b.ReadFrom (limit + 1) c (c :: buffer) d := by
  have hle := hread.le
  refine ⟨by omega, hread.allocated, fun n => ?_, ?_, fun hp => ?_⟩
  · rw [List.mem_cons, hread.members]
    constructor
    · rintro (rfl | ⟨hn, hnd, hna⟩)
      · exact ⟨Nat.le_refl n, by omega, hc⟩
      · exact ⟨by omega, hnd, hna⟩
    · rintro ⟨hcn, hnd, hna⟩
      rcases Nat.eq_or_lt_of_le hcn with rfl | hlt
      · exact .inl rfl
      · refine .inr ⟨Nat.le_of_not_lt fun hnm => ?_, hnd, hna⟩
        exact ((h.allocated n).mp hna).2 (hgap n hlt hnm)
  · refine List.pairwise_cons.mpr ⟨fun n hn => ?_, hread.ascending⟩
    have := ((hread.members n).mp hn).1
    omega
  · -- from the pivot on no element is missing, so that the next one is `c + 1`
    have hnext : ¬ c + 1 < m := fun hlt => by
      have := h.behind _ (hgap (c + 1) (by omega) hlt)
      omega
    have := hread.short (by omega)
    omega

theorem readLoop_counted (rf : Nat → UInt32) (limit : Nat) (h : Linked b)
    (hrd : ∀ n, (rd n).toNat ≤ 2) (hcur : it.current = some c) (hc : b.Allocated c) :
    ∃ buffer d, b.ReadFrom limit c buffer d ∧
      readLoop b.head limit (b.counted (bump rd c) rf) it =
        some (buffer, b.counted (bump rd d) (buffer.foldl bump rf),
          { it with current := some d }) := by
  induction limit generalizing c it rf with
  | zero =>
    refine ⟨[], c, .nothing hc 0, ?_⟩
    simp only [readLoop, List.foldl_nil, ← hcur]
  | succ limit ih =>
    have hready := h.isReady hc
    by_cases hlt : c < b.head
    · obtain ⟨m, hcm, hm, hgap, hupd⟩ := updateIterator_counted (bump rf c) h hrd hcur hc hlt
      have hcur' : IteratorBase.current { it with current := some m } = some m := rfl
      obtain ⟨buffer, d, hread, hrun⟩ := ih (bump rf c) hcur' hm
      refine ⟨c :: buffer, d, hread.cons h hc hcm hgap, ?_⟩
      have hne : c ≠ b.head := Nat.ne_of_lt hlt
      simp [readLoop, hcur, hready, hlt, hne, newSmartPointer_counted hc, hupd, hrun]
    · refine ⟨[], c, .nothing hc _, ?_⟩
      simp [readLoop, hcur, hready, hlt]
      rw [← hcur]

/-- What a read does to the queue: it begins at `c` and stops at `d`, and only counters of
references change. -/
theorem bufferedReader_spec (now : UInt64) (h : Linked b)
    (hcount : ∀ n, (b.readerCount n).toNat ≤ 1) (hpark : it.stopAndResume = it.current)
    (halloc : ∀ n ∈ it.current, b.Allocated n) (limit : Int) :
    ∃ c d buffer, b.Chosen now it.current c ∧ b.ReadFrom (readLimit limit) c buffer d ∧
      b.bufferedReader now limit it = some (buffer,
        { b with referenceCount := bump (buffer.foldl bump (released b.referenceCount it)) d },
        ⟨some d, some d⟩) := by
  have hpivot := h.allocated_pivot
  have hrd : ∀ n, (b.readerCount n).toNat ≤ 2 := fun n => Nat.le_succ_of_le (hcount n)
  have hrd' : ∀ n, (bump b.readerCount b.pivot n).toNat ≤ 2 := by
    intro n
    have := hcount n
    rw [bump_apply]
    split
    · rw [UInt32.toNat_add, UInt32.toNat_one]
      omega
    · omega
  obtain ⟨c, hchosen, hc, hchoose⟩ :=
    chooseCurrent_counted now b.referenceCount h hrd' hpark halloc
  have hcur : IteratorBase.current ⟨some c, none⟩ = some c := rfl
  obtain ⟨buffer, d, hread, hloop⟩ :=
    readLoop_counted (released b.referenceCount it) (readLimit limit) h hrd hcur hc
  refine ⟨c, d, buffer, hchosen, hread, ?_⟩
  have hlock : b.lockPivot =
      some (b.counted (bump b.readerCount b.pivot) b.referenceCount, b.pivot) := by
    have hinc : b.increment b.pivot =
      some (b.counted (bump b.readerCount b.pivot) b.referenceCount) := increment_counted hpivot
    simp only [lockPivot, hinc, Option.bind_eq_bind, Option.bind_some, pivot_counted,
      Option.pure_def]
  have hstop : (b.counted (bump b.readerCount d)
      (buffer.foldl bump (released b.referenceCount it))).stopHere ⟨some d, none⟩ = _ :=
    stopHere_counted rfl hread.allocated nofun
  have hleave : (b.counted (bump b.readerCount d) (bump (released
      (buffer.foldl bump (released b.referenceCount it)) ⟨some d, none⟩) d)).leaveStream
      ⟨some d, some d⟩ = _ := leaveStream_counted hrd rfl hread.allocated
  simp only [bufferedReader, hlock, hchoose, unlockPivot, decrementCounter_counted hpivot,
    drop_bump_bump, head_counted, hloop, hstop, hleave, Option.bind_eq_bind, Option.bind_some,
    if_true, Option.pure_def]
  rfl

end CommonBuffer

end chaos.caching_system
