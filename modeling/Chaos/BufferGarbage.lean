-- The writer and the garbage iterator of a common buffer keep the chain. The garbage iterator
-- goes over the chain from the tail with the element before it in hand, and takes out the ones
-- that no smart pointer holds.
import Chaos.BufferChain

open Function runs linked_heap

namespace chaos.caching_system

variable {U : Type}

/-! ## The writer -/

namespace CommonBuffer

variable {b : CommonBuffer U} {now : UInt64} {n c : Nat}

/-- The queue after an element was enqueued. -/
def enqueued (b : CommonBuffer U) (data : AbstractDataElement U) (smartPointer : Bool) :
    CommonBuffer U :=
  let fresh := update b.referenceCount b.allocati 0
  { b with
    elements := (b.elements.insert b.allocati {}).insert b.head
      ⟨some b.allocati, some data, data.timestamp + b.validita⟩
    readerCount := update b.readerCount b.allocati 0
    referenceCount := if smartPointer then bump fresh b.head else fresh
    allocati := b.allocati + 1
    head := b.allocati
    last := some b.head
    elementiInCodaCorrenti := b.elementiInCodaCorrenti + 1 }

theorem enqueue_spec (h : Linked b) (data : AbstractDataElement U) (smartPointer : Bool) :
    b.enqueue data smartPointer =
      some (b.enqueued data smartPointer, if smartPointer then some b.head else none) := by
  obtain ⟨e, he⟩ := Option.isSome_iff_exists.mp h.allocated_head
  have hne : b.head ≠ b.allocati := by have := h.fresh; omega
  cases smartPointer <;>
    simp [enqueue, allocNode, newSmartPointer, incrementReferenceCount, AList.lookup_insert_ne hne,
      he, AList.insert_insert, enqueued]

theorem lookup_enqueued (data : AbstractDataElement U) (smartPointer : Bool) (n : Nat) :
    (b.enqueued data smartPointer).elements.lookup n =
      if n = b.head then some ⟨some b.allocati, some data, data.timestamp + b.validita⟩
      else if n = b.allocati then some {} else b.elements.lookup n := by
  unfold enqueued
  simp only [lookup_insert_ite]

end CommonBuffer

namespace Linked

variable {b : CommonBuffer U} {now : UInt64} {n c : Nat}

/-- Only elements before the pivot are freed, and each one once. -/
theorem length_eliminati_le (h : Linked b) : b.eliminati.length ≤ b.pivot := by
  have hsub : b.eliminati ⊆ List.range b.pivot :=
    fun n hn => List.mem_range.mpr (h.behind n hn)
  have := (List.subperm_of_subset h.once hsub).length_le
  rwa [List.length_range] at this

theorem enqueued (h : Linked b) (data : AbstractDataElement U) (smartPointer : Bool) :
    Linked (b.enqueued data smartPointer) := by
  have hfresh := h.fresh
  have hpivot := h.pivot_le
  have hnew : b.head ∉ b.eliminati ∧ b.head + 1 ∉ b.eliminati :=
    ⟨fun hm => by have := h.behind _ hm; omega, fun hm => by have := h.behind _ hm; omega⟩
  have halloc : ∀ n, (b.enqueued data smartPointer).Allocated n ↔
      b.Allocated n ∨ n = b.head + 1 := by
    intro n
    unfold CommonBuffer.Allocated
    rw [CommonBuffer.lookup_enqueued]
    have := h.allocated_head
    unfold CommonBuffer.Allocated at this
    grind
  exact {
    fresh := rfl
    allocated := by
      intro n
      rw [halloc, h.allocated]
      show _ ↔ n ≤ b.allocati ∧ n ∉ b.eliminati
      grind
    once := h.once
    behind := h.behind
    pivot_le := by show b.pivot ≤ b.allocati; omega
    pivot_lt := by intro _; show b.pivot < b.allocati; omega
    at_head := by
      intro e he
      have hne : b.allocati ≠ b.head := by omega
      rw [CommonBuffer.lookup_enqueued] at he
      simp [CommonBuffer.enqueued, hne] at he
      subst he
      exact ⟨rfl, rfl⟩
    linked := by
      intro n e he hlt
      replace hlt : n < b.allocati := hlt
      rw [CommonBuffer.lookup_enqueued] at he
      split at he
      case isTrue heq =>
        cases he
        refine ⟨rfl, b.allocati, rfl, hlt, (halloc _).mpr (.inr hfresh), ?_⟩
        intro k hk hk'
        omega
      case isFalse hne =>
        rw [if_neg (by omega)] at he
        obtain ⟨hdata, m, hm, hnm, hma, hgap⟩ := h.linked n e he (by omega)
        exact ⟨hdata, m, hm, hnm, (halloc m).mpr (.inl hma), hgap⟩
    at_tail := ⟨(halloc _).mpr (.inl h.at_tail.1), h.at_tail.2⟩
    at_last := by simp [CommonBuffer.enqueued, hfresh]
    counter := by
      have hle := h.length_eliminati_le
      show b.elementiInCodaCorrenti + 1 = UInt32.ofNat (b.allocati - b.eliminati.length)
      rw [h.counter, hfresh, show b.head + 1 - b.eliminati.length =
        b.head - b.eliminati.length + 1 by omega, UInt32.ofNat_add]
      rfl }

end Linked

/-! ## The garbage -/

/-- `n` is freed and the elements that pointed to it point to `m`. -/
structure Unlinked (b c : CommonBuffer U) (n m : Nat) : Prop where
  elements : ∀ k, c.elements.lookup k = if k = n then none else
    (b.elements.lookup k).map fun e => if e.next = some n then { e with next := some m } else e
  tail : c.tail = if b.tail = n then m else b.tail
  rest : c = { b with
    elements := c.elements
    tail := c.tail
    eliminati := b.eliminati ++ [n]
    elementiInCodaCorrenti := b.elementiInCodaCorrenti - 1 }

namespace Unlinked

variable {b c : CommonBuffer U} {n m p : Nat} {e : Element U}

/-- The element after the one that goes is still there. -/
theorem next_allocated (hu : Unlinked b c n m) (hm : b.Allocated m) (hnm : n < m) :
    c.Allocated m := by
  rw [CommonBuffer.Allocated, hu.elements, if_neg (Nat.ne_of_gt hnm), Option.isSome_map]
  exact hm

/-- The element before the one that goes points to the one after it. -/
theorem before (hu : Unlinked b c n m) (hpn : p ≠ n) (hp : b.elements.lookup p = some e)
    (hnext : e.next = some n) : c.elements.lookup p = some { e with next := some m } := by
  rw [hu.elements, if_neg hpn, hp, Option.map_some, if_pos hnext]

end Unlinked

namespace Linked

variable {b c : CommonBuffer U} {n m : Nat} {e : Element U}

theorem unlinked (h : Linked b) (he : b.elements.lookup n = some e) (hnext : e.next = some m)
    (hlt : n < b.pivot) (hu : Unlinked b c n m) : Linked c := by
  have hpivot := h.pivot_le
  obtain ⟨-, m', hm', hnm, hma, hgap⟩ := h.linked n e he (by omega)
  obtain rfl : m = m' := Option.some.inj (hnext.symm.trans hm')
  have hn := (h.allocated n).mp (Option.isSome_iff_exists.mpr ⟨e, he⟩)
  have halloc : ∀ k, c.Allocated k ↔ b.Allocated k ∧ k ≠ n := by
    intro k
    unfold CommonBuffer.Allocated
    rw [hu.elements]
    split <;> simp_all
  have hhead : c.head = b.head := by rw [hu.rest]
  have hpiv : c.pivot = b.pivot := by rw [hu.rest]
  have helim : c.eliminati = b.eliminati ++ [n] := by rw [hu.rest]
  have hmem : ∀ k, k ∈ c.eliminati ↔ k ∈ b.eliminati ∨ k = n := by
    intro k
    rw [helim, List.mem_append, List.mem_singleton]
  have hbehind : ∀ k ∈ c.eliminati, k < b.pivot := by
    intro k hk
    rcases (hmem k).mp hk with hk | rfl
    · exact h.behind k hk
    · exact hlt
  have honce : c.eliminati.Nodup := by
    rw [helim, ← List.concat_eq_append]
    exact h.once.concat hn.2
  exact {
    fresh := by rw [hhead, ← h.fresh, hu.rest]
    allocated := by
      intro k
      rw [halloc, h.allocated, hhead, hmem]
      grind
    once := honce
    behind := by rw [hpiv]; exact hbehind
    pivot_le := by rw [hpiv, hhead]; exact hpivot
    pivot_lt := by rw [hpiv, hhead]; exact h.pivot_lt
    at_head := by
      intro e' he'
      rw [hhead, hu.elements, if_neg (by omega)] at he'
      obtain ⟨e, he, rfl⟩ := Option.map_eq_some_iff.mp he'
      obtain ⟨hnext, hdata⟩ := h.at_head e he
      simp [hnext, hdata]
    linked := by
      intro k e' he' hk
      rw [hhead] at hk
      rw [hu.elements] at he'
      split at he'
      case isTrue => cases he'
      case isFalse hkn =>
        obtain ⟨e, hek, rfl⟩ := Option.map_eq_some_iff.mp he'
        obtain ⟨hdata, j, hj, hkj, hja, hgap'⟩ := h.linked k e hek hk
        by_cases hjn : j = n
        · subst hjn
          rw [if_pos hj]
          refine ⟨hdata, m, rfl, by omega, (halloc m).mpr ⟨hma, by omega⟩, ?_⟩
          intro i hi him
          rw [hmem]
          grind
        · rw [if_neg (by rw [hj]; simpa using hjn)]
          refine ⟨hdata, j, hj, hkj, (halloc j).mpr ⟨hja, hjn⟩, ?_⟩
          intro i hi hij
          exact (hmem i).mpr (.inl (hgap' i hi hij))
    at_tail := by
      rw [hu.tail]
      split
      case isTrue heq =>
        refine ⟨(halloc m).mpr ⟨hma, by omega⟩, ?_⟩
        intro k hk
        have := h.at_tail.2 k
        rw [hmem]
        grind
      case isFalse hne =>
        refine ⟨(halloc _).mpr ⟨h.at_tail.1, hne⟩, ?_⟩
        intro k hk
        exact (hmem k).mpr (.inl (h.at_tail.2 k hk))
    at_last := by
      rw [hhead, ← h.at_last, hu.rest]
    counter := by
      have hsub : c.eliminati ⊆ List.range b.pivot := fun k hk => List.mem_range.mpr (hbehind k hk)
      have hlen := (List.subperm_of_subset honce hsub).length_le
      rw [List.length_range, helim, List.length_append, List.length_singleton] at hlen
      have hcount : c.elementiInCodaCorrenti = b.elementiInCodaCorrenti - 1 := by rw [hu.rest]
      rw [hcount, h.counter, hhead, helim, List.length_append,
        List.length_singleton, show b.head - b.eliminati.length =
        b.head - (b.eliminati.length + 1) + 1 by omega, UInt32.ofNat_add]
      exact UInt32.add_sub_cancel _ _ }

/-- No element points back to the tail. -/
theorem next_ne_tail (h : Linked b) {k : Nat} (hk : b.elements.lookup k = some e) :
    e.next ≠ some b.tail := by
  intro hnext
  have hka : b.Allocated k := Option.isSome_iff_exists.mpr ⟨e, hk⟩
  have hle : b.tail ≤ k := by
    refine Nat.le_of_not_lt fun hlt => ?_
    exact ((h.allocated k).mp hka).2 (h.at_tail.2 k hlt)
  rcases Nat.lt_or_eq_of_le (h.le_head hka) with hlt | rfl
  · obtain ⟨-, m, hm, hkm, -⟩ := h.linked k e hk hlt
    rw [hnext] at hm
    cases hm
    omega
  · rw [(h.at_head e hk).1] at hnext
    cases hnext

/-- Only one element points to an element. -/
theorem next_inj (h : Linked b) {k p : Nat} {f : Element U} (hk : b.elements.lookup k = some e)
    (hp : b.elements.lookup p = some f) (hkn : e.next = some n) (hpn : f.next = some n) :
    k = p := by
  have hgap : ∀ {k e}, b.elements.lookup k = some e → e.next = some n →
      k < n ∧ ∀ j, k < j → j < n → j ∈ b.eliminati := by
    intro k e hk hkn
    rcases Nat.lt_or_eq_of_le (h.le_head (Option.isSome_iff_exists.mpr ⟨e, hk⟩)) with hlt | rfl
    · obtain ⟨-, m, hm, hkm, -, hgap⟩ := h.linked k e hk hlt
      rw [hkn] at hm
      cases hm
      exact ⟨hkm, hgap⟩
    · rw [(h.at_head e hk).1] at hkn
      cases hkn
  have hka := ((h.allocated k).mp (Option.isSome_iff_exists.mpr ⟨e, hk⟩)).2
  have hpa := ((h.allocated p).mp (Option.isSome_iff_exists.mpr ⟨f, hp⟩)).2
  obtain ⟨hkn', hkgap⟩ := hgap hk hkn
  obtain ⟨hpn', hpgap⟩ := hgap hp hpn
  rcases Nat.lt_trichotomy k p with hlt | heq | hlt
  · exact absurd (hkgap p hlt hpn') hpa
  · exact heq
  · exact absurd (hpgap k hlt hkn') hka

end Linked

/-- What the garbage iterator may do to the elements: the ones that a smart pointer holds stay,
and so do their data. -/
structure Cleared (b c : CommonBuffer U) : Prop where
  linked : Linked c
  rest : c = { b with
    elements := c.elements
    tail := c.tail
    eliminati := c.eliminati
    elementiInCodaCorrenti := c.elementiInCodaCorrenti }
  held : ∀ n, b.Allocated n → b.referenceCount n ≠ 0 → c.Allocated n
  same : ∀ n f, c.elements.lookup n = some f →
    ∃ e, b.elements.lookup n = some e ∧ f.data = e.data ∧ f.timedOut = e.timedOut
  freed : b.eliminati.length ≤ c.eliminati.length

namespace Cleared

variable {b c d : CommonBuffer U}

theorem refl (h : Linked b) : Cleared b b :=
  { linked := h
    rest := rfl
    held := fun _ hn _ => hn
    same := fun _ f hf => ⟨f, hf, rfl, rfl⟩
    freed := Nat.le_refl _ }

theorem head (h : Cleared b c) : c.head = b.head := by rw [h.rest]

theorem pivot (h : Cleared b c) : c.pivot = b.pivot := by rw [h.rest]

theorem referenceCount (h : Cleared b c) : c.referenceCount = b.referenceCount := by rw [h.rest]

theorem readerCount (h : Cleared b c) : c.readerCount = b.readerCount := by rw [h.rest]

theorem trans (h : Cleared b c) (h' : Cleared c d) : Cleared b d :=
  { linked := h'.linked
    rest := by
      have h₁ := h'.rest
      rw [h.rest] at h₁
      exact h₁
    held := fun n hn hr => h'.held n (h.held n hn hr) (by rw [h.referenceCount]; exact hr)
    same := by
      intro n g hg
      obtain ⟨f, hf, hdata, htime⟩ := h'.same n g hg
      obtain ⟨e, he, hdata', htime'⟩ := h.same n f hf
      exact ⟨e, he, hdata.trans hdata', htime.trans htime'⟩
    freed := Nat.le_trans h.freed h'.freed }

theorem of_unlinked {n m : Nat} {e : Element U} (h : Linked b)
    (he : b.elements.lookup n = some e) (hnext : e.next = some m) (hlt : n < b.pivot)
    (hzero : b.referenceCount n = 0) (hu : Unlinked b c n m) : Cleared b c :=
  { linked := h.unlinked he hnext hlt hu
    rest := by
      have helim : c.eliminati = b.eliminati ++ [n] := by rw [hu.rest]
      have hcount : c.elementiInCodaCorrenti = b.elementiInCodaCorrenti - 1 := by rw [hu.rest]
      rw [helim, hcount]
      exact hu.rest
    held := by
      intro k hk hr
      have hne : k ≠ n := fun heq => hr (heq ▸ hzero)
      obtain ⟨f, hf⟩ := Option.isSome_iff_exists.mp hk
      unfold CommonBuffer.Allocated
      simp [hu.elements, hne, hf]
    same := by
      intro k f hf
      rw [hu.elements] at hf
      split at hf
      case isTrue => cases hf
      case isFalse =>
        obtain ⟨g, hg, rfl⟩ := Option.map_eq_some_iff.mp hf
        refine ⟨g, hg, ?_⟩
        split <;> exact ⟨rfl, rfl⟩
    freed := by
      have helim : c.eliminati = b.eliminati ++ [n] := by rw [hu.rest]
      rw [helim, List.length_append]
      exact Nat.le_add_right _ _ }

end Cleared

namespace CommonBuffer

variable {b : CommonBuffer U} {n m p : Nat} {e before : Element U}

/-- The tail goes, and the next element is the tail. -/
theorem dequeue_spec (h : Linked b) (he : b.elements.lookup b.tail = some e)
    (hnext : e.next = some m) (hpivot : b.tail ≠ b.pivot) (hhead : b.tail ≠ b.head) :
    ∃ c, b.dequeue = some c ∧ Unlinked b c b.tail m ∧ c.tail = m := by
  have hstop : ¬ (b.tail = b.pivot ∨ b.tail = b.head) := by
    rintro (heq | heq)
    · exact hpivot heq
    · exact hhead heq
  simp only [dequeue, if_neg hstop, he, hnext, deAllocNode, Option.bind_eq_bind, Option.bind_some,
    Option.map_some]
  refine ⟨_, rfl, ⟨fun k => ?_, by simp, rfl⟩, rfl⟩
  rw [lookup_erase_ite]
  split
  · rfl
  · cases hk : b.elements.lookup k with
    | none => rfl
    | some f => simp [h.next_ne_tail hk]

/-- An element behind the tail goes, and the one before it points to the next one. -/
theorem unlink_spec (h : Linked b) (he : b.elements.lookup n = some e) (hnext : e.next = some m)
    (hp : b.elements.lookup p = some before) (hpn : before.next = some n) (hne : n ≠ b.tail) :
    ∃ c, CommonBuffer.deAllocNode
        { b with elements := b.elements.insert p { before with next := e.next } } n = some c ∧
      Unlinked b c n m := by
  have hnp : n ≠ p := by
    rintro rfl
    rcases Nat.lt_or_eq_of_le (h.le_head (Option.isSome_iff_exists.mpr ⟨e, he⟩)) with hlt | rfl
    · obtain ⟨-, k, hk, hlt', -⟩ := h.linked n before hp hlt
      rw [hpn] at hk
      cases hk
      omega
    · rw [(h.at_head e he).1] at hnext
      cases hnext
  simp only [deAllocNode, lookup_insert_ite, if_neg hnp, he, Option.map_some]
  refine ⟨_, rfl, ⟨fun k => ?_, by simp [Ne.symm hne], rfl⟩⟩
  rw [lookup_erase_ite, lookup_insert_ite, hnext]
  split
  · rfl
  · split
    case isTrue hkp =>
      subst hkp
      simp [hp, hpn]
    case isFalse hkp =>
      cases hk : b.elements.lookup k with
      | none => rfl
      | some f =>
        have hf : f.next ≠ some n := fun hf => hkp (h.next_inj hk hp hf hpn)
        simp [hf]

theorem clearLoop_spec {fuel : Nat} (prev : Option Nat) (h : Linked b) (hn : b.Allocated n)
    (hle : n ≤ b.pivot)
    (hprev : n ≠ b.tail → ∃ p f, prev = some p ∧ b.elements.lookup p = some f ∧ f.next = some n)
    (hfuel : b.pivot < fuel + n) :
    ∃ c, clearLoop b.pivot b.head fuel b prev n = some c ∧ Cleared b c := by
  induction fuel generalizing b prev n with
  | zero => omega
  | succ fuel ih =>
    rw [clearLoop]
    by_cases hend : n = b.pivot ∨ n = b.head
    · rw [if_pos hend]
      exact ⟨b, rfl, .refl h⟩
    · rw [if_neg hend]
      have hlt : n < b.pivot := by omega
      have hpivot := h.pivot_le
      obtain ⟨e, he⟩ := Option.isSome_iff_exists.mp hn
      obtain ⟨-, m, hnext, hnm, hm, hgap⟩ := h.linked n e he (by omega)
      -- the pivot is there, so that it is not between the element and the next one
      have hmle : m ≤ b.pivot := by
        refine Nat.le_of_not_lt fun hgt => ?_
        exact ((h.allocated _).mp h.allocated_pivot).2 (hgap _ hlt hgt)
      simp only [he, Option.bind_eq_bind, Option.bind_some]
      by_cases hzero : b.referenceCount n ≤ 0
      · have hzero' : b.referenceCount n = 0 := by grind
        rw [if_pos hzero]
        by_cases htail : n = b.tail
        · rw [if_pos htail]
          obtain ⟨c, hdeq, hu, hct⟩ := dequeue_spec h (htail ▸ he) hnext (by omega) (by omega)
          rw [← htail] at hu
          have hclear := Cleared.of_unlinked h he hnext hlt hzero' hu
          have hcm : c.Allocated m := hct ▸ hclear.linked.at_tail.1
          obtain ⟨d, hd, hclear'⟩ := ih none hclear.linked hcm
            (by rw [hclear.pivot]; exact hmle) (fun hne => absurd hct.symm hne)
            (by rw [hclear.pivot]; omega)
          rw [hclear.pivot, hclear.head] at hd
          refine ⟨d, ?_, hclear.trans hclear'⟩
          rw [hdeq, Option.bind_some, hct]
          exact hd
        · rw [if_neg htail]
          obtain ⟨p, f, rfl, hp, hpn⟩ := hprev htail
          obtain ⟨c, hfree, hu⟩ := unlink_spec h he hnext hp hpn htail
          have hclear := Cleared.of_unlinked h he hnext hlt hzero' hu
          have hnp : p ≠ n := by
            rintro rfl
            rw [he] at hp
            cases hp
            rw [hnext] at hpn
            cases hpn
            omega
          obtain ⟨d, hd, hclear'⟩ := ih (some p) hclear.linked (hu.next_allocated hm hnm)
            (by rw [hclear.pivot]; exact hmle) (fun _ => ⟨p, _, rfl, hu.before hnp hp hpn, rfl⟩)
            (by rw [hclear.pivot]; omega)
          rw [hclear.pivot, hclear.head] at hd
          refine ⟨d, ?_, hclear.trans hclear'⟩
          rw [Option.bind_some, hp, Option.bind_some, hfree, Option.bind_some]
          simp only [hnext]
          exact hd
      · rw [if_neg hzero]
        obtain ⟨d, hd, hclear⟩ := ih (some n) h hm hmle (fun _ => ⟨n, e, rfl, he, hnext⟩)
          (by omega)
        refine ⟨d, ?_, hclear⟩
        simp only [hnext]
        exact hd

theorem clearUnusedData_spec (h : Linked b) :
    ∃ c, b.clearUnusedData = some c ∧ Cleared b c := by
  have hle : b.tail ≤ b.pivot := by
    refine Nat.le_of_not_lt fun hlt => ?_
    exact ((h.allocated _).mp h.allocated_pivot).2 (h.at_tail.2 _ hlt)
  have hfuel : b.pivot < b.allocati + b.tail := by
    have := h.fresh
    have := h.pivot_le
    omega
  exact clearLoop_spec none h h.at_tail.1 hle (fun hne => absurd rfl hne) hfuel

/-- The counters of the readers while nobody reads: the garbage iterator is at the pivot. -/
def onlyAt (p : Nat) : Nat → UInt32 := fun n => if n = p then 1 else 0

theorem drop_bump_onlyAt (p q : Nat) : drop (bump (onlyAt p) q) p = onlyAt q := by
  have : onlyAt p = bump (fun _ => 0) p := by
    funext n
    simp [onlyAt, bump_apply]
  rw [this, drop_bump_bump]
  funext n
  simp [onlyAt, bump_apply]

/-- The queue with its pivot further on. -/
def marked (b : CommonBuffer U) (q : Nat) : CommonBuffer U :=
  { b with pivot := q, readerCount := onlyAt q }

theorem linked_marked (h : Linked b) {q : Nat} (hle : b.pivot ≤ q)
    (hq : q = b.pivot ∨ q < b.head) : Linked (b.marked q) :=
  { h with
    behind := fun n hn => Nat.lt_of_lt_of_le (h.behind n hn) hle
    pivot_le := by
      rcases hq with rfl | hlt
      · exact h.pivot_le
      · exact Nat.le_of_lt hlt
    pivot_lt := by
      intro hne
      rcases hq with rfl | hlt
      · exact h.pivot_lt hne
      · exact hlt }

/-- The garbage iterator is at the pivot, and it has not counted the pivot as passed. -/
structure AtPivot (b : CommonBuffer U) (g : IteratorGarbage) : Prop where
  current : g.current = b.pivot
  lastDiv : ∀ d ∈ g.lastDiv, d < b.pivot
  reading : b.readerCount = onlyAt b.pivot

theorem AtPivot.marked_self {g : IteratorGarbage} (hg : b.AtPivot g) : b.marked b.pivot = b := by
  rw [marked, ← hg.reading]

theorem markOldData_spec (h : Linked b) {g : IteratorGarbage} (hg : b.AtPivot g) (now : UInt64) :
    markOldData now b g = some (false, b, g) ∨
      (b.isValid now b.pivot = some false ∧ b.pivot + 1 < b.head ∧
        markOldData now b g =
          some (true, b.marked (b.pivot + 1), ⟨b.pivot + 1, some b.pivot⟩)) := by
  have hpivot := h.allocated_pivot
  obtain ⟨e, he⟩ := Option.isSome_iff_exists.mp hpivot
  obtain ⟨v, hv⟩ := Linked.isValid now hpivot
  simp only [markOldData, he, hv, Option.bind_eq_bind, Option.bind_some]
  cases v with
  | true => exact .inl rfl
  | false =>
    have hlt := h.lt_head_of_invalid hv
    obtain ⟨-, m, hnext, hpm, hm, hgap⟩ := h.linked _ e he hlt
    -- no element is missing after the pivot
    obtain rfl : m = b.pivot + 1 := by
      refine Nat.le_antisymm (Nat.le_of_not_lt fun hgt => ?_) hpm
      have := h.behind _ (hgap (b.pivot + 1) (by omega) hgt)
      omega
    by_cases hlast : b.pivot + 1 = b.head
    · refine .inl ?_
      simp [hnext, hlast]
    · have hle := h.le_head hm
      refine .inr ⟨rfl, by omega, ?_⟩
      have hne : b.pivot ≠ b.head := by omega
      have hdiv : g.lastDiv ≠ some b.pivot := fun heq => by
        have := hg.lastDiv _ heq
        omega
      have hinc : b.increment (b.pivot + 1) =
          some (b.counted (bump b.readerCount (b.pivot + 1)) b.referenceCount) :=
        increment_counted hm
      have hread : (b.counted (onlyAt (b.pivot + 1)) b.referenceCount).readerCount b.pivot = 0 := by
        show onlyAt (b.pivot + 1) b.pivot = 0
        simp [onlyAt]
      simp [hnext, hlast, hne, hdiv, hinc, decrementCounter_counted hpivot, hg.reading,
        drop_bump_onlyAt, hread]
      rfl

theorem markLoop_spec {fuel : Nat} {g : IteratorGarbage} (now : UInt64) (h : Linked b)
    (hg : b.AtPivot g) (hfuel : b.head < fuel + b.pivot) :
    ∃ q g', b.pivot ≤ q ∧ (q = b.pivot ∨ q < b.head) ∧
      (∀ n, b.pivot ≤ n → n < q → b.isValid now n = some false) ∧
      (b.marked q).AtPivot g' ∧ markLoop now fuel b g = some (b.marked q, g') := by
  induction fuel generalizing b g with
  | zero =>
    have := h.pivot_le
    omega
  | succ fuel ih =>
    rw [markLoop]
    rcases markOldData_spec h hg now with hstay | ⟨hinv, hlt, hmark⟩
    · refine ⟨b.pivot, g, Nat.le_refl _, .inl rfl, fun n hn hn' => by omega, ?_, ?_⟩
      · exact ⟨hg.current, hg.lastDiv, rfl⟩
      · simp [hstay, hg.marked_self]
    · have hnext : (b.marked (b.pivot + 1)).AtPivot ⟨b.pivot + 1, some b.pivot⟩ := by
        refine ⟨rfl, fun d hd => ?_, rfl⟩
        cases hd
        exact Nat.lt_succ_self _
      obtain ⟨q, g', hle, hq, hold, hat, hloop⟩ :=
        ih (linked_marked h (Nat.le_succ _) (.inr hlt)) hnext (by
          show b.head < fuel + (b.pivot + 1)
          omega)
      replace hle : b.pivot + 1 ≤ q := hle
      refine ⟨q, g', by omega, ?_, ?_, hat, ?_⟩
      · rcases hq with rfl | hq
        · exact .inr hlt
        · exact .inr hq
      · intro n hn hnq
        rcases Nat.eq_or_lt_of_le hn with rfl | hlt'
        · exact hinv
        · exact hold n hlt' hnq
      · simp only [hmark, Option.bind_eq_bind, Option.bind_some, if_true]
        exact hloop

/-- What a call of the garbage iterator does: it frees elements before the pivot, and moves the
pivot over elements that are out of date. -/
theorem clearQueue_spec {g : IteratorGarbage} (now : UInt64) (h : Linked b) (hg : b.AtPivot g) :
    ∃ c q g', Cleared b c ∧ b.pivot ≤ q ∧ (q = b.pivot ∨ q < b.head) ∧
      (∀ n, b.pivot ≤ n → n < q → c.isValid now n = some false) ∧
      (c.marked q).AtPivot g' ∧ clearQueue now b g = some (c.marked q, g') := by
  obtain ⟨c, hclear, hc⟩ := clearUnusedData_spec h
  have hat : c.AtPivot g := by
    refine ⟨?_, ?_, ?_⟩
    · rw [hc.pivot]
      exact hg.current
    · rw [hc.pivot]
      exact hg.lastDiv
    · rw [hc.pivot, hc.readerCount]
      exact hg.reading
  have hready := hc.linked.isReady hc.linked.allocated_pivot
  rw [← hat.current] at hready
  simp only [clearQueue, hclear, hready, Option.bind_eq_bind, Option.bind_some]
  by_cases hlt : g.current < c.head
  · have hfuel : c.head < c.allocati + c.pivot := by
      have := hc.linked.fresh
      omega
    obtain ⟨q, g', hle, hq, hold, hat', hloop⟩ := markLoop_spec now hc.linked hat hfuel
    rw [hc.pivot] at hle hq hold
    rw [hc.head] at hq
    refine ⟨c, q, g', hc, hle, hq, hold, hat', ?_⟩
    rw [if_pos (by simpa using hlt)]
    exact hloop
  · refine ⟨c, c.pivot, g, hc, by rw [hc.pivot], .inl hc.pivot, ?_, ?_, ?_⟩
    · intro n hn hn'
      rw [hc.pivot] at hn'
      omega
    · exact ⟨hat.current, hat.lastDiv, rfl⟩
    · rw [if_neg (by simpa using hlt), hat.marked_self]
      rfl

end CommonBuffer

end chaos.caching_system
