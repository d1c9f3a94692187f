-- The books of the low resolution buffers: which buffer each key has, and that the iterators of a
-- buffer are the open ones of its request. What one more iterator or buffer, and one less, does to
-- them.
import Mathlib.Data.List.Nodup
import Chaos.DeviceTracker

open linked_heap

namespace chaos.caching_system.caching_thread

variable {T : Type}

namespace AbstractDeviceTracker

/-! ## What is claimed -/

/-- Each request of an open iterator has one buffer, the other keys have none, and each open
iterator belongs to the buffer of its own request. The garbage collector has no freed queue. -/
structure Coherent (t : AbstractDeviceTracker T) : Prop where
  requested_iff : ∀ k, k ∈ t.lowResQueues ↔ ∃ e ∈ t.opened, bufferKey e.2.1 e.2.2 = k
  registered_iff : ∀ p, p ∈ t.buffers ↔ ∃ k, t.lowResQueues.lookup k = some p
  one_key : ∀ k k' p, t.lowResQueues.lookup k = some p → t.lowResQueues.lookup k' = some p → k = k'
  own : ∀ e ∈ t.opened, ∃ it b, t.iterators.lookup e.1 = some it ∧
    t.lowResQueues.lookup (bufferKey e.2.1 e.2.2) = some it.queue ∧
    t.iteratorIdToBufferTracker.lookup it.id = some it.queue ∧
    t.buffers.lookup it.queue = some b ∧
    b.getValidity = CommonBuffer.atLeastOne e.2.1 ∧ b.discretization = e.2.2
  collected : ∀ q ∈ t.queues, q ∈ t.garbageIterators

/-- The open iterators of a request, in the order of their calls. -/
def openedFor (t : AbstractDeviceTracker T) (validity discretization : UInt64) : List Nat :=
  (t.opened.filter fun e => e.2 = (validity, discretization)).map Prod.fst

/-- The number of an iterator that is allocated. -/
def idOf (t : AbstractDeviceTracker T) (iterator : Nat) : Option UInt32 :=
  (t.iterators.lookup iterator).map IteratorReader.id

/-! ## The invariant -/

/-- The buffers account for the open iterators. In the middle of `openBuffer` a buffer may have a
`pending` key, one that no open iterator requested yet. -/
structure Accounts (t : AbstractDeviceTracker T) (pending : List Char → Prop) : Prop where
  requested : ∀ k, k ∈ t.lowResQueues ↔ pending k ∨ ∃ e ∈ t.opened, bufferKey e.2.1 e.2.2 = k
  buffer : ∀ k p, t.lowResQueues.lookup k = some p →
    ∃ b, t.buffers.lookup p = some b ∧ bufferKey b.requested b.discretization = k
  own : ∀ e ∈ t.opened, ∃ it, t.iterators.lookup e.1 = some it ∧
    t.lowResQueues.lookup (bufferKey e.2.1 e.2.2) = some it.queue ∧
    t.iteratorIdToBufferTracker.lookup it.id = some it.queue
  collected : ∀ q ∈ t.queues, q ∈ t.garbageIterators
  key : ∀ p b, t.buffers.lookup p = some b →
    t.lowResQueues.lookup (bufferKey b.requested b.discretization) = some p
  validity : ∀ p b, t.buffers.lookup p = some b →
    b.getValidity = CommonBuffer.atLeastOne b.requested
  related : ∀ p b, t.buffers.lookup p = some b →
    b.relatedIterators = t.openedFor b.requested b.discretization
  counted : ∀ p b, t.buffers.lookup p = some b →
    b.numberOfReader = b.found + UInt32.ofNat b.relatedIterators.length
  nodup : (t.opened.map Prod.fst).Nodup
  alive : ∀ i, i ∈ t.iterators ↔ i ∈ t.opened.map Prod.fst
  purged : ∀ p b, t.buffers.lookup p = some b → b.iteratorGarbage ∈ t.queues
  apart : ∀ p p' b b', t.buffers.lookup p = some b → t.buffers.lookup p' = some b' →
    b.iteratorGarbage = b'.iteratorGarbage → p = p'
  queues_nodup : t.queues.Nodup
  bounded : (∀ p ∈ t.buffers, p < t.allocated) ∧ (∀ i ∈ t.iterators, i < t.allocated) ∧
    ∀ q ∈ t.garbageIterators, q < t.allocated

def Inv (t : AbstractDeviceTracker T) : Prop := t.Accounts fun _ => False

variable {t t' : AbstractDeviceTracker T} {v d : UInt64} {i p : Nat} {b : BufferTracker T}
  {pending : List Char → Prop}

theorem mem_openedFor : i ∈ t.openedFor v d ↔ (i, v, d) ∈ t.opened := by
  unfold openedFor
  simp only [List.mem_map, List.mem_filter, decide_eq_true_eq]
  constructor
  · rintro ⟨⟨j, r⟩, ⟨hmem, rfl⟩, rfl⟩
    exact hmem
  · intro hmem
    exact ⟨(i, v, d), ⟨hmem, rfl⟩, rfl⟩

theorem mem_map_opened : i ∈ t.opened.map Prod.fst ↔ ∃ v d, (i, v, d) ∈ t.opened := by
  simp [List.mem_map]

theorem mem_of_lookup {α : Type} {β : α → Type} [DecidableEq α] {m : AList β} {a : α} {x : β a}
    (h : m.lookup a = some x) : a ∈ m := AList.lookup_isSome.mp (by rw [h]; rfl)

theorem exists_of_mem {α : Type} {β : α → Type} [DecidableEq α] {m : AList β} {a : α}
    (h : a ∈ m) : ∃ x, m.lookup a = some x := Option.isSome_iff_exists.mp (AList.lookup_isSome.mpr h)

theorem Accounts.openedFor_nodup (h : t.Accounts pending) (v d : UInt64) :
    (t.openedFor v d).Nodup :=
  (List.filter_sublist.map Prod.fst).nodup h.nodup

/-- An open iterator, its buffer, and that the buffer is for its request. -/
theorem Accounts.iterator (h : t.Accounts pending) (hi : (i, v, d) ∈ t.opened) :
    ∃ it b, t.iterators.lookup i = some it ∧ t.buffers.lookup it.queue = some b ∧
      b.requested = v ∧ b.discretization = d ∧
      t.iteratorIdToBufferTracker.lookup it.id = some it.queue := by
  obtain ⟨it, hit, hkey, hid⟩ := h.own _ hi
  obtain ⟨b, hb, hsame⟩ := h.buffer _ _ hkey
  obtain ⟨hv, hd⟩ := bufferKey_inj.mp hsame
  exact ⟨it, b, hit, hb, hv, hd, hid⟩

theorem Inv.coherent (h : t.Inv) : t.Coherent where
  requested_iff k := by
    rw [h.requested]
    simp
  registered_iff p := by
    constructor
    · intro hp
      obtain ⟨b, hb⟩ := exists_of_mem hp
      exact ⟨_, h.key _ _ hb⟩
    · rintro ⟨k, hk⟩
      obtain ⟨b, hb, -⟩ := h.buffer _ _ hk
      exact mem_of_lookup hb
  one_key k k' p hk hk' := by
    obtain ⟨b, hb, rfl⟩ := h.buffer _ _ hk
    obtain ⟨b', hb', rfl⟩ := h.buffer _ _ hk'
    rw [hb] at hb'
    cases hb'
    rfl
  own e he := by
    obtain ⟨it, b, hit, hb, hv, hd, hid⟩ := h.iterator he
    have hvalid := h.validity _ _ hb
    rw [hv] at hvalid
    refine ⟨it, b, hit, ?_, hid, hb, hvalid, hd⟩
    rw [← hv, ← hd]
    exact h.key _ _ hb
  collected := h.collected

theorem mem_opened_filter {e : Nat × UInt64 × UInt64} :
    e ∈ t.opened.filter (fun e => e.1 ≠ i) ↔ e ∈ t.opened ∧ e.1 ≠ i := by
  simp [List.mem_filter]

/-! ## The buffers under new readers

An iterator that opens or closes changes the count and the list of readers of its buffer, and
nothing else of any buffer. -/

section Readers

variable {n : UInt32} {readers : List Nat} {q : Nat} {c : BufferTracker T}

theorem buffer_of_readers
    (hc : (t.buffers.insert p { b with
      numberOfReader := n
      relatedIterators := readers }).lookup q = some c) :
    (q = p ∧ c = { b with numberOfReader := n, relatedIterators := readers }) ∨
      (q ≠ p ∧ t.buffers.lookup q = some c) := by
  rw [lookup_insert_ite] at hc
  split at hc
  case isTrue hq => exact Or.inl ⟨hq, (Option.some.inj hc).symm⟩
  case isFalse hq => exact Or.inr ⟨hq, hc⟩

/-- The buffer that was there before its readers changed. -/
theorem buffer_before_readers (hb : t.buffers.lookup p = some b)
    (hc : (t.buffers.insert p { b with
      numberOfReader := n
      relatedIterators := readers }).lookup q = some c) :
    ∃ c', t.buffers.lookup q = some c' ∧ c'.requested = c.requested ∧
      c'.discretization = c.discretization ∧ c'.getValidity = c.getValidity ∧
      c'.iteratorGarbage = c.iteratorGarbage := by
  rcases buffer_of_readers hc with ⟨rfl, rfl⟩ | ⟨-, hold⟩
  · exact ⟨b, hb, rfl, rfl, rfl, rfl⟩
  · exact ⟨c, hold, rfl, rfl, rfl, rfl⟩

theorem buffer_after_readers (hb : t.buffers.lookup p = some b) (hc : t.buffers.lookup q = some c) :
    ∃ c', (t.buffers.insert p { b with
      numberOfReader := n
      relatedIterators := readers }).lookup q = some c' ∧ c'.requested = c.requested ∧
      c'.discretization = c.discretization := by
  rw [lookup_insert_ite]
  split
  case isTrue hq =>
    subst hq
    rw [hb] at hc
    cases hc
    exact ⟨_, rfl, rfl, rfl⟩
  case isFalse => exact ⟨c, hc, rfl, rfl⟩

/-- The tracker with other readers of the buffer at `p`. -/
def withReaders (t : AbstractDeviceTracker T) (p : Nat) (b : BufferTracker T) (n : UInt32)
    (readers : List Nat) : AbstractDeviceTracker T :=
  { t with buffers := t.buffers.insert p { b with
      numberOfReader := n
      relatedIterators := readers } }

/-- What the accounts say of the buffers but for their readers. -/
structure SameBuffers (t : AbstractDeviceTracker T) : Prop where
  buffer : ∀ k p, t.lowResQueues.lookup k = some p →
    ∃ b, t.buffers.lookup p = some b ∧ bufferKey b.requested b.discretization = k
  key : ∀ p b, t.buffers.lookup p = some b →
    t.lowResQueues.lookup (bufferKey b.requested b.discretization) = some p
  validity : ∀ p b, t.buffers.lookup p = some b →
    b.getValidity = CommonBuffer.atLeastOne b.requested
  purged : ∀ p b, t.buffers.lookup p = some b → b.iteratorGarbage ∈ t.queues
  apart : ∀ p p' b b', t.buffers.lookup p = some b → t.buffers.lookup p' = some b' →
    b.iteratorGarbage = b'.iteratorGarbage → p = p'

theorem Accounts.sameBuffers (h : t.Accounts pending) (hb : t.buffers.lookup p = some b)
    (n : UInt32) (readers : List Nat) : SameBuffers (t.withReaders p b n readers) := by
  constructor
  case buffer =>
    intro k q hq
    obtain ⟨c, hc, hsame⟩ := h.buffer k q hq
    obtain ⟨c', hc', hv, hd⟩ := buffer_after_readers hb hc
    exact ⟨c', hc', by rw [hv, hd, hsame]⟩
  case key =>
    intro q c hc
    obtain ⟨c', hc', hv, hd, -, -⟩ := buffer_before_readers hb hc
    rw [← hv, ← hd]
    exact h.key _ _ hc'
  case validity =>
    intro q c hc
    obtain ⟨c', hc', hv, -, hvalid, -⟩ := buffer_before_readers hb hc
    rw [← hv, ← hvalid]
    exact h.validity _ _ hc'
  case purged =>
    intro q c hc
    obtain ⟨c', hc', -, -, -, hgarbage⟩ := buffer_before_readers hb hc
    rw [← hgarbage]
    exact h.purged _ _ hc'
  case apart =>
    intro q q' c c' hc hc' hsame
    obtain ⟨e, he, -, -, -, hgarbage⟩ := buffer_before_readers hb hc
    obtain ⟨e', he', -, -, -, hgarbage'⟩ := buffer_before_readers hb hc'
    exact h.apart _ _ _ _ he he' (hgarbage.trans (hsame.trans hgarbage'.symm))

end Readers

/-! ## The opened tracker -/

/-- One more iterator on the buffer at `p`. -/
def withIterator (t : AbstractDeviceTracker T) (v d : UInt64) (p : Nat) (b : BufferTracker T) :
    AbstractDeviceTracker T :=
  { t with
    lastNumber := t.lastNumber + 1
    buffers := t.buffers.insert p { b with
      numberOfReader := b.numberOfReader + 1
      relatedIterators := b.relatedIterators ++ [t.allocated] }
    iterators := t.iterators.insert t.allocated { id := t.lastNumber, queue := p }
    iteratorIdToBufferTracker := t.iteratorIdToBufferTracker.insert t.lastNumber p
    allocated := t.allocated + 1
    opened := t.opened ++ [(t.allocated, v, d)] }

/-- A registered buffer with no iterator yet, for a garbage collector that has its queue. -/
def withBuffer (t : AbstractDeviceTracker T) (v d : UInt64) (b : BufferTracker T) :
    AbstractDeviceTracker T :=
  { t with
    lastNumber := t.lastNumber + 1
    buffers := t.buffers.insert t.allocated b
    garbageIterators := t.garbageIterators.insert (t.allocated + 1) t.lastNumber
    lowResQueues := t.lowResQueues.insert (bufferKey v d) t.allocated
    queues := t.queues ++ [t.allocated + 1]
    allocated := t.allocated + 2 }

theorem openBuffer_known {f : UInt32} (hkey : t.lowResQueues.lookup (bufferKey v d) = some p)
    (hb : t.buffers.lookup p = some b) : t.openBuffer v d f = some (t.withIterator v d p b) := by
  simp [openBuffer, hkey, getIterator, hb, getNewId, withIterator]

/-- A new buffer, of which only the queue is not written out. -/
def freshBuffer (t : AbstractDeviceTracker T) (queue : CommonBuffer T) (v d : UInt64) (f : UInt32) :
    BufferTracker T :=
  { controlledBuffer := queue
    numberOfReader := f
    discretization := d
    iteratorGarbage := t.allocated + 1
    relatedIterators := []
    requested := v
    found := f }

theorem getIteratorGarbage_new (v : UInt64) : (CommonBuffer.new T v).getIteratorGarbage =
    some ({ CommonBuffer.new T v with readerCount := bump (fun _ => 0) 0 }, { current := 0 }) := rfl

theorem openBuffer_new {f : UInt32} (hkey : t.lowResQueues.lookup (bufferKey v d) = none) :
    ∃ queue : CommonBuffer T, queue.validita = CommonBuffer.atLeastOne v ∧
      t.openBuffer v d f = some ((t.withBuffer v d (t.freshBuffer queue v d f)).withIterator v d
        t.allocated (t.freshBuffer queue v d f)) := by
  refine ⟨{ CommonBuffer.new T v with readerCount := bump (fun _ => 0) 0 }, rfl, ?_⟩
  simp [openBuffer, hkey, newBuffer, getIteratorGarbage_new, getIterator, getNewId, withIterator,
    withBuffer, freshBuffer]

theorem openedFor_append (t : AbstractDeviceTracker T) (v d v' d' : UInt64) (i : Nat) :
    openedFor { t with opened := t.opened ++ [(i, v, d)] } v' d' =
      t.openedFor v' d' ++ if (v, d) = (v', d') then [i] else [] := by
  unfold openedFor
  simp only [List.filter_append, List.map_append]
  by_cases hsame : (v, d) = (v', d')
  · simp [hsame]
  · rw [if_neg hsame, List.filter_cons_of_neg (by simpa using hsame)]
    rfl

theorem Inv.withBuffer (h : t.Inv) {queue : CommonBuffer T} {f : UInt32}
    (hqueue : queue.validita = CommonBuffer.atLeastOne v)
    (hnone : t.lowResQueues.lookup (bufferKey v d) = none) :
    (t.withBuffer v d (t.freshBuffer queue v d f)).Accounts fun k => k = bufferKey v d := by
  have hnew : ∀ {p : Nat}, p ∈ t.buffers → p ≠ t.allocated :=
    fun hp => Nat.ne_of_lt (h.bounded.1 _ hp)
  have hbuffers : ∀ {p b}, (t.buffers.insert t.allocated (t.freshBuffer queue v d f)).lookup p =
      some b → (p = t.allocated ∧ b = t.freshBuffer queue v d f) ∨ t.buffers.lookup p = some b := by
    intro p b hb
    rw [lookup_insert_ite] at hb
    split at hb
    case isTrue hp => exact Or.inl ⟨hp, (Option.some.inj hb).symm⟩
    case isFalse => exact Or.inr hb
  have hnokey : bufferKey v d ∉ t.lowResQueues := by
    rw [← AList.lookup_isSome, hnone]
    simp
  have hunrequested : t.openedFor v d = [] := by
    rw [List.eq_nil_iff_forall_not_mem]
    intro j hj
    exact hnokey ((h.requested _).mpr (Or.inr ⟨_, mem_openedFor.mp hj, rfl⟩))
  constructor
  case requested =>
    intro k
    simp only [AbstractDeviceTracker.withBuffer, AList.mem_insert, h.requested, false_or]
  case buffer =>
    intro k p hk
    simp only [AbstractDeviceTracker.withBuffer] at hk ⊢
    by_cases hsame : k = bufferKey v d
    · subst hsame
      rw [AList.lookup_insert] at hk
      cases hk
      exact ⟨_, AList.lookup_insert _, rfl⟩
    · rw [AList.lookup_insert_ne hsame] at hk
      obtain ⟨b, hb, hkey⟩ := h.buffer _ _ hk
      exact ⟨b, by rwa [AList.lookup_insert_ne (hnew (mem_of_lookup hb))], hkey⟩
  case own =>
    intro e he
    obtain ⟨it, hit, hkey, hid⟩ := h.own e he
    refine ⟨it, hit, ?_, hid⟩
    simp only [AbstractDeviceTracker.withBuffer]
    rwa [AList.lookup_insert_ne]
    intro hsame
    rw [hsame, hnone] at hkey
    cases hkey
  case collected =>
    intro q hq
    simp only [AbstractDeviceTracker.withBuffer, List.mem_append, List.mem_singleton,
      AList.mem_insert] at hq ⊢
    rcases hq with hq | hq
    · exact Or.inr (h.collected q hq)
    · exact Or.inl hq
  case key =>
    intro p b hb
    simp only [AbstractDeviceTracker.withBuffer] at hb ⊢
    rcases hbuffers hb with ⟨rfl, rfl⟩ | hb
    · exact AList.lookup_insert _
    · have hkey := h.key _ _ hb
      rwa [AList.lookup_insert_ne]
      intro hsame
      rw [hsame, hnone] at hkey
      cases hkey
  case validity =>
    intro p b hb
    rcases hbuffers hb with ⟨rfl, rfl⟩ | hb
    · exact hqueue
    · exact h.validity _ _ hb
  case related =>
    intro p b hb
    rcases hbuffers hb with ⟨rfl, rfl⟩ | hb
    · exact hunrequested.symm
    · exact h.related _ _ hb
  case counted =>
    intro p b hb
    rcases hbuffers hb with ⟨rfl, rfl⟩ | hb
    · exact (UInt32.add_zero f).symm
    · exact h.counted _ _ hb
  case nodup => exact h.nodup
  case alive => exact h.alive
  case purged =>
    intro p b hb
    simp only [AbstractDeviceTracker.withBuffer, List.mem_append, List.mem_singleton]
    rcases hbuffers hb with ⟨rfl, rfl⟩ | hb
    · exact Or.inr rfl
    · exact Or.inl (h.purged _ _ hb)
  case apart =>
    have hold : ∀ {p b}, t.buffers.lookup p = some b → b.iteratorGarbage ≠ t.allocated + 1 := by
      intro p b hb heq
      have := h.bounded.2.2 _ (h.collected _ (h.purged _ _ hb))
      omega
    intro p p' b b' hb hb' hsame
    rcases hbuffers hb with ⟨rfl, rfl⟩ | hb <;> rcases hbuffers hb' with ⟨rfl, rfl⟩ | hb'
    · rfl
    · exact absurd hsame.symm (hold hb')
    · exact absurd hsame (hold hb)
    · exact h.apart _ _ _ _ hb hb' hsame
  case queues_nodup =>
    simp only [AbstractDeviceTracker.withBuffer, ← List.concat_eq_append]
    refine h.queues_nodup.concat ?_
    intro hmem
    have := h.bounded.2.2 _ (h.collected _ hmem)
    omega
  case bounded =>
    simp only [AbstractDeviceTracker.withBuffer, AList.mem_insert]
    refine ⟨?_, ?_, ?_⟩
    · rintro p (rfl | hp)
      · omega
      · have := h.bounded.1 p hp
        omega
    · intro j hj
      have := h.bounded.2.1 j hj
      omega
    · rintro q (rfl | hq)
      · omega
      · have := h.bounded.2.2 q hq
        omega

theorem Accounts.withIterator (h : t.Accounts pending) (hpending : ∀ k, pending k → k = bufferKey v d)
    (hkey : t.lowResQueues.lookup (bufferKey v d) = some p) (hb : t.buffers.lookup p = some b)
    (hids : ∀ e ∈ t.opened, t.idOf e.1 = some t.lastNumber → e.2 = (v, d)) :
    (t.withIterator v d p b).Inv := by
  obtain ⟨rfl, rfl⟩ : b.requested = v ∧ b.discretization = d := by
    obtain ⟨b', hb', hsame⟩ := h.buffer _ _ hkey
    rw [hb, Option.some.injEq] at hb'
    subst hb'
    exact bufferKey_inj.mp hsame
  have hfor : ∀ v' d', (t.withIterator b.requested b.discretization p b).openedFor v' d' =
      t.openedFor v' d' ++ if (b.requested, b.discretization) = (v', d') then [t.allocated] else [] :=
    fun v' d' => openedFor_append t _ _ v' d' _
  have hnew : ∀ j ∈ t.opened.map Prod.fst, j ≠ t.allocated := by
    intro j hj
    exact Nat.ne_of_lt (h.bounded.2.1 j ((h.alive j).mpr hj))
  have hbuffers := h.sameBuffers hb (b.numberOfReader + 1) (b.relatedIterators ++ [t.allocated])
  constructor
  case requested =>
    intro k
    simp only [AbstractDeviceTracker.withIterator, List.mem_append, List.mem_singleton, false_or,
      h.requested]
    constructor
    · rintro (hk | ⟨e, he, hk⟩)
      · exact ⟨_, Or.inr rfl, (hpending k hk).symm⟩
      · exact ⟨e, Or.inl he, hk⟩
    · rintro ⟨e, he | rfl, hk⟩
      · exact Or.inr ⟨e, he, hk⟩
      · rw [← h.requested, ← hk]
        exact mem_of_lookup hkey
  case buffer => exact hbuffers.buffer
  case own =>
    intro e he
    simp only [AbstractDeviceTracker.withIterator, List.mem_append, List.mem_singleton] at he ⊢
    rcases he with he | rfl
    · obtain ⟨it, hit, hlow, hid⟩ := h.own e he
      have hne := hnew e.1 (List.mem_map_of_mem he)
      refine ⟨it, by rwa [AList.lookup_insert_ne hne], hlow, ?_⟩
      by_cases hsame : it.id = t.lastNumber
      · have hreq := hids e he (by simp [idOf, hit, hsame])
        rw [hreq, hkey] at hlow
        rw [hsame, AList.lookup_insert, hlow]
      · rwa [AList.lookup_insert_ne hsame]
    · exact ⟨_, AList.lookup_insert _, hkey, AList.lookup_insert _⟩
  case collected => exact h.collected
  case key => exact hbuffers.key
  case validity => exact hbuffers.validity
  case related =>
    intro q c hc
    rw [hfor]
    rcases buffer_of_readers hc with ⟨rfl, rfl⟩ | ⟨hne, hc⟩
    · simp [h.related _ _ hb]
    · rw [if_neg, List.append_nil]
      · exact h.related _ _ hc
      · intro hsame
        have hlow := h.key _ _ hc
        obtain ⟨hv, hd⟩ := Prod.mk.inj hsame
        rw [← hv, ← hd, hkey] at hlow
        exact hne (Option.some.inj hlow).symm
  case counted =>
    intro q c hc
    rcases buffer_of_readers hc with ⟨rfl, rfl⟩ | ⟨-, hc⟩
    · simp [h.counted _ _ hb, UInt32.add_assoc]
    · exact h.counted _ _ hc
  case nodup =>
    simp only [AbstractDeviceTracker.withIterator, List.map_append, List.map_cons, List.map_nil]
    rw [← List.concat_eq_append]
    exact h.nodup.concat fun hmem => hnew _ hmem rfl
  case alive =>
    intro j
    simp only [AbstractDeviceTracker.withIterator, AList.mem_insert, h.alive, List.map_append,
      List.mem_append, List.map_cons, List.map_nil, List.mem_singleton]
    exact or_comm
  case purged => exact hbuffers.purged
  case apart => exact hbuffers.apart
  case queues_nodup => exact h.queues_nodup
  case bounded =>
    simp only [AbstractDeviceTracker.withIterator, AList.mem_insert]
    refine ⟨?_, ?_, ?_⟩
    · rintro q (rfl | hq)
      · have := h.bounded.1 _ (mem_of_lookup hb)
        omega
      · have := h.bounded.1 q hq
        omega
    · rintro j (rfl | hj)
      · omega
      · have := h.bounded.2.1 j hj
        omega
    · intro q hq
      have := h.bounded.2.2 q hq
      omega

/-- Where the tracker is coherent after it, the new iterator took the number of no iterator of
another request. -/
theorem Accounts.ids_of_coherent (h : t.Accounts pending)
    (hkey : t.lowResQueues.lookup (bufferKey v d) = some p)
    (hc : (t.withIterator v d p b).Coherent) :
    ∀ e ∈ t.opened, t.idOf e.1 = some t.lastNumber → e.2 = (v, d) := by
  intro e he hsame
  obtain ⟨it, hit, hlow, -⟩ := h.own e he
  have hne : e.1 ≠ t.allocated :=
    Nat.ne_of_lt (h.bounded.2.1 _ ((h.alive _).mpr (List.mem_map_of_mem he)))
  obtain ⟨it', -, hit', hlow', hid', -⟩ := hc.own e (List.mem_append_left _ he)
  simp only [AbstractDeviceTracker.withIterator] at hit' hlow' hid'
  rw [AList.lookup_insert_ne hne, hit] at hit'
  cases hit'
  simp only [idOf, hit, Option.map_some, Option.some.injEq] at hsame
  rw [hsame, AList.lookup_insert] at hid'
  rw [← hid'] at hlow'
  obtain ⟨c, hcb, hk⟩ := h.buffer _ _ hkey
  obtain ⟨c', hcb', hk'⟩ := h.buffer _ _ hlow'
  rw [hcb] at hcb'
  cases hcb'
  rw [hk] at hk'
  obtain ⟨hv, hd⟩ := bufferKey_inj.mp hk'
  exact Prod.ext hv.symm hd.symm

/-! ## The closed tracker -/

/-- One iterator less on its buffer `b`. -/
def withoutIterator (t : AbstractDeviceTracker T) (i : Nat) (it : IteratorReader)
    (b : BufferTracker T) : AbstractDeviceTracker T :=
  { t with
    buffers := t.buffers.insert it.queue { b with
      numberOfReader := b.numberOfReader - 1
      relatedIterators := b.relatedIterators.filter fun j => j ≠ i }
    iterators := t.iterators.erase i
    iteratorIdToBufferTracker := t.iteratorIdToBufferTracker.erase it.id
    opened := t.opened.filter fun e => e.1 ≠ i }

/-- The buffer at `p` is gone, with its key and its garbage iterator. -/
def withoutBuffer (t : AbstractDeviceTracker T) (p : Nat) (b : BufferTracker T) :
    AbstractDeviceTracker T :=
  { t with
    buffers := t.buffers.erase p
    garbageIterators := t.garbageIterators.erase b.iteratorGarbage
    lowResQueues := t.lowResQueues.erase (bufferKey b.requested b.discretization)
    queues := t.queues.erase b.iteratorGarbage }

theorem openedFor_filter (t : AbstractDeviceTracker T) (i : Nat) (v d : UInt64) :
    openedFor { t with opened := t.opened.filter fun e => e.1 ≠ i } v d =
      (t.openedFor v d).filter fun j => j ≠ i := by
  unfold openedFor
  rw [List.filter_map, List.filter_filter, List.filter_filter]
  congr 1
  refine List.filter_congr fun e _ => ?_
  simp [Bool.and_comm]

theorem Inv.withoutIterator (h : t.Inv) {it : IteratorReader} (hi : i ∈ t.opened.map Prod.fst)
    (hit : t.iterators.lookup i = some it) (hb : t.buffers.lookup it.queue = some b)
    (halone : ∀ e ∈ t.opened, t.idOf e.1 = some it.id → e.1 = i) :
    (t.withoutIterator i it b).Accounts fun k =>
      k = bufferKey b.requested b.discretization ∧ b.relatedIterators = [i] := by
  obtain ⟨v, d, hreq⟩ := mem_map_opened.mp hi
  obtain ⟨rfl, rfl⟩ : b.requested = v ∧ b.discretization = d := by
    obtain ⟨it', b', hit', hb', hv, hd, -⟩ := h.iterator hreq
    rw [hit] at hit'
    cases hit'
    rw [hb] at hb'
    cases hb'
    exact ⟨hv, hd⟩
  have hrelated := h.related _ _ hb
  have hmem : i ∈ b.relatedIterators := hrelated ▸ mem_openedFor.mpr hreq
  have hnodup : b.relatedIterators.Nodup := hrelated ▸ h.openedFor_nodup _ _
  have hbuffers := h.sameBuffers hb (b.numberOfReader - 1)
    (b.relatedIterators.filter fun j => j ≠ i)
  constructor
  case requested =>
    intro k
    simp only [AbstractDeviceTracker.withoutIterator, mem_opened_filter]
    rw [h.requested]
    constructor
    · rintro (hno | ⟨e, he, rfl⟩)
      · exact hno.elim
      · by_cases hei : e.1 = i
        · have hsame : e.2 = (b.requested, b.discretization) :=
            congrArg Prod.snd (List.inj_on_of_nodup_map h.nodup he hreq hei)
          rw [hsame]
          by_cases hothers : b.relatedIterators = [i]
          · exact Or.inl ⟨rfl, hothers⟩
          · obtain ⟨j, hj, hne⟩ : ∃ j ∈ b.relatedIterators, j ≠ i := by
              by_contra hall
              push Not at hall
              refine hothers (List.perm_singleton.mp ?_)
              rw [List.perm_ext_iff_of_nodup hnodup (List.nodup_singleton i)]
              intro j
              rw [List.mem_singleton]
              exact ⟨hall j, fun hj => hj ▸ hmem⟩
            rw [hrelated] at hj
            exact Or.inr ⟨_, ⟨mem_openedFor.mp hj, hne⟩, rfl⟩
        · exact Or.inr ⟨e, ⟨he, hei⟩, rfl⟩
    · rintro (⟨rfl, -⟩ | ⟨e, ⟨he, -⟩, hk⟩)
      · exact Or.inr ⟨_, hreq, rfl⟩
      · exact Or.inr ⟨e, he, hk⟩
  case buffer => exact hbuffers.buffer
  case own =>
    intro e he
    obtain ⟨he, hne⟩ := mem_opened_filter.mp he
    obtain ⟨it', hit', hlow, hid⟩ := h.own e he
    refine ⟨it', ?_, hlow, ?_⟩
    · simp only [AbstractDeviceTracker.withoutIterator]
      rwa [AList.lookup_erase_ne hne]
    · simp only [AbstractDeviceTracker.withoutIterator]
      rwa [AList.lookup_erase_ne]
      intro hsame
      exact hne (halone e he (by simp [idOf, hit', hsame]))
  case collected => exact h.collected
  case key => exact hbuffers.key
  case validity => exact hbuffers.validity
  case related =>
    intro q c hc
    refine Eq.trans ?_ (openedFor_filter t i c.requested c.discretization).symm
    rcases buffer_of_readers hc with ⟨rfl, rfl⟩ | ⟨hne, hold⟩
    · simp only [hrelated]
    · rw [h.related _ _ hold, eq_comm, List.filter_eq_self]
      intro j hj
      simp only [decide_eq_true_eq]
      rintro rfl
      have hsame := congrArg Prod.snd
        (List.inj_on_of_nodup_map h.nodup (mem_openedFor.mp hj) hreq rfl)
      obtain ⟨hv, hd⟩ := Prod.mk.inj hsame
      have hlow := h.key _ _ hold
      rw [hv, hd, h.key _ _ hb] at hlow
      exact hne (Option.some.inj hlow).symm
  case counted =>
    intro q c hc
    rcases buffer_of_readers hc with ⟨rfl, rfl⟩ | ⟨-, hc⟩
    · have hlen : b.relatedIterators.length =
          (b.relatedIterators.filter fun j => j ≠ i).length + 1 := by
        have herase : b.relatedIterators.filter (fun j => j ≠ i) = b.relatedIterators.erase i := by
          rw [hnodup.erase_eq_filter]
          refine List.filter_congr fun j _ => ?_
          by_cases hj : j = i <;> simp [hj]
        have := List.length_pos_of_mem hmem
        rw [herase, List.length_erase_of_mem hmem]
        omega
      simp only [h.counted _ _ hb]
      rw [hlen, UInt32.ofNat_add, ← UInt32.add_assoc]
      exact UInt32.add_sub_cancel _ _
    · exact h.counted _ _ hc
  case nodup => exact (List.filter_sublist.map Prod.fst).nodup h.nodup
  case alive =>
    intro j
    simp only [AbstractDeviceTracker.withoutIterator, AList.mem_erase, h.alive, List.mem_map,
      mem_opened_filter]
    constructor
    · rintro ⟨hne, e, he, rfl⟩
      exact ⟨e, ⟨he, hne⟩, rfl⟩
    · rintro ⟨e, ⟨he, hne⟩, rfl⟩
      exact ⟨hne, e, he, rfl⟩
  case purged => exact hbuffers.purged
  case apart => exact hbuffers.apart
  case queues_nodup => exact h.queues_nodup
  case bounded =>
    simp only [AbstractDeviceTracker.withoutIterator, AList.mem_insert, AList.mem_erase]
    refine ⟨?_, ?_, h.bounded.2.2⟩
    · rintro q (rfl | hq)
      · exact h.bounded.1 _ (mem_of_lookup hb)
      · exact h.bounded.1 q hq
    · exact fun j hj => h.bounded.2.1 j hj.2

theorem Accounts.withoutBuffer (h : t.Accounts fun k =>
    k = bufferKey b.requested b.discretization ∧ b.relatedIterators = [i])
    (hunrequested : ∀ e ∈ t.opened, e.2 ≠ (b.requested, b.discretization))
    {c : BufferTracker T} (hc : t.buffers.lookup p = some c) (hv : c.requested = b.requested)
    (hd : c.discretization = b.discretization) (hg : c.iteratorGarbage = b.iteratorGarbage) :
    (t.withoutBuffer p b).Inv := by
  have hkey : t.lowResQueues.lookup (bufferKey b.requested b.discretization) = some p := by
    rw [← hv, ← hd]
    exact h.key _ _ hc
  have hbuffers : ∀ {q c'}, (t.withoutBuffer p b).buffers.lookup q = some c' →
      q ≠ p ∧ t.buffers.lookup q = some c' := by
    intro q c' hq
    simp only [AbstractDeviceTracker.withoutBuffer, lookup_erase_ite] at hq
    split at hq
    · cases hq
    case isFalse hne => exact ⟨hne, hq⟩
  constructor
  case requested =>
    intro k
    simp only [AbstractDeviceTracker.withoutBuffer, AList.mem_erase, h.requested, false_or]
    constructor
    · rintro ⟨hne, ⟨rfl, -⟩ | hk⟩
      · exact absurd rfl hne
      · exact hk
    · rintro ⟨e, he, rfl⟩
      refine ⟨?_, Or.inr ⟨e, he, rfl⟩⟩
      intro hsame
      obtain ⟨hev, hed⟩ := bufferKey_inj.mp hsame
      exact hunrequested e he (Prod.ext hev hed)
  case buffer =>
    intro k q hq
    simp only [AbstractDeviceTracker.withoutBuffer] at hq ⊢
    by_cases hk : k = bufferKey b.requested b.discretization
    · rw [hk, AList.lookup_erase] at hq
      cases hq
    · rw [AList.lookup_erase_ne hk] at hq
      obtain ⟨c', hc', hsame⟩ := h.buffer _ _ hq
      refine ⟨c', ?_, hsame⟩
      rwa [AList.lookup_erase_ne]
      rintro rfl
      rw [hc] at hc'
      cases hc'
      rw [hv, hd] at hsame
      exact hk hsame.symm
  case own =>
    intro e he
    obtain ⟨it, hit, hlow, hid⟩ := h.own e he
    refine ⟨it, hit, ?_, hid⟩
    simp only [AbstractDeviceTracker.withoutBuffer]
    rwa [AList.lookup_erase_ne]
    intro hsame
    obtain ⟨hev, hed⟩ := bufferKey_inj.mp hsame
    exact hunrequested e he (Prod.ext hev hed)
  case collected =>
    intro q hq
    simp only [AbstractDeviceTracker.withoutBuffer, AList.mem_erase] at hq ⊢
    rw [h.queues_nodup.mem_erase_iff] at hq
    exact ⟨hq.1, h.collected q hq.2⟩
  case key =>
    intro q c' hq
    obtain ⟨hne, hq⟩ := hbuffers hq
    simp only [AbstractDeviceTracker.withoutBuffer]
    have hlow := h.key _ _ hq
    rwa [AList.lookup_erase_ne]
    intro hsame
    rw [hsame, hkey] at hlow
    exact hne (Option.some.inj hlow).symm
  case validity => exact fun q c' hq => h.validity _ _ (hbuffers hq).2
  case related => exact fun q c' hq => h.related _ _ (hbuffers hq).2
  case counted => exact fun q c' hq => h.counted _ _ (hbuffers hq).2
  case nodup => exact h.nodup
  case alive => exact h.alive
  case purged =>
    intro q c' hq
    obtain ⟨hne, hq⟩ := hbuffers hq
    simp only [AbstractDeviceTracker.withoutBuffer]
    rw [h.queues_nodup.mem_erase_iff]
    refine ⟨?_, h.purged _ _ hq⟩
    intro hsame
    exact hne (h.apart _ _ _ _ hq hc (hsame.trans hg.symm))
  case apart => exact fun q q' c₁ c₂ hq hq' => h.apart _ _ _ _ (hbuffers hq).2 (hbuffers hq').2
  case queues_nodup => exact h.queues_nodup.erase _
  case bounded =>
    simp only [AbstractDeviceTracker.withoutBuffer, AList.mem_erase]
    exact ⟨fun q hq => h.bounded.1 q hq.2, h.bounded.2.1, fun q hq => h.bounded.2.2 q hq.2⟩

end AbstractDeviceTracker

end chaos.caching_system.caching_thread
