-- What a tracker deletes. The destructor of a buffer deletes every second of its iterators, a close
-- of the high resolution goes on with the deleted iterator unless it was one of the last two, and
-- the shut down leaves the buffers and every second iterator of the high resolution.
import Chaos.HighResIterators
import Chaos.TrackerBuffers

open linked_heap runs

namespace chaos.caching_system.caching_thread

variable {T : Type}

namespace DeviceTracker

/-! ## What is claimed -/

def Alive (t : DeviceTracker T) (iterator : Nat) : Prop :=
  iterator ∈ t.lowRes.iterators ∨ iterator ∈ t.highResIds

/-- Just the iterator is deleted, and its buffer with the last one. -/
structure ClosesOnce (t : DeviceTracker T) (iterator : Nat) (t' : DeviceTracker T) : Prop where
  ends : t.closeBuffer iterator = some t'
  iterators : ∀ q, t'.Alive q ↔ t.Alive q ∧ q ≠ iterator
  buffers : ∀ a, a ∈ t'.lowRes.buffers ↔ a ∈ t.lowRes.buffers ∧
    ∀ b, t.lowRes.buffers.lookup a = some b → b.relatedIterators ≠ [iterator]

/-- The buffer is deleted, and just its iterators with it. -/
structure DestroysOnce (t : DeviceTracker T) (buffer : Nat) (u : AbstractDeviceTracker T) :
    Prop where
  ends : t.lowRes.deleteBuffer buffer = some u
  iterators : ∀ q, q ∈ u.iterators ↔ q ∈ t.lowRes.iterators ∧
    ∀ b, t.lowRes.buffers.lookup buffer = some b → q ∉ b.relatedIterators
  buffers : ∀ a, a ∈ u.buffers ↔ a ∈ t.lowRes.buffers ∧ a ≠ buffer

/-- No iterator and no buffer is left. -/
structure ShutsDownOnce (t t' : DeviceTracker T) : Prop where
  ends : t.shutDownTracking = some t'
  iterators : ∀ q, ¬ t'.Alive q
  buffers : ∀ a, a ∉ t'.lowRes.buffers

/-- The three ways in which objects are deleted. -/
inductive Release where
  | closeBuffer (iterator : Nat)
  | destructor (buffer : Nat)
  | shutDownTracking

/-- The object is there. -/
def IsThere (t : DeviceTracker T) : Release → Prop
  | .closeBuffer iterator => t.Alive iterator
  | .destructor buffer => buffer ∈ t.lowRes.buffers
  | .shutDownTracking => True

def ReleasesOnce (t : DeviceTracker T) : Release → Prop
  | .closeBuffer iterator => ∃ t', t.ClosesOnce iterator t'
  | .destructor buffer => ∃ u, t.DestroysOnce buffer u
  | .shutDownTracking => ∃ t', t.ShutsDownOnce t'

/-! ## The condition -/

/-- The count of the buffer is 1 just when the iterator is the only one, and then the key that is
made from the buffer is there. -/
def LastOk (t : AbstractDeviceTracker T) (iterator : Nat) (b : BufferTracker T) : Prop :=
  (b.numberOfReader = 1 ↔ b.relatedIterators = [iterator]) ∧
    (b.relatedIterators = [iterator] → b.key ∈ t.lowResQueues)

/-- The iterator is one of the last two in the list of the high resolution. -/
def AtEnd (t : DeviceTracker T) (iterator : Nat) : Prop :=
  ∃ i : Nat, t.highResIterator[i]? = some iterator ∧ t.highResIterator.length ≤ i + 2

def ReleaseOk (t : DeviceTracker T) : Release → Prop
  | .closeBuffer iterator =>
    match t.lowRes.iterators.lookup iterator with
    | some it => ∀ b, t.lowRes.buffers.lookup it.queue = some b → LastOk t.lowRes iterator b
    | none => t.AtEnd iterator
  | .destructor buffer =>
    ∀ b, t.lowRes.buffers.lookup buffer = some b → b.relatedIterators.length ≤ 1
  | .shutDownTracking => t.highResIterator.length ≤ 1 ∧ ∀ a, a ∉ t.lowRes.buffers

/-- The number that the counter gives to the next iterator. A new buffer takes one first. -/
def nextNumber (t : AbstractDeviceTracker T) (validity discretization : UInt64) : UInt32 :=
  if bufferKey validity discretization ∈ t.lowResQueues then t.lastNumber else t.lastNumber + 1

/-- A new iterator does not get the number of one that is there. A close keeps the books of the
buffers, and is that of an iterator at the end of the list for the high resolution. -/
def StepOk (t : DeviceTracker T) : Op → Prop
  | .openMaxResBuffer => ∀ p, t.getId p ≠ some t.lowRes.lastNumber
  | .openBuffer validity discretization _ =>
    ∀ p, t.getId p ≠ some (nextNumber t.lowRes validity discretization)
  | .closeBuffer iterator => t.lowRes.CanClose iterator ∨ t.AtEnd iterator
  | .newIdElsewhere => True

/-! ## The invariant -/

/-- Beside the books of the buffers: the list of the high resolution has its iterators, which are
others than those of the buffers, and no two iterators have one number. -/
structure Kept (t : DeviceTracker T) : Prop where
  inv : t.lowRes.Inv
  nodup : t.highResIterator.Nodup
  alive : ∀ p, p ∈ t.highResIds ↔ p ∈ t.highResIterator
  apart : ∀ p ∈ t.highResIterator, p < t.lowRes.allocated ∧ p ∉ t.lowRes.iterators
  registered : ∀ id ∈ t.lowRes.iteratorIdToBufferTracker,
    ∃ p it, t.lowRes.iterators.lookup p = some it ∧ it.id = id
  numbers : ∀ p q id, t.getId p = some id → t.getId q = some id → p = q

variable {t t' : DeviceTracker T} {p q a : Nat} {it : IteratorReader} {b : BufferTracker T}

theorem getId_low (h : t.lowRes.iterators.lookup p = some it) : t.getId p = some it.id := by
  rw [getId, h]

theorem getId_high (h : p ∉ t.lowRes.iterators) : t.getId p = t.highResIds.lookup p := by
  rw [getId, AList.lookup_eq_none.mpr h]

theorem alive_iff : t.Alive p ↔ ∃ id, t.getId p = some id := by
  unfold Alive
  by_cases hp : p ∈ t.lowRes.iterators
  · obtain ⟨it, hit⟩ := AbstractDeviceTracker.exists_of_mem hp
    exact ⟨fun _ => ⟨it.id, getId_low hit⟩, fun _ => .inl hp⟩
  · rw [getId_high hp, ← Option.isSome_iff_exists, AList.lookup_isSome]
    exact or_iff_right hp

theorem Kept.new (T : Type) (lastNumber : UInt32) (started : Option UInt32) :
    (DeviceTracker.new T lastNumber started).Kept where
  inv := AbstractDeviceTracker.Inv.new T lastNumber started
  nodup := List.nodup_nil
  alive p := ⟨fun h => absurd h (AList.notMem_empty p), fun h => absurd h List.not_mem_nil⟩
  apart p h := absurd h List.not_mem_nil
  registered id h := absurd h (AList.notMem_empty id)
  numbers p q id h := by
    rw [getId_high (AList.notMem_empty p)] at h
    cases h

/-- An iterator of a buffer is alone with its number. -/
theorem Kept.alone (h : t.Kept) (hit : t.lowRes.iterators.lookup p = some it) :
    ∀ e ∈ t.lowRes.opened, t.lowRes.idOf e.1 = some it.id → e.1 = p := by
  intro e _ hid
  obtain ⟨it', hit', heq⟩ := Option.map_eq_some_iff.mp hid
  exact h.numbers e.1 p it.id (heq ▸ getId_low hit') (getId_low hit)

/-- An iterator of the high resolution is not taken for one of a buffer. -/
theorem Kept.unregistered (h : t.Kept) (hp : p ∈ t.highResIterator) {id : UInt32}
    (hid : t.getId p = some id) : t.lowRes.iteratorIdToBufferTracker.lookup id = none := by
  refine AList.lookup_eq_none.mpr fun hmem => ?_
  obtain ⟨q, it, hit, rfl⟩ := h.registered id hmem
  have heq := h.numbers p q it.id hid (getId_low hit)
  exact (h.apart p hp).2 (heq ▸ AbstractDeviceTracker.mem_of_lookup hit)

/-! ## One more iterator -/

theorem Kept.openMaxResBuffer (h : t.Kept) (hnew : ∀ p, t.getId p ≠ some t.lowRes.lastNumber) :
    t.openMaxResBuffer.Kept := by
  have hfresh : ∀ p ∈ t.highResIterator, p ≠ t.lowRes.allocated := fun p hp =>
    Nat.ne_of_lt (h.apart p hp).1
  have hlow : t.lowRes.allocated ∉ t.lowRes.iterators := fun hin =>
    Nat.lt_irrefl _ (h.inv.bounded.2.1 _ hin)
  have hid : ∀ p id, t.openMaxResBuffer.getId p = some id →
      p = t.lowRes.allocated ∧ id = t.lowRes.lastNumber ∨ t.getId p = some id := by
    intro p id hp
    by_cases hin : p ∈ t.lowRes.iterators
    · obtain ⟨it, hit⟩ := AbstractDeviceTracker.exists_of_mem hin
      have hsame : t.openMaxResBuffer.getId p = some it.id := getId_low hit
      rw [getId_low hit]
      exact .inr (hsame.symm.trans hp)
    · rw [getId_high hin]
      rw [getId_high (show p ∉ t.openMaxResBuffer.lowRes.iterators from hin)] at hp
      have hp : (t.highResIds.insert t.lowRes.allocated t.lowRes.lastNumber).lookup p = some id :=
        hp
      rw [lookup_insert_ite] at hp
      split at hp
      · rename_i heq
        exact .inl ⟨heq, (Option.some.inj hp).symm⟩
      · exact .inr hp
  constructor
  · obtain ⟨hb, hi, hg⟩ := h.inv.bounded
    exact ⟨h.inv.requested, h.inv.buffer, h.inv.own, h.inv.collected, h.inv.key, h.inv.validity,
      h.inv.related, h.inv.counted, h.inv.nodup, h.inv.alive, h.inv.purged, h.inv.apart,
      h.inv.queues_nodup, fun p hp => Nat.lt_succ_of_lt (hb p hp),
      fun p hp => Nat.lt_succ_of_lt (hi p hp), fun p hp => Nat.lt_succ_of_lt (hg p hp)⟩
  · refine List.nodup_append.mpr ⟨h.nodup, List.nodup_singleton _, fun p hp q hq => ?_⟩
    rw [List.mem_singleton.mp hq]
    exact hfresh p hp
  · intro p
    have hmem : p ∈ t.openMaxResBuffer.highResIds ↔ p = t.lowRes.allocated ∨ p ∈ t.highResIds :=
      AList.mem_insert _
    rw [hmem, h.alive]
    simp [DeviceTracker.openMaxResBuffer, AbstractDeviceTracker.getNewId, or_comm]
  · intro p hp
    rcases List.mem_append.mp hp with hp | hp
    · exact ⟨Nat.lt_succ_of_lt (h.apart p hp).1, (h.apart p hp).2⟩
    · rw [List.mem_singleton.mp hp]
      exact ⟨Nat.lt_succ_self _, hlow⟩
  · exact h.registered
  · intro p q id hp hq
    rcases hid p id hp with ⟨rfl, rfl⟩ | hp
    · exact (hid q _ hq).elim (fun h => h.1.symm) fun hq => absurd hq (hnew q)
    · rcases hid q id hq with ⟨-, rfl⟩ | hq
      · exact absurd hp (hnew p)
      · exact h.numbers p q id hp hq

/-- What `openBuffer` does to the iterators. -/
theorem openBuffer_effect {t : AbstractDeviceTracker T} (h : t.Inv) {v d : UInt64} (f : UInt32)
    (hcan : t.CanOpen v d) : ∃ u p queue, t.openBuffer v d f = some u ∧ u.Inv ∧
      u.iterators = t.iterators.insert p { id := nextNumber t v d, queue := queue } ∧
      u.iteratorIdToBufferTracker = t.iteratorIdToBufferTracker.insert (nextNumber t v d) queue ∧
      t.allocated ≤ p ∧ p < u.allocated := by
  obtain ⟨u, hu, hinv⟩ := AbstractDeviceTracker.openBuffer_inv h f hcan
  cases hkey : t.lowResQueues.lookup (bufferKey v d) with
  | some a =>
    obtain ⟨b, hb, -⟩ := h.buffer _ _ hkey
    have hnext : nextNumber t v d = t.lastNumber :=
      if_pos (AbstractDeviceTracker.mem_of_lookup hkey)
    have heq := AbstractDeviceTracker.openBuffer_known (f := f) hkey hb
    cases hu.symm.trans heq
    rw [hnext]
    exact ⟨_, t.allocated, a, hu, hinv, rfl, rfl, Nat.le_refl _, Nat.lt_succ_self _⟩
  | none =>
    have hnext : nextNumber t v d = t.lastNumber + 1 := if_neg (AList.lookup_eq_none.mp hkey)
    obtain ⟨queue, -, heq⟩ := AbstractDeviceTracker.openBuffer_new (f := f) hkey
    cases hu.symm.trans heq
    rw [hnext]
    exact ⟨_, t.allocated + 2, t.allocated, hu, hinv, rfl, rfl, Nat.le_add_right _ _,
      Nat.lt_succ_self _⟩

theorem Kept.openBuffer (h : t.Kept) {v d : UInt64} (f : UInt32)
    (hnew : ∀ p, t.getId p ≠ some (nextNumber t.lowRes v d)) :
    ∃ t', t.openBuffer v d f = some t' ∧ t'.Kept := by
  have hcan : t.lowRes.CanOpen v d := by
    intro e _ hid
    obtain ⟨it, hit, heq⟩ := Option.map_eq_some_iff.mp hid
    exact absurd ((getId_low hit).trans (congrArg some heq)) (hnew e.1)
  obtain ⟨u, p, queue, hu, hinv, hits, hids, hle, hlt⟩ := openBuffer_effect h.inv f hcan
  refine ⟨{ t with lowRes := u }, by rw [DeviceTracker.openBuffer, hu]; rfl, ?_⟩
  have hne : ∀ q ∈ t.highResIterator, q ≠ p := fun q hq =>
    Nat.ne_of_lt (Nat.lt_of_lt_of_le (h.apart q hq).1 hle)
  have hid : ∀ q id, DeviceTracker.getId { t with lowRes := u } q = some id →
      q = p ∧ id = nextNumber t.lowRes v d ∨ t.getId q = some id := by
    intro q id hq
    by_cases hqp : q = p
    · subst hqp
      have hlook : u.iterators.lookup q = some { id := nextNumber t.lowRes v d, queue := queue } := by
        rw [hits]
        exact AList.lookup_insert _
      rw [getId_low (t := { t with lowRes := u }) hlook] at hq
      exact .inl ⟨rfl, (Option.some.inj hq).symm⟩
    · right
      rw [← hq, DeviceTracker.getId, DeviceTracker.getId, hits, AList.lookup_insert_ne hqp]
  constructor
  · exact hinv
  · exact h.nodup
  · exact h.alive
  · intro q hq
    refine ⟨Nat.lt_trans (Nat.lt_of_lt_of_le (h.apart q hq).1 hle) hlt, ?_⟩
    dsimp only
    rw [hits, AList.mem_insert, not_or]
    exact ⟨hne q hq, (h.apart q hq).2⟩
  · intro id hmem
    dsimp only at hmem ⊢
    rw [hids, AList.mem_insert] at hmem
    rw [hits]
    rcases hmem with rfl | hmem
    · exact ⟨p, _, AList.lookup_insert _, rfl⟩
    · obtain ⟨q, it, hit, heq⟩ := h.registered id hmem
      have hqp : q ≠ p := Nat.ne_of_lt (Nat.lt_of_lt_of_le
        (h.inv.bounded.2.1 q (AbstractDeviceTracker.mem_of_lookup hit)) hle)
      exact ⟨q, it, by rw [AList.lookup_insert_ne hqp, hit], heq⟩
  · intro q r id hq hr
    rcases hid q id hq with ⟨rfl, rfl⟩ | hq
    · exact (hid r _ hr).elim (fun h => h.1.symm) fun hr => absurd hr (hnew r)
    · rcases hid r id hr with ⟨-, rfl⟩ | hr
      · exact absurd hq (hnew q)
      · exact h.numbers q r id hq hr

/-! ## A close of the high resolution -/

/-- One iterator of the high resolution less. -/
def withoutHigh (t : DeviceTracker T) (i iterator : Nat) : DeviceTracker T where
  lowRes := { t.lowRes with iterators := t.lowRes.iterators.erase iterator }
  highResIterator := t.highResIterator.eraseIdx i
  highResIds := t.highResIds.erase iterator

theorem erase_of_not_mem {ν : Type} {h : Heap ν} (hp : p ∉ h) : h.erase p = h :=
  AList.ext (List.kerase_of_notMem_keys hp)

theorem Kept.lowRes_withoutHigh (h : t.Kept) (hp : p ∈ t.highResIterator) (i : Nat) :
    (t.withoutHigh i p).lowRes = t.lowRes := by
  rw [withoutHigh, erase_of_not_mem (h.apart p hp).2]

theorem Kept.getId_high_some (h : t.Kept) (hp : p ∈ t.highResIterator) :
    ∃ id, t.getId p = some id := alive_iff.mp (.inr ((h.alive p).mpr hp))

/-- The turns before the iterator is found change nothing. -/
theorem Kept.closeLoop_before (h : t.Kept) {k : Nat} (hk : t.highResIterator[k]? = some p)
    (n i : Nat) (hi : i + n = k) (fuel : Nat) :
    closeLoop p (fuel + n) i t = closeLoop p fuel k t := by
  induction n generalizing i with
  | zero => rw [← hi, Nat.add_zero, Nat.add_zero]
  | succ n ih =>
    have hlt : i < t.highResIterator.length := by
      have := (List.getElem?_eq_some_iff.mp hk).1
      omega
    obtain ⟨id, hid⟩ := h.getId_high_some (List.mem_of_getElem? hk)
    obtain ⟨other, hother⟩ := h.getId_high_some (List.getElem_mem hlt)
    have hne : id ≠ other := by
      rintro rfl
      have hsame := h.numbers _ _ id hid hother
      obtain ⟨hlt', rfl⟩ := List.getElem?_eq_some_iff.mp hk
      have := h.nodup.getElem_inj_iff.mp hsame
      omega
    rw [← Nat.add_assoc, closeLoop, List.getElem?_eq_getElem hlt]
    simp only [hid, hother, Option.bind_eq_bind, Option.bind_some, if_neg hne]
    exact ih (i + 1) (by omega)

/-- The iterator is deleted, and the loop goes on unless its end is reached. -/
theorem Kept.closeLoop (h : t.Kept) {k : Nat} (hk : t.highResIterator[k]? = some p) :
    closeLoop p t.highResIterator.length 0 t =
      if t.highResIterator.length ≤ k + 2 then some (t.withoutHigh k p) else none := by
  have hlt := (List.getElem?_eq_some_iff.mp hk).1
  obtain ⟨m, hm⟩ : ∃ m, t.highResIterator.length = m + 1 + k :=
    ⟨t.highResIterator.length - k - 1, by omega⟩
  obtain ⟨id, hid⟩ := h.getId_high_some (List.mem_of_getElem? hk)
  rw [hm, h.closeLoop_before hk k 0 (Nat.zero_add k), DeviceTracker.closeLoop, hk]
  simp only [hid, Option.bind_eq_bind, Option.bind_some, if_true]
  change DeviceTracker.closeLoop p m (k + 1) (t.withoutHigh k p) = _
  have hlength : (t.withoutHigh k p).highResIterator.length = m + k := by
    rw [withoutHigh, List.length_eraseIdx_of_lt hlt, hm]
    omega
  cases m with
  | zero => rw [if_pos (by omega), DeviceTracker.closeLoop]
  | succ m =>
    rw [DeviceTracker.closeLoop]
    cases m with
    | zero => rw [if_pos (by omega), List.getElem?_eq_none (by omega)]
    | succ m =>
      have hgone : (t.withoutHigh k p).getId p = none := by
        rw [getId_high (by simp [withoutHigh, AList.mem_erase])]
        exact AList.lookup_erase _ _
      rw [if_neg (by omega), List.getElem?_eq_getElem (by omega)]
      dsimp only
      rw [hgone]
      rfl

theorem Kept.opened_filter (h : t.Kept) (hp : p ∈ t.highResIterator) :
    (t.lowRes.opened.filter fun e => e.1 ≠ p) = t.lowRes.opened := by
  refine List.filter_eq_self.mpr fun e he => decide_eq_true fun heq => ?_
  exact (h.apart p hp).2 ((h.inv.alive p).mpr (heq ▸ List.mem_map_of_mem he))

theorem Kept.closeBuffer_high (h : t.Kept) {k : Nat} (hk : t.highResIterator[k]? = some p) :
    t.closeBuffer p =
      if t.highResIterator.length ≤ k + 2 then some (t.withoutHigh k p) else none := by
  have hp := List.mem_of_getElem? hk
  obtain ⟨id, hid⟩ := h.getId_high_some hp
  rw [DeviceTracker.closeBuffer, hid]
  simp only [Option.bind_eq_bind, Option.bind_some, h.unregistered hp hid, h.opened_filter hp]
  exact h.closeLoop hk

theorem mem_withoutHigh (h : t.Kept) {k : Nat} (hk : t.highResIterator[k]? = some p) :
    q ∈ (t.withoutHigh k p).highResIterator ↔ q ≠ p ∧ q ∈ t.highResIterator := by
  obtain ⟨hlt, rfl⟩ := List.getElem?_eq_some_iff.mp hk
  rw [withoutHigh, ← h.nodup.erase_getElem k hlt, h.nodup.mem_erase_iff]

theorem Kept.withoutHigh (h : t.Kept) {k : Nat} (hk : t.highResIterator[k]? = some p) :
    (t.withoutHigh k p).Kept := by
  have hp := List.mem_of_getElem? hk
  have hlow := h.lowRes_withoutHigh hp k
  have hid : ∀ q id, (t.withoutHigh k p).getId q = some id → t.getId q = some id := by
    intro q id hq
    rw [DeviceTracker.getId, hlow] at hq
    rw [DeviceTracker.getId]
    split
    · rename_i it hit
      rw [hit] at hq
      exact hq
    · rename_i hnone
      rw [hnone] at hq
      have hq : (t.highResIds.erase p).lookup q = some id := hq
      rw [lookup_erase_ite] at hq
      split at hq
      · cases hq
      · exact hq
  constructor
  · rw [hlow]
    exact h.inv
  · exact h.nodup.sublist (List.eraseIdx_sublist _ _)
  · intro q
    rw [mem_withoutHigh h hk, ← h.alive]
    exact AList.mem_erase
  · intro q hq
    rw [hlow]
    exact h.apart q ((mem_withoutHigh h hk).mp hq).2
  · rw [hlow]
    exact h.registered
  · exact fun q r id hq hr => h.numbers q r id (hid q id hq) (hid r id hr)

theorem Kept.alive_withoutHigh (h : t.Kept) {k : Nat} (hk : t.highResIterator[k]? = some p) :
    (t.withoutHigh k p).Alive q ↔ t.Alive q ∧ q ≠ p := by
  have hp := List.mem_of_getElem? hk
  have hnot : q ∈ t.lowRes.iterators → q ≠ p := fun hq heq => (h.apart p hp).2 (heq ▸ hq)
  rw [Alive, Alive, h.lowRes_withoutHigh hp, (h.withoutHigh hk).alive, mem_withoutHigh h hk,
    ← h.alive, or_and_right]
  exact or_congr (iff_self_and.mpr hnot) and_comm

/-- A close of the high resolution is right just when the iterator is one of the last two. -/
theorem Kept.closesOnce_high (h : t.Kept) (hp : p ∈ t.highResIterator) :
    (∃ t', t.ClosesOnce p t') ↔ t.AtEnd p := by
  obtain ⟨k, hk⟩ := List.mem_iff_getElem?.mp hp
  have hclose := h.closeBuffer_high hk
  constructor
  · rintro ⟨t', hends, -, -⟩
    refine ⟨k, hk, not_lt.mp fun hlt => ?_⟩
    rw [hclose, if_neg (Nat.not_le.mpr hlt)] at hends
    cases hends
  · rintro ⟨i, hi, hle⟩
    obtain ⟨hlt, rfl⟩ := List.getElem?_eq_some_iff.mp hi
    obtain ⟨hlt', heq⟩ := List.getElem?_eq_some_iff.mp hk
    cases h.nodup.getElem_inj_iff.mp heq
    rw [if_pos hle] at hclose
    refine ⟨_, hclose, fun q => h.alive_withoutHigh hk, fun a => ?_⟩
    rw [h.lowRes_withoutHigh hp]
    refine iff_self_and.mpr fun _ b hb hrel => (h.apart _ hp).2 ?_
    have hopen := h.inv.related a b hb
    rw [hrel] at hopen
    have hin := AbstractDeviceTracker.mem_openedFor.mp (hopen ▸ List.mem_singleton_self _)
    exact (h.inv.alive _).mpr (AbstractDeviceTracker.mem_map_opened.mpr ⟨_, _, hin⟩)

/-! ## A close of a buffer -/

/-- The buffer that has an iterator is the one that it reads. -/
theorem queue_of_related {t : AbstractDeviceTracker T} (h : t.Inv)
    (hit : t.iterators.lookup p = some it) (hb : t.buffers.lookup a = some b)
    (hp : p ∈ b.relatedIterators) : it.queue = a := by
  rw [h.related a b hb] at hp
  obtain ⟨it', b', hit', hb', hv, hd, -⟩ := h.iterator (AbstractDeviceTracker.mem_openedFor.mp hp)
  cases hit.symm.trans hit'
  have hkey := h.key _ b' hb'
  rw [hv, hd, h.key a b hb] at hkey
  exact (Option.some.inj hkey).symm

/-- An iterator of a buffer and its place in the books. -/
theorem place_of_iterator {t : AbstractDeviceTracker T} (h : t.Inv)
    (hit : t.iterators.lookup p = some it) :
    ∃ b, p ∈ t.opened.map Prod.fst ∧ t.buffers.lookup it.queue = some b ∧
      p ∈ b.relatedIterators ∧ t.iteratorIdToBufferTracker.lookup it.id = some it.queue := by
  have hp := (h.alive p).mp (AbstractDeviceTracker.mem_of_lookup hit)
  obtain ⟨v, d, hopen⟩ := AbstractDeviceTracker.mem_map_opened.mp hp
  obtain ⟨it', b, hit', hb, rfl, rfl, hid⟩ := h.iterator hopen
  cases hit.symm.trans hit'
  exact ⟨b, hp, hb, h.related _ b hb ▸ AbstractDeviceTracker.mem_openedFor.mpr hopen, hid⟩

theorem Kept.closeBuffer_low (h : t.Kept) (hit : t.lowRes.iterators.lookup p = some it) :
    t.closeBuffer p = (t.lowRes.closeBuffer p).map fun lowRes =>
      { t with lowRes := lowRes, highResIds := t.highResIds.erase p } := by
  obtain ⟨b, -, -, -, hid⟩ := place_of_iterator h.inv hit
  rw [DeviceTracker.closeBuffer, getId_low hit]
  simp only [Option.bind_eq_bind, Option.bind_some, hid,
    if_pos (AbstractDeviceTracker.mem_of_lookup hit), Option.pure_def, Option.map_eq_bind]
  rfl

/-- The close of the only iterator with a count of 1 deletes both, unless the entry of the key is
not there. -/
theorem closeBuffer_only {t : AbstractDeviceTracker T} (h : t.Inv)
    (hit : t.iterators.lookup p = some it)
    (hid : t.iteratorIdToBufferTracker.lookup it.id = some it.queue)
    (hb : t.buffers.lookup it.queue = some b)
    (halone : ∀ e ∈ t.opened, t.idOf e.1 = some it.id → e.1 = p)
    (honly : b.relatedIterators = [p]) (hcount : b.numberOfReader - 1 = 0) :
    ∃ u, t.closeBuffer p = (if b.key ∈ t.lowResQueues then some u else none) ∧
      u.iterators = t.iterators.erase p ∧ ∀ a, a ∈ u.buffers ↔ a ∈ t.buffers ∧ a ≠ it.queue := by
  have hqueues := AbstractDeviceTracker.removeQueueToGarbage_eq
    (h.collected _ (h.purged _ _ hb)) h.collected
  have hrelated := AbstractDeviceTracker.eraseRelated_related h hit hb halone
  simp only [honly, ne_eq, decide_not, List.filter_cons, decide_true, Bool.not_true,
    Bool.false_eq_true, if_false, List.filter_nil] at hrelated
  simp only [AbstractDeviceTracker.closeBuffer, hit, hid, hb, AbstractDeviceTracker.deleteIterator,
    honly, hrelated, hcount, hqueues, AbstractDeviceTracker.deleteBuffer,
    AbstractDeviceTracker.deleteRelated, AList.lookup_insert, Option.bind_eq_bind,
    Option.bind_some, Option.pure_def, if_true, List.length_nil]
  refine ⟨_, rfl, rfl, fun a => ?_⟩
  have hin := AbstractDeviceTracker.mem_of_lookup hb
  simp only [AList.mem_erase, AList.mem_insert]
  constructor
  · rintro ⟨hne, rfl | ha⟩
    · exact ⟨hin, hne⟩
    · exact ⟨ha, hne⟩
  · rintro ⟨ha, hne⟩
    exact ⟨hne, .inr ha⟩

theorem uint32_sub_one_eq_zero {n : UInt32} : n - 1 = 0 ↔ n = 1 := by
  constructor
  · intro h
    have hone := congrArg (· + 1) h
    simpa using hone
  · rintro rfl
    rfl

/-- The close of an iterator of a buffer is right just when the count and the list agree on the
last one, and the key is there. -/
theorem Kept.closesOnce_low (h : t.Kept) (hit : t.lowRes.iterators.lookup p = some it) :
    (∃ t', t.ClosesOnce p t') ↔
      ∀ b, t.lowRes.buffers.lookup it.queue = some b → LastOk t.lowRes p b := by
  obtain ⟨b, -, hb, hrel, hid⟩ := place_of_iterator h.inv hit
  have hclose := h.closeBuffer_low hit
  have hhigh : p ∉ t.highResIds := fun hp =>
    (h.apart p ((h.alive p).mp hp)).2 (AbstractDeviceTracker.mem_of_lookup hit)
  have halive : ∀ {u : AbstractDeviceTracker T}, u.iterators = t.lowRes.iterators.erase p → ∀ q,
      Alive { t with lowRes := u, highResIds := t.highResIds.erase p } q ↔ t.Alive q ∧ q ≠ p := by
    intro u hu q
    simp only [Alive, hu, AList.mem_erase]
    tauto
  have hrest : ∀ a c, t.lowRes.buffers.lookup a = some c → a ≠ it.queue →
      c.relatedIterators ≠ [p] := fun a c hc hne hcp =>
    hne (queue_of_related h.inv hit hc (hcp ▸ List.mem_singleton_self p)).symm
  have hmem := AbstractDeviceTracker.mem_of_lookup hb
  have hall : (∀ b, t.lowRes.buffers.lookup it.queue = some b → LastOk t.lowRes p b) ↔
      LastOk t.lowRes p b := by
    refine ⟨fun hall => hall b hb, fun hok c hc => ?_⟩
    cases hb.symm.trans hc
    exact hok
  rw [hall, LastOk, ← uint32_sub_one_eq_zero]
  by_cases hcount : b.numberOfReader - 1 = 0
  · by_cases honly : b.relatedIterators = [p]
    · obtain ⟨u, hu, hits, hbufs⟩ := closeBuffer_only h.inv hit hid hb (h.alone hit) honly hcount
      rw [hu] at hclose
      simp only [hcount, honly, true_and, forall_const]
      by_cases hkey : b.key ∈ t.lowRes.lowResQueues
      · rw [if_pos hkey, Option.map_some] at hclose
        refine ⟨fun _ => hkey, fun _ => ⟨_, hclose, halive hits, fun a => ?_⟩⟩
        dsimp only
        rw [hbufs]
        refine and_congr_right fun ha => ⟨fun hne c hc => hrest a c hc hne, ?_⟩
        rintro hall rfl
        exact hall b hb honly
      · rw [if_neg hkey, Option.map_none] at hclose
        refine ⟨?_, fun hin => absurd hin hkey⟩
        rintro ⟨t', hends, -⟩
        rw [hclose] at hends
        cases hends
    · simp only [hcount, honly, iff_false, not_true_eq_false, false_and]
      rintro ⟨t', hends, -, hbufs⟩
      rw [hclose] at hends
      obtain ⟨u, hu, rfl⟩ := Option.map_eq_some_iff.mp hends
      have hgone := ((AbstractDeviceTracker.closeBuffer_closed hit hid hb hu).deleted hcount).1
      refine AList.lookup_eq_none.mp hgone ((hbufs it.queue).mpr ⟨hmem, fun c hc => ?_⟩)
      cases hb.symm.trans hc
      exact honly
  · rw [AbstractDeviceTracker.closeBuffer_kept h.inv hit hid hb (h.alone hit) hcount,
      Option.map_some] at hclose
    have hbufs : ∀ a, a ∈ (t.lowRes.withoutIterator p it b).buffers ↔ a ∈ t.lowRes.buffers := by
      intro a
      refine AList.mem_insert _ |>.trans (or_iff_right_of_imp ?_)
      rintro rfl
      exact hmem
    by_cases honly : b.relatedIterators = [p]
    · simp only [hcount, honly, false_iff, not_true_eq_false, false_and, iff_false]
      rintro ⟨t', hends, -, hall⟩
      rw [hclose] at hends
      cases hends
      exact ((hall it.queue).mp ((hbufs it.queue).mpr hmem)).2 b hb honly
    · simp only [hcount, honly, false_implies, and_self, iff_true]
      refine ⟨_, hclose, halive rfl, fun a => ?_⟩
      dsimp only
      rw [hbufs]
      refine iff_self_and.mpr fun _ c hc => ?_
      by_cases ha : a = it.queue
      · subst ha
        cases hb.symm.trans hc
        exact honly
      · exact hrest a c hc ha

/-! ## The destructor of a buffer -/

/-- The iterators of a buffer are there, each with a number of its own. -/
structure RelatedOk (u : AbstractDeviceTracker T) (l : List Nat) : Prop where
  nodup : l.Nodup
  alive : ∀ p ∈ l, p ∈ u.iterators
  numbers : ∀ p it q it', u.iterators.lookup p = some it → u.iterators.lookup q = some it' →
    it.id = it'.id → p = q

theorem Kept.relatedOk (h : t.Kept) (hb : t.lowRes.buffers.lookup a = some b) :
    RelatedOk t.lowRes b.relatedIterators where
  nodup := h.inv.related a b hb ▸ h.inv.openedFor_nodup _ _
  alive p hp := by
    rw [h.inv.related a b hb] at hp
    exact (h.inv.alive p).mpr (AbstractDeviceTracker.mem_map_opened.mpr
      ⟨_, _, AbstractDeviceTracker.mem_openedFor.mp hp⟩)
  numbers p it q it' hp hq heq := h.numbers p q it.id (getId_low hp) (heq ▸ getId_low hq)

/-- `deleteIterator` takes the iterator from the list of its buffer. -/
theorem deleteIterator_of_related {u : AbstractDeviceTracker T}
    (hb : u.buffers.lookup a = some b) (hl : RelatedOk u b.relatedIterators)
    (hp : p ∈ b.relatedIterators) : ∃ v c, u.deleteIterator a p = some v ∧
      v.iterators = u.iterators.erase p ∧ v.buffers.lookup a = some c ∧
      c.relatedIterators = b.relatedIterators.filter (fun q => q ≠ p) ∧
      RelatedOk v c.relatedIterators ∧ ∀ q, q ∈ v.buffers ↔ q ∈ u.buffers := by
  obtain ⟨it, hit⟩ := AbstractDeviceTracker.exists_of_mem (hl.alive p hp)
  have hrel : AbstractDeviceTracker.eraseRelated u.iterators it.id b.relatedIterators =
      some (b.relatedIterators.filter fun q => q ≠ p) := by
    refine AbstractDeviceTracker.eraseRelated_eq (fun q hq => ?_) hl.nodup
    obtain ⟨it', hit'⟩ := AbstractDeviceTracker.exists_of_mem (hl.alive q hq)
    refine ⟨it', hit', fun heq => hl.numbers q it' p it hit' hit heq.symm, ?_⟩
    rintro rfl
    rw [Option.some.inj (hit.symm.trans hit')]
  simp only [AbstractDeviceTracker.deleteIterator, hb, hit, hrel, Option.bind_eq_bind,
    Option.bind_some, Option.pure_def]
  refine ⟨_, _, rfl, rfl, AList.lookup_insert _, rfl, ?_, fun q => ?_⟩
  · refine ⟨hl.nodup.filter _, fun q hq => ?_, fun q it q' it' hq hq' => ?_⟩
    · obtain ⟨hq, hne⟩ := List.mem_filter.mp hq
      exact AList.mem_erase.mpr ⟨of_decide_eq_true hne, hl.alive q hq⟩
    · exact hl.numbers q it q' it' (AbstractDeviceTracker.lookup_of_lookup_erase hq)
        (AbstractDeviceTracker.lookup_of_lookup_erase hq')
  · refine (AList.mem_insert _).trans (or_iff_right_of_imp ?_)
    rintro rfl
    exact AbstractDeviceTracker.mem_of_lookup hb

/-- The loop of the destructor leaves the iterator at the front of the list once its index is past
it. -/
theorem deleteRelated_front {u v : AbstractDeviceTracker T} {fuel i : Nat} (hi : 0 < i)
    (hb : u.buffers.lookup a = some b) (hl : RelatedOk u b.relatedIterators)
    (hq : b.relatedIterators[0]? = some q)
    (hv : AbstractDeviceTracker.deleteRelated a fuel i u = some v) : q ∈ v.iterators := by
  have halive := hl.alive q (List.mem_of_getElem? hq)
  induction fuel generalizing i u b with
  | zero =>
    cases hv
    exact halive
  | succ fuel ih =>
    rw [AbstractDeviceTracker.deleteRelated] at hv
    simp only [hb, Option.bind_eq_bind, Option.bind_some] at hv
    cases hp : b.relatedIterators[i]? with
    | none =>
      rw [hp] at hv
      cases hv
      exact halive
    | some p =>
      obtain ⟨w, c, hw, hits, hc, hrel, hlw, -⟩ :=
        deleteIterator_of_related hb hl (List.mem_of_getElem? hp)
      simp only [hp, hw, Option.bind_some] at hv
      have hne : q ≠ p := by
        rintro rfl
        obtain ⟨h0, hq⟩ := List.getElem?_eq_some_iff.mp hq
        obtain ⟨hlt, hp⟩ := List.getElem?_eq_some_iff.mp hp
        have := hl.nodup.getElem_inj_iff.mp (hq.trans hp.symm)
        omega
      have hfront : c.relatedIterators[0]? = some q := by
        rw [hrel]
        cases hlist : b.relatedIterators with
        | nil =>
          rw [hlist] at hq
          cases hq
        | cons r rest =>
          rw [hlist] at hq
          cases hq
          rw [List.filter_cons_of_pos (by simpa using hne)]
          rfl
      exact ih (Nat.succ_pos i) hc hlw hfront hv (hits ▸ AList.mem_erase.mpr ⟨hne, halive⟩)

/-- What follows the loop of the destructor. -/
theorem deleteBuffer_of_deleteRelated {t u : AbstractDeviceTracker T}
    (hb : t.buffers.lookup a = some b)
    (hu : AbstractDeviceTracker.deleteRelated a b.relatedIterators.length 0 t = some u) :
    ∃ v, t.deleteBuffer a = some v ∧ v.iterators = u.iterators ∧ v.buffers = u.buffers.erase a := by
  simp only [AbstractDeviceTracker.deleteBuffer, hb, hu, Option.bind_eq_bind, Option.bind_some,
    Option.pure_def]
  exact ⟨_, rfl, rfl, rfl⟩

/-- The destructor is right just when the buffer has at most one iterator. -/
theorem Kept.destroysOnce_iff (h : t.Kept) (hb : t.lowRes.buffers.lookup a = some b) :
    (∃ u, t.DestroysOnce a u) ↔ b.relatedIterators.length ≤ 1 := by
  have hl := h.relatedOk hb
  have hits : ∀ {u : AbstractDeviceTracker T} {q}, (q ∈ u.iterators ∧ ∀ c,
      t.lowRes.buffers.lookup a = some c → q ∉ c.relatedIterators) ↔
        q ∈ u.iterators ∧ q ∉ b.relatedIterators := by
    refine fun {u q} => and_congr_right fun _ => ⟨fun hall => hall b hb, fun hq c hc => ?_⟩
    cases hb.symm.trans hc
    exact hq
  have hbufs : ∀ {m : Heap (BufferTracker T)}, (∀ q, q ∈ m ↔ q ∈ t.lowRes.buffers) → ∀ q,
      q ∈ m.erase a ↔ q ∈ t.lowRes.buffers ∧ q ≠ a := by
    intro m hm q
    rw [AList.mem_erase, hm, and_comm]
  match hlist : b.relatedIterators with
  | [] =>
    have hloop : AbstractDeviceTracker.deleteRelated a b.relatedIterators.length 0 t.lowRes =
        some t.lowRes := by
      rw [hlist]
      rfl
    obtain ⟨v, hv, hiter, hbuf⟩ := deleteBuffer_of_deleteRelated hb hloop
    refine iff_of_true ⟨v, hv, fun q => ?_, ?_⟩ (Nat.zero_le 1)
    · rw [hits, hlist, hiter]
      simp
    · rw [hbuf]
      exact hbufs fun _ => Iff.rfl
  | [p] =>
    obtain ⟨u, c, hu, hiter, -, -, -, hin⟩ :=
      deleteIterator_of_related hb hl (hlist ▸ List.mem_singleton_self p)
    have hloop : AbstractDeviceTracker.deleteRelated a b.relatedIterators.length 0 t.lowRes =
        some u := by
      simp only [hlist, List.length_singleton, AbstractDeviceTracker.deleteRelated, hb, hu,
        Option.bind_eq_bind, Option.bind_some, List.getElem?_cons_zero]
    obtain ⟨v, hv, hiter', hbuf⟩ := deleteBuffer_of_deleteRelated hb hloop
    refine iff_of_true ⟨v, hv, fun q => ?_, ?_⟩ (Nat.le_refl 1)
    · rw [hits, hlist, List.mem_singleton, hiter', hiter, AList.mem_erase, and_comm]
    · rw [hbuf]
      exact hbufs hin
  | p :: q :: rest =>
    refine iff_of_false ?_ (by simp)
    rintro ⟨v, hends, hiter, -⟩
    obtain ⟨u, c, hu, -, hc, hrel, hlu, -⟩ :=
      deleteIterator_of_related hb hl (hlist ▸ List.mem_cons_self)
    have hnodup := hl.nodup
    rw [hlist] at hrel hnodup
    obtain ⟨hp, -⟩ := List.nodup_cons.mp hnodup
    have hne : q ≠ p := fun heq => hp (heq ▸ List.mem_cons_self)
    have hfront : c.relatedIterators[0]? = some q := by
      rw [hrel, List.filter_cons_of_neg (by simp), List.filter_cons_of_pos (by simpa using hne)]
      rfl
    have hturn : AbstractDeviceTracker.deleteRelated a b.relatedIterators.length 0 t.lowRes =
        AbstractDeviceTracker.deleteRelated a (rest.length + 1) 1 u := by
      rw [hlist, List.length_cons, List.length_cons, AbstractDeviceTracker.deleteRelated]
      simp only [hb, hlist, hu, Option.bind_eq_bind, Option.bind_some, List.getElem?_cons_zero]
    simp only [AbstractDeviceTracker.deleteBuffer, hb, hturn, Option.bind_eq_bind,
      Option.bind_some, Option.pure_def, Option.bind_eq_some_iff] at hends
    obtain ⟨w, hw, hv⟩ := hends
    cases hv
    have hstays := deleteRelated_front Nat.one_pos hc hlu hfront hw
    refine ((hiter q).mp hstays).2 b hb ?_
    rw [hlist]
    exact List.mem_cons_of_mem p List.mem_cons_self

/-! ## The shut down -/

/-- A close that is right for an iterator of a buffer keeps the books. -/
theorem closeBuffer_effect {t : AbstractDeviceTracker T} (h : t.Inv) (hcan : t.CanClose p) :
    ∃ u it, t.iterators.lookup p = some it ∧ t.closeBuffer p = some u ∧ u.Inv ∧
      u.iterators = t.iterators.erase p ∧ u.allocated = t.allocated ∧
      u.iteratorIdToBufferTracker = t.iteratorIdToBufferTracker.erase it.id := by
  obtain ⟨u, hu, hinv⟩ := AbstractDeviceTracker.closeBuffer_inv h hcan
  obtain ⟨it, b, -, hit, hb, halone, hcount⟩ := hcan
  obtain ⟨c, -, hc, hrel, hid⟩ := place_of_iterator h hit
  cases hb.symm.trans hc
  refine ⟨u, it, hit, hu, hinv, ?_⟩
  dsimp only at hcount
  rw [← h.related _ b hb] at hcount
  by_cases honly : b.relatedIterators = [p]
  · rw [if_pos honly] at hcount
    cases hu.symm.trans (AbstractDeviceTracker.closeBuffer_last h hit hid hb halone honly hcount)
    exact ⟨rfl, rfl, rfl⟩
  · rw [if_neg honly] at hcount
    have hmore : b.numberOfReader - 1 ≠ 0 := by
      rw [h.counted _ b hb, ne_eq, uint32_sub_one_eq_zero]
      exact hcount
    cases hu.symm.trans (AbstractDeviceTracker.closeBuffer_kept h hit hid hb halone hmore)
    exact ⟨rfl, rfl, rfl⟩

theorem Kept.closeBuffer (h : t.Kept) (hcan : t.lowRes.CanClose p) :
    ∃ t', t.closeBuffer p = some t' ∧ t'.Kept := by
  obtain ⟨u, it, hit, hu, hinv, hits, halloc, hids⟩ := closeBuffer_effect h.inv hcan
  have hhigh : p ∉ t.highResIds := fun hp =>
    (h.apart p ((h.alive p).mp hp)).2 (AbstractDeviceTracker.mem_of_lookup hit)
  have hid : ∀ q id, DeviceTracker.getId { t with lowRes := u } q = some id →
      t.getId q = some id := by
    intro q id hq
    by_cases hqp : q = p
    · subst hqp
      have hnone : q ∉ u.iterators := by
        rw [hits, AList.mem_erase]
        exact fun hin => hin.1 rfl
      rw [getId_high (t := { t with lowRes := u }) hnone, AList.lookup_eq_none.mpr hhigh] at hq
      cases hq
    · rw [← hq, DeviceTracker.getId, DeviceTracker.getId, hits, AList.lookup_erase_ne hqp]
  refine ⟨{ t with lowRes := u }, ?_, hinv, h.nodup, h.alive, fun q hq => ?_, fun id hin => ?_,
    fun q r id hq hr => h.numbers q r id (hid q id hq) (hid r id hr)⟩
  · rw [h.closeBuffer_low hit, hu, Option.map_some, erase_of_not_mem hhigh]
  · obtain ⟨hlt, hnot⟩ := h.apart q hq
    refine ⟨halloc ▸ hlt, ?_⟩
    dsimp only
    rw [hits, AList.mem_erase]
    exact fun hin => hnot hin.2
  · dsimp only at hin ⊢
    rw [hids, AList.mem_erase] at hin
    obtain ⟨q, it', hit', heq⟩ := h.registered id hin.2
    have hqp : q ≠ p := by
      rintro rfl
      cases hit.symm.trans hit'
      exact hin.1 heq.symm
    exact ⟨q, it', by rw [hits, AList.lookup_erase_ne hqp, hit'], heq⟩

/-- Without buffers there are no iterators of buffers. -/
theorem Kept.no_iterators (h : t.Kept) (hnone : ∀ a, a ∉ t.lowRes.buffers) :
    p ∉ t.lowRes.iterators := by
  intro hp
  obtain ⟨it, hit⟩ := AbstractDeviceTracker.exists_of_mem hp
  obtain ⟨b, -, hb, -⟩ := place_of_iterator h.inv hit
  exact hnone _ (AbstractDeviceTracker.mem_of_lookup hb)

/-- The shut down is right just when there is no buffer and at most one iterator of the high
resolution. -/
theorem Kept.shutsDownOnce_iff (h : t.Kept) :
    (∃ t', t.ShutsDownOnce t') ↔
      t.highResIterator.length ≤ 1 ∧ ∀ a, a ∉ t.lowRes.buffers := by
  match hlist : t.highResIterator with
  | [] =>
    have hends : t.shutDownTracking = some t := by
      rw [shutDownTracking, hlist]
      rfl
    constructor
    · rintro ⟨t', hends', -, hbufs⟩
      cases hends.symm.trans hends'
      exact ⟨Nat.zero_le 1, hbufs⟩
    · rintro ⟨-, hbufs⟩
      refine ⟨t, hends, fun q hq => hq.elim (h.no_iterators hbufs) fun hq => ?_, hbufs⟩
      rw [h.alive, hlist] at hq
      cases hq
  | p :: rest =>
    have hp : t.highResIterator[0]? = some p := by
      rw [hlist]
      rfl
    have hin := List.mem_of_getElem? hp
    have hclose := h.closeBuffer_high hp
    have hturn : t.shutDownTracking = (t.closeBuffer p).bind (shutDownLoop rest.length 1) := by
      rw [shutDownTracking, hlist, List.length_cons, shutDownLoop, hp]
    have hhigh : (t.withoutHigh 0 p).highResIterator = rest := by
      rw [DeviceTracker.withoutHigh, hlist]
      rfl
    rw [hclose, hlist] at hturn
    constructor
    · rintro ⟨t', hends, hits, hbufs⟩
      rw [hturn] at hends
      split at hends
      · rename_i hle
        rw [Option.bind_some] at hends
        -- after the first one the index is past the end of what is left
        have hend : shutDownLoop rest.length 1 (t.withoutHigh 0 p) =
            some (t.withoutHigh 0 p) := by
          match rest, hhigh with
          | [], _ => rfl
          | [q], hhigh =>
            rw [List.length_singleton, shutDownLoop, hhigh]
            rfl
          | _ :: _ :: _, _ =>
            simp only [List.length_cons] at hle
            omega
        cases hend.symm.trans hends
        rw [h.lowRes_withoutHigh hin] at hbufs
        refine ⟨?_, hbufs⟩
        cases rest with
        | nil => exact Nat.le_refl 1
        | cons q rest =>
          refine absurd (.inr ?_) (hits q)
          rw [(h.withoutHigh hp).alive, hhigh]
          exact List.mem_cons_self
      · cases hends
    · rintro ⟨hle, hbufs⟩
      cases rest with
      | cons q rest =>
        simp only [List.length_cons] at hle
        omega
      | nil =>
        refine ⟨t.withoutHigh 0 p, hturn, fun q hq => ?_, ?_⟩
        · rcases hq with hq | hq
          · rw [h.lowRes_withoutHigh hin] at hq
            exact h.no_iterators hbufs hq
          · rw [(h.withoutHigh hp).alive, hhigh] at hq
            cases hq
        · rw [h.lowRes_withoutHigh hin]
          exact hbufs

/-! ## Every run -/

theorem Kept.step (h : t.Kept) (op : Op) (hok : t.StepOk op) :
    ∃ t', t.step op = some t' ∧ t'.Kept := by
  cases op with
  | openMaxResBuffer => exact ⟨_, rfl, h.openMaxResBuffer hok⟩
  | openBuffer v d f => exact h.openBuffer f hok
  | closeBuffer p =>
    rcases hok with hcan | ⟨k, hk, hle⟩
    · exact h.closeBuffer hcan
    · exact ⟨_, (h.closeBuffer_high hk).trans (if_pos hle), h.withoutHigh hk⟩
  | newIdElsewhere =>
    obtain ⟨u, hu, hinv⟩ := AbstractDeviceTracker.canStep_inv h.inv .newIdElsewhere trivial
    cases hu
    exact ⟨_, rfl, hinv, h.nodup, h.alive, h.apart, h.registered, h.numbers⟩

theorem Kept.releasesOnce_iff (h : t.Kept) {r : Release} (hthere : t.IsThere r) :
    t.ReleasesOnce r ↔ t.ReleaseOk r := by
  cases r with
  | closeBuffer p =>
    simp only [ReleasesOnce, ReleaseOk]
    cases hit : t.lowRes.iterators.lookup p with
    | some it => exact h.closesOnce_low hit
    | none =>
      have hp := hthere.resolve_left (AList.lookup_eq_none.mp hit)
      exact h.closesOnce_high ((h.alive p).mp hp)
  | destructor a =>
    obtain ⟨b, hb⟩ := AbstractDeviceTracker.exists_of_mem hthere
    refine (h.destroysOnce_iff hb).trans ⟨fun hle c hc => ?_, fun hall => hall b hb⟩
    cases hb.symm.trans hc
    exact hle
  | shutDownTracking => exact h.shutsDownOnce_iff

theorem kept_of_run {lastNumber : UInt32} {started : Option UInt32} {ops : List Op}
    (hok : RunOk step StepOk (new T lastNumber started) ops)
    (hr : run step (new T lastNumber started) ops = some t) : t.Kept :=
  run_keeps_of_ok Kept (fun _ op _ h hok hu => by
    obtain ⟨_, hv, hkept⟩ := h.step op hok
    cases hu.symm.trans hv
    exact hkept) (Kept.new T lastNumber started) hok hr

/-- In every state of a run whose steps meet their condition, each release is right just when its
condition holds. -/
theorem releases_once_iff (T : Type) (lastNumber : UInt32) (started : Option UInt32)
    (ops : List Op) (t : DeviceTracker T) (hok : RunOk step StepOk (new T lastNumber started) ops)
    (hr : run step (new T lastNumber started) ops = some t) (r : Release)
    (hthere : t.IsThere r) : t.ReleasesOnce r ↔ t.ReleaseOk r :=
  (kept_of_run hok hr).releasesOnce_iff hthere

/-- A number is new when none of the iterators has it. -/
theorem forall_getId_ne {id : UInt32}
    (h : ∀ q ∈ t.lowRes.iterators.keys ++ t.highResIds.keys, t.getId q ≠ some id) (p : Nat) :
    t.getId p ≠ some id := by
  by_cases hp : t.Alive p
  · exact h p (List.mem_append.mpr hp)
  · intro hid
    exact hp (alive_iff.mpr ⟨id, hid⟩)

/-- Iterators of the high resolution are opened three times, and the second one is closed. -/
theorem closes_second_of_three : ReleasesOnce
    (new Unit 0 none).openMaxResBuffer.openMaxResBuffer.openMaxResBuffer (.closeBuffer 2) := by
  refine (releases_once_iff Unit 0 none
    [.openMaxResBuffer, .openMaxResBuffer, .openMaxResBuffer] _ ?_ rfl (.closeBuffer 2)
    (.inr (by decide))).mpr ⟨1, rfl, by decide⟩
  refine ⟨forall_getId_ne (by decide), fun t ht => ?_⟩
  cases ht
  refine ⟨forall_getId_ne (by decide), fun t ht => ?_⟩
  cases ht
  exact ⟨forall_getId_ne (by decide), fun t ht => trivial⟩

/-- The close of the first of three iterators of the high resolution reads it after it was deleted.
The shut down leaves the second of two, and the buffers. And the destructor leaves the second of
two iterators. -/
theorem releases_go_wrong :
    (∃ t, run step (new Unit 0 none) [.openMaxResBuffer, .openMaxResBuffer, .openMaxResBuffer] =
      some t ∧ ¬ t.ReleasesOnce (.closeBuffer 1)) ∧
    (∃ t, run step (new Unit 0 none) [.openMaxResBuffer, .openMaxResBuffer] = some t ∧
      ¬ t.ReleasesOnce .shutDownTracking) ∧
    ∃ t, run step (new Unit 0 none) [.openBuffer 10 5 0, .openBuffer 10 5 0] = some t ∧
      ¬ t.ReleasesOnce (.destructor 1) ∧ ¬ t.ReleasesOnce .shutDownTracking := by
  refine ⟨?_, ?_, ?_⟩
  · obtain ⟨t, ht⟩ : ∃ t, run step (new Unit 0 none)
        [.openMaxResBuffer, .openMaxResBuffer, .openMaxResBuffer] = some t := ⟨_, rfl⟩
    have hclose : ((run step (new Unit 0 none) [.openMaxResBuffer, .openMaxResBuffer,
        .openMaxResBuffer]).bind fun t => t.closeBuffer 1).isNone := by decide +kernel
    rw [ht, Option.bind_some] at hclose
    refine ⟨t, ht, ?_⟩
    rintro ⟨t', hends, -⟩
    rw [hends] at hclose
    cases hclose
  · obtain ⟨t, ht⟩ : ∃ t, run step (new Unit 0 none) [.openMaxResBuffer, .openMaxResBuffer] =
        some t := ⟨_, rfl⟩
    have hleft : ((run step (new Unit 0 none) [.openMaxResBuffer, .openMaxResBuffer]).bind
        shutDownTracking).all fun t' => 2 ∈ t'.highResIds := by decide +kernel
    rw [ht, Option.bind_some] at hleft
    refine ⟨t, ht, ?_⟩
    rintro ⟨t', hends, hits, -⟩
    rw [hends] at hleft
    exact hits 2 (.inr (of_decide_eq_true hleft))
  · obtain ⟨t, ht⟩ : ∃ t, run step (new Unit 0 none)
        [.openBuffer 10 5 0, .openBuffer 10 5 0] = some t :=
      Option.isSome_iff_exists.mp (by decide +kernel)
    have hleft : (run step (new Unit 0 none) [.openBuffer 10 5 0, .openBuffer 10 5 0]).all
        fun t => (t.lowRes.deleteBuffer 1).all fun u => 4 ∈ u.iterators := by decide +kernel
    have hrelated : (run step (new Unit 0 none) [.openBuffer 10 5 0, .openBuffer 10 5 0]).all
        fun t => (t.lowRes.buffers.lookup 1).any fun b => 4 ∈ b.relatedIterators := by
      decide +kernel
    have hbuffer : ((run step (new Unit 0 none) [.openBuffer 10 5 0, .openBuffer 10 5 0]).bind
        shutDownTracking).all fun t' => 1 ∈ t'.lowRes.buffers := by decide +kernel
    rw [ht, Option.all_some] at hleft hrelated
    rw [ht, Option.bind_some] at hbuffer
    refine ⟨t, ht, ?_, ?_⟩
    · rintro ⟨u, hends, hits, -⟩
      rw [hends, Option.all_some] at hleft
      cases hb : t.lowRes.buffers.lookup 1 with
      | none =>
        rw [hb] at hrelated
        cases hrelated
      | some b =>
        rw [hb, Option.any_some] at hrelated
        exact ((hits 4).mp (of_decide_eq_true hleft)).2 b hb (of_decide_eq_true hrelated)
    · rintro ⟨t', hends, -, hbufs⟩
      rw [hends] at hbuffer
      exact hbufs 1 (of_decide_eq_true hbuffer)

end DeviceTracker

end chaos.caching_system.caching_thread
