-- Where the slots of a service feeder are. As long as the calls are careful, each slot is in one
-- place, the heap is in order and a service that is given is of a URL that is online. Setting a
-- URL offline that is not in use, or online that is not offline, is not careful.
import Chaos.ServiceFeeder

namespace chaos.common.network

open runs

namespace URLServiceFeeder

variable {size : Nat} {s t : URLServiceFeeder}

/-! ## What is claimed -/

/-- The number of places that a slot is at. -/
def places (s : URLServiceFeeder) (idx : Nat) : Nat :=
  (if idx ∈ s.available_url then 1 else 0) + (if idx ∈ s.offline_urls then 1 else 0) +
    (s.online_urls.count idx + if s.current_service = some idx then 1 else 0)

/-- The slot is of a URL that was added, was not removed and is online. -/
def OnlineURL (s : URLServiceFeeder) (idx : Nat) : Prop :=
  idx < s.service_list.length ∧ idx ∉ s.available_url ∧ (s.slot idx).online = true

structure FeederOk (s : URLServiceFeeder) : Prop where
  one_place : ∀ idx < s.service_list.length, s.places idx = 1
  ordered : heap.Ordered s.priority s.online_urls
  /-- what `getService` returns now -/
  serves : (∃ idx, s.OnlineURL idx ∧ s.getService.1 = (s.slot idx).service) ∨
    ((∀ idx, ¬ s.OnlineURL idx) ∧ s.getService.1 = none)

/-- A new URL needs a slot that is available or can be made. On the way of the heap that the slot
takes, its new priority compares with the others as its old one does. -/
def AddsInOrder (s : URLServiceFeeder) (priority : UInt32) : Prop :=
  ∃ h : s.available_url.Nonempty,
    ∀ k ∈ heap.ancestors s.online_urls.length s.online_urls.length, ∀ idx ∈ s.online_urls[k]?,
      (s.priority idx < s.priority (s.available_url.min' h) → s.priority idx ≤ priority.toNat) ∧
      (s.priority (s.available_url.min' h) ≤ s.priority idx → priority.toNat ≤ s.priority idx)

instance (s : URLServiceFeeder) (priority : UInt32) : Decidable (s.AddsInOrder priority) :=
  have (k : Nat) (p : Nat → Prop) [DecidablePred p] :
      Decidable (∀ idx ∈ s.online_urls[k]?, p idx) := Option.decidableForallMem _
  inferInstanceAs (Decidable (∃ _, _))

/-- An index beyond the check of the range, or a slot that the call moves from one place to
another or leaves where it is. -/
def Careful (size : Nat) (s : URLServiceFeeder) : Label → Prop
  | .addURL _ priority => (s.grow size).AddsInOrder priority
  | .removeURL idx _ =>
    s.number_of_url size < idx.toNat ∨ idx.toNat ∈ s.online_urls ∨ idx.toNat ∈ s.available_url
  | .setURLOffline idx => s.number_of_url size < idx.toNat ∨
    s.current_service = some idx.toNat ∨ idx.toNat ∈ s.offline_urls
  | .setURLOnline idx => s.number_of_url size < idx.toNat ∨ idx.toNat ∈ s.offline_urls
  | .clear _ => s.current_service = none
  | .getService | .setFeedMode _ => True

instance (size : Nat) (s : URLServiceFeeder) : ∀ a, Decidable (Careful size s a)
  | .addURL _ priority => inferInstanceAs (Decidable ((s.grow size).AddsInOrder priority))
  | .removeURL _ _ => inferInstanceAs (Decidable (_ ∨ _))
  | .setURLOffline _ => inferInstanceAs (Decidable (_ ∨ _))
  | .setURLOnline _ => inferInstanceAs (Decidable (_ ∨ _))
  | .clear _ => inferInstanceAs (Decidable (_ = _))
  | .getService => isTrue trivial
  | .setFeedMode _ => isTrue trivial

/-! ## The invariant -/

/-- Besides the claim: no place holds more than the slots of the table, and the flags of the slots
say where they are. -/
structure Good (size : Nat) (s : URLServiceFeeder) : Prop where
  length : s.service_list.length = s.number_of_url size
  placed : ∀ idx, s.places idx = if idx < s.service_list.length then 1 else 0
  ordered : heap.Ordered s.priority s.online_urls
  on : ∀ idx, idx ∈ s.online_urls ∨ s.current_service = some idx → (s.slot idx).online = true
  off : ∀ idx ∈ s.offline_urls, (s.slot idx).online = false

section Places

variable {idx : Nat}

theorem Good.lt_of_place (h : Good size s) (hpos : 0 < s.places idx) :
    idx < s.service_list.length := by
  rw [h.placed idx] at hpos
  split_ifs at hpos with hlt
  · exact hlt
  · omega

theorem Good.places_le (h : Good size s) : s.places idx ≤ 1 := by
  rw [h.placed idx]
  split_ifs <;> omega

theorem Good.lt_of_online (h : Good size s) (hidx : idx ∈ s.online_urls) :
    idx < s.service_list.length := by
  apply h.lt_of_place
  have := List.count_pos_iff.mpr hidx
  unfold places
  omega

theorem Good.lt_of_current (h : Good size s) (hidx : s.current_service = some idx) :
    idx < s.service_list.length := by
  apply h.lt_of_place
  simp only [places, hidx, if_true]
  omega

theorem Good.lt_of_available (h : Good size s) (hidx : idx ∈ s.available_url) :
    idx < s.service_list.length := by
  apply h.lt_of_place
  simp only [places, hidx, if_true]
  omega

theorem Good.lt_of_offline (h : Good size s) (hidx : idx ∈ s.offline_urls) :
    idx < s.service_list.length := by
  apply h.lt_of_place
  simp only [places, hidx, if_true]
  omega

/-- A slot that is available is nowhere else. -/
theorem Good.of_available (h : Good size s) (hidx : idx ∈ s.available_url) :
    idx ∉ s.offline_urls ∧ idx ∉ s.online_urls ∧ s.current_service ≠ some idx := by
  have hle : s.places idx ≤ 1 := h.places_le
  refine ⟨fun hoff => ?_, fun hon => ?_, fun hcur => ?_⟩
  · simp only [places, hidx, hoff, if_true] at hle
    omega
  · have hcount := List.count_pos_iff.mpr hon
    simp only [places, hidx, if_true] at hle
    omega
  · simp only [places, hidx, hcur, if_true] at hle
    omega

theorem Good.of_offline (h : Good size s) (hidx : idx ∈ s.offline_urls) :
    idx ∉ s.online_urls ∧ s.current_service ≠ some idx := by
  have hle : s.places idx ≤ 1 := h.places_le
  refine ⟨fun hon => ?_, fun hcur => ?_⟩
  · have hcount := List.count_pos_iff.mpr hon
    simp only [places, hidx, if_true] at hle
    omega
  · simp only [places, hidx, hcur, if_true] at hle
    omega

theorem Good.of_current (h : Good size s) (hidx : s.current_service = some idx) :
    idx ∉ s.online_urls := by
  intro hon
  have hle : s.places idx ≤ 1 := h.places_le
  have hcount := List.count_pos_iff.mpr hon
  simp only [places, hidx, if_true] at hle
  omega

/-- A slot of the table that is not available is offline, or it is in the heap or in use. -/
theorem Good.online_of_not (h : Good size s) (hlt : idx < s.service_list.length)
    (havail : idx ∉ s.available_url) (hoff : idx ∉ s.offline_urls) :
    idx ∈ s.online_urls ∨ s.current_service = some idx := by
  have hplaced := h.placed idx
  by_contra hno
  rw [not_or] at hno
  have hcount := List.count_eq_zero_of_not_mem hno.1
  simp only [places, havail, hoff, hno.2, hcount, hlt, if_true, if_false] at hplaced
  omega

end Places

/-! ## What is served -/

theorem getNext_nil (hq : s.online_urls = []) : s.getNext = (none, s) := by
  unfold getNext
  rw [hq]
  rfl

/-- All slots in the heap are online, so that the first one is taken. -/
theorem Good.getNext_cons (h : Good size s) {top : Nat} {rest : List Nat}
    (hq : s.online_urls = top :: rest) :
    s.getNext = (some top, { s with online_urls := heap.pop s.priority s.online_urls }) := by
  have hon : (s.slot top).online = true := h.on top (.inl (by simp [hq]))
  unfold getNext
  rw [hq, List.length_cons]
  simp [getNextLoop, hq, hon]

theorem Good.onlineURL (h : Good size s) {idx : Nat}
    (hidx : idx ∈ s.online_urls ∨ s.current_service = some idx) : s.OnlineURL idx := by
  refine ⟨?_, fun havail => ?_, h.on idx hidx⟩
  · rcases hidx with hq | hcur
    · exact h.lt_of_online hq
    · exact h.lt_of_current hcur
  · obtain ⟨-, hq, hcur⟩ := h.of_available havail
    exact hidx.elim hq hcur

theorem Good.feederOk (h : Good size s) : FeederOk s := by
  refine ⟨?_, h.ordered, ?_⟩
  · intro idx hlt
    rw [h.placed idx, if_pos hlt]
  · unfold getService
    cases hcur : s.current_service with
    | some last_service =>
      have hlast := h.onlineURL (.inr hcur)
      left
      cases hmode : s.feed_mode with
      | failOver => exact ⟨last_service, hlast, rfl⟩
      | roundRobin =>
        cases hq : s.online_urls with
        | nil =>
          rw [getNext_nil hq]
          exact ⟨last_service, hlast, rfl⟩
        | cons top rest =>
          rw [h.getNext_cons hq]
          exact ⟨top, h.onlineURL (.inl (by simp [hq])), rfl⟩
    | none =>
      cases hq : s.online_urls with
      | cons top rest =>
        rw [h.getNext_cons hq]
        exact .inl ⟨top, h.onlineURL (.inl (by simp [hq])), rfl⟩
      | nil =>
        rw [getNext_nil hq]
        right
        refine ⟨?_, rfl⟩
        rintro idx ⟨hlt, havail, hon⟩
        by_cases hoff : idx ∈ s.offline_urls
        · rw [h.off idx hoff] at hon
          cases hon
        · have := h.online_of_not hlt havail hoff
          simp [hq, hcur] at this

/-! ## What the steps keep -/

theorem count_push {key : Nat → Nat} {q : List Nat} {idx x : Nat} :
    (heap.push key q x).count idx = q.count idx + if x = idx then 1 else 0 := by
  rw [heap.push_perm.count_eq, List.count_cons]
  simp

theorem mem_push {key : Nat → Nat} {q : List Nat} {idx x : Nat} :
    idx ∈ heap.push key q x ↔ idx = x ∨ idx ∈ q := by
  rw [heap.push_perm.mem_iff, List.mem_cons]

theorem slot_set {x : Nat} {slot : URLService} (hlt : x < s.service_list.length)
    (ht : t.service_list = s.service_list.set x slot) (idx : Nat) :
    t.slot idx = if idx = x then slot else s.slot idx := by
  unfold URLServiceFeeder.slot
  rw [ht]
  split_ifs with hidx
  · simp [List.getD, hidx, List.getElem?_set_self hlt]
  · simp [List.getD, List.getElem?_set_ne (Ne.symm hidx)]

theorem slot_modify {x : Nat} {f : URLService → URLService} (hlt : x < s.service_list.length)
    (ht : t.service_list = s.service_list.modify x f) (idx : Nat) :
    t.slot idx = if idx = x then f (s.slot x) else s.slot idx := by
  apply slot_set hlt
  rw [ht, List.modify_eq_set]
  simp [URLServiceFeeder.slot, List.getD]

theorem slot_append {idx : Nat} (ht : s.service_list <+: t.service_list)
    (hlt : idx < s.service_list.length) : t.slot idx = s.slot idx := by
  obtain ⟨more, ht⟩ := ht
  unfold URLServiceFeeder.slot
  rw [← ht, List.getD, List.getD, List.getElem?_append_left hlt]

/-- The slots that are added are at the end of the table, and available. No slot is added when
the number of bytes does not fit. -/
theorem good_grow (h : Good size s) (hne : (s.grow size).available_url.Nonempty) :
    Good size (s.grow size) := by
  unfold grow at hne ⊢
  split_ifs at hne ⊢ with hcard
  · have hnone : s.available_url = ∅ := Finset.card_eq_zero.mp hcard
    have hlength : s.number_of_url size = s.service_list.length := h.length.symm
    simp only [hlength, hnone, Finset.empty_union] at hne ⊢
    generalize hcount : (s.list_size + UInt32.ofNat (size * 10)).toNat / size
      - s.service_list.length = count at *
    have hmore : ∀ i, i ∈ (List.range' s.service_list.length count).toFinset ↔
        s.service_list.length ≤ i ∧ i < s.service_list.length + count := by
      simp
    constructor
    · obtain ⟨i, hi⟩ := hne
      rw [hmore] at hi
      simp only [number_of_url, List.length_append, List.length_map, List.length_range']
      omega
    · intro i
      have hplaced := h.placed i
      simp only [places, hnone, Finset.notMem_empty, if_false, hmore, List.length_append,
        List.length_map, List.length_range'] at hplaced ⊢
      split_ifs at hplaced ⊢ <;> omega
    · refine h.ordered.congr fun i hi => ?_
      refine congrArg (·.priority.toNat) (Eq.symm (slot_append ?_ (h.lt_of_online hi)))
      exact List.prefix_append _ _
    · intro i hi
      rw [slot_append (List.prefix_append _ _) (hi.elim h.lt_of_online h.lt_of_current)]
      exact h.on i hi
    · intro i hi
      rw [slot_append (List.prefix_append _ _) (h.lt_of_offline hi)]
      exact h.off i hi
  · exact h

theorem good_addURL (service : Option Nat) {priority : UInt32} (h : Good size s)
    (hok : (s.grow size).AddsInOrder priority) :
    ∃ idx t, s.addURL size service priority = some (idx, t) ∧ Good size t := by
  obtain ⟨hne, hpath⟩ := hok
  have hg := good_grow h hne
  unfold addURL
  simp only [hne, dif_pos]
  generalize s.grow size = g at *
  have hmem := g.available_url.min'_mem hne
  generalize g.available_url.min' hne = x at *
  obtain ⟨hoff, hq, hcur⟩ := hg.of_available hmem
  refine ⟨x, _, rfl, ?_⟩
  generalize ht : ({ g with
    online_urls := heap.push g.priority g.online_urls x
    available_url := g.available_url.erase x
    service_list := g.service_list.set x ⟨priority, true, service⟩ } : URLServiceFeeder) = t
  have hslot := slot_set (t := t) (hg.lt_of_available hmem) (by rw [← ht])
  have hself : t.priority x = priority.toNat := by
    simp [URLServiceFeeder.priority, hslot x]
  have hother : ∀ idx ∈ g.online_urls, t.priority idx = g.priority idx := by
    intro idx hidx
    have hidx : idx ≠ x := by
      rintro rfl
      exact hq hidx
    simp [URLServiceFeeder.priority, hslot idx, hidx]
  have hqueue : t.online_urls = heap.push g.priority g.online_urls x := by rw [← ht]
  constructor
  · rw [← ht]
    simpa [number_of_url] using hg.length
  · intro idx
    rw [← ht, List.length_set, ← hg.placed idx]
    simp only [places, count_push, Finset.mem_erase]
    by_cases hidx : idx = x
    · subst hidx
      simp only [hmem, not_true, ne_eq, false_and, if_true, if_false]
      omega
    · simp [hidx, Ne.symm hidx]
  · rw [hqueue]
    apply heap.ordered_push_of_path
    · exact hg.ordered.congr fun idx hidx => (hother idx hidx).symm
    · intro k hk idx hidx
      rw [hself, hother idx (List.mem_of_getElem? hidx)]
      exact hpath k hk idx hidx
  · intro idx hidx
    rw [hslot idx]
    split_ifs with hx
    · rfl
    · rw [hqueue, mem_push, ← ht] at hidx
      exact hg.on idx (hidx.imp_left fun hq => hq.resolve_left hx)
  · intro idx hidx
    rw [← ht] at hidx
    rw [hslot idx, if_neg]
    · exact hg.off idx hidx
    · rintro rfl
      exact hoff hidx

/-- A change of another field of a slot keeps the priorities. -/
theorem priority_eq_of_slot {x : Nat} {slot : URLService}
    (hslot : ∀ idx, t.slot idx = if idx = x then slot else s.slot idx)
    (hp : slot.priority = (s.slot x).priority) : t.priority = s.priority := by
  funext idx
  unfold URLServiceFeeder.priority
  rw [hslot idx]
  split_ifs with hidx
  · rw [hp, hidx]
  · rfl

/-- A call whose index passes the check of the range and has a slot. -/
theorem Good.in_range (h : Good size s) {idx : Nat} (hlt : idx < s.service_list.length) :
    ¬ s.number_of_url size < idx ∧ ¬ s.service_list.length ≤ idx := by
  rw [← h.length]
  omega

theorem good_setURLOffline {idx : UInt32} (h : Good size s)
    (hok : Careful size s (.setURLOffline idx)) :
    ∃ t, s.setURLOffline size idx = some t ∧ Good size t := by
  rcases hok with hrange | hok
  · exact ⟨s, if_pos hrange, h⟩
  have hlt := hok.elim h.lt_of_current h.lt_of_offline
  refine ⟨_, (if_neg (h.in_range hlt).1).trans (if_neg (h.in_range hlt).2), ?_⟩
  generalize idx.toNat = x at *
  generalize ht : ({ s with
    current_service := if s.current_service = some x then none else s.current_service
    service_list := s.service_list.modify x fun slot => { slot with online := false }
    offline_urls := insert x s.offline_urls } : URLServiceFeeder) = t
  have hslot := slot_modify (t := t) hlt (by rw [← ht])
  have hpriority : t.priority = s.priority := priority_eq_of_slot hslot rfl
  have hon : ∀ i, i ∈ t.online_urls ∨ t.current_service = some i →
      (i ∈ s.online_urls ∨ s.current_service = some i) ∧ i ≠ x := by
    rw [← ht]
    rintro i (hi | hi)
    · refine ⟨.inl hi, ?_⟩
      rintro rfl
      rcases hok with hcur | hoff
      · exact h.of_current hcur hi
      · exact (h.of_offline hoff).1 hi
    · simp only at hi
      split_ifs at hi with hx
      refine ⟨.inr hi, ?_⟩
      rintro rfl
      exact hx hi
  constructor
  · rw [← ht]
    simpa [number_of_url] using h.length
  · intro i
    have hplaced := h.placed i
    rw [← ht, List.length_modify, ← hplaced]
    simp only [places, Finset.mem_insert] at hplaced ⊢
    by_cases hi : i = x
    · subst hi
      simp only [hlt, if_true, true_or] at hplaced ⊢
      rcases hok with hcur | hoff
      · simp only [hcur, if_true, reduceCtorEq, if_false] at hplaced ⊢
        omega
      · have hcur := (h.of_offline hoff).2
        simp [hoff, hcur]
    · have hcur : (if s.current_service = some x then none else s.current_service) = some i ↔
          s.current_service = some i := by
        split_ifs with hx
        · simp [hx, Ne.symm hi]
        · rfl
      simp [hi, hcur]
  · rw [hpriority, ← ht]
    exact h.ordered
  · intro i hi
    obtain ⟨hi, hne⟩ := hon i hi
    rw [hslot i, if_neg hne]
    exact h.on i hi
  · intro i hi
    rw [hslot i]
    split_ifs with hx
    · rfl
    · rw [← ht] at hi
      exact h.off i ((Finset.mem_insert.mp hi).resolve_left hx)

theorem good_setURLOnline {idx : UInt32} (h : Good size s)
    (hok : Careful size s (.setURLOnline idx)) :
    ∃ t, s.setURLOnline size idx = some t ∧ Good size t := by
  rcases hok with hrange | hoff
  · exact ⟨s, if_pos hrange, h⟩
  have hlt := h.lt_of_offline hoff
  refine ⟨_, (if_neg (h.in_range hlt).1).trans (if_neg (h.in_range hlt).2), ?_⟩
  generalize idx.toNat = x at *
  generalize ht : ({ s with
    service_list := s.service_list.modify x fun slot => { slot with online := true }
    offline_urls := s.offline_urls.erase x
    online_urls := heap.push s.priority s.online_urls x } : URLServiceFeeder) = t
  have hslot := slot_modify (t := t) hlt (by rw [← ht])
  have hpriority : t.priority = s.priority := priority_eq_of_slot hslot rfl
  constructor
  · rw [← ht]
    simpa [number_of_url] using h.length
  · intro i
    rw [← ht, List.length_modify, ← h.placed i]
    simp only [places, count_push, Finset.mem_erase]
    by_cases hi : i = x
    · subst hi
      simp only [hoff, ne_eq, not_true, false_and, if_true, if_false]
      omega
    · simp [hi, Ne.symm hi]
  · rw [hpriority, ← ht]
    exact heap.ordered_push h.ordered
  · intro i hi
    rw [hslot i]
    split_ifs with hx
    · rfl
    · rw [← ht, mem_push] at hi
      exact h.on i (hi.imp_left fun hq => hq.resolve_left hx)
  · intro i hi
    rw [← ht] at hi
    obtain ⟨hne, hi⟩ := Finset.mem_erase.mp hi
    rw [hslot i, if_neg hne]
    exact h.off i hi

/-- The heap is made new, of the slots that are not removed. -/
theorem removeFromOnlineQueue_eq (s : URLServiceFeeder) (x : Nat) :
    ∃ q, s.removeFromOnlineQueue x = { s with online_urls := q } ∧
      q.Perm (s.online_urls.filter (· ≠ x)) ∧ heap.Ordered s.priority q := by
  refine ⟨_, rfl, ?_, heap.ordered_foldl_push heap.ordered_nil⟩
  refine heap.foldl_push_perm.trans ?_
  rw [List.append_nil]
  refine (heap.drain_perm (Nat.le_refl _)).trans (heap.foldl_push_perm.trans ?_)
  rw [List.append_nil]
  exact (heap.drain_perm (Nat.le_refl _)).filter _

theorem good_removeURL {idx : UInt32} {deallocate_service : Bool} (h : Good size s)
    (hok : Careful size s (.removeURL idx deallocate_service)) :
    ∃ t, s.removeURL size idx deallocate_service = some t ∧ Good size t := by
  rcases hok with hrange | hok
  · exact ⟨s, if_pos hrange, h⟩
  have hlt := hok.elim h.lt_of_online h.lt_of_available
  have hpast : ¬ (deallocate_service ∧ s.service_list.length ≤ idx.toNat) :=
    fun hpast => (h.in_range hlt).2 hpast.2
  refine ⟨_, (if_neg (h.in_range hlt).1).trans (if_neg hpast), ?_⟩
  generalize idx.toNat = x at *
  obtain ⟨q, hq, hperm, hordered⟩ := removeFromOnlineQueue_eq s x
  rw [hq]
  constructor
  · exact h.length
  · intro i
    have hplaced := h.placed i
    rw [← hplaced]
    simp only [places, Finset.mem_insert, hperm.count_eq] at hplaced ⊢
    by_cases hi : i = x
    · subst hi
      have hcount : (s.online_urls.filter (· ≠ i)).count i = 0 := by
        simp [List.count_eq_zero]
      simp only [hcount, hlt, true_or, if_true] at hplaced ⊢
      rcases hok with hon | havail
      · have hone := List.count_pos_iff.mpr hon
        omega
      · simp only [havail, if_true] at hplaced ⊢
        omega
    · rw [List.count_filter (by simpa using hi)]
      simp [hi]
  · exact hordered
  · intro i hi
    refine h.on i (hi.imp_left fun hiq => ?_)
    exact (List.mem_filter.mp (hperm.mem_iff.mp hiq)).1
  · exact h.off

theorem good_clear {dispose_service : Bool} (h : Good size s) (hok : s.current_service = none) :
    Good size (s.clear size dispose_service) := by
  constructor
  · simpa [clear, number_of_url] using h.length
  · intro idx
    have hplaced := h.placed idx
    simp only [places, clear, hok, Finset.mem_union, Finset.mem_sdiff, Finset.mem_range,
      ← h.length, List.count_nil, List.length_map] at hplaced ⊢
    by_cases hlt : idx < s.service_list.length
    · simp [hlt]
    · simp only [hlt, or_false, not_false_eq_true, and_true, if_false] at hplaced ⊢
      omega
  · exact heap.ordered_nil
  · rintro idx (hidx | hidx)
    · cases hidx
    · cases hok.symm.trans hidx
  · intro idx hidx
    obtain ⟨hoff, hrange⟩ := Finset.mem_sdiff.mp hidx
    rw [Finset.mem_range, ← h.length] at hrange
    exact absurd (h.lt_of_offline hoff) hrange

/-- The slot at the top of the heap is in use now, and the one that was is in the heap. -/
theorem Good.turn (h : Good size s) {top : Nat} {rest q : List Nat}
    (hq : s.online_urls = top :: rest) (hperm : q.Perm (s.current_service.toList ++ rest))
    (hordered : heap.Ordered s.priority q) :
    Good size { s with current_service := some top, online_urls := q } := by
  have hmem : ∀ i, i ∈ q ∨ some top = some i → i ∈ s.online_urls ∨ s.current_service = some i := by
    intro i hi
    rw [hperm.mem_iff, List.mem_append, Option.mem_toList] at hi
    rw [hq, List.mem_cons]
    rcases hi with (hcur | hrest) | htop
    · exact .inr hcur
    · exact .inl (.inr hrest)
    · exact .inl (.inl (Option.some.inj htop).symm)
  refine ⟨h.length, ?_, hordered, fun i hi => h.on i (hmem i hi), h.off⟩
  intro i
  rw [← h.placed i]
  have hcount : s.current_service.toList.count i = if s.current_service = some i then 1 else 0 := by
    cases s.current_service <;> simp [List.count_singleton]
  simp only [places, hperm.count_eq, List.count_append, hq, List.count_cons, hcount, beq_iff_eq,
    Option.some.injEq]
  omega

theorem good_getService (h : Good size s) : Good size s.getService.2 := by
  unfold getService
  cases hcur : s.current_service with
  | some last_service =>
    cases hmode : s.feed_mode with
    | failOver => exact h
    | roundRobin =>
      cases hq : s.online_urls with
      | nil =>
        rw [getNext_nil hq]
        exact h
      | cons top rest =>
        rw [h.getNext_cons hq]
        have hpop : (heap.pop s.priority s.online_urls).Perm rest := by
          rw [hq]
          exact heap.pop_perm
        apply h.turn hq
        · rw [hcur]
          exact heap.push_perm.trans (hpop.cons last_service)
        · exact heap.ordered_push (heap.ordered_pop h.ordered)
  | none =>
    cases hq : s.online_urls with
    | nil =>
      rw [getNext_nil hq]
      exact h
    | cons top rest =>
      rw [h.getNext_cons hq]
      apply h.turn hq
      · rw [hcur, hq]
        exact heap.pop_perm
      · exact heap.ordered_pop h.ordered

theorem good_step {a : Label} (h : Good size s) (hok : Careful size s a) :
    ∃ t, s.step size a = some t ∧ Good size t := by
  cases a with
  | addURL service priority =>
    obtain ⟨idx, t, ht, hgood⟩ := good_addURL service h hok
    exact ⟨t, by simp [step, ht], hgood⟩
  | removeURL idx deallocate_service => exact good_removeURL h hok
  | setURLOffline idx => exact good_setURLOffline h hok
  | setURLOnline idx => exact good_setURLOnline h hok
  | getService => exact ⟨_, rfl, good_getService h⟩
  | clear dispose_service => exact ⟨_, rfl, good_clear h hok⟩
  | setFeedMode new_feed_mode => exact ⟨_, rfl, h.length, h.placed, h.ordered, h.on, h.off⟩

/-! ## The laws -/

theorem good_start : Good size ({} : URLServiceFeeder) := by
  refine ⟨by simp [number_of_url], ?_, heap.ordered_nil, ?_, ?_⟩ <;> simp [places]

/-- In every run of careful calls each slot is in one place, the heap is in order and what is
served is online. -/
theorem slots_have_one_place {labels : List Label}
    (hok : RunOk (step size) (Careful size) {} labels) :
    ∃ s, run (step size) {} labels = some s ∧ FeederOk s := by
  obtain ⟨s, hr, hs⟩ := run_ends_of_ok (Good size) (fun _ _ h ha => good_step h ha) good_start hok
  exact ⟨s, hr, hs.feederOk⟩

/-- Two URLs with falling priorities take turns; the one in use goes offline and comes back, and
the other one is removed. -/
theorem slots_of_two_urls : ∃ s, run (step 96) {} [.addURL (some 7) 9, .addURL (some 8) 4,
    .getService, .getService, .setURLOffline 1, .setURLOnline 1, .removeURL 0 true] = some s ∧
    FeederOk s :=
  slots_have_one_place (by decide)

/-- The third URL is pushed with the number of its slot for its priority. A URL that goes offline
while it is not in use stays in the heap, and one that is set online twice is in it twice. -/
theorem slots_are_misplaced :
    (∃ s, run (step 96) {} [.addURL (some 7) 0, .addURL (some 8) 5, .addURL (some 9) 9] = some s ∧
      ¬ FeederOk s) ∧
    (∃ s, run (step 96) {} [.addURL (some 7) 0, .setURLOffline 0] = some s ∧ ¬ FeederOk s) ∧
    ∃ s, run (step 96) {} [.addURL (some 7) 0, .setURLOnline 0] = some s ∧ ¬ FeederOk s := by
  refine ⟨⟨_, rfl, ?_⟩, ⟨_, rfl, ?_⟩, ⟨_, rfl, ?_⟩⟩
  · intro h
    exact absurd (h.ordered 2 1 2 (by decide) rfl rfl) (by decide)
  · intro h
    exact absurd (h.one_place 0 (by decide)) (by decide)
  · intro h
    exact absurd (h.one_place 0 (by decide)) (by decide)

end URLServiceFeeder

end chaos.common.network
