-- The laws of the low resolution buffers. What is found in the memory of a new buffer counts as
-- readers, and a validity of 0 is found under one key and removed under another, so that the last
-- close goes wrong. The exact condition on each call, and what the runs keep that meet it.
import Chaos.Runs
import Chaos.TrackerAccounts

open linked_heap runs

namespace chaos.caching_system.caching_thread

variable {T : Type}

namespace AbstractDeviceTracker

/-! ## The condition -/

/-- What a call must do. -/
def Keeps (t : AbstractDeviceTracker T) (op : Op) : Prop :=
  ∃ t', t.step op = some t' ∧ t'.Coherent

/-- The next number for an iterator is not that of an open iterator of another request. A new
buffer takes a number for its garbage iterator first. -/
def CanOpen (t : AbstractDeviceTracker T) (validity discretization : UInt64) : Prop :=
  let known := bufferKey validity discretization ∈ t.lowResQueues
  let id := if known then t.lastNumber else t.lastNumber + 1
  ∀ e ∈ t.opened, t.idOf e.1 = some id → known ∧ e.2 = (validity, discretization)

/-- The last iterator of a buffer is closed when the memory of its count held 0 and it was not
opened with a validity of 0, and the garbage iterator is the first with its number. -/
def CanCloseLast (t : AbstractDeviceTracker T) (b : BufferTracker T) : Prop :=
  b.found = 0 ∧ b.requested ≠ 0 ∧
    t.queues.find? (fun q => t.garbageIterators.lookup q =
      t.garbageIterators.lookup b.iteratorGarbage) = some b.iteratorGarbage

/-- The iterator is open and alone with its number. While there are others of its request, the
count does not come to 0 with what the memory held. -/
def CanClose (t : AbstractDeviceTracker T) (iterator : Nat) : Prop :=
  ∃ it b, iterator ∈ t.opened.map Prod.fst ∧ t.iterators.lookup iterator = some it ∧
    t.buffers.lookup it.queue = some b ∧
    (∀ e ∈ t.opened, t.idOf e.1 = some it.id → e.1 = iterator) ∧
    let others := t.openedFor b.requested b.discretization
    if others = [iterator] then t.CanCloseLast b
    else b.found + UInt32.ofNat others.length ≠ 1

def CanStep (t : AbstractDeviceTracker T) : Op → Prop
  | .openBuffer validity discretization _ => t.CanOpen validity discretization
  | .closeBuffer iterator => t.CanClose iterator
  | .newIdElsewhere => True

variable {t t' : AbstractDeviceTracker T} {v d : UInt64} {i p : Nat} {b : BufferTracker T}

/-! ## The loops -/

theorem eraseRelated_cons {iterators : Heap IteratorReader} {id : UInt32} {q : IteratorReader}
    (hq : iterators.lookup p = some q) (rest : List Nat) :
    eraseRelated iterators id (p :: rest) =
      if id = q.id then
        match rest with
        | [] => some []
        | r :: rest => (eraseRelated iterators id rest).map (List.cons r)
      else (eraseRelated iterators id rest).map (List.cons p) := by
  cases rest with
  | nil => simp [eraseRelated, hq]
  | cons r rest => simp [eraseRelated, hq, Option.map_eq_bind]

/-- With no other iterator of its number in the list, the loop takes just this one. -/
theorem eraseRelated_eq {iterators : Heap IteratorReader} {id : UInt32} {l : List Nat}
    (hids : ∀ p ∈ l, ∃ q, iterators.lookup p = some q ∧ (id = q.id ↔ p = i)) (hnodup : l.Nodup) :
    eraseRelated iterators id l = some (l.filter fun p => p ≠ i) := by
  induction l with
  | nil => rfl
  | cons p rest ih =>
    obtain ⟨q, hq, hiff⟩ := hids p List.mem_cons_self
    obtain ⟨hnot, hrest⟩ := List.nodup_cons.mp hnodup
    have hfound := ih (fun p hp => hids p (List.mem_cons_of_mem _ hp)) hrest
    by_cases hp : p = i
    · subst hp
      have hkept : rest.filter (fun r => r ≠ p) = rest := by
        rw [List.filter_eq_self]
        intro r hr
        simp only [decide_eq_true_eq]
        rintro rfl
        exact hnot hr
      rw [hkept] at hfound
      rw [eraseRelated_cons hq, if_pos (hiff.mpr rfl)]
      cases rest with
      | nil => simp
      | cons r rest =>
        have hne : r ≠ p := by
          rintro rfl
          exact hnot List.mem_cons_self
        obtain ⟨q', hq', hiff'⟩ := hids r (List.mem_cons_of_mem _ List.mem_cons_self)
        rw [eraseRelated_cons hq', if_neg (mt hiff'.mp hne)] at hfound
        rw [List.filter_cons_of_neg (by simp), hkept]
        exact hfound
    · rw [eraseRelated_cons hq, if_neg (mt hiff.mp hp), hfound]
      simp [hp]

/-- Where every queue is alive, the first with the same number goes. -/
theorem removeQueueToGarbage_eq {ids : Heap UInt32} {g : Nat} {l : List Nat} (hg : g ∈ ids)
    (halive : ∀ q ∈ l, q ∈ ids) : removeQueueToGarbage ids g l =
      some (l.eraseP fun q => ids.lookup q = ids.lookup g) := by
  induction l with
  | nil => rfl
  | cons q rest ih =>
    obtain ⟨a, ha⟩ := Option.isSome_iff_exists.mp (AList.lookup_isSome.mpr (halive q (by simp)))
    obtain ⟨c, hc⟩ := Option.isSome_iff_exists.mp (AList.lookup_isSome.mpr hg)
    have hrest := ih fun q hq => halive q (List.mem_cons_of_mem _ hq)
    unfold removeQueueToGarbage
    by_cases hsame : a = c
    · simp [ha, hc, hsame]
    · simp [ha, hc, hsame, hrest]

/-- What the deletion of iterators leaves as it was. -/
structure OnlyIterators (p : Nat) (t t' : AbstractDeviceTracker T) : Prop where
  lowResQueues : t'.lowResQueues = t.lowResQueues
  iteratorIds : t'.iteratorIdToBufferTracker = t.iteratorIdToBufferTracker
  queues : t'.queues = t.queues
  garbageIterators : t'.garbageIterators = t.garbageIterators
  opened : t'.opened = t.opened
  buffers : ∀ q ≠ p, t'.buffers.lookup q = t.buffers.lookup q
  iterators : ∀ j it, t'.iterators.lookup j = some it → t.iterators.lookup j = some it

theorem OnlyIterators.refl (p : Nat) (t : AbstractDeviceTracker T) : OnlyIterators p t t :=
  ⟨rfl, rfl, rfl, rfl, rfl, fun _ _ => rfl, fun _ _ h => h⟩

theorem OnlyIterators.trans {t₁ t₂ t₃ : AbstractDeviceTracker T} (h : OnlyIterators p t₁ t₂)
    (h' : OnlyIterators p t₂ t₃) : OnlyIterators p t₁ t₃ where
  lowResQueues := h'.lowResQueues.trans h.lowResQueues
  iteratorIds := h'.iteratorIds.trans h.iteratorIds
  queues := h'.queues.trans h.queues
  garbageIterators := h'.garbageIterators.trans h.garbageIterators
  opened := h'.opened.trans h.opened
  buffers q hq := (h'.buffers q hq).trans (h.buffers q hq)
  iterators j it hit := h.iterators j it (h'.iterators j it hit)

theorem lookup_of_lookup_erase {iterators : Heap IteratorReader} {j : Nat} {it : IteratorReader}
    (h : (iterators.erase i).lookup j = some it) : iterators.lookup j = some it := by
  rw [lookup_erase_ite] at h
  split at h
  · cases h
  · exact h

theorem OnlyIterators.deleteIterator (h : t.deleteIterator p i = some t') :
    OnlyIterators p t t' := by
  unfold AbstractDeviceTracker.deleteIterator at h
  simp only [Option.bind_eq_bind, Option.bind_eq_some_iff, Option.pure_def,
    Option.some.injEq] at h
  obtain ⟨b, -, it, -, related, -, rfl⟩ := h
  exact ⟨rfl, rfl, rfl, rfl, rfl, fun q hq => AList.lookup_insert_ne hq,
    fun j it hit => lookup_of_lookup_erase hit⟩

theorem OnlyIterators.deleteRelated {fuel n : Nat}
    (h : deleteRelated p fuel n t = some t') : OnlyIterators p t t' := by
  induction fuel generalizing n t with
  | zero =>
    cases h
    exact OnlyIterators.refl p _
  | succ fuel ih =>
    simp only [AbstractDeviceTracker.deleteRelated, Option.bind_eq_bind,
      Option.bind_eq_some_iff] at h
    obtain ⟨b, -, h⟩ := h
    split at h
    · cases h
      exact OnlyIterators.refl p _
    · simp only [Option.bind_eq_some_iff] at h
      obtain ⟨u, hu, h⟩ := h
      exact (OnlyIterators.deleteIterator hu).trans (ih h)

/-! ## A call that comes to its end -/

/-- What `closeBuffer` does to the tracker, for an iterator of the buffer `b`. -/
structure Closed (t : AbstractDeviceTracker T) (i : Nat) (it : IteratorReader) (b : BufferTracker T)
    (t' : AbstractDeviceTracker T) : Prop where
  opened : t'.opened = t.opened.filter fun e => e.1 ≠ i
  iteratorIds : t'.iteratorIdToBufferTracker = t.iteratorIdToBufferTracker.erase it.id
  iterators : ∀ j it', t'.iterators.lookup j = some it' → t.iterators.lookup j = some it'
  kept : b.numberOfReader - 1 ≠ 0 → t'.lowResQueues = t.lowResQueues
  deleted : b.numberOfReader - 1 = 0 → t'.buffers.lookup it.queue = none ∧
    t'.lowResQueues = t.lowResQueues.erase b.key ∧
    t'.garbageIterators = t.garbageIterators.erase b.iteratorGarbage ∧
    removeQueueToGarbage t.garbageIterators b.iteratorGarbage t.queues = some t'.queues

theorem closeBuffer_closed {it : IteratorReader} (hit : t.iterators.lookup i = some it)
    (hid : t.iteratorIdToBufferTracker.lookup it.id = some it.queue)
    (hb : t.buffers.lookup it.queue = some b) (hclose : t.closeBuffer i = some t') :
    Closed t i it b t' := by
  unfold closeBuffer at hclose
  simp only [hit, hid, hb, Option.bind_eq_bind, Option.bind_some, Option.bind_eq_some_iff,
    Option.pure_def] at hclose
  obtain ⟨u, hu, b', hb', hclose⟩ := hclose
  have honly := OnlyIterators.deleteIterator hu
  have hreaders : b'.numberOfReader = b.numberOfReader - 1 ∧
      b'.iteratorGarbage = b.iteratorGarbage := by
    unfold deleteIterator at hu
    simp only [hb, hit, Option.bind_eq_bind, Option.bind_some, Option.bind_eq_some_iff,
      Option.pure_def, Option.some.injEq] at hu
    obtain ⟨related, -, rfl⟩ := hu
    simp only [AList.lookup_insert, Option.some.injEq] at hb'
    subst hb'
    exact ⟨rfl, rfl⟩
  rw [hreaders.1, hreaders.2] at hclose
  split at hclose
  case isTrue hzero =>
    simp only [Option.bind_eq_some_iff] at hclose
    obtain ⟨queues, hqueues, w, hw, hclose⟩ := hclose
    unfold deleteBuffer at hw
    simp only [hb', Option.bind_eq_bind, Option.bind_some, Option.bind_eq_some_iff,
      Option.pure_def, Option.some.injEq] at hw
    obtain ⟨x, hx, rfl⟩ := hw
    have hrest := OnlyIterators.deleteRelated hx
    split at hclose
    case isFalse => cases hclose
    case isTrue =>
      cases hclose
      refine ⟨hrest.opened.trans honly.opened, ?_, ?_, fun hne => absurd hzero hne, fun _ => ?_⟩
      · exact congrArg (AList.erase it.id) (hrest.iteratorIds.trans honly.iteratorIds)
      · exact fun j it' hj => honly.iterators j it' (hrest.iterators j it' hj)
      · refine ⟨AList.lookup_erase _ _, ?_, ?_, ?_⟩
        · exact congrArg (AList.erase b.key) (hrest.lowResQueues.trans honly.lowResQueues)
        · rw [hrest.garbageIterators, hreaders.2]
          exact congrArg (AList.erase b.iteratorGarbage) honly.garbageIterators
        · rw [hrest.queues]
          rw [honly.garbageIterators, honly.queues] at hqueues
          exact hqueues
  case isFalse hzero =>
    cases hclose
    refine ⟨honly.opened, ?_, honly.iterators, fun _ => honly.lowResQueues,
      fun h => absurd h hzero⟩
    exact congrArg (AList.erase it.id) honly.iteratorIds

/-! ## The condition is needed -/

theorem mem_eraseP_of_find? {l : List Nat} {f : Nat → Bool} {q g : Nat}
    (hfind : l.find? f = some q) (hg : g ∈ l) (hne : g ≠ q) : g ∈ l.eraseP f := by
  induction l with
  | nil => cases hg
  | cons a l ih =>
    rw [List.find?_cons] at hfind
    by_cases ha : f a
    · rw [ha] at hfind
      cases hfind
      rw [List.eraseP_cons_of_pos ha]
      exact (List.mem_cons.mp hg).resolve_left hne
    · rw [Bool.not_eq_true] at ha
      rw [ha] at hfind
      rw [List.eraseP_cons_of_neg (by simp [ha])]
      rcases List.mem_cons.mp hg with rfl | hg
      · exact List.mem_cons_self
      · exact List.mem_cons_of_mem _ (ih hfind hg)

theorem key_of_validity {v : UInt64} (hv : b.getValidity = CommonBuffer.atLeastOne v) (hne : v ≠ 0) :
    b.key = bufferKey v b.discretization := by
  unfold BufferTracker.key
  rw [hv, CommonBuffer.atLeastOne, if_neg]
  rw [UInt64.lt_iff_toNat_lt]
  have : v.toNat ≠ 0 := fun h => hne (UInt64.toNat_inj.mp h)
  have : (1 : UInt64).toNat = 1 := rfl
  omega

theorem Inv.key_zero (hv : b.getValidity = CommonBuffer.atLeastOne 0) :
    b.key = bufferKey 1 b.discretization := by
  unfold BufferTracker.key
  rw [hv]
  rfl

/-- A close that leaves a coherent tracker met the condition. -/
theorem canClose_of_coherent (h : t.Inv) (hclose : t.closeBuffer i = some t')
    (hc : t'.Coherent) : t.CanClose i := by
  have hmem : i ∈ t.opened.map Prod.fst := by
    rw [← h.alive, ← AList.lookup_isSome]
    by_contra hnone
    rw [Option.not_isSome_iff_eq_none] at hnone
    simp [closeBuffer, hnone] at hclose
  obtain ⟨v, d, hi⟩ := mem_map_opened.mp hmem
  obtain ⟨it, b, hit, hb, rfl, rfl, hid⟩ := h.iterator hi
  have c := closeBuffer_closed hit hid hb hclose
  have hkey := h.key _ _ hb
  have hcount := h.counted _ _ hb
  rw [h.related _ _ hb] at hcount
  refine ⟨it, b, hmem, hit, hb, ?_, ?_⟩
  · intro e he hsame
    by_contra hne
    obtain ⟨it', -, hit', -, hid', -⟩ := hc.own e (c.opened ▸ mem_opened_filter.mpr ⟨he, hne⟩)
    have hold := c.iterators _ _ hit'
    simp only [idOf, hold, Option.map_some, Option.some.injEq] at hsame
    rw [c.iteratorIds, hsame, AList.lookup_erase] at hid'
    cases hid'
  · dsimp only
    split
    case isTrue halone =>
      rw [halone] at hcount
      have hzero : b.numberOfReader - 1 = b.found := by
        rw [hcount]
        exact UInt32.add_sub_cancel _ _
      have hgone : bufferKey b.requested b.discretization ∉ t'.lowResQueues := by
        rw [hc.requested_iff]
        rintro ⟨⟨j, v', d'⟩, he, hsame⟩
        obtain ⟨rfl, rfl⟩ := bufferKey_inj.mp hsame
        obtain ⟨hj, hne⟩ := mem_opened_filter.mp (c.opened ▸ he)
        have hjmem := mem_openedFor.mpr hj
        rw [halone, List.mem_singleton] at hjmem
        exact hne hjmem
      have hfound : b.found = 0 := by
        by_contra hne
        rw [c.kept (hzero ▸ hne)] at hgone
        exact hgone (mem_of_lookup hkey)
      obtain ⟨-, hlow, hgarbage, hqueues⟩ := c.deleted (hzero.trans hfound)
      refine ⟨hfound, ?_, ?_⟩
      · intro hv
        rw [hlow, Inv.key_zero (hv ▸ h.validity _ _ hb), AList.mem_erase, not_and_or,
          not_not] at hgone
        rcases hgone with hsame | hnot
        · have h01 := (bufferKey_inj.mp hsame).1
          rw [hv] at h01
          exact absurd h01 (by decide)
        · exact hnot (mem_of_lookup hkey)
      · have hpurged := h.purged _ _ hb
        have hg := h.collected _ hpurged
        rw [removeQueueToGarbage_eq hg h.collected, Option.some.injEq] at hqueues
        cases hfind : t.queues.find? fun q => t.garbageIterators.lookup q =
            t.garbageIterators.lookup b.iteratorGarbage with
        | none =>
          have := List.find?_eq_none.mp hfind _ hpurged
          simp at this
        | some q =>
          by_contra hne
          have hstays := mem_eraseP_of_find? hfind hpurged fun heq => hne (by rw [heq])
          rw [hqueues] at hstays
          have halive := hc.collected _ hstays
          rw [hgarbage, AList.mem_erase] at halive
          exact halive.1 rfl
    case isFalse halone =>
      intro hone
      have hgone := (c.deleted (by rw [hcount, hone]; rfl)).1
      obtain ⟨j, hj, hne⟩ : ∃ j ∈ t.openedFor b.requested b.discretization, j ≠ i := by
        by_contra hall
        push Not at hall
        refine halone (List.perm_singleton.mp ?_)
        rw [List.perm_ext_iff_of_nodup (h.openedFor_nodup _ _) (List.nodup_singleton i)]
        intro j
        rw [List.mem_singleton]
        exact ⟨hall j, fun hj => hj ▸ mem_openedFor.mpr hi⟩
      have hjo := mem_openedFor.mp hj
      obtain ⟨it', b', hit', -, -, hb', -⟩ := hc.own _ (c.opened ▸ mem_opened_filter.mpr ⟨hjo, hne⟩)
      obtain ⟨it'', hit'', hlow, -⟩ := h.own _ hjo
      rw [c.iterators _ _ hit'] at hit''
      cases hit''
      rw [hkey] at hlow
      rw [← Option.some.inj hlow, hgone] at hb'
      cases hb'

/-- An open call that leaves a coherent tracker met the condition. -/
theorem canOpen_of_coherent (h : t.Inv) {f : UInt32} (hopen : t.openBuffer v d f = some t')
    (hc : t'.Coherent) : t.CanOpen v d := by
  unfold CanOpen
  cases hkey : t.lowResQueues.lookup (bufferKey v d) with
  | some p =>
    obtain ⟨b, hb, -⟩ := h.buffer _ _ hkey
    have hknown : bufferKey v d ∈ t.lowResQueues := mem_of_lookup hkey
    rw [openBuffer_known hkey hb] at hopen
    cases hopen
    simp only [hknown, if_true, true_and]
    exact h.ids_of_coherent hkey hc
  | none =>
    obtain ⟨queue, hqueue, hnew⟩ := openBuffer_new (f := f) hkey
    have hunknown : bufferKey v d ∉ t.lowResQueues := by
      rw [← AList.lookup_isSome, hkey]
      simp
    rw [hnew] at hopen
    cases hopen
    simp only [hunknown, if_false, false_and, imp_false]
    intro e he hsame
    have hacc := Inv.withBuffer h (f := f) hqueue hkey
    have hreq := hacc.ids_of_coherent (AList.lookup_insert _) hc e he hsame
    obtain ⟨it, -, hlow, -⟩ := h.own e he
    rw [hreq, hkey] at hlow
    cases hlow

theorem openBuffer_inv (h : t.Inv) (f : UInt32) (hcan : t.CanOpen v d) :
    ∃ t', t.openBuffer v d f = some t' ∧ t'.Inv := by
  unfold CanOpen at hcan
  cases hkey : t.lowResQueues.lookup (bufferKey v d) with
  | some p =>
    obtain ⟨b, hb, -⟩ := h.buffer _ _ hkey
    simp only [mem_of_lookup hkey, if_true, true_and] at hcan
    exact ⟨_, openBuffer_known hkey hb,
      Accounts.withIterator h (fun _ hno => hno.elim) hkey hb hcan⟩
  | none =>
    obtain ⟨queue, hqueue, hnew⟩ := openBuffer_new (f := f) hkey
    have hunknown : bufferKey v d ∉ t.lowResQueues := by
      rw [← AList.lookup_isSome, hkey]
      simp
    simp only [hunknown, if_false, false_and, imp_false] at hcan
    have hacc := Inv.withBuffer h (f := f) hqueue hkey
    refine ⟨_, hnew, hacc.withIterator (fun _ heq => heq) (AList.lookup_insert _)
      (AList.lookup_insert _) ?_⟩
    exact fun e he hsame => absurd hsame (hcan e he)

/-! ## The closed tracker -/

/-- The number of the iterator is that of no other one in the list of its buffer. -/
theorem eraseRelated_related (h : t.Inv) {it : IteratorReader} (hit : t.iterators.lookup i = some it)
    (hb : t.buffers.lookup it.queue = some b)
    (halone : ∀ e ∈ t.opened, t.idOf e.1 = some it.id → e.1 = i) :
    eraseRelated t.iterators it.id b.relatedIterators =
      some (b.relatedIterators.filter fun j => j ≠ i) := by
  rw [h.related _ _ hb]
  refine eraseRelated_eq ?_ (h.openedFor_nodup _ _)
  intro j hj
  have hjo := mem_openedFor.mp hj
  obtain ⟨q, hq, -⟩ := h.own _ hjo
  refine ⟨q, hq, ?_, ?_⟩
  · intro hsame
    exact halone _ hjo (by simp [idOf, hq, hsame])
  · rintro rfl
    rw [hit] at hq
    cases hq
    rfl

theorem closeBuffer_kept (h : t.Inv) {it : IteratorReader} (hit : t.iterators.lookup i = some it)
    (hid : t.iteratorIdToBufferTracker.lookup it.id = some it.queue)
    (hb : t.buffers.lookup it.queue = some b)
    (halone : ∀ e ∈ t.opened, t.idOf e.1 = some it.id → e.1 = i)
    (hmore : b.numberOfReader - 1 ≠ 0) :
    t.closeBuffer i = some (t.withoutIterator i it b) := by
  simp [closeBuffer, hit, hid, hb, deleteIterator, eraseRelated_related h hit hb halone, hmore,
    withoutIterator]

theorem find?_eraseP {l : List Nat} {f : Nat → Bool} {g : Nat} (hfind : l.find? f = some g) :
    l.eraseP f = l.erase g := by
  induction l with
  | nil => rfl
  | cons a l ih =>
    rw [List.find?_cons] at hfind
    by_cases ha : f a
    · rw [ha] at hfind
      cases hfind
      simp [List.eraseP_cons_of_pos ha]
    · have hne : a ≠ g := by
        rintro rfl
        split at hfind
        · contradiction
        · exact ha (List.find?_some hfind)
      rw [Bool.not_eq_true] at ha
      rw [ha] at hfind
      rw [List.eraseP_cons_of_neg (by simp [ha]), List.erase_cons_tail (by simpa using hne), ih hfind]

theorem closeBuffer_last (h : t.Inv) {it : IteratorReader} (hit : t.iterators.lookup i = some it)
    (hid : t.iteratorIdToBufferTracker.lookup it.id = some it.queue)
    (hb : t.buffers.lookup it.queue = some b)
    (halone : ∀ e ∈ t.opened, t.idOf e.1 = some it.id → e.1 = i)
    (hothers : b.relatedIterators = [i]) (hlast : t.CanCloseLast b) :
    t.closeBuffer i = some ((t.withoutIterator i it b).withoutBuffer it.queue b) := by
  obtain ⟨hfound, hrequested, hfirst⟩ := hlast
  have hcount : b.numberOfReader - 1 = 0 := by
    rw [h.counted _ _ hb, hfound, hothers, List.length_singleton]
    rfl
  have hkey : b.key = bufferKey b.requested b.discretization :=
    key_of_validity (h.validity _ _ hb) hrequested
  have hmem := mem_of_lookup (h.key _ _ hb)
  have hqueues := removeQueueToGarbage_eq (h.collected _ (h.purged _ _ hb)) h.collected
  rw [find?_eraseP hfirst] at hqueues
  have hrelated := eraseRelated_related h hit hb halone
  simp only [hothers, ne_eq, decide_not, List.filter_cons, decide_true, Bool.not_true,
    Bool.false_eq_true, if_false, List.filter_nil] at hrelated
  simp [closeBuffer, hit, hid, hb, deleteIterator, hothers, hrelated, hcount, hqueues, deleteBuffer,
    deleteRelated, hkey, hmem, withoutIterator, withoutBuffer]

theorem closeBuffer_inv (h : t.Inv) (hcan : t.CanClose i) :
    ∃ t', t.closeBuffer i = some t' ∧ t'.Inv := by
  obtain ⟨it, b, hi, hit, hb, halone, hcount⟩ := hcan
  obtain ⟨v, d, hreq⟩ := mem_map_opened.mp hi
  obtain ⟨it', b', hit', hb', hv, hd, hid⟩ := h.iterator hreq
  rw [hit] at hit'
  cases hit'
  rw [hb] at hb'
  cases hb'
  have hrelated := h.related _ _ hb
  have hacc := Inv.withoutIterator h hi hit hb halone
  dsimp only at hcount
  rw [← hrelated] at hcount
  by_cases hothers : b.relatedIterators = [i]
  · rw [if_pos hothers] at hcount
    refine ⟨_, closeBuffer_last h hit hid hb halone hothers hcount, ?_⟩
    refine hacc.withoutBuffer ?_ (AList.lookup_insert _) rfl rfl rfl
    rintro ⟨j, v', d'⟩ he hsame
    obtain ⟨he, hne⟩ := mem_opened_filter.mp he
    obtain ⟨rfl, rfl⟩ := Prod.mk.inj hsame
    have hj := mem_openedFor.mpr he
    rw [← hrelated, hothers, List.mem_singleton] at hj
    exact hne hj
  · rw [if_neg hothers] at hcount
    have hmore : b.numberOfReader - 1 ≠ 0 := by
      rw [h.counted _ _ hb]
      intro hzero
      have hone := congrArg (· + 1) hzero
      simp only [UInt32.sub_add_cancel] at hone
      exact hcount hone
    refine ⟨_, closeBuffer_kept h hit hid hb halone hmore, ?_⟩
    have hnone : (fun k => k = bufferKey b.requested b.discretization ∧
        b.relatedIterators = [i]) = fun _ => False := by
      funext k
      simp [hothers]
    rw [hnone] at hacc
    exact hacc

/-! ## Every run -/

theorem canStep_inv (h : t.Inv) (op : Op) (hcan : t.CanStep op) :
    ∃ t', t.step op = some t' ∧ t'.Inv := by
  cases op with
  | openBuffer v d f => exact openBuffer_inv h f hcan
  | closeBuffer i => exact closeBuffer_inv h hcan
  | newIdElsewhere =>
    refine ⟨_, rfl, ?_⟩
    exact ⟨h.requested, h.buffer, h.own, h.collected, h.key, h.validity, h.related, h.counted,
      h.nodup, h.alive, h.purged, h.apart, h.queues_nodup, h.bounded⟩

theorem canStep_of_keeps (h : t.Inv) (op : Op) (hkeeps : t.Keeps op) : t.CanStep op := by
  obtain ⟨t', hstep, hc⟩ := hkeeps
  cases op with
  | openBuffer v d f => exact canOpen_of_coherent h hstep hc
  | closeBuffer i => exact canClose_of_coherent h hstep hc
  | newIdElsewhere => trivial

theorem keeps_iff (h : t.Inv) (op : Op) : t.Keeps op ↔ t.CanStep op := by
  constructor
  · exact canStep_of_keeps h op
  · intro hcan
    obtain ⟨t', hstep, hinv⟩ := canStep_inv h op hcan
    exact ⟨t', hstep, hinv.coherent⟩

theorem Inv.new (T : Type) (lastNumber : UInt32) (started : Option UInt32) :
    (new T lastNumber started).Inv := by
  constructor <;> cases started <;>
    simp [AbstractDeviceTracker.new, AList.mem_insert, -AList.insert_empty]

/-- Every call of a run is defined and leaves the tracker coherent just when every call of it
meets the condition. -/
theorem device_buffers_are_coherent_iff (T : Type) (lastNumber : UInt32) (started : Option UInt32)
    (ops : List Op) :
    RunOk step Keeps (new T lastNumber started) ops ↔
      RunOk step CanStep (new T lastNumber started) ops := by
  refine runOk_congr Inv (fun t op h => keeps_iff h op) ?_ (Inv.new T lastNumber started)
  intro t op t' h hkeeps hstep
  obtain ⟨u, hu, hinv⟩ := canStep_inv h op (canStep_of_keeps h op hkeeps)
  rw [hstep] at hu
  cases hu
  exact hinv

/-- What a caller of `closeBuffer` promises. -/
def ClosesOpened (t : AbstractDeviceTracker T) : Op → Prop
  | .closeBuffer iterator => iterator ∈ t.opened.map Prod.fst
  | _ => True

instance (t : AbstractDeviceTracker T) (op : Op) : Decidable (t.ClosesOpened op) := by
  cases op <;> unfold ClosesOpened <;> infer_instance

/-- An iterator with the validity 0 is opened and closed. -/
def zeroValidity : List Op := [.openBuffer 0 5 0, .closeBuffer 3]

theorem run_ends_of_keeps {t : AbstractDeviceTracker T} {ops : List Op}
    (hok : RunOk step Keeps t ops) : ∃ t', run step t ops = some t' := by
  have hend := run_ends_of_ok (fun _ => True)
    (fun s op _ hkeeps => hkeeps.imp fun _ h => ⟨h.1, trivial⟩) trivial hok
  exact hend.imp fun _ h => h.1

/-- The buffer is found under `0:5` and removed under `1:5`, a key that is not there. -/
theorem zero_validity_is_undefined : RunOk step ClosesOpened (new Unit 0 none) zeroValidity ∧
    ¬ RunOk step Keeps (new Unit 0 none) zeroValidity := by
  refine ⟨by decide +kernel, ?_⟩
  intro hok
  obtain ⟨t', hend⟩ := run_ends_of_keeps hok
  have hnone : run step (new Unit 0 none) zeroValidity = none := by decide +kernel
  rw [hnone] at hend
  cases hend

end AbstractDeviceTracker

end chaos.caching_system.caching_thread
