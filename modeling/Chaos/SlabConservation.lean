-- The laws of the cache of one channel. A slab that the collector takes from the queue while it is
-- held is lost when the last accessor releases it, and a slab that the pool does not have is a
-- NULL pointer that the next calls go through. What the runs keep in which neither happens.
import Mathlib.Data.List.Nodup
import Mathlib.Data.List.Count
import Mathlib.Data.List.Perm.Basic
import Mathlib.Data.List.ReduceOption
import Chaos.LFDataCache
import Chaos.Runs

namespace chaos.common.data.cache

open runs

namespace LFDataCache

/-! ## What is claimed -/

/-- Every slab that was not given back can still be found, and no slab was given back twice or
while it is held. -/
structure Sound (s : LFDataCache) : Prop where
  found : ∀ slab < s.allocated, slab ∉ s.returned →
    (∃ index, s.rwPtr index = some slab) ∨ some slab ∈ s.garbageableSlab ∨ slab ∈ s.accessors
  notHeld : ∀ slab ∈ s.returned, slab ∉ s.accessors
  once : s.returned.Nodup

/-- What a call must do: it goes through no NULL slab, and the cache is sound when it returns. -/
structure KeepsSlabs (s : LFDataCache) (c : CacheCall) : Prop where
  noNull : (s.call c).2 ≠ .nullSlab
  sound : (s.call c).2 = .returned → (s.call c).1.Sound

/-- The condition on a call: the slab that it uses was allocated, and the last accessor of a slab
is not released when the collector took the slab from the queue before. -/
def SlabIsThere (s : LFDataCache) : CacheCall → Prop
  | .updateValue _ _ => s.rwPtr s.writeIndex ≠ none
  | .getCurrentCachedPtr => s.rwPtr s.readIndex ≠ none
  | .release slab => slab ∈ s.dropped → slab ∈ s.accessors.erase slab
  | .garbageCache => none ∉ s.garbageableSlab

/-! ## The invariant -/

/-- The slabs that the cache finds by itself. -/
def visible (s : LFDataCache) : List SlabRef :=
  (s.rwPtr s.writeIndex :: s.rwPtr s.readIndex :: s.garbageableSlab).reduceOption

/-- The slabs that were not given back, each in its place. -/
def places (s : LFDataCache) : List SlabRef := s.visible ++ s.dropped

/-- Each slab is in one place or was given back once, and its count is one more than the number of
its accessors. -/
structure Inv (s : LFDataCache) : Prop where
  indexes : s.readIndex = !s.writeIndex
  perm : (s.places ++ s.returned).Perm (List.range s.allocated)
  held : ∀ slab ∈ s.accessors, slab ∈ s.places
  counted : ∀ slab ∈ s.places,
    (s.references slab).toNat = (1 + s.accessors.count slab) % 2 ^ 32
  few : ∀ slab, s.accessors.count slab < 2 ^ 32

variable {s t : LFDataCache} {slab : SlabRef}

namespace Inv

theorem nodup (h : Inv s) : (s.places ++ s.returned).Nodup :=
  h.perm.nodup_iff.mpr List.nodup_range

theorem lt_allocated (h : Inv s) (hslab : slab ∈ s.places) : slab < s.allocated :=
  List.mem_range.mp (h.perm.mem_iff.mp (List.mem_append_left _ hslab))

theorem not_returned (h : Inv s) (hslab : slab ∈ s.places) : slab ∉ s.returned :=
  fun hreturned => List.disjoint_of_nodup_append h.nodup hslab hreturned

/-- A count of 1 means that nobody holds the slab. -/
theorem references_eq_one_iff (h : Inv s) (hslab : slab ∈ s.places) :
    s.references slab = 1 ↔ slab ∉ s.accessors := by
  have hcounted := h.counted slab hslab
  have hfew := h.few slab
  have hone : (1 : UInt32).toNat = 1 := rfl
  rw [← UInt32.toNat_inj, hcounted, hone, ← List.count_eq_zero]
  omega

theorem mem_visible (h : Inv s) : slab ∈ s.visible ↔
    (∃ index, s.rwPtr index = some slab) ∨ some slab ∈ s.garbageableSlab := by
  rw [visible, List.reduceOption_mem_iff, List.mem_cons, List.mem_cons, h.indexes, ← or_assoc]
  refine or_congr_left ⟨?_, ?_⟩
  · rintro (hptr | hptr)
    · exact ⟨_, hptr.symm⟩
    · exact ⟨_, hptr.symm⟩
  · rintro ⟨index, hptr⟩
    rcases Bool.eq_or_eq_not index s.writeIndex with rfl | rfl
    · exact .inl hptr.symm
    · exact .inr hptr.symm

/-- The cache is sound just when each slab that was dropped is still held. -/
theorem sound_iff (h : Inv s) : Sound s ↔ ∀ slab ∈ s.dropped, slab ∈ s.accessors := by
  have hdisjoint := List.disjoint_of_nodup_append (List.nodup_append.mp h.nodup).1
  constructor
  · intro hsound slab hdropped
    have hplace : slab ∈ s.places := List.mem_append_right _ hdropped
    have hfound := hsound.found slab (h.lt_allocated hplace) (h.not_returned hplace)
    rw [← or_assoc, ← h.mem_visible] at hfound
    rcases hfound with hvisible | hheld
    · exact absurd hdropped (hdisjoint hvisible)
    · exact hheld
  · intro hdropped
    refine ⟨?_, ?_, (List.nodup_append.mp h.nodup).2.1⟩
    · intro slab hlt hreturned
      have hmem := h.perm.mem_iff.mpr (List.mem_range.mpr hlt)
      rw [← or_assoc, ← h.mem_visible]
      rcases List.mem_append.mp hmem with hplace | hback
      · exact (List.mem_append.mp hplace).imp_right (hdropped slab)
      · exact absurd hback hreturned
    · intro slab hreturned hheld
      exact h.not_returned (h.held slab hheld) hreturned

/-! ## The calls -/

/-- The swap only moves the slabs, and adds the new one. -/
theorem places_swapRWIndex (h : Inv s) (given : Bool) :
    (s.swapRWIndex given).places.Perm
      ((if given then [s.allocated] else []) ++ s.places) := by
  have hother : s.writeIndex ≠ !s.writeIndex := by simp
  have hqueue : (s.rwPtr s.writeIndex :: (s.garbageableSlab ++ [s.rwPtr s.readIndex])).Perm
      (s.rwPtr s.writeIndex :: s.rwPtr s.readIndex :: s.garbageableSlab) :=
    (List.perm_append_singleton _ _).cons _
  have hvisible := (hqueue.filterMap id).append_right s.dropped
  rw [h.indexes] at hvisible
  cases given with
  | false =>
    simpa [places, visible, LFDataCache.swapRWIndex, makeNewChachedInfoPtr, h.indexes,
      Function.update_of_ne hother, List.reduceOption] using hvisible
  | true =>
    simpa [places, visible, LFDataCache.swapRWIndex, makeNewChachedInfoPtr, h.indexes,
      Function.update_of_ne hother, List.reduceOption] using hvisible.cons s.allocated

/-- The new slab has the next number, and nobody holds it. -/
theorem swapRWIndex (h : Inv s) (given : Bool) : Inv (s.swapRWIndex given) := by
  have hplaces := h.places_swapRWIndex given
  cases given with
  | false =>
    refine ⟨?_, ?_, ?_, ?_, h.few⟩
    · exact (Bool.not_not _).symm
    · exact (hplaces.append_right _).trans h.perm
    · intro r hr
      exact hplaces.mem_iff.mpr (h.held r hr)
    · intro r hr
      exact h.counted r (hplaces.mem_iff.mp hr)
  | true =>
    refine ⟨?_, ?_, ?_, ?_, h.few⟩
    · exact (Bool.not_not _).symm
    · have hrange : (s.allocated :: (s.places ++ s.returned)).Perm
          (List.range (s.allocated + 1)) := by
        rw [List.range_succ]
        exact (h.perm.cons _).trans (List.perm_append_singleton _ _).symm
      exact (hplaces.append_right _).trans hrange
    · intro r hr
      exact hplaces.mem_iff.mpr (List.mem_append_right _ (h.held r hr))
    · intro r hr
      change (Function.update s.references s.allocated 1 r).toNat = _
      rcases List.mem_append.mp (hplaces.mem_iff.mp hr) with hnew | hold
      · cases List.mem_singleton.mp hnew
        have hfree : s.allocated ∉ s.accessors := fun hheld =>
          Nat.lt_irrefl _ (h.lt_allocated (h.held _ hheld))
        rw [Function.update_self]
        change _ = (1 + s.accessors.count s.allocated) % 2 ^ 32
        rw [List.count_eq_zero_of_not_mem hfree]
        rfl
      · rw [Function.update_of_ne (Nat.ne_of_lt (h.lt_allocated hold))]
        exact h.counted r hold

theorem getCurrentCachedPtr (h : Inv s) (hread : s.rwPtr s.readIndex = some slab)
    (hcount : s.references slab ≠ 0) : Inv s.getCurrentCachedPtr.1 := by
  have hplace : slab ∈ s.places := List.mem_append_left _ (h.mem_visible.mpr (.inl ⟨_, hread⟩))
  have hcounted := h.counted slab hplace
  have hfew := h.few slab
  have hpos : (s.references slab).toNat ≠ 0 := fun hzero => hcount (UInt32.toNat_inj.mp hzero)
  unfold LFDataCache.getCurrentCachedPtr
  rw [hread]
  dsimp only
  rw [if_neg hcount]
  refine ⟨h.indexes, h.perm, ?_, ?_, ?_⟩
  · intro r hr
    rcases List.mem_append.mp hr with hr | hr
    · exact h.held r hr
    · rw [List.mem_singleton.mp hr]
      exact hplace
  · intro r hr
    dsimp only
    by_cases heq : r = slab
    · subst heq
      have hone : (1 : UInt32).toNat = 1 := rfl
      rw [Function.update_self, UInt32.toNat_add, hone, List.count_append,
        List.count_singleton_self]
      omega
    · rw [Function.update_of_ne heq, List.count_append, List.count_singleton,
        if_neg (by simpa using Ne.symm heq)]
      exact h.counted r hr
  · intro r
    dsimp only
    by_cases heq : r = slab
    · subst heq
      rw [List.count_append, List.count_singleton_self]
      omega
    · rw [List.count_append, List.count_singleton, if_neg (by simpa using Ne.symm heq)]
      exact h.few r

theorem release (h : Inv s) (slab : SlabRef) : Inv (s.release slab) := by
  unfold LFDataCache.release
  split
  · rename_i hheld
    have hcounted := h.counted slab (h.held slab hheld)
    have hpos := List.count_pos_iff.mpr hheld
    have hfew := h.few slab
    refine ⟨h.indexes, h.perm, ?_, ?_, ?_⟩
    · intro r hr
      exact h.held r (List.mem_of_mem_erase hr)
    · intro r hr
      dsimp only
      by_cases heq : r = slab
      · subst heq
        have hone : (1 : UInt32).toNat = 1 := rfl
        rw [Function.update_self, UInt32.toNat_sub, hone, List.count_erase_self]
        omega
      · rw [Function.update_of_ne heq, List.count_erase_of_ne heq]
        exact h.counted r hr
    · intro r
      exact Nat.lt_of_le_of_lt (List.erase_sublist.count_le r) (h.few r)
  · exact h

/-- A slab that is taken from the queue is given back, or it is held. -/
theorem collect {rest : List (Option SlabRef)}
    (h : Inv { s with garbageableSlab := some slab :: rest })
    (hdropped : ∀ r ∈ s.dropped, r ∈ s.accessors) :
    Inv { s.collect slab with garbageableSlab := rest } ∧
      ∀ r ∈ (s.collect slab).dropped, r ∈ (s.collect slab).accessors := by
  have htaken : List.Perm ({ s with garbageableSlab := some slab :: rest } : LFDataCache).visible
      (slab :: ({ s with garbageableSlab := rest } : LFDataCache).visible) := by
    have hfront : (s.rwPtr s.writeIndex :: s.rwPtr s.readIndex :: some slab :: rest).Perm
        (some slab :: s.rwPtr s.writeIndex :: s.rwPtr s.readIndex :: rest) :=
      ((List.Perm.swap _ _ _).cons _).trans (List.Perm.swap _ _ _)
    exact hfront.filterMap id
  have hplaces : List.Perm
      ({ s with garbageableSlab := some slab :: rest } : LFDataCache).places
      (slab :: ({ s with garbageableSlab := rest } : LFDataCache).places) :=
    htaken.append_right _
  have hone := h.references_eq_one_iff (hplaces.mem_iff.mpr List.mem_cons_self)
  unfold LFDataCache.collect
  split
  · rename_i href
    have hfree : slab ∉ s.accessors := hone.mp href
    have hnodup := hplaces.nodup_iff.mp (List.nodup_append.mp h.nodup).1
    refine ⟨⟨h.indexes, ?_, ?_, ?_, h.few⟩, hdropped⟩
    · refine List.Perm.trans ?_ h.perm
      refine List.Perm.trans ?_ (hplaces.symm.append_right _)
      rw [← List.append_assoc]
      exact List.perm_append_singleton _ _
    · intro r hr
      rcases List.mem_cons.mp (hplaces.mem_iff.mp (h.held r hr)) with rfl | hrest
      · exact absurd hr hfree
      · exact hrest
    · intro r hr
      have hne : r ≠ slab := by
        rintro rfl
        exact (List.nodup_cons.mp hnodup).1 hr
      dsimp only
      rw [Function.update_of_ne hne]
      exact h.counted r (hplaces.mem_iff.mpr (List.mem_cons_of_mem _ hr))
  · rename_i href
    have hheld : slab ∈ s.accessors := not_not.mp fun hfree => href (hone.mpr hfree)
    have hmoved : List.Perm
        ({ s with garbageableSlab := rest, dropped := s.dropped ++ [slab] } : LFDataCache).places
        ({ s with garbageableSlab := some slab :: rest } : LFDataCache).places := by
      rw [places, ← List.append_assoc]
      exact (List.perm_append_singleton _ _).trans hplaces.symm
    constructor
    · refine ⟨h.indexes, (hmoved.append_right _).trans h.perm, ?_, ?_, h.few⟩
      · intro r hr
        exact hmoved.mem_iff.mpr (h.held r hr)
      · intro r hr
        exact h.counted r (hmoved.mem_iff.mp hr)
    · intro r hr
      rcases List.mem_append.mp hr with hr | hr
      · exact hdropped r hr
      · rw [List.mem_singleton.mp hr]
        exact hheld

/-- The loop of the collector, by induction on the queue. -/
theorem garbageLoop {queue : List (Option SlabRef)} (h : Inv { s with garbageableSlab := queue })
    (hdropped : ∀ r ∈ s.dropped, r ∈ s.accessors) (hqueue : none ∉ queue) :
    (s.garbageLoop queue).2 = .returned ∧ Inv (s.garbageLoop queue).1 ∧
      ∀ r ∈ (s.garbageLoop queue).1.dropped, r ∈ (s.garbageLoop queue).1.accessors := by
  induction queue generalizing s with
  | nil => exact ⟨rfl, h, hdropped⟩
  | cons p rest ih =>
    cases p with
    | none => exact absurd List.mem_cons_self hqueue
    | some slab =>
      obtain ⟨hnext, hheld⟩ := h.collect hdropped
      exact ih hnext hheld fun hrest => hqueue (List.mem_cons_of_mem _ hrest)

end Inv

theorem garbageLoop_null {queue : List (Option SlabRef)} (hqueue : none ∈ queue) :
    (s.garbageLoop queue).2 = .nullSlab := by
  induction queue generalizing s with
  | nil => cases hqueue
  | cons p rest ih =>
    cases p with
    | none => rfl
    | some slab =>
      exact ih ((List.mem_cons.mp hqueue).resolve_left (Option.some_ne_none slab).symm)

/-! ## Every call -/

/-- The states of the runs that meet the condition. -/
structure Good (s : LFDataCache) : Prop where
  inv : Inv s
  held : ∀ slab ∈ s.dropped, slab ∈ s.accessors

theorem updateValue_cases (s : LFDataCache) (legth : UInt32) (given : Bool) :
    s.rwPtr s.writeIndex = none ∧ s.updateValue legth given = (s, .nullSlab) ∨
      s.rwPtr s.writeIndex ≠ none ∧ (s.updateValue legth given = (s, .undefined) ∨
        s.updateValue legth given = (s.swapRWIndex given, .returned)) := by
  unfold updateValue
  cases s.rwPtr s.writeIndex with
  | none => exact .inl ⟨rfl, rfl⟩
  | some written =>
    refine .inr ⟨Option.some_ne_none _, ?_⟩
    by_cases hlong : s.maxLength < (if legth = 0 then s.maxLength else legth)
    · exact .inl (if_pos hlong)
    · exact .inr (if_neg hlong)

theorem getCurrentCachedPtr_cases (s : LFDataCache) :
    s.rwPtr s.readIndex = none ∧ s.getCurrentCachedPtr = (s, .nullSlab) ∨
      s.rwPtr s.readIndex ≠ none ∧ (s.getCurrentCachedPtr = (s, .undefined) ∨
        s.getCurrentCachedPtr.2 = .returned ∧ s.getCurrentCachedPtr.1.dropped = s.dropped ∧
          (∀ slab ∈ s.accessors, slab ∈ s.getCurrentCachedPtr.1.accessors) ∧
          (Inv s → Inv s.getCurrentCachedPtr.1)) := by
  cases hread : s.rwPtr s.readIndex with
  | none =>
    refine .inl ⟨rfl, ?_⟩
    simp only [getCurrentCachedPtr, hread]
  | some slab =>
    refine .inr ⟨Option.some_ne_none _, ?_⟩
    by_cases hzero : s.references slab = 0
    · refine .inl ?_
      simp only [getCurrentCachedPtr, hread, if_pos hzero]
    · refine .inr ⟨?_, ?_, ?_, fun h => h.getCurrentCachedPtr hread hzero⟩
      · simp only [getCurrentCachedPtr, hread, if_neg hzero]
      · simp only [getCurrentCachedPtr, hread, if_neg hzero]
      · intro r hr
        simp only [getCurrentCachedPtr, hread, if_neg hzero]
        exact List.mem_append_left _ hr

/-- A call that returns keeps the invariant, whatever was dropped. -/
theorem Good.inv_call (h : Good s) {c : CacheCall} (hret : (s.call c).2 = .returned) :
    Inv (s.call c).1 := by
  cases c with
  | updateValue legth given =>
    simp only [call] at hret ⊢
    rcases s.updateValue_cases legth given with ⟨-, hcall⟩ | ⟨-, hcall | hcall⟩
    · cases hcall ▸ hret
    · cases hcall ▸ hret
    · rw [hcall]
      exact h.inv.swapRWIndex given
  | getCurrentCachedPtr =>
    simp only [call] at hret ⊢
    rcases s.getCurrentCachedPtr_cases with ⟨-, hcall⟩ | ⟨-, hcall | ⟨-, -, -, hinv⟩⟩
    · cases hcall ▸ hret
    · cases hcall ▸ hret
    · exact hinv h.inv
  | release slab => exact h.inv.release slab
  | garbageCache =>
    by_cases hqueue : none ∈ s.garbageableSlab
    · cases (garbageLoop_null hqueue).symm.trans hret
    · exact (h.inv.garbageLoop h.held hqueue).2.1

/-- The slabs that were dropped are held after the release of another one, or by another
accessor. -/
theorem held_release_iff (h : Good s) (slab : SlabRef) :
    (∀ r ∈ (s.release slab).dropped, r ∈ (s.release slab).accessors) ↔
      (slab ∈ s.dropped → slab ∈ s.accessors.erase slab) := by
  unfold LFDataCache.release
  split
  · constructor
    · intro hheld hdropped
      exact hheld slab hdropped
    · intro hheld r hr
      by_cases heq : r = slab
      · subst heq
        exact hheld hr
      · exact (List.mem_erase_of_ne heq).mpr (h.held r hr)
  · rename_i hfree
    exact iff_of_true h.held fun hdropped => absurd (h.held slab hdropped) hfree

/-- A call keeps the slabs just when the slab that it needs is there. -/
theorem keepsSlabs_iff (h : Good s) (c : CacheCall) : s.KeepsSlabs c ↔ s.SlabIsThere c := by
  cases c with
  | updateValue legth given =>
    rcases s.updateValue_cases legth given with ⟨hptr, hcall⟩ | ⟨hptr, hcall | hcall⟩
    · exact iff_of_false (fun hkeeps => hkeeps.noNull (by rw [call, hcall])) (not_not.mpr hptr)
    · refine iff_of_true ⟨?_, ?_⟩ hptr <;> rw [call, hcall] <;> exact nofun
    · refine iff_of_true ⟨?_, fun hret => (h.inv_call hret).sound_iff.mpr ?_⟩ hptr
      · rw [call, hcall]
        exact nofun
      · rw [call, hcall]
        cases given <;> exact h.held
  | getCurrentCachedPtr =>
    rcases s.getCurrentCachedPtr_cases with
      ⟨hptr, hcall⟩ | ⟨hptr, hcall | ⟨hret, hdropped, hheld, -⟩⟩
    · exact iff_of_false (fun hkeeps => hkeeps.noNull (by rw [call, hcall])) (not_not.mpr hptr)
    · refine iff_of_true ⟨?_, ?_⟩ hptr <;> rw [call, hcall] <;> exact nofun
    · refine iff_of_true ⟨?_, fun hret => (h.inv_call hret).sound_iff.mpr ?_⟩ hptr
      · rw [call, hret]
        exact nofun
      · intro r hr
        exact hheld r (h.held r (hdropped ▸ hr))
  | release slab =>
    refine Iff.trans ?_ (held_release_iff h slab)
    refine Iff.trans ⟨fun hkeeps => hkeeps.sound rfl, fun hsound => ⟨nofun, fun _ => hsound⟩⟩ ?_
    exact (h.inv.release slab).sound_iff
  | garbageCache =>
    by_cases hqueue : none ∈ s.garbageableSlab
    · exact iff_of_false (fun hkeeps => hkeeps.noNull (garbageLoop_null hqueue))
        (not_not.mpr hqueue)
    · obtain ⟨hret, hinv, hheld⟩ := h.inv.garbageLoop h.held hqueue
      refine iff_of_true ⟨?_, fun _ => hinv.sound_iff.mpr hheld⟩ hqueue
      intro hnull
      cases hret.symm.trans hnull

theorem init_good (maxLength : UInt32) (references : SlabRef → UInt32) (first second : Bool) :
    Good (init maxLength references first second) := by
  refine ⟨⟨?_, ?_, ?_, ?_, ?_⟩, ?_⟩
  · cases first <;> cases second <;> rfl
  · cases first <;> cases second <;> exact List.Perm.refl _
  · cases first <;> cases second <;> exact nofun
  · cases first <;> cases second <;>
      simp [init, makeNewChachedInfoPtr, places, visible, List.reduceOption]
  · intro r
    cases first <;> cases second <;> exact Nat.two_pow_pos 32
  · cases first <;> cases second <;> exact nofun

end LFDataCache

end chaos.common.data.cache
