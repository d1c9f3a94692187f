-- Which responses the waits of a semaphore can take, whatever its threads do and in whatever order: a
-- semaphore is made for one key, and only responses with this key come to it.
import Chaos.SyncRequests

namespace chaos.common.thread.MultiKeyObjectWaitSemaphore

open numbered_list

variable {K : Type*} {s t : MultiKeyObjectWaitSemaphore K}

/-! ## The keys of the semaphores -/

/-- Every semaphore was made for one key, and every response is where its own key is. -/
structure Keyed (keyOf : Nat → K) (s : MultiKeyObjectWaitSemaphore K) : Prop where
  mapped : ∀ key ks, s.keySemaphoreMap key = some (some ks) → ks < s.next ∧ keyOf ks = key
  waiting : ∀ thread w, s.waiters thread = some w → w.ks < s.next ∧ keyOf w.ks = w.waitOnKey
  setting : ∀ r, s.setter = some r → r.ks < s.next ∧ keyOf r.ks = r.key
  set : ∀ r, s.setter = some r → s.arrived[r.obj]? = some r.key
  sems : ∀ ks sem obj, ks < s.next → s.sems ks = some sem → sem.objecForWait = some obj →
    s.arrived[obj]? = some (keyOf ks)
  taken : ∀ thread w obj, s.waiters thread = some w → w.phase = .returning (some obj) →
    s.arrived[obj]? = some w.waitOnKey

theorem Keyed.start (keyOf : Nat → K) : Keyed keyOf {} := by
  refine ⟨?_, ?_, ?_, ?_, ?_, ?_⟩ <;> simp

/-- A key for the semaphore that is made next. -/
theorem Keyed.initKey [DecidableEq K] {keyOf : Nat → K} (h : Keyed keyOf s) {key : K}
    (hs : s.initKey key = some t) : Keyed (Function.update keyOf s.next key) t ∧
      (∀ k ks, t.keySemaphoreMap k = some (some ks) →
        s.keySemaphoreMap k = some (some ks) ∨ k = key) ∧
      t.waiters = s.waiters ∧ t.arrived = s.arrived := by
  have hold {ks : Nat} (hlt : ks < s.next) : Function.update keyOf s.next key ks = keyOf ks :=
    Function.update_of_ne (Nat.ne_of_lt hlt) ..
  unfold MultiKeyObjectWaitSemaphore.initKey at hs
  split_ifs at hs
  · cases hs
    refine ⟨⟨?_, ?_, ?_, h.set, ?_, h.taken⟩, fun _ _ hk => .inl hk, rfl, rfl⟩
    · intro k ks hk
      obtain ⟨hlt, hkey⟩ := h.mapped k ks hk
      exact ⟨hlt, (hold hlt).trans hkey⟩
    · intro thread w hw
      obtain ⟨hlt, hkey⟩ := h.waiting thread w hw
      exact ⟨hlt, (hold hlt).trans hkey⟩
    · intro r hr
      obtain ⟨hlt, hkey⟩ := h.setting r hr
      exact ⟨hlt, (hold hlt).trans hkey⟩
    · intro ks sem obj hlt hsem hobj
      rw [hold hlt]
      exact h.sems ks sem obj hlt hsem hobj
  · cases hs
    refine ⟨⟨?_, ?_, ?_, h.set, ?_, h.taken⟩, ?_, rfl, rfl⟩
    · intro k ks hk
      simp only [Function.update_apply] at hk
      split_ifs at hk with hkey
      · simp only [Option.some.injEq] at hk
        subst hk
        exact ⟨Nat.lt_succ_self _, (Function.update_self ..).trans hkey.symm⟩
      · obtain ⟨hlt, hkey'⟩ := h.mapped k ks hk
        exact ⟨Nat.lt_succ_of_lt hlt, (hold hlt).trans hkey'⟩
    · intro thread w hw
      obtain ⟨hlt, hkey⟩ := h.waiting thread w hw
      exact ⟨Nat.lt_succ_of_lt hlt, (hold hlt).trans hkey⟩
    · intro r hr
      obtain ⟨hlt, hkey⟩ := h.setting r hr
      exact ⟨Nat.lt_succ_of_lt hlt, (hold hlt).trans hkey⟩
    · intro ks sem obj hlt hsem hobj
      rcases of_update hsem with ⟨-, rfl⟩ | ⟨hne, hsem⟩
      · cases hobj
      · have hlt' : ks < s.next := by
          have : ks < s.next + 1 := hlt
          omega
        rw [hold hlt']
        exact h.sems ks sem obj hlt' hsem hobj
    · intro k ks hk
      simp only [Function.update_apply] at hk
      split_ifs at hk with hkey
      · exact .inr hkey
      · exact .inl hk

/-- No response arrives, no semaphore is made, and no thread begins to wait. -/
structure Follows (s t : MultiKeyObjectWaitSemaphore K) : Prop where
  arrived : t.arrived = s.arrived
  mapped : ∀ key ks, t.keySemaphoreMap key = some (some ks) →
    s.keySemaphoreMap key = some (some ks)
  waiters : ∀ thread w', t.waiters thread = some w' →
    ∃ w, s.waiters thread = some w ∧ w.waitOnKey = w'.waitOnKey

variable {keyOf : Nat → K}

theorem Keyed.setWaithedObjectForKey [DecidableEq K] (h : Keyed keyOf s) {key : K}
    (hs : s.setWaithedObjectForKey key = some t) :
    Keyed keyOf t ∧ t.arrived = s.arrived ++ [key] ∧ t.keySemaphoreMap = s.keySemaphoreMap ∧
      t.waiters = s.waiters ∧
      (t.setter.isSome → ∃ ks, s.keySemaphoreMap key = some (some ks)) := by
  have hset : ∀ r, s.setter = some r → (s.arrived ++ [key])[r.obj]? = some r.key :=
    fun r hr => getElem?_append_of_some (h.set r hr) _
  have hsems : ∀ ks sem obj, ks < s.next → s.sems ks = some sem → sem.objecForWait = some obj →
      (s.arrived ++ [key])[obj]? = some (keyOf ks) :=
    fun ks sem obj hlt hsem hobj => getElem?_append_of_some (h.sems ks sem obj hlt hsem hobj) _
  have htaken : ∀ thread w obj, s.waiters thread = some w → w.phase = .returning (some obj) →
      (s.arrived ++ [key])[obj]? = some w.waitOnKey :=
    fun thread w obj hw hp => getElem?_append_of_some (h.taken thread w obj hw hp) _
  unfold MultiKeyObjectWaitSemaphore.setWaithedObjectForKey at hs
  split_ifs at hs with hsetter
  simp only at hs
  split at hs
  · rename_i ks hks
    cases hs
    refine ⟨⟨h.mapped, h.waiting, ?_, ?_, hsems, htaken⟩, rfl, rfl, rfl, fun _ => ⟨ks, hks⟩⟩
    · rintro r ⟨⟩
      exact h.mapped key ks hks
    · rintro r ⟨⟩
      simp
  · cases hs
    exact ⟨⟨h.mapped, h.waiting, h.setting, hset, hsems, htaken⟩, rfl, rfl, rfl,
      fun hsome => absurd hsome hsetter⟩

theorem Keyed.setObject (h : Keyed keyOf s) (hs : s.setObject = some t) :
    Keyed keyOf t ∧ Follows s t := by
  unfold MultiKeyObjectWaitSemaphore.setObject at hs
  split at hs
  · rename_i key obj ks hset
    obtain ⟨sem, hsem, rfl⟩ := Option.map_eq_some_iff.mp hs
    refine ⟨⟨h.mapped, h.waiting, ?_, ?_, ?_, h.taken⟩, rfl, fun _ _ hk => hk,
      fun _ w hw => ⟨w, hw, rfl⟩⟩
    · rintro r ⟨⟩
      exact h.setting ⟨key, obj, ks, false⟩ hset
    · rintro r ⟨⟩
      exact h.set ⟨key, obj, ks, false⟩ hset
    · intro ks' sem' obj' hlt hsem' hobj
      rcases of_update hsem' with ⟨rfl, rfl⟩ | ⟨-, hsem'⟩
      · cases hobj
        rw [(h.setting _ hset).2]
        exact h.set _ hset
      · exact h.sems ks' sem' obj' hlt hsem' hobj
  · cases hs

theorem Keyed.unlock (h : Keyed keyOf s) (hs : s.unlock = some t) :
    Keyed keyOf t ∧ Follows s t := by
  unfold MultiKeyObjectWaitSemaphore.unlock at hs
  split at hs
  · obtain ⟨sem, hsem, rfl⟩ := Option.map_eq_some_iff.mp hs
    refine ⟨⟨h.mapped, h.waiting, nofun, nofun, ?_, h.taken⟩, rfl, fun _ _ hk => hk,
      fun _ w hw => ⟨w, hw, rfl⟩⟩
    intro ks' sem' obj' hlt hsem' hobj
    obtain ⟨sem₀, hsem₀, hobj₀⟩ := of_update_same hsem hsem' rfl
    exact h.sems ks' sem₀ obj' hlt hsem₀ (hobj₀.trans hobj)
  · cases hs

/-- A thread begins to wait on its key, or the wait returns at once. -/
theorem Keyed.wait [DecidableEq K] (h : Keyed keyOf s) {thread : Nat} {key : K} {timed : Bool}
    (hs : s.wait thread key timed = some t) :
    Keyed keyOf t ∧ t.arrived = s.arrived ∧
      (∀ k ks, t.keySemaphoreMap k = some (some ks) → s.keySemaphoreMap k = some (some ks)) ∧
      s.waiters thread = none ∧
      (t.waiters = s.waiters ∨ ∃ w ks, t.waiters = Function.update s.waiters thread (some w) ∧
        w.waitOnKey = key ∧ s.keySemaphoreMap key = some (some ks)) := by
  unfold MultiKeyObjectWaitSemaphore.wait at hs
  split_ifs at hs with hbusy
  have hfree : s.waiters thread = none := by
    simpa using (not_or.mp hbusy).2
  split at hs
  · rename_i hnone
    cases hs
    have hmap (k : K) (ks : Nat) (hk : Function.update s.keySemaphoreMap key (some none) k =
        some (some ks)) : s.keySemaphoreMap k = some (some ks) := by
      simp only [Function.update_apply] at hk
      split_ifs at hk
      · simp at hk
      · exact hk
    exact ⟨⟨fun k ks hk => h.mapped k ks (hmap k ks hk), h.waiting, h.setting, h.set, h.sems,
      h.taken⟩, rfl, hmap, hfree, .inl rfl⟩
  · cases hs
    exact ⟨h, rfl, fun _ _ hk => hk, hfree, .inl rfl⟩
  · rename_i ks hks
    cases hs
    refine ⟨⟨h.mapped, ?_, h.setting, h.set, h.sems, ?_⟩, rfl, fun _ _ hk => hk, hfree,
      .inr ⟨_, ks, rfl, rfl, hks⟩⟩
    · intro thread' w hw
      rcases of_update hw with ⟨-, rfl⟩ | ⟨-, hw⟩
      · exact h.mapped key ks hks
      · exact h.waiting thread' w hw
    · intro thread' w obj hw hphase
      rcases of_update hw with ⟨-, rfl⟩ | ⟨-, hw⟩
      · cases hphase
      · exact h.taken thread' w obj hw hphase

/-- What a section of `wait` may do: what lies in the semaphore stays there or is taken. -/
def Takes (change : ObjectWaitSemaphore → ObjectWaitSemaphore × WaitPhase) : Prop :=
  ∀ sem, ((change sem).1.objecForWait = sem.objecForWait ∨ (change sem).1.objecForWait = none) ∧
    ∀ obj, (change sem).2 = .returning (some obj) → sem.objecForWait = some obj

theorem Keyed.waiterStep (h : Keyed keyOf s) {thread : Nat} {w : Waiter K}
    {change : ObjectWaitSemaphore → ObjectWaitSemaphore × WaitPhase} (hchange : Takes change)
    (hw : s.waiters thread = some w) (hs : s.waiterStep thread w change = some t) :
    Keyed keyOf t ∧ Follows s t := by
  obtain ⟨sem, hsem, rfl⟩ := Option.map_eq_some_iff.mp hs
  obtain ⟨hkeeps, htakes⟩ := hchange sem
  obtain ⟨hlt, hkey⟩ := h.waiting thread w hw
  refine ⟨⟨h.mapped, ?_, h.setting, h.set, ?_, ?_⟩, rfl, fun _ _ hk => hk, ?_⟩
  · intro thread' w' hw'
    rcases of_update hw' with ⟨-, rfl⟩ | ⟨-, hw'⟩
    · exact ⟨hlt, hkey⟩
    · exact h.waiting thread' w' hw'
  · intro ks sem' obj hlt' hsem' hobj
    rcases of_update hsem' with ⟨rfl, rfl⟩ | ⟨-, hsem'⟩
    · rcases hkeeps with hsame | hnone
      · exact h.sems w.ks sem obj hlt hsem (hsame ▸ hobj)
      · rw [hnone] at hobj
        cases hobj
    · exact h.sems ks sem' obj hlt' hsem' hobj
  · intro thread' w' obj hw' hphase
    rcases of_update hw' with ⟨-, rfl⟩ | ⟨-, hw'⟩
    · have hobj := h.sems w.ks sem obj hlt hsem (htakes obj hphase)
      rw [hkey] at hobj
      exact hobj
    · exact h.taken thread' w' obj hw' hphase
  · intro thread' w' hw'
    rcases of_update hw' with ⟨rfl, rfl⟩ | ⟨-, hw'⟩
    · exact ⟨w, hw, rfl⟩
    · exact ⟨w', hw', rfl⟩

theorem takes_enterWait : Takes ObjectWaitSemaphore.enterWait := by
  intro sem
  unfold ObjectWaitSemaphore.enterWait
  split_ifs <;> simp

theorem takes_leaveWait : Takes ObjectWaitSemaphore.leaveWait := by
  intro sem
  simp [ObjectWaitSemaphore.leaveWait]

theorem Keyed.enter (h : Keyed keyOf s) {thread : Nat} (hs : s.enter thread = some t) :
    Keyed keyOf t ∧ Follows s t := by
  unfold MultiKeyObjectWaitSemaphore.enter at hs
  split at hs
  · rename_i w hw
    split_ifs at hs
    exact h.waiterStep takes_enterWait hw hs
  · cases hs

theorem Keyed.wake (h : Keyed keyOf s) {thread : Nat} (hs : s.wake thread = some t) :
    Keyed keyOf t ∧ Follows s t := by
  unfold MultiKeyObjectWaitSemaphore.wake at hs
  split at hs
  · rename_i w hw
    split_ifs at hs
    exact h.waiterStep takes_leaveWait hw hs
  · cases hs

theorem Keyed.timeout (h : Keyed keyOf s) {thread : Nat} (hs : s.timeout thread = some t) :
    Keyed keyOf t ∧ Follows s t := by
  unfold MultiKeyObjectWaitSemaphore.timeout at hs
  split at hs
  · rename_i w hw
    split_ifs at hs
    exact h.waiterStep takes_leaveWait hw hs
  · cases hs

theorem Keyed.erase [DecidableEq K] (h : Keyed keyOf s) {w : Waiter K}
    (hs : s.erase w = some t) : Keyed keyOf t ∧ Follows s t := by
  obtain ⟨sem, -, rfl⟩ := Option.map_eq_some_iff.mp hs
  have hmap (k : K) (ks : Nat) (hk : Function.update s.keySemaphoreMap w.waitOnKey none k =
      some (some ks)) : s.keySemaphoreMap k = some (some ks) := by
    simp only [Function.update_apply] at hk
    split_ifs at hk
    exact hk
  refine ⟨⟨fun k ks hk => h.mapped k ks (hmap k ks hk), h.waiting, h.setting, h.set, ?_, h.taken⟩,
    rfl, hmap, fun _ w hw => ⟨w, hw, rfl⟩⟩
  intro ks sem' obj hlt hsem hobj
  simp only [Function.update_apply] at hsem
  split_ifs at hsem
  exact h.sems ks sem' obj hlt hsem hobj

/-- A thread returns from its wait. -/
theorem Keyed.leave [DecidableEq K] (h : Keyed keyOf s) {thread : Nat}
    (hs : s.leave thread = some t) : Keyed keyOf t ∧ Follows s t ∧ t.waiters thread = none := by
  unfold MultiKeyObjectWaitSemaphore.leave at hs
  split at hs
  · rename_i w hw
    split at hs
    · rename_i result hphase
      simp only at hs
      let left : MultiKeyObjectWaitSemaphore K := { s with
        waiters := Function.update s.waiters thread none
        returned := s.returned ++ (result.map fun obj => (w.waitOnKey, obj)).toList }
      have hsub (thread' : Nat) (w' : Waiter K) (hw' : left.waiters thread' = some w') :
          s.waiters thread' = some w' := by
        simp only [left, Function.update_apply] at hw'
        split_ifs at hw'
        exact hw'
      have hleft : Keyed keyOf left := ⟨h.mapped, fun thread' w' hw' => h.waiting thread' w'
        (hsub thread' w' hw'), h.setting, h.set, h.sems, fun thread' w' obj hw' =>
          h.taken thread' w' obj (hsub thread' w' hw')⟩
      have hfollows : Follows s left := ⟨rfl, fun _ _ hk => hk, fun thread' w' hw' =>
        ⟨w', hsub thread' w' hw', rfl⟩⟩
      have hgone : left.waiters thread = none := Function.update_self ..
      have erased {u : MultiKeyObjectWaitSemaphore K} (hu : left.erase w = some u) :
          Keyed keyOf u ∧ Follows s u ∧ u.waiters thread = none := by
        obtain ⟨hkeyed, hu'⟩ := hleft.erase hu
        refine ⟨hkeyed, ⟨hu'.arrived, fun k ks hk => hu'.mapped k ks hk, ?_⟩, ?_⟩
        · intro thread' w' hw'
          obtain ⟨w'', hw'', hkey⟩ := hu'.waiters thread' w' hw'
          exact ⟨w'', hsub thread' w'' hw'', hkey⟩
        · obtain ⟨sem, -, rfl⟩ := Option.map_eq_some_iff.mp hu
          exact hgone
      split_ifs at hs
      · exact erased hs
      · cases hs
        exact ⟨hleft, hfollows, hgone⟩
      · exact erased hs
    · cases hs
  · cases hs

end chaos.common.thread.MultiKeyObjectWaitSemaphore
