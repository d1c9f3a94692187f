-- What becomes of the responses to synchronous requests. A response that is accepted while the
-- wait on its key is on its way into or inside the semaphore is returned by that wait. One that
-- comes before an untimed wait does not wake it, and one that comes while a timed wait has
-- already left the semaphore is deleted with it.
import Chaos.NumberedList
import Chaos.WaitSemaphore
import Mathlib.Data.List.Basic

namespace chaos.common.thread

open runs numbered_list

namespace MultiKeyObjectWaitSemaphore

variable {K : Type*} {s t : MultiKeyObjectWaitSemaphore K}

/-! ## What is claimed -/

/-- The response lies in the semaphore of the key, or the wait on the key has taken it. -/
def Pending (s : MultiKeyObjectWaitSemaphore K) (key : K) (obj : Nat) : Prop :=
  (∃ ks sem, s.keySemaphoreMap key = some (some ks) ∧ s.sems ks = some sem ∧
    sem.objecForWait = some obj) ∨
  ∃ thread w, s.waiters thread = some w ∧ w.waitOnKey = key ∧ w.phase = .returning (some obj)

/-- A response is returned by a wait on its own key, and once; one that was accepted is not lost;
and an untimed wait whose response was accepted can wake up. -/
structure ResponsesOk (s : MultiKeyObjectWaitSemaphore K) : Prop where
  own : ∀ key obj, (key, obj) ∈ s.returned → s.arrived[obj]? = some key
  once : (s.returned.map Prod.snd).Nodup
  kept : ∀ key obj, (key, obj) ∈ s.accepted → (key, obj) ∈ s.returned ∨ s.Pending key obj
  awake : ∀ thread w obj, s.waiters thread = some w → w.phase = .blocked → w.timed = false →
    (w.waitOnKey, obj) ∈ s.accepted → (w.waitOnKey, obj) ∈ s.returned ∨ ∃ t, s.wake thread = some t

/-- No thread that waits on the semaphore has already left its section. -/
def StillWaited (s : MultiKeyObjectWaitSemaphore K) (ks : Nat) : Prop :=
  ∀ thread w result, s.waiters thread = some w → w.ks = ks → w.phase ≠ .returning result

/-- A wait is alone on its semaphore, a response comes to a semaphore that holds none and before
the wait on it has left its section, and an untimed wait goes in before the answer. -/
def InTime (s : MultiKeyObjectWaitSemaphore K) : Label K → Prop
  | .wait _ waitOnKey _ => ∀ ks thread w, s.keySemaphoreMap waitOnKey = some (some ks) →
    s.waiters thread = some w → w.ks ≠ ks
  | .setWaithedObjectForKey key => ∀ ks, s.keySemaphoreMap key = some (some ks) →
    s.StillWaited ks ∧ ∀ sem, s.sems ks = some sem → sem.objecForWait = none
  | .setObject => ∀ r, s.setter = some r → s.StillWaited r.ks
  | .enter thread => ∀ w sem, s.waiters thread = some w → w.timed = false →
    s.sems w.ks = some sem → sem.answered = false
  | _ => True

/-! ## The invariant -/

/-- The map, the waiters and the setter name semaphores that are there, and each semaphore has
one key and one waiter. -/
structure Linked (s : MultiKeyObjectWaitSemaphore K) : Prop where
  mapped : ∀ key ks, s.keySemaphoreMap key = some (some ks) → ks < s.next
  there : ∀ key ks, s.keySemaphoreMap key = some (some ks) → s.sems ks ≠ none
  one_key : ∀ key key' ks, s.keySemaphoreMap key = some (some ks) →
    s.keySemaphoreMap key' = some (some ks) → key = key'
  waiting : ∀ thread w, s.waiters thread = some w →
    s.keySemaphoreMap w.waitOnKey = some (some w.ks)
  alone : ∀ thread thread' w w', s.waiters thread = some w → s.waiters thread' = some w' →
    w.ks = w'.ks → thread = thread'
  setting : ∀ r, s.setter = some r → s.keySemaphoreMap r.key = some (some r.ks)
  in_wait : ∀ key ks sem, s.keySemaphoreMap key = some (some ks) → s.sems ks = some sem →
    sem.inWait = true → ∃ thread w, s.waiters thread = some w ∧ w.ks = ks ∧ w.phase = .blocked

/-- Each response is where its own key is. -/
structure Owned (s : MultiKeyObjectWaitSemaphore K) : Prop where
  setter : ∀ r, s.setter = some r → s.arrived[r.obj]? = some r.key
  sems : ∀ key ks sem obj, s.keySemaphoreMap key = some (some ks) → s.sems ks = some sem →
    sem.objecForWait = some obj → s.arrived[obj]? = some key
  waiters : ∀ thread w obj, s.waiters thread = some w → w.phase = .returning (some obj) →
    s.arrived[obj]? = some w.waitOnKey
  returned : ∀ key obj, (key, obj) ∈ s.returned → s.arrived[obj]? = some key
  accepted : ∀ key obj, (key, obj) ∈ s.accepted → s.arrived[obj]? = some key

/-- Each response is at one place. -/
structure Single (s : MultiKeyObjectWaitSemaphore K) : Prop where
  once : (s.returned.map Prod.snd).Nodup
  sems : ∀ key ks sem obj, s.keySemaphoreMap key = some (some ks) → s.sems ks = some sem →
    sem.objecForWait = some obj → (key, obj) ∉ s.returned
  waiters : ∀ thread w obj, s.waiters thread = some w → w.phase = .returning (some obj) →
    (w.waitOnKey, obj) ∉ s.returned
  setter : ∀ r, s.setter = some r → (r.key, r.obj) ∉ s.returned
  fresh : ∀ r, s.setter = some r → (r.key, r.obj) ∉ s.accepted
  taken : ∀ thread w sem result, s.waiters thread = some w → w.phase = .returning result →
    s.sems w.ks = some sem → sem.objecForWait = none
  unset : ∀ r sem, s.setter = some r → r.isSet = false → s.sems r.ks = some sem →
    sem.objecForWait = none
  untaken : ∀ r thread w obj, s.setter = some r → r.isSet = false → s.waiters thread = some w →
    w.ks = r.ks → w.phase ≠ .returning (some obj)

/-- What the flag of a semaphore says. -/
structure Flagged (s : MultiKeyObjectWaitSemaphore K) : Prop where
  /-- a set flag is of a response that lies there, or that the waiter has just taken -/
  answered : ∀ key ks sem, s.keySemaphoreMap key = some (some ks) → s.sems ks = some sem →
    sem.answered = true → sem.objecForWait ≠ none ∨
      ∃ thread w result, s.waiters thread = some w ∧ w.ks = ks ∧ w.phase = .returning result
  /-- a response that lies there has set the flag, or is about to, or the wait on it is timed -/
  waking : ∀ key ks sem obj, s.keySemaphoreMap key = some (some ks) → s.sems ks = some sem →
    sem.objecForWait = some obj → sem.answered = true ∨
      (∃ r, s.setter = some r ∧ r.ks = ks ∧ r.isSet = true) ∨
      ∃ thread w, s.waiters thread = some w ∧ w.ks = ks ∧ w.phase = .blocked ∧ w.timed = true
  setting : ∀ r sem, s.setter = some r → s.sems r.ks = some sem → sem.answered = false
  untimed : ∀ r thread w result, s.setter = some r → s.waiters thread = some w → w.ks = r.ks →
    w.phase = .returning result → w.timed = true

/-- No response that was left in a semaphore is lost. -/
structure Kept (s : MultiKeyObjectWaitSemaphore K) : Prop where
  set : ∀ r, s.setter = some r → r.isSet = true → s.Pending r.key r.obj
  accepted : ∀ key obj, (key, obj) ∈ s.accepted → (key, obj) ∈ s.returned ∨ s.Pending key obj

structure Good (s : MultiKeyObjectWaitSemaphore K) : Prop where
  linked : Linked s
  owned : Owned s
  single : Single s
  flagged : Flagged s
  kept : Kept s

/-! ## What the steps do -/

theorem of_update {ι α : Type*} [DecidableEq ι] {f : ι → Option α} {n m : ι} {a b : α}
    (h : Function.update f n (some a) m = some b) : m = n ∧ b = a ∨ m ≠ n ∧ f m = some b := by
  by_cases hm : m = n
  · subst hm
    rw [Function.update_self, Option.some.injEq] at h
    exact .inl ⟨rfl, h.symm⟩
  · rw [Function.update_of_ne hm] at h
    exact .inr ⟨hm, h⟩

theorem update_free {ι α : Type*} [DecidableEq ι] {f : ι → Option α} {n m : ι} {a : α}
    {p : Option α} (hn : f n = none) (hm : f m = some a) :
    Function.update f n p m = some a := by
  refine (Function.update_of_ne ?_ ..).trans hm
  rintro rfl
  rw [hn] at hm
  cases hm

/-- A change of a semaphore that keeps what lies in it. -/
theorem of_update_same {f : Nat → Option ObjectWaitSemaphore} {ks ks' : Nat}
    {sem sem' sem'' : ObjectWaitSemaphore} (hsem : f ks = some sem)
    (h : Function.update f ks (some sem') ks' = some sem'')
    (hobj : sem'.objecForWait = sem.objecForWait) :
    ∃ sem₀, f ks' = some sem₀ ∧ sem₀.objecForWait = sem''.objecForWait := by
  rcases of_update h with ⟨rfl, rfl⟩ | ⟨-, h⟩
  · exact ⟨sem, hsem, hobj.symm⟩
  · exact ⟨sem'', h, rfl⟩

/-- The key of a semaphore is the one that the setter has found it under. -/
theorem Linked.key_eq (h : Linked s) {r : Setter K} (hset : s.setter = some r) {key : K}
    (hks : s.keySemaphoreMap key = some (some r.ks)) : key = r.key :=
  h.one_key _ _ r.ks hks (h.setting r hset)

/-- A response stays where it is when the entry of its key, what the semaphore of the key holds
and the wait that has taken it stay. -/
theorem Pending.keep {key : K} {obj : Nat} (h : s.Pending key obj)
    (hmap : ∀ ks, s.keySemaphoreMap key = some (some ks) →
      t.keySemaphoreMap key = some (some ks))
    (hsem : ∀ ks sem, s.keySemaphoreMap key = some (some ks) → s.sems ks = some sem →
      sem.objecForWait = some obj → ∃ sem', t.sems ks = some sem' ∧ sem'.objecForWait = some obj)
    (hwaiter : ∀ thread w, s.waiters thread = some w → w.waitOnKey = key →
      w.phase = .returning (some obj) → t.waiters thread = some w) : t.Pending key obj := by
  rcases h with ⟨ks, sem, hks, hs, hobj⟩ | ⟨thread, w, hw, hkey, hphase⟩
  · obtain ⟨sem', hs', hobj'⟩ := hsem ks sem hks hs hobj
    exact .inl ⟨ks, sem', hmap ks hks, hs', hobj'⟩
  · exact .inr ⟨thread, w, hwaiter thread w hw hkey hphase, hkey, hphase⟩

/-- A change of one semaphore that keeps what lies in it loses nothing. -/
theorem Pending.update {key : K} {obj ks : Nat} {sem sem' : ObjectWaitSemaphore}
    (h : s.Pending key obj) (hsem : s.sems ks = some sem)
    (hmap : t.keySemaphoreMap = s.keySemaphoreMap)
    (hsems : t.sems = Function.update s.sems ks (some sem'))
    (hobj : sem.objecForWait = none ∨ sem'.objecForWait = sem.objecForWait)
    (hwaiter : ∀ thread w, s.waiters thread = some w → w.waitOnKey = key →
      w.phase = .returning (some obj) → t.waiters thread = some w) : t.Pending key obj := by
  refine h.keep (fun _ hks => hmap ▸ hks) ?_ hwaiter
  intro ks' sem₀ _ hs hlies
  rw [hsems]
  by_cases hks : ks' = ks
  · subst hks
    rw [hsem] at hs
    cases hs
    refine ⟨sem', Function.update_self .., ?_⟩
    rcases hobj with hnone | hsame
    · rw [hnone] at hlies
      cases hlies
    · rw [hsame, hlies]
  · exact ⟨sem₀, (Function.update_of_ne hks ..).trans hs, hlies⟩

/-- No semaphore is made or deleted, and those that use one use the same one as before. -/
structure SameLinks (s t : MultiKeyObjectWaitSemaphore K) : Prop where
  map : t.keySemaphoreMap = s.keySemaphoreMap
  next : t.next = s.next
  sems : ∀ ks, t.sems ks = none → s.sems ks = none
  waiters : ∀ thread w', t.waiters thread = some w' →
    ∃ w, s.waiters thread = some w ∧ w.ks = w'.ks ∧ w.waitOnKey = w'.waitOnKey
  setter : ∀ r', t.setter = some r' → ∃ r, s.setter = some r ∧ r.ks = r'.ks ∧ r.key = r'.key

theorem Linked.same (h : Linked s) (hsame : SameLinks s t)
    (hin : ∀ key ks sem, s.keySemaphoreMap key = some (some ks) → t.sems ks = some sem →
      sem.inWait = true → ∃ thread w, t.waiters thread = some w ∧ w.ks = ks ∧
        w.phase = .blocked) : Linked t := by
  obtain ⟨hmap, hnext, hsems, hwaiters, hsetter⟩ := hsame
  refine ⟨?_, ?_, ?_, ?_, ?_, ?_, hmap ▸ hin⟩
  · rw [hmap, hnext]
    exact h.mapped
  · intro key ks hks hnone
    rw [hmap] at hks
    exact h.there key ks hks (hsems ks hnone)
  · rw [hmap]
    exact h.one_key
  · intro thread w' hw'
    obtain ⟨w, hw, hks, hkey⟩ := hwaiters thread w' hw'
    rw [hmap, ← hks, ← hkey]
    exact h.waiting thread w hw
  · intro thread thread' w w' hw hw' heq
    obtain ⟨v, hv, hks, -⟩ := hwaiters thread w hw
    obtain ⟨v', hv', hks', -⟩ := hwaiters thread' w' hw'
    exact h.alone thread thread' v v' hv hv' (by rw [hks, hks', heq])
  · intro r' hr'
    obtain ⟨r, hr, hks, hkey⟩ := hsetter r' hr'
    rw [hmap, ← hks, ← hkey]
    exact h.setting r hr

/-- A change of a semaphore by the setter. -/
theorem sameLinks_setter {ks : Nat} {sem' : ObjectWaitSemaphore} {setter : Option (Setter K)}
    {accepted : List (K × Nat)}
    (hsetter : ∀ r' ∈ setter, ∃ r, s.setter = some r ∧ r.ks = r'.ks ∧ r.key = r'.key) :
    SameLinks s { s with
      sems := Function.update s.sems ks (some sem')
      setter := setter
      accepted := accepted } := by
  refine ⟨rfl, rfl, ?_, fun thread w' hw' => ⟨w', hw', rfl, rfl⟩, hsetter⟩
  intro ks' hnone
  by_cases hks : ks' = ks
  · subst hks
    simp at hnone
  · exact (Function.update_of_ne hks ..).symm.trans hnone

/-- A thread that waits changes its semaphore and goes on. -/
def move (s : MultiKeyObjectWaitSemaphore K) (thread : Nat) (w : Waiter K)
    (sem' : ObjectWaitSemaphore) (phase : WaitPhase) : MultiKeyObjectWaitSemaphore K :=
  { s with
    sems := Function.update s.sems w.ks (some sem')
    waiters := Function.update s.waiters thread (some { w with phase := phase }) }

section Move

variable {thread thread' : Nat} {w w' : Waiter K} {sem' : ObjectWaitSemaphore} {phase : WaitPhase}

theorem move_sems : (s.move thread w sem' phase).sems w.ks = some sem' := Function.update_self ..

theorem move_others (hw : s.waiters thread = some w) (hw' : s.waiters thread' = some w')
    (hne : w' ≠ w) : (s.move thread w sem' phase).waiters thread' = some w' := by
  refine (Function.update_of_ne ?_ ..).trans hw'
  rintro rfl
  rw [hw] at hw'
  exact hne (Option.some.inj hw').symm

theorem sameLinks_move (hw : s.waiters thread = some w) :
    SameLinks s (s.move thread w sem' phase) := by
  refine ⟨rfl, rfl, ?_, ?_, fun r' hr' => ⟨r', hr', rfl, rfl⟩⟩
  · intro ks' hnone
    by_cases hks : ks' = w.ks
    · rw [hks, move_sems] at hnone
      cases hnone
    · exact (Function.update_of_ne hks ..).symm.trans hnone
  · intro thread' w' hw'
    rcases of_update hw' with ⟨hthread, rfl⟩ | ⟨-, hw'⟩
    · exact ⟨w, hthread ▸ hw, rfl, rfl⟩
    · exact ⟨w', hw', rfl, rfl⟩

end Move

/-- What lay in the semaphore is with the thread that took it. -/
theorem Pending.taken {thread : Nat} {w : Waiter K} {sem : ObjectWaitSemaphore} {key : K}
    {obj : Nat} (h : s.Pending key obj) (hl : Linked s) (hw : s.waiters thread = some w)
    (hphase : w.phase = .blocked) (hsem : s.sems w.ks = some sem) :
    (s.move thread w {} (.returning sem.objecForWait)).Pending key obj := by
  rcases h with ⟨ks, sem', hks, hs, hobj⟩ | ⟨thread', w', hw', hkey, hphase'⟩
  · by_cases hmine : ks = w.ks
    · subst hmine
      rw [hsem] at hs
      cases hs
      have hkey := hl.one_key w.waitOnKey key w.ks (hl.waiting thread w hw) hks
      exact .inr ⟨thread, _, Function.update_self .., hkey, by rw [hobj]⟩
    · exact .inl ⟨ks, sem', hks, (Function.update_of_ne hmine ..).trans hs, hobj⟩
  · have hne : thread' ≠ thread := by
      rintro rfl
      rw [hw] at hw'
      cases hw'
      rw [hphase] at hphase'
      cases hphase'
    exact .inr ⟨thread', w', (Function.update_of_ne hne ..).trans hw', hkey, hphase'⟩

/-- A semaphore that a thread is about to enter has no other thread asleep in it. -/
theorem not_inWait (h : Good s) {thread : Nat} {w : Waiter K} {sem : ObjectWaitSemaphore}
    (hw : s.waiters thread = some w) (hphase : w.phase = .entering)
    (hsem : s.sems w.ks = some sem) : sem.inWait = false := by
  rw [Bool.eq_false_iff]
  intro hin
  obtain ⟨thread', w', hw', hks, hblocked⟩ :=
    h.linked.in_wait _ _ _ (h.linked.waiting thread w hw) hsem hin
  have hsame := h.linked.alone thread' thread w' w hw' hw hks
  subst hsame
  rw [hw] at hw'
  cases hw'
  rw [hphase] at hblocked
  cases hblocked

/-- The response that arrives does not change where the others belong. -/
theorem Owned.arrive (h : Owned s) (key : K) : Owned { s with arrived := s.arrived ++ [key] } where
  setter r hr := getElem?_append_of_some (h.setter r hr) _
  sems key' ks sem obj hks hs hobj := getElem?_append_of_some (h.sems key' ks sem obj hks hs hobj) _
  waiters thread w obj hw hp := getElem?_append_of_some (h.waiters thread w obj hw hp) _
  returned key' obj hret := getElem?_append_of_some (h.returned key' obj hret) _
  accepted key' obj hacc := getElem?_append_of_some (h.accepted key' obj hacc) _

/-- The response gets the lock of the map: it is new, and its semaphore is empty. -/
theorem good_setWaithedObjectForKey {key : K} (h : Good s)
    (hok : InTime s (.setWaithedObjectForKey key))
    (ht : s.setWaithedObjectForKey key = some t) : Good t := by
  unfold setWaithedObjectForKey at ht
  split_ifs at ht with hnone
  rw [Bool.not_eq_true, Option.isSome_eq_false_iff, Option.isNone_iff_eq_none] at hnone
  have harrived := h.owned.arrive key
  simp only at ht
  split at ht
  · rename_i ks hks
    cases ht
    obtain ⟨hstill, hempty⟩ := hok ks hks
    have hnew : s.arrived[s.arrived.length]? ≠ some key := by simp
    refine ⟨{ h.linked with setting := ?_ }, { harrived with setter := ?_ },
      { h.single with setter := ?_, fresh := ?_, unset := ?_, untaken := ?_ },
      { h.flagged with waking := ?_, setting := ?_, untimed := ?_ }, ⟨nofun, h.kept.accepted⟩⟩
    · rintro r ⟨⟩
      exact hks
    · rintro r ⟨⟩
      simp
    · rintro r ⟨⟩ hret
      exact hnew (h.owned.returned _ _ hret)
    · rintro r ⟨⟩ hacc
      exact hnew (h.owned.accepted _ _ hacc)
    · rintro r sem ⟨⟩ - hsem
      exact hempty sem hsem
    · rintro r thread w obj ⟨⟩ - hw hwks
      exact hstill thread w _ hw hwks
    · intro key' ks' sem obj hks' hsem hobj
      apply (h.flagged.waking key' ks' sem obj hks' hsem hobj).imp_right (Or.imp_left ?_)
      rintro ⟨r, hr, -⟩
      rw [hnone] at hr
      cases hr
    · rintro r sem ⟨⟩ hsem
      rw [Bool.eq_false_iff]
      intro hanswered
      rcases h.flagged.answered key ks sem hks hsem hanswered with
        hobj | ⟨thread, w, result, hw, hwks, hphase⟩
      · exact hobj (hempty sem hsem)
      · exact hstill thread w result hw hwks hphase
    · rintro r thread w result ⟨⟩ hw hwks hphase
      exact absurd hphase (hstill thread w result hw hwks)
  · cases ht
    exact ⟨{ h.linked with }, harrived, { h.single with }, { h.flagged with },
      ⟨h.kept.set, h.kept.accepted⟩⟩

/-- The response is left in the semaphore while the wait on it has not gone yet. -/
theorem good_setObject (h : Good s) (hok : InTime s .setObject) (ht : s.setObject = some t) :
    Good t := by
  unfold setObject at ht
  split at ht
  · rename_i key obj ks hset
    obtain ⟨sem, hsem, rfl⟩ := Option.map_eq_some_iff.mp ht
    have hstill : s.StillWaited ks := hok _ hset
    refine ⟨h.linked.same (sameLinks_setter ?_) ?_, { h.owned with setter := ?_, sems := ?_ },
      { h.single with
        sems := ?_, setter := ?_, fresh := ?_, taken := ?_, unset := nofun, untaken := nofun },
      { h.flagged with answered := ?_, waking := ?_, setting := ?_, untimed := ?_ }, ⟨?_, ?_⟩⟩
    · rintro r' ⟨⟩
      exact ⟨_, hset, rfl, rfl⟩
    · intro key' ks' sem' hks' hsem' hin
      rcases of_update hsem' with ⟨rfl, rfl⟩ | ⟨-, hsem'⟩
      · exact h.linked.in_wait key' _ sem hks' hsem hin
      · exact h.linked.in_wait key' ks' sem' hks' hsem' hin
    · rintro r ⟨⟩
      exact h.owned.setter ⟨key, obj, ks, false⟩ hset
    · intro key' ks' sem' obj' hks' hsem' hobj
      rcases of_update hsem' with ⟨rfl, rfl⟩ | ⟨-, hsem'⟩
      · cases hobj
        rw [h.linked.key_eq hset hks']
        exact h.owned.setter _ hset
      · exact h.owned.sems key' ks' sem' obj' hks' hsem' hobj
    · intro key' ks' sem' obj' hks' hsem' hobj
      rcases of_update hsem' with ⟨rfl, rfl⟩ | ⟨-, hsem'⟩
      · cases hobj
        rw [h.linked.key_eq hset hks']
        exact h.single.setter _ hset
      · exact h.single.sems key' ks' sem' obj' hks' hsem' hobj
    · rintro r ⟨⟩
      exact h.single.setter ⟨key, obj, ks, false⟩ hset
    · rintro r ⟨⟩
      exact h.single.fresh ⟨key, obj, ks, false⟩ hset
    · intro thread w sem' result hw hphase hsem'
      rcases of_update hsem' with ⟨hks, -⟩ | ⟨-, hsem'⟩
      · exact absurd hphase (hstill thread w result hw hks)
      · exact h.single.taken thread w sem' result hw hphase hsem'
    · intro key' ks' sem' hks' hsem' hanswered
      rcases of_update hsem' with ⟨rfl, rfl⟩ | ⟨-, hsem'⟩
      · exact .inl (Option.some_ne_none _)
      · exact h.flagged.answered key' ks' sem' hks' hsem' hanswered
    · intro key' ks' sem' obj' hks' hsem' hobj
      rcases of_update hsem' with ⟨rfl, rfl⟩ | ⟨-, hsem'⟩
      · exact .inr (.inl ⟨_, rfl, rfl, rfl⟩)
      · apply (h.flagged.waking key' ks' sem' obj' hks' hsem' hobj).imp_right (Or.imp_left ?_)
        rintro ⟨r, hr, -, hisSet⟩
        rw [hset] at hr
        cases hr
        cases hisSet
    · rintro r sem' ⟨⟩ hsem'
      rcases of_update hsem' with ⟨-, rfl⟩ | ⟨hne, -⟩
      · exact h.flagged.setting _ sem hset hsem
      · exact absurd rfl hne
    · rintro r thread w result ⟨⟩ hw hks hphase
      exact absurd hphase (hstill thread w result hw hks)
    · rintro r ⟨⟩ -
      exact .inl ⟨ks, _, h.linked.setting ⟨key, obj, ks, false⟩ hset, Function.update_self .., rfl⟩
    · intro key' obj' hacc
      -- the semaphore was empty, so no other response was in it
      exact (h.kept.accepted key' obj' hacc).imp_right fun hpending =>
        hpending.update hsem rfl rfl (.inl (h.single.unset _ sem hset rfl hsem))
          fun _ _ hw _ _ => hw
  · cases ht

/-- The response counts as accepted now. A timed wait may have taken it already. -/
theorem good_unlock (h : Good s) (ht : s.unlock = some t) : Good t := by
  unfold unlock at ht
  split at ht
  · rename_i key obj ks hset
    obtain ⟨sem, hsem, rfl⟩ := Option.map_eq_some_iff.mp ht
    have hpending : s.Pending key obj := h.kept.set _ hset rfl
    refine ⟨h.linked.same (sameLinks_setter nofun) ?_,
      { h.owned with setter := nofun, sems := ?_, accepted := ?_ },
      { h.single with
        sems := ?_, taken := ?_, setter := nofun, fresh := nofun, unset := nofun
        untaken := nofun },
      ⟨?_, ?_, nofun, nofun⟩, ⟨nofun, ?_⟩⟩
    · intro key' ks' sem' hks' hsem' hin
      rcases of_update hsem' with ⟨rfl, rfl⟩ | ⟨-, hsem'⟩
      · exact h.linked.in_wait key' _ sem hks' hsem hin
      · exact h.linked.in_wait key' ks' sem' hks' hsem' hin
    · intro key' ks' sem' obj' hks' hsem' hobj
      obtain ⟨sem₀, hsem₀, hsame⟩ := of_update_same hsem hsem' rfl
      exact h.owned.sems key' ks' sem₀ obj' hks' hsem₀ (hsame.trans hobj)
    · intro key' obj' hacc
      rcases List.mem_append.mp hacc with hacc | hacc
      · exact h.owned.accepted key' obj' hacc
      · cases List.mem_singleton.mp hacc
        exact h.owned.setter _ hset
    · intro key' ks' sem' obj' hks' hsem' hobj
      obtain ⟨sem₀, hsem₀, hsame⟩ := of_update_same hsem hsem' rfl
      exact h.single.sems key' ks' sem₀ obj' hks' hsem₀ (hsame.trans hobj)
    · intro thread w sem' result hw hphase hsem'
      obtain ⟨sem₀, hsem₀, hsame⟩ := of_update_same hsem hsem' rfl
      exact hsame.symm.trans (h.single.taken thread w sem₀ result hw hphase hsem₀)
    · intro key' ks' sem' hks' hsem' hanswered
      rcases of_update hsem' with ⟨rfl, rfl⟩ | ⟨-, hsem'⟩
      · -- the response lies there, or the timed wait has taken it
        have hkey : s.keySemaphoreMap key = some (some ks') := h.linked.setting _ hset
        rcases hpending with ⟨ks'', sem'', hks'', hsem'', hobj⟩ | ⟨thread, w, hw, rfl, hphase⟩
        · rw [hkey] at hks''
          cases hks''
          rw [hsem] at hsem''
          cases hsem''
          exact .inl fun hnone => by cases hobj.symm.trans hnone
        · have hwait := h.linked.waiting thread w hw
          rw [hkey, Option.some.injEq, Option.some.injEq] at hwait
          exact .inr ⟨thread, w, some obj, hw, hwait.symm, hphase⟩
      · exact h.flagged.answered key' ks' sem' hks' hsem' hanswered
    · intro key' ks' sem' obj' hks' hsem' hobj
      rcases of_update hsem' with ⟨rfl, rfl⟩ | ⟨hne, hsem'⟩
      · exact .inl rfl
      · apply (h.flagged.waking key' ks' sem' obj' hks' hsem' hobj).imp_right (Or.imp_left ?_)
        rintro ⟨r, hr, rfl, -⟩
        rw [hset] at hr
        cases hr
        exact absurd rfl hne
    · intro key' obj' hacc
      rcases List.mem_append.mp hacc with hacc | hacc
      · exact (h.kept.accepted key' obj' hacc).imp_right fun hpending =>
          hpending.update hsem rfl rfl (.inr rfl) fun _ _ hw _ _ => hw
      · cases List.mem_singleton.mp hacc
        exact .inr (hpending.update hsem rfl rfl (.inr rfl) fun _ _ hw _ _ => hw)
  · cases ht

section Enter

variable {thread thread' : Nat} {w w' : Waiter K} {sem : ObjectWaitSemaphore}

/-- A thread that has just gone to sleep has taken nothing. -/
theorem of_move_blocked {sem' : ObjectWaitSemaphore} {result : Option Nat}
    (hw' : (s.move thread w sem' .blocked).waiters thread' = some w')
    (hphase : w'.phase = .returning result) : s.waiters thread' = some w' := by
  rcases of_update hw' with ⟨-, rfl⟩ | ⟨-, hw'⟩
  · cases hphase
  · exact hw'

theorem ne_of_entering (hphase : w.phase = .entering) (hphase' : w'.phase ≠ .entering) :
    w' ≠ w := by
  rintro rfl
  exact hphase' hphase

theorem Linked.enter (h : Linked s) (hw : s.waiters thread = some w)
    (hphase : w.phase = .entering) :
    Linked (s.move thread w { sem with inWait := true, answered := false } .blocked) := by
  refine h.same (sameLinks_move hw) ?_
  intro key' ks' sem' hks' hsem' hin
  rcases of_update hsem' with ⟨rfl, rfl⟩ | ⟨-, hsem'⟩
  · exact ⟨thread, _, Function.update_self .., rfl, rfl⟩
  · obtain ⟨thread', w', hw', hwks, hblocked⟩ := h.in_wait key' ks' sem' hks' hsem' hin
    have hne : w' ≠ w := ne_of_entering hphase (by simp [hblocked])
    exact ⟨thread', w', move_others hw hw' hne, hwks, hblocked⟩

theorem Owned.enter (h : Owned s) (hsem : s.sems w.ks = some sem) :
    Owned (s.move thread w { sem with inWait := true, answered := false } .blocked) := by
  refine { h with sems := ?_, waiters := ?_ }
  · intro key' ks' sem' obj' hks' hsem' hobj
    obtain ⟨sem₀, hsem₀, hsame⟩ := of_update_same hsem hsem' rfl
    exact h.sems key' ks' sem₀ obj' hks' hsem₀ (hsame.trans hobj)
  · intro thread' w' obj' hw' hphase'
    exact h.waiters thread' w' obj' (of_move_blocked hw' hphase') hphase'

theorem Single.enter (h : Single s) (hsem : s.sems w.ks = some sem) :
    Single (s.move thread w { sem with inWait := true, answered := false } .blocked) := by
  refine { h with sems := ?_, waiters := ?_, taken := ?_, unset := ?_, untaken := ?_ }
  · intro key' ks' sem' obj' hks' hsem' hobj
    obtain ⟨sem₀, hsem₀, hsame⟩ := of_update_same hsem hsem' rfl
    exact h.sems key' ks' sem₀ obj' hks' hsem₀ (hsame.trans hobj)
  · intro thread' w' obj' hw' hphase'
    exact h.waiters thread' w' obj' (of_move_blocked hw' hphase') hphase'
  · intro thread' w' sem' result hw' hphase' hsem'
    obtain ⟨sem₀, hsem₀, hsame⟩ := of_update_same hsem hsem' rfl
    have hold := of_move_blocked hw' hphase'
    exact hsame.symm.trans (h.taken thread' w' sem₀ result hold hphase' hsem₀)
  · intro r sem' hr hset hsem'
    obtain ⟨sem₀, hsem₀, hsame⟩ := of_update_same hsem hsem' rfl
    exact hsame.symm.trans (h.unset r sem₀ hr hset hsem₀)
  · intro r thread' w' obj' hr hset hw' hks hphase'
    exact h.untaken r thread' w' obj' hr hset (of_move_blocked hw' hphase') hks hphase'

/-- The response that lies in the semaphore does not wake the thread any more. The wait is timed
then, or the setter is on its way to the flag. -/
theorem Flagged.enter (h : Flagged s) (hl : Linked s) (hw : s.waiters thread = some w)
    (hphase : w.phase = .entering) (hsem : s.sems w.ks = some sem)
    (hok : w.timed = false → sem.answered = false) :
    Flagged (s.move thread w { sem with inWait := true, answered := false } .blocked) := by
  refine ⟨?_, ?_, ?_, ?_⟩
  · intro key' ks' sem' hks' hsem' hanswered
    rcases of_update hsem' with ⟨-, rfl⟩ | ⟨-, hsem'⟩
    · cases hanswered
    · apply (h.answered key' ks' sem' hks' hsem' hanswered).imp_right
      rintro ⟨thread', w', result, hw', hwks, hphase'⟩
      have hne : w' ≠ w := ne_of_entering hphase (by simp [hphase'])
      exact ⟨thread', w', result, move_others hw hw' hne, hwks, hphase'⟩
  · intro key' ks' sem' obj' hks' hsem' hobj
    rcases of_update hsem' with ⟨rfl, rfl⟩ | ⟨-, hsem'⟩
    · right
      by_cases htimed : w.timed = true
      · exact .inr ⟨thread, _, Function.update_self .., rfl, rfl, htimed⟩
      · rw [Bool.not_eq_true] at htimed
        rcases h.waking key' w.ks sem obj' hks' hsem hobj with
          hanswered | hsetter | ⟨thread', w', hw', hwks, hblocked, -⟩
        · rw [hok htimed] at hanswered
          cases hanswered
        · exact .inl hsetter
        · cases hl.alone thread' thread w' w hw' hw hwks
          rw [hw] at hw'
          cases hw'
          rw [hphase] at hblocked
          cases hblocked
    · apply (h.waking key' ks' sem' obj' hks' hsem' hobj).imp_right (Or.imp_right ?_)
      rintro ⟨thread', w', hw', hwks, hblocked, htimed⟩
      have hne : w' ≠ w := ne_of_entering hphase (by simp [hblocked])
      exact ⟨thread', w', move_others hw hw' hne, hwks, hblocked, htimed⟩
  · intro r sem' hr hsem'
    rcases of_update hsem' with ⟨-, rfl⟩ | ⟨-, hsem'⟩
    · rfl
    · exact h.setting r sem' hr hsem'
  · intro r thread' w' result hr hw' hks hphase'
    exact h.untimed r thread' w' result hr (of_move_blocked hw' hphase') hks hphase'

theorem Kept.enter (h : Kept s) (hw : s.waiters thread = some w) (hphase : w.phase = .entering)
    (hsem : s.sems w.ks = some sem) :
    Kept (s.move thread w { sem with inWait := true, answered := false } .blocked) := by
  have hpending : ∀ key obj, s.Pending key obj →
      (s.move thread w { sem with inWait := true, answered := false } .blocked).Pending key
        obj := by
    intro key obj hpending
    refine hpending.update hsem rfl rfl (.inr rfl) fun thread' w' hw' _ hphase' => ?_
    exact move_others hw hw' (ne_of_entering hphase (by simp [hphase']))
  exact ⟨fun r hr hset => hpending _ _ (h.set r hr hset),
    fun key obj hacc => (h.accepted key obj hacc).imp_right (hpending key obj)⟩

/-- The thread goes to sleep. The flag is cleared, so that an untimed wait must not find a
response here. -/
theorem good_enter (h : Good s) (hok : InTime s (.enter thread)) (ht : s.enter thread = some t) :
    Good t := by
  unfold enter at ht
  split at ht
  · rename_i w hw
    split_ifs at ht with hphase
    obtain ⟨sem, hsem, rfl⟩ := Option.map_eq_some_iff.mp ht
    simp only [ObjectWaitSemaphore.enterWait, not_inWait h hw hphase hsem, Bool.false_eq_true,
      if_false]
    exact ⟨h.linked.enter hw hphase, h.owned.enter hsem, h.single.enter hsem,
      h.flagged.enter h.linked hw hphase hsem fun htimed => hok w sem hw htimed hsem,
      h.kept.enter hw hphase hsem⟩
  · cases ht

end Enter

section LeaveWait

variable {thread thread' : Nat} {w w' : Waiter K} {sem : ObjectWaitSemaphore}

theorem Linked.leaveWait (h : Linked s) (hw : s.waiters thread = some w) {phase : WaitPhase} :
    Linked (s.move thread w {} phase) := by
  refine h.same (sameLinks_move hw) ?_
  intro key' ks' sem' hks' hsem' hin
  rcases of_update hsem' with ⟨-, rfl⟩ | ⟨hne, hsem'⟩
  · cases hin
  · obtain ⟨thread', w', hw', rfl, hblocked⟩ := h.in_wait key' ks' sem' hks' hsem' hin
    exact ⟨thread', w', move_others hw hw' fun heq => hne (congrArg _ heq), rfl, hblocked⟩

/-- What holds of each response that lies in a semaphore still does. -/
theorem sems_leaveWait {P : K → Nat → Prop} {phase : WaitPhase}
    (h : ∀ key ks sem obj, s.keySemaphoreMap key = some (some ks) → s.sems ks = some sem →
      sem.objecForWait = some obj → P key obj) :
    ∀ key ks sem obj, s.keySemaphoreMap key = some (some ks) →
      (s.move thread w {} phase).sems ks = some sem → sem.objecForWait = some obj → P key obj := by
  intro key' ks' sem' obj' hks' hsem' hobj
  rcases of_update hsem' with ⟨-, rfl⟩ | ⟨-, hsem'⟩
  · cases hobj
  · exact h key' ks' sem' obj' hks' hsem' hobj

/-- What holds of each response, in a semaphore or taken from one, holds of the one that is
taken now. -/
theorem waiters_leaveWait {P : K → Nat → Prop}
    (hsems : ∀ key ks sem obj, s.keySemaphoreMap key = some (some ks) → s.sems ks = some sem →
      sem.objecForWait = some obj → P key obj)
    (hwaiters : ∀ thread w obj, s.waiters thread = some w → w.phase = .returning (some obj) →
      P w.waitOnKey obj)
    (hl : Linked s) (hw : s.waiters thread = some w) (hsem : s.sems w.ks = some sem) :
    ∀ thread' w' obj, (s.move thread w {} (.returning sem.objecForWait)).waiters thread' = some w' →
      w'.phase = .returning (some obj) → P w'.waitOnKey obj := by
  intro thread' w' obj' hw' hphase'
  rcases of_update hw' with ⟨-, rfl⟩ | ⟨-, hw'⟩
  · exact hsems w.waitOnKey w.ks sem obj' (hl.waiting thread w hw) hsem
      (WaitPhase.returning.inj hphase')
  · exact hwaiters thread' w' obj' hw' hphase'

theorem Owned.leaveWait (h : Owned s) (hl : Linked s) (hw : s.waiters thread = some w)
    (hsem : s.sems w.ks = some sem) :
    Owned (s.move thread w {} (.returning sem.objecForWait)) := by
  exact { h with
    sems := sems_leaveWait h.sems
    waiters := waiters_leaveWait h.sems h.waiters hl hw hsem }

theorem Single.leaveWait (h : Single s) (hl : Linked s) (hw : s.waiters thread = some w)
    (hsem : s.sems w.ks = some sem) :
    Single (s.move thread w {} (.returning sem.objecForWait)) := by
  refine { h with
    sems := sems_leaveWait h.sems
    waiters := waiters_leaveWait h.sems h.waiters hl hw hsem
    taken := ?_, unset := ?_, untaken := ?_ }
  · intro thread' w' sem' result hw' hphase' hsem'
    rcases of_update hsem' with ⟨-, rfl⟩ | ⟨hne, hsem'⟩
    · rfl
    · rcases of_update hw' with ⟨-, rfl⟩ | ⟨-, hw'⟩
      · exact absurd rfl hne
      · exact h.taken thread' w' sem' result hw' hphase' hsem'
  · intro r sem' hr hset hsem'
    rcases of_update hsem' with ⟨-, rfl⟩ | ⟨-, hsem'⟩
    · rfl
    · exact h.unset r sem' hr hset hsem'
  · intro r thread' w' obj' hr hset hw' hks hphase'
    rcases of_update hw' with ⟨-, rfl⟩ | ⟨-, hw'⟩
    · have hnone := h.unset r sem hr hset (hks ▸ hsem)
      rw [WaitPhase.returning.inj hphase'] at hnone
      cases hnone
    · exact h.untaken r thread' w' obj' hr hset hw' hks hphase'

/-- A wait that is woken by its answer is not on the way of a setter. -/
theorem Flagged.leaveWait (h : Flagged s) (hw : s.waiters thread = some w)
    (hsem : s.sems w.ks = some sem) (hawake : w.timed = true ∨ sem.answered = true)
    {result : Option Nat} : Flagged (s.move thread w {} (.returning result)) := by
  refine ⟨?_, ?_, ?_, ?_⟩
  · intro key' ks' sem' hks' hsem' hanswered
    rcases of_update hsem' with ⟨-, rfl⟩ | ⟨hne, hsem'⟩
    · cases hanswered
    · apply (h.answered key' ks' sem' hks' hsem' hanswered).imp_right
      rintro ⟨thread', w', result', hw', rfl, hphase'⟩
      exact ⟨thread', w', result', move_others hw hw' fun heq => hne (congrArg _ heq), rfl, hphase'⟩
  · intro key' ks' sem' obj' hks' hsem' hobj
    rcases of_update hsem' with ⟨-, rfl⟩ | ⟨hne, hsem'⟩
    · cases hobj
    · apply (h.waking key' ks' sem' obj' hks' hsem' hobj).imp_right (Or.imp_right ?_)
      rintro ⟨thread', w', hw', rfl, hblocked, htimed⟩
      exact ⟨thread', w', move_others hw hw' fun heq => hne (congrArg _ heq), rfl, hblocked, htimed⟩
  · intro r sem' hr hsem'
    rcases of_update hsem' with ⟨-, rfl⟩ | ⟨-, hsem'⟩
    · rfl
    · exact h.setting r sem' hr hsem'
  · intro r thread' w' result' hr hw' hks hphase'
    rcases of_update hw' with ⟨-, rfl⟩ | ⟨-, hw'⟩
    · refine hawake.resolve_right fun hanswered => ?_
      rw [h.setting r sem hr (hks ▸ hsem)] at hanswered
      cases hanswered
    · exact h.untimed r thread' w' result' hr hw' hks hphase'

/-- The thread takes what the semaphore holds, because it is answered or its time is over. -/
theorem good_leaveWait (h : Good s) (hw : s.waiters thread = some w) (hphase : w.phase = .blocked)
    (hawake : w.timed = true ∨ (s.sems w.ks).any (·.answered))
    (ht : s.waiterStep thread w ObjectWaitSemaphore.leaveWait = some t) : Good t := by
  obtain ⟨sem, hsem, rfl⟩ := Option.map_eq_some_iff.mp ht
  rw [hsem, Option.any_some] at hawake
  refine ⟨h.linked.leaveWait hw, h.owned.leaveWait h.linked hw hsem,
    h.single.leaveWait h.linked hw hsem, h.flagged.leaveWait hw hsem hawake, ⟨?_, ?_⟩⟩
  · intro r hr hset
    exact (h.kept.set r hr hset).taken h.linked hw hphase hsem
  · intro key obj hacc
    exact (h.kept.accepted key obj hacc).imp_right fun hpending =>
      hpending.taken h.linked hw hphase hsem

end LeaveWait

/-- The wait of a thread is over: its key and its semaphore are gone, and every other key,
semaphore and wait is as it was. -/
structure Left (s t : MultiKeyObjectWaitSemaphore K) (thread : Nat) (w : Waiter K)
    (result : Option Nat) : Prop where
  waiter : s.waiters thread = some w
  phase : w.phase = .returning result
  unset : ∀ r, s.setter = some r → r.ks ≠ w.ks
  map : ∀ key ks, t.keySemaphoreMap key = some (some ks) ↔
    s.keySemaphoreMap key = some (some ks) ∧ key ≠ w.waitOnKey
  sems : ∀ ks, ks ≠ w.ks → t.sems ks = s.sems ks
  waiters : ∀ thread' w', t.waiters thread' = some w' ↔
    s.waiters thread' = some w' ∧ thread' ≠ thread
  next : t.next = s.next
  setter : t.setter = s.setter
  arrived : t.arrived = s.arrived
  accepted : t.accepted = s.accepted
  returned : t.returned = s.returned ++ (result.map fun obj => (w.waitOnKey, obj)).toList

namespace Left

variable {thread : Nat} {w : Waiter K} {result : Option Nat}

/-- The other keys have other semaphores. -/
theorem ks_ne (hl : Left s t thread w result) (h : Linked s) {key : K} {ks : Nat}
    (hks : t.keySemaphoreMap key = some (some ks)) : ks ≠ w.ks := by
  obtain ⟨hks, hne⟩ := (hl.map key ks).mp hks
  rintro rfl
  exact hne (h.one_key key w.waitOnKey w.ks hks (h.waiting thread w hl.waiter))

theorem key_ne (hl : Left s t thread w result) (h : Linked s) {key : K} {ks : Nat}
    (hks : s.keySemaphoreMap key = some (some ks)) (hne : ks ≠ w.ks) : key ≠ w.waitOnKey := by
  rintro rfl
  rw [h.waiting thread w hl.waiter, Option.some.injEq, Option.some.injEq] at hks
  exact hne hks.symm

/-- The other waits are on other semaphores. -/
theorem waiter_iff (hl : Left s t thread w result) (h : Linked s) (thread' : Nat) (w' : Waiter K) :
    t.waiters thread' = some w' ↔ s.waiters thread' = some w' ∧ w'.ks ≠ w.ks := by
  rw [hl.waiters]
  refine and_congr_right fun hw' => not_congr ⟨?_, fun hks => ?_⟩
  · rintro rfl
    rw [hl.waiter] at hw'
    cases hw'
    rfl
  · exact h.alone thread' thread w' w hw' hl.waiter hks

theorem mem_returned (hl : Left s t thread w result) {key : K} {obj : Nat} :
    (key, obj) ∈ t.returned ↔ (key, obj) ∈ s.returned ∨ key = w.waitOnKey ∧ result = some obj := by
  rw [hl.returned, List.mem_append, Option.mem_toList, Option.map_eq_some_iff]
  refine or_congr_right ⟨?_, ?_⟩
  · rintro ⟨obj', rfl, hpair⟩
    cases hpair
    exact ⟨rfl, rfl⟩
  · rintro ⟨rfl, rfl⟩
    exact ⟨obj, rfl, rfl⟩

theorem not_mem_returned (hl : Left s t thread w result) {key : K} {obj : Nat}
    (hnew : (key, obj) ∉ s.returned) (hne : key ≠ w.waitOnKey) : (key, obj) ∉ t.returned := by
  intro hmem
  rcases hl.mem_returned.mp hmem with hret | ⟨hkey, -⟩
  · exact hnew hret
  · exact hne hkey

theorem linked (hl : Left s t thread w result) (h : Linked s) : Linked t where
  mapped key ks hks := by
    rw [hl.next]
    exact h.mapped key ks ((hl.map key ks).mp hks).1
  there key ks hks := by
    rw [hl.sems ks (hl.ks_ne h hks)]
    exact h.there key ks ((hl.map key ks).mp hks).1
  one_key key key' ks hks hks' :=
    h.one_key key key' ks ((hl.map key ks).mp hks).1 ((hl.map key' ks).mp hks').1
  waiting thread' w' hw' := by
    obtain ⟨hw', hne⟩ := (hl.waiter_iff h thread' w').mp hw'
    have hks := h.waiting thread' w' hw'
    exact (hl.map _ _).mpr ⟨hks, hl.key_ne h hks hne⟩
  alone thread₁ thread₂ w₁ w₂ hw₁ hw₂ :=
    h.alone thread₁ thread₂ w₁ w₂ ((hl.waiters thread₁ w₁).mp hw₁).1
      ((hl.waiters thread₂ w₂).mp hw₂).1
  setting r hr := by
    rw [hl.setter] at hr
    have hks := h.setting r hr
    exact (hl.map _ _).mpr ⟨hks, hl.key_ne h hks (hl.unset r hr)⟩
  in_wait key ks sem hks hsem hin := by
    have hne := hl.ks_ne h hks
    rw [hl.sems ks hne] at hsem
    obtain ⟨thread', w', hw', rfl, hblocked⟩ :=
      h.in_wait key ks sem ((hl.map key ks).mp hks).1 hsem hin
    exact ⟨thread', w', (hl.waiter_iff h thread' w').mpr ⟨hw', hne⟩, rfl, hblocked⟩

theorem owned (hl : Left s t thread w result) (h : Linked s) (ho : Owned s) : Owned t where
  setter r hr := by
    rw [hl.arrived]
    exact ho.setter r (hl.setter ▸ hr)
  sems key ks sem obj hks hsem hobj := by
    rw [hl.sems ks (hl.ks_ne h hks)] at hsem
    rw [hl.arrived]
    exact ho.sems key ks sem obj ((hl.map key ks).mp hks).1 hsem hobj
  waiters thread' w' obj hw' hphase := by
    rw [hl.arrived]
    exact ho.waiters thread' w' obj ((hl.waiters thread' w').mp hw').1 hphase
  returned key obj hmem := by
    rw [hl.arrived]
    rcases hl.mem_returned.mp hmem with hret | ⟨rfl, rfl⟩
    · exact ho.returned key obj hret
    · exact ho.waiters thread w obj hl.waiter hl.phase
  accepted key obj hacc := by
    rw [hl.arrived]
    exact ho.accepted key obj (hl.accepted ▸ hacc)

/-- The response that is returned was not returned before. -/
theorem single (hl : Left s t thread w result) (h : Linked s) (ho : Owned s) (hs : Single s) :
    Single t where
  once := by
    rw [hl.returned]
    cases result with
    | none => simpa using hs.once
    | some obj =>
      rw [List.map_append]
      apply nodup_snoc hs.once
      intro hmem
      obtain ⟨⟨key, obj'⟩, hret, rfl⟩ := List.mem_map.mp hmem
      have hkey := ho.returned key obj' hret
      rw [ho.waiters thread w obj' hl.waiter hl.phase, Option.some.injEq] at hkey
      subst hkey
      exact hs.waiters thread w obj' hl.waiter hl.phase hret
  sems key ks sem obj hks hsem hobj := by
    rw [hl.sems ks (hl.ks_ne h hks)] at hsem
    obtain ⟨hks, hne⟩ := (hl.map key ks).mp hks
    exact hl.not_mem_returned (hs.sems key ks sem obj hks hsem hobj) hne
  waiters thread' w' obj hw' hphase := by
    obtain ⟨hw', hne⟩ := (hl.waiter_iff h thread' w').mp hw'
    exact hl.not_mem_returned (hs.waiters thread' w' obj hw' hphase)
      (hl.key_ne h (h.waiting thread' w' hw') hne)
  setter r hr := by
    rw [hl.setter] at hr
    exact hl.not_mem_returned (hs.setter r hr) (hl.key_ne h (h.setting r hr) (hl.unset r hr))
  fresh r hr := by
    rw [hl.accepted]
    exact hs.fresh r (hl.setter ▸ hr)
  taken thread' w' sem result' hw' hphase hsem := by
    obtain ⟨hw', hne⟩ := (hl.waiter_iff h thread' w').mp hw'
    exact hs.taken thread' w' sem result' hw' hphase (hl.sems _ hne ▸ hsem)
  unset r sem hr hisSet hsem := by
    rw [hl.setter] at hr
    exact hs.unset r sem hr hisSet (hl.sems _ (hl.unset r hr) ▸ hsem)
  untaken r thread' w' obj hr hisSet hw' :=
    hs.untaken r thread' w' obj (hl.setter ▸ hr) hisSet ((hl.waiters thread' w').mp hw').1

theorem flagged (hl : Left s t thread w result) (h : Linked s) (hf : Flagged s) : Flagged t where
  answered key ks sem hks hsem hanswered := by
    have hne := hl.ks_ne h hks
    rw [hl.sems ks hne] at hsem
    apply (hf.answered key ks sem ((hl.map key ks).mp hks).1 hsem hanswered).imp_right
    rintro ⟨thread', w', result', hw', rfl, hphase⟩
    exact ⟨thread', w', result', (hl.waiter_iff h thread' w').mpr ⟨hw', hne⟩, rfl, hphase⟩
  waking key ks sem obj hks hsem hobj := by
    have hne := hl.ks_ne h hks
    rw [hl.sems ks hne] at hsem
    rw [hl.setter]
    apply (hf.waking key ks sem obj ((hl.map key ks).mp hks).1 hsem hobj).imp_right
      (Or.imp_right ?_)
    rintro ⟨thread', w', hw', rfl, hblocked, htimed⟩
    exact ⟨thread', w', (hl.waiter_iff h thread' w').mpr ⟨hw', hne⟩, rfl, hblocked, htimed⟩
  setting r sem hr hsem := by
    rw [hl.setter] at hr
    exact hf.setting r sem hr (hl.sems _ (hl.unset r hr) ▸ hsem)
  untimed r thread' w' result' hr hw' :=
    hf.untimed r thread' w' result' (hl.setter ▸ hr) ((hl.waiters thread' w').mp hw').1

/-- The semaphore that is deleted is empty, and what the thread took from it is returned. -/
theorem pending (hl : Left s t thread w result) (h : Good s) {key : K} {obj : Nat}
    (hpending : s.Pending key obj) :
    (key = w.waitOnKey ∧ result = some obj) ∨ t.Pending key obj := by
  rcases hpending with ⟨ks, sem, hks, hsem, hobj⟩ | ⟨thread', w', hw', rfl, hphase⟩
  · right
    have hne : ks ≠ w.ks := by
      rintro rfl
      rw [h.single.taken thread w sem result hl.waiter hl.phase hsem] at hobj
      cases hobj
    exact .inl ⟨ks, sem, (hl.map key ks).mpr ⟨hks, hl.key_ne h.linked hks hne⟩,
      (hl.sems ks hne).trans hsem, hobj⟩
  · by_cases hthread : thread' = thread
    · subst hthread
      rw [hl.waiter] at hw'
      cases hw'
      rw [hl.phase] at hphase
      cases hphase
      exact .inl ⟨rfl, rfl⟩
    · exact .inr (.inr ⟨thread', w', (hl.waiters thread' w').mpr ⟨hw', hthread⟩, rfl, hphase⟩)

theorem kept (hl : Left s t thread w result) (h : Good s) : Kept t where
  set r hr hisSet := by
    rw [hl.setter] at hr
    refine (hl.pending h (h.kept.set r hr hisSet)).resolve_left ?_
    rintro ⟨hkey, -⟩
    exact hl.key_ne h.linked (h.linked.setting r hr) (hl.unset r hr) hkey
  accepted key obj hacc := by
    rw [hl.accepted] at hacc
    rcases h.kept.accepted key obj hacc with hret | hpending
    · exact .inl (hl.mem_returned.mpr (.inl hret))
    · exact (hl.pending h hpending).imp_left fun hmine => hl.mem_returned.mpr (.inr hmine)

end Left

section Keys

variable [DecidableEq K]

/-- A new semaphore under a key that had no entry. -/
def addKey (s : MultiKeyObjectWaitSemaphore K) (keyToInit : K) : MultiKeyObjectWaitSemaphore K :=
  { s with
    keySemaphoreMap := Function.update s.keySemaphoreMap keyToInit (some (some s.next))
    sems := Function.update s.sems s.next (some {})
    next := s.next + 1 }

section AddKey

variable {keyToInit key : K} {ks : Nat}

theorem addKey_keeps (hfree : s.keySemaphoreMap keyToInit = none) {p : Option Nat}
    (hks : s.keySemaphoreMap key = some p) : (s.addKey keyToInit).keySemaphoreMap key = some p :=
  update_free hfree hks

theorem addKey_new : (s.addKey keyToInit).sems s.next = some {} := Function.update_self ..

theorem addKey_sems (h : Linked s) (hks : s.keySemaphoreMap key = some (some ks)) :
    (s.addKey keyToInit).sems ks = s.sems ks :=
  Function.update_of_ne (Nat.ne_of_lt (h.mapped key ks hks)) ..

/-- The new semaphore is empty, and the others are as they were. -/
theorem of_addKey (h : Linked s) {sem : ObjectWaitSemaphore}
    (hks : (s.addKey keyToInit).keySemaphoreMap key = some (some ks))
    (hsem : (s.addKey keyToInit).sems ks = some sem) :
    sem = {} ∨ s.keySemaphoreMap key = some (some ks) ∧ s.sems ks = some sem := by
  rcases of_update hks with ⟨-, hnext⟩ | ⟨-, hks⟩
  · cases hnext
    rw [addKey_new] at hsem
    exact .inl (Option.some.inj hsem).symm
  · exact .inr ⟨hks, (addKey_sems h hks).symm.trans hsem⟩

theorem Linked.addKey (h : Linked s) (hfree : s.keySemaphoreMap keyToInit = none) :
    Linked (s.addKey keyToInit) where
  mapped key ks hks := by
    rcases of_update hks with ⟨-, hnext⟩ | ⟨-, hks⟩
    · cases hnext
      exact Nat.lt_succ_self _
    · exact Nat.lt_succ_of_lt (h.mapped key ks hks)
  there key ks hks hnone := by
    rcases of_update hks with ⟨-, hnext⟩ | ⟨-, hks⟩
    · cases hnext
      rw [addKey_new] at hnone
      cases hnone
    · exact h.there key ks hks ((addKey_sems h hks).symm.trans hnone)
  one_key key key' ks hks hks' := by
    rcases of_update hks with ⟨hkey, hnext⟩ | ⟨-, hold⟩
    · rcases of_update hks' with ⟨hkey', -⟩ | ⟨-, hold'⟩
      · exact hkey.trans hkey'.symm
      · cases hnext
        exact absurd (h.mapped key' _ hold') (Nat.lt_irrefl _)
    · rcases of_update hks' with ⟨-, hnext⟩ | ⟨-, hold'⟩
      · cases hnext
        exact absurd (h.mapped key _ hold) (Nat.lt_irrefl _)
      · exact h.one_key key key' ks hold hold'
  waiting thread w hw := addKey_keeps hfree (h.waiting thread w hw)
  alone := h.alone
  setting r hr := addKey_keeps hfree (h.setting r hr)
  in_wait key ks sem hks hsem hin := by
    rcases of_addKey h hks hsem with rfl | ⟨hks, hsem⟩
    · cases hin
    · exact h.in_wait key ks sem hks hsem hin

theorem Pending.addKey {obj : Nat} (hpending : s.Pending key obj) (h : Linked s)
    (hfree : s.keySemaphoreMap keyToInit = none) : (s.addKey keyToInit).Pending key obj := by
  refine hpending.keep (fun ks hks => addKey_keeps hfree hks) ?_ fun _ _ hw _ _ => hw
  intro ks sem hks hsem hobj
  exact ⟨sem, (addKey_sems h hks).trans hsem, hobj⟩

end AddKey

theorem good_initKey {keyToInit : K} (h : Good s) (ht : s.initKey keyToInit = some t) :
    Good t := by
  unfold initKey at ht
  split_ifs at ht with hsome
  · cases ht
    exact h
  · obtain rfl : s.addKey keyToInit = t := Option.some.inj ht
    rw [Bool.not_eq_true, Option.isSome_eq_false_iff, Option.isNone_iff_eq_none] at hsome
    have hl := h.linked
    refine ⟨hl.addKey hsome, { h.owned with sems := ?_ },
      { h.single with sems := ?_, taken := ?_, unset := ?_ },
      { h.flagged with answered := ?_, waking := ?_, setting := ?_ }, ⟨?_, ?_⟩⟩
    · intro key ks sem obj hks hsem hobj
      rcases of_addKey hl hks hsem with rfl | ⟨hks, hsem⟩
      · cases hobj
      · exact h.owned.sems key ks sem obj hks hsem hobj
    · intro key ks sem obj hks hsem hobj
      rcases of_addKey hl hks hsem with rfl | ⟨hks, hsem⟩
      · cases hobj
      · exact h.single.sems key ks sem obj hks hsem hobj
    · intro thread w sem result hw hphase hsem
      rw [addKey_sems hl (hl.waiting thread w hw)] at hsem
      exact h.single.taken thread w sem result hw hphase hsem
    · intro r sem hr hset hsem
      rw [addKey_sems hl (hl.setting r hr)] at hsem
      exact h.single.unset r sem hr hset hsem
    · intro key ks sem hks hsem hanswered
      rcases of_addKey hl hks hsem with rfl | ⟨hks, hsem⟩
      · cases hanswered
      · exact h.flagged.answered key ks sem hks hsem hanswered
    · intro key ks sem obj hks hsem hobj
      rcases of_addKey hl hks hsem with rfl | ⟨hks, hsem⟩
      · cases hobj
      · exact h.flagged.waking key ks sem obj hks hsem hobj
    · intro r sem hr hsem
      rw [addKey_sems hl (hl.setting r hr)] at hsem
      exact h.flagged.setting r sem hr hsem
    · exact fun r hr hset => (h.kept.set r hr hset).addKey hl hsome
    · exact fun key obj hacc =>
        (h.kept.accepted key obj hacc).imp_right fun hpending => hpending.addKey hl hsome

/-- The NULL entry that a wait leaves under a key without an entry names no semaphore. -/
theorem good_wait_null {waitOnKey : K} (h : Good s)
    (hmissing : s.keySemaphoreMap waitOnKey = none) :
    Good { s with keySemaphoreMap := Function.update s.keySemaphoreMap waitOnKey (some none) } := by
  have hold : ∀ key ks,
      Function.update s.keySemaphoreMap waitOnKey (some none) key = some (some ks) →
      s.keySemaphoreMap key = some (some ks) := by
    intro key ks hks
    rcases of_update hks with ⟨-, hnull⟩ | ⟨-, hks⟩
    · cases hnull
    · exact hks
  have hkeep : ∀ key ks, s.keySemaphoreMap key = some ks →
      Function.update s.keySemaphoreMap waitOnKey (some none) key = some ks :=
    fun _ _ => update_free hmissing
  have hpending : ∀ key obj, s.Pending key obj → Pending { s with
      keySemaphoreMap := Function.update s.keySemaphoreMap waitOnKey (some none) } key obj :=
    fun key obj hpending => hpending.keep (fun ks hks => hkeep key _ hks)
      (fun _ sem _ hsem hobj => ⟨sem, hsem, hobj⟩) fun _ _ hw _ _ => hw
  exact ⟨{ h.linked with
      mapped := fun key ks hks => h.linked.mapped key ks (hold key ks hks)
      there := fun key ks hks => h.linked.there key ks (hold key ks hks)
      one_key := fun key key' ks hks hks' =>
        h.linked.one_key key key' ks (hold key ks hks) (hold key' ks hks')
      waiting := fun thread w hw => hkeep _ _ (h.linked.waiting thread w hw)
      setting := fun r hr => hkeep _ _ (h.linked.setting r hr)
      in_wait := fun key ks sem hks => h.linked.in_wait key ks sem (hold key ks hks) },
    { h.owned with sems := fun key ks sem obj hks =>
        h.owned.sems key ks sem obj (hold key ks hks) },
    { h.single with sems := fun key ks sem obj hks =>
        h.single.sems key ks sem obj (hold key ks hks) },
    { h.flagged with
      answered := fun key ks sem hks => h.flagged.answered key ks sem (hold key ks hks)
      waking := fun key ks sem obj hks => h.flagged.waking key ks sem obj (hold key ks hks) },
    ⟨fun r hr hset => hpending _ _ (h.kept.set r hr hset),
      fun key obj hacc => (h.kept.accepted key obj hacc).imp_right (hpending key obj)⟩⟩

section Wait

variable {thread ks : Nat} {waitOnKey : K} {timed : Bool}

omit [DecidableEq K]

/-- A thread that waits on a semaphore that no other one waits on. -/
theorem Linked.wait (h : Linked s) (hfree : s.waiters thread = none)
    (hks : s.keySemaphoreMap waitOnKey = some (some ks))
    (halone : ∀ thread w, s.waiters thread = some w → w.ks ≠ ks) :
    Linked { s with
      waiters := Function.update s.waiters thread (some ⟨waitOnKey, ks, timed, .entering⟩) } := by
  refine { h with waiting := ?_, alone := ?_, in_wait := ?_ }
  · intro thread' w' hw'
    rcases of_update hw' with ⟨-, rfl⟩ | ⟨-, hw'⟩
    · exact hks
    · exact h.waiting thread' w' hw'
  · intro thread' thread'' w' w'' hw' hw'' hsame
    rcases of_update hw' with ⟨hnew, rfl⟩ | ⟨-, hold⟩
    · rcases of_update hw'' with ⟨hnew', -⟩ | ⟨-, hold'⟩
      · exact hnew.trans hnew'.symm
      · exact absurd hsame.symm (halone thread'' w'' hold')
    · rcases of_update hw'' with ⟨-, rfl⟩ | ⟨-, hold'⟩
      · exact absurd hsame (halone thread' w' hold)
      · exact h.alone thread' thread'' w' w'' hold hold' hsame
  · intro key' ks' sem hks' hsem hin
    obtain ⟨thread', w', hw', hwks, hblocked⟩ := h.in_wait key' ks' sem hks' hsem hin
    exact ⟨thread', w', update_free hfree hw', hwks, hblocked⟩

/-- It has taken nothing, and wakes nobody. -/
theorem good_wait_found (h : Good s) (hnone : s.setter = none) (hfree : s.waiters thread = none)
    (hks : s.keySemaphoreMap waitOnKey = some (some ks))
    (halone : ∀ thread w, s.waiters thread = some w → w.ks ≠ ks) :
    Good { s with
      waiters := Function.update s.waiters thread (some ⟨waitOnKey, ks, timed, .entering⟩) } := by
  have hreturning : ∀ thread' w' result,
      Function.update s.waiters thread (some ⟨waitOnKey, ks, timed, .entering⟩) thread' = some w' →
      w'.phase = .returning result → s.waiters thread' = some w' := by
    intro thread' w' result hw' hphase
    rcases of_update hw' with ⟨-, rfl⟩ | ⟨-, hw'⟩
    · cases hphase
    · exact hw'
  have hunset : ∀ r, s.setter ≠ some r := by
    intro r hr
    rw [hnone] at hr
    cases hr
  refine ⟨h.linked.wait hfree hks halone, { h.owned with waiters := ?_ },
    { h.single with waiters := ?_, taken := ?_, untaken := ?_ },
    { h.flagged with answered := ?_, waking := ?_, untimed := ?_ }, ⟨?_, ?_⟩⟩
  · intro thread' w' obj hw' hphase
    exact h.owned.waiters thread' w' obj (hreturning thread' w' _ hw' hphase) hphase
  · intro thread' w' obj hw' hphase
    exact h.single.waiters thread' w' obj (hreturning thread' w' _ hw' hphase) hphase
  · intro thread' w' sem result hw' hphase
    exact h.single.taken thread' w' sem result (hreturning thread' w' result hw' hphase) hphase
  · exact fun r _ _ _ hr => absurd hr (hunset r)
  · intro key' ks' sem hks' hsem hanswered
    apply (h.flagged.answered key' ks' sem hks' hsem hanswered).imp_right
    rintro ⟨thread', w', result, hw', hwks, hphase⟩
    exact ⟨thread', w', result, update_free hfree hw', hwks, hphase⟩
  · intro key' ks' sem obj hks' hsem hobj
    apply (h.flagged.waking key' ks' sem obj hks' hsem hobj).imp_right (Or.imp_right ?_)
    rintro ⟨thread', w', hw', hwks, hblocked, htimed⟩
    exact ⟨thread', w', update_free hfree hw', hwks, hblocked, htimed⟩
  · exact fun r _ _ _ hr => absurd hr (hunset r)
  · exact fun r hr => absurd hr (hunset r)
  · intro key obj hacc
    apply (h.kept.accepted key obj hacc).imp_right
    intro hpending
    exact hpending.keep (fun _ hks => hks) (fun _ sem _ hsem hobj => ⟨sem, hsem, hobj⟩)
      fun thread' w' hw' _ _ => update_free hfree hw'

end Wait

/-- The wait is the only one on its semaphore. -/
theorem good_wait {thread : Nat} {waitOnKey : K} {timed : Bool} (h : Good s)
    (hok : InTime s (.wait thread waitOnKey timed))
    (ht : s.wait thread waitOnKey timed = some t) : Good t := by
  unfold wait at ht
  split_ifs at ht with hbusy
  rw [not_or, Bool.not_eq_true, Bool.not_eq_true, Option.isSome_eq_false_iff,
    Option.isSome_eq_false_iff, Option.isNone_iff_eq_none, Option.isNone_iff_eq_none] at hbusy
  obtain ⟨hnone, hfree⟩ := hbusy
  split at ht
  · rename_i hmissing
    cases ht
    exact good_wait_null h hmissing
  · cases ht
    exact h
  · rename_i ks hks
    cases ht
    exact good_wait_found h hnone hfree hks fun thread w => hok ks thread w hks

/-- A wait always finds its key when it leaves, and no response is on its way to it then. -/
theorem leave_eq (h : Good s) {thread : Nat} (ht : s.leave thread = some t) :
    ∃ w result, s.waiters thread = some w ∧ w.phase = .returning result ∧
      (∀ r, s.setter = some r → r.ks ≠ w.ks) ∧
      t = { s with
        keySemaphoreMap := Function.update s.keySemaphoreMap w.waitOnKey none
        sems := Function.update s.sems w.ks none
        waiters := Function.update s.waiters thread none
        returned := s.returned ++ (result.map fun obj => (w.waitOnKey, obj)).toList } := by
  unfold leave at ht
  split at ht
  · rename_i w hw
    split at ht
    · rename_i result hphase
      have hkey := h.linked.waiting thread w hw
      simp only [erase] at ht
      split_ifs at ht with htimed hset hsome
      · obtain ⟨sem, hsem, rfl⟩ := Option.map_eq_some_iff.mp ht
        refine ⟨w, result, hw, hphase, ?_, rfl⟩
        intro r hr
        rw [hr] at hset
        exact absurd rfl hset
      · rw [hkey] at hsome
        exact absurd rfl hsome
      · obtain ⟨sem, hsem, rfl⟩ := Option.map_eq_some_iff.mp ht
        refine ⟨w, result, hw, hphase, ?_, rfl⟩
        intro r hr hks
        exact htimed (h.flagged.untimed r thread w result hr hw hks.symm hphase)
    · cases ht
  · cases ht

theorem left_leave (h : Good s) {thread : Nat} (ht : s.leave thread = some t) :
    ∃ w result, Left s t thread w result := by
  obtain ⟨w, result, hw, hphase, hset, rfl⟩ := leave_eq h ht
  refine ⟨w, result, hw, hphase, hset, ?_, fun ks hne => Function.update_of_ne hne .., ?_,
    rfl, rfl, rfl, rfl, rfl⟩
  · intro key ks
    by_cases hkey : key = w.waitOnKey
    · simp [hkey]
    · simp [hkey, Function.update_of_ne]
  · intro thread' w'
    by_cases hthread : thread' = thread
    · simp [hthread]
    · simp [hthread, Function.update_of_ne]

theorem good_leave {thread : Nat} (h : Good s) (ht : s.leave thread = some t) : Good t := by
  obtain ⟨w, result, hl⟩ := left_leave h ht
  exact ⟨hl.linked h.linked, hl.owned h.linked h.owned, hl.single h.linked h.owned h.single,
    hl.flagged h.linked h.flagged, hl.kept h⟩

theorem good_step {a : Label K} (h : Good s) (ha : InTime s a) (ht : s.step a = some t) :
    Good t := by
  cases a with
  | initKey keyToInit => exact good_initKey h ht
  | setWaithedObjectForKey key => exact good_setWaithedObjectForKey h ha ht
  | setObject => exact good_setObject h ha ht
  | unlock => exact good_unlock h ht
  | wait thread waitOnKey timed => exact good_wait h ha ht
  | enter thread => exact good_enter h ha ht
  | wake thread =>
    change s.wake thread = some t at ht
    unfold wake at ht
    split at ht
    · rename_i w hw
      split_ifs at ht with hawake
      exact good_leaveWait h hw hawake.1 (.inr hawake.2) ht
    · cases ht
  | timeout thread =>
    change s.timeout thread = some t at ht
    unfold timeout at ht
    split at ht
    · rename_i w hw
      split_ifs at ht with htimed
      exact good_leaveWait h hw htimed.1 (.inl htimed.2) ht
    · cases ht
  | leave thread => exact good_leave h ht

/-! ## The laws -/

omit [DecidableEq K] in
theorem good_start : Good ({} : MultiKeyObjectWaitSemaphore K) := by
  refine ⟨?_, ?_, ?_, ?_, ?_⟩ <;> constructor <;> simp

omit [DecidableEq K] in
/-- An untimed wait that sleeps while its accepted response lies in the semaphore is answered. -/
theorem answered_of_accepted (h : Good s) {thread : Nat} {w : Waiter K} {obj : Nat}
    (hw : s.waiters thread = some w) (hphase : w.phase = .blocked) (htimed : w.timed = false)
    (hacc : (w.waitOnKey, obj) ∈ s.accepted) (hpending : s.Pending w.waitOnKey obj) :
    ∃ sem, s.sems w.ks = some sem ∧ sem.answered = true := by
  have hkey := h.linked.waiting thread w hw
  -- no other thread waits on the semaphore
  have hmine : ∀ thread' w', s.waiters thread' = some w' → w'.ks = w.ks → w' = w := by
    intro thread' w' hw' hks
    have hthread := h.linked.alone thread' thread w' w hw' hw hks
    subst hthread
    rw [hw] at hw'
    exact (Option.some.inj hw').symm
  have htaken : ∀ obj', ¬ ∃ thread' w', s.waiters thread' = some w' ∧
      w'.waitOnKey = w.waitOnKey ∧ w'.phase = .returning (some obj') := by
    rintro obj' ⟨thread', w', hw', hkey', hphase'⟩
    have hks := h.linked.waiting thread' w' hw'
    rw [hkey', hkey, Option.some.injEq, Option.some.injEq] at hks
    rw [hmine thread' w' hw' hks.symm, hphase] at hphase'
    cases hphase'
  rcases hpending with ⟨ks, sem, hks, hsem, hobj⟩ | hother
  · rw [hkey, Option.some.injEq, Option.some.injEq] at hks
    subst hks
    refine ⟨sem, hsem, ?_⟩
    rcases h.flagged.waking _ _ sem obj hkey hsem hobj with
      hanswered | ⟨r, hr, hrks, hset⟩ | ⟨thread', w', hw', hks', -, htimed'⟩
    · exact hanswered
    · -- the setter that is half way has left another response, which cannot be
      have hrkey : r.key = w.waitOnKey := by
        apply h.linked.one_key _ _ w.ks _ hkey
        rw [h.linked.setting r hr, hrks]
      rcases h.kept.set r hr hset with ⟨ks', sem', hks', hsem', hobj'⟩ | hgone
      · rw [hrkey, hkey, Option.some.injEq, Option.some.injEq] at hks'
        subst hks'
        rw [hsem] at hsem'
        cases hsem'
        rw [hobj] at hobj'
        cases hobj'
        exact absurd (hrkey ▸ hacc) (h.single.fresh r hr)
      · rw [hrkey] at hgone
        exact absurd hgone (htaken _)
    · rw [hmine thread' w' hw' hks', htimed] at htimed'
      cases htimed'
  · exact absurd hother (htaken obj)

/-- In every run in which each response comes in time, every response that was accepted is
returned by the wait on its key, once, and an untimed wait whose response was accepted can wake
up. -/
theorem responses_reach_their_wait {labels : List (Label K)}
    (hok : RunOk step InTime ({} : MultiKeyObjectWaitSemaphore K) labels)
    (hr : run step {} labels = some s) : ResponsesOk s := by
  have h : Good s := run_keeps_of_ok Good (fun _ _ _ h ha ht => good_step h ha ht) good_start hok hr
  refine ⟨h.owned.returned, h.single.once, h.kept.accepted, ?_⟩
  intro thread w obj hw hphase htimed hacc
  apply (h.kept.accepted _ obj hacc).imp_right
  intro hpending
  obtain ⟨sem, hsem, hanswered⟩ := answered_of_accepted h hw hphase htimed hacc hpending
  simp [wake, waiterStep, hw, hphase, hsem, hanswered]

/-- An untimed wait that sleeps before its response comes. -/
theorem response_wakes_the_wait : ∃ s : MultiKeyObjectWaitSemaphore Nat,
    run step {} [.initKey 7, .wait 0 7 false, .enter 0, .setWaithedObjectForKey 7, .setObject,
      .unlock, .wake 0, .leave 0] = some s ∧ ResponsesOk s := by
  have hok : RunOk step InTime ({} : MultiKeyObjectWaitSemaphore Nat) [.initKey 7, .wait 0 7 false,
      .enter 0, .setWaithedObjectForKey 7, .setObject, .unlock, .wake 0, .leave 0] := by
    refine ⟨trivial, ?_⟩
    rintro _ ⟨⟩
    refine ⟨nofun, ?_⟩
    rintro _ ⟨⟩
    refine ⟨?_, ?_⟩
    · rintro w sem ⟨⟩ - ⟨⟩
      rfl
    rintro _ ⟨⟩
    refine ⟨?_, ?_⟩
    · rintro ks ⟨⟩
      refine ⟨?_, ?_⟩
      · intro thread w result hw _ hphase
        simp only [Function.update_apply] at hw
        split_ifs at hw
        cases hw
        cases hphase
      · rintro sem ⟨⟩
        rfl
    rintro _ ⟨⟩
    refine ⟨?_, ?_⟩
    · rintro r ⟨⟩ thread w result hw _ hphase
      simp only [Function.update_apply] at hw
      split_ifs at hw
      cases hw
      cases hphase
    rintro _ ⟨⟩
    refine ⟨trivial, ?_⟩
    rintro _ ⟨⟩
    refine ⟨trivial, ?_⟩
    rintro _ ⟨⟩
    exact ⟨trivial, fun _ _ => trivial⟩
  exact ⟨_, rfl, responses_reach_their_wait hok rfl⟩

/-- The response to a request is accepted before the thread that sent it waits: the untimed wait
clears the flag and sleeps on. Another one is accepted when the time of its wait is over and the
thread has left the semaphore: it is deleted with the semaphore. -/
theorem responses_come_too_early_and_too_late :
    (∃ s : MultiKeyObjectWaitSemaphore Nat,
      run step {} [.initKey 7, .setWaithedObjectForKey 7, .setObject, .unlock, .wait 0 7 false,
        .enter 0] = some s ∧ ¬ ResponsesOk s) ∧
    ∃ s : MultiKeyObjectWaitSemaphore Nat,
      run step {} [.initKey 7, .wait 0 7 true, .enter 0, .timeout 0, .setWaithedObjectForKey 7,
        .setObject, .unlock, .leave 0] = some s ∧ ¬ ResponsesOk s := by
  constructor
  · refine ⟨_, rfl, ?_⟩
    intro h
    rcases h.awake 0 ⟨7, 0, false, .blocked⟩ 0 rfl rfl rfl (List.mem_singleton_self _) with
      hret | ⟨t, ht⟩
    · cases hret
    · cases ht
  · refine ⟨_, rfl, ?_⟩
    intro h
    rcases h.kept 7 0 (List.mem_singleton_self _) with
      hret | ⟨ks, sem, hks, -⟩ | ⟨thread, w, hw, -⟩
    · cases hret
    · cases hks
    · simp only [Function.update_apply] at hw
      split_ifs at hw

end Keys

end MultiKeyObjectWaitSemaphore

end chaos.common.thread
