-- The future of a query between the threads that fill it and the client that reads it. The client
-- sleeps on semaphores with one flag each. Each operation on the queue and each critical section
-- of a semaphore is one step, and so is the start of a call with what it writes.
import Chaos.QueryFuture

namespace chaos.common.io

open runs

/-! ## The semaphore -/

structure WaitSemaphore where
  inWait : Bool := false
  answered : Bool := false
  deriving DecidableEq, Repr

namespace WaitSemaphore

def unlock (s : WaitSemaphore) : WaitSemaphore := { s with answered := true }

/-- The end of a wait. -/
def leave (s : WaitSemaphore) : WaitSemaphore := { s with inWait := false, answered := false }

/-- The first section of a wait without time, and whether the wait is over with it. -/
def wait (s : WaitSemaphore) : WaitSemaphore × Bool :=
  if s.inWait then (s, true)
  else if s.answered then (s.leave, true)
  else ({ s with inWait := true }, false)

/-- The first section of a timed wait. It sleeps also when the flag is up already. -/
def timedWait (s : WaitSemaphore) : WaitSemaphore × Bool :=
  if s.inWait then (s, true) else ({ s with inWait := true }, false)

end WaitSemaphore

/-! ## The state -/

/-- Where a call of the driver is: before its push, before the `unlock` of the getter, before the
one `unlock` of `notifyStartResultPhase`, or before the first or the second of
`notifyEndResultPhase`. -/
inductive DriverCall (P : Type*) where
  | pushing (received_datapack : P)
  | pushed
  | starting
  | ending
  | endingData
  deriving DecidableEq, Repr

/-- The call will still unlock the getter. -/
def DriverCall.unlocksGetter {P : Type*} : DriverCall P → Bool
  | .starting => false
  | _ => true

def DriverCall.isPushing {P : Type*} : DriverCall P → Bool
  | .pushing _ => true
  | _ => false

/-- Where the client is: outside, in `getDataPack` (before a pop, at the semaphore, asleep, or
before the last `unlock` with its result, in the loop or in the timed branch), or in
`waitForBeginResult`. -/
inductive ClientPhase (P : Type*) where
  | outside
  | popping (wait : Bool)
  | toWait
  | asleep
  | timedPopping (wait : Bool)
  | timedToWait
  | timedAsleep
  | timedPoppingAgain
  | unlocking (result : Option P)
  | beginToWait (timed : Bool)
  | beginAsleep (timed : Bool)
  deriving DecidableEq, Repr

def ClientPhase.inHand {P : Type*} : ClientPhase P → List P
  | .unlocking result => result.toList
  | _ => []

/-- The last four are not in the code: the packs that were pushed and those that `getDataPack`
returned, and whether an end has set the state and has made its last `unlock`. -/
structure SharedFuture (P : Type*) where
  total_found_element : UInt64 := 0
  fetched_element_index : UInt64 := 0
  error : Int := 0
  error_message : List UInt8 := []
  state : QueryFutureState := .created
  data_pack_queue : List P := []
  waith_for_get_data : WaitSemaphore := {}
  waith_for_begin_result : WaitSemaphore := {}
  calls : List (DriverCall P) := []
  client : ClientPhase P := .outside
  pushed : List P := []
  returned : List P := []
  ended : Bool := false
  delivered : Bool := false
  deriving DecidableEq, Repr

namespace SharedFuture

variable {P : Type*}

/-! ## The calls of the driver -/

def pushDataPack (s : SharedFuture P) (received_datapack : P) : SharedFuture P :=
  { s with
    fetched_element_index := s.fetched_element_index + 1
    state := .receivingResult
    calls := s.calls ++ [.pushing received_datapack] }

def notifyStartResultPhase (s : SharedFuture P) (total_element_found : UInt64) :
    SharedFuture P :=
  { s with
    state := .startResult
    total_found_element := total_element_found
    calls := s.calls ++ [.starting] }

def notifyEndResultPhase (s : SharedFuture P) (error : Int) (error_message : List UInt8) :
    SharedFuture P :=
  { s with
    error := error
    state := if error ≠ 0 then .error else .endResult
    error_message := if error ≠ 0 then error_message else s.error_message
    calls := s.calls ++ [.ending]
    ended := true }

def unlockGetter (s : SharedFuture P) : SharedFuture P :=
  { s with waith_for_get_data := s.waith_for_get_data.unlock }

def unlockBegin (s : SharedFuture P) : SharedFuture P :=
  { s with waith_for_begin_result := s.waith_for_begin_result.unlock }

/-- The next step of a call of the driver. The queue is not of a fixed size, so that a push is
never refused. -/
def driverStep (s : SharedFuture P) (call : Nat) : Option (SharedFuture P) :=
  match s.calls[call]? with
  | none => none
  | some (.pushing received_datapack) => some { s with
      data_pack_queue := s.data_pack_queue ++ [received_datapack]
      pushed := s.pushed ++ [received_datapack]
      calls := s.calls.set call .pushed }
  | some .pushed => some { s.unlockGetter with calls := s.calls.eraseIdx call }
  | some .starting => some { s.unlockBegin with calls := s.calls.eraseIdx call }
  | some .ending => some { s.unlockBegin with calls := s.calls.set call .endingData }
  | some .endingData =>
    some { s.unlockGetter with calls := s.calls.eraseIdx call, delivered := true }

/-! ## The calls of the client -/

def getDataPack (s : SharedFuture P) (wait : Bool) (timeout : UInt32) : Option (SharedFuture P) :=
  match s.client with
  | .outside =>
    some { s with client := if timeout ≠ 0 then .timedPopping wait else .popping wait }
  | _ => none

def waitForBeginResult (s : SharedFuture P) (timeout : Int) : Option (SharedFuture P) :=
  match s.client with
  | .outside =>
    if s.state ≠ .created then some s
    else some { s with client := .beginToWait (decide (0 ≤ timeout)) }
  | _ => none

/-- A pop, and where the client goes without and with a pack. -/
def pop (s : SharedFuture P) (none_left : ClientPhase P) : SharedFuture P :=
  match s.data_pack_queue with
  | [] => { s with client := none_left }
  | pack :: rest => { s with data_pack_queue := rest, client := .unlocking (some pack) }

/-- The next step of the client. `timedOut` says whether the sleep of a timed wait is over because
of the time. -/
def clientStep (s : SharedFuture P) (timedOut : Bool) : Option (SharedFuture P) :=
  match s.client with
  | .outside => none
  | .popping wait => some (s.pop (if wait then .toWait else .unlocking none))
  | .toWait =>
    let waited := s.waith_for_get_data.wait
    some { s with
      waith_for_get_data := waited.1
      client := if waited.2 then .popping true else .asleep }
  | .asleep =>
    if s.waith_for_get_data.answered then some { s with
      waith_for_get_data := s.waith_for_get_data.leave
      client := .popping true }
    else some s
  | .timedPopping wait => some (s.pop (if wait then .timedToWait else .unlocking none))
  | .timedToWait =>
    let waited := s.waith_for_get_data.timedWait
    some { s with
      waith_for_get_data := waited.1
      client := if waited.2 then .timedPoppingAgain else .timedAsleep }
  | .timedAsleep =>
    if timedOut ∨ s.waith_for_get_data.answered then some { s with
      waith_for_get_data := s.waith_for_get_data.leave
      client := .timedPoppingAgain }
    else some s
  | .timedPoppingAgain => some (s.pop (.unlocking none))
  | .unlocking result =>
    some { s.unlockGetter with client := .outside, returned := s.returned ++ result.toList }
  | .beginToWait timed =>
    let waited :=
      if timed then s.waith_for_begin_result.timedWait else s.waith_for_begin_result.wait
    some { s with
      waith_for_begin_result := waited.1
      client := if waited.2 then .outside else .beginAsleep timed }
  | .beginAsleep timed =>
    if (timed = true ∧ timedOut) ∨ s.waith_for_begin_result.answered then some { s with
      waith_for_begin_result := s.waith_for_begin_result.leave
      client := .outside }
    else some s

inductive Label (P : Type*) where
  | pushDataPack (received_datapack : P)
  | notifyStartResultPhase (total_element_found : UInt64)
  | notifyEndResultPhase (error : Int) (error_message : List UInt8)
  | driver (call : Nat)
  | getDataPack (wait : Bool) (timeout : UInt32)
  | waitForBeginResult (timeout : Int)
  | client (timedOut : Bool)
  deriving DecidableEq, Repr

def step (s : SharedFuture P) : Label P → Option (SharedFuture P)
  | .pushDataPack received_datapack => some (s.pushDataPack received_datapack)
  | .notifyStartResultPhase total => some (s.notifyStartResultPhase total)
  | .notifyEndResultPhase error error_message => some (s.notifyEndResultPhase error error_message)
  | .driver call => s.driverStep call
  | .getDataPack wait timeout => s.getDataPack wait timeout
  | .waitForBeginResult timeout => s.waitForBeginResult timeout
  | .client timedOut => s.clientStep timedOut

/-! ## What the client may rely on -/

/-- The pack that `getDataPack` has taken and not returned yet. -/
def inHand (s : SharedFuture P) : List P := s.client.inHand

/-- The end is delivered, and an untimed `getDataPack` sleeps on the empty queue with nobody to
wake it. -/
def LeftWaiting (s : SharedFuture P) : Prop :=
  s.delivered = true ∧ s.client = .asleep ∧ s.data_pack_queue = [] ∧
    s.waith_for_get_data.answered = false ∧ ∀ c ∈ s.calls, c.unlocksGetter = false

/-- Each pack is returned once, in the order of the pushes; after the end the state stays, and no
untimed `getDataPack` is left waiting. -/
structure Serves (s : SharedFuture P) : Prop where
  in_order : s.pushed = s.returned ++ s.inHand ++ s.data_pack_queue
  state_stays : s.delivered = true → s.state = .endResult ∨ s.state = .error
  not_left : ¬ s.LeftWaiting

/-- After the end has set the state, no push and no start of the results begins, and no untimed
`getDataPack` looks into an empty queue that no push is about to fill. -/
def InTime (s : SharedFuture P) : Label P → Prop
  | .pushDataPack _ | .notifyStartResultPhase _ => s.ended = false
  | .client _ =>
    s.client = .popping true → s.data_pack_queue = [] → s.ended = true →
      ∃ c ∈ s.calls, c.isPushing = true
  | _ => True

instance [DecidableEq P] (s : SharedFuture P) : ∀ a, Decidable (s.InTime a)
  | .pushDataPack _ | .notifyStartResultPhase _ => inferInstanceAs (Decidable (_ = _))
  | .client _ => inferInstanceAs (Decidable (_ → _ → _ → _))
  | .notifyEndResultPhase _ _ | .driver _ | .getDataPack _ _ | .waitForBeginResult _ =>
    isTrue trivial

/-! ## The order of the packs -/

/-- The packs are where they belong. -/
def InOrder (s : SharedFuture P) : Prop :=
  s.pushed = s.returned ++ s.inHand ++ s.data_pack_queue

variable {s t : SharedFuture P}

/-- A step that leaves the queue and the two logs, and has no pack in hand before and after. -/
theorem InOrder.keep (h : s.InOrder) (hpushed : t.pushed = s.pushed)
    (hreturned : t.returned = s.returned) (hqueue : t.data_pack_queue = s.data_pack_queue)
    (hhand : t.inHand = s.inHand) : t.InOrder := by
  unfold InOrder at h ⊢
  rw [hpushed, hreturned, hqueue, hhand]
  exact h

theorem InOrder.driver (h : s.InOrder) {call : Nat} (ht : s.driverStep call = some t) :
    t.InOrder := by
  unfold driverStep at ht
  split at ht
  · cases ht
  · cases ht
    unfold InOrder at h ⊢
    simp only [inHand] at h ⊢
    rw [h, List.append_assoc]
  all_goals
    cases ht
    exact h.keep rfl rfl rfl rfl

/-- A pop takes the oldest pack into the hand. -/
theorem InOrder.pop (h : s.InOrder) (hhand : s.inHand = []) {none_left : ClientPhase P}
    (hnone : none_left.inHand = []) : (s.pop none_left).InOrder := by
  unfold InOrder at h ⊢
  unfold SharedFuture.pop
  rw [hhand, List.append_nil] at h
  cases hqueue : s.data_pack_queue with
  | nil => simp [inHand, hnone, h, hqueue]
  | cons pack rest => simp [inHand, ClientPhase.inHand, h, hqueue]

/-- A choice between two places without a pack in the hand. -/
theorem inHand_ite {c : Prop} [Decidable c] {p q : ClientPhase P} (hp : p.inHand = [])
    (hq : q.inHand = []) : (if c then p else q).inHand = [] := by
  split
  · exact hp
  · exact hq

theorem InOrder.client (h : s.InOrder) {timedOut : Bool} (ht : s.clientStep timedOut = some t) :
    t.InOrder := by
  unfold clientStep at ht
  split at ht <;> rename_i hclient
  · cases ht
  all_goals
    have hhand : s.inHand = s.client.inHand := rfl
    rw [hclient] at hhand
  · cases ht
    exact h.pop hhand (inHand_ite rfl rfl)
  · cases ht
    exact h.keep rfl rfl rfl ((inHand_ite rfl rfl).trans hhand.symm)
  · split at ht <;> cases ht
    · exact h.keep rfl rfl rfl hhand.symm
    · exact h
  · cases ht
    exact h.pop hhand (inHand_ite rfl rfl)
  · cases ht
    exact h.keep rfl rfl rfl ((inHand_ite rfl rfl).trans hhand.symm)
  · split at ht <;> cases ht
    · exact h.keep rfl rfl rfl hhand.symm
    · exact h
  · cases ht
    exact h.pop hhand rfl
  · cases ht
    unfold InOrder at h ⊢
    rw [hhand] at h
    simpa [inHand, ClientPhase.inHand, unlockGetter] using h
  · cases ht
    exact h.keep rfl rfl rfl ((inHand_ite rfl rfl).trans hhand.symm)
  · split at ht <;> cases ht
    · exact h.keep rfl rfl rfl hhand.symm
    · exact h

theorem InOrder.step (h : s.InOrder) {a : Label P} (ht : s.step a = some t) : t.InOrder := by
  cases a with
  | pushDataPack pack =>
    cases ht
    exact h.keep rfl rfl rfl rfl
  | notifyStartResultPhase total =>
    cases ht
    exact h.keep rfl rfl rfl rfl
  | notifyEndResultPhase error error_message =>
    cases ht
    exact h.keep rfl rfl rfl rfl
  | driver call => exact h.driver ht
  | getDataPack wait timeout =>
    simp only [SharedFuture.step, getDataPack] at ht
    split at ht <;> cases ht
    rename_i hclient
    refine h.keep rfl rfl rfl ((inHand_ite rfl rfl).trans ?_)
    simp [inHand, hclient, ClientPhase.inHand]
  | waitForBeginResult timeout =>
    simp only [SharedFuture.step, waitForBeginResult] at ht
    split at ht
    · rename_i hclient
      split at ht <;> cases ht
      · exact h
      · exact h.keep rfl rfl rfl (by simp [inHand, hclient, ClientPhase.inHand])
    · cases ht
  | client timedOut => exact h.client ht

/-! ## After the end -/

/-- The end sets its state before anything else. An untimed wait after the end has been answered,
or will be. -/
structure Ending (s : SharedFuture P) : Prop where
  calls : ∀ c ∈ s.calls, c = .ending ∨ c = .endingData → s.ended = true
  delivered : s.delivered = true → s.ended = true
  state : s.ended = true → s.state = .endResult ∨ s.state = .error
  answered : s.ended = true → s.client = .toWait ∨ s.client = .asleep →
    s.waith_for_get_data.answered = true ∨ ∃ c ∈ s.calls, c.unlocksGetter = true

/-- A step of the client that is not at the semaphore of an untimed wait after it. -/
theorem Ending.client_away (h : s.Ending) (hcalls : t.calls = s.calls) (hended : t.ended = s.ended)
    (hdelivered : t.delivered = s.delivered) (hstate : t.state = s.state)
    (haway : t.client ≠ .toWait ∧ t.client ≠ .asleep) : t.Ending := by
  refine ⟨?_, ?_, ?_, ?_⟩
  · rw [hcalls, hended]
    exact h.calls
  · rw [hdelivered, hended]
    exact h.delivered
  · rw [hended, hstate]
    exact h.state
  · intro _ hat
    exact absurd hat (not_or.mpr haway)

/-- A new call. -/
theorem Ending.called (h : s.Ending) (call : DriverCall P)
    (hended : s.ended = true → t.ended = true)
    (hcalls : t.calls = s.calls ++ [call])
    (hcall : call = .ending ∨ call = .endingData → t.ended = true)
    (hdelivered : t.delivered = s.delivered)
    (hstate : t.ended = true → t.state = .endResult ∨ t.state = .error)
    (hanswered : t.waith_for_get_data.answered = s.waith_for_get_data.answered)
    (hclient : t.client = s.client)
    (hnew : t.ended = true → s.ended = true ∨ call.unlocksGetter = true) : t.Ending := by
  refine ⟨?_, ?_, hstate, ?_⟩
  · intro c hc hend
    rw [hcalls, List.mem_append, List.mem_singleton] at hc
    rcases hc with hc | rfl
    · exact hended (h.calls c hc hend)
    · exact hcall hend
  · intro hd
    exact hended (h.delivered (hdelivered ▸ hd))
  · intro he hat
    rw [hanswered, hcalls]
    rw [hclient] at hat
    rcases hnew he with he | hunlocks
    · rcases h.answered he hat with hans | ⟨c, hc, hunlocks⟩
      · exact .inl hans
      · exact .inr ⟨c, List.mem_append_left _ hc, hunlocks⟩
    · exact .inr ⟨call, by simp, hunlocks⟩

theorem mem_eraseIdx_of_ne {l : List (DriverCall P)} {i : Nat} {c d : DriverCall P}
    (hi : l[i]? = some d) (hc : c ∈ l) (hne : c ≠ d) : c ∈ l.eraseIdx i := by
  obtain ⟨j, hj⟩ := List.mem_iff_getElem?.mp hc
  rw [List.mem_eraseIdx_iff_getElem?]
  refine ⟨j, ?_, hj⟩
  rintro rfl
  rw [hj] at hi
  exact hne (Option.some.inj hi)

theorem lt_of_getElem?_eq_some {l : List (DriverCall P)} {i : Nat} {c : DriverCall P}
    (h : l[i]? = some c) : i < l.length := (List.getElem?_eq_some_iff.mp h).1

theorem Ending.driver (h : s.Ending) {call : Nat} (ht : s.driverStep call = some t) :
    t.Ending := by
  unfold driverStep at ht
  split at ht <;> rename_i hcall
  · cases ht
  all_goals cases ht
  · refine ⟨?_, h.delivered, h.state, ?_⟩
    · intro c hc hend
      rcases List.mem_or_eq_of_mem_set hc with hc | rfl
      · exact h.calls c hc hend
      · simp at hend
    · intro _ _
      exact .inr ⟨_, List.mem_set (lt_of_getElem?_eq_some hcall) _, rfl⟩
  · refine ⟨?_, h.delivered, h.state, fun _ _ => .inl rfl⟩
    intro c hc hend
    exact h.calls c (List.mem_of_mem_eraseIdx hc) hend
  · refine ⟨?_, h.delivered, h.state, ?_⟩
    · intro c hc hend
      exact h.calls c (List.mem_of_mem_eraseIdx hc) hend
    · intro he hat
      rcases h.answered he hat with hans | ⟨c, hc, hunlocks⟩
      · exact .inl hans
      · refine .inr ⟨c, mem_eraseIdx_of_ne hcall hc ?_, hunlocks⟩
        rintro rfl
        cases hunlocks
  · have hended := h.calls _ (List.mem_of_getElem? hcall) (.inl rfl)
    refine ⟨fun _ _ _ => hended, h.delivered, h.state, ?_⟩
    intro _ _
    exact .inr ⟨_, List.mem_set (lt_of_getElem?_eq_some hcall) _, rfl⟩
  · have hended := h.calls _ (List.mem_of_getElem? hcall) (.inr rfl)
    exact ⟨fun _ _ _ => hended, fun _ => hended, h.state, fun _ _ => .inl rfl⟩

/-- A pop that leaves for the semaphore of the untimed wait found no pack. -/
theorem Ending.pop (h : s.Ending) {none_left : ClientPhase P}
    (hnone : none_left = .toWait ∨ none_left = .asleep → s.data_pack_queue = [] →
      s.ended = true → ∃ c ∈ s.calls, c.isPushing = true) : (s.pop none_left).Ending := by
  unfold SharedFuture.pop
  cases hqueue : s.data_pack_queue with
  | nil =>
    refine ⟨h.calls, h.delivered, h.state, ?_⟩
    intro he hat
    obtain ⟨c, hc, hpushing⟩ := hnone hat hqueue he
    refine .inr ⟨c, hc, ?_⟩
    cases c <;> simp_all [DriverCall.isPushing, DriverCall.unlocksGetter]
  | cons pack rest => exact h.client_away rfl rfl rfl rfl ⟨nofun, nofun⟩

theorem away_ite {c : Prop} [Decidable c] {p q : ClientPhase P}
    (hp : p ≠ .toWait ∧ p ≠ .asleep) (hq : q ≠ .toWait ∧ q ≠ .asleep) :
    (if c then p else q) ≠ .toWait ∧ (if c then p else q) ≠ .asleep := by
  split
  · exact hp
  · exact hq

/-- A wait that is not over has its flag down. -/
theorem answered_of_wait (sem : WaitSemaphore) (h : sem.wait.2 = false) :
    sem.wait.1.answered = sem.answered := by
  unfold WaitSemaphore.wait at h ⊢
  split at h
  · cases h
  · split at h
    · cases h
    · simp_all

theorem Ending.client (h : s.Ending) {timedOut : Bool} (hok : s.InTime (.client timedOut))
    (ht : s.clientStep timedOut = some t) : t.Ending := by
  unfold clientStep at ht
  split at ht <;> rename_i hclient
  · cases ht
  · rename_i wait
    cases ht
    refine h.pop ?_
    intro hat hqueue he
    cases wait with
    | false => simp at hat
    | true => exact hok hclient hqueue he
  · obtain rfl := Option.some.inj ht
    cases hover : s.waith_for_get_data.wait.2 with
    | true =>
      refine h.client_away rfl rfl rfl rfl ?_
      simp
    | false =>
      refine ⟨h.calls, h.delivered, h.state, ?_⟩
      intro he _
      dsimp only
      rw [answered_of_wait _ hover]
      exact h.answered he (.inl hclient)
  · split at ht <;> cases ht
    · exact h.client_away rfl rfl rfl rfl ⟨nofun, nofun⟩
    · exact h
  · cases ht
    refine h.pop ?_
    intro hat
    exact absurd hat (not_or.mpr (away_ite ⟨nofun, nofun⟩ ⟨nofun, nofun⟩))
  · cases ht
    exact h.client_away rfl rfl rfl rfl (away_ite ⟨nofun, nofun⟩ ⟨nofun, nofun⟩)
  · split at ht <;> cases ht
    · exact h.client_away rfl rfl rfl rfl ⟨nofun, nofun⟩
    · exact h
  · cases ht
    refine h.pop ?_
    intro hat
    exact absurd hat (not_or.mpr ⟨nofun, nofun⟩)
  · cases ht
    exact h.client_away rfl rfl rfl rfl ⟨nofun, nofun⟩
  · cases ht
    exact h.client_away rfl rfl rfl rfl (away_ite ⟨nofun, nofun⟩ ⟨nofun, nofun⟩)
  · split at ht <;> cases ht
    · exact h.client_away rfl rfl rfl rfl ⟨nofun, nofun⟩
    · exact h

theorem Ending.step (h : s.Ending) {a : Label P} (hok : s.InTime a) (ht : s.step a = some t) :
    t.Ending := by
  cases a with
  | pushDataPack pack =>
    cases ht
    have hnot : ¬ s.ended = true := by simp [show s.ended = false from hok]
    exact h.called _ id rfl (by simp) rfl (fun he => absurd he hnot) rfl rfl (fun _ => .inr rfl)
  | notifyStartResultPhase total =>
    cases ht
    have hnot : ¬ s.ended = true := by simp [show s.ended = false from hok]
    exact h.called _ id rfl (by simp) rfl (fun he => absurd he hnot) rfl rfl
      (fun he => absurd he hnot)
  | notifyEndResultPhase error error_message =>
    cases ht
    refine h.called _ (fun _ => rfl) rfl (fun _ => rfl) rfl ?_ rfl rfl (fun _ => .inr rfl)
    intro _
    by_cases herror : error = 0 <;> simp [notifyEndResultPhase, herror]
  | driver call => exact h.driver ht
  | getDataPack wait timeout =>
    simp only [SharedFuture.step, getDataPack] at ht
    split at ht <;> cases ht
    exact h.client_away rfl rfl rfl rfl (away_ite ⟨nofun, nofun⟩ ⟨nofun, nofun⟩)
  | waitForBeginResult timeout =>
    simp only [SharedFuture.step, waitForBeginResult] at ht
    split at ht
    · split at ht <;> cases ht
      · exact h
      · exact h.client_away rfl rfl rfl rfl ⟨nofun, nofun⟩
    · cases ht
  | client timedOut => exact h.client hok ht

theorem Ending.not_left (h : s.Ending) : ¬ s.LeftWaiting := by
  rintro ⟨hdelivered, hasleep, -, hanswered, hcalls⟩
  rcases h.answered (h.delivered hdelivered) (.inr hasleep) with hans | ⟨c, hc, hunlocks⟩
  · rw [hanswered] at hans
    cases hans
  · rw [hcalls c hc] at hunlocks
    cases hunlocks

theorem new_inOrder : InOrder ({} : SharedFuture P) := rfl

theorem new_ending : Ending ({} : SharedFuture P) := by
  refine ⟨?_, ?_, ?_, ?_⟩ <;> simp

/-- The future serves its client in every run whose steps all come in time. -/
theorem future_serves {labels : List (Label P)} (hok : RunOk step InTime {} labels)
    (hr : run step ({} : SharedFuture P) labels = some t) : t.Serves := by
  have hstep : ∀ (s : SharedFuture P) a t, (InOrder s ∧ Ending s) → s.InTime a →
      step s a = some t → InOrder t ∧ Ending t := by
    intro s a t ⟨horder, hending⟩ hin ht
    exact ⟨horder.step ht, hending.step hin ht⟩
  obtain ⟨horder, hending⟩ := run_keeps_of_ok _ hstep ⟨new_inOrder, new_ending⟩ hok hr
  exact ⟨horder, fun hd => hending.state (hending.delivered hd), hending.not_left⟩

/-- One pack and the end. The client gets the pack, and does not ask again. -/
theorem one_pack_is_served :
    RunOk step InTime ({} : SharedFuture Nat) [.notifyStartResultPhase 1, .driver 0,
        .getDataPack true 0, .client false, .client false, .pushDataPack 7, .driver 0, .driver 0,
        .client false, .client false, .client false, .notifyEndResultPhase 0 [], .driver 0,
        .driver 0] ∧
      ∃ t, run step ({} : SharedFuture Nat) [.notifyStartResultPhase 1, .driver 0,
        .getDataPack true 0, .client false, .client false, .pushDataPack 7, .driver 0, .driver 0,
        .client false, .client false, .client false, .notifyEndResultPhase 0 [], .driver 0,
        .driver 0] = some t ∧ t.returned = [7] ∧ t.delivered = true ∧ t.Serves := by
  have hok : RunOk step InTime ({} : SharedFuture Nat) [.notifyStartResultPhase 1, .driver 0,
      .getDataPack true 0, .client false, .client false, .pushDataPack 7, .driver 0, .driver 0,
      .client false, .client false, .client false, .notifyEndResultPhase 0 [], .driver 0,
      .driver 0] := by decide
  exact ⟨hok, _, rfl, rfl, rfl, future_serves hok rfl⟩

/-- The client asleep in an untimed `getDataPack` is woken by the end, finds nothing and sleeps
again. And a push behind the end sets the state back. -/
theorem client_sleeps_after_the_end :
    (∃ t, run step ({} : SharedFuture Nat) [.getDataPack true 0, .client false, .client false,
        .notifyEndResultPhase 0 [], .driver 0, .driver 0, .client false, .client false,
        .client false] = some t ∧ t.LeftWaiting) ∧
      ∃ t, run step ({} : SharedFuture Nat) [.notifyEndResultPhase 0 [], .driver 0, .driver 0,
        .pushDataPack 7] = some t ∧ t.delivered = true ∧
        ¬ (t.state = .endResult ∨ t.state = .error) := by
  refine ⟨⟨_, rfl, ?_⟩, _, rfl, rfl, by decide⟩
  unfold LeftWaiting
  decide

end SharedFuture

end chaos.common.io
