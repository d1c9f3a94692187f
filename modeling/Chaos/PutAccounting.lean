-- A put request and the memory that comes with it. The header, the data pack and the job pass from
-- the consumer of the channel to the worker, into its queue and to a thread of it. Each of these
-- places looks at the tag of the request again to decide who frees them.
import Mathlib.Tactic.Common

namespace chaos.data_service.worker

/-! ## The request and its memory -/

structure PutRequest where
  tag : UInt8
  key : List UInt8
  data_pack : List UInt8
  deriving DecidableEq, Repr

/-- The blocks of memory of a request. -/
inductive Block where
  | request_header
  | data_pack
  | job
  deriving DecidableEq, Repr

/-- When a thread of the worker takes an accepted job: before `submitJobInfo` has looked at the tag
for the second time, after it, or never, so that `deinit` finds it in the queue. -/
inductive Execution where
  | duringSubmission
  | afterSubmission
  | never
  deriving DecidableEq, Repr

/-- What the world outside does: the configuration, the answers of the queue, of the cache driver
and of the stage file, the order of the threads and the clock. -/
structure PutWorld where
  vfs_manager_instance : Bool
  push : Bool
  execution : Execution
  putData : Int
  write : Int
  giveHeartbeat : Int
  now : UInt64
  deriving DecidableEq, Repr

/-- What became of the request: the freed blocks, the calls of `putData` and of `write` with what
they returned, and the heart beats of the stage file. -/
structure Put where
  freed : List Block := []
  cache_puts : List (List UInt8 × List UInt8 × Int) := []
  stage_writes : List (List UInt8 × Int) := []
  last_stage_file_hb : UInt64 := 0
  heartbeats : List Int := []
  deriving DecidableEq, Repr

namespace Put

/-- A block must not be freed twice. -/
def free (s : Put) (b : Block) : Option Put :=
  if b ∈ s.freed then none else some { s with freed := s.freed ++ [b] }

/-- `job_ptr->request_header->tag`, which must not be read from freed memory. -/
def readTag (request : PutRequest) (s : Put) : Option UInt8 :=
  if Block.job ∈ s.freed ∨ Block.request_header ∈ s.freed then none else some request.tag

/-- The three `free` that stand together in `executeJob` and in `submitJobInfo`. -/
def freeAll (s : Put) : Option Put := do
  let s ← s.free .request_header
  let s ← s.free .data_pack
  s.free .job

def putData (w : PutWorld) (request : PutRequest) (s : Put) : Put :=
  { s with cache_puts := s.cache_puts ++ [(request.key, request.data_pack, w.putData)] }

/-- The write of the pack and, once in a second, the heart beat. Their errors are only logged. -/
def writeStage (w : PutWorld) (request : PutRequest) (s : Put) : Put :=
  let s := { s with stage_writes := s.stage_writes ++ [(request.data_pack, w.write)] }
  if w.now - s.last_stage_file_hb > 1000 then
    { s with last_stage_file_hb := w.now, heartbeats := s.heartbeats ++ [w.giveHeartbeat] }
  else s

def executeJob (w : PutWorld) (request : PutRequest) (s : Put) : Option Put := do
  let tag ← s.readTag request
  if tag = 0 ∨ tag = 2 then (s.writeStage w request).freeAll else some s

/-- `DataWorker::submitJobInfo`. A thread may take the job as soon as it is in the queue. -/
def pushJob (w : PutWorld) (request : PutRequest) (s : Put) : Option (Int × Put) :=
  if w.push = false then some (-1, s)
  else if w.execution = .duringSubmission then (s.executeJob w request).map fun s => (0, s)
  else some (0, s)

/-- The `switch` of `DeviceSharedDataWorker::submitJobInfo`. -/
def dispatch (w : PutWorld) (request : PutRequest) (s : Put) : Option (Int × Put) := do
  let tag ← s.readTag request
  if tag = 0 then
    if w.vfs_manager_instance then s.pushJob w request else some (0, s)
  else if tag = 2 then
    if w.vfs_manager_instance then (s.putData w request).pushJob w request
    else some (0, s.putData w request)
  else if tag = 1 then some (0, s.putData w request)
  else some (0, s)

/-- `DeviceSharedDataWorker::submitJobInfo`. -/
def submitJobInfo (w : PutWorld) (request : PutRequest) (s : Put) : Option (Int × Put) := do
  let (err, s) ← s.dispatch w request
  let tag ← s.readTag request
  if tag = 1 ∨ w.vfs_manager_instance = false then
    let s ← s.freeAll
    some (err, s)
  else some (err, s)

/-- Whether the job is in the queue when `submitJobInfo` has returned. -/
def Queued (w : PutWorld) (request : PutRequest) : Prop :=
  (request.tag = 0 ∨ request.tag = 2) ∧ w.vfs_manager_instance = true ∧ w.push = true ∧
    w.execution ≠ .duringSubmission

instance (w : PutWorld) (request : PutRequest) : Decidable (Queued w request) := by
  unfold Queued
  infer_instance

/-- A job that is still in the queue is executed in the end, or `deinit` deletes it. -/
def leaveQueue (w : PutWorld) (request : PutRequest) (s : Put) : Option Put :=
  if w.execution = .afterSubmission then s.executeJob w request else s.free .job

/-- `consumePutEvent`, and what becomes of the request after it. -/
def consumePutEvent (w : PutWorld) (request : PutRequest) : Option Put := do
  let (err, s) ← submitJobInfo w request {}
  let s ← if err ≠ 0 then s.free .job else some s
  if Queued w request then s.leaveQueue w request else some s

/-! ## The account of a request -/

/-- Every block is freed exactly once, the pack is in the live cache just for the tags 1 and 2, and
it goes to the stage file just when the tag is 0 or 2, there is a file manager and the job was
accepted. -/
structure Accounted (w : PutWorld) (request : PutRequest) (s : Put) : Prop where
  freed_once : ∀ b, s.freed.count b = 1
  cached : s.cache_puts = if request.tag = 1 ∨ request.tag = 2 then
    [(request.key, request.data_pack, w.putData)] else []
  staged : s.stage_writes =
    if (request.tag = 0 ∨ request.tag = 2) ∧ w.vfs_manager_instance = true ∧ w.push = true then
      [(request.data_pack, w.write)] else []

/-- The request does not go through the queue, or it is executed after its submission. -/
def Fits (w : PutWorld) (request : PutRequest) : Prop :=
  w.vfs_manager_instance = false ∨ request.tag = 1 ∨
    ((request.tag = 0 ∨ request.tag = 2) ∧ w.push = true ∧ w.execution = .afterSubmission)

variable {w : PutWorld} {request : PutRequest} {s : Put}

theorem freeAll_of_new (h : s.freed = []) :
    s.freeAll = some { s with freed := [.request_header, .data_pack, .job] } := by
  simp [freeAll, free, h]

theorem readTag_of_new (h : s.freed = []) : s.readTag request = some request.tag := by
  simp [readTag, h]

theorem writeStage_freed (w : PutWorld) (request : PutRequest) (s : Put) :
    (s.writeStage w request).freed = s.freed := by
  unfold writeStage
  dsimp only
  split <;> rfl

theorem writeStage_logs (w : PutWorld) (request : PutRequest) (s : Put) :
    (s.writeStage w request).cache_puts = s.cache_puts ∧
      (s.writeStage w request).stage_writes =
        s.stage_writes ++ [(request.data_pack, w.write)] := by
  unfold writeStage
  dsimp only
  split <;> exact ⟨rfl, rfl⟩

/-- The execution of a job with its memory frees it all. -/
theorem executeJob_of_new (h : s.freed = []) (htag : request.tag = 0 ∨ request.tag = 2) :
    s.executeJob w request =
      some { s.writeStage w request with freed := [.request_header, .data_pack, .job] } := by
  simp only [executeJob, readTag_of_new h, Option.bind_eq_bind, Option.bind_some, if_pos htag]
  exact freeAll_of_new (by rw [writeStage_freed, h])

/-- The request after the put into the live cache, if its tag asks for one. -/
def cached (w : PutWorld) (request : PutRequest) : Put :=
  if request.tag = 1 ∨ request.tag = 2 then putData w request {} else {}

theorem cached_freed (w : PutWorld) (request : PutRequest) : (cached w request).freed = [] := by
  unfold cached
  split <;> rfl

theorem cached_stage_writes (w : PutWorld) (request : PutRequest) :
    (cached w request).stage_writes = [] := by
  unfold cached
  split <;> rfl

theorem cached_cache_puts (w : PutWorld) (request : PutRequest) :
    (cached w request).cache_puts = if request.tag = 1 ∨ request.tag = 2 then
      [(request.key, request.data_pack, w.putData)] else [] := by
  unfold cached
  split <;> rfl

/-- With a file manager the tags 0 and 2 go to the queue. -/
theorem dispatch_of_queue (htag : request.tag = 0 ∨ request.tag = 2)
    (hvfs : w.vfs_manager_instance = true) :
    dispatch w request {} = (cached w request).pushJob w request := by
  simp only [dispatch, readTag_of_new, Option.bind_eq_bind, Option.bind_some, hvfs]
  rcases htag with htag | htag
  · simp [cached, htag]
  · simp [cached, htag]

theorem dispatch_of_no_queue
    (h : ¬ ((request.tag = 0 ∨ request.tag = 2) ∧ w.vfs_manager_instance = true)) :
    dispatch w request {} = some (0, cached w request) := by
  simp only [dispatch, readTag_of_new, Option.bind_eq_bind, Option.bind_some, cached]
  by_cases h0 : request.tag = 0
  · simp_all
  · by_cases h2 : request.tag = 2
    · simp_all
    · simp [h0, h2]
      split <;> rfl

/-- A request that never was in the queue and whose memory `submitJobInfo` frees. -/
theorem consumePutEvent_of_freed (h : w.vfs_manager_instance = false ∨ request.tag = 1) :
    consumePutEvent w request =
      some { cached w request with freed := [.request_header, .data_pack, .job] } := by
  have hno : ¬ ((request.tag = 0 ∨ request.tag = 2) ∧ w.vfs_manager_instance = true) := by
    rcases h with h | h <;> simp [h]
  have hqueued : ¬ Queued w request := fun hq => hno ⟨hq.1, hq.2.1⟩
  simp only [consumePutEvent, submitJobInfo, dispatch_of_no_queue hno, Option.bind_eq_bind,
    Option.bind_some, readTag_of_new (cached_freed w request), if_pos h.symm,
    freeAll_of_new (cached_freed w request), if_neg hqueued]
  rfl

/-- One that was never in the queue and that nobody frees. -/
theorem consumePutEvent_of_unknown_tag (hvfs : w.vfs_manager_instance = true)
    (h0 : request.tag ≠ 0) (h1 : request.tag ≠ 1) (h2 : request.tag ≠ 2) :
    consumePutEvent w request = some (cached w request) := by
  have hno : ¬ ((request.tag = 0 ∨ request.tag = 2) ∧ w.vfs_manager_instance = true) := by
    simp [h0, h2]
  have hqueued : ¬ Queued w request := fun hq => hno ⟨hq.1, hq.2.1⟩
  have hkept : ¬ (request.tag = 1 ∨ w.vfs_manager_instance = false) := by simp [h1, hvfs]
  simp only [consumePutEvent, submitJobInfo, dispatch_of_no_queue hno, Option.bind_eq_bind,
    Option.bind_some, readTag_of_new (cached_freed w request), if_neg hkept, if_neg hqueued]
  rfl

section queue

variable (htag : request.tag = 0 ∨ request.tag = 2) (hvfs : w.vfs_manager_instance = true)
include htag hvfs

/-- The job of a refused request is deleted, its header and its pack are not. -/
theorem consumePutEvent_of_refused (hpush : w.push = false) :
    consumePutEvent w request = some { cached w request with freed := [.job] } := by
  have hqueued : ¬ Queued w request := by simp [Queued, hpush]
  have hkept : ¬ (request.tag = 1 ∨ w.vfs_manager_instance = false) := by
    rcases htag with htag | htag <;> simp [htag, hvfs]
  simp only [consumePutEvent, submitJobInfo, dispatch_of_queue htag hvfs, pushJob, if_pos hpush,
    Option.bind_eq_bind, Option.bind_some, readTag_of_new (cached_freed w request), if_neg hkept,
    if_neg hqueued]
  simp [free, cached_freed]

/-- A thread that is too fast takes the memory away from `submitJobInfo`. -/
theorem consumePutEvent_of_overtaken (hpush : w.push = true)
    (hexec : w.execution = .duringSubmission) : consumePutEvent w request = none := by
  simp only [consumePutEvent, submitJobInfo, dispatch_of_queue htag hvfs, pushJob, hpush, hexec,
    Bool.true_eq_false, if_false, if_true, executeJob_of_new (cached_freed w request) htag,
    Option.map_some, Option.bind_eq_bind, Option.bind_some]
  simp [readTag]

theorem consumePutEvent_of_queued (hpush : w.push = true)
    (hexec : w.execution ≠ .duringSubmission) :
    consumePutEvent w request = (cached w request).leaveQueue w request := by
  have hqueued : Queued w request := ⟨htag, hvfs, hpush, hexec⟩
  have hkept : ¬ (request.tag = 1 ∨ w.vfs_manager_instance = false) := by
    rcases htag with htag | htag <;> simp [htag, hvfs]
  simp only [consumePutEvent, submitJobInfo, dispatch_of_queue htag hvfs, pushJob, hpush,
    Bool.true_eq_false, if_false, if_neg hexec, Option.bind_eq_bind, Option.bind_some,
    readTag_of_new (cached_freed w request), if_neg hkept, if_pos hqueued]
  rfl

end queue

theorem accounted_of_freed (h : w.vfs_manager_instance = false ∨ request.tag = 1) :
    Accounted w request
      { cached w request with freed := [.request_header, .data_pack, .job] } := by
  refine ⟨fun b => by cases b <;> rfl, cached_cache_puts w request, ?_⟩
  rw [if_neg (by rcases h with h | h <;> simp [h])]
  exact cached_stage_writes w request

theorem accounted_of_executed (htag : request.tag = 0 ∨ request.tag = 2)
    (hvfs : w.vfs_manager_instance = true) (hpush : w.push = true) :
    Accounted w request { (cached w request).writeStage w request with
      freed := [.request_header, .data_pack, .job] } := by
  obtain ⟨hcache, hstage⟩ := writeStage_logs w request (cached w request)
  refine ⟨fun b => by cases b <;> rfl, ?_, ?_⟩
  · exact hcache.trans (cached_cache_puts w request)
  · rw [if_pos ⟨htag, hvfs, hpush⟩]
    simpa [cached_stage_writes] using hstage

/-- A header that was not freed is missing in the account. -/
theorem not_accounted_of_header (h : Block.request_header ∉ s.freed) :
    ¬ Accounted w request s := by
  intro hacc
  have hone := hacc.freed_once .request_header
  rw [List.count_eq_zero.mpr h] at hone
  cases hone

/-- A put request is accounted for exactly when it does not go through the queue, or when the queue
takes it and a thread executes it after its submission is over. -/
theorem put_accounted_iff (w : PutWorld) (request : PutRequest) :
    (∃ s, consumePutEvent w request = some s ∧ Accounted w request s) ↔ Fits w request := by
  by_cases hno : w.vfs_manager_instance = false ∨ request.tag = 1
  · refine iff_of_true ?_ (by rcases hno with h | h <;> simp [Fits, h])
    exact ⟨_, consumePutEvent_of_freed hno, accounted_of_freed hno⟩
  have hvfs : w.vfs_manager_instance = true := by
    cases h : w.vfs_manager_instance
    · exact absurd (.inl h) hno
    · rfl
  have hfits : Fits w request ↔ (request.tag = 0 ∨ request.tag = 2) ∧ w.push = true ∧
      w.execution = .afterSubmission := by
    unfold Fits
    rw [← or_assoc, or_iff_right hno]
  rw [hfits]
  by_cases htag : request.tag = 0 ∨ request.tag = 2
  · simp only [htag, true_and]
    cases hpush : w.push with
    | false =>
      rw [consumePutEvent_of_refused htag hvfs hpush]
      refine iff_of_false ?_ (by simp)
      rintro ⟨s, hs, hacc⟩
      cases hs
      exact not_accounted_of_header (by simp) hacc
    | true =>
      cases hexec : w.execution with
      | duringSubmission =>
        rw [consumePutEvent_of_overtaken htag hvfs hpush hexec]
        exact iff_of_false (by simp) (by simp)
      | afterSubmission =>
        rw [consumePutEvent_of_queued htag hvfs hpush (by simp [hexec]), leaveQueue, if_pos hexec,
          executeJob_of_new (cached_freed w request) htag]
        exact iff_of_true ⟨_, rfl, accounted_of_executed htag hvfs hpush⟩ (by simp)
      | never =>
        rw [consumePutEvent_of_queued htag hvfs hpush (by simp [hexec]), leaveQueue,
          if_neg (by simp [hexec])]
        refine iff_of_false ?_ (by simp)
        rintro ⟨s, hs, hacc⟩
        simp only [free, cached_freed, List.not_mem_nil, if_false, List.nil_append,
          Option.some.injEq] at hs
        subst hs
        exact not_accounted_of_header (by simp) hacc
  · refine iff_of_false ?_ (fun h => htag h.1)
    obtain ⟨h0, h2⟩ := not_or.mp htag
    rw [consumePutEvent_of_unknown_tag hvfs h0 (not_or.mp hno).2 h2]
    rintro ⟨s, hs, hacc⟩
    cases hs
    exact not_accounted_of_header (by simp [cached_freed]) hacc

/-- A request to be stored that the queue does not take, one that a thread executes at once, and
one with a tag that there is no case for. -/
theorem put_not_accounted :
    (¬ ∃ s, consumePutEvent ⟨true, false, .never, 0, 0, 0, 0⟩ ⟨0, [], []⟩ = some s ∧
      Accounted ⟨true, false, .never, 0, 0, 0, 0⟩ ⟨0, [], []⟩ s) ∧
    (¬ ∃ s, consumePutEvent ⟨true, true, .duringSubmission, 0, 0, 0, 0⟩ ⟨2, [], []⟩ = some s ∧
      Accounted ⟨true, true, .duringSubmission, 0, 0, 0, 0⟩ ⟨2, [], []⟩ s) ∧
    (¬ ∃ s, consumePutEvent ⟨true, true, .afterSubmission, 0, 0, 0, 0⟩ ⟨3, [], []⟩ = some s ∧
      Accounted ⟨true, true, .afterSubmission, 0, 0, 0, 0⟩ ⟨3, [], []⟩ s) := by
  have hrefused : consumePutEvent ⟨true, false, .never, 0, 0, 0, 0⟩ ⟨0, [], []⟩ =
      some { freed := [.job] } := by decide
  have hovertaken : consumePutEvent ⟨true, true, .duringSubmission, 0, 0, 0, 0⟩ ⟨2, [], []⟩ =
      none := by decide
  have hunknown : consumePutEvent ⟨true, true, .afterSubmission, 0, 0, 0, 0⟩ ⟨3, [], []⟩ =
      some {} := by decide
  rw [hrefused, hovertaken, hunknown]
  refine ⟨?_, ?_, ?_⟩
  · rintro ⟨s, hs, hacc⟩
    cases hs
    exact absurd (hacc.freed_once .request_header) (by decide)
  · rintro ⟨s, hs, -⟩
    cases hs
  · rintro ⟨s, hs, hacc⟩
    cases hs
    exact absurd (hacc.freed_once .job) (by decide)

end Put

end chaos.data_service.worker
