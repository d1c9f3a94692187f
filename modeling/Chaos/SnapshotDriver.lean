-- The snapshots of the live data. A job enters the name of a snapshot with a code of its own,
-- counts itself in, stores the datasets under its code and counts itself out. Clients read the
-- datasets of a name and delete names. Each call of the database is one step.
import Chaos.Runs
import Chaos.UniqueIndex

namespace chaos.data_service.db_system

open unique_index

/-! ## The collections -/

/-- A document of `snapshot`, with a unique index on the name. -/
structure SnapshotDocument where
  snap_name : String
  snap_ts : UInt64
  check_code : Nat
  job_concurency : Option Int := none
  deriving DecidableEq, Repr

/-- The counter of the jobs. It is not there before the first job has counted itself in. -/
def SnapshotDocument.jobs (d : SnapshotDocument) : Int := d.job_concurency.getD 0

/-- A document of `snapshot_data`. Each dataset has a field of its own. -/
structure SnapshotDataDocument where
  snap_name : String
  producer_id : String
  check_code : Nat
  datasets : List (String × List UInt8) := []
  deriving DecidableEq, Repr

/-- `$set` of one field. -/
def SnapshotDataDocument.setField (d : SnapshotDataDocument) (field : String)
    (value : List UInt8) : SnapshotDataDocument :=
  { d with datasets := (field, value) :: d.datasets.filter fun e => e.1 ≠ field }

/-! ## The jobs and the clients -/

/-- A job waits in the queue of the worker, or works, after its call that counts it in has found
the document or not, or is gone. -/
inductive JobPhase where
  | queued
  | working (counted : Bool)
  | gone
  deriving DecidableEq, Repr

structure SnapshotCreationJob where
  snapshot_name : String
  phase : JobPhase
  deriving DecidableEq, Repr

/-- Where a call of `snapshotDeleteWithName` is: before its first `remove`, or before the second. -/
structure SnapshotDelete where
  snapshot_name : String
  removed : Bool := false
  deriving DecidableEq, Repr

/-- A dataset that was returned for a name: the code of the job that stored it, and the code that
was registered for the name. -/
structure SnapshotRead where
  snapshot_name : String
  stored_by : Nat
  registered : Option Nat
  data : List UInt8
  deriving DecidableEq, Repr

/-- The work code of a job is its number, so that each new one is fresh. The last three are not in
the code: the names whose snapshot was removed, and their data not yet; the codes of the snapshots
that were removed while their job was counted and at work; and the datasets that were returned. -/
structure SnapshotSystem where
  snapshot : List SnapshotDocument := []
  snapshot_data : List SnapshotDataDocument := []
  jobs : List SnapshotCreationJob := []
  deletes : List SnapshotDelete := []
  half_deleted : List String := []
  removed_at_work : List Nat := []
  reads : List SnapshotRead := []
  deriving DecidableEq, Repr

namespace SnapshotSystem

/-! ## The calls of a job -/

/-- `submitJobInfo` of the worker, with `snapshotCreateNewWithName`. The job goes into the queue
when its name could be entered. -/
def submitJobInfo (s : SnapshotSystem) (snapshot_name : String) (now : UInt64)
    (answers pushes : Bool) : SnapshotSystem :=
  if snapshot_name = "" then s
  else
    let q : SnapshotDocument := ⟨snapshot_name, now, s.jobs.length, none⟩
    match answers, insert SnapshotDocument.snap_name s.snapshot q with
    | true, (true, snapshot) => { s with
        snapshot := snapshot
        jobs := s.jobs ++ [⟨snapshot_name, if pushes then .queued else .gone⟩] }
    | _, _ => { s with jobs := s.jobs ++ [⟨snapshot_name, .gone⟩] }

/-- The documents that `snapshotIncrementJobCounter` searches for. -/
def ofJob (snapshot_name : String) (working_job_unique_id : Nat) (d : SnapshotDocument) : Bool :=
  d.snap_name = snapshot_name ∧ d.check_code = working_job_unique_id

/-- The update of `snapshotIncrementJobCounter`. It is no error when there is no document. -/
def incrementJobCounter (snapshot : List SnapshotDocument) (snapshot_name : String)
    (working_job_unique_id : Nat) (add : Bool) : List SnapshotDocument :=
  update (ofJob snapshot_name working_job_unique_id)
    (fun d => { d with job_concurency := some (d.jobs + if add then 1 else -1) }) snapshot

/-- The start of `executeJob`. -/
def jobStarts (s : SnapshotSystem) (code : Nat) (answers : Bool) : Option SnapshotSystem :=
  match s.jobs[code]? with
  | some ⟨snapshot_name, .queued⟩ =>
    if answers then some { s with
      snapshot := incrementJobCounter s.snapshot snapshot_name code true
      jobs := s.jobs.set code
        ⟨snapshot_name, .working (s.snapshot.any (ofJob snapshot_name code))⟩ }
    else some { s with jobs := s.jobs.set code ⟨snapshot_name, .gone⟩ }
  | _ => none

/-- The documents that `snapshotAddElementToSnapshot` searches for. -/
def ofProducer (snapshot_name producer_unique_key : String) (working_job_unique_id : Nat)
    (d : SnapshotDataDocument) : Bool :=
  d.snap_name = snapshot_name ∧ d.producer_id = producer_unique_key ∧
    d.check_code = working_job_unique_id

/-- `storeDatasetTypeInSnapsnot`: the field is named by the producer and the type. -/
def jobStores (s : SnapshotSystem) (code : Nat) (unique_id dataset_type : String)
    (data : List UInt8) (answers : Bool) : Option SnapshotSystem :=
  match s.jobs[code]? with
  | some ⟨snapshot_name, .working _⟩ =>
    if answers then some { s with
      snapshot_data := upsert (ofProducer snapshot_name unique_id code)
        (fun d => d.setField (unique_id ++ dataset_type) data) ⟨snapshot_name, unique_id, code, []⟩
        s.snapshot_data }
    else some s
  | _ => none

/-- The end of `executeJob`. An error of its last call is only logged. -/
def jobEnds (s : SnapshotSystem) (code : Nat) (answers : Bool) : Option SnapshotSystem :=
  match s.jobs[code]? with
  | some ⟨snapshot_name, .working _⟩ =>
    let jobs := s.jobs.set code ⟨snapshot_name, .gone⟩
    if answers then some { s with
      snapshot := incrementJobCounter s.snapshot snapshot_name code false
      jobs := jobs }
    else some { s with jobs := jobs }
  | _ => none

/-! ## The calls of a client -/

/-- The start of `snapshotDeleteWithName`. What it finds is not looked at. -/
def deleteStarts (s : SnapshotSystem) (snapshot_name : String) (answers : Bool) :
    SnapshotSystem :=
  if answers then { s with deletes := s.deletes ++ [{ snapshot_name }] } else s

/-- The document is the one of a counted job at work. -/
def atWork (s : SnapshotSystem) (d : SnapshotDocument) : Bool :=
  s.jobs[d.check_code]? = some ⟨d.snap_name, .working true⟩

/-- A `remove` of `snapshotDeleteWithName`. After an error the call returns. -/
def deleteRemoves (s : SnapshotSystem) (call : Nat) (answers : Bool) : Option SnapshotSystem :=
  match s.deletes[call]? with
  | none => none
  | some ⟨snapshot_name, false⟩ =>
    let found := s.snapshot.filter fun d => d.snap_name = snapshot_name
    if answers then some { s with
      snapshot := s.snapshot.filter fun d => d.snap_name ≠ snapshot_name
      deletes := s.deletes.set call ⟨snapshot_name, true⟩
      half_deleted := if found = [] then s.half_deleted else snapshot_name :: s.half_deleted
      removed_at_work := s.removed_at_work ++ (found.filter s.atWork).map (·.check_code) }
    else some { s with deletes := s.deletes.eraseIdx call }
  | some ⟨snapshot_name, true⟩ =>
    if answers then some { s with
      snapshot_data := s.snapshot_data.filter fun d => d.snap_name ≠ snapshot_name
      deletes := s.deletes.eraseIdx call
      half_deleted := s.half_deleted.filter fun name => name ≠ snapshot_name }
    else some { s with deletes := s.deletes.eraseIdx call }

/-- The code that is registered for a name. -/
def registered (s : SnapshotSystem) (snapshot_name : String) : Option Nat :=
  (s.snapshot.find? (·.snap_name = snapshot_name)).map (·.check_code)

/-- The data documents that `snapshotGetDatasetForProducerKey` searches for. -/
def dataOf (s : SnapshotSystem) (snapshot_name producer_unique_key : String) :
    List SnapshotDataDocument :=
  s.snapshot_data.filter fun d =>
    d.snap_name = snapshot_name ∧ d.producer_id = producer_unique_key

/-- `snapshotGetDatasetForProducerKey`. The database may choose any document that matches. -/
def getDataset (s : SnapshotSystem) (snapshot_name producer_unique_key dataset_type : String)
    (choice : Nat) (answers : Bool) : Option SnapshotSystem :=
  if answers = false then some s
  else
    match (s.dataOf snapshot_name producer_unique_key)[choice]? with
    | none => if s.dataOf snapshot_name producer_unique_key = [] then some s else none
    | some d =>
      match d.datasets.lookup (producer_unique_key ++ dataset_type) with
      | none => some s
      | some data => some { s with
          reads := s.reads ++ [⟨snapshot_name, d.check_code, s.registered snapshot_name, data⟩] }

/-! ## The steps -/

/-- `answers` says whether the database answers without an error. -/
inductive Label where
  | submitJobInfo (snapshot_name : String) (now : UInt64) (answers pushes : Bool)
  | jobStarts (code : Nat) (answers : Bool)
  | jobStores (code : Nat) (unique_id dataset_type : String) (data : List UInt8) (answers : Bool)
  | jobEnds (code : Nat) (answers : Bool)
  | deleteStarts (snapshot_name : String) (answers : Bool)
  | deleteRemoves (call : Nat) (answers : Bool)
  | getDataset (snapshot_name producer_unique_key dataset_type : String) (choice : Nat)
      (answers : Bool)
  deriving DecidableEq, Repr

def step (s : SnapshotSystem) : Label → Option SnapshotSystem
  | .submitJobInfo snapshot_name now answers pushes =>
    some (s.submitJobInfo snapshot_name now answers pushes)
  | .jobStarts code answers => s.jobStarts code answers
  | .jobStores code unique_id dataset_type data answers =>
    s.jobStores code unique_id dataset_type data answers
  | .jobEnds code answers => s.jobEnds code answers
  | .deleteStarts snapshot_name answers => some (s.deleteStarts snapshot_name answers)
  | .deleteRemoves call answers => s.deleteRemoves call answers
  | .getDataset snapshot_name producer_unique_key dataset_type choice answers =>
    s.getDataset snapshot_name producer_unique_key dataset_type choice answers

end SnapshotSystem

end chaos.data_service.db_system
