-- The datasets of the snapshots, from the call that stores one to the call that returns it. A
-- document holds the datasets that one job has stored for one producer, each in a field that is
-- named by the producer and the type.
import Chaos.Bson
import Chaos.DottedFields
import Chaos.Runs
import Chaos.UniqueIndex

namespace chaos.data_service.snapshot_dataset

open dotted_fields runs unique_index

/-! ## The documents -/

/-- The types of the datasets. -/
inductive DataPackPrefixID where
  | output
  | input
  | custom
  | system
  deriving DecidableEq, Repr

def DataPackPrefixID.text : DataPackPrefixID → String
  | .output => "_o"
  | .input => "_i"
  | .custom => "_c"
  | .system => "_s"

/-- A dataset is a document too, and starts with its size. -/
structure Dataset where
  bytes : List UInt8
  size_eq : little_endian.ofBytes (bytes.take 4) = bytes.length
  size_pos : 0 < bytes.length
  deriving DecidableEq, Repr

/-- What the fields of `snapshot_data` hold. -/
inductive Value where
  | oid (bytes : List UInt8)
  | text (text : String)
  | dataset (data : Dataset)
  deriving DecidableEq, Repr

abbrev DataDocument := Document Value

/-- The text of a field. -/
def textOf (field : String) (d : DataDocument) : Option String :=
  match d.lookup field with
  | some (.value (.text text)) => some text
  | _ => none

/-- The name of the snapshot, the producer and the code of the job. -/
def keyOf (d : DataDocument) : Option String × Option String × Option String :=
  (textOf "snap_name" d, textOf "producer_id" d, textOf "check_code" d)

/-- The document that an upsert starts from when it finds none. -/
def newDocument (oid : List UInt8) (snapshot_name producer_unique_key working_job_unique_id :
    String) : DataDocument :=
  [("_id", .value (.oid oid)), ("snap_name", .value (.text snapshot_name)),
    ("producer_id", .value (.text producer_unique_key)),
    ("check_code", .value (.text working_job_unique_id))]

mutual

/-- A field as it stands in a document. -/
def nodeElement (field : String) : Node Value → List UInt8
  | .value (.oid bytes) => 7 :: (field.toUTF8.toList ++ 0 :: bytes)
  | .value (.text text) => (⟨field.toUTF8.toList, .string text.toUTF8.toList⟩ : bson.Element).bytes
  | .value (.dataset data) => 3 :: (field.toUTF8.toList ++ 0 :: data.bytes)
  | .document fields =>
    3 :: (field.toUTF8.toList ++ 0 :: bson.document (nodeElements fields))

def nodeElements : List (String × Node Value) → List UInt8
  | [] => []
  | (field, n) :: fields => nodeElement field n ++ nodeElements fields

end

/-- The bytes of an object that a field holds. They are those of an empty object when it holds
none. -/
def getObjectField : Node Value → List UInt8
  | .value (.dataset data) => data.bytes
  | .document fields => bson.document (nodeElements fields)
  | .value (.oid _) | .value (.text _) => bson.document []

def objsize (obj : List UInt8) : Nat := little_endian.ofBytes (obj.take 4)

/-! ## The calls -/

/-- The codes of the errors of the database. -/
def refusalCode : Refusal → Int
  | .emptyFieldName => 56
  | .dollarPrefixedFieldName => 52
  | .pathNotViable => 28

def ofJob (snapshot_name producer_unique_key working_job_unique_id : String) (d : DataDocument) :
    Bool :=
  keyOf d = (some snapshot_name, some producer_unique_key, some working_job_unique_id)

/-- An upsert. `oid` is the id of a new document, and `err` the error of the connection. -/
def snapshotAddElementToSnapshot (snapshot_data : List DataDocument)
    (working_job_unique_id snapshot_name producer_unique_key dataset_type : String)
    (data : Dataset) (oid : List UInt8) (err : Int) : Int × List DataDocument :=
  if err ≠ 0 then (err, snapshot_data)
  else
    let q := ofJob snapshot_name producer_unique_key working_job_unique_id
    let new := newDocument oid snapshot_name producer_unique_key working_job_unique_id
    match set dataset_type (.dataset data) ((snapshot_data.find? q).getD new) with
    | .error refusal => (refusalCode refusal, snapshot_data)
    | .ok d => (0, upsert q (fun _ => d) new snapshot_data)

/-- `cache` is what the live data gives for the dataset: an error, and the data or `NULL`. -/
def storeDatasetTypeInSnapsnot (snapshot_data : List DataDocument)
    (job_work_code snapshot_name unique_id : String) (dataset_type : DataPackPrefixID)
    (cache : Int × Option Dataset) (oid : List UInt8) (err : Int) : Int × List DataDocument :=
  if cache.1 ≠ 0 then (cache.1, snapshot_data)
  else
    match cache.2 with
    | none => (-1, snapshot_data)
    | some data =>
      snapshotAddElementToSnapshot snapshot_data job_work_code snapshot_name unique_id
        (unique_id ++ dataset_type.text) data oid err

/-- The documents of a producer, and the one that `findOne` returns: it may be any of them. -/
def findOne (snapshot_data : List DataDocument) (snapshot_name producer_unique_key : String)
    (choice : Nat) : Option DataDocument :=
  let found := snapshot_data.filter fun d =>
    textOf "snap_name" d = some snapshot_name ∧ textOf "producer_id" d = some producer_unique_key
  found[choice % found.length]?

/-- The answer, and the data that the caller gets. `err` is the error of `findOne`. -/
def snapshotGetDatasetForProducerKey (snapshot_data : List DataDocument)
    (snapshot_name producer_unique_key : String) (dataset_type : DataPackPrefixID)
    (choice : Nat) (err : Int) : Int × Option (List UInt8) :=
  let channel_data :=
    if err ≠ 0 then none
    else
      let result := (findOne snapshot_data snapshot_name producer_unique_key choice).getD []
      match result.lookup (producer_unique_key ++ dataset_type.text) with
      | none => none
      | some n =>
        let obj := getObjectField n
        if objsize obj ≠ 0 then some (obj.take (objsize obj)) else none
  -- not `err`
  (0, channel_data)

/-- The last call of `snapshotDeleteWithName`, which removes the data. -/
def snapshotDeleteWithName (snapshot_data : List DataDocument) (snapshot_name : String)
    (err : Int) : Int × List DataDocument :=
  if err ≠ 0 then (err, snapshot_data)
  else (0, snapshot_data.filter fun d => textOf "snap_name" d ≠ some snapshot_name)

/-! ## The steps -/

/-- A dataset that was stored, as the job was told. -/
structure StoredDataset where
  snapshot_name : String
  unique_id : String
  dataset_type : DataPackPrefixID
  job_work_code : String
  data : Dataset
  deriving DecidableEq, Repr

/-- A call that asked for a dataset: the error of the database, the dataset that was stored last,
and the answer. -/
structure DatasetRead where
  err : Int
  held : Option Dataset
  answer : Int × Option (List UInt8)
  deriving DecidableEq, Repr

/-- A dataset that is stored is returned without an error, and there is an error when none is
stored or when the database fails. -/
def DatasetRead.IsRight (r : DatasetRead) : Prop :=
  match r.held with
  | some data => if r.err = 0 then r.answer = (0, some data.bytes) else r.answer.1 ≠ 0
  | none => r.answer.1 ≠ 0

/-- The last two are not in the code: what is stored, the newest first, and what was asked for. -/
structure SnapshotData where
  snapshot_data : List DataDocument := []
  stored : List StoredDataset := []
  reads : List DatasetRead := []

inductive Label where
  | store (job_work_code snapshot_name unique_id : String) (dataset_type : DataPackPrefixID)
      (cache : Int × Option Dataset) (oid : List UInt8) (err : Int)
  | get (snapshot_name producer_unique_key : String) (dataset_type : DataPackPrefixID)
      (choice : Nat) (err : Int)
  | deleteWithName (snapshot_name : String) (err : Int)

namespace SnapshotData

/-- What was stored last. -/
def last (s : SnapshotData) (snapshot_name unique_id : String) (dataset_type : DataPackPrefixID) :
    Option Dataset :=
  (s.stored.find? fun e => e.snapshot_name = snapshot_name ∧ e.unique_id = unique_id ∧
    e.dataset_type = dataset_type).map (·.data)

/-- What one job has stored last. -/
def lastOf (s : SnapshotData) (snapshot_name unique_id job_work_code : String)
    (dataset_type : DataPackPrefixID) : Option Dataset :=
  (s.stored.find? fun e => e.snapshot_name = snapshot_name ∧ e.unique_id = unique_id ∧
    e.job_work_code = job_work_code ∧ e.dataset_type = dataset_type).map (·.data)

def step (s : SnapshotData) : Label → Option SnapshotData
  | .store job_work_code snapshot_name unique_id dataset_type cache oid err =>
    let (e, snapshot_data) := storeDatasetTypeInSnapsnot s.snapshot_data job_work_code
      snapshot_name unique_id dataset_type cache oid err
    match e, cache.2 with
    | 0, some data => some { s with
        snapshot_data := snapshot_data
        stored := ⟨snapshot_name, unique_id, dataset_type, job_work_code, data⟩ :: s.stored }
    | _, _ => some { s with snapshot_data := snapshot_data }
  | .get snapshot_name producer_unique_key dataset_type choice err =>
    some { s with
      reads := s.reads ++ [⟨err, s.last snapshot_name producer_unique_key dataset_type,
        snapshotGetDatasetForProducerKey s.snapshot_data snapshot_name producer_unique_key
          dataset_type choice err⟩] }
  | .deleteWithName snapshot_name err =>
    let (e, snapshot_data) := snapshotDeleteWithName s.snapshot_data snapshot_name err
    some { s with
      snapshot_data := snapshot_data
      stored := if e = 0 then s.stored.filter fun e => e.snapshot_name ≠ snapshot_name
        else s.stored }

/-! ## What a caller relies on -/

/-- The condition: the database answers, a dataset is stored, the name of its producer has no dot,
and the job whose document is returned has stored the same data. -/
def ReadsBack (s : SnapshotData) : Label → Prop
  | .get snapshot_name producer_unique_key dataset_type choice err =>
    err = 0 ∧ '.' ∉ producer_unique_key.toList ∧
      ∃ data, s.last snapshot_name producer_unique_key dataset_type = some data ∧
        ∃ d ∈ findOne s.snapshot_data snapshot_name producer_unique_key choice,
          ∃ job_work_code ∈ textOf "check_code" d,
            s.lastOf snapshot_name producer_unique_key job_work_code dataset_type = some data
  | _ => True

end SnapshotData

/-! ## The fields of the datasets -/

/-- No field of the document itself ends like the field of a dataset. -/
theorem field_ne (k : String) (type : DataPackPrefixID) (field : String)
    (hfield : field ∈ ["_id", "snap_name", "producer_id", "check_code"]) :
    k ++ type.text ≠ field := by
  intro heq
  have hlast := congrArg (fun f : String => f.toList.getLast?) heq
  simp only [List.mem_cons, List.not_mem_nil, or_false] at hfield
  rcases hfield with rfl | rfl | rfl | rfl <;> cases type <;>
    simp [String.toList_append, DataPackPrefixID.text] at hlast

theorem field_inj (k : String) {type type' : DataPackPrefixID}
    (h : k ++ type.text = k ++ type'.text) : type = type' := by
  have htext : type.text.toList = type'.text.toList := by
    have := congrArg String.toList h
    simpa [String.toList_append] using this
  revert htext
  cases type <;> cases type' <;> decide

/-- The dots of a field are those of the producer. -/
theorem dot_mem_field (k : String) (type : DataPackPrefixID) :
    '.' ∈ (k ++ type.text).toList ↔ '.' ∈ k.toList := by
  cases type <;> simp [String.toList_append, DataPackPrefixID.text]

variable {d d' : DataDocument} {n k c : String}

theorem textOf_eq_some {field text : String} :
    textOf field d = some text ↔ d.lookup field = some (.value (.text text)) := by
  unfold textOf
  split
  · rename_i t h
    simp [h]
  · rename_i h
    exact ⟨nofun, fun heq => absurd heq (h text)⟩

theorem keyOf_eq : keyOf d = (some n, some k, some c) ↔ textOf "snap_name" d = some n ∧
    textOf "producer_id" d = some k ∧ textOf "check_code" d = some c := by
  simp [keyOf]

/-- A dataset that is stored leaves the key of its document. -/
theorem keyOf_set (hkey : keyOf d = (some n, some k, some c)) {key : String}
    {type : DataPackPrefixID} {v : Value} (hset : set (key ++ type.text) v d = .ok d') :
    keyOf d' = (some n, some k, some c) := by
  have hkeep : ∀ field ∈ ["_id", "snap_name", "producer_id", "check_code"], ∀ text,
      textOf field d = some text → textOf field d' = some text := by
    intro field hfield text htext
    rw [textOf_eq_some] at htext ⊢
    exact lookup_set_value htext (field_ne key type field hfield) hset
  rw [keyOf_eq] at hkey ⊢
  exact ⟨hkeep _ (by decide) _ hkey.1, hkeep _ (by decide) _ hkey.2.1,
    hkeep _ (by decide) _ hkey.2.2⟩

theorem keyOf_newDocument (oid : List UInt8) :
    keyOf (newDocument oid n k c) = (some n, some k, some c) := by
  rw [keyOf_eq]
  exact ⟨rfl, rfl, rfl⟩

/-- A new document has no dataset. -/
theorem lookup_newDocument (oid : List UInt8) (type : DataPackPrefixID) :
    (newDocument oid n k c).lookup (k ++ type.text) = none := by
  have hne := field_ne k type
  simp only [List.mem_cons, List.not_mem_nil, or_false, forall_eq_or_imp, forall_eq] at hne
  obtain ⟨h1, h2, h3, h4⟩ := hne
  simp only [newDocument, lookup_cons, if_neg h1, if_neg h2, if_neg h3, if_neg h4,
    List.lookup_nil]

/-- A dataset is returned with all its bytes. -/
theorem take_objsize (data : Dataset) : objsize data.bytes ≠ 0 ∧
    data.bytes.take (objsize data.bytes) = data.bytes := by
  have hpos := data.size_pos
  unfold objsize
  rw [data.size_eq]
  exact ⟨by omega, List.take_length⟩

end chaos.data_service.snapshot_dataset
