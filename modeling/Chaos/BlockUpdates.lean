-- The updates of the data block documents: the commands that the driver sends for its calls, and
-- what the database makes of them. Other workers add and delete blocks meanwhile, and the
-- heartbeat hands the address of its write concern over in the place of the upsert flag.
import Chaos.BlockSelection
import Chaos.Runs
import Chaos.UniqueIndex

namespace chaos.data_service.db_system

open runs

/-! ## The collection of the blocks -/

/-- The fields of a block document, by their names in the database. -/
inductive BlockField where
  | fpk
  | state
  | ct
  | vu
  | mbs
  | vfs_path
  | vfs_domain
  | cur_work_pos
  | hb
  deriving DecidableEq, Repr

inductive BlockValue where
  | oid (id : Nat)
  | int (n : Int)
  | date (ms : Int)
  | string (s : String)
  deriving DecidableEq, Repr

/-- A document, with the number that the database gave it. -/
structure VBlock where
  id : Nat
  fields : BlockField → Option BlockValue

/-- The fields of the unique index. -/
def VBlock.index (d : VBlock) : Option BlockValue × Option BlockValue × Option BlockValue :=
  (d.fields .vfs_path, d.fields .vfs_domain, d.fields .ct)

/-- The next document gets the number `allocated`. -/
structure BlockCollection where
  vblock : List VBlock := []
  allocated : Nat := 0

/-- A query: fields that have to be equal to a value, and what else is asked. -/
structure BlockQuery where
  equal : List (BlockField × BlockValue)
  also : VBlock → Bool := fun _ => true

def BlockQuery.finds (q : BlockQuery) (d : VBlock) : Bool :=
  q.equal.all (fun e => d.fields e.1 = some e.2) && q.also d

/-- `$set` of one field. -/
def VBlock.set (d : VBlock) (field : BlockField) (value : BlockValue) : VBlock :=
  { d with fields := Function.update d.fields field (some value) }

inductive BlockCommand where
  | insert (fields : List (BlockField × BlockValue))
  | remove (query : BlockQuery)
  | update (query : BlockQuery) (field : BlockField) (value : BlockValue) (upsert multi : Bool)
  | findAndModify (query : BlockQuery) (field : BlockField) (value : BlockValue)

namespace BlockCollection

/-- A new document, unless the unique index refuses it. -/
def add (s : BlockCollection) (fields : List (BlockField × BlockValue)) : BlockCollection :=
  { vblock := (unique_index.insert VBlock.index s.vblock
      ⟨s.allocated, fun f => fields.lookup f⟩).2
    allocated := s.allocated + 1 }

/-- The database runs a command. An upsert with no match adds a document with the fields of the
query and the field that is set. -/
def exec (s : BlockCollection) : BlockCommand → BlockCollection
  | .insert fields => s.add fields
  | .remove query => { s with vblock := s.vblock.filter fun d => !query.finds d }
  | .update query field value upsert multi =>
    if upsert && !s.vblock.any query.finds then s.add ((field, value) :: query.equal)
    else if multi then { s with
      vblock := s.vblock.map fun d => if query.finds d then d.set field value else d }
    else { s with vblock := unique_index.update query.finds (·.set field value) s.vblock }
  | .findAndModify query field value =>
    { s with vblock := unique_index.update query.finds (·.set field value) s.vblock }

end BlockCollection

/-! ## The calls of the driver -/

/-- What the search for the file in the other collection gives. -/
inductive FileLookup where
  | error (err : Int)
  | missing
  | found (fpk : Nat)
  deriving DecidableEq, Repr

/-- What a call knows of its block: the domain of its file, and the path of the block. -/
structure BlockName where
  vfs_domain : String
  vfs_path : String
  deriving DecidableEq, Repr

/-- The query for a block by its path and domain. -/
def BlockName.query (b : BlockName) : List (BlockField × BlockValue) :=
  [(.vfs_path, .string b.vfs_path), (.vfs_domain, .string b.vfs_domain)]

inductive WriteConcern where
  | unacknowledged
  | acknowledged
  deriving DecidableEq, Repr

/-- A pointer in the place of a flag: it is true unless it is null. -/
def pointerToBool (p : Option WriteConcern) : Bool := p.isSome

/-- `MongoDBHAConnectionManager::update`, with its last three arguments `false`, `false` and `NULL`
where they are not given. The write concern only says how long the client waits. -/
def haUpdate (query : BlockQuery) (field : BlockField) (value : BlockValue) (upsert multi : Bool)
    (_wc : Option WriteConcern) : BlockCommand :=
  .update query field value upsert multi

/-- The parts of a new block that its document holds. -/
structure NewBlock where
  name : BlockName
  creation_time : Int
  invalidation_timestamp : Int
  max_reacheable_size : Int
  deriving DecidableEq, Repr

/-- The error of the file entry, where it is missing and could not be made, is in `file`. -/
def vfsAddNewDataBlock (file : FileLookup) (data_block : NewBlock) (new_block_state : Int)
    (now : Int) : Except Int BlockCommand :=
  match file with
  | .error err => .error err
  | .missing => .error (-4)
  | .found fpk => .ok <| .insert
      [(.fpk, .oid fpk), (.state, .int new_block_state), (.ct, .date data_block.creation_time),
        (.vu, .date data_block.invalidation_timestamp),
        (.mbs, .int data_block.max_reacheable_size),
        (.vfs_path, .string data_block.name.vfs_path),
        (.vfs_domain, .string data_block.name.vfs_domain), (.cur_work_pos, .int 0),
        (.hb, .date now)]

/-- An error of the search leaves its result empty. -/
def vfsDeleteDataBlock (file : FileLookup) (data_block : BlockName) : Except Int BlockCommand :=
  match file with
  | .error _ | .missing => .error (-4)
  | .found fpk => .ok (.remove { equal := (.fpk, .oid fpk) :: data_block.query })

/-- A file that is missing is only logged, and its id throws. -/
def setOnBlockOfFile (file : FileLookup) (data_block : BlockName) (field : BlockField)
    (value : BlockValue) : Except Int BlockCommand :=
  match file with
  | .error err => .error err
  | .missing => .error (-2)
  | .found fpk =>
    .ok (haUpdate { equal := (.fpk, .oid fpk) :: data_block.query } field value false false none)

def vfsSetStateOnDataBlock (file : FileLookup) (data_block : BlockName) (state : Int) :
    Except Int BlockCommand :=
  setOnBlockOfFile file data_block .state (.int state)

/-- `vfsSetStateOnDataBlock` with a current and a new state. -/
def vfsCompareAndSetState (data_block : BlockName) (cur_state new_state : Int) :
    Except Int BlockCommand :=
  .ok (.findAndModify { equal := data_block.query ++ [(.state, .int cur_state)] } .state
    (.int new_state))

/-- The fourth argument is the address of the write concern. -/
def vfsSetHeartbeatOnDatablock (data_block : BlockName) (timestamp now : Int) :
    Except Int BlockCommand :=
  let wc := WriteConcern.unacknowledged
  .ok (haUpdate { equal := data_block.query } .hb
    (.date (if timestamp = 0 then now else timestamp)) (pointerToBool (some wc)) false none)

def vfsUpdateDatablockCurrentWorkPosition (file : FileLookup) (data_block : BlockName)
    (current_work_position : Int) : Except Int BlockCommand :=
  setOnBlockOfFile file data_block .cur_work_pos (.int current_work_position)

variable (search : String → String → Bool)

/-- The regular expression and the time of `vfsChangeStateToOutdatedChunck`. -/
def isOutdated (data_area : String) (timeout_state_in_sec : UInt32) (now : Int) (d : VBlock) :
    Bool :=
  match d.fields .vfs_path, d.fields .vu with
  | some (.string path), some (.date vu) =>
    search (vfs.pathRegex data_area) path &&
      vu < vfs.getTimestampWithDelay now (timeout_state_in_sec * 1000).toUInt64
  | _, _ => false

def vfsChangeStateToOutdatedChunck (domain data_area : String) (timeout_state_in_sec : UInt32)
    (timeout_state new_state now : Int) : Except Int BlockCommand :=
  .ok (haUpdate
    { equal := [(.vfs_domain, .string domain), (.state, .int timeout_state)]
      also := isOutdated search data_area timeout_state_in_sec now }
    .state (.int new_state) false true none)

/-! ## The runs -/

/-- A call whose command the database runs. One that is lost on its way is no step, and one that is
run again on another connection is one more. -/
inductive BlockCall where
  | vfsAddNewDataBlock (file : FileLookup) (data_block : NewBlock) (new_block_state now : Int)
  | vfsDeleteDataBlock (file : FileLookup) (data_block : BlockName)
  | vfsSetStateOnDataBlock (file : FileLookup) (data_block : BlockName) (state : Int)
  | vfsCompareAndSetState (data_block : BlockName) (cur_state new_state : Int)
  | vfsSetHeartbeatOnDatablock (data_block : BlockName) (timestamp now : Int)
  | vfsUpdateDatablockCurrentWorkPosition (file : FileLookup) (data_block : BlockName)
      (current_work_position : Int)
  | vfsChangeStateToOutdatedChunck (domain data_area : String) (timeout_state_in_sec : UInt32)
      (timeout_state new_state now : Int)

namespace BlockCall

def command : BlockCall → Except Int BlockCommand
  | .vfsAddNewDataBlock file data_block new_block_state now =>
    db_system.vfsAddNewDataBlock file data_block new_block_state now
  | .vfsDeleteDataBlock file data_block => db_system.vfsDeleteDataBlock file data_block
  | .vfsSetStateOnDataBlock file data_block state =>
    db_system.vfsSetStateOnDataBlock file data_block state
  | .vfsCompareAndSetState data_block cur_state new_state =>
    db_system.vfsCompareAndSetState data_block cur_state new_state
  | .vfsSetHeartbeatOnDatablock data_block timestamp now =>
    db_system.vfsSetHeartbeatOnDatablock data_block timestamp now
  | .vfsUpdateDatablockCurrentWorkPosition file data_block current_work_position =>
    db_system.vfsUpdateDatablockCurrentWorkPosition file data_block current_work_position
  | .vfsChangeStateToOutdatedChunck domain data_area timeout_state_in_sec timeout_state new_state
      now =>
    db_system.vfsChangeStateToOutdatedChunck search domain data_area timeout_state_in_sec
      timeout_state new_state now

/-- The field that an update is named after. The other two calls change the set of blocks. -/
def field : BlockCall → Option BlockField
  | .vfsAddNewDataBlock _ _ _ _ | .vfsDeleteDataBlock _ _ => none
  | .vfsSetStateOnDataBlock _ _ _ | .vfsCompareAndSetState _ _ _
  | .vfsChangeStateToOutdatedChunck _ _ _ _ _ _ => some .state
  | .vfsSetHeartbeatOnDatablock _ _ _ => some .hb
  | .vfsUpdateDatablockCurrentWorkPosition _ _ _ => some .cur_work_pos

end BlockCall

/-- A call that ends before its command leaves the blocks as they are. -/
def blockStep (s : BlockCollection) (call : BlockCall) : Option BlockCollection :=
  some (match call.command search with
    | .ok command => s.exec command
    | .error _ => s)

/-! ## What is claimed -/

/-- The same documents, in which at most this field is another one. -/
def OnlyField (field : BlockField) (c c' : List VBlock) : Prop :=
  List.Forall₂ (fun d d' => d'.id = d.id ∧ ∀ g, g ≠ field → d'.fields g = d.fields g) c c'

/-- An update changes the field that it is named after, and nothing else. -/
def KeepsBlocks (s : BlockCollection) (call : BlockCall) : Prop :=
  ∀ field ∈ call.field, ∀ t, blockStep search s call = some t → OnlyField field s.vblock t.vblock

/-- The block of a heartbeat is there. -/
def FindsItsBlock (s : BlockCollection) : BlockCall → Prop
  | .vfsSetHeartbeatOnDatablock data_block _ _ =>
    ∃ d ∈ s.vblock, d.fields .vfs_path = some (.string data_block.vfs_path) ∧
      d.fields .vfs_domain = some (.string data_block.vfs_domain)
  | _ => True

/-! ## One command -/

variable {s t : BlockCollection} {c : List VBlock} {field : BlockField} {value : BlockValue}
  {query : BlockQuery}

theorem OnlyField.refl (field : BlockField) (c : List VBlock) : OnlyField field c c := by
  induction c with
  | nil => exact .nil
  | cons d c ih => exact .cons ⟨rfl, fun _ _ => rfl⟩ ih

theorem set_fields (d : VBlock) {g : BlockField} (h : g ≠ field) :
    (d.set field value).fields g = d.fields g := Function.update_of_ne h _ _

theorem onlyField_update (p : VBlock → Bool) :
    OnlyField field c (unique_index.update p (·.set field value) c) := by
  induction c with
  | nil => exact .nil
  | cons d c ih =>
    unfold unique_index.update
    split
    · exact .cons ⟨rfl, fun g h => set_fields d h⟩ (OnlyField.refl field c)
    · exact .cons ⟨rfl, fun _ _ => rfl⟩ ih

theorem onlyField_map (p : VBlock → Bool) :
    OnlyField field c (c.map fun d => if p d then d.set field value else d) := by
  induction c with
  | nil => exact .nil
  | cons d c ih =>
    refine .cons ?_ ih
    dsimp only
    split
    · exact ⟨rfl, fun g h => set_fields d h⟩
    · exact ⟨rfl, fun _ _ => rfl⟩

/-- An update adds no document where it has no upsert flag, or where it finds one. -/
theorem onlyField_exec_update {upsert multi : Bool}
    (h : upsert = true → s.vblock.any query.finds = true) :
    OnlyField field s.vblock (s.exec (.update query field value upsert multi)).vblock := by
  have hadd : (upsert && !s.vblock.any query.finds) = false := by
    cases upsert with
    | false => rfl
    | true => rw [h rfl, Bool.not_true, Bool.and_false]
  simp only [BlockCollection.exec, hadd, Bool.false_eq_true, if_false]
  split
  · exact onlyField_map _
  · exact onlyField_update _

/-- The query for a path and a domain finds the documents that have them. -/
theorem finds_iff {data_block : BlockName} {d : VBlock} :
    (BlockQuery.finds { equal := data_block.query } d) = true ↔
      d.fields .vfs_path = some (.string data_block.vfs_path) ∧
        d.fields .vfs_domain = some (.string data_block.vfs_domain) := by
  simp [BlockQuery.finds, BlockName.query]

/-! ## The calls -/

theorem onlyField_setOnBlockOfFile {file : FileLookup} {data_block : BlockName}
    {command : BlockCommand} (h : setOnBlockOfFile file data_block field value = .ok command) :
    OnlyField field s.vblock (s.exec command).vblock := by
  unfold setOnBlockOfFile at h
  split at h
  · cases h
  · cases h
  · cases h
    exact onlyField_exec_update nofun

/-- A heartbeat that finds no block makes one. -/
theorem length_heartbeat {data_block : BlockName} {timestamp now : Int}
    (hnone : ¬ FindsItsBlock s (.vfsSetHeartbeatOnDatablock data_block timestamp now))
    (ht : blockStep search s (.vfsSetHeartbeatOnDatablock data_block timestamp now) = some t) :
    t.vblock.length = s.vblock.length + 1 := by
  have hany : s.vblock.any (BlockQuery.finds { equal := data_block.query }) = false := by
    rw [List.any_eq_false]
    intro d hd hfinds
    exact hnone ⟨d, hd, finds_iff.mp hfinds⟩
  simp only [blockStep, BlockCall.command, vfsSetHeartbeatOnDatablock, haUpdate, pointerToBool,
    Option.isSome_some, BlockCollection.exec, hany, Bool.not_false, Bool.and_true, if_true,
    Option.some.injEq] at ht
  subst ht
  unfold BlockCollection.add
  rw [unique_index.insert_of_not_mem]
  · exact List.length_append
  · intro hmem
    -- a document with the same index would have been found
    obtain ⟨d, hd, hindex⟩ := List.mem_map.mp hmem
    obtain ⟨hpath, hrest⟩ := Prod.mk.inj hindex
    obtain ⟨hdomain, -⟩ := Prod.mk.inj hrest
    exact hnone ⟨d, hd, hpath.trans rfl, hdomain.trans rfl⟩

/-- An update keeps the blocks just when it is no heartbeat without its block. -/
theorem keepsBlocks_iff (s : BlockCollection) (call : BlockCall) :
    KeepsBlocks search s call ↔ FindsItsBlock s call := by
  constructor
  · intro hkeep
    cases call with
    | vfsSetHeartbeatOnDatablock data_block timestamp now =>
      by_contra hnone
      have hlength := length_heartbeat search hnone rfl
      have hsame := (hkeep .hb rfl _ rfl).length_eq
      omega
    | _ => exact trivial
  · intro hfinds field hfield t ht
    cases call with
    | vfsAddNewDataBlock file data_block new_block_state now => cases hfield
    | vfsDeleteDataBlock file data_block => cases hfield
    | vfsSetStateOnDataBlock file data_block state =>
      cases hfield
      simp only [blockStep, Option.some.injEq] at ht
      subst ht
      split
      · rename_i command hcommand
        exact onlyField_setOnBlockOfFile hcommand
      · exact OnlyField.refl _ _
    | vfsCompareAndSetState data_block cur_state new_state =>
      cases hfield
      cases ht
      exact onlyField_update _
    | vfsSetHeartbeatOnDatablock data_block timestamp now =>
      cases hfield
      cases ht
      refine onlyField_exec_update fun _ => ?_
      obtain ⟨d, hd, hname⟩ := hfinds
      exact List.any_eq_true.mpr ⟨d, hd, finds_iff.mpr hname⟩
    | vfsUpdateDatablockCurrentWorkPosition file data_block current_work_position =>
      cases hfield
      simp only [blockStep, Option.some.injEq] at ht
      subst ht
      split
      · rename_i command hcommand
        exact onlyField_setOnBlockOfFile hcommand
      · exact OnlyField.refl _ _
    | vfsChangeStateToOutdatedChunck domain data_area timeout_state_in_sec timeout_state new_state
        now =>
      cases hfield
      cases ht
      exact onlyField_exec_update nofun

/-! ## The runs -/

/-- In any order of the calls, every update keeps the blocks just when every heartbeat finds the
block that it is for. -/
theorem updates_keep_blocks_iff (s : BlockCollection) (calls : List BlockCall) :
    RunOk (blockStep search) (KeepsBlocks search) s calls ↔
      RunOk (blockStep search) FindsItsBlock s calls :=
  runOk_congr (fun _ => True) (fun s call _ => keepsBlocks_iff search s call)
    (fun _ _ _ _ _ _ => trivial) trivial

/-- A writer gives its heartbeat after another worker deleted the block. -/
theorem late_heartbeat_makes_a_block :
    ¬ ∀ calls, RunOk (blockStep fun _ _ => false) (KeepsBlocks fun _ _ => false) {} calls := by
  intro hall
  let name : BlockName := ⟨"domain", "stage/a/1"⟩
  obtain ⟨-, hadd⟩ := hall
    [.vfsAddNewDataBlock (.found 0) ⟨name, 10, 20, 100⟩ 1 10, .vfsDeleteDataBlock (.found 0) name,
      .vfsSetHeartbeatOnDatablock name 15 15]
  obtain ⟨-, hdelete⟩ := hadd _ rfl
  obtain ⟨hbeat, -⟩ := hdelete _ rfl
  have hlength := (hbeat .hb rfl _ rfl).length_eq
  revert hlength
  decide

end chaos.data_service.db_system
