-- What a write to a virtual file reports, and what it did. The stream of a block keeps its failure
-- to itself, a file that is not open for writing reports no error, and the index of a pack is added
-- before the pack is written.
import Chaos.StageScanner

namespace chaos.data_service.vfs.reports

open append_store VFSDataWriteableFile

/-! ## The writes -/

inductive VFSFileOpenMode
  | VFSFileOpenModeRead
  | VFSFileOpenModeWrite
  deriving DecidableEq

open VFSFileOpenMode

/-- What a write to the stream of a block comes to: how many of the bytes reach the file, and
whether it throws. -/
structure StreamWrite where
  stored : Nat
  throws : Bool
  deriving DecidableEq

/-- The error that the storage driver makes of it. The state of the stream is not looked at. -/
def StreamWrite.err (o : StreamWrite) : Int := if o.throws then -2 else 0

/-- `PosixStorageDriver::write`. -/
def PosixStorageDriver.write (st : Storage) (b : DataBlock) (data : List UInt8) (o : StreamWrite) :
    Storage × Int :=
  (append st b.vfs_path (data.take o.stored), o.err)

/-- `VFSFile::write`. In another mode the error is the one that the variable starts with. A block
that is not there is asserted, or its path is logged. -/
def VFSFile.write (open_mode : VFSFileOpenMode) (current_data_block : BlockPtr) (st : Storage)
    (data : List UInt8) (o : StreamWrite) : Option (Storage × BlockPtr × Int) :=
  match current_data_block with
  | .live b =>
    if open_mode ≠ VFSFileOpenModeWrite then some (st, .live b, 0)
    else
      let (st, err) := PosixStorageDriver.write st b data o
      if err ≠ 0 then some (st, .live b, err)
      else some (st, .live { b with
        current_work_position := b.current_work_position + UInt64.ofNat data.length }, 0)
  | _ => none

/-- The stage file of a worker. `file` holds what it has of `VFSFile`. -/
structure VFSStageWriteableFile where
  file : VFSDataWriteableFile
  check_validity_counter : UInt32
  deriving DecidableEq

/-- What a write to a stage file gets from outside: the time of the check, the error of the close of
a block that is not valid any more, the new block, and what the stream does. -/
structure StageWriteEnv where
  now : UInt64
  closeErr : Int
  new : NewDataBlock
  stream : StreamWrite
  deriving DecidableEq

namespace VFSStageWriteableFile

def setBlock (f : VFSStageWriteableFile) (p : BlockPtr) : VFSStageWriteableFile :=
  { f with file := { f.file with current_data_block := p } }

/-- The next check of a write. -/
def counted (f : VFSStageWriteableFile) : VFSStageWriteableFile :=
  { f with check_validity_counter := f.check_validity_counter + 1 }

/-- `isDataBlockValid`, after the counter has moved on: the block is looked at every sixteenth time
only. -/
def isDataBlockValid (f : VFSStageWriteableFile) (now : UInt64) : Option Bool :=
  if f.file.current_data_block = .null then some false
  else if f.check_validity_counter % 16 ≠ 0 then some true
  else VFSDataWriteableFile.isDataBlockValid now f.file.current_data_block

/-- `releaseDataBlock` closes the block, which deletes it. A NULL block is released without
error. -/
def releaseDataBlock (p : BlockPtr) (closeErr : Int) : BlockPtr × Int :=
  if p = .null then (.null, 0) else (.released, closeErr)

def write (f : VFSStageWriteableFile) (st : Storage) (data : List UInt8) (env : StageWriteEnv) :
    Option (Storage × BlockPtr × Int) :=
  match f.counted.isDataBlockValid env.now with
  | none => none
  | some true =>
    VFSFile.write VFSFileOpenModeWrite f.file.current_data_block st data env.stream
  | some false =>
    let (p, err) := releaseDataBlock f.file.current_data_block env.closeErr
    if err ≠ 0 then some (st, p, err)
    else
      match f.file.getNewDataBlock st env.new with
      | (st, .error err) => some (st, p, err)
      | (st, .ok b) => VFSFile.write VFSFileOpenModeWrite (.live b) st data env.stream

end VFSStageWriteableFile

/-! ## What a report says -/

/-- The bytes are at the end of the block `b`, which is still the current one, and its position has
grown by their number. -/
structure Done (b : DataBlock) (st st' : Storage) (p : BlockPtr) (data : List UInt8) : Prop where
  current : ∃ b', p = .live b' ∧ b'.vfs_path = b.vfs_path ∧
    b'.current_work_position.toNat = b.current_work_position.toNat + data.length
  appended : content st' b.vfs_path = content st b.vfs_path ++ data

/-- A call returns, and what it reports is what it did. `current` is the block that the file has
when the call comes to the write: after no error the write was done, and after an error the block
is as it was. -/
def Truthful (current : Option DataBlock) (st : Storage) (data : List UInt8)
    (r : Option (Storage × BlockPtr × Int)) : Prop :=
  ∃ st' p err, r = some (st', p, err) ∧
    (err = 0 → ∃ b, current = some b ∧ Done b st st' p data) ∧
    (err ≠ 0 → ∀ b, p = .live b → current = some b)

/-- The storage reports an error, or it takes all the bytes, at a position that can grow by their
number. -/
def Takes (b : DataBlock) (data : List UInt8) (stored : Nat) (err : Int) : Prop :=
  err = 0 → data.length ≤ stored ∧ b.current_work_position.toNat + data.length < 2 ^ 64

instance (b : DataBlock) (data : List UInt8) (stored : Nat) (err : Int) :
    Decidable (Takes b data stored err) :=
  inferInstanceAs (Decidable (_ → _ ∧ _))

/-- The current block after a write with this error. -/
def afterWrite (b : DataBlock) (data : List UInt8) (err : Int) : BlockPtr :=
  if err = 0 then .live { b with
    current_work_position := b.current_work_position + UInt64.ofNat data.length }
  else .live b

variable {b : DataBlock} {st st₁ : Storage} {data : List UInt8} {stored : Nat} {err : Int}
  {p : BlockPtr} {o : StreamWrite} {open_mode : VFSFileOpenMode}

/-- The bytes that the storage took are behind the ones that the file had. -/
theorem done_append_iff (hsame : ∀ k, content st₁ k = content st k) :
    Done b st (append st₁ b.vfs_path (data.take stored)) (afterWrite b data 0) data ↔
      data.length ≤ stored ∧ b.current_work_position.toNat + data.length < 2 ^ 64 := by
  have hadd : (b.current_work_position + UInt64.ofNat data.length).toNat =
      (b.current_work_position.toNat + data.length) % 2 ^ 64 := by
    rw [UInt64.toNat_add, UInt64.toNat_ofNat', Nat.add_mod_mod]
  constructor
  · rintro ⟨⟨b', hb', -, hpos⟩, happended⟩
    rw [content_append_self, hsame, List.append_cancel_left_eq] at happended
    have hlen := congrArg List.length happended
    rw [List.length_take] at hlen
    cases hb'
    rw [hadd] at hpos
    omega
  · rintro ⟨hstored, hbound⟩
    refine ⟨⟨_, rfl, rfl, ?_⟩, ?_⟩
    · rw [hadd]
      exact Nat.mod_eq_of_lt hbound
    · rw [content_append_self, hsame, List.take_of_length_le hstored]

/-- A write that comes to the storage is reported as it was just when the storage takes the bytes
or reports an error. -/
theorem truthful_afterWrite_iff (hsame : ∀ k, content st₁ k = content st k) :
    Truthful (some b) st data
        (some (append st₁ b.vfs_path (data.take stored), afterWrite b data err, err)) ↔
      Takes b data stored err := by
  unfold Truthful Takes
  by_cases herr : err = 0
  · subst herr
    rw [imp_iff_right rfl, ← done_append_iff hsame]
    constructor
    · rintro ⟨st', p, err, hr, hdone, -⟩
      cases hr
      obtain ⟨b', hb', hdone⟩ := hdone rfl
      cases hb'
      exact hdone
    · exact fun hdone => ⟨_, _, _, rfl, fun _ => ⟨b, rfl, hdone⟩, fun hne => absurd rfl hne⟩
  · refine iff_of_true ⟨_, _, _, rfl, fun hzero => absurd hzero herr, fun _ b' hb' => ?_⟩
      fun hzero => absurd hzero herr
    unfold afterWrite at hb'
    rw [if_neg herr] at hb'
    cases hb'
    rfl

/-! ## `VFSFile` -/

/-- The block that a pointer leads to. -/
def blockOf : BlockPtr → Option DataBlock
  | .live b => some b
  | _ => none

theorem file_write_live : VFSFile.write VFSFileOpenModeWrite (.live b) st data o =
    some (append st b.vfs_path (data.take o.stored), afterWrite b data o.err, o.err) := by
  unfold VFSFile.write PosixStorageDriver.write afterWrite
  dsimp only
  rw [if_neg (not_not.mpr rfl)]
  by_cases herr : o.err = 0
  · rw [if_neg (not_not.mpr herr), if_pos herr, herr]
  · rw [if_pos herr, if_neg herr]

/-- A write is reported as it was just when there is a block, and the file is open for writing and
the storage takes the bytes or throws, or it is not and there is nothing to write. -/
theorem truthful_file_iff : Truthful (blockOf p) st data (VFSFile.write open_mode p st data o) ↔
    ∃ b, p = .live b ∧ (open_mode = VFSFileOpenModeRead → data = []) ∧
      (open_mode = VFSFileOpenModeWrite → Takes b data o.stored o.err) := by
  cases p with
  | null | released =>
    refine iff_of_false ?_ ?_
    · rintro ⟨st', p, err, hr, -⟩
      cases hr
    · rintro ⟨b, hb, -⟩
      cases hb
  | live b =>
    simp only [BlockPtr.live.injEq, exists_eq_left', blockOf]
    cases open_mode with
    | VFSFileOpenModeWrite =>
      rw [file_write_live, truthful_afterWrite_iff fun _ => rfl]
      exact ⟨fun h => ⟨nofun, fun _ => h⟩, fun h => h.2 rfl⟩
    | VFSFileOpenModeRead =>
      rw [imp_iff_right rfl, and_iff_left nofun]
      constructor
      · rintro ⟨st', p, err, hr, hdone, -⟩
        cases hr
        obtain ⟨b', -, hdone⟩ := hdone rfl
        exact List.self_eq_append_right.mp hdone.appended
      · rintro rfl
        refine ⟨_, _, _, rfl, fun _ => ⟨b, rfl, ⟨b, rfl, rfl, rfl⟩, ?_⟩, fun hne => absurd rfl hne⟩
        rw [List.append_nil]

/-! ## The data file -/

variable {f : VFSDataWriteableFile} {env : WriteEnv}

/-- The block that a write to a data file goes to: the current one when it is valid, and else the
new one. -/
def checkedBlock (f : VFSDataWriteableFile) (now : UInt64) (new : NewDataBlock) :
    Option DataBlock :=
  match VFSDataWriteableFile.isDataBlockValid now f.current_data_block with
  | none => none
  | some true => blockOf f.current_data_block
  | some false => (f.getNewDataBlock (fun _ => none) new).2.toOption

theorem getNewDataBlock_block (f : VFSDataWriteableFile) (new : NewDataBlock) (st st' : Storage) :
    (f.getNewDataBlock st new).2 = (f.getNewDataBlock st' new).2 := by
  cases new <;> rfl

/-- A new block adds no bytes. -/
theorem content_getNewDataBlock (f : VFSDataWriteableFile) (new : NewDataBlock) (st : Storage)
    (k : String) :
    content (f.getNewDataBlock st new).1 k = content st k := by
  cases new with
  | notOpened => rfl
  | notAdded path | made path now => exact content_openFile

theorem writeToBlock_live (hlive : f.current_data_block = .live b) :
    f.writeToBlock st data env = some (append st b.vfs_path (data.take env.stored),
      { f with current_data_block := afterWrite b data env.err }, env.err) := by
  unfold VFSDataWriteableFile.writeToBlock afterWrite
  rw [hlive]
  dsimp only
  by_cases herr : env.err = 0
  · rw [if_pos herr, if_pos herr, herr]
  · rw [if_neg herr, if_neg herr, ← hlive]

theorem writeToBlock_none (hnone : blockOf f.current_data_block = none) :
    f.writeToBlock st data env = none := by
  unfold VFSDataWriteableFile.writeToBlock
  cases hp : f.current_data_block with
  | live b =>
    rw [hp] at hnone
    cases hnone
  | null | released => rfl

/-- After a switch the file has the new block, or none that is live. -/
theorem switchDataBlock_spec (new : NewDataBlock) (st : Storage)
    (hp : f.current_data_block ≠ .released) :
    ∃ st' f' err, f.switchDataBlock st new = some (st', f', err) ∧
      (∀ k, content st' k = content st k) ∧
      blockOf f'.current_data_block = (f.getNewDataBlock (fun _ => none) new).2.toOption := by
  have hcontent := content_getNewDataBlock f new st
  have hblock := getNewDataBlock_block f new st fun _ => none
  unfold VFSDataWriteableFile.switchDataBlock
  cases hptr : f.current_data_block with
  | released => exact absurd hptr hp
  | null | live b =>
    rw [← hblock]
    cases new with
    | notOpened | notAdded path | made path now => exact ⟨_, _, _, rfl, hcontent, rfl⟩

/-- A write goes to the block that was checked, or it is left undefined. -/
theorem write_none (hnone : checkedBlock f env.now env.new = none) :
    f.write st data env = none := by
  unfold checkedBlock at hnone
  unfold VFSDataWriteableFile.write
  cases hvalid : VFSDataWriteableFile.isDataBlockValid env.now f.current_data_block with
  | none => rfl
  | some valid =>
    rw [hvalid] at hnone
    cases valid with
    | true => exact writeToBlock_none hnone
    | false =>
      have hp : f.current_data_block ≠ .released := by
        intro hp
        rw [hp] at hvalid
        cases hvalid
      obtain ⟨st', f', err, hswitch, -, hblock⟩ := switchDataBlock_spec env.new st hp
      dsimp only
      rw [hswitch]
      exact writeToBlock_none (hblock.trans hnone)

theorem write_some (st : Storage) (data : List UInt8)
    (hblock : checkedBlock f env.now env.new = some b) :
    ∃ st₁ f', (∀ k, content st₁ k = content st k) ∧
      f.write st data env = some (append st₁ b.vfs_path (data.take env.stored), f', env.err) ∧
      f'.current_data_block = afterWrite b data env.err := by
  have hlive : ∀ {p : BlockPtr}, blockOf p = some b → p = .live b := by
    intro p hp
    cases p with
    | live b' =>
      cases hp
      rfl
    | null | released => cases hp
  unfold checkedBlock at hblock
  unfold VFSDataWriteableFile.write
  cases hvalid : VFSDataWriteableFile.isDataBlockValid env.now f.current_data_block with
  | none =>
    rw [hvalid] at hblock
    cases hblock
  | some valid =>
    rw [hvalid] at hblock
    cases valid with
    | true => exact ⟨st, _, fun _ => rfl, writeToBlock_live (hlive hblock), rfl⟩
    | false =>
      have hp : f.current_data_block ≠ .released := by
        intro hp
        rw [hp] at hvalid
        cases hvalid
      obtain ⟨st₁, f', err, hswitch, hcontent, hnew⟩ := switchDataBlock_spec env.new st hp
      dsimp only
      rw [hswitch]
      exact ⟨st₁, _, hcontent, writeToBlock_live (hlive (hnew.trans hblock)), rfl⟩

/-- The result of a write, with the current block that the file then has. -/
def reported (r : Option (Storage × VFSDataWriteableFile × Int)) :
    Option (Storage × BlockPtr × Int) :=
  r.map fun r => (r.1, r.2.1.current_data_block, r.2.2)

/-- A write to a data file is reported as it was just when there is a block for it and the storage
takes the bytes or reports an error. -/
theorem truthful_data_iff :
    Truthful (checkedBlock f env.now env.new) st data (reported (f.write st data env)) ↔
      ∃ b, checkedBlock f env.now env.new = some b ∧ Takes b data env.stored env.err := by
  cases hblock : checkedBlock f env.now env.new with
  | none =>
    rw [write_none hblock]
    refine iff_of_false ?_ ?_
    · rintro ⟨st', p, err, hr, -⟩
      cases hr
    · rintro ⟨b, hb, -⟩
      cases hb
  | some b =>
    obtain ⟨st₁, f', hcontent, hwrite, hafter⟩ := write_some st data hblock
    rw [hwrite, reported, Option.map_some, hafter, truthful_afterWrite_iff hcontent]
    simp only [Option.some.injEq, exists_eq_left']

/-! ## The stage file -/

namespace VFSStageWriteableFile

variable {g : VFSStageWriteableFile} {e : StageWriteEnv}

/-- What a write to a stage file comes to before its bytes: it is left undefined, an error is
reported, or it goes to a block. -/
def checkedBlock (g : VFSStageWriteableFile) (e : StageWriteEnv) : Option (Except Int DataBlock) :=
  match g.counted.isDataBlockValid e.now with
  | none => none
  | some true => (blockOf g.file.current_data_block).map .ok
  | some false =>
    if (releaseDataBlock g.file.current_data_block e.closeErr).2 ≠ 0 then
      some (.error (releaseDataBlock g.file.current_data_block e.closeErr).2)
    else some (g.file.getNewDataBlock (fun _ => none) e.new).2

/-- The block that the write goes to, if it goes to one. -/
def target (g : VFSStageWriteableFile) (e : StageWriteEnv) : Option DataBlock :=
  (g.checkedBlock e).bind Except.toOption

theorem releaseDataBlock_not_live {p : BlockPtr} {closeErr : Int} :
    ∀ b, (releaseDataBlock p closeErr).1 ≠ .live b := by
  intro b
  unfold releaseDataBlock
  split_ifs <;> nofun

/-- A write to a stage file is reported as it was just when it ends with an error before it comes to
a block, or it comes to a block and the storage takes the bytes or throws. -/
theorem truthful_stage_iff : Truthful (g.target e) st data (g.write st data e) ↔
    ∃ r, g.checkedBlock e = some r ∧
      ∀ b, r = .ok b → Takes b data e.stream.stored e.stream.err := by
  have hfile : ∀ {st₁ : Storage} {b}, (∀ k, content st₁ k = content st k) →
      (Truthful (some b) st data (VFSFile.write VFSFileOpenModeWrite (.live b) st₁ data e.stream) ↔
        Takes b data e.stream.stored e.stream.err) := by
    intro st₁ b hsame
    rw [file_write_live, truthful_afterWrite_iff hsame]
  unfold target checkedBlock VFSStageWriteableFile.write
  cases hvalid : g.counted.isDataBlockValid e.now with
  | none =>
    refine iff_of_false ?_ ?_
    · rintro ⟨st', p, err, hr, -⟩
      cases hr
    · rintro ⟨r, hr, -⟩
      cases hr
  | some valid =>
    cases valid with
    | true =>
      dsimp only
      cases g.file.current_data_block with
      | null | released =>
        refine iff_of_false ?_ ?_
        · rintro ⟨st', p, err, hr, -⟩
          cases hr
        · rintro ⟨r, hr, -⟩
          cases hr
      | live b =>
        simp only [blockOf, Option.map_some, Option.bind_some, Option.some.injEq, exists_eq_left',
          Except.ok.injEq, forall_eq', Except.toOption]
        exact hfile fun _ => rfl
    | false =>
      dsimp only
      by_cases hclose : (releaseDataBlock g.file.current_data_block e.closeErr).2 = 0
      · rw [if_neg (not_not.mpr hclose), if_neg (not_not.mpr hclose)]
        have hcontent := content_getNewDataBlock g.file e.new st
        cases hnew : e.new with
        | notOpened | notAdded path =>
          refine iff_of_true ⟨_, _, _, rfl, nofun, fun _ b hb => ?_⟩ ⟨_, rfl, nofun⟩
          exact absurd hb (releaseDataBlock_not_live b)
        | made path now =>
          rw [hnew] at hcontent
          refine (hfile hcontent).trans ⟨fun h => ⟨_, rfl, fun b hb => ?_⟩, ?_⟩
          · cases hb
            exact h
          · rintro ⟨r, hr, h⟩
            cases hr
            exact h _ rfl
      · rw [if_pos hclose, if_pos hclose]
        refine iff_of_true ⟨_, _, _, rfl, fun hzero => absurd hzero hclose, fun _ b hb => ?_⟩
          ⟨_, rfl, nofun⟩
        exact absurd hb (releaseDataBlock_not_live b)

end VFSStageWriteableFile

end chaos.data_service.vfs.reports

namespace chaos.data_service.indexer

open append_store vfs vfs.reports VFSDataWriteableFile

/-! ## The index of a pack -/

variable {s t : StageDataVFileScanner} {pack : DataPack} {env : PackEnv}
  {f : VFSDataWriteableFile}

/-- The database takes the index of the pack. -/
def IndexTaken (s : StageDataVFileScanner) (pack : DataPack) (env : PackEnv) : Prop :=
  env.hasFields = true ∧ env.gdf = 0 ∧ env.gloc = 0 ∧ env.idx = 0 ∧
    ∃ u f b, s.getWriteableFileForDID pack.did env = some (u, f) ∧ f.current_data_block = .live b

/-- The file of the device, and the block that the write of the pack goes to. -/
def PackGoesTo (s : StageDataVFileScanner) (pack : DataPack) (env : PackEnv) (b : DataBlock) :
    Prop :=
  ∃ u f, s.getWriteableFileForDID pack.did env = some (u, f) ∧
    checkedBlock f env.write.now env.write.new = some b

/-- The write of the pack was done. -/
def PackDone (s t : StageDataVFileScanner) (pack : DataPack) (env : PackEnv) : Prop :=
  ∃ b f, PackGoesTo s pack env b ∧ t.map_did_data_file pack.did = some f ∧
    Done b s.storage t.storage f.current_data_block pack.data

/-- A call leaves an index in the database only where the write of the pack was done. A call that is
left undefined has not come to the index. -/
def IndexOnlyOfDone (s : StageDataVFileScanner) (pack : DataPack) (env : PackEnv) : Prop :=
  match s.processDataPack pack env with
  | none => ¬ IndexTaken s pack env
  | some (t, _) => t.indexes = s.indexes ∨ PackDone s t pack env

/-- Where the database takes the index, the journal takes its entry and the storage the pack. -/
def IndexedPackTaken (s : StageDataVFileScanner) (pack : DataPack) (env : PackEnv) : Prop :=
  IndexTaken s pack env → env.widx = 0 ∧ env.write.err = 0 ∧
    ∃ b, PackGoesTo s pack env b ∧ Takes b pack.data env.write.stored env.write.err

theorem getWriteableFileForDID_spec {u : StageDataVFileScanner}
    (h : s.getWriteableFileForDID pack.did env = some (u, f)) :
    u.indexes = s.indexes ∧ u.map_did_data_file pack.did = some f ∧
      ∀ k, content u.storage k = content s.storage k := by
  unfold StageDataVFileScanner.getWriteableFileForDID at h
  obtain ⟨g, -, h⟩ := Option.bind_eq_some_iff.mp h
  obtain ⟨⟨st, g', err⟩, hprefetch, hr⟩ := Option.map_eq_some_iff.mp h
  cases hr
  refine ⟨rfl, Function.update_self .., ?_⟩
  change ∀ k, content st k = content s.storage k
  unfold VFSDataWriteableFile.prefetchData at hprefetch
  split_ifs at hprefetch with hnull
  · have hp : g.current_data_block ≠ .released := by simp [hnull]
    obtain ⟨st', g'', err', hswitch, hcontent, -⟩ := switchDataBlock_spec env.prefetch s.storage hp
    rw [hswitch] at hprefetch
    cases hprefetch
    exact hcontent
  · cases hprefetch
    exact fun _ => rfl

theorem indexes_writePack {r : StageDataVFileScanner × Int}
    (h : s.writePack f pack env = some r) : r.1.indexes = s.indexes := by
  unfold StageDataVFileScanner.writePack at h
  by_cases hwidx : env.widx ≠ 0
  · rw [if_pos hwidx] at h
    cases h
    rfl
  · rw [if_neg hwidx] at h
    obtain ⟨⟨st, f', err⟩, -, hr⟩ := Option.map_eq_some_iff.mp h
    dsimp only at hr
    split_ifs at hr <;> cases hr <;> rfl

/-- The write of a pack for which there is a block. -/
theorem writePack_spec (s : StageDataVFileScanner) (pack : DataPack) {b : DataBlock}
    (hwidx : env.widx = 0)
    (hblock : checkedBlock f env.write.now env.write.new = some b) :
    ∃ t err st₁ f', s.writePack f pack env = some (t, err) ∧
      t.map_did_data_file pack.did = some f' ∧
      f'.current_data_block = afterWrite b pack.data env.write.err ∧
      t.storage = append st₁ b.vfs_path (pack.data.take env.write.stored) ∧
      ∀ k, content st₁ k = content s.storage k := by
  obtain ⟨st₁, f', hcontent, hwrite, hafter⟩ :=
    write_some s.storage pack.data hblock
  unfold StageDataVFileScanner.writePack
  rw [if_neg (not_not.mpr hwidx), hwrite, Option.map_some]
  dsimp only
  split_ifs <;> exact ⟨_, _, st₁, f', rfl, Function.update_self .., hafter, rfl, hcontent⟩

/-- Where the index is taken, the pack is written after it. -/
theorem IndexTaken.processDataPack (h : IndexTaken s pack env) :
    ∃ u f b, s.getWriteableFileForDID pack.did env = some (u, f) ∧
      s.processDataPack pack env = (u.addIndex pack b).writePack f pack env := by
  obtain ⟨hfields, hgdf, hgloc, hidx, u, f, b, hget, hlive⟩ := h
  refine ⟨u, f, b, hget, ?_⟩
  unfold StageDataVFileScanner.processDataPack
  rw [if_neg (by simp [hfields]), hget, Option.bind_some]
  dsimp only
  rw [if_neg (not_not.mpr hgdf), hlive]
  dsimp only
  rw [if_neg (not_not.mpr hgloc), if_neg fun herr => herr.1 hidx, if_pos hidx]

/-- Where the index is not taken, the indexes stay as they are. -/
theorem indexes_of_not_taken (hnot : ¬ IndexTaken s pack env) {r : StageDataVFileScanner × Int}
    (h : s.processDataPack pack env = some r) : r.1.indexes = s.indexes := by
  unfold StageDataVFileScanner.processDataPack at h
  split at h
  · cases h
    rfl
  · rename_i hfields
    obtain ⟨⟨u, f⟩, hget, h⟩ := Option.bind_eq_some_iff.mp h
    have hsame := (getWriteableFileForDID_spec hget).1
    dsimp only at h
    split at h
    · cases h
      exact hsame
    · rename_i hgdf
      split at h
      · cases h
      · cases h
        exact hsame
      · rename_i b hlive
        split_ifs at h with hgloc hidx hzero
        · cases h
          exact hsame
        · cases h
          exact hsame
        · refine absurd ⟨?_, not_not.mp hgdf, not_not.mp hgloc, hzero, u, f, b, hget, hlive⟩ hnot
          simpa using hfields
        · exact (indexes_writePack h).trans hsame

/-- An index is added. -/
theorem indexes_addIndex_ne {b : DataBlock} (hsame : t.indexes = s.indexes) :
    (t.addIndex pack b).indexes ≠ s.indexes := by
  intro h
  have hlen := congrArg List.length h
  unfold StageDataVFileScanner.addIndex at hlen
  rw [List.length_append, hsame] at hlen
  exact absurd hlen (Nat.succ_ne_self _)

/-- A pack of a BSON object has bytes, so that a write that was done moves the position. -/
theorem done_afterWrite_iff (b : DataBlock) (stored : Nat) (err : Int) {st st₁ : Storage}
    {data : List UInt8} (hdata : data ≠ []) (hsame : ∀ k, content st₁ k = content st k) :
    Done b st (append st₁ b.vfs_path (data.take stored)) (afterWrite b data err) data ↔
      err = 0 ∧ Takes b data stored err := by
  unfold Takes
  by_cases herr : err = 0
  · subst herr
    rw [imp_iff_right rfl, and_iff_right rfl]
    exact done_append_iff hsame
  · refine iff_of_false ?_ fun h => herr h.1
    rintro ⟨⟨b', hb', -, hpos⟩, -⟩
    unfold afterWrite at hb'
    rw [if_neg herr] at hb'
    cases hb'
    have := List.length_pos_iff.mpr hdata
    omega

/-- The index of a pack is left only where the write of the pack was done, just when the journal
takes the entry after the index and the storage takes the pack. -/
theorem indexOnlyOfDone_iff (hdata : pack.data ≠ []) :
    IndexOnlyOfDone s pack env ↔ IndexedPackTaken s pack env := by
  unfold IndexOnlyOfDone IndexedPackTaken
  by_cases htaken : IndexTaken s pack env
  · rw [imp_iff_right htaken]
    obtain ⟨u, f, b₀, hget, hprocess⟩ := htaken.processDataPack
    obtain ⟨hindexes, hmap, hcontent⟩ := getWriteableFileForDID_spec hget
    have hgoes : ∀ b, PackGoesTo s pack env b ↔
        checkedBlock f env.write.now env.write.new = some b := by
      intro b
      unfold PackGoesTo
      rw [hget]
      simp
    have hadded : (u.addIndex pack b₀).indexes ≠ s.indexes := indexes_addIndex_ne hindexes
    rw [hprocess]
    by_cases hwidx : env.widx = 0
    · rw [and_iff_right hwidx]
      cases hblock : checkedBlock f env.write.now env.write.new with
      | none =>
        -- the write is left undefined
        have hnone : (u.addIndex pack b₀).writePack f pack env = none := by
          unfold StageDataVFileScanner.writePack
          rw [if_neg (not_not.mpr hwidx), write_none hblock]
          rfl
        rw [hnone]
        refine iff_of_false (not_not.mpr htaken) ?_
        rintro ⟨-, b, hb, -⟩
        rw [hgoes, hblock] at hb
        cases hb
      | some b =>
        obtain ⟨t, err, st₁, f', hwrite, hfile, hafter, hstorage, hsame⟩ :=
          writePack_spec (u.addIndex pack b₀) pack hwidx hblock
        rw [hwrite]
        dsimp only
        rw [or_iff_right ((indexes_writePack hwrite).trans_ne hadded)]
        have hdone := done_afterWrite_iff b env.write.stored env.write.err hdata
          fun k => (hsame k).trans (hcontent k)
        rw [← hafter, ← hstorage] at hdone
        constructor
        · rintro ⟨b', g, hb', hg, hpack⟩
          rw [hgoes, hblock] at hb'
          cases hb'
          rw [hfile] at hg
          cases hg
          obtain ⟨herr, htakes⟩ := hdone.mp hpack
          exact ⟨herr, b, (hgoes b).mpr hblock, htakes⟩
        · rintro ⟨herr, b', hb', htakes⟩
          rw [hgoes, hblock] at hb'
          cases hb'
          exact ⟨b, f', (hgoes b).mpr hblock, hfile, hdone.mpr ⟨herr, htakes⟩⟩
    · -- the call ends behind the index
      have hends : (u.addIndex pack b₀).writePack f pack env =
          some (u.addIndex pack b₀, env.widx) := by
        unfold StageDataVFileScanner.writePack
        rw [if_pos hwidx]
      rw [hends]
      dsimp only
      refine iff_of_false ?_ fun h => hwidx h.1
      rintro (hsame | ⟨b, g, -, -, hpack⟩)
      · exact hadded hsame
      · have happended := hpack.appended
        change content u.storage b.vfs_path = _ at happended
        rw [hcontent] at happended
        exact hdata (List.self_eq_append_right.mp happended)
  · refine iff_of_true ?_ fun h => absurd h htaken
    cases hprocess : s.processDataPack pack env with
    | none => exact htaken
    | some r => exact .inl (indexes_of_not_taken htaken hprocess)

/-! ## All writes -/

open VFSFileOpenMode

/-- When what the writes report is what they did, and an index is left for a pack that was written
only. -/
theorem reported_writes_are_done_iff (st : Storage) (data : List UInt8) :
    (∀ open_mode p o,
      Truthful (blockOf p) st data (VFSFile.write open_mode p st data o) ↔
        ∃ b, p = .live b ∧ (open_mode = VFSFileOpenModeRead → data = []) ∧
          (open_mode = VFSFileOpenModeWrite → Takes b data o.stored o.err)) ∧
    (∀ (f : VFSDataWriteableFile) (env : WriteEnv),
      Truthful (checkedBlock f env.now env.new) st data (reported (f.write st data env)) ↔
        ∃ b, checkedBlock f env.now env.new = some b ∧ Takes b data env.stored env.err) ∧
    (∀ (g : reports.VFSStageWriteableFile) e,
      Truthful (g.target e) st data (g.write st data e) ↔
        ∃ r, g.checkedBlock e = some r ∧
          ∀ b, r = .ok b → Takes b data e.stream.stored e.stream.err) ∧
    ∀ (s : StageDataVFileScanner) (pack : DataPack) (env : PackEnv), pack.data ≠ [] →
      (IndexOnlyOfDone s pack env ↔ IndexedPackTaken s pack env) :=
  ⟨fun _ _ _ => truthful_file_iff, fun _ _ => truthful_data_iff,
    fun _ _ => VFSStageWriteableFile.truthful_stage_iff, fun _ _ _ => indexOnlyOfDone_iff⟩

/-- A pack of the least size of a BSON object. -/
def leastPack : DataPack := ⟨"bpm", 0, 10, [5, 0, 0, 0, 0], by decide⟩

/-- Nothing goes wrong around the write of a pack, of which `stored` bytes reach the file. -/
def writtenPack (stored : Nat) : PackEnv where
  cur_ts := 10
  hasFields := true
  fileMade := true
  prefetch := .made "data/bpm/1" 10
  gdf := 0
  gloc := 0
  idx := 0
  widx := 0
  write := ⟨11, .notOpened, stored, 0⟩
  wpack := 0
  hb := 0

theorem index_of_written_pack :
    IndexOnlyOfDone (.create 100 100) leastPack (writtenPack 5) :=
  ((reported_writes_are_done_iff (fun _ => none) []).2.2.2 (.create 100 100) leastPack
    (writtenPack 5) (by decide)).mpr
    fun _ => ⟨rfl, rfl, _, ⟨_, _, rfl, rfl⟩, by decide⟩

/-- A stream that has failed takes no bytes and throws nothing: the write is reported as done, and
the index of a pack is left without the pack. -/
theorem failed_stream_is_not_reported :
    (¬ ∀ b st data o,
      Truthful (some b) st data (VFSFile.write VFSFileOpenModeWrite (.live b) st data o)) ∧
    ¬ ∀ (s : StageDataVFileScanner) (pack : DataPack) (env : PackEnv), pack.data ≠ [] →
      IndexOnlyOfDone s pack env := by
  constructor
  · intro h
    obtain ⟨b, -, -, htakes⟩ := truthful_file_iff.mp
      (h ⟨"data/bpm/1", 100, 100, 0⟩ (fun _ => none) [1] ⟨0, false⟩)
    exact absurd (htakes rfl rfl).1 (by decide)
  · intro h
    have htaken := indexOnlyOfDone_iff (by decide)
      |>.mp (h (.create 100 100) leastPack (writtenPack 0) (by decide))
    obtain ⟨-, -, b, -, htakes⟩ := htaken ⟨rfl, rfl, rfl, rfl, _, _, _, rfl, rfl⟩
    exact absurd (htakes rfl).1 (by decide)

end chaos.data_service.indexer
