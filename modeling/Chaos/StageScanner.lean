-- The scanner that moves the packs of a stage file to the data file of their device. It adds
-- the index of a pack to the database before it writes the pack.
import Chaos.DataFile
import Chaos.Runs

namespace chaos.data_service.indexer

open append_store vfs VFSDataWriteableFile

/-! ## The state -/

/-- A data pack with the fields that the scanner reads from it. `data` is the serialised
object, whose size is an `int`. -/
structure DataPack where
  did : String
  ds_type : UInt32
  acquisition_ts : UInt64
  data : List UInt8
  size_lt : data.length < 2 ^ 31

/-- An index that the database took. `pack` is the data of the pack that it was added for. -/
structure DataPackIndex where
  did : String
  ds_type : UInt32
  acquisition_ts : UInt64
  block_vfs_path : String
  offset : UInt64
  datapack_size : UInt32
  pack : List UInt8
  deriving DecidableEq

structure StageDataVFileScanner where
  storage : Storage
  map_did_data_file : String → Option VFSDataWriteableFile
  last_hb_on_vfile : UInt64
  max_block_size : UInt32
  max_block_lifetime : UInt32
  indexes : List DataPackIndex

/-- What `processDataPack` gets from outside: the time, whether the pack has the fields that
the index needs, whether a new data file is made, what the first data block of a file becomes,
the errors of the journal and of the database, and the outcome of the write. -/
structure PackEnv where
  cur_ts : UInt64
  hasFields : Bool
  fileMade : Bool
  prefetch : NewDataBlock
  gdf : Int
  gloc : Int
  idx : Int
  widx : Int
  write : WriteEnv
  wpack : Int
  hb : Int
  deriving DecidableEq

namespace StageDataVFileScanner

/-! ## The operations -/

def setFile (s : StageDataVFileScanner) (did : String) (st : Storage) (f : VFSDataWriteableFile) :
    StageDataVFileScanner :=
  { s with storage := st, map_did_data_file := Function.update s.map_did_data_file did (some f) }

/-- The file of a device, or a new one. A file that was not made is a NULL pointer. -/
def fileFor (s : StageDataVFileScanner) (did : String) (env : PackEnv) :
    Option VFSDataWriteableFile :=
  match s.map_did_data_file did with
  | some f => some f
  | none => if env.fileMade then some ⟨s.max_block_size, s.max_block_lifetime, .null⟩ else none

/-- `getWriteableFileForDID`, which goes through the pointer to the file to fetch its first
data block. -/
def getWriteableFileForDID (s : StageDataVFileScanner) (did : String) (env : PackEnv) :
    Option (StageDataVFileScanner × VFSDataWriteableFile) :=
  (s.fileFor did env).bind fun f =>
    (f.prefetchData s.storage env.prefetch).map fun (st, f, _) => (s.setFile did st f, f)

/-- The index of a pack that the database takes, for the location at the end of block `b`. -/
def addIndex (s : StageDataVFileScanner) (pack : DataPack) (b : DataBlock) :
    StageDataVFileScanner :=
  { s with indexes := s.indexes ++
      [{ did := pack.did
         ds_type := pack.ds_type
         acquisition_ts := pack.acquisition_ts
         block_vfs_path := b.vfs_path
         offset := b.current_work_position
         datapack_size := UInt32.ofNat pack.data.length
         pack := pack.data }] }

/-- The write of the pack, with the journal entries around it, and the heartbeat. -/
def writePack (s : StageDataVFileScanner) (f : VFSDataWriteableFile) (pack : DataPack)
    (env : PackEnv) : Option (StageDataVFileScanner × Int) :=
  if env.widx ≠ 0 then some (s, env.widx)
  else
    (f.write s.storage pack.data env.write).map fun (st, f, _) =>
      let s := s.setFile pack.did st f
      if env.wpack ≠ 0 then (s, env.wpack)
      else if s.last_hb_on_vfile + 2000 < env.cur_ts then
        ({ s with last_hb_on_vfile := env.cur_ts }, env.hb)
      else (s, 0)

/-- `processDataPack`. The error 11000 says that the index is already in the database. -/
def processDataPack (s : StageDataVFileScanner) (pack : DataPack) (env : PackEnv) :
    Option (StageDataVFileScanner × Int) :=
  if !env.hasFields then some (s, 0)
  else
    (s.getWriteableFileForDID pack.did env).bind fun (s, f) =>
      if env.gdf ≠ 0 then some (s, env.gdf)
      else
        match f.current_data_block with
        | .released => none
        | .null => some (s, -2)
        | .live b =>
          if env.gloc ≠ 0 then some (s, env.gloc)
          else if env.idx ≠ 0 ∧ env.idx ≠ 11000 then some (s, env.idx)
          else (if env.idx = 0 then s.addIndex pack b else s).writePack f pack env

/-- The maintenance of one data file, at the end of a scan. -/
def mantain (s : StageDataVFileScanner) (did : String) (now : UInt64) (closeErr : Int) :
    Option StageDataVFileScanner :=
  match s.map_did_data_file did with
  | none => some s
  | some f => (f.mantain now closeErr).map (s.setFile did s.storage)

/-- `closeAllDatafile`, at the end of a scan with an error. -/
def closeAllDatafile (s : StageDataVFileScanner) : StageDataVFileScanner :=
  { s with map_did_data_file := fun _ => none }

def create (max_block_size max_block_lifetime : UInt32) : StageDataVFileScanner where
  storage := fun _ => none
  map_did_data_file := fun _ => none
  last_hb_on_vfile := 0
  max_block_size := max_block_size
  max_block_lifetime := max_block_lifetime
  indexes := []

end StageDataVFileScanner

inductive ScannerCall
  | processDataPack (pack : DataPack) (env : PackEnv)
  | mantain (did : String) (now : UInt64) (closeErr : Int)
  | closeAllDatafile

def scannerStep (s : StageDataVFileScanner) : ScannerCall → Option StageDataVFileScanner
  | .processDataPack pack env => (s.processDataPack pack env).map Prod.fst
  | .mantain did now closeErr => s.mantain did now closeErr
  | .closeAllDatafile => some s.closeAllDatafile

/-! ## The invariant -/

/-- The index names the bytes of its pack. -/
def IndexReads (st : Storage) (i : DataPackIndex) : Prop :=
  slice st i.block_vfs_path i.offset.toNat i.datapack_size.toNat = i.pack

instance IndexReads.decidable (st : Storage) (i : DataPackIndex) : Decidable (IndexReads st i) :=
  inferInstanceAs (Decidable (_ = _))

/-- The blocks of the files are in sync, no two files share a block, and every index names the
bytes of its pack. -/
structure ScannerGood (s : StageDataVFileScanner) : Prop where
  synced : ∀ did f b, s.map_did_data_file did = some f → f.current_data_block = .live b →
    Synced s.storage b
  apart : ∀ did did' f f' b b', did ≠ did' → s.map_did_data_file did = some f →
    s.map_did_data_file did' = some f' → f.current_data_block = .live b →
    f'.current_data_block = .live b' → b.vfs_path ≠ b'.vfs_path
  sized : ∀ i ∈ s.indexes, i.pack.length = i.datapack_size.toNat
  reads : ∀ i ∈ s.indexes, IndexReads s.storage i

variable {s t : StageDataVFileScanner} {did : String} {f f' : VFSDataWriteableFile}
  {st' : Storage}

theorem indexReads_of_grows {st st' : Storage} {i : DataPackIndex} (hg : Grows st st')
    (hsize : i.pack.length = i.datapack_size.toNat) (h : IndexReads st i) : IndexReads st' i := by
  unfold IndexReads at h ⊢
  rw [slice_of_grows hg (by rw [h, hsize]), h]

/-- An operation on the file of one device keeps the invariant. -/
theorem ScannerGood.setFile (h : ScannerGood s) (hm : Moves s.storage f st' f')
    (hf : s.map_did_data_file did = some f ∨ f.current_data_block = .null) :
    ScannerGood (s.setFile did st' f') := by
  have hnew : ∀ d g b b', d ≠ did → s.map_did_data_file d = some g →
      g.current_data_block = .live b → f'.current_data_block = .live b' →
      b.vfs_path ≠ b'.vfs_path := by
    intro d g b b' hd hg hb hb' heq
    rcases hm.path b' hb' with ⟨b₀, hb₀, hpath⟩ | hnone
    · rcases hf with hf | hnull
      · exact h.apart d did g f b b₀ hd hg hf hb hb₀ (heq.trans hpath.symm)
      · rw [hnull] at hb₀
        cases hb₀
    · have hopened := (h.synced d g b hg hb).opened
      rw [heq, hnone] at hopened
      cases hopened
  refine ⟨?_, ?_, h.sized,
    fun i hi => indexReads_of_grows hm.grows (h.sized i hi) (h.reads i hi)⟩
  · intro d g b hg hb
    by_cases hd : d = did
    · subst hd
      simp only [StageDataVFileScanner.setFile, Function.update_self, Option.some.injEq] at hg
      subst hg
      exact hm.synced b hb
    · simp only [StageDataVFileScanner.setFile, Function.update_of_ne hd] at hg ⊢
      have hs := h.synced d g b hg hb
      have hcontent : content st' b.vfs_path = content s.storage b.vfs_path := by
        refine hm.others _ hs.opened ?_
        intro b₀ hb₀
        rcases hf with hf | hnull
        · exact h.apart d did g f b b₀ hd hg hf hb hb₀
        · rw [hnull] at hb₀
          cases hb₀
      exact ⟨hm.exist _ hs.opened, by rw [hcontent, hs.position], hs.bound⟩
  · intro d d' g g' b b' hne hg hg' hb hb'
    simp only [StageDataVFileScanner.setFile, Function.update_apply] at hg hg'
    split at hg <;> split at hg'
    · rename_i hd hd'
      exact absurd (hd.trans hd'.symm) hne
    · rename_i hd'
      cases hg
      exact (hnew d' g' b' b hd' hg' hb' hb).symm
    · rename_i hd _
      cases hg'
      exact hnew d g b b' hd hg hb hb'
    · exact h.apart d d' g g' b b' hne hg hg' hb hb'

/-- An index whose bytes are there is added. -/
theorem ScannerGood.addIndex (h : ScannerGood s) {pack : DataPack} {b : DataBlock}
    (hread : slice s.storage b.vfs_path b.current_work_position.toNat pack.data.length =
      pack.data) : ScannerGood (s.addIndex pack b) := by
  have hsize : (UInt32.ofNat pack.data.length).toNat = pack.data.length := by
    have := pack.size_lt
    simp only [UInt32.toNat_ofNat']
    omega
  refine ⟨h.synced, h.apart, ?_, ?_⟩
  · intro i hi
    rcases List.mem_append.mp hi with hi | hi
    · exact h.sized i hi
    · rw [List.mem_singleton.mp hi]
      exact hsize.symm
  · intro i hi
    rcases List.mem_append.mp hi with hi | hi
    · exact h.reads i hi
    · rw [List.mem_singleton.mp hi]
      unfold IndexReads
      simp only [hsize]
      exact hread

/-! ## One pack -/

/-- The index of the pack is not added, or the pack lands where the index says: the journal
takes its entry, the block is still valid when the pack is written, and the storage takes the
pack. -/
def LandsIn (env : PackEnv) (b : DataBlock) : Prop :=
  env.gdf = 0 → env.gloc = 0 → env.idx = 0 →
    env.widx = 0 ∧ env.write.err = 0 ∧ isDataBlockValid env.write.now (.live b) = some true

instance LandsIn.decidable (env : PackEnv) (b : DataBlock) : Decidable (LandsIn env b) :=
  inferInstanceAs (Decidable (_ → _ → _ → _ ∧ _))

/-- The blocks that a call makes have new paths, the storage does what it reports, and each
pack whose index is added lands where the index says. -/
def Lands (s : StageDataVFileScanner) : ScannerCall → Prop
  | .processDataPack pack env =>
    env.hasFields = true → FreshPath s.storage env.prefetch ∧ env.write.Faithful pack.data ∧
      ∀ r ∈ s.getWriteableFileForDID pack.did env,
        FreshPath r.1.storage env.write.new ∧
          match r.2.current_data_block with
          | .live b => LandsIn env b
          | _ => True
  | _ => True

instance Lands.decidable (s : StageDataVFileScanner) : ∀ a, Decidable (Lands s a)
  | .processDataPack pack env =>
    have : ∀ p : BlockPtr, Decidable (match p with | .live b => LandsIn env b | _ => True)
      | .live b => LandsIn.decidable env b
      | .null | .released => isTrue trivial
    inferInstanceAs (Decidable (_ → _ ∧ _ ∧ ∀ r ∈ s.getWriteableFileForDID pack.did env, _))
  | .mantain _ _ _ | .closeAllDatafile => isTrue trivial

theorem fileFor_cases {env : PackEnv} (h : s.fileFor did env = some f) :
    s.map_did_data_file did = some f ∨ f.current_data_block = .null := by
  unfold StageDataVFileScanner.fileFor at h
  split at h
  · rename_i g hg
    cases h
    exact Or.inl hg
  · split at h
    · cases h
      exact Or.inr rfl
    · cases h

theorem fileFor_synced (h : ScannerGood s) {env : PackEnv} (hf : s.fileFor did env = some f) :
    ∀ b, f.current_data_block = .live b → Synced s.storage b := by
  intro b hb
  rcases fileFor_cases hf with hmap | hnull
  · exact h.synced did f b hmap hb
  · rw [hnull] at hb
    cases hb

/-- The file of a device is in the map after it was got, and the invariant is kept. -/
theorem ScannerGood.getWriteableFileForDID (h : ScannerGood s) {env : PackEnv}
    (hfresh : FreshPath s.storage env.prefetch)
    (hget : s.getWriteableFileForDID did env = some (t, f)) :
    ScannerGood t ∧ t.map_did_data_file did = some f := by
  unfold StageDataVFileScanner.getWriteableFileForDID at hget
  obtain ⟨f₀, hf₀, hget⟩ := Option.bind_eq_some_iff.mp hget
  obtain ⟨⟨st₁, f₁, err⟩, hprefetch, hres⟩ := Option.map_eq_some_iff.mp hget
  cases hres
  have hm := moves_prefetchData hfresh (fileFor_synced h hf₀) hprefetch
  refine ⟨h.setFile hm (fileFor_cases hf₀), ?_⟩
  simp [StageDataVFileScanner.setFile]

/-- The write of a pack whose index was not added. -/
theorem ScannerGood.writePack (h : ScannerGood s) {pack : DataPack} {env : PackEnv} {err : Int}
    (hmap : s.map_did_data_file pack.did = some f) (hfaithful : env.write.Faithful pack.data)
    (hfresh : FreshPath s.storage env.write.new)
    (hwrite : s.writePack f pack env = some (t, err)) : ScannerGood t := by
  unfold StageDataVFileScanner.writePack at hwrite
  split at hwrite
  · cases hwrite
    exact h
  · obtain ⟨⟨st₁, f₁, err₁⟩, hw, hres⟩ := Option.map_eq_some_iff.mp hwrite
    have hm := moves_write pack.size_lt hfaithful hfresh
      (fun b hb => h.synced pack.did f b hmap hb) hw
    have hgood : ScannerGood (s.setFile pack.did st₁ f₁) := h.setFile hm (Or.inl hmap)
    simp only at hres
    split at hres
    · cases hres
      exact hgood
    · split at hres
      · cases hres
        exact ⟨hgood.synced, hgood.apart, hgood.sized, hgood.reads⟩
      · cases hres
        exact hgood

/-- The write of a pack whose index was added, to a block that is still valid. -/
theorem ScannerGood.writeIndexed (h : ScannerGood s) {pack : DataPack} {env : PackEnv} {err : Int}
    {b : DataBlock} (hmap : s.map_did_data_file pack.did = some f)
    (hb : f.current_data_block = .live b) (hfaithful : env.write.Faithful pack.data)
    (hfresh : FreshPath s.storage env.write.new) (hwidx : env.widx = 0)
    (herr : env.write.err = 0) (hvalid : isDataBlockValid env.write.now (.live b) = some true)
    (hwrite : (s.addIndex pack b).writePack f pack env = some (t, err)) : ScannerGood t := by
  unfold StageDataVFileScanner.writePack at hwrite
  rw [if_neg (by simp [hwidx])] at hwrite
  obtain ⟨⟨st₁, f₁, err₁⟩, hw, hres⟩ := Option.map_eq_some_iff.mp hwrite
  have hw' : f.write s.storage pack.data env.write = some (st₁, f₁, err₁) := hw
  have hsync := h.synced pack.did f b hmap hb
  have hm := moves_write pack.size_lt hfaithful hfresh
    (fun b hb => h.synced pack.did f b hmap hb) hw'
  -- the index is added to the state that already has the pack
  have hgood : ScannerGood ((s.setFile pack.did st₁ f₁).addIndex pack b) :=
    (h.setFile hm (Or.inl hmap)).addIndex (slice_write hb hsync hvalid herr hfaithful hw')
  simp only at hres
  split at hres
  · cases hres
    exact hgood
  · split at hres
    · cases hres
      exact ⟨hgood.synced, hgood.apart, hgood.sized, hgood.reads⟩
    · cases hres
      exact hgood

theorem good_processDataPack (h : ScannerGood s) {pack : DataPack} {env : PackEnv} {err : Int}
    (hlands : Lands s (.processDataPack pack env))
    (hstep : s.processDataPack pack env = some (t, err)) : ScannerGood t := by
  unfold StageDataVFileScanner.processDataPack at hstep
  split at hstep
  · cases hstep
    exact h
  · rename_i hfields
    obtain ⟨hfresh, hfaithful, hblock⟩ := hlands (by simpa using hfields)
    obtain ⟨⟨s₁, f⟩, hget, hstep⟩ := Option.bind_eq_some_iff.mp hstep
    obtain ⟨h₁, hmap⟩ := h.getWriteableFileForDID hfresh hget
    obtain ⟨hfresh', hin⟩ := hblock _ hget
    simp only at hstep hfresh' hin
    split at hstep
    · cases hstep
      exact h₁
    · rename_i hgdf
      split at hstep
      · cases hstep
      · cases hstep
        exact h₁
      · rename_i b hb
        rw [hb] at hin
        split at hstep
        · cases hstep
          exact h₁
        · rename_i hgloc
          split at hstep
          · cases hstep
            exact h₁
          · by_cases hidx : env.idx = 0
            · rw [if_pos hidx] at hstep
              obtain ⟨hwidx, herr, hvalid⟩ := hin (by simpa using hgdf) (by simpa using hgloc) hidx
              exact h₁.writeIndexed hmap hb hfaithful hfresh' hwidx herr hvalid hstep
            · rw [if_neg hidx] at hstep
              exact h₁.writePack hmap hfaithful hfresh' hstep

/-! ## Every run -/

theorem good_mantain (h : ScannerGood s) {now : UInt64} {closeErr : Int}
    (hstep : s.mantain did now closeErr = some t) : ScannerGood t := by
  unfold StageDataVFileScanner.mantain at hstep
  split at hstep
  · cases hstep
    exact h
  · rename_i f hf
    obtain ⟨f', hf', rfl⟩ := Option.map_eq_some_iff.mp hstep
    obtain ⟨valid, _, rfl⟩ := Option.map_eq_some_iff.mp hf'
    refine h.setFile ?_ (Or.inl hf)
    split
    · exact .refl fun b hb => h.synced did f b hf hb
    · have hclosed : ∀ b, (if closeErr = 0 then BlockPtr.null else .released) ≠ .live b := by
        intro b
        split <;> simp
      exact ⟨.refl _, fun _ hk => hk, fun _ _ _ => rfl, fun b hb => absurd hb (hclosed b),
        fun b hb => absurd hb (hclosed b)⟩

theorem good_scannerStep (h : ScannerGood s) {a : ScannerCall} (hlands : Lands s a)
    (hstep : scannerStep s a = some t) : ScannerGood t := by
  cases a with
  | processDataPack pack env =>
    obtain ⟨⟨t', err⟩, hpack, rfl⟩ := Option.map_eq_some_iff.mp hstep
    exact good_processDataPack h hlands hpack
  | mantain did now closeErr => exact good_mantain h hstep
  | closeAllDatafile =>
    cases hstep
    refine ⟨?_, ?_, h.sized, h.reads⟩
    · intro d g b hg
      cases hg
    · intro d d' g g' b b' _ hg
      cases hg

theorem good_create (max_block_size max_block_lifetime : UInt32) :
    ScannerGood (StageDataVFileScanner.create max_block_size max_block_lifetime) := by
  refine ⟨?_, ?_, ?_, ?_⟩
  · intro d g b hg
    cases hg
  · intro d d' g g' b b' _ hg
    cases hg
  · intro i hi
    cases hi
  · intro i hi
    cases hi

/-- In every run whose packs land in the block that was current when their index was added,
each index in the database names the bytes of its pack. -/
theorem every_index_names_its_pack (max_block_size max_block_lifetime : UInt32)
    (calls : List ScannerCall) (s : StageDataVFileScanner)
    (hok : runs.RunOk scannerStep Lands
      (StageDataVFileScanner.create max_block_size max_block_lifetime) calls)
    (hrun : runs.run scannerStep
      (StageDataVFileScanner.create max_block_size max_block_lifetime) calls = some s) :
    ∀ i ∈ s.indexes, IndexReads s.storage i :=
  (runs.run_keeps_of_ok ScannerGood (fun _ _ _ h hlands hstep => good_scannerStep h hlands hstep)
    (good_create max_block_size max_block_lifetime) hok hrun).reads

/-- A pack of device "d" that is written at time `now`. A block that is made for the write
is "b". -/
def aPack (prefetch : NewDataBlock) (now : UInt64) : ScannerCall :=
  .processDataPack ⟨"d", 0, now, [1, 2, 3, 4, 5], by decide⟩
    ⟨now, true, true, prefetch, 0, 0, 0, 0, ⟨now, .made "b" now, 5, 0⟩, 0, 0⟩

/-- Two packs: the first goes to the new block "a" at time 5. -/
def twoPacks (now : UInt64) : List ScannerCall := [aPack (.made "a" 0) 5, aPack .notOpened now]

theorem indexes_of_two_packs :
    (∃ s, runs.run scannerStep (StageDataVFileScanner.create 100 10) (twoPacks 6) = some s) ∧
    ∀ s, runs.run scannerStep (StageDataVFileScanner.create 100 10) (twoPacks 6) = some s →
      ∀ i ∈ s.indexes, IndexReads s.storage i :=
  ⟨⟨_, rfl⟩, fun s hs => every_index_names_its_pack 100 10 (twoPacks 6) s (by decide) hs⟩

/-- A pack that is written after the life time of the block goes to the next block, while its
index names the end of the old one. -/
theorem switched_block_breaks_the_index :
    ¬ ∀ (max_block_size max_block_lifetime : UInt32) (calls : List ScannerCall)
      (s : StageDataVFileScanner),
      runs.run scannerStep (StageDataVFileScanner.create max_block_size max_block_lifetime)
        calls = some s → ∀ i ∈ s.indexes, IndexReads s.storage i := by
  intro h
  have hbad : ∀ s ∈ runs.run scannerStep (StageDataVFileScanner.create 100 10)
      (twoPacks 20), ¬ ∀ i ∈ s.indexes, IndexReads s.storage i := by decide
  obtain ⟨s, hs⟩ : ∃ s, runs.run scannerStep (StageDataVFileScanner.create 100 10)
      (twoPacks 20) = some s := ⟨_, rfl⟩
  exact hbad s hs (h 100 10 _ s hs)

end chaos.data_service.indexer
