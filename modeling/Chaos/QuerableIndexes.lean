-- The laws of the states of the index entries. A file that is released with an open block leaves
-- the entries of the block as created. What the runs keep in which no entry names the open block
-- of a file that is released.
import Chaos.IndexStates

namespace chaos.data_service.indexer

open vfs VFSDataWriteableFile runs

namespace IndexedScanner

/-! ## What is claimed -/

/-- An entry is querable once the file that received its pack was released. -/
def AreQuerable (s : IndexedScanner) : Prop :=
  ∀ n < s.scanner.indexes.length, s.file_released n = true → s.state n = .querable

/-- The path of the open block of a file. -/
def currentPath (f : VFSDataWriteableFile) : Option String :=
  match f.current_data_block with
  | .live b => some b.vfs_path
  | _ => none

/-- The entry names the open block of the file of its device. -/
def Named (s : StageDataVFileScanner) (i : DataPackIndex) : Prop :=
  ∃ f ∈ s.map_did_data_file i.did, currentPath f = some i.block_vfs_path

instance (s : StageDataVFileScanner) (i : DataPackIndex) : Decidable (Named s i) :=
  match h : s.map_did_data_file i.did with
  | none => isFalse (by simp [Named, h])
  | some f => decidable_of_iff (currentPath f = some i.block_vfs_path) (by simp [Named, h])

/-- No entry names the open block of a file that is released. -/
def InTurn (s : IndexedScanner) : Label → Prop
  | .releaseFile did => ∀ i ∈ s.scanner.indexes, i.did = did → ¬ Named s.scanner i
  | .closeAllDatafile => ∀ i ∈ s.scanner.indexes, ¬ Named s.scanner i
  | _ => True

instance (s : IndexedScanner) : ∀ a, Decidable (s.InTurn a)
  | .releaseFile _ => inferInstanceAs (Decidable (∀ i ∈ s.scanner.indexes, _ → ¬ _))
  | .closeAllDatafile => inferInstanceAs (Decidable (∀ i ∈ s.scanner.indexes, ¬ _))
  | .processDataPack _ _ | .mantain _ _ => isTrue trivial

/-! ## The invariant -/

/-- An entry is querable, or its file was not released and has the block of it open. -/
structure Good (s : IndexedScanner) : Prop where
  entries : ∀ (n : Nat) i, s.scanner.indexes[n]? = some i →
    s.state n = .querable ∨ s.file_released n = false ∧ Named s.scanner i
  later : ∀ n, s.scanner.indexes.length ≤ n → s.file_released n = false

theorem Good.areQuerable {s : IndexedScanner} (h : Good s) : AreQuerable s := by
  intro n hn hreleased
  rcases h.entries n _ (List.getElem?_eq_getElem hn) with hstate | ⟨hnot, -⟩
  · exact hstate
  · rw [hreleased] at hnot
    cases hnot

/-! ## What the scanner does to the entries -/

variable {s t u : StageDataVFileScanner} {f f' : VFSDataWriteableFile}

/-- The block was released, and it is the one of the entry. -/
def Freed (released : Option DataBlock) (i : DataPackIndex) : Prop :=
  ∃ b ∈ released, b.vfs_path = i.block_vfs_path

/-- The entries that named an open block, and the new ones, name one or had theirs released. -/
structure Follows (s t : StageDataVFileScanner) (released : Option DataBlock) : Prop where
  grows : ∃ added, t.indexes = s.indexes ++ added ∧
    ∀ i ∈ added, Named t i ∨ Freed released i
  keeps : ∀ i, Named s i → Named t i ∨ Freed released i

theorem Follows.refl (s : StageDataVFileScanner) (released : Option DataBlock) :
    Follows s s released :=
  ⟨⟨[], by simp, by simp⟩, fun _ h => .inl h⟩

theorem Follows.trans {released : Option DataBlock} (h : Follows s t none)
    (h' : Follows t u released) : Follows s u released := by
  have hnamed : ∀ i, Named t i ∨ Freed none i → Named u i ∨ Freed released i := by
    rintro i (hi | ⟨b, hb, -⟩)
    · exact h'.keeps i hi
    · cases hb
  obtain ⟨added, heq, hadded⟩ := h.grows
  obtain ⟨added', heq', hadded'⟩ := h'.grows
  refine ⟨⟨added ++ added', by rw [heq', heq, List.append_assoc], ?_⟩,
    fun i hi => hnamed i (h.keeps i hi)⟩
  intro i hi
  rcases List.mem_append.mp hi with hi | hi
  · exact hnamed i (hadded i hi)
  · exact hadded' i hi

theorem named_setFile {did : String} {st : Storage} {i : DataPackIndex} (hi : i.did = did) :
    Named (s.setFile did st f) i ↔ currentPath f = some i.block_vfs_path := by
  simp [Named, StageDataVFileScanner.setFile, hi]

theorem named_setFile_of_ne {did : String} {st : Storage} {i : DataPackIndex}
    (hi : i.did ≠ did) : Named (s.setFile did st f) i ↔ Named s i := by
  simp [Named, StageDataVFileScanner.setFile, Function.update_of_ne hi]

/-- A file changes, and keeps its open block or has it released. -/
theorem Follows.setFile {did : String} {st : Storage} {released : Option DataBlock}
    (h : ∀ f ∈ s.map_did_data_file did, ∀ path, currentPath f = some path →
      currentPath f' = some path ∨ ∃ b ∈ released, b.vfs_path = path) :
    Follows s (s.setFile did st f') released := by
  refine ⟨⟨[], by simp [StageDataVFileScanner.setFile], by simp⟩, ?_⟩
  rintro i ⟨f, hf, hpath⟩
  by_cases hi : i.did = did
  · rw [named_setFile hi]
    exact h f (hi ▸ hf) _ hpath
  · rw [named_setFile_of_ne hi]
    exact .inl ⟨f, hf, hpath⟩

/-- The first data block of a file is made only when there is none. -/
theorem currentPath_prefetchData {st st' : Storage} {new : NewDataBlock} {err : Int}
    {path : String} (h : f.prefetchData st new = some (st', f', err))
    (hpath : currentPath f = some path) : currentPath f' = some path := by
  unfold prefetchData at h
  split at h
  · rename_i hnull
    simp [currentPath, hnull] at hpath
  · cases h
    exact hpath

theorem currentPath_writeToBlock {st st' : Storage} {data : List UInt8} {env : WriteEnv}
    {err : Int} {path : String} (h : f.writeToBlock st data env = some (st', f', err))
    (hpath : currentPath f = some path) : currentPath f' = some path := by
  unfold writeToBlock at h
  split at h
  · rename_i b hb
    simp only [currentPath, hb] at hpath
    simp only at h
    split at h <;> cases h
    · simp [currentPath, hpath]
    · simp [currentPath, hb, hpath]
  · cases h

/-- A block that is not valid any more is released before the write. -/
theorem currentPath_write {st st' : Storage} {data : List UInt8} {env : WriteEnv} {err : Int}
    {path : String} (h : f.write st data env = some (st', f', err))
    (hpath : currentPath f = some path) : currentPath f' = some path ∨
      ∃ b ∈ invalidBlock f env.now, b.vfs_path = path := by
  unfold write at h
  split at h
  · cases h
  · exact .inl (currentPath_writeToBlock h hpath)
  · rename_i hinvalid
    refine .inr ?_
    unfold currentPath at hpath
    split at hpath
    · rename_i b hb
      rw [hb] at hinvalid
      refine ⟨b, ?_, Option.some.inj hpath⟩
      simp [invalidBlock, hb, hinvalid]
    · cases hpath

theorem currentPath_mantain {now : UInt64} {path : String}
    (h : f.mantain now 0 = some f') (hpath : currentPath f = some path) :
    currentPath f' = some path ∨ ∃ b ∈ invalidBlock f now, b.vfs_path = path := by
  unfold VFSDataWriteableFile.mantain at h
  obtain ⟨valid, hvalid, heq⟩ := Option.map_eq_some_iff.mp h
  unfold currentPath at hpath
  split at hpath
  · rename_i b hb
    rw [hb] at hvalid heq
    cases valid with
    | true =>
      obtain rfl : f = f' := by simpa using heq
      exact .inl (by simpa [currentPath, hb] using hpath)
    | false =>
      refine .inr ⟨b, ?_, Option.some.inj hpath⟩
      simp [invalidBlock, hb, hvalid]
  · cases hpath

/-! ## The steps of the scanner -/

/-- The file of a device, with its open block. -/
theorem follows_getWriteableFileForDID {did : String} {env : PackEnv}
    (h : s.getWriteableFileForDID did env = some (t, f)) :
    Follows s t none ∧ t.map_did_data_file did = some f := by
  obtain ⟨f₀, hf₀, hmap⟩ := Option.bind_eq_some_iff.mp h
  obtain ⟨⟨st, f₁, err⟩, hprefetch, heq⟩ := Option.map_eq_some_iff.mp hmap
  cases heq
  refine ⟨?_, by simp [StageDataVFileScanner.setFile]⟩
  apply Follows.setFile
  intro f hf path hpath
  have hsame : f = f₀ := by
    rw [Option.mem_def] at hf
    simpa [StageDataVFileScanner.fileFor, hf] using hf₀
  subst hsame
  exact .inl (currentPath_prefetchData hprefetch hpath)

/-- A new entry names the open block of its file. -/
theorem follows_addIndex {pack : DataPack} {b : DataBlock}
    (hf : s.map_did_data_file pack.did = some f) (hb : f.current_data_block = .live b) :
    Follows s (s.addIndex pack b) none := by
  refine ⟨⟨_, rfl, ?_⟩, fun i hi => .inl hi⟩
  intro i hi
  rw [List.mem_singleton.mp hi]
  exact .inl ⟨f, hf, by simp [currentPath, hb]⟩

theorem follows_writePack {pack : DataPack} {env : PackEnv} {err : Int}
    (hf : s.map_did_data_file pack.did = some f)
    (h : s.writePack f pack env = some (t, err)) : Follows s t
      (if env.widx ≠ 0 then none else invalidBlock f env.write.now) := by
  unfold StageDataVFileScanner.writePack at h
  split at h
  · cases h
    exact .refl _ _
  · rename_i hwidx
    obtain ⟨⟨st, f', err'⟩, hwrite, heq⟩ := Option.map_eq_some_iff.mp h
    rw [if_neg hwidx]
    have hfollows : Follows s (s.setFile pack.did st f') (invalidBlock f env.write.now) := by
      apply Follows.setFile
      intro f₀ hf₀ path hpath
      rw [Option.mem_def, hf] at hf₀
      cases hf₀
      exact currentPath_write hwrite hpath
    dsimp only at heq
    split at heq
    · cases heq
      exact hfollows
    split at heq <;> cases heq
    · exact ⟨hfollows.grows, hfollows.keeps⟩
    · exact hfollows

theorem follows_processDataPack {pack : DataPack} {env : PackEnv} {err : Int}
    (h : s.processDataPack pack env = some (t, err)) :
    Follows s t ((writtenFile s pack env).bind (invalidBlock · env.write.now)) := by
  unfold StageDataVFileScanner.processDataPack at h
  split at h
  · cases h
    exact .refl _ _
  rename_i hfields
  obtain ⟨⟨s₁, f⟩, hfile, hrest⟩ := Option.bind_eq_some_iff.mp h
  obtain ⟨hfollows, hf⟩ := follows_getWriteableFileForDID hfile
  have hstay : ∀ released, Follows s s₁ released := fun _ => hfollows.trans (.refl _ _)
  dsimp only at hrest
  split at hrest
  · cases hrest
    exact hstay _
  rename_i hgdf
  split at hrest
  · cases hrest
  · cases hrest
    exact hstay _
  rename_i b hb
  split at hrest
  · cases hrest
    exact hstay _
  rename_i hgloc
  split at hrest
  · cases hrest
    exact hstay _
  rename_i hidx
  obtain ⟨s₂, hs₂⟩ : ∃ s₂, s₂ = if env.idx = 0 then s₁.addIndex pack b else s₁ := ⟨_, rfl⟩
  have hadd : Follows s₁ s₂ none ∧ s₂.map_did_data_file pack.did = some f := by
    rw [hs₂]
    split
    · exact ⟨follows_addIndex hf hb, hf⟩
    · exact ⟨.refl _ _, hf⟩
  rw [← hs₂] at hrest
  have hwrite := (hfollows.trans hadd.1).trans (follows_writePack hadd.2 hrest)
  have hreleased : (writtenFile s pack env).bind (invalidBlock · env.write.now) =
      if env.widx ≠ 0 then none else invalidBlock f env.write.now := by
    unfold writtenFile
    by_cases hwidx : env.widx = 0
    · rw [if_neg (by simp_all), hfile, if_neg (by simpa using hwidx)]
      rfl
    · rw [if_pos (by simp [hwidx]), if_pos hwidx]
      rfl
  rw [hreleased]
  exact hwrite

theorem follows_mantain {did : String} {now : UInt64} (h : s.mantain did now 0 = some t) :
    Follows s t ((s.map_did_data_file did).bind (invalidBlock · now)) := by
  unfold StageDataVFileScanner.mantain at h
  split at h
  · cases h
    exact .refl _ _
  · rename_i f hf
    obtain ⟨f', hmantain, rfl⟩ := Option.map_eq_some_iff.mp h
    apply Follows.setFile
    intro f₀ hf₀ path hpath
    rw [hf] at hf₀ ⊢
    cases hf₀
    exact currentPath_mantain hmantain hpath

/-! ## The states -/

variable {x y : IndexedScanner}

theorem releaseDataBlock_scanner (x : IndexedScanner) (released : Option DataBlock) :
    (x.releaseDataBlock released).scanner = x.scanner ∧
      (x.releaseDataBlock released).file_released = x.file_released := by
  cases released <;> exact ⟨rfl, rfl⟩

/-- The entries of the block that was released are querable, and no other loses its state. -/
theorem releaseDataBlock_state {released : Option DataBlock} {n : Nat} {i : DataPackIndex}
    (hi : x.scanner.indexes[n]? = some i) (h : Freed released i ∨ x.state n = .querable) :
    (x.releaseDataBlock released).state n = .querable := by
  cases released with
  | none =>
    rcases h with ⟨b, hb, -⟩ | h
    · cases hb
    · exact h
  | some b =>
    simp only [releaseDataBlock, idxSetDataPackIndexStateByDataBlock, hi, Option.any_some]
    split
    · rfl
    · rename_i hne
      rcases h with ⟨b', hb', hpath⟩ | h
      · cases hb'
        simp [hpath] at hne
      · exact h

/-- A step of the scanner that releases the blocks of the entries it leaves behind. -/
theorem Good.follow (h : Good x) {released : Option DataBlock}
    (hfollows : Follows x.scanner t released) :
    Good ({ x with scanner := t }.releaseDataBlock released) := by
  obtain ⟨hscanner, hreleased⟩ := releaseDataBlock_scanner { x with scanner := t } released
  obtain ⟨added, heq, hadded⟩ := hfollows.grows
  constructor
  · intro n i hi
    rw [hscanner] at hi ⊢
    rw [hreleased]
    rw [heq] at hi
    have hchoose : x.state n = .querable ∨ x.file_released n = false ∧
        (Named t i ∨ Freed released i) := by
      by_cases hn : n < x.scanner.indexes.length
      · rw [List.getElem?_append_left hn] at hi
        refine (h.entries n i hi).imp_right ?_
        rintro ⟨hfile, hnamed⟩
        exact ⟨hfile, hfollows.keeps i hnamed⟩
      · rw [List.getElem?_append_right (Nat.le_of_not_lt hn)] at hi
        exact .inr ⟨h.later n (Nat.le_of_not_lt hn), hadded i (List.mem_of_getElem? hi)⟩
    have hstate : Freed released i ∨ x.state n = .querable →
        ({ x with scanner := t }.releaseDataBlock released).state n = .querable :=
      releaseDataBlock_state (x := { x with scanner := t }) (heq ▸ hi)
    rcases hchoose with hquerable | ⟨hfile, hnamed | hfreed⟩
    · exact .inl (hstate (.inr hquerable))
    · exact .inr ⟨hfile, hnamed⟩
    · exact .inl (hstate (.inl hfreed))
  · intro n hn
    rw [hscanner, heq, List.length_append] at hn
    rw [hreleased]
    exact h.later n (Nat.le_of_add_right_le hn)

theorem Good.querable (h : Good x) {n : Nat} {i : DataPackIndex}
    (hi : x.scanner.indexes[n]? = some i) (hnot : ¬ Named x.scanner i) : x.state n = .querable :=
  (h.entries n i hi).resolve_right fun hnamed => hnot hnamed.2

/-- The release of a file keeps the states. -/
theorem Good.releaseFile (h : Good x) {did : String} (hok : x.InTurn (.releaseFile did)) :
    Good (x.releaseFile did) := by
  constructor
  · intro n i hi
    by_cases hdid : i.did = did
    · exact .inl (h.querable hi (hok i (List.mem_of_getElem? hi) hdid))
    · refine (h.entries n i hi).imp_right ?_
      rintro ⟨hfile, f, hf, hpath⟩
      refine ⟨?_, f, ?_, hpath⟩
      · have hi' : x.scanner.indexes[n]? = some i := hi
        simp [IndexedScanner.releaseFile, hfile, hi', hdid]
      · simpa [IndexedScanner.releaseFile, Function.update_of_ne hdid] using hf
  · intro n hn
    have hnone : x.scanner.indexes[n]? = none := List.getElem?_eq_none hn
    simp [IndexedScanner.releaseFile, h.later n hn, hnone]

theorem Good.closeAllDatafile (h : Good x) (hok : x.InTurn .closeAllDatafile) :
    Good x.closeAllDatafile := by
  constructor
  · intro n i hi
    exact .inl (h.querable hi (hok i (List.mem_of_getElem? hi)))
  · intro n hn
    have hle : x.scanner.indexes.length ≤ n := hn
    simp [IndexedScanner.closeAllDatafile, h.later n hle, hle]

theorem Good.step (h : Good x) {a : Label} (hok : x.InTurn a) (ht : x.step a = some y) :
    Good y := by
  cases a with
  | processDataPack pack env =>
    obtain ⟨⟨scanner, err⟩, hprocess, heq⟩ := Option.map_eq_some_iff.mp ht
    cases heq
    exact h.follow (follows_processDataPack hprocess)
  | mantain did now =>
    obtain ⟨scanner, hmantain, heq⟩ := Option.map_eq_some_iff.mp ht
    cases heq
    exact h.follow (follows_mantain hmantain)
  | releaseFile did =>
    cases ht
    exact h.releaseFile hok
  | closeAllDatafile =>
    cases ht
    exact h.closeAllDatafile hok

theorem good_create (max_block_size max_block_lifetime : UInt32) :
    Good (create max_block_size max_block_lifetime) := by
  refine ⟨?_, fun _ _ => rfl⟩
  intro n i hi
  simp [create, StageDataVFileScanner.create] at hi

/-- The entries of the released files are querable in every run in which no entry names the open
block of a file that is released. -/
theorem released_entries_are_querable {max_block_size max_block_lifetime : UInt32}
    {labels : List Label}
    (hok : RunOk step InTurn (create max_block_size max_block_lifetime) labels)
    (hr : run step (create max_block_size max_block_lifetime) labels = some y) :
    AreQuerable y := by
  have hstep : ∀ x a y, Good x → x.InTurn a → step x a = some y → Good y :=
    fun _ _ _ h hin ht => h.step hin ht
  exact (run_keeps_of_ok _ hstep (good_create _ _) hok hr).areQuerable

/-- A pack of device "d" at time `now`. A block that is made for the write is "b". -/
def packAt (prefetch : NewDataBlock) (now : UInt64) : Label :=
  .processDataPack ⟨"d", 0, now, [1, 2, 3], by decide⟩
    ⟨now, true, true, prefetch, 0, 0, 0, 0, ⟨now, .made "b" now, 3, 0⟩, 0, 0⟩

/-- The second of two packs comes after the life time of the block. The block that is made for it
is closed by the maintenance, and then the files are released. -/
theorem maintained_entries_are_querable :
    RunOk step InTurn (create 100 10)
        [packAt (.made "a" 0) 5, packAt .notOpened 20, .mantain "d" 100, .closeAllDatafile] ∧
      ∃ y, run step (create 100 10)
        [packAt (.made "a" 0) 5, packAt .notOpened 20, .mantain "d" 100, .closeAllDatafile] =
          some y ∧ y.scanner.indexes.map (·.block_vfs_path) = ["a", "a"] ∧
        y.file_released 1 = true ∧ AreQuerable y := by
  have hok : RunOk step InTurn (create 100 10)
      [packAt (.made "a" 0) 5, packAt .notOpened 20, .mantain "d" 100, .closeAllDatafile] := by
    decide +kernel
  exact ⟨hok, _, rfl, rfl, rfl, released_entries_are_querable hok rfl⟩

/-- The files are released after one pack, whose block is still open. -/
theorem open_block_stays_created :
    ∃ y, run step (create 100 10) [packAt (.made "a" 0) 5, .closeAllDatafile] = some y ∧
      y.scanner.indexes.map (·.block_vfs_path) = ["a"] ∧ y.file_released 0 = true ∧
      y.state 0 = .created ∧ ¬ AreQuerable y := by
  refine ⟨_, rfl, rfl, rfl, rfl, ?_⟩
  intro h
  cases h 0 (by decide) rfl

end IndexedScanner

end chaos.data_service.indexer
