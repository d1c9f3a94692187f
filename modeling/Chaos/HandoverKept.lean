-- A stage block that was set to processing stays handed over, in every run whose steps take no
-- block from a writer that is not done with it: such a writer has the block for itself, an indexer
-- has the block that it scans for itself, and no block is with both.
import Chaos.StageHandover

namespace chaos.data_service.vfs.stage

open runs DataBlockState

namespace StageArea

variable {s t : StageArea} {w i n : Nat} {f f' : VFSStageWriteableFile}
  {g g' : VFSStageReadableFile}

/-! ## The invariant -/

/-- A block that its writer is not done with acquires data and was never handed over. -/
structure Acquiring (w : Nat) (x : StageBlock) : Prop where
  writer : x.writer = w
  state : x.state = some DataBlockStateAquiringData
  never : x.size_at_handover = none

/-- A block of an indexer is not unprocessed, nor with its writer, and waits for the end of its scan
only while the indexer scans it. -/
structure Claimed (g : VFSStageReadableFile) (n : Nat) (x : StageBlock) : Prop where
  not_none : x.state ≠ some DataBlockStateNone
  not_acquiring : x.state ≠ some DataBlockStateAquiringData
  scanning : x.handed_over = true → g.current_data_block = .scanning n

structure Good (s : StageArea) : Prop where
  owned : ∀ (w : Nat) f b, s.writers[w]? = some f → f.unfinished = some b →
    ∃ x, s.blocks[b.number]? = some x ∧ Acquiring w x
  claimed : ∀ (i : Nat) g n, s.indexers[i]? = some g → g.current_data_block.holds = some n →
    ∃ x, s.blocks[n]? = some x ∧ Claimed g n x
  found : ∀ (i : Nat) g n, s.indexers[i]? = some g → g.current_data_block = .found n →
    ∃ x, s.blocks[n]? = some x ∧ x.state ≠ some DataBlockStateAquiringData
  alone : ∀ (i j : Nat) g g' n, s.indexers[i]? = some g → s.indexers[j]? = some g' →
    g.current_data_block.holds = some n → g'.current_data_block.holds = some n → i = j
  processing : ∀ (n : Nat) x, s.blocks[n]? = some x → x.handed_over = true →
    x.state = some DataBlockStateProcessing
  not_grown : ∀ (n : Nat) x m, s.blocks[n]? = some x → x.size_at_handover = some m → x.size = m

theorem Good.of_initial (h : Initial s) : Good s := by
  obtain ⟨hblocks, hwriters, hindexers⟩ := h
  constructor
  · intro w f b hf hb
    obtain ⟨hnull, hidle⟩ := hwriters f (List.mem_of_getElem? hf)
    simp [VFSStageWriteableFile.unfinished, hnull, hidle] at hb
  · intro i g n hg hn
    rw [hindexers g (List.mem_of_getElem? hg)] at hn
    cases hn
  · intro i g n hg hn
    rw [hindexers g (List.mem_of_getElem? hg)] at hn
    cases hn
  · intro i j g g' n hg _ hn _
    rw [hindexers g (List.mem_of_getElem? hg)] at hn
    cases hn
  · intro n x hx
    rw [hblocks] at hx
    cases hx
  · intro n x m hx
    rw [hblocks] at hx
    cases hx

theorem Good.stays (h : Good s) : StaysHandedOver s := by
  constructor
  · intro x hx
    obtain ⟨n, hn⟩ := List.mem_iff_getElem?.mp hx
    refine ⟨fun hhanded hnone => ?_, fun m hm => h.not_grown n x m hn hm⟩
    rw [h.processing n x hn hhanded] at hnone
    cases hnone
  · intro g hg n hscan x hx hnone
    obtain ⟨i, hi⟩ := List.mem_iff_getElem?.mp hg
    obtain ⟨y, hy, hclaimed⟩ := h.claimed i g n hi (by rw [hscan]; rfl)
    cases hx.symm.trans hy
    exact hclaimed.not_none hnone

/-! ## What changes one part -/

theorem Good.setWriter (h : Good s)
    (hf : ∀ b, f.unfinished = some b → ∃ x, s.blocks[b.number]? = some x ∧ Acquiring w x) :
    Good (s.setWriter w f) := by
  refine ⟨fun v e b he hb => ?_, h.claimed, h.found, h.alone, h.processing, h.not_grown⟩
  rcases numbered_list.of_getElem?_set he with ⟨rfl, rfl⟩ | ⟨-, he⟩
  · exact hf b hb
  · exact h.owned v e b he hb

/-- A writer that has no other block than before. -/
theorem Good.moveWriter (h : Good s) (hf : s.writers[w]? = some f)
    (hunfinished : ∀ b, f'.unfinished = some b → f.unfinished = some b) :
    Good (s.setWriter w f') :=
  h.setWriter fun b hb => h.owned w f b hf (hunfinished b hb)

theorem Good.setIndexer (h : Good s)
    (hclaimed : ∀ n, g.current_data_block.holds = some n →
      ∃ x, s.blocks[n]? = some x ∧ Claimed g n x)
    (hfound : ∀ n, g.current_data_block = .found n →
      ∃ x, s.blocks[n]? = some x ∧ x.state ≠ some DataBlockStateAquiringData)
    (halone : ∀ n, g.current_data_block.holds = some n → ∀ (j : Nat) g', s.indexers[j]? = some g' →
      g'.current_data_block.holds = some n → i = j) : Good (s.setIndexer i g) := by
  refine ⟨h.owned, fun j e n he hn => ?_, fun j e n he hn => ?_,
    fun j k e e' n he he' hn hn' => ?_, h.processing, h.not_grown⟩
  · rcases numbered_list.of_getElem?_set he with ⟨rfl, rfl⟩ | ⟨-, he⟩
    · exact hclaimed n hn
    · exact h.claimed j e n he hn
  · rcases numbered_list.of_getElem?_set he with ⟨rfl, rfl⟩ | ⟨-, he⟩
    · exact hfound n hn
    · exact h.found j e n he hn
  · rcases numbered_list.of_getElem?_set he with ⟨rfl, rfl⟩ | ⟨-, hs⟩
    · rcases numbered_list.of_getElem?_set he' with ⟨rfl, -⟩ | ⟨-, hs'⟩
      · rfl
      · exact halone n hn k e' hs' hn'
    · rcases numbered_list.of_getElem?_set he' with ⟨rfl, rfl⟩ | ⟨-, hs'⟩
      · exact (halone n hn' j e hs hn).symm
      · exact h.alone j k e e' n hs hs' hn hn'

/-- An indexer that lets its block go. -/
theorem Good.freeIndexer (h : Good s) (hg : g.current_data_block = .none) :
    Good (s.setIndexer i g) := by
  refine h.setIndexer (fun n hn => ?_) (fun n hn => ?_) fun n hn => ?_ <;>
  · rw [hg] at hn
    cases hn

/-- A block changes so that its writer and its indexer still find it as they must. -/
theorem Good.modifyBlock (h : Good s) {change : StageBlock → StageBlock}
    (howned : ∀ x (v : Nat), s.blocks[n]? = some x → Acquiring v x →
      (∃ e b, s.writers[v]? = some e ∧ e.unfinished = some b ∧ b.number = n) →
      Acquiring v (change x))
    (hclaimed : ∀ x (j : Nat) e, s.blocks[n]? = some x → s.indexers[j]? = some e →
      e.current_data_block.holds = some n → Claimed e n x → Claimed e n (change x))
    (hacquired : ∀ x, s.blocks[n]? = some x → x.state ≠ some DataBlockStateAquiringData →
      (change x).state ≠ some DataBlockStateAquiringData)
    (hprocessing : ∀ x, s.blocks[n]? = some x → (change x).handed_over = true →
      (change x).state = some DataBlockStateProcessing)
    (hsize : ∀ x m, s.blocks[n]? = some x → (change x).size_at_handover = some m →
      (change x).size = m) : Good (s.modifyBlock n change) := by
  have hget : ∀ {k x}, s.blocks[k]? = some x →
      (s.modifyBlock n change).blocks[k]? = some (if n = k then change x else x) := by
    intro k x hx
    simp only [StageArea.modifyBlock, List.getElem?_modify, hx]
    split <;> rfl
  refine ⟨fun v e b he hb => ?_, fun j e k he hk => ?_, fun j e k he hk => ?_, h.alone,
    fun k x hx hhanded => ?_, fun k x m hx hm => ?_⟩
  · obtain ⟨x, hx, hacquiring⟩ := h.owned v e b he hb
    refine ⟨_, hget hx, ?_⟩
    split
    · rename_i heq
      subst heq
      exact howned x v hx hacquiring ⟨e, b, he, hb, rfl⟩
    · exact hacquiring
  · obtain ⟨x, hx, hc⟩ := h.claimed j e k he hk
    refine ⟨_, hget hx, ?_⟩
    split
    · rename_i heq
      subst heq
      exact hclaimed x j e hx he hk hc
    · exact hc
  · obtain ⟨x, hx, hstate⟩ := h.found j e k he hk
    refine ⟨_, hget hx, ?_⟩
    split
    · rename_i heq
      subst heq
      exact hacquired x hx hstate
    · exact hstate
  · rcases numbered_list.of_getElem?_modify hx with ⟨rfl, y, hy, rfl⟩ | ⟨-, hx⟩
    · exact hprocessing y hy hhanded
    · exact h.processing k x hx hhanded
  · rcases numbered_list.of_getElem?_modify hx with ⟨rfl, y, hy, rfl⟩ | ⟨-, hx⟩
    · exact hsize y m hy hm
    · exact h.not_grown k x m hx hm

/-- A new block, that nobody has yet. -/
theorem Good.addBlock (h : Good s) {x : StageBlock} (hhanded : x.handed_over = false)
    (hsize : x.size_at_handover = none) : Good { s with blocks := s.blocks ++ [x] } := by
  refine ⟨fun v e b he hb => ?_, fun j e k he hk => ?_, fun j e k he hk => ?_, h.alone,
    fun k y hy hyh => ?_, fun k y m hy hm => ?_⟩
  · obtain ⟨y, hy, hacquiring⟩ := h.owned v e b he hb
    exact ⟨y, numbered_list.getElem?_append_of_some hy [x], hacquiring⟩
  · obtain ⟨y, hy, hc⟩ := h.claimed j e k he hk
    exact ⟨y, numbered_list.getElem?_append_of_some hy [x], hc⟩
  · obtain ⟨y, hy, hstate⟩ := h.found j e k he hk
    exact ⟨y, numbered_list.getElem?_append_of_some hy [x], hstate⟩
  · rcases numbered_list.of_getElem?_concat hy with hy | ⟨-, rfl⟩
    · exact h.processing k y hy hyh
    · rw [hhanded] at hyh
      cases hyh
  · rcases numbered_list.of_getElem?_concat hy with hy | ⟨-, rfl⟩
    · exact h.not_grown k y m hy hm
    · rw [hsize] at hm
      cases hm

/-! ## The steps of a writer -/

theorem unfinished_opened {b : OpenBlock} (hb : f.current_data_block = .opened b)
    (hgone : f.phase ≠ .gone) (hclosing : ∀ k, f.phase ≠ .closing k) : f.unfinished = some b := by
  unfold VFSStageWriteableFile.unfinished
  split
  · exact absurd ‹_› hgone
  · simp_all
  · simp_all
  · exact absurd ‹_› (hclosing _)
  · simp_all

theorem unfinished_write {data_len clock : Nat} {b : OpenBlock}
    (h : f.write data_len clock = some f') (hb : f'.unfinished = some b) :
    f.unfinished = some b := by
  unfold VFSStageWriteableFile.write at h
  simp only at h
  split at h
  · cases h
    simp_all [VFSStageWriteableFile.unfinished]
  · split at h <;>
    · cases h
      simp_all [VFSStageWriteableFile.unfinished]
  · cases h

theorem unfinished_mantain {clock : Nat} {b : OpenBlock} (h : f.mantain clock = some f')
    (hb : f'.unfinished = some b) : f.unfinished = some b := by
  unfold VFSStageWriteableFile.mantain at h
  split at h
  · cases h
    exact hb
  · split at h <;>
    · cases h
      simp_all [VFSStageWriteableFile.unfinished]
  · cases h

theorem unfinished_destroy {b : OpenBlock} (h : f.destroy = some f')
    (hb : f'.unfinished = some b) : f.unfinished = some b := by
  unfold VFSStageWriteableFile.destroy at h
  split at h
  · cases h
    cases hb
  · cases h
    simp_all [VFSStageWriteableFile.unfinished]
  · cases h

theorem unfinished_closed (k : AfterRelease) (err : Bool) : (f.closed k err).unfinished = none := by
  cases k <;> cases err <;> rfl

/-- A call that gives the writer no other block. -/
theorem Good.call (h : Good s) {op : VFSStageWriteableFile → Option VFSStageWriteableFile}
    (hop : ∀ f f' b, op f = some f' → f'.unfinished = some b → f.unfinished = some b)
    (ht : s.call w op = some t) : Good t := by
  obtain ⟨f, hf, hmap⟩ := Option.bind_eq_some_iff.mp ht
  obtain ⟨f', hf', rfl⟩ := Option.map_eq_some_iff.mp hmap
  exact h.moveWriter hf fun b => hop f f' b hf'

theorem append_cases {kept : Nat} (ht : s.append w kept = some t) :
    ∃ f b data_len, s.writers[w]? = some f ∧ f.phase = .writing data_len ∧
      f.current_data_block = .opened b ∧
      t = (s.modifyBlock b.number fun x =>
        { x with size := x.size + (b.buffered + data_len - kept) }).setWriter w { f with
          current_data_block := .opened { b with
            buffered := kept
            current_work_position := b.current_work_position + data_len }
          phase := .idle } := by
  unfold StageArea.append at ht
  split at ht
  · split at ht
    · split at ht
      · cases ht
      · exact ⟨_, _, _, ‹_›, ‹_›, ‹_›, (Option.some.inj ht).symm⟩
    · cases ht
  · cases ht

/-- The file of a block that was never handed over may grow. -/
theorem Good.grow (h : Good s) {more : Nat}
    (hnever : ∀ x, s.blocks[n]? = some x → x.size_at_handover ≠ none → more = 0) :
    Good (s.modifyBlock n fun x => { x with size := x.size + more }) := by
  refine h.modifyBlock (fun _ _ _ ha _ => ⟨ha.writer, ha.state, ha.never⟩)
    (fun _ _ _ _ _ _ hc => ⟨hc.not_none, hc.not_acquiring, hc.scanning⟩) (fun _ _ hs => hs)
    (fun x hx => h.processing n x hx) ?_
  intro x m hx hm
  have hmore := hnever x hx (by rw [show x.size_at_handover = some m from hm]; simp)
  simp only [hmore, Nat.add_zero]
  exact h.not_grown n x m hx hm

theorem Good.append (h : Good s) {kept : Nat} (ht : s.append w kept = some t) : Good t := by
  obtain ⟨f, b, data_len, hf, hphase, hb, rfl⟩ := append_cases ht
  obtain ⟨x, hx, hacquiring⟩ := h.owned w f b hf
    (unfinished_opened hb (by simp [hphase]) (by simp [hphase]))
  refine (h.grow fun y hy hne => ?_).setWriter fun c hc => ?_
  · cases hx.symm.trans hy
    exact absurd hacquiring.never hne
  · simp only [VFSStageWriteableFile.unfinished, Option.some.injEq] at hc
    subst hc
    refine ⟨{ x with size := x.size + (b.buffered + data_len - kept) }, ?_,
      ⟨hacquiring.writer, hacquiring.state, hacquiring.never⟩⟩
    simp [StageArea.modifyBlock, hx]

theorem setStateNone_cases {ran again : Bool} (ht : s.setStateNone w ran again = some t) :
    ∃ f b k, s.writers[w]? = some f ∧ f.phase = .releasing k ∧ f.current_data_block = .opened b ∧
      t = if ran then (s.setWriter w { f with
            phase := if again then .releasing k else .closing k }).modifyBlock b.number
              (.setState DataBlockStateNone)
          else s.setWriter w { f with phase := if again then .releasing k else .closing k } := by
  unfold StageArea.setStateNone at ht
  split at ht
  · split at ht
    · exact ⟨_, _, _, ‹_›, ‹_›, ‹_›, (Option.some.inj ht).symm⟩
    · cases ht
  · cases ht

/-- A change of the state alone, or of nothing. -/
structure KeepsFile (change : StageBlock → StageBlock) : Prop where
  acquired : ∀ x, x.state ≠ some DataBlockStateAquiringData →
    (change x).state ≠ some DataBlockStateAquiringData
  handed : ∀ x, (change x).handed_over = x.handed_over
  first : ∀ x, (change x).size_at_handover = x.size_at_handover
  size : ∀ x, (change x).size = x.size

theorem keepsFile_setState {new_state : DataBlockState}
    (h : new_state ≠ DataBlockStateAquiringData) : KeepsFile (.setState new_state) := by
  refine ⟨fun x _ hnew => ?_, fun _ => rfl, fun _ => rfl, fun _ => rfl⟩
  obtain ⟨_, -, heq⟩ := Option.map_eq_some_iff.mp hnew
  exact h heq

/-- The state of a block that no writer and no indexer has can change. -/
theorem Good.unclaim (h : Good s)
    (howned : ∀ (v : Nat) e b, s.writers[v]? = some e → e.unfinished = some b → b.number ≠ n)
    (hclaimed : ∀ (j : Nat) e, s.indexers[j]? = some e → e.current_data_block.holds ≠ some n)
    (hhanded : ∀ x, s.blocks[n]? = some x → x.handed_over = false)
    {change : StageBlock → StageBlock} (hchange : KeepsFile change) :
    Good (s.modifyBlock n change) := by
  refine h.modifyBlock (fun x v _ _ hhas => ?_) (fun x j e _ he hn _ => absurd hn (hclaimed j e he))
    (fun x _ => hchange.acquired x) (fun x hx hh => ?_) fun x m hx hm => ?_
  · obtain ⟨e, b, he, hb, hnumber⟩ := hhas
    exact absurd hnumber (howned v e b he hb)
  · rw [hchange.handed, hhanded x hx] at hh
    cases hh
  · rw [hchange.first] at hm
    rw [hchange.size]
    exact h.not_grown n x m hx hm

theorem Good.setStateNone (h : Good s) {ran again : Bool}
    (hok : Safe s (.setStateNone w ran again)) (ht : s.setStateNone w ran again = some t) :
    Good t := by
  obtain ⟨f, b, k, hf, hphase, hb, rfl⟩ := setStateNone_cases ht
  have hfb : f.unfinished = some b := unfinished_opened hb (by simp [hphase]) (by simp [hphase])
  have hmove : ∀ c, { f with
      phase := if again then .releasing k else .closing k }.unfinished = some c →
      f.unfinished = some c := by
    intro c hc
    rw [hfb]
    cases again <;> simp_all [VFSStageWriteableFile.unfinished]
  cases ran with
  | false => exact h.moveWriter hf hmove
  | true =>
    obtain ⟨rfl, hbuffered⟩ := hok rfl
    have hempty := hbuffered f hf b hfb
    obtain ⟨x, hx, hacquiring⟩ := h.owned w f b hf hfb
    refine (h.moveWriter hf hmove).unclaim (fun v e c he hc heq => ?_) (fun j e he hn => ?_)
      (fun y hy => ?_) (keepsFile_setState (by decide))
    · rcases numbered_list.of_getElem?_set he with ⟨rfl, rfl⟩ | ⟨hne, he⟩
      · simp [VFSStageWriteableFile.unfinished, hb, hempty] at hc
      · obtain ⟨y, hy, hacquiring'⟩ := h.owned v e c he hc
        rw [heq] at hy
        cases hx.symm.trans hy
        exact hne (hacquiring'.writer.symm.trans hacquiring.writer)
    · obtain ⟨y, hy, hclaimed⟩ := h.claimed j e b.number he hn
      cases hx.symm.trans hy
      exact hclaimed.not_acquiring hacquiring.state
    · cases hx.symm.trans hy
      by_contra hhanded
      have hstate := h.processing b.number x hx (by simpa using hhanded)
      rw [hacquiring.state] at hstate
      cases hstate

theorem Good.close (h : Good s) {err : Bool} (ht : s.close w err = some t) : Good t := by
  unfold StageArea.close at ht
  split at ht
  · rename_i f hf
    split at ht
    · rename_i k b hphase hb
      cases ht
      refine (h.grow fun x hx hne => ?_).setWriter fun c hc => ?_
      · by_contra hbuffered
        obtain ⟨y, hy, hacquiring⟩ := h.owned w f b hf (by
          simp [VFSStageWriteableFile.unfinished, hphase, hb, hbuffered])
        cases hx.symm.trans hy
        exact hne hacquiring.never
      · rw [unfinished_closed] at hc
        cases hc
    · cases ht
  · cases ht

theorem Good.getNewDataBlock (h : Good s) {made : Option (Nat × Nat)}
    (ht : s.getNewDataBlock w made = some t) : Good t := by
  unfold StageArea.getNewDataBlock at ht
  split at ht
  · rename_i f hf
    split at ht
    · cases ht
      refine (h.addBlock rfl rfl).setWriter fun c hc => ?_
      simp only [VFSStageWriteableFile.unfinished, Option.some.injEq] at hc
      subst hc
      exact ⟨_, List.getElem?_concat_length, ⟨rfl, rfl, rfl⟩⟩
    · rename_i hphase
      cases ht
      refine h.moveWriter hf fun c hc => ?_
      simp only [VFSStageWriteableFile.unfinished] at hc ⊢
      rw [hphase]
      split at hc <;> simp_all
    · cases ht
  · cases ht

/-! ## The recovery -/

theorem timedOut_eq_false {x : StageBlock} (clock : Nat)
    (h : x.state ≠ some DataBlockStateAquiringData) : x.timedOut clock = false := by
  simp [StageBlock.timedOut, h]

theorem Good.recover (h : Good s) {clock : Nat} (hok : Safe s (.recover clock)) :
    Good (s.recover clock) := by
  have hget : ∀ {k : Nat} {x : StageBlock}, s.blocks[k]? = some x → x.timedOut clock = false →
      (s.recover clock).blocks[k]? = some x := by
    intro k x hx htimed
    simp [StageArea.recover, hx, htimed]
  refine ⟨fun v e b he hb => ?_, fun j e k he hk => ?_, fun j e k he hk => ?_, h.alone,
    fun k y hy hhanded => ?_, fun k y m hy hm => ?_⟩
  · obtain ⟨x, hx, hacquiring⟩ := h.owned v e b he hb
    exact ⟨x, hget hx (hok e (List.mem_of_getElem? he) b hb x hx), hacquiring⟩
  · obtain ⟨x, hx, hc⟩ := h.claimed j e k he hk
    exact ⟨x, hget hx (timedOut_eq_false clock hc.not_acquiring), hc⟩
  · obtain ⟨x, hx, hstate⟩ := h.found j e k he hk
    exact ⟨x, hget hx (timedOut_eq_false clock hstate), hstate⟩
  · simp only [StageArea.recover, List.getElem?_map, Option.map_eq_some_iff] at hy
    obtain ⟨x, hx, rfl⟩ := hy
    have hxh : x.handed_over = true := by
      split at hhanded <;> exact hhanded
    have hstate := h.processing k x hx hxh
    rw [timedOut_eq_false clock (by simp [hstate])]
    exact hstate
  · simp only [StageArea.recover, List.getElem?_map, Option.map_eq_some_iff] at hy
    obtain ⟨x, hx, rfl⟩ := hy
    have hsize := h.not_grown k x m hx (by split at hm <;> exact hm)
    split <;> exact hsize

/-! ## The steps of an indexer -/

theorem Good.find (h : Good s) (ht : s.find i n = some t) : Good t := by
  unfold StageArea.find at ht
  split at ht
  · rename_i g x hg hx
    split at ht
    · rename_i hfinds
      cases ht
      refine h.setIndexer (fun m hm => by cases hm) (fun m hm => ?_) fun m hm => by cases hm
      cases hm
      exact ⟨x, hx, by simp [hfinds.2.1]⟩
    · cases ht
  · cases ht

/-- After the compare and set a block is not unprocessed. -/
theorem compareAndSet_state {x : StageBlock} (h : x.state ≠ some DataBlockStateAquiringData) :
    x.compareAndSet.state ≠ some DataBlockStateNone ∧
      x.compareAndSet.state ≠ some DataBlockStateAquiringData := by
  by_cases hstate : x.state = some DataBlockStateNone
  · simp [StageBlock.compareAndSet, hstate]
  · rw [StageBlock.compareAndSet, if_neg hstate]
    exact ⟨hstate, h⟩

/-- The compare and set of an unprocessed block, which nobody has, hands it over. -/
theorem Good.handOver (h : Good s) : Good (s.modifyBlock n StageBlock.compareAndSet) := by
  refine h.modifyBlock (fun x v _ ha _ => ?_) (fun x j e _ _ _ hc => ?_)
    (fun x _ hs => (compareAndSet_state hs).2) (fun x hx hh => ?_) fun x m hx hm => ?_
  · have hstate : x.state ≠ some DataBlockStateNone := by simp [ha.state]
    rwa [StageBlock.compareAndSet, if_neg hstate]
  · rwa [StageBlock.compareAndSet, if_neg hc.not_none]
  · by_cases hstate : x.state = some DataBlockStateNone
    · simp [StageBlock.compareAndSet, hstate]
    · rw [StageBlock.compareAndSet, if_neg hstate] at hh ⊢
      exact h.processing n x hx hh
  · by_cases hstate : x.state = some DataBlockStateNone
    · simp only [StageBlock.compareAndSet, hstate, if_true, Option.some.injEq] at hm ⊢
      rcases hfirst : x.size_at_handover with _ | first
      · rw [hfirst] at hm
        exact hm
      · rw [hfirst] at hm
        exact (h.not_grown n x first hx hfirst).trans hm
    · rw [StageBlock.compareAndSet, if_neg hstate] at hm ⊢
      exact h.not_grown n x m hx hm

theorem Good.compareAndSet (h : Good s) {ran answered opened : Bool}
    (hok : Safe s (.compareAndSet i ran answered opened))
    (ht : s.compareAndSet i ran answered opened = some t) : Good t := by
  unfold StageArea.compareAndSet at ht
  split at ht
  · rename_i g hg
    split at ht
    · rename_i n hfound
      split at ht
      · rename_i x hx
        split at ht
        · cases ht
        rename_i hanswered
        cases ht
        by_cases hgets : (answered && opened) = true
        · simp only [Bool.and_eq_true] at hgets
          obtain ⟨rfl, rfl⟩ := hgets
          obtain rfl : ran = true := by simpa using hanswered
          obtain ⟨y, hy, hacquired⟩ := h.found i g n hg hfound
          cases hx.symm.trans hy
          refine h.handOver.setIndexer (fun m hm => ?_) (fun m hm => by cases hm)
            fun m hm j e he hme => ?_
          · cases hm
            have hstate := compareAndSet_state hacquired
            exact ⟨x.compareAndSet, by simp [StageArea.modifyBlock, hx], hstate.1, hstate.2,
              fun _ => rfl⟩
          · cases hm
            exact absurd hme (hok rfl rfl g hg n hfound e (List.mem_of_getElem? he))
        · rw [if_neg hgets]
          refine Good.freeIndexer ?_ rfl
          split
          · exact h.handOver
          · exact h
      · cases ht
    · cases ht
  · cases ht

/-- The scan of a block ends, and its state may become processed. -/
theorem Good.endScan (h : Good s) (hg : s.indexers[i]? = some g)
    (hheld : g.current_data_block.holds = some n)
    (hg' : g'.current_data_block.holds = some n) {change : StageBlock → StageBlock}
    (hchange : KeepsFile change)
    (hstate : ∀ x, (change x).state = x.state ∨
      (change x).state = x.state.map fun _ => DataBlockStateProcessed) :
    Good ((s.modifyBlock n fun x => (change x).scanned).setIndexer i g') := by
  obtain ⟨x, hx, hclaimed⟩ := h.claimed i g n hg hheld
  have hstays : ∀ {e : VFSStageReadableFile} {y}, Claimed e n y →
      Claimed g' n (change y).scanned := by
    intro e y hc
    refine ⟨?_, hchange.acquired y hc.not_acquiring, fun hh => by cases hh⟩
    rcases hstate y with hsame | hprocessed
    · exact hsame ▸ hc.not_none
    · intro hnone
      obtain ⟨_, -, heq⟩ := Option.map_eq_some_iff.mp (hprocessed.symm.trans hnone)
      cases heq
  have hmodified : Good (s.modifyBlock n fun x => (change x).scanned) := by
    refine h.modifyBlock (fun y v hy ha _ => ?_) (fun y j e hy he hn hc => ?_)
      (fun y _ hs => hchange.acquired y hs) (fun y _ hh => by cases hh) fun y m hy hm => ?_
    · cases hx.symm.trans hy
      exact absurd ha.state hclaimed.not_acquiring
    · exact ⟨(hstays hc).not_none, (hstays hc).not_acquiring, fun hh => by cases hh⟩
    · simp only [StageBlock.scanned, hchange.first, hchange.size] at hm ⊢
      exact h.not_grown n y m hy hm
  refine hmodified.setIndexer (fun m hm => ?_) (fun m hm => ?_) fun m hm j e he hme => ?_
  · cases hg'.symm.trans hm
    exact ⟨(change x).scanned, by simp [StageArea.modifyBlock, hx], hstays hclaimed⟩
  · rw [hm] at hg'
    cases hg'
  · cases hg'.symm.trans hm
    exact h.alone i j g e n hg he hheld hme

theorem Good.process (h : Good s) {ran : Bool} (ht : s.process i ran = some t) : Good t := by
  unfold StageArea.process at ht
  split at ht
  · rename_i g hg
    split at ht
    · rename_i n hscanning
      cases ht
      refine h.endScan hg (by rw [hscanning]; rfl) rfl ?_ fun x => ?_
      · cases ran with
        | true => exact keepsFile_setState (by decide)
        | false => exact ⟨fun _ hs => hs, fun _ => rfl, fun _ => rfl, fun _ => rfl⟩
      · cases ran with
        | true => exact .inr rfl
        | false => exact .inl rfl
    · cases ht
  · cases ht

theorem Good.breakOff (h : Good s) (ht : s.breakOff i = some t) : Good t := by
  unfold StageArea.breakOff at ht
  split at ht
  · rename_i g hg
    split at ht
    · rename_i n hscanning
      cases ht
      have hkeeps : KeepsFile id :=
        ⟨fun _ hs => hs, fun _ => rfl, fun _ => rfl, fun _ => rfl⟩
      exact h.endScan hg (by rw [hscanning]; rfl) rfl hkeeps fun _ => .inl rfl
    · cases ht
  · cases ht

/-- An indexer that is done with its scan gives the block up, and the state changes. -/
theorem Good.letGo (h : Good s) (hg : s.indexers[i]? = some g)
    (hheld : g.current_data_block.holds = some n) (hdone : g.current_data_block ≠ .scanning n)
    (hg' : g'.current_data_block = .none) {change : StageBlock → StageBlock}
    (hchange : KeepsFile change) : Good ((s.setIndexer i g').modifyBlock n change) := by
  obtain ⟨x, hx, hclaimed⟩ := h.claimed i g n hg hheld
  refine (h.freeIndexer hg').unclaim (fun v e b he hb heq => ?_) (fun j e he hn => ?_)
    (fun y hy => ?_) hchange
  · obtain ⟨y, hy, hacquiring⟩ := h.owned v e b he hb
    rw [heq] at hy
    cases hx.symm.trans hy
    exact hclaimed.not_acquiring hacquiring.state
  · rcases numbered_list.of_getElem?_set he with ⟨rfl, rfl⟩ | ⟨hne, he⟩
    · rw [hg'] at hn
      cases hn
    · exact hne (h.alone j i e g n he hg hn hheld)
  · cases hx.symm.trans hy
    by_contra hhanded
    exact hdone (hclaimed.scanning (by simpa using hhanded))

theorem Good.deleteBlock (h : Good s) (ht : s.deleteBlock i = some t) : Good t := by
  unfold StageArea.deleteBlock at ht
  split at ht
  · rename_i g hg
    split at ht
    · rename_i n hprocessed
      cases ht
      exact h.letGo hg (by rw [hprocessed]; rfl) (by rw [hprocessed]; simp) rfl
        ⟨fun _ _ hs => (by cases hs), fun _ => rfl, fun _ => rfl, fun _ => rfl⟩
    · cases ht
  · cases ht

theorem Good.releaseBlock (h : Good s) {ran again : Bool} (hok : ran = true → again = false)
    (hg : s.indexers[i]? = some g) (hheld : g.current_data_block.holds = some n)
    (hdone : g.current_data_block ≠ .scanning n) :
    Good (if ran then (s.setIndexer i (if again then g else {})).modifyBlock n
        (.setState DataBlockStateNone)
      else s.setIndexer i (if again then g else {})) := by
  cases ran with
  | true =>
    cases hok rfl
    exact h.letGo hg hheld hdone rfl (keepsFile_setState (by decide))
  | false =>
    cases again with
    | true =>
      exact h.setIndexer (fun m hm => h.claimed i g m hg hm) (fun m hm => h.found i g m hg hm)
        fun m hm j e he hme => h.alone i j g e m hg he hm hme
    | false => exact h.freeIndexer rfl

theorem Good.releaseFile (h : Good s) {ran again : Bool}
    (hok : Safe s (.releaseFile i ran again)) (ht : s.releaseFile i ran again = some t) :
    Good t := by
  unfold StageArea.releaseFile at ht
  split at ht
  · rename_i g hg
    split at ht
    · rename_i n hbroken
      cases ht
      exact h.releaseBlock hok hg (by rw [hbroken]; rfl) (by rw [hbroken]; simp)
    · rename_i n hprocessed
      cases ht
      exact h.releaseBlock hok hg (by rw [hprocessed]; rfl) (by rw [hprocessed]; simp)
    · cases ht
      exact h.freeIndexer rfl
    · cases ht
  · cases ht

/-! ## Every run -/

/-- What one step preserves. -/
theorem Good.step {a : Label} (h : Good s) (hok : Safe s a) (ht : s.step a = some t) : Good t := by
  cases a with
  | write w data_len clock => exact h.call (fun _ _ _ => unfinished_write) ht
  | append w kept => exact h.append ht
  | mantain w clock => exact h.call (fun _ _ _ => unfinished_mantain) ht
  | destroy w => exact h.call (fun _ _ _ => unfinished_destroy) ht
  | crash w =>
    refine h.call (fun f f' b hf hb => ?_) ht
    cases hf
    cases hb
  | setStateNone w ran again => exact h.setStateNone hok ht
  | close w err => exact h.close ht
  | getNewDataBlock w made => exact h.getNewDataBlock ht
  | recover clock =>
    cases ht
    exact h.recover hok
  | find i n => exact h.find ht
  | compareAndSet i ran answered opened => exact h.compareAndSet hok ht
  | process i ran => exact h.process ht
  | breakOff i => exact h.breakOff ht
  | deleteBlock i => exact h.deleteBlock ht
  | releaseFile i ran again => exact h.releaseFile hok ht

/-- In every run whose steps meet the condition, with any number of writers and indexers, the blocks
that were set to processing stay handed over. -/
theorem blocks_stay_handed_over (h : Initial s) (as : List Label) (hok : RunOk step Safe s as)
    (hr : run step s as = some t) : StaysHandedOver t :=
  have hgood : Good t := run_keeps_of_ok Good (fun _ _ _ h hok ht => h.step hok ht)
    (.of_initial h) hok hr
  hgood.stays

instance (s : StageArea) : ∀ a, Decidable (s.Safe a)
  | .recover clock => inferInstanceAs (Decidable (∀ f ∈ s.writers, ∀ b ∈ f.unfinished,
      ∀ x ∈ s.blocks[b.number]?, x.timedOut clock = false))
  | .setStateNone w ran again => inferInstanceAs (Decidable (ran = true → again = false ∧
      ∀ f ∈ s.writers[w]?, ∀ b ∈ f.unfinished, b.buffered = 0))
  | .compareAndSet i _ answered opened =>
    decidable_of_iff (answered = true → opened = true → ∀ g ∈ s.indexers[i]?,
      ∀ e ∈ s.indexers, ∀ n ∈ e.current_data_block.holds, g.current_data_block ≠ .found n) (by
      simp only [Safe]
      refine imp_congr_right fun _ => imp_congr_right fun _ => forall_congr' fun g =>
        imp_congr_right fun _ => ?_
      exact ⟨fun h n hn e he heq => h e he n heq hn, fun h e he n hn hfound => h n hfound e he hn⟩)
  | .releaseFile _ ran again => inferInstanceAs (Decidable (ran = true → again = false))
  | .write _ _ _ | .append _ _ | .mantain _ _ | .destroy _ | .crash _ | .close _ _
  | .getNewDataBlock _ _ | .find _ _ | .process _ _ | .breakOff _ | .deleteBlock _ =>
    isTrue trivial

/-- One writeable file and one indexer. -/
def one : StageArea :=
  { writers := [{ max_block_size := 100, max_block_lifetime := 10, check_validity_counter := 0 }]
    indexers := [{}] }

theorem one_initial : Initial one := by
  constructor <;> simp [one]

/-- A writer fills a block and releases its file; the indexer scans the block. -/
theorem released_block_stays_handed_over :
    StaysHandedOver
      { blocks := [
          { writer := 0, state := some DataBlockStateProcessing, valid_until_ts := 15
            creation_ts := 5, size := 7, handed_over := true, size_at_handover := some 7 }]
        writers := [
          { max_block_size := 100, max_block_lifetime := 10, check_validity_counter := 1
            phase := .gone }]
        indexers := [{ current_block_creation_ts := 5, current_data_block := .scanning 0 }] } :=
  blocks_stay_handed_over one_initial
    [.write 0 7 5, .getNewDataBlock 0 (some (5, 5)), .append 0 0, .destroy 0,
      .setStateNone 0 true false, .close 0 false, .recover 70000, .find 0 0,
      .compareAndSet 0 true true true] (by decide) rfl

/-- The recovery takes a block from a writer that has not written for more than a minute, and an
indexer gets it: the release of the file puts the block back, and a write that does not look at the
block adds to it. A block that is released in time also grows after its handover, when the stream
is flushed. -/
theorem blocks_do_not_stay_handed_over :
    (∃ s, run step one [.write 0 7 5, .getNewDataBlock 0 (some (5, 5)), .append 0 0,
        .recover 70000, .find 0 0, .compareAndSet 0 true true true, .destroy 0,
        .setStateNone 0 true false] = some s ∧ ¬ StaysHandedOver s) ∧
    (∃ s, run step one [.write 0 7 5, .getNewDataBlock 0 (some (5, 5)), .append 0 0,
        .recover 70000, .find 0 0, .compareAndSet 0 true true true, .write 0 7 70001,
        .append 0 0] = some s ∧ ¬ StaysHandedOver s) ∧
    ∃ s, run step one [.write 0 7 5, .getNewDataBlock 0 (some (5, 5)), .append 0 7, .destroy 0,
        .setStateNone 0 true false, .find 0 0, .compareAndSet 0 true true true,
        .close 0 false] = some s ∧ ¬ StaysHandedOver s := by
  refine ⟨⟨_, rfl, fun h => ?_⟩, ⟨_, rfl, fun h => ?_⟩, ⟨_, rfl, fun h => ?_⟩⟩
  · exact (h.kept _ (List.mem_singleton_self _)).not_back rfl rfl
  · exact absurd ((h.kept _ (List.mem_singleton_self _)).not_grown 7 rfl) (by decide)
  · exact absurd ((h.kept _ (List.mem_singleton_self _)).not_grown 0 rfl) (by decide)

end StageArea

end chaos.data_service.vfs.stage
