-- The laws of the snapshots. A delete does not look at the counter of the jobs, and a job stores
-- its datasets also when its snapshot is gone. What the runs keep in which neither happens, and in
-- which nobody reads a name that is half deleted.
import Chaos.NumberedList
import Chaos.SnapshotDriver

namespace chaos.data_service.db_system

open runs unique_index

namespace SnapshotSystem

/-! ## What the clients may rely on -/

/-- No snapshot was removed while its counted job was at work, and each dataset that was returned
was stored by the job of the snapshot that was registered. -/
structure IsIsolated (s : SnapshotSystem) : Prop where
  removed_at_rest : s.removed_at_work = []
  reads_registered : ∀ r ∈ s.reads, r.registered = some r.stored_by

/-- A job stores only while its snapshot is registered, a delete removes a snapshot only with a
counter that is not positive, and nobody reads a name that is half deleted. -/
def InTurn (s : SnapshotSystem) : Label → Prop
  | .jobStores code _ _ _ _ => ∀ job ∈ s.jobs[code]?,
      ∃ d ∈ s.snapshot, d.snap_name = job.snapshot_name ∧ d.check_code = code
  | .deleteRemoves call _ => ∀ delete ∈ s.deletes[call]?, delete.removed = false →
      ∀ d ∈ s.snapshot, d.snap_name = delete.snapshot_name → d.jobs ≤ 0
  | .getDataset snapshot_name _ _ _ _ => snapshot_name ∉ s.half_deleted
  | _ => True

instance (s : SnapshotSystem) : ∀ a, Decidable (s.InTurn a)
  | .jobStores _ _ _ _ _ => Option.decidableForallMem _
  | .deleteRemoves _ _ => Option.decidableForallMem _
  | .getDataset _ _ _ _ _ => inferInstanceAs (Decidable (_ ∉ _))
  | .submitJobInfo _ _ _ _ | .jobStarts _ _ | .jobEnds _ _ | .deleteStarts _ _ => isTrue trivial

/-! ## The invariant -/

/-- The document has its job. The job is not at work without being counted, and the counter covers
it. -/
def Owned (jobs : List SnapshotCreationJob) (d : SnapshotDocument) : Prop :=
  ∃ phase, jobs[d.check_code]? = some ⟨d.snap_name, phase⟩ ∧ phase ≠ .working false ∧
    0 ≤ d.jobs ∧ (phase = .working true → 1 ≤ d.jobs)

/-- The data of a name that is not half deleted is of the snapshot that is registered. -/
def DataOwned (s : SnapshotSystem) : Prop :=
  ∀ e ∈ s.snapshot_data, e.snap_name ∉ s.half_deleted →
    ∃ d ∈ s.snapshot, d.snap_name = e.snap_name ∧ d.check_code = e.check_code

structure Good (s : SnapshotSystem) : Prop where
  names : (s.snapshot.map (·.snap_name)).Nodup
  owned : ∀ d ∈ s.snapshot, Owned s.jobs d
  data : DataOwned s
  isolated : IsIsolated s

variable {s t : SnapshotSystem} {code : Nat} {snapshot_name : String}

/-! ## The documents of a job -/

/-- A new job leaves the documents of the others. -/
theorem Owned.append {jobs : List SnapshotCreationJob} {d : SnapshotDocument} (h : Owned jobs d)
    (job : SnapshotCreationJob) : Owned (jobs ++ [job]) d := by
  obtain ⟨phase, hjob, hrest⟩ := h
  exact ⟨phase, numbered_list.getElem?_append_of_some hjob _, hrest⟩

/-- So does a step of another job. -/
theorem Owned.set_ne {jobs : List SnapshotCreationJob} {d : SnapshotDocument} (h : Owned jobs d)
    (hne : d.check_code ≠ code) (job : SnapshotCreationJob) : Owned (jobs.set code job) d := by
  obtain ⟨phase, hjob, hrest⟩ := h
  exact ⟨phase, by rw [List.getElem?_set_ne hne.symm, hjob], hrest⟩

/-- A document with the code of a job is found by its search. -/
theorem ofJob_of_code {d : SnapshotDocument} {phase : JobPhase} (h : Owned s.jobs d)
    (hjob : s.jobs[code]? = some ⟨snapshot_name, phase⟩) (hcode : d.check_code = code) :
    ofJob snapshot_name code d = true := by
  obtain ⟨phase', hd, -⟩ := h
  rw [hcode, hjob] at hd
  cases hd
  simp [ofJob, hcode]

/-- The update reaches the document of the job, and no other. -/
theorem Good.increment_eq (h : Good s) (snapshot_name : String) (code : Nat) (add : Bool) :
    incrementJobCounter s.snapshot snapshot_name code add = s.snapshot.map fun d =>
      if ofJob snapshot_name code d then
        { d with job_concurency := some (d.jobs + if add then 1 else -1) } else d := by
  apply update_eq_map h.names
  intro d _ e _ hd he
  simp only [ofJob, Bool.decide_and, Bool.and_eq_true, decide_eq_true_eq] at hd he
  exact hd.1.trans he.1.symm

/-- The names and the codes are not touched by it. -/
theorem Good.increment_keeps (h : Good s) (snapshot_name : String) (code : Nat) (add : Bool) :
    (incrementJobCounter s.snapshot snapshot_name code add).map
        (fun d => (d.snap_name, d.check_code)) =
      s.snapshot.map fun d => (d.snap_name, d.check_code) := by
  rw [h.increment_eq, List.map_map]
  apply List.map_congr_left
  intro d _
  simp only [Function.comp_apply]
  split <;> rfl

/-- Where the names and the codes of the documents are the same, so is what the data needs. -/
theorem DataOwned.of_keys (h : DataOwned s)
    (hkeys : t.snapshot.map (fun d => (d.snap_name, d.check_code)) =
      s.snapshot.map fun d => (d.snap_name, d.check_code))
    (hdata : t.snapshot_data = s.snapshot_data) (hhalf : t.half_deleted = s.half_deleted) :
    DataOwned t := by
  unfold DataOwned at h ⊢
  rw [hdata, hhalf]
  intro e he hnot
  obtain ⟨d, hd, hname, hcode⟩ := h e he hnot
  have hin : (e.snap_name, e.check_code) ∈
      t.snapshot.map fun d => (d.snap_name, d.check_code) := by
    rw [hkeys]
    exact List.mem_map.mpr ⟨d, hd, by rw [hname, hcode]⟩
  obtain ⟨d', hd', heq⟩ := List.mem_map.mp hin
  exact ⟨d', hd', congrArg Prod.fst heq, congrArg Prod.snd heq⟩

/-- A job counts itself in or out, where the new counter covers its new phase. -/
theorem Good.count (h : Good s) {phase : JobPhase}
    (hjob : s.jobs[code]? = some ⟨snapshot_name, phase⟩) (phase' : JobPhase) (add : Bool)
    (hnew : ∀ d ∈ s.snapshot, ofJob snapshot_name code d = true → phase' ≠ .working false ∧
      0 ≤ d.jobs + (if add then 1 else -1) ∧
      (phase' = .working true → 1 ≤ d.jobs + if add then 1 else -1)) :
    Good { s with
      snapshot := incrementJobCounter s.snapshot snapshot_name code add
      jobs := s.jobs.set code ⟨snapshot_name, phase'⟩ } := by
  have hkeys := h.increment_keeps snapshot_name code add
  have hlt := (List.getElem?_eq_some_iff.mp hjob).1
  refine ⟨?_, ?_, h.data.of_keys hkeys rfl rfl, ⟨h.isolated.1, h.isolated.2⟩⟩
  · have hnames := congrArg (List.map Prod.fst) hkeys
    rw [List.map_map, List.map_map] at hnames
    exact hnames ▸ h.names
  · intro d' hd'
    simp only [h.increment_eq] at hd'
    obtain ⟨d, hd, rfl⟩ := List.mem_map.mp hd'
    split
    · rename_i hof
      obtain ⟨hworking, hnonneg, hone⟩ := hnew d hd hof
      simp only [ofJob, Bool.decide_and, Bool.and_eq_true, decide_eq_true_eq] at hof
      refine ⟨phase', ?_, hworking, by simpa [SnapshotDocument.jobs] using hnonneg,
        by simpa [SnapshotDocument.jobs] using hone⟩
      simp only [hof.2, hof.1]
      rw [List.getElem?_set_self hlt]
    · rename_i hof
      apply (h.owned d hd).set_ne
      intro hcode
      exact hof (ofJob_of_code (h.owned d hd) hjob hcode)

/-- A job that only goes away. -/
theorem Good.away (h : Good s) {phase : JobPhase}
    (hjob : s.jobs[code]? = some ⟨snapshot_name, phase⟩) :
    Good { s with jobs := s.jobs.set code ⟨snapshot_name, .gone⟩ } := by
  have hlt := (List.getElem?_eq_some_iff.mp hjob).1
  refine ⟨h.names, ?_, h.data, ⟨h.isolated.1, h.isolated.2⟩⟩
  intro d hd
  by_cases hcode : d.check_code = code
  · obtain ⟨phase', hd', -, hnonneg, -⟩ := h.owned d hd
    rw [hcode, hjob] at hd'
    cases hd'
    exact ⟨.gone, by rw [hcode, List.getElem?_set_self hlt], nofun, hnonneg, nofun⟩
  · exact (h.owned d hd).set_ne hcode _

/-! ## The steps -/

theorem Good.jobStarts (h : Good s) {answers : Bool} (ht : s.jobStarts code answers = some t) :
    Good t := by
  unfold SnapshotSystem.jobStarts at ht
  split at ht
  · rename_i snapshot_name hjob
    split at ht <;> cases ht
    · apply h.count hjob
      intro d hd hof
      obtain ⟨-, -, -, hnonneg, -⟩ := h.owned d hd
      have hany : s.snapshot.any (ofJob snapshot_name code) = true :=
        List.any_eq_true.mpr ⟨d, hd, hof⟩
      refine ⟨by simp [hany], ?_, fun _ => ?_⟩
      all_goals
        simp only [if_true]
        omega
    · exact h.away hjob
  · cases ht

theorem Good.jobEnds (h : Good s) {answers : Bool} (ht : s.jobEnds code answers = some t) :
    Good t := by
  unfold SnapshotSystem.jobEnds at ht
  split at ht
  · rename_i snapshot_name counted hjob
    dsimp only at ht
    split at ht <;> cases ht
    · apply h.count hjob
      intro d hd hof
      obtain ⟨phase, hphase, hworking, -, hone⟩ := h.owned d hd
      simp only [ofJob, Bool.decide_and, Bool.and_eq_true, decide_eq_true_eq] at hof
      rw [hof.2, hjob] at hphase
      cases hphase
      have hcounted : counted = true := by
        cases counted
        · exact absurd rfl hworking
        · rfl
      have := hone (by rw [hcounted])
      refine ⟨nofun, ?_, nofun⟩
      simp only [Bool.false_eq_true, if_false]
      omega
    · exact h.away hjob
  · cases ht

theorem Good.submitJobInfo (h : Good s) (snapshot_name : String) (now : UInt64)
    (answers pushes : Bool) : Good (s.submitJobInfo snapshot_name now answers pushes) := by
  have hold : Good { s with jobs := s.jobs ++ [⟨snapshot_name, .gone⟩] } :=
    ⟨h.names, fun d hd => (h.owned d hd).append _, h.data, ⟨h.isolated.1, h.isolated.2⟩⟩
  unfold SnapshotSystem.submitJobInfo
  split
  · exact h
  dsimp only
  split
  · rename_i snapshot hinsert
    unfold unique_index.insert at hinsert
    split at hinsert
    · cases hinsert
    · rename_i hfree
      cases hinsert
      refine ⟨?_, ?_, ?_, ⟨h.isolated.1, h.isolated.2⟩⟩
      · simp only [List.map_append, List.map_cons, List.map_nil]
        exact numbered_list.nodup_snoc h.names hfree
      · intro d hd
        rcases List.mem_append.mp hd with hd | hd
        · exact (h.owned d hd).append _
        · rw [List.mem_singleton.mp hd]
          refine ⟨if pushes then .queued else .gone, by simp, by split <;> nofun,
            by simp [SnapshotDocument.jobs], ?_⟩
          split <;> nofun
      · intro e he hnot
        obtain ⟨d, hd, hrest⟩ := h.data e he hnot
        exact ⟨d, List.mem_append_left _ hd, hrest⟩
  · exact hold

theorem Good.jobStores (h : Good s) {unique_id dataset_type : String} {data : List UInt8}
    {answers : Bool} (hok : s.InTurn (.jobStores code unique_id dataset_type data answers))
    (ht : s.jobStores code unique_id dataset_type data answers = some t) : Good t := by
  unfold SnapshotSystem.jobStores at ht
  split at ht
  · rename_i snapshot_name counted hjob
    obtain ⟨d, hd, hname, hcode⟩ := hok _ hjob
    split at ht <;> cases ht
    · refine ⟨h.names, h.owned, ?_, ⟨h.isolated.1, h.isolated.2⟩⟩
      intro e he hnot
      have hin : e ∈ upsert (ofProducer snapshot_name unique_id code)
          (fun d => d.setField (unique_id ++ dataset_type) data)
          (⟨snapshot_name, unique_id, code, []⟩ : SnapshotDataDocument) s.snapshot_data := he
      rcases mem_upsert hin with he | ⟨e', he', hp, rfl⟩ | rfl
      · exact h.data e he hnot
      · exact h.data e' he' hnot
      · exact ⟨d, hd, hname, hcode⟩
    · exact h
  · cases ht

/-- The document of a counted job at work is not removed in its turn. -/
theorem Good.not_atWork (h : Good s) {d : SnapshotDocument} (hd : d ∈ s.snapshot)
    (hjobs : d.jobs ≤ 0) : s.atWork d = false := by
  obtain ⟨phase, hphase, -, -, hone⟩ := h.owned d hd
  simp only [atWork, hphase, decide_eq_false_iff_not, Option.some.injEq,
    SnapshotCreationJob.mk.injEq, true_and]
  intro hworking
  have := hone hworking
  omega

theorem Good.deleteRemoves (h : Good s) {call : Nat} {answers : Bool}
    (hok : s.InTurn (.deleteRemoves call answers)) (ht : s.deleteRemoves call answers = some t) :
    Good t := by
  unfold SnapshotSystem.deleteRemoves at ht
  split at ht
  · cases ht
  · rename_i snapshot_name hdelete
    dsimp only at ht
    split at ht <;> cases ht
    · have hrest : (s.snapshot.filter fun d => d.snap_name = snapshot_name).filter s.atWork =
          [] := by
        rw [List.filter_eq_nil_iff]
        intro d hd
        simp only [List.mem_filter, decide_eq_true_eq] at hd
        rw [h.not_atWork hd.1 (hok _ hdelete rfl d hd.1 hd.2)]
        simp
      refine ⟨?_, ?_, ?_, ⟨?_, h.isolated.2⟩⟩
      · exact (List.filter_sublist.map _).nodup h.names
      · intro d hd
        exact h.owned d (List.mem_of_mem_filter hd)
      · intro e he hnot
        by_cases hname : e.snap_name = snapshot_name
        · simp only at hnot
          split at hnot
          · rename_i hfound
            obtain ⟨d, hd, hdname, -⟩ := h.data e he hnot
            refine absurd ?_ (List.filter_eq_nil_iff.mp hfound d hd)
            simp [hdname, hname]
          · simp [hname] at hnot
        · have hnot' : e.snap_name ∉ s.half_deleted := by
            simp only at hnot
            split at hnot
            · exact hnot
            · exact fun hin => hnot (List.mem_cons_of_mem _ hin)
          obtain ⟨d, hd, hdname, hdcode⟩ := h.data e he hnot'
          refine ⟨d, ?_, hdname, hdcode⟩
          simp [List.mem_filter, hd, hdname, hname]
      · simp [hrest, h.isolated.1]
    · exact ⟨h.names, h.owned, h.data, ⟨h.isolated.1, h.isolated.2⟩⟩
  · rename_i snapshot_name hdelete
    split at ht <;> cases ht
    · refine ⟨h.names, h.owned, ?_, ⟨h.isolated.1, h.isolated.2⟩⟩
      intro e he hnot
      simp only [List.mem_filter, ne_eq, decide_not, Bool.not_eq_eq_eq_not,
        Bool.not_true, decide_eq_false_iff_not] at he hnot
      exact h.data e he.1 fun hin => hnot ⟨hin, he.2⟩
    · exact ⟨h.names, h.owned, h.data, ⟨h.isolated.1, h.isolated.2⟩⟩

/-- A name that is unique is looked up with the code of its document. -/
theorem Good.registered (h : Good s) {d : SnapshotDocument} (hd : d ∈ s.snapshot) :
    s.registered d.snap_name = some d.check_code := by
  obtain ⟨e, he⟩ :
      ∃ e, s.snapshot.find? (fun e => decide (e.snap_name = d.snap_name)) = some e := by
    rw [← Option.isSome_iff_exists, List.find?_isSome]
    exact ⟨d, hd, by simp⟩
  have hname : e.snap_name = d.snap_name := by simpa using List.find?_some he
  have heq : e = d := List.inj_on_of_nodup_map h.names (List.mem_of_find?_eq_some he) hd hname
  unfold SnapshotSystem.registered
  rw [he, heq]
  rfl

theorem Good.getDataset (h : Good s) {producer_unique_key dataset_type : String} {choice : Nat}
    {answers : Bool}
    (hok : s.InTurn (.getDataset snapshot_name producer_unique_key dataset_type choice answers))
    (ht : s.getDataset snapshot_name producer_unique_key dataset_type choice answers = some t) :
    Good t := by
  unfold SnapshotSystem.getDataset at ht
  split at ht
  · cases ht
    exact h
  split at ht
  · split at ht <;> cases ht
    exact h
  · rename_i e hchosen
    split at ht <;> cases ht
    · exact h
    · have he := List.mem_of_getElem? hchosen
      simp only [dataOf, List.mem_filter, decide_eq_true_eq] at he
      obtain ⟨hin, hname, -⟩ := he
      obtain ⟨d, hd, hdname, hdcode⟩ := h.data e hin (hname ▸ hok)
      refine ⟨h.names, h.owned, h.data, ⟨h.isolated.1, ?_⟩⟩
      intro r hr
      rcases List.mem_append.mp hr with hr | hr
      · exact h.isolated.2 r hr
      · rw [List.mem_singleton.mp hr]
        simp only
        rw [← hname, ← hdname, h.registered hd, hdcode]

theorem Good.step (h : Good s) {a : Label} (hok : s.InTurn a) (ht : s.step a = some t) :
    Good t := by
  cases a with
  | submitJobInfo snapshot_name now answers pushes =>
    cases ht
    exact h.submitJobInfo snapshot_name now answers pushes
  | jobStarts code answers => exact h.jobStarts ht
  | jobStores code unique_id dataset_type data answers => exact h.jobStores hok ht
  | jobEnds code answers => exact h.jobEnds ht
  | deleteStarts snapshot_name answers =>
    cases ht
    unfold deleteStarts
    split
    · exact ⟨h.names, h.owned, h.data, ⟨h.isolated.1, h.isolated.2⟩⟩
    · exact h
  | deleteRemoves call answers => exact h.deleteRemoves hok ht
  | getDataset name producer type choice answers => exact h.getDataset hok ht

theorem new_good : Good {} := by
  refine ⟨List.nodup_nil, ?_, ?_, rfl, ?_⟩
  · simp
  · simp [DataOwned]
  · simp

/-- The snapshots are isolated in every run whose steps all come in turn. -/
theorem snapshots_are_isolated {labels : List Label} (hok : RunOk step InTurn {} labels)
    (hr : run step {} labels = some t) : IsIsolated t := by
  have hstep : ∀ s a t, Good s → s.InTurn a → step s a = some t → Good t :=
    fun _ _ _ h hin ht => h.step hin ht
  exact (run_keeps_of_ok _ hstep new_good hok hr).isolated

/-- A snapshot is made, read and deleted, and made and read again. -/
theorem two_generations_are_isolated :
    RunOk step InTurn {} [.submitJobInfo "s" 1 true true, .jobStarts 0 true,
        .jobStores 0 "p" "o" [1] true, .jobEnds 0 true, .getDataset "s" "p" "o" 0 true,
        .deleteStarts "s" true, .deleteRemoves 0 true, .deleteRemoves 0 true,
        .submitJobInfo "s" 2 true true, .jobStarts 1 true, .jobStores 1 "p" "o" [2] true,
        .getDataset "s" "p" "o" 0 true] ∧
      ∃ t, run step {} [.submitJobInfo "s" 1 true true, .jobStarts 0 true,
        .jobStores 0 "p" "o" [1] true, .jobEnds 0 true, .getDataset "s" "p" "o" 0 true,
        .deleteStarts "s" true, .deleteRemoves 0 true, .deleteRemoves 0 true,
        .submitJobInfo "s" 2 true true, .jobStarts 1 true, .jobStores 1 "p" "o" [2] true,
        .getDataset "s" "p" "o" 0 true] = some t ∧
        t.reads = [⟨"s", 0, some 0, [1]⟩, ⟨"s", 1, some 1, [2]⟩] ∧ IsIsolated t := by
  have hok : RunOk step InTurn {} [.submitJobInfo "s" 1 true true, .jobStarts 0 true,
      .jobStores 0 "p" "o" [1] true, .jobEnds 0 true, .getDataset "s" "p" "o" 0 true,
      .deleteStarts "s" true, .deleteRemoves 0 true, .deleteRemoves 0 true,
      .submitJobInfo "s" 2 true true, .jobStarts 1 true, .jobStores 1 "p" "o" [2] true,
      .getDataset "s" "p" "o" 0 true] := by decide
  exact ⟨hok, _, rfl, rfl, snapshots_are_isolated hok rfl⟩

/-- A snapshot is deleted while its job is at work. It is made again, and what the first job stores
after that is returned for the name. -/
theorem deleted_snapshot_is_read :
    ∃ t, run step {} [.submitJobInfo "s" 1 true true, .jobStarts 0 true,
        .deleteStarts "s" true, .deleteRemoves 0 true, .deleteRemoves 0 true,
        .submitJobInfo "s" 2 true true, .jobStores 0 "p" "o" [1] true,
        .getDataset "s" "p" "o" 0 true] = some t ∧
      t.removed_at_work = [0] ∧ t.reads = [⟨"s", 0, some 1, [1]⟩] ∧ ¬ IsIsolated t := by
  refine ⟨_, rfl, rfl, rfl, ?_⟩
  intro h
  exact absurd h.removed_at_rest (by decide)

end SnapshotSystem

end chaos.data_service.db_system
