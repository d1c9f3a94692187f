-- The stage blocks and the workers that index them. Each worker looks for an unprocessed block
-- in the database and then tries to set its state to processing. The database is shared, and
-- the calls of the workers come in any order.
import Chaos.NumberedList
import Mathlib.Data.List.Nodup
import Mathlib.Logic.Function.Iterate
import Chaos.Runs

namespace chaos.data_service.vfs

/-! ## The database -/

inductive DataBlockState
  | DataBlockStateNone
  | DataBlockStateAquiringData
  | DataBlockStateProcessing
  | DataBlockStateProcessed
  | DataBlockStateLocked
  | DataBlockStateUnlocked
  | DataBlockStateQuerable
  deriving DecidableEq

open DataBlockState

/-- The document of a data block. -/
structure BlockDocument where
  vfs_domain : String
  vfs_path : String
  state : DataBlockState
  creation_ts : UInt64
  deriving DecidableEq

/-- What names a block: its domain and its path in the domain. -/
def BlockDocument.key (d : BlockDocument) : String × String := (d.vfs_domain, d.vfs_path)

/-- The values that a reply of the database holds here. -/
inductive BSONValue
  | null
  | number (n : Int)
  | document (d : BlockDocument)
  deriving DecidableEq

/-- A reply of the database: its fields, in order. -/
abbrev BSONObj := List (String × BSONValue)

/-- The query of the compare and set: domain, path and state. -/
def queryBlock (key : String × String) (cur_state : DataBlockState) (d : BlockDocument) : Bool :=
  decide (d.key = key ∧ d.state = cur_state)

/-- The update of the first document that the query finds, with the document as it was. -/
def updateFirst (query : BlockDocument → Bool) (new_state : DataBlockState) :
    List BlockDocument → List BlockDocument × Option BlockDocument
  | [] => ([], none)
  | d :: ds =>
    if query d then ({ d with state := new_state } :: ds, some d)
    else
      let r := updateFirst query new_state ds
      (d :: r.1, r.2)

/-- The command `findAndModify`: one atomic step of the database. The reply has the fields
`value` and `ok` also when no document matches. -/
def findAndModify (db : List BlockDocument) (query : BlockDocument → Bool)
    (new_state : DataBlockState) : List BlockDocument × BSONObj :=
  let r := updateFirst query new_state db
  (r.1, [("value", r.2.elim .null .document), ("ok", .number 1)])

/-- What happens to a command on its way: how often the database ran it with no answer (the
connection was lost and the next one was tried), whether an answer came at last, and the error
of the connection. -/
structure CommandEnv where
  lost : Nat
  answered : Bool
  err : Int
  deriving DecidableEq

def runCommand (db : List BlockDocument) (query : BlockDocument → Bool)
    (new_state : DataBlockState) (env : CommandEnv) : List BlockDocument × BSONObj × Int :=
  let db := (fun db => (findAndModify db query new_state).1)^[env.lost] db
  if env.answered then
    let r := findAndModify db query new_state
    (r.1, r.2, env.err)
  else (db, [], env.err)

/-- `vfsSetStateOnDataBlock` with a current and a new state: the database after it, the error
and the flag `success`. -/
def vfsSetStateOnDataBlock (db : List BlockDocument) (key : String × String)
    (cur_state new_state : DataBlockState) (env : CommandEnv) : List BlockDocument × Int × Bool :=
  let (db, result, err) := runCommand db (queryBlock key cur_state) new_state env
  if err ≠ 0 then (db, err, false)
  else if result.isEmpty then (db, -1, false)
  else (db, 0, true)

/-- Can `vfsFindSinceTimeDataBlock` give this document? Which paths match the regular
expression of the file is left to the database. -/
def canFind (vfs_domain : String) (timestamp : UInt64) (state : DataBlockState)
    (d : BlockDocument) : Bool :=
  decide (d.vfs_domain = vfs_domain ∧ d.state = state ∧ timestamp < d.creation_ts)

/-! ## The workers -/

/-- Where a worker is in `getNextAvailbaleBlock`: it has no block, it has found one, or it has
set the state of its block. -/
inductive WorkerBlock
  | none
  | found (d : BlockDocument)
  | current (d : BlockDocument)
  deriving DecidableEq

/-- The stage file of one worker. -/
structure VFSStageReadableFile where
  vfs_domain : String
  current_block_creation_ts : UInt64
  current_data_block : WorkerBlock
  deriving DecidableEq

/-- A claim: the compare and set reported success to this worker for this block. -/
structure Claim where
  worker : Nat
  block : String × String
  deriving DecidableEq

/-- The database, the workers, and the claims that were made so far. -/
structure StageSystem where
  db : List BlockDocument
  worker : Nat → VFSStageReadableFile
  claims : List Claim

/-- The calls of the system. A worker `w` looks for a block, sets its state, and at the end
deletes the block that it has processed. The stage writers add blocks and close them. -/
inductive StageCall
  | vfsAddNewDataBlock (d : BlockDocument)
  | closeStageBlock (key : String × String)
  | vfsFindSinceTimeDataBlock (w : Nat) (err : Int) (result : Option BlockDocument)
  | vfsSetStateOnDataBlock (w : Nat) (env : CommandEnv) (openErr : Int)
  | processed (w : Nat)

namespace StageSystem

def setWorker (s : StageSystem) (w : Nat) (f : VFSStageReadableFile) : StageSystem :=
  { s with worker := Function.update s.worker w f }

/-- A worker with no block looks for an unprocessed one. `result` is the document that the
database gives, if any. -/
def find (s : StageSystem) (w : Nat) (err : Int) (result : Option BlockDocument) :
    Option StageSystem :=
  let f := s.worker w
  if f.current_data_block ≠ .none then none
  else if err ≠ 0 then some s
  else
    match result with
    | none => some s
    | some d =>
      if d ∈ s.db ∧ canFind f.vfs_domain f.current_block_creation_ts DataBlockStateNone d then
        some (s.setWorker w { f with current_data_block := .found d })
      else none

/-- The state of the block that was found goes from none to processing. The worker keeps the
block when the call reports success and the block can be opened. -/
def set (s : StageSystem) (w : Nat) (env : CommandEnv) (openErr : Int) : Option StageSystem :=
  let f := s.worker w
  match f.current_data_block with
  | .found d =>
    let (db, _, success) :=
      vfs.vfsSetStateOnDataBlock s.db (f.vfs_domain, d.vfs_path) DataBlockStateNone
        DataBlockStateProcessing env
    let s := { s with
      db := db
      claims := s.claims ++ if success then [Claim.mk w (f.vfs_domain, d.vfs_path)] else [] }
    if success && openErr = 0 then
      some (s.setWorker w { f with
        current_block_creation_ts := d.creation_ts
        current_data_block := .current d })
    else
      some (s.setWorker w { f with
        current_block_creation_ts := 0
        current_data_block := .none })
  | _ => none

/-- A worker has read its block to the end: the block leaves the database. -/
def processed (s : StageSystem) (w : Nat) : Option StageSystem :=
  let f := s.worker w
  match f.current_data_block with
  | .current d =>
    some ({ s with
      db := s.db.filter fun x => x.key ≠ (f.vfs_domain, d.vfs_path) }.setWorker w
        { f with current_data_block := .none })
  | _ => none

/-- A stage writer closes a block that it has filled. -/
def closeStageBlock (s : StageSystem) (key : String × String) : StageSystem :=
  { s with
    db := s.db.map fun d =>
      if d.key = key ∧ d.state = DataBlockStateAquiringData then
        { d with state := DataBlockStateNone }
      else d }

/-- An empty database, and workers with no block. -/
def create (vfs_domain : Nat → String) : StageSystem where
  db := []
  worker := fun w => ⟨vfs_domain w, 0, .none⟩
  claims := []

end StageSystem

def stageStep (s : StageSystem) : StageCall → Option StageSystem
  | .vfsAddNewDataBlock d => some { s with db := s.db ++ [d] }
  | .closeStageBlock key => some (s.closeStageBlock key)
  | .vfsFindSinceTimeDataBlock w err result => s.find w err result
  | .vfsSetStateOnDataBlock w env openErr => s.set w env openErr
  | .processed w => s.processed w

/-! ## The compare and set -/

variable {s t : StageSystem} {db : List BlockDocument} {key : String × String}

/-- The update leaves the keys alone, and changes a state to the new one only. -/
theorem updateFirst_keys (query : BlockDocument → Bool) (new_state : DataBlockState) :
    ∀ db, (updateFirst query new_state db).1.map BlockDocument.key = db.map BlockDocument.key
  | [] => rfl
  | d :: ds => by
    unfold updateFirst
    split
    · rfl
    · simp [updateFirst_keys query new_state ds]

theorem mem_updateFirst {query : BlockDocument → Bool} {new_state : DataBlockState}
    {d : BlockDocument} : ∀ {db : List BlockDocument}, d ∈ (updateFirst query new_state db).1 →
    ∃ d₀ ∈ db, d.key = d₀.key ∧ (d.state = d₀.state ∨ d.state = new_state)
  | [], hd => by simp [updateFirst] at hd
  | x :: xs, hd => by
    unfold updateFirst at hd
    split at hd
    · rcases List.mem_cons.mp hd with rfl | hd
      · exact ⟨x, List.mem_cons_self, rfl, Or.inr rfl⟩
      · exact ⟨d, List.mem_cons_of_mem _ hd, rfl, Or.inl rfl⟩
    · rcases List.mem_cons.mp hd with rfl | hd
      · exact ⟨d, List.mem_cons_self, rfl, Or.inl rfl⟩
      · obtain ⟨d₀, hd₀, hsame⟩ := mem_updateFirst hd
        exact ⟨d₀, List.mem_cons_of_mem _ hd₀, hsame⟩

/-- A block that is there with the current state has the new state after the update. -/
theorem updateFirst_sets {cur_state new_state : DataBlockState} {d : BlockDocument} :
    ∀ {db : List BlockDocument}, (db.map BlockDocument.key).Nodup →
    (∃ d₀ ∈ db, queryBlock key cur_state d₀ = true) →
    d ∈ (updateFirst (queryBlock key cur_state) new_state db).1 → d.key = key →
    d.state = new_state
  | [], _, ⟨_, hd₀, _⟩, _, _ => by cases hd₀
  | x :: xs, hnodup, ⟨d₀, hd₀, hq⟩, hd, hkey => by
    rw [List.map_cons] at hnodup
    have hnodup' := List.nodup_cons.mp hnodup
    unfold updateFirst at hd
    split at hd
    · rename_i hx
      simp only [queryBlock, decide_eq_true_eq] at hx
      rcases List.mem_cons.mp hd with rfl | hd
      · rfl
      · -- a second document with the key of the first one
        exact absurd (List.mem_map.mpr ⟨d, hd, hkey.trans hx.1.symm⟩) hnodup'.1
    · rename_i hx
      have hd₀' : d₀ ∈ xs := by
        rcases List.mem_cons.mp hd₀ with rfl | h
        · exact absurd hq hx
        · exact h
      simp only [queryBlock, decide_eq_true_eq] at hq
      rcases List.mem_cons.mp hd with rfl | hd
      · exact absurd (List.mem_map.mpr ⟨d₀, hd₀', hq.1.trans hkey.symm⟩) hnodup'.1
      · exact updateFirst_sets hnodup'.2 ⟨d₀, hd₀', by simpa [queryBlock] using hq⟩ hd hkey

/-! ## The invariant -/

/-- The blocks have distinct keys, a claimed block is in the processing state as long as it is
in the database, and no block was claimed twice. -/
structure StageGood (s : StageSystem) : Prop where
  keys : (s.db.map BlockDocument.key).Nodup
  claimed : ∀ c ∈ s.claims, ∀ d ∈ s.db, d.key = c.block → d.state = DataBlockStateProcessing
  once : (s.claims.map Claim.block).Nodup

/-- The database after commands that may set states to processing. -/
structure Processes (db db' : List BlockDocument) : Prop where
  keys : db'.map BlockDocument.key = db.map BlockDocument.key
  mem : ∀ d ∈ db', ∃ d₀ ∈ db, d.key = d₀.key ∧
    (d.state = d₀.state ∨ d.state = DataBlockStateProcessing)

variable {db' db'' : List BlockDocument}

theorem Processes.refl (db : List BlockDocument) : Processes db db :=
  ⟨rfl, fun d hd => ⟨d, hd, rfl, Or.inl rfl⟩⟩

theorem Processes.trans (h : Processes db db') (h' : Processes db' db'') : Processes db db'' := by
  refine ⟨h'.keys.trans h.keys, ?_⟩
  intro d hd
  obtain ⟨d₁, hd₁, hkey₁, hstate₁⟩ := h'.mem d hd
  obtain ⟨d₀, hd₀, hkey₀, hstate₀⟩ := h.mem d₁ hd₁
  refine ⟨d₀, hd₀, hkey₁.trans hkey₀, ?_⟩
  rcases hstate₁ with h₁ | h₁
  · rw [h₁]
    exact hstate₀
  · exact Or.inr h₁

/-- A block that is in the processing state stays there. -/
theorem Processes.processing (h : Processes db db')
    (hkey : ∀ d ∈ db, d.key = key → d.state = DataBlockStateProcessing) :
    ∀ d ∈ db', d.key = key → d.state = DataBlockStateProcessing := by
  intro d hd hk
  obtain ⟨d₀, hd₀, hkey₀, hstate | hstate⟩ := h.mem d hd
  · rw [hstate]
    exact hkey d₀ hd₀ (hkey₀.symm.trans hk)
  · exact hstate

/-- The command of a claim. -/
def claimCommand (key : String × String) (db : List BlockDocument) : List BlockDocument :=
  (findAndModify db (queryBlock key DataBlockStateNone) DataBlockStateProcessing).1

theorem processes_claimCommand (key : String × String) (db : List BlockDocument) :
    Processes db (claimCommand key db) :=
  ⟨updateFirst_keys _ _ db, fun _ hd => mem_updateFirst hd⟩

theorem processes_iterate (key : String × String) (n : Nat) (db : List BlockDocument) :
    Processes db ((claimCommand key)^[n] db) := by
  induction n generalizing db with
  | zero => exact .refl db
  | succ n ih =>
    rw [Function.iterate_succ_apply]
    exact (processes_claimCommand key db).trans (ih _)

/-- The compare and set, as runs of the command of a claim. -/
theorem vfsSetStateOnDataBlock_db (key : String × String) (db : List BlockDocument)
    (env : CommandEnv) :
    (vfsSetStateOnDataBlock db key DataBlockStateNone DataBlockStateProcessing env).1 =
      if env.answered then claimCommand key ((claimCommand key)^[env.lost] db)
      else (claimCommand key)^[env.lost] db := by
  have hiterate : (fun db => (findAndModify db (queryBlock key DataBlockStateNone)
      DataBlockStateProcessing).1) = claimCommand key := rfl
  unfold vfsSetStateOnDataBlock runCommand
  rw [hiterate]
  cases env.answered with
  | false => by_cases herr : env.err = 0 <;> simp [herr]
  | true => by_cases herr : env.err = 0 <;> simp [herr, findAndModify, claimCommand]

/-- The compare and set reports success for every answer that comes with no error. -/
theorem vfsSetStateOnDataBlock_success (key : String × String) (db : List BlockDocument)
    (env : CommandEnv) :
    (vfsSetStateOnDataBlock db key DataBlockStateNone DataBlockStateProcessing env).2.2 =
      (env.answered && decide (env.err = 0)) := by
  unfold vfsSetStateOnDataBlock runCommand
  cases env.answered <;> by_cases herr : env.err = 0 <;> simp [herr, findAndModify]

theorem processes_set (key : String × String) (db : List BlockDocument) (env : CommandEnv) :
    Processes db
      (vfsSetStateOnDataBlock db key DataBlockStateNone DataBlockStateProcessing env).1 := by
  rw [vfsSetStateOnDataBlock_db]
  split
  · exact (processes_iterate key env.lost db).trans (processes_claimCommand key _)
  · exact processes_iterate key env.lost db

/-- A claim on a block that is unprocessed in the database leaves it in processing. -/
theorem set_processing (env : CommandEnv) (hkeys : (db.map BlockDocument.key).Nodup)
    (hfound : ∃ d ∈ db, queryBlock key DataBlockStateNone d = true)
    (hanswered : env.answered = true) :
    ∀ d ∈ (vfsSetStateOnDataBlock db key DataBlockStateNone DataBlockStateProcessing env).1,
      d.key = key → d.state = DataBlockStateProcessing := by
  have hfirst : ∀ d ∈ claimCommand key db, d.key = key → d.state = DataBlockStateProcessing :=
    fun d hd hk => updateFirst_sets hkeys hfound hd hk
  rw [vfsSetStateOnDataBlock_db, hanswered, if_pos rfl]
  cases env.lost with
  | zero => exact hfirst
  | succ n =>
    -- the first run of the command, whose answer was lost, has set the state
    rw [Function.iterate_succ_apply]
    exact ((processes_iterate key n _).trans (processes_claimCommand key _)).processing hfirst

/-! ## Every run -/

/-- A new block has a key of its own (its path ends in a UUID), and a compare and set that is
answered finds the block still unprocessed. -/
def Unraced (s : StageSystem) : StageCall → Prop
  | .vfsAddNewDataBlock d => d.key ∉ s.db.map BlockDocument.key ∧ d.key ∉ s.claims.map Claim.block
  | .vfsSetStateOnDataBlock w env _ =>
    match (s.worker w).current_data_block with
    | .found d => env.answered = true → env.err = 0 →
        ∃ x ∈ s.db, queryBlock ((s.worker w).vfs_domain, d.vfs_path) DataBlockStateNone x = true
    | _ => True
  | _ => True

instance Unraced.decidable (s : StageSystem) : ∀ a, Decidable (Unraced s a)
  | .vfsAddNewDataBlock d => inferInstanceAs (Decidable (d.key ∉ _ ∧ d.key ∉ _))
  | .vfsSetStateOnDataBlock w env _ =>
    match h : (s.worker w).current_data_block with
    | .found d => decidable_of_iff (env.answered = true → env.err = 0 →
        ∃ x ∈ s.db, queryBlock ((s.worker w).vfs_domain, d.vfs_path) DataBlockStateNone x = true)
        (by simp only [Unraced, h])
    | .none => isTrue (by simp only [Unraced, h])
    | .current _ => isTrue (by simp only [Unraced, h])
  | .closeStageBlock _ | .vfsFindSinceTimeDataBlock _ _ _ | .processed _ => isTrue trivial

theorem StageGood.setWorker (h : StageGood s) (w : Nat) (f : VFSStageReadableFile) :
    StageGood (s.setWorker w f) :=
  ⟨h.keys, h.claimed, h.once⟩

theorem good_find (h : StageGood s) {w : Nat} {err : Int} {result : Option BlockDocument}
    (hstep : s.find w err result = some t) : StageGood t := by
  unfold StageSystem.find at hstep
  simp only at hstep
  split at hstep
  · cases hstep
  · split at hstep
    · cases hstep
      exact h
    · split at hstep
      · cases hstep
        exact h
      · split at hstep
        · cases hstep
          exact h.setWorker _ _
        · cases hstep

/-- The database and the claims after a compare and set. -/
theorem good_claim (h : StageGood s) {w : Nat} {env : CommandEnv}
    (hfound : env.answered = true → env.err = 0 →
      ∃ x ∈ s.db, queryBlock key DataBlockStateNone x = true) :
    StageGood { s with
      db := (vfsSetStateOnDataBlock s.db key DataBlockStateNone DataBlockStateProcessing env).1
      claims := s.claims ++
        if (vfsSetStateOnDataBlock s.db key DataBlockStateNone DataBlockStateProcessing env).2.2
        then [Claim.mk w key] else [] } := by
  have hp := processes_set key s.db env
  have hkeys : (((vfsSetStateOnDataBlock s.db key DataBlockStateNone DataBlockStateProcessing
      env).1).map BlockDocument.key).Nodup := by
    rw [hp.keys]
    exact h.keys
  rw [vfsSetStateOnDataBlock_success]
  split
  · rename_i hsuccess
    simp only [Bool.and_eq_true, decide_eq_true_eq] at hsuccess
    obtain ⟨x, hx, hq⟩ := hfound hsuccess.1 hsuccess.2
    have hx' : x.key = key ∧ x.state = DataBlockStateNone := by simpa [queryBlock] using hq
    -- the block is still unprocessed, so nobody has claimed it
    have hnew : key ∉ s.claims.map Claim.block := by
      intro hmem
      obtain ⟨c, hc, hblock⟩ := List.mem_map.mp hmem
      have hprocessing := h.claimed c hc x hx (hx'.1.trans hblock.symm)
      rw [hx'.2] at hprocessing
      cases hprocessing
    refine ⟨hkeys, ?_, ?_⟩
    · intro c hc d hd hk
      rcases List.mem_append.mp hc with hc | hc
      · exact hp.processing (fun d hd => h.claimed c hc d hd) d hd hk
      · rw [List.mem_singleton.mp hc] at hk
        exact set_processing env h.keys ⟨x, hx, hq⟩ hsuccess.1 d hd hk
    · rw [List.map_append, List.map_singleton]
      exact numbered_list.nodup_snoc h.once hnew
  · rw [List.append_nil]
    exact ⟨hkeys, fun c hc => hp.processing (fun d hd => h.claimed c hc d hd), h.once⟩

theorem good_set (h : StageGood s) {w : Nat} {env : CommandEnv} {openErr : Int}
    (hunraced : Unraced s (.vfsSetStateOnDataBlock w env openErr))
    (hstep : s.set w env openErr = some t) : StageGood t := by
  unfold StageSystem.set at hstep
  unfold Unraced at hunraced
  cases hblock : (s.worker w).current_data_block with
  | none => simp [hblock] at hstep
  | current d => simp [hblock] at hstep
  | found d =>
    simp only [hblock] at hstep hunraced
    have hgood := good_claim h (w := w) hunraced
    split at hstep
    · cases hstep
      exact hgood.setWorker _ _
    · cases hstep
      exact hgood.setWorker _ _

theorem good_processed (h : StageGood s) {w : Nat} (hstep : s.processed w = some t) :
    StageGood t := by
  unfold StageSystem.processed at hstep
  cases hblock : (s.worker w).current_data_block with
  | none => simp [hblock] at hstep
  | found d => simp [hblock] at hstep
  | current d =>
    simp only [hblock] at hstep
    cases hstep
    have hgood : StageGood { s with
        db := s.db.filter fun x => x.key ≠ ((s.worker w).vfs_domain, d.vfs_path) } :=
      ⟨h.keys.sublist (List.filter_sublist.map _),
        fun c hc x hx => h.claimed c hc x (List.mem_filter.mp hx).1, h.once⟩
    exact hgood.setWorker _ _

theorem good_closeStageBlock (h : StageGood s) (key : String × String) :
    StageGood (s.closeStageBlock key) := by
  have hkey : ∀ d : BlockDocument,
      (if d.key = key ∧ d.state = DataBlockStateAquiringData then
        { d with state := DataBlockStateNone } else d).key = d.key := by
    intro d
    split <;> rfl
  refine ⟨?_, ?_, h.once⟩
  · simp only [StageSystem.closeStageBlock, List.map_map]
    rw [show BlockDocument.key ∘ _ = BlockDocument.key from funext hkey]
    exact h.keys
  · intro c hc x hx hk
    obtain ⟨d, hd, rfl⟩ := List.mem_map.mp hx
    have hprocessing := h.claimed c hc d hd ((hkey d).symm.trans hk)
    simp only [hprocessing]
    simp [hprocessing]

theorem good_stageStep (h : StageGood s) {a : StageCall} (hunraced : Unraced s a)
    (hstep : stageStep s a = some t) : StageGood t := by
  cases a with
  | vfsAddNewDataBlock d =>
    cases hstep
    refine ⟨?_, ?_, h.once⟩
    · rw [List.map_append, List.map_singleton]
      exact numbered_list.nodup_snoc h.keys hunraced.1
    · intro c hc x hx hk
      rcases List.mem_append.mp hx with hx | hx
      · exact h.claimed c hc x hx hk
      · rw [List.mem_singleton.mp hx] at hk
        exact absurd (List.mem_map.mpr ⟨c, hc, hk.symm⟩) hunraced.2
  | closeStageBlock key =>
    cases hstep
    exact good_closeStageBlock h key
  | vfsFindSinceTimeDataBlock w err result => exact good_find h hstep
  | vfsSetStateOnDataBlock w env openErr => exact good_set h hunraced hstep
  | processed w => exact good_processed h hstep

/-- No block was claimed by two workers. -/
def ClaimedByOne (s : StageSystem) : Prop :=
  ∀ c ∈ s.claims, ∀ c' ∈ s.claims, c.block = c'.block → c.worker = c'.worker

instance ClaimedByOne.decidable (s : StageSystem) : Decidable (ClaimedByOne s) :=
  inferInstanceAs (Decidable (∀ c ∈ s.claims, ∀ c' ∈ s.claims, _ → _))

/-- In every run in which each answered compare and set finds the block still unprocessed, no
block is claimed by two workers. -/
theorem stage_blocks_are_claimed_by_one (vfs_domain : Nat → String) (calls : List StageCall)
    (s : StageSystem) (hok : runs.RunOk stageStep Unraced (StageSystem.create vfs_domain) calls)
    (hrun : runs.run stageStep (StageSystem.create vfs_domain) calls = some s) :
    ClaimedByOne s := by
  have hgood : StageGood s := by
    refine runs.run_keeps_of_ok StageGood ?_ ⟨?_, ?_, ?_⟩ hok hrun
    · intro s a t h hunraced hstep
      exact good_stageStep h hunraced hstep
    · exact List.nodup_nil
    · intro c hc
      cases hc
    · exact List.nodup_nil
  intro c hc c' hc' hblock
  rw [List.inj_on_of_nodup_map hgood.once hc hc' hblock]

def aBlock (path : String) : BlockDocument := ⟨"x", path, DataBlockStateNone, 1⟩

/-- A compare and set whose answer comes at once. -/
def aClaim (w : Nat) : StageCall := .vfsSetStateOnDataBlock w ⟨0, true, 0⟩ 0

/-- Two workers with two blocks, one after the other. -/
def quietRun : List StageCall :=
  [.vfsAddNewDataBlock (aBlock "a"), .vfsAddNewDataBlock (aBlock "b"),
   .vfsFindSinceTimeDataBlock 0 0 (some (aBlock "a")), aClaim 0,
   .vfsFindSinceTimeDataBlock 1 0 (some (aBlock "b")), aClaim 1, .processed 0]

theorem claims_of_quiet_run :
    (∃ s, runs.run stageStep (StageSystem.create fun _ => "x") quietRun = some s) ∧
    ∀ s, runs.run stageStep (StageSystem.create fun _ => "x") quietRun = some s →
      ClaimedByOne s :=
  ⟨⟨_, rfl⟩, fun s hs => stage_blocks_are_claimed_by_one _ quietRun s (by decide) hs⟩

/-- Two workers find the same block before either has set its state. -/
def racedRun : List StageCall :=
  [.vfsAddNewDataBlock (aBlock "a"), .vfsFindSinceTimeDataBlock 0 0 (some (aBlock "a")),
   .vfsFindSinceTimeDataBlock 1 0 (some (aBlock "a")), aClaim 0, aClaim 1]

/-- The answer to the second worker has no document, and it is not empty. -/
theorem raced_block_is_claimed_twice :
    ¬ ∀ (vfs_domain : Nat → String) (calls : List StageCall) (s : StageSystem),
      runs.run stageStep (StageSystem.create vfs_domain) calls = some s → ClaimedByOne s := by
  intro h
  have hbad : ∀ s ∈ runs.run stageStep (StageSystem.create fun _ => "x") racedRun,
      ¬ ClaimedByOne s := by decide
  obtain ⟨s, hs⟩ : ∃ s, runs.run stageStep (StageSystem.create fun _ => "x") racedRun = some s :=
    ⟨_, rfl⟩
  exact hbad s hs (h _ racedRun s hs)

end chaos.data_service.vfs
