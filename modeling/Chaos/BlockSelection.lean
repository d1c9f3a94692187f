-- The queries that select blocks by their path. A path is turned into a regular expression that is
-- not anchored, so that the path of one file finds the blocks of others, and the two areas are
-- taken for each other.
import Chaos.StageBlocks
import Mathlib.Data.List.Infix

namespace chaos.data_service.vfs

open DataBlockState

/-! ## The queries -/

/-- The document of a block with the time in milliseconds that it is valid until. -/
structure DatedBlock extends BlockDocument where
  valid_until_ts : Int
  deriving DecidableEq

def VFS_STAGE_AREA : String := "stage"

def VFS_DATA_AREA : String := "data"

/-- The regular expression of a path or of an area. -/
def pathRegex (path : String) : String := path ++ ".*"

variable (search : String → String → Bool)

/-- `vfsFindSinceTimeDataBlock`: the blocks that match. Which of them `findOne` gives is left to the
database. -/
def vfsFindSinceTimeDataBlock (db : List DatedBlock) (vfs_domain vfs_fpath : String)
    (timestamp : UInt64) (state : DataBlockState) : List DatedBlock :=
  db.filter fun d =>
    canFind vfs_domain timestamp state d.toBlockDocument && search (pathRegex vfs_fpath) d.vfs_path

/-- `getTimestampWithDelay`, for a time in the past. -/
def getTimestampWithDelay (now : Int) (delay : UInt64) : Int := now - delay.toNat

/-- `vfsChangeStateToOutdatedChunck`. The delay is made milliseconds in 32 bits. -/
def vfsChangeStateToOutdatedChunck (db : List DatedBlock) (domain data_area : String)
    (timeout_state_in_sec : UInt32) (timeout_state new_state : DataBlockState) (now : Int) :
    List DatedBlock :=
  db.map fun d =>
    if d.vfs_domain = domain ∧ search (pathRegex data_area) d.vfs_path = true ∧
        d.state = timeout_state ∧
        d.valid_until_ts < getTimestampWithDelay now (timeout_state_in_sec * 1000).toUInt64 then
      { d with state := new_state }
    else d

def changeStateToTimeoutedDatablock (db : List DatedBlock) (domain : String) (stage_data : Bool)
    (timeout_delay : UInt32) (timeout_state new_state : DataBlockState) (now : Int) :
    List DatedBlock :=
  vfsChangeStateToOutdatedChunck search db domain
    (if stage_data then VFS_DATA_AREA else VFS_STAGE_AREA) timeout_delay timeout_state new_state now

/-! ## The regular expressions of the database -/

/-- Characters that stand for themselves in a regular expression. -/
def Literal (path : String) : Prop :=
  ∀ c ∈ path.toList, c.isAlphanum = true ∨ c = '/' ∨ c = '_' ∨ c = '-'

instance (path : String) : Decidable (Literal path) :=
  inferInstanceAs (Decidable (∀ c ∈ path.toList, _))

/-- The path occurs in another one. -/
def OccursIn (path other : String) : Prop := path.toList <:+: other.toList

instance (path other : String) : Decidable (OccursIn path other) :=
  inferInstanceAs (Decidable (_ <:+: _))

/-- `$regex` finds a path of plain characters anywhere in a string. -/
def FindsAnywhere : Prop :=
  ∀ path other, Literal path → (search (pathRegex path) other = true ↔ OccursIn path other)

/-! ## The blocks of a file -/

/-- The path of a block is the path of its file, and a name behind it. -/
def IsBlockOf (vfs_fpath path : String) : Prop :=
  ∃ name, path = vfs_fpath ++ "/" ++ name ∧ name ≠ "" ∧ '/' ∉ name.toList

/-- A reader of the file can claim the block: it is found, and its state is set then, in the
database as it is by that time. -/
def Claims (db : List DatedBlock) (vfs_domain vfs_fpath : String) (timestamp : UInt64)
    (d : DatedBlock) : Prop :=
  d ∈ vfsFindSinceTimeDataBlock search db vfs_domain vfs_fpath timestamp DataBlockStateNone ∧
    ∃ later env, (vfsSetStateOnDataBlock later d.key DataBlockStateNone DataBlockStateProcessing
      env).2 = (0, true)

/-- All blocks that a reader of the file can claim are blocks of the file. -/
def ClaimsItsBlocks (db : List DatedBlock) (vfs_domain vfs_fpath : String) (timestamp : UInt64) :
    Prop :=
  ∀ d, Claims search db vfs_domain vfs_fpath timestamp d → IsBlockOf vfs_fpath d.vfs_path

/-- No new block of the domain that is not processed and belongs to another file has a path in which
the regular expression of the file is found. -/
def OthersDiffer (db : List DatedBlock) (vfs_domain vfs_fpath : String) (timestamp : UInt64) :
    Prop :=
  ∀ d ∈ db, d.vfs_domain = vfs_domain → d.state = DataBlockStateNone →
    timestamp < d.creation_ts → ¬ IsBlockOf vfs_fpath d.vfs_path →
    search (pathRegex vfs_fpath) d.vfs_path = false

variable {search} {db : List DatedBlock} {vfs_domain vfs_fpath : String} {timestamp : UInt64}

/-- A block that is found can be claimed. -/
theorem claims_iff {d : DatedBlock} : Claims search db vfs_domain vfs_fpath timestamp d ↔
    d ∈ db ∧ d.vfs_domain = vfs_domain ∧ d.state = DataBlockStateNone ∧ timestamp < d.creation_ts ∧
      search (pathRegex vfs_fpath) d.vfs_path = true := by
  have hset : ∃ later env, (vfsSetStateOnDataBlock later d.key DataBlockStateNone
      DataBlockStateProcessing env).2 = (0, true) := ⟨[], ⟨0, true, 0⟩, rfl⟩
  unfold Claims vfsFindSinceTimeDataBlock canFind
  rw [and_iff_left hset, List.mem_filter, Bool.and_eq_true, decide_eq_true_eq]
  simp only [and_assoc]

theorem claimsItsBlocks_iff : ClaimsItsBlocks search db vfs_domain vfs_fpath timestamp ↔
    OthersDiffer search db vfs_domain vfs_fpath timestamp := by
  unfold ClaimsItsBlocks OthersDiffer
  constructor
  · intro h d hd hdomain hstate hnew hother
    by_contra hfound
    have hclaims := claims_iff.mpr ⟨hd, hdomain, hstate, hnew, Bool.eq_true_of_not_eq_false hfound⟩
    exact hother (h d hclaims)
  · intro h d hclaims
    obtain ⟨hd, hdomain, hstate, hnew, hfound⟩ := claims_iff.mp hclaims
    by_contra hother
    rw [h d hd hdomain hstate hnew hother] at hfound
    cases hfound

/-! ## The blocks of an area -/

/-- The path lies in the area. -/
def InArea (area path : String) : Prop := (area ++ "/").toList <+: path.toList

instance (area path : String) : Decidable (InArea area path) :=
  inferInstanceAs (Decidable (_ <+: _))

/-- The area that is asked for, and the other one. -/
def askedArea (stage_data : Bool) : String := if stage_data then VFS_STAGE_AREA else VFS_DATA_AREA

/-- The validity of the block ended more than `delay` seconds ago. -/
def ExpiredFor (delay : UInt32) (now : Int) (d : DatedBlock) : Prop :=
  d.valid_until_ts + delay.toNat * 1000 < now

instance (delay : UInt32) (now : Int) (d : DatedBlock) : Decidable (ExpiredFor delay now d) :=
  inferInstanceAs (Decidable (_ < _))

/-- What the change of the state is for. -/
def outdatedChanged (db : List DatedBlock) (domain : String) (stage_data : Bool) (delay : UInt32)
    (from_state to_state : DataBlockState) (now : Int) : List DatedBlock :=
  db.map fun d =>
    if d.vfs_domain = domain ∧ InArea (askedArea stage_data) d.vfs_path ∧ d.state = from_state ∧
        ExpiredFor delay now d then { d with state := to_state }
    else d

/-- A block is treated right: when it has expired, the name of the other area occurs in its path
just when it lies in the area that is asked for, and when it has only expired for the delay as it
is in 32 bits, the name of the other area does not occur in its path. -/
structure Treated (stage_data : Bool) (delay : UInt32) (now : Int) (d : DatedBlock) : Prop where
  expired : ExpiredFor delay now d →
    (OccursIn (askedArea !stage_data) d.vfs_path ↔ InArea (askedArea stage_data) d.vfs_path)
  early : ¬ ExpiredFor delay now d → d.valid_until_ts + delay.toNat * 1000 % 2 ^ 32 < now →
    ¬ OccursIn (askedArea !stage_data) d.vfs_path

/-- The new state is the old one, or each block of the domain in the old state is treated right. -/
def AreaTreated (db : List DatedBlock) (domain : String) (stage_data : Bool) (delay : UInt32)
    (from_state to_state : DataBlockState) (now : Int) : Prop :=
  from_state = to_state ∨ ∀ d ∈ db, d.vfs_domain = domain → d.state = from_state →
    Treated stage_data delay now d

instance (stage_data : Bool) (delay : UInt32) (now : Int) (d : DatedBlock) :
    Decidable (Treated stage_data delay now d) :=
  decidable_of_iff
    ((ExpiredFor delay now d → (OccursIn (askedArea !stage_data) d.vfs_path ↔
        InArea (askedArea stage_data) d.vfs_path)) ∧
      (¬ ExpiredFor delay now d → d.valid_until_ts + delay.toNat * 1000 % 2 ^ 32 < now →
        ¬ OccursIn (askedArea !stage_data) d.vfs_path))
    ⟨fun h => ⟨h.1, h.2⟩, fun h => ⟨h.expired, h.early⟩⟩

instance (db : List DatedBlock) (domain : String) (stage_data : Bool) (delay : UInt32)
    (from_state to_state : DataBlockState) (now : Int) :
    Decidable (AreaTreated db domain stage_data delay from_state to_state now) :=
  inferInstanceAs (Decidable (_ ∨ ∀ d ∈ db, _))

variable {stage_data : Bool} {delay : UInt32} {now : Int} {d : DatedBlock} {domain : String}
  {from_state to_state : DataBlockState}

theorem literal_askedArea (stage_data : Bool) : Literal (askedArea stage_data) := by
  have hall : (askedArea stage_data).toList.all (fun c =>
      decide (c.isAlphanum = true ∨ c = '/' ∨ c = '_' ∨ c = '-')) = true := by
    cases stage_data <;> decide
  exact fun c hc => of_decide_eq_true (List.all_eq_true.mp hall c hc)

/-- The limit that the query is made with. -/
theorem lt_getTimestampWithDelay : d.valid_until_ts < getTimestampWithDelay now
    (delay * 1000).toUInt64 ↔ d.valid_until_ts + delay.toNat * 1000 % 2 ^ 32 < now := by
  have hmul : (delay * 1000).toUInt64.toNat = delay.toNat * 1000 % 2 ^ 32 := by
    rw [UInt32.toNat_toUInt64, UInt32.toNat_mul]
    rfl
  unfold getTimestampWithDelay
  rw [hmul]
  omega

/-- A block is treated right when it is selected just when it should be. -/
theorem treated_iff : Treated stage_data delay now d ↔
    ((OccursIn (askedArea !stage_data) d.vfs_path ∧
        d.valid_until_ts + delay.toNat * 1000 % 2 ^ 32 < now) ↔
      InArea (askedArea stage_data) d.vfs_path ∧ ExpiredFor delay now d) := by
  have hearlier : ExpiredFor delay now d →
      d.valid_until_ts + delay.toNat * 1000 % 2 ^ 32 < now := by
    unfold ExpiredFor
    omega
  by_cases hexpired : ExpiredFor delay now d
  · simp only [hearlier hexpired, hexpired, and_true]
    exact ⟨fun h => h.expired hexpired, fun h => ⟨fun _ => h, fun hnot => absurd hexpired hnot⟩⟩
  · simp only [hexpired, and_false, iff_false, not_and']
    exact ⟨fun h => h.early hexpired, fun h => ⟨fun hyes => absurd hyes hexpired, fun _ => h⟩⟩

/-- A change of the state is seen unless the block has the state. -/
theorem ite_state_eq_iff {p q : Prop} [Decidable p] [Decidable q] (hne : d.state ≠ to_state) :
    (if p then { d with state := to_state } else d) =
      (if q then { d with state := to_state } else d) ↔ (p ↔ q) := by
  have hchanged : ({ d with state := to_state } : DatedBlock) ≠ d := fun h =>
    hne (congrArg (fun x : DatedBlock => x.state) h).symm
  by_cases hp : p <;> by_cases hq : q <;> simp [hp, hq, hchanged, hchanged.symm]

/-- The state is changed of the right blocks just when each block is treated right. -/
theorem changeState_iff (hsearch : FindsAnywhere search) :
    changeStateToTimeoutedDatablock search db domain stage_data delay from_state to_state now =
        outdatedChanged db domain stage_data delay from_state to_state now ↔
      AreaTreated db domain stage_data delay from_state to_state now := by
  have harea : (if stage_data then VFS_DATA_AREA else VFS_STAGE_AREA) = askedArea !stage_data := by
    cases stage_data <;> rfl
  unfold changeStateToTimeoutedDatablock vfsChangeStateToOutdatedChunck outdatedChanged AreaTreated
  rw [harea, List.map_inj_left]
  by_cases hsame : from_state = to_state
  · -- the state stays as it is
    refine iff_of_true ?_ (.inl hsame)
    intro d _
    have hkept : d.state = from_state → ({ d with state := to_state } : DatedBlock) = d := by
      rintro rfl
      rw [← hsame]
    split_ifs with hcode hasked hasked
    · rfl
    · exact hkept hcode.2.2.1
    · exact (hkept hasked.2.2.1).symm
    · rfl
  · rw [or_iff_right hsame]
    refine forall_congr' fun d => forall_congr' fun _ => ?_
    by_cases hblock : d.vfs_domain = domain ∧ d.state = from_state
    · obtain ⟨hdomain, hstate⟩ := hblock
      rw [ite_state_eq_iff (hstate ▸ hsame), hsearch _ _ (literal_askedArea _),
        lt_getTimestampWithDelay, imp_iff_right hdomain, imp_iff_right hstate, treated_iff]
      simp only [hdomain, hstate, true_and]
    · refine iff_of_true ?_ fun hdomain hstate => absurd ⟨hdomain, hstate⟩ hblock
      rw [if_neg fun hcode => hblock ⟨hcode.1, hcode.2.2.1⟩,
        if_neg fun hasked => hblock ⟨hasked.1, hasked.2.2.1⟩]

/-- A reader claims the blocks of its file only, and the state is changed of the blocks of the area
that have expired and of no others, just when the paths of the other blocks differ from the one of
the file, and each block is treated right. -/
theorem selection_respects_paths_iff (hsearch : FindsAnywhere search) (db : List DatedBlock) :
    (∀ vfs_domain vfs_fpath timestamp,
      ClaimsItsBlocks search db vfs_domain vfs_fpath timestamp ↔
        OthersDiffer search db vfs_domain vfs_fpath timestamp) ∧
    ∀ domain stage_data delay from_state to_state now,
      changeStateToTimeoutedDatablock search db domain stage_data delay from_state to_state now =
          outdatedChanged db domain stage_data delay from_state to_state now ↔
        AreaTreated db domain stage_data delay from_state to_state now :=
  ⟨fun _ _ _ => claimsItsBlocks_iff, fun _ _ _ _ _ _ => changeState_iff hsearch⟩

/-- A search for the paths as they are, that stands for the one of the database. -/
def plainSearch (regex other : String) : Bool :=
  decide (regex.toList.dropLast.dropLast <:+: other.toList)

theorem findsAnywhere_plainSearch : FindsAnywhere plainSearch := by
  intro path other _
  have hend : ".*".toList = ['.', '*'] := by decide
  unfold plainSearch pathRegex OccursIn
  rw [decide_eq_true_eq, String.toList_append, hend,
    List.dropLast_append_of_ne_nil (List.cons_ne_nil _ _)]
  simp

/-- Blocks of two stage files and of a data file. -/
def threeBlocks : List DatedBlock :=
  [⟨⟨"infn", "stage/bpm/1", DataBlockStateNone, 10⟩, 70⟩,
    ⟨⟨"infn", "stage/bpm2/2", DataBlockStateNone, 20⟩, 80⟩,
    ⟨⟨"infn", "data/bpm/3", DataBlockStateQuerable, 30⟩, 90⟩]

/-- The reader of the second file claims its own block only, and before a validity ends nothing is
changed. -/
theorem second_file_is_apart :
    ClaimsItsBlocks plainSearch threeBlocks "infn" "stage/bpm2" 0 ∧
      changeStateToTimeoutedDatablock plainSearch threeBlocks "infn" true 60 DataBlockStateNone
          DataBlockStateProcessing 1000 =
        outdatedChanged threeBlocks "infn" true 60 DataBlockStateNone DataBlockStateProcessing
          1000 := by
  have hselection := selection_respects_paths_iff findsAnywhere_plainSearch threeBlocks
  refine ⟨(hselection.1 _ _ _).mpr ?_, (hselection.2 _ _ _ _ _ _).mpr (by decide)⟩
  intro d hd _ hstate _ hother
  simp only [threeBlocks, List.mem_cons, List.not_mem_nil, or_false] at hd
  rcases hd with rfl | rfl | rfl
  · decide
  · exact absurd ⟨"2", by decide, by decide, by decide⟩ hother
  · cases hstate

/-- The reader of a file claims the block of another file whose path goes on, and the expired blocks
of the data area are changed where the stage area is asked for. -/
theorem selection_takes_other_paths :
    (¬ ∀ search db vfs_domain vfs_fpath timestamp, FindsAnywhere search →
      ClaimsItsBlocks search db vfs_domain vfs_fpath timestamp) ∧
    ¬ ∀ search db domain stage_data delay from_state to_state now, FindsAnywhere search →
      changeStateToTimeoutedDatablock search db domain stage_data delay from_state to_state now =
        outdatedChanged db domain stage_data delay from_state to_state now := by
  constructor
  · intro h
    obtain ⟨name, hname, -⟩ := h plainSearch threeBlocks "infn" "stage/bpm" 0
      findsAnywhere_plainSearch ⟨⟨"infn", "stage/bpm2/2", DataBlockStateNone, 20⟩, 80⟩
      (claims_iff.mpr (by decide))
    have hlist := congrArg String.toList hname
    simp [String.toList_append] at hlist
  · intro h
    have hchanged := h plainSearch threeBlocks "infn" true 60 DataBlockStateQuerable
      DataBlockStateNone 100000 findsAnywhere_plainSearch
    revert hchanged
    decide

end chaos.data_service.vfs
