-- The features of a command over a history of calls. A call that sets a feature sets its bit, and
-- `clearFeatures` flips it, so that the bits follow the whole history and not the last calls alone.
import Chaos.BatchCommand

namespace chaos.batch_command

/-! ## The calls -/

/-- A call for a feature, or a change of the lock. -/
inductive FeatureCall
  | setFeatures32 (f : FeatureFlag) (value : UInt32)
  | setFeatures64 (f : FeatureFlag) (value : UInt64)
  | clearFeatures (f : FeatureFlag)
  | lock (flags : BitVec 3)
  deriving DecidableEq

def FeatureCall.apply (b : BatchCommand) : FeatureCall → BatchCommand
  | .setFeatures32 f value => b.setFeatures32 f value
  | .setFeatures64 f value => b.setFeatures64 f value
  | .clearFeatures f => b.clearFeatures f
  | .lock flags => { b with lockFeaturePropertyFlag := flags }

/-- The feature that a call is for. -/
def FeatureCall.feature : FeatureCall → Option FeatureFlag
  | .setFeatures32 f _ | .setFeatures64 f _ | .clearFeatures f => some f
  | .lock _ => none

namespace BatchCommand

/-- What the constructor leaves in the memory of a command. -/
def construct (memory : BatchCommand) : BatchCommand :=
  { memory with
    already_setupped := false
    lockFeaturePropertyFlag := 0
    commandFeatures := ⟨0, 0, 0, 0⟩
    runningProperty := RP_Normal
    submissionRule := SUBMIT_NORMAL }

def after (b : BatchCommand) (calls : List FeatureCall) : BatchCommand :=
  calls.foldl FeatureCall.apply b

def hasFeature (b : BatchCommand) (f : FeatureFlag) : Bool :=
  decide (b.commandFeatures.featuresFlag &&& f.bit ≠ 0)

/-- The value of a feature. The lock of the user modifications has none. -/
def featureValue (b : BatchCommand) : FeatureFlag → Option UInt64
  | .FF_SET_SCHEDULER_DELAY => some b.commandFeatures.featureSchedulerStepsDelay
  | .FF_SET_SUBMISSION_RETRY => some b.commandFeatures.featureSubmissionRetryDelay.toUInt64
  | .FF_SET_COMMAND_TIMEOUT => some b.commandFeatures.featureCommandTimeout
  | .FF_LOCK_USER_MOD => none

end BatchCommand

/-! ## The history of a feature -/

/-- The last call for a feature: there was none, it set the feature to a value, it was a
`setFeatures` of the overload that does not know the feature, or it was a `clearFeatures`. -/
inductive LastCall
  | none
  | set (value : UInt64)
  | ignored
  | cleared
  deriving DecidableEq

/-- The calls for one feature that were made while the features were not locked: the last of them,
whether the feature was ever set, and how often it was cleared since. -/
structure FeatureHistory where
  last : LastCall := .none
  wasSet : Bool := false
  clears : Nat := 0
  deriving DecidableEq

namespace FeatureHistory

def set (_ : FeatureHistory) (value : UInt64) : FeatureHistory := ⟨.set value, true, 0⟩

def ignore (h : FeatureHistory) : FeatureHistory := { h with last := .ignored }

def clear (h : FeatureHistory) : FeatureHistory :=
  { h with last := .cleared, clears := h.clears + 1 }

/-- What a call for its feature adds to the history of the feature. -/
def add (h : FeatureHistory) : FeatureCall → FeatureHistory
  | .setFeatures32 .FF_SET_SUBMISSION_RETRY value => h.set value.toUInt64
  | .setFeatures64 .FF_SET_SCHEDULER_DELAY value => h.set value
  | .setFeatures64 .FF_SET_COMMAND_TIMEOUT value => h.set value
  | .setFeatures32 _ _ | .setFeatures64 _ _ => h.ignore
  | .clearFeatures _ => h.clear
  | .lock _ => h

/-- The histories of all the features, and the lock. -/
structure All where
  locked : Bool := false
  features : FeatureFlag → FeatureHistory := fun _ => {}

def All.add (h : All) (call : FeatureCall) : All :=
  match call with
  | .lock flags => { h with locked := flags.getLsbD 0 || flags.getLsbD 2 }
  | call =>
    if h.locked then h
    else { h with
      features := fun f =>
        if call.feature = some f then (h.features f).add call else h.features f }

def of (calls : List FeatureCall) : All := calls.foldl All.add {}

end FeatureHistory

/-! ## What is claimed -/

/-- A feature is set just when the last call for it set it, and has the value of that call then. -/
def FollowsLastCall (b : BatchCommand) (h : FeatureHistory) (f : FeatureFlag) : Prop :=
  (b.hasFeature f = true ↔ ∃ value, h.last = .set value) ∧
    ∀ value, h.last = .set value → b.featureValue f = some value

/-- The call leaves the other features as they are. -/
def LeavesOthers (b : BatchCommand) (call : FeatureCall) : Prop :=
  ∀ f, call.feature ≠ some f →
    (call.apply b).hasFeature f = b.hasFeature f ∧
      (call.apply b).featureValue f = b.featureValue f

/-- The features follow the last calls for them, and each of the calls is for its own feature. -/
def FeaturesFollow (memory : BatchCommand) (calls : List FeatureCall) : Prop :=
  (∀ f, FollowsLastCall (memory.construct.after calls) ((FeatureHistory.of calls).features f) f) ∧
    ∀ before call rest, calls = before ++ call :: rest →
      LeavesOthers (memory.construct.after before) call

/-- The clears since the feature was set turned it off: there is an odd number of them, or an even
one where the feature was never set. -/
def FeatureHistory.TurnedOff (h : FeatureHistory) : Prop :=
  h.clears % 2 = if h.wasSet then 1 else 0

instance (h : FeatureHistory) : Decidable h.TurnedOff := inferInstanceAs (Decidable (_ = _))

/-- Each feature that the last call for it did not set was turned off by the clears. -/
def ClearedInTurn (calls : List FeatureCall) : Prop :=
  ∀ f, (∀ value, ((FeatureHistory.of calls).features f).last ≠ .set value) →
    ((FeatureHistory.of calls).features f).TurnedOff

/-! ## The bits -/

/-- The place of the bit of a feature. -/
def FeatureFlag.place : FeatureFlag → Nat
  | .FF_SET_SCHEDULER_DELAY => 0
  | .FF_SET_SUBMISSION_RETRY => 1
  | .FF_SET_COMMAND_TIMEOUT => 2
  | .FF_LOCK_USER_MOD => 3

theorem bit_getLsbD (f g : FeatureFlag) : f.bit.toBitVec.getLsbD g.place = decide (f = g) := by
  cases f <;> cases g <;> rfl

theorem and_bit_ne_zero (x : UInt8) (f : FeatureFlag) :
    decide (x &&& f.bit ≠ 0) = x.toBitVec.getLsbD f.place := by
  obtain ⟨x⟩ := x
  revert x
  cases f <;> decide

theorem hasFeature_or {b b' : BatchCommand} {f g : FeatureFlag}
    (h : b'.commandFeatures.featuresFlag = b.commandFeatures.featuresFlag ||| g.bit) :
    b'.hasFeature f = (b.hasFeature f || decide (g = f)) := by
  unfold BatchCommand.hasFeature
  rw [h, and_bit_ne_zero, and_bit_ne_zero, ← bit_getLsbD, UInt8.toBitVec_or, BitVec.getLsbD_or]

theorem hasFeature_xor {b b' : BatchCommand} {f g : FeatureFlag}
    (h : b'.commandFeatures.featuresFlag = b.commandFeatures.featuresFlag ^^^ g.bit) :
    b'.hasFeature f = (b.hasFeature f ^^ decide (g = f)) := by
  unfold BatchCommand.hasFeature
  rw [h, and_bit_ne_zero, and_bit_ne_zero, ← bit_getLsbD, UInt8.toBitVec_xor, BitVec.getLsbD_xor]

/-! ## One call -/

variable {b b' : BatchCommand} {f g : FeatureFlag}

/-- The change of one feature: what becomes of its bit, and that the rest stays. -/
structure ChangesFeature (b b' : BatchCommand) (g : FeatureFlag) (bit : Bool → Bool) : Prop where
  lock : b'.featuresLocked = b.featuresLocked
  own : b'.hasFeature g = bit (b.hasFeature g)
  bits : ∀ f, f ≠ g → b'.hasFeature f = b.hasFeature f
  values : ∀ f, f ≠ g → b'.featureValue f = b.featureValue f

/-- The two overloads set the bit and the value of a feature that they know. -/
theorem changes_set {features : Features} {value : UInt64}
    (hflags : features.featuresFlag = b.commandFeatures.featuresFlag ||| g.bit)
    (hvalue : { b with commandFeatures := features }.featureValue g = some value)
    (hvalues : ∀ f, f ≠ g →
      { b with commandFeatures := features }.featureValue f = b.featureValue f) :
    ChangesFeature b { b with commandFeatures := features } g (fun _ => true) ∧
      { b with commandFeatures := features }.featureValue g = some value := by
  refine ⟨⟨rfl, ?_, ?_, hvalues⟩, hvalue⟩
  · rw [hasFeature_or hflags]
    simp
  · intro f hf
    rw [hasFeature_or hflags]
    simp [hf.symm]

theorem changes_clearFeatures (hlock : b.featuresLocked = false) (g : FeatureFlag) :
    ChangesFeature b (b.clearFeatures g) g (!·) := by
  have hflags : (b.clearFeatures g).commandFeatures.featuresFlag =
      b.commandFeatures.featuresFlag ^^^ g.bit := by
    unfold BatchCommand.clearFeatures
    rw [hlock]
    cases g <;> rfl
  refine ⟨?_, ?_, ?_, ?_⟩
  · unfold BatchCommand.clearFeatures
    rw [hlock]
    cases g <;> exact hlock
  · rw [hasFeature_xor hflags]
    simp
  · intro f hf
    rw [hasFeature_xor hflags]
    simp [hf.symm]
  · intro f hf
    unfold BatchCommand.clearFeatures
    rw [hlock]
    cases g <;> cases f <;> first | rfl | exact absurd rfl hf

/-- A call for a feature while the features are not locked: it sets the feature to a value, it is
not for the overload, or it clears the feature. -/
theorem call_cases (hlock : b.featuresLocked = false) {call : FeatureCall}
    (hcall : call.feature = some g) :
    (∃ value, (∀ h : FeatureHistory, h.add call = h.set value) ∧
      ChangesFeature b (call.apply b) g (fun _ => true) ∧
        (call.apply b).featureValue g = some value) ∨
    ((∀ h : FeatureHistory, h.add call = h.ignore) ∧ call.apply b = b) ∨
    ((∀ h : FeatureHistory, h.add call = h.clear) ∧ ChangesFeature b (call.apply b) g (!·)) := by
  cases call with
  | lock flags => cases hcall
  | clearFeatures f =>
    cases hcall
    exact .inr (.inr ⟨fun _ => rfl, changes_clearFeatures hlock _⟩)
  | setFeatures32 f value =>
    cases hcall
    simp only [FeatureCall.apply, BatchCommand.setFeatures32, hlock, Bool.false_eq_true, if_false]
    cases g with
    | FF_SET_SUBMISSION_RETRY =>
      refine .inl ⟨value.toUInt64, fun _ => rfl, changes_set rfl rfl ?_⟩
      intro f hf
      cases f <;> first | rfl | exact absurd rfl hf
    | FF_SET_SCHEDULER_DELAY | FF_SET_COMMAND_TIMEOUT | FF_LOCK_USER_MOD =>
      exact .inr (.inl ⟨fun _ => rfl, rfl⟩)
  | setFeatures64 f value =>
    cases hcall
    simp only [FeatureCall.apply, BatchCommand.setFeatures64, hlock, Bool.false_eq_true, if_false]
    cases g with
    | FF_SET_SCHEDULER_DELAY | FF_SET_COMMAND_TIMEOUT =>
      refine .inl ⟨value, fun _ => rfl, changes_set rfl rfl ?_⟩
      intro f hf
      cases f <;> first | rfl | exact absurd rfl hf
    | FF_SET_SUBMISSION_RETRY | FF_LOCK_USER_MOD => exact .inr (.inl ⟨fun _ => rfl, rfl⟩)

/-- A call while the features are locked does nothing. -/
theorem apply_of_locked (hlock : b.featuresLocked = true) {call : FeatureCall}
    (hcall : call.feature = some g) : call.apply b = b := by
  cases call with
  | lock flags => cases hcall
  | setFeatures32 f value => exact if_pos hlock
  | setFeatures64 f value => exact if_pos hlock
  | clearFeatures f => exact if_pos hlock

theorem leavesOthers (b : BatchCommand) (call : FeatureCall) : LeavesOthers b call := by
  intro f hf
  cases hcall : call.feature with
  | none =>
    cases call with
    | lock flags => exact ⟨rfl, rfl⟩
    | setFeatures32 | setFeatures64 | clearFeatures => cases hcall
  | some g =>
    have hne : f ≠ g := fun heq => hf (by rw [hcall, heq])
    cases hlock : b.featuresLocked with
    | true =>
      rw [apply_of_locked hlock hcall]
      exact ⟨rfl, rfl⟩
    | false =>
      rcases call_cases hlock hcall with ⟨_, -, hset, -⟩ | ⟨-, hsame⟩ | ⟨-, hclear⟩
      · exact ⟨hset.bits f hne, hset.values f hne⟩
      · rw [hsame]
        exact ⟨rfl, rfl⟩
      · exact ⟨hclear.bits f hne, hclear.values f hne⟩

theorem featuresLocked_apply {call : FeatureCall} (hcall : call.feature = some g) :
    (call.apply b).featuresLocked = b.featuresLocked := by
  cases hlock : b.featuresLocked with
  | true => rw [apply_of_locked hlock hcall, hlock]
  | false =>
    rcases call_cases hlock hcall with ⟨_, -, hset, -⟩ | ⟨-, hsame⟩ | ⟨-, hclear⟩
    · rw [hset.lock, hlock]
    · rw [hsame, hlock]
    · rw [hclear.lock, hlock]

/-! ## Every history -/

/-- What the history of a feature says about a command. -/
structure Tracks (b : BatchCommand) (h : FeatureHistory) (f : FeatureFlag) : Prop where
  bit : b.hasFeature f = (h.wasSet ^^ decide (h.clears % 2 = 1))
  value : ∀ value, h.last = .set value → b.featureValue f = some value
  set : ∀ value, h.last = .set value → h.wasSet = true ∧ h.clears = 0

theorem Tracks.congr {h : FeatureHistory} (ht : Tracks b h f)
    (hbit : b'.hasFeature f = b.hasFeature f) (hvalue : b'.featureValue f = b.featureValue f) :
    Tracks b' h f :=
  ⟨hbit.trans ht.bit, fun value hv => hvalue.trans (ht.value value hv), ht.set⟩

/-- A call for the feature while the features are not locked. -/
theorem Tracks.add {h : FeatureHistory} (ht : Tracks b h f) (hlock : b.featuresLocked = false)
    {call : FeatureCall} (hcall : call.feature = some f) :
    Tracks (call.apply b) (h.add call) f := by
  rcases call_cases hlock hcall with ⟨v, hadd, hset, hvalue⟩ | ⟨hadd, hsame⟩ | ⟨hadd, hclear⟩
  · rw [hadd]
    refine ⟨hset.own, ?_, fun _ _ => ⟨rfl, rfl⟩⟩
    intro value hv
    cases hv
    exact hvalue
  · rw [hadd, hsame]
    refine ⟨ht.bit, ?_, ?_⟩ <;> intro value hv <;> cases hv
  · rw [hadd]
    refine ⟨?_, ?_, ?_⟩
    · rw [hclear.own, ht.bit]
      simp only [FeatureHistory.clear]
      cases h.wasSet <;> rcases Nat.mod_two_eq_zero_or_one h.clears with hc | hc <;>
        simp [hc, Nat.add_mod]
    · intro value hv
      cases hv
    · intro value hv
      cases hv

/-- The histories follow the command call by call. -/
theorem tracks_add {h : FeatureHistory.All} (hlock : h.locked = b.featuresLocked)
    (ht : ∀ f, Tracks b (h.features f) f) (call : FeatureCall) :
    (h.add call).locked = (call.apply b).featuresLocked ∧
      ∀ f, Tracks (call.apply b) ((h.add call).features f) f := by
  cases hcall : call.feature with
  | none =>
    cases call with
    | lock flags => exact ⟨rfl, fun f => (ht f).congr rfl rfl⟩
    | setFeatures32 | setFeatures64 | clearFeatures => cases hcall
  | some g =>
    have hadd : h.add call = if h.locked then h else { h with
        features := fun f =>
          if call.feature = some f then (h.features f).add call else h.features f } := by
      cases call with
      | lock flags => cases hcall
      | setFeatures32 | setFeatures64 | clearFeatures => rfl
    rw [hadd]
    cases hb : b.featuresLocked with
    | true =>
      rw [apply_of_locked hb hcall, if_pos (hlock.trans hb)]
      exact ⟨hlock, ht⟩
    | false =>
      rw [if_neg (by simp [hlock, hb])]
      refine ⟨hlock.trans (featuresLocked_apply hcall).symm, fun f => ?_⟩
      simp only
      split_ifs with hf
      · exact (ht f).add hb hf
      · obtain ⟨hbit, hvalue⟩ := leavesOthers b call f hf
        exact (ht f).congr hbit hvalue

theorem tracks_construct (memory : BatchCommand) (f : FeatureFlag) :
    Tracks memory.construct {} f := by
  refine ⟨?_, ?_, ?_⟩
  · simp [BatchCommand.hasFeature, BatchCommand.construct]
  · intro value hv
    cases hv
  · intro value hv
    cases hv

theorem tracks_after (memory : BatchCommand) (calls : List FeatureCall) (f : FeatureFlag) :
    Tracks (memory.construct.after calls) ((FeatureHistory.of calls).features f) f := by
  have hrun : ∀ (calls : List FeatureCall) (b : BatchCommand) (h : FeatureHistory.All),
      h.locked = b.featuresLocked → (∀ f, Tracks b (h.features f) f) →
      ∀ f, Tracks (b.after calls) ((calls.foldl FeatureHistory.All.add h).features f) f := by
    intro calls
    induction calls with
    | nil => exact fun _ _ _ ht => ht
    | cons call calls ih =>
      intro b h hlock ht
      obtain ⟨hlock', ht'⟩ := tracks_add hlock ht call
      exact ih _ _ hlock' ht'
  exact hrun calls _ {} (by simp [BatchCommand.featuresLocked, BatchCommand.construct])
    (tracks_construct memory) f

/-- A feature follows the last call for it just when that call set it, or the clears turned the
feature off. -/
theorem followsLastCall_iff {h : FeatureHistory} (ht : Tracks b h f) :
    FollowsLastCall b h f ↔ ((∀ value, h.last ≠ .set value) → h.TurnedOff) := by
  unfold FollowsLastCall FeatureHistory.TurnedOff
  rw [and_iff_left ht.value, ht.bit]
  by_cases hset : ∃ value, h.last = .set value
  · obtain ⟨value, hv⟩ := hset
    obtain ⟨hwas, hclears⟩ := ht.set value hv
    simp [hv, hwas, hclears]
  · have hnone : ∀ value, h.last ≠ .set value := fun value hv => hset ⟨value, hv⟩
    rw [iff_false_right hset, imp_iff_right hnone]
    cases h.wasSet <;> simp

/-- The features follow the last calls for them just when each feature that its last call did not
set was turned off by the clears. -/
theorem features_follow_iff (memory : BatchCommand) (calls : List FeatureCall) :
    FeaturesFollow memory calls ↔ ClearedInTurn calls := by
  unfold FeaturesFollow ClearedInTurn
  rw [and_iff_left fun before call rest _ => leavesOthers (memory.construct.after before) call]
  exact forall_congr' fun f => followsLastCall_iff (tracks_after memory calls f)

/-- A feature that is set and cleared twice is set again. -/
theorem second_clear_sets_the_feature :
    ¬ ∀ (memory : BatchCommand) (calls : List FeatureCall), FeaturesFollow memory calls := by
  intro h
  have hfollow := (h ⟨0, "", false, 0, 0, ⟨0, 0, 0, 0⟩, 0, 0, ⟨"", 0, "", ""⟩, 0⟩
    [.setFeatures64 .FF_SET_COMMAND_TIMEOUT 1000, .clearFeatures .FF_SET_COMMAND_TIMEOUT,
      .clearFeatures .FF_SET_COMMAND_TIMEOUT]).1 .FF_SET_COMMAND_TIMEOUT
  obtain ⟨value, hv⟩ := hfollow.1.mp (by decide)
  cases hv

end chaos.batch_command
