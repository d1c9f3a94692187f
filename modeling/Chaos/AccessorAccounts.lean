-- Every accessor that a unit obtained is in its vector or was released, in each run in which no
-- initialization fails with accessors in the vector and no storage keeps a deinitialization from
-- them.
import Chaos.UnitLifecycle
import Mathlib.Data.List.Nodup

/-! ## What a unit relies on in the driver manager -/

namespace chaos.cu.driver_manager.DriverManager

/-- The maps lead to live drivers, by their texts and their uuids. A driver whose initialization
threw is in no map. -/
structure Wired (m : DriverManager) : Prop where
  params : ∀ key d, m.mapParameterLiveInstance key = some d → ∃ driver, m.drivers d = some driver ∧
    driver.identificationString = key ∧ m.mapDriverUUIDHashLiveInstance driver.driverUUID = some d
  uuids : ∀ key d, m.mapDriverUUIDHashLiveInstance key = some d →
    ∃ driver, m.drivers d = some driver ∧ driver.driverUUID = key
  newDriver : ∀ d, m.nextDriver ≤ d → m.drivers d = none

/-- An accessor that is in the list of the driver that its uuid leads to. -/
def Holds (m : DriverManager) (a : Nat) : Prop :=
  ∃ accessor d driver, m.accessors a = some accessor ∧
    m.mapDriverUUIDHashLiveInstance accessor.driver_uuid = some d ∧ m.drivers d = some driver ∧
      driver.driverUUID = accessor.driver_uuid ∧ a ∈ driver.accessors

/-- A driver that is instantiated for a request gets a uuid that no live one has. -/
def UuidIsFree (m : DriverManager) (request : DrvRequestInfo) (outcome : Instantiation) : Prop :=
  ∀ driverUUID, outcome = .initialized driverUUID →
    m.mapParameterLiveInstance request.stringForMap = none →
      m.mapDriverUUIDHashLiveInstance driverUUID = none

theorem wired_new (registered : List (List Char)) : Wired (new registered) := by
  constructor <;> simp [new]

variable {m t : DriverManager} {request : DrvRequestInfo} {outcome : Instantiation} {a b d : Nat}
  {driver : AbstractDriver}

/-- What a manager keeps of the accessors that it has. -/
structure Keeps (m t : DriverManager) (b : Nat) : Prop where
  accessor : t.accessors b = m.accessors b
  holds : Holds m b → Holds t b

/-- A new accessor of a driver that the map of the uuids leads to. -/
theorem Wired.getNewAccessor (h : Wired m) (hd : m.drivers d = some driver)
    (hmap : m.mapDriverUUIDHashLiveInstance driver.driverUUID = some d)
    (ht : m.getNewAccessor d request = some t) :
    Wired t ∧ t.nextAccessor = m.nextAccessor + 1 ∧ Holds t m.nextAccessor ∧
      ∀ b < m.nextAccessor, Keeps m t b := by
  unfold DriverManager.getNewAccessor at ht
  rw [hd] at ht
  cases ht
  have hdrivers : ∀ e other, m.drivers e = some other →
      ∃ other', Function.update m.drivers d (some { driver with
        accessorCount := driver.accessorCount + 1
        accessors := driver.accessors ++ [m.nextAccessor] }) e = some other' ∧
          other'.identificationString = other.identificationString ∧
          other'.driverUUID = other.driverUUID ∧ ∀ x ∈ other.accessors, x ∈ other'.accessors := by
    intro e other he
    rcases eq_or_ne e d with rfl | hne
    · cases hd.symm.trans he
      exact ⟨_, Function.update_self .., rfl, rfl, fun x hx => List.mem_append_left _ hx⟩
    · exact ⟨other, (Function.update_of_ne hne ..).trans he, rfl, rfl, fun x hx => hx⟩
  refine ⟨⟨?_, ?_, ?_⟩, rfl, ?_, ?_⟩
  · intro key e he
    obtain ⟨other, hother, hid, huuid⟩ := h.params key e he
    obtain ⟨other', hother', hid', huuid', -⟩ := hdrivers e other hother
    exact ⟨other', hother', hid'.trans hid, huuid'.symm ▸ huuid⟩
  · intro key e he
    obtain ⟨other, hother, huuid⟩ := h.uuids key e he
    obtain ⟨other', hother', -, huuid', -⟩ := hdrivers e other hother
    exact ⟨other', hother', huuid'.trans huuid⟩
  · intro e hle
    refine (Function.update_of_ne ?_ ..).trans (h.newDriver e hle)
    rintro rfl
    cases hd.symm.trans (h.newDriver e hle)
  · exact ⟨_, d, _, Function.update_self .., hmap, Function.update_self .., rfl, by simp⟩
  · intro b hb
    have hne : b ≠ m.nextAccessor := Nat.ne_of_lt hb
    refine ⟨Function.update_of_ne hne .., ?_⟩
    rintro ⟨accessor, e, other, hacc, hmap, hother, huuid, hin⟩
    obtain ⟨other', hother', -, huuid', hin'⟩ := hdrivers e other hother
    exact ⟨accessor, e, other', (Function.update_of_ne hne ..).trans hacc, hmap, hother',
      huuid'.trans huuid, hin' b hin⟩

/-- A new instance, whether it comes into the maps or not. -/
theorem Wired.instantiate (h : Wired m) (driverUUID identificationString : List Char) :
    Wired (m.instantiate driverUUID identificationString) ∧
      ∀ b, Keeps m (m.instantiate driverUUID identificationString) b := by
  have hold : ∀ e other, m.drivers e = some other →
      (m.instantiate driverUUID identificationString).drivers e = some other := by
    intro e other he
    refine (Function.update_of_ne ?_ ..).trans he
    rintro rfl
    cases he.symm.trans (h.newDriver _ (Nat.le_refl _))
  refine ⟨⟨?_, ?_, ?_⟩, fun b => ⟨rfl, ?_⟩⟩
  · intro key e he
    obtain ⟨other, hother, hrest⟩ := h.params key e he
    exact ⟨other, hold e other hother, hrest⟩
  · intro key e he
    obtain ⟨other, hother, hrest⟩ := h.uuids key e he
    exact ⟨other, hold e other hother, hrest⟩
  · intro e hle
    have hle : m.nextDriver + 1 ≤ e := hle
    exact (Function.update_of_ne (by omega) ..).trans (h.newDriver e (by omega))
  · rintro ⟨accessor, e, other, hacc, hmap, hother, hrest⟩
    exact ⟨accessor, e, other, hacc, hmap, hold e other hother, hrest⟩

/-- A live driver that is put into the two maps under free keys. -/
theorem Wired.insert (h : Wired m) (hd : m.drivers d = some driver)
    (hparam : m.mapParameterLiveInstance driver.identificationString = none)
    (huuid : m.mapDriverUUIDHashLiveInstance driver.driverUUID = none) :
    Wired { m with
      mapParameterLiveInstance := DriverManager.insert m.mapParameterLiveInstance
        driver.identificationString d
      mapDriverUUIDHashLiveInstance := DriverManager.insert m.mapDriverUUIDHashLiveInstance
        driver.driverUUID d } ∧
    ∀ b, Keeps m { m with
      mapParameterLiveInstance := DriverManager.insert m.mapParameterLiveInstance
        driver.identificationString d
      mapDriverUUIDHashLiveInstance := DriverManager.insert m.mapDriverUUIDHashLiveInstance
        driver.driverUUID d } b := by
  have hkeep : ∀ key e, m.mapDriverUUIDHashLiveInstance key = some e →
      Function.update m.mapDriverUUIDHashLiveInstance driver.driverUUID (some d) key = some e := by
    intro key e he
    refine (Function.update_of_ne ?_ ..).trans he
    rintro rfl
    cases huuid.symm.trans he
  simp only [DriverManager.insert, hparam, huuid, Option.isSome_none, Bool.false_eq_true, if_false]
  refine ⟨⟨?_, ?_, h.newDriver⟩, fun b => ⟨rfl, ?_⟩⟩
  · intro key e he
    dsimp only at he ⊢
    rcases eq_or_ne key driver.identificationString with rfl | hne
    · rw [Function.update_self] at he
      cases he
      exact ⟨driver, hd, rfl, Function.update_self ..⟩
    · rw [Function.update_of_ne hne] at he
      obtain ⟨other, hother, hid, hmap⟩ := h.params key e he
      exact ⟨other, hother, hid, hkeep _ _ hmap⟩
  · intro key e he
    dsimp only at he ⊢
    rcases eq_or_ne key driver.driverUUID with rfl | hne
    · rw [Function.update_self] at he
      cases he
      exact ⟨driver, hd, rfl⟩
    · rw [Function.update_of_ne hne] at he
      exact h.uuids key e he
  · rintro ⟨accessor, e, other, hacc, hmap, hrest⟩
    exact ⟨accessor, e, other, hacc, hkeep _ _ hmap, hrest⟩

/-- What the manager does with a request. -/
structure Answered (m t : DriverManager) (answer : Option Nat) : Prop where
  wired : Wired t
  next : t.nextAccessor = if answer.isSome then m.nextAccessor + 1 else m.nextAccessor
  new : ∀ a, answer = some a → a = m.nextAccessor ∧ Holds t a
  old : ∀ b < m.nextAccessor, Keeps m t b

theorem Wired.getNewAccessorForDriverInstance (h : Wired m) {answer : Option Nat}
    (hfree : UuidIsFree m request outcome)
    (ht : m.getNewAccessorForDriverInstance request outcome = some (t, answer)) :
    Answered m t answer := by
  unfold DriverManager.getNewAccessorForDriverInstance at ht
  dsimp only at ht
  split at ht
  · rename_i d hkey
    obtain ⟨t', ht', heq⟩ := Option.map_eq_some_iff.mp ht
    cases heq
    obtain ⟨driver, hd, -, hmap⟩ := h.params _ _ hkey
    obtain ⟨hwired, hnext, hholds, hkeeps⟩ := h.getNewAccessor hd hmap ht'
    refine ⟨hwired, hnext, ?_, hkeeps⟩
    rintro a ⟨⟩
    exact ⟨rfl, hholds⟩
  · rename_i hkey
    split at ht
    · cases outcome with
      | throws =>
        cases ht
        exact ⟨h, rfl, nofun, fun b _ => ⟨rfl, id⟩⟩
      | null => cases ht
      | initThrows driverUUID =>
        cases ht
        obtain ⟨hwired, hkeeps⟩ := h.instantiate driverUUID request.stringForMap
        exact ⟨hwired, rfl, nofun, fun b _ => hkeeps b⟩
      | initialized driverUUID =>
        obtain ⟨t', ht', heq⟩ := Option.map_eq_some_iff.mp ht
        cases heq
        obtain ⟨hwired, hkeeps⟩ := h.instantiate driverUUID request.stringForMap
        have hd : (m.instantiate driverUUID request.stringForMap).drivers m.nextDriver =
            some { driverUUID := driverUUID, identificationString := request.stringForMap } :=
          Function.update_self ..
        have huuid := hfree driverUUID rfl hkey
        obtain ⟨hwired', hkeeps'⟩ := hwired.insert hd hkey huuid
        have hmap : DriverManager.insert m.mapDriverUUIDHashLiveInstance driverUUID m.nextDriver
            driverUUID = some m.nextDriver := by
          rw [DriverManager.insert, huuid, if_neg nofun, Function.update_self]
        obtain ⟨hlast, hnext, hholds, hold⟩ := hwired'.getNewAccessor hd hmap ht'
        refine ⟨hlast, hnext, ?_, fun b hb => ?_⟩
        · rintro a ⟨⟩
          exact ⟨rfl, hholds⟩
        · have hb' := hold b hb
          exact ⟨hb'.accessor, fun hin => hb'.holds ((hkeeps' b).holds ((hkeeps b).holds hin))⟩
    · cases ht
      exact ⟨h, rfl, nofun, fun b _ => ⟨rfl, id⟩⟩

/-- An accessor that is held is deleted, and with the last one of a driver the driver. -/
theorem Wired.releaseAccessor (h : Wired m) (ha : Holds m a) :
    ∃ t, m.releaseAccessor a = some t ∧ Wired t ∧ t.accessors a = none ∧
      t.nextAccessor = m.nextAccessor ∧ ∀ b, b ≠ a → Keeps m t b := by
  obtain ⟨accessor, d, driver, hacc, hmap, hd, huuid, hin⟩ := ha
  rw [← huuid] at hmap
  simp only [DriverManager.releaseAccessor, hacc, huuid.symm, hmap, hd, Option.bind_some, ne_eq,
    not_true_eq_false, if_false, AbstractDriver.releaseAccessor, if_pos hin, Option.map_some]
  refine ⟨_, rfl, ?_⟩
  by_cases hempty : driver.accessors.erase a = []
  · rw [if_pos hempty]
    -- what leads to another driver is not what leads to this one
    have hother : ∀ key e, e ≠ d → m.mapDriverUUIDHashLiveInstance key = some e →
        key ≠ driver.driverUUID := by
      rintro key e hne he rfl
      exact hne (Option.some.inj (he.symm.trans hmap))
    refine ⟨⟨?_, ?_, ?_⟩, Function.update_self .., rfl,
      fun b hb => ⟨Function.update_of_ne hb .., ?_⟩⟩
    · intro key e he
      dsimp only at he ⊢
      have hkey : key ≠ driver.identificationString := by
        rintro rfl
        rw [Function.update_self] at he
        cases he
      rw [Function.update_of_ne hkey] at he
      obtain ⟨other, hother', hid, hmap'⟩ := h.params key e he
      have hne : e ≠ d := by
        rintro rfl
        cases hd.symm.trans hother'
        exact hkey hid.symm
      exact ⟨other, (Function.update_of_ne hne ..).trans hother', hid,
        (Function.update_of_ne (hother _ e hne hmap') ..).trans hmap'⟩
    · intro key e he
      dsimp only at he ⊢
      have hkey : key ≠ driver.driverUUID := by
        rintro rfl
        rw [Function.update_self] at he
        cases he
      rw [Function.update_of_ne hkey] at he
      obtain ⟨other, hother', huuid'⟩ := h.uuids key e he
      have hne : e ≠ d := by
        rintro rfl
        cases hd.symm.trans hother'
        exact hkey huuid'.symm
      exact ⟨other, (Function.update_of_ne hne ..).trans hother', huuid'⟩
    · intro e hle
      rcases eq_or_ne e d with rfl | hne
      · exact Function.update_self ..
      · exact (Function.update_of_ne hne ..).trans (h.newDriver e hle)
    · rintro ⟨x, e, other, hx, hmap', hother', huuid', hin'⟩
      have hne : e ≠ d := by
        rintro rfl
        cases hd.symm.trans hother'
        have hleft := (List.mem_erase_of_ne hb).mpr hin'
        rw [hempty] at hleft
        cases hleft
      exact ⟨x, e, other, (Function.update_of_ne hb ..).trans hx,
        (Function.update_of_ne (hother _ e hne hmap') ..).trans hmap',
        (Function.update_of_ne hne ..).trans hother', huuid', hin'⟩
  · rw [if_neg hempty]
    have hdrivers : ∀ e other, m.drivers e = some other → ∃ other',
        Function.update m.drivers d (some { driver with accessors := driver.accessors.erase a }) e =
          some other' ∧ other'.identificationString = other.identificationString ∧
            other'.driverUUID = other.driverUUID ∧
              ∀ x ∈ other.accessors, x ≠ a → x ∈ other'.accessors := by
      intro e other he
      rcases eq_or_ne e d with rfl | hne
      · cases hd.symm.trans he
        exact ⟨_, Function.update_self .., rfl, rfl,
          fun x hx hxa => (List.mem_erase_of_ne hxa).mpr hx⟩
      · exact ⟨other, (Function.update_of_ne hne ..).trans he, rfl, rfl, fun x hx _ => hx⟩
    refine ⟨⟨?_, ?_, ?_⟩, Function.update_self .., rfl,
      fun b hb => ⟨Function.update_of_ne hb .., ?_⟩⟩
    · intro key e he
      obtain ⟨other, hother, hid, hmap'⟩ := h.params key e he
      obtain ⟨other', hother', hid', huuid', -⟩ := hdrivers e other hother
      exact ⟨other', hother', hid'.trans hid, huuid'.symm ▸ hmap'⟩
    · intro key e he
      obtain ⟨other, hother, huuid'⟩ := h.uuids key e he
      obtain ⟨other', hother', -, hsame, -⟩ := hdrivers e other hother
      exact ⟨other', hother', hsame.trans huuid'⟩
    · intro e hle
      refine (Function.update_of_ne ?_ ..).trans (h.newDriver e hle)
      rintro rfl
      cases hd.symm.trans (h.newDriver e hle)
    · rintro ⟨x, e, other, hx, hmap', hother, huuid', hin'⟩
      obtain ⟨other', hother', -, hsame, hmem⟩ := hdrivers e other hother
      exact ⟨x, e, other', (Function.update_of_ne hb ..).trans hx, hmap', hother',
        hsame.trans huuid', hmem b hin' hb⟩

end chaos.cu.driver_manager.DriverManager

namespace chaos.cu.control_manager.lifecycle

open chaos.cu.driver_manager chaos.utility runs

namespace AbstractControlUnit

/-! ## What is claimed -/

/-- In a unit whose state is written down as deinitialized, each accessor that it obtained was
released once, and is deleted. -/
def Settled (u : AbstractControlUnit) : Prop :=
  u.service.serviceState = ServiceState.IS_DEINTIATED.number →
    ∀ a ∈ u.obtained, u.releases.count a = 1 ∧ u.driverManager.accessors a = none

/-! ## The condition -/

/-- The requests one after the other, as long as they are granted: each new driver has a uuid of its
own. -/
def UuidsAreFree : DriverManager → List (DrvRequestInfo × Instantiation) → Prop
  | _, [] => True
  | m, (request, outcome) :: rest => m.UuidIsFree request outcome ∧
    ∀ t a, m.getNewAccessorForDriverInstance request outcome = some (t, some a) →
      UuidsAreFree t rest

/-- No request throws. -/
def AllGranted : DriverManager → List (DrvRequestInfo × Instantiation) → Prop
  | _, [] => True
  | m, (request, outcome) :: rest =>
    ∃ t a, m.getNewAccessorForDriverInstance request outcome = some (t, some a) ∧ AllGranted t rest

/-- There is no request, or the first one throws. -/
def NoneGranted (m : DriverManager) : List (DrvRequestInfo × Instantiation) → Prop
  | [] => True
  | (request, outcome) :: _ =>
    ∀ t a, m.getNewAccessorForDriverInstance request outcome ≠ some (t, some a)

/-- A deinitialization of the storage does not throw while the unit has accessors. -/
def DeinitIsSafe (u : AbstractControlUnit) (answers : DeinitAnswers) : Prop :=
  answers.unitDeinit = none → (process_event u.service.state_machine .deinit).isSome →
    answers.storageDeinit = none ∨ u.accessorInstances = []

/-- An initialization that comes to the requests gets no accessor at all, or gets them all and
throws nothing before `unitInit`; and when that throws, a storage does not keep `_deinit` from the
release. -/
def InitIsSafe (u : AbstractControlUnit) (answers : InitAnswers) (deinitAnswers : DeinitAnswers) :
    Prop :=
  answers.sharedCache = true → (process_event u.service.state_machine .init).isSome →
    answers.before = none → UuidsAreFree u.driverManager answers.drivers ∧
      (NoneGranted u.driverManager answers.drivers ∨
        AllGranted u.driverManager answers.drivers ∧
          answers.dataset = none ∧ answers.creation = none ∧ answers.storageInit = none ∧
            (answers.unitInit ≠ none → deinitAnswers.unitDeinit = none →
              deinitAnswers.storageDeinit = none))

def IsSafe (u : AbstractControlUnit) : UnitCall → Prop
  | ._init answers deinitAnswers => u.InitIsSafe answers deinitAnswers
  | ._deinit answers => u.DeinitIsSafe answers
  | ._start _ _ _ | ._stop _ => True

/-! ## The accounts -/

/-- The accessors of the vector are held by the driver manager, those that were released are
deleted, and there are no others. -/
structure Accounts (u : AbstractControlUnit) : Prop where
  wired : u.driverManager.Wired
  holds : ∀ a ∈ u.accessorInstances, u.driverManager.Holds a
  nodup : (u.accessorInstances ++ u.releases).Nodup
  obtained : ∀ a ∈ u.obtained, a ∈ u.accessorInstances ∨ a ∈ u.releases
  deleted : ∀ a ∈ u.releases, u.driverManager.accessors a = none
  fresh : ∀ a ∈ u.accessorInstances ++ u.releases, a < u.driverManager.nextAccessor

variable {u t : AbstractControlUnit} {drivers : List (DrvRequestInfo × Instantiation)}
  {thrown : Option CException} {result : Except CException Unit}

/-- Another manager that keeps the accessors of the unit. -/
theorem Accounts.manager (h : Accounts u) {m : DriverManager} (hwired : m.Wired)
    (hnext : u.driverManager.nextAccessor ≤ m.nextAccessor)
    (hkeeps : ∀ b < u.driverManager.nextAccessor, u.driverManager.Keeps m b) :
    Accounts { u with driverManager := m } := by
  refine ⟨hwired, ?_, h.nodup, h.obtained, ?_, ?_⟩
  · intro a ha
    exact (hkeeps a (h.fresh a (List.mem_append_left _ ha))).holds (h.holds a ha)
  · intro a ha
    exact (hkeeps a (h.fresh a (List.mem_append_right _ ha))).accessor.trans (h.deleted a ha)
  · intro a ha
    exact Nat.lt_of_lt_of_le (h.fresh a ha) hnext

/-- A new accessor comes into the vector. -/
theorem Accounts.grant (h : Accounts u) {m : DriverManager} {a : Nat}
    (hanswered : u.driverManager.Answered m (some a)) :
    Accounts { u with
      driverManager := m
      accessorInstances := u.accessorInstances ++ [a]
      obtained := u.obtained ++ [a] } := by
  obtain ⟨rfl, hholds⟩ := hanswered.new a rfl
  have hnext : m.nextAccessor = u.driverManager.nextAccessor + 1 := hanswered.next
  have hold := h.manager hanswered.wired (by omega) hanswered.old
  refine ⟨hanswered.wired, ?_, ?_, ?_, hold.deleted, ?_⟩
  · intro a ha
    rcases List.mem_append.mp ha with ha | ha
    · exact hold.holds a ha
    · rw [List.mem_singleton.mp ha]
      exact hholds
  · dsimp only
    rw [List.append_assoc, List.singleton_append, List.nodup_middle, List.nodup_cons]
    exact ⟨fun hmem => Nat.lt_irrefl _ (h.fresh _ hmem), h.nodup⟩
  · intro a ha
    rcases List.mem_append.mp ha with ha | ha
    · exact (h.obtained a ha).imp_left (List.mem_append_left _)
    · exact .inl (List.mem_append_right _ ha)
  · intro a ha
    simp only [List.mem_append, List.mem_singleton] at ha
    rcases ha with (ha | rfl) | ha
    · exact hold.fresh a (List.mem_append_left _ ha)
    · exact Nat.lt_of_lt_of_eq (Nat.lt_succ_self _) hnext.symm
    · exact hold.fresh a (List.mem_append_right _ ha)

theorem getAccessors_spec (h : Accounts u) (hfree : UuidsAreFree u.driverManager drivers)
    (ht : getAccessors u drivers = some (t, thrown)) :
    Accounts t ∧ t.service = u.service ∧ (AllGranted u.driverManager drivers → thrown = none) ∧
      (NoneGranted u.driverManager drivers → t.accessorInstances = u.accessorInstances) := by
  induction drivers generalizing u with
  | nil =>
    cases ht
    exact ⟨h, rfl, fun _ => rfl, fun _ => rfl⟩
  | cons driver rest ih =>
    obtain ⟨request, outcome⟩ := driver
    rw [getAccessors] at ht
    cases hget : u.driverManager.getNewAccessorForDriverInstance request outcome with
    | none =>
      rw [hget] at ht
      cases ht
    | some answered =>
      obtain ⟨m, answer⟩ := answered
      have hanswered := h.wired.getNewAccessorForDriverInstance hfree.1 hget
      rw [hget] at ht
      cases answer with
      | none =>
        cases ht
        refine ⟨h.manager hanswered.wired (Nat.le_of_eq hanswered.next.symm) hanswered.old, rfl, ?_,
          fun _ => rfl⟩
        rintro ⟨m', a, hgranted, -⟩
        cases hget.symm.trans hgranted
      | some a =>
        obtain ⟨haccounts, hservice, hall, -⟩ := ih (h.grant hanswered) (hfree.2 m a hget) ht
        refine ⟨haccounts, hservice, ?_, fun hnone => absurd hget (hnone m a)⟩
        rintro ⟨m', a', hgranted, hrest⟩
        cases hget.symm.trans hgranted
        exact hall hrest

theorem releaseThrows_of_holds {m : DriverManager} {a : Nat} (h : m.Holds a) :
    releaseThrows m a = false := by
  obtain ⟨accessor, d, driver, hacc, hmap, hd, huuid, -⟩ := h
  simp [releaseThrows, hacc, hmap, hd, huuid]

/-- The accessors that are left of the vector are released one after the other. -/
theorem releaseAccessors_spec {left : List Nat} (h : Accounts { u with accessorInstances := left })
    (ht : releaseAccessors u left = some (t, thrown)) :
    thrown = none ∧ t.service = u.service ∧ Accounts { t with accessorInstances := [] } := by
  induction left generalizing u with
  | nil =>
    cases ht
    exact ⟨rfl, rfl, h⟩
  | cons a rest ih =>
    have hholds := h.holds a List.mem_cons_self
    rw [releaseAccessors, releaseThrows_of_holds hholds] at ht
    obtain ⟨m, hm, ht⟩ := Option.bind_eq_some_iff.mp ht
    obtain ⟨m', hm', hwired, hgone, hnext, hkeeps⟩ := h.wired.releaseAccessor hholds
    cases hm.symm.trans hm'
    have hnodup := List.nodup_cons.mp h.nodup
    refine ih (u := { u with driverManager := m, releases := u.releases ++ [a] })
      ⟨hwired, ?_, ?_, ?_, ?_, ?_⟩ ht
    · intro b hb
      have hne : b ≠ a := fun heq => hnodup.1 (heq ▸ List.mem_append_left _ hb)
      exact (hkeeps b hne).holds (h.holds b (List.mem_cons_of_mem a hb))
    · dsimp only
      rw [← List.append_assoc, List.nodup_append_comm, List.singleton_append]
      exact h.nodup
    · intro b hb
      rcases h.obtained b hb with hb | hb
      · rcases List.mem_cons.mp hb with rfl | hb
        · exact .inr (List.mem_append_right _ (List.mem_singleton_self b))
        · exact .inl hb
      · exact .inr (List.mem_append_left _ hb)
    · intro b hb
      rcases List.mem_append.mp hb with hb | hb
      · have hne : b ≠ a := fun heq => hnodup.1 (heq ▸ List.mem_append_right _ hb)
        exact (hkeeps b hne).accessor.trans (h.deleted b hb)
      · rw [List.mem_singleton.mp hb]
        exact hgone
    · intro b hb
      dsimp only at hb ⊢
      rw [hnext]
      refine h.fresh b ?_
      simp only [List.mem_append, List.mem_cons, List.not_mem_nil, or_false] at hb ⊢
      tauto

/-- The accounts do not depend on the service and the storage. -/
theorem Accounts.with (h : Accounts u) (service : StartableService) (keyDataStorage : Bool) :
    Accounts { u with service := service, keyDataStorage := keyDataStorage } :=
  ⟨h.wired, h.holds, h.nodup, h.obtained, h.deleted, h.fresh⟩

/-! ## The hooks -/

theorem init_spec {answers : InitAnswers} {deinitAnswers : DeinitAnswers} (h : Accounts u)
    (hnone : u.accessorInstances = [])
    (hsafe : answers.before = none → UuidsAreFree u.driverManager answers.drivers ∧
      (NoneGranted u.driverManager answers.drivers ∨
        AllGranted u.driverManager answers.drivers ∧
          answers.dataset = none ∧ answers.creation = none ∧ answers.storageInit = none ∧
            (answers.unitInit ≠ none → deinitAnswers.unitDeinit = none →
              deinitAnswers.storageDeinit = none)))
    (ht : u.init answers = some (t, result)) :
    Accounts t ∧ t.service = u.service ∧ (result ≠ .ok () → t.accessorInstances = []) ∧
      (result = .ok () → answers.unitInit ≠ none → deinitAnswers.unitDeinit = none →
        deinitAnswers.storageDeinit = none ∨ t.accessorInstances = []) := by
  unfold AbstractControlUnit.init at ht
  split at ht
  · cases ht
    exact ⟨h, rfl, fun _ => hnone, nofun⟩
  · rename_i hbefore
    obtain ⟨hfree, hgranted⟩ := hsafe hbefore
    obtain ⟨⟨v, thrown⟩, hv, heq⟩ := Option.map_eq_some_iff.mp ht
    have hstart : Accounts { u with accessorInstances := [] } := by rw [← hnone]; exact h
    obtain ⟨haccounts, hservice, hall, hempty⟩ := getAccessors_spec hstart hfree hv
    rcases hgranted with hno | ⟨hyes, hdataset, hcreation, hstorage, hunit⟩
    · have hleft : v.accessorInstances = [] := hempty hno
      cases thrown with
      | some ex =>
        cases heq
        exact ⟨haccounts, hservice, fun _ => hleft, nofun⟩
      | none =>
        dsimp only at heq
        split at heq
        · cases heq
          exact ⟨haccounts, hservice, fun _ => hleft, nofun⟩
        · cases heq
          exact ⟨haccounts.with v.service true, hservice, fun _ => hleft, fun _ _ _ => .inr hleft⟩
    · obtain rfl := hall hyes
      simp only [hdataset, hcreation, hstorage, Option.or_none, Option.elim_none] at heq
      cases heq
      exact ⟨haccounts.with v.service true, hservice, fun hne => absurd rfl hne,
        fun _ hne hdeinit => .inl (hunit hne hdeinit)⟩

theorem deinit_spec {storageDeinit : Option CException} (h : Accounts u)
    (hsafe : storageDeinit = none ∨ u.accessorInstances = [])
    (ht : u.deinit storageDeinit = some (t, result)) :
    Accounts t ∧ t.service = u.service ∧ t.accessorInstances = [] := by
  unfold AbstractControlUnit.deinit at ht
  split at ht
  · rename_i ex hex
    cases ht
    refine ⟨h, rfl, hsafe.resolve_left ?_⟩
    rintro rfl
    rw [ite_self] at hex
    cases hex
  · obtain ⟨⟨v, thrown⟩, hv, heq⟩ := Option.map_eq_some_iff.mp ht
    obtain ⟨rfl, hservice, haccounts⟩ := releaseAccessors_spec (h.with u.service false) hv
    cases heq
    exact ⟨haccounts, hservice, rfl⟩

/-! ## The service -/

/-- A unit that is written down as deinitialized is so, and a deinitialized one has no accessor. -/
structure Sound (u : AbstractControlUnit) : Prop extends Accounts u where
  idle : u.service.state_machine = .IS_DEINTIATED → u.accessorInstances = []
  written : u.service.serviceState = ServiceState.IS_DEINTIATED.number →
    u.service.state_machine = .IS_DEINTIATED

theorem Sound.settled (h : Sound u) : u.Settled := by
  intro hstate a ha
  have hempty := h.idle (h.written hstate)
  have hmem : a ∈ u.releases := by
    have ha := h.obtained a ha
    rw [hempty] at ha
    exact ha.resolve_left List.not_mem_nil
  have hnodup : u.releases.Nodup := (List.nodup_append.mp h.nodup).2.1
  exact ⟨List.count_eq_one_of_mem hnodup hmem, h.deleted a hmem⟩

theorem sound_create {m : DriverManager} (h : m.Wired) : Sound (create m) where
  wired := h
  holds := nofun
  nodup := List.nodup_nil
  obtained := nofun
  deleted := nofun
  fresh := nofun
  idle := fun _ => rfl
  written := fun _ => rfl

/-- A driver of the service, with the hook where it is called. -/
theorem drive_cases {event : ServiceEvent}
    {implementation : StartableService → Except CException Unit → String →
      StartableService × Except CException Bool}
    {hook : AbstractControlUnit → Option (AbstractControlUnit × Except CException Unit)}
    {answer : Except CException Bool}
    (ht : u.drive event implementation hook = some (t, answer)) :
    ((process_event u.service.state_machine event).isSome ∧ ∃ v result, hook u = some (v, result) ∧
      t = { v with service := (implementation v.service result "AbstractControlUnit").1 } ∧
        answer = (implementation v.service result "AbstractControlUnit").2) ∨
    ((process_event u.service.state_machine event).isSome = false ∧
      t = { u with service := (implementation u.service (.ok ()) "AbstractControlUnit").1 } ∧
        answer = (implementation u.service (.ok ()) "AbstractControlUnit").2) := by
  unfold drive at ht
  split at ht
  · rename_i hsome
    obtain ⟨⟨v, result⟩, hv, heq⟩ := Option.map_eq_some_iff.mp ht
    cases heq
    exact .inl ⟨hsome, v, result, hv, rfl, rfl⟩
  · rename_i hnone
    cases ht
    exact .inr ⟨Bool.eq_false_of_not_eq_true hnone, rfl, rfl⟩

/-- Another state of the service, deinitialized only if the unit was or has no accessor. -/
theorem Sound.move (h : Accounts u) {service : StartableService}
    (hidle : service.state_machine = .IS_DEINTIATED → u.accessorInstances = [])
    (hwritten : service.serviceState = ServiceState.IS_DEINTIATED.number →
      service.state_machine = .IS_DEINTIATED) : Sound { u with service := service } :=
  ⟨h.with service u.keyDataStorage, hidle, hwritten⟩

theorem Sound.init (h : Sound u) {answers : InitAnswers} {deinitAnswers : DeinitAnswers}
    (hshared : answers.sharedCache = true) (hsafe : u.InitIsSafe answers deinitAnswers)
    {answer : Except CException Bool}
    (ht : u.drive .init StartableService.initImplementation (fun t => t.init answers) =
      some (t, answer)) :
    Sound t ∧ (∀ b, answer = .ok b → answers.unitInit ≠ none → t.DeinitIsSafe deinitAnswers) := by
  rcases drive_cases ht with ⟨hsome, v, result, hv, rfl, rfl⟩ | ⟨hnone, rfl, rfl⟩
  · have hidle : u.service.state_machine = .IS_DEINTIATED := by
      obtain ⟨s, hs⟩ := Option.isSome_iff_exists.mp hsome
      exact (process_event_init hs).1
    obtain ⟨haccounts, hservice, hfailed, hdone⟩ :=
      init_spec h.toAccounts (h.idle hidle) (hsafe hshared hsome) hv
    rw [hservice]
    unfold StartableService.initImplementation StartableService.drive
    rw [if_pos hsome]
    cases result with
    | ok =>
      have hmoved : (u.service.sendEvent .init).state_machine = .IS_INITIATED := by
        rw [StartableService.sendEvent, hidle]
        rfl
      refine ⟨Sound.move haccounts ?_ ?_, fun b _ hunit hdeinit _ => hdone rfl hunit hdeinit⟩
      · intro hstate
        cases hmoved.symm.trans hstate
      · dsimp only
        rw [hmoved]
        intro hnumber
        exact absurd hnumber (by decide)
    | error ex =>
      dsimp only [Option.elim_some]
      rw [StartableService.sendEvent_init_deinit hsome]
      have hthrown : Except.error ex ≠ Except.ok () := by simp
      refine ⟨Sound.move haccounts (fun _ => hfailed hthrown) h.written, fun b hb => ?_⟩
      cases hb
  · unfold StartableService.initImplementation StartableService.drive
    rw [if_neg (by rw [hnone]; exact Bool.false_ne_true)]
    refine ⟨h, fun b hb => ?_⟩
    cases hb

theorem Sound.deinit (h : Sound u) {answers : DeinitAnswers} (hsafe : u.DeinitIsSafe answers)
    (ht : u._deinit answers = some t) : Sound t := by
  unfold AbstractControlUnit._deinit at ht
  split at ht
  · cases ht
    exact h
  · rename_i hunit
    obtain ⟨⟨t, answer⟩, hdrive, rfl⟩ := Option.map_eq_some_iff.mp ht
    rcases drive_cases hdrive with ⟨hsome, v, result, hv, rfl, rfl⟩ | ⟨hnone, rfl, rfl⟩
    · obtain ⟨haccounts, hservice, hempty⟩ := deinit_spec h.toAccounts (hsafe hunit hsome) hv
      have hmoved : (u.service.sendEvent .deinit).state_machine = .IS_DEINTIATED := by
        obtain ⟨s, hs⟩ := Option.isSome_iff_exists.mp hsome
        rw [StartableService.sendEvent, hs]
        exact process_event_deinit hs
      refine Sound.move haccounts (fun _ => hempty) fun _ => ?_
      rw [hservice]
      unfold StartableService.deinitImplementation StartableService.drive
      rw [if_pos hsome]
      cases result <;> exact hmoved
    · unfold StartableService.deinitImplementation StartableService.drive
      rw [if_neg (by rw [hnone]; exact Bool.false_ne_true)]
      exact h

theorem sendEvent_running {s : StartableService} {event : ServiceEvent} (hevent : event ≠ .deinit)
    (h : s.state_machine ≠ .IS_DEINTIATED) :
    (s.sendEvent event).state_machine ≠ .IS_DEINTIATED := by
  obtain ⟨state, number⟩ := s
  cases event <;> cases state <;>
    simp_all [StartableService.sendEvent, chaos.utility.process_event]

theorem number_ne_of_running {state : ServiceState} (h : state ≠ .IS_DEINTIATED) :
    state.number ≠ ServiceState.IS_DEINTIATED.number := by
  cases state with
  | IS_DEINTIATED => exact absurd rfl h
  | IS_INITIATED | SS_STARTED | SS_STOPPED => decide

/-- A start and a stop are not handled by a deinitialized service and do not make one, and neither
does what takes them back. -/
theorem drive_startOrStop {s : StartableService} {event back : ServiceEvent}
    {message domainString : String} {hook : Except CException Unit}
    (hevent : event = .start ∧ back = .init ∨ event = .stop ∧ back = .start)
    (hsome : (process_event s.state_machine event).isSome) :
    s.state_machine ≠ .IS_DEINTIATED ∧
      (StartableService.drive event (some back) message s hook domainString).1.state_machine ≠
        .IS_DEINTIATED ∧
      ((StartableService.drive event (some back) message s hook domainString).1.serviceState =
        ServiceState.IS_DEINTIATED.number →
          s.serviceState = ServiceState.IS_DEINTIATED.number) := by
  have hne : event ≠ .deinit ∧ back ≠ .deinit := by
    rcases hevent with ⟨rfl, rfl⟩ | ⟨rfl, rfl⟩ <;> exact ⟨nofun, nofun⟩
  have hrunning : s.state_machine ≠ .IS_DEINTIATED := by
    intro hidle
    rw [hidle] at hsome
    rcases hevent with ⟨rfl, rfl⟩ | ⟨rfl, rfl⟩ <;> cases hsome
  have hmoved := sendEvent_running hne.1 hrunning
  unfold StartableService.drive
  rw [if_pos hsome]
  cases hook with
  | ok => exact ⟨hrunning, hmoved, fun hzero => absurd hzero (number_ne_of_running hmoved)⟩
  | error ex => exact ⟨hrunning, sendEvent_running hne.2 hmoved, id⟩

/-- The events of a unit that has its accessors. -/
theorem Sound.startOrStop (h : Sound u) {event back : ServiceEvent} {message : String}
    {hook : Except CException Unit} {answer : Except CException Bool}
    (hevent : event = .start ∧ back = .init ∨ event = .stop ∧ back = .start)
    (ht : u.drive event (StartableService.drive event (some back) message)
      (fun t => some (t, hook)) = some (t, answer)) : Sound t := by
  rcases drive_cases ht with ⟨hsome, v, result, hv, rfl, rfl⟩ | ⟨hnone, rfl, rfl⟩
  · cases hv
    obtain ⟨hrunning, hstill, hnumber⟩ := drive_startOrStop hevent hsome
    refine Sound.move h.toAccounts (fun hidle => absurd hidle hstill) fun hzero => ?_
    exact absurd (h.written (hnumber hzero)) hrunning
  · unfold StartableService.drive
    rw [if_neg (by rw [hnone]; exact nofun)]
    exact h

/-! ## Every run -/

/-- Each call keeps the accounts. -/
theorem Sound.step (h : Sound u) {c : UnitCall} (hsafe : u.IsSafe c) (ht : u.step c = some t) :
    Sound t := by
  cases c with
  | _init answers deinitAnswers =>
    obtain ⟨⟨t, thrown⟩, hinit, rfl⟩ := Option.map_eq_some_iff.mp ht
    unfold AbstractControlUnit._init at hinit
    split at hinit
    · cases hinit
      exact h
    · rename_i hcache
      have hshared : answers.sharedCache = true := by
        cases hc : answers.sharedCache with
        | true => rfl
        | false => exact absurd (by rw [hc]; rfl) hcache
      obtain ⟨⟨v, answer⟩, hdrive, hrest⟩ := Option.bind_eq_some_iff.mp hinit
      obtain ⟨hsound, hdeinit⟩ := h.init hshared hsafe hdrive
      cases answer with
      | error ex =>
        cases hrest
        exact hsound
      | ok b =>
        cases hunit : answers.unitInit with
        | none =>
          simp only [hunit] at hrest
          cases hrest
          exact hsound
        | some ex =>
          simp only [hunit] at hrest
          obtain ⟨w, hw, heq⟩ := Option.map_eq_some_iff.mp hrest
          cases heq
          exact hsound.deinit (hdeinit b rfl (by rw [hunit]; exact nofun)) hw
  | _start start unitStart stop =>
    obtain ⟨⟨t, thrown⟩, hstart, rfl⟩ := Option.map_eq_some_iff.mp ht
    obtain ⟨⟨v, answer⟩, hdrive, hrest⟩ := Option.bind_eq_some_iff.mp hstart
    have hsound := h.startOrStop (.inl ⟨rfl, rfl⟩) hdrive
    cases answer with
    | error ex =>
      cases hrest
      exact hsound
    | ok b =>
      cases unitStart with
      | none =>
        cases hrest
        exact hsound
      | some ex =>
        obtain ⟨⟨w, answer⟩, hw, heq⟩ := Option.map_eq_some_iff.mp hrest
        cases heq
        exact hsound.startOrStop (.inr ⟨rfl, rfl⟩) hw
  | _stop stop =>
    obtain ⟨⟨t, answer⟩, hstop, rfl⟩ := Option.map_eq_some_iff.mp ht
    exact h.startOrStop (.inr ⟨rfl, rfl⟩) hstop
  | _deinit answers => exact h.deinit hsafe ht

/-- In each run of safe calls, no accessor is leaked in any state that is reached. -/
theorem settled_of_safe {m : DriverManager} (h : m.Wired) {calls : List UnitCall}
    (hsafe : RunOk step IsSafe (create m) calls) (ht : run step (create m) calls = some t) :
    t.Settled :=
  (run_keeps_of_ok Sound (fun _ _ _ hsound hc hstep => hsound.step hc hstep) (sound_create h) hsafe
    ht).settled

/-- A driver that is instantiated for its request. -/
def granted : DrvRequestInfo × Instantiation := (⟨['a'], ['1'], []⟩, .initialized ['u'])

/-- A request for a driver that was not registered. -/
def refused : DrvRequestInfo × Instantiation := (⟨['b'], ['1'], []⟩, .throws)

def initAnswers (drivers : List (DrvRequestInfo × Instantiation)) : InitAnswers where
  sharedCache := true
  before := none
  drivers := drivers
  dataset := none
  creation := none
  storageInit := none
  unitInit := none

def someException : CException := ⟨-1, "", ""⟩

def lifeOfUnit : List UnitCall :=
  [._init (initAnswers [granted]) ⟨none, none⟩, ._start (.ok ()) none (.ok ()), ._stop (.ok ()),
    ._deinit ⟨none, none⟩]

theorem settled_through_a_life :
    ∃ t, run step (create (.new [['a', '1']])) lifeOfUnit = some t ∧ t.Settled := by
  have hsafe : RunOk step IsSafe (create (.new [['a', '1']])) lifeOfUnit := by
    refine ⟨fun _ _ _ => ⟨⟨fun _ _ _ => rfl, fun _ _ _ => trivial⟩, .inr ?_⟩, fun _ _ => ?_⟩
    · exact ⟨⟨_, _, rfl, trivial⟩, rfl, rfl, rfl, fun hne => absurd rfl hne⟩
    · exact ⟨trivial, fun _ _ => ⟨trivial, fun _ _ => ⟨fun _ _ => .inl rfl, fun _ _ => trivial⟩⟩⟩
  exact ⟨_, rfl, settled_of_safe (DriverManager.wired_new _) hsafe rfl⟩

/-- The accessor of the first request is leaked when the second one throws; and the accessors of a
unit whose storage did not let it release them are dropped by its next initialization. -/
theorem not_settled_after_failures :
    (∃ t, run step (create (.new [['a', '1']]))
      [._init (initAnswers [granted, refused]) ⟨none, none⟩] = some t ∧ ¬ t.Settled) ∧
    ∃ t, run step (create (.new [['a', '1']])) [._init (initAnswers [granted]) ⟨none, none⟩,
      ._deinit ⟨none, some someException⟩, ._init (initAnswers []) ⟨none, none⟩,
      ._deinit ⟨none, none⟩] = some t ∧ ¬ t.Settled :=
  ⟨⟨_, rfl, fun h => absurd (h rfl 0 List.mem_cons_self).1 nofun⟩,
    ⟨_, rfl, fun h => absurd (h rfl 0 List.mem_cons_self).1 nofun⟩⟩

end AbstractControlUnit

end chaos.cu.control_manager.lifecycle
