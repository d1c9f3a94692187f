-- Which accessors share a driver, and how long a driver lives. The text of a request does not say
-- where its parts end, a driver whose initialization throws is not deleted, and two drivers can
-- get the same uuid.
import Chaos.DriverInstances
import Chaos.HeapIndex
import Mathlib.Data.List.Nodup

namespace chaos.cu.driver_manager

open runs heap_index

namespace DriverManager

variable {s t : DriverManager}

/-! ## What is claimed -/

/-- The accessors of one driver are those of one request, and a driver lives while it has one. -/
structure Shared (s : DriverManager) : Prop where
  shared : ∀ a b accessor accessor', s.accessors a = some accessor →
    s.accessors b = some accessor' →
    (accessor.command_queue = accessor'.command_queue ↔ accessor.request = accessor'.request)
  alive : ∀ d, s.drivers d ≠ none ↔
    ∃ a accessor, s.accessors a = some accessor ∧ accessor.command_queue = d

/-- A request that fails leaves both maps. -/
def FailsClean (s : DriverManager) : Prop :=
  ∀ request outcome t, s.getNewAccessorForDriverInstance request outcome = some (t, none) →
    t.mapParameterLiveInstance = s.mapParameterLiveInstance ∧
      t.mapDriverUUIDHashLiveInstance = s.mapDriverUUIDHashLiveInstance

/-! ## The condition -/

/-- A new instance is initialized, with a uuid that no live one has. -/
def Completes (s : DriverManager) : Instantiation → Prop
  | .throws => True
  | .null | .initThrows _ => False
  | .initialized driverUUID => s.mapDriverUUIDHashLiveInstance driverUUID = none

/-- A live driver that is found for a request is there for the same three parts; a new one
comes to its end; and only an accessor that is there is released. -/
def Distinct (s : DriverManager) : Label → Prop
  | .getNewAccessorForDriverInstance request outcome =>
    match s.mapParameterLiveInstance request.stringForMap with
    | some d => ∀ a < s.nextAccessor, ∀ accessor ∈ s.accessors a,
      accessor.command_queue = d → accessor.request = request
    | none => request.composedDriverName ∈ s.mapDriverAliasVersionInstancer → Completes s outcome
  | .releaseAccessor accessor => (s.accessors accessor).isSome

instance (s : DriverManager) : ∀ outcome, Decidable (Completes s outcome)
  | .throws => isTrue trivial
  | .null | .initThrows _ => isFalse id
  | .initialized _ => inferInstanceAs (Decidable (_ = _))

instance (s : DriverManager) : ∀ a, Decidable (Distinct s a)
  | .releaseAccessor _ => inferInstanceAs (Decidable (_ = _))
  | .getNewAccessorForDriverInstance request outcome =>
    match h : s.mapParameterLiveInstance request.stringForMap with
    | some d =>
      decidable_of_iff (∀ a < s.nextAccessor, ∀ accessor ∈ s.accessors a,
        accessor.command_queue = d → accessor.request = request) (by simp only [Distinct, h])
    | none =>
      decidable_of_iff (s.mapDriverAliasVersionInstancer.contains request.composedDriverName →
        Completes s outcome) (by simp only [Distinct, h, List.contains_iff_mem])

/-! ## The invariant -/

structure Linked (s : DriverManager) : Prop where
  parameters : Indexes s.mapParameterLiveInstance AbstractDriver.identificationString s.drivers
  uuids : Indexes s.mapDriverUUIDHashLiveInstance AbstractDriver.driverUUID s.drivers
  once : ∀ d driver, s.drivers d = some driver → driver.accessors.Nodup
  listed : ∀ d driver a, s.drivers d = some driver → a ∈ driver.accessors →
    ∃ accessor, s.accessors a = some accessor ∧ accessor.command_queue = d
  /-- an accessor is in the list of its driver, and the driver has the text of its request -/
  owned : ∀ a accessor, s.accessors a = some accessor → ∃ driver,
    s.drivers accessor.command_queue = some driver ∧ a ∈ driver.accessors ∧
      accessor.driver_uuid = driver.driverUUID ∧
      driver.identificationString = accessor.request.stringForMap
  /-- the driver was instantiated for the very parts of the request -/
  same : ∀ a b accessor accessor', s.accessors a = some accessor →
    s.accessors b = some accessor' → accessor.command_queue = accessor'.command_queue →
    accessor.request = accessor'.request
  newDriver : ∀ d, s.nextDriver ≤ d → s.drivers d = none
  newAccessor : ∀ a, s.nextAccessor ≤ a → s.accessors a = none

structure Good (s : DriverManager) : Prop extends Linked s where
  held : ∀ d driver, s.drivers d = some driver → driver.accessors ≠ []

theorem good_new (registered : List (List Char)) : Good (new registered) := by
  constructor
  · constructor <;> simp [new, Indexes]
  · simp [new]

theorem Good.shared (h : Good s) : Shared s := by
  constructor
  · intro a b accessor accessor' ha hb
    refine ⟨h.same a b accessor accessor' ha hb, fun hreq => ?_⟩
    obtain ⟨driver, hd, -, -, hid⟩ := h.owned a accessor ha
    obtain ⟨driver', hd', -, -, hid'⟩ := h.owned b accessor' hb
    refine h.parameters.unique hd hd' ?_
    rw [hid, hid', hreq]
  · intro d
    constructor
    · intro hd
      obtain ⟨driver, hd⟩ := Option.ne_none_iff_exists'.mp hd
      obtain ⟨a, ha⟩ := List.exists_mem_of_ne_nil _ (h.held d driver hd)
      obtain ⟨accessor, hacc, hq⟩ := h.listed d driver a hd ha
      exact ⟨a, accessor, hacc, hq⟩
    · rintro ⟨a, accessor, ha, rfl⟩
      obtain ⟨driver, hd, -⟩ := h.owned a accessor ha
      simp [hd]

theorem failsClean (s : DriverManager) : FailsClean s := by
  intro request outcome t ht
  simp only [getNewAccessorForDriverInstance] at ht
  rcases hkey : s.mapParameterLiveInstance request.stringForMap with _ | d <;>
    simp only [hkey] at ht
  · by_cases hreg : request.composedDriverName ∈ s.mapDriverAliasVersionInstancer
    · rw [if_pos hreg] at ht
      cases outcome with
      | throws =>
        cases ht
        exact ⟨rfl, rfl⟩
      | null => cases ht
      | initThrows driverUUID =>
        cases ht
        exact ⟨rfl, rfl⟩
      | initialized driverUUID =>
        obtain ⟨u, -, hu⟩ := Option.map_eq_some_iff.mp ht
        cases hu
    · rw [if_neg hreg] at ht
      cases ht
      exact ⟨rfl, rfl⟩
  · obtain ⟨u, -, hu⟩ := Option.map_eq_some_iff.mp ht
    cases hu

/-! ## The steps -/

/-- A new accessor of a live driver, which is in no list yet. -/
theorem Linked.getNewAccessor (h : Linked s) {d : Nat} {driver : AbstractDriver}
    {request : DrvRequestInfo} (hd : s.drivers d = some driver)
    (hid : driver.identificationString = request.stringForMap)
    (hsame : ∀ a accessor, s.accessors a = some accessor → accessor.command_queue = d →
      accessor.request = request)
    (hheld : ∀ d' driver', d' ≠ d → s.drivers d' = some driver' → driver'.accessors ≠ []) :
    ∃ t, s.getNewAccessor d request = some t ∧ Good t := by
  have hnew : s.accessors s.nextAccessor = none := h.newAccessor _ (Nat.le_refl _)
  have hfresh : ∀ d' driver', s.drivers d' = some driver' → s.nextAccessor ∉ driver'.accessors := by
    intro d' driver' hd' hin
    obtain ⟨accessor, hacc, -⟩ := h.listed d' driver' _ hd' hin
    rw [hnew] at hacc
    cases hacc
  unfold DriverManager.getNewAccessor
  rw [hd]
  refine ⟨_, rfl, ⟨?_, ?_, ?_, ?_, ?_, ?_, ?_, ?_⟩, ?_⟩
  · exact h.parameters.change hd rfl
  · exact h.uuids.change hd rfl
  · intro d' driver' hd'
    rcases eq_or_ne d' d with rfl | hne
    · simp only [Function.update_self, Option.some.injEq] at hd'
      subst hd'
      refine List.nodup_append.mpr ⟨h.once _ _ hd, List.nodup_singleton _, ?_⟩
      intro a ha b hb hab
      rw [hab, List.mem_singleton.mp hb] at ha
      exact hfresh _ _ hd ha
    · simp only [Function.update_of_ne hne] at hd'
      exact h.once d' driver' hd'
  · intro d' driver' a hd' ha
    have hold : ∀ driver', s.drivers d' = some driver' → a ∈ driver'.accessors →
        ∃ accessor, Function.update s.accessors s.nextAccessor
          (some ⟨driver.driverUUID, driver.accessorCount, d, request⟩) a = some accessor ∧
          accessor.command_queue = d' := by
      intro driver' hd' ha
      have hne : a ≠ s.nextAccessor := fun he => hfresh _ _ hd' (he ▸ ha)
      rw [Function.update_of_ne hne]
      exact h.listed d' driver' a hd' ha
    rcases eq_or_ne d' d with rfl | hne
    · simp only [Function.update_self, Option.some.injEq] at hd'
      subst hd'
      rcases List.mem_append.mp ha with ha | ha
      · exact hold _ hd ha
      · rw [List.mem_singleton.mp ha]
        exact ⟨_, Function.update_self .., rfl⟩
    · simp only [Function.update_of_ne hne] at hd'
      exact hold _ hd' ha
  · intro a accessor ha
    rcases eq_or_ne a s.nextAccessor with rfl | hne
    · simp only [Function.update_self, Option.some.injEq] at ha
      subst ha
      exact ⟨_, Function.update_self .., by simp, rfl, hid⟩
    · simp only [Function.update_of_ne hne] at ha
      obtain ⟨driver', hd', hin, huuid, hid'⟩ := h.owned a accessor ha
      rcases eq_or_ne accessor.command_queue d with he | hne'
      · rw [he, hd, Option.some.injEq] at hd'
        subst hd'
        rw [he]
        exact ⟨_, Function.update_self .., List.mem_append_left _ hin, huuid, hid'⟩
      · exact ⟨driver', by simp [Function.update_of_ne hne', hd'], hin, huuid, hid'⟩
  · intro a b accessor accessor' ha hb hq
    rcases eq_or_ne a s.nextAccessor with rfl | hna <;>
      rcases eq_or_ne b s.nextAccessor with rfl | hnb
    · rw [ha] at hb
      cases hb
      rfl
    · simp only [Function.update_self, Function.update_of_ne hnb, Option.some.injEq] at ha hb
      subst ha
      exact (hsame b accessor' hb hq.symm).symm
    · simp only [Function.update_self, Function.update_of_ne hna, Option.some.injEq] at ha hb
      subst hb
      exact hsame a accessor ha hq
    · simp only [Function.update_of_ne hna, Function.update_of_ne hnb] at ha hb
      exact h.same a b accessor accessor' ha hb hq
  · intro d' hle
    refine (Function.update_of_ne ?_ ..).trans (h.newDriver d' hle)
    rintro rfl
    rw [h.newDriver _ hle] at hd
    cases hd
  · intro a hle
    have hle : s.nextAccessor + 1 ≤ a := hle
    refine (Function.update_of_ne (by omega) ..).trans (h.newAccessor a (by omega))
  · intro d' driver' hd'
    rcases eq_or_ne d' d with rfl | hne
    · simp only [Function.update_self, Option.some.injEq] at hd'
      subst hd'
      simp
    · simp only [Function.update_of_ne hne] at hd'
      exact hheld d' driver' hne hd'

/-- A new instance that both maps name, and that has no accessor yet. -/
theorem Linked.instantiate (h : Linked s) {driverUUID identificationString : List Char}
    (hid : s.mapParameterLiveInstance identificationString = none)
    (huuid : s.mapDriverUUIDHashLiveInstance driverUUID = none) :
    Linked { s.instantiate driverUUID identificationString with
      mapParameterLiveInstance :=
        insert s.mapParameterLiveInstance identificationString s.nextDriver
      mapDriverUUIDHashLiveInstance :=
        insert s.mapDriverUUIDHashLiveInstance driverUUID s.nextDriver } := by
  have hnew : s.drivers s.nextDriver = none := h.newDriver _ (Nat.le_refl _)
  have hne : ∀ {d driver}, s.drivers d = some driver → d ≠ s.nextDriver := by
    rintro d driver hd rfl
    rw [hnew] at hd
    cases hd
  let driver₀ : AbstractDriver :=
    { driverUUID := driverUUID, identificationString := identificationString }
  simp only [insert, hid, huuid, Option.isSome_none, Bool.false_eq_true, if_false,
    DriverManager.instantiate]
  constructor
  · exact h.parameters.insert (a := driver₀) hnew hid
  · exact h.uuids.insert (a := driver₀) hnew huuid
  · intro d driver hd
    rcases eq_or_ne d s.nextDriver with rfl | hd'
    · simp only [Function.update_self, Option.some.injEq] at hd
      subst hd
      exact List.nodup_nil
    · simp only [Function.update_of_ne hd'] at hd
      exact h.once d driver hd
  · intro d driver a hd ha
    rcases eq_or_ne d s.nextDriver with rfl | hd'
    · simp only [Function.update_self, Option.some.injEq] at hd
      subst hd
      cases ha
    · simp only [Function.update_of_ne hd'] at hd
      exact h.listed d driver a hd ha
  · intro a accessor ha
    obtain ⟨driver, hd, hrest⟩ := h.owned a accessor ha
    exact ⟨driver, by simp [Function.update_of_ne (hne hd), hd], hrest⟩
  · exact h.same
  · intro d hle
    have hle : s.nextDriver + 1 ≤ d := hle
    exact (Function.update_of_ne (by omega) ..).trans (h.newDriver d (by omega))
  · exact h.newAccessor

theorem Good.getNewAccessorForDriverInstance (h : Good s) {request : DrvRequestInfo}
    {outcome : Instantiation}
    (hok : Distinct s (.getNewAccessorForDriverInstance request outcome)) :
    ∃ t, step s (.getNewAccessorForDriverInstance request outcome) = some t ∧ Good t := by
  simp only [Distinct] at hok
  simp only [step, DriverManager.getNewAccessorForDriverInstance]
  rcases hkey : s.mapParameterLiveInstance request.stringForMap with _ | d
  · simp only [hkey] at hok ⊢
    by_cases hreg : request.composedDriverName ∈ s.mapDriverAliasVersionInstancer
    · simp only [if_pos hreg]
      cases outcome with
      | throws => exact ⟨s, rfl, h⟩
      | null => exact (hok hreg).elim
      | initThrows driverUUID => exact (hok hreg).elim
      | initialized driverUUID =>
        have hnone : ∀ a accessor, s.accessors a = some accessor →
            accessor.command_queue = s.nextDriver → accessor.request = request := by
          intro a accessor ha hq
          obtain ⟨driver, hd, -⟩ := h.owned a accessor ha
          rw [hq, h.newDriver _ (Nat.le_refl _)] at hd
          cases hd
        obtain ⟨t, ht, hgood⟩ := (h.instantiate hkey (hok hreg)).getNewAccessor
          (Function.update_self ..) rfl hnone
          fun d' driver' hne hd' => h.held d' driver' ((Function.update_of_ne hne ..).symm.trans hd')
        refine ⟨t, ?_, hgood⟩
        have := congrArg (Option.map fun u => (u, some s.nextAccessor)) ht
        exact congrArg (Option.map Prod.fst) this
    · rw [if_neg hreg]
      exact ⟨s, rfl, h⟩
  · simp only [hkey] at hok ⊢
    obtain ⟨driver, hd, hid⟩ := (h.parameters _ _).mp hkey
    have hsame : ∀ a accessor, s.accessors a = some accessor → accessor.command_queue = d →
        accessor.request = request := by
      intro a accessor ha hq
      have hlt : a < s.nextAccessor := by
        by_contra hle
        rw [h.newAccessor a (Nat.le_of_not_lt hle)] at ha
        cases ha
      exact hok a hlt accessor ha hq
    obtain ⟨t, ht, hgood⟩ := h.toLinked.getNewAccessor hd hid hsame
      fun d' driver' _ hd' => h.held d' driver' hd'
    exact ⟨t, by rw [ht]; rfl, hgood⟩

/-- The last accessor of a driver takes the driver with it. -/
theorem Good.releaseAccessor (h : Good s) {a : Nat} {accessor : DriverAccessor}
    (ha : s.accessors a = some accessor) : ∃ t, s.releaseAccessor a = some t ∧ Good t := by
  obtain ⟨driver, hd, hin, huuid, hid⟩ := h.owned a accessor ha
  have hfind := h.uuids.find hd
  have hothers : ∀ {d' driver' b}, s.drivers d' = some driver' → b ∈ driver'.accessors →
      (d' = accessor.command_queue → b ≠ a) →
      ∃ x, Function.update s.accessors a none b = some x ∧ x.command_queue = d' := by
    intro d' driver' b hd' hb hne
    obtain ⟨x, hx, hq⟩ := h.listed d' driver' b hd' hb
    have hba : b ≠ a := by
      rintro rfl
      rw [ha, Option.some.injEq] at hx
      subst hx
      exact hne hq.symm rfl
    exact ⟨x, by rw [Function.update_of_ne hba, hx], hq⟩
  have hleft : ∀ {b x}, Function.update s.accessors a none b = some x →
      b ≠ a ∧ s.accessors b = some x := by
    intro b x hb
    rcases eq_or_ne b a with rfl | hba
    · simp at hb
    · exact ⟨hba, by rwa [Function.update_of_ne hba] at hb⟩
  have hsame : ∀ b c x y, Function.update s.accessors a none b = some x →
      Function.update s.accessors a none c = some y → x.command_queue = y.command_queue →
      x.request = y.request :=
    fun b c x y hb hc => h.same b c x y (hleft hb).2 (hleft hc).2
  have hfresh : ∀ b, s.nextAccessor ≤ b → Function.update s.accessors a none b = none := by
    intro b hle
    rcases eq_or_ne b a with rfl | hba
    · simp
    · rw [Function.update_of_ne hba, h.newAccessor b hle]
  have hlt : ∀ d, s.nextDriver ≤ d → d ≠ accessor.command_queue := by
    rintro d hle rfl
    rw [h.newDriver _ hle] at hd
    cases hd
  simp only [DriverManager.releaseAccessor, ha, hfind, hd, Option.bind_some, huuid, ne_eq,
    not_true_eq_false, if_false, AbstractDriver.releaseAccessor, if_pos hin, Option.map_some]
  refine ⟨_, rfl, ?_⟩
  by_cases hempty : driver.accessors.erase a = []
  · rw [if_pos hempty]
    have honly : ∀ b ∈ driver.accessors, b = a := by
      intro b hb
      by_contra hne
      have := (List.mem_erase_of_ne hne).mpr hb
      rw [hempty] at this
      cases this
    have hdrivers : ∀ {d' driver'}, Function.update s.drivers accessor.command_queue none d' =
        some driver' → d' ≠ accessor.command_queue ∧ s.drivers d' = some driver' := by
      intro d' driver' hd'
      rcases eq_or_ne d' accessor.command_queue with rfl | hne
      · simp at hd'
      · exact ⟨hne, by rwa [Function.update_of_ne hne] at hd'⟩
    refine ⟨⟨h.parameters.erase hd, h.uuids.erase hd, ?_, ?_, ?_, hsame, ?_, hfresh⟩, ?_⟩
    · exact fun d' driver' hd' => h.once d' driver' (hdrivers hd').2
    · intro d' driver' b hd' hb
      exact hothers (hdrivers hd').2 hb fun he => absurd he (hdrivers hd').1
    · intro b x hb
      obtain ⟨hba, hx⟩ := hleft hb
      obtain ⟨driver', hd', hin', hrest⟩ := h.owned b x hx
      refine ⟨driver', (Function.update_of_ne ?_ ..).trans hd', hin', hrest⟩
      intro he
      rw [he, hd, Option.some.injEq] at hd'
      subst hd'
      exact hba (honly b hin')
    · intro d hle
      exact (Function.update_of_ne (hlt d hle) ..).trans (h.newDriver d hle)
    · exact fun d' driver' hd' => h.held d' driver' (hdrivers hd').2
  · rw [if_neg hempty]
    have hdrivers : ∀ {d' driver'}, Function.update s.drivers accessor.command_queue
        (some { driver with accessors := driver.accessors.erase a }) d' = some driver' →
        d' = accessor.command_queue ∧
          driver' = { driver with accessors := driver.accessors.erase a } ∨
        d' ≠ accessor.command_queue ∧ s.drivers d' = some driver' := by
      intro d' driver' hd'
      rcases eq_or_ne d' accessor.command_queue with rfl | hne
      · simp only [Function.update_self, Option.some.injEq] at hd'
        exact .inl ⟨rfl, hd'.symm⟩
      · exact .inr ⟨hne, by rwa [Function.update_of_ne hne] at hd'⟩
    refine ⟨⟨h.parameters.change hd rfl, h.uuids.change hd rfl, ?_, ?_, ?_, hsame, ?_, hfresh⟩, ?_⟩
    · intro d' driver' hd'
      rcases hdrivers hd' with ⟨-, rfl⟩ | ⟨-, hd'⟩
      · exact (h.once _ _ hd).erase a
      · exact h.once d' driver' hd'
    · intro d' driver' b hd' hb
      rcases hdrivers hd' with ⟨rfl, rfl⟩ | ⟨hne, hd'⟩
      · refine hothers hd (List.mem_of_mem_erase hb) fun _ he => ?_
        subst he
        exact (h.once _ _ hd).not_mem_erase hb
      · exact hothers hd' hb fun he => absurd he hne
    · intro b x hb
      obtain ⟨hba, hx⟩ := hleft hb
      obtain ⟨driver', hd', hin', hrest⟩ := h.owned b x hx
      rcases eq_or_ne x.command_queue accessor.command_queue with he | hne
      · rw [he, hd, Option.some.injEq] at hd'
        subst hd'
        rw [he]
        exact ⟨_, Function.update_self .., (List.mem_erase_of_ne hba).mpr hin', hrest⟩
      · exact ⟨driver', (Function.update_of_ne hne ..).trans hd', hin', hrest⟩
    · intro d hle
      exact (Function.update_of_ne (hlt d hle) ..).trans (h.newDriver d hle)
    · intro d' driver' hd'
      rcases hdrivers hd' with ⟨-, rfl⟩ | ⟨-, hd'⟩
      · exact hempty
      · exact h.held d' driver' hd'

theorem step_good (hs : Good s) (a : Label) (hok : Distinct s a) :
    ∃ t, step s a = some t ∧ Good t := by
  cases a with
  | getNewAccessorForDriverInstance request outcome => exact hs.getNewAccessorForDriverInstance hok
  | releaseAccessor accessor =>
    obtain ⟨x, hx⟩ := Option.isSome_iff_exists.mp hok
    exact hs.releaseAccessor hx

/-! ## What holds of the runs -/

/-- Each step is defined, and the claimed property holds after each run that meets the condition. -/
theorem drivers_are_shared_by_request (registered : List (List Char)) (as : List Label)
    (hok : RunOk step Distinct (new registered) as) :
    ∃ t, run step (new registered) as = some t ∧ Shared t ∧ FailsClean t := by
  obtain ⟨t, ht, hgood⟩ :=
    run_ends_of_ok Good (fun s a hs hstep => step_good hs a hstep) (good_new registered) hok
  exact ⟨t, ht, hgood.shared, failsClean t⟩

/-- Two drivers that are shared, given back and instantiated again. -/
def sharedDrivers : List Label :=
  [.getNewAccessorForDriverInstance ⟨['a'], ['1'], ['x']⟩ (.initialized ['u']),
    .getNewAccessorForDriverInstance ⟨['a'], ['1'], ['y']⟩ (.initialized ['v']),
    .getNewAccessorForDriverInstance ⟨['a'], ['1'], ['x']⟩ .throws,
    .getNewAccessorForDriverInstance ⟨['b'], ['1'], []⟩ .null,
    .releaseAccessor 0, .releaseAccessor 2,
    .getNewAccessorForDriverInstance ⟨['a'], ['1'], ['x']⟩ (.initialized ['u'])]

theorem drivers_are_shared_and_instantiated_again :
    ∃ t, run step (new [['a', '1']]) sharedDrivers = some t ∧ Shared t ∧ FailsClean t :=
  drivers_are_shared_by_request [['a', '1']] sharedDrivers (by decide)

/-- Requests for different aliases share a driver; a driver whose initialization throws lives on
without an accessor; and the accessor of a driver whose uuid is taken cannot be released. -/
theorem drivers_are_not_shared_by_request :
    (∃ t, run step (new [['a', 'b', 'c']])
      [.getNewAccessorForDriverInstance ⟨['a', 'b'], ['c'], []⟩ (.initialized ['u']),
        .getNewAccessorForDriverInstance ⟨['a'], ['b', 'c'], []⟩ .throws] = some t ∧ ¬ Shared t) ∧
    (∃ t, run step (new [['a', '1']])
      [.getNewAccessorForDriverInstance ⟨['a'], ['1'], []⟩ (.initThrows ['u'])] = some t ∧
        ¬ Shared t) ∧
    run step (new [['a', '1']])
      [.getNewAccessorForDriverInstance ⟨['a'], ['1'], ['x']⟩ (.initialized ['u']),
        .getNewAccessorForDriverInstance ⟨['a'], ['1'], ['y']⟩ (.initialized ['u']),
        .releaseAccessor 1] = none := by
  refine ⟨⟨_, rfl, ?_⟩, ⟨_, rfl, ?_⟩, rfl⟩
  · intro h
    have := (h.shared 0 1 _ _ rfl rfl).mp rfl
    cases this
  · intro h
    obtain ⟨a, accessor, ha, -⟩ := (h.alive 0).mp (by simp [new, instantiate])
    cases ha

end DriverManager

end chaos.cu.driver_manager
