-- The registration of control units keeps one manager for an identifier, in one of the two maps. Its
-- actions are registered from the step after its acknowledgement to the first step after the request
-- to unload it.
import Chaos.UnitRegistration

namespace chaos.cu.control_manager

open runs

namespace ControlManager

variable {s t : ControlManager} {o : Nat} {w w' : WorkUnitManagement} {cuid : List Char}

/-! ## What is claimed -/

structure Unique (s : ControlManager) : Prop where
  /-- no identifier is in both maps -/
  apart : ∀ cuid ∈ s.map_cuid_reg_unreg_instance, cuid ∉ s.map_cuid_registered_instance
  /-- no two managers have one identifier -/
  single : ∀ o o' w w', s.units o = some w → s.units o' = some w' → w.getCUID = w'.getCUID → o = o'
  /-- each action of a unit is registered once -/
  once : s.actions.Nodup
  /-- a manager whose actions are registered is there, and it is not `Unpublished` -/
  acting : ∀ a ∈ s.actions, ∃ w, s.units a.1 = some w ∧ w.wu_instance_sm ≠ .Unpublished
  /-- a manager that is there is in one of the maps -/
  held : ∀ o w, s.units o = some w → s.map_cuid_reg_unreg_instance.lookup w.getCUID = some o ∨
    s.map_cuid_registered_instance.lookup w.getCUID = some o

/-! ## The invariant -/

/-- The unit has its actions registered. -/
def Acting (w : WorkUnitManagement) : Prop :=
  w.wu_instance_sm = .StartUnpublishing ∨ w.wu_instance_sm = .Published ∧ w.active = false

structure Good (s : ControlManager) : Prop where
  registering : ∀ cuid o, s.map_cuid_reg_unreg_instance.lookup cuid = some o →
    ∃ w, s.units o = some w ∧ w.getCUID = cuid
  registered : ∀ cuid o, s.map_cuid_registered_instance.lookup cuid = some o →
    ∃ w, s.units o = some w ∧ w.getCUID = cuid ∧ w.wu_instance_sm = .Published ∧ w.active = false
  apart : ∀ cuid ∈ s.map_cuid_reg_unreg_instance, cuid ∉ s.map_cuid_registered_instance
  held : ∀ o w, s.units o = some w → s.map_cuid_reg_unreg_instance.lookup w.getCUID = some o ∨
    s.map_cuid_registered_instance.lookup w.getCUID = some o
  /-- a unit that waits for its acknowledgement has another step to come -/
  publishing : ∀ o w, s.units o = some w → w.wu_instance_sm = .Publishing → w.active = true
  actions : ∀ o i, (o, i) ∈ s.actions ↔
    ∃ w, s.units o = some w ∧ Acting w ∧ i < w.work_unit_instance.declareActions
  once : s.actions.Nodup
  fresh : ∀ o, s.next ≤ o → s.units o = none

theorem mem_of_lookup {m : UnitMap} (h : m.lookup cuid = some o) : cuid ∈ m :=
  AList.lookup_isSome.mp (by rw [h]; rfl)

theorem good_new (aliases : List (List Char)) : Good (new aliases) := by
  constructor <;> simp [new]

theorem Good.unique (h : Good s) : Unique s := by
  refine { apart := h.apart, single := ?_, once := h.once, acting := ?_, held := h.held }
  · intro o o' w w' hw hw' hid
    rcases h.held o w hw with ho | ho <;> rcases h.held o' w' hw' with ho' | ho' <;>
      rw [hid] at ho
    · exact Option.some.inj (ho.symm.trans ho')
    · exact absurd (mem_of_lookup ho') (h.apart _ (mem_of_lookup ho))
    · exact absurd (mem_of_lookup ho) (h.apart _ (mem_of_lookup ho'))
    · exact Option.some.inj (ho.symm.trans ho')
  · rintro ⟨o, i⟩ ha
    obtain ⟨w, hw, hact, -⟩ := (h.actions o i).mp ha
    refine ⟨w, hw, ?_⟩
    rcases hact with hs | ⟨hs, -⟩ <;> simp [hs]

theorem mem_declared {a : Nat × Nat} :
    a ∈ declared o w ↔ a.1 = o ∧ a.2 < w.work_unit_instance.declareActions := by
  obtain ⟨o', i⟩ := a
  simp only [declared, List.mem_map, List.mem_range, Prod.mk.injEq]
  constructor
  · rintro ⟨j, hj, rfl, rfl⟩
    exact ⟨rfl, hj⟩
  · rintro ⟨rfl, hi⟩
    exact ⟨i, hi, rfl, rfl⟩

theorem nodup_declared : (declared o w).Nodup :=
  List.Nodup.map (fun _ _ h => (Prod.mk.inj h).2) List.nodup_range

/-! ## Units that change in the first map -/

/-- A unit of the first map changes, and the actions that are registered with it. -/
theorem Good.changed (h : Good s) (hin : s.map_cuid_reg_unreg_instance.lookup cuid = some o)
    (hw : s.units o = some w) (w' : WorkUnitManagement)
    (hunit : w'.work_unit_instance = w.work_unit_instance)
    (hpub : w'.wu_instance_sm = .Publishing → w'.active = true) {as : List (Nat × Nat)}
    (honce : as.Nodup) (hown : ∀ i, (o, i) ∈ as ↔
      Acting w' ∧ i < w.work_unit_instance.declareActions)
    (hother : ∀ o' i, o' ≠ o → ((o', i) ∈ as ↔ (o', i) ∈ s.actions)) :
    Good { s.set o w' with actions := as } := by
  have hid : w'.getCUID = w.getCUID := by
    unfold WorkUnitManagement.getCUID
    rw [hunit]
  obtain ⟨w₀, hw₀, hcuid⟩ := h.registering cuid o hin
  rw [hw, Option.some.injEq] at hw₀
  subst hw₀
  have hnot : ∀ c, s.map_cuid_registered_instance.lookup c ≠ some o := by
    intro c hc
    obtain ⟨w₁, hw₁, hc₁, -⟩ := h.registered c o hc
    rw [hw, Option.some.injEq] at hw₁
    subst hw₁
    rw [← hc₁, hcuid] at hc
    exact h.apart _ (mem_of_lookup hin) (mem_of_lookup hc)
  refine
    { registering := ?_, registered := ?_, apart := h.apart, held := ?_, publishing := ?_
      actions := ?_, once := honce, fresh := ?_ }
  · intro c o' hc
    obtain ⟨w₁, hw₁, hc₁⟩ := h.registering c o' hc
    rcases eq_or_ne o' o with rfl | hne
    · rw [hw, Option.some.injEq] at hw₁
      subst hw₁
      exact ⟨w', by simp [set], by rw [hid, hc₁]⟩
    · exact ⟨w₁, by simp [set, Function.update_of_ne hne, hw₁], hc₁⟩
  · intro c o' hc
    have hne : o' ≠ o := by
      rintro rfl
      exact hnot c hc
    obtain ⟨w₁, hw₁, hrest⟩ := h.registered c o' hc
    exact ⟨w₁, by simp [set, Function.update_of_ne hne, hw₁], hrest⟩
  · intro o' w₁ hw₁
    rcases eq_or_ne o' o with rfl | hne
    · simp only [set, Function.update_self, Option.some.injEq] at hw₁
      subst hw₁
      left
      rw [hid, hcuid]
      exact hin
    · simp only [set, Function.update_of_ne hne] at hw₁
      exact h.held o' w₁ hw₁
  · intro o' w₁ hw₁
    rcases eq_or_ne o' o with rfl | hne
    · simp only [set, Function.update_self, Option.some.injEq] at hw₁
      subst hw₁
      exact hpub
    · simp only [set, Function.update_of_ne hne] at hw₁
      exact h.publishing o' w₁ hw₁
  · intro o' i
    rcases eq_or_ne o' o with rfl | hne
    · rw [hown]
      simp [set, hunit]
    · rw [hother o' i hne, h.actions o' i]
      simp [set, Function.update_of_ne hne]
  · intro o' hle
    have hne : o' ≠ o := by
      rintro rfl
      rw [h.fresh _ hle] at hw
      cases hw
    simp only [set, Function.update_of_ne hne]
    exact h.fresh o' hle

/-- A change that neither registers actions nor removes any. -/
theorem Good.quiet (h : Good s) (hin : s.map_cuid_reg_unreg_instance.lookup cuid = some o)
    (hw : s.units o = some w) (w' : WorkUnitManagement)
    (hunit : w'.work_unit_instance = w.work_unit_instance)
    (hpub : w'.wu_instance_sm = .Publishing → w'.active = true) (hact : Acting w' ↔ Acting w) :
    Good (s.set o w') := by
  refine h.changed hin hw w' hunit hpub h.once ?_ (fun _ _ _ => Iff.rfl)
  intro i
  rw [h.actions o i, hact]
  simp [hw]

/-! ## The steps of the state machine -/

theorem mustProcess_ok {function name : String} {event : UnitEventType}
    (h : w.mustProcess function name event = .ok w') :
    ∃ state, transition_table w.wu_instance_sm event = some state ∧
      w' = { w with wu_instance_sm := state } := by
  unfold WorkUnitManagement.mustProcess WorkUnitManagement.process_event at h
  rcases hstate : transition_table w.wu_instance_sm event with _ | state
  · simp [hstate] at h
  · simp only [hstate, Option.map_some, Except.ok.injEq] at h
    exact ⟨state, rfl, h.symm⟩

/-- Only a unit that waits for its acknowledgement takes one. -/
theorem manageACKPack_ok {pack : AckPack} (h : w.manageACKPack pack = .ok w') :
    w.wu_instance_sm = .Publishing ∧ (w' = { w with wu_instance_sm := .Published } ∨
      w' = { w with wu_instance_sm := .PublishingFailure }) := by
  have htable : ∀ {state event}, transition_table w.wu_instance_sm event = some state →
      (event = .Published → w.wu_instance_sm = .Publishing ∧ state = .Published) ∧
      (event = .Failure → w.wu_instance_sm = .Publishing ∧ state = .PublishingFailure) := by
    intro state event ht
    constructor <;> rintro rfl <;> revert ht <;> cases w.wu_instance_sm <;>
      simp [transition_table, eq_comm]
  unfold WorkUnitManagement.manageACKPack at h
  obtain ⟨_ | device_id, result⟩ := pack
  · cases h
  · by_cases hid : device_id ≠ w.getCUID
    · simp [hid] at h
    · simp only [if_neg hid] at h
      rcases result with _ | ack_val
      · cases h
      · by_cases hval : ack_val = EC_MDS_UNIT_SERV_REGISTRATION_OK
        · simp only [if_pos hval] at h
          obtain ⟨state, ht, rfl⟩ := mustProcess_ok h
          obtain ⟨hs, rfl⟩ := (htable ht).1 rfl
          exact ⟨hs, .inl rfl⟩
        · simp only [if_neg hval] at h
          obtain ⟨state, ht, rfl⟩ := mustProcess_ok h
          obtain ⟨hs, rfl⟩ := (htable ht).2 rfl
          exact ⟨hs, .inr rfl⟩

theorem Good.scheduleSM (h : Good s) (hin : s.map_cuid_reg_unreg_instance.lookup cuid = some o)
    (hw : s.units o = some w) (hneed : w.smNeedToSchedule = true) :
    ∃ t, s.scheduleSM o w = .ok t ∧ Good t := by
  have hnone : ¬ Acting w → ∀ i, (o, i) ∉ s.actions := by
    intro hact i hi
    obtain ⟨w₁, hw₁, hact₁, -⟩ := (h.actions o i).mp hi
    rw [hw, Option.some.injEq] at hw₁
    subst hw₁
    exact hact hact₁
  obtain ⟨unit, state, active⟩ := w
  cases state with
  | Unpublished => exact ⟨_, rfl, h.quiet hin hw _ rfl (by simp) (by simp [Acting])⟩
  | StartPublishing => exact ⟨_, rfl, h.quiet hin hw _ rfl (by simp) (by simp [Acting])⟩
  | Publishing => exact ⟨s, rfl, h⟩
  | Published =>
    have hactive : active = true := by simpa [WorkUnitManagement.smNeedToSchedule] using hneed
    have hnew := hnone (by simp [Acting, hactive])
    refine ⟨_, rfl, h.changed hin hw ⟨unit, .Published, false⟩ rfl (by simp) ?_ ?_ ?_⟩
    · refine List.nodup_append.mpr ⟨h.once, nodup_declared, ?_⟩
      rintro ⟨o', i⟩ ha b hb rfl
      obtain ⟨rfl, -⟩ := mem_declared.mp hb
      exact hnew i ha
    · intro i
      simp [mem_declared, hnew i, Acting]
    · intro o' i hne
      simp [mem_declared, hne]
  | StartUnpublishing =>
    refine ⟨_, rfl, h.changed hin hw ⟨unit, .Unpublishing, true⟩ rfl (by simp)
      (h.once.sublist (List.diff_sublist _ _)) ?_ ?_⟩
    · intro i
      rw [h.once.mem_sdiff_iff, h.actions o i]
      simp [mem_declared, hw, Acting]
    · intro o' i hne
      rw [h.once.mem_sdiff_iff]
      simp [mem_declared, hne]
  | Unpublishing => exact ⟨_, rfl, h.quiet hin hw _ rfl (by simp) (by simp [Acting])⟩
  | PublishingFailure => exact ⟨_, rfl, h.quiet hin hw _ rfl (by simp) (by simp [Acting])⟩

theorem Good.makeSMStep (h : Good s) (ht : s.makeSMStep cuid = some t) : Good t := by
  unfold ControlManager.makeSMStep at ht
  rcases hin : s.map_cuid_reg_unreg_instance.lookup cuid with _ | o
  · simp only [hin, Option.some.injEq] at ht
    exact ht ▸ h
  · simp only [hin] at ht
    obtain ⟨w, hw, ht⟩ := Option.bind_eq_some_iff.mp ht
    by_cases hneed : w.smNeedToSchedule = true
    · obtain ⟨u, hu, hgood⟩ := h.scheduleSM hin hw hneed
      rw [if_pos hneed, hu] at ht
      cases ht
      exact hgood
    · rw [if_neg hneed] at ht
      cases ht
      exact h

theorem Good.workUnitRegistrationACK (h : Good s) (message : Option AckPack) :
    Good (s.workUnitRegistrationACK message).1 := by
  unfold ControlManager.workUnitRegistrationACK
  rcases message with _ | message
  · exact h
  · rcases hid : message.device_id with _ | device_id
    · simpa [hid] using h
    · simp only [hid]
      rcases hin : s.map_cuid_reg_unreg_instance.lookup device_id with _ | o
      · exact h
      · rcases hw : s.units o with _ | w
        · simpa [hw] using h
        · simp only [hw]
          rcases hack : w.manageACKPack message with ex | w'
          · exact h
          · obtain ⟨hstate, hw'⟩ := manageACKPack_ok hack
            have hactive := h.publishing o w hw hstate
            rcases hw' with rfl | rfl
            · exact h.quiet hin hw _ rfl (by simp) (by simp [Acting, hstate, hactive])
            · exact h.quiet hin hw _ rfl (by simp) (by simp [Acting, hstate])

/-! ## The maps -/

theorem mem_values {m : UnitMap} : o ∈ m.entries.map (·.2) ↔ ∃ cuid, m.lookup cuid = some o := by
  simp only [List.mem_map, Sigma.exists]
  constructor
  · rintro ⟨cuid, o', hmem, rfl⟩
    exact ⟨cuid, AList.mem_lookup_iff.mpr hmem⟩
  · rintro ⟨cuid, hlook⟩
    exact ⟨cuid, o, AList.mem_lookup_iff.mp hlook, rfl⟩

theorem release_of_held (h : (∃ cuid, s.map_cuid_reg_unreg_instance.lookup cuid = some o) ∨
    ∃ cuid, s.map_cuid_registered_instance.lookup cuid = some o) : s.release o = s := by
  unfold release
  rw [if_pos]
  exact h.imp mem_values.mpr mem_values.mpr

theorem release_of_not_held
    (hreg : ∀ cuid, s.map_cuid_reg_unreg_instance.lookup cuid ≠ some o)
    (hpub : ∀ cuid, s.map_cuid_registered_instance.lookup cuid ≠ some o) :
    s.release o = { s with units := Function.update s.units o none } := by
  unfold release
  rw [if_neg]
  rintro (h | h)
  · obtain ⟨cuid, hlook⟩ := mem_values.mp h
    exact hreg cuid hlook
  · obtain ⟨cuid, hlook⟩ := mem_values.mp h
    exact hpub cuid hlook

theorem insertNew_of_not_mem {m : UnitMap} (h : cuid ∉ m) :
    UnitMap.insertNew m cuid o = m.insert cuid o := if_neg h

/-- A manager is in a map under its own identifier only. -/
theorem Good.own_key (h : Good s) (hw : s.units o = some w)
    (hin : s.map_cuid_reg_unreg_instance.lookup cuid = some o) : cuid = w.getCUID := by
  obtain ⟨w₁, hw₁, rfl⟩ := h.registering cuid o hin
  rw [hw, Option.some.injEq] at hw₁
  rw [hw₁]

theorem Good.own_key' (h : Good s) (hw : s.units o = some w)
    (hin : s.map_cuid_registered_instance.lookup cuid = some o) :
    cuid = w.getCUID ∧ w.wu_instance_sm = .Published ∧ w.active = false := by
  obtain ⟨w₁, hw₁, rfl, hrest⟩ := h.registered cuid o hin
  rw [hw, Option.some.injEq] at hw₁
  subst hw₁
  exact ⟨rfl, hrest⟩

/-! ## A new unit -/

/-- What becomes of the unit at the head of the queue. -/
theorem manageSubmitted_cons {cu : AbstractControlUnit} {rest : List AbstractControlUnit}
    (hq : s.queue_submitted_cu = cu :: rest) :
    s.manageSubmitted =
      let s₃ := { s with
        units := Function.update s.units s.next (some ⟨cu, .StartPublishing, false⟩)
        queue_submitted_cu := rest
        next := s.next + 1 }
      if cu.control_unit_id ∈ s.map_cuid_reg_unreg_instance ∨
          cu.control_unit_id ∈ s.map_cuid_registered_instance then some (s₃.release s.next)
      else
        some { s₃ with
          map_cuid_reg_unreg_instance :=
            UnitMap.insertNew s.map_cuid_reg_unreg_instance cu.control_unit_id s.next } := by
  simp [manageSubmitted, hq, ControlManager.scheduleSM, set, WorkUnitManagement.turnOn,
    WorkUnitManagement.mustProcess, WorkUnitManagement.process_event, transition_table,
    WorkUnitManagement.getCUID]

theorem Good.manageSubmitted (h : Good s) (ht : s.manageSubmitted = some t) : Good t := by
  rcases hq : s.queue_submitted_cu with _ | ⟨cu, rest⟩
  · simp only [ControlManager.manageSubmitted, hq, Option.some.injEq] at ht
    exact ht ▸ h
  have hnew : s.units s.next = none := h.fresh _ (Nat.le_refl _)
  have hne : ∀ {o w}, s.units o = some w → o ≠ s.next := by
    rintro o w hw rfl
    rw [hnew] at hw
    cases hw
  have hreg : ∀ c, s.map_cuid_reg_unreg_instance.lookup c ≠ some s.next := by
    intro c hc
    obtain ⟨w, hw, -⟩ := h.registering c _ hc
    exact hne hw rfl
  have hpub : ∀ c, s.map_cuid_registered_instance.lookup c ≠ some s.next := by
    intro c hc
    obtain ⟨w, hw, -⟩ := h.registered c _ hc
    exact hne hw rfl
  rw [manageSubmitted_cons hq] at ht
  simp only at ht
  split_ifs at ht with hdup
  · cases ht
    have hunits : Function.update (Function.update s.units s.next
        (some ⟨cu, .StartPublishing, false⟩)) s.next none = s.units := by
      rw [Function.update_idem, Function.update_eq_self_iff.mpr hnew.symm]
    rw [release_of_not_held]
    · simp only [hunits]
      exact { h with fresh := fun o hle => h.fresh o (Nat.le_of_succ_le hle) }
    · exact hreg
    · exact hpub
  · cases ht
    obtain ⟨hfree, hfree'⟩ := not_or.mp hdup
    rw [insertNew_of_not_mem hfree]
    have hold : ∀ {o w}, s.units o = some w →
        Function.update s.units s.next (some ⟨cu, .StartPublishing, false⟩) o = some w :=
      fun hw => (Function.update_of_ne (hne hw) ..).trans hw
    refine
      { registering := ?_, registered := ?_, apart := ?_, held := ?_, publishing := ?_
        actions := ?_, once := h.once, fresh := ?_ }
    · intro c o hc
      rcases eq_or_ne c cu.control_unit_id with rfl | hcne
      · rw [AList.lookup_insert, Option.some.injEq] at hc
        subst hc
        exact ⟨_, Function.update_self .., rfl⟩
      · rw [AList.lookup_insert_ne hcne] at hc
        obtain ⟨w, hw, hcuid⟩ := h.registering c o hc
        exact ⟨w, hold hw, hcuid⟩
    · intro c o hc
      obtain ⟨w, hw, hrest⟩ := h.registered c o hc
      exact ⟨w, hold hw, hrest⟩
    · intro c hc
      rcases (AList.mem_insert _).mp hc with rfl | hc
      · exact hfree'
      · exact h.apart c hc
    · intro o w hw
      rcases eq_or_ne o s.next with rfl | hone
      · simp only [Function.update_self, Option.some.injEq] at hw
        subst hw
        exact .inl (AList.lookup_insert _)
      · simp only [Function.update_of_ne hone] at hw
        refine (h.held o w hw).imp (fun hin => ?_) id
        rw [AList.lookup_insert_ne]
        · exact hin
        · intro he
          exact hfree (he ▸ mem_of_lookup hin)
    · intro o w hw
      rcases eq_or_ne o s.next with rfl | hone
      · simp only [Function.update_self, Option.some.injEq] at hw
        subst hw
        simp
      · simp only [Function.update_of_ne hone] at hw
        exact h.publishing o w hw
    · intro o i
      rw [h.actions o i]
      rcases eq_or_ne o s.next with rfl | hone
      · simp [hnew, Acting]
      · simp [Function.update_of_ne hone]
    · intro o hle
      have hle : s.next + 1 ≤ o := hle
      exact (Function.update_of_ne (by omega) ..).trans (h.fresh o (by omega))

/-! ## Units that move -/

/-- A unit that is stable leaves the first map, and goes on only when it is published. -/
theorem Good.migrateStableAndUnstable (h : Good s)
    (ht : s.migrateStableAndUnstable cuid = some t) : Good t := by
  unfold ControlManager.migrateStableAndUnstable at ht
  rcases hin : s.map_cuid_reg_unreg_instance.lookup cuid with _ | o
  · simp only [hin, Option.some.injEq] at ht
    exact ht ▸ h
  simp only [hin] at ht
  obtain ⟨w, hw, ht⟩ := Option.map_eq_some_iff.mp ht
  obtain rfl := h.own_key hw hin
  have hfree : w.getCUID ∉ s.map_cuid_registered_instance := h.apart _ (mem_of_lookup hin)
  by_cases hneed : w.smNeedToSchedule = true
  · rw [if_pos hneed] at ht
    exact ht ▸ h
  rw [if_neg hneed] at ht
  have herased : ∀ {c o'}, (s.map_cuid_reg_unreg_instance.erase w.getCUID).lookup c = some o' →
      c ≠ w.getCUID ∧ s.map_cuid_reg_unreg_instance.lookup c = some o' := by
    intro c o' hc
    rcases eq_or_ne c w.getCUID with rfl | hne
    · rw [AList.lookup_erase] at hc
      cases hc
    · exact ⟨hne, by rwa [AList.lookup_erase_ne hne] at hc⟩
  have hstays : ∀ {o' w'}, s.units o' = some w' → o' ≠ o →
      s.map_cuid_reg_unreg_instance.lookup w'.getCUID = some o' →
      (s.map_cuid_reg_unreg_instance.erase w.getCUID).lookup w'.getCUID = some o' := by
    intro o' w' hw' hne hc
    rw [AList.lookup_erase_ne]
    · exact hc
    · intro he
      rw [he, hin, Option.some.injEq] at hc
      exact hne hc.symm
  by_cases hstate : w.wu_instance_sm = .Published
  · have hactive : w.active = false := by
      simpa [WorkUnitManagement.smNeedToSchedule, hstate] using hneed
    simp only [hstate, migrated, insertNew_of_not_mem hfree] at ht
    rw [release_of_held (.inr ⟨_, AList.lookup_insert _⟩)] at ht
    subst ht
    refine
      { registering := ?_, registered := ?_, apart := ?_, held := ?_, publishing := h.publishing
        actions := h.actions, once := h.once, fresh := h.fresh }
    · intro c o' hc
      exact h.registering c o' (herased hc).2
    · intro c o' hc
      rcases eq_or_ne c w.getCUID with rfl | hne
      · rw [AList.lookup_insert, Option.some.injEq] at hc
        subst hc
        exact ⟨w, hw, rfl, hstate, hactive⟩
      · rw [AList.lookup_insert_ne hne] at hc
        exact h.registered c o' hc
    · intro c hc hc'
      obtain ⟨hne, hc⟩ := AList.mem_erase.mp hc
      rcases (AList.mem_insert _).mp hc' with he | hc'
      · exact hne he
      · exact h.apart c hc hc'
    · intro o' w' hw'
      rcases eq_or_ne o' o with rfl | hne
      · rw [hw, Option.some.injEq] at hw'
        subst hw'
        exact .inr (AList.lookup_insert _)
      · refine (h.held o' w' hw').imp (hstays hw' hne) fun hc => ?_
        rw [AList.lookup_insert_ne]
        · exact hc
        · intro he
          exact hfree (he ▸ mem_of_lookup hc)
  · have hmap : migrated s.map_cuid_registered_instance w.getCUID o w.wu_instance_sm =
        s.map_cuid_registered_instance := by
      unfold migrated
      split
      · rename_i hs
        exact absurd hs hstate
      · rfl
    have hquiet : ¬ Acting w := by
      rintro (hs | ⟨hs, -⟩)
      · simp [WorkUnitManagement.smNeedToSchedule, hs] at hneed
      · exact hstate hs
    have hpub : ∀ c, s.map_cuid_registered_instance.lookup c ≠ some o := by
      intro c hc
      obtain ⟨rfl, -⟩ := h.own_key' hw hc
      exact hfree (mem_of_lookup hc)
    have hreg : ∀ c, (s.map_cuid_reg_unreg_instance.erase w.getCUID).lookup c ≠ some o := by
      intro c hc
      exact (herased hc).1 (h.own_key hw (herased hc).2)
    rw [hmap, release_of_not_held (by exact hreg) (by exact hpub)] at ht
    subst ht
    have hkeep : ∀ {o' w'}, Function.update s.units o none o' = some w' →
        o' ≠ o ∧ s.units o' = some w' := by
      intro o' w' hw'
      rcases eq_or_ne o' o with rfl | hne
      · simp at hw'
      · exact ⟨hne, by rwa [Function.update_of_ne hne] at hw'⟩
    refine
      { registering := ?_, registered := ?_, apart := ?_, held := ?_, publishing := ?_
        actions := ?_, once := h.once, fresh := ?_ }
    · intro c o' hc
      obtain ⟨w', hw', hid⟩ := h.registering c o' (herased hc).2
      refine ⟨w', (Function.update_of_ne ?_ ..).trans hw', hid⟩
      rintro rfl
      exact hreg c hc
    · intro c o' hc
      obtain ⟨w', hw', hrest⟩ := h.registered c o' hc
      refine ⟨w', (Function.update_of_ne ?_ ..).trans hw', hrest⟩
      rintro rfl
      exact hpub c hc
    · intro c hc
      exact h.apart c (AList.mem_erase.mp hc).2
    · intro o' w' hw'
      obtain ⟨hne, hw'⟩ := hkeep hw'
      exact (h.held o' w' hw').imp (hstays hw' hne) id
    · intro o' w' hw'
      exact h.publishing o' w' (hkeep hw').2
    · intro o' i
      rw [h.actions o' i]
      rcases eq_or_ne o' o with rfl | hne
      · simp [hw, hquiet]
      · simp [Function.update_of_ne hne]
    · intro o' hle
      rcases eq_or_ne o' o with rfl | hne
      · simp
      · exact (Function.update_of_ne hne ..).trans (h.fresh o' hle)

theorem Good.unloadControlUnit (h : Good s) (message : Option LoadMessage) :
    Good (s.unloadControlUnit message).1 := by
  unfold ControlManager.unloadControlUnit
  rcases message with _ | ⟨_ | alias_, _ | id_, param, drivers⟩
  · exact h
  · exact h
  · exact h
  · exact h
  simp only
  rcases hin : s.map_cuid_registered_instance.lookup id_ with _ | o
  · exact h
  obtain ⟨w, hw, rfl, hstate, hactive⟩ := h.registered _ _ hin
  have hfree : w.getCUID ∉ s.map_cuid_reg_unreg_instance :=
    fun hc => h.apart _ hc (mem_of_lookup hin)
  have hoff : w.turnOFF = .ok { w with wu_instance_sm := .StartUnpublishing } := by
    simp [WorkUnitManagement.turnOFF, WorkUnitManagement.mustProcess,
      WorkUnitManagement.process_event, hstate, transition_table]
  simp only [hw, hoff, insertNew_of_not_mem hfree]
  rw [release_of_held (.inl ⟨_, AList.lookup_insert _⟩)]
  have herased : ∀ {c o'}, (s.map_cuid_registered_instance.erase w.getCUID).lookup c = some o' →
      c ≠ w.getCUID ∧ s.map_cuid_registered_instance.lookup c = some o' := by
    intro c o' hc
    rcases eq_or_ne c w.getCUID with rfl | hne
    · rw [AList.lookup_erase] at hc
      cases hc
    · exact ⟨hne, by rwa [AList.lookup_erase_ne hne] at hc⟩
  have hother : ∀ {c o'}, s.map_cuid_reg_unreg_instance.lookup c = some o' → o' ≠ o := by
    rintro c o' hc rfl
    obtain rfl := h.own_key hw hc
    exact hfree (mem_of_lookup hc)
  refine
    { registering := ?_, registered := ?_, apart := ?_, held := ?_, publishing := ?_
      actions := ?_, once := h.once, fresh := ?_ }
  · intro c o' hc
    rcases eq_or_ne c w.getCUID with rfl | hne
    · simp only [set, AList.lookup_insert, Option.some.injEq] at hc
      subst hc
      exact ⟨_, Function.update_self .., rfl⟩
    · simp only [set, AList.lookup_insert_ne hne] at hc
      obtain ⟨w', hw', hid⟩ := h.registering c o' hc
      exact ⟨w', (Function.update_of_ne (hother hc) ..).trans hw', hid⟩
  · intro c o' hc
    obtain ⟨hne, hin'⟩ := herased hc
    obtain ⟨w', hw', hrest⟩ := h.registered c o' hin'
    refine ⟨w', (Function.update_of_ne ?_ ..).trans hw', hrest⟩
    rintro rfl
    exact hne (h.own_key' hw hin').1
  · intro c hc hc'
    obtain ⟨hne, hc'⟩ := AList.mem_erase.mp hc'
    rcases (AList.mem_insert _).mp hc with he | hc
    · exact hne he
    · exact h.apart c hc hc'
  · intro o' w' hw'
    rcases eq_or_ne o' o with rfl | hne
    · simp only [set, Function.update_self, Option.some.injEq] at hw'
      subst hw'
      exact .inl (AList.lookup_insert _)
    · simp only [set, Function.update_of_ne hne] at hw'
      refine (h.held o' w' hw').imp (fun hc => ?_) fun hc => ?_
      · refine (AList.lookup_insert_ne ?_).trans hc
        intro he
        exact hfree (he ▸ mem_of_lookup hc)
      · refine (AList.lookup_erase_ne ?_).trans hc
        intro he
        rw [he, hin, Option.some.injEq] at hc
        exact hne hc.symm
  · intro o' w' hw'
    rcases eq_or_ne o' o with rfl | hne
    · simp only [set, Function.update_self, Option.some.injEq] at hw'
      subst hw'
      simp
    · simp only [set, Function.update_of_ne hne] at hw'
      exact h.publishing o' w' hw'
  · intro o' i
    refine (h.actions o' i).trans ?_
    rcases eq_or_ne o' o with rfl | hne
    · simp [set, hw, Acting, hstate, hactive]
    · simp [set, Function.update_of_ne hne]
  · intro o' hle
    refine (Function.update_of_ne ?_ ..).trans (h.fresh o' hle)
    rintro rfl
    rw [h.fresh _ hle] at hw
    cases hw

/-! ## What holds of the runs -/

theorem step_good (hs : Good s) (a : Label) (ht : step s a = some t) : Good t := by
  have hqueued : ∀ data, Good (s.submitControlUnit data) := fun data => { hs with }
  cases a with
  | submitControlUnit data =>
    cases ht
    exact hqueued data
  | loadControlUnit message getInstance =>
    cases ht
    unfold ControlManager.loadControlUnit
    rcases s.unitToLoad message getInstance with ex | data
    · exact hs
    · exact hqueued data
  | unloadControlUnit message =>
    cases ht
    exact hs.unloadControlUnit message
  | workUnitRegistrationACK message =>
    cases ht
    exact hs.workUnitRegistrationACK message
  | manageSubmitted => exact hs.manageSubmitted ht
  | migrateStableAndUnstable cuid => exact hs.migrateStableAndUnstable ht
  | makeSMStep cuid => exact hs.makeSMStep ht

/-- A unit that is published and unloaded again, with a second one of the same identifier, an
acknowledgement that comes twice and one for an unknown unit. -/
def lifeOfUnit : List Label :=
  let ack := fun id_ : Char => Label.workUnitRegistrationACK (some ⟨some [id_], some 5⟩)
  [.submitControlUnit ⟨['a'], 2, []⟩, .submitControlUnit ⟨['a'], 1, []⟩, .manageSubmitted,
    .manageSubmitted, .makeSMStep ['a'], .makeSMStep ['a'], ack 'b', ack 'a', ack 'a',
    .makeSMStep ['a'], .migrateStableAndUnstable ['a'],
    .unloadControlUnit (some ⟨some ['t'], some ['a'], none, none⟩), .makeSMStep ['a'],
    .makeSMStep ['a'], .makeSMStep ['a'], .migrateStableAndUnstable ['a']]

end ControlManager

end chaos.cu.control_manager
