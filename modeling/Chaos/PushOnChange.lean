-- When a push sends a dataset. The bitmap of a domain stands for the attributes that were changed
-- since the last dataset just as long as it is reset with each dataset and with nothing else.
import Chaos.AttributesCoherence
import Chaos.DatasetPush

namespace chaos.common.data.cache

/-! ## The updates of attributes -/

/-- A value is set with its mark or, as the commands do it, without. -/
inductive AttributeUpdate
  | setValue (n : UInt16) (value : List UInt8) (tag_has_changed : Bool)
  | setNewSize (n : UInt16) (new_size : UInt32) (found : Option (Nat → UInt8))
  | mark (n : UInt16) (bit : Bool)
  | markAllAsChanged

/-- The set after a call that comes back. -/
def AttributesSetting.afterCall (s : AttributesSetting) (c : AttributesCall) :
    Option AttributesSetting :=
  match s.call c with
  | (_, .error .undefined) => none
  | (t, _) => some t

def AttributesSetting.update (s : AttributesSetting) : AttributeUpdate → Option AttributesSetting
  | .setValue n value true => s.afterCall (.setValueForAttribute n value)
  | .setValue n value false => do
    let v ← pointer_map.pointer s.mapAttributeIndexSettings n
    let v' ← (v.setValue value).toOption
    return (s.touch n).store n v'
  | .setNewSize n new_size found => s.afterCall (.setNewSize n new_size found)
  | .mark n bit => s.afterCall (.mark n bit)
  | .markAllAsChanged => s.afterCall .markAllAsChanged

/-- What is changed after an update. A value without a mark does not count. -/
def Attributes.update (a : Attributes) : AttributeUpdate → Attributes
  | .setValue n _ tag_has_changed => if tag_has_changed then a.setBit n.toNat true else a
  | .setNewSize _ _ _ => a
  | .mark n bit => a.setBit n.toNat bit
  | .markAllAsChanged => { a with changed := {i | i < a.names.length} }

end chaos.common.data.cache

namespace chaos.cu.control_manager

open chaos.common.data.cache runs

/-! ## What is claimed -/

inductive PushLabel
  | update (u : AttributeUpdate)
  | push (answers : PushAnswers)

/-- A dataset takes the changes with it. -/
def PushEnd.remaining (a : Attributes) : PushEnd → Attributes
  | .sent _ => { a with changed := ∅ }
  | _ => a

/-- The cache of a domain, and the attributes that were changed since its last dataset. -/
def pushStep (domain : Domain) (ca : DomainCache × Attributes) :
    PushLabel → Option (DomainCache × Attributes)
  | .update u => (ca.1.setting.update u).map fun s => ({ ca.1 with setting := s }, ca.2.update u)
  | .push answers => (ca.1.push domain answers).map fun (c, e) => (c, e.remaining ca.2)

/-- The wrapper is there, and the storage takes the dataset. -/
def PushAnswers.Possible (answers : PushAnswers) : Prop :=
  (∃ dataset, answers.wrapper = .given dataset) ∧ answers.stored = true

/-- A push that is possible sends a dataset just when something was changed, and one without a
wrapper leaves the changes for the next. -/
def PushesOnChange (domain : Domain) (ca : DomainCache × Attributes) : PushLabel → Prop
  | .update _ => True
  | .push answers => ∀ c e, ca.1.push domain answers = some (c, e) →
    ((∃ dataset, e = .sent dataset) ↔ ca.2.changed.Nonempty ∧ answers.Possible) ∧
      ((¬ ∃ dataset, answers.wrapper = .given dataset) → ca.2.changed.Nonempty →
        c.setting.hasChanged = true)

/-- The condition on a push that comes back: for the input and the custom domain that something was
changed since the last dataset, or that no attribute is marked at all; for the system domain that
the wrapper is not NULL while something is changed. -/
def PushIsDue (domain : Domain) (ca : DomainCache × Attributes) : PushLabel → Prop
  | .update _ => True
  | .push answers => (ca.1.push domain answers).isSome →
    match domain with
    | .output => True
    | .input | .custom =>
      answers.Possible → ca.2.changed.Nonempty ∨ ca.1.setting.hasChanged = false
    | .system => answers.wrapper = .null → ¬ ca.2.changed.Nonempty

/-! ## What a push does -/

def Domain.resets : Domain → Bool
  | .output | .system => true
  | .input | .custom => false

variable {domain : Domain} {c c' : DomainCache} {answers : PushAnswers} {e : PushEnd}

/-- The cache behind a push. -/
def DomainCache.afterEnd (c : DomainCache) (domain : Domain) : PushEnd → DomainCache
  | .sent _ => if domain.resets then c.resetChangedIndex else c
  | .noWrapper => if domain = .system then c.resetChangedIndex else c
  | .unchanged | .thrown => c

/-- How a push ends. -/
inductive EndsAs (c : DomainCache) (answers : PushAnswers) : PushEnd → Prop
  | unchanged : c.setting.hasChanged = false → EndsAs c answers .unchanged
  | bad_alloc : c.setting.hasChanged = true → answers.wrapper = .bad_alloc →
    EndsAs c answers .thrown
  | null : c.setting.hasChanged = true → answers.wrapper = .null → EndsAs c answers .noWrapper
  | thrown : c.setting.hasChanged = true → (∃ dataset, answers.wrapper = .given dataset) →
    answers.stored = false → EndsAs c answers .thrown
  | sent (dataset : CDataWrapper) : c.setting.hasChanged = true → answers.Possible →
    EndsAs c answers (.sent dataset)

theorem sendChanged_endsAs (h : c.sendChanged domain answers = some e) : EndsAs c answers e := by
  unfold DomainCache.sendChanged at h
  cases hchanged : c.setting.hasChanged with
  | false =>
    rw [hchanged] at h
    cases h
    exact .unchanged hchanged
  | true =>
    rw [hchanged] at h
    cases hwrapper : answers.wrapper with
    | bad_alloc =>
      rw [hwrapper] at h
      cases h
      exact .bad_alloc hchanged hwrapper
    | null =>
      rw [hwrapper] at h
      cases h
      exact .null hchanged hwrapper
    | given dataset =>
      simp only [hwrapper, Bool.not_true, Bool.false_eq_true, if_false, Option.bind_eq_bind,
        Option.bind_eq_some_iff] at h
      obtain ⟨values, -, filled, -, h⟩ := h
      cases hstored : answers.stored with
      | false =>
        rw [hstored] at h
        cases h
        exact .thrown hchanged ⟨dataset, hwrapper⟩ hstored
      | true =>
        rw [hstored] at h
        cases h
        exact .sent filled hchanged ⟨⟨dataset, hwrapper⟩, hstored⟩

theorem pushOutputDataset_endsAs (h : c.pushOutputDataset answers = some (c', e)) :
    c' = c.afterEnd .output e ∧ EndsAs c answers e := by
  unfold DomainCache.pushOutputDataset at h
  cases hchanged : c.setting.hasChanged with
  | false =>
    rw [hchanged] at h
    cases h
    exact ⟨rfl, .unchanged hchanged⟩
  | true =>
    rw [hchanged] at h
    cases hwrapper : answers.wrapper with
    | bad_alloc =>
      rw [hwrapper] at h
      cases h
      exact ⟨rfl, .bad_alloc hchanged hwrapper⟩
    | null =>
      rw [hwrapper] at h
      cases h
      exact ⟨rfl, .null hchanged hwrapper⟩
    | given dataset =>
      simp only [hwrapper, Bool.not_true, Bool.false_eq_true, if_false, Option.bind_eq_bind,
        Option.bind_eq_some_iff] at h
      obtain ⟨t, -, n, -, pushed, -, values, -, filled, -, h⟩ := h
      cases hstored : answers.stored with
      | false =>
        rw [hstored] at h
        cases h
        exact ⟨rfl, .thrown hchanged ⟨dataset, hwrapper⟩ hstored⟩
      | true =>
        rw [hstored] at h
        cases h
        exact ⟨rfl, .sent filled hchanged ⟨⟨dataset, hwrapper⟩, hstored⟩⟩

theorem push_endsAs (h : c.push domain answers = some (c', e)) :
    c' = c.afterEnd domain e ∧ EndsAs c answers e := by
  cases domain with
  | output => exact pushOutputDataset_endsAs h
  | input | custom =>
    obtain ⟨e', he, heq⟩ := Option.map_eq_some_iff.mp h
    cases heq
    exact ⟨by cases e <;> rfl, sendChanged_endsAs he⟩
  | system =>
    obtain ⟨e', he, heq⟩ := Option.map_eq_some_iff.mp h
    cases e' <;> cases heq <;> exact ⟨rfl, sendChanged_endsAs he⟩

/-! ## What the bitmap stands for -/

end chaos.cu.control_manager

namespace chaos.common.data.cache

variable {s t : AttributesSetting} {a b : Attributes} {u : AttributeUpdate}

namespace Coherent

theorem hasChanged_iff (h : Coherent s a) : s.hasChanged = true ↔ a.changed.Nonempty := by
  rw [AttributesSetting.hasChanged, List.any_eq_true]
  constructor
  · rintro ⟨bit, hmem, hbit⟩
    obtain ⟨k, hk⟩ := List.mem_iff_getElem?.mp hmem
    exact ⟨k, (h.changed k).mp (hk.trans (congrArg some hbit))⟩
  · rintro ⟨k, hk⟩
    exact ⟨true, List.mem_of_getElem? ((h.changed k).mpr hk), rfl⟩

theorem resetChangedIndex (h : Coherent s a) :
    Coherent s.resetChangedIndex { a with changed := ∅ } :=
  h.setAll false fun _ => ⟨False.elim, fun hk => nomatch hk.1⟩

/-- A call of the set that comes back, with what it is for. -/
theorem afterCall (h : Coherent s a) {c : AttributesCall} (hthere : IndexIsThere (s, a) c)
    (ht : s.afterCall c = some t) : Coherent t (a.call c) := by
  have hkeeps := ((keepsCoherent_iff h c).mpr hthere).coherent
  unfold AttributesSetting.afterCall at ht
  split at ht
  · cases ht
  · rename_i hback heq
    cases ht
    dsimp only at hkeeps
    rw [heq] at hkeeps
    exact hkeeps hback

/-- Outside of the set the two calls with an index come to NULL. -/
theorem lt_of_afterCall (h : Coherent s a) {c : AttributesCall} {n : UInt16}
    (hc : (∃ value, c = .setValueForAttribute n value) ∨
      ∃ size found, c = .setNewSize n size found) (ht : s.afterCall c = some t) :
    n.toNat < a.names.length := by
  by_contra hn
  have hnull := h.pointer_eq_none hn
  unfold AttributesSetting.afterCall at ht
  rcases hc with ⟨value, rfl⟩ | ⟨size, found, rfl⟩
  · simp [AttributesSetting.call, AttributesSetting.setValueForAttribute, hnull] at ht
  · simp [AttributesSetting.call, AttributesSetting.setNewSize, hnull, Except.map] at ht

theorem update (h : Coherent s a) (ht : s.update u = some t) : Coherent t (a.update u) := by
  cases u with
  | setValue n value tag =>
    cases tag with
    | true =>
      have hn := h.lt_of_afterCall (.inl ⟨value, rfl⟩) ht
      exact h.afterCall (c := .setValueForAttribute n value) hn ht
    | false =>
      obtain ⟨v, hv, hrest⟩ := Option.bind_eq_some_iff.mp ht
      obtain ⟨v', hv', heq⟩ := Option.bind_eq_some_iff.mp hrest
      cases heq
      have hn : n.toNat < a.names.length := by
        by_contra hn
        rw [h.pointer_eq_none hn] at hv
        cases hv
      obtain ⟨w, hget, hpointer, -, -⟩ := h.exists_value hn
      cases hv.symm.trans hpointer
      rcases setValue_cases v value with ⟨w', hset, hindex, hname⟩ | hset
      · rw [hset] at hv'
        cases hv'
        exact h.store hget hindex hname
      · rw [hset] at hv'
        cases hv'
  | setNewSize n new_size found =>
    have hn := h.lt_of_afterCall (.inr ⟨new_size, found, rfl⟩) ht
    exact h.afterCall (c := .setNewSize n new_size found) hn ht
  | mark n bit => exact h.afterCall (c := .mark n bit) trivial ht
  | markAllAsChanged => exact h.afterCall (c := .markAllAsChanged) trivial ht

end Coherent

/-- Fewer attributes are changed. -/
structure Attributes.Within (a b : Attributes) : Prop where
  names : a.names = b.names
  changed : a.changed ⊆ b.changed

theorem Attributes.Within.setBit (h : a.Within b) (i : Nat) (bit : Bool) :
    (a.setBit i bit).Within (b.setBit i bit) := by
  unfold Attributes.setBit
  rw [h.names]
  split
  · refine ⟨rfl, ?_⟩
    cases bit with
    | true => exact Set.insert_subset_insert h.changed
    | false => exact Set.sdiff_subset_sdiff_left h.changed
  · exact h

theorem Attributes.Within.update (h : a.Within b) (u : AttributeUpdate) :
    (a.update u).Within (b.update u) := by
  cases u with
  | setValue n value tag =>
    cases tag with
    | true => exact h.setBit n.toNat true
    | false => exact h
  | setNewSize n new_size found => exact h
  | mark n bit => exact h.setBit n.toNat bit
  | markAllAsChanged =>
    refine ⟨h.names, fun i hi => ?_⟩
    exact Nat.lt_of_lt_of_eq hi (congrArg List.length h.names)

end chaos.common.data.cache

namespace chaos.cu.control_manager

open chaos.common.data.cache runs

variable {domain : Domain} {c c' : DomainCache} {answers : PushAnswers} {e : PushEnd}
  {a : Attributes}

/-- The bitmap has a bit for each attribute that was changed, and in the domains that are reset no
other one. -/
structure Tracks (domain : Domain) (ca : DomainCache × Attributes) : Prop where
  marked : ∃ b, Coherent ca.1.setting b ∧ ca.2.Within b
  exact : domain.resets = true → Coherent ca.1.setting ca.2

namespace Tracks

theorem hasChanged (h : Tracks domain (c, a)) (hne : a.changed.Nonempty) :
    c.setting.hasChanged = true := by
  obtain ⟨b, hb, hwithin⟩ := h.marked
  exact hb.hasChanged_iff.mpr (hne.mono hwithin.changed)

theorem isDue_of_pushesOnChange (h : Tracks domain (c, a))
    (hpush : c.push domain answers = some (c', e))
    (hright : PushesOnChange domain (c, a) (.push answers)) :
    PushIsDue domain (c, a) (.push answers) := by
  intro _
  obtain ⟨hsent, hleft⟩ := hright c' e hpush
  obtain ⟨rfl, hends⟩ := push_endsAs hpush
  have hagain : answers.Possible → a.changed.Nonempty ∨ c.setting.hasChanged = false := by
    intro hpossible
    cases hends with
    | unchanged hno => exact .inr hno
    | bad_alloc _ hwrapper | null _ hwrapper =>
      obtain ⟨dataset, hgiven⟩ := hpossible.1
      cases hgiven.symm.trans hwrapper
    | thrown _ _ hstored => cases hpossible.2.symm.trans hstored
    | sent dataset _ _ => exact .inl (hsent.mp ⟨dataset, rfl⟩).1
  cases domain with
  | output => trivial
  | input | custom => exact hagain
  | system =>
    intro hnull hne
    have hno : ¬ ∃ dataset, answers.wrapper = .given dataset := by
      rintro ⟨dataset, hgiven⟩
      cases hnull.symm.trans hgiven
    have hmarked := hleft hno hne
    -- the bitmap is reset behind the missing wrapper
    cases hends with
    | unchanged hunchanged => cases (h.hasChanged hne).symm.trans hunchanged
    | bad_alloc _ hwrapper => cases hnull.symm.trans hwrapper
    | null _ _ =>
      obtain ⟨k, hk⟩ := ((h.exact rfl).resetChangedIndex).hasChanged_iff.mp hmarked
      exact hk
    | thrown _ hgiven _ => exact hno hgiven
    | sent dataset _ hpossible => exact hno hpossible.1

theorem pushesOnChange_of_isDue (h : Tracks domain (c, a))
    (hdue : PushIsDue domain (c, a) (.push answers)) :
    PushesOnChange domain (c, a) (.push answers) := by
  intro c' e hpush
  have hdue := hdue (by rw [hpush]; rfl)
  obtain ⟨rfl, hends⟩ := push_endsAs hpush
  cases hends with
  | unchanged hno =>
    have hnone : ¬ a.changed.Nonempty := fun hne => by
      cases (h.hasChanged hne).symm.trans hno
    exact ⟨iff_of_false nofun fun hp => hnone hp.1, fun _ hne => absurd hne hnone⟩
  | bad_alloc _ hwrapper =>
    refine ⟨iff_of_false nofun ?_, fun _ hne => h.hasChanged hne⟩
    rintro ⟨-, ⟨dataset, hgiven⟩, -⟩
    cases hgiven.symm.trans hwrapper
  | null _ hwrapper =>
    refine ⟨iff_of_false nofun ?_, fun _ hne => ?_⟩
    · rintro ⟨-, ⟨dataset, hgiven⟩, -⟩
      cases hgiven.symm.trans hwrapper
    · cases domain with
      | output | input | custom => exact h.hasChanged hne
      | system => exact absurd hne (hdue hwrapper)
  | thrown _ hgiven hstored =>
    refine ⟨iff_of_false nofun fun hp => ?_, fun hno _ => absurd hgiven hno⟩
    cases hp.2.2.symm.trans hstored
  | sent dataset hchanged hpossible =>
    refine ⟨iff_of_true ⟨dataset, rfl⟩ ⟨?_, hpossible⟩, fun hno _ => absurd hpossible.1 hno⟩
    cases domain with
    | output | system => exact (h.exact rfl).hasChanged_iff.mp hchanged
    | input | custom =>
      rcases hdue hpossible with hne | hno
      · exact hne
      · cases hchanged.symm.trans hno

theorem pushesOnChange_iff_isDue (h : Tracks domain (c, a)) (l : PushLabel) :
    PushesOnChange domain (c, a) l ↔ PushIsDue domain (c, a) l := by
  cases l with
  | update u => exact Iff.rfl
  | push answers =>
    refine ⟨fun hright hdef => ?_, h.pushesOnChange_of_isDue⟩
    obtain ⟨⟨c', e⟩, hpush⟩ := Option.isSome_iff_exists.mp hdef
    exact h.isDue_of_pushesOnChange hpush hright hdef

/-- The bitmap goes on to stand for the changes. -/
theorem step (h : Tracks domain (c, a)) {l : PushLabel} {ca : DomainCache × Attributes}
    (hdue : PushIsDue domain (c, a) l) (hstep : pushStep domain (c, a) l = some ca) :
    Tracks domain ca := by
  cases l with
  | update u =>
    obtain ⟨s, hs, rfl⟩ := Option.map_eq_some_iff.mp hstep
    obtain ⟨b, hb, hwithin⟩ := h.marked
    exact ⟨⟨b.update u, hb.update hs, hwithin.update u⟩, fun hresets => (h.exact hresets).update hs⟩
  | push answers =>
    obtain ⟨⟨c', e⟩, hpush, rfl⟩ := Option.map_eq_some_iff.mp hstep
    have hdue := hdue (by rw [hpush]; rfl)
    obtain ⟨rfl, hends⟩ := push_endsAs hpush
    cases hends with
    | unchanged _ | bad_alloc _ _ | thrown _ _ _ => exact h
    | null _ hwrapper =>
      cases domain with
      | output | input | custom => exact h
      | system =>
        have hempty := Set.not_nonempty_iff_eq_empty.mp (hdue hwrapper)
        have hreset := (h.exact rfl).resetChangedIndex
        have hsame : ({ a with changed := ∅ } : Attributes) = a := by rw [← hempty]
        rw [hsame] at hreset
        exact ⟨⟨a, hreset, rfl, Set.Subset.refl _⟩, fun _ => hreset⟩
    | sent dataset _ _ =>
      obtain ⟨b, hb, hwithin⟩ := h.marked
      cases domain with
      | output | system =>
        have hreset := (h.exact rfl).resetChangedIndex
        exact ⟨⟨_, hreset, rfl, Set.Subset.refl _⟩, fun _ => hreset⟩
      | input | custom => exact ⟨⟨b, hb, hwithin.names, Set.empty_subset _⟩, nofun⟩

end Tracks

/-! ## Every run -/

/-- The pushes of a run send on change in just the runs whose pushes are due. -/
theorem pushesOnChange_iff (domain : Domain) (h : Coherent c.setting a) (labels : List PushLabel) :
    RunOk (pushStep domain) (PushesOnChange domain) (c, a) labels ↔
      RunOk (pushStep domain) (PushIsDue domain) (c, a) labels := by
  refine runOk_congr (Tracks domain) (fun ca l htracks => htracks.pushesOnChange_iff_isDue l) ?_
    ⟨⟨a, h, rfl, Set.Subset.refl _⟩, fun _ => h⟩
  intro ca l ca' htracks hright hstep
  exact htracks.step ((htracks.pushesOnChange_iff_isDue l).mp hright) hstep

/-- A domain with one number. -/
def oneNumber : DomainCache where
  setting := AttributesSetting.create.addAttribute "a" 0 .TYPE_INT32 true
  cached := [0]
  timestamp := none

theorem oneNumber_coherent : Coherent oneNumber.setting ⟨["a"], ∅⟩ :=
  @Coherent.addAttribute _ _ Coherent.create "a" (by decide) (by decide) 0 .TYPE_INT32 true

/-- One dataset for one change. -/
theorem pushesOnChange_once : RunOk (pushStep .input) (PushesOnChange .input)
    (oneNumber, ⟨["a"], ∅⟩) [.update .markAllAsChanged, .push ⟨.given [], 0, true⟩] := by
  refine (pushesOnChange_iff .input oneNumber_coherent _).mpr ⟨trivial, fun t ht => ⟨?_, ?_⟩⟩
  · cases ht
    exact fun _ _ => .inl ⟨0, Nat.zero_lt_one⟩
  · exact fun _ _ => trivial

/-- The number after it was marked. -/
def markedNumber : DomainCache := { oneNumber with setting := oneNumber.setting.markAllAsChanged }

theorem markedNumber_sends (domain : Domain) :
    ∃ d, markedNumber.sendChanged domain ⟨.given [], 0, true⟩ = some (.sent d) := by
  have hsent : (markedNumber.sendChanged domain ⟨.given [], 0, true⟩).map
      (fun | .sent _ => true | _ => false) = some true := by
    cases domain <;> decide +kernel
  obtain ⟨e, he, hend⟩ := Option.map_eq_some_iff.mp hsent
  cases e with
  | sent d => exact ⟨d, he⟩
  | unchanged | noWrapper | thrown => cases hend

/-- A push that leaves the cache as it is sends its dataset again. -/
theorem not_pushesOnChange_of_push {d : CDataWrapper}
    (hpush : markedNumber.push domain ⟨.given [], 0, true⟩ = some (markedNumber, .sent d)) :
    ¬ RunOk (pushStep domain) (PushesOnChange domain) (oneNumber, ⟨["a"], ∅⟩)
      [.update .markAllAsChanged, .push ⟨.given [], 0, true⟩, .push ⟨.given [], 0, true⟩] := by
  intro h
  have hfirst := h.2 (markedNumber, ⟨["a"], {i | i < 1}⟩) rfl
  have hsecond := hfirst.2 (markedNumber, ⟨["a"], ∅⟩) (by rw [pushStep, hpush]; rfl)
  exact ((hsecond.1 _ _ hpush).1.mp ⟨d, rfl⟩).1.ne_empty rfl

/-- The input and the custom dataset are sent again for the same change, and the system dataset is
lost with the wrapper. -/
theorem not_pushesOnChange_twice :
    (¬ RunOk (pushStep .input) (PushesOnChange .input) (oneNumber, ⟨["a"], ∅⟩)
      [.update .markAllAsChanged, .push ⟨.given [], 0, true⟩, .push ⟨.given [], 0, true⟩]) ∧
    (¬ RunOk (pushStep .custom) (PushesOnChange .custom) (oneNumber, ⟨["a"], ∅⟩)
      [.update .markAllAsChanged, .push ⟨.given [], 0, true⟩, .push ⟨.given [], 0, true⟩]) ∧
    ¬ RunOk (pushStep .system) (PushesOnChange .system) (oneNumber, ⟨["a"], ∅⟩)
      [.update .markAllAsChanged, .push ⟨.null, 0, true⟩] := by
  refine ⟨?_, ?_, fun h => ?_⟩
  · obtain ⟨d, hd⟩ := markedNumber_sends .input
    refine not_pushesOnChange_of_push (d := d) ?_
    rw [DomainCache.push, DomainCache.pushInputDataset, hd]
    rfl
  · obtain ⟨d, hd⟩ := markedNumber_sends .custom
    refine not_pushesOnChange_of_push (d := d) ?_
    rw [DomainCache.push, DomainCache.pushCustomDataset, hd]
    rfl
  · have hpush : markedNumber.push .system ⟨.null, 0, true⟩ =
        some (markedNumber.resetChangedIndex, .noWrapper) := rfl
    have hleft := ((h.2 (markedNumber, ⟨["a"], {i | i < 1}⟩) rfl).1 _ _ hpush).2
    exact absurd (hleft nofun ⟨0, Nat.zero_lt_one⟩) (by decide)

end chaos.cu.control_manager
