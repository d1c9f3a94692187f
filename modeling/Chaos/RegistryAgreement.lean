-- Which domains and which actions the command dispatcher knows. The schedulers always follow the
-- domains. An action is lost when another object that declares its name is deregistered.
import Chaos.CommandRegistry
import Chaos.MapsWithin

namespace chaos.common

open action

namespace action.DomainActions

variable (s : DomainActions) (descriptors : Descriptors) (action : Nat)

theorem addActionDescriptor_finds (h : (descriptors action).actionDomain = s.domainName)
    (n : String) :
    ((s.addActionDescriptor descriptors action).getActionDescriptor n).isSome ↔
      (s.getActionDescriptor n).isSome ∨ (descriptors action).actionName = n := by
  simp only [addActionDescriptor, h, getActionDescriptor, AList.lookup_isSome]
  by_cases hin : (descriptors action).actionName ∈ s.actionDescriptionsMap
  · simp only [hin, or_true, if_true]
    exact ⟨Or.inl, Or.rec id (by rintro rfl; exact hin)⟩
  · simp [hin, eq_comm, or_comm]

theorem addActionDescriptor_domainName :
    (s.addActionDescriptor descriptors action).domainName = s.domainName := by
  simp only [addActionDescriptor]
  split <;> rfl

theorem addActionDescriptor_held (h : (descriptors action).actionDomain = s.domainName) :
    (s.addActionDescriptor descriptors action).registeredActions ≠ 0 := by
  have hin := (addActionDescriptor_finds s descriptors action h _).mpr (Or.inr rfl)
  simp only [getActionDescriptor, AList.lookup_isSome] at hin
  exact (List.length_pos_of_mem (AList.mem_keys.mp hin)).ne'

theorem removeActionDescriptor_finds (h : (descriptors action).actionDomain = s.domainName)
    (n : String) :
    ((s.removeActionDescriptor descriptors action).1.getActionDescriptor n).isSome ↔
      (s.getActionDescriptor n).isSome ∧ (descriptors action).actionName ≠ n := by
  simp only [removeActionDescriptor, h, ne_eq, not_true, if_false, getActionDescriptor,
    AList.lookup_isSome, AList.mem_erase]
  rw [and_comm, eq_comm]

theorem removeActionDescriptor_domainName :
    (s.removeActionDescriptor descriptors action).1.domainName = s.domainName := by
  simp only [removeActionDescriptor]
  split <;> rfl

/-- A descriptor is disabled, and keeps its names. -/
theorem removeActionDescriptor_names (a : Nat) :
    ((s.removeActionDescriptor descriptors action).2 a).actionDomain =
        (descriptors a).actionDomain ∧
      ((s.removeActionDescriptor descriptors action).2 a).actionName =
        (descriptors a).actionName := by
  simp only [removeActionDescriptor]
  split
  · exact ⟨rfl, rfl⟩
  · rcases eq_or_ne a action with rfl | hne
    · simp [AbstractActionDescriptor.setEnabled]
    · simp [Function.update_of_ne hne]

theorem getActionDescriptor_of_empty (h : s.registeredActions = 0) (n : String) :
    (s.getActionDescriptor n).isSome = false := by
  rw [Bool.eq_false_iff, Ne, getActionDescriptor, AList.lookup_isSome, AList.mem_keys,
    List.eq_nil_of_length_eq_zero h]
  exact List.not_mem_nil

end action.DomainActions

namespace dispatcher

open runs maps_within

namespace CommandDispatcher

variable {s t : CommandDispatcher}

/-! ## What is claimed -/

/-- The object has an action of this domain and name. -/
def Declares (s : CommandDispatcher) (declareActionClass : Nat) (domain name : String) : Prop :=
  ∃ action ∈ s.getActionDescriptors declareActionClass,
    s.domainOf action = domain ∧ s.nameOf action = name

instance (s : CommandDispatcher) (declareActionClass : Nat) (domain name : String) :
    Decidable (s.Declares declareActionClass domain name) :=
  inferInstanceAs (Decidable (∃ action ∈ _, _))

structure Agrees (s : CommandDispatcher) : Prop where
  domains : ∀ d, d ∈ s.das_map ↔ d ∈ s.actionDomainExecutorMap
  container : ∀ d p, s.das_map.lookup d = some p → s.actionDomainExecutorMap.lookup d = some p
  found : ∀ d n, (s.findAction d n).isSome ↔ ∃ o ∈ s.registered, s.Declares o d n

/-! ## The condition -/

/-- No other object that is registered has an action of the name of one that goes. -/
def Alone (s : CommandDispatcher) : Label → Prop
  | .registerAction _ | .deregisterAction none => True
  | .deregisterAction (some declareActionClass) =>
    ∀ action ∈ s.getActionDescriptors declareActionClass, ∀ o ∈ s.registered,
      o ≠ declareActionClass → ¬ s.Declares o (s.domainOf action) (s.nameOf action)

/-! ## The invariant -/

/-- The actions that are there for the domain. -/
def actionsOf (s : CommandDispatcher) (domain_name : String) : Option DomainActions :=
  (s.actionDomainExecutorMap.lookup domain_name).map s.domains

/-- A domain that is there is there under its own name, at an address that is taken. -/
structure Placed (s : CommandDispatcher) : Prop where
  named : ∀ d D, s.actionsOf d = some D → D.domainName = d
  fresh : ∀ d p, s.actionDomainExecutorMap.lookup d = some p → p < s.next

/-- A domain that is there has an action. -/
structure Named (s : CommandDispatcher) : Prop extends Placed s where
  held : ∀ d D, s.actionsOf d = some D → D.registeredActions ≠ 0

structure Good (s : CommandDispatcher) : Prop extends Named s where
  scheduled : ∀ d, s.das_map.lookup d = s.actionDomainExecutorMap.lookup d

theorem good_new (getActionDescriptors : Nat → List Nat) (descriptors : Descriptors) :
    Good (new getActionDescriptors descriptors) := by
  refine ⟨⟨⟨?_, ?_⟩, ?_⟩, ?_⟩ <;> simp [new, actionsOf]

theorem agrees_new (getActionDescriptors : Nat → List Nat) (descriptors : Descriptors) :
    Agrees (new getActionDescriptors descriptors) := by
  constructor <;> simp [new, findAction]

theorem Good.agrees (h : Good s)
    (hfound : ∀ d n, (s.findAction d n).isSome ↔ ∃ o ∈ s.registered, s.Declares o d n) :
    Agrees s := by
  refine ⟨fun d => ?_, fun d p hp => (h.scheduled d).symm.trans hp, hfound⟩
  rw [← AList.lookup_isSome, h.scheduled, AList.lookup_isSome]

theorem findAction_eq (s : CommandDispatcher) (d n : String) :
    s.findAction d n = (s.actionsOf d).bind (·.getActionDescriptor n) := by
  simp only [findAction, actionsOf, Option.bind_map]
  rfl

/-! ## One domain -/

/-- Only one domain has the address. -/
theorem Placed.update (h : Placed s) {d : String} {p : Nat}
    (hp : s.actionDomainExecutorMap.lookup d = some p) (D : DomainActions) (d' : String) :
    (s.actionDomainExecutorMap.lookup d').map (Function.update s.domains p D) =
      Function.update s.actionsOf d (some D) d' := by
  rcases eq_or_ne d' d with rfl | hne
  · simp [hp]
  · rw [Function.update_of_ne hne, actionsOf]
    rcases hp' : s.actionDomainExecutorMap.lookup d' with _ | p'
    · rfl
    · have hpp : p' ≠ p := by
        rintro rfl
        refine hne ?_
        rw [← h.named d' (s.domains p') (by simp [actionsOf, hp']),
          h.named d (s.domains p') (by simp [actionsOf, hp])]
      simp [Function.update_of_ne hpp]

/-- An address that is not taken. -/
theorem Placed.insert (h : Placed s) (d : String) (D : DomainActions) (d' : String) :
    ((s.actionDomainExecutorMap.insert d s.next).lookup d').map
      (Function.update s.domains s.next D) = Function.update s.actionsOf d (some D) d' := by
  rcases eq_or_ne d' d with rfl | hne
  · simp
  · rw [Function.update_of_ne hne, AList.lookup_insert_ne hne, actionsOf]
    rcases hp' : s.actionDomainExecutorMap.lookup d' with _ | p'
    · rfl
    · simp [Function.update_of_ne (h.fresh d' p' hp').ne]

/-- What no call changes: a descriptor that is disabled keeps its names. -/
structure Kept (s t : CommandDispatcher) : Prop where
  declared : t.getActionDescriptors = s.getActionDescriptors
  domainOf : ∀ a, t.domainOf a = s.domainOf a
  nameOf : ∀ a, t.nameOf a = s.nameOf a
  registered : t.registered = s.registered

theorem Kept.refl (s : CommandDispatcher) : Kept s s := ⟨rfl, fun _ => rfl, fun _ => rfl, rfl⟩

theorem Kept.trans {u : CommandDispatcher} (h : Kept s t) (h' : Kept t u) : Kept s u :=
  ⟨h'.declared.trans h.declared, fun a => (h'.domainOf a).trans (h.domainOf a),
    fun a => (h'.nameOf a).trans (h.nameOf a), h'.registered.trans h.registered⟩

theorem Kept.declares (h : Kept s t) (o : Nat) (d n : String) :
    t.Declares o d n ↔ s.Declares o d n := by
  simp only [Declares, h.declared, h.domainOf, h.nameOf]

/-- What `getDomainActionsFromName` gives: the actions of the domain, or new ones. -/
def stored (s : CommandDispatcher) (domain_name : String) : DomainActions :=
  (s.actionsOf domain_name).getD { domainName := domain_name }

theorem Placed.stored (h : Placed s) (d : String) : (s.stored d).domainName = d := by
  rw [CommandDispatcher.stored]
  rcases hD : s.actionsOf d with _ | D
  · rfl
  · exact h.named d D hD

/-- A domain that is not there has no actions. -/
theorem stored_finds (s : CommandDispatcher) (d n : String) :
    ((s.stored d).getActionDescriptor n).isSome ↔ (s.findAction d n).isSome := by
  rw [findAction_eq, stored]
  rcases s.actionsOf d with _ | D
  · simp [DomainActions.getActionDescriptor]
  · rfl

/-- The actions of a domain, and the state with them. -/
structure Gives (s : CommandDispatcher) (d : String) (t : CommandDispatcher) (p : Nat) : Prop
    extends Placed t, Kept s t where
  descriptors : t.descriptors = s.descriptors
  das_map : t.das_map = s.das_map
  grows : s.next ≤ t.next
  here : t.actionDomainExecutorMap.lookup d = some p
  given : t.domains p = s.stored d
  actions : t.actionsOf = Function.update s.actionsOf d (some (s.stored d))
  others : ∀ d' ≠ d, t.actionDomainExecutorMap.lookup d' = s.actionDomainExecutorMap.lookup d'
  keeps : ∀ p', s.actionDomainExecutorMap.lookup d = some p' → p' = p

theorem Placed.getDomainActionsFromName (h : Placed s) (d : String) :
    ∃ t p, s.getDomainActionsFromName d = (t, p) ∧ Gives s d t p := by
  rw [CommandDispatcher.getDomainActionsFromName]
  rcases hp : s.actionDomainExecutorMap.lookup d with _ | p
  · have hst : s.stored d = { domainName := d } := by simp [CommandDispatcher.stored, actionsOf, hp]
    have hact := funext (h.insert d (s.stored d))
    rw [hst] at hact
    refine ⟨_, _, rfl, ?_⟩
    refine {
      toPlaced := ⟨fun d' D hD => ?_, fun d' p hp' => ?_⟩
      toKept := ⟨rfl, fun _ => rfl, fun _ => rfl, rfl⟩
      descriptors := rfl
      das_map := rfl
      grows := Nat.le_succ _
      here := AList.lookup_insert _
      given := by simp [hst]
      actions := by rw [hst]; exact hact
      others := fun d' hne => AList.lookup_insert_ne hne
      keeps := fun p' hp' => by rw [hp] at hp'; cases hp' }
    · have hD := (congrFun hact d').symm.trans hD
      rcases eq_or_ne d' d with rfl | hne
      · rw [Function.update_self] at hD
        cases hD
        rfl
      · rw [Function.update_of_ne hne] at hD
        exact h.named d' D hD
    · rcases eq_or_ne d' d with rfl | hne
      · rw [AList.lookup_insert] at hp'
        cases hp'
        exact Nat.lt_succ_self _
      · rw [AList.lookup_insert_ne hne] at hp'
        exact Nat.lt_succ_of_lt (h.fresh d' p hp')
  · have hst : s.actionsOf d = some (s.domains p) := by simp [actionsOf, hp]
    refine ⟨s, p, rfl, ?_⟩
    exact {
      toPlaced := h
      toKept := Kept.refl s
      descriptors := rfl
      das_map := rfl
      grows := Nat.le_refl _
      here := hp
      given := by simp [CommandDispatcher.stored, hst]
      actions := by
        rw [CommandDispatcher.stored, hst, Option.getD_some, ← hst, Function.update_eq_self]
      others := fun _ _ => rfl
      keeps := fun p' hp' => Option.some.inj (hp'.symm.trans hp) }

/-- The new state is told by what is there for the one domain. -/
theorem Named.of_actionsOf (h : Named s) {d : String} {left : Option DomainActions}
    (hleft : ∀ D ∈ left, D.domainName = d ∧ D.registeredActions ≠ 0)
    (hact : t.actionsOf = Function.update s.actionsOf d left)
    (hfresh : ∀ d' p, t.actionDomainExecutorMap.lookup d' = some p → p < t.next) : Named t := by
  have hall : ∀ d' D, t.actionsOf d' = some D → D.domainName = d' ∧ D.registeredActions ≠ 0 := by
    intro d' D hD
    rw [hact] at hD
    rcases eq_or_ne d' d with rfl | hne
    · rw [Function.update_self] at hD
      exact hleft D hD
    · rw [Function.update_of_ne hne] at hD
      exact ⟨h.named d' D hD, h.held d' D hD⟩
  exact ⟨⟨fun d' D hD => (hall d' D hD).1, hfresh⟩, fun d' D hD => (hall d' D hD).2⟩

theorem finds_of_actionsOf {d : String} {left : Option DomainActions}
    (hact : t.actionsOf = Function.update s.actionsOf d left) (d' n : String) :
    t.findAction d' n =
      if d' = d then left.bind (·.getActionDescriptor n) else s.findAction d' n := by
  rw [findAction_eq, hact]
  split
  · next he => rw [he, Function.update_self]
  · next hne => rw [Function.update_of_ne hne, findAction_eq]

/-! ## Registration -/

structure Added (s : CommandDispatcher) (a : Nat) (t : CommandDispatcher) : Prop
    extends Named t, Kept s t where
  found : ∀ d n, (t.findAction d n).isSome ↔
    (s.findAction d n).isSome ∨ s.domainOf a = d ∧ s.nameOf a = n
  within : ∀ D : Set String, s.domainOf a ∈ D →
    Within s.das_map s.actionDomainExecutorMap D → Within t.das_map t.actionDomainExecutorMap D

theorem Named.addAction (h : Named s) (a : Nat) : Added s a (s.addAction a) := by
  obtain ⟨t, p, he, ht⟩ := h.getDomainActionsFromName (s.domainOf a)
  have hd : (s.descriptors a).actionDomain = (s.stored (s.domainOf a)).domainName :=
    (h.stored _).symm
  have hadd : s.addAction a = { t with
      domains := Function.update t.domains p
        ((s.stored (s.domainOf a)).addActionDescriptor s.descriptors a) } := by
    simp only [CommandDispatcher.addAction, he, ht.given, ht.descriptors]
  have hact : (s.addAction a).actionsOf = Function.update s.actionsOf (s.domainOf a)
      (some ((s.stored (s.domainOf a)).addActionDescriptor s.descriptors a)) := by
    rw [hadd]
    refine (funext (ht.update ht.here _)).trans ?_
    rw [ht.actions, Function.update_idem]
  have hnamed : Named (s.addAction a) := by
    refine h.of_actionsOf ?_ hact (by rw [hadd]; exact ht.fresh)
    intro D hD
    cases hD
    exact ⟨(DomainActions.addActionDescriptor_domainName _ _ a).trans (h.stored _),
      DomainActions.addActionDescriptor_held _ _ a hd⟩
  refine ⟨hnamed, ?_, fun d n => ?_, fun D ha hw => ?_⟩
  · rw [hadd]
    exact ⟨ht.declared, ht.domainOf, ht.nameOf, ht.registered⟩
  · rw [finds_of_actionsOf hact]
    split
    · next he =>
      subst he
      rw [Option.bind_some, DomainActions.addActionDescriptor_finds _ _ _ hd, stored_finds]
      simp [nameOf]
    · next hne => simp [Ne.symm hne]
  · rw [hadd]
    simp only [ht.das_map]
    refine hw.change_right ha ht.others fun b hb => ?_
    rw [ht.keeps b (hw.found _ b hb)]
    exact ht.here

/-- The loop of the base class. -/
theorem Named.addActions (h : Named s) (actions : List Nat) {D : Set String}
    (hw : Within s.das_map s.actionDomainExecutorMap D) (hD : ∀ a ∈ actions, s.domainOf a ∈ D) :
    let t := actions.foldl CommandDispatcher.addAction s
    Named t ∧ Kept s t ∧ Within t.das_map t.actionDomainExecutorMap D ∧
      ∀ d n, (t.findAction d n).isSome ↔
        (s.findAction d n).isSome ∨ ∃ a ∈ actions, s.domainOf a = d ∧ s.nameOf a = n := by
  induction actions generalizing s with
  | nil => exact ⟨h, Kept.refl s, hw, by simp⟩
  | cons a as ih =>
    have ha := h.addAction a
    obtain ⟨hn, hk, hwithin, hfind⟩ := ih ha.toNamed (ha.within D (hD a List.mem_cons_self) hw)
      (fun b hb => (ha.domainOf b).symm ▸ hD b (List.mem_cons_of_mem _ hb))
    refine ⟨hn, ha.toKept.trans hk, hwithin, fun d n => ?_⟩
    rw [List.foldl_cons, hfind, ha.found]
    simp only [ha.domainOf, ha.nameOf, List.exists_mem_cons_iff, or_assoc]

/-- A scheduler for a domain that is there changes nothing else. -/
theorem addScheduler_eq (s : CommandDispatcher) (a : Nat)
    (ha : s.domainOf a ∈ s.actionDomainExecutorMap) : ∃ das_map,
    s.addScheduler a = { s with das_map := das_map } ∧
      ∀ D, Within s.das_map s.actionDomainExecutorMap D →
        Within das_map s.actionDomainExecutorMap (D \ {s.domainOf a}) := by
  obtain ⟨p, hp⟩ := Option.isSome_iff_exists.mp (AList.lookup_isSome.mpr ha)
  simp only [addScheduler, getDomainActionsFromName, hp]
  split
  · next hin => exact ⟨s.das_map, rfl, fun D hw => hw.settled fun _ => hin⟩
  · exact ⟨_, rfl, fun D hw => hw.insert_left hp⟩

/-- The loop of the derived class. -/
theorem addSchedulers_eq (s : CommandDispatcher) (actions : List Nat) {D : Set String}
    (ha : ∀ a ∈ actions, s.domainOf a ∈ s.actionDomainExecutorMap)
    (hw : Within s.das_map s.actionDomainExecutorMap D) : ∃ das_map,
    actions.foldl addScheduler s = { s with das_map := das_map } ∧
      Within das_map s.actionDomainExecutorMap (D \ {d | ∃ a ∈ actions, s.domainOf a = d}) := by
  induction actions generalizing s D with
  | nil => exact ⟨s.das_map, rfl, by simpa using hw⟩
  | cons a as ih =>
    obtain ⟨das_map, he, hw'⟩ := addScheduler_eq s a (ha a List.mem_cons_self)
    obtain ⟨das_map', he', hwithin⟩ := ih { s with das_map := das_map }
      (fun b hb => ha b (List.mem_cons_of_mem _ hb)) (hw' D hw)
    exact ⟨das_map', by rw [List.foldl_cons, he, he'], hwithin.cons⟩

/-- A domain with an action that is found is there. -/
theorem mem_of_found {d n : String} (h : (s.findAction d n).isSome) :
    d ∈ s.actionDomainExecutorMap := by
  simp only [findAction] at h
  rw [← AList.lookup_isSome]
  exact Option.isSome_of_isSome_bind h

theorem Good.registerAction (h : Good s) (o : Nat) :
    Good (s.registerAction (some o)) ∧ (s.registerAction (some o)).registered = o :: s.registered ∧
      (∀ o' d n, (s.registerAction (some o)).Declares o' d n ↔ s.Declares o' d n) ∧
      ∀ d n, ((s.registerAction (some o)).findAction d n).isSome ↔
        (s.findAction d n).isSome ∨ s.Declares o d n := by
  let actions := s.getActionDescriptors o
  obtain ⟨hn, hk, hw, hfind⟩ := h.toNamed.addActions actions (Within.of_eq h.scheduled)
    (D := {d | ∃ a ∈ actions, s.domainOf a = d}) (fun a ha => ⟨a, ha, rfl⟩)
  have hmem : ∀ a ∈ actions, (actions.foldl addAction s).domainOf a ∈
      (actions.foldl addAction s).actionDomainExecutorMap := by
    intro a ha
    rw [hk.domainOf]
    exact mem_of_found ((hfind _ (s.nameOf a)).mpr (Or.inr ⟨a, ha, rfl, rfl⟩))
  obtain ⟨das_map, he, hwithin⟩ := addSchedulers_eq _ actions hmem hw
  simp only [hk.domainOf, sdiff_self] at hwithin
  have hres : s.registerAction (some o) =
      { actions.foldl addAction s with das_map := das_map, registered := o :: s.registered } := by
    simp only [CommandDispatcher.registerAction]
    rw [he]
    simp only [hk.registered]
  rw [hres]
  exact ⟨⟨⟨⟨hn.named, hn.fresh⟩, hn.held⟩, hwithin.eq⟩, rfl, hk.declares, hfind⟩

/-! ## Deregistration -/

/-- What is left of the domain. -/
def leftOf (s : CommandDispatcher) (a : Nat) : Option DomainActions :=
  let left := ((s.stored (s.domainOf a)).removeActionDescriptor s.descriptors a).1
  if left.registeredActions = 0 then none else some left

/-- Something is left only of a domain that was there. -/
theorem Named.mem_of_left (h : Named s) {a : Nat} (hleft : s.leftOf a ≠ none) :
    s.domainOf a ∈ s.actionDomainExecutorMap := by
  simp only [leftOf] at hleft
  split at hleft
  · exact absurd rfl hleft
  · next hheld =>
    obtain ⟨n, hn⟩ := List.exists_mem_of_length_pos (Nat.pos_of_ne_zero hheld)
    have hd : (s.descriptors a).actionDomain = (s.stored (s.domainOf a)).domainName :=
      (h.stored _).symm
    have hfind := DomainActions.removeActionDescriptor_finds _ s.descriptors a hd n
    rw [DomainActions.getActionDescriptor, AList.lookup_isSome, stored_finds] at hfind
    exact mem_of_found (hfind.mp (AList.mem_keys.mpr hn)).1

structure Removed (s : CommandDispatcher) (a : Nat) (t : CommandDispatcher) : Prop
    extends Named t, Kept s t where
  found : ∀ d n, (t.findAction d n).isSome ↔
    (s.findAction d n).isSome ∧ ¬ (s.domainOf a = d ∧ s.nameOf a = n)
  within : ∀ D : Set String, s.domainOf a ∈ D →
    Within s.actionDomainExecutorMap s.das_map D → Within t.actionDomainExecutorMap t.das_map D

theorem Named.removeAction (h : Named s) (a : Nat) : Removed s a (s.removeAction a) := by
  obtain ⟨t, p, he, ht⟩ := h.getDomainActionsFromName (s.domainOf a)
  have hd : (s.descriptors a).actionDomain = (s.stored (s.domainOf a)).domainName :=
    (h.stored _).symm
  have hname : ((s.stored (s.domainOf a)).removeActionDescriptor s.descriptors a).1.domainName =
      s.domainOf a := (DomainActions.removeActionDescriptor_domainName _ _ a).trans (h.stored _)
  have hrem : s.removeAction a = { t with
      domains := Function.update t.domains p
        ((s.stored (s.domainOf a)).removeActionDescriptor s.descriptors a).1
      descriptors := ((s.stored (s.domainOf a)).removeActionDescriptor s.descriptors a).2
      actionDomainExecutorMap :=
        if ((s.stored (s.domainOf a)).removeActionDescriptor s.descriptors a).1.registeredActions =
            0 then
          t.actionDomainExecutorMap.erase (s.domainOf a)
        else t.actionDomainExecutorMap } := by
    simp only [CommandDispatcher.removeAction, he, ht.given, ht.descriptors, hname]
  have hact : (s.removeAction a).actionsOf =
      Function.update s.actionsOf (s.domainOf a) (s.leftOf a) := by
    rw [hrem]
    have hup := funext (ht.update ht.here
      ((s.stored (s.domainOf a)).removeActionDescriptor s.descriptors a).1)
    rw [ht.actions, Function.update_idem] at hup
    simp only [leftOf]
    split
    · funext d'
      rcases eq_or_ne d' (s.domainOf a) with rfl | hne
      · simp [actionsOf]
      · rw [Function.update_of_ne hne]
        have hd' := congrFun hup d'
        rw [Function.update_of_ne hne] at hd'
        rw [← hd', actionsOf, AList.lookup_erase_ne hne]
    · exact hup
  have hothers : ∀ d' ≠ s.domainOf a, (s.removeAction a).actionDomainExecutorMap.lookup d' =
      s.actionDomainExecutorMap.lookup d' := by
    intro d' hne
    rw [← ht.others d' hne, hrem]
    dsimp only
    split
    · exact AList.lookup_erase_ne hne
    · rfl
  have hhere : ∀ p', (s.removeAction a).actionDomainExecutorMap.lookup (s.domainOf a) = some p' →
      s.actionDomainExecutorMap.lookup (s.domainOf a) = some p' := by
    intro p' hp'
    have hleft : s.leftOf a ≠ none := by
      have hd' := congrFun hact (s.domainOf a)
      rw [Function.update_self, actionsOf, hp'] at hd'
      simp [← hd']
    obtain ⟨q, hq⟩ := Option.isSome_iff_exists.mp (AList.lookup_isSome.mpr (h.mem_of_left hleft))
    have hp : t.actionDomainExecutorMap.lookup (s.domainOf a) = some p' := by
      rw [hrem] at hp'
      dsimp only at hp'
      split at hp'
      · simp at hp'
      · exact hp'
    rw [hq, ht.keeps q hq, ← ht.here, hp]
  have hnamed : Named (s.removeAction a) := by
    refine h.of_actionsOf ?_ hact ?_
    · intro D hD
      simp only [leftOf] at hD
      split at hD
      · cases hD
      · next hheld =>
        cases hD
        exact ⟨hname, hheld⟩
    · intro d' p' hp'
      have hlt : p' < s.next := by
        rcases eq_or_ne d' (s.domainOf a) with rfl | hne
        · exact h.fresh _ p' (hhere p' hp')
        · exact h.fresh d' p' ((hothers d' hne).symm.trans hp')
      rw [hrem]
      exact Nat.lt_of_lt_of_le hlt ht.grows
  refine ⟨hnamed, ?_, fun d n => ?_, fun D ha hw => ?_⟩
  · rw [hrem]
    refine ⟨ht.declared, fun b => ?_, fun b => ?_, ht.registered⟩
    · exact (DomainActions.removeActionDescriptor_names _ s.descriptors a b).1
    · exact (DomainActions.removeActionDescriptor_names _ s.descriptors a b).2
  · rw [finds_of_actionsOf hact]
    split
    · next he =>
      subst he
      have hfind := DomainActions.removeActionDescriptor_finds _ s.descriptors a hd n
      rw [stored_finds] at hfind
      simp only [leftOf]
      split
      · next hnone =>
        rw [DomainActions.getActionDescriptor_of_empty _ hnone] at hfind
        simpa [nameOf] using hfind
      · simpa [nameOf] using hfind
    · next hne => simp [Ne.symm hne]
  · have hdas : (s.removeAction a).das_map = s.das_map := by rw [hrem]; exact ht.das_map
    rw [hdas]
    exact hw.change_left ha hothers fun b hb => hw.found _ b (hhere b hb)

/-- The loop of the base class. -/
theorem Named.removeActions (h : Named s) (actions : List Nat) {D : Set String}
    (hw : Within s.actionDomainExecutorMap s.das_map D) (hD : ∀ a ∈ actions, s.domainOf a ∈ D) :
    let t := actions.foldl CommandDispatcher.removeAction s
    Named t ∧ Kept s t ∧ Within t.actionDomainExecutorMap t.das_map D ∧
      ∀ d n, (t.findAction d n).isSome ↔
        (s.findAction d n).isSome ∧ ¬ ∃ a ∈ actions, s.domainOf a = d ∧ s.nameOf a = n := by
  induction actions generalizing s with
  | nil => exact ⟨h, Kept.refl s, hw, by simp⟩
  | cons a as ih =>
    have ha := h.removeAction a
    obtain ⟨hn, hk, hwithin, hfind⟩ := ih ha.toNamed (ha.within D (hD a List.mem_cons_self) hw)
      (fun b hb => (ha.domainOf b).symm ▸ hD b (List.mem_cons_of_mem _ hb))
    refine ⟨hn, ha.toKept.trans hk, hwithin, fun d n => ?_⟩
    rw [List.foldl_cons, hfind, ha.found]
    simp only [ha.domainOf, ha.nameOf, List.exists_mem_cons_iff, not_or, and_assoc]

/-- The loop of the derived class erases the schedulers of the domains that have gone. -/
theorem removeSchedulers_eq (s : CommandDispatcher) (actions : List Nat) {D : Set String}
    (hw : Within s.actionDomainExecutorMap s.das_map D) : ∃ das_map,
    actions.foldl removeScheduler s = { s with das_map := das_map } ∧
      Within s.actionDomainExecutorMap das_map (D \ {d | ∃ a ∈ actions, s.domainOf a = d}) := by
  induction actions generalizing s D with
  | nil => exact ⟨s.das_map, rfl, by simpa using hw⟩
  | cons a as ih =>
    have hone : ∃ das_map, s.removeScheduler a = { s with das_map := das_map } ∧
        Within s.actionDomainExecutorMap das_map (D \ {s.domainOf a}) := by
      simp only [removeScheduler]
      split
      · next hgone => exact ⟨_, rfl, hw.erase_right hgone.2⟩
      · next hstays =>
        refine ⟨s.das_map, rfl, hw.settled fun hin => ?_⟩
        by_contra hno
        exact hstays ⟨hin, hno⟩
    obtain ⟨das_map, he, hw'⟩ := hone
    obtain ⟨das_map', he', hwithin⟩ := ih { s with das_map := das_map } hw'
    exact ⟨das_map', by rw [List.foldl_cons, he, he'], hwithin.cons⟩

theorem Good.deregisterAction (h : Good s) (o : Nat) :
    Good (s.deregisterAction (some o)) ∧
      (s.deregisterAction (some o)).registered = s.registered.filter (· ≠ o) ∧
      (∀ o' d n, (s.deregisterAction (some o)).Declares o' d n ↔ s.Declares o' d n) ∧
      ∀ d n, ((s.deregisterAction (some o)).findAction d n).isSome ↔
        (s.findAction d n).isSome ∧ ¬ s.Declares o d n := by
  let actions := s.getActionDescriptors o
  obtain ⟨hn, hk, hw, hfind⟩ := h.toNamed.removeActions actions
    (Within.of_eq fun d => (h.scheduled d).symm)
    (D := {d | ∃ a ∈ actions, s.domainOf a = d}) (fun a ha => ⟨a, ha, rfl⟩)
  obtain ⟨das_map, he, hwithin⟩ := removeSchedulers_eq _ actions hw
  simp only [hk.domainOf, sdiff_self] at hwithin
  have hres : s.deregisterAction (some o) =
      { actions.foldl removeAction s with
        das_map := das_map
        registered := s.registered.filter (· ≠ o) } := by
    simp only [CommandDispatcher.deregisterAction]
    rw [he]
    simp only [hk.registered]
  rw [hres]
  refine ⟨⟨⟨⟨hn.named, hn.fresh⟩, hn.held⟩, fun d => ?_⟩, rfl, hk.declares, hfind⟩
  exact (hwithin.eq d).symm

/-! ## The calls -/

theorem good_step (a : Label) (h : Good s) (ht : step s a = some t) : Good t := by
  rcases a with (_ | o) | (_ | o) <;> cases ht
  · exact h
  · exact (h.registerAction o).1
  · exact h
  · exact (h.deregisterAction o).1

theorem Good.agrees_iff (h : Good s) :
    Agrees s ↔ ∀ d n, (s.findAction d n).isSome ↔ ∃ o ∈ s.registered, s.Declares o d n :=
  ⟨Agrees.found, h.agrees⟩

/-- The names of an object are lost with it, also where another object has them. -/
theorem alone_iff (h : Good s) (ha : Agrees s) (a : Label) :
    Alone s a ↔ ∀ t, step s a = some t → Good t ∧ Agrees t := by
  rcases a with (_ | o) | (_ | o)
  · simp [Alone, step, CommandDispatcher.registerAction, h, ha]
  · obtain ⟨hg, hreg, hdecl, hfind⟩ := h.registerAction o
    refine iff_of_true trivial ?_
    rintro t ht
    cases ht
    refine ⟨hg, hg.agrees_iff.mpr fun d n => ?_⟩
    rw [hfind, hreg, ha.found]
    simp only [hdecl, List.exists_mem_cons_iff, or_comm]
  · simp [Alone, step, CommandDispatcher.deregisterAction, h, ha]
  · obtain ⟨hg, hreg, hdecl, hfind⟩ := h.deregisterAction o
    have hmem : ∀ o', o' ∈ (s.deregisterAction (some o)).registered ↔
        o' ∈ s.registered ∧ o' ≠ o := by simp [hreg]
    simp only [step, Option.some.injEq, forall_eq', hg, true_and, hg.agrees_iff]
    constructor
    · intro halone d n
      rw [hfind, ha.found]
      simp only [hdecl, hmem]
      constructor
      · rintro ⟨⟨o', hin, hd⟩, hno⟩
        exact ⟨o', ⟨hin, by rintro rfl; exact hno hd⟩, hd⟩
      · rintro ⟨o', ⟨hin, hne⟩, hd⟩
        refine ⟨⟨o', hin, hd⟩, ?_⟩
        rintro ⟨action, haction, rfl, rfl⟩
        exact halone action haction o' hin hne hd
    · intro hfound action haction o' hin hne hd
      have hlost := (hfound _ _).mpr ⟨o', (hmem o').mpr ⟨hin, hne⟩, (hdecl _ _ _).mpr hd⟩
      exact ((hfind _ _).mp hlost).2 ⟨action, haction, rfl, rfl⟩

/-- The registry agrees with the objects that are registered after every call, exactly when no
object is deregistered while another one that is registered has one of its names. -/
theorem registered_actions_are_found (getActionDescriptors : Nat → List Nat)
    (descriptors : Descriptors) (as : List Label) :
    RunOk step Alone (new getActionDescriptors descriptors) as ↔
      ∀ n t, run step (new getActionDescriptors descriptors) (as.take n) = some t → Agrees t := by
  have hg := good_new getActionDescriptors descriptors
  rw [runOk_iff_reached (fun s => Good s ∧ Agrees s) (fun s a hs => alone_iff hs.1 hs.2 a)
    ⟨hg, agrees_new _ _⟩]
  refine forall_congr' fun n => forall_congr' fun t => forall_congr' fun hr => ?_
  exact and_iff_right (run_keeps Good (fun _ a _ hs ht => good_step a hs ht) hg hr)

/-- Two objects have an action `a` in the domain `d`. The second stays registered, and its action
is not found. -/
theorem registered_actions_are_lost : ¬ ∀ as t,
    run step (new (fun o => [o]) fun _ => { actionDomain := "d", actionName := "a" }) as = some t →
      Agrees t := by
  intro hall
  have hfound := (hall [.registerAction (some 0), .registerAction (some 1),
    .deregisterAction (some 0)] _ rfl).found "d" "a"
  exact absurd (hfound.mpr ⟨1, by decide, by decide⟩) (by decide)

end CommandDispatcher

end dispatcher

end chaos.common
