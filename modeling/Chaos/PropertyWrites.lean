-- The values that are stored for the properties of the attributes, whatever their names are. A value
-- is set by deleting those that differ from it up to the first equal one, and adding it when there
-- was none.
import Chaos.AttributeEntities
import Chaos.DatasetTables

namespace chaos.common.data

open chaos.edb

/-- An entity and the key of one of its properties. -/
abbrev Place := UInt32 × DatasetKey

namespace CUSchemaDB

/-! ## What is stored, and what was given -/

def rowsAt (s : CUSchemaDB) (p : Place) : List PropertyRow :=
  s.property.filter fun row => row.entity_id = bindInt p.1 && row.key_id = mapDatasetKeyForID p.2

def values (s : CUSchemaDB) (p : Place) : List PropertyValue := (s.rowsAt p).map PropertyRow.value

/-- The last value that is given for a property. -/
def given (l : List (Place × PropertyValue)) (p : Place) : Option PropertyValue :=
  l.reverse.lookup p

/-- From `s` to `t` the values of `l` were set, one after the other, and no others. -/
def Wrote (l : List (Place × PropertyValue)) (s t : CUSchemaDB) : Prop :=
  ∀ p : Place, p.2 ∈ attributeKeys →
    t.values p = ((given l p).map fun value => [value]).getD (s.values p)

/-- No property of an attribute has two values. -/
def Unique (s : CUSchemaDB) : Prop :=
  ∀ p : Place, p.2 ∈ attributeKeys → (s.values p).length ≤ 1

variable {s t u : CUSchemaDB} {w : World} {l l' : List (Place × PropertyValue)} {p q : Place}
  {row : PropertyRow} {value : PropertyValue} {entity : Entity} {key : DatasetKey}

theorem given_append : given (l ++ l') p = (given l' p).or (given l p) := by
  unfold given
  rw [List.reverse_append, List.lookup_append]

theorem given_singleton : given [(q, value)] p = if p = q then some value else none := by
  unfold given
  rw [List.reverse_singleton, List.lookup_cons]
  by_cases h : p = q
  · simp [h]
  · rw [beq_eq_false_iff_ne.mpr h, if_neg h]
    rfl

theorem Wrote.refl (s : CUSchemaDB) : Wrote [] s s := fun _ _ => rfl

theorem Wrote.trans (h : Wrote l s u) (h' : Wrote l' u t) : Wrote (l ++ l') s t := by
  intro p hp
  rw [h' p hp, h p hp, given_append]
  cases given l' p <;> rfl

/-! ## The rows of a property -/

theorem mem_rowsAt : row ∈ s.rowsAt p ↔
    row ∈ s.property ∧ row.entity_id = bindInt p.1 ∧ row.key_id = mapDatasetKeyForID p.2 := by
  simp [rowsAt]

/-- A row is at one place only. -/
theorem place_inj (h : row ∈ s.rowsAt p) (h' : row ∈ t.rowsAt q) : p = q := by
  obtain ⟨-, hid, hkey⟩ := mem_rowsAt.mp h
  obtain ⟨-, hid', hkey'⟩ := mem_rowsAt.mp h'
  exact Prod.ext (bindInt_inj (hid.symm.trans hid'))
    (mapDatasetKeyForID_inj.mp (hkey.symm.trans hkey'))

theorem getProperty_rowsAt :
    s.getPropertyByKeyID entity [key] = s.rowsAt (entity.entityID, key) := by
  unfold getPropertyByKeyID rowsAt
  exact List.filter_congr fun row _ => by simp

theorem rowsAt_deleteProperty {i : UInt32} :
    (s.deleteProperty i).rowsAt p = (s.rowsAt p).filter (·.id ≠ i) := by
  unfold rowsAt deleteProperty
  rw [List.filter_filter, List.filter_filter]
  exact List.filter_congr fun row _ => Bool.and_comm ..

/-- Only the place of the row that is deleted has changed. -/
theorem values_delete_ne (hids : (s.property.map PropertyRow.id).Nodup) (h : row ∈ s.rowsAt q)
    (hne : p ≠ q) : (s.deleteProperty row.id).values p = s.values p := by
  unfold values
  rw [rowsAt_deleteProperty, List.filter_eq_self.mpr]
  intro r hr
  rw [decide_eq_true_eq]
  intro hid
  have hrow := List.inj_on_of_nodup_map hids (mem_rowsAt.mp hr).1 (mem_rowsAt.mp h).1 hid
  exact hne (place_inj hr (hrow ▸ h))

theorem values_addNewProperty (k : UInt32) (key : DatasetKey) (value : PropertyValue)
    (hfree : ¬ s.property.any fun row => row.id = UInt32.ofNat (s.propertySeq + 1)) :
    (s.addNewPropertyForEntity k key value).values p =
      s.values p ++ if p = (k, key) then [value] else [] := by
  unfold addNewPropertyForEntity values rowsAt
  rw [if_neg hfree, List.filter_append, List.map_append]
  by_cases h : p = (k, key)
  · simp [h]
  · rw [if_neg h, List.filter_cons_of_neg]
    · rfl
    · simp only [Bool.and_eq_true, decide_eq_true_eq]
      rintro ⟨hid, hkey⟩
      exact h (Prod.ext (bindInt_inj hid).symm (mapDatasetKeyForID_inj.mp hkey).symm)

/-- A key of an attribute is not that of the servers, so that it has one row at most. -/
theorem Tidy.unique (hs : Tidy s) : Unique s := by
  intro p hp
  have hpair : (s.rowsAt p).Pairwise fun _ _ => False := by
    refine (List.Pairwise.and_mem.mp (hs.once.sublist List.filter_sublist)).imp ?_
    rintro a b ⟨ha, hb, hab⟩
    obtain ⟨-, hid, hkey⟩ := mem_rowsAt.mp ha
    obtain ⟨-, hid', hkey'⟩ := mem_rowsAt.mp hb
    have hserver := hab (hid.trans hid'.symm) (hkey.trans hkey'.symm)
    rw [hkey, mapDatasetKeyForID_inj] at hserver
    simp [hserver, attributeKeys] at hp
  unfold values
  rw [List.length_map]
  rcases hrows : s.rowsAt p with _ | ⟨a, _ | ⟨b, rows⟩⟩
  · exact Nat.zero_le _
  · exact Nat.le_refl _
  · rw [hrows] at hpair
    exact ((List.pairwise_cons.mp hpair).1 b List.mem_cons_self).elim

/-! ## The tables -/

/-- What every run keeps, whatever the names are. -/
structure Good (s : CUSchemaDB) : Prop where
  tidy : Tidy s
  texts : ∀ row ∈ s.entityDB.entity, row.str_value.isSome
  bound : ∀ row ∈ s.entityDB.entity, row.id.toNat ≤ s.entityDB.seq
  group : ∀ g ∈ s.entity_group, ∃ row ∈ s.entityDB.entity, row.id = g.2
  devices : ∀ d e, s.deviceEntityMap d = some e → e.strValue = d
  propertyIDs : (s.property.map PropertyRow.id).Nodup
  propertyBound : ∀ row ∈ s.property, row.id.toNat ≤ s.propertySeq

/-- The values of `l` were set, and at most `n` entities, `g` children and `m` properties are new. -/
structure Effect (l : List (Place × PropertyValue)) (n g m : Nat) (s t : CUSchemaDB) : Prop where
  good : Good t
  kept : ∀ d e, s.deviceEntityMap d = some e → t.deviceEntityMap d = some e
  rows : ∀ row ∈ s.entityDB.entity, row ∈ t.entityDB.entity
  seq : t.entityDB.seq ≤ s.entityDB.seq + n
  group : t.entity_group.length ≤ s.entity_group.length + g
  propertySeq : t.propertySeq ≤ s.propertySeq + m
  wrote : s.propertySeq + m < 2 ^ 32 → Wrote l s t

variable {n n' g g' m m' : Nat}

theorem Effect.refl (hs : Good s) : Effect [] 0 0 0 s s where
  good := hs
  kept _ _ := id
  rows _ := id
  seq := Nat.le_refl _
  group := Nat.le_refl _
  propertySeq := Nat.le_refl _
  wrote _ := Wrote.refl s

theorem Effect.trans (h : Effect l n g m s u) (h' : Effect l' n' g' m' u t) :
    Effect (l ++ l') (n + n') (g + g') (m + m') s t where
  good := h'.good
  kept d e he := h'.kept d e (h.kept d e he)
  rows row hrow := h'.rows row (h.rows row hrow)
  seq := by
    have := h.seq
    have := h'.seq
    omega
  group := by
    have := h.group
    have := h'.group
    omega
  propertySeq := by
    have := h.propertySeq
    have := h'.propertySeq
    omega
  wrote hseq := by
    have := h.propertySeq
    exact (h.wrote (by omega)).trans (h'.wrote (by omega))

theorem Effect.mono (h : Effect l n g m s t) (hn : n ≤ n') (hg : g ≤ g') (hm : m ≤ m') :
    Effect l n' g' m' s t where
  good := h.good
  kept := h.kept
  rows := h.rows
  seq := h.seq.trans (Nat.add_le_add_left hn _)
  group := h.group.trans (Nat.add_le_add_left hg _)
  propertySeq := h.propertySeq.trans (Nat.add_le_add_left hm _)
  wrote hseq := h.wrote (by omega)

/-! ## Properties -/

theorem Good.deleteProperty (hs : Good s) (i : UInt32) : Good (s.deleteProperty i) where
  tidy := (keeps_deleteProperty s i).tidy hs.tidy
  texts := hs.texts
  bound := hs.bound
  group := hs.group
  devices := hs.devices
  propertyIDs := hs.propertyIDs.sublist (List.filter_sublist.map _)
  propertyBound row hrow := hs.propertyBound row (List.mem_filter.mp hrow).1

/-- The other rows that were found are still at their place. -/
theorem rowsAt_delete_rest {r : PropertyRow} {rows : List PropertyRow}
    (hmem : ∀ r' ∈ r :: rows, r' ∈ s.rowsAt p)
    (hnodup : ((r :: rows).map PropertyRow.id).Nodup) :
    ∀ r' ∈ rows, r' ∈ (s.deleteProperty r.id).rowsAt p := by
  intro r' hr'
  rw [List.map_cons, List.nodup_cons] at hnodup
  rw [rowsAt_deleteProperty, List.mem_filter, decide_eq_true_eq]
  refine ⟨hmem r' (List.mem_cons_of_mem _ hr'), ?_⟩
  intro hid
  exact hnodup.1 (hid ▸ List.mem_map_of_mem hr')

/-- The rows of one place are deleted up to the first one that is equal. -/
theorem deleteUnequal_spec (value : PropertyValue) (rows : List PropertyRow) (hs : Good s)
    (hmem : ∀ r ∈ rows, r ∈ s.rowsAt p) (hnodup : (rows.map PropertyRow.id).Nodup) :
    let r := deleteUnequal value s rows
    Good r.1 ∧ r.1 = { s with property := r.1.property } ∧
      (∀ q, q ≠ p → r.1.values q = s.values q) ∧ (r.2 = true → value ∈ r.1.values p) := by
  induction rows generalizing s with
  | nil => exact ⟨hs, rfl, fun _ _ => rfl, nofun⟩
  | cons r rows ih =>
    have hr := hmem r List.mem_cons_self
    unfold deleteUnequal
    split_ifs with hvalue
    · refine ⟨hs, rfl, fun _ _ => rfl, fun _ => ?_⟩
      exact List.mem_map.mpr ⟨r, hr, hvalue⟩
    · obtain ⟨hgood, hsame, hothers, hfound⟩ := ih (hs.deleteProperty r.id)
        (rowsAt_delete_rest hmem hnodup) (List.nodup_cons.mp hnodup).2
      refine ⟨hgood, hsame, ?_, hfound⟩
      intro q hq
      exact (hothers q hq).trans (values_delete_ne hs.propertyIDs hr hq)

/-- What is added at a place that has nothing becomes its value, when its id is free. -/
theorem addNewProperty_effect {k : UInt32} (hu : Good u)
    (hempty : key ∈ attributeKeys → u.values (k, key) = [])
    (htidy : Tidy (u.addNewPropertyForEntity k key value)) :
    Effect [((k, key), value)] 0 0 1 u (u.addNewPropertyForEntity k key value) := by
  have hle : (UInt32.ofNat (u.propertySeq + 1)).toNat ≤ u.propertySeq + 1 := by
    rw [UInt32.toNat_ofNat']
    exact Nat.mod_le ..
  by_cases hany : u.property.any fun row => row.id = UInt32.ofNat (u.propertySeq + 1)
  · have heq : u.addNewPropertyForEntity k key value =
        { u with propertySeq := u.propertySeq + 1 } := if_pos hany
    rw [heq] at htidy ⊢
    refine
      { good := { hu with tidy := htidy, propertyBound := ?_ }, kept := fun _ _ => id
        rows := fun _ => id, seq := Nat.le_refl _, group := Nat.le_refl _, propertySeq := Nat.le_refl _, wrote := ?_ }
    · exact fun row hrow => Nat.le_succ_of_le (hu.propertyBound row hrow)
    · -- no id that was given before is that of the sequence
      intro hseq
      obtain ⟨row, hrow, hid⟩ := List.any_eq_true.mp hany
      have hbound := hu.propertyBound row hrow
      rw [of_decide_eq_true hid, UInt32.toNat_ofNat_of_lt' hseq] at hbound
      omega
  · have hvalues := fun p => values_addNewProperty (p := p) k key value hany
    have hnew : (u.addNewPropertyForEntity k key value).property = u.property ++
        [{ id := UInt32.ofNat (u.propertySeq + 1), entity_id := bindInt k
           key_id := mapDatasetKeyForID key, value := value }] := by
      unfold addNewPropertyForEntity
      rw [if_neg hany]
    have hset : SetOn k u (u.addNewPropertyForEntity k key value) := setOn_addNewProperty u
    have hseq : (u.addNewPropertyForEntity k key value).propertySeq = u.propertySeq + 1 := by
      unfold addNewPropertyForEntity
      rw [if_neg hany]
    generalize u.addNewPropertyForEntity k key value = t at *
    have hids := hset.ids hu.propertyIDs
    obtain ⟨property, propertySeq, rfl⟩ : ∃ property propertySeq,
        t = { u with property := property, propertySeq := propertySeq } := ⟨_, _, hset.same⟩
    simp only at hnew hseq
    subst hnew hseq
    refine
      { good := { hu with tidy := htidy, propertyIDs := hids, propertyBound := ?_ }
        kept := fun _ _ => id, rows := fun _ => id, seq := Nat.le_refl _
        group := Nat.le_refl _, propertySeq := Nat.le_refl _, wrote := ?_ }
    · intro row hrow
      rcases List.mem_append.mp hrow with hrow | hrow
      · exact Nat.le_succ_of_le (hu.propertyBound row hrow)
      · cases List.mem_singleton.mp hrow
        exact hle
    · intro _ p hkey
      rw [hvalues, given_singleton]
      split_ifs with hp
      · subst hp
        simp [hempty hkey]
      · simp

/-- A property with another key is none of an attribute, also when its id is not free. -/
theorem wrote_addNewProperty_other {k : UInt32} (hkey : key ∉ attributeKeys) (s : CUSchemaDB) :
    Wrote [] s (s.addNewPropertyForEntity k key value) := by
  intro p hp
  by_cases hany : s.property.any fun row => row.id = UInt32.ofNat (s.propertySeq + 1)
  · have heq : s.addNewPropertyForEntity k key value =
        { s with propertySeq := s.propertySeq + 1 } := if_pos hany
    rw [heq]
    rfl
  · have hne : p ≠ (k, key) := by
      rintro rfl
      exact hkey hp
    rw [values_addNewProperty k key value hany, if_neg hne, List.append_nil]
    rfl

theorem fits_of_addProperty (h : s.addProperty entity key value = some t) :
    fits value.strValue = true ∧ t = s.addNewPropertyForEntity entity.entityID key value := by
  unfold addProperty at h
  split_ifs at h with hfit
  exact ⟨hfit, (Option.some.inj h).symm⟩

/-- The value that is set is the only one, for any values that were there. -/
theorem addUnique_effect (hs : Good s) (hkey : key ∈ attributeKeys) (hsend : Sendable key value)
    (h : s.addUniqueAttributeProperty entity key value true = some t) :
    fits value.strValue = true ∧
      Effect [((entity.entityID, key), value)] 0 0 1 s t := by
  have htidy : Tidy t := (keeps_addUnique h fun row _ hid hrow =>
    .inr ⟨key, hkey, hid, hrow ▸ hsend⟩).tidy hs.tidy
  unfold addUniqueAttributeProperty at h
  rw [getProperty_rowsAt] at h
  have hids : ((s.rowsAt (entity.entityID, key)).map PropertyRow.id).Nodup :=
    hs.propertyIDs.sublist (List.filter_sublist.map _)
  obtain ⟨hgood, hsame, hothers, hfound⟩ :=
    deleteUnequal_spec value _ hs (fun _ => id) hids
  have hleft := (deleteUnequal_keeps value (s.rowsAt (entity.entityID, key)) s).2
  simp only [if_true] at h
  generalize deleteUnequal value s (s.rowsAt (entity.entityID, key)) = r at *
  obtain ⟨u, found⟩ := r
  dsimp only at *
  cases found with
  | true =>
    simp only [if_true, Option.some.injEq] at h
    subst h
    have hmem := hfound rfl
    have hone : u.values (entity.entityID, key) = [value] := by
      have hlen := htidy.unique (entity.entityID, key) hkey
      rcases hv : u.values (entity.entityID, key) with _ | ⟨a, _ | ⟨b, rest⟩⟩
      · rw [hv] at hmem
        cases hmem
      · rw [hv] at hmem
        rw [List.mem_singleton.mp hmem]
      · simp [hv] at hlen
    obtain ⟨row, hrow, hvalue⟩ := List.mem_map.mp hmem
    refine ⟨hvalue ▸ htidy.fit row (mem_rowsAt.mp hrow).1, ?_⟩
    obtain ⟨property, rfl⟩ : ∃ property, u = { s with property := property } := ⟨_, hsame⟩
    refine
      { good := hgood, kept := fun _ _ => id, rows := fun _ => id, seq := Nat.le_refl _
        group := Nat.le_refl _, propertySeq := Nat.le_succ _, wrote := ?_ }
    intro _ p _
    rw [given_singleton]
    split_ifs with hp
    · rw [hp, hone]
      rfl
    · rw [hothers p hp]
      rfl
  | false =>
    obtain ⟨hfit, rfl⟩ := fits_of_addProperty h
    refine ⟨hfit, ?_⟩
    -- a row that is left would be one of those that were deleted
    have hempty : u.values (entity.entityID, key) = [] := by
      unfold values
      rw [List.map_eq_nil_iff, List.eq_nil_iff_forall_not_mem]
      intro row hrow
      obtain ⟨hmem, hplace⟩ := mem_rowsAt.mp hrow
      obtain ⟨hmem, hne⟩ := hleft rfl row hmem
      exact hne row (mem_rowsAt.mpr ⟨hmem, hplace⟩) rfl
    have hadd := addNewProperty_effect hgood (fun _ => hempty) htidy
    obtain ⟨property, rfl⟩ : ∃ property, u = { s with property := property } := ⟨_, hsame⟩
    refine { hadd with wrote := fun hseq p hp => ?_ }
    have hwrote := hadd.wrote hseq p hp
    rw [given_singleton] at hwrote ⊢
    rw [hwrote]
    split_ifs with hne
    · rfl
    · exact hothers p hne

/-- The values of one attribute, one after the other. -/
def placed (entity : Entity) (values : List (DatasetKey × PropertyValue)) :
    List (Place × PropertyValue) :=
  values.map fun v => ((entity.entityID, v.1), v.2)

theorem addUniques_effect {values : List (DatasetKey × PropertyValue)} (hs : Good s)
    (hvalues : ∀ v ∈ values, v.1 ∈ attributeKeys ∧ Sendable v.1 v.2)
    (h : addUniqueAttributeProperties entity s values = some t) :
    (∀ v ∈ values, fits v.2.strValue = true) ∧
      Effect (placed entity values) 0 0 values.length s t := by
  induction values generalizing s with
  | nil =>
    cases h
    exact ⟨nofun, Effect.refl hs⟩
  | cons v values ih =>
    obtain ⟨u, hu, h⟩ := Option.bind_eq_some_iff.mp h
    obtain ⟨hkey, hsend⟩ := hvalues v List.mem_cons_self
    obtain ⟨hfit, hone⟩ := addUnique_effect hs hkey hsend hu
    obtain ⟨hfits, hrest⟩ := ih hone.good (fun v' hv' => hvalues v' (List.mem_cons_of_mem _ hv')) h
    refine ⟨List.forall_mem_cons.mpr ⟨hfit, hfits⟩, ?_⟩
    exact (hone.trans hrest).mono le_rfl le_rfl (Nat.add_comm ..).le

end CUSchemaDB

end chaos.common.data
