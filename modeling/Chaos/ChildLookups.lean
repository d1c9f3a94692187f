-- The children of a device that are looked up again, each by its text. One whose text selects other
-- entities too is taken for a new one, while there are ids.
import Chaos.SchemaWrites

namespace chaos.common.data

open chaos.edb

namespace CUSchemaDB

section Again

variable (s : CUSchemaDB) (memory : UInt64)

/-- The text of the attribute selects no other one. -/
def alone (i : UInt32) : Bool :=
  s.entityDB.entity.any fun row => row.id = i && row.str_value.any fun str =>
    s.entityDB.entity.countP (SQLiteEntityDB.selects (kivStr .ATTRIBUTE_NAME memory str)) = 1

/-- The next ids are free, as many as there are attributes whose texts select others too. -/
def IdsFree (ids : List UInt32) : Prop :=
  ∀ j < ids.countP (fun i => !s.alone memory i), ¬ s.HasRow (UInt32.ofNat (s.entityDB.seq + 1 + j))

/-- What the first attribute has of these keys. When its text selects others, a new one is read. -/
def firstProperties (keyIDs : List DatasetKey) : List UInt32 → List PropertyRow
  | [] => []
  | i :: _ => if s.alone memory i then s.getPropertyByKeyID ⟨i, []⟩ keyIDs else []

end Again

variable {s t u : CUSchemaDB} {e : Entity} {memory : UInt64} {str : List Char} {i k : UInt32}
  {ids : List UInt32} {childs : List Entity} {row : EntityRow} {keyID : DatasetKey}

/-! ## The children that are looked up again -/

/-- Only entities with new ids are added. -/
structure AddsRows (s t : CUSchemaDB) : Prop where
  same : t = { s with entityDB := t.entityDB }
  rows : ∀ row ∈ s.entityDB.entity, row ∈ t.entityDB.entity
  fresh : ∀ row ∈ t.entityDB.entity, row ∈ s.entityDB.entity ∨ ¬ s.HasRow row.id

theorem AddsRows.refl (s : CUSchemaDB) : AddsRows s s := ⟨rfl, fun _ => id, fun _ => .inl⟩

theorem AddsRows.hasRow (h : AddsRows s t) (hk : s.HasRow k) : t.HasRow k := by
  obtain ⟨row, hrow, hid⟩ := hk
  exact ⟨row, h.rows row hrow, hid⟩

theorem AddsRows.trans (h : AddsRows s u) (h' : AddsRows u t) : AddsRows s t where
  same := by rw [h'.same, h.same]
  rows row hrow := h'.rows row (h.rows row hrow)
  fresh row hrow := by
    rcases h'.fresh row hrow with hrow | hnew
    · exact h.fresh row hrow
    · exact .inr fun hold => hnew (h.hasRow hold)

theorem addsRows_newEntity (h : s.getNewEntityInstance keyID memory str = some (t, e)) :
    AddsRows s t := by
  rcases newEntity_one_or_new h with ⟨row, -, rfl, -⟩ | ⟨-, hfree, rfl, -⟩
  · exact AddsRows.refl t
  · refine ⟨rfl, fun row hrow => mem_addRow.mpr (.inl hrow), fun row hrow => ?_⟩
    rcases mem_addRow.mp hrow with hrow | rfl
    · exact .inl hrow
    · exact .inr hfree

theorem addsRows_getChilds {ids : List UInt32} {childs : List Entity}
    (h : getChilds keyID memory s ids = some (t, childs)) :
    AddsRows s t ∧ childs.length = ids.length := by
  induction ids generalizing s t childs with
  | nil =>
    cases h
    exact ⟨AddsRows.refl _, rfl⟩
  | cons i ids ih =>
    simp only [getChilds, Option.bind_eq_bind, Option.bind_eq_some_iff] at h
    obtain ⟨row, -, str, -, ⟨u, child⟩, hu, ⟨v, rest⟩, hv, heq⟩ := h
    cases heq
    obtain ⟨hmore, hlen⟩ := ih hv
    refine ⟨(addsRows_newEntity hu).trans hmore, ?_⟩
    rw [List.length_cons, List.length_cons, hlen]

theorem selects_self {row : EntityRow} (hkey : row.key_id = bindInt (mapDatasetKeyForID keyID))
    (hstr : row.str_value = some str) :
    SQLiteEntityDB.selects (kivStr keyID memory str) row = true := by
  simp [SQLiteEntityDB.selects, kivStr, hkey, hstr, SQLiteEntityDB.like_refl]

/-- A lookup of a text sees the key and the text of a row only. -/
theorem selects_congr {row row' : EntityRow} (hkey : row.key_id = row'.key_id)
    (hstr : row.str_value = row'.str_value) :
    SQLiteEntityDB.selects (kivStr keyID memory str) row =
      SQLiteEntityDB.selects (kivStr keyID memory str) row' := by
  unfold SQLiteEntityDB.selects
  rw [hkey, hstr]
  rfl

theorem Rooted.key (hs : Rooted s) {row : EntityRow} (hrow : row ∈ s.entityDB.entity)
    (hk : s.IsAttributeID row.id) : row.key_id = bindInt (mapDatasetKeyForID .ATTRIBUTE_NAME) := by
  obtain ⟨row', hrow', hid, hkey⟩ := hk
  rwa [hs.ids row hrow row' hrow' hid.symm]

/-- An attribute is found again as it is, or it is taken for a new one, when its text also selects
others. -/
theorem getChilds_own {ids : List UInt32} {childs : List Entity} (hs : Rooted s)
    (hids : ∀ i ∈ ids, s.IsAttributeID i)
    (h : getChilds .ATTRIBUTE_NAME memory s ids = some (t, childs)) :
    ∀ c ∈ childs, c.entityID ∈ ids ∨ ¬ s.HasRow c.entityID := by
  induction ids generalizing s t childs with
  | nil =>
    cases h
    exact nofun
  | cons i ids ih =>
    simp only [getChilds, Option.bind_eq_bind, Option.bind_eq_some_iff] at h
    obtain ⟨row, hfind, str, hstr, ⟨u, child⟩, hu, ⟨v, rest⟩, hv, heq⟩ := h
    cases heq
    have hrow := List.mem_of_find?_eq_some hfind
    have hid : row.id = i := by simpa using List.find?_some hfind
    have hadds := addsRows_newEntity hu
    have hwrites := (writes_newEntity (.inr rfl) hu).1
    obtain ⟨hfirst, hrest⟩ := List.forall_mem_cons.mp hids
    refine List.forall_mem_cons.mpr ⟨?_, fun c hc => ?_⟩
    · rcases newEntity_one_or_new hu with ⟨row', hsel, rfl, rfl⟩ | ⟨-, hfree, rfl, rfl⟩
      · have hself : SQLiteEntityDB.selects (kivStr .ATTRIBUTE_NAME memory str) row = true :=
          selects_self (hs.key hrow (hid ▸ hfirst)) hstr
        have hmem := List.mem_filter.mpr ⟨hrow, hself⟩
        rw [hsel, List.mem_singleton] at hmem
        exact .inl (hmem ▸ hid ▸ List.mem_cons_self)
      · exact .inr hfree
    · rcases ih (hs.writes hwrites) (fun i' hi' => (hrest i' hi').writes hwrites) hv c hc
        with hmem | hnew
      · exact .inl (List.mem_cons_of_mem _ hmem)
      · exact .inr fun hold => hnew (hadds.hasRow hold)

/-- What was not in the tables has no properties. -/
theorem Rooted.unknown (hs : Rooted s) (hk : ¬ s.HasRow k) {row : PropertyRow}
    (hrow : row ∈ s.property) : row.entity_id ≠ bindInt k := by
  intro heq
  obtain ⟨k', hk', hid⟩ := hs.properties row hrow
  exact hk (bindInt_inj (hid.symm.trans heq) ▸ hk')

/-! ## The ids that they take -/

theorem alone_iff (hs : Rooted s) (hrow : row ∈ s.entityDB.entity)
    (hstr : row.str_value = some str) : s.alone memory row.id = true ↔
      s.entityDB.entity.countP
        (SQLiteEntityDB.selects (kivStr .ATTRIBUTE_NAME memory str)) = 1 := by
  unfold alone
  rw [List.any_eq_true]
  constructor
  · rintro ⟨row', hrow', h⟩
    rw [Bool.and_eq_true, decide_eq_true_eq] at h
    obtain rfl := hs.ids row' hrow' row hrow h.1
    simpa [hstr] using h.2
  · intro h
    exact ⟨row, hrow, by simpa [hstr] using h⟩

theorem filter_of_countP {selected : EntityRow → Bool} (hrow : row ∈ s.entityDB.entity)
    (hself : selected row = true) (h : s.entityDB.entity.countP selected = 1) :
    s.entityDB.entity.filter selected = [row] := by
  rw [List.countP_eq_length_filter, List.length_eq_one_iff] at h
  obtain ⟨row', h⟩ := h
  have hmem := List.mem_filter.mpr ⟨hrow, hself⟩
  rw [h, List.mem_singleton] at hmem
  rw [h, hmem]

theorem getChilds_cons (hs : Good s ∧ Rooted s) (hi : s.IsAttributeID i) (memory : UInt64) :
    ∃ row ∈ s.entityDB.entity, row.id = i ∧ ∃ str, row.str_value = some str ∧
      SQLiteEntityDB.selects (kivStr .ATTRIBUTE_NAME memory str) row = true ∧
      ∀ ids, getChilds .ATTRIBUTE_NAME memory s (i :: ids) =
        (s.getNewEntityInstance .ATTRIBUTE_NAME memory str).bind fun r =>
          (getChilds .ATTRIBUTE_NAME memory r.1 ids).map fun q => (q.1, r.2 :: q.2) := by
  obtain ⟨row, str, hfind, hrow, hid, hstr⟩ := exists_row hs.1 hi.hasRow
  refine ⟨row, hrow, hid, str, hstr, selects_self (hs.2.key hrow (hid ▸ hi)) hstr, fun ids => ?_⟩
  simp only [getChilds, hfind, hstr, Option.bind_eq_bind, Option.bind_some]
  refine Option.bind_congr fun r _ => ?_
  cases getChilds .ATTRIBUTE_NAME memory r.1 ids <;> rfl

/-- A new row has the text of an attribute that is there, so that the others do not see it. -/
theorem alone_addRow (hs : Good s ∧ Rooted s) (hfree : ¬ s.HasRow s.entityDB.nextID)
    (hrow : row ∈ s.entityDB.entity) (hstr : row.str_value = some str)
    (hkey : row.key_id = bindInt (mapDatasetKeyForID .ATTRIBUTE_NAME))
    (hshared : s.alone memory row.id = false) (hi : s.IsAttributeID i) :
    (s.addRow .ATTRIBUTE_NAME str).alone memory i = s.alone memory i := by
  obtain ⟨row', hrow', rfl, hkey'⟩ := hi
  obtain ⟨str', hstr'⟩ := Option.isSome_iff_exists.mp (hs.1.texts row' hrow')
  have hadd : Rooted (s.addRow .ATTRIBUTE_NAME str) := hs.2.write (.row (.inr rfl) hfree)
  have hselects : SQLiteEntityDB.selects (kivStr .ATTRIBUTE_NAME memory str')
      (textRow .ATTRIBUTE_NAME str s.entityDB.nextID) =
      SQLiteEntityDB.selects (kivStr .ATTRIBUTE_NAME memory str') row :=
    selects_congr hkey.symm hstr.symm
  rw [Bool.eq_iff_iff, alone_iff hadd (mem_addRow.mpr (.inl hrow')) hstr',
    alone_iff hs.2 hrow' hstr']
  simp only [addRow, List.countP_append, List.countP_singleton, hselects]
  split_ifs with hsel
  · -- the row itself is selected too, so that none of the two texts selects one row
    refine iff_of_false ?_ ?_
    · have hpos : 0 < s.entityDB.entity.countP
          (SQLiteEntityDB.selects (kivStr .ATTRIBUTE_NAME memory str')) :=
        List.countP_pos_iff.mpr ⟨row, hrow, hsel⟩
      omega
    · intro hone
      have hmem := List.mem_filter.mpr ⟨hrow, hsel⟩
      rw [filter_of_countP hrow' (selects_self hkey' hstr') hone, List.mem_singleton] at hmem
      subst hmem
      rw [(alone_iff hs.2 hrow hstr').mpr hone] at hshared
      cases hshared
  · rfl

/-- When an id is used, so is one of the next 2 ^ 32. -/
theorem lt_of_free {m : Nat} (hi : s.HasRow i)
    (hfree : ∀ j < m, ¬ s.HasRow (UInt32.ofNat (s.entityDB.seq + 1 + j))) : m < 2 ^ 32 := by
  by_contra hle
  have hlt : i.toNat < 2 ^ 32 := i.toNat_lt
  refine hfree ((i.toNat + (2 ^ 32 - (s.entityDB.seq + 1) % 2 ^ 32)) % 2 ^ 32) (by omega) ?_
  have heq : UInt32.ofNat (s.entityDB.seq + 1 +
      (i.toNat + (2 ^ 32 - (s.entityDB.seq + 1) % 2 ^ 32)) % 2 ^ 32) = i := by
    rw [← UInt32.toNat_inj, UInt32.toNat_ofNat']
    omega
  rwa [heq]

theorem hasRow_addRow {keyID : DatasetKey} {k : UInt32} :
    (s.addRow keyID str).HasRow k ↔ s.HasRow k ∨ k = s.entityDB.nextID := by
  constructor
  · rintro ⟨row, hrow, rfl⟩
    rcases mem_addRow.mp hrow with hrow | rfl
    · exact .inl ⟨row, hrow, rfl⟩
    · exact .inr rfl
  · rintro (⟨row, hrow, rfl⟩ | rfl)
    · exact ⟨row, mem_addRow.mpr (.inl hrow), rfl⟩
    · exact ⟨_, mem_addRow.mpr (.inr rfl), rfl⟩

/-- The ids are free after the first one was taken, just when they were free with it. -/
theorem free_addRow {m : Nat} (hi : s.HasRow i) (keyID : DatasetKey) (str : List Char) :
    (¬ s.HasRow s.entityDB.nextID ∧ ∀ j < m, ¬ (s.addRow keyID str).HasRow
      (UInt32.ofNat ((s.addRow keyID str).entityDB.seq + 1 + j))) ↔
    ∀ j < m + 1, ¬ s.HasRow (UInt32.ofNat (s.entityDB.seq + 1 + j)) := by
  have hseq : (s.addRow keyID str).entityDB.seq = s.entityDB.seq + 1 := rfl
  have hnext : s.entityDB.nextID = UInt32.ofNat (s.entityDB.seq + 1 + 0) := rfl
  rw [hseq]
  constructor
  · rintro ⟨hfirst, hrest⟩ j hj
    cases j with
    | zero => exact hfirst
    | succ j =>
      intro hrow
      refine hrest j (by omega) (hasRow_addRow.mpr (.inl ?_))
      rwa [Nat.add_right_comm _ 1 j, Nat.add_assoc _ j 1]
  · intro hall
    have hlt := lt_of_free hi hall
    refine ⟨hall 0 (Nat.succ_pos m), fun j hj hrow => ?_⟩
    rcases hasRow_addRow.mp hrow with hrow | heq
    · refine hall (j + 1) (by omega) ?_
      rwa [← Nat.add_assoc, Nat.add_right_comm _ j 1]
    · rw [hnext, ← UInt32.toNat_inj, UInt32.toNat_ofNat', UInt32.toNat_ofNat'] at heq
      omega

theorem newEntity_alone (hs : Rooted s) (hrow : row ∈ s.entityDB.entity)
    (hstr : row.str_value = some str)
    (hself : SQLiteEntityDB.selects (kivStr .ATTRIBUTE_NAME memory str) row = true)
    (halone : s.alone memory row.id = true) :
    s.getNewEntityInstance .ATTRIBUTE_NAME memory str = some (s, ⟨row.id, str⟩) :=
  getNewEntityInstance_one (filter_of_countP hrow hself ((alone_iff hs hrow hstr).mp halone))

theorem filter_ne_of_shared (hs : Rooted s) (hrow : row ∈ s.entityDB.entity)
    (hstr : row.str_value = some str) (hshared : s.alone memory row.id = false) (row' : EntityRow) :
    s.entityDB.entity.filter
      (SQLiteEntityDB.selects (kivStr .ATTRIBUTE_NAME memory str)) ≠ [row'] := by
  intro hone
  have halone := (alone_iff hs hrow hstr).mpr
    (List.countP_eq_length_filter.trans (congrArg List.length hone))
  rw [hshared] at halone
  cases halone

/-- Attributes are looked up again just when there are ids for those whose texts select others. -/
theorem exists_getChilds_iff (hs : Good s ∧ Rooted s) (hids : ∀ i ∈ ids, s.IsAttributeID i) :
    (∃ r, getChilds .ATTRIBUTE_NAME memory s ids = some r) ↔ s.IdsFree memory ids := by
  induction ids generalizing s with
  | nil => exact iff_of_true ⟨_, rfl⟩ (by simp [IdsFree])
  | cons i ids ih =>
    obtain ⟨hi, hrest⟩ := List.forall_mem_cons.mp hids
    obtain ⟨row, hrow, rfl, str, hstr, hself, hcons⟩ := getChilds_cons hs hi memory
    rw [hcons]
    cases halone : s.alone memory row.id with
    | true =>
      rw [newEntity_alone hs.2 hrow hstr hself halone]
      simp only [IdsFree, halone, Bool.not_true, Bool.false_eq_true, not_false_eq_true,
        List.countP_cons_of_neg]
      rw [← IdsFree, ← ih hs hrest]
      simp
    | false =>
      have hnew := getNewEntityInstance_new (filter_ne_of_shared hs.2 hrow hstr halone)
      rw [hnew]
      simp only [IdsFree, halone, Bool.not_false, List.countP_cons_of_pos]
      rw [← free_addRow hi.hasRow .ATTRIBUTE_NAME str]
      split_ifs at hnew ⊢ with hused
      · refine iff_of_false ?_ fun h => h.1 hused
        rintro ⟨r, hr⟩
        cases hr
      · have hfree : ¬ s.HasRow s.entityDB.nextID := hused
        have hgood := (newEntity_effect hs.1 hnew).1.good
        have hwrites := (writes_newEntity (.inr rfl) hnew).1
        have hcount : ids.countP (fun i => !(s.addRow .ATTRIBUTE_NAME str).alone memory i) =
            ids.countP fun i => !s.alone memory i := by
          refine List.countP_congr fun i' hi' => ?_
          rw [alone_addRow hs hfree hrow hstr (hs.2.key hrow hi) halone (hrest i' hi')]
        have hih := ih ⟨hgood, hs.2.writes hwrites⟩ fun i' hi' => (hrest i' hi').writes hwrites
        rw [IdsFree, hcount] at hih
        simp only [Option.bind_some, hfree, not_false_eq_true, true_and]
        rw [← hih]
        simp

theorem getProperty_of_id {keyIDs : List DatasetKey} {e' : Entity} (h : e.entityID = e'.entityID) :
    s.getPropertyByKeyID e keyIDs = s.getPropertyByKeyID e' keyIDs := by
  unfold getPropertyByKeyID
  rw [h]

/-- The properties that are read of the first one. -/
theorem getChilds_first (hs : Good s ∧ Rooted s) (hids : ∀ i ∈ ids, s.IsAttributeID i)
    (h : getChilds .ATTRIBUTE_NAME memory s ids = some (t, childs)) (keyIDs : List DatasetKey) :
    (childs.head?.elim [] fun c => t.getPropertyByKeyID c keyIDs) =
      s.firstProperties memory keyIDs ids := by
  have hsame : t.property = s.property := by rw [(addsRows_getChilds h).1.same]
  have hprops : ∀ c, t.getPropertyByKeyID c keyIDs = s.getPropertyByKeyID c keyIDs := by
    intro c
    unfold getPropertyByKeyID
    rw [hsame]
  cases ids with
  | nil =>
    cases h
    rfl
  | cons i ids =>
    obtain ⟨row, hrow, rfl, str, hstr, hself, hcons⟩ :=
      getChilds_cons hs (hids i List.mem_cons_self) memory
    rw [hcons] at h
    obtain ⟨⟨u, c⟩, hu, h⟩ := Option.bind_eq_some_iff.mp h
    obtain ⟨⟨v, rest⟩, hv, heq⟩ := Option.map_eq_some_iff.mp h
    cases heq
    simp only [List.head?_cons, Option.elim_some, hprops, firstProperties]
    split_ifs with halone
    · cases (newEntity_alone hs.2 hrow hstr hself halone).symm.trans hu
      exact getProperty_of_id rfl
    · rw [Bool.not_eq_true] at halone
      rcases newEntity_one_or_new hu with ⟨row', hone, -, -⟩ | ⟨-, hfree, -, rfl⟩
      · exact absurd hone (filter_ne_of_shared hs.2 hrow hstr halone row')
      · refine List.filter_eq_nil_iff.mpr fun property hproperty => ?_
        simp [hs.2.unknown hfree hproperty]

end CUSchemaDB

end chaos.common.data
