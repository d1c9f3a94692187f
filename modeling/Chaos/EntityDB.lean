-- The table of the entities in the SQLite database. An entity is looked up by its key and its
-- value, and added when the lookup does not find exactly one. The lookup and the table do not
-- agree on what the same value is, so that the answer depends on what else is stored.
import Chaos.Runs

namespace chaos.edb

open runs

/-! ## What SQLite does -/

/-- `LIKE` with the pattern first: `%` is any text, `_` any character, and the letters of ASCII
are the same in both cases. -/
def like : List Char → List Char → Bool
  | [], str => str.isEmpty
  | '%' :: pattern, str => (List.range (str.length + 1)).any fun n => like pattern (str.drop n)
  | '_' :: _, [] => false
  | '_' :: pattern, _ :: str => like pattern str
  | _ :: _, [] => false
  | c :: pattern, c' :: str => c.toLower == c'.toLower && like pattern str

/-- Two columns are equal only when neither is NULL. -/
def columnEq {α : Type*} [DecidableEq α] : Option α → Option α → Bool
  | some a, some b => a = b
  | _, _ => false

/-- An `uint32_t` that is bound as an `int`. -/
def bindInt (n : UInt32) : Int := n.toInt32.toInt

/-- An `uint32_t` that is bound as an `int64_t`. -/
def bindInt64 (n : UInt32) : Int := n.toNat

/-! ## The model -/

inductive ValueType
  | num
  | double
  | str
  deriving DecidableEq, Repr

/-- The key and the value of an entity. The value is a union: `numValue` is its first eight bytes,
`strValue` its text, which starts with the lowest byte of the number. The bytes after the end of
the text are whatever the memory held. -/
structure KeyIdAndValue where
  type : ValueType
  keyID : UInt32
  numValue : Int64
  strValue : List Char
  overlap : strValue = [] ↔ numValue.toUInt64.toUInt8 = 0

/-- A row of the table. The inserts never set `double_value`. -/
structure EntityRow where
  id : UInt32
  key_id : Int
  key_type : ValueType
  str_value : Option (List Char) := none
  num_value : Option Int64 := none
  double_value : Option UInt64 := none
  deriving DecidableEq

/-- The constraint `UNIQUE(key_id, key_type, str_value, num_value, double_value)`. -/
def EntityRow.sameUnique (a b : EntityRow) : Bool :=
  a.key_id = b.key_id && a.key_type = b.key_type && columnEq a.str_value b.str_value &&
    columnEq a.num_value b.num_value && columnEq a.double_value b.double_value

/-- The table, the sequence of its ids, and the calls that returned an id, with the id. -/
structure SQLiteEntityDB where
  seq : Nat := 0
  entity : List EntityRow := []
  answers : List (KeyIdAndValue × UInt32) := []

namespace SQLiteEntityDB

/-- Where the lookup selects a row: by the key alone when the first bytes of the value are all
zero, and by `=` or `LIKE` on its column otherwise. -/
def selects (keyInfo : KeyIdAndValue) (row : EntityRow) : Bool :=
  row.key_id = bindInt keyInfo.keyID &&
    (keyInfo.numValue == 0 ||
      match keyInfo.type with
      | .num => row.num_value = some keyInfo.numValue
      | .double => false
      | .str => row.str_value.any fun str_value => like keyInfo.strValue str_value)

def searchEntityByKeyAndValue (db : SQLiteEntityDB) (keyInfo : KeyIdAndValue) :
    Except Int (List UInt32) :=
  if keyInfo.numValue ≠ 0 ∧ keyInfo.type = .double then .error (-1)
  else .ok ((db.entity.filter (selects keyInfo)).map EntityRow.id)

/-- The next id of the sequence, of which the code reads 32 bits. -/
def nextID (db : SQLiteEntityDB) : UInt32 := UInt32.ofNat (db.seq + 1)

/-- The row that `getIDForEntity` inserts. -/
def newRow (keyInfo : KeyIdAndValue) (id : UInt32) : EntityRow :=
  match keyInfo.type with
  | .num =>
    { id := id, key_id := bindInt64 keyInfo.keyID, key_type := .num
      num_value := some keyInfo.numValue }
  | _ =>
    { id := id, key_id := bindInt64 keyInfo.keyID, key_type := keyInfo.type
      str_value := some keyInfo.strValue }

/-- An insert fails when the id or the unique columns are already there. -/
def insert (db : SQLiteEntityDB) (row : EntityRow) : Except Int SQLiteEntityDB :=
  if db.entity.any (fun r => r.id = row.id || r.sameUnique row) then .error 19
  else .ok { db with entity := db.entity ++ [row] }

def getIDForEntity (db : SQLiteEntityDB) (keyInfo : KeyIdAndValue) :
    SQLiteEntityDB × Except Int UInt32 :=
  match db.searchEntityByKeyAndValue keyInfo with
  | .error err => (db, .error err)
  | .ok [id] => (db, .ok id)
  | .ok _ =>
    if keyInfo.type = .double then (db, .error (-1))
    else
      let id := db.nextID
      let db := { db with seq := db.seq + 1 }
      match db.insert (newRow keyInfo id) with
      | .error err => (db, .error err)
      | .ok db => (db, .ok id)

/-- A call with a string or an integer, with its answer written down. -/
def step (db : SQLiteEntityDB) (keyInfo : { k : KeyIdAndValue // k.type ≠ .double }) :
    Option SQLiteEntityDB :=
  match db.getIDForEntity keyInfo with
  | (db, .ok id) => some { db with answers := db.answers ++ [(keyInfo.1, id)] }
  | (db, .error _) => some db

end SQLiteEntityDB

/-! ## What is claimed -/

/-- A value of an entity, with its type. -/
inductive Value
  | num (numValue : Int64)
  | double (bits : Int64)
  | str (strValue : List Char)
  deriving DecidableEq

/-- The key id, the type and the value of a call. -/
def KeyIdAndValue.content (keyInfo : KeyIdAndValue) : UInt32 × Value :=
  (keyInfo.keyID, match keyInfo.type with
    | .num => .num keyInfo.numValue
    | .double => .double keyInfo.numValue
    | .str => .str keyInfo.strValue)

/-- The columns of a row that say which entity it is. -/
def EntityRow.columns (row : EntityRow) : Int × ValueType × Option (List Char) × Option Int64 :=
  (row.key_id, row.key_type, row.str_value, row.num_value)

namespace SQLiteEntityDB

/-- Two calls got the same id just when they were made with the same key, type and value, and no
entity is in the table twice. -/
structure Identity (db : SQLiteEntityDB) : Prop where
  one_id : ∀ a ∈ db.answers, ∀ b ∈ db.answers, a.2 = b.2 ↔ a.1.content = b.1.content
  one_row : (db.entity.map EntityRow.columns).Nodup

/-- The entity of a call is in the table. -/
def Stored (db : SQLiteEntityDB) (keyInfo : KeyIdAndValue) : Prop :=
  ∃ row ∈ db.entity, row.columns = (newRow keyInfo 0).columns

/-- The lookup of the call selects exactly one row just when the entity of the call is stored, or
it is stored and the ids of the sequence are used up. -/
structure Fits (db : SQLiteEntityDB) (keyInfo : { k : KeyIdAndValue // k.type ≠ .double }) :
    Prop where
  sound : db.entity.countP (selects keyInfo) = 1 → db.Stored keyInfo
  complete : db.Stored keyInfo →
    db.entity.countP (selects keyInfo) = 1 ∨ ∃ row ∈ db.entity, row.id = db.nextID

/-! ## The rows -/

theorem like_refl (str : List Char) : like str str = true := by
  induction str with
  | nil => rfl
  | cons c str ih =>
    unfold like
    split
    · cases ‹c :: str = []›
    · rename_i pattern heq
      cases heq
      rw [List.any_eq_true]
      exact ⟨1, by simp, ih⟩
    · cases ‹c :: str = []›
    · rename_i pattern heq heq'
      cases heq
      cases heq'
      exact ih
    · cases ‹c :: str = []›
    · rename_i heq heq'
      cases heq
      cases heq'
      simp [ih]

variable {db t : SQLiteEntityDB} {keyInfo keyInfo' : KeyIdAndValue}

theorem columns_newRow (keyInfo : KeyIdAndValue) (id id' : UInt32) :
    (newRow keyInfo id).columns = (newRow keyInfo id').columns := by
  unfold newRow
  cases keyInfo.type <;> rfl

/-- The columns of a row say the key, the type and the value of the call that inserted it. -/
theorem columns_eq_iff (h : keyInfo.type ≠ .double) (h' : keyInfo'.type ≠ .double)
    (id id' : UInt32) : (newRow keyInfo id).columns = (newRow keyInfo' id').columns ↔
      keyInfo.content = keyInfo'.content := by
  have hkey : bindInt64 keyInfo.keyID = bindInt64 keyInfo'.keyID ↔
      keyInfo.keyID = keyInfo'.keyID := by
    simp [bindInt64, UInt32.toNat_inj]
  unfold newRow EntityRow.columns KeyIdAndValue.content
  cases ht : keyInfo.type <;> cases ht' : keyInfo'.type <;> simp_all

theorem newRow_key_id (keyInfo : KeyIdAndValue) (id : UInt32) :
    (newRow keyInfo id).key_id = bindInt64 keyInfo.keyID := by
  unfold newRow
  cases keyInfo.type <;> rfl

theorem newRow_id (keyInfo : KeyIdAndValue) (id : UInt32) : (newRow keyInfo id).id = id := by
  unfold newRow
  cases keyInfo.type <;> rfl

/-- `double_value` is NULL in every row that is inserted, so the unique constraint forbids
nothing. -/
theorem not_sameUnique_newRow (row : EntityRow) (keyInfo : KeyIdAndValue) (id : UInt32) :
    row.sameUnique (newRow keyInfo id) = false := by
  have hnull : (newRow keyInfo id).double_value = none := by
    unfold newRow
    cases keyInfo.type <;> rfl
  have hcolumn : columnEq row.double_value none = false := by
    cases row.double_value <;> rfl
  unfold EntityRow.sameUnique
  rw [hnull, hcolumn, Bool.and_false]

/-- A key that is bound as an `int` and not negative is bound as itself. -/
theorem bindInt_eq {n : UInt32} (h : 0 ≤ bindInt n) : bindInt n = bindInt64 n := by
  change n.toBitVec.toInt = (n.toBitVec.toNat : Int)
  change 0 ≤ n.toBitVec.toInt at h
  rw [BitVec.toInt_eq_toNat_cond] at h ⊢
  have hlt := n.toBitVec.isLt
  split_ifs at h ⊢ <;> omega

/-- A row with the columns of a call is selected by the lookup of the call, when the lookup selects
any row at all that was inserted. -/
theorem selects_own {row other : EntityRow} (hd : keyInfo.type ≠ .double)
    (hrow : row.columns = (newRow keyInfo 0).columns) (hother : 0 ≤ other.key_id)
    (hsel : selects keyInfo other = true) : selects keyInfo row = true := by
  unfold selects at hsel ⊢
  rw [Bool.and_eq_true, decide_eq_true_eq] at hsel
  have hbind : bindInt keyInfo.keyID = bindInt64 keyInfo.keyID := bindInt_eq (hsel.1 ▸ hother)
  rw [hbind]
  unfold EntityRow.columns newRow at hrow
  cases htype : keyInfo.type with
  | num =>
    simp only [htype, Prod.mk.injEq] at hrow
    simp [hrow.1, hrow.2.2.2]
  | double => exact absurd htype hd
  | str =>
    simp only [htype, Prod.mk.injEq] at hrow
    simp [hrow.1, hrow.2.2.1, like_refl]

/-! ## What a call does -/

theorem searchEntity_eq (db : SQLiteEntityDB) (hd : keyInfo.type ≠ .double) :
    db.searchEntityByKeyAndValue keyInfo
      = .ok ((db.entity.filter (selects keyInfo)).map EntityRow.id) := by
  unfold searchEntityByKeyAndValue
  rw [if_neg (fun h => hd h.2)]

/-- The id of a new row is all that an insert can fail on. -/
theorem insert_newRow (db : SQLiteEntityDB) (keyInfo : KeyIdAndValue) (id : UInt32) :
    db.insert (newRow keyInfo id) = if ∃ row ∈ db.entity, row.id = id then .error 19
      else .ok { db with entity := db.entity ++ [newRow keyInfo id] } := by
  unfold insert
  simp only [not_sameUnique_newRow, newRow_id, Bool.or_false, List.any_eq_true,
    decide_eq_true_eq]

/-- What a call does when its lookup does not select exactly one row. -/
def addEntity (db : SQLiteEntityDB) (keyInfo : KeyIdAndValue) : SQLiteEntityDB :=
  if ∃ row ∈ db.entity, row.id = db.nextID then { db with seq := db.seq + 1 }
  else
    { seq := db.seq + 1, entity := db.entity ++ [newRow keyInfo db.nextID]
      answers := db.answers ++ [(keyInfo, db.nextID)] }

/-- A call answers the one row that its lookup selects, or it tries to add a row. -/
theorem step_cases {k : { k : KeyIdAndValue // k.type ≠ .double }} (ht : db.step k = some t) :
    (∃ row, db.entity.filter (selects k) = [row] ∧
      t = { db with answers := db.answers ++ [(k.1, row.id)] }) ∨
    (db.entity.countP (selects k) ≠ 1 ∧ t = db.addEntity k) := by
  unfold step getIDForEntity at ht
  rw [searchEntity_eq db k.2] at ht
  rw [List.countP_eq_length_filter]
  rcases hsel : db.entity.filter (selects k) with _ | ⟨row, _ | ⟨row', rows⟩⟩
  · refine .inr ⟨by simp, ?_⟩
    simp only [hsel, List.map_nil, if_neg k.2, insert_newRow] at ht
    unfold addEntity
    split_ifs at ht ⊢ <;> exact (Option.some.inj ht).symm
  · rw [hsel] at ht
    exact .inl ⟨row, rfl, (Option.some.inj ht).symm⟩
  · refine .inr ⟨by simp, ?_⟩
    simp only [hsel, List.map_cons, if_neg k.2, insert_newRow] at ht
    unfold addEntity
    split_ifs at ht ⊢ <;> exact (Option.some.inj ht).symm

/-! ## The invariant -/

/-- What every run keeps, also one in which calls are answered wrongly: each row was answered to
the call that inserted it, and each answer is a row. -/
structure Support (db : SQLiteEntityDB) : Prop where
  inserted : ∀ row ∈ db.entity, ∃ a ∈ db.answers, a.2 = row.id ∧ a.1.type ≠ .double ∧
    row.columns = (newRow a.1 0).columns
  answered : ∀ a ∈ db.answers, a.1.type ≠ .double ∧ ∃ row ∈ db.entity, row.id = a.2

theorem support_step {k : { k : KeyIdAndValue // k.type ≠ .double }} (h : Support db)
    (ht : db.step k = some t) : Support t := by
  rcases step_cases ht with ⟨row, hsel, rfl⟩ | ⟨-, rfl⟩
  · have hrow : row ∈ db.entity := by
      have : row ∈ db.entity.filter (selects k) := by simp [hsel]
      exact (List.mem_filter.mp this).1
    constructor
    · intro r hr
      obtain ⟨a, ha, hrest⟩ := h.inserted r hr
      exact ⟨a, List.mem_append_left _ ha, hrest⟩
    · intro a ha
      rcases List.mem_append.mp ha with ha | ha
      · exact h.answered a ha
      · cases List.mem_singleton.mp ha
        exact ⟨k.2, row, hrow, rfl⟩
  · unfold addEntity
    split_ifs
    · exact ⟨h.inserted, h.answered⟩
    · constructor
      · intro r hr
        rcases List.mem_append.mp hr with hr | hr
        · obtain ⟨a, ha, hrest⟩ := h.inserted r hr
          exact ⟨a, List.mem_append_left _ ha, hrest⟩
        · cases List.mem_singleton.mp hr
          exact ⟨_, List.mem_append_right _ (List.mem_singleton_self _), (newRow_id ..).symm, k.2,
            columns_newRow ..⟩
      · intro a ha
        rcases List.mem_append.mp ha with ha | ha
        · obtain ⟨hd, r, hr, hid⟩ := h.answered a ha
          exact ⟨hd, r, List.mem_append_left _ hr, hid⟩
        · cases List.mem_singleton.mp ha
          exact ⟨k.2, _, List.mem_append_right _ (List.mem_singleton_self _), newRow_id ..⟩

/-- The row of an answer has the columns of the call. -/
theorem row_of_answer (h : Support db) (hid : Identity db) {a : KeyIdAndValue × UInt32}
    (ha : a ∈ db.answers) : ∃ row ∈ db.entity, row.id = a.2 ∧
      row.columns = (newRow a.1 0).columns := by
  obtain ⟨hd, row, hrow, hrid⟩ := h.answered a ha
  obtain ⟨b, hb, hbid, hbd, hcols⟩ := h.inserted row hrow
  refine ⟨row, hrow, hrid, ?_⟩
  rw [hcols, columns_eq_iff hbd hd, ← hid.one_id b hb a ha, hbid, hrid]

/-- The rows have keys that were bound as an `int64_t`. -/
theorem key_id_nonneg (h : Support db) {row : EntityRow} (hrow : row ∈ db.entity) :
    0 ≤ row.key_id := by
  obtain ⟨a, -, -, -, hcols⟩ := h.inserted row hrow
  have hkey : row.key_id = bindInt64 a.1.keyID := by
    rw [← newRow_key_id a.1 0]
    exact congrArg Prod.fst hcols
  rw [hkey]
  exact Int.natCast_nonneg _

/-- When the lookup selects one row and the entity is stored, it is that row. -/
theorem columns_of_selected (h : Support db) {k : { k : KeyIdAndValue // k.type ≠ .double }}
    {row : EntityRow} (hsel : db.entity.filter (selects k) = [row]) (hstored : db.Stored k) :
    row.columns = (newRow k 0).columns := by
  have hrow : row ∈ db.entity.filter (selects k) := by simp [hsel]
  obtain ⟨hmem, hselects⟩ := List.mem_filter.mp hrow
  obtain ⟨own, hown, hcols⟩ := hstored
  have hmine := selects_own k.2 hcols (key_id_nonneg h hmem) hselects
  have : own ∈ db.entity.filter (selects k) := List.mem_filter.mpr ⟨hown, hmine⟩
  rw [hsel, List.mem_singleton] at this
  exact this ▸ hcols

/-- A call that is answered by the row its lookup selects is answered rightly just when its
entity is stored. -/
theorem identity_answer_iff (h : Support db) (hid : Identity db)
    {k : { k : KeyIdAndValue // k.type ≠ .double }} {row : EntityRow}
    (hsel : db.entity.filter (selects k) = [row]) :
    Identity { db with answers := db.answers ++ [(k.1, row.id)] } ↔ db.Stored k := by
  have hrow : row ∈ db.entity := by
    have : row ∈ db.entity.filter (selects k) := by simp [hsel]
    exact (List.mem_filter.mp this).1
  obtain ⟨b, hb, hbid, hbd, hcols⟩ := h.inserted row hrow
  constructor
  · intro ht
    refine ⟨row, hrow, ?_⟩
    rw [hcols, columns_eq_iff hbd k.2, ← ht.one_id b (List.mem_append_left _ hb) (k.1, row.id)
      (List.mem_append_right _ (List.mem_singleton_self _))]
    exact hbid
  · intro hstored
    -- the new call has the content and the id of the one that inserted the row
    have hcontent : b.1.content = k.1.content := by
      rw [← columns_eq_iff hbd k.2 0 0, ← hcols]
      exact columns_of_selected h hsel hstored
    have hlike : ∀ a ∈ db.answers ++ [(k.1, row.id)], ∃ a' ∈ db.answers,
        a'.2 = a.2 ∧ a'.1.content = a.1.content := by
      intro a ha
      rcases List.mem_append.mp ha with ha | ha
      · exact ⟨a, ha, rfl, rfl⟩
      · cases List.mem_singleton.mp ha
        exact ⟨b, hb, hbid, hcontent⟩
    refine ⟨?_, hid.one_row⟩
    intro a ha c hc
    obtain ⟨a', ha', haid, hacontent⟩ := hlike a ha
    obtain ⟨c', hc', hcid, hccontent⟩ := hlike c hc
    rw [← haid, ← hcid, ← hacontent, ← hccontent]
    exact hid.one_id a' ha' c' hc'

/-- A call that adds a row does so rightly just when its entity is not stored. -/
theorem identity_add_iff (h : Support db) (hid : Identity db)
    {k : { k : KeyIdAndValue // k.type ≠ .double }}
    (hfree : ¬ ∃ row ∈ db.entity, row.id = db.nextID) :
    Identity (db.addEntity k) ↔ ¬ db.Stored k := by
  unfold addEntity
  rw [if_neg hfree]
  constructor
  · rintro ht ⟨row, hrow, hcols⟩
    have hnodup := ht.one_row
    rw [List.map_append, List.nodup_append] at hnodup
    refine hnodup.2.2 row.columns (List.mem_map_of_mem hrow) (newRow k.1 db.nextID).columns
      (by simp) ?_
    rw [hcols]
    exact columns_newRow ..
  · intro hnew
    -- no earlier call has the id or the content of this one
    have hids : ∀ a ∈ db.answers, a.2 ≠ db.nextID := by
      intro a ha heq
      obtain ⟨-, row, hrow, hrid⟩ := h.answered a ha
      exact hfree ⟨row, hrow, hrid.trans heq⟩
    have hcontents : ∀ a ∈ db.answers, a.1.content ≠ k.1.content := by
      intro a ha heq
      obtain ⟨row, hrow, -, hcols⟩ := row_of_answer h hid ha
      refine hnew ⟨row, hrow, ?_⟩
      rw [hcols, columns_eq_iff (h.answered a ha).1 k.2]
      exact heq
    constructor
    · intro a ha c hc
      rcases List.mem_append.mp ha with ha | ha <;> rcases List.mem_append.mp hc with hc | hc
      · exact hid.one_id a ha c hc
      · cases List.mem_singleton.mp hc
        exact iff_of_false (hids a ha) (hcontents a ha)
      · cases List.mem_singleton.mp ha
        exact iff_of_false (Ne.symm (hids c hc)) (Ne.symm (hcontents c hc))
      · cases List.mem_singleton.mp ha
        cases List.mem_singleton.mp hc
        exact iff_of_true rfl rfl
    · rw [List.map_append, List.nodup_append]
      refine ⟨hid.one_row, by simp, ?_⟩
      intro cols hmem cols' hmem' heq
      obtain ⟨row, hrow, rfl⟩ := List.mem_map.mp hmem
      have hcols' : cols' = (newRow k.1 db.nextID).columns := by simpa using hmem'
      refine hnew ⟨row, hrow, ?_⟩
      rw [heq, hcols']
      exact columns_newRow ..

theorem fits_iff (h : Support db) (hid : Identity db)
    (k : { k : KeyIdAndValue // k.type ≠ .double }) :
    Fits db k ↔ ∀ t, db.step k = some t → Identity t := by
  obtain ⟨t, ht⟩ : ∃ t, db.step k = some t := by
    unfold step
    rcases db.getIDForEntity k with ⟨db', err | id⟩ <;> exact ⟨_, rfl⟩
  have hall : (∀ t, db.step k = some t → Identity t) ↔ Identity t := by
    rw [ht]
    exact ⟨fun h => h t rfl, fun h t' ht' => Option.some.inj ht' ▸ h⟩
  rw [hall]
  rcases step_cases ht with ⟨row, hsel, rfl⟩ | ⟨hcount, rfl⟩
  · have hcount : db.entity.countP (selects k) = 1 := by
      rw [List.countP_eq_length_filter, hsel]
      rfl
    rw [identity_answer_iff h hid hsel]
    exact ⟨fun hfits => hfits.sound hcount, fun hstored => ⟨fun _ => hstored, fun _ => .inl hcount⟩⟩
  · by_cases htaken : ∃ row ∈ db.entity, row.id = db.nextID
    · have hsame : Identity (db.addEntity k) := by
        unfold addEntity
        rw [if_pos htaken]
        exact ⟨hid.one_id, hid.one_row⟩
      exact iff_of_true ⟨fun hone => absurd hone hcount, fun _ => .inr htaken⟩ hsame
    · rw [identity_add_iff h hid htaken]
      constructor
      · intro hfits hstored
        rcases hfits.complete hstored with hone | htaken'
        · exact hcount hone
        · exact htaken htaken'
      · intro hnew
        exact ⟨fun hone => absurd hone hcount, fun hstored => absurd hstored hnew⟩

/-! ## The laws -/

/-- After every call of a sequence the ids say which entity a call was about, just when each call
fits the table that it finds. -/
theorem ids_identify_entities_iff (calls : List { k : KeyIdAndValue // k.type ≠ .double }) :
    (∀ n t, run step {} (calls.take n) = some t → Identity t) ↔
      RunOk step Fits ({} : SQLiteEntityDB) calls := by
  have hstart : Support {} ∧ Identity {} := by
    refine ⟨⟨nofun, nofun⟩, nofun, ?_⟩
    simp
  have hstep : ∀ db k, (Support db ∧ Identity db) →
      (Fits db k ↔ ∀ t, db.step k = some t → Support t ∧ Identity t) := by
    rintro db k ⟨h, hid⟩
    rw [fits_iff h hid]
    exact forall₂_congr fun t ht => (and_iff_right (support_step h ht)).symm
  rw [runOk_iff_reached (fun db => Support db ∧ Identity db) hstep hstart]
  have hsupport : ∀ n t, run step {} (calls.take n) = some t → Support t := fun n t hr =>
    run_keeps Support (fun _ _ _ h ht => support_step h ht) hstart.1 hr
  exact forall₃_congr fun n t hr => (and_iff_right (hsupport n t hr)).symm

/-- The integer 0 gets the id of the integer 5, and the name `ABC` the id of `abc`. -/
theorem zero_and_upper_case_are_confused :
    (¬ ∀ n t, run step ({} : SQLiteEntityDB)
      ([⟨⟨.num, 1, 5, ['\x05'], by decide⟩, by decide⟩,
        ⟨⟨.num, 1, 0, [], by decide⟩, by decide⟩].take n)
        = some t → Identity t) ∧
    ¬ ∀ n t, run step ({} : SQLiteEntityDB)
      ([⟨⟨.str, 1, 0x636261, ['a', 'b', 'c'], by decide⟩, by decide⟩,
        ⟨⟨.str, 1, 0x434241, ['A', 'B', 'C'], by decide⟩, by decide⟩].take n)
        = some t → Identity t := by
  constructor
  · intro hall
    have hsame := ((hall 2 _ rfl).one_id _ (.head _) _ (.tail _ (.head _))).mp rfl
    cases hsame
  · intro hall
    have hsame := ((hall 2 _ rfl).one_id _ (.head _) _ (.tail _ (.head _))).mp rfl
    cases hsame

end SQLiteEntityDB

end chaos.edb
