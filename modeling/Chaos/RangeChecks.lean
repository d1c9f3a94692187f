-- The laws of setting attributes. Both ends of a range are taken when the upper one is configured,
-- the record of the ranges goes on from one attribute of a request to the next, and the slow
-- command reads another field than the one that it asks for. What is checked, and exactly when.
import Chaos.SetAttribute

namespace chaos.cu.control_manager

open chaos.common.data.cache

/-! ## What is claimed -/

/-- The number lies between the ends that are configured. No number lies on the right side of an
end that is not a number of the type. -/
def InRange (w : Nat) (range : RangeValueInfo) (v : Int) : Prop :=
  (range.minRange = [] ∨ ∃ m, lexicalCast w range.minRange = some m ∧ m ≤ v) ∧
    (range.maxRange = [] ∨ ∃ m, lexicalCast w range.maxRange = some m ∧ v ≤ m)

def InStringRange (range : RangeValueInfo) (v : List Char) : Prop :=
  (range.minRange = [] ∨ ¬ v < range.minRange) ∧ (range.maxRange = [] ∨ ¬ v > range.maxRange)

/-- A value of one of the three types that are claimed about, for an attribute of this type. -/
def Typed : DataType → PackValue → Prop
  | .TYPE_INT32, .numberInt _ => True
  | .TYPE_INT64, .numberLong _ => True
  | .TYPE_STRING, .string _ => True
  | _, _ => False

def LiesIn (range : RangeValueInfo) : PackValue → Prop
  | .numberInt n => InRange 32 range n.toInt
  | .numberLong n => InRange 64 range n.toInt
  | .string s => InStringRange range s
  | _ => True

/-- The attribute's own range, in a record of its own. -/
def ownRange (dataset : Dataset) (name : List Char) : RangeValueInfo :=
  getAttributeRangeValueInfo dataset name {}

namespace ControlUnit

/-- What a call must do with the value that the request has for an attribute: it sets this value
only if it lies in the attribute's own range, and refuses it only if it does not. -/
structure RangeChecked (u : ControlUnit) (submitted : List Char → Option PackValue)
    (r : SetResult) : Prop where
  set : ∀ e ∈ r.set, ∀ type v, u.cache e.1 = some type → submitted e.1 = some v → Typed type v →
    e.2 = v ∧ LiesIn (ownRange u.dataset e.1) v
  refused : ∀ e, r.refused = some e → ∀ type v, u.cache e.1 = some type → submitted e.1 = some v →
    Typed type v → ¬ LiesIn (ownRange u.dataset e.1) v

end ControlUnit

/-! ## The condition -/

/-- The range that the check uses treats the number as the attribute's own range does. Without an
upper end all numbers pass, and with an upper end alone none does. -/
def JudgedAlike (w : Nat) (used own : RangeValueInfo) (v : Int) : Prop :=
  if used.maxRange = [] then InRange w own v
  else if used.minRange = [] then ¬ InRange w own v
  else InRange w used v ↔ InRange w own v

def Alike (used own : RangeValueInfo) : PackValue → Prop
  | .numberInt n => JudgedAlike 32 used own n.toInt
  | .numberLong n => JudgedAlike 64 used own n.toInt
  | .string s => InStringRange used s ↔ InStringRange own s
  | _ => True

namespace ControlUnit

variable (u : ControlUnit)

/-- Each attribute of the request that the loop comes to is treated as its own range says, with
the record as the attributes before it left it. -/
def LoopAlike (data : CDataWrapper) (info : RangeValueInfo) : List (List Char) → Prop
  | [] => True
  | name :: rest =>
    if data.hasKey name then
      match u.cache name with
      | none => True
      | some type =>
        let used := getAttributeRangeValueInfo u.dataset name info
        (∀ v, data.getField name = some v → Typed type v →
          Alike used (ownRange u.dataset name) v) ∧
        ∀ v, valueToSet "AbstractControlUnit::setDatasetAttribute" u.doubles data name used
          type = .ok v → LoopAlike data used rest
    else LoopAlike data info rest

def DatasetAlike (data : CDataWrapper) : Prop :=
  data.hasKey DEVICE_ID = true → u.LoopAlike data {} u.inputs

/-- What the command reads for a value of the type. -/
def readValue (data : CDataWrapper) (name : List Char) : DataType → Option PackValue
  | .TYPE_INT32 => some (.numberInt (data.getInt32Value u.doubles name))
  | .TYPE_INT64 => some (.numberLong (data.getInt64Value u.doubles name))
  | _ => data.getField name

/-- The command reads the value of its request, and the attribute's own range has both ends or is
not needed; or it refuses what it reads, and the value is to be refused. -/
def CommandAlike (data : CDataWrapper) : Prop :=
  ∀ name type v, data.getStringValue ATTRIBUTE_SET_NAME = .ok name → u.cache name = some type →
    data.getField ATTRIBUTE_SET_VALUE = some v → Typed type v →
    let own := ownRange u.dataset name
    (u.readValue data name type = some v ∧ Alike own own v) ∨
      ((∃ e, valueToSet "SetAttributeCommand::setHandler" u.doubles data name own type =
        .error e) ∧ ¬ LiesIn own v)

end ControlUnit

/-! ## One check -/

variable {function : String} {w : Nat} {info own used : RangeValueInfo} {v : Int}
  {name : List Char}

theorem checkForRangeValue_ok_iff (hlow : -(2 ^ (w - 1) : Int) ≤ v) (hhigh : v < 2 ^ (w - 1)) :
    checkForRangeValue function w info v name = .ok () ↔
      info.maxRange = [] ∨ (info.minRange ≠ [] ∧ InRange w info v) := by
  unfold checkForRangeValue rangeEnd InRange
  by_cases hmax : info.maxRange = []
  · have hfits : ¬ (v < -2 ^ (w - 1) ∨ (2 : Int) ^ (w - 1) - 1 < v) := by omega
    simp only [hmax, ne_eq, not_true_eq_false, decide_false, Bool.false_eq_true, if_false, bind,
      Except.bind, gt_iff_lt, if_neg hfits, true_or]
    exact iff_of_true rfl trivial
  · cases lexicalCast w info.maxRange with
    | none => simp [hmax, bind, Except.bind]
    | some hi =>
      by_cases hmin : info.minRange = []
      · simp [hmax, hmin, bind, Except.bind, lexicalCast, digits]
      · cases lexicalCast w info.minRange with
        | none => simp [hmax, hmin, bind, Except.bind]
        | some lo =>
          by_cases hfits : v < lo ∨ hi < v
          · have : ¬ (lo ≤ v ∧ v ≤ hi) := by omega
            simp [hmax, hmin, bind, Except.bind, throw, throwThe,
              MonadExceptOf.throw, hfits, this]
          · have : lo ≤ v ∧ v ≤ hi := by omega
            simp [hmax, hmin, bind, Except.bind, pure, Except.pure, hfits, this]

theorem checkForStringRangeValue_ok_iff {s : List Char} :
    checkForStringRangeValue function info s name = .ok () ↔ InStringRange info s := by
  unfold checkForStringRangeValue InStringRange
  by_cases hmin : info.minRange ≠ [] ∧ s < info.minRange
  · have : ¬ (info.minRange = [] ∨ ¬ s < info.minRange) := by tauto
    simp [hmin, bind, Except.bind, throw, throwThe, MonadExceptOf.throw]
  · have hlow : info.minRange = [] ∨ ¬ s < info.minRange := by tauto
    by_cases hmax : info.maxRange ≠ [] ∧ s > info.maxRange
    · have : ¬ (info.maxRange = [] ∨ ¬ s > info.maxRange) := by tauto
      simp only [if_neg hmin, if_pos hmax, bind, Except.bind, pure, Except.pure, throw, throwThe,
        MonadExceptOf.throw, this, and_false, reduceCtorEq]
    · have hhigh : info.maxRange = [] ∨ ¬ s > info.maxRange := by tauto
      simp only [if_neg hmin, if_neg hmax, bind, Except.bind, pure, Except.pure, hlow, hhigh,
        and_self]

/-- The check agrees with the own range just when the used range judges alike. -/
theorem judgedAlike_iff {p : Prop} (hp : p ↔ used.maxRange = [] ∨
    (used.minRange ≠ [] ∧ InRange w used v)) :
    JudgedAlike w used own v ↔ (p ↔ InRange w own v) := by
  rw [hp]
  unfold JudgedAlike
  by_cases hmax : used.maxRange = [] <;> by_cases hmin : used.minRange = [] <;> simp [hmax, hmin]

theorem Int32.fits (n : Int32) : -(2 ^ (32 - 1) : Int) ≤ n.toInt ∧ n.toInt < 2 ^ (32 - 1) :=
  ⟨n.le_toInt, n.toInt_lt⟩

theorem Int64.fits (n : Int64) : -(2 ^ (64 - 1) : Int) ≤ n.toInt ∧ n.toInt < 2 ^ (64 - 1) :=
  ⟨n.le_toInt, n.toInt_lt⟩

variable {doubles : DoubleArithmetic} {data : CDataWrapper} {type : DataType} {value : PackValue}

/-- The range passes the value, in the way of the check of its type. -/
def Passes (used : RangeValueInfo) : PackValue → Prop
  | .numberInt n => used.maxRange = [] ∨ (used.minRange ≠ [] ∧ InRange 32 used n.toInt)
  | .numberLong n => used.maxRange = [] ∨ (used.minRange ≠ [] ∧ InRange 64 used n.toInt)
  | .string s => InStringRange used s
  | _ => True

theorem alike_iff (used own : RangeValueInfo) (value : PackValue) :
    Alike used own value ↔ (Passes used value ↔ LiesIn own value) := by
  cases value with
  | numberInt n => exact judgedAlike_iff Iff.rfl
  | numberLong n => exact judgedAlike_iff Iff.rfl
  | string s => exact Iff.rfl
  | numberDouble | bool | binData => exact iff_of_true trivial Iff.rfl

/-- A check and then the value: what the call does for a verdict that is known. -/
theorem check_then {check : Except Refusal Unit} {passes : Prop} (hiff : check = .ok () ↔ passes)
    (value : PackValue) :
    ((do check; return value) = Except.ok value ∧ passes) ∨
      ((∃ e, (do check; return value) = Except.error e) ∧ ¬ passes) := by
  cases check with
  | ok u => exact Or.inl ⟨rfl, hiff.mp rfl⟩
  | error e => exact Or.inr ⟨⟨e, rfl⟩, fun h => by cases hiff.mpr h⟩

/-- A value that is read for its type is set as it is, when the range passes it. -/
theorem valueToSet_typed (u : ControlUnit) (function : String) (used : RangeValueInfo)
    (hread : u.readValue data name type = some value) (htyped : Typed type value) :
    (valueToSet function u.doubles data name used type = .ok value ∧ Passes used value) ∨
      ((∃ e, valueToSet function u.doubles data name used type = .error e) ∧
        ¬ Passes used value) := by
  cases type with
  | TYPE_INT32 =>
    simp only [ControlUnit.readValue, Option.some.injEq] at hread
    subst hread
    have hfits := Int32.fits (data.getInt32Value u.doubles name)
    exact check_then (checkForRangeValue_ok_iff hfits.1 hfits.2) _
  | TYPE_INT64 =>
    simp only [ControlUnit.readValue, Option.some.injEq] at hread
    subst hread
    have hfits := Int64.fits (data.getInt64Value u.doubles name)
    exact check_then (checkForRangeValue_ok_iff hfits.1 hfits.2) _
  | TYPE_STRING =>
    cases value with
    | string s =>
      have hstring : data.getStringValue name = .ok s := by
        simp only [ControlUnit.readValue] at hread
        simp [CDataWrapper.getStringValue, hread]
      simp only [valueToSet, hstring]
      exact check_then checkForStringRangeValue_ok_iff _
    | numberInt | numberLong | numberDouble | bool | binData => cases htyped
  | TYPE_DOUBLE | TYPE_BYTEARRAY | TYPE_BOOLEAN => cases htyped

/-- Where the field of the attribute is of its type, this is what is read. -/
theorem readValue_field (u : ControlUnit) (hfield : data.getField name = some value)
    (htyped : Typed type value) : u.readValue data name type = some value := by
  cases type <;> cases value <;> first
    | exact htyped.elim
    | simp [ControlUnit.readValue, CDataWrapper.getInt32Value, CDataWrapper.getInt64Value, hfield]

/-- A value that was set is the one of the field, and agrees with the own range when the used range
judges alike. -/
theorem set_alike_iff (u : ControlUnit) (own : RangeValueInfo) {v : PackValue}
    (hset : valueToSet function u.doubles data name used type = .ok v)
    (hread : u.readValue data name type = some value) (htyped : Typed type value) :
    v = value ∧ (Alike used own value ↔ LiesIn own value) := by
  rcases valueToSet_typed u function used hread htyped with
    ⟨hok, hpasses⟩ | ⟨⟨e, herror⟩, -⟩
  · rw [hset] at hok
    cases hok
    rw [alike_iff]
    exact ⟨rfl, by simp [hpasses]⟩
  · rw [hset] at herror
    cases herror

theorem getDoubleValue_ok {bits : UInt64} (h : data.getDoubleValue name = .ok bits) :
    data.getField name = some (.numberDouble bits) := by
  unfold CDataWrapper.getDoubleValue at h
  split at h <;> cases h
  assumption

theorem getStringValue_ok {s : List Char} (h : data.getStringValue name = .ok s) :
    data.getField name = some (.string s) := by
  unfold CDataWrapper.getStringValue at h
  split at h <;> cases h
  assumption

theorem getBoolValue_ok {b : Bool} (h : data.getBoolValue name = .ok b) :
    data.getField name = some (.bool b) := by
  unfold CDataWrapper.getBoolValue at h
  split at h <;> cases h
  assumption

theorem getBinaryValue_ok {bytes : List UInt8} (h : data.getBinaryValue name = .ok bytes) :
    data.getField name = some (.binData bytes) := by
  unfold CDataWrapper.getBinaryValue at h
  split at h <;> cases h
  assumption

theorem bind_eq_ok {α β : Type} {x : Except Refusal α} {f : α → Except Refusal β} {b : β}
    (h : (x >>= f) = .ok b) : ∃ a, x = .ok a ∧ f a = .ok b := by
  cases x with
  | error e => cases h
  | ok a => exact ⟨a, rfl, h⟩

/-- What is set is what was read. -/
theorem readValue_of_ok (u : ControlUnit) {v : PackValue}
    (hset : valueToSet function u.doubles data name used type = .ok v) :
    u.readValue data name type = some v := by
  unfold valueToSet at hset
  cases type with
  | TYPE_INT32 | TYPE_INT64 =>
    obtain ⟨-, -, hok⟩ := bind_eq_ok hset
    cases hok
    rfl
  | TYPE_DOUBLE =>
    obtain ⟨bits, hfield, hset⟩ := bind_eq_ok hset
    obtain ⟨-, -, hok⟩ := bind_eq_ok hset
    cases hok
    exact getDoubleValue_ok hfield
  | TYPE_STRING =>
    obtain ⟨s, hfield, hset⟩ := bind_eq_ok hset
    obtain ⟨-, -, hok⟩ := bind_eq_ok hset
    cases hok
    exact getStringValue_ok hfield
  | TYPE_BYTEARRAY =>
    obtain ⟨bytes, hfield, hok⟩ := bind_eq_ok hset
    cases hok
    exact getBinaryValue_ok hfield
  | TYPE_BOOLEAN =>
    obtain ⟨b, hfield, hok⟩ := bind_eq_ok hset
    cases hok
    exact getBoolValue_ok hfield

theorem refused_alike_iff (u : ControlUnit) {e : Refusal}
    (hset : valueToSet function u.doubles data name used type = .error e)
    (hread : u.readValue data name type = some value) (htyped : Typed type value) :
    Alike used own value ↔ ¬ LiesIn own value := by
  rcases valueToSet_typed u function used hread htyped with
    ⟨hok, -⟩ | ⟨-, hpasses⟩
  · rw [hset] at hok
    cases hok
  · rw [alike_iff]
    simp [hpasses]

/-! ## The request -/

namespace ControlUnit

variable {u : ControlUnit}

/-- What is claimed of one value that a call set. -/
def SetOk (u : ControlUnit) (data : CDataWrapper) (e : List Char × PackValue) : Prop :=
  ∀ type v, u.cache e.1 = some type → data.getField e.1 = some v → Typed type v →
    e.2 = v ∧ LiesIn (ownRange u.dataset e.1) v

theorem setLoop_checked_iff (names : List (List Char)) (info : RangeValueInfo)
    (done : List (List Char × PackValue)) :
    u.RangeChecked data.getField (u.setLoop data info done names) ↔
      (∀ e ∈ done, u.SetOk data e) ∧ u.LoopAlike data info names := by
  induction names generalizing info done with
  | nil =>
    simp only [setLoop, LoopAlike, and_true]
    constructor
    · exact fun h => h.set
    · exact fun h => ⟨h, fun e he => by cases he⟩
  | cons name rest ih =>
    unfold setLoop LoopAlike
    by_cases hnamed : data.hasKey name
    · simp only [hnamed, if_true]
      cases htype : u.cache name with
      | none =>
        simp only [and_true]
        constructor
        · exact fun h => h.set
        · intro h
          refine ⟨h, ?_⟩
          rintro e he type v hcache
          cases he
          rw [htype] at hcache
          cases hcache
      | some type =>
        obtain ⟨field, hfield⟩ := Option.isSome_iff_exists.mp hnamed
        dsimp only
        cases hset : valueToSet "AbstractControlUnit::setDatasetAttribute" u.doubles data name
            (getAttributeRangeValueInfo u.dataset name info) type with
        | error refusal =>
          simp only [reduceCtorEq, false_implies, implies_true, and_true]
          constructor
          · intro h
            refine ⟨h.set, ?_⟩
            intro v hv htyped
            rw [refused_alike_iff u hset (readValue_field u hv htyped) htyped]
            exact h.refused _ rfl type v htype hv htyped
          · rintro ⟨hdone, halike⟩
            refine ⟨hdone, ?_⟩
            rintro e he type' v hcache hv htyped
            cases he
            rw [htype] at hcache
            cases hcache
            exact (refused_alike_iff u hset (readValue_field u hv htyped) htyped).mp
              (halike v hv htyped)
        | ok v =>
          simp only [Except.ok.injEq, forall_eq']
          rw [ih]
          have hnew : u.SetOk data (name, v) ↔ ∀ v, data.getField name = some v → Typed type v →
              Alike (getAttributeRangeValueInfo u.dataset name info) (ownRange u.dataset name) v := by
            constructor
            · intro h v' hv' htyped
              have halike := set_alike_iff u (ownRange u.dataset name) hset
                (readValue_field u hv' htyped) htyped
              exact halike.2.mpr (h type v' htype hv' htyped).2
            · intro h type' v' hcache hv' htyped
              rw [htype] at hcache
              cases hcache
              have halike := set_alike_iff u (ownRange u.dataset name) hset
                (readValue_field u hv' htyped) htyped
              exact ⟨halike.1, halike.2.mp (h v' hv' htyped)⟩
          rw [← hnew]
          simp only [List.mem_append, List.mem_singleton, or_imp, forall_and, forall_eq]
          exact and_assoc
    · simp only [hnamed]
      exact ih info done

theorem rangeChecked_nothing (submitted : List Char → Option PackValue) (failed : Option Refusal) :
    u.RangeChecked submitted { failed := failed } := by
  constructor
  · intro e he
    cases he
  · intro e he
    cases he

theorem setDatasetAttribute_checked_iff (data : CDataWrapper) :
    u.RangeChecked data.getField (u.setDatasetAttribute data) ↔ u.DatasetAlike data := by
  unfold setDatasetAttribute DatasetAlike
  by_cases hdevice : data.hasKey DEVICE_ID
  · simp [hdevice, setLoop_checked_iff]
  · simp only [hdevice, Bool.false_eq_true, if_false, false_implies, iff_true]
    exact rangeChecked_nothing _ none

/-! ## The command -/

theorem rangeChecked_refused_iff {submitted : List Char → Option PackValue} {refusal : Refusal} :
    u.RangeChecked submitted { refused := some (name, refusal) } ↔
      ∀ type v, u.cache name = some type → submitted name = some v → Typed type v →
        ¬ LiesIn (ownRange u.dataset name) v := by
  constructor
  · exact fun h => h.refused _ rfl
  · intro h
    constructor
    · intro e he
      cases he
    · intro e he
      cases he
      exact h

theorem rangeChecked_set_iff {submitted : List Char → Option PackValue} {v : PackValue} :
    u.RangeChecked submitted { set := [(name, v)] } ↔
      ∀ type v', u.cache name = some type → submitted name = some v' → Typed type v' →
        v = v' ∧ LiesIn (ownRange u.dataset name) v' := by
  constructor
  · exact fun h => h.set _ List.mem_cons_self
  · intro h
    constructor
    · intro e he
      rw [List.mem_singleton] at he
      subst he
      exact h
    · intro e he
      cases he

/-- What the command does with a value of the type is right just when it meets the condition. -/
theorem command_value_iff (u : ControlUnit) (hvalue : Typed type value) :
    ((u.readValue data name type = some value ∧ Alike own own value) ∨
      ((∃ e, valueToSet function u.doubles data name own type = .error e) ∧ ¬ LiesIn own value)) ↔
    match valueToSet function u.doubles data name own type with
    | .ok v => v = value ∧ LiesIn own value
    | .error _ => ¬ LiesIn own value := by
  cases hset : valueToSet function u.doubles data name own type with
  | error e =>
    simp only [Except.error.injEq, exists_eq', true_and, or_iff_right_iff_imp]
    rintro ⟨hread, halike⟩
    exact (refused_alike_iff u hset hread hvalue).mp halike
  | ok v =>
    simp only [reduceCtorEq, exists_false, false_and, or_false]
    constructor
    · rintro ⟨hread, halike⟩
      have hsame := set_alike_iff u own hset hread hvalue
      exact ⟨hsame.1, hsame.2.mp halike⟩
    · rintro ⟨rfl, hlies⟩
      have hread := readValue_of_ok u hset
      exact ⟨hread, (set_alike_iff u own hset hread hvalue).2.mpr hlies⟩

theorem setHandler_checked_iff (data : CDataWrapper) :
    u.RangeChecked (fun _ => data.getField ATTRIBUTE_SET_VALUE) (u.setHandler data) ↔
      u.CommandAlike data := by
  unfold setHandler CommandAlike
  cases hname : data.getStringValue ATTRIBUTE_SET_NAME with
  | error refusal =>
    have hresult : ∀ failed : Bool, u.RangeChecked (fun _ => data.getField ATTRIBUTE_SET_VALUE)
        (if failed then { failed := some (.thrown ⟨1, "No default key found!", "setHandler"⟩) }
          else { failed := some refusal }) := by
      intro failed
      split <;> exact rangeChecked_nothing _ _
    refine iff_of_true (hresult _) ?_
    intro name type v hok
    cases hok
  | ok name =>
    have hkey : data.hasKey ATTRIBUTE_SET_NAME = true := by
      simp [CDataWrapper.hasKey, getStringValue_ok hname]
    cases hfield : data.getField ATTRIBUTE_SET_VALUE with
    | none =>
      have hvalue : data.hasKey ATTRIBUTE_SET_VALUE = false := by simp [CDataWrapper.hasKey, hfield]
      simp only [hkey, hvalue, Bool.not_true, Bool.not_false, Bool.or_true, if_true]
      refine iff_of_true (rangeChecked_nothing _ _) ?_
      intro name type v _ _ hv
      cases hv
    | some value =>
      have hvalue : data.hasKey ATTRIBUTE_SET_VALUE = true := by simp [CDataWrapper.hasKey, hfield]
      simp only [hkey, hvalue, Bool.not_true, Bool.or_false, Bool.false_eq_true, if_false]
      constructor
      · intro h name' type v hok htype hv htyped
        cases hok
        cases hv
        rw [command_value_iff u htyped]
        rw [htype] at h
        dsimp only [ownRange] at h ⊢
        split at h <;> rename_i hset <;> rw [hset]
        · exact rangeChecked_refused_iff.mp h type value htype rfl htyped
        · exact rangeChecked_set_iff.mp h type value htype rfl htyped
      · intro h
        cases htype : u.cache name with
        | none => simp [rangeChecked_refused_iff, htype]
        | some type =>
          have hright := fun htyped => (command_value_iff u htyped).mp
            (h name type value rfl htype rfl htyped)
          dsimp only [ownRange] at hright ⊢
          split <;> rename_i hset <;> rw [hset] at hright
          · rw [rangeChecked_refused_iff]
            intro type' v htype' hv htyped
            rw [htype] at htype'
            cases htype'
            cases hv
            exact hright htyped
          · rw [rangeChecked_set_iff]
            intro type' v htype' hv htyped
            rw [htype] at htype'
            cases htype'
            cases hv
            exact hright htyped

/-! ## Both ways -/

/-- An attribute `a` with a minimum of 0 and no maximum, and an attribute `b` with a range of 0 to
10. Both hold 32 bits. -/
def twoAttributes : ControlUnit where
  dataset name :=
    if name = ['a'] then [.MIN_RANGE ['0']]
    else if name = ['b'] then [.MAX_RANGE ['1', '0'], .MIN_RANGE ['0']] else []
  inputs := [['b'], ['a']]
  cache name := if name = ['a'] ∨ name = ['b'] then some .TYPE_INT32 else none
  doubles := ⟨fun _ => 0, fun _ => 0, fun _ _ => .ok ()⟩

end ControlUnit

end chaos.cu.control_manager
