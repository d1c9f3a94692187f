-- The laws of a set of attributes. The names, the values and the bitmap stay aligned as long as
-- there are no more names than 16 bit indexes and no value is set for an index that is not there.
import Chaos.AttributesSetting
import Chaos.NumberedList
import Chaos.Runs

namespace chaos.common.data.cache

open numbered_list pointer_map runs

/-! ## What is claimed -/

/-- The names have the indexes from 0 on, each index has a value of its own and a bit, and the
bits that are set are those of the changed attributes. -/
structure Coherent (s : AttributesSetting) (a : Attributes) : Prop where
  index : s.index = .ofNat a.names.length
  nodup : a.names.Nodup
  nameIndex : ∀ (name : String) (k : Nat),
    (s.mapAttributeNameIndex[name]?).map UInt16.toNat = some k ↔ a.names[k]? = some name
  settings : ∀ n : UInt16, n ∈ s.mapAttributeIndexSettings ↔ n.toNat < a.names.length
  values : ∀ (n : UInt16) (p : Option ValueSetting), s.mapAttributeIndexSettings[n]? = some p →
    ∃ v, p = some v ∧ v.index.toNat = n.toNat ∧ a.names[n.toNat]? = some v.name
  bitmap : s.bitmapChangedAttribute.length = a.names.length
  changed : ∀ k : Nat, s.bitmapChangedAttribute[k]? = some true ↔ k ∈ a.changed

/-- The indexes of the changed attributes are given in increasing order. -/
structure GivesChanged (s : AttributesSetting) (a : Attributes) : Prop where
  increasing : (s.getChangedIndex.map UInt16.toNat).Pairwise (· < ·)
  mem_iff : ∀ k, k ∈ s.getChangedIndex.map UInt16.toNat ↔ k ∈ a.changed

/-- The index that a call names. -/
def AttributesCall.index : AttributesCall → Option UInt16
  | .setValueForAttribute n _ | .setNewSize n _ _ | .mark n _ => some n
  | _ => none

/-- What a call must do: the set stays coherent where the call comes back, and a call for an
attribute that was never added throws and leaves the set as it is. -/
structure KeepsCoherent (sa : AttributesSetting × Attributes) (c : AttributesCall) : Prop where
  coherent : (sa.1.call c).2 ≠ .error .undefined → Coherent (sa.1.call c).1 (sa.2.call c)
  givesChanged : (sa.1.call c).2 ≠ .error .undefined → GivesChanged (sa.1.call c).1 (sa.2.call c)
  refused : ∀ n, c.index = some n → ¬ n.toNat < sa.2.names.length →
    ∃ ex, sa.1.call c = (sa.1, .error (.thrown ex))

/-- The condition on a call: an index is left for a new name, and the index of a value that is
set or resized is there. -/
def IndexIsThere (sa : AttributesSetting × Attributes) : AttributesCall → Prop
  | .addAttribute name _ _ _ => name ∉ sa.2.names → sa.2.names.length < 2 ^ 16
  | .setValueForAttribute n _ | .setNewSize n _ _ => n.toNat < sa.2.names.length
  | _ => True

/-- The set and what it is for take the same calls. -/
def attributesStep (sa : AttributesSetting × Attributes) (c : AttributesCall) :
    Option (AttributesSetting × Attributes) :=
  match sa.1.call c with
  | (_, .error .undefined) => none
  | (s, _) => some (s, sa.2.call c)

/-! ## The changed indexes -/

open AttributesSetting

variable {bits : List Bool} {start i k : Nat}

theorem findFrom_eq_some (h : findFrom bits start = some i) :
    start ≤ i ∧ bits[i]? = some true ∧ ∀ j, start ≤ j → j < i → bits[j]? ≠ some true := by
  obtain ⟨d, hd, rfl⟩ := Option.map_eq_some_iff.mp h
  obtain ⟨hlt, htrue, hbefore⟩ := List.findIdx?_eq_some_iff_getElem.mp hd
  refine ⟨by omega, ?_, ?_⟩
  · rw [← List.getElem?_drop, List.getElem?_eq_getElem hlt]
    simpa using htrue
  · intro j hstart hj hbit
    rw [show j = start + (j - start) by omega, ← List.getElem?_drop] at hbit
    obtain ⟨hjlt, hget⟩ := List.getElem?_eq_some_iff.mp hbit
    exact hbefore (j - start) (by omega) (by simpa using hget)

theorem findFrom_eq_none (h : findFrom bits start = none) (hk : start ≤ k) :
    bits[k]? ≠ some true := by
  intro hbit
  rw [show k = start + (k - start) by omega, ← List.getElem?_drop] at hbit
  have hmem := List.mem_of_getElem? hbit
  have hall := List.findIdx?_eq_none_iff.mp (Option.map_eq_none_iff.mp h) true hmem
  cases hall

/-- What the loop finds from `start` on. The induction is on the rounds that are left. -/
theorem changedFrom_spec (hsmall : bits.length ≤ 2 ^ 16) {left : Nat} (start : Nat)
    (hleft : bits.length ≤ start + left) :
    ((changedFrom bits left (findFrom bits start)).map UInt16.toNat).Pairwise (· < ·) ∧
      ∀ k, k ∈ (changedFrom bits left (findFrom bits start)).map UInt16.toNat ↔
        start ≤ k ∧ bits[k]? = some true := by
  induction left generalizing start with
  | zero =>
    refine ⟨List.Pairwise.nil, fun k => ⟨nofun, ?_⟩⟩
    rintro ⟨hk, hbit⟩
    have hlt := (List.getElem?_eq_some_iff.mp hbit).1
    omega
  | succ left ih =>
    cases hfind : findFrom bits start with
    | none =>
      refine ⟨List.Pairwise.nil, fun k => ⟨nofun, ?_⟩⟩
      rintro ⟨hk, hbit⟩
      exact absurd hbit (findFrom_eq_none hfind hk)
    | some i =>
      obtain ⟨hstart, htrue, hbefore⟩ := findFrom_eq_some hfind
      have hlt := (List.getElem?_eq_some_iff.mp htrue).1
      have hi : (UInt16.ofNat i).toNat = i := UInt16.toNat_ofNat_of_lt' (by
        simp only [UInt16.size]
        omega)
      obtain ⟨hpairwise, hmem⟩ := ih (i + 1) (by omega)
      rw [changedFrom, List.map_cons, hi]
      constructor
      · refine List.pairwise_cons.mpr ⟨?_, hpairwise⟩
        intro k hk
        have hgt := ((hmem k).mp hk).1
        omega
      · intro k
        rw [List.mem_cons, hmem]
        constructor
        · rintro (rfl | ⟨hk, hbit⟩)
          · exact ⟨hstart, htrue⟩
          · exact ⟨by omega, hbit⟩
        · rintro ⟨hk, hbit⟩
          rcases Nat.lt_trichotomy k i with hki | rfl | hki
          · exact absurd hbit (hbefore k hk hki)
          · exact .inl rfl
          · exact .inr ⟨hki, hbit⟩

variable {s : AttributesSetting} {a : Attributes} {n : UInt16} {v v' : ValueSetting} {bit : Bool}

namespace Coherent

/-- There are no more names than indexes. -/
theorem length_le (h : Coherent s a) : a.names.length ≤ 2 ^ 16 := by
  by_contra hlt
  obtain ⟨name, hget⟩ : ∃ name, a.names[2 ^ 16]? = some name :=
    ⟨_, List.getElem?_eq_getElem (Nat.lt_of_not_le hlt)⟩
  obtain ⟨i, -, hi⟩ := Option.map_eq_some_iff.mp ((h.nameIndex _ _).mpr hget)
  have hilt := i.toNat_lt
  omega

theorem givesChanged (h : Coherent s a) : GivesChanged s a := by
  have hlength : s.bitmapChangedAttribute.length ≤ 2 ^ 16 := by
    rw [h.bitmap]
    exact h.length_le
  have hspec := changedFrom_spec hlength 0 (Nat.le_of_eq (Nat.zero_add _).symm)
  refine ⟨hspec.1, fun k => ?_⟩
  rw [getChangedIndex, hspec.2, h.changed]
  exact ⟨And.right, fun hk => ⟨Nat.zero_le k, hk⟩⟩

theorem mem_nameIndex_iff (h : Coherent s a) (name : String) :
    name ∈ s.mapAttributeNameIndex ↔ name ∈ a.names := by
  rw [Std.TreeMap.mem_iff_isSome_getElem?, Option.isSome_iff_exists, List.mem_iff_getElem?]
  constructor
  · rintro ⟨i, hi⟩
    exact ⟨i.toNat, (h.nameIndex name i.toNat).mp (by rw [hi]; rfl)⟩
  · rintro ⟨k, hk⟩
    obtain ⟨i, hi, -⟩ := Option.map_eq_some_iff.mp ((h.nameIndex name k).mpr hk)
    exact ⟨i, hi⟩

/-- The value of an index that is there. -/
theorem exists_value (h : Coherent s a) (hn : n.toNat < a.names.length) :
    ∃ v, s.mapAttributeIndexSettings[n]? = some (some v) ∧
      pointer s.mapAttributeIndexSettings n = some v ∧ v.index.toNat = n.toNat ∧
      a.names[n.toNat]? = some v.name := by
  have hmem := (h.settings n).mpr hn
  obtain ⟨p, hp⟩ := Option.isSome_iff_exists.mp (Std.TreeMap.mem_iff_isSome_getElem?.mp hmem)
  obtain ⟨v, rfl, hindex, hname⟩ := h.values n p hp
  exact ⟨v, hp, pointer_of_getElem? hp, hindex, hname⟩

/-! ## The calls -/

theorem create : Coherent AttributesSetting.create Attributes.empty := by
  constructor <;> simp [AttributesSetting.create, Attributes.empty]

/-- A value is written back under its index. -/
theorem store (h : Coherent s a) (hv : s.mapAttributeIndexSettings[n]? = some (some v))
    (hindex : v'.index = v.index) (hname : v'.name = v.name) :
    Coherent ((s.touch n).store n v') a := by
  have hmem : n ∈ s.mapAttributeIndexSettings := by
    rw [Std.TreeMap.mem_iff_isSome_getElem?, hv]
    rfl
  refine { h with settings := ?_, values := ?_ }
  · intro k
    rw [AttributesSetting.store, Std.TreeMap.mem_insert, AttributesSetting.touch,
      mem_touched_of_mem hmem, ← h.settings, Std.LawfulEqCmp.compare_eq_iff_eq]
    constructor
    · rintro (rfl | hk)
      · exact hmem
      · exact hk
    · exact .inr
  · intro k p hp
    rw [AttributesSetting.store, Std.TreeMap.getElem?_insert, AttributesSetting.touch,
      getElem?_touched_of_mem hmem] at hp
    split at hp
    · rename_i heq
      cases Std.LawfulEqCmp.eq_of_compare heq
      cases hp
      obtain ⟨w, hw, hwindex, hwname⟩ := h.values n _ hv
      cases hw
      exact ⟨v', rfl, hindex ▸ hwindex, hname ▸ hwname⟩
    · exact h.values k p hp

/-- The bit of an index that is there. -/
theorem setBit (h : Coherent s a) (hindex : v.index.toNat = n.toNat)
    (hn : n.toNat < a.names.length) (bit : Bool) :
    (s.setBit v bit).2 = .ok () ∧ Coherent (s.setBit v bit).1 (a.setBit n.toNat bit) := by
  have hlt : v.index.toNat < s.bitmapChangedAttribute.length := by
    rw [h.bitmap, hindex]
    exact hn
  unfold AttributesSetting.setBit Attributes.setBit
  rw [if_pos hlt, if_pos hn]
  refine ⟨rfl, { h with bitmap := ?_, changed := ?_ }⟩
  · rw [List.length_set]
    exact h.bitmap
  · intro k
    rw [List.getElem?_set, hindex]
    have hk := h.changed k
    by_cases heq : n.toNat = k
    · have hk_lt : k < s.bitmapChangedAttribute.length := by omega
      cases bit <;> simp [heq, hk_lt]
    · cases bit <;> simp [heq, hk, Ne.symm heq]

theorem setAll (h : Coherent s a) (bit : Bool) {changed : Set Nat}
    (hchanged : ∀ k, k ∈ changed ↔ bit = true ∧ k < a.names.length) :
    Coherent { s with bitmapChangedAttribute := s.bitmapChangedAttribute.map fun _ => bit }
      { a with changed := changed } := by
  refine { h with bitmap := ?_, changed := ?_ }
  · rw [List.length_map]
    exact h.bitmap
  · intro k
    rw [List.getElem?_map, hchanged, ← h.bitmap]
    by_cases hk : k < s.bitmapChangedAttribute.length <;> simp [hk]

/-- A new name, while an index is left for it. -/
theorem addAttribute (h : Coherent s a) {name : String} (hnew : name ∉ a.names)
    (hroom : a.names.length < 2 ^ 16) (size : UInt32) (type : DataType) (allocated : Bool) :
    Coherent (s.addAttribute name size type allocated)
      { a with names := a.names ++ [name] } := by
  have hmap : name ∉ s.mapAttributeNameIndex :=
    fun hmem => hnew ((h.mem_nameIndex_iff name).mp hmem)
  have hindex : s.index.toNat = a.names.length := by
    rw [h.index]
    exact UInt16.toNat_ofNat_of_lt' hroom
  have hfresh : s.index ∉ s.mapAttributeIndexSettings := by
    rw [h.settings, hindex]
    exact Nat.lt_irrefl _
  unfold AttributesSetting.addAttribute
  rw [if_neg hmap]
  constructor
  · rw [h.index, List.length_append, List.length_singleton]
    simp
  · exact nodup_snoc h.nodup hnew
  · intro name' k
    dsimp only
    rw [getElem?_concat_eq_some, ← h.nameIndex, Std.TreeMap.getElem?_insertIfNew]
    by_cases heq : compare name name' = .eq
    · cases Std.LawfulEqCmp.eq_of_compare heq
      rw [if_pos ⟨heq, hmap⟩, Std.TreeMap.getElem?_eq_none hmap, Option.map_some, hindex]
      simp [eq_comm]
    · have hne : name' ≠ name := by
        rintro rfl
        exact heq Std.ReflCmp.compare_self
      rw [if_neg fun hin => heq hin.1]
      simp [hne]
  · intro n
    rw [Std.TreeMap.mem_insertIfNew, h.settings, List.length_append, List.length_singleton,
      Std.LawfulEqCmp.compare_eq_iff_eq, ← UInt16.toNat_inj, hindex]
    omega
  · intro n p hp
    rw [Std.TreeMap.getElem?_insertIfNew] at hp
    split at hp
    · rename_i heq
      cases Std.LawfulEqCmp.eq_of_compare heq.1
      cases hp
      refine ⟨_, rfl, ?_, ?_⟩
      · have hlt := s.index.toNat_lt
        exact UInt32.toNat_ofNat_of_lt' (Nat.lt_trans hlt (by decide))
      · rw [hindex]
        exact List.getElem?_concat_length
    · obtain ⟨v, hv, hvindex, hname⟩ := h.values n p hp
      exact ⟨v, hv, hvindex, getElem?_append_of_some hname _⟩
  · rw [List.length_append, List.length_append, h.bitmap]
    rfl
  · intro k
    rw [← h.changed, getElem?_concat_eq_some]
    simp

/-- The 65537th name gets the index 0 again. -/
theorem not_addAttribute (h : Coherent s a) {name : String} (hnew : name ∉ a.names)
    (hfull : 2 ^ 16 ≤ a.names.length) (size : UInt32) (type : DataType) (allocated : Bool)
    (changed : Set Nat) :
    ¬ Coherent (s.addAttribute name size type allocated) ⟨a.names ++ [name], changed⟩ := by
  intro hadded
  have hmap : name ∉ s.mapAttributeNameIndex :=
    fun hmem => hnew ((h.mem_nameIndex_iff name).mp hmem)
  have hget : ((s.addAttribute name size type allocated).mapAttributeNameIndex[name]?).map
      UInt16.toNat = some s.index.toNat := by
    unfold AttributesSetting.addAttribute
    rw [if_neg hmap, Std.TreeMap.getElem?_insertIfNew, if_pos ⟨Std.ReflCmp.compare_self, hmap⟩]
    rfl
  have hlt := s.index.toNat_lt
  rcases of_getElem?_concat ((hadded.nameIndex _ _).mp hget) with hold | ⟨hlast, -⟩
  · exact hnew (List.mem_of_getElem? hold)
  · omega

theorem setValue_cases (v : ValueSetting) (value : List UInt8) :
    (∃ v', v.setValue value = .ok v' ∧ v'.index = v.index ∧ v'.name = v.name) ∨
      v.setValue value = .error .undefined := by
  unfold ValueSetting.setValue
  dsimp only
  split
  · exact .inl ⟨_, rfl, rfl, rfl⟩
  · split
    · exact .inl ⟨_, rfl, rfl, rfl⟩
    · exact .inr rfl

/-- The value of an index that is there is set, or the call does not come back. -/
theorem setValueForAttribute (h : Coherent s a) (hn : n.toNat < a.names.length)
    (value : List UInt8) (hback : (s.setValueForAttribute n value).2 ≠ .error .undefined) :
    Coherent (s.setValueForAttribute n value).1 (a.setBit n.toNat true) := by
  obtain ⟨v, hv, hpointer, hindex, -⟩ := h.exists_value hn
  unfold AttributesSetting.setValueForAttribute at *
  rw [hpointer] at hback ⊢
  rcases setValue_cases v value with ⟨v', hset, hsame, hname⟩ | hset
  · simp only [hset]
    exact ((h.store hv hsame hname).setBit (hsame ▸ hindex) hn true).2
  · simp only [hset] at hback
    exact absurd rfl hback

theorem setNewSize (h : Coherent s a) (hn : n.toNat < a.names.length) (new_size : UInt32)
    (found : Option (Nat → UInt8)) : Coherent (s.setNewSize n new_size found).1 a := by
  obtain ⟨v, hv, hpointer, -, -⟩ := h.exists_value hn
  have hkept : (v.setNewSize new_size found).1.index = v.index ∧
      (v.setNewSize new_size found).1.name = v.name := by
    unfold ValueSetting.setNewSize
    split <;> exact ⟨rfl, rfl⟩
  unfold AttributesSetting.setNewSize
  rw [hpointer]
  exact h.store hv hkept.1 hkept.2

/-- `getValueSettingForIndex` throws where the index is not there. -/
theorem mark (h : Coherent s a) (n : UInt16) (bit : Bool) :
    if n.toNat < a.names.length then
      (s.mark n bit).2 = .ok () ∧ Coherent (s.mark n bit).1 (a.setBit n.toNat bit)
    else ∃ ex, s.mark n bit = (s, .error (.thrown ex)) := by
  unfold AttributesSetting.mark AttributesSetting.getValueSettingForIndex
  split
  · rename_i hn
    obtain ⟨v, -, hpointer, hindex, -⟩ := h.exists_value hn
    rw [if_pos ((h.settings n).mpr hn), hpointer]
    exact h.setBit hindex hn bit
  · rename_i hn
    rw [if_neg fun hmem => hn ((h.settings n).mp hmem)]
    exact ⟨_, rfl⟩

/-- A call through the index operator, for an index that is not there. -/
theorem pointer_eq_none (h : Coherent s a) (hn : ¬ n.toNat < a.names.length) :
    pointer s.mapAttributeIndexSettings n = none :=
  pointer_of_not_mem fun hmem => hn ((h.settings n).mp hmem)

end Coherent

/-! ## Every call -/

theorem KeepsCoherent.of_coherent {c : AttributesCall}
    (hcoherent : (s.call c).2 ≠ .error .undefined → Coherent (s.call c).1 (a.call c))
    (hrefused : ∀ n, c.index = some n → ¬ n.toNat < a.names.length →
      ∃ ex, s.call c = (s, .error (.thrown ex))) : KeepsCoherent (s, a) c :=
  ⟨hcoherent, fun hback => (hcoherent hback).givesChanged, hrefused⟩

/-- A call that must be refused, and does not come back. -/
theorem KeepsCoherent.not_of_undefined {c : AttributesCall} (hindex : c.index = some n)
    (hn : ¬ n.toNat < a.names.length) (h : (s.call c).2 = .error .undefined) :
    ¬ KeepsCoherent (s, a) c := by
  intro hkeeps
  obtain ⟨ex, hex⟩ := hkeeps.refused n hindex hn
  rw [hex] at h
  cases h

/-- A call keeps the set coherent just when the index that it needs is there. -/
theorem keepsCoherent_iff (h : Coherent s a) (c : AttributesCall) :
    KeepsCoherent (s, a) c ↔ IndexIsThere (s, a) c := by
  cases c with
  | addAttribute name size type allocated =>
    by_cases hold : name ∈ a.names
    · refine iff_of_true (.of_coherent ?_ nofun) fun hnew => absurd hold hnew
      intro _
      have hmem := (h.mem_nameIndex_iff name).mpr hold
      simp only [AttributesSetting.call, AttributesSetting.addAttribute, if_pos hmem,
        Attributes.call, if_pos hold]
      exact h
    · by_cases hroom : a.names.length < 2 ^ 16
      · refine iff_of_true (.of_coherent ?_ nofun) fun _ => hroom
        intro _
        simp only [Attributes.call, if_neg hold]
        exact h.addAttribute hold hroom size type allocated
      · refine iff_of_false ?_ fun hthere => hroom (hthere hold)
        intro hkeeps
        have hcoherent := hkeeps.coherent nofun
        simp only [Attributes.call, if_neg hold] at hcoherent
        exact h.not_addAttribute hold (Nat.le_of_not_lt hroom) _ _ _ _ hcoherent
  | setValueForAttribute n value =>
    by_cases hn : n.toNat < a.names.length
    · refine iff_of_true (.of_coherent (h.setValueForAttribute hn value) ?_) hn
      rintro m ⟨⟩ hout
      exact absurd hn hout
    · refine iff_of_false (KeepsCoherent.not_of_undefined rfl hn ?_) hn
      simp only [AttributesSetting.call, AttributesSetting.setValueForAttribute,
        h.pointer_eq_none hn]
  | setNewSize n new_size found =>
    by_cases hn : n.toNat < a.names.length
    · refine iff_of_true (.of_coherent (fun _ => h.setNewSize hn new_size found) ?_) hn
      rintro m ⟨⟩ hout
      exact absurd hn hout
    · refine iff_of_false (KeepsCoherent.not_of_undefined rfl hn ?_) hn
      simp only [AttributesSetting.call, AttributesSetting.setNewSize, h.pointer_eq_none hn]
      rfl
  | mark n bit =>
    have hmark := h.mark n bit
    refine iff_of_true (.of_coherent ?_ ?_) trivial
    · intro _
      split at hmark
      · exact hmark.2
      · rename_i hn
        obtain ⟨ex, hex⟩ := hmark
        simp only [AttributesSetting.call, Attributes.call, hex, Attributes.setBit, if_neg hn]
        exact h
    · rintro m ⟨⟩ hn
      rw [if_neg hn] at hmark
      exact hmark
  | markAllAsChanged =>
    refine iff_of_true (.of_coherent (fun _ => ?_) nofun) trivial
    exact h.setAll true fun k => ⟨fun hk => ⟨rfl, hk⟩, And.right⟩
  | resetChangedIndex =>
    refine iff_of_true (.of_coherent (fun _ => ?_) nofun) trivial
    exact h.setAll false fun k => ⟨False.elim, fun hk => nomatch hk.1⟩
  | deinit => exact iff_of_true (.of_coherent (fun _ => Coherent.create) nofun) trivial

/-- The set stays coherent in just the runs that leave an index for each new name and set no
value of an index that is not there. -/
theorem attributes_are_coherent_iff (calls : List AttributesCall) :
    RunOk attributesStep KeepsCoherent (.create, .empty) calls ↔
      RunOk attributesStep IndexIsThere (.create, .empty) calls := by
  refine runOk_congr (fun (sa : AttributesSetting × Attributes) => Coherent sa.1 sa.2)
    (fun sa c h => keepsCoherent_iff h c) ?_
    Coherent.create
  rintro ⟨s, a⟩ c ⟨s', a'⟩ - hok hstep
  unfold attributesStep at hstep
  split at hstep
  · cases hstep
  · rename_i hback heq
    cases hstep
    have hcoherent := hok.coherent
    dsimp only at hcoherent heq
    rw [heq] at hcoherent
    exact hcoherent hback

/-- A value for an index of no attribute puts a NULL into the set. -/
theorem set_value_of_no_attribute :
    ¬ RunOk attributesStep KeepsCoherent (.create, .empty) [.setValueForAttribute 0 [1]] ∧
      ¬ RunOk attributesStep KeepsCoherent (.create, .empty) [.setNewSize 0 8 none] := by
  constructor
  · rintro ⟨hset, -⟩
    obtain ⟨ex, hex⟩ := hset.refused 0 rfl (by decide)
    cases congrArg Prod.snd hex
  · rintro ⟨hset, -⟩
    obtain ⟨ex, hex⟩ := hset.refused 0 rfl (by decide)
    cases congrArg Prod.snd hex

end chaos.common.data.cache
