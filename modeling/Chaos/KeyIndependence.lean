-- The keys of a group are independent just as long as their number fits the index of a channel.
-- The sizes for the memory pool start from what the memory held, and a length of 0 is taken for
-- a size that was never set.
import Chaos.KeyGroupCache
import Chaos.NumberedList
import Chaos.Runs
import Mathlib.Data.List.Induction

open runs numbered_list

namespace chaos.common.data.cache

open chaos.utility

/-! ## What is claimed -/

/-- The arguments of one `addKeyInfo`. -/
structure KeyInfo where
  key : String
  type : DataType
  channelMaxLength : UInt32

def KeyInfo.length (k : KeyInfo) : UInt32 := channelLength k.channelMaxLength k.type

/-- The first in the order among the lengths. -/
def Extreme (le : UInt32 → UInt32 → Prop) (lengths : List UInt32) (l : UInt32) : Prop :=
  l ∈ lengths ∧ ∀ l' ∈ lengths, le l l'

/-- An update with the length does not leave the slab. -/
def Channel.Writable (ch : Channel) (legth : UInt32) : Prop :=
  ch.slabs.rwPtr ch.slabs.writeIndex ≠ none ∧ legth ≤ ch.slabs.maxLength

namespace KeyGroupCache

def addKeys (s : KeyGroupCache) (keys : List KeyInfo) : KeyGroupCache :=
  keys.foldl (fun s k => (s.addKeyInfo k.key k.type k.channelMaxLength).1) s

variable (s : KeyGroupCache)

/-- The cache that the calls for the key use. -/
def cacheOf (key : String) : Option Nat :=
  s.channelInfoMap[key]?.bind fun chInfo => s.chCachePtrArray[chInfo.index.toNat]?.join

/-- The value that is read for the key. -/
def valueRead (key : String) : Option (Nat → UInt8) :=
  ((s.cacheOf key).bind s.caches).bind fun ch =>
    (ch.slabs.rwPtr ch.slabs.readIndex).map ch.bytes

/-- Distinct keys have distinct indexes, and each key has a cache that no other one has. -/
structure OwnCaches (keys : List KeyInfo) : Prop where
  indexes : ∀ k ∈ keys, ∀ k' ∈ keys, ∀ chInfo chInfo',
    s.channelInfoMap[k.key]? = some chInfo → s.channelInfoMap[k'.key]? = some chInfo' →
      chInfo.index = chInfo'.index → k.key = k'.key
  caches : ∀ k ∈ keys, ∃ c, s.cacheOf k.key = some c ∧ s.caches c ≠ none
  own : ∀ k ∈ keys, ∀ k' ∈ keys, s.cacheOf k.key = s.cacheOf k'.key → k.key = k'.key

/-- An update ends, and what is read for the other keys stays. -/
def KeepsOthers : KeyCall → Prop
  | .updateKeyValue key value legth given =>
    ∃ t, s.updateKeyValue key value legth given = some t ∧
      ∀ other, other ≠ key → t.valueRead other = s.valueRead other
  | .updateKeyIndex keyIndex value legth given =>
    ∃ t, s.updateKeyIndex keyIndex value legth given = some t ∧
      ∀ other, (∀ chInfo, s.channelInfoMap[other]? = some chInfo →
        chInfo.index.toUInt16 ≠ keyIndex) → t.valueRead other = s.valueRead other
  | _ => True

end KeyGroupCache

/-- The group is made, with the two sizes of the keys, the caches are apart in every state that any
calls reach, and the updates of these calls keep the values of the other keys. -/
structure KeysIndependent (minimum maximum : UInt32) (keys : List KeyInfo)
    (answers : String → PoolAnswers) (calls : List KeyCall) (s : KeyGroupCache) : Prop where
  made : ((KeyGroupCache.new minimum maximum).addKeys keys).init answers = some s
  smallest : keys ≠ [] → Extreme (· ≤ ·) (keys.map KeyInfo.length) s.minimumChannelSize
  largest : keys ≠ [] → Extreme (· ≥ ·) (keys.map KeyInfo.length) s.maximumChannelSize
  apart : ∀ calls t, run KeyGroupCache.step s calls = some t → t.OwnCaches keys
  kept : RunOk KeyGroupCache.step KeyGroupCache.KeepsOthers s calls

/-! ## The condition -/

/-- What the two sizes hold at first comes between the lengths, and a length of 0 comes last. -/
def SizesOk (minimum maximum : UInt32) (lengths : List UInt32) : Prop :=
  (∃ l ∈ lengths, maximum ≤ l) ∧ (minimum = 0 ∨ ∃ l ∈ lengths, l ≤ minimum) ∧
    (0 ∈ lengths → lengths.getLast? = some 0)

/-- A channel that is given a slab has a length to which the head can be added. -/
def SlabsOk (keys : List KeyInfo) (answers : String → PoolAnswers) : Prop :=
  ∀ k ∈ keys, (answers k.key).first || (answers k.key).second →
    k.length.toNat + sizeof_SlbCachedInfo.toNat < 2 ^ 32

namespace KeyGroupCache

def IndexOk (s : KeyGroupCache) (keyIndex : UInt16) (legth : UInt32) : Prop :=
  match s.chCachePtrArray[keyIndex.toNat]? with
  | none => False
  | some none => True
  | some (some c) => ∀ ch ∈ s.caches c, ch.Writable legth

/-- The array has the index, and the value fits the slab that is written. -/
def UpdateOk (s : KeyGroupCache) : KeyCall → Prop
  | .updateKeyValue key _ legth _ =>
    ∀ chInfo ∈ s.channelInfoMap[key]?, s.IndexOk chInfo.index.toUInt16 legth
  | .updateKeyIndex keyIndex _ legth _ => s.IndexOk keyIndex legth
  | _ => True

end KeyGroupCache

/-! ## The two sizes -/

section Sizes

variable {le : UInt32 → UInt32 → Prop} {a m : UInt32} {lengths : List UInt32}

/-- The first of some lengths and one more is the first of the lengths just when one of them comes
before the one more. -/
theorem extreme_of_cons (h : Extreme le (a :: lengths) m)
    (hanti : ∀ a b, le a b → le b a → a = b) :
    Extreme le lengths m ↔ ∃ l ∈ lengths, le l a := by
  obtain ⟨hm, hall⟩ := h
  constructor
  · rintro ⟨hin, -⟩
    exact ⟨m, hin, hall a List.mem_cons_self⟩
  · rintro ⟨l, hl, hla⟩
    refine ⟨?_, fun l' hl' => hall l' (List.mem_cons_of_mem a hl')⟩
    rcases List.mem_cons.mp hm with rfl | hin
    · exact hanti l m hla (hall l (List.mem_cons_of_mem m hl)) ▸ hl
    · exact hin

/-- What `addKeyInfo` does with the two sizes. -/
def sizes (p : UInt32 × UInt32) (l : UInt32) : UInt32 × UInt32 :=
  (min l (if p.1 = 0 then max l p.2 else p.1), max l p.2)

theorem uint32_max_cases (a b : UInt32) : max a b = a ∧ b ≤ a ∨ max a b = b ∧ a ≤ b := by
  change (if a ≤ b then b else a) = a ∧ b ≤ a ∨ (if a ≤ b then b else a) = b ∧ a ≤ b
  split <;> rename_i h
  · exact .inr ⟨rfl, h⟩
  · exact .inl ⟨rfl, (UInt32.le_total b a).resolve_right h⟩

theorem uint32_min_cases (a b : UInt32) : min a b = a ∧ a ≤ b ∨ min a b = b ∧ b ≤ a := by
  change (if a ≤ b then a else b) = a ∧ a ≤ b ∨ (if a ≤ b then a else b) = b ∧ b ≤ a
  split <;> rename_i h
  · exact .inl ⟨rfl, h⟩
  · exact .inr ⟨rfl, (UInt32.le_total b a).resolve_right h⟩

theorem sizes_fst (p : UInt32 × UInt32) (l : UInt32) :
    (sizes p l).1 = if p.1 = 0 then l else min l p.1 := by
  unfold sizes
  split
  · rcases uint32_max_cases l p.2 with ⟨hm, -⟩ | ⟨hm, hle⟩
    · rw [hm]
      rcases uint32_min_cases l l with ⟨h, -⟩ | ⟨h, -⟩ <;> exact h
    · rw [hm]
      rcases uint32_min_cases l p.2 with ⟨h, -⟩ | ⟨h, hge⟩
      · exact h
      · exact h.trans (UInt32.le_antisymm hge hle)
  · rfl

/-- The largest size is the largest of the lengths and of what it was at first. -/
theorem foldl_sizes_snd (p : UInt32 × UInt32) :
    Extreme (· ≥ ·) (p.2 :: lengths) (lengths.foldl sizes p).2 := by
  induction lengths generalizing p with
  | nil => exact ⟨List.mem_singleton_self p.2, by simp⟩
  | cons l lengths ih =>
    obtain ⟨hmem, hall⟩ := ih (sizes p l)
    have hmax : (sizes p l).2 ≤ (lengths.foldl sizes (sizes p l)).2 := hall _ List.mem_cons_self
    have hrest : ∀ l' ∈ lengths, l' ≤ (lengths.foldl sizes (sizes p l)).2 := fun l' h =>
      hall l' (List.mem_cons_of_mem _ h)
    simp only [List.foldl_cons, Extreme, List.mem_cons, forall_eq_or_imp] at hmem ⊢
    rcases uint32_max_cases l p.2 with ⟨hm, hle⟩ | ⟨hm, hle⟩
    · have hl : (sizes p l).2 = l := hm
      rw [hl] at hmem hmax
      exact ⟨.inr hmem, UInt32.le_trans hle hmax, hmax, hrest⟩
    · have hl : (sizes p l).2 = p.2 := hm
      rw [hl] at hmem hmax
      exact ⟨hmem.imp_right .inr, hmax, UInt32.le_trans hle hmax, hrest⟩

/-- Without a length of 0, a smallest size that was set is the smallest of the lengths and of what
it was. -/
theorem foldl_sizes_fst {p : UInt32 × UInt32} (hp : p.1 ≠ 0) (hne : 0 ∉ lengths) :
    Extreme (· ≤ ·) (p.1 :: lengths) (lengths.foldl sizes p).1 := by
  induction lengths generalizing p with
  | nil => exact ⟨List.mem_singleton_self p.1, by simp⟩
  | cons l lengths ih =>
    obtain ⟨hl0, hne⟩ := not_or.mp (mt List.mem_cons.mpr hne)
    have hfst : (sizes p l).1 = min l p.1 := by rw [sizes_fst, if_neg hp]
    have h0 : (sizes p l).1 ≠ 0 := by
      rw [hfst]
      rcases uint32_min_cases l p.1 with ⟨h, -⟩ | ⟨h, -⟩
      · rw [h]
        exact Ne.symm hl0
      · rw [h]
        exact hp
    obtain ⟨hmem, hall⟩ := ih h0 hne
    have hmin : (lengths.foldl sizes (sizes p l)).1 ≤ (sizes p l).1 := hall _ List.mem_cons_self
    have hrest : ∀ l' ∈ lengths, (lengths.foldl sizes (sizes p l)).1 ≤ l' := fun l' h =>
      hall l' (List.mem_cons_of_mem _ h)
    rw [hfst] at hmem hmin
    simp only [List.foldl_cons, Extreme, List.mem_cons, forall_eq_or_imp] at hmem ⊢
    rcases uint32_min_cases l p.1 with ⟨hm, hle⟩ | ⟨hm, hle⟩
    · rw [hm] at hmem hmin
      exact ⟨.inr hmem, UInt32.le_trans hmin hle, hmin, hrest⟩
    · rw [hm] at hmem hmin
      exact ⟨hmem.imp_right .inr, hmin, UInt32.le_trans hmin hle, hrest⟩

theorem largest_iff (p : UInt32 × UInt32) :
    Extreme (· ≥ ·) lengths (lengths.foldl sizes p).2 ↔ ∃ l ∈ lengths, p.2 ≤ l :=
  extreme_of_cons (foldl_sizes_snd p) fun _ _ hab hba => UInt32.le_antisymm hba hab

/-- With a length of 0 the smallest size is right when it comes last, since an earlier one is
taken for a size that was never set. -/
theorem foldl_sizes_of_zero (p : UInt32 × UInt32) (h0 : 0 ∈ lengths) :
    Extreme (· ≤ ·) lengths (lengths.foldl sizes p).1 ↔ lengths.getLast? = some 0 := by
  have hzero : ∀ a : UInt32, 0 ≤ a := fun a => UInt32.le_iff_toNat_le.mpr (Nat.zero_le _)
  have hext : ∀ a, Extreme (· ≤ ·) lengths a ↔ a = 0 := fun a =>
    ⟨fun h => UInt32.le_antisymm (h.2 0 h0) (hzero a), fun h => h ▸ ⟨h0, fun l _ => hzero l⟩⟩
  rw [hext]
  cases lengths using List.reverseRecOn with
  | nil => cases h0
  | append_singleton lengths l =>
    rw [List.foldl_append, List.foldl_cons, List.foldl_nil, sizes_fst, List.getLast?_concat,
      Option.some.injEq]
    split
    · rfl
    · rename_i hp
      rcases uint32_min_cases l (lengths.foldl sizes p).1 with ⟨hm, -⟩ | ⟨hm, hle⟩
      · rw [hm]
      · rw [hm]
        refine ⟨fun h => absurd h hp, fun h => ?_⟩
        exact UInt32.le_antisymm (h ▸ hle) (hzero _)

theorem smallest_iff (p : UInt32 × UInt32) (hne : lengths ≠ []) :
    Extreme (· ≤ ·) lengths (lengths.foldl sizes p).1 ↔
      (p.1 = 0 ∨ ∃ l ∈ lengths, l ≤ p.1) ∧ (0 ∈ lengths → lengths.getLast? = some 0) := by
  by_cases h0 : 0 ∈ lengths
  · have hex : ∃ l ∈ lengths, l ≤ p.1 := ⟨0, h0, UInt32.le_iff_toNat_le.mpr (Nat.zero_le _)⟩
    rw [foldl_sizes_of_zero p h0]
    exact ⟨fun h => ⟨.inr hex, fun _ => h⟩, fun h => h.2 h0⟩
  · simp only [h0, false_implies, and_true]
    by_cases hp : p.1 = 0
    · obtain ⟨l, rest, rfl⟩ := List.exists_cons_of_ne_nil hne
      obtain ⟨hl0, hrest⟩ := not_or.mp (mt List.mem_cons.mpr h0)
      have hfst : (sizes p l).1 = l := by rw [sizes_fst, if_pos hp]
      have h := foldl_sizes_fst (hfst ▸ Ne.symm hl0) hrest
      rw [hfst] at h
      exact ⟨fun _ => .inl hp, fun _ => h⟩
    · rw [extreme_of_cons (foldl_sizes_fst hp h0) fun _ _ => UInt32.le_antisymm]
      exact ⟨.inr, fun h => h.resolve_left hp⟩

end Sizes

/-! ## The keys in the map -/

section Keys

variable {minimum maximum : UInt32} {keys : List KeyInfo} {s t : KeyGroupCache}

/-- The group after the keys: the map has each key under its number, cut to a byte. -/
structure Added (minimum maximum : UInt32) (keys : List KeyInfo) (s : KeyGroupCache) : Prop where
  state : s.serviceState = .IS_DEINTIATED
  size : s.channelInfoMap.size = keys.length
  infos : ∀ key chInfo, s.channelInfoMap[key]? = some chInfo ↔ ∃ (i : Nat) (k : KeyInfo),
    keys[i]? = some k ∧ k.key = key ∧ chInfo = ⟨.ofNat i, k.length, k.type⟩
  sizes : (s.minimumChannelSize, s.maximumChannelSize) =
    (keys.map KeyInfo.length).foldl sizes (minimum, maximum)
  caches : s.caches = fun _ => none

theorem added_new (minimum maximum : UInt32) :
    Added minimum maximum [] (.new minimum maximum) where
  state := rfl
  size := Std.TreeMap.size_emptyc
  infos key chInfo := by
    rw [KeyGroupCache.new, Std.TreeMap.getElem?_emptyc]
    simp
  sizes := rfl
  caches := rfl

/-- One more key. -/
theorem Added.addKeyInfo (h : Added minimum maximum keys s) (k : KeyInfo)
    (hnew : k.key ∉ keys.map KeyInfo.key) :
    Added minimum maximum (keys ++ [k]) (s.addKeyInfo k.key k.type k.channelMaxLength).1 := by
  have hmem : k.key ∉ s.channelInfoMap := by
    rw [Std.TreeMap.mem_iff_isSome_getElem?, Option.isSome_iff_exists]
    rintro ⟨chInfo, hget⟩
    obtain ⟨i, k', hi, hk, -⟩ := (h.infos k.key chInfo).mp hget
    exact hnew (hk ▸ List.mem_map_of_mem (List.mem_of_getElem? hi))
  rw [KeyGroupCache.addKeyInfo, if_neg (not_not.mpr h.state), if_neg hmem]
  constructor
  · exact h.state
  · rw [Std.TreeMap.size_insertIfNew, if_neg hmem, h.size, List.length_append,
      List.length_singleton]
  · intro key chInfo
    rw [Std.TreeMap.getElem?_insertIfNew]
    simp only [getElem?_concat_eq_some]
    by_cases hk : k.key = key
    · subst hk
      rw [if_pos ⟨Std.ReflCmp.compare_self, hmem⟩, h.size, Option.some.injEq]
      constructor
      · rintro rfl
        exact ⟨keys.length, k, .inr ⟨rfl, rfl⟩, rfl, rfl⟩
      · rintro ⟨i, k', hi | ⟨rfl, rfl⟩, hk, rfl⟩
        · exact absurd (hk ▸ List.mem_map_of_mem (List.mem_of_getElem? hi)) hnew
        · rfl
    · rw [if_neg fun hc => hk (Std.LawfulEqCmp.eq_of_compare hc.1), h.infos]
      constructor
      · rintro ⟨i, k', hi, hrest⟩
        exact ⟨i, k', .inl hi, hrest⟩
      · rintro ⟨i, k', hi | ⟨-, rfl⟩, hrest⟩
        · exact ⟨i, k', hi, hrest⟩
        · exact absurd hrest.1 hk
  · rw [List.map_append, List.foldl_append, ← h.sizes]
    rfl
  · exact h.caches

theorem added_addKeys (minimum maximum : UInt32) (hnd : (keys.map KeyInfo.key).Nodup) :
    Added minimum maximum keys ((KeyGroupCache.new minimum maximum).addKeys keys) := by
  induction keys using List.reverseRecOn with
  | nil => exact added_new minimum maximum
  | append_singleton keys k ih =>
    rw [List.map_append, List.map_singleton, List.nodup_append] at hnd
    rw [KeyGroupCache.addKeys, List.foldl_append]
    refine (ih hnd.1).addKeyInfo k fun hin => ?_
    exact hnd.2.2 k.key hin k.key (List.mem_singleton_self k.key) rfl

/-! ## The caches in the array -/

/-- The group in the loop of `init`, with the keys `done` so far. -/
structure Made (answers : String → PoolAnswers) (s : KeyGroupCache)
    (done : List (String × ChannelInfo)) (t : KeyGroupCache) : Prop where
  map : t.channelInfoMap = s.channelInfoMap
  minimum : t.minimumChannelSize = s.minimumChannelSize
  maximum : t.maximumChannelSize = s.maximumChannelSize
  length : t.chCachePtrArray.length = s.channelInfoMap.size
  made : ∀ e ∈ done, ∃ c ch, t.chCachePtrArray[e.2.index.toNat]? = some (some c) ∧
    t.caches c = some ch ∧ Channel.init e.2.maxLength (answers e.1) = some ch
  below : ∀ (i c : Nat), t.chCachePtrArray[i]? = some (some c) → c < t.next
  own : ∀ (i j c : Nat), t.chCachePtrArray[i]? = some (some c) →
    t.chCachePtrArray[j]? = some (some c) → i = j

theorem Made.makeCache {answers : String → PoolAnswers} {done : List (String × ChannelInfo)}
    {e : String × ChannelInfo} {u : KeyGroupCache} (h : Made answers s done t)
    (hin : e.2.index.toNat < s.channelInfoMap.size)
    (hnew : ∀ d ∈ done, d.2.index.toNat ≠ e.2.index.toNat)
    (hu : t.makeCache answers e = some u) : Made answers s (done ++ [e]) u := by
  obtain ⟨ch, hch, rfl⟩ := Option.map_eq_some_iff.mp hu
  rw [← h.length] at hin
  have hfresh : ∀ i, t.chCachePtrArray[i]? ≠ some (some t.next) := fun i hi =>
    Nat.lt_irrefl _ (h.below i t.next hi)
  constructor
  · exact h.map
  · exact h.minimum
  · exact h.maximum
  · rw [← h.length]
    exact List.length_set
  · intro d hd
    rcases List.mem_append.mp hd with hd | hd
    · obtain ⟨c, ch', hc, hch', hinit⟩ := h.made d hd
      have hne : c ≠ t.next := fun heq => hfresh _ (heq ▸ hc)
      refine ⟨c, ch', ?_, ?_, hinit⟩
      · rw [List.getElem?_set_ne (hnew d hd).symm, hc]
      · exact (Function.update_of_ne hne _ _).trans hch'
    · cases List.mem_singleton.mp hd
      exact ⟨t.next, ch, List.getElem?_set_self hin, Function.update_self .., hch⟩
  · intro i c hi
    rcases of_getElem?_set hi with ⟨-, hc⟩ | ⟨-, hi⟩
    · cases hc
      exact Nat.lt_succ_self t.next
    · exact Nat.lt_succ_of_lt (h.below i c hi)
  · intro i j c hi hj
    rcases of_getElem?_set hi with ⟨rfl, hc⟩ | ⟨-, hi⟩
    · cases hc
      exact (of_getElem?_set hj).elim (fun h => h.1.symm) fun h => absurd h.2 (hfresh j)
    · rcases of_getElem?_set hj with ⟨rfl, hc⟩ | ⟨-, hj⟩
      · cases hc
        exact absurd hi (hfresh i)
      · exact h.own i j c hi hj

/-- The loop over the rest of the keys. -/
theorem Made.foldlM {answers : String → PoolAnswers} {done rest : List (String × ChannelInfo)}
    {u : KeyGroupCache} (h : Made answers s done t)
    (hin : ∀ e ∈ rest, e.2.index.toNat < s.channelInfoMap.size)
    (hnew : (done ++ rest).Pairwise fun d e => d.2.index.toNat ≠ e.2.index.toNat)
    (hu : rest.foldlM (fun s e => s.makeCache answers e) t = some u) :
    Made answers s (done ++ rest) u := by
  induction rest generalizing done t with
  | nil =>
    cases hu
    rw [List.append_nil]
    exact h
  | cons e rest ih =>
    rw [List.foldlM_cons] at hu
    obtain ⟨v, hv, hu⟩ := Option.bind_eq_some_iff.mp hu
    have hdone : ∀ d ∈ done, d.2.index.toNat ≠ e.2.index.toNat := fun d hd =>
      (List.pairwise_append.mp hnew).2.2 d hd e List.mem_cons_self
    have hv := h.makeCache (hin e List.mem_cons_self) hdone hv
    rw [List.append_cons] at hnew ⊢
    exact ih hv (fun d hd => hin d (List.mem_cons_of_mem e hd)) hnew hu

/-- The loop ends just when each channel is made. -/
theorem foldlM_makeCache {answers : String → PoolAnswers} {rest : List (String × ChannelInfo)} :
    (∃ u, rest.foldlM (fun s e => s.makeCache answers e) t = some u) ↔
      ∀ e ∈ rest, Channel.init e.2.maxLength (answers e.1) ≠ none := by
  induction rest generalizing t with
  | nil => simp
  | cons e rest ih =>
    rw [List.forall_mem_cons, List.foldlM_cons, KeyGroupCache.makeCache]
    cases hinit : Channel.init e.2.maxLength (answers e.1) with
    | none => simp
    | some ch =>
      rw [Option.map_some, Option.bind_eq_bind, Option.bind_some, ih]
      simp

/-- Neither the map nor the sizes are changed by `init`. -/
theorem init_map {answers : String → PoolAnswers} (h : s.init answers = some t) :
    t.channelInfoMap = s.channelInfoMap := by
  have hloop : ∀ (rest : List (String × ChannelInfo)) (u : KeyGroupCache),
      rest.foldlM (fun s e => s.makeCache answers e) u = some t →
        t.channelInfoMap = u.channelInfoMap := by
    intro rest
    induction rest with
    | nil => exact fun u hu => congrArg KeyGroupCache.channelInfoMap (Option.some.inj hu).symm
    | cons e rest ih =>
      intro u hu
      rw [List.foldlM_cons] at hu
      obtain ⟨v, hv, hu⟩ := Option.bind_eq_some_iff.mp hu
      obtain ⟨ch, -, rfl⟩ := Option.map_eq_some_iff.mp hv
      have hrest := ih _ hu
      exact hrest
  have hall := hloop _ _ h
  exact hall

theorem toNat_index {i : Nat} (hfew : keys.length ≤ 256) (hi : i < keys.length) :
    (UInt8.ofNat i).toNat = i := by
  rw [UInt8.toNat_ofNat']
  exact Nat.mod_eq_of_lt (by omega)

/-- With at most 256 keys the loop writes each place of the array once. -/
theorem Added.init {answers : String → PoolAnswers} (h : Added minimum maximum keys s)
    (hfew : keys.length ≤ 256) (ht : s.init answers = some t) :
    Made answers s s.channelInfoMap.toList t := by
  have hindex : ∀ e ∈ s.channelInfoMap.toList, ∃ (i : Nat) (k : KeyInfo), keys[i]? = some k ∧
      k.key = e.1 ∧ e.2.index.toNat = i ∧ i < keys.length := by
    rintro ⟨key, chInfo⟩ he
    obtain ⟨i, k, hi, hk, rfl⟩ :=
      (h.infos key chInfo).mp (Std.TreeMap.mem_toList_iff_getElem?_eq_some.mp he)
    have hlt := (List.getElem?_eq_some_iff.mp hi).1
    exact ⟨i, k, hi, hk, toNat_index hfew hlt, hlt⟩
  have hstart : Made answers s []
      { s with chCachePtrArray := List.replicate s.channelInfoMap.size none } := by
    refine ⟨rfl, rfl, rfl, List.length_replicate, by simp, ?_, ?_⟩
    · intro i c hi
      cases List.eq_of_mem_replicate (List.mem_of_getElem? hi)
    · intro i j c hi
      cases List.eq_of_mem_replicate (List.mem_of_getElem? hi)
  refine hstart.foldlM ?_ ?_ ht
  · intro e he
    obtain ⟨i, k, -, -, hi, hlt⟩ := hindex e he
    rw [hi, h.size]
    exact hlt
  · refine Std.TreeMap.distinct_keys_toList.imp_of_mem fun {d e} hd he hne heq => hne ?_
    obtain ⟨i, k, hk, hkey, hi, -⟩ := hindex d hd
    obtain ⟨j, k', hk', hkey', hj, -⟩ := hindex e he
    rw [← hi, heq, hj, hk'] at hk
    cases hk
    rw [← hkey, ← hkey']
    exact Std.ReflCmp.compare_self

end Keys

/-! ## One channel -/

namespace Channel

variable {ch ch' : Channel} {legth : UInt32} {given : Bool} {value : Nat → UInt8}

/-- A slab of the channel has its head and its length. -/
def Fits (ch : Channel) : Prop :=
  ∀ index, ch.slabs.rwPtr index ≠ none →
    ch.slabRequiredSize.toNat = sizeof_SlbCachedInfo.toNat + ch.slabs.maxLength.toNat

theorem init_eq_none {maxLength : UInt32} {a : PoolAnswers} :
    init maxLength a = none ↔
      (a.first || a.second) ∧ 2 ^ 32 ≤ maxLength.toNat + sizeof_SlbCachedInfo.toNat := by
  have hsize : sizeof_SlbCachedInfo.toNat = 16 := rfl
  have hlt := maxLength.toNat_lt
  unfold init
  dsimp only
  simp only [UInt32.lt_iff_toNat_lt, UInt32.toNat_add, hsize]
  split
  · rename_i h
    exact ⟨fun _ => ⟨h.1, by omega⟩, fun _ => rfl⟩
  · rename_i h
    exact ⟨nofun, fun hc => absurd ⟨hc.1, by omega⟩ h⟩

theorem fits_init {maxLength : UInt32} {a : PoolAnswers} (h : init maxLength a = some ch) :
    ch.Fits := by
  have hsize : sizeof_SlbCachedInfo.toNat = 16 := rfl
  have hlt := maxLength.toNat_lt
  by_cases hgiven : a.first || a.second
  · have hfits : ¬ 2 ^ 32 ≤ maxLength.toNat + sizeof_SlbCachedInfo.toNat := fun hge => by
      rw [init_eq_none.mpr ⟨hgiven, hge⟩] at h
      cases h
    rw [init, if_neg fun hc => ?_] at h
    · cases h
      intro index _
      have hmax : (LFDataCache.init maxLength (fun _ => 0) a.first a.second).maxLength =
          maxLength := by
        cases hf : a.first <;> cases hs : a.second <;> rfl
      rw [hmax, UInt32.toNat_add]
      exact Nat.mod_eq_of_lt (by omega)
    · rw [UInt32.lt_iff_toNat_lt, UInt32.toNat_add] at hc
      omega
  · rw [init, if_neg fun hc => hgiven hc.1] at h
    cases h
    obtain ⟨hf, hs⟩ := Bool.or_eq_false_iff.mp (Bool.not_eq_true _ ▸ hgiven)
    intro index hne
    rw [hf, hs] at hne
    cases index <;> exact absurd rfl hne

/-- The length that is copied is at most that of the channel just when the one given is. -/
theorem copied_le_iff : ch.copied legth ≤ ch.slabs.maxLength.toNat ↔
    legth ≤ ch.slabs.maxLength := by
  unfold copied
  split
  · rename_i h
    rw [h]
    exact ⟨fun _ => UInt32.le_iff_toNat_le.mpr (Nat.zero_le _), fun _ => Nat.le_refl _⟩
  · exact UInt32.le_iff_toNat_le.symm

/-- An update that stays in the slab. -/
theorem updateValue_of_writable (h : ch.Fits) (hw : ch.Writable legth) :
    ∃ ch', ch.updateValue value legth given = some ch' ∧ ch'.Fits := by
  obtain ⟨hnull, hle⟩ := hw
  obtain ⟨slab, hslab⟩ := Option.ne_none_iff_exists'.mp hnull
  have hsize := h ch.slabs.writeIndex hnull
  have hcopied := copied_le_iff.mpr hle
  have hcall : ch.slabs.updateValue legth given = (ch.slabs.swapRWIndex given, .returned) := by
    rw [LFDataCache.updateValue, hslab]
    exact if_neg fun hlt => absurd (UInt32.lt_iff_toNat_lt.mp hlt) (Nat.not_lt.mpr hcopied)
  have hmax : (ch.slabs.swapRWIndex given).maxLength = ch.slabs.maxLength := by
    cases given <;> rfl
  unfold updateValue
  rw [hslab, hcall]
  dsimp only
  rw [if_pos (by omega)]
  refine ⟨_, rfl, fun _ _ => ?_⟩
  dsimp only
  rw [hmax, hsize]

/-- An update is defined just when it stays in the slab. -/
theorem updateValue_eq_some_iff (h : ch.Fits) :
    (∃ ch', ch.updateValue value legth given = some ch') ↔ ch.Writable legth := by
  refine ⟨?_, fun hw => (updateValue_of_writable h hw).imp fun _ h => h.1⟩
  rintro ⟨ch', hu⟩
  unfold updateValue at hu
  have hnull : ch.slabs.rwPtr ch.slabs.writeIndex ≠ none := by
    intro hnone
    rw [hnone] at hu
    cases hu
  have hsize := h ch.slabs.writeIndex hnull
  refine ⟨hnull, copied_le_iff.mp ?_⟩
  split at hu
  · cases hu
  · split at hu
    · omega
    · cases hu

theorem fits_updateValue (h : ch.Fits) (hu : ch.updateValue value legth given = some ch') :
    ch'.Fits := by
  obtain ⟨u, hu', hfits⟩ := updateValue_of_writable h ((updateValue_eq_some_iff h).mp ⟨ch', hu⟩)
  cases hu.symm.trans hu'
  exact hfits

theorem fits_getCurrentCachedPtr {slab : SlabRef} (h : ch.Fits)
    (hg : ch.getCurrentCachedPtr = some (ch', slab)) : ch'.Fits := by
  unfold getCurrentCachedPtr at hg
  cases hslab : ch.slabs.rwPtr ch.slabs.readIndex with
  | none =>
    rw [hslab] at hg
    cases hg
  | some slab =>
    rw [hslab, LFDataCache.getCurrentCachedPtr, hslab] at hg
    dsimp only at hg
    split at hg
    · rename_i heq
      split at heq
      · cases heq
      · cases heq
        cases hg
        exact h
    · cases hg

end Channel

/-! ## The calls -/

section Calls

variable {minimum maximum : UInt32} {keys : List KeyInfo} {answers : String → PoolAnswers}
  {s t : KeyGroupCache}

/-- The group between the calls: each place of the array is the cache of one key. -/
structure Grouped (keys : List KeyInfo) (s : KeyGroupCache) : Prop where
  few : keys.length ≤ 256
  infos : ∀ key chInfo, s.channelInfoMap[key]? = some chInfo ↔ ∃ (i : Nat) (k : KeyInfo),
    keys[i]? = some k ∧ k.key = key ∧ chInfo = ⟨.ofNat i, k.length, k.type⟩
  length : s.chCachePtrArray.length = keys.length
  filled : ∀ (i : Nat) (p : Option Nat), s.chCachePtrArray[i]? = some p →
    ∃ c ch, p = some c ∧ s.caches c = some ch ∧ ch.Fits
  own : ∀ (i j c : Nat), s.chCachePtrArray[i]? = some (some c) →
    s.chCachePtrArray[j]? = some (some c) → i = j

theorem Added.grouped (h : Added minimum maximum keys s) (hfew : keys.length ≤ 256)
    (ht : s.init answers = some t) : Grouped keys t := by
  have hmade := h.init hfew ht
  have hlength : t.chCachePtrArray.length = keys.length := hmade.length.trans h.size
  refine ⟨hfew, fun key chInfo => ?_, hlength, fun i p hp => ?_, hmade.own⟩
  · rw [hmade.map]
    exact h.infos key chInfo
  · have hlt : i < keys.length := hlength ▸ (List.getElem?_eq_some_iff.mp hp).1
    have hget : s.channelInfoMap[keys[i].key]? =
        some ⟨.ofNat i, keys[i].length, keys[i].type⟩ :=
      (h.infos _ _).mpr ⟨i, keys[i], List.getElem?_eq_getElem hlt, rfl, rfl⟩
    obtain ⟨c, ch, hc, hch, hinit⟩ :=
      hmade.made _ (Std.TreeMap.mem_toList_iff_getElem?_eq_some.mpr hget)
    rw [toNat_index hfew hlt, hp, Option.some.injEq] at hc
    exact ⟨c, ch, hc, hch, Channel.fits_init hinit⟩

/-- The place of a key. -/
theorem Grouped.place (h : Grouped keys s) {key : String} {chInfo : ChannelInfo}
    (hget : s.channelInfoMap[key]? = some chInfo) :
    ∃ (k : KeyInfo) (c : Nat) (ch : Channel), keys[chInfo.index.toNat]? = some k ∧ k.key = key ∧
      s.chCachePtrArray[chInfo.index.toNat]? = some (some c) ∧ s.caches c = some ch := by
  obtain ⟨i, k, hk, hkey, rfl⟩ := (h.infos key chInfo).mp hget
  have hlt := (List.getElem?_eq_some_iff.mp hk).1
  dsimp only
  rw [toNat_index h.few hlt]
  rw [← h.length] at hlt
  obtain ⟨c, ch, hc, hch, -⟩ := h.filled i _ (List.getElem?_eq_getElem hlt)
  exact ⟨k, c, ch, hk, hkey, hc ▸ List.getElem?_eq_getElem hlt, hch⟩

theorem Grouped.ownCaches (h : Grouped keys s) : s.OwnCaches keys := by
  have hthere : ∀ k ∈ keys, ∃ chInfo, s.channelInfoMap[k.key]? = some chInfo := fun k hk => by
    obtain ⟨i, hi⟩ := List.mem_iff_getElem?.mp hk
    exact ⟨_, (h.infos k.key _).mpr ⟨i, k, hi, rfl, rfl⟩⟩
  constructor
  · intro k _ k' _ chInfo chInfo' hget hget' heq
    obtain ⟨l, -, -, hl, hkey, -⟩ := h.place hget
    obtain ⟨l', -, -, hl', hkey', -⟩ := h.place hget'
    rw [heq, hl', Option.some.injEq] at hl
    rw [← hkey, ← hkey', hl]
  · intro k hk
    obtain ⟨chInfo, hget⟩ := hthere k hk
    obtain ⟨-, c, ch, -, -, hc, hch⟩ := h.place hget
    refine ⟨c, ?_, hch ▸ Option.some_ne_none ch⟩
    rw [KeyGroupCache.cacheOf, hget, Option.bind_some, hc]
    rfl
  · intro k hk k' hk' heq
    obtain ⟨chInfo, hget⟩ := hthere k hk
    obtain ⟨chInfo', hget'⟩ := hthere k' hk'
    obtain ⟨l, c, -, hl, hkey, hc, -⟩ := h.place hget
    obtain ⟨l', c', -, hl', hkey', hc', -⟩ := h.place hget'
    simp only [KeyGroupCache.cacheOf, hget, hget', Option.bind_some, hc, hc', Option.join_some,
      Option.some.injEq] at heq
    subst heq
    rw [h.own _ _ c hc hc', hl', Option.some.injEq] at hl
    rw [← hkey, ← hkey', hl]

/-- A cache of the group after a call. -/
theorem Grouped.withCache (h : Grouped keys s) (c : Nat) {ch : Channel} (hfits : ch.Fits) :
    Grouped keys { s with caches := Function.update s.caches c (some ch) } := by
  refine ⟨h.few, h.infos, h.length, fun i p hp => ?_, h.own⟩
  obtain ⟨c', ch', rfl, hch', hfits'⟩ := h.filled i p hp
  by_cases hc : c' = c
  · subst hc
    exact ⟨c', ch, rfl, Function.update_self .., hfits⟩
  · exact ⟨c', ch', rfl, (Function.update_of_ne hc _ _).trans hch', hfits'⟩

variable {keyIndex : UInt16} {value : Nat → UInt8} {legth : UInt32} {given : Bool}

/-- What an update of an index can do. -/
theorem Grouped.updateKeyIndex (h : Grouped keys s)
    (ht : s.updateKeyIndex keyIndex value legth given = some t) :
    ∃ c ch, s.chCachePtrArray[keyIndex.toNat]? = some (some c) ∧ ch.Fits ∧
      t = { s with caches := Function.update s.caches c (some ch) } := by
  unfold KeyGroupCache.updateKeyIndex at ht
  cases hp : s.chCachePtrArray[keyIndex.toNat]? with
  | none =>
    rw [hp] at ht
    cases ht
  | some p =>
    obtain ⟨c, ch, rfl, hch, hfits⟩ := h.filled _ p hp
    rw [hp] at ht
    dsimp only at ht
    rw [hch, Option.bind_some] at ht
    obtain ⟨ch', hu, rfl⟩ := Option.map_eq_some_iff.mp ht
    exact ⟨c, ch', rfl, Channel.fits_updateValue hfits hu, rfl⟩

theorem Grouped.updateKeyIndex_eq_some_iff (h : Grouped keys s) :
    (∃ t, s.updateKeyIndex keyIndex value legth given = some t) ↔ s.IndexOk keyIndex legth := by
  unfold KeyGroupCache.updateKeyIndex KeyGroupCache.IndexOk
  cases hp : s.chCachePtrArray[keyIndex.toNat]? with
  | none => simp
  | some p =>
    obtain ⟨c, ch, rfl, hch, hfits⟩ := h.filled _ p hp
    have hiff : (∃ ch', ch.updateValue value legth given = some ch') ↔ ch.Writable legth :=
      Channel.updateValue_eq_some_iff hfits
    simp [hch, ← hiff]

/-- What an update of an index does to the values of the keys. -/
theorem Grouped.valueRead_updateKeyIndex (h : Grouped keys s)
    (ht : s.updateKeyIndex keyIndex value legth given = some t) {other : String}
    (hne : ∀ chInfo, s.channelInfoMap[other]? = some chInfo → chInfo.index.toUInt16 ≠ keyIndex) :
    t.valueRead other = s.valueRead other := by
  obtain ⟨c, ch, hc, -, rfl⟩ := h.updateKeyIndex ht
  unfold KeyGroupCache.valueRead KeyGroupCache.cacheOf
  cases hget : s.channelInfoMap[other]? with
  | none => rfl
  | some chInfo =>
    obtain ⟨-, c', ch', -, -, hc', hch'⟩ := h.place hget
    have hcne : c' ≠ c := by
      rintro rfl
      have hplace := h.own _ _ c' hc' hc
      rw [← UInt8.toNat_toUInt16] at hplace
      exact hne chInfo hget (UInt16.toNat_inj.mp hplace)
    simp [hc', Function.update_of_ne hcne]

/-- An update keeps the values of the other keys just when it stays in its slab. -/
theorem Grouped.keepsOthers_iff (h : Grouped keys s) (call : KeyCall) :
    s.KeepsOthers call ↔ s.UpdateOk call := by
  cases call with
  | updateKeyValue key value legth given =>
    simp only [KeyGroupCache.KeepsOthers, KeyGroupCache.UpdateOk, KeyGroupCache.updateKeyValue]
    cases hget : s.channelInfoMap[key]? with
    | none =>
      refine ⟨fun _ => by simp, fun _ => ⟨s, rfl, fun _ _ => rfl⟩⟩
    | some chInfo =>
      simp only [Option.mem_some_iff, forall_eq']
      refine ⟨?_, fun hok => ?_⟩
      · rintro ⟨t, ht, -⟩
        exact h.updateKeyIndex_eq_some_iff.mp ⟨t, ht⟩
      · obtain ⟨t, ht⟩ := h.updateKeyIndex_eq_some_iff.mpr hok
        refine ⟨t, ht, fun other hne => h.valueRead_updateKeyIndex ht fun chInfo' hget' heq => ?_⟩
        obtain ⟨k, -, -, hk, hkey, -⟩ := h.place hget
        obtain ⟨k', -, -, hk', hkey', -⟩ := h.place hget'
        have hindex := congrArg UInt16.toNat heq
        rw [UInt8.toNat_toUInt16, UInt8.toNat_toUInt16] at hindex
        rw [hindex, hk, Option.some.injEq] at hk'
        exact hne (by rw [← hkey, ← hkey', hk'])
  | updateKeyIndex keyIndex value legth given =>
    refine ⟨?_, fun hok => ?_⟩
    · rintro ⟨t, ht, -⟩
      exact h.updateKeyIndex_eq_some_iff.mp ⟨t, ht⟩
    · obtain ⟨t, ht⟩ := h.updateKeyIndex_eq_some_iff.mpr hok
      exact ⟨t, ht, fun other hne => h.valueRead_updateKeyIndex ht hne⟩
  | getCurrentKeyValue key => exact Iff.rfl
  | getCurrentKeyIndex keyIndex => exact Iff.rfl

theorem Grouped.getCurrentKeyIndex (h : Grouped keys s) {r : Option (Nat × SlabRef)}
    (ht : s.getCurrentKeyIndex keyIndex = some (t, r)) : Grouped keys t := by
  unfold KeyGroupCache.getCurrentKeyIndex at ht
  cases hp : s.chCachePtrArray[keyIndex.toNat]? with
  | none =>
    rw [hp] at ht
    cases ht
  | some p =>
    obtain ⟨c, ch, rfl, hch, hfits⟩ := h.filled _ p hp
    rw [hp] at ht
    dsimp only at ht
    rw [hch, Option.bind_some] at ht
    obtain ⟨⟨ch', slab⟩, hg, heq⟩ := Option.map_eq_some_iff.mp ht
    cases heq
    exact h.withCache c (Channel.fits_getCurrentCachedPtr hfits hg)

theorem Grouped.step (h : Grouped keys s) {call : KeyCall}
    (ht : KeyGroupCache.step s call = some t) : Grouped keys t := by
  have hupdate : ∀ {keyIndex value legth given},
      s.updateKeyIndex keyIndex value legth given = some t → Grouped keys t := fun hu => by
    obtain ⟨c, ch, -, hfits, rfl⟩ := h.updateKeyIndex hu
    exact h.withCache c hfits
  cases call with
  | updateKeyValue key value legth given =>
    simp only [KeyGroupCache.step, KeyGroupCache.updateKeyValue] at ht
    split at ht
    · cases ht
      exact h
    · exact hupdate ht
  | updateKeyIndex keyIndex value legth given => exact hupdate ht
  | getCurrentKeyValue key =>
    obtain ⟨⟨u, r⟩, hu, rfl⟩ := Option.map_eq_some_iff.mp ht
    unfold KeyGroupCache.getCurrentKeyValue at hu
    split at hu
    · cases hu
      exact h
    · exact h.getCurrentKeyIndex hu
  | getCurrentKeyIndex keyIndex =>
    obtain ⟨⟨u, r⟩, hu, rfl⟩ := Option.map_eq_some_iff.mp ht
    exact h.getCurrentKeyIndex hu

/-- With more than 256 keys the index of the first one is given again. -/
theorem Added.not_ownCaches (h : Added minimum maximum keys s)
    (hnd : (keys.map KeyInfo.key).Nodup) (hmany : 256 < keys.length)
    (ht : s.init answers = some t) : ¬ t.OwnCaches keys := by
  intro hown
  have hinfo : ∀ {i : Nat} (hi : i < keys.length), t.channelInfoMap[keys[i].key]? =
      some ⟨.ofNat i, keys[i].length, keys[i].type⟩ := fun {i} hi => by
    rw [init_map ht]
    exact (h.infos _ _).mpr ⟨i, keys[i], List.getElem?_eq_getElem hi, rfl, rfl⟩
  have hkey := hown.indexes keys[0] (List.getElem_mem _) keys[256] (List.getElem_mem _) _ _
    (hinfo (by omega)) (hinfo hmany) rfl
  have hlength : 256 < (keys.map KeyInfo.key).length := by rwa [List.length_map]
  have hsame : (keys.map KeyInfo.key)[0] = (keys.map KeyInfo.key)[256] := by
    rw [List.getElem_map, List.getElem_map, hkey]
  cases hnd.getElem_inj_iff.mp hsame

end Calls

/-- The sizes after `init`. -/
theorem Added.smallest_iff {minimum maximum : UInt32} {keys : List KeyInfo} {s : KeyGroupCache}
    (h : Added minimum maximum keys s) (hne : keys ≠ []) :
    Extreme (· ≤ ·) (keys.map KeyInfo.length) s.minimumChannelSize ∧
        Extreme (· ≥ ·) (keys.map KeyInfo.length) s.maximumChannelSize ↔
      SizesOk minimum maximum (keys.map KeyInfo.length) := by
  have hmin : s.minimumChannelSize = _ := congrArg Prod.fst h.sizes
  have hmax : s.maximumChannelSize = _ := congrArg Prod.snd h.sizes
  rw [hmin, hmax, cache.smallest_iff _ (mt List.map_eq_nil_iff.mp hne), largest_iff, SizesOk]
  exact and_comm

/-- The channels can be made just when those that are given a slab have a length to which the head
can be added. -/
theorem Added.init_eq_some_iff {minimum maximum : UInt32} {keys : List KeyInfo}
    {s : KeyGroupCache} {answers : String → PoolAnswers} (h : Added minimum maximum keys s) :
    (∃ t, s.init answers = some t) ↔ SlabsOk keys answers := by
  rw [KeyGroupCache.init, foldlM_makeCache]
  constructor
  · intro hall k hk hgiven
    obtain ⟨i, hi⟩ := List.mem_iff_getElem?.mp hk
    have hget := (h.infos k.key _).mpr ⟨i, k, hi, rfl, rfl⟩
    have hinit := hall _ (Std.TreeMap.mem_toList_iff_getElem?_eq_some.mpr hget)
    exact Nat.not_le.mp fun hge => hinit (Channel.init_eq_none.mpr ⟨hgiven, hge⟩)
  · rintro hok ⟨key, chInfo⟩ he hnone
    obtain ⟨i, k, hi, rfl, rfl⟩ :=
      (h.infos key chInfo).mp (Std.TreeMap.mem_toList_iff_getElem?_eq_some.mp he)
    obtain ⟨hgiven, hge⟩ := Channel.init_eq_none.mp hnone
    exact absurd (hok k (List.mem_of_getElem? hi) hgiven) (Nat.not_lt.mpr hge)

namespace KeysIndependent

variable {minimum maximum : UInt32} {keys : List KeyInfo} {answers : String → PoolAnswers}
  {calls : List KeyCall} {s : KeyGroupCache}

theorem few (h : KeysIndependent minimum maximum keys answers calls s)
    (hnd : (keys.map KeyInfo.key).Nodup) : keys.length ≤ 256 := by
  refine Nat.not_lt.mp fun hmany => ?_
  exact (added_addKeys minimum maximum hnd).not_ownCaches hnd hmany h.made (h.apart [] s rfl)

theorem sizesOk (h : KeysIndependent minimum maximum keys answers calls s)
    (hnd : (keys.map KeyInfo.key).Nodup) (hne : keys ≠ []) :
    SizesOk minimum maximum (keys.map KeyInfo.length) := by
  have hadded := added_addKeys minimum maximum hnd
  have hinit := hadded.init (h.few hnd) h.made
  rw [← hadded.smallest_iff hne, ← hinit.minimum, ← hinit.maximum]
  exact ⟨h.smallest hne, h.largest hne⟩

end KeysIndependent

/-- The keys are independent just when there are at most 256 of them, the sizes come out right,
the channels have room, and the updates stay in their slabs. -/
theorem keysIndependent_iff (minimum maximum : UInt32) (keys : List KeyInfo)
    (hnd : (keys.map KeyInfo.key).Nodup) (answers : String → PoolAnswers)
    (calls : List KeyCall) :
    (∃ s, KeysIndependent minimum maximum keys answers calls s) ↔
      keys.length ≤ 256 ∧
        (keys ≠ [] → SizesOk minimum maximum (keys.map KeyInfo.length)) ∧
        SlabsOk keys answers ∧
        ∀ s ∈ ((KeyGroupCache.new minimum maximum).addKeys keys).init answers,
          RunOk KeyGroupCache.step KeyGroupCache.UpdateOk s calls := by
  have hadded := added_addKeys minimum maximum hnd
  have hrun : ∀ {s}, Grouped keys s →
      (RunOk KeyGroupCache.step KeyGroupCache.KeepsOthers s calls ↔
        RunOk KeyGroupCache.step KeyGroupCache.UpdateOk s calls) := fun hs =>
    runOk_congr (Grouped keys) (fun _ call h => h.keepsOthers_iff call)
      (fun _ _ _ h _ ht => h.step ht) hs
  constructor
  · rintro ⟨s, h⟩
    refine ⟨h.few hnd, h.sizesOk hnd, hadded.init_eq_some_iff.mp ⟨s, h.made⟩, fun t ht => ?_⟩
    cases h.made.symm.trans ht
    exact (hrun (hadded.grouped (h.few hnd) h.made)).mp h.kept
  · rintro ⟨hfew, hsizes, hslabs, hok⟩
    obtain ⟨s, hmade⟩ := hadded.init_eq_some_iff.mpr hslabs
    have hinit := hadded.init hfew hmade
    have hgrouped := hadded.grouped hfew hmade
    refine ⟨s, hmade, fun hne => ?_, fun hne => ?_, fun calls t ht => ?_, (hrun hgrouped).mpr
      (hok s hmade)⟩
    · rw [hinit.minimum]
      exact ((hadded.smallest_iff hne).mpr (hsizes hne)).1
    · rw [hinit.maximum]
      exact ((hadded.smallest_iff hne).mpr (hsizes hne)).2
    · exact (run_keeps (Grouped keys) (fun _ _ _ h ht => h.step ht) hgrouped ht).ownCaches

instance (s : KeyGroupCache) (keyIndex : UInt16) (legth : UInt32) :
    Decidable (s.IndexOk keyIndex legth) := by
  unfold KeyGroupCache.IndexOk Channel.Writable
  split <;> infer_instance

instance (s : KeyGroupCache) (call : KeyCall) : Decidable (s.UpdateOk call) := by
  unfold KeyGroupCache.UpdateOk
  split <;> infer_instance

/-- A pool that has slabs, with zeros in them. -/
def zeroPool : PoolAnswers := ⟨true, true, fun _ _ => 0⟩

theorem keysIndependent_pair : ∃ s, KeysIndependent 0 0
    [⟨"a", .TYPE_INT32, 0⟩, ⟨"b", .TYPE_DOUBLE, 0⟩] (fun _ => zeroPool)
    [.updateKeyValue "b" (fun _ => 7) 8 true, .getCurrentKeyValue "a"] s :=
  (keysIndependent_iff 0 0 _ (by decide) _ _).mpr
    ⟨by decide, fun _ => by unfold SizesOk; decide, by unfold SlabsOk; decide, by decide +kernel⟩

/-- Keys of the names that repeat one letter. -/
def repeatedKeys (n : Nat) : List KeyInfo :=
  (List.range n).map fun i => ⟨String.ofList (List.replicate i 'k'), .TYPE_INT32, 0⟩

theorem nodup_repeatedKeys (n : Nat) : ((repeatedKeys n).map KeyInfo.key).Nodup := by
  rw [repeatedKeys, List.map_map]
  refine List.nodup_range.map fun i j heq => ?_
  have hlist := congrArg List.length (String.ofList_injective heq)
  rwa [List.length_replicate, List.length_replicate] at hlist

/-- The 257th key has the index of the first one. A size that the memory held stays. And a string
of any length, which has the length 0, is lost from the smallest size. -/
theorem not_keysIndependent :
    (¬ ∃ s, KeysIndependent 0 0 (repeatedKeys 257) (fun _ => zeroPool) [] s) ∧
    (¬ ∃ s, KeysIndependent 1 0 [⟨"a", .TYPE_INT32, 0⟩] (fun _ => zeroPool) [] s) ∧
    ¬ ∃ s, KeysIndependent 0 0 [⟨"a", .TYPE_STRING, 0⟩, ⟨"b", .TYPE_INT32, 0⟩]
      (fun _ => zeroPool) [] s := by
  refine ⟨fun ⟨s, h⟩ => ?_, fun ⟨s, h⟩ => ?_, fun ⟨s, h⟩ => ?_⟩
  · have hfew := h.few (nodup_repeatedKeys 257)
    rw [repeatedKeys, List.length_map, List.length_range] at hfew
    omega
  · have hsizes := h.sizesOk (by decide) (List.cons_ne_nil _ _)
    revert hsizes
    unfold SizesOk
    decide
  · have hsizes := h.sizesOk (by decide) (List.cons_ne_nil _ _)
    revert hsizes
    unfold SizesOk
    decide

end chaos.common.data.cache
