-- The scan of a stage block calls processDataPack for the packs of the longest prefix of the block
-- that is made of complete packs, in their order. A pack that is larger than a BSON object may be
-- ends it.
import Chaos.ScanTurns

/-! ## The longest prefix of records -/

namespace records

variable {α : Type*}

/-- The records that stand at the begin of a content, as many as there are. -/
structure LongestPrefix (isRecord : List α → Prop) (content : List α) (found : List (List α))
    (tail : List α) : Prop where
  parts : content = found.flatten ++ tail
  found : ∀ r ∈ found, isRecord r
  longest : ∀ r more, tail = r ++ more → ¬ isRecord r

variable {isRecord : List α → Prop} {content r tail : List α} {found : List (List α)}

theorem LongestPrefix.cons (h : LongestPrefix isRecord content found tail) (hr : isRecord r) :
    LongestPrefix isRecord (r ++ content) (r :: found) tail where
  parts := by rw [List.flatten_cons, List.append_assoc, ← h.parts]
  found := List.forall_mem_cons.mpr ⟨hr, h.found⟩
  longest := h.longest

/-- The prefix behind its first record. -/
theorem LongestPrefix.of_cons (h : LongestPrefix isRecord content (r :: found) tail) :
    isRecord r ∧ ∃ rest, content = r ++ rest ∧ LongestPrefix isRecord rest found tail := by
  obtain ⟨hr, hfound⟩ := List.forall_mem_cons.mp h.found
  refine ⟨hr, found.flatten ++ tail, ?_, ⟨rfl, hfound, h.longest⟩⟩
  rw [h.parts, List.flatten_cons, List.append_assoc]

/-- There is a longest prefix where no record is empty. -/
theorem exists_longestPrefix (hpos : ∀ r, isRecord r → r ≠ []) (content : List α) :
    ∃ found tail, LongestPrefix isRecord content found tail := by
  induction hn : content.length using Nat.strong_induction_on generalizing content with
  | _ n ih =>
    by_cases hfirst : ∃ r more, content = r ++ more ∧ isRecord r
    · obtain ⟨r, more, rfl, hr⟩ := hfirst
      have hlen := List.length_pos_iff.mpr (hpos r hr)
      rw [List.length_append] at hn
      obtain ⟨found, tail, h⟩ := ih more.length (by omega) more rfl
      exact ⟨r :: found, tail, h.cons hr⟩
    · refine ⟨[], content, rfl, nofun, ?_⟩
      intro r more hparts hr
      exact hfirst ⟨r, more, hparts, hr⟩

end records

namespace chaos.data_service.indexer

open filestream vfs records runs DataPackScanner

/-! ## The packs -/

/-- A complete pack: a length of at least 5 in four bytes, and as many bytes as it says. -/
def IsPack (p : List UInt8) : Prop := 5 ≤ p.length ∧ sizeField p = p.length

/-- A complete pack whose size the constructor of `BSONObj` allows. -/
def IsReadablePack (p : List UInt8) : Prop := IsPack p ∧ p.length ≤ BSONObjMaxInternalSize

theorem sizeField_congr {p q : List UInt8} (h : p.take 4 = q.take 4) : sizeField p = sizeField q :=
  congrArg little_endian.ofBytes h

theorem IsPack.ne_nil {p : List UInt8} (h : IsPack p) : p ≠ [] := by
  rintro rfl
  exact absurd h.1 (by decide)

/-- The pack at the begin of a content has the length that stands there. -/
theorem isPack_take {content : List UInt8} (hfive : 5 ≤ sizeField content)
    (hwhole : sizeField content ≤ content.length) :
    IsPack (content.take (sizeField content)) := by
  have hlen : (content.take (sizeField content)).length = sizeField content := by
    rw [List.length_take]
    exact Nat.min_eq_left hwhole
  refine ⟨hlen.symm ▸ hfive, ?_⟩
  rw [hlen]
  exact sizeField_congr (by rw [List.take_take, Nat.min_eq_left (by omega)])

/-! ## The calls of a scan -/

namespace Scan

variable {s : Scan} {b : StageBlock} {data : List UInt8} {packs : List (List UInt8)}
  {tail : List UInt8} {env : Nat → TurnEnv} {m : Nat}

/-- The scan of the packs ends before the one with the number `m`: `processDataPack` failed for the
pack before it, or there is no memory for this one. -/
def EndsBefore (packs : List (List UInt8)) (env : Nat → TurnEnv) (m : Nat) : Prop :=
  (0 < m ∧ (env (m - 1)).process ≠ 0) ∨
    ∃ p, packs[m]? = some p ∧ (env m).memory (UInt32.ofNat p.length) = false

/-- The scan comes to its end, and has called `processDataPack` for the first `m` of the packs,
which are all of them unless something failed. -/
structure CallsFirst (s : Scan) (packs : List (List UInt8)) (env : Nat → TurnEnv) (m : Nat) :
    Prop where
  ends : ∃ k t, run turn s ((List.range k).map env) = some t ∧ t.result.isSome ∧
    t.calls = s.calls ++ packs.take m
  processed : ∀ i, i + 1 < m → (env i).process = 0
  all : m < packs.length → EndsBefore packs env m

/-- A scan that ends with its next turn. -/
theorem ends_of_turn {t : Scan} {env : Nat → TurnEnv} (hturn : s.turn (env 0) = some t)
    (hend : t.result.isSome) {calls : List (List UInt8)} (hcalls : t.calls = calls) :
    ∃ k t, run turn s ((List.range k).map env) = some t ∧ t.result.isSome ∧ t.calls = calls :=
  ⟨1, t, run_cons_some.mpr ⟨t, hturn, rfl⟩, hend, hcalls⟩

/-- After a turn that goes on, the rest of the scan makes the rest of the calls. -/
theorem CallsFirst.turn {p : List UInt8} {t : Scan} (hturn : s.turn (env 0) = some t)
    (hcalls : t.calls = s.calls ++ [p]) (hprocess : (env 0).process = 0)
    (h : CallsFirst t packs (fun i => env (i + 1)) m) : CallsFirst s (p :: packs) env (m + 1) where
  ends := by
    obtain ⟨k, u, hrun, hend, hdone⟩ := h.ends
    refine ⟨k + 1, u, ?_, hend, ?_⟩
    · rw [List.range_succ_eq_map, List.map_cons, List.map_map]
      exact run_cons_some.mpr ⟨t, hturn, hrun⟩
    · rw [hdone, hcalls, List.append_assoc]
      rfl
  processed := by
    intro i hi
    cases i with
    | zero => exact hprocess
    | succ i => exact h.processed i (by omega)
  all := by
    intro hm
    rcases h.all (Nat.lt_of_succ_lt_succ hm) with ⟨hpos, hfailed⟩ | hmemory
    · refine .inl ⟨Nat.succ_pos m, ?_⟩
      dsimp only at hfailed
      rwa [Nat.sub_add_cancel hpos] at hfailed
    · exact .inr hmemory

/-- A block with no pack at its begin gives no call. -/
theorem InLoop.calls_none (h : InLoop s b data) (env : Nat → TurnEnv)
    (hnone : ∀ p more, b.rest = p ++ more → ¬ IsReadablePack p) :
    ∃ t, s.turn (env 0) = some t ∧ t.result.isSome ∧ t.calls = s.calls := by
  rcases Nat.lt_or_ge b.rest.length 4 with hshort | hrest
  · obtain ⟨t, hturn, hend, hcalls, -⟩ := h.turn_end (env 0) hshort
    exact ⟨t, hturn, hend, hcalls⟩
  · obtain ⟨hturn, hloop, hfirst⟩ := h.turn_header (env 0) hrest
    have hsize := sizeField_congr hfirst
    have hnot : ¬ (5 ≤ sizeField (overwrite data 0 (b.rest.take 4)) ∧
        sizeField (overwrite data 0 (b.rest.take 4)) ≤ 4 + (b.advance 4).rest.length ∧
        sizeField (overwrite data 0 (b.rest.take 4)) ≤ BSONObjMaxInternalSize) := by
      rw [hsize, StageBlock.rest_advance, List.length_drop]
      rintro ⟨hfive, hwhole, hmax⟩
      refine hnone _ _ (List.take_append_drop (sizeField b.rest) b.rest).symm
        ⟨isPack_take hfive (by omega), ?_⟩
      exact (List.length_take_le ..).trans hmax
    exact ⟨_, hturn, hloop.readPack_rest hnot⟩

/-- What a turn does with a pack that stands at the begin of the block. -/
theorem InLoop.turn_pack (h : InLoop s b data) (env : Nat → TurnEnv) {p more : List UInt8}
    (hp : IsReadablePack p) (hrest : b.rest = p ++ more) :
    (((env 0).memory (UInt32.ofNat p.length) = false) ∧
      ∃ t, s.turn (env 0) = some t ∧ t.result.isSome ∧ t.calls = s.calls) ∨
    ∃ t b' data', s.turn (env 0) = some
        (if (env 0).process = 0 then t else t.finish (.ended (env 0).process)) ∧
      InLoop t b' data' ∧ b'.rest = more ∧ t.calls = s.calls ++ [p] := by
  obtain ⟨⟨hfive, hlen⟩, hmax⟩ := hp
  have hfour : 4 ≤ b.rest.length := by
    rw [hrest, List.length_append]
    omega
  obtain ⟨hturn, hloop, hfirst⟩ := h.turn_header (env 0) hfour
  have hpfirst : b.rest.take 4 = p.take 4 := by
    rw [hrest, List.take_append_of_le_length (by omega)]
  have hsize : sizeField (overwrite data 0 (b.rest.take 4)) = p.length :=
    (sizeField_congr (hfirst.trans hpfirst)).trans hlen
  have hasked : (s.afterHeader b).scanner.bsonSize = UInt32.ofNat p.length := by
    rw [← UInt32.toNat_inj, toNat_bsonSize hloop.buffer, hsize, UInt32.toNat_ofNat']
    refine (Nat.mod_eq_of_lt ?_).symm
    rw [← hlen]
    exact sizeField_lt p
  have hafter : (b.advance 4).rest = p.drop 4 ++ more := by
    rw [StageBlock.rest_advance, hrest, List.drop_append_of_le_length (by omega)]
  have hdrop : (p.drop 4).length = p.length - 4 := List.length_drop ..
  have hwhole : p.length ≤ 4 + (b.advance 4).rest.length := by
    rw [hafter, List.length_append]
    omega
  rw [hturn]
  by_cases hmemory : (s.afterHeader b).scanner.curret_data_buffer_len.toNat < p.length →
      (env 0).memory (s.afterHeader b).scanner.bsonSize = true
  · -- the pack is delivered
    rw [← hsize] at hmemory hfive hwhole hmax
    obtain ⟨t, data', hread, hin, hcalls⟩ := hloop.readPack_whole hfive hwhole hmax hmemory
    refine .inr ⟨t, _, data', congrArg some hread, hin, ?_, ?_⟩
    · rw [StageBlock.rest_advance, hafter, hsize, ← hdrop, List.drop_left]
    · rw [hcalls, hafter, hsize, ← hdrop, List.take_left, hfirst, hpfirst, List.take_append_drop]
      rfl
  · -- there is no buffer for it
    rw [Classical.not_imp, Bool.not_eq_true] at hmemory
    obtain ⟨hless, hnone⟩ := hmemory
    refine .inl ⟨hasked ▸ hnone, _, rfl, readPack_of_unsafe ?_⟩
    rw [hloop.allSafe_body, hsize, hnone]
    rintro ⟨-, hfits⟩
    rcases hfits hless with htrue | ⟨hnil, -⟩
    · cases htrue
    · omega

/-- The calls are the packs of the block, up to the first one that fails. -/
theorem InLoop.callsFirst (h : InLoop s b data)
    (hpacks : LongestPrefix IsReadablePack b.rest packs tail) :
    ∃ m ≤ packs.length, CallsFirst s packs env m := by
  induction packs generalizing s b data env with
  | nil =>
    obtain ⟨t, hturn, hend, hcalls⟩ := h.calls_none env (by
      rw [hpacks.parts]
      exact hpacks.longest)
    refine ⟨0, Nat.le_refl 0, ends_of_turn hturn hend ?_, nofun, nofun⟩
    rw [hcalls, List.take_zero, List.append_nil]
  | cons p packs ih =>
    obtain ⟨hp, more, hrest, hmore⟩ := hpacks.of_cons
    rcases h.turn_pack env hp hrest with
      ⟨hmemory, t, hturn, hend, hcalls⟩ | ⟨t, b', data', hturn, hloop, hleft, hcalls⟩
    · refine ⟨0, Nat.zero_le _, ends_of_turn hturn hend ?_, nofun, fun _ => .inr ⟨p, rfl, hmemory⟩⟩
      rw [hcalls, List.take_zero, List.append_nil]
    · by_cases hprocess : (env 0).process = 0
      · rw [if_pos hprocess] at hturn
        obtain ⟨m, hm, hfirst⟩ : ∃ m ≤ packs.length, CallsFirst t packs (fun i => env (i + 1)) m :=
          ih hloop (hleft ▸ hmore)
        exact ⟨m + 1, Nat.succ_le_succ hm, hfirst.turn hturn hcalls hprocess⟩
      · rw [if_neg hprocess] at hturn
        refine ⟨1, Nat.succ_le_succ (Nat.zero_le _), ends_of_turn hturn rfl hcalls, ?_, ?_⟩
        · intro i hi
          omega
        · exact fun _ => .inl ⟨Nat.one_pos, hprocess⟩

/-! ## The scan of a block -/

/-- The scan of a block calls `processDataPack` for the records of the longest prefix, each once,
in their order and with their own bytes, as long as it succeeds and there is memory. -/
def Delivers (isPack : List UInt8 → Prop) (content : List UInt8) (s : Scan)
    (env : Nat → TurnEnv) : Prop :=
  ∃ packs tail, LongestPrefix isPack content packs tail ∧
    ∃ m ≤ packs.length, CallsFirst s packs env m

variable {scanner : DataPackScanner} {content : List UInt8}

/-- A scan starts in its loop when it starts with a block. -/
theorem inLoop_of_scan (hscan : scanner.scan none (0, some content) = .ok s) :
    s.calls = [] ∧ ∃ data, InLoop s (StageBlock.openBlock content) data := by
  unfold DataPackScanner.scan at hscan
  cases hdata : scanner.data_buffer with
  | none =>
    rw [if_pos hdata] at hscan
    cases hscan
  | some data =>
    rw [hdata, if_neg (by simp)] at hscan
    cases hscan
    exact ⟨rfl, data, ⟨rfl, rfl, StageBlock.sound_openBlock content, hdata, nofun⟩⟩

/-- The packs of the longest prefix of a block that is made of packs with an allowed size are
delivered, and no others. -/
theorem delivers_readable_packs (hscan : scanner.scan none (0, some content) = .ok s)
    (env : Nat → TurnEnv) : Delivers IsReadablePack content s env := by
  obtain ⟨-, data, hloop⟩ := inLoop_of_scan hscan
  obtain ⟨packs, tail, hpacks⟩ :=
    exists_longestPrefix (fun p (hp : IsReadablePack p) => hp.1.ne_nil) content
  exact ⟨packs, tail, hpacks, hloop.callsFirst hpacks⟩

/-- Nothing goes wrong in a turn. -/
def fineTurn : TurnEnv where
  header := ⟨⟨0, Int.le_refl 0⟩, true, ⟨0, Int.le_refl 0⟩, ⟨0, Int.le_refl 0⟩⟩
  memory := fun _ => true
  body := ⟨⟨0, Int.le_refl 0⟩, true, ⟨0, Int.le_refl 0⟩, ⟨0, Int.le_refl 0⟩⟩
  process := 0

theorem one_pack_is_delivered :
    Delivers IsReadablePack [5, 0, 0, 0, 7]
      ⟨.create true, some (StageBlock.openBlock [5, 0, 0, 0, 7]), [], [], none⟩
      (fun _ => fineTurn) := by
  have hscan : (DataPackScanner.create true).scan none (0, some [5, 0, 0, 0, 7]) = .ok _ := rfl
  exact delivers_readable_packs hscan _

/-- A run that ends with the first turn has the state after that turn. -/
theorem run_of_end (env : Nat → TurnEnv) {t u : Scan} {k : Nat} (hrunning : s.result = none)
    (hturn : s.turn (env 0) = some t) (hend : t.result.isSome)
    (hrun : run turn s ((List.range k).map env) = some u) (hdone : u.result.isSome) : u = t := by
  cases k with
  | zero =>
    cases hrun
    rw [hrunning] at hdone
    cases hdone
  | succ k =>
    rw [List.range_succ_eq_map, List.map_cons] at hrun
    obtain ⟨v, hv, hrest⟩ := run_cons_some.mp hrun
    obtain rfl : t = v := Option.some.inj (hturn.symm.trans hv)
    cases hlabels : List.map env (List.map Nat.succ (List.range k)) with
    | nil =>
      rw [hlabels] at hrest
      exact (Option.some.inj hrest).symm
    | cons a as =>
      rw [hlabels] at hrest
      obtain ⟨w, hw, -⟩ := run_cons_some.mp hrest
      rw [turn_of_end hend] at hw
      cases hw

/-- A block that is one pack, larger than a BSON object may be, is not delivered. -/
theorem not_delivers_of_large (hscan : scanner.scan none (0, some content) = .ok s)
    (hpack : IsPack content) (hlarge : BSONObjMaxInternalSize < content.length) :
    ¬ Delivers IsPack content s (fun _ => fineTurn) := by
  rintro ⟨packs, tail, hpacks, m, hm, hcalls⟩
  obtain ⟨hstart, data, hloop⟩ := inLoop_of_scan hscan
  have hnone : ∀ p more, content = p ++ more → ¬ IsReadablePack p := by
    rintro p more hparts ⟨⟨hfive, hlen⟩, hmax⟩
    have hsize : sizeField content = sizeField p := by
      rw [hparts]
      exact sizeField_append (by omega)
    rw [hpack.2, hlen] at hsize
    rw [hsize] at hlarge
    exact Nat.not_le.mpr hlarge hmax
  obtain ⟨t, hturn, hend, hsame⟩ := hloop.calls_none (fun _ => fineTurn) hnone
  obtain ⟨k, u, hrun, hdone, htake⟩ := hcalls.ends
  have heq : u = t := run_of_end (fun _ => fineTurn) hloop.running hturn hend
    hrun hdone
  -- no call was made, and there is a pack
  rw [heq, hsame, List.self_eq_append_right] at htake
  cases packs with
  | nil => exact hpacks.longest content [] (hpacks.parts.symm.trans (by simp)) hpack
  | cons p packs =>
    obtain rfl : m = 0 := by simpa using htake
    rcases hcalls.all (Nat.succ_pos _) with ⟨hpos, -⟩ | ⟨p, -, hmemory⟩
    · exact absurd hpos (Nat.lt_irrefl 0)
    · cases hmemory

/-- A complete pack with one byte more than a BSON object may have is never delivered. -/
theorem large_pack_is_not_delivered : ¬ ∀ (scanner : DataPackScanner) (content : List UInt8)
    (s : Scan) (env : Nat → TurnEnv), scanner.scan none (0, some content) = .ok s →
      Delivers IsPack content s env := by
  intro h
  have hlength : (little_endian.toBytes 4 (BSONObjMaxInternalSize + 1) ++
      List.replicate (BSONObjMaxInternalSize - 3) 0).length = BSONObjMaxInternalSize + 1 := by
    rw [List.length_append, little_endian.length_toBytes, List.length_replicate]
    decide
  have hsize : sizeField (little_endian.toBytes 4 (BSONObjMaxInternalSize + 1) ++
      List.replicate (BSONObjMaxInternalSize - 3) 0) = BSONObjMaxInternalSize + 1 := by
    rw [sizeField_append (by rw [little_endian.length_toBytes])]
    decide
  have hscan : ∀ content, (DataPackScanner.create true).scan none (0, some content) =
      .ok ⟨.create true, some (StageBlock.openBlock content), [], [], none⟩ := fun _ => rfl
  refine not_delivers_of_large (hscan _) ⟨?_, hsize.trans hlength.symm⟩ ?_
    (h (.create true) _ _ _ (hscan _))
  · rw [hlength]
    decide
  · rw [hlength]
    decide

end Scan

end chaos.data_service.indexer
