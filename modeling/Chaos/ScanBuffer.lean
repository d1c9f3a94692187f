-- When the scan of a stage block stays in its buffer. The length of a pack is not checked before
-- the buffer is grown for it and the bytes behind it are read.
import Chaos.ScanDelivery

namespace chaos.data_service.indexer

open filestream vfs runs DataPackScanner

namespace Scan

variable {s t : Scan} {b : StageBlock} {data : List UInt8} {env : TurnEnv}

/-! ## One turn -/

/-- The pack that a turn finds at the begin of the block fits into the buffer. -/
def TurnFits (s : Scan) (env : TurnEnv) : Prop :=
  match s.result, s.current_data_block with
  | none, some b =>
    4 ≤ b.rest.length → PackFits s.scanner.curret_data_buffer_len.toNat (sizeField b.rest)
      (b.rest.length - 4) (env.memory (UInt32.ofNat (sizeField b.rest))) env.body
  | _, _ => True

instance (s : Scan) (env : TurnEnv) : Decidable (TurnFits s env) := by
  unfold TurnFits
  split <;> infer_instance

theorem InLoop.turnFits_iff (h : InLoop s b data) : TurnFits s env ↔
    (4 ≤ b.rest.length → PackFits s.scanner.curret_data_buffer_len.toNat (sizeField b.rest)
      (b.rest.length - 4) (env.memory (UInt32.ofNat (sizeField b.rest))) env.body) := by
  unfold TurnFits
  rw [h.running, h.block]

/-- The scan is in its loop, or it came to its end, and it has stayed in its buffer. -/
def Kept (s : Scan) : Prop := (∃ b data, InLoop s b data) ∨ (s.result.isSome ∧ s.AllSafe)

theorem Kept.allSafe (h : Kept s) : s.AllSafe := by
  rcases h with ⟨b, data, hloop⟩ | ⟨-, hsafe⟩
  · exact hloop.safe
  · exact hsafe

/-- A turn stays in the buffer just when the pack that it finds fits. -/
theorem InLoop.turnFits_iff_safe (h : InLoop s b data) :
    TurnFits s env ↔ ∀ t, s.turn env = some t → t.AllSafe := by
  rw [h.turnFits_iff]
  rcases Nat.lt_or_ge b.rest.length 4 with hshort | hrest
  · obtain ⟨u, hturn, -, -, hsafe⟩ := h.turn_end env hshort
    refine iff_of_true (fun hrest => absurd hrest (Nat.not_le.mpr hshort)) ?_
    intro t ht
    rw [hturn] at ht
    cases ht
    exact hsafe
  · obtain ⟨hturn, hloop, hfirst⟩ := h.turn_header env hrest
    have hsize := sizeField_congr hfirst
    have hasked : (s.afterHeader b).scanner.bsonSize = UInt32.ofNat (sizeField b.rest) := by
      rw [← UInt32.toNat_inj, toNat_bsonSize hloop.buffer, hsize, UInt32.toNat_ofNat']
      exact (Nat.mod_eq_of_lt (sizeField_lt b.rest)).symm
    have hleft : (b.advance 4).rest.length = b.rest.length - 4 := by
      rw [StageBlock.rest_advance, List.length_drop]
    have hread := hloop.allSafe_readPack env
    rw [hsize, hasked, hleft] at hread
    rw [hturn, imp_iff_right hrest]
    simp only [Option.some.injEq, forall_eq']
    exact hread.symm

theorem InLoop.turn_keeps (h : InLoop s b data) (hturn : s.turn env = some t) (hsafe : t.AllSafe) :
    Kept t := by
  rcases Nat.lt_or_ge b.rest.length 4 with hshort | hrest
  · obtain ⟨u, hu, hend, -⟩ := h.turn_end env hshort
    rw [hu] at hturn
    cases hturn
    exact .inr ⟨hend, hsafe⟩
  · obtain ⟨hread, hloop, -⟩ := h.turn_header env hrest
    rw [hread] at hturn
    cases hturn
    by_cases hpack : 5 ≤ sizeField (overwrite data 0 (b.rest.take 4)) ∧
        sizeField (overwrite data 0 (b.rest.take 4)) ≤ 4 + (b.advance 4).rest.length ∧
        sizeField (overwrite data 0 (b.rest.take 4)) ≤ BSONObjMaxInternalSize
    · obtain ⟨hfive, hwhole, hmax⟩ := hpack
      have hmemory := ((hloop.allSafe_readPack env).mp hsafe).memory (by omega)
      obtain ⟨t, data', hdelivered, hin, -⟩ := hloop.readPack_whole hfive hwhole hmax hmemory
      rw [hdelivered] at hsafe ⊢
      by_cases hprocess : env.process = 0
      · rw [if_pos hprocess]
        exact .inl ⟨_, data', hin⟩
      · rw [if_neg hprocess] at hsafe ⊢
        exact .inr ⟨rfl, hsafe⟩
    · exact .inr ⟨(hloop.readPack_rest hpack).1, hsafe⟩

/-! ## A whole scan -/

variable {scanner : DataPackScanner} {content : List UInt8}

/-- The reads of a scan stay in the buffer just when each pack that it comes to fits. -/
theorem stays_in_buffer_iff (hscan : scanner.scan none (0, some content) = .ok s)
    (turns : List TurnEnv) :
    RunOk turn TurnFits s turns ↔ ∀ n t, run turn s (turns.take n) = some t → t.AllSafe := by
  refine runOk_iff_all_good Kept (fun _ => Kept.allSafe) ?_ ?_ ?_
  · rintro s env t (⟨b, data, hloop⟩ | ⟨hend, -⟩) hturn hsafe
    · exact hloop.turn_keeps hturn hsafe
    · rw [turn_of_end hend] at hturn
      cases hturn
  · rintro s env (⟨b, data, hloop⟩ | ⟨hend, -⟩)
    · exact hloop.turnFits_iff_safe
    · rw [turn_of_end hend]
      obtain ⟨result, hresult⟩ := Option.isSome_iff_exists.mp hend
      refine iff_of_true ?_ nofun
      unfold TurnFits
      rw [hresult]
      trivial
  · obtain ⟨-, data, hloop⟩ := inLoop_of_scan hscan
    exact .inl ⟨_, data, hloop⟩

/-- A scan that starts with a block of two packs. -/
def twoPacks : Scan :=
  ⟨.create true, some (StageBlock.openBlock [5, 0, 0, 0, 7, 6, 0, 0, 0, 1, 2]), [], [], none⟩

theorem two_packs_stay_in_the_buffer :
    RunOk turn TurnFits twoPacks [fineTurn, fineTurn, fineTurn] ∧
      ∀ n t, run turn twoPacks ([fineTurn, fineTurn, fineTurn].take n) = some t → t.AllSafe := by
  have hscan : (DataPackScanner.create true).scan none
      (0, some [5, 0, 0, 0, 7, 6, 0, 0, 0, 1, 2]) = .ok twoPacks := rfl
  have hfits : RunOk turn TurnFits twoPacks [fineTurn, fineTurn, fineTurn] := by decide
  exact ⟨hfits, (stays_in_buffer_iff hscan _).mp hfits⟩

/-- A pack of length 0 lets all bytes that are left go into a buffer of four bytes. -/
theorem empty_pack_leaves_the_buffer : ¬ ∀ (scanner : DataPackScanner) (content : List UInt8)
    (s : Scan) (turns : List TurnEnv), scanner.scan none (0, some content) = .ok s →
      ∀ n t, run turn s (turns.take n) = some t → t.AllSafe := by
  intro h
  have hsafe := h (.create true) [0, 0, 0, 0, 1] _ [fineTurn] rfl 1 _ rfl
  revert hsafe
  decide

end Scan

end chaos.data_service.indexer
