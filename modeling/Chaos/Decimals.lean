-- Numbers written in decimal digits. What is written is read back, and no other character is in it.
import Mathlib.Algebra.Order.Ring.Int
import Mathlib.Data.List.Basic
import Mathlib.Data.List.Induction
import Mathlib.Tactic.Common

namespace decimals

variable {c : Char} {m n : Nat}

theorem not_mem_toDigits (hc : c.isDigit = false) (n : Nat) : c ∉ Nat.toDigits 10 n := by
  intro hmem
  have hdigit := Nat.isDigit_of_mem_toDigits (by decide) (by decide) hmem
  rw [hc] at hdigit
  cases hdigit

theorem toDigits_injective (h : Nat.toDigits 10 m = Nat.toDigits 10 n) : m = n := by
  rw [← Nat.ofDigitChars_ten_toDigits (n := m), h, Nat.ofDigitChars_ten_toDigits]

/-- The separator is the last one, as no digit is: nothing can stand before it on one side. -/
theorem nil_of_cons_toDigits {r z : List Char} (hc : c.isDigit = false)
    (h : c :: Nat.toDigits 10 n = r ++ c :: z) : r = [] := by
  cases r with
  | nil => rfl
  | cons d r =>
    rw [List.cons_append, List.cons.injEq] at h
    exact absurd (h.2 ▸ List.mem_append_right r List.mem_cons_self) (not_mem_toDigits hc n)

/-- A text and a number behind a separator can both be told from the whole. -/
theorem append_toDigits_inj {p q : List Char} (hc : c.isDigit = false) :
    p ++ c :: Nat.toDigits 10 m = q ++ c :: Nat.toDigits 10 n ↔ p = q ∧ m = n := by
  constructor
  · intro h
    have hsame : p = q := by
      rcases List.append_eq_append_iff.mp h with ⟨r, rfl, hr⟩ | ⟨r, rfl, hr⟩
      · rw [nil_of_cons_toDigits hc hr, List.append_nil]
      · rw [nil_of_cons_toDigits hc hr, List.append_nil]
    subst hsame
    rw [List.append_cancel_left_eq, List.cons.injEq] at h
    exact ⟨rfl, toDigits_injective h.2⟩
  · rintro ⟨rfl, rfl⟩
    rfl

/-! ## Texts of digits -/

theorem sub_lt_ten (hc : c.isDigit = true) : c.toNat - '0'.toNat < 10 := by
  have hle := (Char.isDigit_iff_toNat.mp hc).2
  have h9 : '9'.toNat = 57 := rfl
  have h0 : '0'.toNat = 48 := rfl
  omega

/-- A digit is written as itself. -/
theorem toDigits_sub (hc : c.isDigit = true) : Nat.toDigits 10 (c.toNat - '0'.toNat) = [c] := by
  have hlt := sub_lt_ten hc
  have hdigit : (c.toNat - '0'.toNat).digitChar.isDigit = true := by
    rw [Nat.isDigit_digitChar]
    exact decide_eq_true hlt
  have hback := Nat.toNat_digitChar_sub_48_of_lt_ten hlt
  have hle := (Char.isDigit_iff_toNat.mp hc).1
  have hle' := (Char.isDigit_iff_toNat.mp hdigit).1
  have h0 : '0'.toNat = 48 := rfl
  rw [Nat.toDigits_of_lt_base hlt, List.singleton_inj]
  apply Char.toNat_inj.mp
  omega

variable {cs : List Char}

theorem ofDigitChars_lt (hcs : ∀ c ∈ cs, c.isDigit = true) :
    Nat.ofDigitChars 10 cs 0 < 10 ^ cs.length := by
  induction cs with
  | nil => simp
  | cons c cs ih =>
    obtain ⟨hc, hcs⟩ := List.forall_mem_cons.mp hcs
    have hdigit := sub_lt_ten hc
    have hrest := ih hcs
    rw [Nat.ofDigitChars_cons, Nat.ofDigitChars_eq_ofDigitChars_zero, List.length_cons,
      Nat.pow_succ]
    have hle : 10 ^ cs.length * (10 * 0 + (c.toNat - '0'.toNat)) ≤ 10 ^ cs.length * 9 :=
      Nat.mul_le_mul_left _ (by omega)
    omega

/-- A text of digits is its number with zeros in front of it. -/
theorem exists_zeros (hne : cs ≠ []) (hcs : ∀ c ∈ cs, c.isDigit = true) :
    ∃ n, cs = List.replicate n '0' ++ Nat.toDigits 10 (Nat.ofDigitChars 10 cs 0) := by
  induction cs using List.reverseRecOn with
  | nil => exact absurd rfl hne
  | append_singleton cs c ih =>
    obtain ⟨hcs, hc⟩ := List.forall_mem_append.mp hcs
    have hc := List.forall_mem_singleton.mp hc
    have hvalue : Nat.ofDigitChars 10 (cs ++ [c]) 0 =
        10 * Nat.ofDigitChars 10 cs 0 + (c.toNat - '0'.toNat) := by
      rw [Nat.ofDigitChars_append, Nat.ofDigitChars_cons, Nat.ofDigitChars_nil]
    rw [hvalue]
    by_cases hnil : cs = []
    · subst hnil
      refine ⟨0, ?_⟩
      rw [Nat.ofDigitChars_nil, Nat.mul_zero, Nat.zero_add, toDigits_sub hc]
      rfl
    · obtain ⟨n, hn⟩ := ih hnil hcs
      by_cases hzero : Nat.ofDigitChars 10 cs 0 = 0
      · -- what is before the last digit is all zeros
        rw [hzero] at hn ⊢
        refine ⟨n + 1, ?_⟩
        rw [Nat.mul_zero, Nat.zero_add, toDigits_sub hc, List.replicate_succ']
        exact congrArg (· ++ [c]) hn
      · refine ⟨n, ?_⟩
        rw [← Nat.toDigits_append_toDigits (by decide) (Nat.pos_of_ne_zero hzero) (sub_lt_ten hc),
          toDigits_sub hc, ← List.append_assoc, ← hn]

end decimals
