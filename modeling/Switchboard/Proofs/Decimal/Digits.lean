import Mathlib.Algebra.Group.Nat.Defs
import Mathlib.Data.List.Basic
import Switchboard.Decimal.Reading
import Switchboard.Proofs.Lists

/-!
# Digits read back

The digits of a number are read back as that number, with zeros before them and up to the first
character that is no digit.
-/

namespace Switchboard.Decimal

theorem natOfDigits_eq (start : Nat) (ds : List Char) :
    natOfDigits start ds = Nat.ofDigitChars 10 ds start := by
  simp [natOfDigits, Nat.ofDigitChars_eq_foldl, digitValue, Nat.mul_comm]

@[simp] theorem natOfDigits_toDigits (n : Nat) : natOfDigits 0 (Nat.toDigits 10 n) = n := by
  rw [natOfDigits_eq, Nat.ofDigitChars_ten_toDigits]

theorem natOfDigits_append (start : Nat) (ds es : List Char) :
    natOfDigits start (ds ++ es) = natOfDigits (natOfDigits start ds) es := List.foldl_append

@[simp] theorem natOfDigits_replicate (k : Nat) : natOfDigits 0 (List.replicate k '0') = 0 := by
  rw [natOfDigits_eq, Nat.ofDigitChars_replicate_zero, Nat.mul_zero]

theorem natOfDigits_lt {ds : List Char} (h : ∀ c ∈ ds, c.isDigit = true) :
    natOfDigits 0 ds < 10 ^ ds.length := by
  have hstart : ∀ (ds : List Char) (start : Nat), (∀ c ∈ ds, c.isDigit = true) →
      natOfDigits start ds < (start + 1) * 10 ^ ds.length := by
    intro ds
    induction ds with
    | nil => simp [natOfDigits]
    | cons d ds ih =>
      intro start hds
      obtain ⟨hd, hds⟩ := List.forall_mem_cons.1 hds
      have hvalue : digitValue d ≤ 9 := by
        have hnine : d.toNat ≤ 57 := (Char.isDigit_iff_toNat.1 hd).2
        show d.toNat - 48 ≤ 9
        omega
      calc natOfDigits start (d :: ds)
          = natOfDigits (start * 10 + digitValue d) ds := rfl
        _ < (start * 10 + digitValue d + 1) * 10 ^ ds.length := ih _ hds
        _ ≤ (start + 1) * 10 * 10 ^ ds.length := Nat.mul_le_mul_right _ (by omega)
        _ = (start + 1) * 10 ^ (d :: ds).length := by
          rw [List.length_cons, Nat.pow_succ, Nat.mul_assoc, Nat.mul_comm 10]
  simpa using hstart ds 0 h

theorem isDigit_toDigits {n : Nat} {c : Char} (h : c ∈ Nat.toDigits 10 n) : c.isDigit = true :=
  Nat.isDigit_of_mem_toDigits (by decide) (by decide) h

/-- The digits of a number begin with a zero only if it is zero. -/
theorem toDigits_leading {n : Nat} (h : (Nat.toDigits 10 n).head? = some '0') : n = 0 := by
  induction n using Nat.strongRecOn with
  | ind n ih =>
    rcases Nat.lt_or_ge n 10 with hn | hn
    · rw [Nat.toDigits_of_lt_base hn, List.head?_cons, Option.some.injEq] at h
      exact Nat.digitChar_eq_zero.1 h
    · rw [Nat.toDigits_of_base_le (by decide) hn, List.head?_append_of_ne_nil _
        Nat.toDigits_ne_nil] at h
      have := ih (n / 10) (by omega) h
      omega

/-- A text at which a number ends. -/
def EndsNumber (rest : List Char) : Prop := ∀ c, rest.head? = some c → c.isDigit = false

theorem takeWhile_digits {ds rest : List Char} (hds : ∀ c ∈ ds, c.isDigit = true)
    (hrest : EndsNumber rest) :
    (ds ++ rest).takeWhile Char.isDigit = ds ∧ (ds ++ rest).dropWhile Char.isDigit = rest :=
  takeWhile_dropWhile_append hds hrest

end Switchboard.Decimal
