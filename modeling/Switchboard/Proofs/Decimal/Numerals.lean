import Switchboard.Proofs.Decimal.Digits

/-!
# Numerals

The texts that write whole numbers: digits, with or without a sign. The readers of whole numbers
take exactly these, up to their bounds (`readNat?_eq_some_iff`, `readInt64?_eq_some_iff`).
-/

namespace Switchboard.Decimal

/-- A text of digits, which writes a number. -/
structure WritesDigits (ds : List Char) (n : Nat) : Prop where
  ne_nil : ds ≠ []
  digits : ∀ c ∈ ds, c.isDigit = true
  value : Nat.ofDigitChars 10 ds 0 = n

/-- A text that writes a number: digits, perhaps behind a plus sign. -/
inductive WritesNat : List Char → Nat → Prop
  | plain {ds : List Char} {n : Nat} (h : WritesDigits ds n) : WritesNat ds n
  | plus {ds : List Char} {n : Nat} (h : WritesDigits ds n) : WritesNat ('+' :: ds) n

/-- A text that writes an integer: a number, or digits behind a minus sign. -/
inductive WritesInt : List Char → Int → Prop
  | nat {cs : List Char} {n : Nat} (h : WritesNat cs n) : WritesInt cs n
  | minus {ds : List Char} {n : Nat} (h : WritesDigits ds n) : WritesInt ('-' :: ds) (-n)

variable {ds cs : List Char} {n : Nat} {i : Int} {s : String}

theorem readDigits?_eq_some_iff : readDigits? ds = some n ↔ WritesDigits ds n := by
  unfold readDigits?
  rw [natOfDigits_eq]
  constructor
  · intro h
    split at h
    · cases h
    next hds =>
      simp only [Bool.or_eq_true, List.isEmpty_iff, Bool.not_eq_true', not_or, Bool.not_eq_false,
        List.all_eq_true] at hds
      exact ⟨hds.1, hds.2, Option.some.inj h⟩
  · rintro ⟨hsome, hdigits, rfl⟩
    rw [if_neg]
    simpa using ⟨hsome, hdigits⟩

theorem not_writesDigits_sign {c : Char} (hc : c.isDigit = false) : ¬ WritesDigits (c :: ds) n :=
  fun h => by rw [h.digits c List.mem_cons_self] at hc; cases hc

theorem writesNat_plus : WritesNat ('+' :: ds) n ↔ WritesDigits ds n := by
  refine ⟨?_, .plus⟩
  rintro (h | h)
  · cases not_writesDigits_sign (by decide) h
  · exact h

theorem writesNat_of_no_plus (h : ∀ es, cs ≠ '+' :: es) : WritesNat cs n ↔ WritesDigits cs n := by
  refine ⟨?_, .plain⟩
  rintro (hn | hn)
  · exact hn
  · exact absurd rfl (h _)

theorem writesInt_minus :
    WritesInt ('-' :: ds) i ↔ ∃ n : Nat, WritesDigits ds n ∧ -(n : Int) = i := by
  constructor
  · intro h
    generalize hcs : '-' :: ds = cs at h
    cases h with
    | nat h =>
      subst hcs
      cases not_writesDigits_sign (by decide) ((writesNat_of_no_plus (by simp)).1 h)
    | minus h =>
      cases hcs
      exact ⟨_, h, rfl⟩
  · rintro ⟨n, h, rfl⟩
    exact .minus h

theorem writesInt_of_no_minus (h : ∀ es, cs ≠ '-' :: es) :
    WritesInt cs i ↔ ∃ n : Nat, WritesNat cs n ∧ (n : Int) = i := by
  constructor
  · rintro (hi | hi)
    · exact ⟨_, hi, rfl⟩
    · exact absurd rfl (h _)
  · rintro ⟨n, hn, rfl⟩
    exact .nat hn

/-- A number is read from the texts that write it, if it is below the limit. -/
theorem readNat?_eq_some_iff {limit : Nat} :
    readNat? limit s = some n ↔ WritesNat s.toList n ∧ n < limit := by
  unfold readNat?
  rw [Option.filter_eq_some_iff, decide_eq_true_iff, readDigits?_eq_some_iff]
  refine and_congr_left fun _ => ?_
  split
  next ds hs => rw [hs, writesNat_plus]
  next hplain => rw [writesNat_of_no_plus hplain]

/-- An integer is read from the texts that write it, if it has sixty-four bits. -/
theorem readInt64?_eq_some_iff :
    readInt64? s = some i ↔ WritesInt s.toList i ∧ inInt64 i = true := by
  unfold readInt64?
  rw [Option.filter_eq_some_iff]
  refine and_congr_left fun _ => ?_
  split
  next ds hs =>
    rw [hs, writesInt_of_no_minus (by simp), Option.map_eq_some_iff]
    simp only [readDigits?_eq_some_iff, writesNat_plus, Int.ofNat_eq_natCast]
  next ds hs =>
    rw [hs, writesInt_minus]
    simp only [bind_pure_comp, Option.map_eq_map, Option.map_map, Option.map_eq_some_iff,
      readDigits?_eq_some_iff, Function.comp_apply]
  next hplus hminus =>
    rw [writesInt_of_no_minus hminus, Option.map_eq_some_iff]
    simp only [readDigits?_eq_some_iff, writesNat_of_no_plus hplus, Int.ofNat_eq_natCast]

end Switchboard.Decimal
