import Mathlib.Data.List.Basic
import Mathlib.Data.List.TakeWhile
import Switchboard.Proofs.Lists
import Switchboard.Text.Blank

/-!
# Trimmed texts

A text is trimmed if no blank stands at either end of it. What trimming leaves is trimmed, and so
are words with single spaces between them.
-/

namespace Switchboard.Text

/-- Letters and digits are no blanks. -/
theorem not_blank_of_isAlphanum {c : Char} (h : c.isAlphanum = true) : isBlankChar c = false := by
  have hbetween : ∀ {low high : UInt32}, low ≤ c.val → c.val ≤ high →
      low.toNat ≤ c.toNat ∧ c.toNat ≤ high.toNat := fun hlow hhigh =>
    ⟨UInt32.le_iff_toNat_le.1 hlow, UInt32.le_iff_toNat_le.1 hhigh⟩
  have hrange : 48 ≤ c.toNat ∧ c.toNat ≤ 122 := by
    rcases Bool.or_eq_true_iff.1 h with hletter | hdigit
    · rcases Bool.or_eq_true_iff.1 hletter with hupper | hlower
      · obtain ⟨hlow, hhigh⟩ := of_decide_eq_true hupper
        have hcode : 65 ≤ c.toNat ∧ c.toNat ≤ 90 := hbetween hlow hhigh
        omega
      · obtain ⟨hlow, hhigh⟩ := Bool.and_eq_true_iff.1 hlower
        have hcode : 97 ≤ c.toNat ∧ c.toNat ≤ 122 :=
          hbetween (of_decide_eq_true hlow) (of_decide_eq_true hhigh)
        omega
    · have hcode : 48 ≤ c.toNat ∧ c.toNat ≤ 57 := Char.isDigit_iff_toNat.1 hdigit
      omega
  simp [isBlankChar, inRanges, blankRanges]
  omega

/-- No blank stands at either end. -/
structure Trimmed (s : String) : Prop where
  first : ∀ c, s.toList.head? = some c → isBlankChar c = false
  last : ∀ c, s.toList.getLast? = some c → isBlankChar c = false

theorem not_blank_of_head?_dropBlanks {cs : List Char} {c : Char}
    (h : (dropBlanks cs).head? = some c) : isBlankChar c = false := by
  have hhead := List.head?_dropWhile_not isBlankChar cs
  unfold dropBlanks at h
  rw [h] at hhead
  exact hhead

/-- What is left behind leading blanks ends as before. -/
theorem getLast?_of_dropBlanks {cs : List Char} {c : Char}
    (h : (dropBlanks cs).getLast? = some c) : cs.getLast? = some c := by
  obtain ⟨blanks, hcs⟩ := List.dropWhile_suffix (l := cs) isBlankChar
  rw [← hcs, List.getLast?_append]
  unfold dropBlanks at h
  rw [h]
  rfl

theorem trimmed_trim (s : String) : Trimmed (trim s) := by
  unfold trim trimChars
  refine ⟨fun c hc => ?_, fun c hc => ?_⟩ <;> rw [String.toList_ofList] at hc
  · rw [List.head?_reverse] at hc
    have hlast := getLast?_of_dropBlanks hc
    rw [List.getLast?_reverse] at hlast
    exact not_blank_of_head?_dropBlanks hlast
  · rw [List.getLast?_reverse] at hc
    exact not_blank_of_head?_dropBlanks hc

theorem dropBlanks_of_head? {cs : List Char}
    (h : ∀ c, cs.head? = some c → isBlankChar c = false) : dropBlanks cs = cs := by
  cases cs with
  | nil => rfl
  | cons c cs => exact List.dropWhile_cons_of_neg (Bool.eq_false_iff.1 (h c rfl))

variable {s : String}

theorem Trimmed.trimChars_eq (h : Trimmed s) : trimChars s.toList = s.toList := by
  have hreversed : dropBlanks s.toList.reverse = s.toList.reverse :=
    dropBlanks_of_head? fun c hc => h.last c (List.head?_reverse ▸ hc)
  rw [trimChars, dropBlanks_of_head? h.first, hreversed, List.reverse_reverse]

theorem Trimmed.trim_eq (h : Trimmed s) : trim s = s := by
  rw [trim, h.trimChars_eq, String.ofList_toList]

theorem isBlank_trim (s : String) : isBlank (trim s) = isBlank s := by
  have htrim : trimChars (trim s).toList = trimChars s.toList := by
    rw [(trimmed_trim s).trimChars_eq, trim, String.toList_ofList]
  rw [Bool.eq_iff_iff, isBlank, isBlank, ← trimChars_eq_nil_iff, ← trimChars_eq_nil_iff, htrim]

theorem isEmpty_trim (s : String) : (trim s).isEmpty = isBlank s := by
  rw [Bool.eq_iff_iff, String.isEmpty_iff, isBlank, ← trimChars_eq_nil_iff, trim,
    String.ofList_eq_empty_iff]

theorem not_blank_of_mem {c : Char} (h : c ∈ s.toList) (hc : isBlankChar c = false) :
    isBlank s = false := by
  rw [isBlank, List.all_eq_false]
  exact ⟨c, h, Bool.eq_false_iff.1 hc⟩

/-- A text without the blanks around it. -/
structure IsCore (cs core : List Char) : Prop where
  around : ∃ left right, cs = left ++ (core ++ right) ∧
    (∀ c ∈ left, isBlankChar c = true) ∧ ∀ c ∈ right, isBlankChar c = true
  trimmed : Trimmed (String.ofList core)

theorem exists_blanks (cs : List Char) :
    ∃ blanks, cs = blanks ++ dropBlanks cs ∧ ∀ c ∈ blanks, isBlankChar c = true :=
  ⟨cs.takeWhile isBlankChar, List.takeWhile_append_dropWhile.symm,
    fun _ hc => List.mem_takeWhile_imp hc⟩

theorem isCore_trimChars (cs : List Char) : IsCore cs (trimChars cs) where
  around := by
    obtain ⟨left, hleft, hblank⟩ := exists_blanks cs
    obtain ⟨right, hright, hblank'⟩ := exists_blanks (dropBlanks cs).reverse
    refine ⟨left, right.reverse, ?_, hblank, fun c hc => hblank' c (List.mem_reverse.1 hc)⟩
    rw [trimChars, ← List.reverse_append, ← hright, List.reverse_reverse, ← hleft]
  trimmed := by simpa [trim] using trimmed_trim (String.ofList cs)

theorem dropBlanks_append {blanks cs : List Char} (hblanks : ∀ c ∈ blanks, isBlankChar c = true)
    (hcs : ∀ c, cs.head? = some c → isBlankChar c = false) : dropBlanks (blanks ++ cs) = cs :=
  (takeWhile_dropWhile_append hblanks hcs).2

/-- No other part of a text stands between its outer blanks. -/
theorem IsCore.eq_trimChars {cs core : List Char} (h : IsCore cs core) : core = trimChars cs := by
  obtain ⟨⟨left, right, rfl, hleft, hright⟩, hfirst, hlast⟩ := h
  rw [String.toList_ofList] at hfirst hlast
  by_cases hcore : core = []
  · subst hcore
    refine (trimChars_eq_nil_iff.2 (List.all_eq_true.2 fun c hc => ?_)).symm
    exact (List.mem_append.1 hc).elim (hleft c) (hright c)
  · have hdrop : dropBlanks (left ++ (core ++ right)) = core ++ right := by
      refine dropBlanks_append hleft fun c hc => hfirst c ?_
      rwa [List.head?_append_of_ne_nil _ hcore] at hc
    have hdrop' : dropBlanks (right.reverse ++ core.reverse) = core.reverse := by
      refine dropBlanks_append (fun c hc => hright c (List.mem_reverse.1 hc)) fun c hc => hlast c ?_
      rwa [List.head?_reverse] at hc
    rw [trimChars, hdrop, List.reverse_append, hdrop', List.reverse_reverse]

/-- A trimmed text is blank only if it is empty. -/
theorem Trimmed.not_blank (h : Trimmed s) (hs : s ≠ "") : isBlank s = false := by
  obtain ⟨c, cs, hcs⟩ := List.exists_cons_of_ne_nil (mt String.toList_eq_nil_iff.1 hs)
  refine not_blank_of_mem (c := c) ?_ (h.first c ?_) <;> rw [hcs]
  · exact List.mem_cons_self
  · rfl

-- ---------------------------------------------------------------------------
-- Words
-- ---------------------------------------------------------------------------

def IsWord (w : List Char) : Prop := w ≠ [] ∧ ∀ c ∈ w, isBlankChar c = false

theorem IsWord.cons {c : Char} {w : List Char} (hc : ¬ isBlankChar c = true)
    (hw : ∀ d ∈ w, isBlankChar d = false) : IsWord (c :: w) :=
  ⟨List.cons_ne_nil _ _, List.forall_mem_cons.2 ⟨Bool.eq_false_iff.2 hc, hw⟩⟩

theorem isWord_of_mem_words {cs w : List Char} (h : w ∈ words cs) : IsWord w := by
  have hone : ∀ {c : Char}, ¬ isBlankChar c = true → IsWord [c] := fun hc =>
    .cons hc fun _ hd => nomatch hd
  fun_induction words cs generalizing w with
  | case1 => cases h
  | case2 c cs hc ih => exact ih h
  | case3 c hc => exact List.mem_singleton.1 h ▸ hone hc
  | case4 c hc d cs hd ih =>
    rcases List.mem_cons.1 h with rfl | h
    · exact hone hc
    · exact ih h
  | case5 c hc d cs hd hnone ih =>
    rw [hnone] at h
    exact List.mem_singleton.1 h ▸ hone hc
  | case6 c hc d cs hd v vs hwords ih =>
    rw [hwords] at h ih
    rcases List.mem_cons.1 h with rfl | h
    · exact .cons hc (ih List.mem_cons_self).2
    · exact ih (List.mem_cons_of_mem _ h)

theorem ends_intercalate {ws : List (List Char)} (h : ∀ w ∈ ws, IsWord w) (hne : ws ≠ []) :
    ∃ c d, ([' '].intercalate ws).head? = some c ∧ ([' '].intercalate ws).getLast? = some d ∧
      isBlankChar c = false ∧ isBlankChar d = false := by
  induction ws with
  | nil => exact absurd rfl hne
  | cons w ws ih =>
    obtain ⟨⟨hw, hchars⟩, hws⟩ := List.forall_mem_cons.1 h
    have hfirst : w.head? = some (w.head hw) := List.head?_eq_some_head hw
    cases ws with
    | nil =>
      rw [List.intercalate_singleton]
      exact ⟨_, _, hfirst, List.getLast?_eq_some_getLast hw, hchars _ (List.head_mem hw),
        hchars _ (List.getLast_mem hw)⟩
    | cons v vs =>
      obtain ⟨-, d, -, hlast, -, hd⟩ := ih hws (List.cons_ne_nil _ _)
      refine ⟨w.head hw, d, ?_, ?_, hchars _ (List.head_mem hw), hd⟩
      · rw [List.intercalate_cons_cons, List.append_assoc, List.head?_append, hfirst]
        rfl
      · rw [List.intercalate_cons_cons, List.getLast?_append, hlast]
        rfl

/-- Words with single spaces between them begin and end with a word. -/
theorem trimmed_intercalate {ws : List (List Char)} (h : ∀ w ∈ ws, IsWord w) :
    Trimmed (String.ofList ([' '].intercalate ws)) := by
  by_cases hne : ws = []
  · subst hne
    constructor <;> intro c hc <;> rw [String.toList_ofList] at hc <;> cases hc
  · obtain ⟨c, d, hhead, hlast, hc, hd⟩ := ends_intercalate h hne
    constructor <;> intro x hx <;> rw [String.toList_ofList] at hx
    · obtain rfl := Option.some.inj (hhead.symm.trans hx)
      exact hc
    · obtain rfl := Option.some.inj (hlast.symm.trans hx)
      exact hd

end Switchboard.Text
