import Switchboard.Dialogue.Introduction
import Switchboard.Proofs.Lists
import Switchboard.Proofs.Text.Trimming

/-!
# What an introduction finds

An introduction is found where one of its phrases is said first in a text: at the leftmost place
with a word boundary, where some phrase stands in any case of its letters, with blanks behind it and
a name on the same line. Of several phrases that are said there the first in their list counts
(`Introduction.tail?_eq_some_iff`).
-/

namespace Switchboard.Introduction

/-- A phrase in any case, blanks, and the rest of the line. -/
inductive Says (phrase : List Char) : List Char → List Char → Prop
  | intro {said gap tail rest : List Char} {c : Char}
      (said_eq : said.map Text.foldChar = phrase.map Text.foldChar)
      (apart : gap ≠ []) (blank : ∀ c ∈ gap, Text.isBlankChar c = true)
      (starts : Text.isBlankChar c = false) (line : '\n' ∉ c :: tail)
      (ends : ∀ d, rest.head? = some d → d = '\n') :
      Says phrase (said ++ (gap ++ (c :: tail ++ rest))) (c :: tail)

/-- At a word boundary one of the phrases is said, and none that is listed before it. -/
def SaysHere (ps : List (List Char)) (before : Option Char) (text tail : List Char) : Prop :=
  Text.atBoundary before text = true ∧ ∃ earlier p later, ps = earlier ++ p :: later ∧
    Says p text tail ∧ ∀ q ∈ earlier, ∀ t, ¬ Says q text t

/-- The words that an introduction takes out of a text. -/
def Captures : Introduction → List Char → List Char → Prop
  | phrases ps, text, tail => ∃ before rest, text = before ++ rest ∧
      SaysHere ps before.getLast? rest tail ∧
      ∀ b r, text = b ++ r → b.length < before.length → ∀ t, ¬ SaysHere ps b.getLast? r t
  | nameless, _, _ => False
  | search find?, text, tail => find? text = some tail

variable {p cs rest tail : List Char} {ps : List (List Char)} {prev : Option Char}

theorem afterPhrase?_eq_some_iff : afterPhrase? p cs = some rest ↔
    ∃ said, cs = said ++ rest ∧ said.map Text.foldChar = p.map Text.foldChar := by
  induction p generalizing cs with
  | nil => simp [afterPhrase?]
  | cons x p ih =>
    cases cs with
    | nil => simp [afterPhrase?]
    | cons c cs =>
      rw [afterPhrase?]
      constructor
      · intro h
        split at h
        next hfold =>
          obtain ⟨said, rfl, hsaid⟩ := ih.1 h
          exact ⟨c :: said, rfl, by rw [List.map_cons, List.map_cons, hfold, hsaid]⟩
        next => cases h
      · rintro ⟨_ | ⟨d, said⟩, hcs, hsaid⟩
        · cases hsaid
        · obtain ⟨rfl, rfl⟩ := List.cons.inj hcs
          obtain ⟨hfold, hsaid⟩ := List.cons.inj hsaid
          rw [if_pos hfold.symm]
          exact ih.2 ⟨said, rfl, hsaid⟩

/-- Behind blanks the rest of the line is taken, if there is more than blanks. -/
theorem takeLine_eq_some_iff : (match Text.dropBlanks cs with
      | [] => none
      | line => some (line.takeWhile (· != '\n'))) = some tail ↔
    ∃ gap c line rest, cs = gap ++ (c :: line ++ rest) ∧ tail = c :: line ∧
      (∀ c ∈ gap, Text.isBlankChar c = true) ∧ Text.isBlankChar c = false ∧ '\n' ∉ c :: line ∧
      ∀ d, rest.head? = some d → d = '\n' := by
  constructor
  · intro h
    obtain ⟨gap, hgap, hblank⟩ := Text.exists_blanks cs
    cases hdrop : Text.dropBlanks cs with
    | nil => simp [hdrop] at h
    | cons c line =>
      have hc : Text.isBlankChar c = false :=
        Text.not_blank_of_head?_dropBlanks (by rw [hdrop, List.head?_cons])
      simp only [hdrop, Option.some.injEq] at h
      obtain ⟨rest, hline, hin, hrest⟩ := takeWhile_eq_iff.1 h
      cases tail with
      | nil =>
        obtain rfl : c :: line = rest := hline
        obtain rfl : c = '\n' := bne_eq_false_iff_eq.1 (hrest c rfl)
        cases hc
      | cons d tail =>
        obtain ⟨rfl, rfl⟩ := List.cons.inj hline
        refine ⟨gap, c, tail, rest, hgap.trans (congrArg (gap ++ ·) hdrop), rfl, hblank, hc,
          fun hmem => ?_, fun d hd => ?_⟩
        · exact bne_iff_ne.1 (hin _ hmem) rfl
        · exact bne_eq_false_iff_eq.1 (hrest d hd)
  · rintro ⟨gap, c, line, rest, rfl, rfl, hgap, hc, hline, hrest⟩
    have hdrop : Text.dropBlanks (gap ++ (c :: line ++ rest)) = c :: line ++ rest :=
      Text.dropBlanks_append hgap fun d hd => Option.some.inj hd ▸ hc
    have htake : (c :: line ++ rest).takeWhile (· != '\n') = c :: line :=
      takeWhile_eq_iff.2 ⟨rest, rfl, fun d hd => bne_iff_ne.2 fun h => hline (h ▸ hd),
        fun d hd => bne_eq_false_iff_eq.2 (hrest d hd)⟩
    rw [hdrop]
    exact congrArg some htake

theorem tailAfter?_eq_some_iff : tailAfter? p cs = some tail ↔ Says p cs tail := by
  unfold tailAfter?
  constructor
  · intro h
    split at h
    next d after hafter =>
      obtain ⟨said, rfl, hsaid⟩ := afterPhrase?_eq_some_iff.1 hafter
      split at h
      next hd =>
        obtain ⟨gap, c, line, rest, rfl, rfl, hgap, hc, hline, hrest⟩ := takeLine_eq_some_iff.1 h
        exact @Says.intro p said (d :: gap) line rest c hsaid (List.cons_ne_nil _ _)
          (List.forall_mem_cons.2 ⟨hd, hgap⟩) hc hline hrest
      next => cases h
    next => cases h
  · rintro ⟨said_eq, apart, blank, starts, line, ends⟩
    rename_i said gap tail rest c
    obtain ⟨g, gap, rfl⟩ := List.exists_cons_of_ne_nil apart
    obtain ⟨hg, hgap⟩ := List.forall_mem_cons.1 blank
    have hafter : afterPhrase? p (said ++ (g :: gap ++ (c :: tail ++ rest))) =
        some (g :: (gap ++ (c :: tail ++ rest))) := afterPhrase?_eq_some_iff.2 ⟨said, rfl, said_eq⟩
    rw [hafter]
    simp only [hg, if_true]
    exact takeLine_eq_some_iff.2 ⟨gap, c, tail, rest, rfl, rfl, hgap, starts, line, ends⟩

theorem tailAfter?_eq_none_iff : tailAfter? p cs = none ↔ ∀ t, ¬ Says p cs t := by
  rw [Option.eq_none_iff_forall_ne_some]
  exact forall_congr' fun t => not_congr tailAfter?_eq_some_iff

/-- The first phrase that is said at a place, if it is a place where one may begin. -/
def here? (ps : List (List Char)) (before : Option Char) (cs : List Char) : Option (List Char) :=
  if Text.atBoundary before cs then ps.findSome? (tailAfter? · cs) else none

theorem here?_eq_some_iff : here? ps prev cs = some tail ↔ SaysHere ps prev cs tail := by
  unfold here? SaysHere
  split
  next hbound =>
    simp only [List.findSome?_eq_some_iff, tailAfter?_eq_some_iff, tailAfter?_eq_none_iff, hbound,
      true_and]
  next hbound => simp [hbound]

theorem here?_eq_none_iff : here? ps prev cs = none ↔ ∀ t, ¬ SaysHere ps prev cs t := by
  rw [Option.eq_none_iff_forall_ne_some]
  exact forall_congr' fun t => not_congr here?_eq_some_iff

theorem tailFrom?_cons (ps : List (List Char)) (prev : Option Char) (c : Char) (cs : List Char) :
    tailFrom? ps prev (c :: cs) = (here? ps prev (c :: cs)).or (tailFrom? ps (some c) cs) := by
  rw [tailFrom?, here?]
  cases (if Text.atBoundary prev (c :: cs) = true then ps.findSome? (tailAfter? · (c :: cs))
    else none) <;> rfl

/-- Nothing is said at the end of a text. -/
theorem SaysHere.ne_nil (h : SaysHere ps prev cs tail) : cs ≠ [] := by
  obtain ⟨-, _, _, _, -, hsays, -⟩ := h
  cases hsays with
  | intro _ apart => simp [apart]

/-- A place is the leftmost one behind a character if nothing is said at it, or it is itself. -/
theorem tailFrom?_eq_some_iff : tailFrom? ps prev cs = some tail ↔
    ∃ before rest, cs = before ++ rest ∧ SaysHere ps (before.getLast?.or prev) rest tail ∧
      ∀ b r, cs = b ++ r → b.length < before.length →
        ∀ t, ¬ SaysHere ps (b.getLast?.or prev) r t := by
  induction cs generalizing prev with
  | nil =>
    refine ⟨fun h => (nomatch h), ?_⟩
    rintro ⟨before, rest, hsplit, hhere, -⟩
    exact absurd (List.append_eq_nil_iff.1 hsplit.symm).2 hhere.ne_nil
  | cons c cs ih =>
    rw [tailFrom?_cons, Option.or_eq_some_iff, here?_eq_some_iff, ih]
    have hlast : ∀ b : List Char, (c :: b).getLast?.or prev = b.getLast?.or (some c) := by
      intro b
      cases h : b.getLast? <;> simp [List.getLast?_cons, h]
    constructor
    · rintro (hhere | ⟨hnone, before, rest, rfl, hhere, hleft⟩)
      · exact ⟨[], c :: cs, rfl, hhere, fun _ _ _ hlt => absurd hlt (Nat.not_lt_zero _)⟩
      · refine ⟨c :: before, rest, rfl, by rwa [hlast], fun b r hsplit hlt t => ?_⟩
        cases b with
        | nil =>
          obtain rfl := hsplit
          exact here?_eq_none_iff.1 hnone t
        | cons d b =>
          obtain ⟨rfl, hrest⟩ := List.cons.inj hsplit
          rw [hlast]
          exact hleft b r hrest (Nat.lt_of_succ_lt_succ hlt) t
    · rintro ⟨before, rest, hsplit, hhere, hleft⟩
      cases before with
      | nil =>
        obtain rfl := hsplit
        exact .inl hhere
      | cons d before =>
        have hnone := here?_eq_none_iff.2 (hleft [] (c :: cs) rfl (Nat.succ_pos _))
        obtain ⟨rfl, rfl⟩ := List.cons.inj hsplit
        rw [hlast] at hhere
        refine .inr ⟨hnone, before, rest, rfl, hhere, fun b r hsplit hlt t => ?_⟩
        rw [← hlast]
        exact hleft (c :: b) r (congrArg (c :: ·) hsplit) (Nat.succ_lt_succ hlt) t

theorem tail?_eq_some_iff {i : Introduction} : i.tail? cs = some tail ↔ i.Captures cs tail := by
  cases i with
  | phrases ps =>
    refine tailFrom?_eq_some_iff.trans ?_
    simp only [Option.or_none]
    rfl
  | nameless => exact ⟨fun h => (nomatch h), False.elim⟩
  | search find? => rfl

end Switchboard.Introduction
