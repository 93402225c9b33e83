import Mathlib.Data.List.TakeWhile
import Switchboard.Dialogue.Plan
import Switchboard.Proofs.Lists
import Switchboard.Proofs.Text.Trimming

/-!
# Answers that are kept

A node takes an answer that is not blank, and one that asks for an address of electronic mail takes
nothing else (`Node.accepts_iff`). What is kept of an answer is never blank, whatever introductions
are known (`keptAnswer_not_blank`), and neither is the name that it is kept under
(`Node.captureName_not_blank`).
-/

namespace Switchboard

-- ---------------------------------------------------------------------------
-- Addresses
-- ---------------------------------------------------------------------------

/-- A user, the only at sign, and a host with a dot between two of its parts; and no blanks. -/
inductive IsAddress : List Char → Prop
  | intro {user host top : List Char} (hasUser : user ≠ []) (hasHost : host ≠ [])
      (hasTop : top ≠ []) (userPlain : '@' ∉ user) (hostPlain : '@' ∉ host ++ '.' :: top)
      (whole : ∀ c ∈ user ++ '@' :: (host ++ '.' :: top), Text.isBlankChar c = false) :
    IsAddress (user ++ '@' :: (host ++ '.' :: top))

namespace AnswerKind

theorem hasInnerDot_iff {cs : List Char} : hasInnerDot cs = true ↔
    ∃ host top, host ≠ [] ∧ top ≠ [] ∧ cs = host ++ '.' :: top := by
  unfold hasInnerDot
  rw [List.contains_iff_mem]
  constructor
  · intro h
    obtain ⟨before, after, hinner⟩ := List.append_of_mem h
    obtain _ | ⟨c, cs⟩ := cs
    · cases h
    obtain rfl | ⟨init, last, rfl⟩ := cs.eq_nil_or_concat
    · cases h
    rw [List.drop_one, List.tail_cons, List.concat_eq_append, List.dropLast_concat] at hinner
    refine ⟨c :: before, after ++ [last], List.cons_ne_nil _ _, by simp, ?_⟩
    rw [hinner]
    simp
  · rintro ⟨host, top, hhost, htop, rfl⟩
    obtain ⟨c, host, rfl⟩ := List.exists_cons_of_ne_nil hhost
    rw [List.cons_append, List.drop_one, List.tail_cons,
      List.dropLast_append_of_ne_nil (List.cons_ne_nil _ _), List.dropLast_cons_of_ne_nil htop]
    exact List.mem_append_right _ List.mem_cons_self

theorem isAddress_append {user domain : List Char} (hasUser : user ≠ []) (huser : '@' ∉ user) :
    isAddress (user ++ '@' :: domain) = true ↔
      (∀ c ∈ user ++ '@' :: domain, Text.isBlankChar c = false) ∧ '@' ∉ domain ∧
        hasInnerDot domain = true := by
  have hbefore : ∀ c ∈ user, (c != '@') = true := fun c hc =>
    bne_iff_ne.2 fun heq => huser (heq ▸ hc)
  have hbehind : ∀ c, ('@' :: domain).head? = some c → (c != '@') = false := fun c hc =>
    Option.some.inj hc ▸ rfl
  obtain ⟨htake, hdrop⟩ := takeWhile_dropWhile_append hbefore hbehind
  have hsplit : isAddress (user ++ '@' :: domain) =
      (!(user ++ '@' :: domain).any Text.isBlankChar && !domain.contains '@' &&
        hasInnerDot domain) := by
    unfold isAddress
    rw [htake, hdrop]
    cases user with
    | nil => exact absurd rfl hasUser
    | cons c cs => rfl
  simp only [hsplit, Bool.and_eq_true, Bool.not_eq_true', List.any_eq_false, Bool.not_eq_true,
    List.contains_eq_mem, decide_eq_false_iff_not, and_assoc]

theorem exists_user {cs : List Char} (h : isAddress cs = true) :
    ∃ user domain, user ≠ [] ∧ '@' ∉ user ∧ cs = user ++ '@' :: domain := by
  have huser : '@' ∉ cs.takeWhile (· != '@') := fun hc =>
    bne_iff_ne.1 (List.mem_takeWhile_imp (p := (· != '@')) hc) rfl
  have hrest := List.head?_dropWhile_not (· != '@') cs
  have hcs : cs.takeWhile (· != '@') ++ cs.dropWhile (· != '@') = cs :=
    List.takeWhile_append_dropWhile
  unfold isAddress at h
  generalize cs.takeWhile (· != '@') = user at h huser hcs
  generalize cs.dropWhile (· != '@') = rest at h hrest hcs
  split at h
  · cases h
  · cases h
  next hne =>
    obtain rfl := bne_eq_false_iff_eq.1 hrest
    exact ⟨_, _, hne, huser, hcs.symm⟩

theorem isAddress_iff {cs : List Char} : isAddress cs = true ↔ IsAddress cs := by
  constructor
  · intro h
    obtain ⟨user, domain, hasUser, huser, rfl⟩ := exists_user h
    rw [isAddress_append hasUser huser, hasInnerDot_iff] at h
    obtain ⟨whole, hostPlain, host, top, hasHost, hasTop, rfl⟩ := h
    exact .intro hasUser hasHost hasTop huser hostPlain whole
  · rintro ⟨hasUser, hasHost, hasTop, userPlain, hostPlain, whole⟩
    rw [isAddress_append hasUser userPlain, hasInnerDot_iff]
    exact ⟨whole, hostPlain, _, _, hasHost, hasTop, rfl⟩

end AnswerKind

-- ---------------------------------------------------------------------------
-- Names that answers are kept under
-- ---------------------------------------------------------------------------

theorem Decimal.documentText?_not_blank {x : Float} {s : String} (h : documentText? x = some s) :
    Text.isBlank s = false := by
  -- one form has a point in it, and the other one an exponent
  have hbody : ∀ (d : Digits) (middle : Prop) [Decidable middle],
      ∃ c ∈ if middle then positional true d else scientific d, Text.isBlankChar c = false := by
    intro d middle _
    split
    · refine ⟨'.', ?_, by decide⟩
      unfold positional
      split <;> simp
    · exact ⟨'e', by simp [scientific], by decide⟩
  unfold documentText? at h
  dsimp only at h
  split at h
  next m q narrow _ =>
    obtain rfl := Option.some.inj h
    obtain ⟨c, hc, hblank⟩ := hbody (shortest m q narrow .toEven)
      (-5 ≤ leadingExponent (shortest m q narrow .toEven) ∧
        leadingExponent (shortest m q narrow .toEven) ≤ 15)
    refine Text.not_blank_of_mem ?_ hblank
    rw [String.toList_ofList]
    exact List.mem_append_right _ hc
  next => cases h

theorem Number.text_not_blank (x : Number) : Text.isBlank x.text = false := by
  cases x with
  | int i =>
    have hdigit : ∀ n : Nat, ∃ c ∈ (Nat.repr n).toList, Text.isBlankChar c = false := by
      intro n
      rw [Nat.repr_eq_ofList_toDigits, String.toList_ofList]
      obtain ⟨c, hc⟩ := List.exists_mem_of_ne_nil _ (Nat.toDigits_ne_nil (n := n) (b := 10))
      have hd := Nat.isDigit_of_mem_toDigits (by decide) (by decide) hc
      exact ⟨c, hc, Text.not_blank_of_isAlphanum (by rw [Char.isAlphanum, hd, Bool.or_true])⟩
    cases i with
    | ofNat n =>
      obtain ⟨c, hc, hblank⟩ := hdigit n
      exact Text.not_blank_of_mem hc hblank
    | negSucc n =>
      have hsign : '-' ∈ ("-" ++ Nat.repr (n + 1)).toList := by simp
      exact Text.not_blank_of_mem hsign (by decide)
  | float x =>
    rw [text]
    cases h : Decimal.documentText? x with
    | none => decide
    | some s => exact Decimal.documentText?_not_blank h

namespace Node

variable {n : Node}

theorem textField?_not_blank {name s : String} (h : n.textField? name = some s) :
    Text.isBlank s = false := by
  unfold textField? at h
  split at h
  · split at h
    · cases h
    next hblank =>
      cases h
      exact Bool.eq_false_iff.2 hblank
  · cases h
    exact Number.text_not_blank _
  · cases h

/-- The name that an answer is kept under is never blank. -/
theorem captureName_not_blank (n : Node) : Text.isBlank n.captureName = false := by
  unfold captureName
  split
  next name h => rw [Text.isBlank_trim, textField?_not_blank h]
  next =>
    split
    · decide
    · exact Text.not_blank_of_mem (c := 'c') (by simp) (by decide)

end Node

-- ---------------------------------------------------------------------------
-- Names that answers tell
-- ---------------------------------------------------------------------------

theorem isWord_of_mem_nameWords {cs w : List Char} (h : w ∈ nameWords cs) : Text.IsWord w :=
  Text.isWord_of_mem_words (List.takeWhile_subset _ (List.mem_of_mem_take h))

theorem trimmed_leadingName (cs : List Char) : Text.Trimmed (String.ofList (leadingName cs)) :=
  Text.trimmed_intercalate fun _ => isWord_of_mem_nameWords

theorem Introduction.trimmed_name? {i : Introduction} {answer name : List Char}
    (h : i.name? answer = some name) : name ≠ [] ∧ Text.Trimmed (String.ofList name) := by
  obtain ⟨hname, hne⟩ := Option.filter_eq_some_iff.1 h
  obtain ⟨tail, -, rfl⟩ := Option.map_eq_some_iff.1 hname
  exact ⟨by simpa using hne, trimmed_leadingName tail⟩

/-- A cut answer begins as the answer does, and ends in the mark that is put behind it. -/
theorem trimmed_cut {cs : List Char} (h : Text.Trimmed (String.ofList cs)) (hcs : cs ≠ []) :
    Text.Trimmed (String.ofList (cs.take maxNameChars ++ "...".toList)) := by
  obtain ⟨c, cs, rfl⟩ := List.exists_cons_of_ne_nil hcs
  have hdots : "...".toList.getLast? = some '.' := rfl
  constructor <;> intro d hd <;> rw [String.toList_ofList] at hd
  · exact h.first d (by rw [String.toList_ofList]; exact hd)
  · rw [List.getLast?_append, hdots] at hd
    exact Option.some.inj hd ▸ by decide

/-- The name in an answer is trimmed, and not blank unless the answer is. -/
theorem givenName_trimmed (introductions : List Introduction) {answer : String}
    (h : Text.isBlank answer = false) :
    Text.Trimmed (givenName introductions answer) ∧ givenName introductions answer ≠ "" := by
  have hwhole : Text.Trimmed (String.ofList (Text.trimChars answer.toList)) :=
    Text.trimmed_trim answer
  have hne : Text.trimChars answer.toList ≠ [] := fun hnil => by
    rw [Text.isBlank, Text.trimChars_eq_nil_iff.1 hnil] at h
    cases h
  unfold givenName
  dsimp only
  split
  next name hname =>
    obtain ⟨i, -, hi⟩ := List.exists_of_findSome?_eq_some hname
    obtain ⟨hne, htrimmed⟩ := Introduction.trimmed_name? hi
    exact ⟨htrimmed, by simpa using hne⟩
  next =>
    split
    · exact ⟨trimmed_cut hwhole hne, by simp⟩
    · exact ⟨hwhole, by simpa using hne⟩

-- ---------------------------------------------------------------------------
-- What an answer teaches
-- ---------------------------------------------------------------------------

/-- A node does not take an answer: there is nothing in it, or it is no address where one is asked
for. -/
def Node.Declines (n : Node) (answer : String) : Prop :=
  Text.isBlank answer = true ∨
    AnswerKind.read (n.textField? "inputType") = .email ∧ ¬ IsAddress answer.toList

/-- What is kept of an answer under a name. -/
def keptAnswer (introductions : List Introduction) (name answer : String) : String :=
  if isNameVariable name then givenName introductions answer else answer

theorem keptAnswer_not_blank (introductions : List Introduction) (name : String) {answer : String}
    (h : Text.isBlank answer = false) :
    Text.isBlank (keptAnswer introductions name answer) = false := by
  unfold keptAnswer
  split
  · obtain ⟨htrimmed, hne⟩ := givenName_trimmed introductions h
    exact htrimmed.not_blank hne
  · exact h

namespace Node

variable {n : Node} {reply : String}

theorem accepts_iff (n : Node) (reply : String) :
    (AnswerKind.read (n.textField? "inputType")).accepts (Text.trim reply) = true ↔
      ¬ n.Declines (Text.trim reply) := by
  unfold AnswerKind.accepts Declines
  rw [(Text.trimmed_trim reply).trimChars_eq, not_or, not_and, not_not, ← AnswerKind.isAddress_iff,
    Bool.and_eq_true, Bool.not_eq_true', Bool.not_eq_true]
  cases AnswerKind.read (n.textField? "inputType") <;> simp

theorem lesson?_of_declines (h : n.Declines (Text.trim reply))
    (introductions : List Introduction) : n.lesson? introductions reply = none :=
  if_neg fun haccepts => (n.accepts_iff reply).1 haccepts h

theorem lesson?_of_takes (h : ¬ n.Declines (Text.trim reply))
    (introductions : List Introduction) : n.lesson? introductions reply =
      some ⟨n.captureName, keptAnswer introductions n.captureName (Text.trim reply),
        isNameVariable n.captureName⟩ := by
  have haccepts := (n.accepts_iff reply).2 h
  unfold lesson?
  dsimp only
  rw [if_pos haccepts, keptAnswer]
  cases isNameVariable n.captureName <;> rfl

end Node

end Switchboard
