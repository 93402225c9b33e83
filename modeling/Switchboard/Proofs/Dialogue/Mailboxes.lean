import Mathlib.Computability.Language
import Switchboard.Proofs.Dialogue.Answers

/-!
# Addresses of electronic mail

An answer to a question for an address counts without the blanks around it. It is taken if it has
the form of an address: no blanks, a single at sign behind something, and behind that a dot with
something on both sides of it. These are the texts of a regular language
(`mem_addresses_iff`), although the parts of a host that its grammar puts around a dot may
have dots in them as well. Other questions take all that is not blank (`accepted_answers`).
-/

namespace Switchboard

open scoped Computability

variable {cs : List Char}

/-- No blanks, one at sign behind the first place, and behind it a dot that is neither the first nor
the last character there. -/
structure HasAddressForm (cs : List Char) : Prop where
  unbroken : ∀ c ∈ cs, Text.isBlankChar c = false
  oneAt : cs.count '@' = 1
  dotted : ∃ i j, cs[i]? = some '@' ∧ 0 < i ∧ cs[j]? = some '.' ∧ i + 1 < j ∧ j + 1 < cs.length

theorem IsAddress.hasAddressForm (h : IsAddress cs) : HasAddressForm cs := by
  obtain ⟨hasUser, hasHost, hasTop, userPlain, hostPlain, whole⟩ := h
  rename_i user host top
  refine ⟨whole, ?_, user.length, user.length + (host.length + 1), ?_,
    List.length_pos_iff.2 hasUser, ?_, ?_, ?_⟩
  · rw [List.count_append, List.count_cons_self, List.count_eq_zero.2 userPlain,
      List.count_eq_zero.2 hostPlain]
  · exact getElem?_eq_some_iff_split.2 ⟨user, _, rfl, rfl⟩
  · refine getElem?_eq_some_iff_split.2 ⟨user ++ '@' :: host, top, ?_, ?_⟩
    · rw [List.append_assoc, List.cons_append]
    · rw [List.length_append, List.length_cons]
  · have := List.length_pos_iff.2 hasHost
    omega
  · have := List.length_pos_iff.2 hasTop
    simp only [List.length_append, List.length_cons]
    omega

theorem HasAddressForm.isAddress (h : HasAddressForm cs) : IsAddress cs := by
  obtain ⟨unbroken, oneAt, i, j, hat, hi, hdot, hij, hj⟩ := h
  obtain ⟨user, domain, rfl, rfl⟩ := getElem?_eq_some_iff_split.1 hat
  -- the dot stands in the part behind the at sign
  have hplace : domain[j - (user.length + 1)]? = some '.' := by
    rw [← hdot, List.getElem?_append_right (by omega), ← List.getElem?_cons_succ]
    congr 1
    omega
  obtain ⟨host, top, rfl, hhost⟩ := getElem?_eq_some_iff_split.1 hplace
  rw [List.count_append, List.count_cons_self] at oneAt
  simp only [List.length_append, List.length_cons] at hj
  exact .intro (List.length_pos_iff.1 hi) (List.length_pos_iff.1 (by omega))
    (List.length_pos_iff.1 (by omega)) (List.count_eq_zero.1 (by omega))
    (List.count_eq_zero.1 (by omega)) unbroken

theorem hasAddressForm_iff : HasAddressForm cs ↔ IsAddress cs :=
  ⟨HasAddressForm.isAddress, IsAddress.hasAddressForm⟩

-- ---------------------------------------------------------------------------
-- The language of addresses
-- ---------------------------------------------------------------------------

/-- One character that is neither blank nor an at sign. -/
def plainChar : Language Char := {cs | ∃ c, cs = [c] ∧ Text.isBlankChar c = false ∧ c ≠ '@'}

/-- One or more of them. -/
def plainPart : Language Char := plainChar * plainChar∗

/-- The grammar of an address. -/
def addresses : Language Char := plainPart * {['@']} * (plainPart * {['.']} * plainPart)

theorem mem_kstar_plainChar :
    cs ∈ plainChar∗ ↔ ∀ c ∈ cs, Text.isBlankChar c = false ∧ c ≠ '@' := by
  rw [Language.mem_kstar]
  constructor
  · rintro ⟨parts, rfl, hparts⟩ c hc
    obtain ⟨part, hpart, hc⟩ := List.mem_flatten.1 hc
    obtain ⟨d, rfl, hd⟩ := hparts part hpart
    rwa [List.mem_singleton.1 hc]
  · intro h
    refine ⟨cs.map fun c => [c], ?_, fun part hpart => ?_⟩
    · induction cs with
      | nil => rfl
      | cons c cs ih => simpa using ih fun d hd => h d (List.mem_cons_of_mem c hd)
    · obtain ⟨c, hc, rfl⟩ := List.mem_map.1 hpart
      exact ⟨c, rfl, h c hc⟩

theorem mem_plainPart :
    cs ∈ plainPart ↔ cs ≠ [] ∧ ∀ c ∈ cs, Text.isBlankChar c = false ∧ c ≠ '@' := by
  unfold plainPart
  rw [Language.mem_mul]
  constructor
  · rintro ⟨_, ⟨c, rfl, hc⟩, cs, hcs, rfl⟩
    exact ⟨List.cons_ne_nil _ _, List.forall_mem_cons.2 ⟨hc, mem_kstar_plainChar.1 hcs⟩⟩
  · rintro ⟨hne, h⟩
    obtain ⟨c, cs, rfl⟩ := List.exists_cons_of_ne_nil hne
    obtain ⟨hc, hcs⟩ := List.forall_mem_cons.1 h
    exact ⟨[c], ⟨c, rfl, hc⟩, cs, mem_kstar_plainChar.2 hcs, rfl⟩

/-- Parts around a mark. -/
theorem mem_mul_mark_mul {l m : Language Char} {mark : Char} : cs ∈ l * {[mark]} * m ↔
    ∃ before ∈ l, ∃ after ∈ m, cs = before ++ mark :: after := by
  simp only [Language.mem_mul]
  constructor
  · rintro ⟨_, ⟨before, hbefore, _, rfl, rfl⟩, after, hafter, rfl⟩
    exact ⟨before, hbefore, after, hafter, by rw [List.append_assoc, List.singleton_append]⟩
  · rintro ⟨before, hbefore, after, hafter, rfl⟩
    exact ⟨_, ⟨before, hbefore, [mark], rfl, rfl⟩, after, hafter,
      by rw [List.append_assoc, List.singleton_append]⟩

theorem mem_addresses_iff : cs ∈ addresses ↔ IsAddress cs := by
  unfold addresses
  simp only [mem_mul_mark_mul, mem_plainPart]
  constructor
  · rintro ⟨user, ⟨hasUser, huser⟩, _, ⟨host, ⟨hasHost, hhost⟩, top, ⟨hasTop, htop⟩, rfl⟩, rfl⟩
    refine .intro hasUser hasHost hasTop (fun hat => (huser _ hat).2 rfl) (fun hat => ?_) ?_
    · rcases List.mem_append.1 hat with hat | hat
      · exact (hhost _ hat).2 rfl
      · exact (htop _ ((List.mem_cons.1 hat).resolve_left (by decide))).2 rfl
    · simp only [List.forall_mem_append, List.forall_mem_cons]
      exact ⟨fun c hc => (huser c hc).1, by decide, fun c hc => (hhost c hc).1, by decide,
        fun c hc => (htop c hc).1⟩
  · rintro ⟨hasUser, hasHost, hasTop, userPlain, hostPlain, whole⟩
    simp only [List.forall_mem_append, List.forall_mem_cons] at whole
    obtain ⟨huser, -, hhost, -, htop⟩ := whole
    refine ⟨_, ⟨hasUser, fun c hc => ⟨huser c hc, ?_⟩⟩, _,
      ⟨_, ⟨hasHost, fun c hc => ⟨hhost c hc, ?_⟩⟩, _, ⟨hasTop, fun c hc => ⟨htop c hc, ?_⟩⟩, rfl⟩,
      rfl⟩
    · exact fun hat => userPlain (hat ▸ hc)
    · exact fun hat => hostPlain (List.mem_append_left _ (hat ▸ hc))
    · exact fun hat => hostPlain (List.mem_append_right _ (List.mem_cons_of_mem _ (hat ▸ hc)))

-- ---------------------------------------------------------------------------
-- What answers are taken
-- ---------------------------------------------------------------------------

namespace AnswerKind

theorem accepts_text (s : String) :
    text.accepts s = true ↔ ∃ c ∈ s.toList, Text.isBlankChar c = false := by
  rw [accepts, Bool.and_true, Bool.not_eq_true', Text.isBlank, List.all_eq_false]
  simp only [Bool.not_eq_true]

theorem accepts_email (s : String) :
    email.accepts s = true ↔ ∃ core, Text.IsCore s.toList core ∧ IsAddress core := by
  have hcore : (∃ core, Text.IsCore s.toList core ∧ IsAddress core) ↔
      IsAddress (Text.trimChars s.toList) := by
    constructor
    · rintro ⟨core, hcore, haddress⟩
      rwa [← hcore.eq_trimChars]
    · exact fun h => ⟨_, Text.isCore_trimChars _, h⟩
  rw [hcore, accepts, Bool.and_eq_true, isAddress_iff, Bool.not_eq_true']
  -- a text without blanks around it that is an address has an at sign in it
  refine and_iff_right_of_imp fun h => Bool.eq_false_iff.2 fun hblank => ?_
  rw [Text.trimChars_eq_nil_iff.2 hblank] at h
  cases h.hasAddressForm.oneAt

/-- A question for an address takes the answers that are addresses without the blanks around them,
by their form and by their grammar, and any other question those that are not blank. -/
theorem accepted_answers (s : String) :
    (email.accepts s = true ↔ ∃ core, Text.IsCore s.toList core ∧ HasAddressForm core) ∧
    (email.accepts s = true ↔ ∃ core, Text.IsCore s.toList core ∧ core ∈ addresses) ∧
    (text.accepts s = true ↔ ∃ c ∈ s.toList, Text.isBlankChar c = false) := by
  simp only [hasAddressForm_iff, mem_addresses_iff]
  exact ⟨accepts_email s, accepts_email s, accepts_text s⟩

end AnswerKind

end Switchboard
