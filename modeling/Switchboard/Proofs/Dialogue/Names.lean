import Switchboard.Proofs.Dialogue.Answers
import Switchboard.Proofs.Dialogue.Introductions
import Switchboard.Proofs.Text.Words

/-!
# Names in answers

A name is the words that lead the tail of an introduction: up to three, before a mark and before a
connector. The first introduction that leaves any gives the name. If none does, the answer is the
name, cut if it is long and has many words (`givenName_eq_iff`). The name of an answer that is not
blank is trimmed and not blank (`name_within_bounds`).
-/

namespace Switchboard

variable {tail text name : List Char} {ws : List (List Char)} {i : Introduction}
  {introductions : List Introduction}

-- ---------------------------------------------------------------------------
-- The words that lead a tail
-- ---------------------------------------------------------------------------

/-- The marks that end a name. -/
def nameMarks : List Char := [',', '.', '!', '?', ';', ':', '\n']

/-- A word that ends a name, in any case. -/
def Connects (w : List Char) : Prop :=
  Text.lower (String.ofList w) ∈ ["y", "e", "and", "but", "pero", "mas", "que", "from"]

/-- The words at the start of a tail, before the first mark and the first connector: three, or
fewer if no more are there. -/
inductive LeadingWords : List Char → List (List Char) → Prop
  | intro {head rest : List Char} {ws more : List (List Char)}
      (unmarked : ∀ c ∈ head, c ∉ nameMarks)
      (ended : ∀ c, rest.head? = some c → c ∈ nameMarks)
      (spaced : Text.Spaced head (ws ++ more))
      (plain : ∀ w ∈ ws, ¬ Connects w)
      (few : ws.length ≤ 3)
      (full : ws.length < 3 → ∀ w, more.head? = some w → Connects w) :
      LeadingWords (head ++ rest) ws

theorem endsName_iff {c : Char} : endsName c = true ↔ c ∈ nameMarks := by
  simp [endsName, nameMarks]

theorem isConnector_iff {w : List Char} : isConnector w = true ↔ Connects w := by
  simp [isConnector, Connects, connectors]

/-- The part of a tail before the first mark. -/
theorem before_endsName_eq_iff {head : List Char} : Text.before endsName tail = head ↔
    ∃ rest, tail = head ++ rest ∧ (∀ c ∈ head, c ∉ nameMarks) ∧
      ∀ c, rest.head? = some c → c ∈ nameMarks := by
  refine takeWhile_eq_iff.trans ?_
  simp only [Bool.not_eq_true', Bool.eq_false_iff, ne_eq, not_not, endsName_iff]

theorem nameWords_eq_iff : nameWords tail = ws ↔ LeadingWords tail ws := by
  unfold nameWords
  rw [take_takeWhile_eq_iff]
  simp only [Bool.not_eq_true', Bool.eq_false_iff, ne_eq, not_not, isConnector_iff]
  constructor
  · rintro ⟨more, hwords, plain, few, full⟩
    obtain ⟨rest, htail, unmarked, ended⟩ :=
      before_endsName_eq_iff.1 (Eq.refl (Text.before endsName tail))
    rw [htail]
    exact .intro unmarked ended (Text.words_eq_iff.1 hwords) plain few full
  · rintro ⟨unmarked, ended, spaced, plain, few, full⟩
    rw [before_endsName_eq_iff.2 ⟨_, rfl, unmarked, ended⟩]
    exact ⟨_, spaced.words_eq, plain, few, full⟩

theorem LeadingWords.nameWords_eq (h : LeadingWords tail ws) : nameWords tail = ws :=
  nameWords_eq_iff.2 h

-- ---------------------------------------------------------------------------
-- The name in an answer
-- ---------------------------------------------------------------------------

/-- An introduction finds no word of a name in a text. -/
def Introduction.Silent (i : Introduction) (text : List Char) : Prop :=
  ∀ tail, i.Captures text tail → LeadingWords tail []

/-- What a name is in a text without blanks around it. -/
inductive GivenAs (introductions : List Introduction) (text : List Char) : List Char → Prop
  /-- The words that the first introduction finds, with single spaces. -/
  | told {earlier later : List Introduction} {i : Introduction} {tail : List Char}
      {ws : List (List Char)} (known : introductions = earlier ++ i :: later)
      (silent : ∀ j ∈ earlier, j.Silent text) (captures : i.Captures text tail)
      (leads : LeadingWords tail ws) (found : ws ≠ []) :
      GivenAs introductions text ([' '].intercalate ws)
  /-- All of the text, if it has few words or is short. -/
  | whole {ws : List (List Char)} (silent : ∀ i ∈ introductions, i.Silent text)
      (spaced : Text.Spaced text ws) (short : ws.length ≤ 3 ∨ text.length ≤ 50) :
      GivenAs introductions text text
  /-- The start of the text otherwise. -/
  | cut {ws : List (List Char)} (silent : ∀ i ∈ introductions, i.Silent text)
      (spaced : Text.Spaced text ws) (many : 3 < ws.length) (long : 50 < text.length) :
      GivenAs introductions text (text.take 50 ++ "...".toList)

theorem leadingName_eq_nil_iff : leadingName tail = [] ↔ nameWords tail = [] := by
  constructor
  · intro h
    by_contra hne
    obtain ⟨c, -, hhead, -⟩ := Text.ends_intercalate (fun _ => isWord_of_mem_nameWords) hne
    rw [leadingName] at h
    simp [h] at hhead
  · intro h
    rw [leadingName, h]
    rfl

namespace Introduction

theorem name?_eq_some_iff : i.name? text = some name ↔ ∃ tail ws, i.Captures text tail ∧
    LeadingWords tail ws ∧ ws ≠ [] ∧ name = [' '].intercalate ws := by
  simp only [name?, Option.filter_eq_some_iff, Option.map_eq_some_iff, tail?_eq_some_iff]
  constructor
  · rintro ⟨⟨tail, hcaptures, rfl⟩, hne⟩
    refine ⟨tail, nameWords tail, hcaptures, nameWords_eq_iff.1 rfl, ?_, rfl⟩
    rw [ne_eq, ← leadingName_eq_nil_iff]
    simpa using hne
  · rintro ⟨tail, ws, hcaptures, hleads, hne, rfl⟩
    obtain rfl := hleads.nameWords_eq
    refine ⟨⟨tail, hcaptures, rfl⟩, ?_⟩
    rw [ne_eq, ← leadingName_eq_nil_iff] at hne
    simpa [leadingName] using hne

theorem name?_eq_none_iff : i.name? text = none ↔ i.Silent text := by
  rw [Option.eq_none_iff_forall_ne_some]
  constructor
  · intro h tail hcaptures
    rw [← nameWords_eq_iff]
    by_contra hne
    exact h _ (name?_eq_some_iff.2 ⟨tail, _, hcaptures, nameWords_eq_iff.1 rfl, hne, rfl⟩)
  · intro h name hname
    obtain ⟨tail, ws, hcaptures, hleads, hne, -⟩ := name?_eq_some_iff.1 hname
    exact hne (hleads.nameWords_eq.symm.trans (h tail hcaptures).nameWords_eq)

end Introduction

theorem findSome?_name?_eq_none_iff : introductions.findSome? (·.name? text) = none ↔
    ∀ i ∈ introductions, i.Silent text := by
  simp only [List.findSome?_eq_none_iff, Introduction.name?_eq_none_iff]

theorem findSome?_name?_eq_some_iff : introductions.findSome? (·.name? text) = some name ↔
    ∃ earlier i later, introductions = earlier ++ i :: later ∧
      (∃ tail ws, i.Captures text tail ∧ LeadingWords tail ws ∧ ws ≠ [] ∧
        name = [' '].intercalate ws) ∧ ∀ j ∈ earlier, j.Silent text := by
  simp only [List.findSome?_eq_some_iff, Introduction.name?_eq_none_iff,
    Introduction.name?_eq_some_iff]

/-- An answer that no introduction finds a name in is cut or kept whole. -/
theorem givenName_of_silent {answer : String}
    (h : ∀ i ∈ introductions, i.Silent (Text.trimChars answer.toList)) :
    givenName introductions answer =
      if 3 < (Text.words (Text.trimChars answer.toList)).length ∧
          50 < (Text.trimChars answer.toList).length then
        String.ofList ((Text.trimChars answer.toList).take 50 ++ "...".toList)
      else String.ofList (Text.trimChars answer.toList) := by
  rw [givenName, findSome?_name?_eq_none_iff.2 h]
  rfl

theorem givenAs_givenName (introductions : List Introduction) (answer : String) :
    GivenAs introductions (Text.trimChars answer.toList)
      (givenName introductions answer).toList := by
  cases hname : introductions.findSome? (·.name? (Text.trimChars answer.toList)) with
  | some name =>
    obtain ⟨earlier, i, later, hknown, ⟨tail, ws, hcaptures, hleads, hne, rfl⟩, hsilent⟩ :=
      findSome?_name?_eq_some_iff.1 hname
    rw [givenName, hname, String.toList_ofList]
    exact .told hknown hsilent hcaptures hleads hne
  | none =>
    have hsilent := findSome?_name?_eq_none_iff.1 hname
    rw [givenName_of_silent hsilent]
    split
    next hcut =>
      rw [String.toList_ofList]
      exact .cut hsilent (Text.spaced_words _) hcut.1 hcut.2
    next hcut =>
      rw [String.toList_ofList]
      refine .whole hsilent (Text.spaced_words _) ?_
      omega

theorem GivenAs.eq_givenName {answer : String}
    (h : GivenAs introductions (Text.trimChars answer.toList) name) :
    givenName introductions answer = String.ofList name := by
  cases h with
  | told known silent captures leads found =>
    rw [givenName, findSome?_name?_eq_some_iff.2
      ⟨_, _, _, known, ⟨_, _, captures, leads, found, rfl⟩, silent⟩]
  | whole silent spaced short =>
    rw [givenName_of_silent silent, spaced.words_eq, if_neg (by omega)]
  | cut silent spaced many long =>
    rw [givenName_of_silent silent, spaced.words_eq, if_pos ⟨many, long⟩]

theorem givenName_eq_iff {answer : String} : givenName introductions answer = String.ofList name ↔
    GivenAs introductions (Text.trimChars answer.toList) name := by
  refine ⟨fun h => ?_, GivenAs.eq_givenName⟩
  have hgiven := givenAs_givenName introductions answer
  rwa [h, String.toList_ofList] at hgiven

/-- The name in an answer that is not blank is trimmed and not blank. It is what the introductions
find in the answer without the blanks around it, or that answer, cut if it is long. -/
theorem name_within_bounds (introductions : List Introduction) {answer : String}
    (h : Text.isBlank answer = false) :
    Text.Trimmed (givenName introductions answer) ∧
      Text.isBlank (givenName introductions answer) = false ∧
      ∀ name, givenName introductions answer = String.ofList name ↔
        ∃ core, Text.IsCore answer.toList core ∧ GivenAs introductions core name := by
  obtain ⟨htrimmed, hne⟩ := givenName_trimmed introductions h
  refine ⟨htrimmed, htrimmed.not_blank hne, fun name => givenName_eq_iff.trans ⟨?_, ?_⟩⟩
  · exact fun hgiven => ⟨_, Text.isCore_trimChars _, hgiven⟩
  · rintro ⟨core, hcore, hgiven⟩
    rwa [hcore.eq_trimChars] at hgiven

theorem name_within_bounds_of_greeting :
    Text.isBlank "Hola, me llamo Juan  Pérez y quiero un gato " = false ∧
      ∃ core, Text.IsCore "Hola, me llamo Juan  Pérez y quiero un gato ".toList core ∧
        GivenAs Introduction.common core "Juan Pérez".toList := by
  have hblank : Text.isBlank "Hola, me llamo Juan  Pérez y quiero un gato " = false := by
    decide +kernel
  obtain ⟨-, -, hname⟩ := name_within_bounds Introduction.common hblank
  exact ⟨hblank, (hname _).1 (by decide +kernel)⟩

end Switchboard
