import Mathlib.Data.List.Basic
import Mathlib.Data.List.TakeWhile
import Switchboard.Proofs.Dialogue.Values
import Switchboard.Proofs.Lists
import Switchboard.Proofs.Text.Trimming

/-!
# Texts with placeholders

A text is read from left to right in one way (`Reads`): where a placeholder begins it is taken, with
the second of two closing braces, and any other character stands for itself. To fill in a text is to
replace each of its placeholders by the value of the name, and nothing else; so a value is not read
again, whatever braces it has (`fill_reads`).
-/

namespace Switchboard

namespace Placeholder

-- ---------------------------------------------------------------------------
-- How texts are read
-- ---------------------------------------------------------------------------

def openings : List (List Char) := [['\x7b'], ['\x7b', '\x7b']]

def closings : List (List Char) := [['\x7d'], ['\x7d', '\x7d']]

/-- A placeholder of a name: one or two opening braces, blanks, the name, which is of letters,
digits and low lines, blanks, and behind this start one or two closing braces. -/
inductive Spells (name : List Char) : List Char → List Char → Prop
  | intro {opening before after closing : List Char} (opens : opening ∈ openings)
      (blankBefore : ∀ c ∈ before, Text.isBlankChar c = true) (named : name ≠ [])
      (nameChars : ∀ c ∈ name, isNameChar c = true)
      (blankAfter : ∀ c ∈ after, Text.isBlankChar c = true) (closes : closing ∈ closings) :
    Spells name (opening ++ before ++ name ++ after) closing

/-- A placeholder is at the start of a text. -/
def Begins (cs : List Char) : Prop :=
  ∃ name start closing rest, Spells name start closing ∧ cs = start ++ closing ++ rest

/-- The second closing brace is taken wherever it is there. -/
def Whole (closing rest : List Char) : Prop :=
  rest.head? = some '\x7d' → closing = ['\x7d', '\x7d']

/-- The characters and placeholders of a text, read from left to right: a placeholder is taken where
one begins, and a character stands for itself where none does. -/
inductive Reads : List Char → List Piece → Prop
  | nil : Reads [] []
  | char {c : Char} {cs : List Char} {ps : List Piece} (literal : ¬ Begins (c :: cs))
      (onward : Reads cs ps) : Reads (c :: cs) (.char c :: ps)
  | hole {name start closing rest : List Char} {ps : List Piece}
      (spells : Spells name start closing) (whole : Whole closing rest) (onward : Reads rest ps) :
    Reads (start ++ closing ++ rest) (.hole name (start ++ closing) :: ps)

/-- A piece as it stands in the text. -/
def Piece.written : Piece → List Char
  | .char c => [c]
  | .hole _ written => written

variable {name start closing rest cs : List Char} {c : Char} {ps : List Piece}

theorem Reads.written_eq (h : Reads cs ps) : ps.flatMap Piece.written = cs := by
  induction h with
  | nil => rfl
  | char literal onward ih => rw [List.flatMap_cons, ih]; rfl
  | hole spells whole onward ih => rw [List.flatMap_cons, ih]; rfl

-- ---------------------------------------------------------------------------
-- The placeholder at the start of a text
-- ---------------------------------------------------------------------------

/-- No name has a blank in it. -/
theorem isBlankChar_of_isNameChar (h : isNameChar c = true) : Text.isBlankChar c = false := by
  rw [isNameChar, Bool.or_eq_true, decide_eq_true_eq] at h
  rcases h with h | rfl
  · exact Text.not_blank_of_isAlphanum h
  · decide

theorem mem_or_head? {xs ys : List Char} (h : (xs ++ ys).head? = some c) :
    c ∈ xs ∨ ys.head? = some c := by
  cases xs with
  | nil => exact .inr h
  | cons x xs =>
    obtain rfl := Option.some.inj h
    exact .inl List.mem_cons_self

theorem head?_closing (h : closing ∈ closings) (hc : (closing ++ rest).head? = some c) :
    c = '\x7d' := by
  simp only [closings, List.mem_cons, List.not_mem_nil, or_false] at h
  rcases h with rfl | rfl <;> exact (Option.some.inj hc).symm

theorem afterOpening?_append {opening : List Char} (h : opening ∈ openings)
    (hrest : rest.head? ≠ some '\x7b') : afterOpening? (opening ++ rest) = some rest := by
  simp only [openings, List.mem_cons, List.not_mem_nil, or_false] at h
  rcases h with rfl | rfl
  · cases rest with
    | nil => rfl
    | cons c cs =>
      have hc : c ≠ '\x7b' := fun heq => hrest (congrArg some heq)
      simp [afterOpening?, hc]
  · rfl

theorem exists_opening {inner : List Char} (h : afterOpening? cs = some inner) :
    ∃ opening ∈ openings, cs = opening ++ inner := by
  unfold afterOpening? at h
  split at h
  · cases h
    exact ⟨_, List.mem_cons_of_mem _ List.mem_cons_self, rfl⟩
  · cases h
    exact ⟨_, List.mem_cons_self, rfl⟩
  · cases h

theorem afterClosing?_append (h : closing ∈ closings) (hwhole : Whole closing rest) :
    afterClosing? (closing ++ rest) = some rest := by
  simp only [closings, List.mem_cons, List.not_mem_nil, or_false] at h
  rcases h with rfl | rfl
  · cases rest with
    | nil => rfl
    | cons c cs =>
      have hc : c ≠ '\x7d' := by
        rintro rfl
        cases hwhole rfl
      simp [afterClosing?, hc]
  · rfl

theorem exists_closing (h : afterClosing? cs = some rest) :
    ∃ closing ∈ closings, cs = closing ++ rest ∧ Whole closing rest := by
  unfold afterClosing? at h
  split at h
  · cases h
    exact ⟨_, List.mem_cons_of_mem _ List.mem_cons_self, rfl, fun _ => rfl⟩
  next hone =>
    cases h
    refine ⟨_, List.mem_cons_self, rfl, fun hhead => ?_⟩
    obtain ⟨tail, rfl⟩ := List.head?_eq_some_iff.1 hhead
    exact absurd rfl (hone tail)
  · cases h

theorem isNameChar_of_isBlankChar (h : Text.isBlankChar c = true) : isNameChar c = false := by
  rw [Bool.eq_false_iff]
  intro hname
  rw [isBlankChar_of_isNameChar hname] at h
  cases h

theorem atStart?_of_spells (h : Spells name start closing) (hwhole : Whole closing rest) :
    atStart? (start ++ closing ++ rest) = some (name, rest) := by
  cases h with
  | @intro opening before after closing opens blankBefore named nameChars blankAfter closes =>
    have hafter : ∀ c, (after ++ (closing ++ rest)).head? = some c → isNameChar c = false := by
      intro c hc
      rcases mem_or_head? hc with hc | hc
      · exact isNameChar_of_isBlankChar (blankAfter c hc)
      · rw [head?_closing closes hc]
        decide
    have hname : ∀ c, (name ++ (after ++ (closing ++ rest))).head? = some c →
        isNameChar c = true := by
      intro c hc
      obtain ⟨first, more, rfl⟩ := List.exists_cons_of_ne_nil named
      exact Option.some.inj hc ▸ nameChars first List.mem_cons_self
    have hbefore : (before ++ (name ++ (after ++ (closing ++ rest)))).head? ≠ some '\x7b' := by
      intro hc
      rcases mem_or_head? hc with hc | hc
      · exact absurd (blankBefore _ hc) (by decide)
      · exact absurd (hname _ hc) (by decide)
    obtain ⟨-, hinner⟩ := takeWhile_dropWhile_append blankBefore fun c hc =>
      isBlankChar_of_isNameChar (hname c hc)
    obtain ⟨htaken, hleft⟩ := takeWhile_dropWhile_append nameChars hafter
    have hclosed : ∀ c, (closing ++ rest).head? = some c → Text.isBlankChar c = false := by
      intro c hc
      rw [head?_closing closes hc]
      decide
    obtain ⟨-, hclosing⟩ := takeWhile_dropWhile_append blankAfter hclosed
    simp only [List.append_assoc, atStart?, afterOpening?_append opens hbefore, Text.dropBlanks,
      hinner, htaken, hleft, hclosing, afterClosing?_append closes hwhole, Option.bind_eq_bind,
      Option.bind_some, List.isEmpty_iff, named, if_false]

theorem spells_of_atStart? (h : atStart? cs = some (name, rest)) :
    ∃ start closing, Spells name start closing ∧ Whole closing rest ∧
      cs = start ++ closing ++ rest := by
  simp only [atStart?, Option.bind_eq_bind, Option.bind_eq_some_iff] at h
  obtain ⟨inner, hinner, after, hafter, h⟩ := h
  split at h
  · cases h
  next hnamed =>
    obtain ⟨rfl, rfl⟩ := Prod.mk.inj (Option.some.inj h)
    obtain ⟨opening, opens, rfl⟩ := exists_opening hinner
    obtain ⟨closing, closes, hrest, hwhole⟩ := exists_closing hafter
    have htake : ∀ (p : Char → Bool) (xs : List Char), ∀ c ∈ xs.takeWhile p, p c = true :=
      fun _ _ c hc => List.mem_takeWhile_imp hc
    refine ⟨_, closing, .intro opens (htake Text.isBlankChar inner)
      (by simpa only [List.isEmpty_iff] using hnamed) (htake isNameChar (Text.dropBlanks inner))
      (htake Text.isBlankChar ((Text.dropBlanks inner).dropWhile isNameChar)) closes, hwhole, ?_⟩
    rw [List.append_assoc, ← hrest]
    simp only [List.append_assoc, Text.dropBlanks, List.takeWhile_append_dropWhile]

theorem Spells.closed {other : List Char} (h : Spells name start closing)
    (closes : other ∈ closings) : Spells name start other := by
  cases h with
  | intro opens blankBefore named nameChars blankAfter _ =>
    exact .intro opens blankBefore named nameChars blankAfter closes

theorem Spells.closes (h : Spells name start closing) : closing ∈ closings := by
  cases h with
  | intro _ _ _ _ _ closes => exact closes

theorem begins_iff : Begins cs ↔ ∃ name rest, atStart? cs = some (name, rest) := by
  constructor
  · rintro ⟨name, start, closing, rest, hspells, rfl⟩
    by_cases hwhole : Whole closing rest
    · exact ⟨name, rest, atStart?_of_spells hspells hwhole⟩
    · -- the brace that follows belongs to the placeholder
      obtain ⟨hhead, hone⟩ := Classical.not_imp.1 hwhole
      obtain ⟨tail, rfl⟩ := List.head?_eq_some_iff.1 hhead
      obtain rfl : closing = ['\x7d'] := by
        simpa [closings, hone] using hspells.closes
      have htwo : Spells name start ['\x7d', '\x7d'] :=
        hspells.closed (List.mem_cons_of_mem _ List.mem_cons_self)
      refine ⟨name, tail, ?_⟩
      rw [← atStart?_of_spells htwo fun _ => rfl]
      simp
  · rintro ⟨name, rest, h⟩
    obtain ⟨start, closing, hspells, -, hcs⟩ := spells_of_atStart? h
    exact ⟨name, start, closing, rest, hspells, hcs⟩

-- ---------------------------------------------------------------------------
-- The pieces of a text
-- ---------------------------------------------------------------------------

theorem pieces_of_char (h : atStart? (c :: cs) = none) :
    pieces (c :: cs) = .char c :: pieces cs := by
  rw [pieces]
  split
  next h' => rw [h] at h'; cases h'
  next => rfl

theorem pieces_of_spells (h : Spells name start closing) (hwhole : Whole closing rest) :
    pieces (start ++ closing ++ rest) = .hole name (start ++ closing) :: pieces rest := by
  have hlength : (start ++ closing ++ rest).length - rest.length = (start ++ closing).length := by
    rw [List.length_append, Nat.add_sub_cancel]
  rw [pieces_of_atStart? (atStart?_of_spells h hwhole), hlength, List.take_left]

theorem pieces_of_reads (h : Reads cs ps) : pieces cs = ps := by
  induction h with
  | nil => exact pieces_nil
  | @char c cs ps literal onward ih =>
    have hnone : atStart? (c :: cs) = none := by
      refine Option.eq_none_iff_forall_ne_some.2 fun found hfound => ?_
      exact literal (begins_iff.2 ⟨found.1, found.2, hfound⟩)
    rw [pieces_of_char hnone, ih]
  | hole spells whole onward ih => rw [pieces_of_spells spells whole, ih]

theorem reads_pieces (cs : List Char) : Reads cs (pieces cs) := by
  induction cs using pieces.induct with
  | case1 cs name rest h ih =>
    obtain ⟨start, closing, hspells, hwhole, rfl⟩ := spells_of_atStart? h
    rw [pieces_of_spells hspells hwhole]
    exact .hole hspells hwhole ih
  | case2 h =>
    rw [pieces_nil]
    exact .nil
  | case3 c cs h ih =>
    rw [pieces_of_char h]
    refine .char (fun hbegins => ?_) ih
    obtain ⟨name, rest, hfound⟩ := begins_iff.1 hbegins
    rw [h] at hfound
    cases hfound

end Placeholder

namespace Fillings

open Placeholder

theorem fill_of_unknown {f : Fillings} {s : String} {ps : List Piece} (h : Reads s.toList ps)
    (hnone : ∀ name written, .hole name written ∈ ps → f.value? (String.ofList name) = none) :
    f.fill s = s := by
  have hpieces : ps.flatMap (Piece.fill f) = ps.flatMap Piece.written := by
    refine List.flatMap_congr fun p hp => ?_
    cases p with
    | char c => rfl
    | hole name written => rw [Piece.fill, hnone name written hp]; rfl
  rw [fill, pieces_of_reads h, hpieces, h.written_eq, String.ofList_toList]

/-- Every text is read in one way, as characters and placeholders that make up the text. To fill it
in is to put the value of its name in the place of each placeholder, and to leave all else as it is
written, a placeholder without a value too. -/
theorem fill_reads (s : String) :
    ∃ ps, Reads s.toList ps ∧ (∀ qs, Reads s.toList qs → qs = ps) ∧
      ps.flatMap Piece.written = s.toList ∧
      ∀ f : Fillings, f.fill s = String.ofList (ps.flatMap (Piece.fill f)) ∧
        ((∀ name written, .hole name written ∈ ps → f.value? (String.ofList name) = none) →
          f.fill s = s) := by
  have hreads := reads_pieces s.toList
  have hone : ∀ qs, Reads s.toList qs → qs = pieces s.toList := fun qs hqs =>
    (pieces_of_reads hqs).symm
  exact ⟨_, hreads, hone, hreads.written_eq, fun f => ⟨rfl, fill_of_unknown hreads⟩⟩

/-- Of three braces the outer one is a character, and the value is not read again. -/
example :
    Fillings.fill ⟨some "\x7bphone\x7d", some "55", Catalog.empty⟩
      "\x7b\x7b\x7bname\x7d\x7d\x7d" = "\x7b\x7bphone\x7d\x7d" := by decide +kernel

end Fillings

end Switchboard
