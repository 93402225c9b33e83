import Switchboard.Proofs.Text.Trimming

/-!
# Words of a text

The words of a text are what its blanks leave: there is one way alone to write a text as words with
blanks around and between them, and reading the words finds it (`words_eq_iff`).
-/

namespace Switchboard.Text

/-- A text made of these words, with blanks between any two, and perhaps before and behind them. -/
inductive Spaced : List Char → List (List Char) → Prop
  | blank {gap : List Char} (hgap : ∀ c ∈ gap, isBlankChar c = true) : Spaced gap []
  | word {gap w rest : List Char} {ws : List (List Char)}
      (hgap : ∀ c ∈ gap, isBlankChar c = true) (hw : IsWord w)
      (hends : ∀ c, rest.head? = some c → isBlankChar c = true) (hrest : Spaced rest ws) :
      Spaced (gap ++ (w ++ rest)) (w :: ws)

variable {c : Char} {cs gap w rest : List Char} {ws : List (List Char)}

theorem words_cons_blank (hc : isBlankChar c = true) (cs : List Char) :
    words (c :: cs) = words cs := by
  simp [words, hc]

theorem words_append_blanks (hgap : ∀ c ∈ gap, isBlankChar c = true) (cs : List Char) :
    words (gap ++ cs) = words cs := by
  induction gap with
  | nil => rfl
  | cons c gap ih =>
    obtain ⟨hc, hgap⟩ := List.forall_mem_cons.1 hgap
    rw [List.cons_append, words_cons_blank hc, ih hgap]

theorem words_append_word (hw : IsWord w)
    (hends : ∀ c, rest.head? = some c → isBlankChar c = true) :
    words (w ++ rest) = w :: words rest := by
  obtain ⟨hne, hchars⟩ := hw
  induction w with
  | nil => exact absurd rfl hne
  | cons c w ih =>
    obtain ⟨hc, hw⟩ := List.forall_mem_cons.1 hchars
    cases w with
    | nil =>
      cases rest with
      | nil => simp [words, hc]
      | cons d rest => simp [words, hc, hends d rfl]
    | cons d w =>
      have hd : isBlankChar d = false := hw d List.mem_cons_self
      have ih : words (d :: (w ++ rest)) = (d :: w) :: words rest := ih (List.cons_ne_nil _ _) hw
      rw [List.cons_append, List.cons_append, words]
      simp [hc, hd, ih]

theorem Spaced.words_eq (h : Spaced cs ws) : words cs = ws := by
  induction h with
  | blank hgap => simpa [words] using words_append_blanks hgap []
  | word hgap hw hends _ ih => rw [words_append_blanks hgap, words_append_word hw hends, ih]

theorem Spaced.blanks (h : Spaced cs []) : ∀ c ∈ cs, isBlankChar c = true := by
  cases h with
  | blank hgap => exact hgap

theorem Spaced.cons_blank (h : Spaced cs ws) (hc : isBlankChar c = true) : Spaced (c :: cs) ws := by
  cases h with
  | blank hgap => exact .blank (List.forall_mem_cons.2 ⟨hc, hgap⟩)
  | word hgap hw hends hrest =>
    rw [← List.cons_append]
    exact .word (List.forall_mem_cons.2 ⟨hc, hgap⟩) hw hends hrest

/-- A character that is no blank is a word of its own before a blank. -/
theorem Spaced.cons_letter (h : Spaced cs ws) (hc : ¬ isBlankChar c = true)
    (hends : ∀ d, cs.head? = some d → isBlankChar d = true) : Spaced (c :: cs) ([c] :: ws) :=
  @Spaced.word [] [c] cs ws (List.forall_mem_nil _) (.cons hc (List.forall_mem_nil _)) hends h

/-- Before another such character it belongs to the word of that one. -/
theorem Spaced.cons_cons {d : Char} {v : List Char} {vs : List (List Char)}
    (h : Spaced (d :: cs) (v :: vs)) (hc : ¬ isBlankChar c = true) (hd : ¬ isBlankChar d = true) :
    Spaced (c :: d :: cs) ((c :: v) :: vs) := by
  generalize htext : d :: cs = text at h
  cases h with
  | @word gap w rest ws hgap hw hends hrest =>
    cases gap with
    | nil =>
      rw [List.nil_append, ← List.cons_append]
      exact @Spaced.word [] _ _ _ (List.forall_mem_nil _) (.cons hc hw.2) hends hrest
    | cons e gap =>
      obtain rfl := (List.cons.inj htext).1
      exact absurd (hgap d List.mem_cons_self) hd

theorem spaced_words (cs : List Char) : Spaced cs (words cs) := by
  fun_induction words cs with
  | case1 => exact .blank (List.forall_mem_nil _)
  | case2 c cs hc ih => exact ih.cons_blank hc
  | case3 c hc =>
    exact Spaced.cons_letter (.blank (List.forall_mem_nil _)) hc fun d hd => by cases hd
  | case4 c hc d cs hd ih => exact ih.cons_letter hc fun e he => Option.some.inj he ▸ hd
  | case5 c hc d cs hd hnone ih =>
    rw [hnone] at ih
    exact absurd (ih.blanks d List.mem_cons_self) hd
  | case6 c hc d cs hd v vs hwords ih =>
    rw [hwords] at ih ⊢
    exact ih.cons_cons hc hd

theorem words_eq_iff : words cs = ws ↔ Spaced cs ws :=
  ⟨fun h => h ▸ spaced_words cs, Spaced.words_eq⟩

end Switchboard.Text
