/-!
# Splitting lists

Where an element of several lists in a row stands. What is done and what is filed is a list, and
these lemmas find the part in which it was broken off or in which something was first.
-/

namespace Switchboard

variable {α β : Type} {xs ys before after : List α} {x : α}

/-- An element of two lists in a row is in the second of them, or in the first. -/
theorem split_append (h : xs ++ ys = before ++ x :: after) :
    (∃ mid, before = xs ++ mid ∧ ys = mid ++ x :: after) ∨
      ∃ rest, xs = before ++ x :: rest ∧ after = rest ++ ys := by
  rcases List.append_eq_append_iff.1 h with ⟨mid, hbefore, hys⟩ | ⟨mid, hxs, hx⟩
  · exact .inl ⟨mid, hbefore, hys⟩
  · rcases List.cons_eq_append_iff.1 hx with ⟨rfl, hys⟩ | ⟨rest, rfl, hafter⟩
    · exact .inl ⟨[], by simpa using hxs.symm, hys⟩
    · exact .inr ⟨rest, hxs, hafter⟩

theorem split_behind (h : xs ++ ys = before ++ x :: after) (hx : x ∉ xs) :
    ∃ mid, before = xs ++ mid ∧ ys = mid ++ x :: after := by
  refine (split_append h).resolve_right ?_
  rintro ⟨rest, rfl, -⟩
  exact hx (List.mem_append_right _ List.mem_cons_self)

theorem split_within (h : xs ++ ys = before ++ x :: after) (hx : x ∉ ys) :
    ∃ rest, xs = before ++ x :: rest ∧ after = rest ++ ys := by
  refine (split_append h).resolve_left ?_
  rintro ⟨mid, -, rfl⟩
  exact hx (List.mem_append_right _ List.mem_cons_self)

theorem split_flatMap {f : β → List α} {bs : List β} (h : bs.flatMap f = before ++ x :: after) :
    ∃ (done : List β) (b : β) (later : List β) (part rest : List α), bs = done ++ b :: later ∧
      before = done.flatMap f ++ part ∧ f b = part ++ x :: rest ∧
      after = rest ++ later.flatMap f := by
  induction bs generalizing before with
  | nil => simp at h
  | cons b bs ih =>
    rw [List.flatMap_cons] at h
    rcases split_append h with ⟨mid, rfl, hbs⟩ | ⟨rest, hb, hafter⟩
    · obtain ⟨done, b', later, part, rest, rfl, rfl, hf, hafter⟩ := ih hbs
      exact ⟨b :: done, b', later, part, rest, rfl, by simp, hf, hafter⟩
    · exact ⟨[], b, bs, before, rest, rfl, rfl, hb, hafter⟩

/-- One element in all of several lists is in one of them. -/
theorem flatMap_map_of_singleton {γ : Type} {f : β → List α} {bs : List β} (g : β → α → γ)
    (h : bs.flatMap f = [x]) : ∃ b, bs.flatMap (fun b => (f b).map (g b)) = [g b x] := by
  induction bs with
  | nil => cases h
  | cons b bs ih =>
    rw [List.flatMap_cons] at h
    rcases List.append_eq_singleton_iff.1 h with ⟨hb, hbs⟩ | ⟨hb, hbs⟩
    · obtain ⟨b', hb'⟩ := ih hbs
      exact ⟨b', by rw [List.flatMap_cons, hb, hb']; rfl⟩
    · have hnone : bs.flatMap (fun b => (f b).map (g b)) = [] :=
        List.flatMap_eq_nil_iff.2 fun b' hb' => by rw [List.flatMap_eq_nil_iff.1 hbs b' hb']; rfl
      exact ⟨b, by rw [List.flatMap_cons, hb, hnone]; rfl⟩

/-- The last of some elements, or one before it. -/
theorem split_concat {z : α} (h : xs ++ [z] = before ++ x :: after) :
    (before = xs ∧ x = z) ∨ ∃ rest, xs = before ++ x :: rest := by
  rcases split_append h with ⟨mid, rfl, hz⟩ | ⟨rest, hxs, -⟩
  · rcases List.cons_eq_append_iff.1 hz with ⟨rfl, hx⟩ | ⟨mid, rfl, hx⟩
    · exact .inl ⟨List.append_nil xs, (List.cons.inj hx).1⟩
    · simp at hx
  · exact .inr ⟨rest, hxs⟩

/-- A mark that neither of two words holds ends both at the same place. -/
theorem append_mark_inj {mark : α} (hxs : mark ∉ xs) (hys : mark ∉ ys)
    (h : xs ++ mark :: before = ys ++ mark :: after) : xs = ys ∧ before = after := by
  obtain ⟨mid, rfl, hmid⟩ := split_behind h hxs
  rcases List.cons_eq_append_iff.1 hmid with ⟨rfl, hafter⟩ | ⟨mid, rfl, _⟩
  · exact ⟨(List.append_nil xs).symm, (List.cons.inj hafter).2.symm⟩
  · exact absurd (List.mem_append_right _ List.mem_cons_self) hys

/-- What satisfies a test ends where something else begins. -/
theorem takeWhile_dropWhile_append {p : α → Bool} (hxs : ∀ z ∈ xs, p z = true)
    (hys : ∀ z, ys.head? = some z → p z = false) :
    (xs ++ ys).takeWhile p = xs ∧ (xs ++ ys).dropWhile p = ys := by
  rw [List.takeWhile_append_of_pos hxs, List.dropWhile_append_of_pos hxs]
  cases ys with
  | nil => simp
  | cons y ys => simp [hys y rfl]

/-- The longest start that satisfies a test is followed by nothing, or by what does not. -/
theorem takeWhile_eq_iff {p : α → Bool} : xs.takeWhile p = ys ↔
    ∃ rest, xs = ys ++ rest ∧ (∀ z ∈ ys, p z = true) ∧
      ∀ z, rest.head? = some z → p z = false := by
  constructor
  · rintro rfl
    refine ⟨xs.dropWhile p, List.takeWhile_append_dropWhile.symm, fun z hz => ?_, fun z hz => ?_⟩
    · exact List.all_eq_true.1 List.all_takeWhile z hz
    · have hhead := List.head?_dropWhile_not p xs
      rw [hz] at hhead
      exact hhead
  · rintro ⟨rest, rfl, hys, hrest⟩
    exact (takeWhile_dropWhile_append hys hrest).1

/-- Up to a number of elements that satisfy a test, and fewer only before one that does not. -/
theorem take_takeWhile_eq_iff {p : α → Bool} {n : Nat} :
    (xs.takeWhile p).take n = ys ↔ ∃ more, xs = ys ++ more ∧ (∀ y ∈ ys, p y = true) ∧
      ys.length ≤ n ∧ (ys.length < n → ∀ z, more.head? = some z → p z = false) := by
  constructor
  · rintro rfl
    obtain ⟨rest, hxs, hall, hrest⟩ := takeWhile_eq_iff.1 (Eq.refl (xs.takeWhile p))
    generalize xs.takeWhile p = run at hxs hall
    subst hxs
    refine ⟨run.drop n ++ rest, ?_, fun y hy => hall y (List.mem_of_mem_take hy), ?_, ?_⟩
    · rw [← List.append_assoc, List.take_append_drop]
    · rw [List.length_take]
      exact Nat.min_le_left n _
    · intro hlt z hz
      have hdrop : run.drop n = [] := List.drop_eq_nil_of_le (by
        rw [List.length_take] at hlt
        omega)
      rw [hdrop] at hz
      exact hrest z hz
  · rintro ⟨more, rfl, hall, hle, hfull⟩
    rw [List.takeWhile_append_of_pos hall]
    by_cases hlt : ys.length < n
    · have hnone : more.takeWhile p = [] := takeWhile_eq_iff.2 ⟨more, rfl, nofun, hfull hlt⟩
      rw [hnone, List.append_nil, List.take_of_length_le hle]
    · exact List.take_left' (Nat.le_antisymm hle (Nat.le_of_not_lt hlt))

/-- A list is split around what stands at a place in it. -/
theorem getElem?_eq_some_iff_split {i : Nat} : xs[i]? = some x ↔
    ∃ before after, xs = before ++ x :: after ∧ before.length = i := by
  constructor
  · intro h
    obtain ⟨hi, hx⟩ := List.getElem?_eq_some_iff.1 h
    refine ⟨xs.take i, xs.drop (i + 1), ?_, List.length_take_of_le (Nat.le_of_lt hi)⟩
    rw [← hx, List.getElem_cons_drop, List.take_append_drop]
  · rintro ⟨before, after, rfl, rfl⟩
    rw [List.getElem?_append_right (Nat.le_refl _), Nat.sub_self, List.getElem?_cons_zero]

-- ---------------------------------------------------------------------------
-- One element in the place of another
-- ---------------------------------------------------------------------------

variable {f : α → β} {g : α → Option β} {y : α} {i : Nat}

theorem forall_mem_set {p : α → Prop} (h : ∀ z ∈ xs, p z) (hy : p y) : ∀ z ∈ xs.set i y, p z := by
  intro z hz
  rcases List.mem_or_eq_of_mem_set hz with hz | rfl
  · exact h z hz
  · exact hy

theorem map_set_of_eq (h : xs[i]? = some x) (hf : f y = f x) : (xs.set i y).map f = xs.map f := by
  induction xs generalizing i with
  | nil => cases h
  | cons z zs ih =>
    cases i with
    | zero =>
      obtain rfl : z = x := by simpa using h
      simp [hf]
    | succ i => simp [ih (by simpa using h)]

theorem filterMap_set_of_eq (h : xs[i]? = some x) (hg : g y = g x) :
    (xs.set i y).filterMap g = xs.filterMap g := by
  induction xs generalizing i with
  | nil => cases h
  | cons z zs ih =>
    cases i with
    | zero =>
      obtain rfl : z = x := by simpa using h
      simp [List.filterMap_cons, hg]
    | succ i => simp [List.filterMap_cons, ih (by simpa using h)]

/-- What an element newly counts for is added somewhere. -/
theorem perm_filterMap_set {b : β} (h : xs[i]? = some x) (hx : g x = none) (hy : g y = some b) :
    ((xs.set i y).filterMap g).Perm (xs.filterMap g ++ [b]) := by
  induction xs generalizing i with
  | nil => cases h
  | cons z zs ih =>
    cases i with
    | zero =>
      obtain rfl : z = x := by simpa using h
      simpa [List.filterMap_cons, hx, hy] using (List.perm_append_singleton b (zs.filterMap g)).symm
    | succ i =>
      have hzs := ih (i := i) (by simpa using h)
      cases hz : g z with
      | none => simpa [List.filterMap_cons, hz] using hzs
      | some a => simpa [List.filterMap_cons, hz] using hzs.cons a

end Switchboard
