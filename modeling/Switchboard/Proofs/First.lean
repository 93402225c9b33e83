/-!
# The first of several

What comes first in an order, of all that satisfies a condition. A scan that keeps the better of two
ends with it, and so does a search from the front of a sorted list. Neither says anything of the
order in which things are stored.
-/

namespace Switchboard

variable {α : Type} {r : α → α → Prop} {p q : α → Prop} {x y : α} {xs : List α}

/-- The first in an order of all that satisfies a condition. -/
structure IsFirst (r : α → α → Prop) (p : α → Prop) (x : α) : Prop where
  holds : p x
  before : ∀ y, p y → r x y

theorem IsFirst.congr (h : ∀ x, p x ↔ q x) : IsFirst r p x ↔ IsFirst r q x := by
  constructor <;> rintro ⟨hx, hbefore⟩
  · exact ⟨(h x).1 hx, fun y hy => hbefore y ((h y).2 hy)⟩
  · exact ⟨(h x).2 hx, fun y hy => hbefore y ((h y).1 hy)⟩

/-- The order tells apart all that satisfies a condition. -/
def Separates (r : α → α → Prop) (p : α → Prop) : Prop :=
  ∀ x y, p x → p y → r x y → r y x → x = y

theorem Separates.of_imp (h : Separates r p) (hqp : ∀ x, q x → p x) : Separates r q :=
  fun x y hx hy => h x y (hqp x hx) (hqp y hy)

theorem IsFirst.unique (hx : IsFirst r p x) (hy : IsFirst r p y) (h : Separates r p) : x = y :=
  h x y hx.holds hy.holds (hx.before y hy.holds) (hy.before x hx.holds)

-- ---------------------------------------------------------------------------
-- Keeping the better of two
-- ---------------------------------------------------------------------------

/-- The best of a list, where `better` compares what comes later with what came before. -/
def best? (better : α → α → Bool) : List α → Option α
  | [] => none
  | x :: xs =>
    match best? better xs with
    | none => some x
    | some y => some (if better y x then y else x)

/-- A comparison that decides which of two is first in an order. -/
structure Decides (better : α → α → Bool) (r : α → α → Prop) : Prop where
  refl : ∀ x, r x x
  trans : ∀ {x y z}, r x y → r y z → r x z
  of_better : ∀ {x y}, better x y = true → r x y
  of_not_better : ∀ {x y}, better x y = false → r y x

variable {better : α → α → Bool}

theorem best?_eq_none : best? better xs = none ↔ xs = [] := by
  cases xs with
  | nil => simp [best?]
  | cons x xs => cases h : best? better xs <;> simp [best?, h]

theorem isFirst_of_best? (hr : Decides better r) (h : best? better xs = some x) :
    IsFirst r (· ∈ xs) x := by
  induction xs generalizing x with
  | nil => cases h
  | cons z xs ih =>
    rw [best?] at h
    cases hrest : best? better xs with
    | none =>
      simp only [hrest, Option.some.injEq] at h
      obtain rfl := best?_eq_none.1 hrest
      exact ⟨by simp [h], by simpa [h] using hr.refl x⟩
    | some y =>
      obtain ⟨hmem, hbefore⟩ := ih hrest
      simp only [hrest, Option.some.injEq] at h
      cases hbetter : better y z with
      | true =>
        obtain rfl : y = x := by simpa [hbetter] using h
        exact ⟨List.mem_cons_of_mem z hmem,
          List.forall_mem_cons.2 ⟨hr.of_better hbetter, hbefore⟩⟩
      | false =>
        obtain rfl : z = x := by simpa [hbetter] using h
        exact ⟨List.mem_cons_self, List.forall_mem_cons.2 ⟨hr.refl z, fun w hw =>
          hr.trans (hr.of_not_better hbetter) (hbefore w hw)⟩⟩

theorem best?_eq_some (hr : Decides better r) (hxs : Separates r (· ∈ xs)) :
    best? better xs = some x ↔ IsFirst r (· ∈ xs) x := by
  refine ⟨isFirst_of_best? hr, fun h => ?_⟩
  cases hfound : best? better xs with
  | none =>
    obtain rfl := best?_eq_none.1 hfound
    cases h.holds
  | some y => rw [(isFirst_of_best? hr hfound).unique h hxs]

-- ---------------------------------------------------------------------------
-- Searching a sorted list
-- ---------------------------------------------------------------------------

theorem isFirst_of_find? {test : α → Bool} (hrefl : ∀ x, r x x) (hxs : xs.Pairwise r)
    (h : xs.find? test = some x) : IsFirst r (fun y => y ∈ xs ∧ test y = true) x := by
  obtain ⟨hx, before, after, rfl, hbefore⟩ := List.find?_eq_some_iff_append.1 h
  refine ⟨⟨by simp, hx⟩, fun y ⟨hy, htest⟩ => ?_⟩
  obtain ⟨-, hafter, -⟩ := List.pairwise_append.1 hxs
  rcases List.mem_append.1 hy with hy | hy
  · have hnot := hbefore y hy
    rw [htest] at hnot
    cases hnot
  · rcases List.mem_cons.1 hy with rfl | hy
    · exact hrefl y
    · exact (List.pairwise_cons.1 hafter).1 y hy

theorem find?_eq_some_of_pairwise {test : α → Bool} (hrefl : ∀ x, r x x) (hxs : xs.Pairwise r)
    (hr : Separates r (· ∈ xs)) :
    xs.find? test = some x ↔ IsFirst r (fun y => y ∈ xs ∧ test y = true) x := by
  refine ⟨isFirst_of_find? hrefl hxs, fun h => ?_⟩
  cases hfound : xs.find? test with
  | none =>
    obtain ⟨hmem, htest⟩ := h.holds
    exact absurd htest (List.find?_eq_none.1 hfound x hmem)
  | some y =>
    rw [(isFirst_of_find? hrefl hxs hfound).unique h (hr.of_imp fun _ hz => hz.1)]

end Switchboard
