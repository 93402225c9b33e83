import Mathlib.Data.List.Basic
import Mathlib.Data.Prod.Lex
import Mathlib.Tactic.Choose
import Mathlib.Tactic.Conv
import Switchboard.Json

/-!
# Places

What is read from arrays within arrays is a list: what their places give, in the order of the places
(`InOrder`). A place is a number, a pair of them, or one of two kinds, so an order of places is
made up as the arrays are.
-/

namespace Switchboard

-- ---------------------------------------------------------------------------
-- Lists in the order of places
-- ---------------------------------------------------------------------------

/-- The list is what the places give, in their order, where `before` is a strict order: each place
counts once, and none is left out. -/
def InOrder {ι α : Type} (before : ι → ι → Prop) (gives : ι → α → Prop) (xs : List α) : Prop :=
  ∃ found : List (ι × α), found.map Prod.snd = xs ∧
    (found.Pairwise fun a b => before a.1 b.1) ∧ ∀ i x, (i, x) ∈ found ↔ gives i x

namespace InOrder

variable {ι κ α β γ : Type} {before : ι → ι → Prop} {before' : κ → κ → Prop}
variable {gives : ι → α → Prop} {gives' : κ → α → Prop} {xs ys : List α}

theorem congr {others : ι → α → Prop} (h : InOrder before gives xs)
    (heq : ∀ i x, gives i x ↔ others i x) : InOrder before others xs := by
  obtain ⟨found, hmap, hsorted, hmem⟩ := h
  exact ⟨found, hmap, hsorted, fun i x => (hmem i x).trans (heq i x)⟩

theorem mem_iff (h : InOrder before gives xs) {x : α} : x ∈ xs ↔ ∃ i, gives i x := by
  obtain ⟨found, rfl, -, hmem⟩ := h
  simp [hmem]

/-- The places decide the list. -/
theorem unique (h : InOrder before gives xs) (h' : InOrder before gives ys)
    (hirrefl : ∀ i, ¬ before i i) (hasymm : ∀ i j, before i j → ¬ before j i) : xs = ys := by
  obtain ⟨found, rfl, hsorted, hmem⟩ := h
  obtain ⟨found', rfl, hsorted', hmem'⟩ := h'
  have hnodup : ∀ {l : List (ι × α)}, (l.Pairwise fun a b => before a.1 b.1) → l.Nodup :=
    fun hl => hl.imp fun {a b} hab (heq : a = b) => hirrefl a.1 (heq ▸ hab)
  have hperm : found.Perm found' :=
    (List.perm_ext_iff_of_nodup (hnodup hsorted) (hnodup hsorted')).2 fun ⟨i, x⟩ =>
      (hmem i x).trans (hmem' i x).symm
  have heq : found = found' :=
    hperm.eq_of_pairwise (fun a b _ _ hab hba => absurd hba (hasymm a.1 b.1 hab)) hsorted hsorted'
  rw [heq]

theorem eq_iff {gives : ℕ → α → Prop} (h : InOrder Nat.lt gives xs) :
    InOrder Nat.lt gives ys ↔ ys = xs :=
  ⟨fun h' => h'.unique h Nat.lt_irrefl fun _ _ => Nat.lt_asymm, fun heq => heq ▸ h⟩

theorem nil : InOrder before (fun _ (_ : α) => False) [] := ⟨[], by simp⟩

theorem of_none (h : ∀ i x, ¬ gives i x) : InOrder before gives [] :=
  nil.congr fun i x => iff_of_false not_false (h i x)

theorem singleton (x : α) : InOrder Nat.lt (fun i y => i = 0 ∧ y = x) [x] := ⟨[(0, x)], by simp⟩

theorem pairwise_zipIdx (items : List β) : items.zipIdx.Pairwise fun p q => p.2 < q.2 := by
  rw [← List.pairwise_map (R := (· < ·)), List.zipIdx_map_snd]
  exact List.pairwise_lt_range' ..

/-- What is read of each item, with its place known. -/
theorem filterMap_zipIdx (items : List β) (read : ℕ → β → Option α) :
    InOrder Nat.lt (fun i x => ∃ b, items[i]? = some b ∧ read i b = some x)
      (items.zipIdx.filterMap fun p => read p.2 p.1) := by
  refine ⟨items.zipIdx.filterMap fun p => (read p.2 p.1).map fun x => (p.2, x), ?_, ?_,
    fun i x => ?_⟩
  · simp [List.map_filterMap, Function.comp_def]
  · rw [List.pairwise_filterMap]
    refine (pairwise_zipIdx items).imp fun {p q} hlt a ha b hb => ?_
    obtain ⟨x, -, rfl⟩ := Option.map_eq_some_iff.1 ha
    obtain ⟨y, -, rfl⟩ := Option.map_eq_some_iff.1 hb
    exact hlt
  · simp [List.mem_filterMap, List.mem_zipIdx_iff_getElem?]

theorem filterMap (items : List β) (f : β → Option α) :
    InOrder Nat.lt (fun i x => ∃ b, items[i]? = some b ∧ f b = some x) (items.filterMap f) := by
  have hplaces : (items.zipIdx.map Prod.fst).filterMap f =
      items.zipIdx.filterMap fun p => f p.1 := List.filterMap_map
  rw [List.zipIdx_map_fst] at hplaces
  exact hplaces ▸ filterMap_zipIdx items fun _ => f

theorem map (items : List β) (f : β → α) :
    InOrder Nat.lt (fun i x => ∃ b, items[i]? = some b ∧ f b = x) (items.map f) := by
  simpa using filterMap items fun b => some (f b)

theorem append (hx : InOrder before gives xs) (hy : InOrder before' gives' ys) :
    InOrder (Sum.Lex before before') (Sum.elim gives gives') (xs ++ ys) := by
  obtain ⟨first, rfl, hfirst, hgives⟩ := hx
  obtain ⟨second, rfl, hsecond, hgives'⟩ := hy
  refine ⟨first.map (fun a => (.inl a.1, a.2)) ++ second.map (fun b => (.inr b.1, b.2)),
    by simp [Function.comp_def], ?_, ?_⟩
  · simp only [List.pairwise_append, List.pairwise_map, List.mem_map]
    refine ⟨hfirst.imp Sum.Lex.inl, hsecond.imp Sum.Lex.inr, ?_⟩
    rintro _ ⟨a, -, rfl⟩ _ ⟨b, -, rfl⟩
    exact .sep a.1 b.1
  · rintro (i | i) x <;> simp [hgives, hgives']

variable {givesIn : β → ι → α → Prop} {f : β → List α}

/-- The order of what is read item by item: first by item, then within the item. -/
theorem flatMap (items : List β) (h : ∀ b, InOrder before (givesIn b) (f b)) :
    InOrder (Prod.Lex Nat.lt before)
      (fun p x => ∃ b, items[p.1]? = some b ∧ givesIn b p.2 x) (items.flatMap f) := by
  choose found hmap hsorted hmem using h
  refine ⟨items.zipIdx.flatMap fun p => (found p.1).map fun a => ((p.2, a.1), a.2), ?_, ?_, ?_⟩
  · conv_rhs => rw [← List.zipIdx_map_fst 0 items, List.flatMap_map]
    simp [List.map_flatMap, Function.comp_def, ← hmap]
  · rw [List.pairwise_flatMap]
    constructor
    · intro p _
      rw [List.pairwise_map]
      exact (hsorted p.1).imp fun h => .right _ h
    · refine (pairwise_zipIdx items).imp fun {p q} hlt a ha b hb => ?_
      obtain ⟨a, -, rfl⟩ := List.mem_map.1 ha
      obtain ⟨b, -, rfl⟩ := List.mem_map.1 hb
      exact .left _ _ hlt
  · rintro ⟨n, i⟩ x
    simp [List.mem_zipIdx_iff_getElem?, ← hmem]

theorem toList (o : Option β) (h : ∀ b, InOrder before (givesIn b) (f b)) :
    InOrder before (fun i x => ∃ b, o = some b ∧ givesIn b i x) (o.toList.flatMap f) := by
  cases o with
  | none => simpa using nil
  | some b => simpa using h b

/-- An item without a part that is looked for has no places. -/
theorem flatMap_filterMap (items : List γ) (part : γ → Option β)
    (h : ∀ b, InOrder before (givesIn b) (f b)) :
    InOrder (Prod.Lex Nat.lt before)
      (fun p x => ∃ c, items[p.1]? = some c ∧ ∃ b, part c = some b ∧ givesIn b p.2 x)
      ((items.filterMap part).flatMap f) := by
  rw [List.filterMap_eq_flatMap_toList, List.flatMap_assoc]
  exact flatMap items fun c => toList (part c) h

end InOrder

-- ---------------------------------------------------------------------------
-- Places in values
-- ---------------------------------------------------------------------------

/-- The member with the name is an array, which has the item at a place. -/
def Json.HasItem (v : Json) (name : String) (i : ℕ) (w : Json) : Prop :=
  ∃ items, v.field? name = some (.arr items) ∧ items[i]? = some w

end Switchboard
