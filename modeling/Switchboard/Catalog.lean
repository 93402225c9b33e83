/-!
# Catalogs

Finite collections whose members carry their own key, kept in ascending order of key with one member
for each key. The order makes the content decide the catalog: two catalogs that answer every key
alike are equal, whatever was put first.
-/

namespace Switchboard

structure Catalog (α : Type) (key : α → String) where
  items : List α
  ascending : items.Pairwise fun a b => key a < key b

namespace Catalog

variable {α : Type} {key : α → String}

/-- Puts a member at its place; a member with the same key gives way. -/
def insertAscending (key : α → String) (x : α) : List α → List α
  | [] => [x]
  | y :: ys =>
    if key x < key y then x :: y :: ys
    else if key x = key y then x :: ys
    else y :: insertAscending key x ys

theorem mem_insertAscending {x z : α} {ys : List α} (h : z ∈ insertAscending key x ys) :
    z = x ∨ z ∈ ys := by
  induction ys with
  | nil => simpa [insertAscending] using h
  | cons y ys ih =>
    simp only [insertAscending] at h
    split at h
    · simpa using h
    · split at h
      · rcases List.mem_cons.1 h with h | h
        · exact .inl h
        · exact .inr (List.mem_cons_of_mem _ h)
      · rcases List.mem_cons.1 h with h | h
        · exact .inr (h ▸ List.mem_cons_self ..)
        · rcases ih h with h | h
          · exact .inl h
          · exact .inr (List.mem_cons_of_mem _ h)

theorem lt_of_not_lt_of_ne {a b : String} (h : ¬ a < b) (hne : a ≠ b) : b < a := by
  rcases Std.lt_trichotomy a b with h' | h' | h'
  · exact absurd h' h
  · exact absurd h' hne
  · exact h'

theorem pairwise_insertAscending (x : α) {ys : List α}
    (h : ys.Pairwise fun a b => key a < key b) :
    (insertAscending key x ys).Pairwise fun a b => key a < key b := by
  induction ys with
  | nil => simp [insertAscending]
  | cons y ys ih =>
    obtain ⟨hy, hys⟩ := List.pairwise_cons.1 h
    simp only [insertAscending]
    split
    next hlt =>
      refine List.pairwise_cons.2 ⟨fun z hz => ?_, h⟩
      rcases List.mem_cons.1 hz with hz | hz
      · exact hz ▸ hlt
      · exact String.lt_trans hlt (hy z hz)
    next hnlt =>
      split
      next heq => exact List.pairwise_cons.2 ⟨fun z hz => heq ▸ hy z hz, hys⟩
      next hne =>
        refine List.pairwise_cons.2 ⟨fun z hz => ?_, ih hys⟩
        rcases mem_insertAscending hz with hz | hz
        · exact hz ▸ lt_of_not_lt_of_ne hnlt hne
        · exact hy z hz

def empty : Catalog α key := ⟨[], .nil⟩

/-- The member with a key. -/
def get? (c : Catalog α key) (k : String) : Option α := c.items.find? fun x => key x == k

/-- Adds a member, in place of one with the same key. -/
def put (c : Catalog α key) (x : α) : Catalog α key :=
  ⟨insertAscending key x c.items, pairwise_insertAscending x c.ascending⟩

/-- The catalog of a list; of several members with one key the last counts. -/
def ofList (xs : List α) : Catalog α key := xs.foldl put empty

theorem ext {c d : Catalog α key} (h : c.items = d.items) : c = d := by
  cases c; cases d; cases h; rfl

/-- Changes every member without changing its key. -/
def update (c : Catalog α key) (f : α → α) (hf : ∀ x, key (f x) = key x) : Catalog α key :=
  ⟨c.items.map f, by
    rw [List.pairwise_map]
    exact c.ascending.imp fun h => by rw [hf, hf]; exact h⟩

theorem find?_insertAscending_self (x : α) (ys : List α) :
    (insertAscending key x ys).find? (fun y => key y == key x) = some x := by
  induction ys with
  | nil => simp [insertAscending]
  | cons y ys ih =>
    simp only [insertAscending]
    split
    · simp
    next hnlt =>
      split
      · simp
      next hne => simp [Ne.symm hne, ih]

theorem find?_insertAscending_of_ne {x : α} {k : String} (h : key x ≠ k) (ys : List α) :
    (insertAscending key x ys).find? (fun y => key y == k) = ys.find? (fun y => key y == k) := by
  induction ys with
  | nil => simp [insertAscending, h]
  | cons y ys ih =>
    simp only [insertAscending]
    split
    · simp [h]
    next hnlt =>
      split
      next heq =>
        have : key y ≠ k := fun e => h (heq.trans e)
        simp [h, this]
      next hne => simp only [List.find?_cons, ih]

@[simp] theorem get?_put_self (c : Catalog α key) (x : α) : (c.put x).get? (key x) = some x :=
  find?_insertAscending_self x c.items

theorem get?_put_of_ne (c : Catalog α key) {x : α} {k : String} (h : key x ≠ k) :
    (c.put x).get? k = c.get? k := find?_insertAscending_of_ne h c.items

@[simp] theorem get?_empty (k : String) : (empty : Catalog α key).get? k = none := rfl

theorem key_of_get? {c : Catalog α key} {k : String} {x : α} (h : c.get? k = some x) :
    key x = k := by
  have := List.find?_some h
  simpa using this

theorem find?_tail_eq_none {x : α} {xs : List α}
    (h : (x :: xs).Pairwise fun a b => key a < key b) :
    xs.find? (fun y => key y == key x) = none := by
  rw [List.find?_eq_none]
  intro y hy
  have hlt := (List.pairwise_cons.1 h).1 y hy
  simp only [beq_iff_eq]
  exact fun e => String.lt_irrefl _ (e ▸ hlt)

theorem items_eq_of_find? {xs ys : List α} (hx : xs.Pairwise fun a b => key a < key b)
    (hy : ys.Pairwise fun a b => key a < key b)
    (h : ∀ k, xs.find? (fun x => key x == k) = ys.find? fun y => key y == k) : xs = ys := by
  induction xs generalizing ys with
  | nil =>
    cases ys with
    | nil => rfl
    | cons y ys => simpa using h (key y)
  | cons x xs ih =>
    cases ys with
    | nil => simpa using h (key x)
    | cons y ys =>
      have hxy : x = y := by
        by_cases hkey : key x = key y
        · simpa [hkey] using h (key x)
        · -- each of the two would stand behind the other
          have h1 : y ∈ xs := List.mem_of_find?_eq_some (by simpa [hkey] using h (key y))
          have h2 : x ∈ ys :=
            List.mem_of_find?_eq_some (by simpa [Ne.symm hkey] using (h (key x)).symm)
          exact absurd (String.lt_trans ((List.pairwise_cons.1 hx).1 y h1)
            ((List.pairwise_cons.1 hy).1 x h2)) (String.lt_irrefl _)
      subst hxy
      rw [ih hx.of_cons hy.of_cons fun k => ?_]
      by_cases hk : key x = k
      · rw [← hk, find?_tail_eq_none hx, find?_tail_eq_none hy]
      · simpa [hk] using h k

/-- A catalog is known by what it answers. -/
theorem ext_get? {c d : Catalog α key} (h : ∀ k, c.get? k = d.get? k) : c = d :=
  ext (items_eq_of_find? c.ascending d.ascending h)

end Catalog

/-- A catalog of named values. -/
abbrev Dictionary (β : Type) := Catalog (String × β) Prod.fst

namespace Dictionary

variable {β : Type}

def value? (d : Dictionary β) (name : String) : Option β := (Catalog.get? d name).map Prod.snd

def set (d : Dictionary β) (name : String) (value : β) : Dictionary β := Catalog.put d (name, value)

@[simp] theorem value?_set_self (d : Dictionary β) (name : String) (value : β) :
    (d.set name value).value? name = some value := by
  have h : (Catalog.put d (name, value)).get? name = some (name, value) :=
    Catalog.get?_put_self d (name, value)
  simp [value?, set, h]

theorem value?_set_of_ne (d : Dictionary β) {name other : String} (value : β) (h : name ≠ other) :
    (d.set name value).value? other = d.value? other := by
  have h' : (Catalog.put d (name, value)).get? other = Catalog.get? d other :=
    Catalog.get?_put_of_ne d h
  simp [value?, set, h']

end Dictionary

end Switchboard
