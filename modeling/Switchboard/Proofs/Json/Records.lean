import Switchboard.Document
import Switchboard.Proofs.Json.Members

/-!
# Records read back

A record is written as an object of its fields, of which some may be absent, and read back field by
field. The laws here say what each kind of field gives (`required`, `defaulted`, `optional`), and
that an object keeps members that are in order already (`object_of_ascending`).
-/

namespace Switchboard

-- ---------------------------------------------------------------------------
-- Members in order
-- ---------------------------------------------------------------------------

namespace Catalog

variable {α : Type} {key : α → String}

theorem insertAscending_last {x : α} {ys : List α} (h : ∀ y ∈ ys, key y < key x) :
    insertAscending key x ys = ys ++ [x] := by
  induction ys with
  | nil => rfl
  | cons y ys ih =>
    have hy : key y < key x := h y List.mem_cons_self
    have hne : key x ≠ key y := fun e => String.lt_irrefl _ (e ▸ hy)
    have hnlt : ¬ key x < key y := fun hlt => String.lt_irrefl _ (String.lt_trans hy hlt)
    rw [insertAscending, if_neg hnlt, if_neg hne, ih fun z hz => h z (List.mem_cons_of_mem y hz)]
    rfl

theorem foldl_insertAscending {xs before : List α}
    (h : (before ++ xs).Pairwise fun a b => key a < key b) :
    xs.foldl (fun ys x => insertAscending key x ys) before = before ++ xs := by
  induction xs generalizing before with
  | nil => simp
  | cons x xs ih =>
    have hlast : ∀ y ∈ before, key y < key x := fun y hy =>
      (List.pairwise_append.1 h).2.2 y hy x List.mem_cons_self
    rw [List.foldl_cons, insertAscending_last hlast, ih (by simpa using h), List.append_assoc]
    rfl

theorem items_foldl_put (xs : List α) (c : Catalog α key) :
    (xs.foldl put c).items = xs.foldl (fun ys x => insertAscending key x ys) c.items := by
  induction xs generalizing c with
  | nil => rfl
  | cons x xs ih => exact ih (c.put x)

/-- A catalog is read back from its members. -/
theorem ofList_items (c : Catalog α key) : ofList c.items = c :=
  ext ((items_foldl_put c.items empty).trans (foldl_insertAscending c.ascending))

end Catalog

namespace Json

theorem object_of_ascending {members : List (String × Json)}
    (h : members.Pairwise fun a b => a.1 < b.1) : object members = obj members :=
  congrArg obj (Catalog.foldl_insertAscending h)

theorem pairwise_foldl_insertAscending {members before : List (String × Json)}
    (h : before.Pairwise fun a b => a.1 < b.1) :
    (members.foldl (fun ms m => Catalog.insertAscending Prod.fst m ms) before).Pairwise
      fun a b => a.1 < b.1 := by
  induction members generalizing before with
  | nil => exact h
  | cons m members ih => exact ih (Catalog.pairwise_insertAscending m h)

theorem mem_foldl_insertAscending {members before : List (String × Json)} {x : String × Json}
    (h : x ∈ members.foldl (fun ms m => Catalog.insertAscending Prod.fst m ms) before) :
    x ∈ members ∨ x ∈ before := by
  induction members generalizing before with
  | nil => exact .inr h
  | cons m members ih =>
    rcases ih h with h | h
    · exact .inl (List.mem_cons_of_mem m h)
    · rcases Catalog.mem_insertAscending h with rfl | h
      · exact .inl List.mem_cons_self
      · exact .inr h

-- ---------------------------------------------------------------------------
-- Members by name
-- ---------------------------------------------------------------------------

/-- The member with a name that counts, which is the last one. -/
def member? (members : List (String × Json)) (name : String) : Option Json :=
  (members.reverse.find? fun m => m.1 == name).map Prod.snd

@[simp] theorem member?_nil (name : String) : member? [] name = none := rfl

@[simp] theorem member?_cons (m : String × Json) (members : List (String × Json))
    (name : String) :
    member? (m :: members) name =
      (member? members name).or (if m.1 = name then some m.2 else none) := by
  unfold member?
  rw [List.reverse_cons, List.find?_append]
  cases members.reverse.find? fun m => m.1 == name with
  | some x => rfl
  | none => by_cases h : m.1 = name <;> simp [h]

@[simp] theorem member?_append (members others : List (String × Json)) (name : String) :
    member? (members ++ others) name = (member? others name).or (member? members name) := by
  unfold member?
  rw [List.reverse_append, List.find?_append]
  cases others.reverse.find? fun m => m.1 == name <;> rfl

@[simp] theorem member?_present_nil (name : String) : member? (present []) name = none := rfl

@[simp] theorem member?_present_cons (m : String × Option Json)
    (members : List (String × Option Json)) (name : String) :
    member? (present (m :: members)) name =
      (member? (present members) name).or (if m.1 = name then m.2 else none) := by
  obtain ⟨given, v⟩ := m
  cases v with
  | none =>
    show member? (present members) name = _
    simp
  | some v =>
    show member? ((given, v) :: present members) name = _
    simp

theorem lookup_foldl_insertAscending (members : List (String × Json)) (name : String) :
    (members.foldl (fun ms m => Catalog.insertAscending Prod.fst m ms) []).lookup name =
      member? members name := field?_object members name

/-- An object lists members in order, and none but those it was made of. -/
theorem object_eq (members : List (String × Json)) :
    ∃ sorted, object members = obj sorted ∧ (sorted.Pairwise fun a b => a.1 < b.1) ∧
      (∀ m ∈ sorted, m ∈ members) ∧ ∀ name, sorted.lookup name = member? members name :=
  ⟨_, rfl, pairwise_foldl_insertAscending .nil, fun _ hm =>
    (mem_foldl_insertAscending hm).resolve_right List.not_mem_nil,
    lookup_foldl_insertAscending members⟩

theorem record?_object (names : List String) (members : List (String × Json)) :
    (object members).record? names = some ⟨member? members, true⟩ := by
  have h : (fun name => (members.foldl (fun ms m => Catalog.insertAscending Prod.fst m ms)
      []).lookup name) = member? members :=
    funext (lookup_foldl_insertAscending members)
  rw [← h]
  rfl

end Json

-- ---------------------------------------------------------------------------
-- Fields of a record
-- ---------------------------------------------------------------------------

/-- What is written is not null and is read back. -/
structure ReadsBack {α : Type} (write : α → Json) (read : Json → Option α) : Prop where
  given : ∀ x, Document.isNull (write x) = false
  back : ∀ x, read (write x) = some x

namespace Fields

variable {α : Type} {f : Fields Json} {name : String} {write : α → Json} {read : Json → Option α}

theorem optional_of_readsBack {x : Option α} (h : ReadsBack write read)
    (hf : f.value? name = x.map write) : f.optional name read = some x := by
  unfold Fields.optional Fields.defaulted
  rw [hf]
  cases x with
  | none => rfl
  | some x => simp [Fields.nullable, h.given, h.back]

theorem required_of_some {x : α} {v : Json} (hf : f.value? name = some v)
    (h : read v = some x) : f.required name read = some x := by
  unfold Fields.required
  rw [hf]
  exact h

theorem defaulted_of_some {x fallback : α} {v : Json} (hf : f.value? name = some v)
    (h : read v = some x) : f.defaulted name fallback read = some x := by
  unfold Fields.defaulted
  rw [hf]
  exact h

end Fields

theorem Document.record?_object (names : List String) (members : List (String × Json)) :
    Document.record? names (Json.object members) = some ⟨Json.member? members, true⟩ :=
  Json.record?_object names members

theorem readsBack_text : ReadsBack Json.str Json.text? := ⟨fun _ => rfl, fun _ => rfl⟩

theorem readsBack_platform :
    ReadsBack (fun p : Platform => Json.str p.name)
      fun v => (Json.choice? v).bind Platform.ofName? :=
  ⟨fun _ => rfl, fun p => Platform.ofName?_name p⟩

theorem readsBack_kind :
    ReadsBack (fun k : ContentKind => Json.str k.name)
      fun v => (Json.choice? v).bind ContentKind.ofName? :=
  ⟨fun _ => rfl, fun k => ContentKind.ofName?_name k⟩

-- ---------------------------------------------------------------------------
-- Lists and dictionaries
-- ---------------------------------------------------------------------------

theorem mapM_of_mapM {α β : Type} {f : α → Option β} {g : β → Option α} {xs : List α}
    {ys : List β} (h : xs.mapM f = some ys) (hback : ∀ x ∈ xs, ∀ y, f x = some y → g y = some x) :
    ys.mapM g = some xs := by
  induction xs generalizing ys with
  | nil =>
    rw [List.mapM_nil] at h
    cases h
    rfl
  | cons x xs ih =>
    simp only [List.mapM_cons, Option.bind_eq_bind, Option.bind_eq_some_iff, Option.pure_def,
      Option.some.injEq] at h
    obtain ⟨y, hy, ys, hys, rfl⟩ := h
    rw [List.mapM_cons, hback x List.mem_cons_self y hy,
      ih hys fun z hz => hback z (List.mem_cons_of_mem x hz)]
    rfl

theorem mem_of_mapM {α β : Type} {f : α → Option β} {xs : List α} {ys : List β}
    (h : xs.mapM f = some ys) : ∀ y ∈ ys, ∃ x ∈ xs, f x = some y := by
  induction xs generalizing ys with
  | nil =>
    rw [List.mapM_nil] at h
    cases h
    simp
  | cons x xs ih =>
    simp only [List.mapM_cons, Option.bind_eq_bind, Option.bind_eq_some_iff, Option.pure_def,
      Option.some.injEq] at h
    obtain ⟨z, hz, zs, hzs, rfl⟩ := h
    rintro y hy
    rcases List.mem_cons.1 hy with rfl | hy
    · exact ⟨x, List.mem_cons_self, hz⟩
    · obtain ⟨w, hw, hwy⟩ := ih hzs y hy
      exact ⟨w, List.mem_cons_of_mem x hw, hwy⟩

theorem exists_mapM_iff {α β : Type} {f : α → Option β} {xs : List α} :
    (∃ ys, xs.mapM f = some ys) ↔ ∀ x ∈ xs, ∃ y, f x = some y := by
  induction xs with
  | nil => simp
  | cons x xs ih =>
    rw [List.forall_mem_cons, ← ih]
    cases hx : f x <;> cases hxs : xs.mapM f <;> simp [hx, hxs]

theorem list?_arr {α : Type} {write : α → Json} {read : Json → Option α}
    (h : ∀ x, read (write x) = some x) (xs : List α) :
    Document.list? read (.arr (xs.map write)) = some xs := by
  show (xs.map write).mapM read = some xs
  induction xs with
  | nil => rfl
  | cons x xs ih => rw [List.map_cons, List.mapM_cons, h, ih]; rfl

theorem dictionary?_obj {α : Type} {write : α → Json} {read : Json → Option α}
    (h : ∀ x, read (write x) = some x) (d : Dictionary α) :
    Document.dictionary? read (.obj (d.items.map fun m => (m.1, write m.2))) = some d := by
  have hread : (d.items.map fun m => (m.1, write m.2)).mapM
      (fun m => (read m.2).map fun x => (m.1, x)) = some d.items := by
    induction d.items with
    | nil => rfl
    | cons m ms ih => rw [List.map_cons, List.mapM_cons, h, ih]; rfl
  show ((d.items.map fun m => (m.1, write m.2)).mapM
    fun m => (read m.2).map fun x => (m.1, x)).map Catalog.ofList = some d
  rw [hread, Option.map_some, Catalog.ofList_items]

theorem dictionary?_object (d : Dictionary String) :
    Document.dictionary? Json.text? (Json.object (d.items.map fun (n, s) => (n, .str s))) =
      some d := by
  have hmembers : Json.object (d.items.map fun (n, s) => (n, Json.str s)) =
      .obj (d.items.map fun (n, s) => (n, .str s)) :=
    Json.object_of_ascending (List.pairwise_map.2 d.ascending)
  rw [hmembers]
  exact dictionary?_obj readsBack_text.back d

end Switchboard
