import Switchboard.Flow.Document
import Switchboard.Proofs.Json.Records
import Switchboard.Proofs.Places
import Switchboard.Proofs.Text.Trimming

/-!
# Options that are offered

What a node declares as buttons and rows is free JSON, and what it offers is what can be shown of
it. Which option an item gives is said here by its members alone (`GivesButton`, `GivesRow`,
`GivesSection`), and the readers find just these. All that is given is sound, and what is sound
gives itself once it is written out, so a node that is stored with the options it offers offers the
same again (`Node.offers_sound_options`).
-/

namespace Switchboard

-- ---------------------------------------------------------------------------
-- Texts in items
-- ---------------------------------------------------------------------------

/-- A title that can be shown. -/
structure IsTitle (t : String) : Prop where
  trimmed : Text.Trimmed t
  nonempty : t ≠ ""
  defined : t ≠ "undefined"

theorem IsTitle.not_blank {t : String} (h : IsTitle t) : Text.isBlank t = false :=
  h.trimmed.not_blank h.nonempty

namespace Json

/-- The value is the text, or the number that is written so. -/
def Denotes (v : Json) (s : String) : Prop := v = .str s ∨ ∃ n, v = .num n ∧ n.text = s

/-- The value is what the title is trimmed from. -/
def Entitles (v : Json) (t : String) : Prop := IsTitle t ∧ ∃ s, v.Denotes s ∧ Text.trim s = t

/-- The member with the name denotes the text, which is not blank. -/
def Gives (v : Json) (name s : String) : Prop :=
  Text.isBlank s = false ∧ ∃ w, v.field? name = some w ∧ w.Denotes s

/-- The text that the member gives, or another one if it gives none. -/
def GivesOr (v : Json) (name fallback s : String) : Prop :=
  v.Gives name s ∨ (∀ t, ¬ v.Gives name t) ∧ s = fallback

variable {v : Json} {name fallback s t : String}

theorem scalarText?_eq_some_iff : v.scalarText? = some s ↔ v.Denotes s := by
  unfold Denotes
  cases v <;> simp [scalarText?]

theorem optionTitle?_eq_some_iff {o : Option Json} :
    optionTitle? o = some t ↔ ∃ v, o = some v ∧ v.Entitles t := by
  simp only [optionTitle?, Option.filter_eq_some_iff, Option.map_eq_some_iff,
    Option.bind_eq_some_iff, scalarText?_eq_some_iff, Bool.and_eq_true, Bool.not_eq_true',
    bne_iff_ne, ne_eq]
  constructor
  · rintro ⟨⟨s, ⟨v, rfl, hv⟩, rfl⟩, hempty, hdefined⟩
    exact ⟨v, rfl, ⟨Text.trimmed_trim s, by simpa using hempty, hdefined⟩, s, hv, rfl⟩
  · rintro ⟨v, rfl, ht, s, hv, rfl⟩
    exact ⟨⟨s, ⟨v, rfl, hv⟩, rfl⟩, by simpa using ht.nonempty, ht.defined⟩

theorem givenText?_eq_some_iff : v.givenText? name = some s ↔ v.Gives name s := by
  simp only [givenText?, Option.filter_eq_some_iff, Option.bind_eq_some_iff,
    scalarText?_eq_some_iff, Bool.not_eq_true', Gives]
  exact And.comm

theorem givenText?_getD_eq_iff :
    (v.givenText? name).getD fallback = s ↔ v.GivesOr name fallback s := by
  unfold GivesOr
  simp only [← givenText?_eq_some_iff]
  cases v.givenText? name <;> simp [eq_comm]

theorem GivesOr.not_blank (h : v.GivesOr name fallback s)
    (hfallback : Text.isBlank fallback = false) : Text.isBlank s = false := by
  rcases h with h | ⟨-, rfl⟩
  · exact h.1
  · exact hfallback

theorem entitles_str (h : IsTitle t) : (str t).Entitles t :=
  ⟨h, t, .inl rfl, h.trimmed.trim_eq⟩

theorem gives_of_field? (hs : Text.isBlank s = false) (h : v.field? name = some (.str s)) :
    v.Gives name s := ⟨hs, .str s, h, .inl rfl⟩

end Json

-- ---------------------------------------------------------------------------
-- What an item gives
-- ---------------------------------------------------------------------------

namespace Json

/-- The title of a button may also stand in the member for its text. -/
structure GivesButton (v : Json) (b : Button) : Prop where
  title : ∃ w, (v.field? "title" = some w ∨ v.field? "title" = none ∧ v.field? "text" = some w) ∧
    w.Entitles b.title
  id : v.GivesOr "id" b.title b.id

structure GivesRow (v : Json) (r : Row) : Prop where
  title : ∃ w, v.field? "title" = some w ∧ w.Entitles r.title
  id : v.GivesOr "id" r.title r.id
  description : ∀ d, r.description = some d ↔ v.Gives "description" d

/-- A row of which only the title is declared, known by its place. -/
structure NamesRow (v : Json) (place : ℕ) (r : Row) : Prop where
  title : v.Entitles r.title
  id : r.id = "option_" ++ toString place
  description : r.description = none

structure GivesSection (v : Json) (place : ℕ) (s : Section) : Prop where
  title : v.GivesOr "title" ("Sección " ++ toString (place + 1)) s.title
  rows : InOrder Nat.lt (fun i r => ∃ w, v.HasItem "rows" i w ∧ w.GivesRow r) s.rows
  nonempty : s.rows ≠ []

end Json

variable {v : Json} {place : ℕ}

theorem Button.ofJson?_eq_some_iff {b : Button} : Button.ofJson? v = some b ↔ v.GivesButton b := by
  obtain ⟨id, title⟩ := b
  simp only [Button.ofJson?, Option.map_eq_some_iff, Json.optionTitle?_eq_some_iff,
    Option.or_eq_some_iff, Button.mk.injEq]
  constructor
  · rintro ⟨title, ⟨w, hw, htitle⟩, hid, rfl⟩
    exact ⟨⟨w, hw, htitle⟩, Json.givenText?_getD_eq_iff.1 hid⟩
  · rintro ⟨⟨w, hw, htitle⟩, hid⟩
    exact ⟨title, ⟨w, hw, htitle⟩, Json.givenText?_getD_eq_iff.2 hid, rfl⟩

theorem Row.ofJson?_eq_some_iff {r : Row} : Row.ofJson? v = some r ↔ v.GivesRow r := by
  obtain ⟨id, title, description⟩ := r
  simp only [Row.ofJson?, Option.map_eq_some_iff, Json.optionTitle?_eq_some_iff, Row.mk.injEq]
  constructor
  · rintro ⟨title, htitle, hid, rfl, rfl⟩
    exact ⟨htitle, Json.givenText?_getD_eq_iff.1 hid, fun d => Json.givenText?_eq_some_iff⟩
  · rintro ⟨htitle, hid, hdescription⟩
    refine ⟨title, htitle, Json.givenText?_getD_eq_iff.2 hid, rfl, Option.ext fun d => ?_⟩
    exact Json.givenText?_eq_some_iff.trans (hdescription d).symm

theorem Row.ofTitle?_eq_some_iff {r : Row} :
    Row.ofTitle? place v = some r ↔ v.NamesRow place r := by
  obtain ⟨id, title, description⟩ := r
  simp only [Row.ofTitle?, Option.map_eq_some_iff, Json.optionTitle?_eq_some_iff, Row.mk.injEq,
    Option.some.injEq]
  constructor
  · rintro ⟨title, ⟨w, rfl, htitle⟩, rfl, rfl, rfl⟩
    exact ⟨htitle, rfl, rfl⟩
  · rintro ⟨htitle, rfl, rfl⟩
    exact ⟨title, ⟨v, rfl, htitle⟩, rfl, rfl, rfl⟩

theorem Json.rows_inOrder (v : Json) :
    InOrder Nat.lt (fun i r => ∃ w, v.HasItem "rows" i w ∧ w.GivesRow r)
      (((v.field? "rows").map fun rows => rows.items.filterMap Row.ofJson?).getD []) := by
  have hnone (hrows : ∀ items, v.field? "rows" ≠ some (.arr items)) :
      InOrder Nat.lt (fun i r => ∃ w, v.HasItem "rows" i w ∧ w.GivesRow r) [] :=
    InOrder.of_none fun _ _ ⟨_, ⟨items, hitems, _⟩, _⟩ => hrows items hitems
  cases hrows : v.field? "rows" with
  | none => exact hnone (by simp [hrows])
  | some rows =>
    cases rows with
    | arr items =>
      refine (InOrder.filterMap items Row.ofJson?).congr fun i r => ?_
      simp [Json.HasItem, hrows, Row.ofJson?_eq_some_iff]
    | _ => exact hnone (by simp [hrows])

theorem Section.ofJson?_eq_some_iff {s : Section} :
    Section.ofJson? place v = some s ↔ v.GivesSection place s := by
  obtain ⟨title, declared⟩ := s
  have hrows := v.rows_inOrder
  unfold Section.ofJson?
  split
  next hnone =>
    rw [hnone] at hrows
    refine iff_of_false nofun fun h => h.nonempty ?_
    exact hrows.eq_iff.1 h.rows
  next row rows hsome =>
    rw [hsome] at hrows
    simp only [Option.some.injEq, Section.mk.injEq, Json.givenText?_getD_eq_iff]
    constructor
    · rintro ⟨htitle, rfl⟩
      exact ⟨htitle, hrows, List.cons_ne_nil _ _⟩
    · rintro ⟨htitle, hdeclared, -⟩
      exact ⟨htitle, (hrows.eq_iff.1 hdeclared).symm⟩

-- ---------------------------------------------------------------------------
-- Sound options
-- ---------------------------------------------------------------------------

structure Button.Sound (b : Button) : Prop where
  title : IsTitle b.title
  id : Text.isBlank b.id = false

structure Row.Sound (r : Row) : Prop where
  title : IsTitle r.title
  id : Text.isBlank r.id = false
  description : ∀ d, r.description = some d → Text.isBlank d = false

structure Section.Sound (s : Section) : Prop where
  title : Text.isBlank s.title = false
  rows : ∀ r ∈ s.rows, r.Sound
  nonempty : s.rows ≠ []

theorem not_blank_append {s : String} (h : Text.isBlank s = false) (t : String) :
    Text.isBlank (s ++ t) = false := by
  unfold Text.isBlank at h ⊢
  rw [String.toList_append, List.all_append, h, Bool.false_and]

namespace Json

theorem GivesButton.sound {b : Button} (h : v.GivesButton b) : b.Sound := by
  obtain ⟨w, -, htitle, -⟩ := h.title
  exact ⟨htitle, h.id.not_blank htitle.not_blank⟩

theorem GivesRow.sound {r : Row} (h : v.GivesRow r) : r.Sound := by
  obtain ⟨w, -, htitle, -⟩ := h.title
  exact ⟨htitle, h.id.not_blank htitle.not_blank, fun d hd => ((h.description d).1 hd).1⟩

theorem NamesRow.sound {r : Row} (h : v.NamesRow place r) : r.Sound where
  title := h.title.1
  id := h.id ▸ not_blank_append (by decide) _
  description := by simp [h.description]

theorem GivesSection.sound {s : Section} (h : v.GivesSection place s) : s.Sound where
  title := h.title.not_blank (not_blank_append (by decide) _)
  rows r hr := by
    obtain ⟨i, w, -, hw⟩ := h.rows.mem_iff.1 hr
    exact hw.sound
  nonempty := h.nonempty

end Json

-- ---------------------------------------------------------------------------
-- Options written out
-- ---------------------------------------------------------------------------

theorem Json.field?_object_eq_member? (members : List (String × Json)) (name : String) :
    (object members).field? name = member? members name := field?_object members name

theorem Button.ofJson?_toJson {b : Button} (h : b.Sound) : ofJson? b.toJson = some b := by
  have hid : b.toJson.field? "id" = some (.str b.id) := by
    simp [toJson, Json.field?_object_eq_member?]
  have htitle : b.toJson.field? "title" = some (.str b.title) := by
    simp [toJson, Json.field?_object_eq_member?]
  exact ofJson?_eq_some_iff.2
    ⟨⟨_, .inl htitle, Json.entitles_str h.title⟩, .inl (Json.gives_of_field? h.id hid)⟩

theorem Row.ofJson?_toJson {r : Row} (h : r.Sound) : ofJson? r.toJson = some r := by
  have hid : r.toJson.field? "id" = some (.str r.id) := by
    simp [toJson, Json.field?_object_eq_member?]
  have htitle : r.toJson.field? "title" = some (.str r.title) := by
    simp [toJson, Json.field?_object_eq_member?]
  have hdescription : r.toJson.field? "description" = r.description.map Json.str := by
    simp [toJson, Json.field?_object_eq_member?]
  refine ofJson?_eq_some_iff.2
    ⟨⟨_, htitle, Json.entitles_str h.title⟩, .inl (Json.gives_of_field? h.id hid), fun d => ?_⟩
  constructor
  · intro hd
    exact Json.gives_of_field? (h.description d hd) (by rw [hdescription, hd]; rfl)
  · rintro ⟨-, w, hw, hd⟩
    rw [hdescription, Option.map_eq_some_iff] at hw
    obtain ⟨d', hd', rfl⟩ := hw
    simpa [Json.Denotes, hd'] using hd

/-- What is written and read item by item stays as it is. -/
theorem filterMap_map_of_read {α β : Type} {write : α → β} {read : β → Option α} {xs : List α}
    (h : ∀ x ∈ xs, read (write x) = some x) : (xs.map write).filterMap read = xs := by
  have hread : xs.filterMap (read ∘ write) = xs.filterMap some := List.filterMap_congr h
  rw [List.filterMap_map, hread, List.filterMap_some]

theorem Section.ofJson?_toJson {s : Section} (h : s.Sound) (place : ℕ) :
    ofJson? place s.toJson = some s := by
  have hfield : s.toJson.field? "title" = some (.str s.title) := by
    simp [toJson, Json.field?_object_eq_member?]
  have hrows : s.toJson.field? "rows" = some (.arr (s.rows.map Row.toJson)) := by
    simp [toJson, Json.field?_object_eq_member?]
  have hread : (s.rows.map Row.toJson).filterMap Row.ofJson? = s.rows :=
    filterMap_map_of_read fun r hr => Row.ofJson?_toJson (h.rows r hr)
  have hplaces := s.toJson.rows_inOrder
  rw [hrows, Option.map_some, Option.getD_some, Json.items_arr, hread] at hplaces
  exact ofJson?_eq_some_iff.2
    ⟨.inl (Json.gives_of_field? h.title hfield), hplaces, h.nonempty⟩

-- ---------------------------------------------------------------------------
-- What a node offers
-- ---------------------------------------------------------------------------

namespace Node

variable {n : Node} {bs : List Button} {ss : List Section}

/-- A list in the data has the item at a place. -/
def HasItem (n : Node) (name : String) (i : ℕ) (v : Json) : Prop :=
  ∃ items, n.field? name = some (.arr items) ∧ items[i]? = some v

def GivesButton (n : Node) (i : ℕ) (b : Button) : Prop :=
  ∃ v, n.HasItem "buttons" i v ∧ v.GivesButton b

/-- The section of a node that only names its options. -/
structure NamesSection (n : Node) (s : Section) : Prop where
  bare : ∀ items, n.field? "sections" ≠ some (.arr items)
  title : s.title = "Opciones"
  rows : InOrder Nat.lt (fun i r => ∃ v, n.HasItem "options" i v ∧ v.NamesRow i r) s.rows
  nonempty : s.rows ≠ []

def GivesSection (n : Node) (i : ℕ) (s : Section) : Prop :=
  (∃ v, n.HasItem "sections" i v ∧ v.GivesSection i s) ∨ i = 0 ∧ n.NamesSection s

theorem GivesButton.sound {i : ℕ} {b : Button} (h : n.GivesButton i b) : b.Sound := by
  obtain ⟨v, -, hv⟩ := h
  exact hv.sound

theorem GivesSection.sound {i : ℕ} {s : Section} (h : n.GivesSection i s) : s.Sound := by
  rcases h with ⟨v, -, hv⟩ | ⟨-, hnames⟩
  · exact hv.sound
  · refine ⟨hnames.title ▸ by decide, fun r hr => ?_, hnames.nonempty⟩
    obtain ⟨j, v, -, hv⟩ := hnames.rows.mem_iff.1 hr
    exact hv.sound

theorem buttons_inOrder (n : Node) : InOrder Nat.lt n.GivesButton n.buttons := by
  unfold buttons
  split
  next items hitems =>
    refine (InOrder.filterMap items Button.ofJson?).congr fun i b => ?_
    simp [GivesButton, HasItem, hitems, Button.ofJson?_eq_some_iff]
  next hnone =>
    exact InOrder.of_none fun i b ⟨v, ⟨items, hitems, _⟩, _⟩ => hnone items hitems

theorem usable_inOrder {α : Type} (read : ℕ → Json → Option α) (items : List Json) :
    InOrder Nat.lt (fun i x => ∃ v, items[i]? = some v ∧ read i v = some x) (usable read items) :=
  InOrder.filterMap_zipIdx items read

theorem usable_map_of_read {α : Type} {write : α → Json} {read : ℕ → Json → Option α}
    {xs : List α} (h : ∀ x ∈ xs, ∀ place, read place (write x) = some x) :
    usable read (xs.map write) = xs :=
  calc usable read (xs.map write)
      = xs.zipIdx.filterMap fun p => read p.2 (write p.1) := by
        rw [usable, List.zipIdx_map, List.filterMap_map]
        rfl
    _ = xs.zipIdx.filterMap fun p => some p.1 :=
        List.filterMap_congr fun p hp => h p.1 (List.fst_mem_of_mem_zipIdx hp) p.2
    _ = xs := by rw [List.filterMap_eq_map', List.zipIdx_map_fst]

/-- The rows of the options that are only named. -/
theorem named_inOrder {items : List Json} (h : n.field? "options" = some (.arr items)) :
    InOrder Nat.lt (fun i r => ∃ v, n.HasItem "options" i v ∧ v.NamesRow i r)
      (usable Row.ofTitle? items) := by
  refine (usable_inOrder Row.ofTitle? items).congr fun i r => ?_
  simp [HasItem, h, Row.ofTitle?_eq_some_iff]

theorem sections_inOrder (n : Node) : InOrder Nat.lt n.GivesSection n.sections := by
  unfold sections
  split
  next items hitems =>
    have hdeclared (s : Section) : ¬ n.NamesSection s := fun h => h.bare items hitems
    refine (usable_inOrder Section.ofJson? items).congr fun i s => ?_
    simp [GivesSection, HasItem, hitems, hdeclared, Section.ofJson?_eq_some_iff]
  next hbare =>
    have hnames (i : ℕ) (s : Section) : i = 0 ∧ n.NamesSection s ↔ n.GivesSection i s :=
      ⟨.inr, fun h => h.resolve_left fun ⟨_, ⟨items, hitems, _⟩, _⟩ => hbare items hitems⟩
    refine InOrder.congr ?_ hnames
    split
    next items hitems =>
      have hrows := n.named_inOrder hitems
      split
      next hnil =>
        rw [hnil] at hrows
        exact InOrder.of_none fun _ s ⟨_, hs⟩ => hs.nonempty (hrows.eq_iff.1 hs.rows)
      next row rows hcons =>
        rw [hcons] at hrows
        refine (InOrder.singleton _).congr fun i s => and_congr_right fun _ => ?_
        constructor
        · rintro rfl
          exact ⟨hbare, rfl, hrows, List.cons_ne_nil _ _⟩
        · intro hs
          obtain ⟨title, named⟩ := s
          obtain rfl : title = "Opciones" := hs.title
          obtain rfl : named = row :: rows := hrows.eq_iff.1 hs.rows
          rfl
    next hoptions =>
      refine InOrder.of_none fun _ s ⟨_, hs⟩ => ?_
      obtain ⟨r, hr⟩ := List.exists_mem_of_ne_nil _ hs.nonempty
      obtain ⟨_, _, ⟨items, hitems, _⟩, _⟩ := hs.rows.mem_iff.1 hr
      exact hoptions items hitems

-- ---------------------------------------------------------------------------
-- Nodes written anew
-- ---------------------------------------------------------------------------

/-- The node with a list of buttons in its data. -/
def withButtons (n : Node) (bs : List Button) : Node :=
  { n with data := n.data.set "buttons" (.arr (bs.map Button.toJson)) }

/-- The node with a list of sections in its data. -/
def withSections (n : Node) (ss : List Section) : Node :=
  { n with data := n.data.set "sections" (.arr (ss.map Section.toJson)) }

theorem buttons_withButtons (n : Node) (h : ∀ b ∈ bs, b.Sound) :
    (n.withButtons bs).buttons = bs := by
  have hfield : (n.withButtons bs).field? "buttons" = some (.arr (bs.map Button.toJson)) :=
    Dictionary.value?_set_self ..
  rw [buttons, hfield]
  exact filterMap_map_of_read fun b hb => Button.ofJson?_toJson (h b hb)

theorem sections_withSections (n : Node) (h : ∀ s ∈ ss, s.Sound) :
    (n.withSections ss).sections = ss := by
  have hfield : (n.withSections ss).field? "sections" = some (.arr (ss.map Section.toJson)) :=
    Dictionary.value?_set_self ..
  rw [sections, hfield]
  exact usable_map_of_read fun s hs place => Section.ofJson?_toJson (h s hs) place

/-- Other members are as they were. -/
theorem sections_withButtons (n : Node) (bs : List Button) :
    (n.withButtons bs).sections = n.sections := by
  have hfield {name : String} (hname : "buttons" ≠ name) :
      (n.withButtons bs).field? name = n.field? name := Dictionary.value?_set_of_ne _ _ hname
  rw [sections, sections, hfield (by decide), hfield (by decide)]

theorem buttons_withSections (n : Node) (ss : List Section) :
    (n.withSections ss).buttons = n.buttons := by
  have hfield : (n.withSections ss).field? "buttons" = n.field? "buttons" :=
    Dictionary.value?_set_of_ne _ _ (by decide)
  rw [buttons, buttons, hfield]

/-- A node offers sound options in the order in which they are declared. Whatever node these are
written into offers them again, and what it offers beside them stays the same. -/
theorem offers_sound_options (n : Node) :
    (InOrder Nat.lt n.GivesButton n.buttons ∧ ∀ b ∈ n.buttons, b.Sound) ∧
      (InOrder Nat.lt n.GivesSection n.sections ∧ ∀ s ∈ n.sections, s.Sound) ∧
      (∀ m : Node, (m.withButtons n.buttons).buttons = n.buttons ∧
        (m.withButtons n.buttons).sections = m.sections) ∧
      ∀ m : Node, (m.withSections n.sections).sections = n.sections ∧
        (m.withSections n.sections).buttons = m.buttons := by
  have hbuttons : ∀ b ∈ n.buttons, b.Sound := fun b hb =>
    let ⟨_, hi⟩ := n.buttons_inOrder.mem_iff.1 hb
    hi.sound
  have hsections : ∀ s ∈ n.sections, s.Sound := fun s hs =>
    let ⟨_, hi⟩ := n.sections_inOrder.mem_iff.1 hs
    hi.sound
  exact ⟨⟨n.buttons_inOrder, hbuttons⟩, ⟨n.sections_inOrder, hsections⟩,
    fun m => ⟨m.buttons_withButtons hbuttons, m.sections_withButtons _⟩,
    fun m => ⟨m.sections_withSections hsections, m.buttons_withSections _⟩⟩

example : (⟨"menu", .list, .ofList [("options", .arr [.str " Ventas ", .str "", .ofInt 5])]⟩ :
    Node).sections = [⟨"Opciones", [⟨"option_0", "Ventas", none⟩, ⟨"option_2", "5", none⟩]⟩] := by
  decide +kernel

end Node

end Switchboard
