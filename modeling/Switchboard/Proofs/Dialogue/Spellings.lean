import Switchboard.Proofs.Dialogue.Placeholders

/-!
# Spellings of a name

A placeholder names a value in any case, while values are kept under names as they are written. Of
several spellings of one name the first in order is shown (`fill_plain`). That is the spelling in
the placeholder itself if there is no other before it (`FirstSpelling.eq_of_none_before`).
-/

namespace Switchboard

namespace Dictionary

/-- Of the spellings of a name under which there is a value the first, with this value. -/
structure FirstSpelling (d : Dictionary String) (name spelling value : String) : Prop where
  kept : d.value? spelling = some value
  alike : Text.eqIgnoreAsciiCase spelling name = true
  first : ∀ other, (d.value? other).isSome → Text.eqIgnoreAsciiCase other name = true →
    spelling ≤ other

variable {β : Type} {d : Dictionary String} {name spelling value : String}

theorem mem_items_of_value? {d : Dictionary β} {value : β} (h : d.value? name = some value) :
    (name, value) ∈ d.items := by
  obtain ⟨⟨key, _⟩, hget, rfl⟩ := Option.map_eq_some_iff.1 h
  obtain rfl : key = name := Catalog.key_of_get? hget
  exact Catalog.mem_items_iff.2 hget

theorem value?_of_mem_items {d : Dictionary β} {value : β} (h : (name, value) ∈ d.items) :
    d.value? name = some value := by
  rw [value?, Catalog.mem_items_iff.1 h, Option.map_some]

/-- What is found first under any spelling of a name is kept under its first spelling. -/
theorem firstSpelling_of_find?
    (h : (d.items.find? fun field => Text.eqIgnoreAsciiCase field.1 name) =
      some (spelling, value)) : d.FirstSpelling name spelling value := by
  obtain ⟨halike, front, back, hitems, hfront⟩ := List.find?_eq_some_iff_append.1 h
  refine ⟨value?_of_mem_items (List.mem_of_find?_eq_some h), halike, fun other hother hname => ?_⟩
  obtain ⟨kept, hkept⟩ := Option.isSome_iff_exists.1 hother
  have hascending := d.ascending
  have hmem := mem_items_of_value? hkept
  rw [hitems] at hascending hmem
  rcases List.mem_append.1 hmem with hmem | hmem
  · have hunlike := hfront _ hmem
    rw [hname] at hunlike
    cases hunlike
  · rcases List.mem_cons.1 hmem with heq | hmem
    · obtain rfl := (Prod.mk.inj heq).1
      exact String.le_refl _
    · have hbehind := (List.pairwise_cons.1 (List.pairwise_append.1 hascending).2.1).1 _ hmem
      exact Std.le_of_lt hbehind

theorem exists_firstSpelling (h : (d.value? name).isSome) :
    ∃ spelling value, (d.items.find? fun field => Text.eqIgnoreAsciiCase field.1 name) =
        some (spelling, value) ∧
      d.FirstSpelling name spelling value := by
  obtain ⟨value, hvalue⟩ := Option.isSome_iff_exists.1 h
  cases hfind : d.items.find? fun field => Text.eqIgnoreAsciiCase field.1 name with
  | none =>
    have hunlike := List.find?_eq_none.1 hfind _ (mem_items_of_value? hvalue)
    exact absurd (beq_self_eq_true (Text.lowerAscii name)) hunlike
  | some field => exact ⟨field.1, field.2, rfl, firstSpelling_of_find? hfind⟩

/-- Where no other spelling comes before a name as it is written, this is the first spelling. -/
theorem FirstSpelling.eq_of_none_before (h : d.FirstSpelling name spelling value)
    (hname : (d.value? name).isSome)
    (hnone : ∀ other, other < name → Text.eqIgnoreAsciiCase other name = true →
      d.value? other = none) : spelling = name := by
  have hle : spelling ≤ name := h.first name hname (beq_self_eq_true (Text.lowerAscii name))
  refine String.le_antisymm hle fun hlt => ?_
  have hvacant := hnone spelling hlt h.alike
  rw [h.kept] at hvacant
  cases hvacant

end Dictionary

namespace Placeholder

/-- The placeholders of a name without blanks. -/
def plain (name : String) : List String :=
  ["\x7b\x7b" ++ name ++ "\x7d\x7d", "\x7b" ++ name ++ "\x7d"]

theorem spells_of_mem_plain {name text : String} (hne : name ≠ "")
    (hname : ∀ c ∈ name.toList, isNameChar c = true) (h : text ∈ plain name) :
    ∃ start closing, Spells name.toList start closing ∧ text.toList = start ++ closing := by
  have hspells : ∀ opening ∈ openings, ∀ closing ∈ closings,
      Spells name.toList (opening ++ [] ++ name.toList ++ []) closing := by
    intro opening hopening closing hclosing
    have hchars : name.toList ≠ [] := fun hnil => hne (String.toList_eq_nil_iff.1 hnil)
    exact .intro hopening (fun _ hc => nomatch hc) hchars hname (fun _ hc => nomatch hc) hclosing
  simp only [plain, List.mem_cons, List.not_mem_nil, or_false] at h
  rcases h with rfl | rfl
  · exact ⟨_, _, hspells ['\x7b', '\x7b'] (List.mem_cons_of_mem _ List.mem_cons_self)
      ['\x7d', '\x7d'] (List.mem_cons_of_mem _ List.mem_cons_self), by simp⟩
  · exact ⟨_, _, hspells ['\x7b'] List.mem_cons_self ['\x7d'] List.mem_cons_self, by simp⟩

end Placeholder

namespace Fillings

open Placeholder

variable {f : Fillings} {name value : String}

theorem fill_of_mem_plain {text : String} (hne : name ≠ "")
    (hname : ∀ c ∈ name.toList, isNameChar c = true) (h : text ∈ plain name)
    (hvalue : f.value? name = some value) : f.fill text = value := by
  obtain ⟨start, closing, hspells, htext⟩ := spells_of_mem_plain hne hname h
  have hstart : atStart? (start ++ closing ++ []) = some (name.toList, []) :=
    atStart?_of_spells hspells fun hnil => nomatch hnil
  rw [List.append_nil, ← htext] at hstart
  rw [← String.ofList_toList (s := text)]
  exact fill_hole hstart (by rw [String.ofList_toList, hvalue])

/-- In the place of a name under which there is a value the one of its first spelling is shown. -/
theorem fill_plain (hne : name ≠ "") (hname : ∀ c ∈ name.toList, isNameChar c = true)
    (hkept : (f.fields.value? name).isSome) :
    ∃ spelling shown, f.fields.FirstSpelling name spelling shown ∧
      ∀ text ∈ plain name, f.fill text = shown := by
  obtain ⟨spelling, shown, hfind, hfirst⟩ := Dictionary.exists_firstSpelling hkept
  refine ⟨spelling, shown, hfirst, fun text htext => fill_of_mem_plain hne hname htext ?_⟩
  rw [value?, hfind]

end Fillings

end Switchboard
