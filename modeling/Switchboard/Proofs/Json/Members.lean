import Switchboard.Inbound.Payload

/-!
# Members of objects

What is written into an object is what is read from it: of the members with a name the last one
(`field?_object`). Payloads are written by one part of the service and read by another, and these
laws are what the two agree on.
-/

namespace Switchboard

namespace Json

@[simp] theorem text?_str (s : String) : (str s).text? = some s := rfl

@[simp] theorem items_arr (items : List Json) : (arr items).items = items := rfl

@[simp] theorem items_null : null.items = [] := rfl

theorem lookup_eq_find? {α : Type} (members : List (String × α)) (name : String) :
    members.lookup name = (members.find? fun m => m.1 == name).map Prod.snd := by
  induction members with
  | nil => rfl
  | cons m members ih =>
    rw [List.lookup_cons, List.find?_cons, ih, BEq.comm]
    cases m.1 == name <;> rfl

theorem find?_foldl_insertAscending (members before : List (String × Json)) (name : String) :
    (members.foldl (fun ms m => Catalog.insertAscending Prod.fst m ms) before).find?
        (fun m => m.1 == name) =
      (members.reverse.find? fun m => m.1 == name).or (before.find? fun m => m.1 == name) := by
  induction members generalizing before with
  | nil => rfl
  | cons m members ih =>
    rw [List.foldl_cons, ih, List.reverse_cons, List.find?_append, Option.or_assoc]
    by_cases h : m.1 = name
    · subst h
      rw [Catalog.find?_insertAscending_self]
      simp
    · rw [Catalog.find?_insertAscending_of_ne h]
      simp [h]

/-- Of the members with one name the last counts. -/
theorem field?_object (members : List (String × Json)) (name : String) :
    (object members).field? name =
      (members.reverse.find? fun m => m.1 == name).map Prod.snd := by
  show (members.foldl (fun ms m => Catalog.insertAscending Prod.fst m ms) []).lookup name = _
  rw [lookup_eq_find?, find?_foldl_insertAscending, List.find?_nil, Option.or_none]

end Json

namespace Inbound

theorem partOf_object (members : List (String × Json)) (name : String) :
    partOf (Json.object members) name =
      ((members.reverse.find? fun m => m.1 == name).map Prod.snd).getD .null := by
  rw [partOf, Json.field?_object]

theorem textAtOr_object (members : List (String × Json)) (name fallback : String) :
    textAtOr (Json.object members) [name] fallback =
      (((members.reverse.find? fun m => m.1 == name).map Prod.snd).bind Json.text?).getD
        fallback := by
  rw [textAtOr, textAt?, Json.at?, Json.field?_object]
  cases (members.reverse.find? fun m => m.1 == name).map Prod.snd <;> rfl

@[simp] theorem items_arr (items : List Json) : (Json.arr items).items = items := rfl

theorem textAt?_of_field? {v w : Json} {name : String} (h : v.field? name = some w)
    (path : List String) : textAt? v (name :: path) = textAt? w path := by
  rw [textAt?, Json.at?, h]
  rfl

/-- A text that is found is found in a member. -/
theorem field?_of_textAt? {v : Json} {name s : String} {path : List String}
    (h : textAt? v (name :: path) = some s) :
    ∃ w, v.field? name = some w ∧ textAt? w path = some s := by
  cases hv : v.field? name with
  | none =>
    rw [textAt?, Json.at?, hv] at h
    cases h
  | some w => exact ⟨w, rfl, (textAt?_of_field? hv path).symm.trans h⟩

end Inbound

end Switchboard
