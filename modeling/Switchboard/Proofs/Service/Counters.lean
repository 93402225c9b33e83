import Mathlib.Algebra.GroupWithZero.Nat
import Switchboard.Proofs.Desk.Contacts
import Switchboard.World

/-!
# Counters

A counter shows a number for each of its labels. The number under a label is how often that label was
counted (`Count.shown_label`), and the numbers of a counter together are how often anything was
counted under its name (`Count.total_eq_countP`).
-/

namespace Switchboard

-- ---------------------------------------------------------------------------
-- Sums over catalogs
-- ---------------------------------------------------------------------------

namespace Catalog

variable {α : Type} {key : α → String}

theorem find?_eq_none_of_lt {x y : α} {ys : List α}
    (h : (y :: ys).Pairwise fun a b => key a < key b) (hlt : key x < key y) :
    (y :: ys).find? (fun z => key z == key x) = none := by
  refine List.find?_eq_none.2 fun z hz => ?_
  have hxz : key x < key z := by
    rcases List.mem_cons.1 hz with rfl | hz
    · exact hlt
    · exact String.lt_trans hlt ((List.pairwise_cons.1 h).1 z hz)
  simpa using fun heq : key z = key x => String.lt_irrefl _ (heq ▸ hxz)

theorem sum_insertAscending (f : α → Nat) (x : α) {ys : List α}
    (h : ys.Pairwise fun a b => key a < key b) :
    ((insertAscending key x ys).map f).sum +
        ((ys.find? fun y => key y == key x).map f).getD 0 = (ys.map f).sum + f x := by
  induction ys with
  | nil => simp [insertAscending]
  | cons y ys ih =>
    unfold insertAscending
    split
    next hlt =>
      rw [find?_eq_none_of_lt h hlt]
      simp [Nat.add_comm]
    next =>
      split
      next heq =>
        simp [heq, Nat.add_comm, Nat.add_left_comm]
      next hne =>
        have hskip : (key y == key x) = false := beq_eq_false_iff_ne.2 (Ne.symm hne)
        have hrest := ih h.of_cons
        simp only [List.map_cons, List.sum_cons, List.find?_cons, hskip] at hrest ⊢
        omega

/-- A member that is put adds its own share to a sum, and the one that gives way takes its share
away. -/
theorem sum_put (c : Catalog α key) (f : α → Nat) (x : α) :
    ((c.put x).items.map f).sum + ((c.get? (key x)).map f).getD 0 = (c.items.map f).sum + f x :=
  sum_insertAscending f x c.ascending

/-- What is told of each member by its key is told of all of them in their order. -/
theorem map_items_eq {β : Type} {c d : Catalog α key} (f : α → β)
    (h : ∀ k, (d.get? k).map f = (c.get? k).map f) : d.items.map f = c.items.map f := by
  -- the catalogs of what is told are known by what they answer
  have hascending : ∀ e : Catalog α key,
      (e.items.map fun x => (key x, f x)).Pairwise fun a b => a.1 < b.1 := fun e =>
    List.pairwise_map.2 e.ascending
  have hfind : ∀ (e : Catalog α key) (k : String),
      (e.items.map fun x => (key x, f x)).find? (fun y => y.1 == k) =
        ((e.get? k).map f).map fun b => (k, b) := by
    intro e k
    have htest : ((fun y : String × β => y.1 == k) ∘ fun x => (key x, f x)) =
      fun x => key x == k := rfl
    rw [List.find?_map, htest, get?]
    cases hx : e.items.find? fun x => key x == k with
    | none => rfl
    | some x =>
      have hk : key x = k := by simpa using List.find?_some hx
      simp only [Option.map_some, hk]
  have hpairs := items_eq_of_find? (hascending d) (hascending c) fun k => by
    rw [hfind, hfind, h]
  have hsnd := congrArg (List.map Prod.snd) hpairs
  rwa [List.map_map, List.map_map] at hsnd

end Catalog

-- ---------------------------------------------------------------------------
-- What the counters show
-- ---------------------------------------------------------------------------

namespace Count

/-- The numbers under the labels that satisfy a test, together. -/
def sumOver (test : String → Bool) (d : Dictionary Nat) : Nat :=
  (d.items.map fun x => if test x.1 then x.2 else 0).sum

theorem sumOver_set (test : String → Bool) (d : Dictionary Nat) (name : String) :
    sumOver test (d.set name ((d.value? name).getD 0 + 1)) =
      sumOver test d + if test name then 1 else 0 := by
  have h := Catalog.sum_put d (fun x => if test x.1 then x.2 else 0)
    (name, (d.value? name).getD 0 + 1)
  have hold : ((Catalog.get? d name).map fun x => if test x.1 then x.2 else 0).getD 0 =
      if test name then (d.value? name).getD 0 else 0 := by
    unfold Dictionary.value?
    cases hx : Catalog.get? d name with
    | none => simp
    | some x =>
      obtain rfl : x.1 = name := Catalog.key_of_get? hx
      simp
  simp only [sumOver, Dictionary.set]
  dsimp only at h
  rw [hold] at h
  cases htest : test name <;> simp only [htest, Bool.false_eq_true, if_true, if_false] at h ⊢ <;> omega

/-- All that is counted under labels that satisfy a test. -/
theorem sumOver_totals (test : String → Bool) (counts : List Count) :
    sumOver test (totals counts) = counts.countP fun c => test c.label := by
  have hfold : ∀ (counts : List Count) (d : Dictionary Nat),
      sumOver test (counts.foldl
        (fun d c => d.set c.label ((d.value? c.label).getD 0 + 1)) d) =
        sumOver test d + counts.countP fun c => test c.label := by
    intro counts
    induction counts with
    | nil => exact fun _ => rfl
    | cons c counts ih =>
      intro d
      rw [List.foldl_cons, ih, sumOver_set, List.countP_cons]
      omega
  exact (hfold counts Catalog.empty).trans (Nat.zero_add _)

/-- The number under a label. -/
def shown (counts : List Count) (label : String) : Nat := ((totals counts).value? label).getD 0

/-- The name of the counter that a label belongs to. -/
def counterOf (label : String) : String := String.ofList (label.toList.takeWhile (· != '\x7b'))

/-- The numbers of a counter, under all of its labels. -/
def total (counts : List Count) (counter : String) : Nat :=
  sumOver (fun label => counterOf label == counter) (totals counts)

theorem shown_eq_countP (counts : List Count) (label : String) :
    shown counts label = counts.countP fun c => c.label == label := by
  have hfold : ∀ (counts : List Count) (d : Dictionary Nat),
      ((counts.foldl (fun d c => d.set c.label ((d.value? c.label).getD 0 + 1)) d).value?
        label).getD 0 = (d.value? label).getD 0 + counts.countP fun c => c.label == label := by
    intro counts
    induction counts with
    | nil => exact fun _ => rfl
    | cons c counts ih =>
      intro d
      rw [List.foldl_cons, ih, List.countP_cons, Dictionary.value?_set]
      by_cases hc : c.label = label
      · simp only [hc, if_true, Option.getD_some, beq_self_eq_true]
        omega
      · simp [hc]
  exact (hfold counts Catalog.empty).trans (Nat.zero_add _)

/-- The name of the counter that something is counted under. -/
def counter : Count → String
  | ingressed _ => "hub_messages_ingressed_total"
  | cardCreated _ => "hub_cards_created_total"
  | botStep _ => "hub_bot_steps_total"
  | botTurn _ => "hub_bot_turns_total"
  | deliveryFailed _ => "hub_adapter_errors_total"

theorem counterOf_labelled {name : String} (h : name.toList.all (· != '\x7b') = true)
    (label value : String) : counterOf (labelled name label value) = name := by
  have hbrace : "\x7b".toList = ['\x7b'] := by decide
  unfold counterOf labelled
  simp only [String.toList_append, hbrace, List.append_assoc, List.singleton_append]
  rw [List.takeWhile_append_of_pos (List.all_eq_true.1 h)]
  simp

theorem counterOf_label (c : Count) : counterOf c.label = c.counter := by
  cases c <;> exact counterOf_labelled (by decide) _ _

theorem total_eq_countP (counts : List Count) (counter : String) :
    total counts counter = counts.countP fun c => c.counter == counter := by
  unfold total
  rw [sumOver_totals]
  simp only [counterOf_label]

theorem labelled_inj {name label value value' : String}
    (h : labelled name label value = labelled name label value') : value = value' := by
  unfold labelled at h
  have hlist := congrArg String.toList h
  simp only [String.toList_append, List.append_assoc, List.append_cancel_left_eq,
    List.append_cancel_right_eq] at hlist
  exact String.toList_inj.1 hlist

theorem label_injective {c c' : Count} (h : c.label = c'.label) : c = c' := by
  have hcounter : c.counter = c'.counter := by rw [← counterOf_label, ← counterOf_label, h]
  cases c with
  | ingressed p =>
    cases c' with
    | ingressed q => rw [Platform.name_injective (labelled_inj h)]
    | _ => simp [counter] at hcounter
  | cardCreated p =>
    cases c' with
    | cardCreated q => rw [Platform.name_injective (labelled_inj h)]
    | _ => simp [counter] at hcounter
  | botStep kind =>
    cases c' with
    | botStep kind' =>
      have hname : kind.name = kind'.name := labelled_inj h
      rw [← kind.ofName_name, hname, kind'.ofName_name]
    | _ => simp [counter] at hcounter
  | botTurn outcome =>
    cases c' with
    | botTurn outcome' => rw [labelled_inj h]
    | _ => simp [counter] at hcounter
  | deliveryFailed p =>
    cases c' with
    | deliveryFailed q => rw [Platform.name_injective (labelled_inj h)]
    | _ => simp [counter] at hcounter

/-- The number under a label is how often it was counted. -/
theorem shown_label (counts : List Count) (c : Count) : shown counts c.label = counts.count c := by
  rw [shown_eq_countP, List.count]
  refine List.countP_congr fun x _ => ?_
  simp only [beq_iff_eq]
  exact ⟨label_injective, congrArg label⟩

end Count

end Switchboard
