import Mathlib.Data.Set.Function
import Switchboard.Desk.Identity
import Switchboard.Proofs.Lists

/-!
# Keys of senders

Telephone numbers and the addresses of all platforms share one space of keys, and an address may be
any text, also one that looks like a key. All the same a key tells its senders: two senders have one
key if they are one sender, or write from one telephone number (`contactKey_eq_iff`). So their cards
get different ids, unless the digest takes two keys to one id (`ids_tell_senders`).
-/

namespace Switchboard

variable {p q : Platform} {e e' : String}

-- ---------------------------------------------------------------------------
-- Marked words
-- ---------------------------------------------------------------------------

theorem Platform.mark_notMem_name (p : Platform) : ':' ∉ p.name.toList := by
  cases p <;> decide

theorem word_eq_of_marked {a b x y : String} (ha : ':' ∉ a.toList) (hb : ':' ∉ b.toList)
    (h : a ++ ":" ++ x = b ++ ":" ++ y) : a = b ∧ x = y := by
  have hlist : a.toList ++ ':' :: x.toList = b.toList ++ ':' :: y.toList := by
    simpa using congrArg String.toList h
  obtain ⟨hword, hrest⟩ := append_mark_inj ha hb hlist
  exact ⟨String.toList_inj.1 hword, String.toList_inj.1 hrest⟩

-- ---------------------------------------------------------------------------
-- One key
-- ---------------------------------------------------------------------------

/-- Two senders who are one, or who write from one telephone number, however it is written. -/
def SameSender (p : Platform) (e : String) (q : Platform) (e' : String) : Prop :=
  (p = q ∧ e = e') ∨
    (p.usesPhone = true ∧ q.usesPhone = true ∧ phoneDigits e ≠ "" ∧ phoneDigits e = phoneDigits e')

theorem contactKey_of_digits (hp : p.usesPhone = true) (hd : phoneDigits e ≠ "") :
    contactKey p e = "phone" ++ ":" ++ phoneDigits e := by
  simp only [contactKey, hp, String.isEmpty_eq_false_iff.2 hd, Bool.not_false, Bool.and_true,
    if_true]
  rfl

/-- The key of a sender is made of the digits of their number, or else of what the sender is. -/
theorem contactKey_cases (p : Platform) (e : String) :
    (p.usesPhone = true ∧ phoneDigits e ≠ "" ∧
      contactKey p e = "phone" ++ ":" ++ phoneDigits e) ∨ contactKey p e = p.name ++ ":" ++ e := by
  by_cases h : (p.usesPhone && !(phoneDigits e).isEmpty) = true
  · obtain ⟨hp, hd⟩ : p.usesPhone = true ∧ phoneDigits e ≠ "" := by simpa using h
    exact .inl ⟨hp, hd, contactKey_of_digits hp hd⟩
  · exact .inr (by simp only [contactKey, if_neg h])

theorem sameSender_of_contactKey (h : contactKey p e = contactKey q e') : SameSender p e q e' := by
  -- the word before the mark is the name of a platform, or one that no platform has for its name
  have hphone : ∀ r : Platform, "phone" ≠ r.name := fun r => by cases r <;> decide
  have hmark : ':' ∉ "phone".toList := by decide
  rcases contactKey_cases p e with ⟨hp, hd, hk⟩ | hk <;>
    rcases contactKey_cases q e' with ⟨hq, hd', hk'⟩ | hk' <;> rw [hk, hk'] at h
  · obtain ⟨-, hdigits⟩ := word_eq_of_marked hmark hmark h
    exact .inr ⟨hp, hq, hd, hdigits⟩
  · exact absurd (word_eq_of_marked hmark q.mark_notMem_name h).1 (hphone q)
  · exact absurd (word_eq_of_marked p.mark_notMem_name hmark h).1.symm (hphone p)
  · obtain ⟨hname, he⟩ := word_eq_of_marked p.mark_notMem_name q.mark_notMem_name h
    exact .inl ⟨Platform.name_injective hname, he⟩

theorem contactKey_eq_iff : contactKey p e = contactKey q e' ↔ SameSender p e q e' := by
  refine ⟨sameSender_of_contactKey, ?_⟩
  rintro (⟨rfl, rfl⟩ | ⟨hp, hq, hd, hdigits⟩)
  · rfl
  · rw [contactKey_of_digits hp hd, contactKey_of_digits hq (hdigits ▸ hd), hdigits]

-- ---------------------------------------------------------------------------
-- Ids of cards
-- ---------------------------------------------------------------------------

/-- Senders have one key if and only if they are the same, and if the digest keeps their keys apart
this is also when their cards get one id. -/
theorem ids_tell_senders (p q : Platform) (e e' : String) :
    (contactKey p e = contactKey q e' ↔ SameSender p e q e') ∧
    (Set.InjOn Digest.nameId {contactKey p e, contactKey q e'} →
      (contactCardId p e = contactCardId q e' ↔ SameSender p e q e')) := by
  refine ⟨contactKey_eq_iff, fun hdigest => ?_⟩
  rw [← contactKey_eq_iff]
  exact hdigest.eq_iff (Set.mem_insert _ _) (Set.mem_insert_of_mem _ rfl)

/-- A handle that is spelled like the key of a telephone number is not the sender with this number,
but the number is one sender on all platforms that use numbers. -/
theorem ids_tell_senders_lookalike :
    Set.InjOn Digest.nameId {contactKey .x "phone:5255", contactKey .sms "5255"} ∧
      contactCardId .x "phone:5255" ≠ contactCardId .sms "5255" ∧
      contactCardId .whatsApp "+52 55" = contactCardId .sms "5255" := by
  have happart :
      Digest.nameId (contactKey .x "phone:5255") ≠ Digest.nameId (contactKey .sms "5255") := by
    decide +kernel
  have hdigest : Set.InjOn Digest.nameId {contactKey .x "phone:5255", contactKey .sms "5255"} := by
    rintro a (rfl | rfl) b (rfl | rfl) hab
    · rfl
    · exact absurd hab happart
    · exact absurd hab.symm happart
    · rfl
  have hkey : contactKey .whatsApp "+52 55" = contactKey .sms "5255" := by decide
  have hone : Set.InjOn Digest.nameId {contactKey .whatsApp "+52 55", contactKey .sms "5255"} := by
    rw [hkey, Set.pair_eq_singleton]
    exact Set.injOn_singleton _ _
  have hother : ¬ SameSender .x "phone:5255" .sms "5255" := by
    rintro (⟨hp, -⟩ | ⟨hp, -⟩) <;> cases hp
  refine ⟨hdigest, fun hid => ?_, ?_⟩
  · exact hother (((ids_tell_senders .x .sms "phone:5255" "5255").2 hdigest).1 hid)
  · exact ((ids_tell_senders .whatsApp .sms "+52 55" "5255").2 hone).2
      (.inr ⟨rfl, rfl, by decide, by decide⟩)

end Switchboard
