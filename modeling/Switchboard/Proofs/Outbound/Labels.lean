import Switchboard.Outbound.Telegram

/-!
# Labels cut to the room there is

Platforms take labels of so many characters, or data of so many bytes, and what is longer is cut.
A cut text is the longest start of the whole that fits (`LongestStart`), be it measured in
characters (`longestStart_takeChars`) or in bytes, where a character goes out whole or not at all
(`longestStart_takeBytes`).
-/

namespace Switchboard

/-- A text is the longest start of another that fits. -/
structure Text.LongestStart (fits : String → Prop) (whole start : String) : Prop where
  starts : start.toList <+: whole.toList
  fit : fits start
  longest : ∀ other : String, other.toList <+: whole.toList → fits other →
    other.toList <+: start.toList

/-- A text is another one cut to so many characters. -/
abbrev Text.CutTo (max : Nat) (whole start : String) : Prop :=
  Text.LongestStart (fun s => s.length ≤ max) whole start

theorem Text.longestStart_takeChars (s : String) (max : Nat) :
    Text.CutTo max s (Text.takeChars s max) where
  starts := by
    rw [takeChars, String.toList_ofList]
    exact List.take_prefix max s.toList
  fit := by
    rw [takeChars, String.length_ofList, List.length_take]
    exact Nat.min_le_left ..
  longest := by
    intro other hstart hfits
    rw [takeChars, String.toList_ofList, List.prefix_take_iff]
    exact ⟨hstart, by rwa [String.length_toList]⟩

namespace Outbound.Telegram

variable {room : Nat} {cs start : List Char}

theorem takeBytes_leads (room : Nat) (cs : List Char) : takeBytes room cs <+: cs := by
  induction cs generalizing room with
  | nil => exact List.prefix_refl _
  | cons c cs ih =>
    rw [takeBytes]
    split
    · exact (List.prefix_cons_inj c).2 (ih _)
    · exact List.nil_prefix

theorem takeBytes_fits (room : Nat) (cs : List Char) :
    (String.ofList (takeBytes room cs)).utf8ByteSize ≤ room := by
  induction cs generalizing room with
  | nil => simp [takeBytes]
  | cons c cs ih =>
    rw [takeBytes]
    split
    next hc =>
      have hrest := ih (room - c.utf8Size)
      rw [String.ofList_cons, String.utf8ByteSize_append, String.utf8ByteSize_singleton]
      omega
    next => simp

/-- A start that fits is not cut further. -/
theorem prefix_takeBytes (hstart : start <+: cs)
    (hfits : (String.ofList start).utf8ByteSize ≤ room) : start <+: takeBytes room cs := by
  induction cs generalizing room start with
  | nil => simpa [takeBytes] using hstart
  | cons c cs ih =>
    rcases List.prefix_cons_iff.1 hstart with rfl | ⟨rest, rfl, hrest⟩
    · exact List.nil_prefix
    · rw [String.ofList_cons, String.utf8ByteSize_append, String.utf8ByteSize_singleton] at hfits
      rw [takeBytes, if_pos (by omega)]
      exact (List.prefix_cons_inj c).2 (ih hrest (by omega))

theorem longestStart_takeBytes (s : String) (room : Nat) :
    Text.LongestStart (fun t => t.utf8ByteSize ≤ room) s
      (String.ofList (takeBytes room s.toList)) where
  starts := by
    rw [String.toList_ofList]
    exact takeBytes_leads room s.toList
  fit := takeBytes_fits room s.toList
  longest := by
    intro other hstart hfits
    rw [String.toList_ofList]
    exact prefix_takeBytes hstart (by rwa [String.ofList_toList])

end Outbound.Telegram

end Switchboard
