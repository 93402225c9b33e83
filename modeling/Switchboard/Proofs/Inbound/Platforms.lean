import Switchboard.Proofs.Inbound.Contents

/-!
# Platforms of messages

Each payload brings messages of its own platform alone. So a message of a web chat was posted by a
widget (`Inbound.Brings.posted`), and its time has a written form (`WebChat.hasForm_message`): what
a widget tells is read from such a form, and other times are those of the arrival.
-/

namespace Switchboard.Inbound

open Json Time

variable (received : Instant)

/-- What a message holds does not touch on where it comes from. -/
theorem WhatsApp.message_origin (name : Option String) (channel : Option Json) (v : Json) :
    (WhatsApp.message received name channel v).platform = .whatsApp ∧
      (WhatsApp.message received name channel v).sender = (idAt? v ["from"]).getD "" := by
  unfold WhatsApp.message
  dsimp only
  split
  · exact ⟨rfl, rfl⟩
  · unfold WhatsApp.withInteractive
    dsimp only
    split <;> exact ⟨rfl, rfl⟩
  · exact ⟨rfl, rfl⟩
  · unfold WhatsApp.withPlace
    split <;> exact ⟨rfl, rfl⟩
  · split <;> exact ⟨rfl, rfl⟩

theorem WhatsApp.platform_message (name : Option String) (channel : Option Json) (v : Json) :
    (WhatsApp.message received name channel v).platform = .whatsApp :=
  (WhatsApp.message_origin received name channel v).1

theorem Meta.message_origin (p : Platform) (event : Json) :
    (Meta.message received p event).platform = p ∧
      (Meta.message received p event).sender = (idAt? event ["sender", "id"]).getD "" := by
  unfold Meta.message
  dsimp only
  split
  · exact ⟨rfl, rfl⟩
  · unfold Meta.withContent
    dsimp only
    split <;> exact ⟨rfl, rfl⟩
  · exact ⟨rfl, rfl⟩

theorem Meta.platform_message (p : Platform) (event : Json) :
    (Meta.message received p event).platform = p := (Meta.message_origin received p event).1

theorem Meta.platform_ne (payload : Json) : Meta.platform payload ≠ .webChat := by
  unfold Meta.platform
  split <;> decide

theorem X.platform_message? {own : Option String} {users : Option Json} {event : Json} {m : Message}
    (h : X.message? received own users event = some m) : m.platform = .x := by
  unfold X.message? at h
  dsimp only at h
  split at h
  · cases h
  · split at h
    · cases h
    · obtain rfl := Option.some.inj h
      unfold X.withContent
      dsimp only
      split <;> rfl

theorem TikTok.platform_message (event : Json) :
    (TikTok.message received event).platform = .tikTok := by
  unfold TikTok.message
  dsimp only
  split <;> rfl

theorem Telegram.platform_message (v : Json) :
    (Telegram.message received v).platform = .telegram := by
  unfold Telegram.message
  dsimp only
  split
  · rfl
  · unfold Telegram.ofContent Telegram.withContent
    dsimp only
    split <;> rfl
  · rfl

theorem WebChat.platform_message (v : Json) : (WebChat.message received v).platform = .webChat := by
  unfold WebChat.message
  dsimp only
  split <;> rfl

/-- Only widgets post messages of web chats. -/
theorem Brings.posted {received : Instant} {m : Message} (h : Brings received m)
    (hp : m.platform = .webChat) : ∃ v, m = WebChat.message received v := by
  cases h with
  | whatsApp h =>
    unfold WhatsApp.messages at h
    obtain ⟨value, -, h⟩ := List.mem_flatMap.1 h
    obtain ⟨v, -, rfl⟩ := List.mem_map.1 h
    rw [WhatsApp.platform_message] at hp
    cases hp
  | @page payload m h =>
    unfold Meta.messages at h
    obtain ⟨entry, -, h⟩ := List.mem_flatMap.1 h
    rcases List.mem_append.1 h with h | h
    · obtain ⟨event, -, rfl⟩ := List.mem_map.1 h
      rw [Meta.platform_message] at hp
      exact absurd hp (Meta.platform_ne payload)
    · obtain ⟨v, -, rfl⟩ := List.mem_map.1 h
      exact absurd hp (Meta.platform_ne payload)
  | telegram v =>
    rw [Telegram.platform_message] at hp
    cases hp
  | x h =>
    obtain ⟨event, -, h⟩ := List.mem_filterMap.1 h
    rw [X.platform_message? _ h] at hp
    cases hp
  | tikTok v =>
    rw [TikTok.platform_message] at hp
    cases hp
  | webChat v => exact ⟨v, rfl⟩

theorem WebChat.sentAt_message (v : Json) : (WebChat.message received v).sentAt =
    ((textAt? v ["timestamp"]).bind Instant.read?).getD received := by
  unfold WebChat.message
  dsimp only
  split <;> rfl

theorem WebChat.hasForm_message {received : Instant} (h : received.HasForm) (v : Json) :
    (WebChat.message received v).sentAt.HasForm := by
  rw [WebChat.sentAt_message]
  cases ht : (textAt? v ["timestamp"]).bind Instant.read? with
  | none => exact h
  | some t =>
    obtain ⟨s, -, hs⟩ := Option.bind_eq_some_iff.1 ht
    exact (Instant.hasForm_of_read? hs).1

end Switchboard.Inbound
