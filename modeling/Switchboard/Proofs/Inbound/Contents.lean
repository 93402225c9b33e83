import Switchboard.Proofs.Json.Text
import Switchboard.Proofs.Service.Moves
import Switchboard.Proofs.Time.Written

/-!
# What messages are made of

Whatever a payload says, the message read from it has the time of its arrival or a time that was
told in a form the service knows, and its details are an object of texts and whole numbers
(`Inbound.Brings.tidy`).
-/

namespace Switchboard

open Json Time

namespace Inbound

/-- A message as it can be read from a payload that arrives at a time. -/
structure Tidy (received : Instant) (m : Message) : Prop where
  time : m.sentAt = received ∨ m.sentAt.Told
  details : ∀ v, m.details = some v → Plain 1 v

theorem tidy_of_members {received : Instant} {m : Message} {members : List (String × Json)}
    (htime : m.sentAt = received ∨ m.sentAt.Told)
    (hdetails : m.details = some (Json.object members)) (h : ∀ x ∈ members, Plain 0 x.2) :
    Tidy received m := by
  refine ⟨htime, fun v hv => ?_⟩
  obtain rfl := Option.some.inj (hdetails.symm.trans hv)
  exact plain_object h

/-- Time and details are those of another message. -/
def Agrees (m m' : Message) : Prop := m'.sentAt = m.sentAt ∧ m'.details = m.details

theorem Tidy.of_agrees {received : Instant} {m m' : Message} (h : Tidy received m)
    (hm : Agrees m m') : Tidy received m' :=
  ⟨hm.1 ▸ h.time, hm.2 ▸ h.details⟩

variable (received : Instant)

theorem secondsOr_told (v : Option Json) :
    secondsOr received v = received ∨ (secondsOr received v).Told := by
  unfold secondsOr
  cases h : (v.bind integer?).bind Instant.ofUnixSeconds? with
  | none => exact .inl rfl
  | some t =>
    obtain ⟨n, -, hn⟩ := Option.bind_eq_some_iff.1 h
    exact .inr (Instant.told_of_unixSeconds hn)

theorem millisOr_told (v : Option Json) :
    millisOr received v = received ∨ (millisOr received v).Told := by
  unfold millisOr
  cases h : (v.bind integer?).bind Instant.ofUnixMillis? with
  | none => exact .inl rfl
  | some t =>
    obtain ⟨n, -, hn⟩ := Option.bind_eq_some_iff.1 h
    exact .inr (Instant.told_of_unixMillis hn)

-- ---------------------------------------------------------------------------
-- Platforms
-- ---------------------------------------------------------------------------

theorem WhatsApp.message_tidy (name : Option String) (channel : Option Json) (v : Json) :
    Tidy received (WhatsApp.message received name channel v) := by
  have henvelope : ∀ kind, Tidy received (WhatsApp.envelope received name channel kind v) := by
    intro kind
    refine tidy_of_members (secondsOr_told received _) rfl ?_
    simp only [List.forall_mem_cons]
    exact ⟨.str _ _, plain_ofText? _ _, plain_ofText? _ _, by simp⟩
  refine (henvelope (textAtOr v ["type"] "unknown")).of_agrees ?_
  unfold WhatsApp.message
  dsimp only
  split
  · exact ⟨rfl, rfl⟩
  · unfold WhatsApp.withInteractive
    dsimp only
    split <;> exact ⟨rfl, rfl⟩
  · exact ⟨rfl, rfl⟩
  · unfold WhatsApp.withPlace
    split <;> exact ⟨rfl, rfl⟩
  · split <;> exact ⟨rfl, rfl⟩

theorem Meta.message_tidy (p : Platform) (event : Json) :
    Tidy received (Meta.message received p event) := by
  have henvelope : Tidy received (Meta.envelope received p event) := by
    refine tidy_of_members (millisOr_told received _) rfl ?_
    simp only [List.forall_mem_cons]
    exact ⟨.str _ _, plain_ofText? _ _, .str _ _, by simp⟩
  refine henvelope.of_agrees ?_
  unfold Meta.message
  dsimp only
  split
  · exact ⟨rfl, rfl⟩
  · unfold Meta.withContent
    dsimp only
    split <;> exact ⟨rfl, rfl⟩
  · exact ⟨rfl, rfl⟩

theorem Meta.comment_tidy (p : Platform) (v : Json) :
    Tidy received (Meta.comment received p v) := by
  refine tidy_of_members (secondsOr_told received _) rfl ?_
  simp only [List.forall_mem_cons]
  exact ⟨.str _ _, plain_ofText? _ _, .str _ _, by simp⟩

theorem X.withContent_agrees (data : Json) (m : Message) : Agrees m (X.withContent data m) := by
  unfold X.withContent
  dsimp only
  split <;> exact ⟨rfl, rfl⟩

theorem X.message?_tidy {own : Option String} {users : Option Json} {event : Json} {m : Message}
    (h : X.message? received own users event = some m) : Tidy received m := by
  have henvelope : ∀ sender user create,
      Tidy received (X.envelope received sender user event create) := by
    intro sender user create
    refine tidy_of_members (millisOr_told received _) rfl ?_
    simp only [List.forall_mem_cons]
    exact ⟨.str _ _, plain_ofText? _ _, plain_ofText? _ _, by simp⟩
  unfold X.message? at h
  dsimp only at h
  split at h
  · cases h
  · split at h
    · cases h
    · obtain rfl := Option.some.inj h
      exact (henvelope _ _ _).of_agrees (X.withContent_agrees _ _)

theorem TikTok.message_tidy (event : Json) : Tidy received (TikTok.message received event) := by
  have henvelope : ∀ kind v, Tidy received (TikTok.envelope received kind event v) := by
    intro kind v
    refine tidy_of_members (secondsOr_told received _) rfl ?_
    simp only [List.forall_mem_cons]
    exact ⟨plain_ofText? _ _, .str _ _, by simp⟩
  unfold TikTok.message
  dsimp only
  generalize Option.getD _ "unknown" = kind
  have h := henvelope kind (TikTok.content event)
  generalize TikTok.envelope received kind event (TikTok.content event) = m at h ⊢
  split <;> exact h.of_agrees ⟨rfl, rfl⟩

theorem WebChat.message_tidy (v : Json) : Tidy received (WebChat.message received v) := by
  have htime : ∀ t : Option Instant, (∀ x, t = some x → x.Told) →
      t.getD received = received ∨ (t.getD received).Told := by
    rintro (_ | t) ht
    · exact .inl rfl
    · exact .inr (ht t rfl)
  have hread : ∀ x, ((textAt? v ["timestamp"]).bind Instant.read?) = some x → x.Told := by
    intro x hx
    obtain ⟨s, -, hs⟩ := Option.bind_eq_some_iff.1 hx
    obtain ⟨hform, hnear⟩ := Instant.hasForm_of_read? hs
    exact ⟨hnear, .inl hform⟩
  unfold WebChat.message
  dsimp only
  split <;>
    · refine tidy_of_members (htime _ hread) rfl ?_
      simp only [List.forall_mem_cons]
      exact ⟨.str _ _, plain_ofText? _ _, by simp⟩

-- ---------------------------------------------------------------------------
-- Updates
-- ---------------------------------------------------------------------------

theorem optional_some {α : Type} {f : Fields Json} {name : String} {read : Json → Option α} {x : α}
    (h : f.optional name read = some (some x)) : ∃ v, read v = some x := by
  unfold Fields.optional Fields.defaulted at h
  split at h
  · cases h
  next v _ =>
    unfold Fields.nullable at h
    split at h
    · cases h
    · obtain ⟨y, hy, hyx⟩ := Option.map_eq_some_iff.1 h
      obtain rfl := Option.some.inj hyx
      exact ⟨v, hy⟩

namespace Telegram

/-- The chat of a content has a number of sixty-four bits. -/
def Content.Numbered (c : Content) : Prop := ∀ i, c.chat = some i → inInt64 i = true

theorem inInt64_of_chat? {v : Json} {i : Int} (h : chat? v = some i) : inInt64 i = true := by
  unfold chat? at h
  simp only [Option.bind_eq_bind, Option.bind_eq_some_iff, Fields.required] at h
  obtain ⟨f, -, w, -, hw⟩ := h
  unfold Json.int64? at hw
  split at hw
  next n =>
    unfold Number.int64? at hw
    split at hw
    next j =>
      split at hw
      next hj => obtain rfl := Option.some.inj hw; exact hj
      next => cases hw
    next => cases hw
  next => cases hw

theorem Content.numbered {v : Json} {c : Content} (h : Content.ofJson? v = some c) :
    c.Numbered := by
  unfold Content.ofJson? at h
  -- `chat` is the fifth of the values that are read
  iterate 4 obtain ⟨_, -, h⟩ := Option.bind_eq_some_iff.1 h
  obtain ⟨chat, hchat, h⟩ := Option.bind_eq_some_iff.1 h
  have hc : c.chat = chat := by
    iterate 9 obtain ⟨_, -, h⟩ := Option.bind_eq_some_iff.1 h
    obtain rfl := Option.some.inj h
    rfl
  rintro i hi
  rw [hc] at hi
  subst hi
  obtain ⟨w, hw⟩ := optional_some hchat
  exact inInt64_of_chat? hw

/-- All contents of an update are numbered. -/
structure Update.Numbered (u : Update) : Prop where
  message : ∀ c, u.message = some c → c.Numbered
  edited : ∀ c, u.edited = some c → c.Numbered
  press : ∀ p, u.press = some p → ∀ c, p.message = some c → c.Numbered

theorem Update.numbered {v : Json} {u : Update} (h : Update.ofJson? v = some u) :
    u.Numbered := by
  unfold Update.ofJson? at h
  simp only [Option.bind_eq_bind, Option.bind_eq_some_iff, Option.pure_def,
    Option.some.injEq] at h
  obtain ⟨f, -, message, hmessage, edited, hedited, press, hpress, rfl⟩ := h
  refine ⟨?_, ?_, ?_⟩
  · rintro c rfl
    obtain ⟨w, hw⟩ := optional_some hmessage
    exact Content.numbered hw
  · rintro c rfl
    obtain ⟨w, hw⟩ := optional_some hedited
    exact Content.numbered hw
  · rintro p rfl c hc
    obtain ⟨w, hw⟩ := optional_some hpress
    unfold Press.ofJson? at hw
    simp only [Option.bind_eq_bind, Option.bind_eq_some_iff, Option.pure_def,
      Option.some.injEq] at hw
    obtain ⟨g, -, sender, -, data, -, content, hcontent, rfl⟩ := hw
    obtain rfl : content = some c := hc
    obtain ⟨x, hx⟩ := optional_some hcontent
    exact Content.numbered hx

theorem details_plain {chat : Option Int} (hchat : ∀ i, chat = some i → inInt64 i = true)
    (user : Option User) : Plain 1 (details chat user) := by
  have hnumber : Plain 0 ((chat.map Json.ofInt).getD .null) := by
    cases chat with
    | none => exact .null 0
    | some i =>
      have hi := hchat i rfl
      simp only [inInt64, decide_eq_true_eq] at hi
      exact .int 0 hi.1 (by simp only [UInt64.size]; omega)
  refine plain_object ?_
  simp only [List.forall_mem_cons]
  exact ⟨hnumber, plain_ofText? _ _, by simp⟩

theorem withContent_agrees (c : Content) (m : Message) : Agrees m (withContent c m) := by
  unfold withContent
  split <;> exact ⟨rfl, rfl⟩

theorem message_tidy (v : Json) : Tidy received (message received v) := by
  obtain ⟨hmessage, hedited, hpress⟩ :
      ((Update.ofJson? v).getD ⟨none, none, none⟩).Numbered := by
    cases hu : Update.ofJson? v with
    | none => exact ⟨by simp, by simp, by simp⟩
    | some u => exact Update.numbered hu
  unfold message
  generalize (Update.ofJson? v).getD ⟨none, none, none⟩ = u at *
  dsimp only
  split
  next press hp =>
    refine ⟨.inl rfl, ?_⟩
    rintro _ ⟨⟩
    refine details_plain (fun i hi => ?_) _
    obtain ⟨c, hc, hi⟩ := Option.bind_eq_some_iff.1 hi
    exact hpress press hp c hc i hi
  next content _ hc =>
    have hnumbered : content.Numbered := by
      cases hm : u.message with
      | some c =>
        rw [hm] at hc
        obtain rfl := Option.some.inj hc
        exact hmessage _ hm
      | none =>
        rw [hm] at hc
        exact hedited _ hc
    have hbare : Tidy received { bareMessage .telegram
        (((content.sender.map User.id).or content.chat).map toString |>.getD "")
        (displayName content.sender) "unknown"
        (secondsOr received (content.date.map Json.ofInt)) with
        id := content.id.map toString
        details := some (details content.chat content.sender) } := by
      refine ⟨secondsOr_told received _, ?_⟩
      rintro _ ⟨⟩
      exact details_plain hnumbered _
    exact hbare.of_agrees (withContent_agrees _ _)
  next => exact ⟨.inl rfl, by rintro _ ⟨⟩⟩

end Telegram

/-- Every message that a webhook brings is tidy. -/
theorem Brings.tidy {m : Message} (h : Brings received m) : Tidy received m := by
  cases h with
  | whatsApp h =>
    unfold WhatsApp.messages at h
    simp only [List.mem_flatMap, List.mem_map] at h
    obtain ⟨value, -, v, -, rfl⟩ := h
    exact WhatsApp.message_tidy received _ _ v
  | page h =>
    unfold Meta.messages at h
    simp only [List.mem_flatMap, List.mem_append, List.mem_map] at h
    obtain ⟨entry, -, ⟨event, -, rfl⟩ | ⟨v, -, rfl⟩⟩ := h
    · exact Meta.message_tidy received _ event
    · exact Meta.comment_tidy received _ v
  | telegram v => exact Telegram.message_tidy received v
  | x h =>
    unfold X.messages at h
    obtain ⟨event, -, h⟩ := List.mem_filterMap.1 h
    exact X.message?_tidy received h
  | tikTok v => exact TikTok.message_tidy received v
  | webChat v => exact WebChat.message_tidy received v

end Inbound

end Switchboard
