import Switchboard.Proofs.Inbound.Platforms
import Switchboard.Proofs.Text.Trimming

/-!
# Forms of messages

What a message is agrees with what it carries, whatever the payload said: it has a place exactly if
its kind is that, the option that was tapped is a text and has its words, only files have an
address, and the contact has a name (`Message.WellFormed`). Every reader begins with a message of
which nothing but the sender is known (`Message.Bare`) and adds at most one content to it, so there
is one lemma for each kind of content (`Inbound.reads_wellFormed`).
-/

namespace Switchboard

theorem Platform.trim_defaultContactName (p : Platform) :
    Text.trim p.defaultContactName = p.defaultContactName := by
  cases p <;> decide

-- ---------------------------------------------------------------------------
-- Messages
-- ---------------------------------------------------------------------------

namespace ContentKind

/-- The kinds of content that may have an address: files, and what is not understood. -/
def addressed : List ContentKind := [image, video, audio, document, sticker, unknown]

theorem getD_ofMedia?_addressed (word : String) :
    (ofMedia? word).getD .unknown ∈ addressed := by
  unfold ofMedia?
  split <;> decide

end ContentKind

namespace Message

/-- The contact has a name, without blanks around it. -/
def Named (m : Message) : Prop := m.contactName ≠ "" ∧ Text.Trimmed m.contactName

/-- What a message is agrees with what it carries. -/
structure WellFormed (m : Message) : Prop where
  named : m.Named
  place : m.kind = .location ↔ m.place.isSome = true
  reply : ∀ r, m.reply = some r → m.kind = .text ∧ r.title = m.text
  text : m.kind = .text → m.mediaUrl = none ∧ m.place = none
  media : m.mediaUrl.isSome = true → m.kind ∈ ContentKind.addressed

/-- A message to the page itself, and not a comment on it. -/
structure Direct (m : Message) : Prop extends m.WellFormed where
  direct : m.kind ≠ .comment

/-- Nothing is known of the content. -/
structure Bare (m : Message) : Prop where
  named : m.Named
  kind : m.kind = .unknown
  mediaUrl : m.mediaUrl = none
  reply : m.reply = none
  place : m.place = none

namespace Bare

variable {m m' : Message}

theorem unread (h : m.Bare) : m.Direct where
  named := h.named
  place := by simp [h.kind, h.place]
  reply := by simp [h.reply]
  text := by simp [h.kind]
  media := by simp [h.mediaUrl]
  direct := by simp [h.kind]

/-- A text is all there is, but for the option that was tapped, which has its words. -/
theorem text (h : m.Bare) (hname : m'.contactName = m.contactName) (hkind : m'.kind = .text)
    (hmedia : m'.mediaUrl = m.mediaUrl) (hplace : m'.place = m.place)
    (hreply : ∀ r, m'.reply = some r → r.title = m'.text) : m'.Direct := by
  rw [h.mediaUrl] at hmedia
  rw [h.place] at hplace
  have hnamed : m'.Named := by rw [Named, hname]; exact h.named
  exact ⟨⟨hnamed, by simp [hkind, hplace], fun r hr => ⟨hkind, hreply r hr⟩,
    fun _ => ⟨hmedia, hplace⟩, by simp [hmedia]⟩, by simp [hkind]⟩

theorem file (h : m.Bare) (hname : m'.contactName = m.contactName)
    (hkind : m'.kind ∈ ContentKind.addressed) (hreply : m'.reply = m.reply)
    (hplace : m'.place = m.place) : m'.Direct := by
  rw [h.reply] at hreply
  rw [h.place] at hplace
  have hnamed : m'.Named := by rw [Named, hname]; exact h.named
  have hother : ∀ k, k ∉ ContentKind.addressed → m'.kind ≠ k := fun k hk heq => hk (heq ▸ hkind)
  have htext : m'.kind ≠ .text := hother _ (by decide)
  exact ⟨⟨hnamed, by simp [hplace, hother .location (by decide)], by simp [hreply],
    fun hk => absurd hk htext, fun _ => hkind⟩, hother _ (by decide)⟩

theorem located (h : m.Bare) (hname : m'.contactName = m.contactName)
    (hkind : m'.kind = .location) (hplace : m'.place.isSome = true)
    (hreply : m'.reply = m.reply) (hmedia : m'.mediaUrl = m.mediaUrl) : m'.Direct := by
  rw [h.reply] at hreply
  rw [h.mediaUrl] at hmedia
  have hnamed : m'.Named := by rw [Named, hname]; exact h.named
  exact ⟨⟨hnamed, by simp [hkind, hplace], by simp [hreply], by simp [hkind], by simp [hmedia]⟩,
    by simp [hkind]⟩

theorem comment (h : m.Bare) (hname : m'.contactName = m.contactName)
    (hkind : m'.kind = .comment) (hreply : m'.reply = m.reply) (hplace : m'.place = m.place)
    (hmedia : m'.mediaUrl = m.mediaUrl) : m'.WellFormed := by
  rw [h.reply] at hreply
  rw [h.place] at hplace
  rw [h.mediaUrl] at hmedia
  have hnamed : m'.Named := by rw [Named, hname]; exact h.named
  exact ⟨hnamed, by simp [hkind, hplace], by simp [hreply], by simp [hkind], by simp [hmedia]⟩

end Bare

end Message

namespace Inbound

/-- Where a message is read. Pages have messages and comments. -/
inductive Source where
  | whatsApp
  | page (p : Platform)
  | comments (p : Platform)
  | telegram
  | x
  | tikTok
  | webChat

def Source.platform : Source → Platform
  | whatsApp => .whatsApp
  | page p | comments p => p
  | telegram => .telegram
  | x => .x
  | tikTok => .tikTok
  | webChat => .webChat

variable {received : Time.Instant}

/-- A message as a source reads it at a time, whatever it is given. -/
inductive Source.Reads (received : Time.Instant) : Source → Message → Prop
  | whatsApp (name : Option String) (channel : Option Json) (v : Json) :
    Reads received .whatsApp (WhatsApp.message received name channel v)
  | page (p : Platform) (event : Json) : Reads received (.page p) (Meta.message received p event)
  | comments (p : Platform) (v : Json) : Reads received (.comments p) (Meta.comment received p v)
  | telegram (v : Json) : Reads received .telegram (Telegram.message received v)
  | x {own : Option String} {users : Option Json} {event : Json} {m : Message}
      (read : X.message? received own users event = some m) : Reads received .x m
  | tikTok (event : Json) : Reads received .tikTok (TikTok.message received event)
  | webChat (v : Json) : Reads received .webChat (WebChat.message received v)

theorem Brings.read {m : Message} (h : Brings received m) : ∃ s, Source.Reads received s m := by
  cases h with
  | whatsApp h =>
    obtain ⟨value, -, h⟩ := List.mem_flatMap.1 h
    obtain ⟨v, -, rfl⟩ := List.mem_map.1 h
    exact ⟨_, .whatsApp _ _ v⟩
  | page h =>
    obtain ⟨entry, -, h⟩ := List.mem_flatMap.1 h
    rcases List.mem_append.1 h with h | h
    · obtain ⟨event, -, rfl⟩ := List.mem_map.1 h
      exact ⟨_, .page _ event⟩
    · obtain ⟨v, -, rfl⟩ := List.mem_map.1 h
      exact ⟨_, .comments _ v⟩
  | telegram v => exact ⟨_, .telegram v⟩
  | x h =>
    obtain ⟨event, -, h⟩ := List.mem_filterMap.1 h
    exact ⟨_, .x h⟩
  | tikTok v => exact ⟨_, .tikTok v⟩
  | webChat v => exact ⟨_, .webChat v⟩

/-- The name of a contact is never empty, and is trimmed. -/
theorem nameOr_named (p : Platform) (name : Option String) :
    nameOr p name ≠ "" ∧ Text.Trimmed (nameOr p name) := by
  unfold nameOr
  cases h : (name.map Text.trim).filter fun s => !s.isEmpty with
  | none =>
    refine ⟨by cases p <;> decide, ?_⟩
    rw [Option.getD_none, ← p.trim_defaultContactName]
    exact Text.trimmed_trim _
  | some s =>
    obtain ⟨hs, hne⟩ := Option.filter_eq_some_iff.1 h
    obtain ⟨given, -, rfl⟩ := Option.map_eq_some_iff.1 hs
    exact ⟨by simpa using hne, Text.trimmed_trim given⟩

theorem bareMessage_bare (p q : Platform) (name : Option String) (sender kind : String)
    (sentAt : Time.Instant) : (bareMessage p sender (nameOr q name) kind sentAt).Bare :=
  ⟨nameOr_named q name, rfl, rfl, rfl, rfl⟩

variable (received)

-- ---------------------------------------------------------------------------
-- Readers
-- ---------------------------------------------------------------------------

theorem WhatsApp.message_direct (name : Option String) (channel : Option Json) (v : Json) :
    (WhatsApp.message received name channel v).Direct := by
  unfold WhatsApp.message
  dsimp only
  have h : (envelope received name channel (textAtOr v ["type"] "unknown") v).Bare :=
    ⟨nameOr_named .whatsApp name, rfl, rfl, rfl, rfl⟩
  generalize envelope received name channel (textAtOr v ["type"] "unknown") v = m at h ⊢
  split
  · exact h.text rfl rfl rfl rfl (by simp [h.reply])
  · unfold withInteractive
    dsimp only
    split
    · exact h.unread
    · exact h.text rfl rfl rfl rfl (by rintro r ⟨⟩; rfl)
  · exact h.text rfl rfl rfl rfl (by rintro r ⟨⟩; rfl)
  · unfold withPlace
    split
    · exact h.located rfl rfl rfl rfl rfl
    · exact h.unread
  · split
    · refine h.file rfl ?_ rfl rfl
      rw [withMedia, h.kind]
      exact ContentKind.getD_ofMedia?_addressed _
    · exact h.unread

theorem Meta.message_direct (p : Platform) (event : Json) :
    (Meta.message received p event).Direct := by
  unfold Meta.message
  dsimp only
  have h : (envelope received p event).Bare := ⟨nameOr_named p none, rfl, rfl, rfl, rfl⟩
  generalize envelope received p event = m at h ⊢
  split
  · exact h.text rfl rfl rfl rfl (by rintro r ⟨⟩; rfl)
  next content _ _ =>
    unfold withContent
    dsimp only
    split
    next text _ _ =>
      refine h.text rfl rfl rfl rfl fun r hr => ?_
      obtain ⟨id, -, rfl⟩ := Option.map_eq_some_iff.1 hr
      rfl
    next =>
      refine h.file rfl ?_ rfl rfl
      rw [withAttachment]
      dsimp only
      rw [h.kind]
      exact ContentKind.getD_ofMedia?_addressed _
    next =>
      have hsame : Message.Bare { m with id := idAt? content ["mid"] } :=
        ⟨h.named, h.kind, h.mediaUrl, h.reply, h.place⟩
      exact hsame.unread
  · exact h.unread

theorem Meta.comment_wellFormed (p : Platform) (v : Json) :
    (Meta.comment received p v).WellFormed := by
  unfold Meta.comment
  have h := bareMessage_bare p p ((textAt? v ["from", "username"]).or (textAt? v ["from", "name"]))
    ((idAt? v ["from", "id"]).getD "") "comment" (secondsOr received (v.field? "created_time"))
  exact h.comment rfl rfl rfl rfl rfl

theorem Telegram.message_direct (v : Json) : (Telegram.message received v).Direct := by
  unfold Telegram.message
  dsimp only
  split
  next press _ =>
    have h : (bareMessage .telegram (toString press.sender.id) (displayName (some press.sender))
      "callback" received).Bare := bareMessage_bare ..
    exact h.text rfl rfl rfl rfl (by rintro r ⟨⟩; rfl)
  next c _ _ =>
    unfold ofContent
    dsimp only
    generalize hm : ({ bareMessage _ _ _ _ _ with id := _, details := _ } : Message) = m
    have h : m.Bare := by
      subst hm
      exact ⟨nameOr_named .telegram _, rfl, rfl, rfl, rfl⟩
    unfold withContent
    split
    · exact h.text rfl rfl rfl rfl (by simp [h.reply])
    · exact h.file rfl (ContentKind.getD_ofMedia?_addressed _) rfl rfl
    · exact h.located rfl rfl rfl rfl rfl
    · exact h.unread
  next =>
    have h : (bareMessage .telegram "" (displayName none) "unknown" received).Bare :=
      bareMessage_bare ..
    exact h.unread

theorem X.mediaKind_addressed (word : String) : mediaKind word ∈ ContentKind.addressed := by
  unfold mediaKind
  split
  · decide
  · exact ContentKind.getD_ofMedia?_addressed word

theorem X.withContent_direct (data : Json) {m : Message} (h : m.Bare) :
    (withContent data m).Direct := by
  unfold withContent
  dsimp only
  split
  · exact h.file rfl (mediaKind_addressed _) rfl rfl
  · exact h.text rfl rfl rfl rfl (by simp [h.reply])
  · exact h.unread

theorem X.message?_direct {own : Option String} {users : Option Json} {event : Json} {m : Message}
    (h : X.message? received own users event = some m) : m.Direct := by
  unfold X.message? at h
  dsimp only at h
  split at h
  · cases h
  · split at h
    · cases h
    · obtain rfl := Option.some.inj h
      exact withContent_direct _ ⟨nameOr_named .x _, rfl, rfl, rfl, rfl⟩

theorem TikTok.message_direct (event : Json) : (TikTok.message received event).Direct := by
  unfold TikTok.message
  dsimp only
  generalize Option.getD _ "unknown" = kind
  have h : (envelope received kind event (content event)).Bare :=
    ⟨nameOr_named .tikTok _, rfl, rfl, rfl, rfl⟩
  generalize envelope received kind event (content event) = m at h ⊢
  split
  · exact h.text rfl rfl rfl rfl (by simp [h.reply])
  · exact h.file rfl (ContentKind.getD_ofMedia?_addressed "image") rfl rfl
  · exact h.file rfl (ContentKind.getD_ofMedia?_addressed "video") rfl rfl
  · exact h.unread

theorem WebChat.message_direct (v : Json) : (WebChat.message received v).Direct := by
  unfold WebChat.message
  dsimp only
  split
  · have h : (bareMessage .webChat "" (nameOr .webChat (textAt? v ["name"])) "" received).Bare :=
      bareMessage_bare ..
    exact h.text rfl rfl rfl rfl (by rintro r ⟨⟩)
  · exact Message.Bare.unread ⟨nameOr_named .webChat _, rfl, rfl, rfl, rfl⟩

/-- A message that is read from a payload, whatever this holds, belongs to the platform of its
source and is well formed; comments are read as such, and nothing else is. Whatever a webhook
brings is read so. -/
theorem reads_wellFormed :
    (∀ s m, Source.Reads received s m → m.platform = s.platform ∧ m.WellFormed ∧
      (m.kind = .comment ↔ ∃ p, s = .comments p)) ∧
      ∀ m, Brings received m → ∃ s, Source.Reads received s m := by
  refine ⟨fun s m h => ?_, fun m h => h.read⟩
  have hdirect : ∀ {s : Source} {m : Message}, m.Direct → (∀ p, s ≠ .comments p) →
      m.WellFormed ∧ (m.kind = .comment ↔ ∃ p, s = .comments p) := fun h hs =>
    ⟨h.toWellFormed, fun hk => absurd hk h.direct, fun ⟨p, hp⟩ => absurd hp (hs p)⟩
  cases h with
  | whatsApp name channel v =>
    exact ⟨WhatsApp.platform_message received name channel v,
      hdirect (WhatsApp.message_direct received name channel v) (by simp)⟩
  | page p event =>
    exact ⟨Meta.platform_message received p event,
      hdirect (Meta.message_direct received p event) (by simp)⟩
  | comments p v =>
    exact ⟨rfl, Meta.comment_wellFormed received p v, fun _ => ⟨p, rfl⟩, fun _ => rfl⟩
  | telegram v =>
    exact ⟨Telegram.platform_message received v,
      hdirect (Telegram.message_direct received v) (by simp)⟩
  | x read =>
    exact ⟨X.platform_message? received read, hdirect (X.message?_direct received read) (by simp)⟩
  | tikTok event =>
    exact ⟨TikTok.platform_message received event,
      hdirect (TikTok.message_direct received event) (by simp)⟩
  | webChat v =>
    exact ⟨WebChat.platform_message received v,
      hdirect (WebChat.message_direct received v) (by simp)⟩

/-- An option that was tapped on a page. -/
def tappedYes : Json := Json.object [
  ("sender", Json.object [("id", .str "9")]),
  ("message", Json.object [
    ("text", .str "Sí"), ("quick_reply", Json.object [("payload", .str "a")])])]

/-- The option has the words of the message, and was brought by a webhook. -/
theorem reads_wellFormed_tapped :
    let m := Meta.message ⟨0, 0⟩ .messenger tappedYes
    m.reply = some ⟨"quick_reply", "a", "Sí"⟩ ∧ Source.Reads ⟨0, 0⟩ (.page .messenger) m ∧
      Brings ⟨0, 0⟩ m ∧ m.platform = .messenger ∧ m.WellFormed ∧ m.kind ≠ .comment ∧
      ∃ s, Source.Reads ⟨0, 0⟩ s m := by
  intro m
  have hread : Source.Reads ⟨0, 0⟩ (.page .messenger) m := .page .messenger tappedYes
  have hbrings : Brings ⟨0, 0⟩ m := .page (v := Json.object [
    ("entry", .arr [Json.object [("messaging", .arr [tappedYes])]])]) (List.mem_singleton.2 rfl)
  obtain ⟨hforms, hsources⟩ := reads_wellFormed ⟨0, 0⟩
  obtain ⟨hplatform, hform, hcomment⟩ := hforms _ _ hread
  have hdirect : m.kind ≠ .comment := by
    intro hk
    obtain ⟨p, hp⟩ := hcomment.1 hk
    cases hp
  exact ⟨rfl, hread, hbrings, hplatform, hform, hdirect, hsources m hbrings⟩

end Inbound

end Switchboard
