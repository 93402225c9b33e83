import Switchboard.Proofs.Inbound.Forms

/-!
# Labels of files

A file is shown by the text beside it, or else by the word for its kind in brackets. On X a file
without a text is shown as what is not understood (`Inbound.files_labelled`).
-/

namespace Switchboard

namespace ContentKind

/-- The kinds of content that are files. -/
def files : List ContentKind := [image, video, audio, document, sticker]

/-- The words by which platforms call files. -/
def fileWords : List String :=
  ["image", "photo", "animated_gif", "video", "audio", "voice", "document", "file", "sticker"]

theorem mem_fileWords_of_ofMedia? {word : String} {kind : ContentKind}
    (h : ofMedia? word = some kind) : word ∈ fileWords := by
  unfold ofMedia? at h
  split at h <;> first | decide | cases h

theorem text_not_file : text ∉ files := by decide

theorem location_not_file : location ∉ files := by decide

theorem comment_not_file : comment ∉ files := by decide

theorem unknown_not_file : unknown ∉ files := by decide

theorem mem_fileWords_of_getD {word : String} {kind : ContentKind} (hkind : kind = .unknown)
    (h : (ofMedia? word).getD kind ∈ files) : word ∈ fileWords := by
  cases hword : ofMedia? word with
  | some k => exact mem_fileWords_of_ofMedia? hword
  | none =>
    rw [hword, hkind] at h
    exact absurd h unknown_not_file

end ContentKind

theorem placeholder_not_blank (word : String) : Text.isBlank (placeholder word) = false :=
  Text.not_blank_of_mem (c := '[') (by simp [placeholder]) (by decide)

/-- No file is labelled as what is not understood. -/
theorem placeholder_ne_unknown {word : String} (h : word ∈ ContentKind.fileWords) :
    placeholder word ≠ placeholder "unknown" := by
  revert word
  decide +kernel

namespace Inbound

-- ---------------------------------------------------------------------------
-- Files in payloads
-- ---------------------------------------------------------------------------

/-- A file as a payload tells of it: the word for its kind, and the text beside it. -/
structure Attached where
  word : String
  caption : Option String

/-- There is no text beside the file, or nothing in it. -/
def Attached.Silent (f : Attached) : Prop := ∀ t, f.caption = some t → Text.isBlank t = true

def WhatsApp.attached? (v : Json) : Option Attached :=
  (textAt? v ["type"]).map fun word => ⟨word, textAt? v [word, "caption"]⟩

def Meta.attached? (event : Json) : Option Attached :=
  let content := partOf event "message"
  (itemsOf content "attachments").head?.map fun file =>
    ⟨textAtOr file ["type"] "unknown", textAt? content ["text"]⟩

def Telegram.attached? (v : Json) : Option Attached :=
  ((Update.ofJson? v).bind fun update => update.message.or update.edited).bind fun c =>
    c.file?.map fun file => ⟨file.1, c.caption⟩

def X.attached? (event : Json) : Option Attached :=
  let data := partOf (partOf event "message_create") "message_data"
  (data.at? ["attachment", "media"]).map fun file =>
    ⟨textAtOr file ["type"] "image", textAt? data ["text"]⟩

/-- Events of TikTok have no texts beside files. -/
def TikTok.attached? (event : Json) : Option Attached :=
  let v := content event
  ((textAt? v ["message", "type"]).or (textAt? v ["type"])).map fun word => ⟨word, none⟩

/-- A message as a source reads it, and the file in what it is given. -/
inductive Source.Attaches (received : Time.Instant) : Source → Message → Attached → Prop
  | whatsApp (name : Option String) (channel : Option Json) {v : Json} {f : Attached}
      (found : WhatsApp.attached? v = some f) :
    Attaches received .whatsApp (WhatsApp.message received name channel v) f
  | page (p : Platform) {event : Json} {f : Attached} (found : Meta.attached? event = some f) :
    Attaches received (.page p) (Meta.message received p event) f
  | telegram {v : Json} {f : Attached} (found : Telegram.attached? v = some f) :
    Attaches received .telegram (Telegram.message received v) f
  | x {own : Option String} {users : Option Json} {event : Json} {m : Message} {f : Attached}
      (read : X.message? received own users event = some m) (found : X.attached? event = some f) :
    Attaches received .x m f
  | tikTok {event : Json} {f : Attached} (found : TikTok.attached? event = some f) :
    Attaches received .tikTok (TikTok.message received event) f

-- ---------------------------------------------------------------------------
-- What files are shown by
-- ---------------------------------------------------------------------------

/-- What a file is shown by that is not silent. -/
def Attached.label (f : Attached) (silent : String) : String :=
  (f.caption.filter fun t => !Text.isBlank t).getD silent

/-- A message shows the file by its text, and by a label of its kind if it is silent. -/
structure Labelled (f : Attached) (m : Message) : Prop where
  word : f.word ∈ ContentKind.fileWords
  text : m.text = f.label (placeholder f.word)

theorem at?_partOf (v : Json) (name next : String) (path : List String) :
    (partOf v name).at? (next :: path) = v.at? (name :: next :: path) := by
  unfold partOf
  rw [Json.at?, Json.at?]
  cases v.field? name <;> rfl

theorem textAt?_partOf (v : Json) (name next : String) (path : List String) :
    textAt? (partOf v name) (next :: path) = textAt? v (name :: next :: path) := by
  rw [textAt?, textAt?, at?_partOf]

variable {received : Time.Instant}

theorem WhatsApp.word_of_mediaKinds {v : Json} {word : String} (hmem : word ∈ mediaKinds)
    (h : textAtOr v ["type"] "unknown" = word) : textAt? v ["type"] = some word := by
  unfold textAtOr at h
  cases htype : textAt? v ["type"] with
  | some w => rw [htype] at h; exact congrArg some h
  | none =>
    rw [htype] at h
    subst h
    exact absurd hmem (by decide)

theorem WhatsApp.labelled {name : Option String} {channel : Option Json} {v : Json}
    (h : (WhatsApp.message received name channel v).kind ∈ ContentKind.files) :
    ∃ f, attached? v = some f ∧ Labelled f (WhatsApp.message received name channel v) := by
  unfold message at h ⊢
  dsimp only at h ⊢
  have hm : (envelope received name channel (textAtOr v ["type"] "unknown") v).kind = .unknown :=
    rfl
  generalize envelope received name channel (textAtOr v ["type"] "unknown") v = m at h hm ⊢
  generalize hkind : textAtOr v ["type"] "unknown" = kind at h ⊢
  have hunknown : m.kind ∉ ContentKind.files := hm ▸ ContentKind.unknown_not_file
  split at h
  · exact absurd h ContentKind.text_not_file
  · unfold withInteractive at h
    dsimp only at h
    split at h
    · exact absurd h hunknown
    · exact absurd h ContentKind.text_not_file
  · exact absurd h ContentKind.text_not_file
  · unfold withPlace at h
    split at h
    · exact absurd h ContentKind.location_not_file
    · exact absurd h hunknown
  · split at h
    next hmedia =>
      have hmem : kind ∈ mediaKinds := List.contains_iff_mem.1 hmedia
      have hfound : attached? v = some ⟨kind, textAt? v [kind, "caption"]⟩ := by
        rw [attached?, word_of_mediaKinds hmem hkind, Option.map_some]
      refine ⟨_, hfound, (by decide : ∀ w ∈ mediaKinds, w ∈ ContentKind.fileWords) kind hmem, ?_⟩
      rw [if_pos hmedia, withMedia, textAt?_partOf]
      rfl
    next => exact absurd h hunknown

theorem Meta.labelled {p : Platform} {event : Json}
    (h : (Meta.message received p event).kind ∈ ContentKind.files) :
    ∃ f, attached? event = some f ∧ Labelled f (Meta.message received p event) := by
  unfold message at h ⊢
  dsimp only at h ⊢
  have hm : (envelope received p event).kind = .unknown := rfl
  generalize envelope received p event = m at h hm ⊢
  have hunknown : m.kind ∉ ContentKind.files := hm ▸ ContentKind.unknown_not_file
  split at h
  · exact absurd h ContentKind.text_not_file
  next content _ hcontent =>
    unfold withContent at h ⊢
    dsimp only at h ⊢
    split at h
    · exact absurd h ContentKind.text_not_file
    next file htext hfile =>
      have hpart : partOf event "message" = content := by rw [partOf, hcontent]; rfl
      have hfound : attached? event = some ⟨textAtOr file ["type"] "unknown", none⟩ := by
        rw [attached?, hpart, hfile, htext]
        rfl
      exact ⟨_, hfound, ContentKind.mem_fileWords_of_getD hm h, rfl⟩
    · exact absurd h hunknown
  · exact absurd h hunknown

theorem Telegram.mem_fileWords_of_file? {c : Content} {word file : String}
    (h : c.file? = some (word, file)) : word ∈ ContentKind.fileWords := by
  obtain ⟨⟨kind, found⟩, hmem, hfile⟩ := List.exists_of_findSome?_eq_some h
  obtain ⟨f, -, hpair⟩ := Option.map_eq_some_iff.1 hfile
  obtain ⟨rfl, -⟩ := Prod.mk.inj hpair
  have hwords : ∀ x ∈ [("photo", c.photo.getLast?), ("video", c.video), ("voice", c.voice),
      ("audio", c.audio), ("document", c.document), ("sticker", c.sticker)],
      x.1 ∈ ContentKind.fileWords := by
    simp only [List.forall_mem_cons]
    decide
  exact hwords _ hmem

theorem Telegram.labelled {v : Json}
    (h : (Telegram.message received v).kind ∈ ContentKind.files) :
    ∃ f, attached? v = some f ∧ Labelled f (Telegram.message received v) := by
  unfold message at h ⊢
  dsimp only at h ⊢
  split at h
  · exact absurd h ContentKind.text_not_file
  next c hpress hc =>
    have hcontent : ((Update.ofJson? v).bind fun update => update.message.or update.edited) =
        some c := by
      cases hu : Update.ofJson? v with
      | none => rw [hu] at hc; cases hc
      | some update => rw [hu] at hc; exact hc
    unfold ofContent withContent at h ⊢
    dsimp only at h ⊢
    split at h
    · exact absurd h ContentKind.text_not_file
    next word file htext hfile =>
      have hfound : attached? v = some ⟨word, c.caption⟩ := by
        rw [attached?, hcontent, Option.bind_some, hfile]
        rfl
      exact ⟨_, hfound, mem_fileWords_of_file? hfile, rfl⟩
    · exact absurd h ContentKind.location_not_file
    · exact absurd h ContentKind.unknown_not_file
  · exact absurd h ContentKind.unknown_not_file

theorem TikTok.labelled {event : Json}
    (h : (TikTok.message received event).kind ∈ ContentKind.files) :
    ∃ f, attached? event = some f ∧ Labelled f (TikTok.message received event) := by
  have hfound : ∀ word, word ≠ "unknown" →
      ((textAt? (content event) ["message", "type"]).or
        (textAt? (content event) ["type"])).getD "unknown" = word →
      attached? event = some ⟨word, none⟩ := by
    intro word hne hword
    unfold attached?
    dsimp only
    cases hor : (textAt? (content event) ["message", "type"]).or
        (textAt? (content event) ["type"]) with
    | none => rw [hor] at hword; exact absurd hword.symm hne
    | some w => rw [hor] at hword; rw [← hword]; rfl
  unfold message at h ⊢
  dsimp only at h ⊢
  generalize Option.getD _ "unknown" = kind at h hfound ⊢
  split at h
  · exact absurd h ContentKind.text_not_file
  · exact ⟨_, hfound "image" (by decide) rfl, by decide, rfl⟩
  · exact ⟨_, hfound "video" (by decide) rfl, by decide, rfl⟩
  · exact absurd h ContentKind.unknown_not_file

/-- A file without a text is shown on X as if it were not understood, and blanks are its text. -/
theorem X.labelled {own : Option String} {users : Option Json} {event : Json} {m : Message}
    (read : X.message? received own users event = some m) (h : m.kind ∈ ContentKind.files) :
    ∃ f, attached? event = some f ∧ f.word ∈ ContentKind.fileWords ∧
      m.text = (f.caption.filter fun t => !t.isEmpty).getD (placeholder "unknown") := by
  have hword : ∀ word, mediaKind word ∈ ContentKind.files → word ∈ ContentKind.fileWords := by
    intro word hkind
    unfold mediaKind at hkind
    split at hkind
    next hpicture => rcases hpicture with rfl | rfl <;> decide
    next => exact ContentKind.mem_fileWords_of_getD rfl hkind
  have htext : ∀ caption : Option String,
      (if (caption.getD "").isEmpty then placeholder "unknown" else caption.getD "") =
        (caption.filter fun t => !t.isEmpty).getD (placeholder "unknown") := by
    intro caption
    cases caption with
    | none => rfl
    | some t =>
      rw [Option.getD_some, Option.filter_some]
      cases t.isEmpty <;> rfl
  unfold message? at read
  dsimp only at read
  split at read
  · cases read
  · split at read
    · cases read
    · obtain rfl := Option.some.inj read
      unfold withContent at h ⊢
      dsimp only at h ⊢
      split at h
      next file hfile =>
        refine ⟨_, by rw [attached?, hfile]; rfl, hword _ h, ?_⟩
        exact htext _
      · exact absurd h ContentKind.text_not_file
      · exact absurd h ContentKind.unknown_not_file

theorem Attached.label_of_silent {f : Attached} (h : f.Silent) (silent : String) :
    f.label silent = silent := by
  unfold label
  rw [Option.filter_eq_none_iff.2 fun t ht => by simp [h t ht], Option.getD_none]

theorem Attached.label_of_caption {f : Attached} {t : String} (ht : f.caption = some t)
    (h : Text.isBlank t = false) (silent : String) : f.label silent = t := by
  rw [label, ht, Option.filter_some, h]
  rfl

/-- How a source shows a file by a text: by what is beside it, and if that is nothing by a label of
its kind, which is never that of what is not understood. On X alone a silent file is shown as what
is not understood, or by the blanks beside it. -/
structure Source.Shows (s : Source) (f : Attached) (text : String) : Prop where
  kind : placeholder f.word ≠ placeholder "unknown"
  captioned : ∀ t, f.caption = some t → Text.isBlank t = false → text = t
  silent : s ≠ .x → f.Silent → text = placeholder f.word
  silentOnX : s = .x → f.Silent → text ≠ placeholder f.word ∧
    text = (f.caption.filter fun t => !t.isEmpty).getD (placeholder "unknown")

theorem Labelled.shows {s : Source} {f : Attached} {m : Message} (h : Labelled f m) (hs : s ≠ .x) :
    s.Shows f m.text where
  kind := placeholder_ne_unknown h.word
  captioned _ ht hblank := h.text.trans (Attached.label_of_caption ht hblank _)
  silent _ hsilent := h.text.trans (Attached.label_of_silent hsilent _)
  silentOnX hx := absurd hx hs

theorem X.shows {f : Attached} {text : String} (hword : f.word ∈ ContentKind.fileWords)
    (htext : text = (f.caption.filter fun t => !t.isEmpty).getD (placeholder "unknown")) :
    Source.Shows .x f text := by
  have hkind := placeholder_ne_unknown hword
  refine ⟨hkind, fun t ht hblank => ?_, fun hx => absurd rfl hx, fun _ hsilent => ⟨?_, htext⟩⟩
  · have hempty : t.isEmpty = false := by
      rw [Bool.eq_false_iff, ne_eq, String.isEmpty_iff]
      rintro rfl
      cases hblank
    rw [htext, ht, Option.filter_some, hempty]
    rfl
  · rw [htext]
    cases hcaption : f.caption with
    | none => exact hkind.symm
    | some t =>
      rw [Option.filter_some]
      cases t.isEmpty with
      | true => exact hkind.symm
      | false =>
        rintro (rfl : t = placeholder f.word)
        have hblank := hsilent _ hcaption
        rw [placeholder_not_blank] at hblank
        cases hblank

variable (received)

/-- Whatever a webhook brings that is a file is one that the payload tells of, and is shown by the
text beside it or by a label. -/
theorem files_labelled :
    (∀ m, Brings received m → m.kind ∈ ContentKind.files →
      ∃ s f, Source.Attaches received s m f) ∧
    ∀ s m f, Source.Attaches received s m f → m.kind ∈ ContentKind.files → s.Shows f m.text := by
  constructor
  · intro m hbrings hfile
    obtain ⟨s, hread⟩ := hbrings.read
    cases hread with
    | whatsApp name channel v =>
      obtain ⟨f, hfound, -⟩ := WhatsApp.labelled hfile
      exact ⟨_, f, .whatsApp name channel hfound⟩
    | page p event =>
      obtain ⟨f, hfound, -⟩ := Meta.labelled hfile
      exact ⟨_, f, .page p hfound⟩
    | comments p v => exact absurd hfile ContentKind.comment_not_file
    | telegram v =>
      obtain ⟨f, hfound, -⟩ := Telegram.labelled hfile
      exact ⟨_, f, .telegram hfound⟩
    | x read =>
      obtain ⟨f, hfound, -⟩ := X.labelled read hfile
      exact ⟨_, f, .x read hfound⟩
    | tikTok event =>
      obtain ⟨f, hfound, -⟩ := TikTok.labelled hfile
      exact ⟨_, f, .tikTok hfound⟩
    | webChat v =>
      unfold WebChat.message at hfile
      split at hfile
      · exact absurd hfile ContentKind.text_not_file
      · exact absurd hfile ContentKind.unknown_not_file
  · intro s m f hattaches hfile
    cases hattaches with
    | whatsApp name channel found =>
      obtain ⟨f', hfound, h⟩ := WhatsApp.labelled hfile
      obtain rfl := Option.some.inj (hfound.symm.trans found)
      exact h.shows (by simp)
    | page p found =>
      obtain ⟨f', hfound, h⟩ := Meta.labelled hfile
      obtain rfl := Option.some.inj (hfound.symm.trans found)
      exact h.shows (by simp)
    | telegram found =>
      obtain ⟨f', hfound, h⟩ := Telegram.labelled hfile
      obtain rfl := Option.some.inj (hfound.symm.trans found)
      exact h.shows (by simp)
    | tikTok found =>
      obtain ⟨f', hfound, h⟩ := TikTok.labelled hfile
      obtain rfl := Option.some.inj (hfound.symm.trans found)
      exact h.shows (by simp)
    | x read found =>
      obtain ⟨f', hfound, hword, htext⟩ := X.labelled read hfile
      obtain rfl := Option.some.inj (hfound.symm.trans found)
      exact X.shows hword htext

-- ---------------------------------------------------------------------------
-- A photo and a video
-- ---------------------------------------------------------------------------

/-- A photo on Telegram, with a caption of blanks. -/
def photoUpdate : Json := Json.object [
  ("message", Json.object [
    ("chat", Json.object [("id", Json.ofInt 9)]), ("caption", .str " "),
    ("photo", .arr [Json.object [("file_id", .str "p1")]])])]

/-- A video on X without a text. -/
def videoEvent : Json := Json.object [
  ("type", .str "message_create"),
  ("message_create", Json.object [
    ("sender_id", .str "200"),
    ("message_data", Json.object [
      ("attachment", Json.object [("media", Json.object [("type", .str "video")])])])])]

theorem files_labelled_photo :
    Source.Attaches ⟨0, 0⟩ .telegram (Telegram.message ⟨0, 0⟩ photoUpdate) ⟨"photo", some " "⟩ ∧
      (Telegram.message ⟨0, 0⟩ photoUpdate).kind ∈ ContentKind.files ∧
      (Telegram.message ⟨0, 0⟩ photoUpdate).text = "[PHOTO]" := by
  have hattaches : Source.Attaches ⟨0, 0⟩ .telegram (Telegram.message ⟨0, 0⟩ photoUpdate)
    ⟨"photo", some " "⟩ := .telegram rfl
  have hkind : (Telegram.message ⟨0, 0⟩ photoUpdate).kind ∈ ContentKind.files := by
    decide +kernel
  refine ⟨hattaches, hkind, ?_⟩
  have hshows := (files_labelled ⟨0, 0⟩).2 _ _ _ hattaches hkind
  have hsilent : Attached.Silent ⟨"photo", some " "⟩ := by
    intro t ht
    obtain rfl := Option.some.inj ht
    decide
  rw [hshows.silent (by simp) hsilent]
  decide +kernel

/-- The video is read as one, and shown as what is not understood. -/
theorem video_unlabelled :
    ∃ m, X.message? ⟨0, 0⟩ none none videoEvent = some m ∧
      Source.Attaches ⟨0, 0⟩ .x m ⟨"video", none⟩ ∧ m.kind = .video ∧
      m.text = "[UNKNOWN]" ∧ m.text ≠ placeholder "video" := by
  have hread : ∃ m, X.message? ⟨0, 0⟩ none none videoEvent = some m ∧ m.kind = .video ∧
      m.text = "[UNKNOWN]" := ⟨_, rfl, by decide +kernel, by decide +kernel⟩
  obtain ⟨m, hm, hkind, htext⟩ := hread
  refine ⟨m, hm, .x hm rfl, hkind, htext, ?_⟩
  rw [htext]
  decide +kernel

end Inbound

end Switchboard
