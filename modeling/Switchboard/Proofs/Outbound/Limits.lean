import Mathlib.Data.List.Forall2
import Switchboard.Outbound.Connector
import Switchboard.Proofs.Json.Records
import Switchboard.Proofs.Outbound.Labels

/-!
# Options within the limits of platforms

Every platform takes so many options and labels of such a length. What goes out is said here by what
the payload shows, read from the outside: the first options in their order, under the section they
belong to, with labels cut to the room there is; and on Messenger and Instagram, if there are more
rows than quick replies, a text with all of them (`options_within_limits`).
-/

namespace Switchboard

-- ---------------------------------------------------------------------------
-- What a payload shows
-- ---------------------------------------------------------------------------

namespace Json

variable {α : Type}

def ShowsText (v : Json) (path : List String) (s : String) : Prop := v.at? path = some (.str s)

/-- A text at a path, cut to so many characters. -/
def ShowsCut (v : Json) (path : List String) (max : Nat) (s : String) : Prop :=
  ∃ t, v.ShowsText path t ∧ Text.CutTo max s t

/-- A list at a path, with one item for each element. -/
def ShowsEach (v : Json) (path : List String) (shows : α → Json → Prop) (xs : List α) : Prop :=
  ∃ items, v.at? path = some (.arr items) ∧ List.Forall₂ shows xs items

@[simp] theorem at?_nil (v : Json) : v.at? [] = some v := rfl

@[simp] theorem at?_object (members : List (String × Json)) (name : String) (path : List String) :
    (object members).at? (name :: path) = (member? members name).bind fun w => w.at? path := by
  rw [at?, field?_object]
  rfl

theorem showsCut_takeChars {v : Json} {path : List String} {s : String} {max : Nat}
    (h : v.at? path = some (.str (Text.takeChars s max))) : v.ShowsCut path max s :=
  ⟨_, h, Text.longestStart_takeChars s max⟩

theorem showsEach_map {v : Json} {path : List String} {shows : α → Json → Prop}
    {write : α → Json} {xs : List α} (h : v.at? path = some (.arr (xs.map write)))
    (hshows : ∀ x, shows x (write x)) : v.ShowsEach path shows xs := by
  refine ⟨_, h, ?_⟩
  rw [List.forall₂_map_right_iff, List.forall₂_same]
  exact fun x _ => hshows x

end Json

-- ---------------------------------------------------------------------------
-- The first rows of sections
-- ---------------------------------------------------------------------------

namespace Section

/-- The rows of sections that have a place each, with the place of their section. -/
def filed (sections : List (Section × Nat)) : List (Row × Nat) :=
  sections.flatMap fun x => x.1.rows.map fun r => (r, x.2)

/-- The first rows of all sections, each under its own section, and no section without rows. -/
structure FirstRows (max : Nat) (sections shown : List (Section × Nat)) : Prop where
  rows : filed shown = (filed sections).take max
  own : ∀ x ∈ shown, ∃ y ∈ sections, x.2 = y.2 ∧ x.1.title = y.1.title
  ascending : (shown.map Prod.snd).Pairwise (· < ·)
  filled : ∀ x ∈ shown, x.1.rows ≠ []

theorem FirstRows.skip {max : Nat} {s : Section} {place : Nat}
    {sections shown : List (Section × Nat)} (h : FirstRows max sections shown)
    (hnone : s.rows.take max = []) : FirstRows max ((s, place) :: sections) shown where
  rows := by
    rw [h.rows, filed, filed, List.flatMap_cons, List.take_append]
    -- either there is no room left or the section has no rows
    rcases List.take_eq_nil_iff.1 hnone with rfl | hrows
    · simp
    · simp [hrows]
  own x hx := by
    obtain ⟨y, hy, hown⟩ := h.own x hx
    exact ⟨y, List.mem_cons_of_mem _ hy, hown⟩
  ascending := h.ascending
  filled := h.filled

theorem FirstRows.cons {max : Nat} {s : Section} {place : Nat}
    {sections shown : List (Section × Nat)}
    (h : FirstRows (max - (s.rows.take max).length) sections shown)
    (hsome : s.rows.take max ≠ []) (hbehind : ∀ y ∈ sections, place < y.2) :
    FirstRows max ((s, place) :: sections) ((⟨s.title, s.rows.take max⟩, place) :: shown) where
  rows := by
    have hroom : max - (s.rows.take max).length = max - s.rows.length := by
      rw [List.length_take]
      omega
    have hrows := h.rows
    rw [hroom] at hrows
    unfold filed at hrows ⊢
    simp only [List.flatMap_cons, List.take_append, List.length_map, List.map_take, hrows]
  own := by
    intro x hx
    rcases List.mem_cons.1 hx with rfl | hx
    · exact ⟨(s, place), List.mem_cons_self, rfl, rfl⟩
    · obtain ⟨y, hy, hown⟩ := h.own x hx
      exact ⟨y, List.mem_cons_of_mem _ hy, hown⟩
  ascending := by
    refine List.pairwise_cons.2 ⟨fun later hlater => ?_, h.ascending⟩
    obtain ⟨x, hx, rfl⟩ := List.mem_map.1 hlater
    obtain ⟨y, hy, hplace, -⟩ := h.own x hx
    rw [hplace]
    exact hbehind y hy
  filled := by
    intro x hx
    rcases List.mem_cons.1 hx with rfl | hx
    · exact hsome
    · exact h.filled x hx

end Section

namespace Outbound

open Json (member?)

theorem WhatsApp.firstRows_fitSections (room place : Nat) (sections : List Section) :
    ∃ shown, shown.map Prod.fst = fitSections room sections ∧
      Section.FirstRows room (sections.zipIdx place) shown := by
  induction sections generalizing room place with
  | nil => exact ⟨[], rfl, by simp [Section.filed], by simp, .nil, by simp⟩
  | cons s sections ih =>
    rw [fitSections, List.zipIdx_cons]
    split
    next hnone =>
      obtain ⟨shown, hshown, hfirst⟩ := ih room (place + 1)
      exact ⟨shown, hshown, hfirst.skip hnone⟩
    next hsome =>
      obtain ⟨shown, hshown, hfirst⟩ := ih (room - (s.rows.take room).length) (place + 1)
      refine ⟨_, ?_, hfirst.cons hsome fun y hy => (List.mem_zipIdx hy).1⟩
      rw [List.map_cons, hshown]

-- ---------------------------------------------------------------------------
-- WhatsApp
-- ---------------------------------------------------------------------------

namespace WhatsApp

structure ShowsRow (r : Row) (v : Json) : Prop where
  id : v.ShowsCut ["id"] 200 r.id
  title : v.ShowsCut ["title"] 24 r.title
  description : ∀ d, r.description = some d → v.ShowsCut ["description"] 72 d
  undescribed : r.description = none → v.at? ["description"] = none

structure ShowsSection (s : Section) (v : Json) : Prop where
  title : v.ShowsCut ["title"] 24 s.title
  rows : v.ShowsEach ["rows"] ShowsRow s.rows

structure ShowsList (text label : String) (sections : List Section) (payload : Json) : Prop where
  kind : payload.ShowsText ["interactive", "type"] "list"
  text : payload.ShowsText ["interactive", "body", "text"] text
  label : payload.ShowsCut ["interactive", "action", "button"] 20 label
  sections : ∃ shown, Section.FirstRows 10 sections.zipIdx shown ∧
    payload.ShowsEach ["interactive", "action", "sections"] ShowsSection (shown.map Prod.fst)

structure ShowsButton (b : Button) (v : Json) : Prop where
  kind : v.ShowsText ["type"] "reply"
  id : v.ShowsText ["reply", "id"] b.id
  title : v.ShowsCut ["reply", "title"] 20 b.title

structure ShowsButtons (text : String) (buttons : List Button) (payload : Json) : Prop where
  kind : payload.ShowsText ["interactive", "type"] "button"
  text : payload.ShowsText ["interactive", "body", "text"] text
  buttons : payload.ShowsEach ["interactive", "action", "buttons"] ShowsButton buttons

theorem showsRow_rowJson (r : Row) : ShowsRow r (rowJson r) := by
  unfold rowJson
  constructor
  · exact Json.showsCut_takeChars (by simp)
  · exact Json.showsCut_takeChars (by simp)
  · intro d hd
    exact Json.showsCut_takeChars (by simp [hd])
  · intro hd
    simp [hd]

theorem showsSection_sectionJson (s : Section) : ShowsSection s (sectionJson s) := by
  unfold sectionJson
  constructor
  · exact Json.showsCut_takeChars (by simp)
  · exact Json.showsEach_map (by simp) showsRow_rowJson

theorem at?_envelope (recipient : String) (body : Json) (path : List String) :
    (envelope recipient "interactive" body).at? ("interactive" :: path) = body.at? path := by
  unfold envelope
  rw [Json.at?_object]
  simp

theorem showsList_listBody (recipient text label : String) (sections : List Section) :
    ShowsList text label sections
      (envelope recipient "interactive" (listBody text label sections)) := by
  unfold listBody
  constructor
  · simp [Json.ShowsText, at?_envelope]
  · simp [Json.ShowsText, at?_envelope]
  · exact Json.showsCut_takeChars (by simp [at?_envelope])
  · obtain ⟨shown, hshown, hfirst⟩ := firstRows_fitSections 10 0 sections
    refine ⟨shown, hfirst, ?_⟩
    rw [hshown]
    exact Json.showsEach_map (by simp [at?_envelope, maxRows])
      showsSection_sectionJson

theorem showsButton_buttonJson (b : Button) : ShowsButton b (buttonJson b) := by
  unfold buttonJson
  constructor
  · simp [Json.ShowsText]
  · simp [Json.ShowsText]
  · exact Json.showsCut_takeChars (by simp)

theorem showsButtons_buttonsBody (recipient text : String) (buttons : List Button) :
    ShowsButtons text buttons (envelope recipient "interactive" (buttonsBody text buttons)) := by
  unfold buttonsBody
  constructor
  · simp [Json.ShowsText, at?_envelope]
  · simp [Json.ShowsText, at?_envelope]
  · exact Json.showsEach_map (by simp [at?_envelope])
      showsButton_buttonJson

end WhatsApp

-- ---------------------------------------------------------------------------
-- Messenger and Instagram
-- ---------------------------------------------------------------------------

/-- A part of a menu that is written as a text. -/
inductive MenuPart where
  | heading (title : String)
  | line (number : Nat) (row : Row)

namespace MenuPart

def written : MenuPart → String
  | heading title => "\n\n*" ++ title ++ "*"
  | line number row => row.menuLine number

def content : MenuPart → String ⊕ Row
  | heading title => .inl title
  | line _ row => .inr row

def number? : MenuPart → Option Nat
  | heading _ => none
  | line number _ => some number

/-- The lines of rows that are numbered from a number on. -/
def lines (first : Nat) (rows : List Row) : List MenuPart :=
  (rows.zipIdx first).map fun x => line x.2 x.1

theorem content_lines (first : Nat) (rows : List Row) :
    (lines first rows).map content = rows.map .inr :=
  calc (lines first rows).map content
    _ = ((rows.zipIdx first).map Prod.fst).map .inr := by
      rw [lines, List.map_map, List.map_map]
      rfl
    _ = rows.map .inr := by rw [List.zipIdx_map_fst]

theorem number?_lines (first : Nat) (rows : List Row) :
    (lines first rows).filterMap number? = List.range' first rows.length :=
  calc (lines first rows).filterMap number?
    _ = (rows.zipIdx first).map Prod.snd := by
      rw [lines, List.filterMap_map, ← List.filterMap_eq_map]
      rfl
    _ = List.range' first rows.length := List.zipIdx_map_snd first rows

theorem written_lines (numbered : Nat) (rows : List Row) :
    (lines (numbered + 1) rows).map written =
      rows.zipIdx.map fun (row, place) => row.menuLine (numbered + place + 1) := by
  rw [lines, List.zipIdx_eq_map_add, List.map_map, List.map_map]
  refine List.map_congr_left fun x _ => ?_
  show x.1.menuLine (numbered + 1 + x.2) = x.1.menuLine (numbered + x.2 + 1)
  rw [Nat.add_right_comm]

end MenuPart

/-- A menu with every row once, under the heading of its section, and the rows numbered through. -/
structure IsMenu (first : Nat) (sections : List Section) (parts : List MenuPart) : Prop where
  contents : parts.map MenuPart.content =
    sections.flatMap fun s => .inl s.title :: s.rows.map .inr
  numbers : parts.filterMap MenuPart.number? =
    List.range' first (Section.allRows sections).length

theorem isMenu_menuSections (numbered : Nat) (sections : List Section) :
    ∃ parts, IsMenu (numbered + 1) sections parts ∧
      menuSections numbered sections = String.join (parts.map MenuPart.written) := by
  induction sections generalizing numbered with
  | nil => exact ⟨[], ⟨rfl, rfl⟩, rfl⟩
  | cons s sections ih =>
    obtain ⟨parts, hmenu, hwritten⟩ := ih (numbered + s.rows.length)
    refine ⟨.heading s.title :: (MenuPart.lines (numbered + 1) s.rows ++ parts), ⟨?_, ?_⟩, ?_⟩
    · rw [List.map_cons, List.map_append, MenuPart.content_lines, hmenu.contents]
      rfl
    · have hrows : (Section.allRows (s :: sections)).length =
          s.rows.length + (Section.allRows sections).length := List.length_append
      rw [List.filterMap_cons_none rfl, List.filterMap_append, MenuPart.number?_lines,
        hmenu.numbers, hrows, ← List.range'_append]
      congr 2
      omega
    · rw [menuSections, Section.menuLines, ← MenuPart.written_lines, hwritten, List.map_cons,
        List.map_append, String.join_cons, String.join_append, MenuPart.written]
      simp only [String.append_assoc]

namespace Meta

structure ShowsReply (id title : String) (v : Json) : Prop where
  kind : v.ShowsText ["content_type"] "text"
  payload : v.ShowsText ["payload"] id
  title : v.ShowsCut ["title"] 20 title

/-- A text with quick replies, each for an option that is given by its id and title. -/
structure ShowsReplies (text : String) (options : List (String × String)) (payload : Json) :
    Prop where
  text : payload.ShowsText ["message", "text"] text
  replies : payload.ShowsEach ["message", "quick_replies"]
    (fun option => ShowsReply option.1 option.2) options

/-- A text with a menu below it, and nothing else. -/
structure ShowsMenu (text : String) (sections : List Section) (payload : Json) : Prop where
  text : ∃ parts, IsMenu 1 sections parts ∧ payload.ShowsText ["message", "text"]
    (text ++ String.join (parts.map MenuPart.written))
  alone : payload.at? ["message", "quick_replies"] = none

def envelope (recipient : String) (message : Json) : Json :=
  Json.object [
    ("recipient", Json.object [("id", .str recipient)]),
    ("messaging_type", .str "RESPONSE"),
    ("message", message)]

theorem at?_envelope (recipient : String) (message : Json) (path : List String) :
    (envelope recipient message).at? ("message" :: path) = message.at? path := by
  unfold envelope
  rw [Json.at?_object]
  simp

theorem showsReply_replyJson (option : String × String) :
    ShowsReply option.1 option.2 (replyJson option) := by
  unfold replyJson
  constructor
  · simp [Json.ShowsText]
  · simp [Json.ShowsText]
  · exact Json.showsCut_takeChars (by simp)

theorem showsReplies_quickReplies (recipient text : String) (options : List (String × String)) :
    ShowsReplies text options (envelope recipient (quickReplies text options)) := by
  unfold quickReplies
  constructor
  · simp [Json.ShowsText, at?_envelope]
  · exact Json.showsEach_map (by simp [at?_envelope]) showsReply_replyJson

theorem showsMenu_numberedMenu (recipient text : String) (sections : List Section) :
    ShowsMenu text sections
      (envelope recipient (textMessage (numberedMenu text sections))) := by
  obtain ⟨parts, hmenu, hwritten⟩ := isMenu_menuSections 0 sections
  unfold textMessage
  constructor
  · refine ⟨parts, hmenu, ?_⟩
    simp [Json.ShowsText, at?_envelope, numberedMenu, hwritten]
  · simp [at?_envelope]

end Meta

-- ---------------------------------------------------------------------------
-- Telegram
-- ---------------------------------------------------------------------------

namespace Telegram

/-- One key in a row of its own. -/
def ShowsKey (id title : String) (v : Json) : Prop :=
  ∃ key data, v = .arr [key] ∧ key.ShowsText ["text"] title ∧
    key.ShowsText ["callback_data"] data ∧
    Text.LongestStart (fun s => s.utf8ByteSize ≤ 64) id data

structure ShowsKeys (text : String) (options : List (String × String)) (payload : Json) :
    Prop where
  text : payload.ShowsText ["text"] text
  keys : payload.ShowsEach ["reply_markup", "inline_keyboard"]
    (fun option => ShowsKey option.1 option.2) options

theorem showsKey_keyJson (option : String × String) :
    ShowsKey option.1 option.2 (keyJson option) := by
  refine ⟨_, _, rfl, ?_, ?_, longestStart_takeBytes option.1 64⟩
  · simp [Json.ShowsText]
  · simp [Json.ShowsText, maxData]

theorem showsKeys_keyboardMessage (recipient text : String) (options : List (String × String)) :
    ShowsKeys text options (keyboardMessage recipient text options) := by
  unfold keyboardMessage
  constructor
  · simp [Json.ShowsText]
  · exact Json.showsEach_map (by simp) showsKey_keyJson

end Telegram

-- ---------------------------------------------------------------------------
-- All platforms
-- ---------------------------------------------------------------------------

/-- Whatever the text, the label and the options are, one post goes out, and it shows the first
options in their order, as many and with labels as long as the platform takes. -/
theorem options_within_limits (recipient text label : String) (buttons : List Button)
    (sections : List Section) :
    (∀ base phoneId token,
      (∃ post, (Connector.whatsApp base phoneId token).posts
          (.list recipient text label sections) = [post] ∧
        WhatsApp.ShowsList text label sections post.payload) ∧
      ∃ post, (Connector.whatsApp base phoneId token).posts
          (.buttons recipient text buttons) = [post] ∧
        if 3 < buttons.length then
          WhatsApp.ShowsList text "Ver opciones"
            [⟨"Opciones", buttons.map fun b => ⟨b.id, b.title, none⟩⟩] post.payload
        else WhatsApp.ShowsButtons text buttons post.payload) ∧
    (∀ p base token,
      (∃ post, (Connector.page p base token).posts (.buttons recipient text buttons) = [post] ∧
        Meta.ShowsReplies text ((buttons.take 13).map fun b => (b.id, b.title)) post.payload) ∧
      ∃ post, (Connector.page p base token).posts
          (.list recipient text label sections) = [post] ∧
        if (Section.allRows sections).length ≤ 13 then
          Meta.ShowsReplies text ((Section.allRows sections).map fun r => (r.id, r.title))
            post.payload
        else Meta.ShowsMenu text sections post.payload) ∧
    ∀ base token,
      (∃ post, (Connector.telegram base token).posts (.buttons recipient text buttons) = [post] ∧
        Telegram.ShowsKeys text (buttons.map fun b => (b.id, b.title)) post.payload) ∧
      ∃ post, (Connector.telegram base token).posts
          (.list recipient text label sections) = [post] ∧
        Telegram.ShowsKeys text ((Section.allRows sections).map fun r => (r.id, r.title))
          post.payload := by
  refine ⟨fun base phoneId token => ⟨⟨_, rfl, ?_⟩, ⟨_, rfl, ?_⟩⟩,
    fun p base token => ⟨⟨_, rfl, ?_⟩, ⟨_, rfl, ?_⟩⟩, fun base token => ⟨⟨_, rfl, ?_⟩, ⟨_, rfl, ?_⟩⟩⟩
  · exact WhatsApp.showsList_listBody recipient text label sections
  · rw [WhatsApp.payload, WhatsApp.maxButtons]
    split
    · exact WhatsApp.showsList_listBody recipient text _ _
    · exact WhatsApp.showsButtons_buttonsBody recipient text buttons
  · exact Meta.showsReplies_quickReplies recipient text _
  · dsimp only
    rw [Meta.listMessage, Meta.maxReplies]
    split
    · exact Meta.showsReplies_quickReplies recipient text _
    · exact Meta.showsMenu_numberedMenu recipient text sections
  · exact Telegram.showsKeys_keyboardMessage recipient text _
  · exact Telegram.showsKeys_keyboardMessage recipient text _

end Outbound

end Switchboard
