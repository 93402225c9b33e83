import Mathlib.Data.List.Basic
import Switchboard.Inbound.Meta
import Switchboard.Inbound.WhatsApp
import Switchboard.Outbound.Connector
import Switchboard.Proofs.Dialogue.Speech
import Switchboard.Proofs.Json.Members
import Switchboard.Proofs.Lists

/-!
# Tapped options

An option that is shown natively is tapped, and the platform reports its title. If the title went
out as it is, and no option before has it for id, then the report selects the option (`tap_selects`).
A title that is too long for the platform goes out cut, and what was cut is not reported.
-/

namespace Switchboard

-- ---------------------------------------------------------------------------
-- Options of a node
-- ---------------------------------------------------------------------------

/-- An option by its id and title, as a node offers it or as it stands on the wire. -/
structure Choice where
  id : String
  title : String
  deriving DecidableEq, Repr

namespace Choice

def ofButton (b : Button) : Choice := ⟨b.id, b.title⟩

def ofRow (r : Row) : Choice := ⟨r.id, r.title⟩

def selected (reply : String) (c : Choice) : Bool :=
  plainTitle c.title == plainTitle reply || c.id == reply

theorem selected_ofButton (reply : String) :
    Choice.selected reply ∘ ofButton = Button.selected reply := by
  funext b
  simp only [Function.comp_apply, selected, ofButton, Button.selected]

theorem selected_ofRow (reply : String) : Choice.selected reply ∘ ofRow = Row.selected reply := by
  funext r
  simp only [Function.comp_apply, selected, ofRow, Row.selected]

end Choice

namespace Node

def choices (n : Node) : List Choice :=
  match n.kind with
  | .quickReply => n.buttons.map Choice.ofButton
  | .list => (Section.allRows n.sections).map Choice.ofRow
  | _ => []

variable {n : Node}

theorem selected?_eq_find? (n : Node) (reply : String) :
    n.selected? reply = (n.choices.find? (Choice.selected reply)).map Choice.id := by
  unfold selected? choices
  cases n.kind with
  | quickReply =>
    simp only [selectedButton?, List.find?_map, Option.map_map, Choice.selected_ofButton]
    congr
  | list =>
    simp only [selectedRow?, List.find?_map, Option.map_map, Choice.selected_ofRow]
    congr
  | _ => rfl

structure Distinct (n : Node) : Prop where
  ids : n.choices.Pairwise fun a b => a.id ≠ b.id
  titles : n.choices.Pairwise fun a b => plainTitle a.title ≠ plainTitle b.title

/-- No option before a place has a title for id. -/
def Unclaimed (n : Node) (title : String) (i : Nat) : Prop :=
  ∀ (j : Nat) (b : Choice), j < i → n.choices[j]? = some b → b.id ≠ title

theorem selected?_of_unclaimed {i : Nat} {c : Choice} (hn : n.Distinct)
    (hc : n.choices[i]? = some c) (h : n.Unclaimed c.title i) :
    n.selected? c.title = some c.id := by
  obtain ⟨hi, rfl⟩ := List.getElem?_eq_some_iff.1 hc
  rw [selected?_eq_find?]
  have hfirst : n.choices.find? (Choice.selected n.choices[i].title) = some n.choices[i] := by
    refine List.find?_eq_some_iff_getElem.2 ⟨by simp [Choice.selected], i, hi, rfl, ?_⟩
    intro j hj
    have htitle := List.pairwise_iff_getElem.1 hn.titles j i (Nat.lt_trans hj hi) hi hj
    have hid := h j n.choices[j] hj (List.getElem?_eq_getElem _)
    simp [Choice.selected, htitle, hid]
  rw [hfirst]
  rfl

theorem unclaimed_of_selected? {i : Nat} {c : Choice} (hn : n.Distinct)
    (hc : n.choices[i]? = some c) (h : n.selected? c.title = some c.id) :
    n.Unclaimed c.title i := by
  intro j b hj hb hclaims
  obtain ⟨hi, rfl⟩ := List.getElem?_eq_some_iff.1 hc
  obtain ⟨hj', rfl⟩ := List.getElem?_eq_some_iff.1 hb
  rw [selected?_eq_find?] at h
  obtain ⟨d, hfirst, hd⟩ := Option.map_eq_some_iff.1 h
  obtain ⟨-, k, hk, rfl, hbefore⟩ := List.find?_eq_some_iff_getElem.1 hfirst
  -- the option that is selected does not stand behind the one that claims the title
  have hkj : k ≤ j := by
    refine Nat.le_of_not_lt fun hjk => ?_
    have hnot := hbefore j hjk
    simp [Choice.selected, hclaims] at hnot
  exact List.pairwise_iff_getElem.1 hn.ids k i hk hi (Nat.lt_of_le_of_lt hkj hj) hd

/-- The title of an option selects it if and only if no option before it has the title for id. -/
theorem selected?_title_iff {i : Nat} {c : Choice} (hn : n.Distinct)
    (hc : n.choices[i]? = some c) :
    n.selected? c.title = some c.id ↔ n.Unclaimed c.title i :=
  ⟨unclaimed_of_selected? hn hc, selected?_of_unclaimed hn hc⟩

/-- A node with options makes one call, which shows them. -/
theorem calls_of_choices (n : Node) (f : Fillings) (recipient : String) (h : n.choices ≠ []) :
    (n.kind = .quickReply ∧ n.choices = n.buttons.map Choice.ofButton ∧
        n.calls f recipient = [.buttons recipient (f.fill n.body) n.buttons]) ∨
      (n.kind = .list ∧ n.choices = (Section.allRows n.sections).map Choice.ofRow ∧
        n.calls f recipient = [.list recipient (f.fill n.body) n.listLabel n.sections]) := by
  have htyping : ∀ text, (n.typing text).filterMap Action.call? = [] := by
    intro text
    obtain ⟨spans, hspans⟩ := n.typing_eq_pauses text
    rw [hspans]
    exact List.filterMap_eq_nil_iff.2 fun a ha => by
      obtain ⟨span, -, rfl⟩ := List.mem_map.1 ha
      rfl
  unfold choices at h ⊢
  unfold calls actions
  cases hk : n.kind with
  | quickReply =>
    rw [hk] at h
    refine .inl ⟨rfl, rfl, ?_⟩
    cases hb : n.buttons with
    | nil => rw [hb] at h; exact absurd rfl h
    | cons b bs => simp only [List.filterMap_append, htyping]; rfl
  | list =>
    rw [hk] at h
    refine .inr ⟨rfl, rfl, ?_⟩
    cases hs : n.sections with
    | nil => rw [hs] at h; exact absurd rfl h
    | cons x xs => simp only [List.filterMap_append, htyping]; rfl
  | _ => rw [hk] at h; exact absurd rfl h

theorem exists_call (n : Node) (f : Fillings) (recipient : String) (h : n.choices ≠ []) :
    ∃ call, n.calls f recipient = [call] := by
  rcases n.calls_of_choices f recipient h with ⟨-, -, hcalls⟩ | ⟨-, -, hcalls⟩
  · exact ⟨_, hcalls⟩
  · exact ⟨_, hcalls⟩

end Node

-- ---------------------------------------------------------------------------
-- Options on the wire
-- ---------------------------------------------------------------------------

theorem Text.takeChars_of_length_le {s : String} {max : Nat} (h : s.length ≤ max) :
    Text.takeChars s max = s := by
  unfold Text.takeChars
  rw [List.take_of_length_le (by rw [String.length_toList]; exact h), String.ofList_toList]

namespace Outbound

open Inbound (partOf itemsOf textAtOr)

namespace WhatsApp

def wireChoice (v : Json) : Choice := ⟨textAtOr v ["id"] "", textAtOr v ["title"] ""⟩

/-- The options that a payload shows, be it as buttons or as rows. -/
def choicesOf (payload : Json) : List Choice :=
  let action := partOf (partOf payload "interactive") "action"
  ((itemsOf action "buttons").map fun b => wireChoice (partOf b "reply")) ++
    (itemsOf action "sections").flatMap fun s => (itemsOf s "rows").map wireChoice

/-- The longest title of an option of a node that goes out as it is. -/
def titleRoom (n : Node) : Nat :=
  if n.kind = .quickReply ∧ n.choices.length ≤ maxButtons then 20 else 24

def rowChoice (r : Row) : Choice := ⟨Text.takeChars r.id 200, Text.takeChars r.title 24⟩

theorem partOf_envelope (recipient kind : String) (body : Json) :
    partOf (envelope recipient kind body) kind = body := by
  unfold envelope
  rw [Inbound.partOf_object]
  simp

theorem wireChoice_rowJson (r : Row) : wireChoice (rowJson r) = rowChoice r := by
  unfold wireChoice rowJson
  cases r.description <;> simp [Inbound.textAtOr_object, Json.present, rowChoice]

theorem wireChoice_buttonJson (b : Button) :
    wireChoice (partOf (buttonJson b) "reply") = ⟨b.id, Text.takeChars b.title 20⟩ := by
  unfold wireChoice buttonJson
  simp [Inbound.partOf_object, Inbound.textAtOr_object]

/-- The rows that are shown are the first ones, through all sections. -/
theorem allRows_fitSections (room : Nat) (sections : List Section) :
    Section.allRows (fitSections room sections) = (Section.allRows sections).take room := by
  induction sections generalizing room with
  | nil => simp [fitSections, Section.allRows]
  | cons s sections ih =>
    have hcons : Section.allRows (s :: sections) = s.rows ++ Section.allRows sections := rfl
    rw [hcons, List.take_append, fitSections]
    split
    next hnone =>
      rw [ih, hnone, List.nil_append]
      -- either there is no room left or the section has no rows
      rcases List.take_eq_nil_iff.1 hnone with rfl | hrows
      · simp
      · rw [hrows, List.length_nil, Nat.sub_zero]
    next =>
      have hroom : room - (s.rows.take room).length = room - s.rows.length := by
        rw [List.length_take]
        omega
      rw [hroom]
      exact congrArg (s.rows.take room ++ ·) (ih _)

theorem choicesOf_listBody (recipient text label : String) (sections : List Section) :
    choicesOf (envelope recipient "interactive" (listBody text label sections)) =
      ((Section.allRows sections).take maxRows).map rowChoice := by
  have hbuttons : itemsOf (partOf (listBody text label sections) "action") "buttons" = [] := by
    simp [itemsOf, listBody, Inbound.partOf_object]
  have hsections : itemsOf (partOf (listBody text label sections) "action") "sections" =
      (fitSections maxRows sections).map sectionJson := by
    simp [itemsOf, listBody, Inbound.partOf_object]
  have hrows : ∀ s, (itemsOf (sectionJson s) "rows").map wireChoice = s.rows.map rowChoice := by
    intro s
    simp [itemsOf, sectionJson, Inbound.partOf_object, Function.comp_def, wireChoice_rowJson]
  unfold choicesOf
  dsimp only
  rw [partOf_envelope, hbuttons, hsections, ← allRows_fitSections, List.map_nil, List.nil_append,
    List.flatMap_map, Section.allRows, List.map_flatMap]
  simp only [hrows]

theorem choicesOf_buttonsBody (recipient text : String) (buttons : List Button) :
    choicesOf (envelope recipient "interactive" (buttonsBody text buttons)) =
      buttons.map fun b => ⟨b.id, Text.takeChars b.title 20⟩ := by
  have hbuttons : itemsOf (partOf (buttonsBody text buttons) "action") "buttons" =
      buttons.map buttonJson := by
    simp [itemsOf, buttonsBody, Inbound.partOf_object]
  have hsections : itemsOf (partOf (buttonsBody text buttons) "action") "sections" = [] := by
    simp [itemsOf, buttonsBody, Inbound.partOf_object]
  unfold choicesOf
  dsimp only
  rw [partOf_envelope, hbuttons, hsections, List.flatMap_nil, List.append_nil, List.map_map]
  simp only [Function.comp_def, wireChoice_buttonJson]

theorem titles_choicesOf {n : Node} {f : Fillings} {recipient : String} {call : Call}
    (hcall : n.calls f recipient = [call]) (hsome : n.choices ≠ [])
    (hroom : n.choices.length ≤ maxRows) :
    (choicesOf (payload call)).map Choice.title =
      n.choices.map fun c => Text.takeChars c.title (titleRoom n) := by
  rcases n.calls_of_choices f recipient hsome with ⟨hk, hchoices, hcalls⟩ | ⟨hk, hchoices, hcalls⟩
  · rw [hchoices, List.length_map] at hroom
    obtain rfl : call = _ := (List.cons.inj (hcall.symm.trans hcalls)).1
    rw [payload, titleRoom, hchoices, List.length_map]
    by_cases hfew : n.buttons.length ≤ maxButtons
    · rw [if_neg (Nat.not_lt.2 hfew), choicesOf_buttonsBody, if_pos ⟨hk, hfew⟩]
      simp only [List.map_map]
      rfl
    · -- more buttons than fit under a text are the rows of one section
      have hrows : Section.allRows [buttonSection n.buttons] =
          n.buttons.map fun b => ⟨b.id, b.title, none⟩ := List.append_nil _
      rw [if_pos (Nat.not_le.1 hfew), choicesOf_listBody, if_neg fun h => hfew h.2, hrows,
        List.take_of_length_le (by rwa [List.length_map])]
      simp only [List.map_map]
      rfl
  · rw [hchoices, List.length_map] at hroom
    obtain rfl : call = _ := (List.cons.inj (hcall.symm.trans hcalls)).1
    have hlist : ¬ (n.kind = .quickReply ∧ n.choices.length ≤ maxButtons) := by
      rw [hk]
      rintro ⟨h, -⟩
      cases h
    rw [payload, titleRoom, if_neg hlist, choicesOf_listBody, List.take_of_length_le hroom, hchoices]
    simp only [List.map_map]
    rfl

end WhatsApp

namespace Meta

def choicesOf (payload : Json) : List Choice :=
  (itemsOf (partOf payload "message") "quick_replies").map fun v =>
    ⟨textAtOr v ["payload"] "", textAtOr v ["title"] ""⟩

def titleRoom : Nat := 20

theorem choicesOf_quickReplies (recipient : Json) (text : String) (options : List (String × String)) :
    choicesOf (Json.object [("recipient", recipient), ("messaging_type", .str "RESPONSE"),
        ("message", quickReplies text options)]) =
      options.map fun option => ⟨option.1, Text.takeChars option.2 titleRoom⟩ := by
  have hreplies : itemsOf (quickReplies text options) "quick_replies" =
      options.map replyJson := by
    simp [itemsOf, quickReplies, Inbound.partOf_object]
  have hreply : ∀ option, Choice.mk (textAtOr (replyJson option) ["payload"] "")
      (textAtOr (replyJson option) ["title"] "") =
        ⟨option.1, Text.takeChars option.2 titleRoom⟩ := by
    intro option
    simp [replyJson, Inbound.textAtOr_object, titleRoom]
  have hmessage : partOf (Json.object [("recipient", recipient),
      ("messaging_type", .str "RESPONSE"), ("message", quickReplies text options)]) "message" =
        quickReplies text options := by
    simp [Inbound.partOf_object]
  unfold choicesOf
  rw [hmessage, hreplies, List.map_map]
  simp only [Function.comp_def, hreply]

theorem titles_choicesOf {n : Node} {f : Fillings} {recipient : String} {call : Call}
    (hcall : n.calls f recipient = [call]) (hsome : n.choices ≠ [])
    (hroom : n.choices.length ≤ maxReplies) (base token : String) :
    ∃ post, posts base token call = [post] ∧ (choicesOf post.payload).map Choice.title =
      n.choices.map fun c => Text.takeChars c.title titleRoom := by
  rcases n.calls_of_choices f recipient hsome with ⟨-, hchoices, hcalls⟩ | ⟨-, hchoices, hcalls⟩
  · rw [hchoices, List.length_map] at hroom
    obtain rfl : call = _ := (List.cons.inj (hcall.symm.trans hcalls)).1
    refine ⟨_, rfl, ?_⟩
    dsimp only
    rw [choicesOf_quickReplies, List.take_of_length_le hroom, hchoices]
    simp only [List.map_map]
    rfl
  · rw [hchoices, List.length_map] at hroom
    obtain rfl : call = _ := (List.cons.inj (hcall.symm.trans hcalls)).1
    refine ⟨_, rfl, ?_⟩
    dsimp only
    rw [listMessage, if_pos hroom, choicesOf_quickReplies, hchoices]
    simp only [List.map_map]
    rfl

end Meta

end Outbound

-- ---------------------------------------------------------------------------
-- Reports of taps
-- ---------------------------------------------------------------------------

namespace Inbound

namespace WhatsApp

/-- A delivery of one message, which reports that an option was tapped under a text or in a list. -/
def Reports (tap : Choice) (payload : Json) : Prop :=
  ∃ v kind, (values payload).flatMap (fun value => itemsOf value "messages") = [v] ∧
    (kind = "button_reply" ∨ kind = "list_reply") ∧
    textAt? v ["type"] = some "interactive" ∧
    textAt? v ["interactive", "type"] = some kind ∧
    textAt? v ["interactive", kind, "id"] = some tap.id ∧
    textAt? v ["interactive", kind, "title"] = some tap.title

theorem message_of_tap {v : Json} {kind title : String}
    (htype : textAt? v ["type"] = some "interactive")
    (hkind : textAt? v ["interactive", "type"] = some kind)
    (htitle : textAt? v ["interactive", kind, "title"] = some title) (received : Time.Instant)
    (name : Option String) (channel : Option Json) :
    (message received name channel v).kind = .text ∧
      (message received name channel v).text = title := by
  obtain ⟨interactive, hv, hkind⟩ := field?_of_textAt? hkind
  rw [textAt?_of_field? hv] at htitle
  obtain ⟨tapped, hi, htitle⟩ := field?_of_textAt? htitle
  have hpart : partOf v "interactive" = interactive := by rw [partOf, hv]; rfl
  unfold message
  simp only [textAtOr, htype, hpart, Option.getD_some, withInteractive, hkind, hi, htitle]
  exact ⟨trivial, trivial⟩

/-- A tap that is reported arrives as one message, whose text is the title. -/
theorem messages_of_reports {tap : Choice} {payload : Json} (h : Reports tap payload)
    (received : Time.Instant) :
    ∃ m, messages received payload = [m] ∧ m.kind = .text ∧ m.text = tap.title := by
  obtain ⟨v, kind, hone, -, htype, hkind, -, htitle⟩ := h
  obtain ⟨value, hmessages⟩ := flatMap_map_of_singleton (fun value v =>
    message received (senderName? (itemsOf value "contacts") v) (value.field? "metadata") v) hone
  exact ⟨_, hmessages, message_of_tap htype hkind htitle received _ _⟩

end WhatsApp

namespace Meta

/-- A delivery of one event and no comments, which reports that a quick reply was tapped. -/
def Reports (tap : Choice) (payload : Json) : Prop :=
  ∃ v, (itemsOf payload "entry").flatMap (fun entry => itemsOf entry "messaging") = [v] ∧
    (itemsOf payload "entry").flatMap (fun entry => itemsOf entry "changes") = [] ∧
    isEcho v = false ∧ v.field? "postback" = none ∧
    textAt? v ["message", "text"] = some tap.title ∧
    textAt? v ["message", "quick_reply", "payload"] = some tap.id

theorem message_of_tap {v : Json} {title : String} (hpostback : v.field? "postback" = none)
    (htitle : textAt? v ["message", "text"] = some title) (received : Time.Instant) (p : Platform) :
    (message received p v).kind = .text ∧ (message received p v).text = title := by
  obtain ⟨content, hv, htitle⟩ := field?_of_textAt? htitle
  unfold message
  simp only [hpostback, hv, withContent, htitle, withText]
  exact ⟨trivial, trivial⟩

theorem messages_of_no_comments {payload : Json}
    (h : (itemsOf payload "entry").flatMap (fun entry => itemsOf entry "changes") = [])
    (received : Time.Instant) :
    messages received payload = (((itemsOf payload "entry").flatMap fun entry =>
      itemsOf entry "messaging").filter speaks).map (message received (platform payload)) := by
  rw [List.filter_flatMap, List.map_flatMap]
  unfold messages
  refine List.flatMap_congr fun entry hentry => ?_
  rw [List.flatMap_eq_nil_iff.1 h entry hentry]
  exact List.append_nil _

theorem messages_of_reports {tap : Choice} {payload : Json} (h : Reports tap payload)
    (received : Time.Instant) :
    ∃ m, messages received payload = [m] ∧ m.kind = .text ∧ m.text = tap.title := by
  obtain ⟨v, hone, hcomments, hecho, hpostback, htitle, -⟩ := h
  obtain ⟨content, hv, -⟩ := field?_of_textAt? htitle
  have hspeaks : speaks v = true := by simp [speaks, hecho, hv]
  refine ⟨message received (platform payload) v, ?_, message_of_tap hpostback htitle received _⟩
  rw [messages_of_no_comments hcomments, hone, List.filter_cons_of_pos hspeaks]
  rfl

end Meta

end Inbound

-- ---------------------------------------------------------------------------
-- From the option to its selection
-- ---------------------------------------------------------------------------

/-- The options of a node stand on the wire, with so much of their titles as there is room for. A tap
that is reported selects the option that was tapped, if its title went out as it is, unless the title
is the id of an option before. -/
structure Node.Tappable (n : Node) (room : Nat) (wire : List Choice)
    (reports : Choice → Json → Prop) (read : Json → List Message) : Prop where
  titles : wire.map Choice.title = n.choices.map fun c => Text.takeChars c.title room
  selects : ∀ (i : Nat) (c tap : Choice), n.choices[i]? = some c → wire[i]? = some tap →
    c.title.length ≤ room → ∀ payload, reports tap payload →
      ∃ m, read payload = [m] ∧ m.kind = .text ∧
        (n.selected? m.text = some c.id ↔ n.Unclaimed c.title i)

section
variable {n : Node} {room : Nat} {wire : List Choice} {reports : Choice → Json → Prop}
  {read : Json → List Message}

theorem Node.title_of_wire
    (hwire : wire.map Choice.title = n.choices.map fun c => Text.takeChars c.title room) {i : Nat}
    {c tap : Choice} (hc : n.choices[i]? = some c) (htap : wire[i]? = some tap) :
    tap.title = Text.takeChars c.title room := by
  have h := congrArg (fun titles => titles[i]?) hwire
  simpa only [List.getElem?_map, hc, htap, Option.map_some, Option.some.injEq] using h

theorem Node.tappable (hn : n.Distinct)
    (hwire : wire.map Choice.title = n.choices.map fun c => Text.takeChars c.title room)
    (hread : ∀ tap payload, reports tap payload →
      ∃ m, read payload = [m] ∧ m.kind = .text ∧ m.text = tap.title) :
    n.Tappable room wire reports read where
  titles := hwire
  selects := by
    intro i c tap hc htap hroom payload hreports
    obtain ⟨m, hm, hkind, htext⟩ := hread tap payload hreports
    have htitle : tap.title = c.title := by
      rw [title_of_wire hwire hc htap, Text.takeChars_of_length_le hroom]
    refine ⟨m, hm, hkind, ?_⟩
    rw [htext, htitle]
    exact n.selected?_title_iff hn hc

end

open Outbound in
/-- An option that is tapped on WhatsApp, or on Messenger or Instagram, is selected, if the platform
shows it natively and its title goes out as it is, unless an option before it has the title for id.
-/
theorem Node.tap_selects (n : Node) (f : Fillings) (recipient : String) (received : Time.Instant)
    (hsome : n.choices ≠ []) (hn : n.Distinct) :
    ∃ call, n.calls f recipient = [call] ∧
      (n.choices.length ≤ WhatsApp.maxRows → ∀ base phoneId token,
        ∃ post, (Connector.whatsApp base phoneId token).posts call = [post] ∧
          n.Tappable (WhatsApp.titleRoom n) (WhatsApp.choicesOf post.payload)
            Inbound.WhatsApp.Reports (Inbound.WhatsApp.messages received)) ∧
      (n.choices.length ≤ Meta.maxReplies → ∀ p base token,
        ∃ post, (Connector.page p base token).posts call = [post] ∧
          n.Tappable Meta.titleRoom (Meta.choicesOf post.payload)
            Inbound.Meta.Reports (Inbound.Meta.messages received)) := by
  obtain ⟨call, hcall⟩ := n.exists_call f recipient hsome
  refine ⟨call, hcall, fun hroom base phoneId token => ?_, fun hroom p base token => ?_⟩
  · exact ⟨_, rfl, Node.tappable hn (WhatsApp.titles_choicesOf hcall hsome hroom)
      fun tap payload h => Inbound.WhatsApp.messages_of_reports h received⟩
  · obtain ⟨post, hpost, hwire⟩ := Meta.titles_choicesOf hcall hsome hroom
      (Connector.page p base token).base token
    exact ⟨post, hpost, Node.tappable hn hwire
      fun tap payload h => Inbound.Meta.messages_of_reports h received⟩

-- ---------------------------------------------------------------------------
-- Menus and taps on them
-- ---------------------------------------------------------------------------

def menuNode (buttons : List Choice) : Node where
  id := "menu"
  kind := .quickReply
  data := Dictionary.set Catalog.empty "buttons" (.arr (buttons.map fun c =>
    Json.object [("id", .str c.id), ("title", .str c.title)]))

def Inbound.WhatsApp.buttonReply (tap : Choice) : Json :=
  Json.object [
    ("type", .str "interactive"),
    ("interactive", Json.object [
      ("type", .str "button_reply"),
      ("button_reply", Json.object [("id", .str tap.id), ("title", .str tap.title)])])]

def Inbound.WhatsApp.report (tap : Choice) : Json :=
  Json.object [("entry", .arr [Json.object [("changes", .arr [Json.object [("value",
    Json.object [("messages", .arr [buttonReply tap])])]])]])]

theorem Inbound.WhatsApp.reports_report (tap : Choice) : Reports tap (report tap) := by
  refine ⟨buttonReply tap, "button_reply", ?_, .inl rfl, ?_⟩
  · simp [values, itemsOf, report, partOf_object, Json.field?_object]
  · simp [buttonReply, textAt?, Json.at?, Json.field?_object]

def Inbound.Meta.quickReply (tap : Choice) : Json :=
  Json.object [("message", Json.object [
    ("text", .str tap.title),
    ("quick_reply", Json.object [("payload", .str tap.id)])])]

def Inbound.Meta.report (tap : Choice) : Json :=
  Json.object [("entry", .arr [Json.object [("messaging", .arr [quickReply tap])]])]

theorem Inbound.Meta.reports_report (tap : Choice) : Reports tap (report tap) := by
  refine ⟨quickReply tap, ?_, ?_, ?_⟩
  · simp [itemsOf, report, partOf_object]
  · simp [itemsOf, report, partOf_object]
  · simp [quickReply, isEcho, textAt?, Json.at?, Json.field?_object]

/-- Of two buttons the second is tapped, and selected. -/
theorem tap_selects_no :
    let n := menuNode [⟨"a", "Sí"⟩, ⟨"b", "No"⟩]
    n.choices ≠ [] ∧ n.Distinct ∧
      ∃ call post tap m, n.calls ⟨none, none, Catalog.empty⟩ "s1" = [call] ∧
        (Outbound.Connector.whatsApp "mock:" "1" "t").posts call = [post] ∧
        (Outbound.WhatsApp.choicesOf post.payload)[1]? = some tap ∧
        Inbound.WhatsApp.messages ⟨0, 0⟩ (Inbound.WhatsApp.report tap) = [m] ∧
        n.selected? m.text = some "b" := by
  intro n
  have hchoices : n.choices = [⟨"a", "Sí"⟩, ⟨"b", "No"⟩] := by decide +kernel
  have hsome : n.choices ≠ [] := by rw [hchoices]; exact List.cons_ne_nil _ _
  have hn : n.Distinct := by constructor <;> rw [hchoices] <;> decide +kernel
  have hroom : n.choices.length ≤ Outbound.WhatsApp.maxRows := by rw [hchoices]; decide
  have hunclaimed : n.Unclaimed "No" 1 := by
    intro j b hj hb
    obtain rfl : j = 0 := by omega
    rw [hchoices] at hb
    cases hb
    decide
  refine ⟨hsome, hn, ?_⟩
  obtain ⟨call, hcall, hwhatsApp, -⟩ :=
    Node.tap_selects n ⟨none, none, Catalog.empty⟩ "s1" ⟨0, 0⟩ hsome hn
  obtain ⟨post, hpost, htaps⟩ := hwhatsApp hroom "mock:" "1" "t"
  have hlength := congrArg List.length htaps.titles
  rw [hchoices, List.length_map, List.length_map] at hlength
  obtain ⟨tap, htap⟩ : ∃ tap, (Outbound.WhatsApp.choicesOf post.payload)[1]? = some tap :=
    ⟨_, List.getElem?_eq_getElem (by rw [hlength]; decide)⟩
  have hc : n.choices[1]? = some ⟨"b", "No"⟩ := by rw [hchoices]; rfl
  have hfits : (Choice.mk "b" "No").title.length ≤ Outbound.WhatsApp.titleRoom n := by
    decide +kernel
  obtain ⟨m, hm, -, hselects⟩ := htaps.selects 1 _ tap hc htap hfits
    (Inbound.WhatsApp.report tap) (Inbound.WhatsApp.reports_report tap)
  exact ⟨call, post, tap, m, hcall, hpost, htap, hm, hselects.2 hunclaimed⟩

def Node.GoesAstray (n : Node) (wire : List Choice) (reports : Choice → Json → Prop)
    (read : Json → List Message) : Prop :=
  ∃ (i : Nat) (c tap : Choice) (payload : Json) (m : Message), n.choices[i]? = some c ∧
    wire[i]? = some tap ∧ reports tap payload ∧ read payload = [m] ∧ n.selected? m.text ≠ some c.id

theorem Node.goesAstray {n : Node} {room : Nat} {wire : List Choice}
    {reports : Choice → Json → Prop} {read : Json → List Message} {i : Nat} {c : Choice}
    (report : Choice → Json) (hreport : ∀ tap, reports tap (report tap))
    (hwire : wire.map Choice.title = n.choices.map fun c => Text.takeChars c.title room)
    (hread : ∀ tap payload, reports tap payload →
      ∃ m, read payload = [m] ∧ m.kind = .text ∧ m.text = tap.title)
    (hc : n.choices[i]? = some c)
    (hmissed : n.selected? (Text.takeChars c.title room) ≠ some c.id) :
    n.GoesAstray wire reports read := by
  have hlength : wire.length = n.choices.length := by simpa using congrArg List.length hwire
  obtain ⟨hi, -⟩ := List.getElem?_eq_some_iff.1 hc
  have htap : wire[i]? = some wire[i] := List.getElem?_eq_getElem (hlength.symm ▸ hi)
  obtain ⟨m, hm, -, htext⟩ := hread wire[i] (report wire[i]) (hreport _)
  refine ⟨i, c, wire[i], report wire[i], m, hc, htap, hreport _, hm, ?_⟩
  rw [htext, title_of_wire hwire hc htap]
  exact hmissed

def longMenu : Node := menuNode [⟨"a", "Hablar con una persona"⟩, ⟨"b", "No"⟩]

def claimedMenu : Node := menuNode [⟨"no", "Sí"⟩, ⟨"b", "no"⟩]

/-- A title that was cut is not recognized, and one that is the id of an option before selects that
option. -/
theorem taps_go_astray :
    (longMenu.Distinct ∧ longMenu.choices.length ≤ Outbound.WhatsApp.maxRows ∧
      ∃ call post, longMenu.calls ⟨none, none, Catalog.empty⟩ "s1" = [call] ∧
        (Outbound.Connector.whatsApp "mock:" "1" "t").posts call = [post] ∧
        longMenu.GoesAstray (Outbound.WhatsApp.choicesOf post.payload) Inbound.WhatsApp.Reports
          (Inbound.WhatsApp.messages ⟨0, 0⟩)) ∧
    claimedMenu.Distinct ∧ claimedMenu.choices.length ≤ Outbound.Meta.maxReplies ∧
      ∃ call post, claimedMenu.calls ⟨none, none, Catalog.empty⟩ "s1" = [call] ∧
        (Outbound.Connector.page .messenger "mock:" "t").posts call = [post] ∧
        claimedMenu.GoesAstray (Outbound.Meta.choicesOf post.payload) Inbound.Meta.Reports
          (Inbound.Meta.messages ⟨0, 0⟩) := by
  constructor
  · have hchoices : longMenu.choices =
        [⟨"a", "Hablar con una persona"⟩, ⟨"b", "No"⟩] := by decide +kernel
    have hsome : longMenu.choices ≠ [] := by rw [hchoices]; exact List.cons_ne_nil _ _
    have hn : longMenu.Distinct := by constructor <;> rw [hchoices] <;> decide +kernel
    have hroom : longMenu.choices.length ≤ Outbound.WhatsApp.maxRows := by rw [hchoices]; decide
    have hc : longMenu.choices[0]? = some ⟨"a", "Hablar con una persona"⟩ := by
      rw [hchoices]; rfl
    have hmissed : longMenu.selected? (Text.takeChars "Hablar con una persona"
        (Outbound.WhatsApp.titleRoom longMenu)) ≠ some "a" := by decide +kernel
    obtain ⟨call, hcall⟩ := longMenu.exists_call ⟨none, none, Catalog.empty⟩ "s1" hsome
    refine ⟨hn, hroom, call, _, hcall, rfl, ?_⟩
    exact Node.goesAstray Inbound.WhatsApp.report Inbound.WhatsApp.reports_report
      (Outbound.WhatsApp.titles_choicesOf hcall hsome hroom)
      (fun _ _ h => Inbound.WhatsApp.messages_of_reports h ⟨0, 0⟩) hc hmissed
  · have hchoices : claimedMenu.choices = [⟨"no", "Sí"⟩, ⟨"b", "no"⟩] := by decide +kernel
    have hsome : claimedMenu.choices ≠ [] := by rw [hchoices]; exact List.cons_ne_nil _ _
    have hn : claimedMenu.Distinct := by constructor <;> rw [hchoices] <;> decide +kernel
    have hroom : claimedMenu.choices.length ≤ Outbound.Meta.maxReplies := by rw [hchoices]; decide
    have hc : claimedMenu.choices[1]? = some ⟨"b", "no"⟩ := by rw [hchoices]; rfl
    have hmissed : claimedMenu.selected? (Text.takeChars "no" Outbound.Meta.titleRoom) ≠
        some "b" := by decide +kernel
    obtain ⟨call, hcall⟩ := claimedMenu.exists_call ⟨none, none, Catalog.empty⟩ "s1" hsome
    obtain ⟨post, hpost, hwire⟩ := Outbound.Meta.titles_choicesOf hcall hsome hroom
      (Outbound.Connector.page .messenger "mock:" "t").base "t"
    refine ⟨hn, hroom, call, post, hcall, hpost, ?_⟩
    exact Node.goesAstray Inbound.Meta.report Inbound.Meta.reports_report hwire
      (fun _ _ h => Inbound.Meta.messages_of_reports h ⟨0, 0⟩) hc hmissed

end Switchboard
