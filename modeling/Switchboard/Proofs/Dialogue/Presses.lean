import Switchboard.Inbound.Telegram
import Switchboard.Proofs.Dialogue.Standing
import Switchboard.Proofs.Dialogue.Taps
import Switchboard.Proofs.Flow.Scans
import Switchboard.Proofs.Outbound.Labels

/-!
# Pressed options

On Telegram an option is a key whose data is the id of the option, cut to so many bytes as there is
room for, and the press of a key is reported by its data. An id that fits comes back whole, and
selects its option unless an option before goes by it; then the conversation continues along the
first edge of that option (`press_continues`).
-/

namespace Switchboard

-- ---------------------------------------------------------------------------
-- Ids that select their option
-- ---------------------------------------------------------------------------

namespace Node

variable {n : Node}

/-- No option goes by the id of one behind it, neither as its own id nor as its title. -/
def Unshadowed (n : Node) : Prop :=
  n.choices.Pairwise fun a b => a.id ≠ b.id ∧ plainTitle a.title ≠ plainTitle b.id

theorem selected?_id {i : Nat} {c : Choice} (hn : n.Unshadowed) (hc : n.choices[i]? = some c) :
    n.selected? c.id = some c.id := by
  obtain ⟨hi, rfl⟩ := List.getElem?_eq_some_iff.1 hc
  rw [selected?_eq_find?]
  have hfirst : n.choices.find? (Choice.selected n.choices[i].id) = some n.choices[i] := by
    refine List.find?_eq_some_iff_getElem.2 ⟨by simp [Choice.selected], i, hi, rfl, ?_⟩
    intro j hj
    obtain ⟨hid, htitle⟩ := List.pairwise_iff_getElem.1 hn j i (Nat.lt_trans hj hi) hi hj
    simp [Choice.selected, hid, htitle]
  rw [hfirst]
  rfl

theorem kind_ne_capture (h : n.choices ≠ []) : n.kind ≠ .capture := by
  intro hk
  unfold choices at h
  rw [hk] at h
  exact h rfl

end Node

/-- A reply that selects an option goes along the first edge of the option. -/
theorem Graph.replyTarget?_of_edge {flow : Flow} {n : Node} {reply id : String} {e : Edge}
    (hselected : n.selected? reply = some id)
    (he : flow.edges.find? (fun e => e.source == n.id && e.handle == some id) = some e) :
    (ofFlow flow).replyTarget? n n.id reply = some e.target := by
  have htarget : (ofFlow flow).targetOf? n.id id = some e.target := by
    rw [targetOf?_ofFlow, he, Option.map_some]
  have hmem : e ∈ (ofFlow flow).outgoing n.id := by
    have hsource := List.find?_some he
    rw [Bool.and_eq_true] at hsource
    rw [outgoing_ofFlow]
    exact List.mem_filter.2 ⟨List.mem_of_find?_eq_some he, hsource.1⟩
  unfold replyTarget?
  split
  next hnone => rw [hnone] at hmem; cases hmem
  next e' hone =>
    rw [hone, List.mem_singleton] at hmem
    rw [hmem]
  next => rw [hselected, Option.bind_some, htarget, Option.getD_some]

-- ---------------------------------------------------------------------------
-- Options as keys
-- ---------------------------------------------------------------------------

namespace Outbound.Telegram

open Inbound (partOf itemsOf textAtOr)

/-- A text that fits is not cut. -/
theorem takeBytes_of_fits {room : Nat} {cs : List Char}
    (h : (String.ofList cs).utf8ByteSize ≤ room) : takeBytes room cs = cs :=
  (takeBytes_leads room cs).eq_of_length_le (prefix_takeBytes (List.prefix_refl cs) h).length_le

def keyData (id : String) : String := String.ofList (takeBytes maxData id.toList)

theorem keyData_of_fits {id : String} (h : id.utf8ByteSize ≤ maxData) : keyData id = id := by
  unfold keyData
  rw [takeBytes_of_fits (by rwa [String.ofList_toList]), String.ofList_toList]

/-- The options that a payload shows as keys, by the data and the text of each. -/
def choicesOf (payload : Json) : List Choice :=
  (itemsOf (partOf payload "reply_markup") "inline_keyboard").flatMap fun row =>
    row.items.map fun key => ⟨textAtOr key ["callback_data"] "", textAtOr key ["text"] ""⟩

theorem choicesOf_keyboardMessage (recipient text : String) (options : List (String × String)) :
    choicesOf (keyboardMessage recipient text options) =
      options.map fun option => ⟨keyData option.1, option.2⟩ := by
  have hrows : itemsOf (partOf (keyboardMessage recipient text options) "reply_markup")
      "inline_keyboard" = options.map keyJson := by
    simp [itemsOf, keyboardMessage, Inbound.partOf_object]
  have hkey : ∀ option, (keyJson option).items.map (fun key =>
      (⟨textAtOr key ["callback_data"] "", textAtOr key ["text"] ""⟩ : Choice)) =
        [⟨keyData option.1, option.2⟩] := by
    intro option
    simp [keyJson, Inbound.textAtOr_object, keyData]
  unfold choicesOf
  rw [hrows, List.flatMap_map]
  simp only [hkey]
  exact List.map_eq_flatMap.symm

/-- The keys under a message of a node are its options, with their ids cut. -/
theorem choicesOf_calls {n : Node} {f : Fillings} {recipient : String} {call : Call}
    (hcall : n.calls f recipient = [call]) (hsome : n.choices ≠ []) (base token : String) :
    ∃ post, posts base token call = [post] ∧
      choicesOf post.payload = n.choices.map fun c => ⟨keyData c.id, c.title⟩ := by
  rcases n.calls_of_choices f recipient hsome with ⟨-, hchoices, hcalls⟩ | ⟨-, hchoices, hcalls⟩
  · obtain rfl : call = _ := (List.cons.inj (hcall.symm.trans hcalls)).1
    refine ⟨_, rfl, ?_⟩
    dsimp only
    rw [choicesOf_keyboardMessage, hchoices, List.map_map, List.map_map]
    rfl
  · obtain rfl : call = _ := (List.cons.inj (hcall.symm.trans hcalls)).1
    refine ⟨_, rfl, ?_⟩
    dsimp only
    rw [choicesOf_keyboardMessage, hchoices, List.map_map, List.map_map]
    rfl

end Outbound.Telegram

-- ---------------------------------------------------------------------------
-- Reports of presses
-- ---------------------------------------------------------------------------

theorem Json.record?_of_field? {v w : Json} {name : String} (h : v.field? name = some w)
    (names : List String) : v.record? names = some ⟨v.field?, true⟩ := by
  cases v with
  | obj members => rfl
  | _ => cases h

namespace Inbound.Telegram

/-- A part that may be missing or null, and is of its type where it is given. -/
def Fits {α : Type} (read : Json → Option α) (part : Option Json) : Prop :=
  ∀ v, part = some v → Document.isNull v = false → ∃ x, read v = some x

theorem optional_of_fits {α : Type} {f : Fields Json} {name : String} {read : Json → Option α}
    (h : Fits read (f.value? name)) : ∃ x, f.optional name read = some x := by
  unfold Fields.optional Fields.defaulted
  cases hv : f.value? name with
  | none => exact ⟨none, rfl⟩
  | some v =>
    unfold Fields.nullable
    cases hnull : Document.isNull v with
    | true => exact ⟨none, by simp [hnull]⟩
    | false =>
      obtain ⟨x, hx⟩ := h v hv hnull
      exact ⟨some x, by simp [hnull, hx]⟩

structure IsUser (v : Json) : Prop where
  id : ∃ w n, v.field? "id" = some w ∧ w.int64? = some n
  names : ∀ name ∈ ["first_name", "last_name", "username"], Fits Json.text? (v.field? name)

structure IsPress (data : String) (v : Json) : Prop where
  sender : ∃ user, v.field? "from" = some user ∧ IsUser user
  data : v.field? "data" = some (.str data)
  message : Fits Content.ofJson? (v.field? "message")

structure Reports (tap : Choice) (payload : Json) : Prop where
  press : ∃ press, payload.field? "callback_query" = some press ∧ IsPress tap.id press
  others : ∀ name ∈ ["message", "edited_message"], Fits Content.ofJson? (payload.field? name)

theorem IsUser.read {v : Json} (h : IsUser v) : ∃ user, User.ofJson? v = some user := by
  obtain ⟨w, n, hw, hn⟩ := h.id
  obtain ⟨first, hfirst⟩ := optional_of_fits (f := ⟨v.field?, true⟩)
    (h.names "first_name" (by simp))
  obtain ⟨last, hlast⟩ := optional_of_fits (f := ⟨v.field?, true⟩) (h.names "last_name" (by simp))
  obtain ⟨name, hname⟩ := optional_of_fits (f := ⟨v.field?, true⟩) (h.names "username" (by simp))
  refine ⟨⟨n, first, last, name⟩, ?_⟩
  unfold User.ofJson?
  simp [Json.record?_of_field? hw, Fields.required, hw, hn, hfirst, hlast, hname]

theorem IsPress.read {data : String} {v : Json} (h : IsPress data v) :
    ∃ press, Press.ofJson? v = some press ∧ press.data = some data := by
  obtain ⟨w, hw, huser⟩ := h.sender
  obtain ⟨user, huser⟩ := huser.read
  obtain ⟨content, hcontent⟩ := optional_of_fits (f := ⟨v.field?, true⟩) h.message
  have hdata : (Fields.mk v.field? true).optional "data" Json.text? = some (some data) := by
    simp [Fields.optional, Fields.defaulted, Fields.nullable, h.data, Document.isNull]
  refine ⟨⟨user, some data, content⟩, ?_, rfl⟩
  unfold Press.ofJson?
  simp [Json.record?_of_field? hw, Fields.required, hw, huser, hdata, hcontent]

theorem Reports.read {tap : Choice} {payload : Json} (h : Reports tap payload) :
    ∃ update press, Update.ofJson? payload = some update ∧ update.press = some press ∧
      press.data = some tap.id := by
  obtain ⟨v, hv, hpress⟩ := h.press
  obtain ⟨press, hread, hdata⟩ := hpress.read
  obtain ⟨w, hw, -⟩ := hpress.sender
  have hquery : (Fields.mk payload.field? true).optional "callback_query" Press.ofJson? =
      some (some press) := by
    have hnull : Document.isNull v = false := by
      cases v with
      | obj members => rfl
      | _ => cases hw
    simp [Fields.optional, Fields.defaulted, Fields.nullable, hv, hnull, hread]
  obtain ⟨message, hmessage⟩ := optional_of_fits (f := ⟨payload.field?, true⟩)
    (h.others "message" (by simp))
  obtain ⟨edited, hedited⟩ := optional_of_fits (f := ⟨payload.field?, true⟩)
    (h.others "edited_message" (by simp))
  refine ⟨⟨message, edited, some press⟩, press, ?_, rfl, hdata⟩
  unfold Update.ofJson?
  simp [Json.record?_of_field? hv, hmessage, hedited, hquery]

/-- A press that is reported arrives as a text, which is the data of the key. -/
theorem message_of_reports {tap : Choice} {payload : Json} (h : Reports tap payload)
    (received : Time.Instant) :
    (message received payload).kind = .text ∧ (message received payload).text = tap.id := by
  obtain ⟨update, press, hupdate, hpress, hdata⟩ := h.read
  unfold message
  simp only [hupdate, Option.getD_some, hpress, ofPress, hdata]
  exact ⟨trivial, trivial⟩

end Inbound.Telegram

-- ---------------------------------------------------------------------------
-- From the key to the edge
-- ---------------------------------------------------------------------------

/-- An option whose id fits on its key, and by whose id no option before it goes, is selected when
the press of the key is reported. The conversation continues where the first edge of that option
leads. -/
theorem Node.press_continues (n : Node) (f : Fillings) (recipient base token : String)
    (received : Time.Instant) (hn : n.Unshadowed) {i : Nat} {c : Choice}
    (hc : n.choices[i]? = some c) (hfits : c.id.utf8ByteSize ≤ Outbound.Telegram.maxData) :
    ∃ call post, n.calls f recipient = [call] ∧
      (Outbound.Connector.telegram base token).posts call = [post] ∧
      (Outbound.Telegram.choicesOf post.payload)[i]? = some c ∧
      ∀ payload, Inbound.Telegram.Reports c payload →
        let m := Inbound.Telegram.message received payload
        m.kind = .text ∧ n.selected? m.text = some c.id ∧
          ∀ (t : Turn) (rules : TurnRules) (introductions : List Introduction) (e : Edge),
            t.text = m.text → (Graph.ofFlow t.bot.flow).node? n.id = some n →
            t.bot.flow.edges.find? (fun e => e.source == n.id && e.handle == some c.id) = some e →
            t.replyAt rules introductions n.id =
              t.forward rules (Fillings.ofCard t.card) (some e.target) := by
  have hsome : n.choices ≠ [] := by
    intro hnil
    rw [hnil] at hc
    cases hc
  obtain ⟨call, hcall⟩ := n.exists_call f recipient hsome
  obtain ⟨post, hpost, hkeys⟩ := Outbound.Telegram.choicesOf_calls hcall hsome
    (Outbound.Connector.telegram base token).base token
  have hkey : (Outbound.Telegram.choicesOf post.payload)[i]? = some c := by
    rw [hkeys, List.getElem?_map, hc, Option.map_some, Outbound.Telegram.keyData_of_fits hfits]
  refine ⟨call, post, hcall, hpost, hkey, ?_⟩
  intro payload hreports m
  obtain ⟨hkind, htext⟩ := Inbound.Telegram.message_of_reports hreports received
  have hselected : n.selected? m.text = some c.id := by
    rw [htext]
    exact n.selected?_id hn hc
  refine ⟨hkind, hselected, ?_⟩
  intro t rules introductions e ht hnode he
  rw [← ht] at hselected
  simp only [Turn.replyAt, hnode, if_neg (Node.kind_ne_capture hsome),
    Graph.replyTarget?_of_edge hselected he]

def Inbound.Telegram.pressOf (tap : Choice) : Json :=
  Json.object [("from", Json.object [("id", Json.ofInt 7)]), ("data", .str tap.id)]

def Inbound.Telegram.report (tap : Choice) : Json :=
  Json.object [("callback_query", pressOf tap)]

theorem Inbound.Telegram.reports_report (tap : Choice) : Reports tap (report tap) := by
  have huser : IsUser (Json.object [("id", Json.ofInt 7)]) := by
    refine ⟨⟨Json.ofInt 7, 7, by simp [Json.field?_object], by decide +kernel⟩, ?_⟩
    intro name hname v hv
    simp only [List.mem_cons, List.not_mem_nil, or_false] at hname
    rcases hname with rfl | rfl | rfl <;> simp [Json.field?_object] at hv
  have hpress : IsPress tap.id (pressOf tap) := by
    refine ⟨⟨_, by simp [pressOf, Json.field?_object], huser⟩,
      by simp [pressOf, Json.field?_object], ?_⟩
    intro v hv
    simp [pressOf, Json.field?_object] at hv
  refine ⟨⟨pressOf tap, by simp [report, Json.field?_object], hpress⟩, ?_⟩
  intro name hname v hv
  simp only [List.mem_cons, List.not_mem_nil, or_false] at hname
  rcases hname with rfl | rfl <;> simp [report, Json.field?_object] at hv

/-- A menu whose options lead to different places. -/
def menuBot : Bot where
  id := "menu"
  name := "Menu"
  isActive := true
  updatedAt := ⟨0, 0⟩
  flow := {
    nodes := [menuNode [⟨"a", "Sí"⟩, ⟨"b", "No"⟩], ⟨"left", .text, Catalog.empty⟩,
      ⟨"right", .text, Catalog.empty⟩]
    edges := [⟨"menu", "left", some "a"⟩, ⟨"menu", "right", some "b"⟩] }

def menuTurn : Turn := { doorTurn with bot := menuBot, text := "b" }

/-- Of two keys the second is pressed, and the conversation continues on the right. -/
theorem press_continues_right :
    let n := menuNode [⟨"a", "Sí"⟩, ⟨"b", "No"⟩]
    let payload := Inbound.Telegram.report ⟨"b", "No"⟩
    n.Unshadowed ∧ n.choices[1]? = some ⟨"b", "No"⟩ ∧
      "b".utf8ByteSize ≤ Outbound.Telegram.maxData ∧
      Inbound.Telegram.Reports ⟨"b", "No"⟩ payload ∧
      (∃ call post, n.calls ⟨none, none, Catalog.empty⟩ "7" = [call] ∧
        (Outbound.Connector.telegram "mock:" "t").posts call = [post] ∧
        (Outbound.Telegram.choicesOf post.payload)[1]? = some ⟨"b", "No"⟩) ∧
      menuTurn.text = (Inbound.Telegram.message ⟨0, 0⟩ payload).text ∧
      menuTurn.replyAt .standard [] "menu" =
        menuTurn.forward .standard (Fillings.ofCard menuTurn.card) (some "right") := by
  intro n payload
  have hchoices : n.choices = [⟨"a", "Sí"⟩, ⟨"b", "No"⟩] := by decide +kernel
  have hn : n.Unshadowed := by
    unfold Node.Unshadowed
    rw [hchoices]
    decide +kernel
  have hc : n.choices[1]? = some ⟨"b", "No"⟩ := by rw [hchoices]; rfl
  have hfits : "b".utf8ByteSize ≤ Outbound.Telegram.maxData := by decide +kernel
  have hreports : Inbound.Telegram.Reports ⟨"b", "No"⟩ payload :=
    Inbound.Telegram.reports_report _
  have htext : menuTurn.text = (Inbound.Telegram.message ⟨0, 0⟩ payload).text :=
    (Inbound.Telegram.message_of_reports hreports ⟨0, 0⟩).2.symm
  obtain ⟨call, post, hcall, hpost, hkey, hpress⟩ :=
    n.press_continues ⟨none, none, Catalog.empty⟩ "7" "mock:" "t" ⟨0, 0⟩ hn hc hfits
  obtain ⟨-, -, hcontinues⟩ := hpress payload hreports
  refine ⟨hn, hc, hfits, hreports, ⟨call, post, hcall, hpost, hkey⟩, htext, ?_⟩
  exact hcontinues menuTurn .standard [] ⟨"menu", "right", some "b"⟩ htext
    (by rw [Graph.node?_ofFlow]; rfl) rfl

end Switchboard
