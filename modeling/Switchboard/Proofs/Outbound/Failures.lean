import Switchboard.Proofs.Dialogue.Addresses
import Switchboard.Proofs.Dialogue.Lines
import Switchboard.Service.Startup

/-!
# Failures of calls

A call fails at the first post that its platform does not take, and most calls are one post: then a
failure means that nothing was delivered. A file with a caption is two posts to Messenger and
Instagram. If the file is taken and the caption is not, the call fails although the file has arrived
(`halfDone_iff`), and the card has no line for it (`World.unlogged_only_captioned`).
-/

namespace Switchboard

open Outbound

namespace Outbound

/-- The platform took the post. -/
def Exchange.accepts : Exchange → Bool
  | .answered status _ => succeeded status
  | .dropped => false

-- ---------------------------------------------------------------------------
-- Posts made one after the other
-- ---------------------------------------------------------------------------

section Delivery

variable {answer : List Post → Post → Exchange} {made ps : List Post} {p : Post} {first : Receipt}
  {base : String}

theorem Post.isOk_outcome (p : Post) (x : Exchange) : (p.outcome x).isOk = x.accepts := by
  cases x with
  | dropped => rfl
  | answered status body =>
    show (if succeeded status then _ else _ : Except DeliveryError Receipt).isOk = succeeded status
    split
    next h => exact h.symm
    next h => exact (Bool.eq_false_iff.2 h).symm

theorem deliverAll_of_accepts (h : (answer made p).accepts = true) :
    deliverAll answer made first (p :: ps) = deliverAll answer (made ++ [p]) first ps := by
  rw [← p.isOk_outcome] at h
  rw [deliverAll]
  split
  next hfails => rw [hfails] at h; cases h
  next => rfl

theorem deliverAll_of_refused (first : Receipt) (ps : List Post)
    (h : (answer made p).accepts = false) :
    (deliverAll answer made first (p :: ps)).1 = made ++ [p] ∧
      (deliverAll answer made first (p :: ps)).2.isOk = false := by
  rw [← p.isOk_outcome] at h
  rw [deliverAll]
  split
  next => exact ⟨rfl, rfl⟩
  next hok => rw [hok] at h; cases h

/-- The posts of a call are made one after the other, whatever the receipt will be. -/
theorem deliver_eq_deliverAll (h : isMock base = false) (made ps : List Post) :
    ∃ first, deliver base answer made ps = deliverAll answer made first ps := by
  cases ps with
  | nil => exact ⟨_, rfl⟩
  | cons p ps =>
    simp only [deliver, deliverAll, h, Bool.false_eq_true, if_false]
    cases p.outcome (answer made p) with
    | error e => exact ⟨⟨none, none⟩, rfl⟩
    | ok receipt => exact ⟨receipt, rfl⟩

theorem isOk_deliver_of_mock (h : isMock base = true) (made ps : List Post) :
    (deliver base answer made ps).2.isOk = true := by
  cases ps with
  | nil => rfl
  | cons p ps =>
    rw [deliver, if_pos h]
    rfl

end Delivery

end Outbound

namespace Outbound.Connector

variable {c : Connector} {remote : Remote} {made : List Post} {call : Call}

-- ---------------------------------------------------------------------------
-- How many posts a call is
-- ---------------------------------------------------------------------------

/-- The caption of the call travels as a post of its own. -/
def CaptionApart : Connector → Call → Prop
  | page _ _ _, .media _ _ caption _ => caption ≠ ""
  | _, _ => False

/-- A call is one post at most, but for the file whose caption travels apart. -/
theorem posts_cases (c : Connector) (call : Call) :
    (c.CaptionApart call ∧ ∃ file caption, c.posts call = [file, caption]) ∨
      ¬ c.CaptionApart call ∧ (c.posts call = [] ∨ ∃ p, c.posts call = [p]) := by
  cases c with
  | whatsApp base phoneId token => exact .inr ⟨id, .inr ⟨_, rfl⟩⟩
  | webChat => exact .inr ⟨id, .inl rfl⟩
  | telegram base token =>
    refine .inr ⟨id, ?_⟩
    show Telegram.posts _ token call = [] ∨ ∃ p, Telegram.posts _ token call = [p]
    unfold Telegram.posts
    split
    · exact .inr ⟨_, rfl⟩
    · exact .inl rfl
  | page platform base token =>
    cases call with
    | media recipient url caption kind =>
      have hposts : (page platform base token).posts (.media recipient url caption kind) =
        Meta.posts _ token (.media recipient url caption kind) := rfl
      by_cases hcaption : caption = ""
      · refine .inr ⟨fun h => h hcaption, .inr ?_⟩
        rw [hposts, Meta.posts, Meta.messages, hcaption]
        exact ⟨_, rfl⟩
      · have hempty : caption.isEmpty = false := by simpa using hcaption
        refine .inl ⟨hcaption, ?_⟩
        rw [hposts, Meta.posts, Meta.messages, hempty]
        exact ⟨_, _, rfl⟩
    | read messageId => exact .inr ⟨fun h => h, .inl rfl⟩
    | _ => exact .inr ⟨fun h => h, .inr ⟨_, rfl⟩⟩

-- ---------------------------------------------------------------------------
-- What a call delivers
-- ---------------------------------------------------------------------------

/-- One of the posts that are made for a call is taken by the platform. -/
def Delivers (c : Connector) (remote : Remote) (made : List Post) (call : Call) : Prop :=
  ∃ before p, made ++ (before ++ [p]) <+: (c.carryOut remote made call).1 ∧
    (remote (made ++ before) p).accepts = true

/-- A call that fails although it delivers. -/
def HalfDone (c : Connector) (remote : Remote) (made : List Post) (call : Call) : Prop :=
  (c.carryOut remote made call).2.isOk = false ∧ c.Delivers remote made call

theorem not_delivers_of_refused {p : Post} (h : (remote made p).accepts = false)
    (hmade : (c.carryOut remote made call).1 = made ++ [p]) : ¬ c.Delivers remote made call := by
  rintro ⟨before, q, hprefix, haccepts⟩
  rw [hmade, List.prefix_append_right_inj] at hprefix
  cases before with
  | nil =>
    obtain rfl : q = p := (List.cons_prefix_cons.1 hprefix).1
    rw [List.append_nil, h] at haccepts
    cases haccepts
  | cons x rest => simp [List.cons_prefix_cons] at hprefix

theorem not_halfDone_of_isOk (h : (c.carryOut remote made call).2.isOk = true) :
    ¬ c.HalfDone remote made call := by
  rintro ⟨hfails, -⟩
  rw [h] at hfails
  cases hfails

theorem not_halfDone_of_mock (h : isMock c.base = true) : ¬ c.HalfDone remote made call :=
  not_halfDone_of_isOk (isOk_deliver_of_mock h _ _)

theorem not_halfDone_of_none (h : c.posts call = []) : ¬ c.HalfDone remote made call := by
  refine not_halfDone_of_isOk ?_
  rw [carryOut, h]
  rfl

theorem carryOut_eq_deliverAll (remote : Remote) (made : List Post) (call : Call)
    (h : isMock c.base = false) :
    ∃ first, c.carryOut remote made call = deliverAll remote made first (c.posts call) :=
  deliver_eq_deliverAll h _ _

theorem not_halfDone_of_one {p : Post} (h : c.posts call = [p]) :
    ¬ c.HalfDone remote made call := by
  cases hmock : isMock c.base with
  | true => exact not_halfDone_of_mock hmock
  | false =>
    obtain ⟨first, hcarry⟩ := carryOut_eq_deliverAll remote made call hmock
    rw [h] at hcarry
    cases hp : (remote made p).accepts with
    | true =>
      refine not_halfDone_of_isOk ?_
      rw [hcarry, deliverAll_of_accepts hp]
      rfl
    | false =>
      obtain ⟨hmade, -⟩ := deliverAll_of_refused first [] hp
      rw [← hcarry] at hmade
      exact fun hhalf => not_delivers_of_refused hp hmade hhalf.2

theorem halfDone_of_two {file caption : Post} (hmock : isMock c.base = false)
    (h : c.posts call = [file, caption]) :
    c.HalfDone remote made call ↔ (remote made file).accepts = true ∧
      (remote (made ++ [file]) caption).accepts = false := by
  obtain ⟨first, hcarry⟩ := carryOut_eq_deliverAll remote made call hmock
  rw [h] at hcarry
  cases hfile : (remote made file).accepts with
  | false =>
    obtain ⟨hmade, -⟩ := deliverAll_of_refused first [caption] hfile
    rw [← hcarry] at hmade
    exact iff_of_false (fun hhalf => not_delivers_of_refused hfile hmade hhalf.2) (by simp)
  | true =>
    rw [deliverAll_of_accepts hfile] at hcarry
    cases hcaption : (remote (made ++ [file]) caption).accepts with
    | true =>
      refine iff_of_false (not_halfDone_of_isOk ?_) (by simp)
      rw [hcarry, deliverAll_of_accepts hcaption]
      rfl
    | false =>
      obtain ⟨hmade, hfails⟩ := deliverAll_of_refused first [] hcaption
      rw [← hcarry] at hmade hfails
      refine iff_of_true ⟨hfails, [], file, ?_, by rwa [List.append_nil]⟩ ⟨rfl, rfl⟩
      rw [hmade]
      exact List.prefix_append _ _

/-- A call is half done exactly if its caption travels apart, and the platform takes the file but
not the caption. -/
theorem halfDone_iff (c : Connector) (remote : Remote) (made : List Post) (call : Call) :
    c.HalfDone remote made call ↔ c.CaptionApart call ∧ isMock c.base = false ∧
      ∃ file caption, c.posts call = [file, caption] ∧ (remote made file).accepts = true ∧
        (remote (made ++ [file]) caption).accepts = false := by
  constructor
  · intro hhalf
    rcases c.posts_cases call with ⟨hapart, file, caption, hposts⟩ | ⟨-, hnone | ⟨p, hone⟩⟩
    · have hmock : isMock c.base = false :=
        Bool.eq_false_iff.2 fun hmock => not_halfDone_of_mock hmock hhalf
      exact ⟨hapart, hmock, file, caption, hposts, (halfDone_of_two hmock hposts).1 hhalf⟩
    · exact absurd hhalf (not_halfDone_of_none hnone)
    · exact absurd hhalf (not_halfDone_of_one hone)
  · rintro ⟨-, hmock, file, caption, hposts, hboth⟩
    exact (halfDone_of_two hmock hposts).2 hboth

end Outbound.Connector

-- ---------------------------------------------------------------------------
-- Turns
-- ---------------------------------------------------------------------------

open Connector in
/-- A call that fails has delivered nothing, but for a file whose caption travels apart and is not
taken. So what a turn delivers is on the card, a line for each call and in their order, unless its
last call was half done. -/
theorem World.unlogged_only_captioned (c : Connector) (remote : Remote) :
    (∀ made call, c.HalfDone remote made call ↔ c.CaptionApart call ∧ isMock c.base = false ∧
      ∃ file caption, c.posts call = [file, caption] ∧ (remote made file).accepts = true ∧
        (remote (made ++ [file]) caption).accepts = false) ∧
    ∀ (w : World) (p : Platform) (clock : Clock) (rules : TurnRules)
      (introductions : List Introduction) (t : Turn) (card : Card),
      w.desk.card? t.card.id = some card →
        let after := (w.runTurn ⟨c.channel remote, p, clock⟩ rules introductions t).2
        ∃ card' made lines, after.desk.card? t.card.id = some card' ∧
          after.attempts = w.attempts ++ made ∧ card'.entries = card.entries ++ lines ∧
          List.Forall₂ (fun e call => e.Shows t.bot card.lastPlatform call) lines
            ((made.filter Attempt.delivered).map Attempt.call) ∧
          ∀ earlier a later, made = earlier ++ a :: later → a.call.sends = true →
            let posts := c.madeFor remote (w.callsOn p ++ earlier.map Attempt.call)
            c.Delivers remote posts a.call →
              a.delivered = true ∨ later = [] ∧ c.HalfDone remote posts a.call := by
  refine ⟨c.halfDone_iff remote, ?_⟩
  intro w p clock rules introductions t card hcard after
  obtain ⟨made, lines, hshown, hlast⟩ :=
    shown_runTurn hcard ⟨c.channel remote, p, clock⟩ rules introductions
  obtain ⟨x, card', hx, hcard', -, -, hlines⟩ := hshown.card
  obtain rfl : card = x := Option.some.inj (hcard.symm.trans hx)
  obtain ⟨calls, -, hcalls⟩ :=
    w.answers_runTurn ⟨c.channel remote, p, clock⟩ rules introductions t
  have hanswers : answers (c.channel remote) p (w.callsOn p) calls = made :=
    List.append_cancel_left (hcalls.symm.trans hshown.attempts)
  refine ⟨card', made, lines, hcard', hshown.attempts, hlines, hshown.shown, ?_⟩
  intro earlier a later hsplit hsends posts hdelivers
  cases haccepted : a.accepted with
  | true => exact .inl (by rw [Attempt.delivered, haccepted, hsends]; rfl)
  | false =>
    have hanswer := accepted_of_answers (hanswers.trans hsplit)
    rw [haccepted] at hanswer
    have hfails : ¬ a.Succeeds := by
      intro hsucceeds
      rw [hsucceeds hsends] at haccepted
      cases haccepted
    exact .inr ⟨hlast earlier a later hsplit hfails, hanswer.symm, hdelivers⟩

-- ---------------------------------------------------------------------------
-- A menu without its caption
-- ---------------------------------------------------------------------------

/-- A bot that sends the menu of a restaurant. -/
def waiterBot : Bot where
  id := "menu"
  name := "Menu"
  isActive := true
  updatedAt := ⟨0, 0⟩
  flow := {
    nodes := [⟨"start", .start, Catalog.empty⟩,
      ⟨"card", .media, Dictionary.set (Dictionary.set Catalog.empty "content" (.str "La carta"))
        "url" (.str "https://x/menu.pdf")⟩]
    edges := [⟨"start", "card", none⟩] }

def menuCall : Call := .media "9" "https://x/menu.pdf" "La carta" .document

def menuPage : Connector := .page .messenger Connector.graphBase "tok"

/-- A platform that takes one post and then no more. -/
def takesOne : Connector.Remote
  | [], _ => .answered 200 "\x7b\"message_id\": \"m1\"\x7d"
  | _, _ => .answered 500 "boom"

/-- The card of somebody who wrote on Messenger. -/
def guest : Card :=
  let hello := Message.ofText .messenger "9" "Hola"
  hello.addTo ⟨0, 0⟩ (hello.blankCard "guest" ⟨"inbox", "Bandeja", none⟩ ⟨0, 0⟩)

def guestWorld : World := World.start (Desk.empty.withCard guest) Roster.empty

def guestTurn : Turn := ⟨waiterBot, "9", guest, "Hola", none, false⟩

def menuStage : Stage := ⟨menuPage.channel takesOne, .messenger, fun _ => ⟨0, 0⟩⟩

/-- The menu arrived, but it is not on the card. -/
theorem menu_missing_from_card :
    menuCall.sends = true ∧ menuPage.HalfDone takesOne [] menuCall ∧
      let after := (guestWorld.runTurn menuStage .standard [] guestTurn).2
      (after.attempts.map fun a => (a.call.line?, a.accepted)) =
          [(some "[Archivo] La carta", false)] ∧
        (after.desk.card? "guest").map Card.entries = some guest.entries := by
  have hmock : isMock menuPage.base = false := by decide +kernel
  exact ⟨rfl, (Connector.halfDone_of_two hmock rfl).2 ⟨by decide, by decide⟩, by decide +kernel,
    by decide +kernel⟩

/-- The menu is half done, and so the turn leaves no line. -/
theorem unlogged_only_captioned_menu :
    guestWorld.desk.card? guestTurn.card.id = some guest ∧
      menuPage.HalfDone takesOne [] menuCall ∧
      ∃ card, (guestWorld.runTurn menuStage .standard [] guestTurn).2.desk.card? "guest" =
        some card ∧ card.entries = guest.entries := by
  have hcard : guestWorld.desk.card? guestTurn.card.id = some guest := rfl
  have hapart : menuPage.CaptionApart menuCall := show "La carta" ≠ "" by decide
  have hmock : isMock menuPage.base = false := by decide +kernel
  obtain ⟨hhalf, hturn⟩ := World.unlogged_only_captioned menuPage takesOne
  refine ⟨hcard, (hhalf [] menuCall).2 ⟨hapart, hmock, _, _, rfl, by decide, by decide⟩, ?_⟩
  obtain ⟨card, made, lines, hafter, hmade, hlines, hshown, -⟩ :=
    hturn guestWorld .messenger (fun _ => ⟨0, 0⟩) .standard [] guestTurn guest hcard
  refine ⟨card, hafter, ?_⟩
  have hnone : made.filter Attempt.delivered = [] := by
    rw [← show _ = made from hmade]
    exact List.eq_nil_of_length_eq_zero (by decide +kernel)
  rw [hnone, List.map_nil, List.forall₂_nil_right_iff] at hshown
  rw [hlines, hshown, List.append_nil]

end Switchboard
