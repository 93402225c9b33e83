import Switchboard.Json.Printer
import Switchboard.Json.Reader
import Switchboard.Proofs.Decimal.Digits
import Switchboard.Proofs.Json.Records

/-!
# JSON texts read back

The printed text of a plain value is read back as that value (`read?_print`). The text is cut into
tokens first; what the tokens of a value do to a reading is what the value alone would do, wherever
it stands.
-/

namespace Switchboard.Json

open Decimal

-- ---------------------------------------------------------------------------
-- Quoted texts
-- ---------------------------------------------------------------------------

theorem quoted?_plain {c : Char} (hq : c ≠ '"') (hb : c ≠ '\\') (hc : ¬ c.toNat < 0x20)
    (tail : List Char) : quoted? (c :: tail) = (quoted? tail).map fun p => (c :: p.1, p.2) := by
  rw [quoted?, if_neg (by simp [hb, hc])]
  · cases quoted? tail <;> rfl
  all_goals
    intros
    contradiction

theorem quoted?_mark {mark c : Char} (hu : mark ≠ 'u') (h : escaped? mark = some c)
    (tail : List Char) :
    quoted? ('\\' :: mark :: tail) = (quoted? tail).map fun p => (c :: p.1, p.2) := by
  rw [quoted?, h]
  · cases quoted? tail <;> rfl
  all_goals
    intros
    contradiction

theorem quoted?_unit {a b c d : Char} {n : Nat} (h : hex4? a b c d = some n) (hn : n < 0xD800)
    (tail : List Char) :
    quoted? ('\\' :: 'u' :: a :: b :: c :: d :: tail) =
      (quoted? tail).map fun p => (Char.ofNat n :: p.1, p.2) := by
  have hlead : isLeadUnit n = false := by simp [isLeadUnit]; omega
  have htrail : isTrailUnit n = false := by simp [isTrailUnit]; omega
  by_cases htail : ∃ e f g i rest, tail = '\\' :: 'u' :: e :: f :: g :: i :: rest
  · obtain ⟨e, f, g, i, rest, rfl⟩ := htail
    rw [quoted?, h]
    simp only [Option.bind_eq_bind, Option.bind_some, hlead, htrail, Bool.false_eq_true, if_false]
    cases quoted? ('\\' :: 'u' :: e :: f :: g :: i :: rest) <;> rfl
  · rw [quoted?, h]
    · simp only [Option.bind_eq_bind, Option.bind_some, hlead, htrail, Bool.or_self,
        Bool.false_eq_true, if_false]
      cases quoted? tail <;> rfl
    · intro e f g i rest ht
      exact htail ⟨e, f, g, i, rest, ht⟩

theorem hexValue?_hexDigit {n : Nat} (h : n < 16) : hexValue? (hexDigit n) = some n := by
  revert n
  decide

theorem quoted?_escape (c : Char) (tail : List Char) :
    quoted? ((escape c).toList ++ tail) = (quoted? tail).map fun p => (c :: p.1, p.2) := by
  unfold escape
  split
  · exact quoted?_mark (by decide) rfl tail
  · exact quoted?_mark (by decide) rfl tail
  · exact quoted?_mark (by decide) rfl tail
  · exact quoted?_mark (by decide) rfl tail
  · exact quoted?_mark (by decide) rfl tail
  · exact quoted?_mark (by decide) rfl tail
  · exact quoted?_mark (by decide) rfl tail
  next hquote hslash _ _ _ _ _ =>
    split
    next hlow =>
      have hunit : hex4? '0' '0' (hexDigit (c.toNat / 16)) (hexDigit c.toNat) = some c.toNat := by
        have hhigh := hexValue?_hexDigit (n := c.toNat / 16) (by omega)
        have hrest : hexValue? (hexDigit c.toNat) = some (c.toNat % 16) := by
          rw [← hexValue?_hexDigit (n := c.toNat % 16) (by omega)]
          simp [hexDigit]
        have hzero : hexValue? '0' = some 0 := by decide
        simp only [hex4?, hhigh, hrest, hzero, Option.bind_eq_bind, Option.bind_some,
          Option.pure_def, Option.some.injEq]
        omega
      rw [String.toList_ofList]
      refine (quoted?_unit hunit (by omega) tail).trans ?_
      rw [Char.ofNat_toNat]
    next hlow =>
      rw [String.toList_singleton]
      exact quoted?_plain (by simpa using hquote) (by simpa using hslash) hlow tail

theorem toList_quote (s : String) :
    (quote s).toList = '"' :: (s.toList.flatMap fun c => (escape c).toList) ++ ['"'] := by
  have h : ∀ (cs : List Char) (out : String),
      (cs.foldl (fun out c => out ++ escape c) out).toList =
        out.toList ++ cs.flatMap fun c => (escape c).toList := by
    intro cs
    induction cs with
    | nil => simp
    | cons c cs ih => intro out; rw [List.foldl_cons, ih]; simp
  rw [quote, String.toList_append, h]
  rfl

theorem quoted?_written (cs rest : List Char) :
    quoted? ((cs.flatMap fun c => (escape c).toList) ++ '"' :: rest) = some (cs, rest) := by
  induction cs with
  | nil => rfl
  | cons c cs ih => rw [List.flatMap_cons, List.append_assoc, quoted?_escape, ih]; rfl

-- ---------------------------------------------------------------------------
-- Tokens
-- ---------------------------------------------------------------------------

/-- What may follow a value. -/
def Delimits (rest : List Char) : Prop :=
  ∀ c, rest.head? = some c → c = ',' ∨ c = ']' ∨ c = '\x7d'

/-- A text with these tokens, whatever follows it in the given way. -/
def Lexes (follow : List Char → Prop) (cs : List Char) (ts : List Token) : Prop :=
  ts.length ≤ cs.length ∧ ∀ fuel rest, follow rest →
    tokensWithin (ts.length + fuel) (cs ++ rest) =
      (ts ++ (tokensWithin fuel rest).1, (tokensWithin fuel rest).2)

theorem lexes_nil (follow : List Char → Prop) : Lexes follow [] [] :=
  ⟨Nat.le_refl 0, fun fuel rest _ => by simp⟩

theorem Lexes.append {follow follow' : List Char → Prop} {cs cs' : List Char}
    {ts ts' : List Token} (h : Lexes follow cs ts) (h' : Lexes follow' cs' ts')
    (hfollow : ∀ rest, follow' rest → follow (cs' ++ rest)) :
    Lexes follow' (cs ++ cs') (ts ++ ts') := by
  refine ⟨?_, fun fuel rest hrest => ?_⟩
  · have := h.1
    have := h'.1
    simp only [List.length_append]
    omega
  · rw [List.length_append, Nat.add_assoc, List.append_assoc, h.2 _ _ (hfollow rest hrest),
      h'.2 _ _ hrest, List.append_assoc]

theorem tokensWithin_next {c : Char} {cs rest : List Char} {token : Token} (fuel : Nat)
    (hspace : isSpace c = false) (h : nextToken? (c :: cs) = some (token, rest)) :
    tokensWithin (fuel + 1) (c :: cs) =
      (token :: (tokensWithin fuel rest).1, (tokensWithin fuel rest).2) := by
  rw [tokensWithin, List.dropWhile_cons_of_neg (by simp [hspace])]
  dsimp only
  rw [h]

/-- A text of one token. -/
theorem Lexes.one {follow : List Char → Prop} {c : Char} {cs : List Char} {token : Token}
    (hspace : isSpace c = false)
    (h : ∀ rest, follow rest → nextToken? (c :: cs ++ rest) = some (token, rest)) :
    Lexes follow (c :: cs) [token] := by
  refine ⟨by simp, fun fuel rest hrest => ?_⟩
  rw [List.length_singleton, Nat.add_comm]
  exact tokensWithin_next fuel hspace (h rest hrest)

theorem lexes_quote (s : String) : Lexes (fun _ => True) (quote s).toList [.text s] := by
  rw [toList_quote]
  refine Lexes.one (by decide) fun rest _ => ?_
  have h := quoted?_written s.toList rest
  show textToken? (((s.toList.flatMap fun c => (escape c).toList) ++ ['"']) ++ rest) = _
  rw [List.append_assoc, textToken?]
  simp only [List.cons_append, List.nil_append, h, String.ofList_toList]

theorem isSpace_of_isDigit {c : Char} (h : c.isDigit = true) : isSpace c = false := by
  simp only [isSpace, Bool.or_eq_false_iff, decide_eq_false_iff_not]
  refine ⟨⟨⟨?_, ?_⟩, ?_⟩, ?_⟩ <;>
    · rintro rfl
      revert h
      decide

theorem nextToken?_digit {c : Char} (h : c.isDigit = true) (cs : List Char) :
    nextToken? (c :: cs) = numberToken? false (c :: cs) := by
  rw [nextToken?.eq_def]
  split <;> simp_all

theorem Delimits.endsNumber {rest : List Char} (h : Delimits rest) : EndsNumber rest := by
  intro c hc
  rcases h c hc with rfl | rfl | rfl <;> decide

theorem numberToken?_digits {n : Nat} (hn : n < UInt64.size) {rest : List Char}
    (hrest : Delimits rest) (negative : Bool)
    (hneg : negative = true → 0 < n ∧ n ≤ 0x8000000000000000) :
    numberToken? negative (Nat.toDigits 10 n ++ rest) =
      some (.scalar (.num (.int (if negative then -(n : Int) else n))), rest) := by
  have hdigits : ∀ c ∈ Nat.toDigits 10 n, c.isDigit = true := fun c hc => isDigit_toDigits hc
  obtain ⟨htake, hdrop⟩ := takeWhile_digits hdigits hrest.endsNumber
  have hempty : (Nat.toDigits 10 n).isEmpty = false := by simp [Nat.toDigits_ne_nil]
  have hleading : ((Nat.toDigits 10 n).head? == some '0' &&
      decide (1 < (Nat.toDigits 10 n).length)) = false := by
    by_cases h : (Nat.toDigits 10 n).head? = some '0'
    · rw [toDigits_leading h]
      rfl
    · simp [h]
  have hplaces : places? rest = some (none, rest) := by
    unfold places?
    split
    next cs => have := hrest '.' rfl; simp at this
    next => rfl
  have hexponent : exponent? rest = some (none, rest) := by
    cases rest with
    | nil => rfl
    | cons c cs => rcases hrest c rfl with rfl | rfl | rfl <;> rfl
  unfold numberToken?
  simp only [htake, hdrop, hempty, hleading, hplaces, hexponent, natOfDigits_toDigits, hn,
    Option.bind_eq_bind, Option.bind_some, Option.pure_def]
  cases negative with
  | false => simp
  | true =>
    obtain ⟨hpos, hle⟩ := hneg rfl
    have hsigned : ¬ (n = 0 ∨ 0x8000000000000000 < n) := by omega
    simp [hsigned]

theorem lexes_int {i : Int} (hlow : -0x8000000000000000 ≤ i) (hhigh : i < UInt64.size) :
    Lexes Delimits (toString i).toList [.scalar (.num (.int i))] := by
  cases i with
  | ofNat n =>
    have hn : n < UInt64.size := Int.ofNat_lt.1 hhigh
    have hdigits := fun rest (hrest : Delimits rest) =>
      numberToken?_digits hn hrest false (by simp)
    show Lexes Delimits (Nat.repr n).toList _
    rw [Nat.repr_eq_ofList_toDigits, String.toList_ofList]
    cases hd : Nat.toDigits 10 n with
    | nil => exact absurd hd Nat.toDigits_ne_nil
    | cons c cs =>
      have hc : c.isDigit = true := isDigit_toDigits (n := n) (by rw [hd]; simp)
      rw [hd] at hdigits
      refine Lexes.one (isSpace_of_isDigit hc) fun rest hrest => ?_
      rw [List.cons_append, nextToken?_digit hc]
      exact hdigits rest hrest
  | negSucc n =>
    have hn : n + 1 ≤ 0x8000000000000000 := by omega
    have hsize : n + 1 < UInt64.size := by
      simp only [UInt64.size]
      omega
    have htext : (toString (Int.negSucc n)).toList = '-' :: Nat.toDigits 10 (n + 1) := by
      show ("-" ++ Nat.repr (n + 1)).toList = _
      simp [Nat.repr_eq_ofList_toDigits]
    rw [htext]
    exact Lexes.one (by decide) fun rest hrest =>
      numberToken?_digits hsize hrest true fun _ => ⟨by omega, hn⟩

-- ---------------------------------------------------------------------------
-- Values
-- ---------------------------------------------------------------------------

/-- A value of at most some depth whose text can be read back: its numbers are integers of
sixty-four bits, and its objects list their members in order. -/
inductive Plain : Nat → Json → Prop
  | null (n : Nat) : Plain n .null
  | bool (n : Nat) (b : Bool) : Plain n (.bool b)
  | int (n : Nat) {i : Int} (low : -0x8000000000000000 ≤ i) (high : i < UInt64.size) :
    Plain n (.num (.int i))
  | str (n : Nat) (s : String) : Plain n (.str s)
  | arr {n : Nat} {items : List Json} (h : ∀ v ∈ items, Plain n v) : Plain (n + 1) (.arr items)
  | obj {n : Nat} {members : List (String × Json)}
    (ascending : members.Pairwise fun a b => a.1 < b.1) (h : ∀ m ∈ members, Plain n m.2) :
    Plain (n + 1) (.obj members)

theorem Plain.mono {n k : Nat} {v : Json} (h : Plain n v) (hk : n ≤ k) : Plain k v := by
  induction h generalizing k with
  | null n => exact .null k
  | bool n b => exact .bool k b
  | int n low high => exact .int k low high
  | str n s => exact .str k s
  | arr _ ih =>
    obtain ⟨k, rfl⟩ := Nat.exists_eq_add_of_lt (Nat.lt_of_succ_le hk)
    exact .arr fun v hv => ih v hv (by omega)
  | obj ascending _ ih =>
    obtain ⟨k, rfl⟩ := Nat.exists_eq_add_of_lt (Nat.lt_of_succ_le hk)
    exact .obj ascending fun m hm => ih m hm (by omega)

theorem plain_object {n : Nat} {members : List (String × Json)}
    (h : ∀ m ∈ members, Plain n m.2) : Plain (n + 1) (object members) := by
  obtain ⟨sorted, hobject, hascending, hmem, -⟩ := object_eq members
  rw [hobject]
  exact .obj hascending fun m hm => h m (hmem m hm)

theorem plain_ofText? (n : Nat) (s : Option String) : Plain n (Json.ofText? s) := by
  cases s with
  | none => exact .null n
  | some s => exact .str n s

theorem forall_mem_present {p : Json → Prop} {members : List (String × Option Json)} :
    (∀ m ∈ present members, p m.2) ↔ ∀ m ∈ members, ∀ v, m.2 = some v → p v := by
  simp only [present, List.mem_filterMap, Option.map_eq_some_iff]
  refine ⟨fun h m hm v hv => h (m.1, v) ⟨m, hm, v, hv, rfl⟩, ?_⟩
  rintro h _ ⟨m, hm, v, hv, rfl⟩
  exact h m hm v hv

theorem plain_map_str {α : Type} (n : Nat) (f : α → String) (x : Option α) :
    ∀ v, x.map (fun x => Json.str (f x)) = some v → Plain n v := by
  rintro v hv
  obtain ⟨x, -, rfl⟩ := Option.map_eq_some_iff.1 hv
  exact .str n (f x)

/-- Tokens lead from one state of reading to another. -/
def Leads (ts : List Token) (r r' : Reading) : Prop := ts.foldlM Reading.step r = some r'

theorem Leads.append {ts ts' : List Token} {r r' r'' : Reading} (h : Leads ts r r')
    (h' : Leads ts' r' r'') : Leads (ts ++ ts') r r'' := by
  unfold Leads at *
  rw [List.foldlM_append, h]
  exact h'

theorem Leads.one {t : Token} {r r' : Reading} (h : r.step t = some r') : Leads [t] r r' := by
  simp [Leads, h]

/-- A text that is read as a value, wherever a value may stand that deep. -/
def Spells (cs : List Char) (n : Nat) (v : Json) : Prop :=
  ∃ ts, Lexes Delimits cs ts ∧ ∀ frames want, want.allowsValue = true →
    frames.length + n ≤ maxDepth → Leads ts (.within frames want) (.close v frames)

theorem spells_scalar {cs : List Char} {v : Json} (n : Nat)
    (h : Lexes Delimits cs [.scalar v]) : Spells cs n v :=
  ⟨_, h, fun frames want hwant _ => .one (by simp [Reading.step, hwant])⟩

theorem spells_quote (s : String) (n : Nat) : Spells (quote s).toList n (.str s) := by
  obtain ⟨hlength, hlex⟩ := lexes_quote s
  exact ⟨_, ⟨hlength, fun fuel rest _ => hlex fuel rest trivial⟩, fun frames want hwant _ =>
    .one (by simp [Reading.step, hwant])⟩

theorem lexes_mark {c : Char} {token : Token} (hspace : isSpace c = false)
    (h : ∀ rest, nextToken? (c :: rest) = some (token, rest)) (follow : List Char → Prop) :
    Lexes follow [c] [token] := Lexes.one hspace fun rest _ => h rest

theorem delimits_cons {c : Char} (h : c = ',' ∨ c = ']' ∨ c = '\x7d') (rest : List Char) :
    Delimits (c :: rest) := by
  rintro _ ⟨⟩
  exact h

/-- Items of an array, with commas between them. -/
theorem spells_items {n : Nat} (v : Json) (vs : List Json)
    (h : ∀ w ∈ v :: vs, Spells w.print.toList n w) :
    ∃ ts, Lexes Delimits (printItems (v :: vs)).toList ts ∧
      ∀ reversed frames want, want.allowsValue = true → frames.length + 1 + n ≤ maxDepth →
        Leads ts (.within (.array reversed :: frames) want)
          (.within (.array ((v :: vs).reverse ++ reversed) :: frames) .commaOrEnd) := by
  induction vs generalizing v with
  | nil =>
    obtain ⟨ts, hlex, hleads⟩ := h v List.mem_cons_self
    exact ⟨ts, hlex, fun reversed frames want hwant hdepth =>
      hleads (.array reversed :: frames) want hwant hdepth⟩
  | cons w ws ih =>
    obtain ⟨ts, hlex, hleads⟩ := h v List.mem_cons_self
    obtain ⟨ts', hlex', hleads'⟩ := ih w fun x hx => h x (List.mem_cons_of_mem v hx)
    have hcomma := lexes_mark (c := ',') (by decide) (fun _ => rfl) fun _ => True
    refine ⟨ts ++ ([.comma] ++ ts'), ?_, fun reversed frames want hwant hdepth => ?_⟩
    · rw [printItems, String.toList_append, String.toList_append, List.append_assoc]
      exact hlex.append (hcomma.append hlex' fun _ _ => trivial) fun rest _ =>
        delimits_cons (.inl rfl) _
    · have hfirst := hleads (.array reversed :: frames) want hwant hdepth
      have hlater := hleads' (v :: reversed) frames .value rfl hdepth
      rw [List.reverse_cons (a := v), List.append_assoc]
      exact hfirst.append ((Leads.one rfl).append hlater)

/-- One member of an object that comes after those before it. -/
theorem spells_member {n : Nat} (m : String × Json) (h : Spells m.2.print.toList n m.2) :
    ∃ ts, Lexes Delimits (quote m.1 ++ ":" ++ m.2.print).toList ts ∧
      ∀ before name frames want, want = .name ∨ want = .nameOrEnd →
        frames.length + 1 + n ≤ maxDepth → (∀ x ∈ before, x.1 < m.1) →
        Leads ts (.within (.object before name :: frames) want)
          (.within (.object (before ++ [m]) "" :: frames) .commaOrEnd) := by
  obtain ⟨ts, hlex, hleads⟩ := h
  have hcolon := lexes_mark (c := ':') (by decide) (fun _ => rfl) fun _ => True
  refine ⟨[.text m.1] ++ ([.colon] ++ ts), ?_, fun before name frames want hwant hdepth hlast => ?_⟩
  · rw [String.toList_append, String.toList_append, List.append_assoc]
    exact (lexes_quote m.1).append (hcolon.append hlex fun _ _ => trivial) fun _ _ => trivial
  · have hname : (Reading.within (.object before name :: frames) want).step (.text m.1) =
        some (.within (.object before m.1 :: frames) .colon) := by
      rcases hwant with rfl | rfl <;> rfl
    have hvalue := hleads (.object before m.1 :: frames) .value rfl hdepth
    rw [← Catalog.insertAscending_last hlast]
    exact (Leads.one hname).append ((Leads.one rfl).append hvalue)

/-- Members of an object, with commas between them. -/
theorem spells_members {n : Nat} (m : String × Json) (ms : List (String × Json))
    (h : ∀ x ∈ m :: ms, Spells x.2.print.toList n x.2) :
    ∃ ts, Lexes Delimits (printMembers (m :: ms)).toList ts ∧
      ∀ before name frames want, want = .name ∨ want = .nameOrEnd →
        frames.length + 1 + n ≤ maxDepth →
        (before ++ m :: ms).Pairwise (fun a b => a.1 < b.1) →
        Leads ts (.within (.object before name :: frames) want)
          (.within (.object (before ++ m :: ms) "" :: frames) .commaOrEnd) := by
  have hlast : ∀ {before : List (String × Json)} {m ms}, (before ++ m :: ms).Pairwise
      (fun a b : String × Json => a.1 < b.1) → ∀ x ∈ before, x.1 < m.1 := fun h x hx =>
    (List.pairwise_append.1 h).2.2 x hx _ List.mem_cons_self
  induction ms generalizing m with
  | nil =>
    obtain ⟨ts, hlex, hleads⟩ := spells_member m (h m List.mem_cons_self)
    exact ⟨ts, hlex, fun before name frames want hwant hdepth hascending =>
      hleads before name frames want hwant hdepth (hlast hascending)⟩
  | cons x xs ih =>
    obtain ⟨ts, hlex, hleads⟩ := spells_member m (h m List.mem_cons_self)
    obtain ⟨ts', hlex', hleads'⟩ := ih x fun y hy => h y (List.mem_cons_of_mem m hy)
    have hcomma := lexes_mark (c := ',') (by decide) (fun _ => rfl) fun _ => True
    refine ⟨ts ++ ([.comma] ++ ts'), ?_, fun before name frames want hwant hdepth hascending => ?_⟩
    · rw [printMembers, String.toList_append, String.toList_append, List.append_assoc]
      exact hlex.append (hcomma.append hlex' fun _ _ => trivial) fun rest _ =>
        delimits_cons (.inl rfl) _
    · have hfirst := hleads before name frames want hwant hdepth (hlast hascending)
      rw [List.append_cons] at hascending ⊢
      have hlater := hleads' (before ++ [m]) "" frames .name (.inl rfl) hdepth hascending
      exact hfirst.append ((Leads.one (t := .comma) rfl).append hlater)

theorem enter_of_depth {frames : List Frame} {n : Nat} (hdepth : frames.length + (n + 1) ≤ maxDepth)
    (frame : Frame) (want : Want) :
    Reading.enter frame frames want = some (.within (frame :: frames) want) :=
  if_pos (by omega)

/-- A value between an opening and a closing mark. -/
theorem spells_enclosed {n : Nat} {v : Json} {opening closing : Char} {begins ends : Token}
    {frame : Frame} {first : Want} {inner : List Char} {ts : List Token}
    (hopen : Lexes (fun _ => True) [opening] [begins]) (hclose : Lexes Delimits [closing] [ends])
    (hmark : closing = ',' ∨ closing = ']' ∨ closing = '\x7d')
    (hbegin : ∀ frames want, want.allowsValue = true →
      (Reading.within frames want).step begins = Reading.enter frame frames first)
    (hinner : Lexes Delimits inner ts)
    (hleads : ∀ frames : List Frame, frames.length + 1 + n ≤ maxDepth →
      Leads (ts ++ [ends]) (.within (frame :: frames) first) (.close v frames)) :
    Spells ([opening] ++ (inner ++ [closing])) (n + 1) v := by
  refine ⟨[begins] ++ (ts ++ [ends]), ?_, fun frames want hwant hdepth => ?_⟩
  · exact hopen.append (hinner.append hclose fun rest _ => delimits_cons hmark rest)
      fun _ _ => trivial
  · have henter := (hbegin frames want hwant).trans (enter_of_depth hdepth frame first)
    exact (Leads.one henter).append (hleads frames (by omega))

theorem spells_arr {n : Nat} {items : List Json} (h : ∀ v ∈ items, Spells v.print.toList n v) :
    Spells (Json.arr items).print.toList (n + 1) (.arr items) := by
  have hopen := lexes_mark (c := '[') (by decide) (fun _ => rfl) fun _ => True
  have hclose := lexes_mark (c := ']') (by decide) (fun _ => rfl) Delimits
  have hbegin : ∀ frames want, want.allowsValue = true →
      (Reading.within frames want).step .beginArray =
        Reading.enter (.array []) frames .valueOrEnd := by
    intro frames want hwant
    simp [Reading.step, hwant]
  have htext : (Json.arr items).print.toList = ['['] ++ ((printItems items).toList ++ [']']) := by
    simp [print]
  rw [htext]
  cases items with
  | nil =>
    rw [printItems, String.toList_empty]
    exact spells_enclosed hopen hclose (.inr (.inl rfl)) hbegin (lexes_nil _) fun _ _ => .one rfl
  | cons v vs =>
    obtain ⟨ts, hlex, hleads⟩ := spells_items v vs h
    refine spells_enclosed hopen hclose (.inr (.inl rfl)) hbegin hlex fun frames hdepth => ?_
    refine (hleads [] frames .valueOrEnd rfl hdepth).append (.one ?_)
    simp [Reading.step]

theorem spells_obj {n : Nat} {members : List (String × Json)}
    (hascending : members.Pairwise fun a b => a.1 < b.1)
    (h : ∀ m ∈ members, Spells m.2.print.toList n m.2) :
    Spells (Json.obj members).print.toList (n + 1) (.obj members) := by
  have hopen := lexes_mark (c := '\x7b') (by decide) (fun _ => rfl) fun _ => True
  have hclose := lexes_mark (c := '\x7d') (by decide) (fun _ => rfl) Delimits
  have hbegin : ∀ frames want, want.allowsValue = true →
      (Reading.within frames want).step .beginObject =
        Reading.enter (.object [] "") frames .nameOrEnd := by
    intro frames want hwant
    simp [Reading.step, hwant]
  have htext : (Json.obj members).print.toList =
      ['\x7b'] ++ ((printMembers members).toList ++ ['\x7d']) := by
    simp [print]
  rw [htext]
  cases members with
  | nil =>
    rw [printMembers, String.toList_empty]
    exact spells_enclosed hopen hclose (.inr (.inr rfl)) hbegin (lexes_nil _) fun _ _ => .one rfl
  | cons m ms =>
    obtain ⟨ts, hlex, hleads⟩ := spells_members m ms h
    refine spells_enclosed hopen hclose (.inr (.inr rfl)) hbegin hlex fun frames hdepth => ?_
    exact (hleads [] "" frames .nameOrEnd (.inr rfl) hdepth hascending).append (.one rfl)

theorem spells_print {n : Nat} {v : Json} (h : Plain n v) : Spells v.print.toList n v := by
  induction h with
  | null n => exact spells_scalar n (Lexes.one (by decide) fun _ _ => rfl)
  | bool n b => cases b <;> exact spells_scalar n (Lexes.one (by decide) fun _ _ => rfl)
  | int n low high => exact spells_scalar n (lexes_int low high)
  | str n s => exact spells_quote s n
  | arr _ ih => exact spells_arr ih
  | obj ascending _ ih => exact spells_obj ascending ih

/-- A plain value is read back from its text. -/
theorem read?_print {v : Json} (h : Plain maxDepth v) : read? v.print = some v := by
  obtain ⟨ts, ⟨hlength, hlex⟩, hleads⟩ := spells_print h
  have htokens : tokens v.print.toList = (ts, true) := by
    have h := hlex (v.print.toList.length - ts.length + 1) [] (by simp [Delimits])
    have hfuel : ts.length + (v.print.toList.length - ts.length + 1) =
        v.print.toList.length + 1 := by omega
    rw [List.append_nil, hfuel] at h
    rw [tokens, h]
    simp [tokensWithin]
  have hfold : ts.foldlM Reading.step (.within [] .value) = some (.complete v) :=
    hleads [] .value rfl (by simp)
  rw [read?, ofChars?, htokens]
  simp only [hfold]

end Switchboard.Json
