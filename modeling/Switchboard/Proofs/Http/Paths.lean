import Switchboard.Digest.NameId
import Switchboard.Service.Routes

/-!
# Paths to cards

A path that ends in the id of a card leads to that card (`ofPath?_cardPath`), one that goes on leads
to its messages (`ofPath?_messagesPath`), and the id is taken as it is written there
(`pathPart?_plain`): ids have no slashes and no percent signs.
-/

namespace Switchboard

-- ---------------------------------------------------------------------------
-- Bytes
-- ---------------------------------------------------------------------------

namespace Text

theorem toList_loop (bs : ByteArray) (i : Nat) (r : List UInt8) :
    ByteArray.toList.loop bs i r = r.reverse ++ bs.data.toList.drop i := by
  fun_induction ByteArray.toList.loop bs i r with
  | case1 i r h ih =>
    have hi : i < bs.data.toList.length := by simpa using h
    have hget : bs.get! i = bs.data.toList[i] := by
      simp [ByteArray.get!, getElem!_pos, h]
    rw [ih, List.drop_eq_getElem_cons hi, hget]
    simp
  | case2 i r h =>
    have hi : bs.data.toList.length ≤ i := by simpa using h
    rw [List.drop_of_length_le hi, List.append_nil]

theorem toList_eq (bs : ByteArray) : bs.toList = bs.data.toList := by
  rw [ByteArray.toList, toList_loop]
  simp

/-- The bytes of a text are those of its characters. -/
theorem utf8_cons (c : Char) (cs : List Char) :
    utf8 (String.ofList (c :: cs)) = utf8 (String.singleton c) ++ utf8 (String.ofList cs) := by
  have h : String.ofList (c :: cs) = String.singleton c ++ String.ofList cs := by
    rw [← String.toList_inj]
    simp
  rw [h, utf8, utf8, utf8, toList_eq, toList_eq, toList_eq]
  simp

theorem ofUtf8?_utf8 (s : String) : ofUtf8? (utf8 s) = some s := by
  have h : (⟨(utf8 s).toArray⟩ : ByteArray) = s.toByteArray := by
    rw [utf8, toList_eq]
    rfl
  rw [ofUtf8?, h, String.fromUTF8?, dif_pos s.isValidUTF8]
  rfl

theorem splitAt_append {sep : Char → Bool} {cs : List Char} {mark : Char}
    (h : ∀ c ∈ cs, sep c = false) (hmark : sep mark = true) (rest : List Char) :
    splitAt sep (cs ++ mark :: rest) = cs :: splitAt sep rest := by
  have hsome : ∀ xs, ∃ piece pieces, splitAt sep xs = piece :: pieces := by
    intro xs
    cases xs with
    | nil => exact ⟨[], [], rfl⟩
    | cons x xs =>
      unfold splitAt
      split
      · exact ⟨[], [], rfl⟩
      · split <;> exact ⟨_, _, rfl⟩
  induction cs with
  | nil =>
    obtain ⟨piece, pieces, hrest⟩ := hsome rest
    simp [splitAt, hrest, hmark]
  | cons c cs ih =>
    obtain ⟨hc, hcs⟩ := List.forall_mem_cons.1 h
    simp [splitAt, ih hcs, hc]

theorem splitAt_of_not_mem {sep : Char → Bool} {cs : List Char} (h : ∀ c ∈ cs, sep c = false) :
    splitAt sep cs = [cs] := by
  induction cs with
  | nil => rfl
  | cons c cs ih =>
    obtain ⟨hc, hcs⟩ := List.forall_mem_cons.1 h
    simp [splitAt, ih hcs, hc]

end Text

namespace Http

/-- A part of a path without percent signs is taken as written. -/
theorem pathPart?_plain {s : String} (h : ∀ c ∈ s.toList, c ≠ '%') : pathPart? s = some s := by
  have hbytes : ∀ cs : List Char, (∀ c ∈ cs, c ≠ '%') →
      percentBytes cs = Text.utf8 (String.ofList cs) := by
    intro cs hcs
    induction cs with
    | nil => simp [percentBytes, Text.utf8, Text.toList_eq]
    | cons c cs ih =>
      obtain ⟨hc, hcs⟩ := List.forall_mem_cons.1 hcs
      rw [percentBytes, ih hcs, Text.utf8_cons]
      rintro a b rest rfl
      exact absurd rfl hc
  rw [pathPart?, hbytes _ h, String.ofList_toList, Text.ofUtf8?_utf8]

end Http

-- ---------------------------------------------------------------------------
-- Ids
-- ---------------------------------------------------------------------------

theorem Digest.nameId_chars (name : String) :
    nameId name ≠ "" ∧ ∀ c ∈ (nameId name).toList, c ≠ '/' ∧ c ≠ '%' := by
  have hdigit : ∀ n < 16, Nat.digitChar n ≠ '/' ∧ Nat.digitChar n ≠ '%' := by decide
  have hhex : ∀ (bytes : List UInt8), ∀ c ∈ toHex bytes, c ≠ '/' ∧ c ≠ '%' := by
    intro bytes c hc
    obtain ⟨b, -, hb⟩ := List.mem_flatMap.1 hc
    have := b.toNat_lt
    simp only [hexDigits, List.mem_cons, List.not_mem_nil, or_false] at hb
    rcases hb with rfl | rfl
    · exact hdigit _ (by omega)
    · exact hdigit _ (by omega)
  unfold nameId
  generalize hd : toHex _ = digits
  have hdigits : ∀ c ∈ digits, c ≠ '/' ∧ c ≠ '%' := hd ▸ hhex _
  refine ⟨fun h => ?_, fun c hc => ?_⟩
  · have hdash : '-' ∈ (String.ofList (grouped digits)).toList := by simp [grouped]
    rw [h] at hdash
    simp at hdash
  · rw [String.toList_ofList] at hc
    simp only [grouped, List.mem_append, List.mem_cons] at hc
    have htake : ∀ {n k : Nat}, c ∈ (digits.drop n).take k → c ∈ digits := fun h =>
      List.mem_of_mem_drop (List.mem_of_mem_take h)
    rcases hc with (((hc | rfl | hc) | rfl | hc) | rfl | hc) | rfl | hc
    · exact hdigits c (List.mem_of_mem_take hc)
    · decide
    · exact hdigits c (htake hc)
    · decide
    · exact hdigits c (htake hc)
    · decide
    · exact hdigits c (htake hc)
    · decide
    · exact hdigits c (List.mem_of_mem_drop hc)

namespace Service

/-- The path of a card. -/
def cardPath (id : String) : String := "/api/cards/" ++ id

theorem ofPath?_cardPath {id : String} (hid : id ≠ "") (hslash : ∀ c ∈ id.toList, c ≠ '/') :
    Resource.ofPath? (cardPath id) = some (.card id) := by
  have hlist : (cardPath id).toList =
      ['/', 'a', 'p', 'i', '/', 'c', 'a', 'r', 'd', 's', '/'] ++ id.toList := by
    simp [cardPath]
  have hrest : Text.splitAt (· = '/') id.toList = [id.toList] :=
    Text.splitAt_of_not_mem fun c hc => by simpa using hslash c hc
  have hsplit : (Text.splitAt (· = '/') (cardPath id).toList).map String.ofList =
      ["", "api", "cards", id] := by
    rw [hlist]
    simp [Text.splitAt, hrest]
  unfold Resource.ofPath?
  rw [hsplit]
  simp [hid]

/-- The path of the messages on a card. -/
def messagesPath (id : String) : String := cardPath id ++ "/messages"

theorem ofPath?_messagesPath {id : String} (hslash : ∀ c ∈ id.toList, c ≠ '/') :
    Resource.ofPath? (messagesPath id) = some (.cardMessages id) := by
  have hlist : (messagesPath id).toList =
      ['/', 'a', 'p', 'i', '/', 'c', 'a', 'r', 'd', 's', '/'] ++
        (id.toList ++ '/' :: "messages".toList) := by
    simp [messagesPath, cardPath]
  have hrest : Text.splitAt (· = '/') (id.toList ++ '/' :: "messages".toList) =
      [id.toList, "messages".toList] :=
    Text.splitAt_append (fun c hc => by simpa using hslash c hc) rfl _
  have hsplit : (Text.splitAt (· = '/') (messagesPath id).toList).map String.ofList =
      ["", "api", "cards", id, "messages"] := by
    rw [hlist]
    generalize id.toList ++ '/' :: "messages".toList = rest at hrest
    simp [Text.splitAt, hrest]
  unfold Resource.ofPath?
  rw [hsplit]
  simp

end Service

end Switchboard
