import Concatenative.Pipe
import Concatenative.Proofs.Console.Delivery

/-!
# Lines through a pipe

Text comes through a pipe as a row of bytes that is cut at line feeds. A line feed is one byte, and
no other character has that byte in it. So lines without line feeds, each ended by one, are read
back as they are, and the line editor for pipes delivers them in order if they hold no backspaces
(`Pipe.delivers`). What is proved of line editors with this property is thus proved of one that
exists.
-/

namespace Concatenative.Pipe

open Console

/-! ## Bytes of text -/

/-- The byte that ends a line. -/
def lineFeed : UInt8 := 10

/-- The loop that lists bytes puts those from an index on behind the ones it has listed already. -/
theorem toList_loop (bytes : ByteArray) (i : Nat) (listed : List UInt8) :
    ByteArray.toList.loop bytes i listed = listed.reverse ++ bytes.data.toList.drop i := by
  induction i, listed using ByteArray.toList.loop.induct bytes with
  | case1 i listed more ih =>
    have inside : i < bytes.data.toList.length := by simpa using more
    have byte : bytes.get! i = bytes.data.toList[i] := by
      rw [Array.getElem_toList]
      exact getElem!_pos bytes.data i more
    rw [ByteArray.toList.loop, if_pos more, ih, List.drop_eq_getElem_cons inside, byte,
      List.reverse_cons, List.append_assoc, List.singleton_append]
  | case2 i listed done =>
    have outside : bytes.data.toList.length ≤ i := by simpa using done
    rw [ByteArray.toList.loop, if_neg done, List.drop_eq_nil_of_le outside, List.append_nil]

theorem toList_eq_data (bytes : ByteArray) : bytes.toList = bytes.data.toList := by
  rw [ByteArray.toList, toList_loop]
  rfl

/-- Text that was encoded is decoded again. -/
theorem fromUTF8?_toByteArray (text : String) : String.fromUTF8? text.toByteArray = some text := by
  rw [String.fromUTF8?, dif_pos text.isValidUTF8]
  rfl

/-- No character but the line feed has its byte. -/
theorem eq_of_lineFeed_mem {c : Char} (mem : lineFeed ∈ String.utf8EncodeChar c) : c = '\n' := by
  obtain ⟨i, inside, byte⟩ := List.mem_iff_getElem.1 mem
  -- The byte can begin a character, so it is the first one; the line feed then begins the code.
  have first : (String.utf8EncodeChar c)[i].IsUTF8FirstByte := by
    rw [byte]
    decide
  rw [UInt8.isUTF8FirstByte_getElem_utf8EncodeChar] at first
  subst first
  have code : String.utf8EncodeChar c =
      String.utf8EncodeChar '\n' ++ (String.utf8EncodeChar c).drop 1 := by
    have cut := List.drop_eq_getElem_cons inside
    rw [byte] at cut
    exact cut
  have decoded := ByteArray.utf8DecodeChar?_utf8EncodeChar_append (b := .empty) (c := c)
  rw [ByteArray.append_empty, code, List.toByteArray_append,
    ByteArray.utf8DecodeChar?_utf8EncodeChar_append] at decoded
  exact (Option.some.inj decoded).symm

/-- The byte of the line feed is only in texts with a line feed. -/
theorem lineFeed_not_mem {line : String} (h : '\n' ∉ line.toList) :
    lineFeed ∉ line.toByteArray.data.toList := by
  rw [← String.utf8Encode_toList]
  intro mem
  rw [List.utf8Encode, List.data_toByteArray] at mem
  obtain ⟨c, occurs, byte⟩ := List.mem_flatMap.1 (by simpa using mem)
  rw [eq_of_lineFeed_mem byte] at occurs
  exact h occurs

/-! ## Lines -/

/-- A line is cut off at the line feed that ends it. -/
theorem cutLines_append {line : List UInt8} (h : lineFeed ∉ line) (start rest : List UInt8) :
    cutLines start (line ++ lineFeed :: rest) = (start.reverse ++ line) :: cutLines [] rest := by
  induction line generalizing start with
  | nil =>
    rw [List.nil_append, cutLines, if_pos (by decide), List.append_nil]
  | cons byte line ih =>
    rw [List.mem_cons, not_or] at h
    have other : ¬ (byte == 10) = true := fun same => h.1 (eq_of_beq same).symm
    rw [List.cons_append, cutLines, if_neg other, ih h.2, List.reverse_cons, List.append_assoc]
    rfl

/-- Lines without line feeds are read from the input made of them. -/
theorem inputLines_joinLines {lines : List String} (h : ∀ line ∈ lines, '\n' ∉ line.toList) :
    inputLines (joinLines lines) = lines.map String.toByteArray := by
  unfold inputLines
  rw [toList_eq_data]
  induction lines with
  | nil => rfl
  | cons line lines ih =>
    have bytes : (joinLines (line :: lines)).data.toList =
        line.toByteArray.data.toList ++ lineFeed :: (joinLines lines).data.toList := by
      show ((line ++ "\n").toByteArray ++ joinLines lines).data.toList = _
      rw [String.toByteArray_append, ByteArray.append_assoc, ByteArray.data_append,
        Array.toList_append]
      congr 1
    rw [List.forall_mem_cons] at h
    rw [bytes, cutLines_append (lineFeed_not_mem h.1), List.map_cons, List.map_cons, ih h.2]
    rfl

/-- A terminal that can edit lines gets no prompts. -/
theorem prompt_eq_empty {terminal : Option String}
    (able : ∀ name, terminal = some name → name.toLower ∉ plainTerminals) :
    prompt terminal = .empty := by
  cases terminal with
  | none => rfl
  | some name =>
    rw [prompt, if_neg]
    simpa using able name rfl

/-- Lines of text without backspaces are delivered as they are. -/
theorem deliver_map_toByteArray {lines : List String}
    (typed : ∀ line ∈ lines, backspace ∉ line.toList) :
    deliver .empty (lines.map String.toByteArray) = .plain lines := by
  induction lines with
  | nil => rfl
  | cons line lines ih =>
    rw [List.forall_mem_cons] at typed
    rw [List.map_cons, deliver, fromUTF8?_toByteArray]
    simp only [applyBackspaces_eq_self typed.1, ih typed.2, Delivery.plain]

/-- In a terminal that can edit lines, the line editor for pipes delivers lines without line feeds
and backspaces in order. -/
theorem delivers {terminal : Option String} {lines : List String}
    (able : ∀ name, terminal = some name → name.toLower ∉ plainTerminals)
    (cut : ∀ line ∈ lines, '\n' ∉ line.toList) (typed : ∀ line ∈ lines, backspace ∉ line.toList) :
    editor.Delivers terminal (joinLines lines) lines := by
  have delivered : editor.deliver terminal (joinLines lines) = .ok (.plain lines) := by
    show Except.ok (deliver (prompt terminal) (inputLines (joinLines lines))) = _
    rw [prompt_eq_empty able, inputLines_joinLines cut, deliver_map_toByteArray typed]
  exact ⟨_, delivered, Delivery.orderly_plain terminal lines⟩

end Concatenative.Pipe
