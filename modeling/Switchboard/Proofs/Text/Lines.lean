import Mathlib.Data.List.Basic
import Switchboard.Text.Blank
import Switchboard.Text.Lines
import Switchboard.Text.Utf8

/-!
# Lines of text

Lines are cut out of bytes, before it is known whether the bytes are text. Cutting looks for the
line feed and the carriage return, and in UTF-8 no character but these two is encoded with their
bytes, so text is cut into text (`lines_of_text`). Cutting is also local: bytes that end with a line
feed and those behind them are cut apart from each other (`lines_append`).
-/

namespace Switchboard.Text

/-! ### Cutting -/

/-- What stands behind a line feed is cut by itself. -/
theorem lines_from_feed (first second read : List UInt8) :
    linesFrom (first ++ 10 :: second) read = linesFrom (first ++ [10]) read ++ lines second := by
  induction first generalizing read with
  | nil => simp [linesFrom, lines]
  | cons byte rest ih =>
      by_cases hfeed : byte = 10
      · simp [linesFrom, hfeed, ih]
      · simp [linesFrom, hfeed, ih]

/-- Bytes that end with a line feed and those behind them are cut apart from each other. -/
theorem lines_append {first : List UInt8} (hlast : first.getLast? = some 10)
    (second : List UInt8) : lines (first ++ second) = lines first ++ lines second := by
  obtain ⟨front, hfront⟩ := List.getLast?_eq_some_iff.mp hlast
  subst hfront
  rw [List.append_assoc]
  exact lines_from_feed front second []

/-- Up to the first line feed bytes make one line. -/
theorem lines_from_unfed {line : List UInt8} (hline : 10 ∉ line) (rest read : List UInt8) :
    linesFrom (line ++ rest) read = linesFrom rest (line.reverse ++ read) := by
  induction line generalizing read with
  | nil => rfl
  | cons byte others ih =>
      simp only [List.mem_cons, not_or] at hline
      have hfeed : byte ≠ 10 := Ne.symm hline.1
      simp only [List.cons_append, linesFrom, hfeed, if_false]
      rw [ih hline.2]
      simp

/-- Bytes without a line feed that one follows are a line. -/
theorem lines_line {line : List UInt8} (hline : 10 ∉ line) (rest : List UInt8) :
    lines (line ++ 10 :: rest) = dropReturn line :: lines rest := by
  rw [lines, lines_from_unfed hline]
  simp [linesFrom, lines]

/-! ### Bytes of text -/

/-- The bytes of characters in UTF-8. -/
def encode (characters : List Char) : List UInt8 :=
  characters.flatMap String.utf8EncodeChar

/-- The bytes of characters are those of the first ones and those of the others. -/
theorem encode_append (first second : List Char) :
    encode (first ++ second) = encode first ++ encode second :=
  List.flatMap_append

/-- Bytes are a text if they are the bytes of its characters. -/
theorem decode_iff {bytes : List UInt8} {text : String} :
    decode? bytes = some text ↔ bytes = encode text.toList := by
  have hbytes : (encode text.toList).toByteArray = text.toByteArray := String.utf8Encode_toList
  constructor
  · intro hdecode
    unfold decode? String.fromUTF8? at hdecode
    split at hdecode
    · obtain rfl := Option.some.inj hdecode
      have hdata := congrArg (fun array ↦ array.data.toList) hbytes
      simpa [String.fromUTF8] using hdata.symm
    · cases hdecode
  · intro hencoded
    have harray : ByteArray.mk bytes.toArray = text.toByteArray := by
      rw [← hbytes, hencoded]
      exact ByteArray.ext (by simp)
    unfold decode? String.fromUTF8?
    have hvalid : (ByteArray.mk bytes.toArray).IsValidUTF8 := harray ▸ text.isValidUTF8
    rw [dif_pos hvalid]
    exact congrArg some (String.toByteArray_inj.mp harray)

/-- The bytes of characters are the text of these characters. -/
theorem decode_encode (characters : List Char) :
    decode? (encode characters) = some (String.ofList characters) :=
  decode_iff.mpr (by rw [String.toList_ofList])

/-- Every byte of a character that is not ASCII has its highest bit set. -/
theorem encode_char_high {character : Char} (hascii : 127 < character.toNat) :
    ∀ byte ∈ String.utf8EncodeChar character, 128 ≤ byte.toNat := by
  have hlarge : ¬character.val.toNat ≤ 127 := Nat.not_le.mpr hascii
  unfold String.utf8EncodeChar
  simp only [hlarge, if_false]
  split_ifs <;> simp only [List.forall_mem_cons, UInt8.toNat_ofNat'] <;> grind

/-- A byte below 128 stands for an ASCII character, and for itself. -/
theorem encode_char_low {character : Char} {byte : UInt8}
    (hmem : byte ∈ String.utf8EncodeChar character) (hlow : byte.toNat < 128) :
    character.toNat = byte.toNat ∧ String.utf8EncodeChar character = [byte] := by
  by_cases hascii : 127 < character.toNat
  · exact absurd (encode_char_high hascii byte hmem) (Nat.not_le.mpr hlow)
  · have hsingle : String.utf8EncodeChar character = [UInt8.ofNat character.toNat] := by
      unfold String.utf8EncodeChar
      exact if_pos (Nat.not_lt.mp hascii)
    rw [hsingle, List.mem_singleton] at hmem
    refine ⟨?_, hmem ▸ hsingle⟩
    rw [hmem, UInt8.toNat_ofNat']
    omega

/-- A line feed is in the bytes of characters only as a character. -/
theorem feed_mem_encode {characters : List Char} :
    10 ∈ encode characters ↔ '\n' ∈ characters := by
  rw [encode, List.mem_flatMap]
  constructor
  · intro ⟨character, hmem, hbyte⟩
    have hfeed : character = '\n' := Char.toNat_inj.mp (encode_char_low hbyte (by decide)).1
    exact hfeed ▸ hmem
  · intro hmem
    exact ⟨'\n', hmem, by decide⟩

/-- The characters without a carriage return at their end. -/
def dropReturnChar (characters : List Char) : List Char :=
  if characters.getLast? = some '\r' then characters.dropLast else characters

/-- Dropping a carriage return from bytes of text drops it from the text. -/
theorem drop_return_encode (characters : List Char) :
    dropReturn (encode characters) = encode (dropReturnChar characters) := by
  obtain rfl | ⟨front, last, rfl⟩ := List.eq_nil_or_concat characters
  · rfl
  · rw [List.concat_eq_append, dropReturnChar, List.getLast?_concat, List.dropLast_concat,
      encode_append]
    have hone : encode [last] = String.utf8EncodeChar last := List.flatMap_singleton ..
    by_cases hreturn : last = '\r'
    · have hbyte : encode ['\r'] = [13] := by decide
      rw [hreturn, if_pos rfl, hbyte, dropReturn, List.getLast?_concat, List.dropLast_concat,
        if_pos rfl]
    · have hlast : ¬(encode front ++ encode [last]).getLast? = some 13 := by
        intro hlast
        rw [hone, List.getLast?_append_of_ne_nil _ String.utf8EncodeChar_ne_nil] at hlast
        have hbyte := encode_char_low (List.mem_of_getLast? hlast) (by decide)
        exact hreturn (Char.toNat_inj.mp hbyte.1)
      rw [if_neg (by simpa using hreturn), dropReturn, if_neg hlast, encode_append]

/-- A carriage return at the end does not tell on what is left of a text when it is trimmed. -/
theorem trim_drop_return (characters : List Char) :
    trim (String.ofList (dropReturnChar characters)) = trim (String.ofList characters) := by
  obtain rfl | ⟨front, last, rfl⟩ := List.eq_nil_or_concat characters
  · rfl
  · rw [List.concat_eq_append, dropReturnChar, List.getLast?_concat, List.dropLast_concat]
    split
    · rename_i hlast
      obtain rfl := Option.some.inj hlast
      have hblank : isBlank '\r' = true := by decide
      simp only [trim, String.toList_ofList, List.dropWhile_append]
      split
      · rename_i hfront
        simp [List.isEmpty_iff.mp hfront, hblank]
      · simp [hblank]
    · rfl

/-- A line of text is text without the carriage return at its end, and is trimmed to the same. -/
theorem decode_drop_return {bytes : List UInt8} {text : String}
    (hdecode : decode? bytes = some text) :
    ∃ content, decode? (dropReturn bytes) = some content ∧ trim content = trim text := by
  rw [decode_iff] at hdecode
  rw [hdecode, drop_return_encode]
  refine ⟨_, decode_encode _, ?_⟩
  rw [trim_drop_return, String.ofList_toList]

/-! ### Cutting text -/

/-- Text is cut into text, also behind characters that were read before. -/
theorem lines_from_text (characters front : List Char) :
    ∃ texts : List (List Char),
      linesFrom (encode characters) (encode front).reverse = texts.map encode := by
  induction characters generalizing front with
  | nil =>
      cases hread : (encode front).reverse with
      | nil => exact ⟨[], rfl⟩
      | cons byte rest =>
          refine ⟨[front], ?_⟩
          show [(byte :: rest).reverse] = [encode front]
          rw [← hread, List.reverse_reverse]
  | cons character rest ih =>
      by_cases hfeed : character = '\n'
      · obtain ⟨texts, htexts⟩ := ih []
        refine ⟨dropReturnChar front :: texts, ?_⟩
        subst hfeed
        show dropReturn (encode front).reverse.reverse :: linesFrom (encode rest) [] = _
        rw [List.reverse_reverse, drop_return_encode]
        exact congrArg (encode (dropReturnChar front) :: ·) htexts
      · obtain ⟨texts, htexts⟩ := ih (front ++ [character])
        refine ⟨texts, ?_⟩
        have hone : encode [character] = String.utf8EncodeChar character :=
          List.flatMap_singleton ..
        have hunfed : 10 ∉ String.utf8EncodeChar character := by
          rw [← hone, feed_mem_encode]
          simpa using Ne.symm hfeed
        rw [encode_append, List.reverse_append, hone] at htexts
        show linesFrom (String.utf8EncodeChar character ++ encode rest) _ = _
        rw [lines_from_unfed hunfed]
        exact htexts

/-- Text is cut into text. -/
theorem lines_of_text {bytes : List UInt8} {text : String} (hdecode : decode? bytes = some text) :
    ∀ line ∈ lines bytes, ∃ content, decode? line = some content := by
  obtain ⟨texts, htexts⟩ := lines_from_text text.toList []
  have hlines : lines bytes = texts.map encode := by
    rw [decode_iff.mp hdecode]
    exact htexts
  intro line hmem
  rw [hlines] at hmem
  obtain ⟨characters, -, rfl⟩ := List.mem_map.mp hmem
  exact ⟨_, decode_encode characters⟩

/-- The bytes of texts with a line feed behind each. -/
def written (texts : List String) : List UInt8 :=
  texts.flatMap fun text ↦ encode text.toList ++ [10]

/-- Texts without line feeds are the lines of what is written with them. -/
theorem lines_written {texts : List String} (htexts : ∀ text ∈ texts, '\n' ∉ text.toList) :
    lines (written texts) = texts.map fun text ↦ dropReturn (encode text.toList) := by
  induction texts with
  | nil => rfl
  | cons text rest ih =>
      obtain ⟨htext, hrest⟩ := List.forall_mem_cons.mp htexts
      have hunfed : 10 ∉ encode text.toList := feed_mem_encode.not.mpr htext
      show lines ((encode text.toList ++ [10]) ++ written rest) = _
      rw [List.append_assoc, List.singleton_append, lines_line hunfed, ih hrest, List.map_cons]

end Switchboard.Text
