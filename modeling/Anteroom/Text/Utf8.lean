import Anteroom.Bytes

/-!
# UTF-8 letters

Bytes are read as UTF-8 one letter at a time.  A letter is a character, or no
character where a byte is no part of the encoding of one; reading goes on at
the next byte then.  So every byte string has letters, and the letters of an
encoded text are its characters.
-/

namespace Anteroom.Utf8

/-- A character, or none for a byte that is no part of one. -/
abbrev Letter := Option Char

/-- The character whose encoding stands at the front. -/
def front? (bytes : Bytes) : Option Char :=
  (bytes.take 4).toByteArray.utf8DecodeChar? 0

/-- The letters of a byte string whose first `pending` bytes are the rest of a character that has
been read. -/
def lettersAfter : (pending : Nat) → Bytes → List Letter
  | _, [] => []
  | pending + 1, _ :: rest => lettersAfter pending rest
  | 0, byte :: rest =>
      match front? (byte :: rest) with
      | some c => some c :: lettersAfter (c.utf8Size - 1) rest
      | none => none :: lettersAfter 0 rest

/-- The letters of a byte string. -/
def letters (bytes : Bytes) : List Letter :=
  lettersAfter 0 bytes

/-- Whether a byte string is the encoding of a text. -/
def isText (bytes : Bytes) : Bool :=
  (letters bytes).all Option.isSome

/-- The encoding of a text. -/
def encode (text : List Char) : Bytes :=
  text.flatMap String.utf8EncodeChar

theorem lettersAfter_append (before after : Bytes) :
    lettersAfter before.length (before ++ after) = lettersAfter 0 after := by
  induction before with
  | nil => rfl
  | cons byte before ih => exact ih

theorem front?_encode (c : Char) (rest : Bytes) :
    front? (String.utf8EncodeChar c ++ rest) = some c := by
  have hsize : (String.utf8EncodeChar c).length ≤ 4 := by
    rw [String.length_utf8EncodeChar]
    exact c.utf8Size_le_four
  rw [front?, List.take_append, List.take_of_length_le hsize, List.toByteArray_append]
  exact ByteArray.utf8DecodeChar?_utf8EncodeChar_append

/-- The letters of an encoded text are its characters. -/
@[simp]
theorem letters_encode (text : List Char) : letters (encode text) = text.map some := by
  induction text with
  | nil => rfl
  | cons c text ih =>
      have hsize := String.length_utf8EncodeChar c
      have hpos := c.utf8Size_pos
      have hfront := front?_encode c (encode text)
      cases hbytes : String.utf8EncodeChar c with
      | nil =>
          rw [hbytes, List.length_nil] at hsize
          omega
      | cons byte bytes =>
          rw [hbytes, List.length_cons] at hsize
          rw [hbytes] at hfront
          have hrest : c.utf8Size - 1 = bytes.length := by omega
          have hencode : encode (c :: text) = byte :: (bytes ++ encode text) := by
            rw [encode, List.flatMap_cons, hbytes]
            rfl
          rw [List.cons_append] at hfront
          rw [hencode, letters, lettersAfter, hfront, List.map_cons]
          simp only [hrest, lettersAfter_append]
          rw [← ih, letters]

/-- The encoding of a text is one. -/
theorem isText_encode (text : List Char) : isText (encode text) = true := by
  simp [isText]

/-- Characters below 128 are encoded as one byte each. -/
theorem encode_of_ascii {text : List Char} (ascii : ∀ c ∈ text, c.toNat < 128) :
    encode text = text.map fun c => UInt8.ofNat c.toNat := by
  induction text with
  | nil => rfl
  | cons c text ih =>
      have small : c.val.toNat ≤ 127 := Nat.le_of_lt_succ (ascii c List.mem_cons_self)
      have single : String.utf8EncodeChar c = [UInt8.ofNat c.toNat] := if_pos small
      have others := ih fun other member => ascii other (List.mem_cons_of_mem c member)
      rw [encode] at others
      rw [encode, List.flatMap_cons, single, others, List.map_cons]
      rfl

/-! ## Encoded strings -/

theorem toList_loop (bytes : ByteArray) (i : Nat) (read : Bytes) :
    ByteArray.toList.loop bytes i read = read.reverse ++ bytes.data.toList.drop i := by
  fun_induction ByteArray.toList.loop bytes i read with
  | case1 i read within ih =>
      have within : i < bytes.data.toList.length := within
      have byte : bytes.get! i = bytes.data.toList[i] := by
        rw [ByteArray.get!, getElem!_pos bytes.data i within, Array.getElem_toList]
      rw [ih, List.drop_eq_getElem_cons within, byte, List.reverse_cons, List.append_assoc,
        List.singleton_append]
  | case2 i read beyond =>
      rw [List.drop_eq_nil_of_le (Nat.le_of_not_lt beyond), List.append_nil]

/-- The bytes of a string encode its characters. -/
theorem toList_toUTF8 (text : String) : text.toUTF8.toList = encode text.toList := by
  have bytes : text.toUTF8 = (encode text.toList).toByteArray := by
    have bytes := String.toByteArray_ofList (l := text.toList)
    rwa [String.ofList_toList] at bytes
  rw [ByteArray.toList, toList_loop, bytes, List.data_toByteArray]
  rfl

/-- The letters of a string are its characters. -/
theorem letters_toUTF8 (text : String) : letters text.toUTF8.toList = text.toList.map some := by
  rw [toList_toUTF8, letters_encode]

end Anteroom.Utf8
