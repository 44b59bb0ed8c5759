import Mathlib.Data.List.Basic
import StreamTable.Proofs.FragmentScan

/-! Texts at byte offsets. A part of a text is asked for by the offsets of its ends and there
is none to be had unless both are in bounds and no character stands across them. A search
looks for one byte. The bytes of longer characters are all above those of ASCII, so what is
found is an offset at which a character begins, whatever stands before it. -/

namespace StreamTable.Markup

/-- Offsets between which a text can be cut: in order, in bounds, and each where a character
begins or the text ends. -/
structure Cuttable (text : String) (start stop : Nat) : Prop where
  inOrder : start ≤ stop
  inBounds : stop ≤ text.utf8ByteSize
  begins : String.Pos.Raw.IsValid text ⟨start⟩
  ends : String.Pos.Raw.IsValid text ⟨stop⟩

theorem cuttable_iff {text : String} {start stop : Nat} : Cuttable text start stop ↔
    start ≤ stop ∧ String.Pos.Raw.IsValid text ⟨start⟩ ∧ String.Pos.Raw.IsValid text ⟨stop⟩ := by
  constructor
  · rintro ⟨inOrder, -, begins, ends⟩
    exact ⟨inOrder, begins, ends⟩
  · rintro ⟨inOrder, begins, ends⟩
    exact ⟨inOrder, ends.le_utf8ByteSize, begins, ends⟩

instance (text : String) (start stop : Nat) : Decidable (Cuttable text start stop) := decidable_of_iff' _ cuttable_iff

/-- The bytes of a text between two offsets, if it can be cut there. -/
def slice? (text : String) (start stop : Nat) : Option String :=
  if cuttable : Cuttable text start stop then
    some (text.extract ⟨⟨start⟩, cuttable.begins⟩ ⟨⟨stop⟩, cuttable.ends⟩)
  else none

def sliceFrom? (text : String) (start : Nat) : Option String := slice? text start text.utf8ByteSize

theorem cuttable_append (before part after : String) :
    Cuttable (before ++ part ++ after) before.utf8ByteSize (before ++ part).utf8ByteSize := by
  rw [cuttable_iff]
  refine ⟨by simp, ?_, ?_⟩
  · exact String.Pos.Raw.isValid_iff_exists_append.mpr ⟨before, part ++ after, String.append_assoc, rfl⟩
  · exact String.Pos.Raw.isValid_iff_exists_append.mpr ⟨before ++ part, after, rfl, rfl⟩

theorem slice?_append (before part after : String) :
    slice? (before ++ part ++ after) before.utf8ByteSize (before ++ part).utf8ByteSize = some part := by
  have bytes : (before ++ part ++ after).toByteArray.extract before.utf8ByteSize (before ++ part).utf8ByteSize =
      part.toByteArray := by
    rw [String.toByteArray_append, ← String.size_toByteArray, ← String.size_toByteArray,
      ByteArray.extract_append_size_left, String.toByteArray_append,
      ByteArray.extract_append_eq_right rfl ByteArray.size_append]
  rw [slice?, dif_pos (cuttable_append before part after), Option.some_inj, ← String.toByteArray_inj,
    String.toByteArray_extract, bytes]

theorem slice?_ofList (before part after : List Char) {text : List Char} {start stop : Nat}
    (split : text = before ++ part ++ after) (begins : start = byteSize before) (ends : stop = byteSize (before ++ part)) :
    slice? (String.ofList text) start stop = some (String.ofList part) := by
  subst split begins ends
  simpa only [byteSize, String.ofList_append] using
    slice?_append (String.ofList before) (String.ofList part) (String.ofList after)

theorem sliceFrom?_ofList (before rest : List Char) {text : List Char} {start : Nat} (split : text = before ++ rest)
    (begins : start = byteSize before) : sliceFrom? (String.ofList text) start = some (String.ofList rest) :=
  slice?_ofList before rest [] (by rw [split, List.append_nil]) begins (by rw [split, byteSize])

/-- No part begins or ends within a character or behind the text. -/
example : slice? "é;" 1 3 = none ∧ slice? "é;" 2 3 = some ";" ∧ slice? "é;" 2 4 = none := by decide

theorem toNat_toUInt8_of_ascii {c : Char} (ascii : c.toNat < 128) : c.toUInt8.toNat = c.toNat :=
  Nat.mod_eq_of_lt (show c.toNat < 256 by omega)

theorem utf8Size_of_ascii {c : Char} (ascii : c.toNat < 128) : c.utf8Size = 1 := by
  rw [Char.utf8Size_eq_one_iff, UInt32.le_iff_toNat_le]
  exact Nat.le_of_lt_succ ascii

theorem byteSize_of_ascii {c : Char} (ascii : c.toNat < 128) : byteSize [c] = 1 := by
  rw [byteSize_cons, utf8Size_of_ascii ascii, byteSize_nil]

theorem encoded_of_ascii {c : Char} (ascii : c.toNat < 128) : String.utf8EncodeChar c = [c.toUInt8] :=
  String.utf8EncodeChar_eq_singleton (utf8Size_of_ascii ascii)

theorem high_of_mem_encoded {c : Char} (beyond : 128 ≤ c.toNat) :
    ∀ byte ∈ String.utf8EncodeChar c, 128 ≤ byte.toNat := by
  have same : c.val.toNat = c.toNat := rfl
  simp only [String.utf8EncodeChar, same]
  split_ifs with single double triple
  · omega
  all_goals
    simp only [List.forall_mem_cons, List.not_mem_nil, IsEmpty.forall_iff, implies_true, and_true, UInt8.toNat_ofNat']
    omega

/-- The byte of an ASCII character is in the encoding of no other. -/
theorem ne_of_mem_encoded {c other : Char} {byte : UInt8} (ascii : c.toNat < 128) (different : other ≠ c)
    (member : byte ∈ String.utf8EncodeChar other) : byte ≠ c.toUInt8 := by
  rintro rfl
  rcases Nat.lt_or_ge other.toNat 128 with below | beyond
  · rw [encoded_of_ascii below, List.mem_singleton] at member
    have same := congrArg UInt8.toNat member
    rw [toNat_toUInt8_of_ascii ascii, toNat_toUInt8_of_ascii below] at same
    exact different (Char.toNat_inj.mp same.symm)
  · have high := high_of_mem_encoded beyond _ member
    rw [toNat_toUInt8_of_ascii ascii] at high
    omega

theorem bytes_ofList (text : List Char) :
    (String.ofList text).toByteArray.data.toList = text.flatMap String.utf8EncodeChar := by
  rw [String.toByteArray_ofList, List.utf8Encode, List.data_toByteArray]

theorem byteSize_eq_length (text : List Char) : byteSize text = (text.flatMap String.utf8EncodeChar).length := by
  rw [← bytes_ofList, Array.length_toList, ByteArray.size_data, String.size_toByteArray, byteSize]

@[simp] theorem byteSize_append (before after : List Char) :
    byteSize (before ++ after) = byteSize before + byteSize after := by
  rw [byteSize, String.ofList_append, String.utf8ByteSize_append, byteSize, byteSize]

/-- The offset of the first byte of a text that is the byte of an ASCII character. -/
def byteOffset? (c : Char) (text : String) : Option Nat := text.toByteArray.data.toList.findIdx? (· == c.toUInt8)

theorem findIdx?_encoded_of_absent {c : Char} {text : List Char} (ascii : c.toNat < 128) (absent : c ∉ text) :
    (text.flatMap String.utf8EncodeChar).findIdx? (· == c.toUInt8) = none := by
  rw [List.findIdx?_eq_none_iff]
  intro byte member
  obtain ⟨other, inside, encoded⟩ := List.mem_flatMap.mp member
  have different : other ≠ c := fun same => absent (same ▸ inside)
  exact beq_false_of_ne (ne_of_mem_encoded ascii different encoded)

theorem byteOffset?_of_absent {c : Char} {text : List Char} (ascii : c.toNat < 128) (absent : c ∉ text) :
    byteOffset? c (String.ofList text) = none := by
  rw [byteOffset?, bytes_ofList, findIdx?_encoded_of_absent ascii absent]

/-- A search for the byte of an ASCII character comes to the first such character. -/
theorem byteOffset?_append {c : Char} {before : List Char} (ascii : c.toNat < 128) (absent : c ∉ before)
    (after : List Char) : byteOffset? c (String.ofList (before ++ c :: after)) = some (byteSize before) := by
  rw [byteOffset?, bytes_ofList, List.flatMap_append, List.findIdx?_append, findIdx?_encoded_of_absent ascii absent,
    List.flatMap_cons, encoded_of_ascii ascii, byteSize_eq_length]
  simp [List.findIdx?_cons]

end StreamTable.Markup
