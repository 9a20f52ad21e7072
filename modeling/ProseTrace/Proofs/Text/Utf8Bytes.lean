import ProseTrace.Text.Offsets

/-!
# Characters in UTF-8 bytes

The bytes of a text, cut at byte offsets.  A byte that is no continuation byte begins a character,
so the offsets at which a text may be cut are the measures of its prefixes; the bytes between two of
them are the encoding of the characters between.
-/

namespace ProseTrace.Proofs.Text.Utf8Bytes

open ProseTrace.Text

theorem toNat_lt_of_mem_utf8EncodeChar {c : Char} {b : UInt8}
    (hb : b ∈ String.utf8EncodeChar c) : b.toNat < 248 := by
  have hlead : ∀ k, k < 248 → (UInt8.ofNat k).toNat < 248 := by
    intro k hk
    rw [UInt8.toNat_ofNat']
    omega
  rw [String.utf8EncodeChar] at hb
  split at hb
  · simp only [List.mem_singleton] at hb
    subst hb
    exact hlead _ (by omega)
  · split at hb
    · simp only [List.mem_cons, List.not_mem_nil, or_false] at hb
      rcases hb with rfl | rfl <;> exact hlead _ (by omega)
    · split at hb
      · simp only [List.mem_cons, List.not_mem_nil, or_false] at hb
        rcases hb with rfl | rfl | rfl <;> exact hlead _ (by omega)
      · simp only [List.mem_cons, List.not_mem_nil, or_false] at hb
        rcases hb with rfl | rfl | rfl | rfl <;> exact hlead _ (by omega)

theorem toNat_lt_of_mem_toByteArray {text : String} {i : Nat} (hi : i < text.toByteArray.size) :
    text.toByteArray[i].toNat < 248 := by
  have hmem : text.toByteArray[i] ∈ text.toList.flatMap String.utf8EncodeChar := by
    have hbytes : text.toByteArray = (text.toList.flatMap String.utf8EncodeChar).toByteArray := by
      rw [← List.utf8Encode, ← String.toByteArray_ofList, String.ofList_toList]
    simp only [hbytes, List.getElem_toByteArray]
    exact List.getElem_mem _
  obtain ⟨c, _, hc⟩ := List.mem_flatMap.1 hmem
  exact toNat_lt_of_mem_utf8EncodeChar hc

/-- Below 248 the bytes that are no continuation bytes are those that begin a character. -/
theorem mask_ne_iff_isUTF8FirstByte {b : UInt8} (hb : b.toNat < 248) :
    b &&& 0xC0 ≠ 0x80 ↔ b.IsUTF8FirstByte := by
  have hall : ∀ k < 248, UInt8.ofNat k &&& 0xC0 ≠ 0x80 ↔ (UInt8.ofNat k).IsUTF8FirstByte := by
    decide +kernel
  have h := hall b.toNat hb
  rwa [UInt8.ofNat_toNat] at h

theorem utf8ByteSize_eq_measure (text : String) :
    text.utf8ByteSize = measure Char.utf8Size text.toList := by
  have hsize : ∀ chars : List Char,
      (String.ofList chars).utf8ByteSize = measure Char.utf8Size chars := by
    intro chars
    induction chars with
    | nil => rfl
    | cons c rest ih =>
      rw [← List.singleton_append, String.ofList_append, String.utf8ByteSize_append, ih,
        ← String.singleton_eq_ofList, String.utf8ByteSize_singleton, measure_append]
      simp
  rw [← hsize, String.ofList_toList]

/-- The number of bytes that the first `n` characters of a text take. -/
def bytesBefore (text : List Char) (n : Nat) : Nat := (String.ofList (text.take n)).utf8ByteSize

theorem bytesBefore_eq_measure (text : List Char) (n : Nat) :
    bytesBefore text n = measure Char.utf8Size (text.take n) := by
  rw [bytesBefore, utf8ByteSize_eq_measure, String.toList_ofList]

theorem isValid_iff_exists_append {text : String} {offset : Nat} :
    String.Pos.Raw.IsValid text ⟨offset⟩ ↔
      ∃ before after, text.toList = before ++ after ∧ measure Char.utf8Size before = offset := by
  rw [String.Pos.Raw.isValid_iff_exists_append]
  constructor
  · rintro ⟨front, back, rfl, hoffset⟩
    refine ⟨front.toList, back.toList, String.toList_append, ?_⟩
    rw [← utf8ByteSize_eq_measure]
    exact (congrArg String.Pos.Raw.byteIdx hoffset).symm
  · rintro ⟨before, after, htext, hoffset⟩
    refine ⟨String.ofList before, String.ofList after, ?_, ?_⟩
    · rw [← String.ofList_append, ← htext, String.ofList_toList]
    · apply String.Pos.Raw.ext
      rw [String.byteIdx_rawEndPos, utf8ByteSize_eq_measure, String.toList_ofList, hoffset]

theorem extract_toByteArray {text : String} {before inside after : List Char}
    (h : text.toList = before ++ inside ++ after) :
    text.toByteArray.extract (measure Char.utf8Size before)
        (measure Char.utf8Size (before ++ inside)) =
      (String.ofList inside).toByteArray := by
  have hbytes : text.toByteArray = (String.ofList before).toByteArray ++
      (String.ofList inside).toByteArray ++ (String.ofList after).toByteArray := by
    rw [← String.toByteArray_append, ← String.toByteArray_append, ← String.ofList_append,
      ← String.ofList_append, ← h, String.ofList_toList]
  have hsize : ∀ chars : List Char,
      (String.ofList chars).toByteArray.size = measure Char.utf8Size chars := by
    intro chars
    rw [String.size_toByteArray, utf8ByteSize_eq_measure, String.toList_ofList]
  rw [hbytes, measure_append, ← hsize, ← hsize, ByteArray.append_assoc, ByteArray.extract_append,
    Nat.sub_self, Nat.add_sub_cancel_left, ByteArray.extract_append_eq_left rfl]
  have hnone : (String.ofList before).toByteArray.extract (String.ofList before).toByteArray.size
      ((String.ofList before).toByteArray.size + (String.ofList inside).toByteArray.size) =
        ByteArray.empty := by
    rw [ByteArray.extract_eq_empty_iff]
    exact Nat.min_le_right _ _
  rw [hnone, ByteArray.empty_append]

@[simp] theorem fromUTF8?_toByteArray (text : String) :
    String.fromUTF8? text.toByteArray = some text := by
  rw [String.fromUTF8?, dif_pos text.isValidUTF8]
  rfl

end ProseTrace.Proofs.Text.Utf8Bytes
