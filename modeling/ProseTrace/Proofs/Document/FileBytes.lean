import ProseTrace.Document.World
import ProseTrace.Proofs.Document.SourceCuts

/-!
# Bytes of a file

A source is encoded as the file that it was read from, but for the line ends: a carriage return,
with or without a line feed behind it, is one line feed in the source.  So the ranges of a source
denote the bytes of the file as far as the first carriage return, and no further.
-/

namespace ProseTrace.Proofs.Document.FileBytes

open ProseTrace.Text ProseTrace.Document
open ProseTrace.Proofs.Text.Utf8Bytes ProseTrace.Proofs.Document.SourceCuts

/-! ## Line ends among bytes -/

def carriageReturn : UInt8 := 13

def lineFeed : UInt8 := 10

/-- Every line end becomes a line feed. -/
def unifyBytes : List UInt8 → List UInt8
  | [] => []
  | 13 :: 10 :: rest => lineFeed :: unifyBytes rest
  | b :: rest => (if b = carriageReturn then lineFeed else b) :: unifyBytes rest

theorem unifyBytes_append {front : List UInt8} (h : carriageReturn ∉ front) (rest : List UInt8) :
    unifyBytes (front ++ rest) = front ++ unifyBytes rest := by
  induction front with
  | nil => rfl
  | cons b front ih =>
    obtain ⟨hb, hfront⟩ := not_or.1 (mt List.mem_cons.2 h)
    have hpair : ∀ more, b = 13 → front ++ rest = 10 :: more → False :=
      fun _ hcr _ => hb hcr.symm
    rw [List.cons_append, unifyBytes.eq_3 b _ hpair, if_neg (Ne.symm hb), ih hfront]
    rfl

theorem carriageReturn_not_mem_unifyBytes (bytes : List UInt8) :
    carriageReturn ∉ unifyBytes bytes := by
  fun_induction unifyBytes bytes with
  | case1 => exact List.not_mem_nil
  | case2 rest ih => exact List.not_mem_cons_of_ne_of_not_mem (by decide) ih
  | case3 b rest _ ih =>
    refine List.not_mem_cons_of_ne_of_not_mem ?_ ih
    split
    next => decide
    next hb => exact Ne.symm hb

theorem unifyBytes_eq_self_iff {bytes : List UInt8} :
    unifyBytes bytes = bytes ↔ carriageReturn ∉ bytes := by
  constructor
  · intro h
    rw [← h]
    exact carriageReturn_not_mem_unifyBytes bytes
  · intro h
    have := unifyBytes_append h []
    rwa [List.append_nil, unifyBytes, List.append_nil] at this

/-! ## Line ends among characters -/

/-- A byte below 128 stands for itself and is part of no other character. -/
theorem mem_utf8EncodeChar_iff {c : Char} {b : UInt8} (hb : b.toNat < 128) :
    b ∈ String.utf8EncodeChar c ↔ c.toNat = b.toNat := by
  have hwide : ∀ k, 128 ≤ k → k < 256 → b ≠ UInt8.ofNat k := by
    rintro k hk hlt rfl
    rw [UInt8.toNat_ofNat', Nat.mod_eq_of_lt hlt] at hb
    omega
  have hc : c.val.toNat = c.toNat := rfl
  rw [String.utf8EncodeChar, hc]
  split
  next hsmall =>
    rw [List.mem_singleton, ← UInt8.toNat_inj, UInt8.toNat_ofNat', Nat.mod_eq_of_lt (by omega)]
    exact eq_comm
  next hlarge =>
    have hne : c.toNat ≠ b.toNat := by omega
    simp only [hne, iff_false]
    split
    · simp only [List.mem_cons, List.not_mem_nil, or_false, not_or]
      exact ⟨hwide _ (by omega) (by omega), hwide _ (by omega) (by omega)⟩
    · split
      · simp only [List.mem_cons, List.not_mem_nil, or_false, not_or]
        exact ⟨hwide _ (by omega) (by omega), hwide _ (by omega) (by omega),
          hwide _ (by omega) (by omega)⟩
      · simp only [List.mem_cons, List.not_mem_nil, or_false, not_or]
        exact ⟨hwide _ (by omega) (by omega), hwide _ (by omega) (by omega),
          hwide _ (by omega) (by omega), hwide _ (by omega) (by omega)⟩

theorem carriageReturn_not_mem_utf8EncodeChar {c : Char} (h : c ≠ '\r') :
    carriageReturn ∉ String.utf8EncodeChar c := by
  rw [mem_utf8EncodeChar_iff (by decide)]
  exact fun hc => h (Char.toNat_inj.1 hc)

theorem exists_cons_of_encode_eq {text : List Char} {bytes : List UInt8}
    (h : text.flatMap String.utf8EncodeChar = lineFeed :: bytes) : ∃ rest, text = '\n' :: rest := by
  cases text with
  | nil => cases h
  | cons c rest =>
    have hne : String.utf8EncodeChar c ≠ [] := by
      have hsize := String.length_utf8EncodeChar c
      have hpos := Char.utf8Size_pos c
      intro hnil
      rw [hnil, List.length_nil] at hsize
      omega
    obtain ⟨b, more, hcode⟩ := List.exists_cons_of_ne_nil hne
    rw [List.flatMap_cons, hcode] at h
    have hfeed : lineFeed ∈ String.utf8EncodeChar c := by
      rw [hcode, List.head_eq_of_cons_eq h]
      exact List.mem_cons_self
    rw [mem_utf8EncodeChar_iff (by decide)] at hfeed
    exact ⟨rest, by rw [Char.toNat_inj.1 (show c.toNat = '\n'.toNat from hfeed)]⟩

theorem encode_unify (text : List Char) :
    (Newline.unify text).flatMap String.utf8EncodeChar =
      unifyBytes (text.flatMap String.utf8EncodeChar) := by
  fun_induction Newline.unify text with
  | case1 => rfl
  | case2 rest ih =>
    rw [List.flatMap_cons, ih]
    rfl
  | case3 c rest hpair ih =>
    rw [List.flatMap_cons, List.flatMap_cons, ih]
    by_cases hc : c = '\r'
    · subst hc
      have hbytes : ∀ more, (13 : UInt8) = 13 →
          rest.flatMap String.utf8EncodeChar = 10 :: more → False := by
        intro more _ hmore
        obtain ⟨after, hafter⟩ := exists_cons_of_encode_eq hmore
        exact hpair after rfl hafter
      exact (unifyBytes.eq_3 13 _ hbytes).symm
    · rw [if_neg hc, unifyBytes_append (carriageReturn_not_mem_utf8EncodeChar hc)]

/-! ## Files -/

def unifyFile (bytes : ByteArray) : ByteArray := (unifyBytes bytes.data.toList).toByteArray

theorem toByteArray_unifyText (text : String) :
    (Newline.unifyText text).toByteArray = unifyFile text.toByteArray := by
  have hbytes : text.toByteArray.data.toList = text.toList.flatMap String.utf8EncodeChar := by
    rw [← List.toList_data_toByteArray (l := text.toList.flatMap _), ← List.utf8Encode,
      ← String.toByteArray_ofList, String.ofList_toList]
  rw [unifyFile, hbytes, ← encode_unify, Newline.unifyText, String.toByteArray_ofList,
    List.utf8Encode]

theorem unifyFile_eq_self_iff {bytes : ByteArray} :
    unifyFile bytes = bytes ↔ carriageReturn ∉ bytes.data.toList := by
  rw [← unifyBytes_eq_self_iff, unifyFile]
  constructor
  · intro h
    rw [← List.toList_data_toByteArray (l := unifyBytes bytes.data.toList), h]
  · intro h
    rw [h]
    exact ByteArray.ext (by rw [List.data_toByteArray, Array.toArray_toList])

theorem extract_unifyFile {bytes : ByteArray} {stop : Nat}
    (h : carriageReturn ∉ bytes.data.toList.take stop) (start : Nat) :
    (unifyFile bytes).extract start stop = bytes.extract start stop := by
  have htake : (unifyBytes bytes.data.toList).take stop = bytes.data.toList.take stop := by
    rcases Nat.le_total stop bytes.data.toList.length with hle | hle
    · have hsplit : unifyBytes bytes.data.toList =
          bytes.data.toList.take stop ++ unifyBytes (bytes.data.toList.drop stop) := by
        rw [← unifyBytes_append h, List.take_append_drop]
      rw [hsplit, List.take_left' (List.length_take_of_le hle)]
    · rw [List.take_of_length_le hle] at h
      rw [unifyBytes_eq_self_iff.2 h]
  apply ByteArray.ext
  rw [ByteArray.data_extract, ByteArray.data_extract, unifyFile, List.data_toByteArray,
    ← Array.toList_inj, Array.toList_extract, Array.toList_extract, List.extract_eq_take_drop,
    List.extract_eq_take_drop, ← List.drop_take, ← List.drop_take, htake]

theorem toByteArray_slice {source : Source} {range : ByteRange} (h : source.admits range = true) :
    ∃ text, source.slice range = .ok text ∧
      text.toByteArray = source.encoded.extract range.start range.stop := by
  obtain ⟨before, inside, after, hcuts⟩ := admits_iff_exists_cuts.1 h
  refine ⟨String.ofList inside, hcuts.slice_eq, ?_⟩
  rw [Source.encoded, hcuts.start_eq, hcuts.stop_eq, extract_toByteArray hcuts.text_eq]

/-- There is a source for every UTF-8 file, and it is encoded as the file with its line ends
unified: as the file itself if and only if that has no carriage return.  The slice of a valid range
is encoded as these bytes between its ends, and as those of the file if no carriage return comes
before its end. -/
theorem ofDirectory_encodes_file (tree : FileTree) (root : Path) (file : FileId)
    (bytes : ByteArray) (hread : tree.read (root.join (Path.ofString file)) = .ok bytes)
    (hvalid : bytes.IsValidUTF8) :
    ∃ source, (World.ofDirectory tree root).source file = .ok source ∧ source.id = file ∧
      source.encoded = unifyFile bytes ∧
      (source.encoded = bytes ↔ carriageReturn ∉ bytes.data.toList) ∧
      ∀ range, source.admits range = true → ∃ text, source.slice range = .ok text ∧
        text.toByteArray = (unifyFile bytes).extract range.start range.stop ∧
        (carriageReturn ∉ bytes.data.toList.take range.stop →
          text.toByteArray = bytes.extract range.start range.stop) := by
  have hdecode : World.decode? bytes = some (Newline.unifyText (String.fromUTF8 bytes hvalid)) := by
    rw [World.decode?, String.fromUTF8?, dif_pos hvalid]
    rfl
  have hencoded : (Newline.unifyText (String.fromUTF8 bytes hvalid)).toByteArray =
      unifyFile bytes := toByteArray_unifyText _
  refine ⟨⟨file, Newline.unifyText (String.fromUTF8 bytes hvalid)⟩, ?_, rfl, hencoded, ?_, ?_⟩
  · simp only [World.ofDirectory, hread, hdecode]
  · rw [Source.encoded, hencoded, unifyFile_eq_self_iff]
  · intro range hrange
    obtain ⟨text, hslice, htext⟩ := toByteArray_slice hrange
    rw [Source.encoded, hencoded] at htext
    refine ⟨text, hslice, htext, fun hfront => ?_⟩
    rw [htext, extract_unifyFile hfront]

/-- Two line feeds, one of them behind a carriage return. -/
def mixedBytes : ByteArray := "é\nb\r\nc".toByteArray

def mixedTree : FileTree :=
  ⟨[(⟨"", ["root", "mixed"]⟩, mixedBytes)], [⟨"", ["root"]⟩]⟩

theorem read_mixed :
    mixedTree.read (Path.join ⟨"", ["root"]⟩ (Path.ofString "mixed")) = .ok mixedBytes := by
  have hfile : Path.ofString "mixed" = ⟨"", ["mixed"]⟩ := by decide +kernel
  rw [hfile]
  rfl

/-- The lines before the carriage return are denoted as they stand in the file. -/
theorem ofDirectory_encodes_mixed :
    ∃ source, (World.ofDirectory mixedTree ⟨"", ["root"]⟩).source "mixed" = .ok source ∧
      source.encoded = unifyFile mixedBytes ∧
      ∃ text, source.slice ⟨0, 4, by decide⟩ = .ok text ∧
        text.toByteArray = mixedBytes.extract 0 4 := by
  obtain ⟨source, hsource, hid, hencoded, _, hslices⟩ :=
    ofDirectory_encodes_file mixedTree ⟨"", ["root"]⟩ "mixed" mixedBytes read_mixed
      (String.isValidUTF8 _)
  have htext : source.text = "é\nb\nc" := by
    apply String.toByteArray_inj.1
    exact hencoded.trans (by decide +kernel)
  have hsame : source = ⟨"mixed", "é\nb\nc"⟩ := Source.ext hid htext
  obtain ⟨text, hslice, _, hfront⟩ := hslices ⟨0, 4, by decide⟩ (by rw [hsame]; decide +kernel)
  exact ⟨source, hsource, hencoded, text, hslice, hfront (by decide +kernel)⟩

/-- The source of a file with a carriage return is not encoded as the file. -/
theorem ofDirectory_shortens_mixed :
    mixedTree.read (Path.join ⟨"", ["root"]⟩ (Path.ofString "mixed")) = .ok mixedBytes ∧
      mixedBytes.IsValidUTF8 ∧
      (World.ofDirectory mixedTree ⟨"", ["root"]⟩).source "mixed" = .ok ⟨"mixed", "é\nb\nc"⟩ ∧
      Source.encoded ⟨"mixed", "é\nb\nc"⟩ ≠ mixedBytes := by
  refine ⟨read_mixed, String.isValidUTF8 _, ?_, by decide +kernel⟩
  have hdecode : World.decode? mixedBytes = some "é\nb\nc" := by decide +kernel
  simp only [World.ofDirectory, read_mixed, hdecode]

end ProseTrace.Proofs.Document.FileBytes
