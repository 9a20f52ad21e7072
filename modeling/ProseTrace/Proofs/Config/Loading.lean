import ProseTrace.Config.Load
import ProseTrace.Proofs.Config.Validation
import ProseTrace.Proofs.Document.FilePaths

/-!
# Loading configurations

Whatever a path leads to, loading ends with the configuration that the file holds, or with a report
that the file cannot be read or which of its options is at fault.  Some faults are not reported as
such but escape: a path that no operating system takes, bytes that encode no text, and what is too
long or nested too deep to be read or written.
-/

namespace ProseTrace.Proofs.Config.Loading

open ProseTrace.Config ProseTrace.Document ProseTrace.Text
open ProseTrace.Proofs.Config.Validation ProseTrace.Proofs.Document.FilePaths

/-! ## How loading ends -/

def IsReported : LoadError → Prop
  | .cannotOpen _ error => error ≠ .embeddedNul
  | .malformed _ => True
  | .notUtf8 => False
  | .tooLong _ => False
  | .tooDeep => False
  | .options error => ∀ long, error ≠ .tooLong long

section

variable (tree : FileTree) (path : String)

/-- The path leads to a file whose bytes encode the text. -/
def Holds (text : String) : Prop := tree.readText path = .ok text.toByteArray

def Writes (table : Table) : Prop := ∃ text, Holds tree path text ∧ Toml.ofText text = .ok table

/-- A file is reported that cannot be opened or is malformed, or else the first offence of its
table. -/
inductive Reports : LoadError → Prop where
  | cannotOpen (error : FileTree.OpenError) (hopen : tree.readText path = .error error)
      (hnul : '\x00' ∉ path.toList) : Reports (.cannotOpen path error)
  | malformed (text : String) (htext : Holds tree path text)
      (hread : Toml.ofText text = .error .malformed) : Reports (.malformed path)
  | offence (table : Table) (htable : Writes tree path table) (hport : ¬ MeetsLongPort table)
      (error : OptionError) (hoffence : FirstOffence table schema error) : Reports (.options error)

/-- What is not reported: a path that is not taken, bytes that encode no text, what the reader of
documents refuses though it is not malformed, and an integer at the port that is too long. -/
inductive Escapes : LoadError → Prop where
  | refused (hnul : '\x00' ∈ path.toList) : Escapes (.cannotOpen path .embeddedNul)
  | notUtf8 (bytes : ByteArray) (hfile : tree.readText path = .ok bytes)
      (hinvalid : ¬ bytes.IsValidUTF8) : Escapes .notUtf8
  | tooLong (text : String) (htext : Holds tree path text) (error : Numeral.TooLong)
      (hread : Toml.ofText text = .error (.tooLong error)) : Escapes (.tooLong error)
  | tooDeep (text : String) (htext : Holds tree path text)
      (hread : Toml.ofText text = .error .tooDeep) : Escapes .tooDeep
  | longPort (table : Table) (htable : Writes tree path table) (hport : MeetsLongPort table) :
      Escapes (.options (.tooLong ⟨none⟩))

/-- The configuration is that of the table in the file, which has no offence. -/
def Configures (configuration : Configuration) : Prop :=
  ∃ table, Writes tree path table ∧ (∀ p ∈ schema, p.2.Admits (table.lookup p.1)) ∧
    IsReading table configuration

end

variable {tree : FileTree} {path : String}

theorem Reports.isReported {error : LoadError} (h : Reports tree path error) :
    IsReported error := by
  cases h with
  | cannotOpen error hopen hnul =>
    rintro rfl
    exact hnul (readText_eq_embeddedNul_iff.1 hopen)
  | malformed => trivial
  | offence table htable hport error hoffence => exact ne_tooLong_of_firstOffence hoffence

theorem Escapes.not_isReported {error : LoadError} (h : Escapes tree path error) :
    ¬ IsReported error := by
  cases h with
  | refused hnul => exact fun h => h rfl
  | notUtf8 => exact id
  | tooLong => exact id
  | tooDeep => exact id
  | longPort => exact fun h => h _ rfl

/-! ## Tables in files -/

theorem readTable_of_error {error : FileTree.OpenError} (h : tree.readText path = .error error) :
    readTable tree path = .error (.cannotOpen path error) := by
  rw [readTable, h]

theorem readTable_of_notUtf8 {bytes : ByteArray} (h : tree.readText path = .ok bytes)
    (hinvalid : ¬ bytes.IsValidUTF8) : readTable tree path = .error .notUtf8 := by
  rw [readTable, h]
  simp only [tableOfBytes, String.fromUTF8?, dif_neg hinvalid]

/-- What the faults of a document are to the file that it is in. -/
def faultOf (path : String) : Toml.Fault → LoadError
  | .malformed => .malformed path
  | .tooLong error => .tooLong error
  | .tooDeep => .tooDeep

theorem readTable_of_holds {text : String} (h : Holds tree path text) :
    readTable tree path = (Toml.ofText text).mapError (faultOf path) := by
  have hdecode : String.fromUTF8? text.toByteArray = some text := by
    rw [String.fromUTF8?, dif_pos text.isValidUTF8]
    rfl
  rw [readTable, h]
  simp only [tableOfBytes, hdecode]
  rcases Toml.ofText text with ⟨_ | error | _⟩ | table <;> rfl

theorem value_load_of_error {error : LoadError} (h : readTable tree path = .error error) :
    (load tree path).value = .error error := by
  rw [load, h]
  rfl

theorem value_load_of_writes {table : Table} (h : Writes tree path table) :
    (load tree path).value = (Configuration.ofTable table).value.mapError .options := by
  obtain ⟨text, htext, hread⟩ := h
  rw [load, readTable_of_holds htext, hread]
  simp only [Except.mapError, Logged.value_bind]
  cases (Configuration.ofTable table).value <;> rfl

/-! ## Loading -/

inductive Ending (tree : FileTree) (path : String) : Except LoadError Configuration → Prop where
  | configured (configuration : Configuration) (h : Configures tree path configuration) :
      Ending tree path (.ok configuration)
  | reported (error : LoadError) (h : Reports tree path error) : Ending tree path (.error error)
  | escaped (error : LoadError) (h : Escapes tree path error) : Ending tree path (.error error)

theorem load_ends_of_writes {table : Table} (h : Writes tree path table) :
    Ending tree path (load tree path).value := by
  rw [value_load_of_writes h]
  by_cases hport : MeetsLongPort table
  · rw [value_ofTable_of_meetsLongPort table hport]
    exact .escaped _ (.longPort table h hport)
  · have hjudged := judges_configuration table hport
    cases hresult : (Configuration.ofTable table).value with
    | error error =>
      rw [hresult] at hjudged
      exact .reported _ (.offence table h hport error hjudged)
    | ok configuration =>
      rw [hresult] at hjudged
      exact .configured configuration ⟨table, h, hjudged⟩

theorem load_ends_of_holds {text : String} (h : Holds tree path text) :
    Ending tree path (load tree path).value := by
  have htable := readTable_of_holds h
  cases hread : Toml.ofText text with
  | ok table => exact load_ends_of_writes ⟨text, h, hread⟩
  | error fault =>
    rw [hread] at htable
    rw [value_load_of_error htable]
    cases fault with
    | malformed => exact .reported _ (.malformed text h hread)
    | tooLong error => exact .escaped _ (.tooLong text h error hread)
    | tooDeep => exact .escaped _ (.tooDeep text h hread)

theorem load_ends (tree : FileTree) (path : String) :
    Ending tree path (load tree path).value := by
  cases hfile : tree.readText path with
  | error error =>
    rw [value_load_of_error (readTable_of_error hfile)]
    by_cases hnul : '\x00' ∈ path.toList
    · -- Such a path is refused before anything is looked up, so this is the error.
      have hrefused : tree.readText path = .error .embeddedNul :=
        readText_eq_embeddedNul_iff.2 hnul
      obtain rfl := Except.error.inj (hfile.symm.trans hrefused)
      exact .escaped _ (.refused hnul)
    · exact .reported _ (.cannotOpen error hfile hnul)
  | ok bytes =>
    by_cases hvalid : bytes.IsValidUTF8
    · have hholds : Holds tree path (String.fromUTF8 bytes hvalid) := hfile
      exact load_ends_of_holds hholds
    · rw [value_load_of_error (readTable_of_notUtf8 hfile hvalid)]
      exact .escaped _ (.notUtf8 bytes hfile hvalid)

theorem value_load_of_escapes {error : LoadError} (h : Escapes tree path error) :
    (load tree path).value = .error error := by
  cases h with
  | refused hnul =>
    exact value_load_of_error (readTable_of_error (readText_eq_embeddedNul_iff.2 hnul))
  | notUtf8 bytes hfile hinvalid =>
    exact value_load_of_error (readTable_of_notUtf8 hfile hinvalid)
  | tooLong text htext error hread =>
    apply value_load_of_error
    rw [readTable_of_holds htext, hread]
    rfl
  | tooDeep text htext hread =>
    apply value_load_of_error
    rw [readTable_of_holds htext, hread]
    rfl
  | longPort table htable hport =>
    rw [value_load_of_writes htable, value_ofTable_of_meetsLongPort table hport]
    rfl

/-- A configuration that is loaded is that of the table in the file.  An error that is reported says
why the file cannot be read, or names the first offence of its table; one that is not is exactly one
of those that escape. -/
theorem load_reports_unless_escapes (tree : FileTree) (path : String) :
    (∀ configuration, (load tree path).value = .ok configuration →
      Configures tree path configuration) ∧
    (∀ error, (load tree path).value = .error error → IsReported error →
      Reports tree path error) ∧
    ∀ error, (load tree path).value = .error error ∧ ¬ IsReported error ↔
      Escapes tree path error := by
  have hends := load_ends tree path
  refine ⟨?_, ?_, fun error => ⟨?_, fun h => ⟨value_load_of_escapes h, h.not_isReported⟩⟩⟩
  · intro configuration hvalue
    rw [hvalue] at hends
    cases hends with
    | configured _ h => exact h
  · intro error hvalue hreported
    rw [hvalue] at hends
    cases hends with
    | reported _ h => exact h
    | escaped _ h => exact absurd hreported h.not_isReported
  · rintro ⟨hvalue, hreported⟩
    rw [hvalue] at hends
    cases hends with
    | reported _ h => exact absurd h.isReported hreported
    | escaped _ h => exact h

/-- A directory with one file, whose only byte begins no character. -/
def strayTree : FileTree := ⟨[(⟨"", ["proofmap.toml"]⟩, ⟨#[0xFF]⟩)], []⟩

/-- The file is there, and what is wrong with it is not reported. -/
theorem load_strayTree_escapes :
    strayTree.readText "proofmap.toml" = .ok ⟨#[0xFF]⟩ ∧
      (load strayTree "proofmap.toml").value = .error .notUtf8 ∧ ¬ IsReported .notUtf8 := by
  have hfile : strayTree.readText "proofmap.toml" = .ok ⟨#[0xFF]⟩ := by
    have hsegments : Path.segments "proofmap.toml" = ["proofmap.toml"] := by decide +kernel
    rw [FileTree.readText, FileTree.findText, hsegments]
    rfl
  have hinvalid : ¬ (ByteArray.mk #[0xFF]).IsValidUTF8 := by decide +kernel
  have hescapes : Escapes strayTree "proofmap.toml" .notUtf8 := .notUtf8 _ hfile hinvalid
  exact ⟨hfile, value_load_of_escapes hescapes, hescapes.not_isReported⟩

end ProseTrace.Proofs.Config.Loading
