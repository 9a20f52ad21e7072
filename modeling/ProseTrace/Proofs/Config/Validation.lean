import Mathlib.Data.List.Nodup
import ProseTrace.Config.Options
import ProseTrace.Proofs.Finding.LocatedReference

/-!
# Which tables are configurations

Each key of a configuration admits certain values, and the keys are judged in a fixed order: a table
is refused for the first of them that has another value, and within a table of languages for the
first bad language.  Neither the order of the entries nor other keys matter; the latter are logged
in ascending order, whatever is wrong with the rest.

Only a port that is an integer too long to be written is not judged in that order: unless the
very first key is at fault, it is the one complaint about the table.
-/

namespace ProseTrace.Proofs.Config.Validation

open ProseTrace.Config ProseTrace.Text
open ProseTrace.Proofs.Finding.LocatedReference

/-! ## What keys may hold -/

inductive Kind where
  | boolean
  | text
  | port
  | vocabulary

def backendSchema : List (String × Kind) :=
  [("bundled", .boolean), ("jar_location", .text), ("host", .text), ("port", .port)]

def checkSchema : List (String × Kind) :=
  [("language", .text), ("dictionary", .vocabulary), ("disabled_checks", .vocabulary)]

/-- All keys, in the order in which they are judged. -/
def schema : List (String × Kind) := backendSchema ++ checkSchema

def IsTexts (value : Value) : Prop := ∃ words : List String, value = .list (words.map .text)

def Kind.Admits : Kind → Option Value → Prop
  | .boolean, value => value = none ∨ ∃ b, value = some (.boolean b)
  | .text, value => value = none ∨ value = some .null ∨ ∃ t, value = some (.text t)
  | .port, value =>
    value = none ∨ value = some .null ∨ (∃ t, value = some (.text t)) ∨
      ∃ n, value = some (.integer n)
  | .vocabulary, value =>
    value = none ∨ ∃ entries, value = some (.table entries) ∧ ∀ p ∈ entries, IsTexts p.2

/-- The first language of a table that has no list of texts. -/
def IsFirstBad (entries : Table) (language : String) : Prop :=
  ∃ front bad back, entries = front ++ (language, bad) :: back ∧
    (∀ p ∈ front, IsTexts p.2) ∧ ¬ IsTexts bad

/-- What is said about a value that the key must not have. -/
def Kind.Blames (key : String) : Kind → Option Value → OptionError → Prop
  | .boolean, _, e => e = .notBoolean key
  | .text, _, e => e = .notText key
  | .port, _, e => e = .notText key
  | .vocabulary, value, e =>
    ((∀ entries, value ≠ some (.table entries)) ∧ e = .notTable key) ∨
      ∃ entries language, value = some (.table entries) ∧ IsFirstBad entries language ∧
        e = .notTexts key language

/-- The complaint about the first of some keys that has a value it must not have. -/
inductive FirstOffence (table : Table) : List (String × Kind) → OptionError → Prop
  | here {key : String} {kind : Kind} {rest : List (String × Kind)} {e : OptionError} :
      ¬ kind.Admits (table.lookup key) → kind.Blames key (table.lookup key) e →
      FirstOffence table ((key, kind) :: rest) e
  | later {key : String} {kind : Kind} {rest : List (String × Kind)} {e : OptionError} :
      kind.Admits (table.lookup key) → FirstOffence table rest e →
      FirstOffence table ((key, kind) :: rest) e

/-- The integer at the port has too many digits, and is met: the first key is not at fault. -/
def MeetsLongPort (table : Table) : Prop :=
  Kind.boolean.Admits (table.lookup "bundled") ∧
    ∃ n, table.lookup "port" = some (.integer n) ∧ Numeral.isWritable n = false

/-! ## What is read -/

def written (vocabulary : Vocabulary) : Table :=
  vocabulary.map fun (language, words) => (language, .list (words.map .text))

def IsTextAt (table : Table) (key : String) (text : Option String) : Prop :=
  ∀ t, text = some t ↔ table.lookup key = some (.text t)

/-- A text at the port, or the digits of an integer. -/
def IsPort (table : Table) (port : Option String) : Prop :=
  ∀ t, port = some t ↔ table.lookup "port" = some (.text t) ∨
    ∃ n, table.lookup "port" = some (.integer n) ∧ t = toString n

structure IsBackend (table : Table) (options : BackendOptions) : Prop where
  bundled_iff : options.bundled = true ↔ table.lookup "bundled" = some (.boolean true)
  jarLocation : IsTextAt table "jar_location" options.jarLocation
  host : IsTextAt table "host" options.host
  port : IsPort table options.port

/-- The lists are those of the table in their order, and a language that is no name is replaced. -/
structure IsCheck (table : Table) (options : CheckOptions) : Prop where
  language_of_name (name : String) :
    name ≠ "" → table.lookup "language" = some (.text name) → options.language = name
  language_of_none :
    table.lookup "language" = none ∨ table.lookup "language" = some .null ∨
      table.lookup "language" = some (.text "") → options.language = defaultLanguage
  dictionary_eq :
    (table.lookup "dictionary").getD (.table []) = .table (written options.dictionary)
  disabledChecks_eq :
    (table.lookup "disabled_checks").getD (.table []) = .table (written options.disabledChecks)

/-! ## Judging one key after the other -/

section

variable {α β : Type} {table : Table} {key : String} {kind : Kind} {e : OptionError}
  {front back : List (String × Kind)} {Good : α → Prop} {Next : β → Prop}

/-- A result that refuses the table for the first offence of the keys, and else is a good one. -/
def Judges (table : Table) (keys : List (String × Kind)) (Good : α → Prop) :
    Except OptionError α → Prop
  | .ok a => (∀ p ∈ keys, p.2.Admits (table.lookup p.1)) ∧ Good a
  | .error e => FirstOffence table keys e

theorem exists_not_admits {keys : List (String × Kind)} (h : FirstOffence table keys e) :
    ∃ p ∈ keys, ¬ p.2.Admits (table.lookup p.1) := by
  induction h with
  | here hbad _ => exact ⟨_, List.mem_cons_self, hbad⟩
  | later _ _ ih =>
    obtain ⟨p, hp, hbad⟩ := ih
    exact ⟨p, List.mem_cons_of_mem _ hp, hbad⟩

theorem ne_tooLong_of_firstOffence {keys : List (String × Kind)} {e : OptionError}
    (h : FirstOffence table keys e) (long : Numeral.TooLong) : e ≠ .tooLong long := by
  rintro rfl
  generalize herror : OptionError.tooLong long = e at h
  induction h with
  | later _ _ ih => exact ih herror
  | @here key kind rest e _ hblame =>
    subst herror
    cases kind with
    | boolean => cases hblame
    | text => cases hblame
    | port => cases hblame
    | vocabulary =>
      rcases hblame with ⟨_, hblame⟩ | ⟨entries, language, _, _, hblame⟩
      · cases hblame
      · cases hblame

theorem Judges.outcome {keys : List (String × Kind)} {r : Except OptionError α}
    (h : Judges table keys Good r) :
    ((∃ e, r = .error e) ↔ ∃ p ∈ keys, ¬ p.2.Admits (table.lookup p.1)) ∧
      (∀ e, r = .error e → FirstOffence table keys e) ∧ ∀ a, r = .ok a → Good a := by
  cases r with
  | error e =>
    refine ⟨⟨fun _ => exists_not_admits h, fun _ => ⟨e, rfl⟩⟩, fun _ he => ?_, ?_⟩
    · obtain rfl := Except.error.inj he
      exact h
    · rintro _ ⟨⟩
  | ok a =>
    refine ⟨⟨?_, ?_⟩, ?_, fun _ ha => ?_⟩
    · rintro ⟨_, ⟨⟩⟩
    · rintro ⟨p, hp, hbad⟩
      exact absurd (h.1 p hp) hbad
    · rintro _ ⟨⟩
    · obtain rfl := Except.ok.inj ha
      exact h.2

theorem firstOffence_append_right (h : FirstOffence table front e) :
    FirstOffence table (front ++ back) e := by
  induction h with
  | here hbad hblame => exact .here hbad hblame
  | later hgood _ ih => exact .later hgood ih

theorem firstOffence_append_left (hfront : ∀ p ∈ front, p.2.Admits (table.lookup p.1))
    (h : FirstOffence table back e) : FirstOffence table (front ++ back) e := by
  induction front with
  | nil => exact h
  | cons p rest ih =>
    obtain ⟨hp, hrest⟩ := List.forall_mem_cons.1 hfront
    exact .later hp (ih hrest)

theorem judges_nil {a : α} (h : Good a) : Judges table [] Good (.ok a) :=
  ⟨fun _ hp => (nomatch hp), h⟩

theorem judges_ok {a : α} (hadmits : kind.Admits (table.lookup key)) (h : Good a) :
    Judges table [(key, kind)] Good (.ok a) :=
  ⟨List.forall_mem_singleton.2 hadmits, h⟩

theorem judges_error (hbad : ¬ kind.Admits (table.lookup key))
    (hblame : kind.Blames key (table.lookup key) e) :
    Judges table [(key, kind)] Good (.error e) :=
  .here hbad hblame

theorem Judges.bind {r : Except OptionError α} {f : α → Except OptionError β}
    (hr : Judges table front Good r) (hf : ∀ a, Good a → Judges table back Next (f a)) :
    Judges table (front ++ back) Next (r >>= f) := by
  cases r with
  | error e => exact firstOffence_append_right hr
  | ok a =>
    obtain ⟨hfront, hgood⟩ := hr
    have hback := hf a hgood
    show Judges table (front ++ back) Next (f a)
    cases hresult : f a with
    | error e =>
      rw [hresult] at hback
      exact firstOffence_append_left hfront hback
    | ok b =>
      rw [hresult] at hback
      exact ⟨List.forall_mem_append.2 ⟨hfront, hback.1⟩, hback.2⟩

theorem Judges.cons {r : Except OptionError α} {f : α → Except OptionError β}
    (hr : Judges table [(key, kind)] Good r)
    (hf : ∀ a, Good a → Judges table back Next (f a)) :
    Judges table ((key, kind) :: back) Next (r >>= f) :=
  hr.bind hf

theorem Judges.map {r : Except OptionError α} {f : α → β} (hr : Judges table front Good r)
    (hf : ∀ a, Good a → Next (f a)) :
    Judges table front Next (r >>= fun a => pure (f a)) := by
  cases r with
  | error e => exact hr
  | ok a => exact ⟨hr.1, hf a hr.2⟩

end

/-! ## Single keys -/

section

variable (table : Table) (key : String)

theorem judges_readBoolean :
    Judges table [(key, .boolean)] (fun b => b = true ↔ table.lookup key = some (.boolean true))
      (readBoolean table key) := by
  unfold readBoolean
  split
  next hvalue =>
    refine judges_ok (Or.inl hvalue) ?_
    simp [hvalue]
  next b hvalue =>
    refine judges_ok (Or.inr ⟨b, hvalue⟩) ?_
    simp [hvalue]
  next value hother hvalue =>
    refine judges_error ?_ rfl
    rintro (hnone | ⟨b, hb⟩)
    · simp [hvalue] at hnone
    · exact hother b (Option.some.inj (hvalue.symm.trans hb))

theorem judges_readText :
    Judges table [(key, .text)] (IsTextAt table key) (readText table key) := by
  unfold readText asText
  cases hvalue : table.lookup key with
  | none =>
    refine judges_ok (Or.inl hvalue) fun t => ?_
    simp [hvalue]
  | some value =>
    rw [Option.getD_some]
    split
    next =>
      refine judges_ok (Or.inr (Or.inl hvalue)) fun t => ?_
      simp [hvalue]
    next text =>
      refine judges_ok (Or.inr (Or.inr ⟨text, hvalue⟩)) fun t => ?_
      simp [hvalue]
    next hnull hother =>
      refine judges_error ?_ rfl
      rintro (h | h | ⟨t, h⟩)
      · simp [hvalue] at h
      · exact hnull (Option.some.inj (hvalue.symm.trans h))
      · exact hother t (Option.some.inj (hvalue.symm.trans h))

theorem judges_port_of_judges_text {port : Except OptionError (Option String)}
    (hinteger : ∀ n, table.lookup "port" ≠ some (.integer n))
    (h : Judges table [("port", .text)] (IsTextAt table "port") port) :
    Judges table [("port", .port)] (IsPort table) port := by
  have hadmits : Kind.port.Admits (table.lookup "port") ↔
      Kind.text.Admits (table.lookup "port") := by
    simp only [Kind.Admits, hinteger, exists_false, or_false]
  cases port with
  | ok port =>
    refine judges_ok (hadmits.2 (h.1 _ List.mem_cons_self)) fun t => ?_
    simp only [h.2 t, hinteger, false_and, exists_false, or_false]
  | error e =>
    cases h with
    | here hbad hblame => exact judges_error (fun hgood => hbad (hadmits.1 hgood)) hblame
    | later _ hnil => cases hnil

theorem writtenPort_cases :
    (∃ n, table.lookup "port" = some (.integer n) ∧ Numeral.isWritable n = false ∧
      writtenPort table = .error (.tooLong ⟨none⟩)) ∨
    ∃ value, writtenPort table = .ok value ∧
      Judges table [("port", .port)] (IsPort table) (asText "port" value) := by
  unfold writtenPort
  split
  next n hport =>
    cases hn : Numeral.isWritable n with
    | false =>
      refine Or.inl ⟨n, hport, hn, ?_⟩
      rw [Numeral.write, hn]
      rfl
    | true =>
      refine Or.inr ⟨.text (toString n), ?_, ?_⟩
      · rw [Numeral.write, hn]
        rfl
      · refine judges_ok (Or.inr (Or.inr (Or.inr ⟨n, hport⟩))) fun t => ?_
        simp [hport, eq_comm]
  next hinteger =>
    refine Or.inr ⟨_, rfl, ?_⟩
    exact judges_port_of_judges_text table hinteger (judges_readText table "port")

/-! ## Tables of languages -/

theorem texts?_eq_some_iff {items : List Value} {words : List String} :
    texts? items = some words ↔ items = words.map .text := by
  fun_induction texts? items generalizing words with
  | case1 => cases words <;> simp
  | case2 word rest ih =>
    cases words with
    | nil => simp
    | cons first others => simp [ih, and_comm]
  | case3 item rest hitem =>
    cases words with
    | nil => simp
    | cons first others =>
      simpa using fun h => absurd h (hitem first)

theorem readTexts_cons_of_isTexts {value : Value} {words : List String}
    (h : value = .list (words.map .text)) (language : String) (rest : Table) :
    readTexts key ((language, value) :: rest) =
      (readTexts key rest).map ((language, words) :: ·) := by
  have htexts : texts? (words.map .text) = some words := texts?_eq_some_iff.2 rfl
  rw [h, readTexts, htexts]
  cases readTexts key rest <;> rfl

theorem readTexts_cons_of_not_isTexts {value : Value} (h : ¬ IsTexts value) (language : String)
    (rest : Table) :
    readTexts key ((language, value) :: rest) = .error (.notTexts key language) := by
  unfold readTexts
  split
  next items =>
    split
    next words hwords => exact absurd ⟨words, by rw [texts?_eq_some_iff.1 hwords]⟩ h
    next => rfl
  next => rfl

theorem readTexts_cases (entries : Table) :
    (∃ vocabulary, readTexts key entries = .ok vocabulary ∧ entries = written vocabulary) ∨
      ∃ language, IsFirstBad entries language ∧
        readTexts key entries = .error (.notTexts key language) := by
  induction entries with
  | nil => exact Or.inl ⟨[], rfl, rfl⟩
  | cons entry rest ih =>
    obtain ⟨language, value⟩ := entry
    by_cases hvalue : IsTexts value
    · obtain ⟨words, hwords⟩ := hvalue
      rw [readTexts_cons_of_isTexts key hwords]
      rcases ih with ⟨vocabulary, hread, hrest⟩ | ⟨bad, ⟨front, worse, back, hsplit, hbad⟩, hread⟩
      · refine Or.inl ⟨(language, words) :: vocabulary, ?_, ?_⟩
        · rw [hread]
          rfl
        · rw [hwords, hrest]
          rfl
      · refine Or.inr ⟨bad, ⟨(language, value) :: front, worse, back, ?_, ?_, hbad.2⟩, ?_⟩
        · rw [hsplit]
          rfl
        · exact List.forall_mem_cons.2 ⟨⟨words, hwords⟩, hbad.1⟩
        · rw [hread]
          rfl
    · refine Or.inr ⟨language, ⟨[], value, rest, rfl, fun _ hp => (nomatch hp), hvalue⟩, ?_⟩
      exact readTexts_cons_of_not_isTexts key hvalue language rest

theorem isTexts_of_mem_written {vocabulary : Vocabulary} :
    ∀ p ∈ written vocabulary, IsTexts p.2 := by
  intro p hp
  obtain ⟨entry, _, rfl⟩ := List.mem_map.1 hp
  exact ⟨entry.2, rfl⟩

theorem judges_readVocabulary :
    Judges table [(key, .vocabulary)]
      (fun v => (table.lookup key).getD (.table []) = .table (written v))
      (readVocabulary table key) := by
  unfold readVocabulary
  split
  next hvalue =>
    refine judges_ok (Or.inl hvalue) ?_
    rw [hvalue]
    rfl
  next entries hvalue =>
    rcases readTexts_cases key entries with
      ⟨vocabulary, hread, rfl⟩ | ⟨language, hfirst, hread⟩
    · rw [hread]
      refine judges_ok (Or.inr ⟨_, hvalue, isTexts_of_mem_written⟩) ?_
      rw [hvalue]
      rfl
    · rw [hread]
      refine judges_error ?_ (Or.inr ⟨entries, language, hvalue, hfirst, rfl⟩)
      obtain ⟨front, bad, back, rfl, _, hbad⟩ := hfirst
      rintro (h | ⟨others, h, hall⟩)
      · simp [hvalue] at h
      · obtain rfl : _ = others := by simpa [hvalue] using h
        exact hbad (hall (language, bad) (by simp))
  next value hother hvalue =>
    have hstray : ∀ entries, table.lookup key ≠ some (.table entries) := fun entries h =>
      hother entries (Option.some.inj (hvalue.symm.trans h))
    refine judges_error ?_ (Or.inl ⟨hstray, rfl⟩)
    rintro (h | ⟨entries, h, _⟩)
    · simp [hvalue] at h
    · exact hstray entries h

end

/-! ## Whole tables -/

section

variable (table : Table)

theorem backend_of_meetsLongPort (h : MeetsLongPort table) :
    BackendOptions.ofTable table = .error (.tooLong ⟨none⟩) := by
  obtain ⟨hbundled, n, hport, hlong⟩ := h
  have hread : ∃ b, readBoolean table "bundled" = .ok b := by
    unfold readBoolean
    rcases hbundled with hnone | ⟨b, hb⟩
    · exact ⟨false, by rw [hnone]⟩
    · exact ⟨b, by rw [hb]⟩
  have hwritten : writtenPort table = .error (.tooLong ⟨none⟩) := by
    rw [writtenPort, hport]
    simp only [Numeral.write, hlong]
    rfl
  obtain ⟨b, hb⟩ := hread
  rw [BackendOptions.ofTable, hb, hwritten]
  rfl

theorem value_ofTable_of_meetsLongPort (h : MeetsLongPort table) :
    (Configuration.ofTable table).value = .error (.tooLong ⟨none⟩) := by
  show (BackendOptions.ofTable table >>= _) = _
  rw [backend_of_meetsLongPort table h]
  rfl

theorem judges_backend (h : ¬ MeetsLongPort table) :
    Judges table backendSchema (IsBackend table) (BackendOptions.ofTable table) := by
  have hread := judges_readBoolean table "bundled"
  rcases writtenPort_cases table with ⟨n, hport, hlong, _⟩ | ⟨value, hwritten, hvalue⟩
  · -- The long port is not met, so the first key is at fault.
    rw [BackendOptions.ofTable]
    cases hbundled : readBoolean table "bundled" with
    | ok bundled =>
      rw [hbundled] at hread
      exact absurd ⟨hread.1 _ List.mem_cons_self, n, hport, hlong⟩ h
    | error e =>
      rw [hbundled] at hread
      exact firstOffence_append_right hread
  · refine hread.cons fun bundled hbundled => ?_
    rw [hwritten]
    refine (judges_readText table "jar_location").cons fun jarLocation hjar => ?_
    refine (judges_readText table "host").cons fun host hhost => ?_
    refine hvalue.cons fun port hport => ?_
    exact judges_nil ⟨hbundled, hjar, hhost, hport⟩

theorem judges_check :
    Judges table checkSchema (IsCheck table) (CheckOptions.ofTable table) := by
  refine (judges_readText table "language").cons fun language hlanguage => ?_
  refine (judges_readVocabulary table "dictionary").cons fun dictionary hdictionary => ?_
  refine (judges_readVocabulary table "disabled_checks").cons fun disabled hdisabled => ?_
  refine judges_nil ⟨fun name hname hvalue => ?_, fun hnone => ?_, hdictionary, hdisabled⟩
  · obtain rfl := (hlanguage name).2 hvalue
    exact if_neg (by rwa [String.isEmpty_iff])
  · cases language with
    | none => rfl
    | some name =>
      have hvalue := (hlanguage name).1 rfl
      obtain rfl : name = "" := by simpa [hvalue] using hnone
      rfl

structure IsReading (table : Table) (configuration : Configuration) : Prop where
  backend : IsBackend table configuration.backend
  check : IsCheck table configuration.check

theorem judges_configuration (h : ¬ MeetsLongPort table) :
    Judges table schema (IsReading table) (Configuration.ofTable table).value := by
  refine (judges_backend table h).bind fun backend hbackend => ?_
  exact (judges_check table).map fun check hcheck => ⟨hbackend, hcheck⟩

/-! ## Order and other keys -/

theorem lookup_eq_some_iff_mem {table : Table} (hkeys : (table.map Prod.fst).Nodup)
    {key : String} {value : Value} :
    table.lookup key = some value ↔ (key, value) ∈ table := by
  constructor
  · intro h
    obtain ⟨front, back, rfl, _⟩ := List.lookup_eq_some_iff.1 h
    exact List.mem_append_right _ List.mem_cons_self
  · intro h
    refine lookup_eq_some_of_mem h fun other hother => ?_
    exact congrArg Prod.snd (List.inj_on_of_nodup_map hkeys hother h rfl)

theorem value_ofTable_congr {table other : Table}
    (h : ∀ key ∈ knownKeys, other.lookup key = table.lookup key) :
    (Configuration.ofTable other).value = (Configuration.ofTable table).value := by
  simp only [knownKeys, List.forall_mem_cons] at h
  obtain ⟨hbundled, hjar, hhost, hport, hlanguage, hdictionary, hdisabled, _⟩ := h
  have hbackend : BackendOptions.ofTable other = BackendOptions.ofTable table := by
    simp only [BackendOptions.ofTable, readBoolean, writtenPort, readText, hbundled, hjar, hhost,
      hport]
  have hcheck : CheckOptions.ofTable other = CheckOptions.ofTable table := by
    simp only [CheckOptions.ofTable, readText, readVocabulary, hlanguage, hdictionary, hdisabled]
  simp only [Configuration.ofTable, hbackend, hcheck]

theorem mem_unknownKeys_iff {key : String} :
    key ∈ (unknownKeys table).toList ↔ key ∈ table.map Prod.fst ∧ key ∉ knownKeys := by
  rw [← WordSet.mem_def, unknownKeys, WordSet.ofList, WordSet.mem_insertAll,
    or_iff_left (WordSet.not_mem_empty key), List.mem_filter]
  simp

/-! ## Configurations -/

/-- A table is refused exactly where a key has a value it must not have, for the first of these
keys, and else read, unless it meets a port that is too long.  Tables with the same entries at the
known keys have the same result, and the other keys are logged in ascending order whatever it is. -/
theorem ofTable_judges_schema :
    (MeetsLongPort table → (Configuration.ofTable table).value = .error (.tooLong ⟨none⟩)) ∧
    (¬ MeetsLongPort table →
      ((∃ e, (Configuration.ofTable table).value = .error e) ↔
        ∃ p ∈ schema, ¬ p.2.Admits (table.lookup p.1)) ∧
      (∀ e, (Configuration.ofTable table).value = .error e → FirstOffence table schema e) ∧
      ∀ c, (Configuration.ofTable table).value = .ok c → IsReading table c) ∧
    (∀ other : Table, (table.map Prod.fst).Nodup → (other.map Prod.fst).Nodup →
      (∀ entry : String × Value, entry.1 ∈ knownKeys → (entry ∈ other ↔ entry ∈ table)) →
      (Configuration.ofTable other).value = (Configuration.ofTable table).value) ∧
    ∃ keys : List String, keys.Pairwise (· < ·) ∧
      (∀ key, key ∈ keys ↔ key ∈ table.map Prod.fst ∧ key ∉ knownKeys) ∧
      (Configuration.ofTable table).entries = keys.map unknownKeyNote := by
  refine ⟨value_ofTable_of_meetsLongPort table, ?_, ?_, ?_⟩
  · intro hport
    exact (judges_configuration table hport).outcome
  · intro other hkeys hothers hentries
    apply value_ofTable_congr
    intro key hkey
    refine Option.ext fun value => ?_
    rw [lookup_eq_some_iff_mem hothers, lookup_eq_some_iff_mem hkeys]
    exact hentries (key, value) hkey
  · refine ⟨(unknownKeys table).toList, (unknownKeys table).ascending, ?_, rfl⟩
    exact fun key => mem_unknownKeys_iff table

end

/-! ## A port too long to write -/

/-- The host is no text, and the port has more digits than can be written. -/
def farPort : Table := [("host", .integer 5), ("port", .integer (Nat.pow 16 3572))]

/-- The first offence is that of the host, but the port is complained about. -/
theorem ofTable_overlooks_host :
    FirstOffence farPort schema (.notText "host") ∧
      (Configuration.ofTable farPort).value = .error (.tooLong ⟨none⟩) := by
  have hhost : ¬ Kind.text.Admits (some (.integer 5)) := by
    rintro (h | h | ⟨_, h⟩) <;> cases h
  have hlong : Numeral.isWritable (Nat.pow 16 3572) = false := by decide +kernel
  have hport : MeetsLongPort farPort := ⟨Or.inl rfl, _, rfl, hlong⟩
  refine ⟨?_, value_ofTable_of_meetsLongPort farPort hport⟩
  exact .later (Or.inl rfl) (.later (Or.inl rfl) (.here hhost rfl))

end ProseTrace.Proofs.Config.Validation
