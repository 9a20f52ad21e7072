import ProseTrace.Checker.Selection
import ProseTrace.Proofs.Config.Validation
import ProseTrace.Proofs.Text.WrittenIntegers

/-!
# When options select a remote checker

A table of options selects a remote checker exactly if it gives a host and a port and chooses
nothing else, the feature is enabled, the port is an integer from 1 to 65535, and the library opens a
client for the address of host and port.  A table that gives a host or a port and does not is refused
as a fault of the configuration, but for an address that the library refuses, and for an integer at
the port that is too long to be written.  A port may as well be given by its digits.

Nothing is assumed of the library but where a theorem says so.
-/

namespace ProseTrace.Proofs.Checker.RemoteSelection

open ProseTrace.Text ProseTrace.Config ProseTrace.Checker
open ProseTrace.Proofs.Text.WrittenIntegers ProseTrace.Proofs.Config.Validation

/-! ## What a table of options selects -/

inductive Refusal where
  | options (error : OptionError)
  | selection (error : SelectionError)

def select (table : Table) (site : Selection.Site) : Except Refusal Choice := do
  let options ← (BackendOptions.ofTable table).mapError Refusal.options
  ((Selection.ofOptions options).choose site).value.mapError Refusal.selection

/-- The table is at fault, or what it chooses is; not the libraries that were asked. -/
def Refusal.IsConfigurationFault : Refusal → Prop
  | .options (.tooLong _) => False
  | .selection (.remote (.url _)) => False
  | .selection (.jar (.remote (.url _))) => False
  | .selection (.jar (.location _)) => False
  | _ => True

def IsPortNumber (text : String) (number : Int) : Prop :=
  Numeral.readInt? text = some number ∧ 1 ≤ number ∧ number ≤ 65535

/-- The table gives a host and chooses neither the bundled checker nor a jar. -/
structure ChoosesHost (table : Table) (host : String) : Prop where
  bundled : table.lookup "bundled" = none ∨ table.lookup "bundled" = some (.boolean false)
  jarLocation : table.lookup "jar_location" = none ∨ table.lookup "jar_location" = some .null
  host : table.lookup "host" = some (.text host)

/-- The table gives a host and a port, and nothing beside them. -/
structure Specifies (table : Table) (host : String) (number : Int) : Prop
    extends ChoosesHost table host where
  port : table.lookup "port" = some (.integer number) ∨
    ∃ text, table.lookup "port" = some (.text text) ∧ Numeral.readInt? text = some number
  one_le : 1 ≤ number
  le_65535 : number ≤ 65535

def GivesPlace (table : Table) : Prop :=
  ∃ key ∈ ["host", "port"], ∃ value, table.lookup key = some value ∧ value ≠ .null

/-- The refusals that are no faults of the configuration. -/
inductive Strays (table : Table) (site : Selection.Site) : Refusal → Prop
  | longPort : MeetsLongPort table → Strays table site (.options (.tooLong ⟨none⟩))
  | url {host : String} {number : Int} {invalid : InvalidUrl} :
      Specifies table host number → .remoteServer ∈ site.enabled →
      site.platform.opening (Remote.address host number) = .error invalid →
      Strays table site (.selection (.remote (.url invalid)))

def clientOf (platform : Platform) (host : String) (number : Int) : Remote :=
  ⟨Remote.address host number, .empty, .owned true, platform.maxDepth⟩

def isNameChar (c : Char) : Bool := c.isAlphanum || c == '-' || c == '.'

/-- A name that a machine can have: it begins with a letter. -/
structure IsName (host : String) : Prop where
  isNameChar_of_mem : ∀ c ∈ host.toList, isNameChar c = true
  isAlpha_of_head : ∀ c ∈ host.toList.head?, c.isAlpha = true
  length_le : 1 ≤ host.length ∧ host.length ≤ 253

/-- The library opens a client for every server whose machine has a name. -/
def OpensNames (platform : Platform) : Prop :=
  ∀ (host : String) (number : Int), IsName host → 1 ≤ number → number ≤ 65535 →
    platform.opening ("http://" ++ host ++ ":" ++ toString number) = .ok ()

/-! ## Connections -/

theorem address_eq (host : String) :
    ∃ front, ∀ number : Int, Remote.address host number = front ++ ":" ++ toString number :=
  ⟨_, fun _ => rfl⟩

variable {platform : Platform}

theorem connect_of_isPortNumber {port : String} {number : Int} (h : IsPortNumber port number)
    (host : String) :
    Remote.connect platform host (.text port) (.owned true) =
      (platform.opening (Remote.address host number)).mapError Remote.ConnectError.url >>=
        fun _ => .ok (clientOf platform host number) := by
  obtain ⟨hread, hlow, hhigh⟩ := h
  rw [Remote.connect, Port.number?, hread]
  exact if_pos ⟨by omega, by omega⟩

theorem connect_of_not_isPortNumber {port : String} (h : ∀ number, ¬ IsPortNumber port number)
    (host : String) :
    Remote.connect platform host (.text port) (.owned true) =
      .error (.port (Quoted.quote port)) := by
  rw [Remote.connect, Port.number?]
  cases hread : Numeral.readInt? port with
  | none => rfl
  | some number => exact if_neg fun hbounds => h number ⟨hread, by omega, by omega⟩

/-! ## Choices -/

section

variable {site : Selection.Site}

theorem value_settle (required : Except SelectionError Unit) (note : String)
    (choice : Except SelectionError Choice) :
    (Selection.settle required note choice).value = required >>= fun _ => choice := by
  cases required <;> rfl

theorem choose_host_port (host port : String) :
    ((Selection.ofOptions ⟨false, none, some host, some port⟩).choose site).value =
      Selection.require site .remoteServer >>= fun _ =>
        ((Remote.connect site.platform host (.text port) (.owned true)).map Choice.remote).mapError
          SelectionError.remote :=
  value_settle _ _ _

theorem choose_of_crowded {options : BackendOptions}
    (hgiven : options.host ≠ none ∨ options.port ≠ none)
    (hother : ∀ host port, options ≠ ⟨false, none, some host, some port⟩) :
    ((Selection.ofOptions options).choose site).value = .error .notExactlyOne := by
  obtain ⟨bundled, jarLocation, host, port⟩ := options
  cases host with
  | none =>
    cases port with
    | none => exact absurd rfl (hgiven.elim id id)
    | some port => cases bundled <;> cases jarLocation <;> rfl
  | some host =>
    cases port with
    | none => cases bundled <;> cases jarLocation <;> rfl
    | some port =>
      cases bundled with
      | true => cases jarLocation <;> rfl
      | false =>
        cases jarLocation with
        | none => exact absurd rfl (hother host port)
        | some location => rfl

theorem choose_without_place {options : BackendOptions} (hhost : options.host = none)
    (hport : options.port = none) (client : Remote) :
    ((Selection.ofOptions options).choose site).value ≠ .ok (.remote client) := by
  obtain ⟨bundled, jarLocation, host, port⟩ := options
  subst hhost hport
  cases bundled with
  | true =>
    cases jarLocation with
    | none =>
      show (Selection.settle _ _ _).value ≠ _
      rw [value_settle]
      cases Selection.require site .bundleJar <;> exact nofun
    | some location => exact nofun
  | false =>
    cases jarLocation with
    | none => exact nofun
    | some location =>
      show (Selection.settle _ _ _).value ≠ _
      rw [value_settle]
      cases Selection.requireJar site with
      | error error => exact nofun
      | ok =>
        show ((Server.prepare _ _ _ _ _ _).map _).mapError _ ≠ _
        cases Server.prepare site.platform site.files site.homes location site.freePort
          (.owned true) <;> exact nofun

end

/-! ## Tables and their options -/

section

variable {table : Table} {options : BackendOptions} {host : String} {number : Int}

theorem admits_of_specifies (h : Specifies table host number) :
    ∀ p ∈ backendSchema, p.2.Admits (table.lookup p.1) := by
  have hbundled : Kind.boolean.Admits (table.lookup "bundled") :=
    h.bundled.imp id fun hfalse => ⟨false, hfalse⟩
  have hjar : Kind.text.Admits (table.lookup "jar_location") := h.jarLocation.imp id Or.inl
  have hhost : Kind.text.Admits (table.lookup "host") := Or.inr (Or.inr ⟨host, h.host⟩)
  have hport : Kind.port.Admits (table.lookup "port") := by
    rcases h.port with hnumber | ⟨text, htext, _⟩
    · exact Or.inr (Or.inr (Or.inr ⟨number, hnumber⟩))
    · exact Or.inr (Or.inr (Or.inl ⟨text, htext⟩))
  simp only [backendSchema, List.forall_mem_cons]
  exact ⟨hbundled, hjar, hhost, hport, fun _ hp => nomatch hp⟩

theorem isWritable_of_inBounds (hlow : 1 ≤ number) (hhigh : number ≤ 65535) :
    Numeral.isWritable number = true :=
  isWritable_of_natAbs_lt (by omega)

theorem not_meetsLongPort_of_specifies (h : Specifies table host number) :
    ¬ MeetsLongPort table := by
  rintro ⟨_, n, hport, hlong⟩
  rcases h.port with hnumber | ⟨text, htext, _⟩
  · obtain rfl : n = number := by simpa [hport] using hnumber
    rw [isWritable_of_inBounds h.one_le h.le_65535] at hlong
    cases hlong
  · rw [hport] at htext
    cases htext

theorem options_of_specifies (h : Specifies table host number) (hread : IsBackend table options) :
    ∃ port, options = ⟨false, none, some host, some port⟩ ∧ IsPortNumber port number := by
  have hbundled : options.bundled = false := by
    rw [← Bool.not_eq_true, hread.bundled_iff]
    rcases h.bundled with hnone | hfalse
    · simp [hnone]
    · simp [hfalse]
  have hjar : options.jarLocation = none := by
    rw [Option.eq_none_iff_forall_ne_some]
    intro location hlocation
    have hlookup := (hread.jarLocation location).1 hlocation
    rcases h.jarLocation with hnone | hnull
    · rw [hnone] at hlookup
      cases hlookup
    · rw [hnull] at hlookup
      cases hlookup
  have hhost : options.host = some host := (hread.host host).2 h.host
  have hport : ∃ port, options.port = some port ∧ IsPortNumber port number := by
    rcases h.port with hnumber | ⟨text, htext, hvalue⟩
    · refine ⟨toString number, (hread.port _).2 (Or.inr ⟨number, hnumber, rfl⟩), ?_⟩
      rw [IsPortNumber, readInt?_toString, if_pos (isWritable_of_inBounds h.one_le h.le_65535)]
      exact ⟨rfl, h.one_le, h.le_65535⟩
    · exact ⟨text, (hread.port text).2 (Or.inl htext), hvalue, h.one_le, h.le_65535⟩
  obtain ⟨port, hport, hnumber⟩ := hport
  exact ⟨port, BackendOptions.ext hbundled hjar hhost hport, hnumber⟩

theorem specifies_of_options {port : String}
    (hread : IsBackend table ⟨false, none, some host, some port⟩)
    (hadmits : ∀ p ∈ backendSchema, p.2.Admits (table.lookup p.1))
    (hport : IsPortNumber port number) : Specifies table host number := by
  simp only [backendSchema, List.forall_mem_cons] at hadmits
  obtain ⟨hbundled, hjar, _, _, _⟩ := hadmits
  obtain ⟨hvalue, hlow, hhigh⟩ := hport
  refine ⟨⟨?_, ?_, (hread.host host).1 rfl⟩, ?_, hlow, hhigh⟩
  · refine hbundled.imp id ?_
    rintro ⟨_ | _, hb⟩
    · exact hb
    · cases hread.bundled_iff.2 hb
  · refine hjar.imp id fun hsome => hsome.resolve_right ?_
    rintro ⟨location, hlocation⟩
    cases (hread.jarLocation location).2 hlocation
  · rcases (hread.port port).1 rfl with htext | ⟨n, hn, rfl⟩
    · exact Or.inr ⟨port, htext, hvalue⟩
    · rw [readInt?_toString] at hvalue
      split at hvalue
      · exact Or.inl (Option.some.inj hvalue ▸ hn)
      · cases hvalue

/-- A place that is given is read, if the table is no fault. -/
theorem given_of_givesPlace (h : GivesPlace table) (hread : IsBackend table options)
    (hadmits : ∀ p ∈ backendSchema, p.2.Admits (table.lookup p.1)) :
    options.host ≠ none ∨ options.port ≠ none := by
  simp only [backendSchema, List.forall_mem_cons] at hadmits
  obtain ⟨_, _, hhost, hport, _⟩ := hadmits
  obtain ⟨key, hkey, value, hvalue, hnull⟩ := h
  simp only [List.mem_cons, List.not_mem_nil, or_false] at hkey
  rcases hkey with rfl | rfl
  · left
    rcases hhost with h | h | ⟨text, h⟩
    · simp [hvalue] at h
    · exact absurd (by simpa [hvalue] using h) hnull
    · simp [(hread.host text).2 h]
  · right
    rcases hport with h | h | ⟨text, h⟩ | ⟨n, h⟩
    · simp [hvalue] at h
    · exact absurd (by simpa [hvalue] using h) hnull
    · simp [(hread.port text).2 (Or.inl h)]
    · simp [(hread.port _).2 (Or.inr ⟨n, h, rfl⟩)]

/-- A table meets a port that is too long, or is refused for another value, or is read. -/
theorem select_cases (table : Table) (site : Selection.Site) :
    (MeetsLongPort table ∧ select table site = .error (.options (.tooLong ⟨none⟩))) ∨
    (∃ p ∈ backendSchema, ¬ p.2.Admits (table.lookup p.1)) ∧
      (∃ e, (∀ long, e ≠ .tooLong long) ∧ select table site = .error (.options e)) ∨
    (∀ p ∈ backendSchema, p.2.Admits (table.lookup p.1)) ∧
      ∃ options, IsBackend table options ∧
        select table site =
          ((Selection.ofOptions options).choose site).value.mapError Refusal.selection := by
  by_cases hlong : MeetsLongPort table
  · left
    refine ⟨hlong, ?_⟩
    rw [select, backend_of_meetsLongPort table hlong]
    rfl
  · right
    have hjudged := judges_backend table hlong
    rw [select]
    cases hresult : BackendOptions.ofTable table with
    | error e =>
      rw [hresult] at hjudged
      exact Or.inl ⟨exists_not_admits hjudged, e, ne_tooLong_of_firstOffence hjudged, rfl⟩
    | ok options =>
      rw [hresult] at hjudged
      exact Or.inr ⟨hjudged.1, options, hjudged.2, rfl⟩

/-! ## Outcomes -/

variable {site : Selection.Site}

theorem select_of_options {host port : String}
    (hselect : select table site = ((Selection.ofOptions ⟨false, none, some host, some port⟩).choose
      site).value.mapError Refusal.selection) :
    select table site = (Selection.require site .remoteServer >>= fun _ =>
      ((Remote.connect site.platform host (.text port) (.owned true)).map Choice.remote).mapError
        SelectionError.remote).mapError Refusal.selection := by
  rw [hselect, choose_host_port]

theorem exists_port_of_specifies (h : Specifies table host number) (site : Selection.Site) :
    ∃ port, IsPortNumber port number ∧
      select table site = (Selection.require site .remoteServer >>= fun _ =>
        ((Remote.connect site.platform host (.text port) (.owned true)).map Choice.remote).mapError
          SelectionError.remote).mapError Refusal.selection := by
  rcases select_cases table site with
    ⟨hlong, _⟩ | ⟨⟨p, hp, hbad⟩, _⟩ | ⟨_, options, hread, hselect⟩
  · exact absurd hlong (not_meetsLongPort_of_specifies h)
  · exact absurd (admits_of_specifies h p hp) hbad
  · obtain ⟨port, rfl, hport⟩ := options_of_specifies h hread
    exact ⟨port, hport, select_of_options hselect⟩

theorem select_of_disabled (h : Specifies table host number)
    (hdisabled : .remoteServer ∉ site.enabled) :
    select table site = .error (.selection (.disabled .remoteServer)) := by
  obtain ⟨port, _, hselect⟩ := exists_port_of_specifies h site
  rw [hselect, Selection.require, if_neg hdisabled]
  rfl

theorem select_of_enabled (h : Specifies table host number)
    (henabled : .remoteServer ∈ site.enabled) :
    select table site = (site.platform.opening (Remote.address host number)).mapError
        (fun invalid => Refusal.selection (.remote (.url invalid))) >>=
      fun _ => .ok (.remote (clientOf site.platform host number)) := by
  obtain ⟨port, hport, hselect⟩ := exists_port_of_specifies h site
  rw [hselect, Selection.require, if_pos henabled, connect_of_isPortNumber hport]
  cases site.platform.opening (Remote.address host number) <;> rfl

theorem select_of_unspecified (hplace : GivesPlace table)
    (hnot : ∀ host number, ¬ Specifies table host number) (site : Selection.Site) :
    ∃ refusal, select table site = .error refusal ∧
      (refusal.IsConfigurationFault ∨ Strays table site refusal) := by
  rcases select_cases table site with
    ⟨hlong, hselect⟩ | ⟨_, e, hshort, hselect⟩ | ⟨hadmits, options, hread, hselect⟩
  · exact ⟨_, hselect, Or.inr (.longPort hlong)⟩
  · refine ⟨_, hselect, Or.inl ?_⟩
    cases e with
    | tooLong long => exact hshort long rfl
    | _ => trivial
  · have hgiven := given_of_givesPlace hplace hread hadmits
    by_cases halone : ∃ host port, options = ⟨false, none, some host, some port⟩
    · obtain ⟨host, port, rfl⟩ := halone
      have hport : ∀ number, ¬ IsPortNumber port number := fun number hnumber =>
        hnot host number (specifies_of_options hread hadmits hnumber)
      rw [select_of_options hselect, connect_of_not_isPortNumber hport, Selection.require]
      split
      · exact ⟨_, rfl, Or.inl trivial⟩
      · exact ⟨_, rfl, Or.inl trivial⟩
    · have hother : ∀ host port, options ≠ ⟨false, none, some host, some port⟩ :=
        fun host port hoptions => halone ⟨host, port, hoptions⟩
      rw [hselect, choose_of_crowded hgiven hother]
      exact ⟨_, rfl, Or.inl trivial⟩

theorem select_without_place (h : ¬ GivesPlace table) (client : Remote) :
    select table site ≠ .ok (.remote client) := by
  rcases select_cases table site with
    ⟨_, hselect⟩ | ⟨_, e, _, hselect⟩ | ⟨_, options, hread, hselect⟩
  · rw [hselect]
    exact nofun
  · rw [hselect]
    exact nofun
  · have hhost : options.host = none := by
      rw [Option.eq_none_iff_forall_ne_some]
      intro text htext
      exact h ⟨"host", by decide, .text text, (hread.host text).1 htext, nofun⟩
    have hport : options.port = none := by
      rw [Option.eq_none_iff_forall_ne_some]
      intro text htext
      rcases (hread.port text).1 htext with hvalue | ⟨n, hvalue, _⟩
      · exact h ⟨"port", by decide, .text text, hvalue, nofun⟩
      · exact h ⟨"port", by decide, .integer n, hvalue, nofun⟩
    have hchoice := @choose_without_place site options hhost hport client
    rw [hselect]
    cases hvalue : ((Selection.ofOptions options).choose site).value with
    | error error => exact nofun
    | ok choice =>
      rw [hvalue] at hchoice
      exact fun hsame => hchoice (congrArg Except.ok (Except.ok.inj hsame))

theorem select_eq_remote_iff {client : Remote} :
    select table site = .ok (.remote client) ↔
      ∃ host number, Specifies table host number ∧ .remoteServer ∈ site.enabled ∧
        site.platform.opening (Remote.address host number) = .ok () ∧
        client = clientOf site.platform host number := by
  constructor
  · intro hselect
    by_cases hplace : GivesPlace table
    · by_cases hspecified : ∃ host number, Specifies table host number
      · obtain ⟨host, number, h⟩ := hspecified
        by_cases henabled : .remoteServer ∈ site.enabled
        · rw [select_of_enabled h henabled] at hselect
          cases hcheck : site.platform.opening (Remote.address host number) with
          | error invalid =>
            rw [hcheck] at hselect
            cases hselect
          | ok =>
            rw [hcheck] at hselect
            cases hselect
            exact ⟨host, number, h, henabled, hcheck, rfl⟩
        · rw [select_of_disabled h henabled] at hselect
          cases hselect
      · have hnot : ∀ host number, ¬ Specifies table host number := fun host number h =>
          hspecified ⟨host, number, h⟩
        obtain ⟨refusal, hrefused, _⟩ := select_of_unspecified hplace hnot site
        cases hrefused.symm.trans hselect
    · exact absurd hselect (select_without_place hplace client)
  · rintro ⟨host, number, h, henabled, hcheck, rfl⟩
    rw [select_of_enabled h henabled, hcheck]
    rfl

theorem select_of_givesPlace (hplace : GivesPlace table)
    (hnot : ∀ client, select table site ≠ .ok (.remote client)) :
    ∃ refusal, select table site = .error refusal ∧
      (refusal.IsConfigurationFault ∨ Strays table site refusal) := by
  by_cases hspecified : ∃ host number, Specifies table host number
  · obtain ⟨host, number, h⟩ := hspecified
    by_cases henabled : .remoteServer ∈ site.enabled
    · have hselect := select_of_enabled h henabled
      cases hcheck : site.platform.opening (Remote.address host number) with
      | error invalid =>
        rw [hcheck] at hselect
        exact ⟨_, hselect, Or.inr (.url h henabled hcheck)⟩
      | ok =>
        rw [hcheck] at hselect
        exact absurd hselect (hnot _)
    · exact ⟨_, select_of_disabled h henabled, Or.inl trivial⟩
  · exact select_of_unspecified hplace (fun host number h => hspecified ⟨host, number, h⟩) site

theorem select_of_strays {refusal : Refusal} (h : Strays table site refusal) :
    select table site = .error refusal := by
  cases h with
  | longPort hlong =>
    rw [select, backend_of_meetsLongPort table hlong]
    rfl
  | url hspecified henabled hcheck =>
    rw [select_of_enabled hspecified henabled, hcheck]
    rfl

/-! ## A port as a number and as a text -/

/-- The tables differ at the port only: one has an integer there, the other its digits. -/
structure PortTwins (number : Int) (table other : Table) : Prop where
  number_eq : table.lookup "port" = some (.integer number)
  written_eq : other.lookup "port" = some (.text (toString number))
  rest_eq : ∀ key ∈ ["bundled", "jar_location", "host"], other.lookup key = table.lookup key

variable {other : Table}

theorem PortTwins.select_eq (h : PortTwins number table other)
    (hwritable : Numeral.isWritable number = true) (site : Selection.Site) :
    select other site = select table site := by
  have hrest := h.rest_eq
  simp only [List.forall_mem_cons] at hrest
  obtain ⟨hbundled, hjar, hhost, _⟩ := hrest
  have hport : writtenPort other = writtenPort table := by
    rw [writtenPort, writtenPort, h.number_eq, h.written_eq]
    simp only [Numeral.write, hwritable, if_true]
    rfl
  have hoptions : BackendOptions.ofTable other = BackendOptions.ofTable table := by
    simp only [BackendOptions.ofTable, readBoolean, readText, hbundled, hjar, hhost, hport]
  rw [select, select, hoptions]

theorem PortTwins.givesPlace (h : PortTwins number table other) : GivesPlace other :=
  ⟨"port", by decide, _, h.written_eq, nofun⟩

theorem PortTwins.choosesHost (h : PortTwins number table other) (hhost : ChoosesHost table host) :
    ChoosesHost other host where
  bundled := by
    rw [h.rest_eq "bundled" (by decide)]
    exact hhost.bundled
  jarLocation := by
    rw [h.rest_eq "jar_location" (by decide)]
    exact hhost.jarLocation
  host := by
    rw [h.rest_eq "host" (by decide)]
    exact hhost.host

/-- Digits specify the integer that they write, if it is one for a port. -/
theorem PortTwins.specifies_iff (h : PortTwins number table other) (hhost : ChoosesHost other host)
    (name : String) (n : Int) :
    Specifies other name n ↔ name = host ∧ n = number ∧ 1 ≤ number ∧ number ≤ 65535 := by
  constructor
  · intro hspecified
    have hname : name = host := by
      simpa using hspecified.host.symm.trans hhost.host
    have hread : Numeral.readInt? (toString number) = some n := by
      rcases hspecified.port with hinteger | ⟨text, htext, hvalue⟩
      · rw [h.written_eq] at hinteger
        cases hinteger
      · rw [h.written_eq] at htext
        cases htext
        exact hvalue
    rw [readInt?_toString] at hread
    split at hread
    · obtain rfl := Option.some.inj hread
      exact ⟨hname, rfl, hspecified.one_le, hspecified.le_65535⟩
    · cases hread
  · rintro ⟨rfl, rfl, hlow, hhigh⟩
    refine ⟨hhost, Or.inr ⟨_, h.written_eq, ?_⟩, hlow, hhigh⟩
    rw [readInt?_toString, if_pos (isWritable_of_inBounds hlow hhigh)]

theorem PortTwins.select_eq_remote_iff (h : PortTwins number table other)
    (hhost : ChoosesHost table host) (henabled : .remoteServer ∈ site.enabled) (client : Remote) :
    select other site = .ok (.remote client) ↔
      (1 ≤ number ∧ number ≤ 65535) ∧ site.platform.opening (Remote.address host number) = .ok () ∧
        client = clientOf site.platform host number := by
  have hother := h.choosesHost hhost
  rw [RemoteSelection.select_eq_remote_iff]
  constructor
  · rintro ⟨name, n, hspecified, _, hcheck, hclient⟩
    obtain ⟨rfl, rfl, hlow, hhigh⟩ := (h.specifies_iff hother name n).1 hspecified
    exact ⟨⟨hlow, hhigh⟩, hcheck, hclient⟩
  · rintro ⟨⟨hlow, hhigh⟩, hcheck, hclient⟩
    exact ⟨host, number, (h.specifies_iff hother host number).2 ⟨rfl, rfl, hlow, hhigh⟩, henabled,
      hcheck, hclient⟩

/-- Digits that are too many are no port, which is a fault of the configuration. -/
theorem PortTwins.select_eq_error (h : PortTwins number table other)
    (hlong : Numeral.isWritable number = false) (site : Selection.Site) :
    ∃ refusal, select other site = .error refusal ∧ refusal.IsConfigurationFault := by
  have hunread : Numeral.readInt? (toString number) = none := by
    rw [readInt?_toString, hlong]
    rfl
  have hnot : ∀ host n, ¬ Specifies other host n := by
    intro host n hspecified
    rcases hspecified.port with hinteger | ⟨text, htext, hvalue⟩
    · rw [h.written_eq] at hinteger
      cases hinteger
    · rw [h.written_eq] at htext
      cases htext
      rw [hunread] at hvalue
      cases hvalue
  obtain ⟨refusal, hselect, hfault | hstrays⟩ := select_of_unspecified h.givesPlace hnot site
  · exact ⟨refusal, hselect, hfault⟩
  · cases hstrays with
    | longPort hmeets =>
      obtain ⟨_, n, hinteger, _⟩ := hmeets
      rw [h.written_eq] at hinteger
      cases hinteger
    | url hspecified _ _ => exact absurd hspecified (hnot _ _)

/-! ## Named hosts -/

theorem hasScheme_eq_false {text : List Char} (h : ∀ c ∈ text, isNameChar c = true) :
    Remote.hasScheme text = false := by
  induction text with
  | nil => rfl
  | cons c rest ih =>
    obtain ⟨hc, hrest⟩ := List.forall_mem_cons.1 h
    rw [Remote.hasScheme]
    · exact ih hrest
    · rintro more rfl
      cases hc

theorem address_of_isName (h : IsName host) (number : Int) :
    Remote.address host number = "http://" ++ host ++ ":" ++ toString number := by
  have hslash : ∀ c ∈ host.toList.reverse, ¬ (c == '/') = true := by
    intro c hc hslash
    obtain rfl := beq_iff_eq.1 hslash
    cases h.isNameChar_of_mem _ (List.mem_reverse.1 hc)
  have hbare : host.toList.reverse.dropWhile (· == '/') = host.toList.reverse := by
    cases hback : host.toList.reverse with
    | nil => rfl
    | cons c rest =>
      rw [hback] at hslash
      exact List.dropWhile_cons_of_neg (hslash c List.mem_cons_self)
  simp only [Remote.address, hbare, List.reverse_reverse, hasScheme_eq_false h.isNameChar_of_mem,
    String.ofList_toList]
  rfl

theorem select_of_isName (hopens : OpensNames site.platform) (hname : IsName host)
    (h : Specifies table host number) (henabled : .remoteServer ∈ site.enabled) :
    select table site = .ok (.remote (clientOf site.platform host number)) := by
  have hcheck : site.platform.opening (Remote.address host number) = .ok () := by
    rw [address_of_isName hname]
    exact hopens host number hname h.one_le h.le_65535
  rw [select_of_enabled h henabled, hcheck]
  rfl

end

/-! ## Remote checkers -/

/-- A table of options selects a remote checker exactly if it gives a host and a port from 1 to
65535 and chooses nothing else, the feature is enabled, and the library opens a client for their
address.  If it does so for every machine that has a name, then each table that gives such a host
and a port selects its client.  Any other table with something at the host or the port is refused as
a fault of the configuration, unless it strays.  An integer at the port is as good as its digits, if
it has so few that they are written, and then the address ends in a colon and these digits. -/
theorem select_exactly_specified (table : Table) (site : Selection.Site) :
    (∀ client, select table site = .ok (.remote client) ↔
      ∃ host number, Specifies table host number ∧ .remoteServer ∈ site.enabled ∧
        site.platform.opening (Remote.address host number) = .ok () ∧
        client = clientOf site.platform host number) ∧
    (OpensNames site.platform → ∀ host number, IsName host → Specifies table host number →
      .remoteServer ∈ site.enabled →
      select table site = .ok (.remote (clientOf site.platform host number))) ∧
    (GivesPlace table → (∀ client, select table site ≠ .ok (.remote client)) →
      ∃ refusal, select table site = .error refusal ∧
        (refusal.IsConfigurationFault ∨ Strays table site refusal)) ∧
    (∀ refusal, Strays table site refusal → select table site = .error refusal) ∧
    (∀ (number : Int) (other : Table), PortTwins number table other →
      (Numeral.isWritable number = true → select other site = select table site) ∧
      (Numeral.isWritable number = false →
        ∃ refusal, select other site = .error refusal ∧ refusal.IsConfigurationFault) ∧
      ∀ host, ChoosesHost table host → .remoteServer ∈ site.enabled → ∀ client,
        select other site = .ok (.remote client) ↔
          (1 ≤ number ∧ number ≤ 65535) ∧
            site.platform.opening (Remote.address host number) = .ok () ∧
            client = clientOf site.platform host number) ∧
    ∀ host, ∃ front, ∀ number : Int,
      (clientOf site.platform host number).baseUrl = front ++ ":" ++ toString number := by
  refine ⟨fun client => select_eq_remote_iff, ?_, select_of_givesPlace,
    fun refusal => select_of_strays, ?_, address_eq⟩
  · intro hopens host number hname hspecified henabled
    exact select_of_isName hopens hname hspecified henabled
  · intro number other htwins
    refine ⟨fun hwritable => htwins.select_eq hwritable site,
      fun hlong => htwins.select_eq_error hlong site, ?_⟩
    intro host hhost henabled client
    exact htwins.select_eq_remote_iff hhost henabled client

/-! ## Tables that are refused -/

/-- A library that takes what stands behind the first colon of an address without brackets for its
port. -/
def unbracketed : Platform :=
  ⟨fun url => if url = "http://::1:8081" then .error ⟨"Invalid port: ':1:8081'"⟩ else .ok (), 1000⟩

def serverSite : Selection.Site := ⟨[.remoteServer], .empty, [], 8082, unbracketed⟩

theorem opensNames_unbracketed : OpensNames unbracketed := by
  intro host number hname _ _
  refine if_neg fun hurl => ?_
  -- behind the two slashes of the address that is refused stands a colon, where a name has a letter
  have hchars : host.toList ++ (":" ++ toString number).toList = "::1:8081".toList := by
    have hwhole := congrArg String.toList hurl
    simp only [String.toList_append, List.append_assoc] at hwhole
    rw [String.toList_append]
    exact List.append_cancel_left (hwhole.trans (by decide : _ = "http://".toList ++ _))
  cases hlist : host.toList with
  | nil =>
    have hlength := hname.length_le.1
    rw [← String.length_toList, hlist] at hlength
    cases hlength
  | cons c rest =>
    have halpha : c.isAlpha = true := hname.isAlpha_of_head c (by rw [hlist]; rfl)
    rw [hlist] at hchars
    obtain rfl : c = ':' := (List.cons.inj hchars).1
    cases halpha

def namedTable : Table := [("host", .text "localhost"), ("port", .integer 8081)]

theorem select_namedTable :
    OpensNames serverSite.platform ∧ IsName "localhost" ∧ Specifies namedTable "localhost" 8081 ∧
      .remoteServer ∈ serverSite.enabled ∧
      select namedTable serverSite =
        .ok (.remote (clientOf serverSite.platform "localhost" 8081)) := by
  have hchars : "localhost".toList.all isNameChar = true := rfl
  have hhead : ∀ c ∈ "localhost".toList.head?, c.isAlpha = true := by
    rintro c ⟨⟩
    rfl
  have hname : IsName "localhost" :=
    ⟨List.all_eq_true.1 hchars, hhead, by decide +kernel, by decide +kernel⟩
  have hspecified : Specifies namedTable "localhost" 8081 :=
    ⟨⟨Or.inl rfl, Or.inl rfl, rfl⟩, Or.inl rfl, by decide, by decide⟩
  have henabled : .remoteServer ∈ serverSite.enabled := List.mem_cons_self
  refine ⟨opensNames_unbracketed, hname, hspecified, henabled, ?_⟩
  exact (select_exactly_specified namedTable serverSite).2.1 opensNames_unbracketed "localhost" 8081
    hname hspecified henabled

/-- The address of the own machine, written without brackets. -/
def loopbackTable : Table := [("host", .text "::1"), ("port", .integer 8081)]

def farPortTable : Table := [("host", .text "h"), ("port", .integer (Nat.pow 16 3572))]

def farDigitsTable : Table :=
  [("host", .text "h"), ("port", .text (toString ((Nat.pow 16 3572 : Nat) : Int)))]

/-- A host and a port that are all that is given, and that the library refuses; and an integer that
is refused in another way than its digits. -/
theorem select_strays :
    (Specifies loopbackTable "::1" 8081 ∧ .remoteServer ∈ serverSite.enabled ∧
      select loopbackTable serverSite =
        .error (.selection (.remote (.url ⟨"Invalid port: ':1:8081'"⟩)))) ∧
    PortTwins (Nat.pow 16 3572 : Nat) farPortTable farDigitsTable ∧
      select farPortTable serverSite = .error (.options (.tooLong ⟨none⟩)) ∧
      ∃ refusal, select farDigitsTable serverSite = .error refusal ∧
        refusal.IsConfigurationFault := by
  have hspecified : Specifies loopbackTable "::1" 8081 :=
    ⟨⟨Or.inl rfl, Or.inl rfl, rfl⟩, Or.inl rfl, by decide, by decide⟩
  have henabled : .remoteServer ∈ serverSite.enabled := List.mem_cons_self
  have hcheck : serverSite.platform.opening (Remote.address "::1" 8081) =
      .error ⟨"Invalid port: ':1:8081'"⟩ := by
    decide +kernel
  have hlong : Numeral.isWritable (Nat.pow 16 3572 : Nat) = false := by decide +kernel
  have htwins : PortTwins (Nat.pow 16 3572 : Nat) farPortTable farDigitsTable := by
    refine ⟨rfl, rfl, ?_⟩
    simp only [List.forall_mem_cons]
    exact ⟨rfl, rfl, rfl, fun _ hkey => nomatch hkey⟩
  refine ⟨⟨hspecified, henabled, select_of_strays (.url hspecified henabled hcheck)⟩, htwins, ?_,
    htwins.select_eq_error hlong serverSite⟩
  exact select_of_strays (.longPort ⟨Or.inl rfl, _, rfl, hlong⟩)

end ProseTrace.Proofs.Checker.RemoteSelection
