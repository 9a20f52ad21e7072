import ProseTrace.Proofs.Checker.SettingRuns

/-!
# Checks that fail

A check by a client gives suggestions or fails with a failure of the backend.  Three faults are not
reported so: a client that was closed sends nothing, an answer may nest too deep to be read, and a
match may be placed at an infinite number.
-/

namespace ProseTrace.Proofs.Checker.FailedChecks

open ProseTrace.Text ProseTrace.Finding ProseTrace.Checker
open ProseTrace.Proofs.Checker.SettingRuns

/-! ## Readers that fail -/

section

variable {α β ε : Type}

theorem bind_eq_error_iff {x : Except ε α} {f : α → Except ε β} {error : ε} :
    (x >>= f) = .error error ↔ x = .error error ∨ ∃ a, x = .ok a ∧ f a = .error error := by
  cases x with
  | error e => simp [bind, Except.bind]
  | ok a => simp [bind, Except.bind]

theorem bind_ne_error {x : Except ε α} {f : α → Except ε β} {error : ε} (hx : x ≠ .error error)
    (hf : ∀ a, f a ≠ .error error) : (x >>= f) ≠ .error error := by
  rw [Ne, bind_eq_error_iff]
  rintro (h | ⟨a, _, h⟩)
  · exact hx h
  · exact hf a h

theorem mapM_eq_error_iff {read : α → Except ε β} {items : List α} {error : ε} :
    items.mapM read = .error error ↔ ∃ before item after, items = before ++ item :: after ∧
      (∀ x ∈ before, ∃ value, read x = .ok value) ∧ read item = .error error := by
  induction items with
  | nil =>
    constructor
    · intro h
      cases h
    · rintro ⟨before, item, after, h, _⟩
      exact absurd h.symm (List.append_ne_nil_of_right_ne_nil before (List.cons_ne_nil item after))
  | cons first rest ih =>
    have hpure : ∀ value : β, (rest.mapM read >>= fun values => pure (value :: values)) =
        .error error ↔ rest.mapM read = .error error := by
      intro value
      rw [bind_eq_error_iff]
      exact or_iff_left fun ⟨values, _, h⟩ => nomatch h
    rw [List.mapM_cons, bind_eq_error_iff]
    simp only [hpure, ih]
    constructor
    · rintro (hfirst | ⟨value, hfirst, before, item, after, rfl, hbefore, hitem⟩)
      · exact ⟨[], first, rest, rfl, nofun, hfirst⟩
      · exact ⟨first :: before, item, after, rfl,
          List.forall_mem_cons.2 ⟨⟨value, hfirst⟩, hbefore⟩, hitem⟩
    · rintro ⟨before, item, after, hsplit, hbefore, hitem⟩
      cases before with
      | nil =>
        obtain ⟨rfl, rfl⟩ := List.cons.inj hsplit
        exact Or.inl hitem
      | cons head before =>
        obtain ⟨rfl, rfl⟩ := List.cons.inj hsplit
        obtain ⟨⟨value, hfirst⟩, hrest⟩ := List.forall_mem_cons.1 hbefore
        exact Or.inr ⟨value, hfirst, before, item, after, rfl, hrest, hitem⟩

end

/-! ## Matches at infinity -/

/-- A match that is placed at an infinite number: its offset is one, or its offset is an integer and
its length is one. -/
inductive IsBoundless (fields : List (String × Json)) : Prop where
  | offset (negative : Bool)
      (hoffset : Json.lookup? "offset" fields = some (.float (.infinite negative)))
  | length (value : Json) (offset : Int) (negative : Bool)
      (hoffset : Json.lookup? "offset" fields = some value)
      (hvalue : integerOf value = .ok offset)
      (hlength : Json.lookup? "length" fields = some (.float (.infinite negative)))

/-- The payload lists a match at an infinite number, behind others that make suggestions. -/
def ListsBoundless (text : String) (payload : Json) : Prop :=
  ∃ fields before found after, payload = .object fields ∧
    Json.lookup? "matches" fields = some (.list (before ++ .object found :: after)) ∧
    (∀ item ∈ before, ∃ s, readMatch (.ofText text.toList) item = .ok s) ∧ IsBoundless found

theorem valueAt_ne_infiniteIndex (key : String) (value : Json) :
    valueAt key value ≠ .error .infiniteIndex := by
  unfold valueAt
  split
  · split <;> nofun
  · nofun

theorem valueOr_ne_infiniteIndex (key : String) (default value : Json) :
    valueOr key default value ≠ .error .infiniteIndex := by
  unfold valueOr
  split <;> nofun

theorem members_ne_infiniteIndex (value : Json) : members value ≠ .error .infiniteIndex := by
  unfold members
  split <;> nofun

theorem integerOf_eq_infiniteIndex_iff {value : Json} :
    integerOf value = .error .infiniteIndex ↔ ∃ negative, value = .float (.infinite negative) := by
  constructor
  · intro h
    unfold integerOf at h
    split at h
    all_goals first
      | exact ⟨_, rfl⟩
      | cases h
      | (split at h <;> cases h)
  · rintro ⟨negative, rfl⟩
    rfl

theorem valueAt_eq_ok_iff {key : String} {value found : Json} :
    valueAt key value = .ok found ↔
      ∃ fields, value = .object fields ∧ Json.lookup? key fields = some found := by
  constructor
  · intro h
    unfold valueAt at h
    split at h
    · split at h
      next hlookup =>
        cases h
        exact ⟨_, rfl, hlookup⟩
      · cases h
    · cases h
  · rintro ⟨fields, rfl, hlookup⟩
    rw [valueAt, hlookup]

theorem mapM_valueAt_ne_infiniteIndex (key : String) (items : List Json) :
    items.mapM (valueAt key) ≠ .error .infiniteIndex := by
  intro h
  obtain ⟨_, item, _, _, _, hitem⟩ := mapM_eq_error_iff.1 h
  exact valueAt_ne_infiniteIndex key item hitem

theorem readMatch_eq_infiniteIndex_iff {index : UnitIndex} {found : Json} :
    readMatch index found = .error .infiniteIndex ↔
      ∃ fields, found = .object fields ∧ IsBoundless fields := by
  constructor
  · intro hread
    rcases bind_eq_error_iff.1 hread with h | ⟨value, hvalue, hbehind⟩
    · exact absurd h (valueAt_ne_infiniteIndex _ _)
    obtain ⟨fields, rfl, hoffset⟩ := valueAt_eq_ok_iff.1 hvalue
    rcases bind_eq_error_iff.1 hbehind with h | ⟨offset, hinteger, hlater⟩
    · obtain ⟨negative, rfl⟩ := integerOf_eq_infiniteIndex_iff.1 h
      exact ⟨fields, rfl, .offset negative hoffset⟩
    rcases bind_eq_error_iff.1 hlater with h | ⟨size, hsize, hlast⟩
    · exact absurd h (valueAt_ne_infiniteIndex _ _)
    obtain ⟨_, hfields, hlength⟩ := valueAt_eq_ok_iff.1 hsize
    cases hfields
    rcases bind_eq_error_iff.1 hlast with h | ⟨length, _, hrest⟩
    · obtain ⟨negative, rfl⟩ := integerOf_eq_infiniteIndex_iff.1 h
      exact ⟨fields, rfl, .length value offset negative hoffset hinteger hlength⟩
    -- what is read behind the place holds no index
    refine absurd hrest (bind_ne_error (valueOr_ne_infiniteIndex _ _ _) fun given =>
      bind_ne_error (valueAt_ne_infiniteIndex _ _) fun message =>
      bind_ne_error (valueOr_ne_infiniteIndex _ _ _) fun listed =>
      bind_ne_error (members_ne_infiniteIndex _) fun items =>
      bind_ne_error (mapM_valueAt_ne_infiniteIndex _ _) fun replacements =>
      bind_ne_error (valueOr_ne_infiniteIndex _ _ _) fun description =>
      bind_ne_error (valueOr_ne_infiniteIndex _ _ _) fun id => ?_)
    split <;> nofun
  · rintro ⟨fields, rfl, hboundless⟩
    rw [readMatch]
    cases hboundless with
    | offset negative hoffset =>
      rw [valueAt_eq_ok_iff.2 ⟨fields, rfl, hoffset⟩]
      rfl
    | length value offset negative hoffset hvalue hlength =>
      rw [valueAt_eq_ok_iff.2 ⟨fields, rfl, hoffset⟩, valueAt_eq_ok_iff.2 ⟨fields, rfl, hlength⟩]
      refine bind_eq_error_iff.2 (Or.inr ⟨value, rfl, ?_⟩)
      exact bind_eq_error_iff.2 (Or.inr ⟨offset, hvalue, rfl⟩)

theorem readMatches_eq_infiniteIndex_iff {text : String} {payload : Json} :
    readMatches text payload = .error .infiniteIndex ↔ ListsBoundless text payload := by
  constructor
  · intro hread
    rcases bind_eq_error_iff.1 hread with h | ⟨listed, hlisted, hbehind⟩
    · exact absurd h (valueAt_ne_infiniteIndex _ _)
    obtain ⟨fields, rfl, hmatches⟩ := valueAt_eq_ok_iff.1 hlisted
    rcases bind_eq_error_iff.1 hbehind with h | ⟨items, hitems, hmapM⟩
    · exact absurd h (members_ne_infiniteIndex _)
    obtain ⟨before, item, after, rfl, hbefore, hitem⟩ := mapM_eq_error_iff.1 hmapM
    obtain ⟨found, rfl, hboundless⟩ := readMatch_eq_infiniteIndex_iff.1 hitem
    have hobject : Json.object found ∈ before ++ .object found :: after := by
      exact List.mem_append_right _ List.mem_cons_self
    -- the members of an object and of a text are texts
    cases listed with
    | list given =>
      cases hitems
      exact ⟨fields, before, found, after, rfl, hmatches, hbefore, hboundless⟩
    | object given =>
      rw [← Except.ok.inj hitems, List.mem_map] at hobject
      obtain ⟨_, _, hname⟩ := hobject
      cases hname
    | text given =>
      rw [← Except.ok.inj hitems, List.mem_map] at hobject
      obtain ⟨_, _, hchar⟩ := hobject
      cases hchar
    | _ => cases hitems
  · rintro ⟨fields, before, found, after, rfl, hmatches, hbefore, hboundless⟩
    rw [readMatches, valueAt_eq_ok_iff.2 ⟨fields, rfl, hmatches⟩]
    refine mapM_eq_error_iff.2 ⟨before, .object found, after, rfl, hbefore, ?_⟩
    exact readMatch_eq_infiniteIndex_iff.2 ⟨found, rfl, hboundless⟩

/-! ## Faults that are not failures of the backend -/

/-- A reply to the check of a text whose fault is not reported as a failure of the backend. -/
inductive Unreported (maxDepth : Nat) (text : String) : Reply → Fault → Prop where
  | tooDeep (status : Int) (body : List UInt8) (container : Json.Reader.Container)
      (hsuccess : isSuccess status = true)
      (hbody : Json.ofBytes maxDepth body = .error (.tooDeep container)) :
      Unreported maxDepth text (.response status body) (.tooDeep container)
  | infiniteIndex (status : Int) (body : List UInt8) (payload : Json)
      (hsuccess : isSuccess status = true) (hbody : Json.ofBytes maxDepth body = .ok payload)
      (hpayload : ListsBoundless text payload) :
      Unreported maxDepth text (.response status body) .infiniteIndex

theorem readReply_of_unreported {remote : Remote} {text : String} {reply : Reply} {fault : Fault}
    (h : Unreported remote.maxDepth text reply fault) :
    remote.readReply text reply = .error fault := by
  cases h with
  | tooDeep status body container hsuccess hbody =>
    simp only [Remote.readReply, hsuccess, if_true, hbody]
  | infiniteIndex status body payload hsuccess hbody hpayload =>
    simp only [Remote.readReply, hsuccess, if_true, hbody,
      readMatches_eq_infiniteIndex_iff.2 hpayload]
    rfl

theorem isBackend_or_unreported {remote : Remote} {text : String} {reply : Reply} {fault : Fault}
    (h : remote.readReply text reply = .error fault) :
    fault.isBackend = true ∨ Unreported remote.maxDepth text reply fault := by
  unfold Remote.readReply at h
  split at h
  next => cases h; exact Or.inl rfl
  next => cases h; exact Or.inl rfl
  next status body =>
    split at h
    next hsuccess =>
      split at h
      next payload hbody =>
        cases hmatches : readMatches text payload with
        | ok found =>
          rw [hmatches] at h
          cases h
        | error matchFault =>
          rw [hmatches] at h
          cases h
          cases matchFault with
          | malformed _ => exact Or.inl rfl
          | infiniteIndex =>
            exact Or.inr (.infiniteIndex status body payload hsuccess hbody
              (readMatches_eq_infiniteIndex_iff.1 hmatches))
      next => cases h; exact Or.inl rfl
      next container hbody =>
        cases h
        exact Or.inr (.tooDeep status body container hsuccess hbody)
    next => cases h; exact Or.inl rfl

/-- How a check ends with a fault that is no failure of the backend. -/
inductive Escapes (s : Session) (text : String) : Fault → Prop where
  | clientClosed (h : s.remote.connection.isUsable = false) : Escapes s text .clientClosed
  | reply (fault : Fault) (husable : s.remote.connection.isUsable = true)
      (hreply : Unreported s.remote.maxDepth text (s.replies.headD Session.noReply) fault) :
      Escapes s text fault

theorem map_eq_error_iff {α β ε : Type} {x : Except ε α} {f : α → β} {error : ε} :
    x.map f = .error error ↔ x = .error error := by
  cases x <;> simp [Except.map]

/-- A check leaves the settings as they are.  It gives the suggestions that it reads, or fails with a
failure of the backend, unless the client is closed, the answer nests too deep or a match is placed
at infinity: then, and only then, it ends with that fault. -/
theorem check_fails_or_escapes (s : Session) (language text : String) :
    (s.check language text).value.2.remote.settings = s.remote.settings ∧
    (∀ found, s.remote.connection.isUsable = true →
      IsRead s.remote.maxDepth text (s.replies.headD Session.noReply) found →
      (s.check language text).value.1 = .ok (s.remote.settings.filter language text found)) ∧
    (∀ fault, (s.check language text).value.1 = .error fault →
      fault.isBackend = true ∨ Escapes s text fault) ∧
    (∀ fault, Escapes s text fault → (s.check language text).value.1 = .error fault) := by
  by_cases husable : s.remote.connection.isUsable = true
  · rw [value_check_of_isUsable husable]
    refine ⟨rfl, ?_, ?_, ?_⟩
    · intro found _ hread
      exact congrArg (Except.map _) (readReply_of_isRead hread)
    · intro fault h
      exact (isBackend_or_unreported (map_eq_error_iff.1 h)).imp_right (.reply fault husable)
    · intro fault h
      cases h with
      | clientClosed hclosed => rw [hclosed] at husable; cases husable
      | reply _ _ hreply => exact map_eq_error_iff.2 (readReply_of_unreported hreply)
  · rw [value_check_of_not_isUsable husable]
    refine ⟨rfl, fun _ husable' => absurd husable' husable, ?_, ?_⟩
    · intro fault h
      cases h
      exact Or.inr (.clientClosed (Bool.not_eq_true _ ▸ husable))
    · intro fault h
      cases h with
      | clientClosed => rfl
      | reply _ husable' => exact absurd husable' husable

def fault? {α : Type} : Except Fault α → Option Fault
  | .error fault => some fault
  | .ok _ => none

theorem eq_error_of_fault? {α : Type} {result : Except Fault α} {fault : Fault}
    (h : fault? result = some fault) : result = .error fault := by
  cases result with
  | ok a => cases h
  | error other => exact congrArg Except.error (Option.some.inj h)

def boundlessAnswer : String := "\x7b\"matches\":[\x7b\"offset\":Infinity\x7d]\x7d"

/-- The fault of a match at infinity leaves the check, and is no failure of the backend. -/
theorem check_boundlessAnswer_escapes :
    ((Session.start ⟨"http://lt.test:8081", .empty, .lent, 1000⟩
        [.response 200 (boundlessAnswer.toList.map fun c => UInt8.ofNat c.toNat)]).check
      "en-US" "abc").value.1 = .error .infiniteIndex ∧ Fault.infiniteIndex.isBackend = false := by
  refine ⟨eq_error_of_fault? ?_, rfl⟩
  decide +kernel

end ProseTrace.Proofs.Checker.FailedChecks
