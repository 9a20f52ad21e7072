import Mathlib.Data.List.Forall2
import ProseTrace.Checker.Remote
import ProseTrace.Proofs.Text.OffsetTable

/-!
# Reading a server's answer

A server counts UTF-16 units.  An answer that describes suggestions on a text, by the units before
them and inside them, is read as these suggestions, and a client without allowed words leaves none
of them out.
-/

namespace ProseTrace.Proofs.Checker.MatchReading

open ProseTrace.Text ProseTrace.Finding ProseTrace.Checker
open ProseTrace.Proofs.Text.OffsetTable

/-! ## Units and characters -/

theorem utf16Width_pos (c : Char) : 0 < utf16Width c := by
  unfold utf16Width
  split <;> omega

theorem utf16Width_eq_one {text : List Char} (h : UnitIndex.isBasic text = true) :
    ∀ c ∈ text, utf16Width c = 1 := by
  intro c hc
  have hbasic : c.toNat < 0x10000 := by simpa using List.all_eq_true.1 h c hc
  unfold utf16Width
  exact if_pos hbasic

theorem charIndex_measure_take {text : List Char} {i : Nat} (hi : i ≤ text.length) :
    (UnitIndex.ofText text).charIndex (measure utf16Width (text.take i)) = i := by
  unfold UnitIndex.ofText
  split
  next hbasic =>
    rw [UnitIndex.charIndex, measure_eq_length, List.length_take, Nat.min_eq_left hi]
    exact fun c hc => utf16Width_eq_one hbasic c (List.mem_of_mem_take hc)
  next =>
    rw [UnitIndex.charIndex, Int.toNat_natCast, lowerBound_offsets utf16Width_pos hi]
    omega

/-- The units up to the end of a suggestion are those before it and those inside it. -/
theorem measure_marked (width : Char → Nat) (text : List Char) (suggestion : Suggestion) :
    measure width (text.take suggestion.stop) =
      measure width (text.take suggestion.start) + measure width (suggestion.marked text) := by
  have hsplit : text.take suggestion.stop =
      text.take suggestion.start ++ suggestion.marked text := by
    unfold Suggestion.marked
    rw [← List.take_add, Nat.add_sub_cancel' suggestion.start_le_stop]
  rw [hsplit, measure_append]

/-! ## Answers -/

/-- The field lists the replacements, or is not there and there are none. -/
def ListsReplacements (field : Option Json) (replacements : List Json) : Prop :=
  match field with
  | none => replacements = []
  | some (.list items) => items.Forall₂ (fun item replacement => ∃ fields,
      item = .object fields ∧ Json.lookup? "value" fields = some replacement) replacements
  | some _ => False

/-- The fields of the rule that is named, or none of them. -/
def ruleFields? : Option Json → Option (List (String × Json))
  | none => some []
  | some .null => some []
  | some (.object fields) => some fields
  | some _ => none

/-- The fields of a match give a place, as an offset and a length in units, and a remark. -/
structure Gives (fields : List (String × Json)) (offset length : Int) (remark : Remark) :
    Prop where
  offset_eq : Json.lookup? "offset" fields = some (.integer offset)
  length_eq : Json.lookup? "length" fields = some (.integer length)
  message_eq : Json.lookup? "message" fields = some remark.message
  replacements : ListsReplacements (Json.lookup? "replacements" fields) remark.replacements
  rule : ∃ rule, ruleFields? (Json.lookup? "rule" fields) = some rule ∧
    remark.ruleDescription = (Json.lookup? "description" rule).getD (.text "") ∧
    remark.ruleId = (Json.lookup? "id" rule).getD (.text "")

/-- The fields of a match describe a suggestion on a text: its place in UTF-16 units, and what it
says. -/
structure Describes (text : List Char) (fields : List (String × Json)) (suggestion : Suggestion) :
    Prop where
  stop_le : suggestion.stop ≤ text.length
  offset_eq : Json.lookup? "offset" fields =
    some (.integer (measure utf16Width (text.take suggestion.start)))
  length_eq : Json.lookup? "length" fields =
    some (.integer (measure utf16Width (suggestion.marked text)))
  message_eq : Json.lookup? "message" fields = some suggestion.remark.message
  replacements : ListsReplacements (Json.lookup? "replacements" fields)
    suggestion.remark.replacements
  rule : ∃ rule, ruleFields? (Json.lookup? "rule" fields) = some rule ∧
    suggestion.remark.ruleDescription = (Json.lookup? "description" rule).getD (.text "") ∧
    suggestion.remark.ruleId = (Json.lookup? "id" rule).getD (.text "")

/-- The payload of an answer describes these suggestions, in this order. -/
def DescribesAll (text : List Char) (payload : Json) (found : List Suggestion) : Prop :=
  ∃ fields items, payload = .object fields ∧ Json.lookup? "matches" fields = some (.list items) ∧
    items.Forall₂ (fun item suggestion => ∃ fields,
      item = .object fields ∧ Describes text fields suggestion) found

/-- A reply of success with a payload that describes these suggestions. -/
def IsAnswer (maxDepth : Nat) (text : List Char) (reply : Reply) (found : List Suggestion) : Prop :=
  ∃ body payload, reply = .response 200 body ∧ Json.ofBytes maxDepth body = .ok payload ∧
    DescribesAll text payload found

theorem stop_le_of_isAnswer {maxDepth : Nat} {text : List Char} {reply : Reply}
    {found : List Suggestion} (h : IsAnswer maxDepth text reply found) :
    ∀ s ∈ found, s.stop ≤ text.length := by
  obtain ⟨_, _, _, _, _, _, _, hmatches, hdescribes⟩ := h
  clear hmatches
  induction hdescribes with
  | nil => simp
  | cons hitem _ ih =>
    obtain ⟨_, _, hdescribe⟩ := hitem
    exact List.forall_mem_cons.2 ⟨hdescribe.stop_le, ih⟩

/-! ## What is read -/

theorem mapM_eq_ok_of_forall₂ {α β ε : Type} {read : α → Except ε β} {items : List α}
    {values : List β} (h : items.Forall₂ (fun item value => read item = .ok value) values) :
    items.mapM read = .ok values := by
  induction h with
  | nil => rfl
  | cons hitem _ ih =>
    rw [List.mapM_cons, hitem, ih]
    rfl

theorem replacements_eq_ok {fields : List (String × Json)} {replacements : List Json}
    (h : ListsReplacements (Json.lookup? "replacements" fields) replacements) :
    ∃ items, members ((Json.lookup? "replacements" fields).getD (.list [])) = .ok items ∧
      items.mapM (valueAt "value") = .ok replacements := by
  cases hfield : Json.lookup? "replacements" fields with
  | none =>
    rw [hfield, ListsReplacements] at h
    exact ⟨[], rfl, by rw [h]; rfl⟩
  | some value =>
    rw [hfield] at h
    cases value with
    | list items =>
      refine ⟨items, rfl, mapM_eq_ok_of_forall₂ (List.Forall₂.imp ?_ h)⟩
      rintro item replacement ⟨itemFields, rfl, hvalue⟩
      rw [valueAt, hvalue]
    | _ => exact h.elim

theorem rule_eq_object {field : Option Json} {rule : List (String × Json)}
    (h : ruleFields? field = some rule) :
    (if (field.getD .null).isTruthy then field.getD .null else .object []) = .object rule := by
  cases field with
  | none =>
    obtain rfl := Option.some.inj h
    rfl
  | some value =>
    cases value with
    | null =>
      obtain rfl := Option.some.inj h
      rfl
    | object fields =>
      obtain rfl := Option.some.inj h
      cases fields <;> rfl
    | _ => cases h

theorem ofInts_eq_ok (suggestion : Suggestion) :
    Suggestion.ofInts suggestion.start suggestion.stop suggestion.remark = .ok suggestion := by
  have := suggestion.start_le_stop
  unfold Suggestion.ofInts
  rw [if_neg (by omega), dif_pos (by omega)]
  rfl

/-- Of a match that gives a place and a remark only the place can be refused. -/
theorem readMatch_of_gives {fields : List (String × Json)} {offset length : Int} {remark : Remark}
    (h : Gives fields offset length remark) (index : UnitIndex) :
    readMatch index (.object fields) =
      (Suggestion.ofInts (index.charIndex offset) (index.charIndex (offset + length))
        remark).mapError fun error => .malformed (.invalidSuggestion error) := by
  obtain ⟨rule, hrule, hdescription, hid⟩ := h.rule
  obtain ⟨items, hitems, hreplacements⟩ := replacements_eq_ok h.replacements
  simp only [readMatch, valueAt, valueOr, h.offset_eq, h.length_eq, h.message_eq, integerOf, bind,
    Except.bind, rule_eq_object hrule, hitems, hreplacements]
  rw [← hdescription, ← hid]
  cases Suggestion.ofInts (index.charIndex offset) (index.charIndex (offset + length)) remark <;> rfl

theorem Describes.gives {text : List Char} {fields : List (String × Json)} {suggestion : Suggestion}
    (h : Describes text fields suggestion) :
    Gives fields (measure utf16Width (text.take suggestion.start))
      (measure utf16Width (suggestion.marked text)) suggestion.remark :=
  ⟨h.offset_eq, h.length_eq, h.message_eq, h.replacements, h.rule⟩

theorem readMatch_eq_ok {text : List Char} {fields : List (String × Json)} {suggestion : Suggestion}
    (h : Describes text fields suggestion) :
    readMatch (.ofText text) (.object fields) = .ok suggestion := by
  have hstart : (UnitIndex.ofText text).charIndex
      (measure utf16Width (text.take suggestion.start)) = suggestion.start :=
    charIndex_measure_take (Nat.le_trans suggestion.start_le_stop h.stop_le)
  have hstop : (UnitIndex.ofText text).charIndex
      ((measure utf16Width (text.take suggestion.start) : Int) +
        measure utf16Width (suggestion.marked text)) = suggestion.stop := by
    rw [← Int.natCast_add, ← measure_marked]
    exact charIndex_measure_take h.stop_le
  rw [readMatch_of_gives h.gives, hstart, hstop, ofInts_eq_ok]
  rfl

theorem readMatches_eq_ok {text : String} {payload : Json} {found : List Suggestion}
    (h : DescribesAll text.toList payload found) : readMatches text payload = .ok found := by
  obtain ⟨fields, items, rfl, hmatches, hdescribes⟩ := h
  have hvalue : valueAt "matches" (.object fields) = .ok (.list items) := by
    rw [valueAt, hmatches]
  rw [readMatches, hvalue]
  show items.mapM (readMatch (.ofText text.toList)) = .ok found
  apply mapM_eq_ok_of_forall₂
  refine hdescribes.imp ?_
  rintro item suggestion ⟨itemFields, rfl, hdescribe⟩
  exact readMatch_eq_ok hdescribe

/-! ## What a client gives -/

theorem readReply_eq_ok {remote : Remote} {text : String} {reply : Reply}
    {found : List Suggestion} (h : IsAnswer remote.maxDepth text.toList reply found) :
    remote.readReply text reply = .ok found := by
  obtain ⟨body, payload, rfl, hbody, hpayload⟩ := h
  have hsuccess : isSuccess 200 = true := rfl
  rw [Remote.readReply, if_pos hsuccess, hbody]
  show (readMatches text payload).mapError MatchFault.toFault = .ok found
  rw [readMatches_eq_ok hpayload]
  rfl

def AllowsNothing (settings : Settings) : Prop :=
  ∀ language word, word ∉ settings.allowed language

theorem filter_eq_self {settings : Settings} (h : AllowsNothing settings) (language text : String)
    (found : List Suggestion) : settings.filter language text found = found := by
  unfold Settings.filter
  rw [List.filter_eq_self]
  intro suggestion _
  have hword := h language (String.ofList (suggestion.marked text.toList))
  simp only [Settings.isAllowed, hword, decide_false, Bool.not_false]

/-- An open client that gets an answer gives all its suggestions, and waits for the next reply. -/
theorem value_check {session : Session} {reply : Reply} {replies : List Reply}
    (hopen : session.remote.connection.isUsable = true)
    (hwords : AllowsNothing session.remote.settings) (hreplies : session.replies = reply :: replies)
    {language text : String} {found : List Suggestion}
    (h : IsAnswer session.remote.maxDepth text.toList reply found) :
    ∃ sent, (session.check language text).value = (.ok found, ⟨session.remote, replies, sent⟩) := by
  refine ⟨session.sent ++ [session.remote.checkRequest language text], ?_⟩
  unfold Session.check Session.exchange
  rw [if_pos hopen, hreplies]
  simp only [List.headD_cons, List.tail_cons, Logged.value_bind, Logged.value_pure,
    Remote.conclude, readReply_eq_ok h, filter_eq_self hwords]

end ProseTrace.Proofs.Checker.MatchReading
