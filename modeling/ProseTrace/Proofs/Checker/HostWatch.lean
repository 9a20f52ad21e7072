import Mathlib.Data.List.Basic
import Mathlib.Data.List.Induction
import ProseTrace.Checker.Host

/-!
# The history of a host

The trace of a host tells how many processes were started and how many have exited, and what was
requested after which pings.  What happens on the host without a start or a request keeps all of
this in order.
-/

namespace ProseTrace.Proofs.Checker.HostWatch

open ProseTrace.Checker

/-! ## Histories -/

def isStart : HostEvent → Bool
  | .launch _ started => started
  | _ => false

def isExit : HostEvent → Bool
  | .exited _ => true
  | _ => false

def isStop : HostEvent → Bool
  | .terminate => true
  | .kill => true
  | _ => false

def request? : HostEvent → Option Request
  | .request request => some request
  | _ => none

def starts (trace : List HostEvent) : Nat := trace.countP isStart

def exits (trace : List HostEvent) : Nat := trace.countP isExit

/-- How often a process was asked to terminate, or killed. -/
def stops (trace : List HostEvent) : Nat := trace.countP isStop

def requests (trace : List HostEvent) : List Request := trace.filterMap request?

/-- A process was started, and the one that was started last has answered a ping since. -/
def Answered (trace : List HostEvent) : Prop :=
  ∃ before command since, trace = before ++ .launch command true :: since ∧
    .ping (.heard true) ∈ since ∧ ∀ event ∈ since, isStart event = false

/-- At every moment at most one process is alive, and nothing is requested before the last one has
answered a ping. -/
structure Orderly (trace : List HostEvent) : Prop where
  alone : ∀ seen, seen <+: trace → starts seen ≤ exits seen + 1
  asked : ∀ before request after, trace = before ++ .request request :: after → Answered before

/-- Nothing waits for the process that was started last any more: it has answered a ping since, or
one has ended in an error of the client. -/
def Settled (trace : List HostEvent) : Prop :=
  ∃ before command since, trace = before ++ .launch command true :: since ∧
    (∃ pong, .ping pong ∈ since ∧ pong ≠ .heard false) ∧ ∀ event ∈ since, isStart event = false

/-- What stays of an orderly history where pings may end in errors. -/
structure Paced (trace : List HostEvent) : Prop where
  alone : ∀ seen, seen <+: trace → starts seen ≤ exits seen + 1
  asked : ∀ before request after, trace = before ++ .request request :: after → Settled before

def NoneRaised (trace : List HostEvent) : Prop := ∀ reason, .ping (.raised reason) ∉ trace

section

variable {trace : List HostEvent} {event : HostEvent}

theorem countP_concat {counts : HostEvent → Bool} :
    (trace ++ [event]).countP counts = trace.countP counts + (counts event).toNat := by
  rw [List.countP_append, List.countP_singleton]
  cases counts event <;> rfl

theorem starts_concat : starts (trace ++ [event]) = starts trace + (isStart event).toNat :=
  countP_concat

theorem exits_concat : exits (trace ++ [event]) = exits trace + (isExit event).toNat :=
  countP_concat

theorem requests_concat :
    requests (trace ++ [event]) = requests trace ++ (request? event).toList := by
  rw [requests, requests, List.filterMap_append]
  cases event <;> rfl

theorem Settled.concat (h : Settled trace) (hstart : isStart event = false) :
    Settled (trace ++ [event]) := by
  obtain ⟨before, command, since, rfl, ⟨pong, hping, hpong⟩, hlast⟩ := h
  exact ⟨before, command, since ++ [event], by simp,
    ⟨pong, List.mem_append_left _ hping, hpong⟩,
    List.forall_mem_append.2 ⟨hlast, List.forall_mem_singleton.2 hstart⟩⟩

/-- Where no ping ends in an error, only an answer settles a wait. -/
theorem Settled.answered (h : Settled trace) (hcalm : NoneRaised trace) : Answered trace := by
  obtain ⟨before, command, since, rfl, ⟨pong, hping, hpong⟩, hlast⟩ := h
  refine ⟨before, command, since, rfl, ?_, hlast⟩
  cases pong with
  | heard answered =>
    cases answered with
    | true => exact hping
    | false => exact absurd rfl hpong
  | raised reason =>
    exact absurd (List.mem_append_right _ (List.mem_cons_of_mem _ hping)) (hcalm reason)

theorem NoneRaised.of_prefix {seen : List HostEvent} (h : NoneRaised trace)
    (hseen : seen <+: trace) : NoneRaised seen :=
  fun reason hping => h reason (hseen.subset hping)

theorem Paced.orderly (h : Paced trace) (hcalm : NoneRaised trace) : Orderly trace := by
  refine ⟨h.alone, fun before request after hsplit => ?_⟩
  have hbefore : before <+: trace := hsplit ▸ List.prefix_append _ _
  exact (h.asked before request after hsplit).answered (hcalm.of_prefix hbefore)

theorem exists_last_start (h : 0 < starts trace) :
    ∃ before command since, trace = before ++ .launch command true :: since ∧
      ∀ event ∈ since, isStart event = false := by
  induction trace using List.reverseRecOn with
  | nil => exact absurd h (Nat.lt_irrefl 0)
  | append_singleton trace event ih =>
    cases hevent : isStart event with
    | true =>
      cases event with
      | launch command started =>
        obtain rfl : started = true := hevent
        exact ⟨trace, command, [], rfl, fun _ hother => absurd hother List.not_mem_nil⟩
      | _ => cases hevent
    | false =>
      rw [starts_concat, hevent] at h
      obtain ⟨before, command, since, rfl, hlast⟩ := ih h
      exact ⟨before, command, since ++ [event], by simp,
        List.forall_mem_append.2 ⟨hlast, List.forall_mem_singleton.2 hevent⟩⟩

theorem settled_concat_ping {pong : Pong} (h : 0 < starts trace) (hpong : pong ≠ .heard false) :
    Settled (trace ++ [.ping pong]) := by
  obtain ⟨before, command, since, rfl, hlast⟩ := exists_last_start h
  exact ⟨before, command, since ++ [.ping pong], by simp, ⟨pong, by simp, hpong⟩,
    List.forall_mem_append.2 ⟨hlast, List.forall_mem_singleton.2 rfl⟩⟩

/-- A list that is split at a member is split at its last one, or before it. -/
theorem concat_eq_append_cons {α : Type} {items before after : List α} {last item : α}
    (h : items ++ [last] = before ++ item :: after) :
    (items = before ∧ last = item ∧ after = []) ∨
      ∃ rest, after = rest ++ [last] ∧ items = before ++ item :: rest := by
  rcases List.eq_nil_or_concat after with rfl | ⟨rest, other, rfl⟩
  · obtain ⟨hitems, hlast⟩ := List.append_inj' h rfl
    exact .inl ⟨hitems, List.head_eq_of_cons_eq hlast, rfl⟩
  · rw [List.concat_eq_append, ← List.cons_append, ← List.append_assoc] at h
    obtain ⟨hitems, hlast⟩ := List.append_inj' h rfl
    obtain rfl : last = other := List.head_eq_of_cons_eq hlast
    exact .inr ⟨rest, List.concat_eq_append, hitems⟩

theorem paced_nil : Paced [] :=
  ⟨fun seen h => by rw [List.prefix_nil.1 h]; exact Nat.zero_le _,
    fun before _ _ h => absurd h.symm (by simp)⟩

theorem Paced.concat (h : Paced trace)
    (hstart : isStart event = true → starts trace ≤ exits trace)
    (hrequest : ∀ request, event = .request request → Settled trace) :
    Paced (trace ++ [event]) := by
  constructor
  · intro seen hseen
    rcases List.prefix_concat_iff.1 hseen with rfl | hseen
    · rw [starts_concat, exits_concat]
      have := h.alone trace (List.prefix_refl _)
      cases hevent : isStart event with
      | true => have := hstart hevent; simp only [Bool.toNat_true]; omega
      | false => simp only [Bool.toNat_false]; omega
    · exact h.alone seen hseen
  · intro before request after hsplit
    rcases concat_eq_append_cons hsplit with ⟨rfl, hlast, -⟩ | ⟨rest, -, hbefore⟩
    · exact hrequest request hlast
    · exact h.asked before request rest hbefore

end

/-! ## Hosts with a history -/

/-- Whether each process is alive, by their numbers. -/
def lives (h : Host) : List Bool := h.processes.map Process.isAlive

/-- The history of a host keeps its pace, and tells how many processes there are and how many of
them are alive. -/
structure Sound (h : Host) : Prop where
  paced : Paced h.trace
  starts_eq : starts h.trace = (lives h).length
  exits_eq : exits h.trace + (lives h).count true = (lives h).length

/-- No ping of the host ends in an error of the client, neither before nor later. -/
structure Calm (h : Host) : Prop where
  noneRaised : NoneRaised h.trace
  ahead : ∀ reason, .raised reason ∉ h.pings

/-- A later time of a host, with no start and no request between. -/
structure Quiet (h later : Host) : Prop where
  trace_prefix : h.trace <+: later.trace
  length_eq : (lives later).length = (lives h).length
  requests_eq : requests later.trace = requests h.trace
  replies_eq : later.replies = h.replies
  isAlive_of : ∀ id, later.isAlive id = true → h.isAlive id = true
  settled : Settled h.trace → Settled later.trace
  calm : Calm h → Calm later
  sound : Sound h → Sound later

/-- A later time of a host, with one start between. -/
structure Started (h later : Host) : Prop where
  trace_prefix : h.trace <+: later.trace
  length_eq : (lives later).length = (lives h).length + 1
  requests_eq : requests later.trace = requests h.trace
  replies_eq : later.replies = h.replies
  isAlive_of : ∀ id, later.isAlive id = true → id = (lives h).length ∨ h.isAlive id = true
  calm : Calm h → Calm later
  sound : (∀ id, h.isAlive id = false) → Sound h → Sound later

/-- A later time of a host, with one request between. -/
structure Requested (h : Host) (request : Request) (later : Host) : Prop where
  trace_prefix : h.trace ++ [.request request] <+: later.trace
  length_eq : (lives later).length = (lives h).length
  requests_eq : requests later.trace = requests h.trace ++ [request]
  isAlive_of : ∀ id, later.isAlive id = true → h.isAlive id = true
  settled : Settled later.trace
  calm : Calm h → Calm later
  sound : Sound h → Sound later

theorem isAlive_eq (h : Host) (id : Nat) : h.isAlive id = (lives h)[id]?.getD false := by
  rw [lives, List.getElem?_map]
  rfl

theorem count_lives_eq_zero {h : Host} (hnone : ∀ id, h.isAlive id = false) :
    (lives h).count true = 0 := by
  refine List.count_eq_zero.2 fun hmem => ?_
  obtain ⟨id, hid⟩ := List.mem_iff_getElem?.1 hmem
  have := hnone id
  rw [isAlive_eq, hid] at this
  cases this

section

variable {h later last : Host} {id : Nat} {code : Int} {event : HostEvent}

/-- One event more: a start needs that nothing is alive, a request that the wait for the last process
is settled. -/
theorem Sound.concat (hsound : Sound h) (htrace : later.trace = h.trace ++ [event])
    (hlength : (lives later).length = (lives h).length + (isStart event).toNat)
    (hcount : (lives later).count true + (isExit event).toNat =
      (lives h).count true + (isStart event).toNat)
    (hstart : isStart event = true → (lives h).count true = 0)
    (hrequest : ∀ request, event = .request request → Settled h.trace) : Sound later := by
  obtain ⟨hpaced, hstarts, hexits⟩ := hsound
  refine ⟨?_, ?_, ?_⟩
  · rw [htrace]
    refine hpaced.concat (fun hlaunch => ?_) hrequest
    have := hstart hlaunch
    omega
  · rw [htrace, starts_concat, hlength, hstarts]
  · rw [htrace, exits_concat, hlength]
    omega

theorem Quiet.trans (hl : Quiet h later) (hr : Quiet later last) : Quiet h last where
  trace_prefix := hl.trace_prefix.trans hr.trace_prefix
  length_eq := hr.length_eq.trans hl.length_eq
  requests_eq := hr.requests_eq.trans hl.requests_eq
  replies_eq := hr.replies_eq.trans hl.replies_eq
  isAlive_of id halive := hl.isAlive_of id (hr.isAlive_of id halive)
  settled hsettled := hr.settled (hl.settled hsettled)
  calm hcalm := hr.calm (hl.calm hcalm)
  sound hsound := hr.sound (hl.sound hsound)

theorem Started.trans (hl : Started h later) (hr : Quiet later last) : Started h last where
  trace_prefix := hl.trace_prefix.trans hr.trace_prefix
  length_eq := hr.length_eq.trans hl.length_eq
  requests_eq := hr.requests_eq.trans hl.requests_eq
  replies_eq := hr.replies_eq.trans hl.replies_eq
  isAlive_of id halive := hl.isAlive_of id (hr.isAlive_of id halive)
  calm hcalm := hr.calm (hl.calm hcalm)
  sound hnone hsound := hr.sound (hl.sound hnone hsound)

/-- An event and what is taken from the scripts keep a host calm, unless they are an error. -/
theorem Calm.concat (hcalm : Calm h) (htrace : later.trace = h.trace ++ [event])
    (hpings : later.pings ⊆ h.pings)
    (hraised : ∀ reason, event = .ping (.raised reason) → .raised reason ∈ h.pings) :
    Calm later := by
  refine ⟨fun reason hmem => ?_, fun reason hmem => hcalm.ahead reason (hpings hmem)⟩
  rw [htrace] at hmem
  rcases List.mem_append.1 hmem with hbefore | hlast
  · exact hcalm.noneRaised reason hbefore
  · exact hcalm.ahead reason (hraised reason (List.mem_singleton.1 hlast).symm)

theorem Quiet.of_eq (htrace : later.trace = h.trace) (hlives : lives later = lives h)
    (hreplies : later.replies = h.replies) (hpings : later.pings = h.pings) : Quiet h later where
  trace_prefix := htrace ▸ List.prefix_rfl
  length_eq := by rw [hlives]
  requests_eq := by rw [htrace]
  replies_eq := hreplies
  isAlive_of id halive := by rwa [isAlive_eq, hlives, ← isAlive_eq] at halive
  settled hsettled := by rwa [htrace]
  calm hcalm := ⟨by rw [htrace]; exact hcalm.noneRaised, by rw [hpings]; exact hcalm.ahead⟩
  sound hsound := by
    obtain ⟨hpaced, hstarts, hexits⟩ := hsound
    exact ⟨by rwa [htrace], by rwa [htrace, hlives], by rwa [htrace, hlives]⟩

theorem Quiet.refl (h : Host) : Quiet h h := .of_eq rfl rfl rfl rfl

/-- An event that is no start, no exit and no request changes nothing of the history either. -/
theorem Quiet.of_event (htrace : later.trace = h.trace ++ [event]) (hlives : lives later = lives h)
    (hreplies : later.replies = h.replies) (hpings : later.pings ⊆ h.pings)
    (hstart : isStart event = false) (hexit : isExit event = false)
    (hrequest : request? event = none)
    (hraised : ∀ reason, event = .ping (.raised reason) → .raised reason ∈ h.pings) :
    Quiet h later where
  trace_prefix := by rw [htrace]; exact List.prefix_append _ _
  length_eq := by rw [hlives]
  requests_eq := by rw [htrace, requests_concat, hrequest, Option.toList_none, List.append_nil]
  replies_eq := hreplies
  isAlive_of id halive := by rwa [isAlive_eq, hlives, ← isAlive_eq] at halive
  settled hsettled := by rw [htrace]; exact hsettled.concat hstart
  calm hcalm := hcalm.concat htrace hpings hraised
  sound hsound := by
    refine hsound.concat htrace ?_ ?_ ?_ ?_
    · rw [hlives, hstart]
      rfl
    · rw [hlives, hstart, hexit]
    · intro h
      rw [hstart] at h
      cases h
    · rintro request rfl
      cases hrequest

theorem quiet_record (h : Host) (hstart : isStart event = false) (hexit : isExit event = false)
    (hrequest : request? event = none) (hping : ∀ pong, event ≠ .ping pong) :
    Quiet h (h.record event) :=
  .of_event rfl rfl rfl (List.Subset.refl _) hstart hexit hrequest fun _ heq => absurd heq (hping _)

theorem count_set_false {alive : List Bool} {id : Nat} (h : alive[id]?.getD false = true) :
    (alive.set id false).count true + 1 = alive.count true := by
  cases hlife : alive[id]? with
  | none => rw [hlife] at h; cases h
  | some life =>
    obtain rfl : life = true := by rwa [hlife] at h
    obtain ⟨hid, htrue⟩ := List.getElem?_eq_some_iff.1 hlife
    have hpos : 0 < alive.count true := List.count_pos_iff.2 (List.mem_of_getElem? hlife)
    rw [List.count_set hid, htrue]
    exact Nat.sub_add_cancel hpos

/-- An exit is that of a living process, or nothing happens. -/
theorem exit_cases (h : Host) (id : Nat) (code : Int) :
    (h.isAlive id = false ∧ h.exit id code = h) ∨
      h.isAlive id = true ∧ lives (h.exit id code) = (lives h).set id false ∧
        (h.exit id code).trace = h.trace ++ [.exited code] ∧
        (h.exit id code).replies = h.replies ∧ (h.exit id code).pings = h.pings := by
  unfold Host.exit Host.isAlive
  cases hprocess : h.processes[id]? with
  | none => exact .inl ⟨rfl, rfl⟩
  | some process =>
    cases halive : process.isAlive with
    | true =>
      dsimp only
      rw [if_pos halive]
      exact .inr ⟨halive, List.map_set, rfl, rfl, rfl⟩
    | false => exact .inl ⟨halive, if_neg (by rw [halive]; exact Bool.false_ne_true)⟩

theorem countP_exit {counts : HostEvent → Bool} (hexit : ∀ code, counts (.exited code) = false)
    (h : Host) (id : Nat) (code : Int) :
    (h.exit id code).trace.countP counts = h.trace.countP counts := by
  rcases exit_cases h id code with ⟨-, hsame⟩ | ⟨-, -, htrace, -⟩
  · rw [hsame]
  · rw [htrace, countP_concat, hexit]
    rfl

theorem countP_pass {counts : HostEvent → Bool} (hexit : ∀ code, counts (.exited code) = false)
    (h : Host) : h.pass.trace.countP counts = h.trace.countP counts := by
  unfold Host.pass
  split
  · rfl
  · rfl
  · exact countP_exit hexit _ _ _

theorem countP_countPing {counts : HostEvent → Bool}
    (hexit : ∀ code, counts (.exited code) = false) (h : Host) (id : Nat) :
    (h.countPing id).trace.countP counts = h.trace.countP counts := by
  unfold Host.countPing
  split
  · dsimp only
    split
    · split
      · exact countP_exit hexit _ _ _
      · rfl
    · rfl
  · rfl

theorem countP_ping {counts : HostEvent → Bool} (hexit : ∀ code, counts (.exited code) = false)
    (h : Host) (id : Nat) : (h.ping id).2.trace.countP counts =
      h.trace.countP counts + (counts (.ping (h.pings.headD (.heard false)))).toNat :=
  (countP_pass hexit _).trans ((countP_countPing hexit _ id).trans countP_concat)

theorem countP_sleep {counts : HostEvent → Bool} (hexit : ∀ code, counts (.exited code) = false)
    (h : Host) : h.sleep.trace.countP counts = h.trace.countP counts + (counts .sleep).toNat :=
  (countP_pass hexit _).trans countP_concat

theorem quiet_exit (h : Host) (id : Nat) (code : Int) : Quiet h (h.exit id code) := by
  rcases exit_cases h id code with ⟨-, hsame⟩ | ⟨halive, hlives, htrace, hreplies, hpings⟩
  · rw [hsame]
    exact .refl h
  · refine ⟨?_, ?_, ?_, hreplies, fun _ => Host.isAlive_of_isAlive_exit, ?_, ?_, ?_⟩
    · rw [htrace]
      exact List.prefix_append _ _
    · rw [hlives, List.length_set]
    · rw [htrace, requests_concat]
      exact List.append_nil _
    · intro hsettled
      rw [htrace]
      exact hsettled.concat rfl
    · exact fun hcalm => hcalm.concat htrace (fun _ hmem => hpings ▸ hmem) nofun
    · intro hsound
      have hcount : (lives (h.exit id code)).count true + 1 = (lives h).count true := by
        rw [hlives]
        exact count_set_false (by rwa [← isAlive_eq])
      refine hsound.concat htrace ?_ hcount (fun h => nomatch h) fun _ h => nomatch h
      rw [hlives, List.length_set]
      rfl

theorem isAlive_exit_self (h : Host) (id : Nat) (code : Int) :
    (h.exit id code).isAlive id = false := by
  rcases exit_cases h id code with ⟨hdead, hsame⟩ | ⟨-, hlives, -, -⟩
  · rw [hsame, hdead]
  · rw [isAlive_eq, hlives, List.getElem?_set_self']
    cases (lives h)[id]? <;> rfl

theorem quiet_pass (h : Host) : Quiet h h.pass := by
  unfold Host.pass
  split
  · exact .refl h
  · exact .of_eq rfl rfl rfl rfl
  next code rest _ =>
    have htaken : Quiet h { h with endings := rest } := .of_eq rfl rfl rfl rfl
    exact htaken.trans (quiet_exit _ _ code)

theorem quiet_set {process : Process} (hid : id < h.processes.length)
    (hsame : process.isAlive = h.processes[id].isAlive) :
    Quiet h { h with processes := h.processes.set id process } := by
  refine .of_eq rfl ?_ rfl rfl
  have hlt : id < (lives h).length := by rwa [lives, List.length_map]
  calc
    _ = (lives h).set id process.isAlive := List.map_set
    _ = (lives h).set id (lives h)[id] := by rw [hsame]; simp only [lives, List.getElem_map]
    _ = lives h := List.set_getElem_self hlt

theorem quiet_countPing (h : Host) (id : Nat) : Quiet h (h.countPing id) := by
  unfold Host.countPing
  split
  next process hprocess =>
    obtain ⟨hid, rfl⟩ := List.getElem?_eq_some_iff.1 hprocess
    dsimp only
    split
    · split
      · refine Quiet.trans ?_ (quiet_exit _ _ _)
        exact quiet_set hid rfl
      · exact quiet_set hid rfl
    · exact quiet_set hid rfl
  next => exact .refl h

theorem raised_mem_pings {h : Host} {reason : String}
    (hraised : h.pings.headD (.heard false) = .raised reason) : .raised reason ∈ h.pings := by
  cases hscript : h.pings with
  | nil => rw [hscript] at hraised; cases hraised
  | cons pong rest =>
    rw [hscript] at hraised
    exact hraised ▸ List.mem_cons_self

theorem quiet_ping (h : Host) (id : Nat) : Quiet h (h.ping id).2 :=
  have hasked : Quiet h (Host.record { h with pings := h.pings.tail }
      (.ping (h.pings.headD (.heard false)))) :=
    .of_event rfl rfl rfl (List.tail_sublist _).subset rfl rfl rfl fun _ heq =>
      raised_mem_pings (HostEvent.ping.inj heq)
  (hasked.trans (quiet_countPing _ id)).trans (quiet_pass _)

theorem quiet_readClock (h : Host) : Quiet h h.readClock.2 := .of_eq rfl rfl rfl rfl

theorem quiet_sleep (h : Host) : Quiet h h.sleep :=
  have hslept : Quiet h (Host.record { h with clock := h.clock + Host.sleepTime } .sleep) :=
    .of_event rfl rfl rfl (List.Subset.refl _) rfl rfl rfl nofun
  hslept.trans (quiet_pass _)

theorem quiet_terminate (h : Host) (id : Nat) : Quiet h (h.terminate id) := by
  have hasked : Quiet h (h.record .terminate) := quiet_record h rfl rfl rfl nofun
  unfold Host.terminate
  dsimp only
  split
  · exact hasked
  · exact hasked.trans (quiet_exit _ _ _)

theorem quiet_wait (h : Host) (id : Nat) : Quiet h (h.wait id).2 :=
  have hwaited : Quiet h (h.record .wait) := quiet_record h rfl rfl rfl nofun
  hwaited.trans (quiet_pass _)

theorem quiet_kill (h : Host) (id : Nat) : Quiet h (h.kill id) :=
  have hasked : Quiet h (h.record .kill) := quiet_record h rfl rfl rfl nofun
  hasked.trans (quiet_exit _ _ _)

/-- A ping settles the wait for the process that was started last, unless it fails. -/
theorem settled_ping (hsound : Sound h) (hstarted : 0 < (lives h).length)
    (hpong : (h.ping id).1 ≠ .heard false) : Settled (h.ping id).2.trace := by
  have hasked : Settled (h.trace ++ [.ping (h.pings.headD (.heard false))]) :=
    settled_concat_ping (by rwa [hsound.starts_eq]) hpong
  have hquiet : Quiet (Host.record { h with pings := h.pings.tail }
      (.ping (h.pings.headD (.heard false)))) (h.ping id).2 :=
    (quiet_countPing _ id).trans (quiet_pass _)
  exact hquiet.settled hasked

theorem started_of_event {command : List String}
    (htrace : later.trace = h.trace ++ [.launch command true])
    (hlives : lives later = lives h ++ [true]) (hreplies : later.replies = h.replies)
    (hpings : later.pings = h.pings) : Started h later where
  trace_prefix := by rw [htrace]; exact List.prefix_append _ _
  length_eq := by rw [hlives, List.length_append, List.length_singleton]
  requests_eq := by rw [htrace, requests_concat]; exact List.append_nil _
  replies_eq := hreplies
  isAlive_of id halive := by
    rw [isAlive_eq, hlives] at halive
    rcases Nat.lt_trichotomy id (lives h).length with hlt | heq | hgt
    · rw [List.getElem?_append_left hlt, ← isAlive_eq] at halive
      exact .inr halive
    · exact .inl heq
    · rw [List.getElem?_eq_none (by rw [List.length_append, List.length_singleton]; omega)] at halive
      cases halive
  calm hcalm := hcalm.concat htrace (fun _ hmem => hpings ▸ hmem) nofun
  sound hnone hsound := by
    refine hsound.concat htrace ?_ ?_ (fun _ => count_lives_eq_zero hnone) fun _ h => nomatch h
    · rw [hlives, List.length_append]
      rfl
    · rw [hlives, List.count_append]
      rfl

/-- A program is refused, or it runs in a new process. -/
theorem launch_cases (h : Host) (command : List String) :
    (∃ reason, h.launches.headD Host.plainLaunch = .refused reason ∧
      (h.launch command).1 = .error reason ∧
      (h.launch command).2.trace = h.trace ++ [.launch command false] ∧
      Quiet h (h.launch command).2) ∨
    ((h.launch command).1 = .ok (lives h).length ∧
      h.trace ++ [.launch command true] <+: (h.launch command).2.trace ∧
      stops (h.launch command).2.trace = stops h.trace ∧ Started h (h.launch command).2) := by
  unfold Host.launch
  dsimp only
  split
  next reason hscript =>
    exact .inl ⟨reason, hscript, rfl, rfl,
      .of_event rfl rfl rfl (List.Subset.refl _) rfl rfl rfl nofun⟩
  next life _ =>
    have hpassed := quiet_pass (Host.record { h with
      launches := h.launches.tail
      processes := h.processes ++ [⟨life, 0, none⟩] } (.launch command true))
    refine .inr ⟨by rw [lives, List.length_map], hpassed.trace_prefix,
      (countP_pass (fun _ => rfl) _).trans countP_concat, Started.trans ?_ hpassed⟩
    exact started_of_event rfl (by simp [lives, Host.record, Process.isAlive]) rfl rfl

theorem requested_exchange (hsettled : Settled h.trace) (request : Request) :
    Requested h request (h.exchange request).2 := by
  have hpass : Quiet (Host.record { h with replies := h.replies.tail } (.request request))
      (h.exchange request).2 := quiet_pass _
  refine ⟨hpass.trace_prefix, hpass.length_eq, ?_, hpass.isAlive_of,
    hpass.settled (hsettled.concat rfl), fun hcalm => hpass.calm ?_, fun hsound => hpass.sound ?_⟩
  · rw [hpass.requests_eq]
    exact requests_concat
  · exact hcalm.concat rfl (List.Subset.refl _) nofun
  · exact hsound.concat rfl rfl rfl (fun h => nomatch h) fun _ _ => hsettled

end

end ProseTrace.Proofs.Checker.HostWatch
