/-
  ClusterSession: the phases of a session task.

  A task is always in one of ten phases.  The phase says which flags are set, who
  waits, which timers are set, how far the session has come, and which requests
  have no outcome yet.

  * `Phase.Fits`: the task and the state look like the phase.
  * `Phase.Owes`: the requests without an outcome are those of the phase.
  * `Phase.Leads`: the steps from phase to phase, each with the outcome that is
    taken in and the requests that are sent.
  * `handle_next`: whatever the input, the task makes one of these steps.
-/
import ClusterSession.Proofs.Session.Turns

namespace ClusterSession

/-! ## Standing -/

namespace SessionState

/-- Whether the session has ended, once there is one. -/
def standing (s : SessionState) : Option Bool := s.status.map SessionStatus.isTerminal

variable {s : SessionState}

theorem isEnded_iff : s.isEnded = true ↔ s.standing = some true := by
  unfold isEnded standing
  cases s.status <;> simp

theorem isLive_iff : s.isLive = true ↔ s.standing = some false := by
  unfold isLive standing
  rcases s.status with _ | (_ | _ | _ | _) <;> simp [SessionStatus.isTerminal]

theorem standing_eq_none : s.standing = none ↔ s.status = none := Option.map_eq_none_iff

@[simp] theorem moveTo_sessionId (s : SessionState) (next : SessionStatus) :
    (s.moveTo next).2.sessionId = s.sessionId := by
  unfold moveTo; split <;> rfl

/-- A session that is live can move anywhere. -/
theorem moveTo_standing_of_live (h : s.standing = some false) (next : SessionStatus) :
    (s.moveTo next).2.standing = some next.isTerminal := by
  unfold standing at h
  obtain ⟨current, hs, hc⟩ := Option.map_eq_some_iff.1 h
  unfold moveTo standing
  cases current <;> cases next <;>
    simp_all [SessionStatus.mayFollow, SessionStatus.canBecome, SessionStatus.isTerminal]

/-- A session that is not there yet can be opened or closed. -/
theorem moveTo_standing_of_unset (h : s.standing = none) {next : SessionStatus}
    (hn : next = .opened ∨ next = .closed) :
    (s.moveTo next).2.standing = some next.isTerminal := by
  unfold moveTo
  rw [standing_eq_none.1 h]
  rcases hn with rfl | rfl <;> rfl

@[simp] theorem assign_standing (s : SessionState) (id : UInt64) :
    (s.assign id).2.standing = s.standing := by
  rw [assign_eq]
  rfl

@[simp] theorem assign_sessionId_isSome (s : SessionState) (id : UInt64) :
    (s.assign id).2.sessionId.isSome = true := by
  rw [assign_eq]
  cases s.sessionId <;> rfl

end SessionState

/-! ## Phases -/

/-- What shows of a task: its flags, whether anybody waits, and whether timers are set. -/
structure Look where
  registering : Bool := false
  closing : Bool := false
  openWaiters : Bool := false
  closeWaiters : Bool := false
  keepAliveTimer : Bool := false
  unregisterTimer : Bool := false
  registerTimer : Bool := false
deriving DecidableEq, Repr

/-- What shows of a task. -/
def Session.look (s : Session) : Look :=
  { registering := s.registering
    closing := s.closing
    openWaiters := !s.openWaiters.isEmpty
    closeWaiters := !s.closeWaiters.isEmpty
    keepAliveTimer := s.keepAliveTimer.isSome
    unregisterTimer := s.unregisterTimer.isSome
    registerTimer := s.registerTimer.isSome }

theorem Session.look_eq_iff {s : Session} {l : Look} :
    s.look = l ↔
      s.registering = l.registering ∧ s.closing = l.closing ∧
      (s.openWaiters = [] ↔ l.openWaiters = false) ∧
      (s.closeWaiters = [] ↔ l.closeWaiters = false) ∧
      (s.keepAliveTimer = none ↔ l.keepAliveTimer = false) ∧
      (s.unregisterTimer = none ↔ l.unregisterTimer = false) ∧
      (s.registerTimer = none ↔ l.registerTimer = false) := by
  have hw (ws : List Waiter) (b : Bool) : (!ws.isEmpty) = b ↔ (ws = [] ↔ b = false) := by
    cases ws <;> cases b <;> simp
  have ht (id : Option Nat) (b : Bool) : id.isSome = b ↔ (id = none ↔ b = false) := by
    cases id <;> cases b <;> simp
  simp only [← hw, ← ht]
  exact Look.mk.injEq .. ▸ Iff.rfl

/-- How far a task has come. -/
inductive Phase where
  /-- There is no session, and nobody wants one. -/
  | idle
  /-- A request to register is on its way. -/
  | registering
  /-- The next attempt to register is due later. -/
  | retrying
  /-- The end has been asked for while a request to register is on its way. -/
  | leaving
  /-- The next heartbeat is due later. -/
  | resting
  /-- A heartbeat is on its way. -/
  | beating
  /-- The cluster has forgotten the session. -/
  | expired
  /-- A request to end the session is on its way. -/
  | unregistering
  /-- The next attempt to end the session is due later. -/
  | pausing
  /-- The end that was asked for has come. -/
  | finished
deriving DecidableEq, Repr

namespace Phase

/-- What shows of a task in a phase. -/
def look : Phase → Look
  | idle | beating | expired => {}
  | registering => { registering := true, openWaiters := true }
  | retrying => { openWaiters := true, registerTimer := true }
  | leaving => { registering := true, closing := true, closeWaiters := true }
  | resting => { keepAliveTimer := true }
  | unregistering => { closing := true, closeWaiters := true }
  | pausing => { closing := true, closeWaiters := true, unregisterTimer := true }
  | finished => { closing := true }

/-- Whether the session has ended in a phase, once there is one. -/
def standing : Phase → Option Bool
  | idle | registering | retrying | leaving => none
  | resting | beating | unregistering | pausing => some false
  | expired | finished => some true

/-- Number of requests of a call that belong to a phase. -/
def calls : Phase → Method → Nat
  | registering, .register | leaving, .register => 1
  | beating, .keepAlive => 1
  | unregistering, .unregister => 1
  | _, _ => 0

/-- Number of requests of a call that may be left over from an earlier phase: after the end has
    been asked for, a heartbeat may still be on its way. -/
def late : Phase → Method → Nat
  | unregistering, .keepAlive | pausing, .keepAlive | finished, .keepAlive => 1
  | _, _ => 0

theorem eq_resting {p : Phase} (h : p.look.keepAliveTimer = true) : p = resting := by
  cases p <;> first | rfl | cases h

theorem eq_pausing {p : Phase} (h : p.look.unregisterTimer = true) : p = pausing := by
  cases p <;> first | rfl | cases h

theorem eq_retrying {p : Phase} (h : p.look.registerTimer = true) : p = retrying := by
  cases p <;> first | rfl | cases h

/-- The task and the state look like the phase. -/
structure Fits (p : Phase) (session : Session) (state : SessionState) : Prop where
  look : session.look = p.look
  standing : state.standing = p.standing
  /-- A session that is not there yet has no number. -/
  unnumbered : p.standing = none → state.sessionId = none
  /-- A live session has a number. -/
  numbered : p.standing = some false → state.sessionId.isSome = true

/-- The calls without an outcome are those of the phase, and perhaps some that are left over. -/
def Owes (p : Phase) (calls : List Method) : Prop :=
  ∀ m, p.calls m ≤ calls.count m ∧ calls.count m ≤ p.calls m + p.late m

/-- The steps from phase to phase, with the call whose outcome is taken in and the calls that
    are made. -/
inductive Leads : Phase → Option Method → List Method → Phase → Prop
  | stay {p} : Leads p none [] p
  /-- An outcome that comes late is ignored. -/
  | ignore {p m} : p.late m = 1 → Leads p (some m) [] p
  -- registration
  | start : Leads idle none [.register] registering
  | retryNow : Leads registering (some .register) [.register] registering
  | retryLater : Leads registering (some .register) [] retrying
  | retry : Leads retrying none [.register] registering
  | giveUp : Leads registering (some .register) [] idle
  | opened : Leads registering (some .register) [] resting
  -- heartbeats
  | beat : Leads resting none [.keepAlive] beating
  | beatAgain : Leads beating (some .keepAlive) [.keepAlive] beating
  | rest : Leads beating (some .keepAlive) [] resting
  | expire : Leads beating (some .keepAlive) [] expired
  -- the end
  | quit : Leads idle none [] finished
  | quitRetrying : Leads retrying none [] finished
  | leave : Leads registering none [] leaving
  | refused : Leads leaving (some .register) [] finished
  | part : Leads resting none [.unregister] unregistering
  | partBeating : Leads beating none [.unregister] unregistering
  | partLeaving : Leads leaving (some .register) [.unregister] unregistering
  | partAgain : Leads unregistering (some .unregister) [.unregister] unregistering
  | pause : Leads unregistering (some .unregister) [] pausing
  | resume : Leads pausing none [.unregister] unregistering
  | finish : Leads unregistering (some .unregister) [] finished

namespace Leads
variable {p q : Phase} {got : Option Method} {ms calls : List Method}

/-- **A step takes the calls of one phase to those of the other.** -/
theorem owes (h : Leads p got ms q) (hp : p.Owes (got.toList ++ calls)) :
    q.Owes (calls ++ ms) := by
  intro m
  have hm := hp m
  cases h with
  | stay => simpa using hm
  | @ignore _ m' hl =>
    have hz : p.calls m' = 0 := by
      cases p <;> cases m' <;> first | rfl | cases hl
    by_cases he : m' = m
    · subst he
      simp only [Option.toList_some, List.singleton_append, List.count_cons_self] at hm
      simp only [List.append_nil]
      omega
    · simpa [List.count_cons, he] using hm
  | _ => cases m <;> simp [Phase.calls, late] at hm ⊢ <;> omega

/-- The end that has been asked for stays asked for. -/
theorem closing (h : Leads p got ms q) (hp : p.look.closing = true) : q.look.closing = true := by
  cases h <;> first | exact hp | rfl

/-- An attempt to end the session has an outcome only after the end has been asked for. -/
theorem closing_of_unregister (h : Leads p (some .unregister) ms q) : p.look.closing = true := by
  cases h with
  | ignore hl => cases p <;> cases hl
  | _ => rfl

/-- An attempt to end the session is made only after its end has been asked for. -/
theorem closing_of_calls (h : Leads p got ms q) (hm : .unregister ∈ ms) : q.look.closing = true := by
  cases h <;> first | rfl | simp at hm

/-- **Once the end has been asked for, the task makes no call but the one that ends the
    session.** -/
theorem silent (h : Leads p got ms q) (hq : q.look.closing = true) :
    ∀ m ∈ ms, m = .unregister := by
  cases h <;> first | cases hq; done | simp

/-- **A session that has ended stays where it is, and the task makes no call.** -/
theorem ended (h : Leads p got ms q) (hp : p.standing = some true) : q = p ∧ ms = [] := by
  cases h <;> first | exact ⟨rfl, rfl⟩ | cases hp

end Leads

/-! ## What a phase tells -/

namespace Fits
variable {p : Phase} {session : Session} {state : SessionState}

theorem closing (h : p.Fits session state) : session.closing = p.look.closing :=
  congrArg Look.closing h.look

theorem openWaiters (h : p.Fits session state) :
    session.openWaiters ≠ [] ↔ p.look.openWaiters = true := by
  rw [← h.look]; simp [Session.look]

theorem closeWaiters (h : p.Fits session state) :
    session.closeWaiters ≠ [] ↔ p.look.closeWaiters = true := by
  rw [← h.look]; simp [Session.look]

theorem keepAliveTimer (h : p.Fits session state) :
    session.keepAliveTimer.isSome = p.look.keepAliveTimer :=
  congrArg Look.keepAliveTimer h.look

theorem unregisterTimer (h : p.Fits session state) :
    session.unregisterTimer.isSome = p.look.unregisterTimer :=
  congrArg Look.unregisterTimer h.look

theorem registerTimer (h : p.Fits session state) :
    session.registerTimer.isSome = p.look.registerTimer :=
  congrArg Look.registerTimer h.look

theorem isEnded (h : p.Fits session state) : state.isEnded = true ↔ p.standing = some true :=
  h.standing ▸ SessionState.isEnded_iff

theorem isLive (h : p.Fits session state) : state.isLive = true ↔ p.standing = some false :=
  h.standing ▸ SessionState.isLive_iff

/-- No timer is set once the session has ended. -/
theorem timer_of_ended (h : p.Fits session state) (hp : p.standing = some true) (slot : Slot) :
    session.timer slot = none := by
  have hl := Session.look_eq_iff.1 h.look
  cases p <;> first | cases hp; done | cases slot <;> simp [Session.timer, hl, Phase.look]

/-- Nobody waits once the session has ended. -/
theorem nobody_of_ended (h : p.Fits session state) (hp : p.standing = some true) :
    session.openWaiters = [] ∧ session.closeWaiters = [] := by
  have hl := Session.look_eq_iff.1 h.look
  cases p <;> first | cases hp; done | simp [hl, Phase.look]

/-- Fits that differ in what shows of the task alone. -/
theorem carry (h : p.Fits session state) {q : Phase} {session' : Session}
    (hl : session'.look = q.look) (hq : q.standing = p.standing) : q.Fits session' state :=
  ⟨hl, h.standing.trans hq.symm, fun hn => h.unnumbered (hq ▸ hn), fun hn => h.numbered (hq ▸ hn)⟩

theorem of_live {q : Phase} (hl : session.look = q.look) (hq : q.standing = some false)
    (hs : state.standing = some false) (hid : state.sessionId.isSome = true) :
    q.Fits session state :=
  ⟨hl, hs.trans hq.symm, fun hn => absurd (hq.symm.trans hn) nofun, fun _ => hid⟩

theorem of_ended {q : Phase} (hl : session.look = q.look) (hq : q.standing = some true)
    (hs : state.standing = some true) : q.Fits session state :=
  ⟨hl, hs.trans hq.symm, fun hn => absurd (hq.symm.trans hn) nofun,
    fun hn => absurd (hq.symm.trans hn) nofun⟩

end Fits

end Phase

namespace Turn

/-- The calls that the turn has made so far. -/
def calls (t : Turn) : List Method := t.errands.map Errand.method

variable {t : Turn}

theorem keepAlive_calls (h : t.state.sessionId.isSome = true) :
    t.keepAlive.calls = t.calls ++ [.keepAlive] := by
  obtain ⟨id, hid⟩ := Option.isSome_iff_exists.1 h
  simp only [calls, keepAlive_errands _ hid, List.map_append]
  rfl

theorem unregister_calls (h : t.state.sessionId.isSome = true) :
    t.unregister.calls = t.calls ++ [.unregister] := by
  obtain ⟨id, hid⟩ := Option.isSome_iff_exists.1 h
  simp only [calls, unregister_errands _ hid, List.map_append]
  rfl

theorem register_calls (attempt : UInt32) :
    (t.register attempt).calls = t.calls ++ [.register] := by
  simp only [calls, register_errands, List.map_append]
  rfl

end Turn

/-- The task goes from turn `t` to turn `t'` as the phases lead. -/
def Phase.Next (p : Phase) (got : Option Method) (t t' : Turn) : Prop :=
  ∃ ms q, p.Leads got ms q ∧ q.Fits t'.session t'.state ∧ t'.calls = t.calls ++ ms

namespace Turn

open Phase

section
variable {p : Phase} {t : Turn}

/-! ## Commands -/

/-- The task stays in its phase if nothing shows. -/
theorem next_stay (h : p.Fits t.session t.state) {t' : Turn}
    (hl : t'.session.look = t.session.look) (hs : t'.state = t.state)
    (he : t'.errands = t.errands) : p.Next none t t' :=
  ⟨[], p, .stay, hs ▸ h.carry (hl.trans h.look) rfl, by simp [calls, he]⟩

theorem next_resolve (h : p.Fits t.session t.state) (w : Waiter)
    (result : Except SessionError Unit) : p.Next none t (t.resolve w result) :=
  next_stay h rfl rfl (by simp [resolve, Action.errand?])

theorem onOpen_next (h : p.Fits t.session t.state) (w : Waiter) : p.Next none t (t.onOpen w) := by
  unfold onOpen
  split
  · exact next_resolve h _ _
  · exact next_resolve h _ _
  · exact next_resolve h _ _
  · exact next_resolve h _ _
  · next hs =>
    have hp : p.standing = none := h.standing ▸ SessionState.standing_eq_none.2 hs
    have hl := Session.look_eq_iff.1 h.look
    dsimp only
    cases p with
    | leaving =>
      rw [if_pos (by simp [hl, Phase.look])]
      exact next_resolve h _ _
    | idle =>
      rw [if_neg (by simp [hl, Phase.look]), if_pos (by simp [hl, Phase.look])]
      refine ⟨_, _, .start, h.carry ?_ rfl, register_calls 1⟩
      simp [Session.look_eq_iff, hl, Phase.look]
    | registering | retrying =>
      rw [if_neg (by simp [hl, Phase.look]), if_neg (by simp [hl, Phase.look])]
      refine next_stay h ?_ rfl rfl
      simp [h.look, Session.look_eq_iff, hl, Phase.look]
    | _ => cases hp

theorem onClose_next (h : p.Fits t.session t.state) (w : Waiter) : p.Next none t (t.onClose w) := by
  have hl := Session.look_eq_iff.1 h.look
  have hended := h.isEnded
  unfold onClose
  dsimp only
  cases p with
  | expired | finished =>
    rw [if_pos (hended.2 rfl)]
    exact next_resolve h _ _
  | leaving | unregistering | pausing =>
    rw [if_neg (by rw [hended]; decide), if_pos (by simp [hl, Phase.look])]
    refine next_stay h ?_ rfl rfl
    simp [h.look, Session.look_eq_iff, hl, Phase.look]
  | resting | beating =>
    have hid := h.numbered rfl
    have hs : t.state.standing = some false := h.standing
    rw [if_neg (by rw [hended]; decide), if_neg (by simp [hl, Phase.look]), if_pos (by simpa)]
    refine ⟨[.unregister], .unregistering, by constructor, .of_live ?_ rfl ?_ ?_, ?_⟩
    · simp [Session.look_eq_iff, hl, Phase.look, Session.setTimer]
    · simpa using hs
    · simpa using hid
    · rw [unregister_calls (by simpa)]; simp [calls]
  | registering =>
    have hid := h.unnumbered rfl
    rw [if_neg (by rw [hended]; decide), if_neg (by simp [hl, Phase.look]),
      if_neg (by simp [hid]), if_pos (by simp [hl, Phase.look, Session.setTimer])]
    refine ⟨[], .leaving, .leave, ?_, by simp [calls]⟩
    simp only [failOpen_state, cancel_state, update_state]
    refine h.carry ?_ rfl
    simp [Session.look_eq_iff, hl, Phase.look, Session.setTimer]
  | idle | retrying =>
    have hid := h.unnumbered rfl
    rw [if_neg (by rw [hended]; decide), if_neg (by simp [hl, Phase.look]),
      if_neg (by simp [hid]), if_neg (by simp [hl, Phase.look, Session.setTimer])]
    refine ⟨[], .finished, by constructor, .of_ended ?_ rfl ?_, by simp [calls]⟩
    · simp [Session.look_eq_iff, hl, Phase.look, Session.setTimer]
    · simp only [completeClose_state, become_state, cancel_state, failOpen_state, update_state]
      exact SessionState.moveTo_standing_of_unset h.standing (.inr rfl)

/-! ## Outcomes of attempts to register -/

section
variable (hp : p = .registering ∨ p = .leaving) (h : p.Fits t.session t.state)
include hp h

theorem onAccepted_next (r : RegisterResponse) :
    p.Next (some .register) t ((t.update fun s => { s with registering := false }).onAccepted r) := by
  have hl := Session.look_eq_iff.1 h.look
  have hs : t.state.standing = none := h.standing.trans (by rcases hp with rfl | rfl <;> rfl)
  obtain ⟨interval, hi⟩ := (t.update fun s => { s with registering := false }).accept_session r
  have hlive : ((t.state.assign r.session).2.moveTo .opened).2.standing = some false :=
    SessionState.moveTo_standing_of_unset ((t.state.assign_standing r.session).trans hs) (.inl rfl)
  unfold onAccepted
  dsimp only
  rcases hp with rfl | rfl
  · rw [if_neg (by simp [hi, hl, Phase.look])]
    refine ⟨[], .resting, .opened, .of_live ?_ rfl ?_ ?_, ?_⟩
    · simp [scheduleKeepAlive, Session.look_eq_iff, hi, hl, Phase.look, Session.setTimer]
    · simpa [scheduleKeepAlive] using hlive
    · simp [scheduleKeepAlive]
    · simp [scheduleKeepAlive, calls]
  · rw [if_pos (by simp [hi, hl, Phase.look])]
    refine ⟨[.unregister], .unregistering, .partLeaving, .of_live ?_ rfl ?_ ?_, ?_⟩
    · simp [Session.look_eq_iff, hi, hl, Phase.look, Session.setTimer]
    · simpa using hlive
    · simp
    · rw [unregister_calls (by simp)]; simp [calls]

theorem onRefused_next (strategy : Strategy) (a : Attempt) :
    p.Next (some .register) t
      ((t.update fun s => { s with registering := false }).onRefused strategy a) := by
  have hl := Session.look_eq_iff.1 h.look
  unfold onRefused
  rcases hp with rfl | rfl
  · rw [if_neg (by simp [hl, Phase.look])]
    dsimp only [consult]
    split
    · refine ⟨[.register], .registering, .retryNow, ?_, ?_⟩
      · refine h.carry ?_ rfl
        simp [Session.look_eq_iff, hl, Phase.look]
      · rw [register_calls]; simp [calls, Action.errand?]
    · refine ⟨[], .retrying, .retryLater, ?_, by simp [calls, Action.errand?]⟩
      simp only [schedule_state, act_state, update_state]
      refine h.carry ?_ rfl
      simp [Session.look_eq_iff, hl, Phase.look, Session.setTimer]
    · refine ⟨[], .idle, .giveUp, ?_, by simp [calls, Action.errand?]⟩
      simp only [failOpen_state, act_state, update_state]
      refine h.carry ?_ rfl
      simp [Session.look_eq_iff, hl, Phase.look]
  · rw [if_pos (by simp [hl, Phase.look])]
    refine ⟨[], .finished, .refused, .of_ended ?_ rfl ?_, by simp [calls]⟩
    · simp [Session.look_eq_iff, hl, Phase.look]
    · simp only [completeClose_state, become_state, update_state]
      exact SessionState.moveTo_standing_of_unset h.standing (.inr rfl)

theorem onRegistered_next (strategy : Strategy) (attempt : UInt32)
    (result : Except ConnectionError RegisterResponse) :
    p.Next (some .register) t (t.onRegistered strategy attempt result) := by
  unfold onRegistered
  dsimp only
  split
  · exact onAccepted_next hp h _
  · exact onRefused_next hp h _ _

end

/-! ## Outcomes of heartbeats -/

/-- The next heartbeat is due later. -/
theorem scheduleKeepAlive_fits (hl : t.session.look = beating.look)
    (hs : t.state.standing = some false) (hid : t.state.sessionId.isSome = true) :
    resting.Fits t.scheduleKeepAlive.session t.scheduleKeepAlive.state := by
  have hl := Session.look_eq_iff.1 hl
  refine .of_live ?_ rfl ?_ ?_
  · simp [scheduleKeepAlive, Session.look_eq_iff, hl, Phase.look, Session.setTimer]
  · simpa [scheduleKeepAlive] using hs
  · simpa [scheduleKeepAlive] using hid

theorem onHeartbeatFailed_next (h : beating.Fits t.session t.state) :
    beating.Next (some .keepAlive) t t.onHeartbeatFailed := by
  have hid := h.numbered rfl
  unfold onHeartbeatFailed
  split
  · refine ⟨[.keepAlive], .beating, .beatAgain, ?_, ?_⟩
    · simpa using h
    · rw [keepAlive_calls (by simpa)]; simp [calls]
  · refine ⟨[], .resting, .rest, scheduleKeepAlive_fits h.look ?_ (by simpa), ?_⟩
    · exact SessionState.moveTo_standing_of_live h.standing _
    · simp [scheduleKeepAlive, calls]

theorem onKeptAlive_next (h : p.Fits t.session t.state) (hp : p = .beating ∨ p.late .keepAlive = 1)
    (result : Except ConnectionError KeepAliveResponse) :
    p.Next (some .keepAlive) t (t.onKeptAlive result) := by
  unfold onKeptAlive
  rcases hp with rfl | hlate
  · have hlive : t.state.isLive = true := h.isLive.2 rfl
    have hid := h.numbered rfl
    rw [if_neg (by simp [h.closing, hlive, Phase.look])]
    split
    · refine ⟨[], .resting, .rest, scheduleKeepAlive_fits h.look ?_ (by simpa), ?_⟩
      · exact SessionState.moveTo_standing_of_live h.standing _
      · simp [onRenewed, scheduleKeepAlive, calls]
    · refine ⟨[], .expired, .expire, .of_ended ?_ rfl ?_, by simp [calls]⟩
      · simp [Session.look_eq_iff, Session.look_eq_iff.1 h.look, Phase.look]
      · rw [cancelAll_state]
        exact SessionState.moveTo_standing_of_live h.standing _
    · exact onHeartbeatFailed_next h
  · have hc : p.look.closing = true := by
      cases p <;> first | rfl | cases hlate
    rw [if_pos (by simp [h.closing, hc])]
    exact ⟨[], p, .ignore hlate, h, by simp⟩

/-! ## Outcomes of the end -/

theorem finishClose_next (h : unregistering.Fits t.session t.state) {status : SessionStatus}
    (hs : status.isTerminal = true) :
    unregistering.Next (some .unregister) t (t.finishClose status) := by
  refine ⟨[], .finished, .finish, .of_ended ?_ rfl ?_, by simp [finishClose, calls]⟩
  · simp [finishClose, Session.look_eq_iff, Session.look_eq_iff.1 h.look, Phase.look]
  · simp only [finishClose, completeClose_state, cancelAll_state, become_state]
    rw [SessionState.moveTo_standing_of_live h.standing, hs]

theorem onUnregisterFailed_next (h : unregistering.Fits t.session t.state) :
    unregistering.Next (some .unregister) t t.onUnregisterFailed := by
  have hl := Session.look_eq_iff.1 h.look
  have hid := h.numbered rfl
  unfold onUnregisterFailed
  split
  · refine ⟨[.unregister], .unregistering, .partAgain, ?_, ?_⟩
    · rw [unregister_state]
      refine h.carry ?_ rfl
      simp [Session.look_eq_iff, hl, Phase.look, Session.setTimer]
    · rw [unregister_calls (by simpa)]; simp [calls]
  · refine ⟨[], .pausing, .pause, .of_live ?_ rfl ?_ (by simpa), by simp [calls]⟩
    · simp [Session.look_eq_iff, hl, Phase.look, Session.setTimer]
    · rw [schedule_state]
      exact SessionState.moveTo_standing_of_live h.standing _

theorem onUnregistered_next (h : unregistering.Fits t.session t.state)
    (result : Except ConnectionError UnregisterResponse) :
    unregistering.Next (some .unregister) t (t.onUnregistered result) := by
  unfold onUnregistered
  rw [if_neg (by rw [h.isEnded]; nofun)]
  split
  · exact finishClose_next h rfl
  · exact finishClose_next h rfl
  · exact onUnregisterFailed_next h

/-! ## Timers -/

theorem onTimer_next (h : p.Fits t.session t.state) (id : Nat) (purpose : Purpose) :
    p.Next none t (t.onTimer id purpose) := by
  have hl := Session.look_eq_iff.1 h.look
  unfold onTimer fired
  cases purpose with
  | keepAlive =>
    dsimp only
    split
    · next hid =>
      obtain rfl := eq_resting (h.keepAliveTimer ▸ Option.isSome_of_eq_some hid)
      have hn := h.numbered rfl
      rw [if_neg (by simp [hl, Phase.look, Session.setTimer])]
      refine ⟨[.keepAlive], .beating, .beat, ?_, keepAlive_calls hn⟩
      rw [keepAlive_session, keepAlive_state, update_state]
      refine h.carry ?_ rfl
      simp [Session.look_eq_iff, hl, Phase.look, Session.setTimer]
    · exact next_stay h rfl rfl rfl
  | unregister =>
    dsimp only
    split
    · next hid =>
      obtain rfl := eq_pausing (h.unregisterTimer ▸ Option.isSome_of_eq_some hid)
      have hn := h.numbered rfl
      refine ⟨[.unregister], .unregistering, .resume, ?_, unregister_calls hn⟩
      rw [unregister_state, update_state]
      refine h.carry ?_ rfl
      simp [Session.look_eq_iff, hl, Phase.look, Session.setTimer]
    · exact next_stay h rfl rfl rfl
  | register attempt =>
    dsimp only
    split
    · next hid =>
      obtain rfl := eq_retrying (h.registerTimer ▸ Option.isSome_of_eq_some hid)
      rw [if_neg (by simp [hl, Phase.look, Session.setTimer])]
      refine ⟨[.register], .registering, .retry, ?_, register_calls attempt⟩
      rw [register_state, update_state]
      refine h.carry ?_ rfl
      simp [Session.look_eq_iff, hl, Phase.look, Session.setTimer]
    · exact next_stay h rfl rfl rfl

/-! ## Any input -/

end

end Turn

/-- The call whose outcome an input is. -/
def Input.call? : Input → Option Method
  | command _ | event (.timer _ _) => none
  | event (.registered _ _) => some .register
  | event (.keptAlive _) => some .keepAlive
  | event (.unregistered _) => some .unregister

theorem Input.call?_outcome (e : Errand) (result : Except ConnectionError Response) :
    (Input.event (e.outcome result)).call? = some e.method := by
  cases e <;> rfl

namespace Turn

open Phase

/-- **Whatever the input, the task makes a step of the phases**, if an outcome is that of a call
    that the phase owes. -/
theorem handle_next {p : Phase} {t : Turn} (strategy : Strategy) {i : Input} {calls : List Method}
    (h : p.Fits t.session t.state) (ho : p.Owes (i.call?.toList ++ calls)) :
    p.Next i.call? t (t.handle strategy i) := by
  rcases i with (w | w) | (⟨id, purpose⟩ | ⟨attempt, result⟩ | result | result)
  · exact onOpen_next h w
  · exact onClose_next h w
  · exact onTimer_next h id purpose
  · have hm := (ho .register).2
    refine onRegistered_next ?_ h strategy attempt result
    cases p <;> first | exact .inl rfl | exact .inr rfl | simp [Input.call?, Phase.calls, late] at hm
  · have hm := (ho .keepAlive).2
    refine onKeptAlive_next h ?_ result
    cases p <;> first | exact .inl rfl | exact .inr rfl | simp [Input.call?, Phase.calls, late] at hm
  · have hm := (ho .unregister).2
    have hp : p = .unregistering := by
      cases p <;> first | rfl | simp [Input.call?, Phase.calls, late] at hm
    subst hp
    exact onUnregistered_next h result

/-- **Once the session has ended, the task changes nothing, and touches the selector no more.** -/
theorem handle_of_ended {p : Phase} {t : Turn} (strategy : Strategy) {i : Input}
    {calls : List Method} (h : p.Fits t.session t.state) (ho : p.Owes (i.call?.toList ++ calls))
    (hp : p.standing = some true) :
    (t.handle strategy i).state = t.state ∧ (t.handle strategy i).selector = t.selector := by
  have hended : t.state.isEnded = true := h.isEnded.2 hp
  have hnone : t.state.status ≠ none := fun hn =>
    absurd (h.standing.symm.trans (SessionState.standing_eq_none.2 hn)) (by rw [hp]; nofun)
  rcases i with (w | w) | (⟨id, purpose⟩ | ⟨attempt, result⟩ | result | result)
  · show (t.onOpen w).state = _ ∧ (t.onOpen w).selector = _
    unfold onOpen
    split
    · exact ⟨rfl, rfl⟩
    · exact ⟨rfl, rfl⟩
    · exact ⟨rfl, rfl⟩
    · exact ⟨rfl, rfl⟩
    · next hs => exact absurd hs hnone
  · show (t.onClose w).state = _ ∧ (t.onClose w).selector = _
    unfold onClose
    rw [if_pos hended]
    exact ⟨rfl, rfl⟩
  · show (t.onTimer id purpose).state = _ ∧ (t.onTimer id purpose).selector = _
    unfold onTimer fired
    cases purpose <;> dsimp only <;> rw [if_neg (by simp [h.timer_of_ended hp])] <;>
      exact ⟨rfl, rfl⟩
  · have hm := (ho .register).2
    cases p <;> first
      | cases hp; done
      | simp [Input.call?, Phase.calls, late] at hm
  · show (t.onKeptAlive result).state = _ ∧ (t.onKeptAlive result).selector = _
    have hdead : t.state.isLive = false := by
      rw [← Bool.not_eq_true, h.isLive, hp]; nofun
    unfold onKeptAlive
    rw [if_pos (by simp [hdead])]
    exact ⟨rfl, rfl⟩
  · show (t.onUnregistered result).state = _ ∧ (t.onUnregistered result).selector = _
    unfold onUnregistered
    rw [if_pos hended]
    exact ⟨rfl, rfl⟩

end Turn

end ClusterSession
