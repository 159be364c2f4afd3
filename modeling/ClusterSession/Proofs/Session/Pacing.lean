/-
  ClusterSession: heartbeats, and attempts to end the session, are paced.

  * `Clocked.Known`: what is known of a life with a clock and its annals.
  * `Dated.Punctual`: calls are made when they are due, and at no other time.
  * `Dated.Prompt`: calls that are due are made.
  * `heartbeats_paced`: so it is in every life, and the interval is half the timeout of the
    session.
-/
import ClusterSession.Proofs.Session.Identity
import ClusterSession.Proofs.Session.Rests

namespace ClusterSession

namespace Dated

/-- What a moment has to do with calls comes at its time, after `before`, in the life of a session
    that is registered by the answer `r`. -/
structure Punctual (strategy : Strategy) (r : RegisterResponse) (interval : Duration)
    (before : List Dated) (m : Dated) : Prop where
  /-- At most one request is made. -/
  single : (m.errands strategy).length ≤ 1
  /-- The first heartbeat comes one interval after the registration. -/
  firstBeat : m.Issues strategy .keepAlive → (∀ d ∈ before, ¬d.Issues strategy .keepAlive) →
    Lately (fun d => d.Accepts r ∧ m.time = d.time + interval.ticks)
      (·.Stirs strategy .keepAlive) before
  /-- Any other comes when one has failed, at that instant, if a leader was known; or one interval
      after one has renewed the session, or has failed while no leader was known. -/
  nextBeat : m.Issues strategy .keepAlive → (∃ d ∈ before, d.Issues strategy .keepAlive) →
    m.Fails .keepAlive ∧ m.life.selector.leader.isSome = true ∨
    Lately (fun d => (d.Grants .keepAlive ∨ d.Falters) ∧ m.time = d.time + interval.ticks)
      (·.Stirs strategy .keepAlive) before
  /-- The first attempt to end the session comes when its end is asked for while it is live, or when
      it is registered after its end has been asked for; and it does come then. -/
  firstPart : (m.Issues strategy .unregister ∧ ∀ d ∈ before, ¬d.Issues strategy .unregister) ↔
    (∃ w, m.Closes w) ∧ m.life.Beats ∨ m.Accepts r ∧ m.life.session.closing = true
  /-- Any other comes when one has failed, at that instant, if a leader was known, and one interval
      later, if not. -/
  nextPart : m.Issues strategy .unregister → (∃ d ∈ before, d.Issues strategy .unregister) →
    m.Fails .unregister ∧ m.life.selector.leader.isSome = true ∨
    Lately (fun d => (d.Fails .unregister ∧ d.life.selector.leader = none) ∧
      m.time = d.time + interval.ticks) (·.Stirs strategy .unregister) before

/-- What has become of a call since the task began to rest at `time`: first of all, it was made, and
    that one interval later; or it is a heartbeat, and before that, the end was asked for.  If
    nothing has become of it so far, the interval is not over, or it is a heartbeat, and the task,
    of which no handle is left, has stopped. -/
def Followed (strategy : Strategy) (interval : Duration) (c : Method) (time : Nat)
    (after : List Dated) (now : Clocked) : Prop :=
  (∃ quiet d rest, after = quiet ++ d :: rest ∧ (∀ x ∈ quiet, ¬x.Stirs strategy c) ∧
    (d.Issues strategy c ∧ d.time = time + interval.ticks ∨
      c = .keepAlive ∧ (∃ w, d.Closes w) ∧ d.time ≤ time + interval.ticks)) ∨
  (∀ x ∈ after, ¬x.Stirs strategy c) ∧
    (now.now ≤ time + interval.ticks ∨ c = .keepAlive ∧ now.life.stopped = true)

/-- What is due because of a moment has come of it, in what has followed until now. -/
structure Prompt (strategy : Strategy) (interval : Duration) (after : List Dated) (now : Clocked)
    (m : Dated) : Prop where
  /-- A heartbeat that has failed while a leader was known is made again at once, unless the end has
      been asked for. -/
  beatAgain : m.Fails .keepAlive → m.life.selector.leader.isSome = true →
    m.life.session.closing = false → m.Issues strategy .keepAlive
  /-- So is an attempt to end the session. -/
  partAgain : m.Fails .unregister → m.life.selector.leader.isSome = true →
    m.Issues strategy .unregister
  /-- When the task has begun to rest, the next call comes one interval later. -/
  rested : ∀ c, m.Rests c → Followed strategy interval c m.time after now

end Dated

namespace Clocked

/-- What is known of a life with a clock, and of its annals. -/
structure Known (strategy : Strategy) (c : Clocked) (p : Phase) (log : List Dated) : Prop where
  inPhase : c.life.InPhase p
  onTime : c.OnTime
  paced : ∀ purpose, purpose.Recurs → c.Paced strategy purpose log
  left : c.life.Left
  named : c.life.Named
  outstanding : ∀ x ∈ c.life.outstanding, x ∈ c.life.sent
  sent : c.life.sent.map Sent.errand = (log.map Dated.toMoment).flatMap (Moment.errands strategy)
  numbered : c.life.Numbered (log.map Dated.toMoment)
  metered : c.life.Metered (log.map Dated.toMoment)
  parted : c.life.Parted strategy (log.map Dated.toMoment)

section
variable (strategy : Strategy) (clientId : String) (selector : Selector) (ticks : List Tick)

theorem lived_known : ∃ p, (lived strategy clientId selector ticks).Known strategy p
    (annals strategy clientId selector ticks) := by
  obtain ⟨p, hp⟩ := lived_inPhase strategy clientId selector ticks
  obtain ⟨hs, hlife, hlog⟩ := annals_undated strategy clientId selector ticks
  refine ⟨p, ?_⟩
  constructor
  case inPhase => exact hp
  case onTime => exact lived_onTime ticks
  case paced => exact fun purpose hr => lived_paced hr ticks
  case left => exact hlife ▸ Life.lived_left strategy clientId selector hs
  case named => exact hlife ▸ Life.lived_named strategy clientId selector hs
  case outstanding => exact hlife ▸ Life.lived_outstanding strategy clientId selector hs
  case sent => exact hlife ▸ hlog ▸ Life.annals_sent strategy clientId selector hs
  case numbered => exact hlife ▸ hlog ▸ Life.annals_numbered
  case metered => exact hlife ▸ hlog ▸ Life.annals_metered hs
  case parted => exact hlife ▸ hlog ▸ Life.annals_parted hs

end

/-- What is known at a moment of the past. -/
theorem annals_known {strategy : Strategy} {clientId : String} {selector : Selector}
    {ticks : List Tick} {before after : List Dated} {m : Dated}
    (h : annals strategy clientId selector ticks = before ++ m :: after) :
    ∃ (c : Clocked) (p : Phase), c.Known strategy p before ∧ c.Next m := by
  obtain ⟨past, rfl, hm⟩ := annals_split h
  obtain ⟨p, hk⟩ := lived_known strategy clientId selector past
  exact ⟨_, p, hk, hm⟩

namespace Known

section
variable {strategy : Strategy} {c : Clocked} {p : Phase} {log : List Dated} {m : Dated}
variable {purpose : Purpose} {call : Method} {r : RegisterResponse}
variable (hk : c.Known strategy p log)
include hk

/-! ## Calls and their outcomes -/

/-- A call has been made just if there is a request of it. -/
theorem issued_iff : (∃ d ∈ log, d.Issues strategy call) ↔ ∃ x ∈ c.life.sent, x.method = call := by
  constructor
  · rintro ⟨d, hd, e, he, hcall⟩
    have hmem : e ∈ c.life.sent.map Sent.errand := by
      rw [hk.sent]
      exact List.mem_flatMap.2 ⟨d.toMoment, List.mem_map_of_mem hd, he⟩
    obtain ⟨x, hx, rfl⟩ := List.mem_map.1 hmem
    exact ⟨x, hx, hcall⟩
  · rintro ⟨x, hx, hcall⟩
    have hmem : x.errand ∈ c.life.sent.map Sent.errand := List.mem_map_of_mem hx
    rw [hk.sent] at hmem
    obtain ⟨m, hm, he⟩ := List.mem_flatMap.1 hmem
    obtain ⟨d, hd, rfl⟩ := List.mem_map.1 hm
    exact ⟨d, hd, x.errand, he, hcall⟩

/-- A call that has an outcome has been made. -/
theorem issued_of_concludes (hm : c.Next m) (hcall : m.Concludes call) :
    ∃ d ∈ log, d.Issues strategy call := by
  obtain ⟨e, result, ho, rfl⟩ := hcall
  obtain ⟨x, hx, rfl⟩ := Moment.outstanding_of_outcome ho
  rw [← hm.life] at hx
  exact hk.issued_iff.2 ⟨x, hk.outstanding x hx, rfl⟩

/-- Before the session is registered, only calls to register are made. -/
theorem not_issued_of_accepts (hm : c.Next m) (ha : m.Accepts r) (hr : purpose.Recurs) :
    ∀ d ∈ log, ¬d.Issues strategy purpose.call := by
  have hid : c.life.state.sessionId = none := by
    obtain ⟨h, -, rfl⟩ := hm
    rw [Moment.accepts_iff, date] at ha
    rcases c.life.step_input strategy h with ⟨i, hi, hh⟩ | ⟨hi, -⟩
    · rw [Moment.accepted?_of_input hi] at ha
      exact hk.inPhase.unnumbered_of_accepted hh ha
    · rw [Moment.accepted?_of_none hi] at ha
      cases ha
  intro d hd hissues
  obtain ⟨⟨time, errand⟩, hx, hcall⟩ := hk.issued_iff.1 ⟨d, hd, hissues⟩
  have hnames := hk.named _ hx
  cases errand with
  | register => exact hr.call_ne_register hcall.symm
  | keepAlive | unregister => cases hid.symm.trans hnames

/-- Once an attempt has been made to end the session, its end has been asked for. -/
theorem closing_of_issued (hissued : ∃ d ∈ log, d.Issues strategy .unregister) :
    c.life.session.closing = true := by
  obtain ⟨d, hd, hissues⟩ := hissued
  exact hk.parted ⟨d.toMoment, List.mem_map_of_mem hd, hissues⟩

/-! ## The interval -/

/-- One answer registers the session. -/
theorem eq_of_accepts (hm : m ∈ log) (ha : m.Accepts r) : ∀ d ∈ log, ∀ r', d.Accepts r' → r' = r :=
  fun _ hd _ ha' =>
    hk.numbered.eq_of_accepts (List.mem_map_of_mem hm) ha (List.mem_map_of_mem hd) ha'

/-- Once the session is registered, the interval is half its timeout. -/
theorem interval_of_accepts (hm : m ∈ log) (ha : m.Accepts r) :
    c.life.session.interval = (Duration.ofMillis r.timeout.toNat).half :=
  hk.metered m.toMoment (List.mem_map_of_mem hm) r ha

/-- While the timer for a call is set, the interval is that of the session. -/
theorem interval_of_timer (hone : ∀ d ∈ log, ∀ r', d.Accepts r' → r' = r) (hr : purpose.Recurs)
    (ht : (c.life.session.timer purpose.slot).isSome = true) :
    c.life.session.interval = (Duration.ofMillis r.timeout.toNat).half := by
  obtain rfl := (hk.inPhase.timer_iff purpose.slot).1 ht
  have hsome : c.life.state.sessionId.isSome = true :=
    hk.inPhase.fits.numbered (by rcases hr with rfl | rfl <;> rfl)
  obtain ⟨id, hid⟩ := Option.isSome_iff_exists.1 hsome
  obtain ⟨m, hm, r', ha, -⟩ := hk.numbered.registered hid
  obtain ⟨d, hd, rfl⟩ := List.mem_map.1 hm
  obtain rfl := hone d hd r' ha
  exact hk.interval_of_accepts hd ha

/-- When the timer for a call goes off, the task has rested for an interval. -/
theorem rests_of_due (hone : ∀ d ∈ log, ∀ r', d.Accepts r' → r' = r) (hr : purpose.Recurs)
    {id : Nat} (hid : c.life.session.timer purpose.slot = some id) (hdue : c.due id = m.time) :
    Lately (fun d => d.Rests purpose.call ∧
        m.time = d.time + (Duration.ofMillis r.timeout.toNat).half.ticks)
      (·.Stirs strategy purpose.call) log := by
  have hrests := (hk.paced purpose hr).rests id hid
  rwa [hdue, hk.interval_of_timer hone hr (Option.isSome_of_eq_some hid)] at hrests

/-! ## When calls are made -/

/-- A timer that makes a call goes off now. -/
theorem due_of_fired {h : Happening} (hallow : c.allows h = true) {id : Nat}
    (hi : c.life.input? h = some (.event (.timer id purpose)))
    (hid : c.life.session.timer purpose.slot = some id) : c.due id = c.now := by
  have hlate := hk.onTime (Life.input?_stopped hi) purpose.slot id hid
  obtain ⟨k, rfl, ha⟩ := Life.input?_timer hi
  simp only [allows, ha, Option.all_some, decide_eq_true_eq] at hallow
  exact Nat.le_antisymm hallow hlate

/-- **Why a call is made**: one has failed while a leader was known; or its timer goes off; or the
    end of the session is asked for, or has been before the session is registered. -/
theorem issues_cases (hm : c.Next m) (hr : purpose.Recurs)
    (hissues : m.Issues strategy purpose.call) :
    m.Fails purpose.call ∧ m.life.selector.leader.isSome = true ∨
    (∃ id, c.life.session.timer purpose.slot = some id ∧ c.due id = m.time) ∨
    purpose = .unregister ∧ ((∃ w, m.Closes w) ∧ m.life.Beats ∨
      (∃ r, m.Accepts r) ∧ m.life.session.closing = true) := by
  obtain ⟨h, hallow, rfl⟩ := hm
  have hp := hk.inPhase
  have hregister := hr.call_ne_register
  -- an attempt to end the session is no heartbeat
  have hpurpose : purpose.call = .unregister → purpose = .unregister := by
    rcases hr with rfl | rfl <;> first | exact fun _ => rfl | nofun
  rcases c.life.step_input strategy h with ⟨i, hi, hh⟩ | ⟨hi, -⟩
  · have hplan := (Moment.issues_of_input hi).1 hissues
    have hground := c.life.turn.plan_grounds strategy i
    rw [hplan] at hground
    generalize hcall : purpose.call = call at hground hregister hpurpose
    cases hground with
    | enroll => exact absurd rfl hregister
    | @fired id _ other hother hid =>
      have hslot : other.slot = purpose.slot := by
        rcases hr with rfl | rfl <;> cases hcall <;> cases other <;> first | rfl | cases hother
      exact .inr (.inl ⟨id, hslot ▸ hid, hk.due_of_fired hallow hi hid⟩)
    | part he hclosing hid =>
      have hlive : c.life.state.isLive = true := by
        have hended : p.standing ≠ some true := fun h =>
          absurd (he.symm.trans (hp.fits.isEnded.2 h)) nofun
        have hnew : p.standing ≠ none := fun h =>
          absurd (hid.symm.trans (congrArg Option.isSome (hp.fits.unnumbered h))) nofun
        refine hp.fits.isLive.2 ?_
        rcases hs : p.standing with _ | _ | _
        · exact absurd hs hnew
        · rfl
        · exact absurd hs hended
      exact .inr (.inr ⟨hpurpose rfl, .inl ⟨⟨_, Moment.command?_of_input hi⟩, hlive, hclosing⟩⟩)
    | partLate ha hclosing =>
      exact .inr (.inr ⟨hpurpose rfl, .inr
        ⟨⟨_, Moment.accepts_iff.2 ((Moment.accepted?_of_input hi).trans ha)⟩, hclosing⟩⟩)
    | again _ he hl =>
      exact .inl ⟨(Moment.fails_iff hregister).2 ((Moment.ended?_of_input hi).trans he), hl⟩
  · exact absurd (.inr (.inl hissues)) (Moment.not_stirs_of_none strategy hi)

/-- The end that is asked for, or that has been asked for before the session is registered, makes
    the task end the session. -/
theorem issues_of_end (hm : c.Next m)
    (hend : (∃ w, m.Closes w) ∧ m.life.Beats ∨
      (∃ r, m.Accepts r) ∧ m.life.session.closing = true) :
    m.Issues strategy .unregister := by
  obtain ⟨h, -, rfl⟩ := hm
  have hp := hk.inPhase
  rcases hi : c.life.input? h with _ | i
  · have hstill := Moment.not_stirs_of_none (c := .keepAlive) strategy hi
    rcases hend with ⟨hw, -⟩ | ⟨hr, -⟩
    · exact absurd (.inr (.inr ⟨rfl, .inr hw⟩)) hstill
    · exact absurd (.inr (.inr ⟨rfl, .inl hr⟩)) hstill
  · refine (Moment.issues_of_input hi).2 ?_
    rcases hend with ⟨⟨w, hw⟩, hb⟩ | ⟨⟨r, hr⟩, hclosing⟩
    · obtain rfl := Input.eq_of_command? ((Moment.command?_of_input hi).symm.trans hw)
      have hlive := hp.fits.isLive.1 hb.1
      have hended : c.life.turn.state.isEnded = false := by
        rw [← Bool.not_eq_true]
        exact fun he => absurd (hlive.symm.trans (hp.fits.isEnded.1 he)) nofun
      have hclosing : c.life.turn.session.closing = false := hb.2
      have hid : c.life.turn.state.sessionId.isSome = true := hp.fits.numbered hlive
      simp only [Turn.plan, hended, hclosing, Turn.ask, hid]
      rfl
    · rw [Moment.accepts_iff] at hr
      rw [Turn.plan_of_accepted strategy _ ((Moment.accepted?_of_input hi).symm.trans hr)]
      exact if_pos hclosing

/-- A call that has failed while a leader was known is made again at once. -/
theorem issues_of_fails (hm : c.Next m) (hr : purpose.Recurs) (hf : m.Fails purpose.call)
    (hl : m.life.selector.leader.isSome = true)
    (hclosing : purpose = .keepAlive → m.life.session.closing = false) :
    m.Issues strategy purpose.call := by
  obtain ⟨h, -, rfl⟩ := hm
  rcases c.life.step_input strategy h with ⟨i, hi, hh⟩ | ⟨hi, -⟩
  · refine (Moment.issues_of_input hi).2 ?_
    have he := (Moment.ended?_of_input hi).symm.trans ((Moment.fails_iff hr.call_ne_register).1 hf)
    have hlive := hh.isLive hk.inPhase hr (Input.call?_of_ended? he).1 hclosing
    have hid : c.life.turn.state.sessionId.isSome = true :=
      hk.inPhase.fits.numbered (hk.inPhase.fits.isLive.1 hlive)
    rw [Turn.plan_of_failed strategy _ he hclosing hlive, Turn.retry, if_pos (by exact hl),
      Turn.ask, if_pos hid]
  · exact absurd (.inl hf.concludes) (Moment.not_stirs_of_none strategy hi)

/-! ## What becomes of a rest -/

/-- Since the task began to rest, nothing has become of the call: its timer is set, and goes off one
    interval after the rest began. -/
theorem timer_of_rests {before quiet : List Dated} (hlog : log = before ++ m :: quiet)
    (hr : purpose.Recurs) (hrests : m.Rests purpose.call)
    (hquiet : ∀ x ∈ quiet, ¬x.Stirs strategy purpose.call) :
    ∃ id, c.life.session.timer purpose.slot = some id ∧
      c.due id = m.time + c.life.session.interval.ticks := by
  have hpaced := hk.paced purpose hr
  obtain ⟨id, hid⟩ := Option.isSome_iff_exists.1
    (hpaced.timer ⟨before, m, quiet, hlog, hrests, hquiet⟩)
  have hlast := hlog ▸ hpaced.rests id hid
  exact ⟨id, hid, (hlast.last (fun e he => he.1.stirs) hrests.stirs hquiet).2⟩

/-- What becomes of a call while its timer is set: it is made, when the timer goes off; or it is a
    heartbeat, and the end is asked for. -/
theorem stirs_cases (hm : c.Next m) (hr : purpose.Recurs) {id : Nat}
    (hid : c.life.session.timer purpose.slot = some id) (hs : m.Stirs strategy purpose.call) :
    m.Issues strategy purpose.call ∧ m.time = c.due id ∨
      purpose = .keepAlive ∧ (∃ w, m.Closes w) ∧ m.time ≤ c.due id := by
  have hcases := hk.issues_cases hm hr
  obtain ⟨h, hallow, rfl⟩ := hm
  have hp := hk.inPhase
  have ht := Option.isSome_of_eq_some hid
  rcases c.life.step_input strategy h with ⟨i, hi, hh⟩ | ⟨hi, -⟩
  · rcases hh.stirs_of_timer hp hi hr ht hs with hplan | ⟨hkeepAlive, w, rfl⟩
    · have hissues := (Moment.issues_of_input hi).2 hplan
      refine .inl ⟨hissues, ?_⟩
      rcases hcases hissues with ⟨hf, -⟩ | ⟨id', hid', hdue⟩ | ⟨rfl, ⟨-, hb⟩ | ⟨⟨r, ha⟩, -⟩⟩
      · exact absurd ((Moment.concludes_of_input hi).1 hf.concludes) (hh.call?_ne_of_timer hp hr ht)
      · obtain rfl := Option.some.inj (hid'.symm.trans hid)
        exact hdue.symm
      · -- the end has been asked for before
        obtain rfl := (hp.timer_iff .unregister).1 ht
        cases hb.2.symm.trans hp.fits.closing
      · rw [Moment.accepts_iff, date, Moment.accepted?_of_input hi,
          hh.accepted?_of_timer hp ht] at ha
        cases ha
    · have honTime := hk.onTime (Life.input?_stopped hi) purpose.slot id hid
      exact .inr ⟨hkeepAlive, ⟨w, Moment.command?_of_input hi⟩, honTime⟩
  · exact absurd hs (Moment.not_stirs_of_none strategy hi)

/-- A task that waits for the end of the session does not stop. -/
theorem not_stopped_of_timer (ht : (c.life.session.timer .unregister).isSome = true) :
    c.life.stopped = false := by
  have hp := hk.inPhase
  obtain rfl := (hp.timer_iff .unregister).1 ht
  rw [← Bool.not_eq_true]
  intro hstopped
  have hidle := (hk.left.stopped hstopped).2
  rw [Session.isIdle, Bool.and_eq_true, decide_eq_true_eq, decide_eq_true_eq] at hidle
  exact hp.fits.closeWaiters.2 rfl hidle.2

end

end Known

/-- At most one request is made at a moment. -/
theorem errands_length_le (strategy : Strategy) (m : Moment) :
    (m.errands strategy).length ≤ 1 := by
  obtain ⟨l, h⟩ := m
  rcases l.step_input strategy h with ⟨i, hi, -⟩ | ⟨hi, -⟩
  · have hcalls := congrArg List.length (l.turn.handle_follows strategy i).calls
    rw [Moment.errands_of_input hi]
    rw [Turn.calls, List.length_map] at hcalls
    rw [hcalls]
    cases l.turn.plan strategy i <;> simp [Plan.call?, Turn.calls, Turn.errands, Life.turn]
  · rw [Moment.errands_of_none hi]
    exact Nat.zero_le _

/-! ## Pace -/

section
variable {strategy : Strategy} {clientId : String} {selector : Selector} {ticks : List Tick}
variable {before after : List Dated} {m : Dated} {r : RegisterResponse}
variable (hone : ∀ d ∈ annals strategy clientId selector ticks, ∀ r', d.Accepts r' → r' = r)
variable (h : annals strategy clientId selector ticks = before ++ m :: after)
include h

/-- What was known before that. -/
theorem known_before {b a : List Dated} {d : Dated} (hlog : before = b ++ d :: a) :
    ∃ (c : Clocked) (p : Phase), c.Known strategy p b ∧ c.Next d := by
  have hd : annals strategy clientId selector ticks = b ++ d :: (a ++ m :: after) := by
    rw [h, hlog, List.append_assoc, List.cons_append]
  exact annals_known hd

/-- A call that has had an outcome has been made before. -/
theorem issued_of_concluded {b a : List Dated} {d : Dated} {call : Method}
    (hlog : before = b ++ d :: a) (hcall : d.Concludes call) :
    ∃ e ∈ before, e.Issues strategy call := by
  obtain ⟨c, p, hk, hnext⟩ := known_before h hlog
  obtain ⟨e, he, hissues⟩ := hk.issued_of_concludes hnext hcall
  exact ⟨e, hlog ▸ List.mem_append_left _ he, hissues⟩

include hone

theorem firstBeat (hissues : m.Issues strategy .keepAlive)
    (hnone : ∀ d ∈ before, ¬d.Issues strategy .keepAlive) :
    Lately (fun d => d.Accepts r ∧
        m.time = d.time + (Duration.ofMillis r.timeout.toNat).half.ticks)
      (·.Stirs strategy .keepAlive) before := by
  obtain ⟨c, p, hk, hm⟩ := annals_known h
  have hone : ∀ d ∈ before, ∀ r', d.Accepts r' → r' = r := fun d hd =>
    hone d (h ▸ List.mem_append_left _ hd)
  rcases hk.issues_cases hm Purpose.recurs_keepAlive hissues with
    ⟨hf, -⟩ | ⟨id, hid, hdue⟩ | ⟨hu, -⟩
  · obtain ⟨d, hd, hdi⟩ := hk.issued_of_concludes hm hf.concludes
    exact absurd hdi (hnone d hd)
  · obtain ⟨b, d, a, hlog, ⟨⟨-, hrests⟩, htime⟩, hquiet⟩ :=
      hk.rests_of_due hone Purpose.recurs_keepAlive hid hdue
    have hnot : ¬d.Concludes .keepAlive := fun hcall => by
      obtain ⟨e, he, hei⟩ := issued_of_concluded h hlog hcall
      exact hnone e he hei
    refine ⟨b, d, a, hlog, ⟨?_, htime⟩, hquiet⟩
    rcases hrests with (⟨r', ha⟩ | hg) | hf
    · exact hone d (hlog ▸ by simp) r' ha ▸ ha
    · exact absurd hg.concludes hnot
    · exact absurd hf.1.concludes hnot
  · cases hu

theorem nextBeat (hissues : m.Issues strategy .keepAlive)
    (hsome : ∃ d ∈ before, d.Issues strategy .keepAlive) :
    m.Fails .keepAlive ∧ m.life.selector.leader.isSome = true ∨
    Lately (fun d => (d.Grants .keepAlive ∨ d.Falters) ∧
        m.time = d.time + (Duration.ofMillis r.timeout.toNat).half.ticks)
      (·.Stirs strategy .keepAlive) before := by
  obtain ⟨c, p, hk, hm⟩ := annals_known h
  have hone : ∀ d ∈ before, ∀ r', d.Accepts r' → r' = r := fun d hd =>
    hone d (h ▸ List.mem_append_left _ hd)
  rcases hk.issues_cases hm Purpose.recurs_keepAlive hissues with hf | ⟨id, hid, hdue⟩ | ⟨hu, -⟩
  · exact .inl hf
  · obtain ⟨b, d, a, hlog, ⟨⟨-, hrests⟩, htime⟩, hquiet⟩ :=
      hk.rests_of_due hone Purpose.recurs_keepAlive hid hdue
    refine .inr ⟨b, d, a, hlog, ⟨?_, htime⟩, hquiet⟩
    rcases hrests with (⟨r', ha⟩ | hg) | hf
    · -- since the session was registered, no heartbeat has been made
      obtain ⟨c', p', hk', hnext⟩ := known_before h hlog
      obtain ⟨e, he, hei⟩ := hsome
      rw [hlog, List.mem_append, List.mem_cons] at he
      rcases he with he | rfl | he
      · exact absurd hei (hk'.not_issued_of_accepts hnext ha Purpose.recurs_keepAlive e he)
      · cases (ha.issues hei).1
      · exact absurd (.inr (.inl hei)) (hquiet e he)
    · exact .inl hg
    · exact .inr hf
  · cases hu

theorem firstPart : (m.Issues strategy .unregister ∧ ∀ d ∈ before, ¬d.Issues strategy .unregister) ↔
    (∃ w, m.Closes w) ∧ m.life.Beats ∨ m.Accepts r ∧ m.life.session.closing = true := by
  obtain ⟨c, p, hk, hm⟩ := annals_known h
  constructor
  · rintro ⟨hissues, hnone⟩
    rcases hk.issues_cases hm Purpose.recurs_unregister hissues with
      ⟨hf, -⟩ | ⟨id, hid, hdue⟩ | ⟨-, hend⟩
    · obtain ⟨d, hd, hdi⟩ := hk.issued_of_concludes hm hf.concludes
      exact absurd hdi (hnone d hd)
    · obtain ⟨b, d, a, hlog, ⟨⟨hf, -⟩, -⟩, -⟩ :=
        (hk.paced .unregister Purpose.recurs_unregister).rests id hid
      obtain ⟨e, he, hei⟩ := issued_of_concluded h hlog hf.concludes
      exact absurd hei (hnone e he)
    · refine hend.imp_right ?_
      rintro ⟨⟨r', ha⟩, hclosing⟩
      exact ⟨hone m (h ▸ by simp) r' ha ▸ ha, hclosing⟩
  · intro hend
    refine ⟨hk.issues_of_end hm (hend.imp_right fun ha => ⟨⟨r, ha.1⟩, ha.2⟩), ?_⟩
    rcases hend with ⟨-, hb⟩ | ⟨ha, -⟩
    · intro e he hei
      have hclosing := hm.life ▸ hk.closing_of_issued ⟨e, he, hei⟩
      cases hb.2.symm.trans hclosing
    · exact hk.not_issued_of_accepts hm ha Purpose.recurs_unregister

theorem nextPart (hissues : m.Issues strategy .unregister)
    (hsome : ∃ d ∈ before, d.Issues strategy .unregister) :
    m.Fails .unregister ∧ m.life.selector.leader.isSome = true ∨
    Lately (fun d => (d.Fails .unregister ∧ d.life.selector.leader = none) ∧
        m.time = d.time + (Duration.ofMillis r.timeout.toNat).half.ticks)
      (·.Stirs strategy .unregister) before := by
  obtain ⟨c, p, hk, hm⟩ := annals_known h
  have hone : ∀ d ∈ before, ∀ r', d.Accepts r' → r' = r := fun d hd =>
    hone d (h ▸ List.mem_append_left _ hd)
  rcases hk.issues_cases hm Purpose.recurs_unregister hissues with
    hf | ⟨id, hid, hdue⟩ | ⟨-, ⟨-, hb⟩ | ⟨⟨r', ha⟩, -⟩⟩
  · exact .inl hf
  · exact .inr (hk.rests_of_due hone Purpose.recurs_unregister hid hdue)
  · have hclosing := hm.life ▸ hk.closing_of_issued hsome
    cases hb.2.symm.trans hclosing
  · obtain ⟨e, he, hei⟩ := hsome
    exact absurd hei (hk.not_issued_of_accepts hm ha Purpose.recurs_unregister e he)

/-- **Calls are made when they are due, and at no other time.** -/
theorem punctual : m.Punctual strategy r (Duration.ofMillis r.timeout.toNat).half before where
  single := errands_length_le strategy m.toMoment
  firstBeat := firstBeat hone h
  nextBeat := nextBeat hone h
  firstPart := firstPart hone h
  nextPart := nextPart hone h

theorem followed {purpose : Purpose} (hr : purpose.Recurs) (hrests : m.Rests purpose.call) :
    Dated.Followed strategy (Duration.ofMillis r.timeout.toNat).half purpose.call m.time after
      (lived strategy clientId selector ticks) := by
  rcases first_or_none (·.Stirs strategy purpose.call) after with
    hquiet | ⟨quiet, d, rest, rfl, hs, hquiet⟩
  · obtain ⟨p, hk⟩ := lived_known strategy clientId selector ticks
    obtain ⟨id, hid, hdue⟩ := hk.timer_of_rests h hr hrests hquiet
    rw [hk.interval_of_timer hone hr (Option.isSome_of_eq_some hid)] at hdue
    refine .inr ⟨hquiet, ?_⟩
    cases hstopped : (lived strategy clientId selector ticks).life.stopped with
    | false => exact .inl (hdue ▸ hk.onTime hstopped purpose.slot id hid)
    | true =>
      rcases hr with rfl | rfl
      · exact .inr ⟨rfl, rfl⟩
      · cases hstopped.symm.trans (hk.not_stopped_of_timer (Option.isSome_of_eq_some hid))
  · have hlog : annals strategy clientId selector ticks = (before ++ m :: quiet) ++ d :: rest := by
      rw [h, List.append_assoc, List.cons_append]
    obtain ⟨c, p, hk, hd⟩ := annals_known hlog
    obtain ⟨id, hid, hdue⟩ := hk.timer_of_rests rfl hr hrests hquiet
    rw [hk.interval_of_timer (fun d hd => hone d (hlog ▸ List.mem_append_left _ hd)) hr
      (Option.isSome_of_eq_some hid)] at hdue
    have hcases := hk.stirs_cases hd hr hid hs
    rw [hdue] at hcases
    refine .inl ⟨quiet, d, rest, rfl, hquiet, hcases.imp_right ?_⟩
    rintro ⟨rfl, hclose⟩
    exact ⟨rfl, hclose⟩

/-- **Calls that are due are made.** -/
theorem prompt : m.Prompt strategy (Duration.ofMillis r.timeout.toNat).half after
    (lived strategy clientId selector ticks) := by
  obtain ⟨c, p, hk, hm⟩ := annals_known h
  constructor
  · exact fun hf hl hc => hk.issues_of_fails hm Purpose.recurs_keepAlive hf hl fun _ => hc
  · exact fun hf hl => hk.issues_of_fails hm Purpose.recurs_unregister hf hl nofun
  · intro call hrests
    cases call with
    | keepAlive => exact followed hone h Purpose.recurs_keepAlive hrests
    | unregister => exact followed hone h Purpose.recurs_unregister hrests
    | register => exact hrests.elim

end

/-- **Heartbeats, and attempts to end the session, are paced.**  On a virtual clock, in every life
    of a session that is registered with a timeout, the interval is half that timeout from then on,
    and not nothing.  The first heartbeat comes one interval after the registration, in milliseconds
    and rounded up; every other comes one interval after one has renewed the session or has failed
    while no leader was known, or as soon as one has failed while a leader was known.  The first
    attempt to end the session comes as soon as its end is asked for, or as soon as it is
    registered, if that was before; every other comes one interval after one has failed while no
    leader was known, or as soon as one has failed while a leader was known.  There are no others;
    and none of these fails to come, but for heartbeats when the end is asked for before, or when no
    handle is left and the task stops. -/
theorem heartbeats_paced (strategy : Strategy) (clientId : String) (selector : Selector)
    (ticks : List Tick) :
    let c := lived strategy clientId selector ticks
    let log := annals strategy clientId selector ticks
    (∃ hs, c.life = Life.lived strategy clientId selector hs ∧
      log.map Dated.toMoment = Life.annals strategy clientId selector hs) ∧
    ∀ before₀ m₀ after₀ r, log = before₀ ++ m₀ :: after₀ → m₀.Accepts r →
      let interval := (Duration.ofMillis r.timeout.toNat).half
      (0 < interval.nanos ∧ interval.ticks = (r.timeout.toNat + 1) / 2) ∧
      ((∀ d ∈ after₀, d.life.session.interval = interval) ∧ c.life.session.interval = interval) ∧
      ∀ before m after, log = before ++ m :: after →
        m.Punctual strategy r interval before ∧ m.Prompt strategy interval after c := by
  intro c log
  refine ⟨annals_undated strategy clientId selector ticks, ?_⟩
  intro before₀ m₀ after₀ r hlog ha interval
  obtain ⟨p, hk⟩ := lived_known strategy clientId selector ticks
  have hm₀ : m₀ ∈ log := hlog ▸ by simp
  have hone := hk.eq_of_accepts hm₀ ha
  refine ⟨⟨?_, Duration.ticks_half_ofMillis _⟩, ⟨fun d hd => ?_, hk.interval_of_accepts hm₀ ha⟩,
    fun before m after h => ⟨punctual hone h, prompt hone h⟩⟩
  · obtain ⟨attempt, request, -, -, hpositive⟩ := ha
    have hpositive : 0 < r.timeout.toNat := UInt64.lt_iff_toNat_lt.1 hpositive
    show 0 < r.timeout.toNat * 1000000 / 2
    omega
  · obtain ⟨between, rest, rfl⟩ := List.append_of_mem hd
    have hd : log = (before₀ ++ m₀ :: between) ++ d :: rest := by simpa using hlog
    obtain ⟨c', p', hk', hnext⟩ := annals_known hd
    rw [← hnext.life]
    exact hk'.interval_of_accepts (by simp) ha

/-- A session of seven milliseconds: a heartbeat is made four after it was registered, again when it
    fails while a leader is known, and four after it fails while none is. -/
example :
    ((annals StrategyConfig.once.strategy "c" (.ofServers .any []) [
        .happens .opening, .happens .command, .passes 3,
        .happens (.outcome 0 (.ok (.register (.accept 7 7 (some ⟨"a", 1⟩) [])))),
        .passes 3, .happens (.timer 0), .passes 1, .happens (.timer 0),
        .happens (.outcome 0 (.error .connectionClosed)),
        .happens (.outcome 0 (.error .connectionClosed)),
        .passes 5, .passes 4, .happens (.timer 0)]).filter fun d =>
      (d.errands StrategyConfig.once.strategy).any (·.method = .keepAlive)).map (·.time) =
      [7, 7, 11] := by
  decide +kernel

end Clocked

end ClusterSession
