/-
  ClusterSession: how calls follow one another.

  Heartbeats, and attempts to end the session, are made again and again.  Between two of
  them, the task rests for an interval, or it does not rest at all.

  * `Moment.Rests`: the task begins to rest before the next call.
  * `Moment.Stirs`: something becomes of a call.
  * `Life.Metered`, `Life.Parted`: what the annals tell of the interval, and of the end.
  * `Clocked.Paced`: the timer for the next call is set just if the task has begun to rest
    and nothing has become of the call since; and it goes off one interval later.
  * `lived_paced`: so it is in every life.
-/
import ClusterSession.Proofs.Session.Clocks
import ClusterSession.Proofs.Session.Completions
import ClusterSession.Proofs.Session.Identity

namespace ClusterSession

/-- What is made again and again: heartbeats, and attempts to end the session. -/
def Purpose.Recurs (purpose : Purpose) : Prop := purpose = .keepAlive ∨ purpose = .unregister

namespace Purpose

theorem recurs_keepAlive : Recurs .keepAlive := .inl rfl

theorem recurs_unregister : Recurs .unregister := .inr rfl

theorem Recurs.call_ne_register {purpose : Purpose} (hr : purpose.Recurs) :
    purpose.call ≠ .register := by
  rcases hr with rfl | rfl <;> nofun

end Purpose

namespace Moment

/-- A request of a call has an outcome. -/
def Concludes (c : Method) (m : Moment) : Prop :=
  ∃ e result, m.outcome? = some (e, result) ∧ e.method = c

/-- The task makes a call. -/
def Issues (strategy : Strategy) (c : Method) (m : Moment) : Prop :=
  ∃ e ∈ m.errands strategy, e.method = c

/-- The task begins to rest before the next call: a call has failed while no leader was known; or,
    as far as heartbeats are concerned, the session has been registered or renewed.  There are no
    more heartbeats once the end has been asked for. -/
def Rests : Method → Moment → Prop
  | .keepAlive, m => m.life.session.closing = false ∧ (m.Steadies ∨ m.Falters)
  | .unregister, m => m.Fails .unregister ∧ m.life.selector.leader = none
  | .register, _ => False

/-- Something becomes of a call: one has an outcome, or is made; and heartbeats begin when the
    session is registered, and end when its end is asked for. -/
def Stirs (strategy : Strategy) (c : Method) (m : Moment) : Prop :=
  m.Concludes c ∨ m.Issues strategy c ∨
    c = .keepAlive ∧ ((∃ r, m.Accepts r) ∨ ∃ w, m.Closes w)

section
variable {strategy : Strategy} {m : Moment} {c : Method}

theorem Fails.concludes (h : m.Fails c) : m.Concludes c := h.1

theorem Grants.concludes (h : m.Grants c) : m.Concludes c := by
  obtain ⟨e, r, ho, hm, -⟩ := h
  exact ⟨e, _, ho, hm⟩

theorem Rests.stirs (h : m.Rests c) : m.Stirs strategy c := by
  cases c with
  | keepAlive =>
    rcases h with ⟨-, (ha | hg) | ⟨hf, -⟩⟩
    · exact .inr (.inr ⟨rfl, .inl ha⟩)
    · exact .inl hg.concludes
    · exact .inl hf.concludes
  | unregister => exact .inl h.1.concludes
  | register => exact h.elim

variable {l : Life} {h : Happening} {i : Input}

theorem concludes_of_input (hi : l.input? h = some i) :
    Concludes c ⟨l, h⟩ ↔ i.call? = some c := by
  constructor
  · rintro ⟨e, result, ho, rfl⟩
    obtain rfl := Option.some.inj (hi.symm.trans (outcome?_eq_some ho))
    exact Input.call?_outcome e result
  · intro hc
    obtain ⟨e, result, ho, hm, -⟩ := outcome?_of_call? (m := ⟨l, h⟩) hi hc
    exact ⟨e, result, ho, hm⟩

theorem issues_of_input (hi : l.input? h = some i) :
    Issues strategy c ⟨l, h⟩ ↔ l.turn.plan strategy i = .now c := by
  have hcalls : (errands strategy ⟨l, h⟩).map Errand.method =
      (l.turn.plan strategy i).call?.toList := by
    rw [errands_of_input hi]
    exact (l.turn.handle_follows strategy i).calls
  have hmem : Issues strategy c ⟨l, h⟩ ↔ c ∈ (l.turn.plan strategy i).call?.toList := by
    rw [← hcalls, List.mem_map]
    rfl
  rw [hmem]
  cases l.turn.plan strategy i <;> simp [Plan.call?, eq_comm]

theorem not_stirs_of_none (strategy : Strategy) (hi : l.input? h = none) :
    ¬Stirs strategy c ⟨l, h⟩ := by
  rintro (⟨e, result, ho, -⟩ | ⟨e, he, -⟩ | ⟨-, ⟨r, hr⟩ | ⟨w, hw⟩⟩)
  · cases hi.symm.trans (outcome?_eq_some ho)
  · rw [errands_of_none hi] at he
    cases he
  · rw [accepts_iff, accepted?_of_none hi] at hr
    cases hr
  · rw [Closes, command?_of_none hi] at hw
    cases hw

end

end Moment

/-- When the session is registered, the task makes no call, or ends it. -/
theorem Moment.Accepts.issues {strategy : Strategy} {m : Moment} {r : RegisterResponse} {c : Method}
    (ha : m.Accepts r) (hc : m.Issues strategy c) :
    c = .unregister ∧ m.life.session.closing = true := by
  obtain ⟨l, h⟩ := m
  rcases hi : l.input? h with _ | i
  · exact absurd (.inr (.inl hc)) (Moment.not_stirs_of_none strategy hi)
  · rw [Moment.accepts_iff, Moment.accepted?_of_input hi] at ha
    rw [Moment.issues_of_input hi, Turn.plan_of_accepted strategy _ ha] at hc
    split at hc
    · next hclosing =>
      cases hc
      exact ⟨rfl, hclosing⟩
    · cases hc

/-- An outcome that registers the session ends no other call. -/
theorem Input.accepted?_of_ended? {i : Input} {x : Method × Outcome} (h : i.ended? = some x) :
    i.accepted? = none := by
  rcases i with _ | (_ | _ | _ | _) <;> first | rfl | cases h

/-- A call that recurs has an outcome while the session is live, unless it is a heartbeat whose
    outcome comes late. -/
theorem Phase.Leads.live {p q : Phase} {purpose : Purpose} {ms : List Method}
    (h : p.Leads (some purpose.call) ms q) (hr : purpose.Recurs)
    (hc : purpose = .keepAlive → p.look.closing = false) : p.standing = some false := by
  rcases hr with rfl | rfl
  · cases h with
    | ignore hl =>
      have hc := hc rfl
      cases p <;> first | cases hl; done | cases hc
    | _ => rfl
  · cases h with
    | ignore hl => cases p <;> cases hl
    | _ => rfl

namespace Life

section
variable {strategy : Strategy} {l l' : Life} {p : Phase} {h : Happening} {i : Input}
variable {purpose : Purpose}

theorem Handles.isLive (hh : l.Handles strategy l' i) (hp : l.InPhase p) (hr : purpose.Recurs)
    (hcall : i.call? = some purpose.call) (hc : purpose = .keepAlive → l.session.closing = false) :
    l.state.isLive = true := by
  obtain ⟨q, hl, -⟩ := hh.planned hp
  rw [hcall] at hl
  exact hp.fits.isLive.2 (hl.live hr fun hk => hp.fits.closing.symm.trans (hc hk))

theorem Handles.interval (hh : l.Handles strategy l' i) :
    l'.session.interval = i.accepted?.elim l.session.interval fun r =>
      (Duration.ofMillis r.timeout.toNat).half := by
  rw [hh.session]
  exact (l.turn.handle_follows strategy i).interval

/-- The task sets a timer for a call when it begins to rest, and for an interval. -/
theorem Handles.rests_of_later (hh : l.Handles strategy l' i) (hi : l.input? h = some i)
    (hr : purpose.Recurs) {delay : Duration}
    (hplan : l.turn.plan strategy i = .later purpose delay) :
    Moment.Rests purpose.call ⟨l, h⟩ ∧ delay = l'.session.interval := by
  have hground := l.turn.plan_grounds strategy i
  rw [hplan] at hground
  rw [hh.interval]
  cases hground with
  | enrollLater => rcases hr with hr | hr <;> cases hr
  | opened ha hc =>
    have haccepts := Moment.accepts_iff.2 ((Moment.accepted?_of_input hi).trans ha)
    refine ⟨⟨hc, .inl (.inl ⟨_, haccepts⟩)⟩, ?_⟩
    rw [ha]
    rfl
  | renewed he hc =>
    refine ⟨⟨hc, .inl (.inr ((Moment.grants_iff (c := .keepAlive) nofun).2 ?_))⟩, ?_⟩
    · exact (Moment.ended?_of_input hi).trans he
    · rw [Input.accepted?_of_ended? he]
      rfl
  | rested he hl hc =>
    have hended := (Moment.ended?_of_input hi).trans he
    rw [Input.accepted?_of_ended? he]
    rcases hr with rfl | rfl
    · exact ⟨⟨hc rfl, .inr (Moment.falters_iff.2 ⟨hended, hl⟩)⟩, rfl⟩
    · exact ⟨⟨(Moment.fails_iff (c := .unregister) nofun).2 hended, hl⟩, rfl⟩

/-- **When the task begins to rest, it sets the timer for the next call.** -/
theorem Handles.later_of_rests (hh : l.Handles strategy l' i) (hp : l.InPhase p)
    (hi : l.input? h = some i) (hr : purpose.Recurs)
    (hrests : Moment.Rests purpose.call ⟨l, h⟩) :
    ∃ delay, l.turn.plan strategy i = .later purpose delay := by
  -- a call has failed while no leader was known
  have hfailed : i.ended? = some (purpose.call, .failed) → l.selector.leader = none →
      (purpose = .keepAlive → l.session.closing = false) →
      ∃ delay, l.turn.plan strategy i = .later purpose delay := by
    intro he hl hc
    have hlive := hh.isLive hp hr (Input.call?_of_ended? he).1 hc
    rw [Turn.plan_of_failed strategy l.turn he hc hlive]
    exact ⟨_, if_neg (by rw [show l.turn.selector.leader = none from hl]; nofun)⟩
  rcases hr with rfl | rfl
  · obtain ⟨hc, (⟨r, ha⟩ | hg) | hf⟩ := hrests
    · rw [Moment.accepts_iff, Moment.accepted?_of_input hi] at ha
      rw [Turn.plan_of_accepted strategy l.turn ha]
      exact ⟨_, if_neg (by rw [show l.turn.session.closing = false from hc]; nofun)⟩
    · rw [Moment.grants_iff (c := .keepAlive) nofun, Moment.ended?_of_input hi] at hg
      have hlive := hh.isLive hp (.inl rfl) (Input.call?_of_ended? hg).1 fun _ => hc
      exact ⟨_, Turn.plan_of_renewed strategy l.turn hg hc hlive⟩
    · rw [Moment.falters_iff, Moment.ended?_of_input hi] at hf
      exact hfailed hf.1 hf.2 fun _ => hc
  · obtain ⟨hf, hl⟩ := hrests
    rw [Moment.fails_iff (c := .unregister) nofun, Moment.ended?_of_input hi] at hf
    exact hfailed hf hl nofun

/-- While a timer is in its slot, the session is not registered. -/
theorem Handles.accepted?_of_timer (hh : l.Handles strategy l' i) (hp : l.InPhase p) {slot : Slot}
    (ht : (l.session.timer slot).isSome = true) : i.accepted? = none := by
  cases ha : i.accepted? with
  | none => rfl
  | some r =>
    have hregister := Input.call?_of_accepted? ha
    rcases hh.call?_of_timer hp ht with hn | ⟨-, hk⟩
    · cases hn.symm.trans hregister
    · cases hk.symm.trans hregister

/-- While the timer for a call is in its slot, the call has no outcome. -/
theorem Handles.call?_ne_of_timer (hh : l.Handles strategy l' i) (hp : l.InPhase p)
    (hr : purpose.Recurs) (ht : (l.session.timer purpose.slot).isSome = true) :
    i.call? ≠ some purpose.call := by
  intro hc
  rcases hh.call?_of_timer hp ht with hn | ⟨hslot, hk⟩
  · cases hn.symm.trans hc
  · rcases hr with rfl | rfl
    · cases hslot
    · cases hk.symm.trans hc

/-- While the timer for a call is in its slot, nothing becomes of the call but that it is made, or
    that the end is asked for. -/
theorem Handles.stirs_of_timer (hh : l.Handles strategy l' i) (hp : l.InPhase p)
    (hi : l.input? h = some i) (hr : purpose.Recurs)
    (ht : (l.session.timer purpose.slot).isSome = true)
    (hs : Moment.Stirs strategy purpose.call ⟨l, h⟩) :
    l.turn.plan strategy i = .now purpose.call ∨
      purpose = .keepAlive ∧ ∃ w, i = .command (.closing w) := by
  rcases hs with hs | hs | ⟨hk, ⟨r, ha⟩ | ⟨w, hw⟩⟩
  · exact absurd ((Moment.concludes_of_input hi).1 hs) (hh.call?_ne_of_timer hp hr ht)
  · exact .inl ((Moment.issues_of_input hi).1 hs)
  · rw [Moment.accepts_iff, Moment.accepted?_of_input hi, hh.accepted?_of_timer hp ht] at ha
    cases ha
  · rw [Moment.Closes, Moment.command?_of_input hi] at hw
    have hpurpose : purpose = .keepAlive := hr.resolve_right fun hu => by
      subst hu
      cases hk
    exact .inr ⟨hpurpose, w, Input.eq_of_command? hw⟩

/-- While the timer for a call stays in its slot, nothing becomes of the call. -/
theorem Handles.not_stirs (hh : l.Handles strategy l' i) (hp : l.InPhase p)
    (hi : l.input? h = some i) (hr : purpose.Recurs)
    (ht : (l.session.timer purpose.slot).isSome = true)
    (ht' : (l'.session.timer purpose.slot).isSome = true) :
    ¬Moment.Stirs strategy purpose.call ⟨l, h⟩ := by
  have hplan := hh.plan_of_timer hp ht ht'
  intro hs
  rcases hh.stirs_of_timer hp hi hr ht hs with hnow | ⟨rfl, w, rfl⟩
  · cases hplan.symm.trans hnow
  · -- a task that rests ends the session when its end is asked for
    obtain rfl := (hp.timer_iff .keepAlive).1 ht
    have hended : l.turn.state.isEnded = false := by
      rw [← Bool.not_eq_true]
      exact fun h => absurd (hp.fits.isEnded.1 h) nofun
    have hclosing : l.turn.session.closing = false := hp.fits.closing
    have hid : l.turn.state.sessionId.isSome = true := hp.fits.numbered rfl
    simp only [Turn.plan, hended, hclosing, Turn.ask, hid] at hplan
    cases hplan

/-- The timer for a call stays in its slot until something becomes of the call. -/
theorem Handles.timer_of_not_stirs (hh : l.Handles strategy l' i) (hp : l.InPhase p)
    (hi : l.input? h = some i) (hr : purpose.Recurs)
    (ht : (l.session.timer purpose.slot).isSome = true)
    (hs : ¬Moment.Stirs strategy purpose.call ⟨l, h⟩) :
    (l'.session.timer purpose.slot).isSome = true := by
  obtain ⟨q, hl, hq⟩ := hh.planned hp
  have hnow : ∀ c, (l.turn.plan strategy i).call?.toList = [c] →
      l.turn.plan strategy i = .now c := by
    intro c hc
    cases hplan : l.turn.plan strategy i <;> rw [hplan] at hc <;> cases hc
    rfl
  obtain rfl := (hp.timer_iff purpose.slot).1 ht
  refine (hq.timer_iff purpose.slot).2 ?_
  have hissues : l.turn.plan strategy i ≠ .now purpose.call := fun hn =>
    hs (.inr (.inl ((Moment.issues_of_input hi).2 hn)))
  generalize hcalls : (l.turn.plan strategy i).call?.toList = calls at hl
  generalize hgot : i.call? = got at hl
  rcases hr with rfl | rfl
  · cases hl with
    | stay => rfl
    | ignore hlate => cases hlate
    | beat => exact absurd (hnow _ hcalls) hissues
    | part =>
      -- nothing but a close makes a task that rests end the session
      have hground := l.turn.plan_grounds strategy i
      rw [hnow _ hcalls] at hground
      cases hground with
      | @fired id c purpose hc hid =>
        cases purpose <;> cases hc
        cases (hp.timer_iff .unregister).1 (Option.isSome_of_eq_some hid)
      | part => exact absurd (.inr (.inr ⟨rfl, .inr ⟨_, Moment.command?_of_input hi⟩⟩)) hs
      | partLate ha => cases hgot.symm.trans (Input.call?_of_accepted? ha)
      | again hc he => cases hgot.symm.trans (Input.call?_of_ended? he).1
  · cases hl with
    | stay | ignore => rfl
    | resume => exact absurd (hnow _ hcalls) hissues

end

end Life

/-! ## The interval and the end -/

namespace Life

section
variable {strategy : Strategy} {clientId : String} {selector : Selector}
variable {l : Life} {log : List Moment} {p : Phase}

/-- The interval is half the timeout of the session, once it is registered. -/
def Metered (l : Life) (log : List Moment) : Prop :=
  ∀ m ∈ log, ∀ r, m.Accepts r → l.session.interval = (Duration.ofMillis r.timeout.toNat).half

theorem step_metered (h : Happening) (hp : l.InPhase p) (hn : l.Numbered log)
    (hl : l.Metered log) :
    (l.step strategy h).Metered (log ++ [{ life := l, happening := h }]) := by
  intro m hm r hr
  rcases l.step_input strategy h with ⟨i, hi, hh⟩ | ⟨hi, ha, -⟩
  · rw [hh.interval]
    rcases List.mem_append.1 hm with hm | hm
    · have hnone : i.accepted? = none := by
        rw [Option.eq_none_iff_forall_ne_some]
        intro r' hr'
        cases (hn.sessionId hm hr).symm.trans (hp.unnumbered_of_accepted hh hr')
      rw [hnone]
      exact hl m hm r hr
    · obtain rfl := List.mem_singleton.1 hm
      rw [Moment.accepts_iff, Moment.accepted?_of_input hi] at hr
      rw [hr, Option.elim_some]
  · rw [ha.session]
    rcases List.mem_append.1 hm with hm | hm
    · exact hl m hm r hr
    · obtain rfl := List.mem_singleton.1 hm
      rw [Moment.accepts_iff, Moment.accepted?_of_none hi] at hr
      cases hr

theorem annals_metered (hs : List Happening) :
    (lived strategy clientId selector hs).Metered (annals strategy clientId selector hs) :=
  (annals_induction (P := fun l log => l.Numbered log ∧ l.Metered log)
    ⟨⟨none, rfl, rfl⟩, fun _ hm => absurd hm List.not_mem_nil⟩
    (fun _ _ _ h hp ih => ⟨step_numbered h hp ih.1, step_metered h hp ih.1 ih.2⟩) hs).2

/-- Once an attempt has been made to end the session, its end has been asked for. -/
def Parted (strategy : Strategy) (l : Life) (log : List Moment) : Prop :=
  (∃ m ∈ log, m.Issues strategy .unregister) → l.session.closing = true

theorem step_parted (h : Happening) (hp : l.InPhase p) (hl : l.Parted strategy log) :
    (l.step strategy h).Parted strategy (log ++ [{ life := l, happening := h }]) := by
  rintro ⟨m, hm, hissues⟩
  rcases l.step_input strategy h with ⟨i, hi, hh⟩ | ⟨hi, ha, -⟩
  · obtain ⟨q, hleads, hq⟩ := hh.planned hp
    refine hq.fits.closing.trans ?_
    rcases List.mem_append.1 hm with hm | hm
    · exact hleads.closing (hp.fits.closing ▸ hl ⟨m, hm, hissues⟩)
    · obtain rfl := List.mem_singleton.1 hm
      refine hleads.closing_of_calls ?_
      rw [(Moment.issues_of_input hi).1 hissues]
      exact List.mem_singleton_self _
  · refine (congrArg Session.closing ha.session).trans ?_
    rcases List.mem_append.1 hm with hm | hm
    · exact hl ⟨m, hm, hissues⟩
    · obtain rfl := List.mem_singleton.1 hm
      exact absurd (.inr (.inl hissues)) (Moment.not_stirs_of_none strategy hi)

theorem annals_parted (hs : List Happening) :
    (lived strategy clientId selector hs).Parted strategy
      (annals strategy clientId selector hs) :=
  annals_induction (P := Parted strategy) (fun ⟨_, hm, _⟩ => absurd hm List.not_mem_nil)
    (fun _ _ _ h hp => step_parted h hp) hs

end

end Life

/-! ## Rests on the clock -/

namespace Clocked

/-- The timer for a call is set just if the task has begun to rest and nothing has become of the
    call since; and it goes off one interval later. -/
structure Paced (strategy : Strategy) (purpose : Purpose) (c : Clocked) (log : List Dated) :
    Prop where
  rests : ∀ id, c.life.session.timer purpose.slot = some id →
    Lately (fun d => d.Rests purpose.call ∧ c.due id = d.time + c.life.session.interval.ticks)
      (·.Stirs strategy purpose.call) log
  timer : Lately (·.Rests purpose.call) (·.Stirs strategy purpose.call) log →
    (c.life.session.timer purpose.slot).isSome = true

section
variable {strategy : Strategy} {purpose : Purpose} {c : Clocked} {p : Phase} {log : List Dated}
variable {h : Happening}

theorem Paced.happen (hc : c.Paced strategy purpose log) (hr : purpose.Recurs)
    (hp : c.life.InPhase p) :
    (c.happen strategy h).Paced strategy purpose (log ++ [c.date h]) := by
  rcases c.life.step_input strategy h with ⟨i, hi, hh⟩ | ⟨hi, ha, -⟩
  · constructor
    · intro id hid
      rw [lately_concat, happen_due hi]
      rcases hh.timer_cases hp hid with ⟨hold, hplan⟩ | ⟨other, delay, hslot, hplan, rfl⟩
      · have hsome := Option.isSome_of_eq_some hold
        have hsome' := Option.isSome_of_eq_some hid
        have hinterval : (c.happen strategy h).life.session.interval = c.life.session.interval := by
          refine hh.interval.trans ?_
          rw [hh.accepted?_of_timer hp hsome]
          rfl
        rw [hplan, hinterval]
        exact .inr ⟨hc.rests id hold, hh.not_stirs hp hi hr hsome hsome'⟩
      · have hother : other = purpose := by
          rcases hr with rfl | rfl <;> cases other <;> first | rfl | cases hslot
        subst hother
        obtain ⟨hrests, rfl⟩ := hh.rests_of_later hi hr hplan
        refine .inl ⟨hrests, ?_⟩
        rw [hplan]
        exact if_pos rfl
    · rw [lately_concat]
      rintro (hrests | ⟨hlately, hs⟩)
      · obtain ⟨delay, hplan⟩ := hh.later_of_rests hp hi hr hrests
        exact Option.isSome_of_eq_some (hh.timer_of_later hplan)
      · exact hh.timer_of_not_stirs hp hi hr (hc.timer hlately) hs
  · have hstill : ¬(c.date h).Stirs strategy purpose.call := Moment.not_stirs_of_none strategy hi
    have hsession : (c.happen strategy h).life.session = c.life.session := ha.session
    constructor
    · rw [happen_due_of_none hi, hsession]
      exact fun id hid => lately_concat.2 (.inr ⟨hc.rests id hid, hstill⟩)
    · rw [hsession, lately_concat]
      rintro (hrests | ⟨hlately, -⟩)
      · exact absurd hrests.stirs hstill
      · exact hc.timer hlately

/-- **In every life, calls follow one another as the task rests.** -/
theorem lived_paced {clientId : String} {selector : Selector} (hr : purpose.Recurs)
    (ticks : List Tick) :
    (lived strategy clientId selector ticks).Paced strategy purpose
      (annals strategy clientId selector ticks) := by
  refine annals_induction (P := fun c log => c.Paced strategy purpose log) ?_ ?_ ?_ ticks
  · refine ⟨fun id hid => ?_, fun hn => absurd hn not_lately_nil⟩
    cases purpose <;> cases hid
  · exact fun c p log h hp _ ih => ih.happen hr hp
  · exact fun c log millis _ ih => ⟨ih.rests, ih.timer⟩

end

end Clocked

end ClusterSession
