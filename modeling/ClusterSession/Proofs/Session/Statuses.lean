/-
  ClusterSession: the status tells of the heartbeats.

  * `Moment.Steadies`: the session has been registered, or a heartbeat has renewed it.
  * `Moment.Falters`: a heartbeat has failed while no leader was known.
  * `Handles.status_of_beats`: what an input does to the status of a live session.
  * `status_truthful`: a live session is unstable just if a heartbeat has faltered since
    the session was last steady, and it expires just when the cluster disowns it.
-/
import ClusterSession.Proofs.Session.Changes
import ClusterSession.Proofs.Session.Chronicles
import ClusterSession.Proofs.Session.Heartbeats

namespace ClusterSession

/-- While the session is live and is not to end, only heartbeats have outcomes. -/
theorem Phase.Leads.got_of_live {p q : Phase} {got : Option Method} {ms : List Method}
    (h : p.Leads got ms q) (hp : p = .resting ∨ p = .beating) :
    got = none ∨ got = some .keepAlive := by
  rcases hp with rfl | rfl <;> cases h <;>
    first | exact .inl rfl | exact .inr rfl | (next hl => cases hl)

/-- A session is live because it was, or because a call to register has an outcome. -/
theorem Phase.Leads.live_cases {p q : Phase} {got : Option Method} {ms : List Method}
    (h : p.Leads got ms q) (hq : q = .resting ∨ q = .beating) :
    (p = .resting ∨ p = .beating) ∨ p = .registering ∧ got = some .register := by
  cases h with
  | opened => exact .inr ⟨rfl, rfl⟩
  | ignore hl => rcases hq with rfl | rfl <;> cases hl
  | _ => exact .inl (by simp_all)

namespace Moment

/-- The session has been registered, or a heartbeat has renewed it. -/
def Steadies (m : Moment) : Prop := (∃ r, m.Accepts r) ∨ m.Grants .keepAlive

/-- A heartbeat has failed while no leader was known. -/
def Falters (m : Moment) : Prop := m.Fails .keepAlive ∧ m.life.selector.leader = none

section
variable {m : Moment}

theorem steadies_iff :
    m.Steadies ↔ m.accepted?.isSome = true ∨ m.ended? = some (.keepAlive, .ok) := by
  rw [Steadies, grants_iff (c := .keepAlive) nofun, Option.isSome_iff_exists]
  simp only [accepts_iff]

theorem falters_iff :
    m.Falters ↔ m.ended? = some (.keepAlive, .failed) ∧ m.life.selector.leader = none := by
  rw [Falters, fails_iff (c := .keepAlive) nofun]

end

end Moment

namespace Life

section
variable {strategy : Strategy} {l l' : Life} {p : Phase} {i : Input}

/-- **What an input does to the status of a live session**: an outcome of a heartbeat moves it,
    and nothing else does. -/
theorem Handles.status_of_beats (hh : l.Handles strategy l' i) (hp : l.InPhase p) (hb : l.Beats) :
    i.accepted? = none ∧
      (i.ended? = none ∧ l'.state.status = l.state.status ∨
      ∃ o, i.ended? = some (.keepAlive, o) ∧ l'.state.status = match o with
        | .ok => some .opened
        | .unknownSession => some .expired
        | .failed => if l.selector.leader.isSome then l.state.status else some .unstable) := by
  have hstatus : l'.state.status = (l.turn.becomes? i).or l.state.status := by
    rw [hh.state, Turn.handle_state]
    exact SessionState.change_status_of_live hb.1 _ _
  have hlive : l.turn.state.isLive = true := hb.1
  have hclosing : l.turn.session.closing = false := hb.2
  have hid : l.turn.state.sessionId.isSome = true := by
    refine hp.fits.numbered ?_
    rcases hp.beats_iff.1 hb with rfl | rfl <;> rfl
  obtain ⟨ms, q, hl, -⟩ := hh.next hp
  have hcall : i.call? = none ∨ i.call? = some .keepAlive :=
    hl.got_of_live (hp.beats_iff.1 hb)
  rw [hstatus]
  rcases i with (w | w) | (⟨id, purpose⟩ | ⟨attempt, result⟩ | result | result)
  · exact ⟨rfl, .inl ⟨rfl, rfl⟩⟩
  · exact ⟨rfl, .inl ⟨rfl, by simp [Turn.becomes?, hid]⟩⟩
  · exact ⟨rfl, .inl ⟨rfl, rfl⟩⟩
  · simp [Input.call?] at hcall
  · refine ⟨rfl, .inr ⟨_, rfl, ?_⟩⟩
    simp only [Turn.becomes?, hclosing, hlive]
    cases Outcome.of (result.map (·.toVerdict)) with
    | ok => rfl
    | unknownSession => rfl
    | failed =>
      show (Turn.unsettles? l.turn).or _ = _
      unfold Turn.unsettles?
      split <;> simp_all [Life.turn]
  · simp [Input.call?] at hcall

/-- A session that is registered is open. -/
theorem Handles.opened_of_accepted (hh : l.Handles strategy l' i) {r : RegisterResponse}
    (ha : i.accepted? = some r) (hs : l.state.status = none) : l'.state.status = some .opened := by
  obtain ⟨attempt, result, rfl, hr⟩ := Input.accepted?_eq_some.1 ha
  rw [hh.state, Turn.handle_state, SessionState.change_status]
  simp only [Turn.becomes?, hr]
  exact SessionState.moveTo_status_of_unset hs (.inl rfl)

/-- A session begins to live when it is registered. -/
theorem Handles.beats_cases (hh : l.Handles strategy l' i) (hp : l.InPhase p) (hb : l'.Beats) :
    l.Beats ∨
      i.accepted?.isSome = true ∧ i.ended? = none ∧ l'.state.status = some .opened := by
  obtain ⟨ms, q, hl, hq⟩ := hh.next hp
  rcases hl.live_cases (hq.beats_iff.1 hb) with hlive | ⟨rfl, hcall⟩
  · exact .inl (hp.beats_iff.2 hlive)
  · have hnone : l.state.status = none := SessionState.standing_eq_none.1 hp.fits.standing
    have hclosing : l.turn.session.closing = false := hp.fits.closing
    rcases i with _ | (_ | ⟨attempt, result⟩ | _ | _) <;> try cases hcall
    cases hr : Turn.refusal? result with
    | ok r =>
      have haccepted := Input.accepted?_eq_some.2 ⟨attempt, result, rfl, hr⟩
      exact .inr ⟨by rw [haccepted]; rfl, rfl, hh.opened_of_accepted haccepted hnone⟩
    | error failure =>
      have hdead : l'.state = l.state := by
        rw [hh.state, Turn.handle_state]
        simp only [Turn.numbers?, Turn.becomes?, hr, hclosing]
        rfl
      exact absurd hb.1 (by simp [SessionState.isLive, hdead, hnone])

/-- A session expires before its end is asked for only if it is live, and disowned. -/
theorem Handles.expires (hh : l.Handles strategy l' i) (hp : l.InPhase p)
    (hc : l.session.closing = false) (hs : l.state.status ≠ some .expired)
    (he : l'.state.status = some .expired) :
    l.Beats ∧ i.ended? = some (.keepAlive, .unknownSession) := by
  have hbecomes : l.turn.becomes? i = some .expired := by
    rw [hh.state, Turn.handle_state] at he
    rcases l.turn.state.change_status_cases (Turn.numbers? i) (l.turn.becomes? i) with h | h
    · exact absurd (h.symm.trans he) hs
    · exact h.trans he
  have hclosing : l.turn.session.closing = false := hc
  rcases i with (w | w) | (⟨id, purpose⟩ | ⟨attempt, result⟩ | result | result)
  · cases hbecomes
  · simp only [Turn.becomes?] at hbecomes
    split at hbecomes <;> cases hbecomes
  · cases hbecomes
  · simp only [Turn.becomes?, hclosing] at hbecomes
    split at hbecomes <;> cases hbecomes
  · simp only [Turn.becomes?, hclosing] at hbecomes
    split at hbecomes
    · cases hbecomes
    · next hlive =>
      have hlive : l.state.isLive = true := by simpa [Life.turn] using hlive
      refine ⟨⟨hlive, hc⟩, ?_⟩
      simp only [Input.ended?]
      split at hbecomes
      · cases hbecomes
      · next ho => rw [ho]
      · unfold Turn.unsettles? at hbecomes
        split at hbecomes <;> cases hbecomes
  · -- an attempt to end the session has an outcome only after the end was asked for
    obtain ⟨ms, q, hl, -⟩ := hh.next hp
    have hending : p.look.closing = true := hl.closing_of_unregister
    exact absurd (hp.fits.closing.symm.trans hc) (by rw [hending]; decide)

/-! ## Truth -/

/-- A live session is unstable just if a heartbeat has faltered since it was last steady. -/
def Truthful (l : Life) (log : List Moment) : Prop :=
  l.Beats →
    (l.state.status = some .unstable ↔ Lately Moment.Falters Moment.Steadies log)

theorem born_truthful (clientId : String) (selector : Selector) :
    (born clientId selector).Truthful [] := by
  rintro ⟨hlive, -⟩
  cases hlive

theorem step_truthful {log : List Moment} (h : Happening) (hp : l.InPhase p)
    (ht : l.Truthful log) :
    (l.step strategy h).Truthful (log ++ [{ life := l, happening := h }]) := by
  intro hb
  rw [lately_concat, Moment.falters_iff, Moment.steadies_iff]
  rcases l.step_input strategy h with ⟨i, hi, hh⟩ | ⟨hi, ha, -⟩
  · rw [Moment.ended?_of_input hi, Moment.accepted?_of_input hi]
    by_cases hlive : l.Beats
    · obtain ⟨haccepted, ⟨hn, hs⟩ | ⟨o, ho, hs⟩⟩ := hh.status_of_beats hp hlive
      · rw [hs, ht hlive, haccepted, hn]
        simp
      · cases o with
        | ok => simp [hs, haccepted, ho]
        | unknownSession => exact absurd hb.1 (by simp [SessionState.isLive, hs])
        | failed =>
          cases hl : l.selector.leader with
          | none => simp [hs, haccepted, ho, hl]
          | some leader => simp [hs, haccepted, ho, hl, ht hlive]
    · obtain ⟨haccepted, hn, hs⟩ := (hh.beats_cases hp hb).resolve_left hlive
      simp [hs, haccepted, hn]
  · have hlive : l.Beats := by
      refine ⟨?_, ha.session ▸ hb.2⟩
      rw [SessionState.isLive_iff_status, ← ha.status]
      exact SessionState.isLive_iff_status.1 hb.1
    rw [Moment.ended?_of_none hi, Moment.accepted?_of_none hi, ha.status, ht hlive]
    simp

end

/-- **The status tells the truth about heartbeats.**  In every life, while the session is live and
    its end has not been asked for, it is unstable just if a heartbeat has failed while no leader
    was known, since the session was registered or last renewed; and it is open otherwise.  Before
    its end is asked for, the session expires just when a heartbeat of the live session is answered
    that the cluster does not know it. -/
theorem status_truthful (strategy : Strategy) (clientId : String) (selector : Selector)
    (hs : List Happening) :
    let l := lived strategy clientId selector hs
    let log := annals strategy clientId selector hs
    (l.Beats →
      (l.state.status = some .unstable ↔ Lately Moment.Falters Moment.Steadies log) ∧
      (l.state.status = some .opened ↔ ¬Lately Moment.Falters Moment.Steadies log)) ∧
    ∀ h, (l.state.status ≠ some .expired ∧ l.session.closing = false ∧
        (l.step strategy h).state.status = some .expired) ↔
      l.Beats ∧ Moment.Disowns .keepAlive { life := l, happening := h } := by
  intro l log
  obtain ⟨p, hp⟩ := lived_inPhase strategy clientId selector hs
  have htrue : l.Truthful log :=
    annals_induction (born_truthful clientId selector) (fun _ _ _ h => step_truthful h) hs
  refine ⟨fun hb => ⟨htrue hb, ?_⟩, fun h => ⟨?_, ?_⟩⟩
  · rw [← htrue hb]
    rcases SessionState.isLive_iff_status.1 hb.1 with hs | hs <;> simp [hs]
  · rintro ⟨hs, hc, he⟩
    rcases l.step_input strategy h with ⟨i, hi, hh⟩ | ⟨-, ha, -⟩
    · obtain ⟨hb, hended⟩ := hh.expires hp hc hs he
      refine ⟨hb, (Moment.disowns_iff (c := .keepAlive) nofun).2 ?_⟩
      rw [Moment.ended?_of_input hi, hended]
    · exact absurd (ha.status.symm.trans he) hs
  · rintro ⟨hb, hd⟩
    have hended := (Moment.disowns_iff (c := .keepAlive) nofun).1 hd
    refine ⟨?_, hb.2, ?_⟩
    · rcases SessionState.isLive_iff_status.1 hb.1 with hs | hs <;> simp [hs]
    · rcases l.step_input strategy h with ⟨i, hi, hh⟩ | ⟨hi, -, -⟩
      · rw [Moment.ended?_of_input hi] at hended
        obtain ⟨-, ⟨hn, -⟩ | ⟨o, ho, hs⟩⟩ := hh.status_of_beats hp hb
        · cases hn.symm.trans hended
        · cases ho.symm.trans hended
          exact hs
      · cases (Moment.ended?_of_none hi).symm.trans hended

/-- A heartbeat fails while no leader is known, and the next one renews the session. -/
example :
    (annals StrategyConfig.once.strategy "c" (.ofServers .any []) [
        .opening, .command, .outcome 0 (.ok (.register (.accept 7 7 none []))), .timer 0,
        .outcome 0 (.error .connectionClosed), .timer 0,
        .outcome 0 (.ok (.keepAlive (.accept none []))), .drop]).map (·.life.state.status) =
      [none, none, none, some .opened, some .opened, some .unstable, some .unstable,
        some .opened] := by
  decide +kernel

end Life

end ClusterSession
