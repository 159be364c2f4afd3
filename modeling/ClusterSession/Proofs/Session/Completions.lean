/-
  ClusterSession: answers say what happened.

  * `Moment.Answers`, `Moment.GivesUp`: what the task tells a caller, and that the strategy
    ends a round of attempts to register.
  * `Moment.Joins`, `Moment.EndsRound`: a caller joins a round, and a round ends.
  * `Life.Booked`: every caller whose command was taken in has been answered once, or waits;
    those who wait for the session to open are those of the round that is on.
  * `Life.Foretold`: what the flags tell of the commands that were taken in.
  * `completions_truthful`: what an answer says is true when it is given.
-/
import ClusterSession.Proofs.Session.Answers
import ClusterSession.Proofs.Session.Discipline
import ClusterSession.Proofs.Session.Silence
import ClusterSession.Proofs.Session.Statuses

namespace ClusterSession

namespace Moment

/-- The life that comes of a moment. -/
def next (strategy : Strategy) (m : Moment) : Life := m.life.step strategy m.happening

/-- The command that the task takes in. -/
def command? (m : Moment) : Option Command := m.input?.bind Input.command?

/-- A caller wants the session open. -/
def Opens (w : Waiter) (m : Moment) : Prop := m.command? = some (.opening w)

/-- A caller wants the session closed. -/
def Closes (w : Waiter) (m : Moment) : Prop := m.command? = some (.closing w)

/-- The task answers a caller. -/
def Answers (strategy : Strategy) (w : Waiter) (result : Except SessionError Unit) (m : Moment) :
    Prop :=
  .resolve w result ∈ (m.turn strategy).actions

/-- The callers whom the task answers. -/
def answered (strategy : Strategy) (m : Moment) : List Waiter :=
  (m.turn strategy).actions.filterMap Action.answered?

/-- The strategy, asked about a failed attempt to register, gives up. -/
def GivesUp (strategy : Strategy) (m : Moment) : Prop :=
  ∃ a error, .consult a (.fail error) ∈ (m.turn strategy).actions

/-- A caller who wants the session open joins a round of attempts to register it, or begins one. -/
def Joins (w : Waiter) (m : Moment) : Prop :=
  m.Opens w ∧ m.life.state.status = none ∧ m.life.session.closing = false

/-- A round of attempts to register ends: the strategy has given up, or the session has been
    registered, or its end is asked for. -/
def EndsRound (strategy : Strategy) (m : Moment) : Prop :=
  m.GivesUp strategy ∨ (∃ r, m.Accepts r) ∨ ∃ w, m.Closes w

end Moment

/-- An error and its echo look alike. -/
theorem SessionError.echo_alike (e : SessionError) :
    e.echo.message = e.message ∧ e.echo.isTerminal = e.isTerminal := by
  cases e <;> exact ⟨rfl, rfl⟩

/-- A built-in strategy that gives up has no error of its own. -/
theorem StrategyConfig.decide_fail {c : StrategyConfig} {a : Attempt} {error : Option SessionError}
    (h : c.decide a = .fail error) : error = none := by
  cases c with
  | fixedAttempts maxAttempts delayMs =>
    simp only [StrategyConfig.decide] at h
    split at h
    · cases h; rfl
    · split at h <;> cases h
  | _ => cases h <;> rfl

/-- A strategy is one of those that can be configured. -/
def Strategy.BuiltIn (strategy : Strategy) : Prop := ∃ c : StrategyConfig, strategy = c.strategy

/-! ## Moments -/

namespace Moment

section
variable {strategy : Strategy} {l : Life} {h : Happening} {i : Input} {w : Waiter}
variable {result : Except SessionError Unit}

theorem command?_of_input (hi : l.input? h = some i) : command? ⟨l, h⟩ = i.command? :=
  congrArg (Option.bind · Input.command?) hi

theorem command?_of_none (hi : l.input? h = none) : command? ⟨l, h⟩ = none :=
  congrArg (Option.bind · Input.command?) hi

theorem turn_of_input (hi : l.input? h = some i) :
    turn strategy ⟨l, h⟩ = l.turn.handle strategy i := by
  rw [turn, input?, hi]
  rfl

theorem turn_of_none (hi : l.input? h = none) : turn strategy ⟨l, h⟩ = l.turn := by
  rw [turn, input?, hi]
  rfl

theorem answers_of_input (hi : l.input? h = some i) :
    Answers strategy w result ⟨l, h⟩ ↔ .resolve w result ∈ (l.turn.handle strategy i).said := by
  rw [Answers, turn_of_input hi, Turn.mem_said rfl]

theorem answered_of_input (hi : l.input? h = some i) :
    answered strategy ⟨l, h⟩ = (l.turn.handle strategy i).said.filterMap Action.answered? := by
  rw [answered, turn_of_input hi, Turn.said_answered]

theorem answered_of_none (hi : l.input? h = none) : answered strategy ⟨l, h⟩ = [] := by
  rw [answered, turn_of_none hi]
  rfl

theorem givesUp_of_input (hi : l.input? h = some i) : GivesUp strategy ⟨l, h⟩ ↔
    ∃ a error, .consult a (.fail error) ∈ (l.turn.handle strategy i).said := by
  simp only [GivesUp, turn_of_input hi, Turn.mem_said (t := l.turn.handle strategy i)
    (show Action.isSaid (.consult _ _) = true from rfl)]

theorem not_endsRound_of_none (hi : l.input? h = none) : ¬EndsRound strategy ⟨l, h⟩ := by
  rintro (⟨a, error, ha⟩ | ⟨r, hr⟩ | ⟨w, hw⟩)
  · rw [turn_of_none hi] at ha
    cases ha
  · rw [accepts_iff, accepted?_of_none hi] at hr
    cases hr
  · rw [Closes, command?_of_none hi] at hw
    cases hw

end

end Moment

namespace Life

/-! ## What is known of callers -/

/-- Every caller whose command was taken in has been answered once, or waits.  Those who wait for
    the session to open have joined the round that is on; those who wait for it to close have
    asked for it. -/
structure Booked (strategy : Strategy) (l : Life) (log : List Moment) : Prop where
  taken : (log.filterMap Moment.command? ++ l.commands).map Command.waiter = List.range l.asked
  settled : (log.flatMap (Moment.answered strategy) ++
      (l.session.openWaiters ++ l.session.closeWaiters)).Perm
    ((log.filterMap Moment.command?).map Command.waiter)
  opens : ∀ w, w ∈ l.session.openWaiters ↔
    Lately (Moment.Joins w) (Moment.EndsRound strategy) log
  closes : ∀ w ∈ l.session.closeWaiters, ∃ m ∈ log, m.Closes w

section
variable {strategy : Strategy} {l l' : Life} {p : Phase} {log : List Moment} {i : Input}

theorem step_commands (strategy : Strategy) (l : Life) (h : Happening) :
    (Moment.command? ⟨l, h⟩).toList ++ (l.step strategy h).commands = l.commands ∧
        (l.step strategy h).asked = l.asked ∨
      Moment.command? ⟨l, h⟩ = none ∧ (l.step strategy h).asked = l.asked + 1 ∧
        ∃ c, Command.waiter c = l.asked ∧ (l.step strategy h).commands = l.commands ++ [c] := by
  have hself : Moment.command? ⟨l, h⟩ = none → (l.step strategy h).commands = l.commands →
      (l.step strategy h).asked = l.asked →
      (Moment.command? ⟨l, h⟩).toList ++ (l.step strategy h).commands = l.commands ∧
        (l.step strategy h).asked = l.asked := by
    intro hn hc ha
    rw [hn]
    exact ⟨hc, ha⟩
  -- a caller gives a command, if somebody holds a handle
  have hask : ∀ command : Waiter → Command, (∀ w, (command w).waiter = w) →
      l.happen strategy h = l.ask command → Moment.command? ⟨l, h⟩ = none →
      (Moment.command? ⟨l, h⟩).toList ++ (l.step strategy h).commands = l.commands ∧
          (l.step strategy h).asked = l.asked ∨
        Moment.command? ⟨l, h⟩ = none ∧ (l.step strategy h).asked = l.asked + 1 ∧
          ∃ c, Command.waiter c = l.asked ∧ (l.step strategy h).commands = l.commands ++ [c] := by
    intro command hw he hn
    unfold ask at he
    split at he
    · exact .inl (hself hn (congrArg Life.commands he :) (congrArg Life.asked he :))
    · exact .inr ⟨hn, (congrArg Life.asked he :), _, hw _, (congrArg Life.commands he :)⟩
  cases h with
  | opening => exact hask .opening (fun _ => rfl) rfl rfl
  | closing => exact hask .closing (fun _ => rfl) rfl rfl
  | clone | detach | stop =>
    refine .inl (hself rfl ?_ ?_) <;> simp only [step, happen] <;> split <;> rfl
  | drop | select | raise | nextCommand => exact .inl (hself rfl rfl rfl)
  | command =>
    left
    simp only [Moment.command?, Moment.input?, input?, step, happen, takeCommand]
    cases hs : l.stopped <;> cases hd : l.detached <;> cases hc : l.commands <;>
      simp [hc, take, Input.command?]
  | outcome k result =>
    refine .inl (hself ?_ ?_ ?_)
    · simp only [Moment.command?, Moment.input?, input?]
      split
      · rfl
      · cases l.outstanding[k]? <;> rfl
    all_goals
      simp only [step, happen, takeOutcome]
      split
      · rfl
      · split <;> rfl
  | timer k =>
    refine .inl (hself ?_ ?_ ?_)
    · simp only [Moment.command?, Moment.input?, input?]
      split
      · rfl
      · cases l.timers[k]? <;> rfl
    all_goals
      simp only [step, happen, takeTimer]
      split
      · rfl
      · split <;> rfl

/-- A session is not there yet if somebody waits for it to open. -/
theorem InPhase.standing_of_openWaiters (hp : l.InPhase p) (hw : l.session.openWaiters ≠ []) :
    p.standing = none := by
  have hwaits := hp.fits.openWaiters.1 hw
  cases p <;> first | rfl | cases hwaits

theorem InPhase.unset_of_openWaiters (hp : l.InPhase p) {w : Waiter}
    (hw : w ∈ l.session.openWaiters) : l.state.status = none := by
  rw [← SessionState.standing_eq_none, hp.fits.standing]
  exact hp.standing_of_openWaiters (List.ne_nil_of_mem hw)

/-- Nobody waits for a session to open that is there, or that is to end, or that has ended. -/
theorem InPhase.openWaiters_eq_nil (hp : l.InPhase p)
    (h : l.session.closing = true ∨ l.state.isEnded = true ∨ l.state.sessionId.isSome = true) :
    l.session.openWaiters = [] := by
  by_contra hne
  have hwaits := hp.fits.openWaiters.1 hne
  have hnew := hp.standing_of_openWaiters hne
  rcases h with h | h | h
  · rw [hp.fits.closing] at h
    revert h hwaits
    cases p <;> decide
  · rw [hp.fits.isEnded, hnew] at h
    cases h
  · rw [hp.fits.unnumbered hnew] at h
    cases h

theorem InPhase.closing_of_closeWaiters (hp : l.InPhase p) {w : Waiter}
    (hw : w ∈ l.session.closeWaiters) : l.session.closing = true := by
  have hwaits := hp.fits.closeWaiters.1 (List.ne_nil_of_mem hw)
  rw [hp.fits.closing]
  revert hwaits
  cases p <;> decide

/-- Once nobody waits any more for the session to close, it has ended. -/
theorem InPhase.isEnded_of_closing (hp : l.InPhase p) (hc : l.session.closing = true)
    (hw : l.session.closeWaiters = []) : l.state.isEnded = true := by
  have hwaits := hp.fits.closeWaiters.not.1 (not_not.2 hw)
  rw [hp.fits.closing] at hc
  rw [hp.isEnded_eq]
  revert hc hwaits
  cases p <;> decide

/-- Who waits for the session to open after an input. -/
theorem Handles.openWaiters (hh : l.Handles strategy l' i) (hp : l.InPhase p) {h : Happening}
    (hi : l.input? h = some i) (w : Waiter) : w ∈ l'.session.openWaiters ↔
      Moment.Joins w ⟨l, h⟩ ∨
        w ∈ l.session.openWaiters ∧ ¬Moment.EndsRound strategy ⟨l, h⟩ := by
  have hserved := Turn.handle_served (t := l.turn) rfl strategy i
  have hnobody : _ → w ∉ l.session.openWaiters := fun h => by
    rw [hp.openWaiters_eq_nil h]
    exact List.not_mem_nil
  rw [hh.session]
  simp only [Moment.EndsRound, Moment.givesUp_of_input hi, Moment.accepts_iff,
    Moment.accepted?_of_input hi, Moment.Closes, Moment.Joins, Moment.Opens,
    Moment.command?_of_input hi]
  change Turn.Serves .. at hserved
  generalize (l.turn.handle strategy i).said = said,
    (l.turn.handle strategy i).session.openWaiters = opens,
    (l.turn.handle strategy i).session.closeWaiters = closes at hserved ⊢
  have hopens : ∀ w, w ∈ l.turn.session.openWaiters ↔ w ∈ l.session.openWaiters :=
    fun _ => Iff.rfl
  cases hserved with
  | @silent e hs =>
    have haccepts : ∀ r, (Input.event e).accepted? = some r → w ∉ l.session.openWaiters :=
      fun r hr => hnobody (.inl (hs (Input.call?_of_accepted? hr)))
    simp only [Input.command?, hopens]
    simp
    exact fun hw r hr => haccepts r hr hw
  | @retry attempt result failure d hr _ _ hd =>
    have ha : (Input.event (.registered attempt result)).accepted? = none := by
      simp [Input.accepted?, hr, Except.toOption]
    simpa [Input.command?, ha, hopens] using fun _ error he => hd error he.symm
  | expired hst =>
    have hst : l.state.status = some .expired := hst
    simp [Input.command?, Input.accepted?, hst, hopens]
  | closed hst =>
    have hst : l.state.status = some .closed ∨
      l.state.status ≠ some .expired ∧ l.session.closing = true := hst
    rcases hst with hst | ⟨-, hst⟩ <;> simp [Input.command?, Input.accepted?, hst, hopens]
  | welcome hl hc =>
    have hl : l.state.isLive = true := hl
    rcases SessionState.isLive_iff_status.1 hl with hst | hst <;>
      simp [Input.command?, Input.accepted?, hst, hopens]
  | join hst hc =>
    have hst : l.state.status = none := hst
    have hc : l.session.closing = false := hc
    simp [Input.command?, Input.accepted?, hst, hc, hopens, or_comm, eq_comm]
  | already he => simpa [Input.command?, hopens] using hnobody (.inr (.inl he))
  | await he hc =>
    simpa [Input.command?, hopens] using hnobody (hc.imp id .inr)
  | leave he hc hid => simp [Input.command?]
  | quit he hc hid => simp [Input.command?]
  | opened ha hc => simp [Input.command?, ha]
  | gaveUp hr hc hd =>
    refine ⟨fun hw => absurd hw List.not_mem_nil, ?_⟩
    rintro (⟨hc, -⟩ | ⟨-, hends⟩)
    · cases hc
    · exact absurd (.inl ⟨_, _, List.mem_cons_self⟩) hends
  | ended ha _ => simp [Input.command?, ha, hopens, Turn.answers]

/-- Who waits for the session to close has asked for it. -/
theorem Handles.closeWaiters (hh : l.Handles strategy l' i) {h : Happening}
    (hi : l.input? h = some i) {w : Waiter} (hw : w ∈ l'.session.closeWaiters) :
    w ∈ l.session.closeWaiters ∨ Moment.Closes w ⟨l, h⟩ := by
  have hserved := Turn.handle_served (t := l.turn) rfl strategy i
  rw [Moment.Closes, Moment.command?_of_input hi]
  rw [hh.session] at hw
  change Turn.Serves .. at hserved
  generalize (l.turn.handle strategy i).said = said,
    (l.turn.handle strategy i).session.openWaiters = opens,
    (l.turn.handle strategy i).session.closeWaiters = closes at hserved hw
  cases hserved with
  | await | leave =>
    rcases List.mem_append.1 hw with hw | hw
    · exact .inl hw
    · rw [List.mem_singleton.1 hw]
      exact .inr rfl
  | quit | ended => cases hw
  | _ => exact .inl hw

theorem step_booked (h : Happening) (hp : l.InPhase p) (hl : l.Booked strategy log) :
    (l.step strategy h).Booked strategy (log ++ [{ life := l, happening := h }]) := by
  have htaken : ((log ++ [(⟨l, h⟩ : Moment)]).filterMap Moment.command? ++
      (l.step strategy h).commands).map Command.waiter = List.range (l.step strategy h).asked := by
    rw [filterMap_concat, List.append_assoc]
    rcases step_commands strategy l h with ⟨hc, ha⟩ | ⟨hn, ha, c, hw, hc⟩
    · rw [hc, ha, hl.taken]
    · rw [hn, hc, ha, List.range_succ, ← hl.taken]
      simp [hw]
  rcases l.step_input strategy h with ⟨i, hi, hh⟩ | ⟨hi, ha, -⟩
  · refine ⟨htaken, ?_, fun w => ?_, fun w hw => ?_⟩
    · have hserved := Turn.handle_served (t := l.turn) rfl strategy i
      rw [filterMap_concat, List.flatMap_append, List.flatMap_singleton,
        Moment.answered_of_input hi, Moment.command?_of_input hi, hh.session, List.map_append,
        List.append_assoc]
      refine (hserved.perm.append_left _).trans ?_
      rw [← List.append_assoc, Option.toList_map]
      exact hl.settled.append_right _
    · rw [lately_concat, hh.openWaiters hp hi, hl.opens]
    · rcases hh.closeWaiters hi hw with hw | hw
      · obtain ⟨m, hm, hc⟩ := hl.closes w hw
        exact ⟨m, List.mem_append_left _ hm, hc⟩
      · exact ⟨_, List.mem_append_right _ List.mem_cons_self, hw⟩
  · have hcommand := Moment.command?_of_none hi
    refine ⟨htaken, ?_, fun w => ?_, fun w hw => ?_⟩
    · rw [filterMap_concat, List.flatMap_append, List.flatMap_singleton,
        Moment.answered_of_none hi, hcommand, ha.session]
      simpa using hl.settled
    · have hends : ¬Moment.EndsRound strategy ⟨l, h⟩ := Moment.not_endsRound_of_none hi
      have hjoins : ¬Moment.Joins w ⟨l, h⟩ := fun hj => nomatch hcommand.symm.trans hj.1
      rw [ha.session, hl.opens, lately_concat]
      simp [hends, hjoins]
    · rw [ha.session] at hw
      obtain ⟨m, hm, hc⟩ := hl.closes w hw
      exact ⟨m, List.mem_append_left _ hm, hc⟩

end

section
variable {strategy : Strategy} {clientId : String} {selector : Selector} {hs : List Happening}

theorem annals_booked : (lived strategy clientId selector hs).Booked strategy
    (annals strategy clientId selector hs) := by
  refine annals_induction (P := Booked strategy) ⟨rfl, .refl _, fun w => ?_, nofun⟩
    (fun _ _ _ h => step_booked h) hs
  exact iff_of_false List.not_mem_nil not_lately_nil

end

section
variable {strategy : Strategy} {l : Life} {log : List Moment} {w : Waiter}

/-- No two commands come from one caller. -/
theorem Booked.nodup (hl : l.Booked strategy log) :
    ((log.filterMap Moment.command?).map Command.waiter).Nodup := by
  have h := hl.taken ▸ List.nodup_range
  rw [List.map_append] at h
  exact h.of_append_left

/-- A caller is answered at most once, and does not wait afterwards. -/
theorem Booked.count_le (hl : l.Booked strategy log) :
    (log.flatMap (Moment.answered strategy)).count w + l.session.openWaiters.count w +
      l.session.closeWaiters.count w ≤ 1 := by
  have hcount := hl.settled.count_eq w
  have hle := List.nodup_iff_count_le_one.1 hl.nodup w
  rw [List.count_append, List.count_append] at hcount
  omega

/-- The commands of one caller are one command. -/
theorem Booked.command_inj (hl : l.Booked strategy log) {m m' : Moment} (hm : m ∈ log)
    (hm' : m' ∈ log) {c c' : Command} (hc : m.command? = some c) (hc' : m'.command? = some c')
    (hw : c.waiter = c'.waiter) : c = c' :=
  List.inj_on_of_nodup_map hl.nodup (List.mem_filterMap.2 ⟨m, hm, hc⟩)
    (List.mem_filterMap.2 ⟨m', hm', hc'⟩) hw

end

/-! ## What is known of the end -/

/-- The flags and the status tell whether a caller has wanted the session closed. -/
structure Foretold (l : Life) (log : List Moment) : Prop where
  asked : l.session.closing = true → ∃ m ∈ log, ∃ w, m.Closes w
  closing : (∃ m ∈ log, ∃ w, m.Closes w) →
    l.session.closing = true ∨ l.state.status = some .expired
  closed : l.state.status = some .closed → l.session.closing = true

section
variable {strategy : Strategy} {l l' : Life} {p : Phase} {log : List Moment} {i : Input}

/-- The status of a session that has ended stays. -/
theorem step_status_of_ended (hp : l.InPhase p) (he : l.state.isEnded = true) (h : Happening) :
    (l.step strategy h).state.status = l.state.status :=
  (step_of_ended strategy hp (hp.fits.isEnded.1 he) h).2.1.status

/-- A session is closed only if that has been asked for. -/
theorem Handles.closing_of_closed (hh : l.Handles strategy l' i) (hp : l.InPhase p)
    (hc : l.state.status = some .closed → l.session.closing = true)
    (hs : l'.state.status = some .closed) : l'.session.closing = true := by
  rw [hh.session]
  have hstays : l.session.closing = true → (l.turn.handle strategy i).session.closing = true :=
    fun h => Turn.handle_closing strategy h
  rw [hh.state, Turn.handle_state] at hs
  rcases l.turn.state.change_status_cases (Turn.numbers? i) (l.turn.becomes? i) with h | h
  · exact hstays (hc (h.symm.trans hs))
  · have hbecomes : l.turn.becomes? i = some .closed := h.trans hs
    rcases i with (w | w) | (⟨id, purpose⟩ | ⟨attempt, result⟩ | result | result)
    · cases hbecomes
    · refine Turn.onClose_closing ?_ w
      rw [← Bool.not_eq_true]
      intro he
      simp [Turn.becomes?, he] at hbecomes
    · cases hbecomes
    · simp only [Turn.becomes?] at hbecomes
      split at hbecomes
      · cases hbecomes
      · split at hbecomes
        · next hclosing => exact hstays hclosing
        · cases hbecomes
    · simp only [Turn.becomes?, Turn.unsettles?] at hbecomes
      split at hbecomes
      · cases hbecomes
      · split at hbecomes <;> first | cases hbecomes | (split at hbecomes <;> cases hbecomes)
    · obtain ⟨ms, q, hl, -⟩ := hh.next hp
      exact hstays (hp.fits.closing.trans hl.closing_of_unregister)

/-- A session whose end is asked for while it lasts does not expire then. -/
theorem Handles.not_expired_of_closing {w : Waiter}
    (hh : l.Handles strategy l' (.command (.closing w))) (he : l.state.isEnded = false) :
    l'.state.status ≠ some .expired := by
  intro hs
  rw [hh.state, Turn.handle_state] at hs
  rcases l.turn.state.change_status_cases _ _ with h | h
  · have hended := SessionState.isEnded_iff_status.2 (.inl (h.symm.trans hs))
    cases (show l.state.isEnded = false from he).symm.trans hended
  · have hbecomes := h.trans hs
    simp only [Turn.becomes?] at hbecomes
    split at hbecomes <;> cases hbecomes

theorem step_foretold (h : Happening) (hp : l.InPhase p) (hl : l.Foretold log) :
    (l.step strategy h).Foretold (log ++ [{ life := l, happening := h }]) := by
  have hend : l.state.status = some .expired →
      (l.step strategy h).state.status = some .expired := fun hs =>
    (step_status_of_ended hp (SessionState.isEnded_iff_status.2 (.inl hs)) h).trans hs
  rcases l.step_input strategy h with ⟨i, hi, hh⟩ | ⟨hi, ha, -⟩
  · have hstays : l.session.closing = true → (l.step strategy h).session.closing = true :=
      fun hc => hh.session ▸ Turn.handle_closing strategy hc
    refine ⟨fun hc => ?_, ?_, hh.closing_of_closed hp hl.closed⟩
    · by_cases hcloses : ∃ w, i = .command (.closing w)
      · obtain ⟨w, rfl⟩ := hcloses
        exact ⟨_, List.mem_append_right _ List.mem_cons_self, w, Moment.command?_of_input hi⟩
      · rw [hh.session, Turn.handle_closing_of_ne strategy fun w he => hcloses ⟨w, he⟩] at hc
        obtain ⟨m, hm, hw⟩ := hl.asked hc
        exact ⟨m, List.mem_append_left _ hm, hw⟩
    · rintro ⟨m, hm, w, hw⟩
      rcases List.mem_append.1 hm with hm | hm
      · exact (hl.closing ⟨m, hm, w, hw⟩).imp hstays hend
      · obtain rfl := List.mem_singleton.1 hm
        rw [Moment.Closes, Moment.command?_of_input hi] at hw
        obtain rfl := Input.eq_of_command? hw
        cases he : l.state.isEnded with
        | false => exact .inl (hh.session ▸ Turn.onClose_closing he w)
        | true =>
          exact (SessionState.isEnded_iff_status.1 he).symm.imp
            (fun hs => hstays (hl.closed hs)) hend
  · have hcommand := Moment.command?_of_none hi
    refine ⟨fun hc => ?_, ?_, fun hs => ?_⟩
    · obtain ⟨m, hm, hw⟩ := hl.asked (ha.session ▸ hc)
      exact ⟨m, List.mem_append_left _ hm, hw⟩
    · rintro ⟨m, hm, w, hw⟩
      rcases List.mem_append.1 hm with hm | hm
      · rw [ha.session]
        exact (hl.closing ⟨m, hm, w, hw⟩).imp id hend
      · obtain rfl := List.mem_singleton.1 hm
        cases hcommand.symm.trans hw
    · rw [ha.session]
      exact hl.closed (ha.status ▸ hs)

end

theorem born_foretold (clientId : String) (selector : Selector) :
    (born clientId selector).Foretold [] where
  asked h := nomatch h
  closing := by
    rintro ⟨m, hm, -⟩
    cases hm
  closed h := nomatch h

/-- Once the session has had a status, it has that status. -/
def Keeps (strategy : Strategy) (s : SessionStatus) (l : Life) (log : List Moment) : Prop :=
  (∃ m ∈ log, (m.next strategy).state.status = some s) → l.state.status = some s

section
variable {strategy : Strategy} {clientId : String} {selector : Selector} {hs : List Happening}

theorem annals_foretold :
    (lived strategy clientId selector hs).Foretold (annals strategy clientId selector hs) :=
  annals_induction (P := Foretold) (born_foretold clientId selector)
    (fun _ _ _ h => step_foretold h) hs

/-- A status in which the session has ended holds forever. -/
theorem annals_ended {s : SessionStatus} (hs' : s = .expired ∨ s = .closed) :
    (lived strategy clientId selector hs).Keeps strategy s
      (annals strategy clientId selector hs) := by
  refine annals_induction (P := Keeps strategy s) (by simp [Keeps]) ?_ hs
  rintro l p log h hp ih ⟨m, hm, hms⟩
  rcases List.mem_append.1 hm with hm | hm
  · have hold := ih ⟨m, hm, hms⟩
    have hended : l.state.isEnded = true := by
      rw [SessionState.isEnded_iff_status, hold]
      exact hs'.imp (congrArg some) (congrArg some)
    exact (step_status_of_ended hp hended h).trans hold
  · obtain rfl := List.mem_singleton.1 hm
    exact hms

end

/-! ## Answers -/

/-- What is known at a moment. -/
structure Known (strategy : Strategy) (before : List Moment) (m : Moment) (p : Phase) : Prop where
  phase : m.life.InPhase p
  booked : m.life.Booked strategy before
  foretold : m.life.Foretold before
  booked_next : (m.next strategy).Booked strategy (before ++ [m])

theorem annals_known {strategy : Strategy} {clientId : String} {selector : Selector}
    {hs : List Happening} {before after : List Moment} {m : Moment}
    (h : annals strategy clientId selector hs = before ++ m :: after) :
    ∃ p, Known strategy before m p := by
  obtain ⟨past, hbefore, hlife, hnow, hnext⟩ := annals_split h
  obtain ⟨p, hp⟩ := lived_inPhase strategy clientId selector past
  exact ⟨p, hlife ▸ hp, hlife ▸ hbefore ▸ annals_booked, hlife ▸ hbefore ▸ annals_foretold,
    show Booked strategy (m.life.step strategy m.happening) _ from hnext ▸ hnow ▸ annals_booked⟩

section
variable {strategy : Strategy} {before : List Moment} {m : Moment} {p : Phase} {w : Waiter}
variable {result : Except SessionError Unit}

/-- Nobody wants the session both open and closed. -/
theorem Known.apart (hk : Known strategy before m p) (ho : ∃ d ∈ before ++ [m], d.Opens w)
    (hc : ∃ d ∈ before ++ [m], d.Closes w) : False := by
  obtain ⟨d, hd, ho⟩ := ho
  obtain ⟨d', hd', hc⟩ := hc
  cases hk.booked_next.command_inj hd hd' ho hc rfl

/-- Whoever waits for the session to open has joined a round. -/
theorem Known.opener (hk : Known strategy before m p) (hw : w ∈ m.life.session.openWaiters) :
    ∃ d ∈ before ++ [m], d.Opens w ∧ d.life.state.status = none := by
  obtain ⟨a, d, b, rfl, hj, -⟩ := (hk.booked.opens w).1 hw
  exact ⟨d, by simp, hj.1, hj.2.1⟩

/-- Whoever waits for the session to close has asked for it. -/
theorem Known.closer (hk : Known strategy before m p) {i : Input}
    (hi : m.life.input? m.happening = some i)
    (hw : w ∈ m.life.session.closeWaiters ∨ i = .command (.closing w)) :
    ∃ d ∈ before ++ [m], d.Closes w := by
  rcases hw with hw | rfl
  · obtain ⟨d, hd, hc⟩ := hk.booked.closes w hw
    exact ⟨d, List.mem_append_left _ hd, hc⟩
  · exact ⟨m, by simp, Moment.command?_of_input hi⟩

/-- An answer has a reason. -/
theorem reason_of_answers (ha : m.Answers strategy w result) :
    ∃ i, m.life.input? m.happening = some i ∧ m.life.Handles strategy (m.next strategy) i ∧
      m.life.turn.Reason (m.turn strategy).said (m.next strategy).session.closeWaiters i w
        result := by
  rcases m.life.step_input strategy m.happening with ⟨i, hi, hh⟩ | ⟨hi, -, -⟩
  · refine ⟨i, hi, hh, ?_⟩
    have hserved := Turn.handle_served (t := m.life.turn) rfl strategy i
    rw [show (m.next strategy).session = _ from hh.session, Moment.turn_of_input hi]
    exact hserved.reason ((Moment.answers_of_input hi).1 ha)
  · rw [Moment.Answers, Moment.turn_of_none hi] at ha
    cases ha

/-- Nobody has wanted the session closed while it is not to end, and has not expired. -/
theorem Known.not_closes (hk : Known strategy before m p) (hc : m.life.session.closing = false)
    (hs : m.life.state.status ≠ some .expired) (hm : ∀ w, ¬m.Closes w) :
    ∀ d ∈ before ++ [m], ∀ w, ¬d.Closes w := by
  intro d hd w hw
  rcases List.mem_append.1 hd with hd | hd
  · rcases hk.foretold.closing ⟨d, hd, w, hw⟩ with h | h
    · exact absurd (h.symm.trans hc) nofun
    · exact hs h
  · rw [List.mem_singleton.1 hd] at hw
    exact hm w hw

/-- A session that is closed, or is to end, and has not expired, is wanted closed. -/
theorem Known.closes (hk : Known strategy before m p)
    (hs : m.life.state.status = some .closed ∨
      m.life.state.status ≠ some .expired ∧ m.life.session.closing = true) :
    (∃ d ∈ before ++ [m], ∃ w, d.Closes w) ∧ m.life.state.status ≠ some .expired := by
  have hasked : m.life.session.closing = true → ∃ d ∈ before ++ [m], ∃ w, d.Closes w := by
    intro hc
    obtain ⟨d, hd, hw⟩ := hk.foretold.asked hc
    exact ⟨d, List.mem_append_left _ hd, hw⟩
  rcases hs with hs | ⟨hs, hc⟩
  · exact ⟨hasked (hk.foretold.closed hs), by rw [hs]; nofun⟩
  · exact ⟨hasked hc, hs⟩

/-- A caller who wants the session closed is told so when it has ended, and nothing else. -/
theorem Known.close_told (hk : Known strategy before m p) (ha : m.Answers strategy w result)
    (hc : ∃ d ∈ before ++ [m], d.Closes w) :
    result = .ok () ∧ (m.next strategy).state.isEnded = true := by
  obtain ⟨i, hi, hh, hr⟩ := reason_of_answers ha
  have hopens : i ≠ .command (.opening w) := by
    rintro rfl
    exact hk.apart ⟨m, by simp, Moment.command?_of_input hi⟩ hc
  have hwaits : w ∉ m.life.session.openWaiters := by
    intro hw
    obtain ⟨d, hd, ho, -⟩ := hk.opener hw
    exact hk.apart ⟨d, hd, ho⟩ hc
  have hstays : m.life.state.isEnded = true → (m.next strategy).state.isEnded = true :=
    fun he => hh.state ▸ Turn.handle_isEnded strategy he
  cases hr with
  | expired h | closed h | welcome h => exact absurd h hopens
  | left hw | opened hw | gaveUp hw => exact absurd hw hwaits
  | already _ he => exact ⟨rfl, hstays he⟩
  | ended hw hnobody =>
    refine ⟨rfl, ?_⟩
    cases he : m.life.state.isEnded with
    | true => exact hstays he
    | false =>
      obtain ⟨ms, q, -, hq⟩ := hh.next hk.phase
      refine hq.isEnded_of_closing ?_ hnobody
      rw [hh.session]
      rcases hw with hw | rfl
      · exact Turn.handle_closing strategy (hk.phase.closing_of_closeWaiters hw)
      · exact Turn.onClose_closing he w

/-- A strategy that gives up is asked while the session is being registered, and fails those who
    have joined the round. -/
theorem Known.gave_up (hk : Known strategy before m p) {a : Attempt} {error : Option SessionError}
    (hg : .consult a (.fail error) ∈ (m.turn strategy).actions) :
    (m.next strategy).state.status = none ∧ (m.next strategy).state.sessionId = none ∧
      (∀ d ∈ before ++ [m], ∀ w, ¬d.Closes w) ∧
      ∀ w ∈ m.life.session.openWaiters, ∃ e, m.Answers strategy w (.error e) ∧
        (e = error.getD .gaveUp ∨ e = (error.getD .gaveUp).echo) := by
  have hg := (Turn.mem_said rfl).2 hg
  rcases m.life.step_input strategy m.happening with ⟨i, hi, hh⟩ | ⟨hi, -, -⟩
  · rw [Moment.turn_of_input hi] at hg
    have hserved := Turn.handle_served (t := m.life.turn) rfl strategy i
    obtain ⟨hsaid, -, hcall, haccepted, hclosing, -⟩ := hserved.gave_up hg
    have hunset : m.life.state.status = none ∧ m.life.state.sessionId = none := by
      obtain ⟨ms, q, hl, -⟩ := hh.next hk.phase
      have hstanding : p.standing = none := by
        rw [hcall] at hl
        cases hl with
        | ignore hl => cases p <;> cases hl
        | _ => rfl
      exact ⟨SessionState.standing_eq_none.1 (hk.phase.fits.standing.trans hstanding),
        hk.phase.fits.unnumbered hstanding⟩
    have hstate : (m.next strategy).state = m.life.state := by
      have hclosing : m.life.turn.session.closing = false := hclosing
      rw [show (m.next strategy).state = _ from hh.state, Turn.handle_state]
      rcases i with _ | (_ | ⟨attempt, result⟩ | _ | _) <;> try cases hcall
      simp only [Input.accepted?] at haccepted
      simp only [Turn.numbers?, Turn.becomes?, hclosing]
      cases hr : Turn.refusal? result with
      | ok r => rw [hr] at haccepted; cases haccepted
      | error failure => rfl
    rw [hstate]
    refine ⟨hunset.1, hunset.2, ?_, fun w hw => ?_⟩
    · refine hk.not_closes hclosing (by simp [hunset.1]) fun w hw => ?_
      rw [Moment.Closes, Moment.command?_of_input hi] at hw
      cases (Input.eq_of_command? hw ▸ hcall : (Input.command _).call? = _)
    obtain ⟨e, he, hee⟩ := Turn.mem_failures (error.getD .gaveUp) hw
    refine ⟨e, (Moment.answers_of_input hi).2 ?_, hee⟩
    rw [hsaid]
    exact List.mem_cons_of_mem _ he
  · rw [Moment.turn_of_none hi] at hg
    cases hg

/-- A built-in strategy gives up without an error of its own. -/
theorem builtIn_error (hs : strategy.BuiltIn) {a : Attempt} {error : Option SessionError}
    (hg : .consult a (.fail error) ∈ (m.turn strategy).said) : error = none := by
  obtain ⟨c, rfl⟩ := hs
  rcases m.life.step_input c.strategy m.happening with ⟨i, hi, hh⟩ | ⟨hi, -, -⟩
  · rw [Moment.turn_of_input hi] at hg
    have hserved := Turn.handle_served (t := m.life.turn) rfl c.strategy i
    obtain ⟨-, -, -, -, -, hd⟩ := hserved.gave_up hg
    exact StrategyConfig.decide_fail hd
  · rw [Moment.turn_of_none hi] at hg
    cases hg

/-- A caller who wants the session open is told that it has expired just if it has, when the
    command is taken in. -/
theorem told_expired_iff (hs : strategy.BuiltIn) :
    m.Answers strategy w (.error .sessionExpired) ↔
      m.Opens w ∧ m.life.state.status = some .expired := by
  constructor
  · intro ha
    obtain ⟨i, hi, hh, hr⟩ := reason_of_answers ha
    cases hr with
    | expired h hst =>
      subst h
      exact ⟨Moment.command?_of_input hi, hst⟩
    | gaveUp _ hg he =>
      obtain rfl := builtIn_error hs hg
      rcases he with he | he <;> cases he
  · rintro ⟨ho, hst⟩
    rcases m.life.step_input strategy m.happening with ⟨i, hi, hh⟩ | ⟨hi, -, -⟩
    · rw [Moment.Opens, Moment.command?_of_input hi] at ho
      obtain rfl : i = .command (.opening w) := Input.eq_of_command? ho
      rw [Moment.answers_of_input hi]
      show _ ∈ (m.life.turn.onOpen w).said
      have hst : m.life.turn.state.status = some .expired := hst
      unfold Turn.onOpen
      rw [hst]
      simp
    · cases (Moment.command?_of_none hi).symm.trans ho

/-- A caller who wants the session open is told that the registration has failed just if the
    strategy has given up on the round that the caller joined. -/
theorem Known.told_failed_iff (hk : Known strategy before m p) (hs : strategy.BuiltIn) :
    (∃ text, m.Answers strategy w (.error (.registrationFailed text))) ↔
      m.GivesUp strategy ∧ Lately (Moment.Joins w) (Moment.EndsRound strategy) before := by
  constructor
  · rintro ⟨text, ha⟩
    obtain ⟨i, hi, hh, hr⟩ := reason_of_answers ha
    cases hr with
    | gaveUp hw hg => exact ⟨⟨_, _, (Turn.mem_said rfl).1 hg⟩, (hk.booked.opens w).1 hw⟩
  · rintro ⟨⟨a, error, hg⟩, hround⟩
    obtain ⟨-, -, -, hfail⟩ := hk.gave_up hg
    obtain ⟨e, ha, he⟩ := hfail w ((hk.booked.opens w).2 hround)
    obtain rfl := builtIn_error hs ((Turn.mem_said rfl).2 hg)
    refine ⟨SessionError.gaveUp.message, ?_⟩
    rcases he with rfl | rfl <;> exact ha

/-- What a caller is told who wants the session open: that it is open only if it is, and nobody has
    wanted it closed; and that it is closed just if somebody has, and it has not expired. -/
theorem Known.open_told (hk : Known strategy before m p) (hs : strategy.BuiltIn)
    (ha : m.Answers strategy w result) (ho : ∃ d ∈ before ++ [m], d.Opens w) :
    (result = .ok () → (m.next strategy).state.isLive = true ∧
      (m.next strategy).state.sessionId.isSome = true ∧
      ∀ d ∈ before ++ [m], ∀ w', ¬d.Closes w') ∧
    (result = .error .sessionClosed ↔ (∃ d ∈ before ++ [m], ∃ w', d.Closes w') ∧
      (m.next strategy).state.status ≠ some .expired) := by
  obtain ⟨i, hi, hh, hr⟩ := reason_of_answers ha
  obtain ⟨ms, q, hl, hq⟩ := hh.next hk.phase
  have hkept : i = .command (.opening w) → (m.next strategy).state = m.life.state := by
    rintro rfl
    exact hh.state.trans (Turn.onOpen_state _ _)
  have hcloses : (∀ w', i ≠ .command (.closing w')) → ∀ w', ¬m.Closes w' := fun hne w' hc =>
    hne w' (Input.eq_of_command? ((Moment.command?_of_input hi).symm.trans hc))
  have hnumbered : (m.next strategy).state.isLive = true →
      (m.next strategy).state.sessionId.isSome = true :=
    fun hlive => hq.fits.numbered (hq.fits.isLive.1 hlive)
  have hnobody : (∀ d ∈ before ++ [m], ∀ w', ¬d.Closes w') →
      ¬((∃ d ∈ before ++ [m], ∃ w', d.Closes w') ∧
        (m.next strategy).state.status ≠ some .expired) :=
    fun hnone ⟨⟨d, hd, w', hw'⟩, _⟩ => hnone d hd w' hw'
  cases hr with
  | expired h hst =>
    refine ⟨nofun, nofun, fun hne => absurd ?_ hne.2⟩
    rw [hkept h]
    exact hst
  | closed h hst =>
    refine ⟨nofun, fun _ => ?_, fun _ => rfl⟩
    rw [hkept h]
    exact hk.closes hst
  | welcome h hlive hc =>
    have hlive : m.life.state.isLive = true := hlive
    have hnone : ∀ d ∈ before ++ [m], ∀ w', ¬d.Closes w' := by
      refine hk.not_closes hc ?_ (hcloses fun w' hw' => by cases h.symm.trans hw')
      rcases SessionState.isLive_iff_status.1 hlive with hst | hst <;> rw [hst] <;> nofun
    have hlive : (m.next strategy).state.isLive = true := hkept h ▸ hlive
    exact ⟨fun _ => ⟨hlive, hnumbered hlive, hnone⟩, nofun, fun hc => absurd hc (hnobody hnone)⟩
  | left hw h he =>
    subst h
    exact ⟨nofun, fun _ => ⟨⟨m, by simp, _, Moment.command?_of_input hi⟩,
      hh.not_expired_of_closing he⟩, fun _ => rfl⟩
  | opened hw hacc hc =>
    have hunset := hk.phase.unset_of_openWaiters hw
    have hstatus := hh.opened_of_accepted hacc hunset
    have hnone : ∀ d ∈ before ++ [m], ∀ w', ¬d.Closes w' := by
      refine hk.not_closes hc (by rw [hunset]; nofun) (hcloses fun w' hw' => ?_)
      subst hw'
      cases hacc
    have hlive := SessionState.isLive_iff_status.2 (.inl hstatus)
    exact ⟨fun _ => ⟨hlive, hnumbered hlive, hnone⟩, nofun, fun hc => absurd hc (hnobody hnone)⟩
  | gaveUp hw hg he =>
    obtain rfl := builtIn_error hs hg
    obtain ⟨-, -, hnone, -⟩ := hk.gave_up ((Turn.mem_said rfl).1 hg)
    refine ⟨nofun, fun hr => ?_, fun hc => absurd hc (hnobody hnone)⟩
    rcases he with rfl | rfl <;> cases hr
  | already h => exact (hk.apart ho (hk.closer hi (.inr h))).elim
  | ended hw => exact (hk.apart ho (hk.closer hi hw)).elim

end

/-- **Answers say what happened.**  In every life, a caller who wants the session closed is told
    nothing but that it is, and only when it has expired or is closed, which then holds forever.
    When the strategy gives up on a round of attempts to register, there is no session, and each
    caller who has joined the round is answered once, with an error; these errors read alike, and
    are alike terminal.  With a built-in strategy, a caller who wants the session open is told that
    it is only while it is live and has a number, and nobody has wanted it closed; that it has
    expired just if it has when the command is taken in; that it is closed just if somebody has
    wanted that before, or does now, and it has not expired; and that the registration has failed
    just if the strategy has given up on the round that the caller joined. -/
theorem completions_truthful (strategy : Strategy) (clientId : String) (selector : Selector)
    (hs : List Happening) :
    let l := lived strategy clientId selector hs
    let log := annals strategy clientId selector hs
    (∀ before m after w result, log = before ++ m :: after → m.Answers strategy w result →
      (∃ d ∈ before ++ [m], d.Closes w) →
      result = .ok () ∧ ∃ s, (s = .expired ∨ s = .closed) ∧
        (m.next strategy).state.status = some s ∧
        (∀ d ∈ after, d.life.state.status = some s) ∧ l.state.status = some s) ∧
    (∀ before m after, log = before ++ m :: after → m.GivesUp strategy →
      (m.next strategy).state.status = none ∧ (m.next strategy).state.sessionId = none ∧
      ∃ e : SessionError, ∀ w, Lately (Moment.Joins w) (Moment.EndsRound strategy) before →
        (∃ e', m.Answers strategy w (.error e') ∧ e'.message = e.message ∧
          e'.isTerminal = e.isTerminal) ∧
        (log.flatMap (Moment.answered strategy)).count w = 1) ∧
    (strategy.BuiltIn → ∀ before m after w, log = before ++ m :: after →
      (∀ result, m.Answers strategy w result → (∃ d ∈ before ++ [m], d.Opens w) →
        (result = .ok () → (m.next strategy).state.isLive = true ∧
          (m.next strategy).state.sessionId.isSome = true ∧
          ∀ d ∈ before ++ [m], ∀ w', ¬d.Closes w') ∧
        (result = .error .sessionClosed ↔ (∃ d ∈ before ++ [m], ∃ w', d.Closes w') ∧
          (m.next strategy).state.status ≠ some .expired)) ∧
      (m.Answers strategy w (.error .sessionExpired) ↔
        m.Opens w ∧ m.life.state.status = some .expired) ∧
      ((∃ text, m.Answers strategy w (.error (.registrationFailed text))) ↔
        m.GivesUp strategy ∧ Lately (Moment.Joins w) (Moment.EndsRound strategy) before)) := by
  intro l log
  refine ⟨fun before m after w result hlog ha hc => ?_, fun before m after hlog hg => ?_,
    fun hs before m after w hlog => ?_⟩
  · obtain ⟨p, hk⟩ := annals_known hlog
    obtain ⟨hr, hended⟩ := hk.close_told ha hc
    have hm : m ∈ log := hlog ▸ by simp
    have hforever : ∀ s, (s = .expired ∨ s = .closed) → (m.next strategy).state.status = some s →
        (∀ d ∈ after, d.life.state.status = some s) ∧ l.state.status = some s := by
      intro s hs hst
      refine ⟨fun d hd => ?_, annals_ended hs ⟨m, hm, hst⟩⟩
      obtain ⟨between, hkeeps⟩ :=
        annals_later (P := Keeps strategy s) (fun _ => annals_ended hs) hlog hd
      exact hkeeps ⟨m, by simp, hst⟩
    rcases SessionState.isEnded_iff_status.1 hended with hst | hst
    · exact ⟨hr, _, .inl rfl, hst, hforever _ (.inl rfl) hst⟩
    · exact ⟨hr, _, .inr rfl, hst, hforever _ (.inr rfl) hst⟩
  · obtain ⟨p, hk⟩ := annals_known hlog
    obtain ⟨a, error, hg⟩ := hg
    obtain ⟨hstatus, hid, -, hfail⟩ := hk.gave_up hg
    refine ⟨hstatus, hid, error.getD .gaveUp, fun w hround => ?_⟩
    obtain ⟨e, ha, he⟩ := hfail w ((hk.booked.opens w).2 hround)
    refine ⟨⟨e, ha, ?_⟩, ?_⟩
    · rcases he with rfl | rfl
      · exact ⟨rfl, rfl⟩
      · exact SessionError.echo_alike _
    · have hbooked : l.Booked strategy log := annals_booked
      have hle := hbooked.count_le (w := w)
      have hpos : 0 < (log.flatMap (Moment.answered strategy)).count w := by
        refine List.count_pos_iff.2 (List.mem_flatMap.2 ⟨m, hlog ▸ by simp, ?_⟩)
        exact List.mem_filterMap.2 ⟨_, ha, rfl⟩
      omega
  · obtain ⟨p, hk⟩ := annals_known hlog
    exact ⟨fun result ha ho => hk.open_told hs ha ho, told_expired_iff hs, hk.told_failed_iff hs⟩

/-- Of those who have joined a round that fails, each is answered once, and the first last. -/
example :
    (annals StrategyConfig.once.strategy "c" (.ofServers .any []) [
        .opening, .opening, .command, .command,
        .outcome 0 (.error .connectionClosed)]).flatMap
      (Moment.answered StrategyConfig.once.strategy) = [1, 0] := by
  decide +kernel

end Life

end ClusterSession
