/-
  ClusterSession: sessions that are resumed.

  A task may be spawned on the state of a live session, which another task has left
  behind.

  * `Life.resumed`: such a task.
  * `Life.Dormant`: the task has sent nothing and set no timer, and the session is live.
  * `resumed_unattended`: so it stays until somebody wants the session closed, although
    everybody who wants it open is told that it is.
  * `resumed_not_kept_alive`: so a session is reported open that nobody keeps alive.
-/
import ClusterSession.Proofs.Session.Completions
import ClusterSession.Proofs.Session.Heartbeats

namespace ClusterSession

/-- A caller who wants a live session open is told that it is, unless its end has been asked for. -/
theorem Turn.onOpen_of_live {t : Turn} (hl : t.state.isLive = true) (hc : t.session.closing = false)
    (w : Waiter) : t.onOpen w = t.resolve w (.ok ()) := by
  unfold onOpen
  rcases SessionState.isLive_iff_status.1 hl with hs | hs <;> rw [hs, hc] <;> rfl

namespace Life

/-- A task that has just been spawned on a state that is there already. -/
def resumed (state : SessionState) (selector : Selector) : Life :=
  { born state.clientId selector with state }

/-- The task has sent nothing and set no timer; the session is live, and nobody wants it closed. -/
structure Dormant (l : Life) : Prop where
  session : l.session = .initial
  live : l.state.isLive = true
  sent : l.sent = []
  outstanding : l.outstanding = []
  timers : l.timers = []
  commands : ∀ c ∈ l.commands, ∃ w, c = .opening w

section
variable {strategy : Strategy} {l : Life} {h : Happening}

theorem resumed_dormant {state : SessionState} (hs : state.isLive = true) (selector : Selector) :
    (resumed state selector).Dormant :=
  { session := rfl, live := hs, sent := rfl, outstanding := rfl, timers := rfl, commands := nofun }

/-- The task takes in nothing but commands of callers who want the session open. -/
theorem Dormant.input? (hd : l.Dormant) {i : Input} (hi : l.input? h = some i) :
    ∃ w, i = .command (.opening w) := by
  cases h with
  | command =>
    simp only [Life.input?] at hi
    split at hi
    · cases hi
    · split at hi
      · next c rest _ hc =>
        obtain ⟨w, rfl⟩ := hd.commands c (hc ▸ List.mem_cons_self)
        exact ⟨w, (Option.some.inj hi).symm⟩
      · cases hi
  | outcome k result => simp [Life.input?, hd.outstanding] at hi
  | timer k => simp [Life.input?, hd.timers] at hi
  | _ => cases hi

/-- The only thing that the task does is to answer. -/
theorem Dormant.turn (hd : l.Dormant) (w : Waiter) :
    l.turn.handle strategy (.command (.opening w)) = l.turn.resolve w (.ok ()) :=
  Turn.onOpen_of_live hd.live (congrArg Session.closing hd.session) w

/-- What the task takes in leaves it as it was. -/
theorem Dormant.take (hd : l.Dormant) {l' : Life} {i : Input} (ho : l.Offers i l') :
    Alike l (l'.take strategy i) := by
  cases ho with
  | @command c rest _ hc =>
    obtain ⟨w, rfl⟩ := hd.commands c (hc ▸ List.mem_cons_self)
    have hturn : l.session.step strategy l.state l.selector (.command (.opening w)) =
        l.turn.resolve w (.ok ()) := hd.turn w
    simp only [Life.take, hturn]
    refine ⟨rfl, rfl, rfl, ?_, ?_, ?_⟩ <;> exact List.append_nil _
  | outcome result hx => simp [hd.outstanding] at hx
  | timer ha => simp [hd.timers] at ha

/-- Unless somebody wants the session closed now, the commands that wait have waited, or somebody
    wants it open. -/
theorem happen_commands (hh : h ≠ .closing) :
    ∀ c ∈ (l.happen strategy h).commands, c ∈ l.commands ∨ ∃ w, c = .opening w := by
  intro c hc
  cases h with
  | closing => exact absurd rfl hh
  | opening =>
    simp only [happen, ask] at hc
    split at hc
    · exact .inl hc
    · exact (List.mem_append.1 hc).imp_right fun h => ⟨_, List.mem_singleton.1 h⟩
  | command =>
    simp only [happen, takeCommand] at hc
    split at hc
    · exact .inl hc
    · split at hc
      · next hcs => exact .inl (hcs ▸ List.mem_cons_of_mem _ hc)
      · exact .inl hc
  | outcome k result =>
    simp only [happen, takeOutcome] at hc
    split at hc
    · exact .inl hc
    · split at hc <;> exact .inl hc
  | timer k =>
    simp only [happen, takeTimer] at hc
    split at hc
    · exact .inl hc
    · split at hc <;> exact .inl hc
  | clone | detach | stop =>
    simp only [happen] at hc
    split at hc <;> exact .inl hc
  | drop | select | raise | nextCommand => exact .inl hc

/-- **Unless somebody wants the session closed, the task stays idle.** -/
theorem step_dormant (hd : l.Dormant) (hh : h ≠ .closing) : (l.step strategy h).Dormant := by
  have ha : Alike l (l.happen strategy h) := by
    rcases l.happen_cases strategy h with ⟨i, l', -, ho, he⟩ | ⟨ha, -⟩
    · exact he ▸ hd.take ho
    · exact ha
  refine
    { session := ha.session.trans hd.session
      live := SessionState.isLive_iff_status.2 (ha.status ▸ SessionState.isLive_iff_status.1 hd.live)
      sent := ha.sent.trans hd.sent
      outstanding := ha.outstanding.trans hd.outstanding
      timers := ha.timers.trans hd.timers
      commands := fun c hc => (happen_commands hh c hc).elim (hd.commands c) id }

/-- What holds at every moment before somebody wants the session closed. -/
theorem chronicle_dormant (hd : l.Dormant) {hs : List Happening} (hclose : .closing ∉ hs) :
    (l.run strategy hs).Dormant ∧ ∀ m ∈ l.chronicle strategy hs, m.life.Dormant := by
  induction hs generalizing l with
  | nil => exact ⟨hd, fun _ hm => absurd hm List.not_mem_nil⟩
  | cons h hs ih =>
    rw [List.mem_cons, not_or] at hclose
    obtain ⟨hrun, hlog⟩ := ih (step_dormant hd (Ne.symm hclose.1)) hclose.2
    refine ⟨hrun, fun m hm => ?_⟩
    rcases List.mem_cons.1 hm with rfl | hm
    · exact hd
    · exact hlog m hm

end

/-- **A resumed session is not attended to.**  Let a task be spawned on the state of a live session.
    As long as nobody wants the session closed, whatever happens, everybody who wants it open is
    told at once that it is; it stays live, and the task sends nothing and sets no timer: no
    heartbeat is scheduled or on its way, and none ever was. -/
theorem resumed_unattended (strategy : Strategy) (state : SessionState) (selector : Selector)
    (hs : List Happening) (hlive : state.isLive = true) (hclose : .closing ∉ hs) :
    let l := (resumed state selector).run strategy hs
    l.Beats ∧ l.sent = [] ∧ l.session.keepAliveTimer = none ∧ l.owes .keepAlive = false ∧
      l.timers = [] ∧
      ∀ m ∈ (resumed state selector).chronicle strategy hs, ∀ w, m.Opens w →
        (m.turn strategy).actions = [.resolve w (.ok ())] := by
  intro l
  have hdormant : (resumed state selector).Dormant := resumed_dormant hlive selector
  obtain ⟨hd, hlog⟩ : l.Dormant ∧ _ := chronicle_dormant hdormant hclose
  refine ⟨⟨hd.live, congrArg Session.closing hd.session⟩, hd.sent,
    congrArg Session.keepAliveTimer hd.session, ?_, hd.timers, fun m hm w hw => ?_⟩
  · have hout : l.outstanding = [] := hd.outstanding
    rw [owes, calls, hout]
    rfl
  · obtain ⟨i, hi, hc⟩ := Option.bind_eq_some_iff.1 hw
    obtain rfl := Input.eq_of_command? hc
    rw [Moment.turn_of_input hi, (hlog m hm).turn]
    rfl

/-- Somebody wants the resumed session open, and is told that it is; the session has no heartbeat. -/
theorem resumed_unattended_opening :
    let state : SessionState :=
      { SessionState.fresh "c" with sessionId := some 7, status := some .opened }
    let l := (resumed state (.ofServers .any [])).run StrategyConfig.once.strategy [.opening, .command]
    state.isLive = true ∧ .closing ∉ [Happening.opening, .command] ∧ l.Beats ∧
      l.session.keepAliveTimer = none ∧ l.owes .keepAlive = false := by
  intro state l
  have hclose : .closing ∉ [Happening.opening, .command] := by simp
  obtain ⟨hb, -, htimer, howes, -⟩ :=
    resumed_unattended StrategyConfig.once.strategy state (.ofServers .any []) _ (by decide) hclose
  exact ⟨by decide, hclose, hb, htimer, howes⟩

/-- **A session is reported open that nobody keeps alive.**  A task has registered a session; all its
    handles are dropped, and it has stopped.  Another task resumes the session: it tells a caller
    that the session is open, nobody wants it closed, and no heartbeat is scheduled or on its
    way. -/
theorem resumed_not_kept_alive :
    let strategy := StrategyConfig.once.strategy
    let left := lived strategy "c" (.ofServers .any [⟨"a", 5000⟩])
      [.opening, .command, .outcome 0 (.ok (.register (.accept 7 1000 none [⟨"a", 5000⟩]))), .drop,
        .detach, .stop]
    let l := (resumed left.state left.selector).run strategy [.opening, .command]
    (left.stopped = true ∧ left.state.status = some .opened ∧ left.state.sessionId = some 7) ∧
      (∃ m ∈ (resumed left.state left.selector).chronicle strategy [.opening, .command],
        m.Answers strategy 0 (.ok ())) ∧
      l.session.closing = false ∧ l.session.keepAliveTimer = none ∧ l.timers = [] ∧
      l.owes .keepAlive = false := by
  intro strategy left l
  have hlive : left.state.isLive = true := by decide +kernel
  refine ⟨by decide +kernel, ?_, by decide +kernel⟩
  -- the second moment is that of the command
  refine ⟨_, List.mem_cons_of_mem _ List.mem_cons_self, ?_⟩
  have hd : ((resumed left.state left.selector).step strategy .opening).Dormant :=
    step_dormant (resumed_dormant hlive left.selector) nofun
  rw [Moment.Answers, Moment.turn_of_input (i := .command (.opening 0)) rfl, hd.turn]
  exact List.mem_singleton.2 rfl

end Life

end ClusterSession
