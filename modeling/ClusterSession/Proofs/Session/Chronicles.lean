/-
  ClusterSession: what has happened in the life of a session task.

  * `Moment`: a happening, and the life in which it happens; `annals` are all of them, in
    order.
  * `Moment.input?`, `Moment.outcome?`, `Moment.turn`: what the task takes in, and what it
    does with it.
  * `Moment.Accepts`, `Moment.Grants`, `Moment.Disowns`, `Moment.Fails`: how a request ends,
    by the answer alone.
  * `annals_induction`: what every happening adds to a life and its annals.
  * `annals_split`, `annals_later`: the past is a life, and so is what comes later.
  * `Moment.accepted?`, `Moment.ended?`: how a request ends, by what the task takes in.
-/
import ClusterSession.Proofs.Logs
import ClusterSession.Proofs.Session.Inputs

namespace ClusterSession

/-! ## Moments -/

/-- A happening, and the life in which it happens. -/
structure Moment where
  life : Life
  happening : Happening

namespace Moment

/-- The input that the task takes in. -/
def input? (m : Moment) : Option Input := m.life.input? m.happening

/-- The request whose outcome the task takes in, and that outcome. -/
def outcome? (m : Moment) : Option (Errand × Except ConnectionError Response) :=
  match m.happening with
  | .outcome i result =>
    if m.life.stopped then none else (m.life.outstanding[i]?).map fun x => (x.errand, result)
  | _ => none

/-- The turn of the task, as it ends. -/
def turn (strategy : Strategy) (m : Moment) : Turn :=
  m.input?.elim m.life.turn (m.life.turn.handle strategy)

/-- The requests that the task sends. -/
def errands (strategy : Strategy) (m : Moment) : List Errand := (m.turn strategy).errands

/-! ## How requests end -/

/-- A member has registered the session. -/
def Accepts (m : Moment) (r : RegisterResponse) : Prop :=
  ∃ attempt request, m.outcome? = some (.register attempt request, .ok (.register r)) ∧
    r.status = .ok ∧ 0 < r.timeout

/-- A member has granted what a call asks for. -/
def Grants (c : Method) (m : Moment) : Prop :=
  ∃ e r, m.outcome? = some (e, .ok r) ∧ e.method = c ∧ r.method = c ∧ r.verdict.status = .ok

/-- A member has answered a call that it does not know the session. -/
def Disowns (c : Method) (m : Moment) : Prop :=
  ∃ e r, m.outcome? = some (e, .ok r) ∧ e.method = c ∧ r.method = c ∧
    r.verdict.status = .error ∧ r.verdict.error = some .unknownSession

/-- A call has come to nothing else: it was rejected for another reason, or was answered as if it
    were another call, or was not answered. -/
def Fails (c : Method) (m : Moment) : Prop :=
  (∃ e result, m.outcome? = some (e, result) ∧ e.method = c) ∧ ¬m.Grants c ∧ ¬m.Disowns c

end Moment

namespace Life

/-- What happens in a life, with the life in which it does. -/
def chronicle (strategy : Strategy) (l : Life) : List Happening → List Moment
  | [] => []
  | h :: hs => { life := l, happening := h } :: (l.step strategy h).chronicle strategy hs

/-- What has happened in the life of a task that was spawned on a state that was never
    registered. -/
def annals (strategy : Strategy) (clientId : String) (selector : Selector)
    (hs : List Happening) : List Moment :=
  (born clientId selector).chronicle strategy hs

section
variable {strategy : Strategy}

theorem chronicle_concat (l : Life) (hs : List Happening) (h : Happening) :
    l.chronicle strategy (hs ++ [h]) =
      l.chronicle strategy hs ++ [{ life := l.run strategy hs, happening := h }] := by
  induction hs generalizing l with
  | nil => rfl
  | cons h' hs ih => exact congrArg (_ :: ·) (ih _)

/-- **What every happening adds to a life and its annals holds of every life with its annals.** -/
theorem annals_induction {clientId : String} {selector : Selector} {P : Life → List Moment → Prop}
    (hborn : P (born clientId selector) [])
    (hstep : ∀ l p log h, l.InPhase p → P l log →
      P (l.step strategy h) (log ++ [{ life := l, happening := h }])) (hs : List Happening) :
    P (lived strategy clientId selector hs) (annals strategy clientId selector hs) := by
  induction hs using List.reverseRecOn with
  | nil => exact hborn
  | append_singleton hs h ih =>
    obtain ⟨p, hp⟩ := lived_inPhase strategy clientId selector hs
    rw [lived_concat, annals, chronicle_concat]
    exact hstep _ p _ h hp ih

/-- A moment of the past is the last one of a shorter life. -/
theorem annals_split {clientId : String} {selector : Selector} {hs : List Happening}
    {before after : List Moment} {m : Moment}
    (h : annals strategy clientId selector hs = before ++ m :: after) :
    ∃ past, annals strategy clientId selector past = before ∧
      lived strategy clientId selector past = m.life ∧
      annals strategy clientId selector (past ++ [m.happening]) = before ++ [m] ∧
      lived strategy clientId selector (past ++ [m.happening]) =
        m.life.step strategy m.happening := by
  induction hs using List.reverseRecOn generalizing after with
  | nil => exact absurd h.symm (List.append_ne_nil_of_right_ne_nil _ (List.cons_ne_nil _ _))
  | append_singleton hs h' ih =>
    rw [annals, chronicle_concat] at h
    rcases concat_split h with ⟨rfl, rfl, -⟩ | ⟨rest, hlog, -⟩
    · exact ⟨hs, rfl, rfl, chronicle_concat _ _ _, lived_concat _ _ _ _ _⟩
    · exact ih hlog

/-- What holds of every life with its annals holds at every later moment. -/
theorem annals_later {clientId : String} {selector : Selector} {hs : List Happening}
    {P : Life → List Moment → Prop}
    (hP : ∀ hs, P (lived strategy clientId selector hs) (annals strategy clientId selector hs))
    {before after : List Moment} {m : Moment}
    (h : annals strategy clientId selector hs = before ++ m :: after) {d : Moment}
    (hd : d ∈ after) : ∃ between, P d.life (before ++ m :: between) := by
  obtain ⟨between, rest, rfl⟩ := List.append_of_mem hd
  have hlater : annals strategy clientId selector hs = (before ++ m :: between) ++ d :: rest := by
    rw [h, List.append_assoc, List.cons_append]
  obtain ⟨past, hpast, hlife, -⟩ := annals_split hlater
  exact ⟨between, hlife ▸ hpast ▸ hP past⟩

end

end Life

/-! ## Outcomes and inputs -/

namespace Moment

section
variable {m : Moment} {c : Method}

theorem outcome?_eq_some {x : Errand × Except ConnectionError Response} (h : m.outcome? = some x) :
    m.input? = some (.event (x.1.outcome x.2)) := by
  obtain ⟨l, happening⟩ := m
  cases happening with
  | outcome i result =>
    simp only [outcome?, input?, Life.input?] at h ⊢
    split at h
    · cases h
    · next hs =>
      obtain ⟨y, hy, rfl⟩ := Option.map_eq_some_iff.1 h
      simp [hs, hy]
  | _ => cases h

/-- A request that has an outcome had none. -/
theorem outstanding_of_outcome {e : Errand}
    {result : Except ConnectionError Response} (h : m.outcome? = some (e, result)) :
    ∃ x ∈ m.life.outstanding, x.errand = e := by
  obtain ⟨l, happening⟩ := m
  cases happening with
  | outcome k result =>
    simp only [outcome?] at h
    split at h
    · cases h
    · obtain ⟨x, hx, he⟩ := Option.map_eq_some_iff.1 h
      exact ⟨x, List.mem_of_getElem? hx, congrArg Prod.fst he⟩
  | _ => cases h

/-- An input that is the outcome of a call comes from a request of that call. -/
theorem outcome?_of_call? {i : Input} (h : m.input? = some i) (hc : i.call? = some c) :
    ∃ e result, m.outcome? = some (e, result) ∧ e.method = c ∧ i = .event (e.outcome result) := by
  obtain ⟨l, happening⟩ := m
  cases happening with
  | outcome k result =>
    simp only [outcome?, input?, Life.input?] at h ⊢
    split at h
    · cases h
    · next hs =>
      obtain ⟨y, hy, rfl⟩ := Option.map_eq_some_iff.1 h
      rw [Input.call?_outcome] at hc
      exact ⟨y.errand, result, by simp [hs, hy], Option.some.inj hc, rfl⟩
  | _ =>
    rw [Life.input?_call? h (by intro k result he; cases he)] at hc
    cases hc

end

section
variable {strategy : Strategy} {l : Life} {h : Happening} {i : Input}

theorem errands_of_input (hi : l.input? h = some i) :
    errands strategy ⟨l, h⟩ = (l.turn.handle strategy i).errands := by
  rw [errands, turn, input?, hi]
  rfl

theorem errands_of_none (hi : l.input? h = none) : errands strategy ⟨l, h⟩ = [] := by
  rw [errands, turn, input?, hi]
  rfl

end

end Moment

/-- **All requests were sent in one of the moments**, in order. -/
theorem Life.annals_sent (strategy : Strategy) (clientId : String) (selector : Selector)
    (hs : List Happening) :
    (lived strategy clientId selector hs).sent.map Sent.errand =
      (annals strategy clientId selector hs).flatMap (Moment.errands strategy) := by
  refine annals_induction
    (P := fun l log => l.sent.map Sent.errand = log.flatMap (Moment.errands strategy)) rfl ?_ hs
  intro l p log h hp ih
  rw [List.flatMap_append, List.flatMap_singleton]
  rcases l.step_input strategy h with ⟨i, hi, hh⟩ | ⟨hi, ha, -⟩
  · obtain ⟨q, news, hpass⟩ := step_passes strategy hp h
    have hnews := hh.sent
    rw [hpass.sent, List.drop_left] at hnews
    rw [hpass.sent, List.map_append, ih, hnews, Moment.errands_of_input hi]
  · rw [ha.sent, ih, Moment.errands_of_none hi, List.append_nil]

/-! ## How calls end -/

/-- How an answer to a call is taken, or the lack of one, if it is not a call to register. -/
def answerOutcome (c : Method) : Except ConnectionError Response → Outcome
  | .ok r => if r.method = c then .of (.ok r.verdict) else .failed
  | .error _ => .failed

section
variable {c : Method} {result : Except ConnectionError Response}

theorem answerOutcome_eq_ok : answerOutcome c result = .ok ↔
    ∃ r, result = .ok r ∧ r.method = c ∧ r.verdict.status = .ok := by
  cases result with
  | error e => simp [answerOutcome]
  | ok r =>
    by_cases hc : r.method = c
    · cases hs : r.verdict.status <;> simp [answerOutcome, Outcome.of, Verdict.isOk, hc, hs]
      split <;> nofun
    · simp [answerOutcome, hc]

theorem answerOutcome_eq_unknownSession : answerOutcome c result = .unknownSession ↔
    ∃ r, result = .ok r ∧ r.method = c ∧ r.verdict.status = .error ∧
      r.verdict.error = some .unknownSession := by
  cases result with
  | error e => simp [answerOutcome]
  | ok r =>
    by_cases hc : r.method = c
    · cases hs : r.verdict.status <;> simp [answerOutcome, Outcome.of, Verdict.isOk, hc, hs]
    · simp [answerOutcome, hc]

end

/-- An attempt has registered the session if its answer says so, and gives it a timeout. -/
theorem Turn.refusal?_eq_ok {result : Except ConnectionError RegisterResponse}
    {r : RegisterResponse} :
    refusal? result = .ok r ↔ result = .ok r ∧ r.status = .ok ∧ 0 < r.timeout := by
  constructor
  · intro h
    unfold refusal? at h
    split at h
    · cases h
    · split at h
      · next hs =>
        split at h
        · next ht =>
          cases h
          exact ⟨rfl, of_decide_eq_true hs, ht⟩
        · cases h
      · cases h
  · rintro ⟨rfl, hs, ht⟩
    have hok : r.isOk = true := decide_eq_true hs
    simp only [refusal?, hok, if_true, ht]

namespace Input

/-- How a call has ended, if it is not a call to register. -/
def ended? : Input → Option (Method × Outcome)
  | event (.keptAlive result) => some (.keepAlive, .of (result.map (·.toVerdict)))
  | event (.unregistered result) => some (.unregister, .of (result.map (·.toVerdict)))
  | _ => none

/-- The answer that registers the session. -/
def accepted? : Input → Option RegisterResponse
  | event (.registered _ result) => (Turn.refusal? result).toOption
  | _ => none

theorem ended?_outcome (e : Errand) (result : Except ConnectionError Response) :
    (event (e.outcome result)).ended? =
      if e.method = .register then none else some (e.method, answerOutcome e.method result) := by
  rcases e with _ | _ | _ <;> rcases result with _ | (_ | _ | _) <;> rfl

variable {i : Input} {c : Method} {o : Outcome} {r : RegisterResponse}

theorem call?_of_ended? (h : i.ended? = some (c, o)) : i.call? = some c ∧ c ≠ .register := by
  rcases i with _ | (_ | _ | _ | _) <;> cases h <;> exact ⟨rfl, nofun⟩

theorem accepted?_eq_some : i.accepted? = some r ↔
    ∃ attempt result, i = .event (.registered attempt result) ∧ Turn.refusal? result = .ok r := by
  constructor
  · intro h
    rcases i with _ | (_ | ⟨attempt, result⟩ | _ | _)
    · cases h
    · cases h
    · refine ⟨attempt, result, rfl, ?_⟩
      simp only [accepted?] at h
      cases hr : Turn.refusal? result <;> rw [hr] at h <;> cases h
      rfl
    · cases h
    · cases h
  · rintro ⟨attempt, result, rfl, hr⟩
    simp only [accepted?, hr]
    rfl

theorem call?_of_accepted? (h : i.accepted? = some r) : i.call? = some .register := by
  obtain ⟨attempt, result, rfl, -⟩ := accepted?_eq_some.1 h
  rfl

end Input

namespace Moment

/-- How a call has ended, if it is not a call to register. -/
def ended? (m : Moment) : Option (Method × Outcome) := m.input?.bind Input.ended?

/-- The answer that registers the session. -/
def accepted? (m : Moment) : Option RegisterResponse := m.input?.bind Input.accepted?

section
variable {m : Moment} {c : Method} {o : Outcome} {r : RegisterResponse}
variable {l : Life} {h : Happening} {i : Input}

theorem ended?_of_input (hi : l.input? h = some i) : ended? ⟨l, h⟩ = i.ended? :=
  congrArg (Option.bind · Input.ended?) hi

theorem ended?_of_none (hi : l.input? h = none) : ended? ⟨l, h⟩ = none :=
  congrArg (Option.bind · Input.ended?) hi

theorem accepted?_of_input (hi : l.input? h = some i) : accepted? ⟨l, h⟩ = i.accepted? :=
  congrArg (Option.bind · Input.accepted?) hi

theorem accepted?_of_none (hi : l.input? h = none) : accepted? ⟨l, h⟩ = none :=
  congrArg (Option.bind · Input.accepted?) hi

/-- How a call has ended, by what its request was answered. -/
theorem ended?_eq_some : m.ended? = some (c, o) ↔ c ≠ .register ∧
    ∃ e result, m.outcome? = some (e, result) ∧ e.method = c ∧ answerOutcome c result = o := by
  rw [ended?, Option.bind_eq_some_iff]
  constructor
  · rintro ⟨i, hi, he⟩
    obtain ⟨hcall, hc⟩ := Input.call?_of_ended? he
    obtain ⟨e, result, ho, rfl, rfl⟩ := outcome?_of_call? hi hcall
    rw [Input.ended?_outcome, if_neg hc] at he
    exact ⟨hc, e, result, ho, rfl, congrArg Prod.snd (Option.some.inj he)⟩
  · rintro ⟨hc, e, result, ho, rfl, rfl⟩
    exact ⟨_, outcome?_eq_some ho, by rw [Input.ended?_outcome, if_neg hc]⟩

theorem grants_iff (hc : c ≠ .register) : m.Grants c ↔ m.ended? = some (c, .ok) := by
  rw [ended?_eq_some]
  constructor
  · rintro ⟨e, r, ho, hm, hr⟩
    exact ⟨hc, e, .ok r, ho, hm, answerOutcome_eq_ok.2 ⟨r, rfl, hr⟩⟩
  · rintro ⟨-, e, result, ho, hm, ha⟩
    obtain ⟨r, rfl, hr⟩ := answerOutcome_eq_ok.1 ha
    exact ⟨e, r, ho, hm, hr⟩

theorem disowns_iff (hc : c ≠ .register) :
    m.Disowns c ↔ m.ended? = some (c, .unknownSession) := by
  rw [ended?_eq_some]
  constructor
  · rintro ⟨e, r, ho, hm, hr⟩
    exact ⟨hc, e, .ok r, ho, hm, answerOutcome_eq_unknownSession.2 ⟨r, rfl, hr⟩⟩
  · rintro ⟨-, e, result, ho, hm, ha⟩
    obtain ⟨r, rfl, hr⟩ := answerOutcome_eq_unknownSession.1 ha
    exact ⟨e, r, ho, hm, hr⟩

theorem fails_iff (hc : c ≠ .register) : m.Fails c ↔ m.ended? = some (c, .failed) := by
  rw [Fails, grants_iff hc, disowns_iff hc]
  constructor
  · rintro ⟨⟨e, result, ho, hm⟩, hg, hd⟩
    have he : m.ended? = some (c, answerOutcome c result) :=
      ended?_eq_some.2 ⟨hc, e, result, ho, hm, rfl⟩
    cases ha : answerOutcome c result with
    | ok => exact absurd (ha ▸ he) hg
    | unknownSession => exact absurd (ha ▸ he) hd
    | failed => exact ha ▸ he
  · intro he
    obtain ⟨-, e, result, ho, hm, -⟩ := ended?_eq_some.1 he
    refine ⟨⟨e, result, ho, hm⟩, ?_, ?_⟩ <;> rw [he] <;> nofun

/-- A session is registered when the task takes in an answer that refuses nothing. -/
theorem accepts_iff : m.Accepts r ↔ m.accepted? = some r := by
  simp only [accepted?, Option.bind_eq_some_iff, Input.accepted?_eq_some]
  constructor
  · rintro ⟨attempt, request, ho, hr⟩
    exact ⟨_, outcome?_eq_some ho, attempt, _, rfl, Turn.refusal?_eq_ok.2 ⟨rfl, hr⟩⟩
  · rintro ⟨i, hi, attempt, result, rfl, hr⟩
    obtain ⟨rfl, haccepted⟩ := Turn.refusal?_eq_ok.1 hr
    obtain ⟨e, raw, ho, hm, he⟩ := outcome?_of_call? hi rfl
    rcases e with ⟨attempt', request⟩ | _ | _
    · rcases raw with _ | (r' | _ | _) <;> cases he
      exact ⟨_, request, ho, haccepted⟩
    · cases hm
    · cases hm

end

end Moment

end ClusterSession
