/-
  ClusterSession: attempts to register the session are made when they are due.

  * `Dated.InTurn`: attempts are made when they are due, and at no other time.
  * `Dated.Settled`: what becomes of an attempt that has an outcome.
  * `rounds_orderly`: so it is in every life in which nobody wants the session closed.
-/
import ClusterSession.Proofs.Session.Pacing
import ClusterSession.Proofs.Session.Rounds

namespace ClusterSession

namespace Dated

/-- The next attempt comes at `time`, and nothing becomes of the attempts before; or nothing has
    become of them so far, and it is not later than that. -/
def Renewed (strategy : Strategy) (k : UInt32) (time : Nat) (after : List Dated) (now : Clocked) :
    Prop :=
  (∃ quiet d rest, after = quiet ++ d :: rest ∧ (∀ x ∈ quiet, ¬x.Stirs strategy .register) ∧
    d.attempts strategy = [k] ∧ d.time = time) ∨
  (∀ x ∈ after, ¬x.Stirs strategy .register) ∧ now.now ≤ time

/-- What a moment has to do with attempts to register comes at its time, after `before`, when `n`
    attempts have been made in the round that is on. -/
structure InTurn (config : StrategyConfig) (n : Nat) (before : List Dated) (m : Dated) : Prop where
  /-- At most one attempt is made, and its number is the next one. -/
  number : ∀ k ∈ m.attempts config.strategy,
    m.attempts config.strategy = [k] ∧ k = attemptNumber (n + 1)
  /-- A round begins when a caller wants the session open, and only then. -/
  first : n = 0 → ((∃ w, m.Joins w) ↔ m.attempts config.strategy = [1])
  /-- Any other attempt comes when the last one has failed, if the strategy allows for it: at that
      instant, if the strategy does not wait, or when it has waited. -/
  next : 0 < n → m.attempts config.strategy ≠ [] → config.Allows n ∧
    (m.Loses (attemptNumber n) ∧ config.wait n = 0 ∨
      Lately (fun d => d.Loses (attemptNumber n) ∧ m.time = d.time + config.wait n)
        (·.Stirs config.strategy .register) before)

/-- What becomes of an attempt that has an outcome at a moment, when `n` attempts have been made in
    the round that is on. -/
structure Settled (config : StrategyConfig) (n : Nat) (before after : List Dated) (now : Clocked)
    (m : Dated) : Prop where
  /-- An attempt that fails is the last one that was made, and the strategy is asked about it. -/
  asked : ∀ k, m.Loses k → (0 < n ∧ k = attemptNumber n) ∧
    ∃ failure decision, m.consulted config.strategy = [({ number := k, failure }, decision)]
  /-- The strategy is asked about nothing else. -/
  silent : (∀ k, ¬m.Loses k) → m.consulted config.strategy = []
  /-- After an attempt that has failed, the next one is made at once, if the strategy allows for it
      and does not wait. -/
  again : (∃ k, m.Loses k) → config.limit? ≠ some n → config.wait n = 0 →
    m.attempts config.strategy = [attemptNumber (n + 1)]
  /-- If the strategy waits, the next one is made when it has waited. -/
  later : (∃ k, m.Loses k) → config.limit? ≠ some n → 0 < config.wait n →
    Renewed config.strategy (attemptNumber (n + 1)) (m.time + config.wait n) after now
  /-- The strategy gives up when as many attempts have failed as it allows, and only then. -/
  givesUp : m.GivesUp config.strategy ↔ (∃ k, m.Loses k) ∧ config.limit? = some n
  /-- Then everybody who has joined the round is told; no timer is set, and no request is on its
      way; and there is no round any more. -/
  gaveUp : m.GivesUp config.strategy →
    (∀ w, Lately (·.Joins w) (·.EndsRound config.strategy) before →
      m.Answers config.strategy w (.error .gaveUp)) ∧
    m.attempts config.strategy = [] ∧
    (∀ slot, (m.next config.strategy).session.timer slot = none) ∧
    (m.next config.strategy).outstanding = [] ∧
    Clocked.made config.strategy (before ++ [m]) = 0
  /-- An attempt that registers the session is the last one that is ever made. -/
  registered : ∀ r, m.Accepts r →
    (0 < n ∧ ∃ request, m.outcome? =
      some (.register (attemptNumber n) request, .ok (.register r))) ∧
    m.attempts config.strategy = [] ∧ ∀ d ∈ after, d.attempts config.strategy = []

end Dated

namespace Clocked

section
variable {config : StrategyConfig} {c : Clocked} {p q : Phase} {log : List Dated} {m : Dated}
variable {clientId : String} {selector : Selector} {ticks : List Tick}

/-- What is known at a moment of the past. -/
theorem annals_enrolling {before after : List Dated}
    (h : annals config.strategy clientId selector ticks = before ++ m :: after)
    (hclose : ∀ d ∈ annals config.strategy clientId selector ticks, ∀ w, ¬d.Closes w) :
    ∃ (c : Clocked) (p q : Phase), c.Known config.strategy p before ∧
      c.Enrolling config q before ∧ c.Next m := by
  obtain ⟨past, rfl, hm⟩ := annals_split h
  obtain ⟨p, hk⟩ := lived_known config.strategy clientId selector past
  obtain ⟨q, hc⟩ := lived_enrolling past fun d hd =>
    hclose d (h ▸ List.mem_append_left _ hd)
  exact ⟨_, p, q, hk, hc, hm⟩

end

namespace Enrolling

section
variable {config : StrategyConfig} {c : Clocked} {p q : Phase} {log : List Dated} {h : Happening}
variable {i : Input}

/-- The strategy is asked about an attempt that fails. -/
theorem loses_of_consulted (hc : c.Enrolling config p log) {x : Attempt × Decision}
    (hx : x ∈ (c.date h).consulted config.strategy) : (c.date h).Loses x.1.number := by
  rcases hi : c.life.input? h with _ | i
  · have hnone : (c.date h).consulted config.strategy = [] := Moment.consulted_of_none hi
    rw [hnone] at hx
    cases hx
  · have hmem := (Moment.mem_consulted (a := x.1) (d := x.2) hi hc.tallied.unclosed).1 hx
    exact (Moment.loses_of_input hi).2 ⟨_, hmem.1⟩

section
variable (hc : c.Enrolling config p log) (hclose : ∀ w, ¬(c.date h).Closes w)
include hc hclose

/-- What an input does to a round. -/
theorem takes (hi : c.life.input? h = some i) :
    ∃ q, (c.life.step config.strategy h).InPhase q ∧
      c.life.turn.Tries config.strategy p i ((c.date h).attempts config.strategy) q := by
  rcases c.life.step_input config.strategy h with ⟨i', hi', hh⟩ | ⟨hn, -⟩
  · obtain rfl := Option.some.inj (hi.symm.trans hi')
    have hattempts : (c.date h).attempts config.strategy = _ := Moment.attempts_of_input hi
    rw [hattempts]
    exact hh.tries hc.tallied.inPhase hc.tallied.unclosed
      (Moment.not_closing_of_not_closes hi hclose)
  · cases hn.symm.trans hi

/-- **An attempt that fails is the last one that was made, and the strategy is asked about it once.**
    If it decides so, the next one is made at once, and if it gives up, there is no round any
    more. -/
theorem lost {k : UInt32} (hl : (c.date h).Loses k) :
    (0 < made config.strategy log ∧ k = attemptNumber (made config.strategy log)) ∧
    ∃ failure d, (c.date h).consulted config.strategy = [({ number := k, failure }, d)] ∧
      config.Decides (made config.strategy log) d ∧
      (c.date h).attempts config.strategy =
        (if d = .now then [attemptNumber (made config.strategy log + 1)] else []) ∧
      (d.isFail = true → (c.life.step config.strategy h).InPhase .idle) := by
  obtain ⟨⟨request, raw, ho⟩, -⟩ := id hl
  have hi : c.life.input? h = _ := Moment.outcome?_eq_some ho
  obtain ⟨failure, hf⟩ := (Moment.loses_of_input hi).1 hl
  obtain ⟨result, he, hr⟩ := Input.failed?_eq_some.1 hf
  rw [he] at hi hf
  have hasked : (c.date h).consulted config.strategy = _ :=
    Moment.consulted_of_input hi hc.tallied.unclosed
  have hk := hc.tallied.number_of_registered hi
  obtain ⟨q, hq, ht⟩ := hc.takes hclose hi
  rw [hf] at hasked
  generalize (c.date h).attempts config.strategy = ks at ht ⊢
  cases ht with
  | aside hcall => exact absurd rfl hcall
  | again hr' hd =>
    cases hr.symm.trans hr'
    refine ⟨⟨hc.tallied.trying.1 rfl, hk⟩, failure, .now, ?_, hc.tallied.decides hi hd, ?_, nofun⟩
    · exact hasked.trans (congrArg (fun d => [(_, d)]) hd)
    · rw [if_pos rfl, ← nextAttempt_attemptNumber, ← hk]
  | later hr' hd =>
    cases hr.symm.trans hr'
    refine ⟨⟨hc.tallied.trying.1 rfl, hk⟩, failure, _, ?_, hc.tallied.decides hi hd, ?_, nofun⟩
    · exact hasked.trans (congrArg (fun d => [(_, d)]) hd)
    · exact (if_neg nofun).symm
  | gaveUp hr' hd =>
    cases hr.symm.trans hr'
    refine ⟨⟨hc.tallied.trying.1 rfl, hk⟩, failure, _, ?_, hc.tallied.decides hi hd, ?_,
      fun _ => hq⟩
    · exact hasked.trans (congrArg (fun d => [(_, d)]) hd)
    · exact (if_neg nofun).symm
  | opened hr' => cases hr.symm.trans hr'

/-- **The strategy gives up when as many attempts have failed as it allows.** -/
theorem givesUp_iff : (c.date h).GivesUp config.strategy ↔
    (∃ k, (c.date h).Loses k) ∧ config.limit? = some (made config.strategy log) := by
  rw [Moment.givesUp_iff]
  constructor
  · rintro ⟨a, error, ha⟩
    have hl := hc.loses_of_consulted ha
    obtain ⟨-, failure, d, hasked, hd, -⟩ := hc.lost hclose hl
    rw [hasked] at ha
    obtain rfl : .fail error = d := congrArg Prod.snd (List.mem_singleton.1 ha)
    exact ⟨⟨_, hl⟩, hc.tallied.limit hd⟩
  · rintro ⟨⟨k, hl⟩, hlimit⟩
    obtain ⟨-, failure, d, hasked, hd, -⟩ := hc.lost hclose hl
    cases hd with
    | fail => exact ⟨_, none, hasked ▸ List.mem_singleton_self _⟩
    | now hallows | after hallows => exact absurd (hallows _ hlimit) (Nat.lt_irrefl _)

/-! ## When attempts are made -/

theorem number : ∀ k ∈ (c.date h).attempts config.strategy,
    (c.date h).attempts config.strategy = [k] ∧
      k = attemptNumber (made config.strategy log + 1) := by
  intro k hk
  rcases hi : c.life.input? h with _ | i
  · have hnone : (c.date h).attempts config.strategy = [] := Moment.attempts_of_none hi
    rw [hnone] at hk
    cases hk
  · obtain ⟨q, -, ht⟩ := hc.takes hclose hi
    refine ⟨?_, hc.tallied.number hi ht k hk⟩
    obtain ⟨k', hk'⟩ := List.length_eq_one_iff.1
      (Nat.le_antisymm ht.length_le (List.length_pos_of_mem hk))
    rw [hk'] at hk ⊢
    rw [List.mem_singleton.1 hk]

/-- A round begins when a caller wants the session open, and only then. -/
theorem first (hn : made config.strategy log = 0) :
    (∃ w, (c.date h).Joins w) ↔ (c.date h).attempts config.strategy = [1] := by
  have hnot : ¬p.trying = true := fun hp => Nat.ne_of_gt (hc.tallied.trying.1 hp) hn
  rcases hi : c.life.input? h with _ | i
  · have hnone : (c.date h).attempts config.strategy = [] := Moment.attempts_of_none hi
    rw [hnone]
    refine iff_of_false ?_ nofun
    rintro ⟨w, ho, -⟩
    cases (Moment.command?_of_none hi).symm.trans ho
  · obtain ⟨q, -, ht⟩ := hc.takes hclose hi
    generalize (c.date h).attempts config.strategy = ks at ht
    cases ht with
    | aside _ hopens =>
      refine iff_of_false ?_ nofun
      rintro ⟨w, ho, hs, -⟩
      exact hnot (hopens w (Input.eq_of_command? ((Moment.command?_of_input hi).symm.trans ho)) hs)
    | first hs =>
      exact iff_of_true ⟨_, Moment.command?_of_input hi, hs, hc.tallied.unclosed⟩ rfl
    | _ => exact absurd rfl hnot

/-- **Any other attempt comes when the last one has failed.** -/
theorem next (hk : c.Known config.strategy q log) (hallow : c.allows h = true)
    (hn : 0 < made config.strategy log) (hne : (c.date h).attempts config.strategy ≠ []) :
    config.Allows (made config.strategy log) ∧
      ((c.date h).Loses (attemptNumber (made config.strategy log)) ∧
          config.wait (made config.strategy log) = 0 ∨
        Lately (fun d => d.Loses (attemptNumber (made config.strategy log)) ∧
            (c.date h).time = d.time + config.wait (made config.strategy log))
          (·.Stirs config.strategy .register) log) := by
  rcases hi : c.life.input? h with _ | i
  · exact absurd (Moment.attempts_of_none hi) hne
  · obtain ⟨q, -, ht⟩ := hc.takes hclose hi
    generalize (c.date h).attempts config.strategy = ks at ht hne
    cases ht with
    | first => exact nomatch hc.tallied.trying.2 hn
    | due hid =>
      refine ⟨hc.tallied.more rfl, .inr ?_⟩
      have hdue : c.due _ = (c.date h).time := hk.due_of_fired hallow hi hid
      exact hdue ▸ hc.due _ hid
    | @again k result failure hr hd =>
      obtain rfl := hc.tallied.number_of_registered hi
      cases hc.tallied.decides hi hd with
      | now hallows hwait =>
        have hloses := (Moment.loses_of_input hi).2 ⟨failure, Input.failed?_of_refused hr⟩
        exact ⟨hallows, .inl ⟨hloses, hwait⟩⟩
    | _ => exact absurd rfl hne

/-! ## How rounds end -/

/-- **When the strategy gives up, everybody who has joined the round is told**, and nothing is left of
    it. -/
theorem gaveUp (hk : Life.Known config.strategy (log.map Dated.toMoment) (c.date h).toMoment q)
    (hg : (c.date h).GivesUp config.strategy) :
    (∀ w, Lately (·.Joins w) (·.EndsRound config.strategy) log →
      (c.date h).Answers config.strategy w (.error .gaveUp)) ∧
    (c.date h).attempts config.strategy = [] ∧
    (∀ slot, ((c.date h).next config.strategy).session.timer slot = none) ∧
    ((c.date h).next config.strategy).outstanding = [] ∧
    made config.strategy (log ++ [c.date h]) = 0 := by
  obtain ⟨⟨k, hl⟩, -⟩ := (hc.givesUp_iff hclose).1 hg
  obtain ⟨-, failure, d, hasked, -, hattempts, hidle⟩ := hc.lost hclose hl
  obtain ⟨a, error, ha⟩ := Moment.givesUp_iff.1 hg
  rw [hasked] at ha
  obtain rfl : .fail error = d := congrArg Prod.snd (List.mem_singleton.1 ha)
  have hidle : ((c.date h).next config.strategy).InPhase .idle := hidle rfl
  refine ⟨fun w hround => ?_, hattempts.trans (if_neg nofun), fun slot => ?_,
    hidle.outstanding_of_idle, ?_⟩
  · obtain ⟨a, error, ha⟩ := hg
    obtain ⟨-, -, -, hfail⟩ := hk.gave_up ha
    obtain ⟨e, hanswer, he⟩ := hfail w ((hk.booked.opens w).2 hround.map)
    obtain rfl := Life.builtIn_error ⟨config, rfl⟩ ((Turn.mem_said rfl).2 ha)
    rcases he with rfl | rfl <;> exact hanswer
  · rw [← Option.not_isSome_iff_eq_none, hidle.timer_iff]
    cases slot <;> nofun
  · rw [made_concat, if_pos (.inl hg)]

/-- **An attempt that registers the session is the last one that was made.** -/
theorem registered {r : RegisterResponse} (ha : (c.date h).Accepts r) :
    (0 < made config.strategy log ∧ ∃ request, (c.date h).outcome? =
      some (.register (attemptNumber (made config.strategy log)) request, .ok (.register r))) ∧
    (c.date h).attempts config.strategy = [] := by
  obtain ⟨k, request, ho, -⟩ := id ha
  have hi : c.life.input? h = some (.event (.registered k _)) := Moment.outcome?_eq_some ho
  have haccepted := (Moment.accepted?_of_input hi).symm.trans (Moment.accepts_iff.1 ha)
  obtain rfl := hc.tallied.number_of_registered hi
  obtain ⟨q, -, ht⟩ := hc.takes hclose hi
  have hrefused : ∀ {failure}, Turn.refusal? _ ≠ .error failure := fun {failure} hr => by
    rw [Input.accepted?, hr] at haccepted
    cases haccepted
  generalize (c.date h).attempts config.strategy = ks at ht ⊢
  cases ht with
  | aside hcall => exact absurd rfl hcall
  | opened => exact ⟨⟨hc.tallied.trying.1 rfl, request, ho⟩, rfl⟩
  | again hr | later hr | gaveUp hr => exact absurd hr hrefused

/-- Once the session is registered, no attempt is made. -/
theorem attempts_of_numbered {id : UInt64} (hid : c.life.state.sessionId = some id) :
    (c.date h).attempts config.strategy = [] := by
  rcases hi : c.life.input? h with _ | i
  · exact Moment.attempts_of_none hi
  · obtain ⟨q, -, ht⟩ := hc.takes hclose hi
    by_contra hne
    have hnone := hc.tallied.inPhase.fits.unnumbered (ht.standing hne)
    cases hid.symm.trans hnone

end

/-! ## What becomes of a wait -/

/-- The strategy has had the next attempt wait, and nothing has become of the attempts since: the
    timer for it is set, and goes off when it has waited. -/
theorem waiting {before quiet : List Dated} {m : Dated}
    (hc : c.Enrolling config p (before ++ m :: quiet)) (hdefers : m.Defers config.strategy)
    (hstirs : m.Stirs config.strategy .register)
    (hquiet : ∀ x ∈ quiet, ¬x.Stirs config.strategy .register) :
    p = .retrying ∧ ∃ id, c.life.session.timer .register = some id ∧
      c.due id = m.time + config.wait (made config.strategy (before ++ m :: quiet)) := by
  obtain rfl := hc.retrying ⟨before, m, quiet, rfl, hdefers, hquiet⟩
  obtain ⟨id, hid⟩ :=
    Option.isSome_iff_exists.1 ((hc.tallied.inPhase.timer_iff .register).2 rfl)
  have hlast := (hc.due id hid).last (fun e he => .inl he.1.concludes) hstirs hquiet
  exact ⟨rfl, id, hid, hlast.2⟩

/-- A task that is to make an attempt does not stop. -/
theorem not_stopped (hc : c.Enrolling config .retrying log) (hleft : c.life.Left) :
    c.life.stopped = false := by
  rw [← Bool.not_eq_true]
  intro hstopped
  have hidle := (hleft.stopped hstopped).2
  rw [Session.isIdle, Bool.and_eq_true, decide_eq_true_eq, decide_eq_true_eq] at hidle
  exact hc.tallied.inPhase.fits.openWaiters.2 rfl hidle.1

/-- What becomes of the attempts while the timer for the next one is set: it is made, when the timer
    goes off. -/
theorem stirs_retrying (hc : c.Enrolling config .retrying log)
    (hclose : ∀ w, ¬(c.date h).Closes w) (hk : c.Known config.strategy q log)
    (hallow : c.allows h = true) {id : Nat} (hid : c.life.session.timer .register = some id)
    (hs : (c.date h).Stirs config.strategy .register) :
    (c.date h).attempts config.strategy = [attemptNumber (made config.strategy log + 1)] ∧
      (c.date h).time = c.due id := by
  rcases hi : c.life.input? h with _ | i
  · exact absurd hs (Moment.not_stirs_of_none _ hi)
  · obtain ⟨q, -, ht⟩ := hc.takes hclose hi
    have hnumber := hc.number hclose
    have hnil : (c.date h).attempts config.strategy = [] ↔ _ := Moment.attempts_eq_nil
    generalize (c.date h).attempts config.strategy = ks at ht hnumber hnil ⊢
    cases ht with
    | aside hcall =>
      rcases hs with hs | hs | ⟨hs, -⟩
      · exact absurd ((Moment.concludes_of_input hi).1 hs) hcall
      · exact absurd hs (hnil.1 rfl)
      · cases hs
    | due hid' =>
      obtain rfl := Option.some.inj (hid.symm.trans hid')
      obtain ⟨-, hn⟩ := hnumber _ (List.mem_singleton_self _)
      exact ⟨by rw [hn], (hk.due_of_fired hallow hi hid).symm⟩

end

end Enrolling

/-! ## Rounds in order -/

section
variable {config : StrategyConfig} {clientId : String} {selector : Selector} {ticks : List Tick}

/-- Where nothing becomes of the attempts, none is counted. -/
theorem made_of_quiet {strategy : Strategy} {log quiet : List Dated}
    (hclose : ∀ d ∈ quiet, ∀ w, ¬d.Closes w) (hquiet : ∀ d ∈ quiet, ¬d.Stirs strategy .register) :
    made strategy (log ++ quiet) = made strategy log := by
  induction quiet using List.reverseRecOn with
  | nil => rw [List.append_nil]
  | append_singleton quiet d ih =>
    have hd : d ∈ quiet ++ [d] := List.mem_append_right _ (List.mem_singleton_self _)
    have hends : ¬d.EndsRound strategy := by
      rintro (hg | ⟨r, ha⟩ | ⟨w, hw⟩)
      · exact hquiet d hd (.inl hg.concludes)
      · exact hquiet d hd (.inl ha.concludes)
      · exact hclose d hd w hw
    have hnone : d.attempts strategy = [] :=
      Moment.attempts_eq_nil.2 fun hissues => hquiet d hd (.inr (.inl hissues))
    rw [← List.append_assoc, made_concat, if_neg hends, hnone,
      ih (fun x hx => hclose x (List.mem_append_left _ hx))
        fun x hx => hquiet x (List.mem_append_left _ hx)]
    rfl

variable (hclose : ∀ d ∈ annals config.strategy clientId selector ticks, ∀ w, ¬d.Closes w)
variable {before after : List Dated} {m : Dated}
variable (h : annals config.strategy clientId selector ticks = before ++ m :: after)
include hclose h

/-- **Attempts are made when they are due, and at no other time.** -/
theorem inTurn : m.InTurn config (made config.strategy before) before := by
  obtain ⟨c, p, q, hk, hc, h', hallow, rfl⟩ := annals_enrolling h hclose
  have hopen := hclose _ (h ▸ List.mem_append_right _ List.mem_cons_self)
  exact ⟨hc.number hopen, hc.first hopen, hc.next hopen hk hallow⟩

/-- When the strategy waits, the next attempt is made when it has waited. -/
theorem renewed (hloses : ∃ k, m.Loses k)
    (hlimit : config.limit? ≠ some (made config.strategy before))
    (hwait : 0 < config.wait (made config.strategy before)) :
    Dated.Renewed config.strategy (attemptNumber (made config.strategy before + 1))
      (m.time + config.wait (made config.strategy before)) after
      (lived config.strategy clientId selector ticks) := by
  have hopen := hclose _ (h ▸ List.mem_append_right _ List.mem_cons_self)
  obtain ⟨k, hl⟩ := hloses
  have hstirs : m.Stirs config.strategy .register := .inl hl.concludes
  obtain ⟨hdefers, hmade⟩ : m.Defers config.strategy ∧
      made config.strategy (before ++ [m]) = made config.strategy before := by
    obtain ⟨c, p, q, -, hc, h', -, rfl⟩ := annals_enrolling h hclose
    obtain ⟨-, failure, d, hasked, hd, hattempts, -⟩ := hc.lost hopen hl
    cases hd with
    | fail hsome hle => exact absurd (hc.tallied.limit (.fail hsome hle)) hlimit
    | now _ hzero => exact absurd hzero (Nat.ne_of_gt hwait)
    | after =>
      have hends : ¬(c.date h').EndsRound config.strategy := by
        rintro (hg | ⟨r, ha⟩ | ⟨w, hw⟩)
        · exact hlimit ((hc.givesUp_iff hopen).1 hg).2
        · exact hl.2 r ha
        · exact hopen w hw
      refine ⟨⟨_, _, hasked ▸ List.mem_singleton_self _⟩, ?_⟩
      rw [made_concat, if_neg hends, hattempts]
      rfl
  have hquiet_made : ∀ quiet, (∀ d ∈ quiet, d ∈ after) →
      (∀ d ∈ quiet, ¬d.Stirs config.strategy .register) →
      made config.strategy (before ++ m :: quiet) = made config.strategy before := by
    intro quiet hsub hquiet
    have hopens : ∀ d ∈ quiet, ∀ w, ¬d.Closes w := fun d hd => hclose d (h ▸ by simp [hsub d hd])
    have hadd : made config.strategy ((before ++ [m]) ++ quiet) = _ := made_of_quiet hopens hquiet
    rw [← hmade, ← hadd, List.append_assoc]
    rfl
  rcases first_or_none (·.Stirs config.strategy .register) after with
    hquiet | ⟨quiet, d, rest, rfl, hs, hquiet⟩
  · obtain ⟨p, hc⟩ := lived_enrolling ticks hclose
    obtain ⟨_, hk⟩ := lived_known config.strategy clientId selector ticks
    rw [h] at hc
    obtain ⟨rfl, id, hid, hdue⟩ := hc.waiting hdefers hstirs hquiet
    rw [hquiet_made after (fun _ hd => hd) hquiet] at hdue
    exact .inr ⟨hquiet, hdue ▸ hk.onTime (hc.not_stopped hk.left) .register id hid⟩
  · have hlog : annals config.strategy clientId selector ticks =
        (before ++ m :: quiet) ++ d :: rest := by
      rw [h, List.append_assoc, List.cons_append]
    obtain ⟨c, p, q, hk, hc, h', hallow, rfl⟩ := annals_enrolling hlog hclose
    have hopen' := hclose _ (hlog ▸ List.mem_append_right _ List.mem_cons_self)
    obtain ⟨rfl, id, hid, hdue⟩ := hc.waiting hdefers hstirs hquiet
    obtain ⟨hattempts, htime⟩ := hc.stirs_retrying hopen' hk hallow hid hs
    rw [hquiet_made quiet (fun _ hd => List.mem_append_left _ hd) hquiet] at hdue hattempts
    exact .inl ⟨quiet, _, rest, rfl, hquiet, hattempts, htime.trans hdue⟩

/-- **What becomes of attempts that have an outcome.** -/
theorem settled : m.Settled config (made config.strategy before) before after
    (lived config.strategy clientId selector ticks) := by
  obtain ⟨c, p, q, hk, hc, h', hallow, rfl⟩ := annals_enrolling h hclose
  have hopen := hclose _ (h ▸ List.mem_append_right _ List.mem_cons_self)
  constructor
  case asked =>
    intro k hl
    obtain ⟨hnumber, failure, d, hasked, -⟩ := hc.lost hopen hl
    exact ⟨hnumber, failure, d, hasked⟩
  case silent =>
    exact fun hnone => List.eq_nil_iff_forall_not_mem.2 fun x hx =>
      hnone _ (hc.loses_of_consulted hx)
  case again =>
    rintro ⟨k, hl⟩ hlimit hwait
    obtain ⟨-, failure, d, -, hd, hattempts, -⟩ := hc.lost hopen hl
    cases hd with
    | fail hsome hle => exact absurd (hc.tallied.limit (.fail hsome hle)) hlimit
    | now => exact hattempts
    | after _ hpos => exact absurd hwait (Nat.ne_of_gt hpos)
  case later => exact renewed hclose h
  case givesUp => exact hc.givesUp_iff hopen
  case gaveUp =>
    obtain ⟨hs, -, hlog⟩ := annals_undated config.strategy clientId selector ticks
    rw [h, List.map_append, List.map_cons] at hlog
    obtain ⟨_, hknown⟩ := Life.annals_known hlog.symm
    exact hc.gaveUp hopen hknown
  case registered =>
    intro r ha
    obtain ⟨hlast, hnone⟩ := hc.registered hopen ha
    refine ⟨hlast, hnone, fun d hd => ?_⟩
    obtain ⟨between, rest, rfl⟩ := List.append_of_mem hd
    have hlog : annals config.strategy clientId selector ticks =
        (before ++ c.date h' :: between) ++ d :: rest := by
      rw [h, List.append_assoc, List.cons_append]
    obtain ⟨c', p', q', hk', hc', h'', -, rfl⟩ := annals_enrolling hlog hclose
    refine hc'.attempts_of_numbered (hclose _ (hlog ▸ List.mem_append_right _ List.mem_cons_self))
      (hk'.numbered.sessionId (m := (c.date h').toMoment) ?_ ha)
    exact List.mem_map_of_mem (by simp)

end

/-- **Rounds of attempts to register the session are orderly.**  On a virtual clock, in every life in
    which nobody wants the session closed and the strategy is one of those that can be configured,
    there is never more than one request to register on its way.  A round begins when a caller wants
    the session open.  Its attempts have the numbers 1, 2, 3, and so on; each one is made when the one
    before has failed and the strategy has waited, in milliseconds, for as long as its number says;
    and none of these fails to come.  The strategy is asked about each attempt that fails, once and
    by its number, and about nothing else.  It gives up when as many attempts have failed as it
    allows; then everybody who has joined the round is told, no timer is set, and the next caller
    begins a round anew.  An attempt that registers the session is the last one. -/
theorem rounds_orderly (config : StrategyConfig) (clientId : String) (selector : Selector)
    (ticks : List Tick)
    (hclose : ∀ d ∈ annals config.strategy clientId selector ticks, ∀ w, ¬d.Closes w) :
    let c := lived config.strategy clientId selector ticks
    let log := annals config.strategy clientId selector ticks
    c.life.calls.count .register ≤ 1 ∧
    ∀ before m after, log = before ++ m :: after →
      m.InTurn config (made config.strategy before) before ∧
      m.Settled config (made config.strategy before) before after c := by
  intro c log
  obtain ⟨p, hp⟩ := lived_inPhase config.strategy clientId selector ticks
  exact ⟨hp.calls_register_le, fun before m after h => ⟨inTurn hclose h, settled hclose h⟩⟩

/-- Two attempts, five milliseconds apart, are all that the strategy allows.  Both fail, the second
    because the session would have no timeout, and the next caller begins a round anew. -/
theorem rounds_orderly_fixed :
    let config := StrategyConfig.fixedAttempts 2 5
    let log := annals config.strategy "c" (.ofServers .any []) [
      .happens .opening, .happens .opening, .happens .command,
      .happens (.outcome 0 (.error .connectionClosed)), .happens .command, .passes 5,
      .happens (.timer 0), .happens (.outcome 0 (.ok (.register (.accept 7 0 none [])))),
      .happens .opening, .happens .command]
    (∀ d ∈ log, ∀ w, ¬d.Closes w) ∧
      ((log.filter (·.attempts config.strategy ≠ [])).map fun d =>
        (d.time, d.attempts config.strategy)) = [(0, [1]), (5, [2]), (5, [1])] ∧
      ((log.filter (·.GivesUp config.strategy)).map (·.answered config.strategy)) = [[1, 0]] ∧
      ∀ before m after, log = before ++ m :: after →
        m.InTurn config (made config.strategy before) before := by
  intro config log
  have hnone : ∀ d ∈ log, ¬∃ w, d.Closes w := by decide +kernel
  have hclose : ∀ d ∈ log, ∀ w, ¬d.Closes w := fun d hd w hw => hnone d hd ⟨w, hw⟩
  obtain ⟨-, horderly⟩ := rounds_orderly config "c" (.ofServers .any []) _ hclose
  exact ⟨hclose, by decide +kernel, by decide +kernel,
    fun before m after h => (horderly before m after h).1⟩

end Clocked

end ClusterSession
