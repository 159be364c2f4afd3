/-
  ClusterSession: rounds of attempts to register the session.

  * `Life.Tallied`: what is known of a task that has made so many attempts in the round
    that is on.  `Tallied.handles`: every input keeps it, as long as nobody wants the
    session closed.
  * `Clocked.made`: the number of attempts in the round that is on.
  * `Clocked.Enrolling`: the timer for the next attempt is set just if the strategy has had
    it wait, and goes off when it has waited for so long.
  * `lived_enrolling`: so it is in every life.
-/
import ClusterSession.Proofs.Session.Attempts

namespace ClusterSession

theorem StrategyConfig.limit?_pos {config : StrategyConfig} {limit : Nat}
    (h : config.limit? = some limit) : 0 < limit := by
  cases config with
  | once => cases h; exact Nat.one_pos
  | fixedAttempts => cases h; exact Nat.lt_of_lt_of_le Nat.one_pos (Nat.le_max_right _ _)
  | _ => cases h

namespace Life

/-- What is known of a task that has made `n` attempts in the round that is on, while nobody has
    wanted the session closed. -/
structure Tallied (config : StrategyConfig) (n : Nat) (l : Life) (p : Phase) : Prop where
  inPhase : l.InPhase p
  unclosed : l.session.closing = false
  /-- No attempt has been made just if there is no round. -/
  trying : p.trying = true ↔ 0 < n
  /-- The attempt that is on its way is the last one. -/
  outstanding : ∀ x ∈ l.outstanding, ∀ k, x.errand.attempt? = some k → k = attemptNumber n
  /-- The attempt that is due later is the next one. -/
  timers : ∀ a ∈ l.timers, ∀ k, a.purpose = .register k → l.session.registerTimer = some a.id →
    k = attemptNumber (n + 1)
  numbered : ∀ a ∈ l.timers, a.id ≤ l.session.timersSet
  within : ∀ limit, config.limit? = some limit → n ≤ limit
  more : p = .retrying → config.Allows n

section
variable {config : StrategyConfig} {n : Nat} {l l' : Life} {p q : Phase} {h : Happening}
variable {i : Input} {ks : List UInt32}

theorem born_tallied (config : StrategyConfig) (clientId : String) (selector : Selector) :
    (born clientId selector).Tallied config 0 .idle where
  inPhase := born_inPhase clientId selector
  unclosed := rfl
  trying := by decide
  outstanding := nofun
  timers := nofun
  numbered := nofun
  within _ _ := Nat.zero_le _
  more := nofun

/-- A happening in which the task takes in nothing changes nothing of it. -/
theorem Tallied.alike (hl : l.Tallied config n p) (ha : Alike l l') : l'.Tallied config n p where
  inPhase := (ha.passes hl.inPhase).inPhase
  unclosed := ha.session ▸ hl.unclosed
  trying := hl.trying
  outstanding := ha.outstanding ▸ hl.outstanding
  timers := by rw [ha.timers, ha.session]; exact hl.timers
  numbered := by rw [ha.timers, ha.session]; exact hl.numbered
  within := hl.within
  more := hl.more

/-! ## Numbers -/

/-- The attempt that has an outcome is the last one. -/
theorem Tallied.number_of_registered (hl : l.Tallied config n p) {k : UInt32}
    {result : Except ConnectionError RegisterResponse}
    (hi : l.input? h = some (.event (.registered k result))) : k = attemptNumber n := by
  obtain ⟨e, raw, ho, -, he⟩ := Moment.outcome?_of_call? (m := ⟨l, h⟩) hi rfl
  obtain ⟨x, hx, rfl⟩ := Moment.outstanding_of_outcome ho
  refine hl.outstanding x hx k ?_
  cases hx : x.errand <;> rw [hx] at he <;> cases he
  rfl

/-- **Attempts are numbered one after another.** -/
theorem Tallied.number (hl : l.Tallied config n p) (hi : l.input? h = some i)
    (ht : l.turn.Tries config.strategy p i ks q) : ∀ k ∈ ks, k = attemptNumber (n + 1) := by
  cases ht with
  | first =>
    obtain rfl : n = 0 := Nat.eq_zero_of_not_pos fun hn => nomatch hl.trying.2 hn
    exact fun k hk => List.mem_singleton.1 hk
  | due hid =>
    obtain ⟨_, -, ha⟩ := input?_timer hi
    intro k hk
    rw [List.mem_singleton.1 hk]
    exact hl.timers _ (List.mem_of_getElem? ha) _ rfl hid
  | again =>
    intro k hk
    rw [List.mem_singleton.1 hk, hl.number_of_registered hi, nextAttempt_attemptNumber]
  | _ => nofun

/-- **What the strategy decides when an attempt has failed.** -/
theorem Tallied.decides (hl : l.Tallied config n .registering) {k : UInt32}
    {result : Except ConnectionError RegisterResponse} {failure : AttemptFailure} {d : Decision}
    (hi : l.input? h = some (.event (.registered k result)))
    (hd : config.strategy.decide l.turn.session.consultations { number := k, failure } = d) :
    config.Decides n d := by
  rw [← hd, hl.number_of_registered hi]
  exact config.decide_attemptNumber (hl.trying.1 rfl) failure

/-- **Why a timer for an attempt is set**: the last one has failed, and the strategy has the next one
    wait. -/
theorem Tallied.deferred (hl : l.Tallied config n p) (hi : l.input? h = some i)
    (hh : l.Handles config.strategy l' i) {purpose : Purpose} {delay : Duration}
    (hplan : l.turn.plan config.strategy i = .later purpose delay)
    (hslot : purpose.slot = .register) :
    ∃ result failure, i = .event (.registered (attemptNumber n) result) ∧
      Turn.refusal? result = .error failure ∧ purpose = .register (attemptNumber (n + 1)) ∧
      config.Decides n (.after delay) := by
  have hcall : i.call? = some .register := by
    have hground := l.turn.plan_grounds config.strategy i
    rw [hplan] at hground
    cases purpose with
    | register => exact hground.call?.resolve_right nofun
    | _ => cases hslot
  rcases i with _ | (_ | ⟨k, result⟩ | _ | _) <;> try cases hcall
  obtain rfl := hl.number_of_registered hi
  obtain ⟨q, hleads, -⟩ := hh.planned hl.inPhase
  obtain rfl := hleads.registering_of_got (hl.inPhase.fits.closing.symm.trans hl.unclosed)
  cases hr : Turn.refusal? result with
  | ok r =>
    rw [Turn.plan_of_accepted _ _ (Input.accepted?_eq_some.2 ⟨_, result, rfl, hr⟩),
      if_neg (by rw [show l.turn.session.closing = false from hl.unclosed]; nofun)] at hplan
    cases hplan
    cases hslot
  | error failure =>
    rw [Turn.plan_of_refused _ hr hl.unclosed] at hplan
    split at hplan
    · cases hplan
    · next hd =>
      cases hplan
      refine ⟨result, failure, rfl, hr, ?_, hl.decides hi hd⟩
      rw [nextAttempt_attemptNumber]
    · cases hplan

/-- A strategy that gives up has allowed as many attempts as were made. -/
theorem Tallied.limit (hl : l.Tallied config n p) {error : Option SessionError}
    (hd : config.Decides n (.fail error)) : config.limit? = some n := by
  cases hd with
  | fail hlimit hle => rw [hlimit, Nat.le_antisymm hle (hl.within _ hlimit)]

/-! ## What an input keeps -/

theorem InPhase.calls_register_le (hp : l.InPhase p) : l.calls.count .register ≤ 1 := by
  have hle := (hp.owes .register).2
  cases p <;> simp only [Phase.calls, Phase.late] at hle <;> omega

/-- While an attempt is on its way, the session is being registered. -/
theorem InPhase.registering_of_attempt (hp : l.InPhase p) (hc : l.session.closing = false)
    {x : Sent} (hx : x ∈ l.outstanding) (hm : x.method = .register) : p = .registering := by
  have hle := (hp.owes .register).2
  have hclosing := hp.fits.closing.symm.trans hc
  have hpos : 0 < l.calls.count .register :=
    List.count_pos_iff.2 (List.mem_map.2 ⟨x, hx, hm⟩)
  cases p <;> first
    | rfl
    | cases hclosing; done
    | (simp only [Phase.calls, Phase.late] at hle; omega)

/-- Nothing is on its way while a task is idle. -/
theorem InPhase.outstanding_of_idle (hp : l.InPhase .idle) : l.outstanding = [] := by
  have hcalls : l.calls = [] := by
    refine List.eq_nil_iff_forall_not_mem.2 fun m hm => ?_
    have hpos : 0 < l.calls.count m := List.count_pos_iff.2 hm
    have hle := (hp.owes m).2
    cases m <;> simp only [Phase.calls, Phase.late] at hle <;> omega
  exact List.map_eq_nil_iff.1 hcalls

/-- An attempt that is on its way after an input has been made by it, or it has made none. -/
theorem Handles.attempt_cases {strategy : Strategy} (hh : l.Handles strategy l' i)
    (hq : l'.InPhase q) {x : Sent} (hx : x ∈ l'.outstanding) {k : UInt32}
    (hk : x.errand.attempt? = some k) :
    k ∈ (l.turn.handle strategy i).attempts ∨
      (l.turn.handle strategy i).attempts = [] ∧ x ∈ l.outstanding := by
  obtain ⟨rest, news, hrest, hout, hnews⟩ := hh.outstanding
  have hmethod : ∀ {y : Sent} {k}, y.errand.attempt? = some k → y.method = .register := fun hy =>
    Errand.attempt?_isSome.1 (Option.isSome_of_eq_some hy)
  rw [Turn.attempts, ← hnews, List.filterMap_map]
  rcases List.mem_append.1 (hout ▸ hx) with hx | hx
  · refine .inr ⟨List.filterMap_eq_nil_iff.2 fun y hy => ?_, hrest x hx⟩
    -- two attempts are never on their way
    by_contra hne
    obtain ⟨k', hk'⟩ := Option.ne_none_iff_exists'.1 hne
    have hle := hq.calls_register_le
    have hold : 0 < (rest.map Sent.method).count .register :=
      List.count_pos_iff.2 (List.mem_map.2 ⟨x, hx, hmethod hk⟩)
    have hnew : 0 < (news.map Sent.method).count .register :=
      List.count_pos_iff.2 (List.mem_map.2 ⟨y, hy, hmethod hk'⟩)
    rw [Life.calls, hout, List.map_append, List.count_append] at hle
    omega
  · exact .inl (List.mem_filterMap.2 ⟨x, hx, hk⟩)

/-- The number of attempts in the round that is on, after an input. -/
def tally (n : Nat) (ks : List UInt32) (q : Phase) : Nat := if q.trying then n + ks.length else 0

theorem tally_of_trying (hq : q.trying = true) : tally n ks q = n + ks.length := if_pos hq

theorem tally_of_not_trying (hq : q.trying = false) : tally n ks q = 0 :=
  if_neg (by rw [hq]; nofun)

section
variable (hl : l.Tallied config n p)
variable (ht : l.turn.Tries config.strategy p i (l.turn.handle config.strategy i).attempts q)
include hl ht

theorem Tallied.outstanding_next (hi : l.input? h = some i)
    (hh : l.Handles config.strategy l' i) (hq : l'.InPhase q) (hc : l'.session.closing = false) :
    ∀ x ∈ l'.outstanding, ∀ k, x.errand.attempt? = some k →
      k = attemptNumber (tally n (l.turn.handle config.strategy i).attempts q) := by
  intro x hx k hk
  have hm : x.method = .register := Errand.attempt?_isSome.1 (Option.isSome_of_eq_some hk)
  obtain rfl := hq.registering_of_attempt hc hx hm
  rw [tally_of_trying rfl]
  rcases hh.attempt_cases hq hx hk with hnew | ⟨hnone, hold⟩
  · have hone : (l.turn.handle config.strategy i).attempts.length = 1 :=
      Nat.le_antisymm ht.length_le (List.length_pos_of_mem hnew)
    rw [hone]
    exact hl.number hi ht k hnew
  · rw [hnone]
    exact hl.outstanding x hold k hk

theorem Tallied.timers_next (hi : l.input? h = some i) (hh : l.Handles config.strategy l' i)
    (hq : l'.InPhase q) : ∀ a ∈ l'.timers, ∀ k, a.purpose = .register k →
    l'.session.registerTimer = some a.id →
      k = attemptNumber (tally n (l.turn.handle config.strategy i).attempts q + 1) := by
  intro a ha k hk hid
  have hid : l'.session.timer .register = some a.id := hid
  obtain rfl := (hq.timer_iff .register).1 (Option.isSome_of_eq_some hid)
  have hset : ∀ plan, l.turn.plan config.strategy i = plan →
      (l.turn.handle config.strategy i).armed =
        (plan.alarm? (l.session.timersSet + 1)).toList.map Alarm.toArmed := by
    rintro _ rfl
    rw [← Turn.alarms_armed, (l.turn.handle_follows config.strategy i).alarms]
    rfl
  have hnone : l.turn.plan config.strategy i ≠ .now .register →
      (l.turn.handle config.strategy i).attempts = [] := Turn.attempts_of_plan rfl
  rw [tally_of_trying rfl]
  rcases hh.timer_cases hl.inPhase hid with ⟨hold, hplan⟩ | ⟨purpose, delay, hslot, hplan, hnew⟩
  · have ha := (hh.timers a ha).resolve_right (by rw [hset _ hplan]; nofun)
    rw [hnone (by rw [hplan]; nofun)]
    exact hl.timers a ha k hk hold
  · rcases hh.timers a ha with ha | ha
    · have hle := hl.numbered a ha
      omega
    · rw [hset _ hplan] at ha
      obtain rfl := List.mem_singleton.1 ha
      obtain rfl : purpose = .register k := hk
      obtain ⟨_, _, -, -, hpurpose, -⟩ := hl.deferred hi hh hplan rfl
      rw [hnone (by rw [hplan]; nofun)]
      exact Purpose.register.inj hpurpose

theorem Tallied.within_next (hi : l.input? h = some i) (limit : Nat)
    (hlimit : config.limit? = some limit) :
    tally n (l.turn.handle config.strategy i).attempts q ≤ limit := by
  have hpos := StrategyConfig.limit?_pos hlimit
  have hle := hl.within limit hlimit
  generalize (l.turn.handle config.strategy i).attempts = ks at ht
  cases hq' : q.trying with
  | false => rw [tally_of_not_trying hq']; exact Nat.zero_le _
  | true =>
    rw [tally_of_trying hq']
    cases ht with
    | first =>
      obtain rfl : n = 0 := Nat.eq_zero_of_not_pos fun hn => nomatch hl.trying.2 hn
      exact hpos
    | due => exact hl.more rfl limit hlimit
    | again hr hd =>
      cases hl.decides hi hd with
      | now hallows => exact hallows limit hlimit
    | gaveUp | opened => cases hq'
    | _ => exact hle

theorem Tallied.more_next (hi : l.input? h = some i) (hretrying : q = .retrying) :
    config.Allows (tally n (l.turn.handle config.strategy i).attempts q) := by
  subst hretrying
  rw [tally_of_trying rfl]
  generalize (l.turn.handle config.strategy i).attempts = ks at ht
  cases ht with
  | aside _ _ hp =>
    rcases hp with rfl | ⟨-, hp⟩
    · exact hl.more rfl
    · cases hp
  | later hr hd =>
    cases hl.decides hi hd with
    | after hallows => exact hallows

theorem Tallied.trying_next :
    q.trying = true ↔ 0 < tally n (l.turn.handle config.strategy i).attempts q := by
  have htrying := hl.trying
  cases hq' : q.trying with
  | false => simp [tally_of_not_trying hq']
  | true =>
    rw [tally_of_trying hq']
    refine iff_of_true rfl ?_
    generalize (l.turn.handle config.strategy i).attempts = ks at ht
    cases ht with
    | aside _ _ hp =>
      rcases hp with rfl | ⟨-, hp⟩
      · exact htrying.1 hq'
      · cases hq'.symm.trans hp
    | later => exact htrying.1 rfl
    | gaveUp | opened => cases hq'
    | _ => exact Nat.succ_pos _

/-- **Whatever the input, the attempts of a round are numbered one after another**, and the strategy
    does not allow for more. -/
theorem Tallied.handles (hi : l.input? h = some i) (hh : l.Handles config.strategy l' i)
    (hq : l'.InPhase q) (hc : l'.session.closing = false) :
    l'.Tallied config (tally n (l.turn.handle config.strategy i).attempts q) q where
  inPhase := hq
  unclosed := hc
  trying := hl.trying_next ht
  outstanding := hl.outstanding_next ht hi hh hq hc
  timers := hl.timers_next ht hi hh hq
  numbered := by
    have hcounts := l.turn.handle_counts config.strategy i rfl
    rw [hh.session]
    intro a ha
    rcases hh.timers a ha with ha | ha
    · exact Nat.le_trans (hl.numbered a ha) hcounts.le
    · exact (hcounts.armed a ha).2
  within := hl.within_next ht hi
  more := hl.more_next ht hi

end

end

end Life

/-! ## Rounds -/

namespace Moment

/-- The strategy has the next attempt wait. -/
def Defers (strategy : Strategy) (m : Moment) : Prop :=
  ∃ a delay, (a, .after delay) ∈ m.consulted strategy

section
variable {strategy : Strategy} {l : Life} {h : Happening} {i : Input} {p q : Phase}
variable {ks : List UInt32}

theorem not_closing_of_not_closes (hi : l.input? h = some i) (hclose : ∀ w, ¬Closes w ⟨l, h⟩) :
    ∀ w, i ≠ .command (.closing w) := by
  rintro w rfl
  exact hclose w (command?_of_input hi)

/-- A round ends with an attempt: the strategy gives up, or the session is registered. -/
theorem endsRound_iff (hi : l.input? h = some i) (hc : l.session.closing = false)
    (hclose : ∀ w, ¬Closes w ⟨l, h⟩) : EndsRound strategy ⟨l, h⟩ ↔
      (∃ a error, i.failed? = some a ∧ strategy.decide l.session.consultations a = .fail error) ∨
        ∃ r, i.accepted? = some r := by
  have hends : EndsRound strategy ⟨l, h⟩ ↔ GivesUp strategy ⟨l, h⟩ ∨ ∃ r, Accepts ⟨l, h⟩ r := by
    refine or_congr_right (or_iff_left ?_)
    rintro ⟨w, hw⟩
    exact hclose w hw
  rw [hends]
  refine or_congr ?_ ?_
  · simp only [givesUp_iff, mem_consulted hi hc]
  · simp only [accepts_iff, accepted?_of_input hi]

/-- **A round ends when the session is not being registered any more.** -/
theorem endsRound_of_tries (hi : l.input? h = some i) (hc : l.session.closing = false)
    (hclose : ∀ w, ¬Closes w ⟨l, h⟩) (ht : l.turn.Tries strategy p i ks q) :
    EndsRound strategy ⟨l, h⟩ ↔ p.trying = true ∧ q.trying = false := by
  rw [endsRound_iff hi hc hclose]
  cases ht with
  | aside hcall _ hpq =>
    -- an input that is no outcome of an attempt ends no round
    refine iff_of_false ?_ ?_
    · rintro (⟨a, error, ha, -⟩ | ⟨r, ha⟩)
      · cases (Input.failed?_of_call? hcall).symm.trans ha
      · exact hcall (Input.call?_of_accepted? ha)
    · rintro ⟨hp, hq⟩
      rcases hpq with rfl | ⟨hp', -⟩
      · cases hp.symm.trans hq
      · cases hp.symm.trans hp'
  | first | due =>
    refine iff_of_false ?_ nofun
    rintro (⟨a, error, ha, -⟩ | ⟨r, ha⟩) <;> cases ha
  | again hr hd | later hr hd =>
    refine iff_of_false ?_ nofun
    rintro (⟨a, error, ha, hfail⟩ | ⟨r, ha⟩)
    · obtain rfl := Option.some.inj ((Input.failed?_of_refused hr).symm.trans ha)
      cases hd.symm.trans hfail
    · obtain ⟨_, _, he, hok⟩ := Input.accepted?_eq_some.1 ha
      cases he
      cases hr.symm.trans hok
  | gaveUp hr hd => exact iff_of_true (.inl ⟨_, _, Input.failed?_of_refused hr, hd⟩) ⟨rfl, rfl⟩
  | opened hr => exact iff_of_true (.inr ⟨_, Input.accepted?_eq_some.2 ⟨_, _, rfl, hr⟩⟩) ⟨rfl, rfl⟩

end

end Moment

namespace Clocked

/-- The number of attempts in the round that is on. -/
def made (strategy : Strategy) (log : List Dated) : Nat :=
  log.foldl
    (fun n d => if d.EndsRound strategy then 0 else n + (d.attempts strategy).length) 0

theorem made_concat (strategy : Strategy) (log : List Dated) (d : Dated) :
    made strategy (log ++ [d]) =
      if d.EndsRound strategy then 0 else made strategy log + (d.attempts strategy).length := by
  rw [made, List.foldl_append]
  rfl

/-- What is known of the attempts in a life with a clock, while nobody has wanted the session
    closed. -/
structure Enrolling (config : StrategyConfig) (c : Clocked) (p : Phase) (log : List Dated) :
    Prop where
  tallied : c.life.Tallied config (made config.strategy log) p
  /-- The timer for the next attempt has been set when the last one failed. -/
  due : ∀ id, c.life.session.timer .register = some id →
    Lately (fun d => d.Loses (attemptNumber (made config.strategy log)) ∧
        c.due id = d.time + config.wait (made config.strategy log))
      (·.Stirs config.strategy .register) log
  /-- It stays set until it goes off. -/
  retrying : Lately (·.Defers config.strategy) (·.Stirs config.strategy .register) log →
    p = .retrying

section
variable {config : StrategyConfig} {c : Clocked} {p q : Phase} {log : List Dated} {h : Happening}
variable {i : Input} {ks : List UInt32}

/-- The attempts of a round, when one more thing has been. -/
theorem made_of_tries (hl : c.life.Tallied config (made config.strategy log) p)
    (hi : c.life.input? h = some i) (hclose : ∀ w, ¬(c.date h).Closes w)
    (hks : (c.date h).attempts config.strategy = ks)
    (ht : c.life.turn.Tries config.strategy p i ks q) :
    made config.strategy (log ++ [c.date h]) =
      Life.tally (made config.strategy log) ks q := by
  have hends : (c.date h).EndsRound config.strategy ↔ p.trying = true ∧ q.trying = false :=
    Moment.endsRound_of_tries hi hl.unclosed hclose ht
  rw [made_concat, hks]
  cases hq : q.trying with
  | true =>
    have hon : ¬(c.date h).EndsRound config.strategy := fun hn =>
      nomatch hq.symm.trans (hends.1 hn).2
    rw [if_neg hon, Life.tally_of_trying hq]
  | false =>
    rw [Life.tally_of_not_trying hq]
    cases hp : p.trying with
    | true => exact if_pos (hends.2 ⟨hp, hq⟩)
    | false =>
      -- there was no round, and there is none
      have hnone : ¬0 < made config.strategy log := fun hn => nomatch hp.symm.trans (hl.trying.2 hn)
      have hon : ¬(c.date h).EndsRound config.strategy := fun hn =>
        nomatch hp.symm.trans (hends.1 hn).1
      rw [if_neg hon]
      cases ht with
      | aside => exact Nat.eq_zero_of_not_pos hnone
      | gaveUp | opened => cases hp
      | _ => cases hq

theorem Enrolling.due_next (hc : c.Enrolling config p log)
    (hi : c.life.input? h = some i)
    (hh : c.life.Handles config.strategy (c.life.step config.strategy h) i)
    (hmade : made config.strategy (log ++ [c.date h]) = made config.strategy log) {id : Nat}
    (hid : (c.life.step config.strategy h).session.timer .register = some id) :
    Lately (fun d => d.Loses (attemptNumber (made config.strategy (log ++ [c.date h]))) ∧
        (c.happen config.strategy h).due id =
          d.time + config.wait (made config.strategy (log ++ [c.date h])))
      (·.Stirs config.strategy .register) (log ++ [c.date h]) := by
  have hp := hc.tallied.inPhase
  rw [hmade, lately_concat, happen_due hi]
  rcases hh.timer_cases hp hid with ⟨hold, hplan⟩ | ⟨purpose, delay, hslot, hplan, rfl⟩
  · rw [hplan]
    refine .inr ⟨hc.due id hold, ?_⟩
    -- while the timer stays set, nothing becomes of the attempts
    rintro (hs | hs | ⟨hs, -⟩)
    · rcases hh.call?_of_timer hp (Option.isSome_of_eq_some hold) with hn | ⟨hn, -⟩
      · cases hn.symm.trans ((Moment.concludes_of_input hi).1 hs)
      · cases hn
    · cases hplan.symm.trans ((Moment.issues_of_input hi).1 hs)
    · cases hs
  · obtain ⟨result, failure, rfl, hr, rfl, hd⟩ := hc.tallied.deferred hi hh hplan hslot
    refine .inl ⟨(Moment.loses_of_input hi).2 ⟨failure, Input.failed?_of_refused hr⟩, ?_⟩
    rw [hplan]
    cases hd with
    | after _ _ hticks => exact (if_pos rfl).trans (congrArg (c.now + ·) hticks)

theorem Enrolling.retrying_next (hc : c.Enrolling config p log)
    (hi : c.life.input? h = some i) (hks : (c.date h).attempts config.strategy = ks)
    (ht : c.life.turn.Tries config.strategy p i ks q)
    (hlately : Lately (·.Defers config.strategy) (·.Stirs config.strategy .register)
      (log ++ [c.date h])) : q = .retrying := by
  rw [lately_concat] at hlately
  rcases hlately with ⟨a, delay, hdefers⟩ | ⟨hlately, hstill⟩
  · obtain ⟨hfailed, hd⟩ := (Moment.mem_consulted hi hc.tallied.unclosed).1 hdefers
    obtain ⟨result, rfl, hr⟩ := Input.failed?_eq_some.1 hfailed
    cases ht with
    | aside hcall => exact absurd rfl hcall
    | later => rfl
    | again hr' hd' | gaveUp hr' hd' =>
      cases hr.symm.trans hr'
      cases hd.symm.trans hd'
    | opened hr' => cases hr.symm.trans hr'
  · obtain rfl := hc.retrying hlately
    cases ht with
    | aside _ _ hp => exact (hp.resolve_right nofun).symm
    | due =>
      refine absurd (.inr (.inl ?_)) hstill
      by_contra hn
      cases hks.symm.trans (Moment.attempts_eq_nil.2 hn)

/-- **While nobody wants the session closed, everything that happens keeps what is known of the
    attempts.** -/
theorem Enrolling.happen (hc : c.Enrolling config p log) (hclose : ∀ w, ¬(c.date h).Closes w) :
    ∃ q, (c.happen config.strategy h).Enrolling config q (log ++ [c.date h]) := by
  rcases c.life.step_input config.strategy h with ⟨i, hi, hh⟩ | ⟨hi, ha, -⟩
  · have hne := Moment.not_closing_of_not_closes hi hclose
    have hl := hc.tallied
    obtain ⟨q, hq, ht⟩ := hh.tries hl.inPhase hl.unclosed hne
    have hks : (c.date h).attempts config.strategy = _ := Moment.attempts_of_input hi
    have hmade := made_of_tries hl hi hclose hks ht
    refine ⟨q, hmade ▸ hl.handles ht hi hh hq (hh.unclosed hl.unclosed hne), fun id hid => ?_,
      hc.retrying_next hi hks ht⟩
    obtain rfl := (hq.timer_iff .register).1 (Option.isSome_of_eq_some hid)
    refine hc.due_next hi hh ?_ hid
    rw [hmade, ht.eq_nil, Life.tally_of_trying rfl]
    rfl
  · have hstill : ¬(c.date h).Stirs config.strategy .register := Moment.not_stirs_of_none _ hi
    have hmade : made config.strategy (log ++ [c.date h]) = made config.strategy log := by
      have hnone : (c.date h).attempts config.strategy = [] := Moment.attempts_of_none hi
      have hends : ¬(c.date h).EndsRound config.strategy := Moment.not_endsRound_of_none hi
      rw [made_concat, if_neg hends, hnone]
      rfl
    refine ⟨p, hmade ▸ hc.tallied.alike ha, fun id hid => ?_, fun hlately => ?_⟩
    · rw [hmade, lately_concat, happen_due_of_none hi]
      exact .inr ⟨hc.due id (ha.session ▸ hid), hstill⟩
    · rw [lately_concat] at hlately
      rcases hlately with ⟨a, delay, hdefers⟩ | ⟨hlately, -⟩
      · have hnone : (c.date h).consulted config.strategy = [] := Moment.consulted_of_none hi
        rw [hnone] at hdefers
        cases hdefers
      · exact hc.retrying hlately

/-- **In every life in which nobody wants the session closed, attempts are made one after
    another.** -/
theorem lived_enrolling {clientId : String} {selector : Selector} (ticks : List Tick)
    (hclose : ∀ d ∈ annals config.strategy clientId selector ticks, ∀ w, ¬d.Closes w) :
    ∃ p, (lived config.strategy clientId selector ticks).Enrolling config p
      (annals config.strategy clientId selector ticks) := by
  refine annals_induction (P := fun c log => (∀ d ∈ log, ∀ w, ¬d.Closes w) →
    ∃ p, c.Enrolling config p log) ?_ ?_ ?_ ticks hclose
  · refine fun _ => ⟨.idle, Life.born_tallied config clientId selector, fun id hid => ?_,
      fun hn => absurd hn not_lately_nil⟩
    cases hid
  · intro c _ log h _ _ ih hclose
    obtain ⟨p, hc⟩ := ih fun d hd => hclose d (List.mem_append_left _ hd)
    exact hc.happen (hclose _ (List.mem_append_right _ (List.mem_singleton_self _)))
  · intro c log millis _ ih hclose
    obtain ⟨p, hc⟩ := ih hclose
    exact ⟨p, hc.tallied, hc.due, hc.retrying⟩

end

end Clocked

end ClusterSession
