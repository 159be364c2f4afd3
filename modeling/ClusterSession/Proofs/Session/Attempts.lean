/-
  ClusterSession: attempts to register the session.

  A round of attempts begins when a caller wants the session open, and goes on until one
  of them registers it or the strategy gives up.

  * `StrategyConfig.limit?` and `StrategyConfig.wait`: how many attempts a built-in strategy
    allows, and how long it waits between them; `decide_attemptNumber`: it decides so.
  * `Turn.attempts` and `Turn.consulted`: the attempts of a turn, and what the strategy was
    asked in it.
  * `Turn.Tries`: all that an input can do to a round; `Handles.tries`: it does one of these.
  * `Moment.Loses`: an attempt fails.
-/
import ClusterSession.Proofs.Session.Rests
import Mathlib.Data.Nat.Fib.Basic

namespace ClusterSession

/-! ## Numbers and strategies -/

/-- The number of the `n`-th attempt of a round.  Numbers end where 32 bits do, and the last one is
    used again and again. -/
def attemptNumber (n : Nat) : UInt32 := UInt32.ofNat (min n (UInt32.size - 1))

theorem attemptNumber_toNat (n : Nat) : (attemptNumber n).toNat = min n (UInt32.size - 1) :=
  UInt32.toNat_ofNat_of_lt' (Nat.lt_of_le_of_lt (Nat.min_le_right _ _) (by decide))

theorem nextAttempt_attemptNumber (n : Nat) :
    nextAttempt (attemptNumber n) = attemptNumber (n + 1) := by
  have hsize : UInt32.size = 4294967296 := rfl
  have hn := attemptNumber_toNat n
  have hnext := attemptNumber_toNat (n + 1)
  rw [hsize] at hn hnext
  refine UInt32.toNat_inj.1 ?_
  unfold nextAttempt
  split
  · next hlast =>
    rw [← UInt32.toNat_inj] at hlast
    have hmax : (UInt32.ofNat (UInt32.size - 1)).toNat = 4294967295 := rfl
    omega
  · next hless =>
    rw [← UInt32.toNat_inj] at hless
    have hmax : (UInt32.ofNat (UInt32.size - 1)).toNat = 4294967295 := rfl
    have hone : (1 : UInt32).toNat = 1 := rfl
    rw [UInt32.toNat_add, hone]
    omega

theorem exponentialSeconds_eq_min (n : UInt32) :
    (exponentialSeconds n).toNat = min (Nat.pow 2 n.toNat) 5 := by
  rw [exponentialSeconds, UInt64.toNat_min, checkedShl]
  show min _ 5 = _
  split
  · next h =>
    have hlt : n.toNat < 64 := UInt32.lt_iff_toNat_lt.1 h
    have hpow : Nat.pow 2 n.toNat < UInt64.size := Nat.pow_lt_pow_right (a := 2) (by decide) hlt
    have hshift : ((1 : UInt64) <<< n.toUInt64).toNat = Nat.pow 2 n.toNat := by
      rw [UInt64.toNat_shiftLeft, UInt32.toNat_toUInt64, Nat.mod_eq_of_lt hlt, Nat.shiftLeft_eq]
      exact (congrArg (· % UInt64.size) (Nat.one_mul _)).trans (Nat.mod_eq_of_lt hpow)
    rw [Option.getD_some, hshift]
  · next h =>
    have hge : 64 ≤ n.toNat := Nat.not_lt.1 fun hlt => h (UInt32.lt_iff_toNat_lt.2 hlt)
    have hpow : Nat.pow 2 3 ≤ Nat.pow 2 n.toNat :=
      Nat.pow_le_pow_right (n := 2) (by decide) (Nat.le_trans (by decide) hge)
    rw [Option.getD_none, Nat.min_eq_right (Nat.le_trans (by decide) hpow)]
    decide

theorem fibonacciTable_get (i : Fin 5) : fibonacciTable[i].toNat = Nat.fib (i + 1) := by
  revert i
  decide

theorem fibonacciSeconds_eq_min {n : UInt32} (hn : 0 < n.toNat) :
    (fibonacciSeconds n).toNat = min (Nat.fib n.toNat) 5 := by
  have hindex : min (n.toNat - 1) 4 + 1 = min n.toNat 5 := by omega
  calc (fibonacciSeconds n).toNat
      = Nat.fib (min (n.toNat - 1) 4 + 1) := fibonacciTable_get ⟨min (n.toNat - 1) 4, by omega⟩
    _ = Nat.fib (min n.toNat 5) := by rw [hindex]
    _ = min (Nat.fib n.toNat) 5 := Nat.fib_mono.map_min

/-- Whatever grows to five seconds has done so before the numbers end. -/
theorem capped_attemptNumber {f : Nat → Nat} (hf : Monotone f) (hfive : 5 ≤ f 5) (n : Nat) :
    min (f (attemptNumber n).toNat) 5 = min (f n) 5 := by
  have hlast : 5 ≤ f (UInt32.size - 1) := Nat.le_trans hfive (hf (by decide))
  rw [attemptNumber_toNat, hf.map_min, min_assoc, min_eq_right hlast]

theorem exponentialSeconds_attemptNumber (n : Nat) :
    (exponentialSeconds (attemptNumber n)).toNat = min (Nat.pow 2 n) 5 := by
  rw [exponentialSeconds_eq_min]
  exact capped_attemptNumber (fun _ _ h => Nat.pow_le_pow_right (by decide) h) (by decide) n

theorem fibonacciSeconds_attemptNumber {n : Nat} (hn : 0 < n) :
    (fibonacciSeconds (attemptNumber n)).toNat = min (Nat.fib n) 5 := by
  have hpos : 0 < (attemptNumber n).toNat := by
    rw [attemptNumber_toNat]
    exact Nat.lt_min.2 ⟨hn, by decide⟩
  rw [fibonacciSeconds_eq_min hpos]
  exact capped_attemptNumber Nat.fib_mono (by decide) n

namespace StrategyConfig

/-- How many attempts a strategy allows in a round; the first is always made. -/
def limit? : StrategyConfig → Option Nat
  | once => some 1
  | exponentialBackoff | fibonacciBackoff => none
  | fixedAttempts maxAttempts _ => some (max maxAttempts.toNat 1)

/-- How long a strategy waits after the `n`-th attempt of a round has failed, in milliseconds. -/
def wait : StrategyConfig → Nat → Nat
  | once, _ => 0
  | exponentialBackoff, n => 1000 * min (Nat.pow 2 n) 5
  | fibonacciBackoff, n => 1000 * min (Nat.fib n) 5
  | fixedAttempts _ delayMs, _ => delayMs.toNat

/-- Another attempt is allowed after the `n`-th one. -/
def Allows (c : StrategyConfig) (n : Nat) : Prop := ∀ limit, c.limit? = some limit → n < limit

/-- What a strategy can decide after the `n`-th attempt of a round. -/
inductive Decides (c : StrategyConfig) (n : Nat) : Decision → Prop
  | fail {limit} : c.limit? = some limit → limit ≤ n → Decides c n (.fail none)
  | now : c.Allows n → c.wait n = 0 → Decides c n .now
  | after {delay} : c.Allows n → 0 < c.wait n → delay.ticks = c.wait n →
      Decides c n (.after delay)

/-- **A built-in strategy decides by its limit and its waits.** -/
theorem decide_attemptNumber (c : StrategyConfig) {n : Nat} (hn : 0 < n)
    (failure : AttemptFailure) :
    c.Decides n (c.decide { number := attemptNumber n, failure }) := by
  cases c with
  | once => exact .fail rfl hn
  | exponentialBackoff =>
    have hpos : 0 < Nat.pow 2 n := Nat.pow_pos (by decide)
    refine .after nofun ?_ ?_
    · simp only [wait]; omega
    · rw [Duration.ticks_ofSeconds, exponentialSeconds_attemptNumber, wait]
  | fibonacciBackoff =>
    have hpos : 0 < Nat.fib n := Nat.fib_pos.2 hn
    refine .after nofun ?_ ?_
    · simp only [wait]; omega
    · rw [Duration.ticks_ofSeconds, fibonacciSeconds_attemptNumber hn, wait]
  | fixedAttempts maxAttempts delayMs =>
    have hmax := maxAttempts.toNat_lt
    have hsize : UInt32.size = 4294967296 := rfl
    have hle : maxAttempts ≤ attemptNumber n ↔ max maxAttempts.toNat 1 ≤ n := by
      rw [UInt32.le_iff_toNat_le, attemptNumber_toNat]
      omega
    simp only [decide]
    split
    · next hlast => exact .fail rfl (hle.1 hlast)
    · next hmore =>
      have hallows : (fixedAttempts maxAttempts delayMs).Allows n := by
        rintro _ ⟨⟩
        exact Nat.lt_of_not_le fun h => hmore (hle.2 h)
      split
      · next hzero => exact .now hallows (by rw [hzero]; rfl)
      · next hdelay =>
        refine .after hallows ?_ (Duration.ticks_ofMillis _)
        exact Nat.pos_of_ne_zero fun h => hdelay (UInt64.toNat_inj.1 h)

end StrategyConfig

/-! ## Attempts of a turn -/

/-- The session is being registered. -/
def Phase.trying : Phase → Bool
  | registering | retrying => true
  | _ => false

/-- The number of an attempt to register. -/
def Errand.attempt? : Errand → Option UInt32
  | register n _ => some n
  | _ => none

theorem Errand.attempt?_isSome {e : Errand} : e.attempt?.isSome = true ↔ e.method = .register := by
  cases e <;> simp [attempt?, method, request, Request.method]

/-- What the strategy has been asked, and what it has decided. -/
def Action.consulted? : Action → Option (Attempt × Decision)
  | consult a d => some (a, d)
  | _ => none

/-- Whether a decision ends a round. -/
def Decision.isFail : Decision → Bool
  | fail _ => true
  | _ => false

theorem Decision.isFail_iff {d : Decision} : d.isFail = true ↔ ∃ error, d = .fail error := by
  cases d <;> simp [isFail]

/-- The attempt that fails, and why. -/
def Input.failed? : Input → Option Attempt
  | event (.registered number result) =>
    match Turn.refusal? result with
    | .error failure => some { number, failure }
    | .ok _ => none
  | _ => none

theorem Input.failed?_eq_some {i : Input} {a : Attempt} : i.failed? = some a ↔
    ∃ result, i = .event (.registered a.number result) ∧
      Turn.refusal? result = .error a.failure := by
  constructor
  · intro h
    rcases i with _ | (_ | ⟨number, result⟩ | _ | _) <;> try cases h
    simp only [failed?] at h
    split at h
    · next hr =>
      cases h
      exact ⟨result, rfl, hr⟩
    · cases h
  · rintro ⟨result, rfl, hr⟩
    simp only [failed?, hr]

theorem Input.failed?_of_refused {k : UInt32} {result : Except ConnectionError RegisterResponse}
    {failure : AttemptFailure} (hr : Turn.refusal? result = .error failure) :
    (event (.registered k result)).failed? = some { number := k, failure } :=
  failed?_eq_some.2 ⟨result, rfl, hr⟩

theorem Input.failed?_of_call? {i : Input} (h : i.call? ≠ some .register) : i.failed? = none := by
  rcases i with _ | (_ | _ | _ | _) <;> first | rfl | exact absurd rfl h

namespace Turn

/-- The numbers of the attempts that the turn has made so far. -/
def attempts (t : Turn) : List UInt32 := t.errands.filterMap Errand.attempt?

/-- What the strategy has been asked in the turn so far. -/
def consulted (t : Turn) : List (Attempt × Decision) := t.actions.filterMap Action.consulted?

section
variable (t : Turn)

theorem said_consulted : t.said.filterMap Action.consulted? = t.consulted := by
  rw [said, consulted, List.filterMap_filter]
  refine congrArg (fun f => t.actions.filterMap f) (funext fun a => ?_)
  cases a <;> rfl

@[simp] theorem answers_consulted (waiters : List Waiter) (result : Except SessionError Unit) :
    (answers waiters result).filterMap Action.consulted? = [] := by
  simp [answers, List.filterMap_eq_nil_iff, Action.consulted?]

@[simp] theorem failures_consulted (e : SessionError) (waiters : List Waiter) :
    (failures e waiters).filterMap Action.consulted? = [] := by
  cases waiters <;> simp [failures, Action.consulted?]

end

section
variable {strategy : Strategy} {t : Turn} {i : Input}

/-- **The strategy is asked once about an attempt that fails**, and about nothing else, unless the
    end has been asked for. -/
theorem handle_consulted (ht : t.said = []) (hc : t.session.closing = false) (strategy : Strategy)
    (i : Input) : (t.handle strategy i).consulted =
      (i.failed?.map fun a => (a, strategy.decide t.session.consultations a)).toList := by
  have hserved := handle_served ht strategy i
  rw [← said_consulted]
  have hopen : ∀ {P : Prop}, (P → t.session.closing = true) → ¬P := fun h hP =>
    absurd (hc.symm.trans (h hP)) nofun
  change Serves .. at hserved
  generalize (t.handle strategy i).said = said,
    (t.handle strategy i).session.openWaiters = opens,
    (t.handle strategy i).session.closeWaiters = closes at hserved ⊢
  cases hserved with
  | silent hs => rw [Input.failed?_of_call? (hopen hs)]; rfl
  | retry hr _ hd => simp [Input.failed?, hr, hd, Action.consulted?]
  | gaveUp hr _ hd =>
    simp [Input.failed?, hr, hd, Action.consulted?]
  | opened ha =>
    obtain ⟨attempt, result, he, hr⟩ := Input.accepted?_eq_some.1 ha
    simp [he, Input.failed?, hr]
  | ended _ hs => rw [answers_consulted, Input.failed?_of_call? (hopen hs)]; rfl
  | _ => simp [Input.failed?, Action.consulted?]

/-- Without a plan to register the session, no attempt is made. -/
theorem attempts_of_plan (ht : t.errands = []) (hplan : t.plan strategy i ≠ .now .register) :
    (t.handle strategy i).attempts = [] := by
  have hcalls := (t.handle_follows strategy i).calls
  rw [calls, calls, ht] at hcalls
  refine List.filterMap_eq_nil_iff.2 fun e he => ?_
  rw [← Option.not_isSome_iff_eq_none, Errand.attempt?_isSome]
  intro hm
  have hmem : e.method ∈ (t.handle strategy i).errands.map Errand.method := List.mem_map_of_mem he
  rw [hcalls, hm] at hmem
  cases hp : t.plan strategy i with
  | now c =>
    rw [hp] at hmem hplan
    exact hplan (congrArg Plan.now (List.mem_singleton.1 hmem).symm)
  | _ => rw [hp] at hmem; cases hmem

/-- What the task does next when an attempt has failed. -/
theorem plan_of_refused (strategy : Strategy) {n : UInt32}
    {result : Except ConnectionError RegisterResponse} {failure : AttemptFailure}
    (hr : refusal? result = .error failure) (hc : t.session.closing = false) :
    t.plan strategy (.event (.registered n result)) =
      match strategy.decide t.session.consultations { number := n, failure } with
      | .now => .now .register
      | .after delay => .later (.register (nextAttempt n)) delay
      | .fail _ => .nothing := by
  have hopen : ¬t.session.closing = true := hc ▸ Bool.false_ne_true
  simp only [plan, hr]
  exact if_neg hopen

/-- Timers are set with their delays. -/
theorem alarms_armed (t : Turn) : t.alarms.map Alarm.toArmed = t.armed := by
  rw [alarms, armed, List.map_filterMap]
  refine congrArg (fun f => t.actions.filterMap f) (funext fun a => ?_)
  cases a <;> rfl

end

/-- All that an input can do to a round of attempts, while nobody wants the session closed: the
    phases before and after, and the numbers of the attempts that are made. -/
inductive Tries (strategy : Strategy) (t : Turn) : Phase → Input → List UInt32 → Phase → Prop
  /-- The input has nothing to do with it. -/
  | aside {p q i} : i.call? ≠ some .register →
      (∀ w, i = .command (.opening w) → t.state.status = none → p.trying = true) →
      p = q ∨ p.trying = false ∧ q.trying = false → Tries strategy t p i [] q
  /-- A caller begins a round. -/
  | first {w} : t.state.status = none →
      Tries strategy t .idle (.command (.opening w)) [1] .registering
  /-- The next attempt is due. -/
  | due {id n} : t.session.registerTimer = some id →
      Tries strategy t .retrying (.event (.timer id (.register n))) [n] .registering
  /-- An attempt has failed, and the next one is made at once. -/
  | again {n result failure} : refusal? result = .error failure →
      strategy.decide t.session.consultations { number := n, failure } = .now →
      Tries strategy t .registering (.event (.registered n result)) [nextAttempt n] .registering
  /-- An attempt has failed, and the next one is made later. -/
  | later {n result failure delay} : refusal? result = .error failure →
      strategy.decide t.session.consultations { number := n, failure } = .after delay →
      Tries strategy t .registering (.event (.registered n result)) [] .retrying
  /-- An attempt has failed, and it is the last one. -/
  | gaveUp {n result failure error} : refusal? result = .error failure →
      strategy.decide t.session.consultations { number := n, failure } = .fail error →
      Tries strategy t .registering (.event (.registered n result)) [] .idle
  /-- An attempt has registered the session. -/
  | opened {n result r} : refusal? result = .ok r →
      Tries strategy t .registering (.event (.registered n result)) [] .resting

theorem Tries.length_le {strategy : Strategy} {t : Turn} {p q : Phase} {i : Input}
    {ks : List UInt32} (h : t.Tries strategy p i ks q) : ks.length ≤ 1 := by
  cases h <;> simp

/-- An attempt is made only while there is no session. -/
theorem Tries.standing {strategy : Strategy} {t : Turn} {p q : Phase} {i : Input}
    {ks : List UInt32} (h : t.Tries strategy p i ks q) (hks : ks ≠ []) : p.standing = none := by
  cases h <;> first | rfl | exact absurd rfl hks

/-- While the next attempt is due later, none is made. -/
theorem Tries.eq_nil {strategy : Strategy} {t : Turn} {p : Phase} {i : Input} {ks : List UInt32}
    (h : t.Tries strategy p i ks .retrying) : ks = [] := by
  cases h <;> rfl

end Turn

namespace Phase.Leads

variable {p q : Phase} {got : Option Method} {ms : List Method}

/-- A step without calls to register, and without an outcome of one, has nothing to do with a
    round. -/
theorem aside (h : p.Leads got ms q) (hgot : got ≠ some .register) (hms : .register ∉ ms)
    (hq : q.look.closing = false) : p = q ∨ p.trying = false ∧ q.trying = false := by
  cases h <;> first
    | exact .inl rfl
    | exact .inr ⟨rfl, rfl⟩
    | cases hq; done
    | exact absurd rfl hgot
    | exact absurd (List.mem_singleton_self _) hms

/-- An attempt has an outcome while it is on its way. -/
theorem registering_of_got (h : p.Leads (some .register) ms q) (hp : p.look.closing = false) :
    p = .registering := by
  cases h with
  | ignore hl => cases p <;> cases hl
  | _ => first | rfl | cases hp

/-- The outcome of another call does not make the task register the session. -/
theorem not_mem_of_got {m : Method} (h : p.Leads (some m) ms q) (hm : m ≠ .register) :
    .register ∉ ms := by
  intro hmem
  cases h <;> first
    | exact hm rfl
    | cases hmem; done
    | cases List.mem_singleton.1 hmem

end Phase.Leads

namespace Life

section
variable {strategy : Strategy} {l l' : Life} {p : Phase} {i : Input}

/-- An input that has nothing to do with a round. -/
theorem Handles.tries_aside (hh : l.Handles strategy l' i) (hp : l.InPhase p)
    (hq : l'.session.closing = false) (hcall : i.call? ≠ some .register)
    (hplan : l.turn.plan strategy i ≠ .now .register)
    (hopens : ∀ w, i = .command (.opening w) → l.state.status = none → p.trying = true) :
    ∃ q, l'.InPhase q ∧ l.turn.Tries strategy p i (l.turn.handle strategy i).attempts q := by
  obtain ⟨q, hl, hq'⟩ := hh.planned hp
  refine ⟨q, hq', ?_⟩
  rw [Turn.attempts_of_plan rfl hplan]
  refine .aside hcall hopens (hl.aside hcall (fun hm => hplan ?_) (hq'.fits.closing ▸ hq))
  cases hc : l.turn.plan strategy i <;> rw [hc] at hm <;> cases hm
  · rfl
  · contradiction

theorem Handles.tries_opening (hp : l.InPhase p) (hc : l.session.closing = false)
    (hc' : l'.session.closing = false) {w : Waiter}
    (hh : l.Handles strategy l' (.command (.opening w))) :
    ∃ q, l'.InPhase q ∧ l.turn.Tries strategy p (.command (.opening w))
      (l.turn.handle strategy (.command (.opening w))).attempts q := by
  by_cases hnow : l.turn.plan strategy (.command (.opening w)) = .now .register
  · obtain ⟨q, hl, hq⟩ := hh.planned hp
    have hready := of_not_not fun hn => absurd (hnow.symm.trans (if_neg hn)) nofun
    obtain ⟨hs, -, hr, ht⟩ := hready
    have hattempts : (l.turn.handle strategy (.command (.opening w))).attempts = [1] := by
      have hc : l.turn.session.closing = false := hc
      simp [Turn.handle, Turn.onCommand, Turn.onOpen, hs, hc, hr, ht]
      rfl
    rw [hnow] at hl
    generalize hms : (Plan.now Method.register).call?.toList = ms at hl
    rw [hattempts]
    refine ⟨q, hq, ?_⟩
    cases hl with
    | start => exact .first hs
    | retry => cases (hp.timer_iff .register).2 rfl ▸ congrArg Option.isSome ht
    | _ => cases hms
  · refine hh.tries_aside hp hc' nofun hnow fun _ _ hs => ?_
    -- a task that is idle would begin a round
    by_contra hn
    have hidle : p = .idle := by
      have hstanding := hp.fits.standing.symm.trans (SessionState.standing_eq_none.2 hs)
      have hclosing := hp.fits.closing.symm.trans hc
      cases p <;> first | rfl | cases hstanding; done | cases hclosing; done | exact absurd rfl hn
    subst hidle
    have hlook := Session.look_eq_iff.1 hp.fits.look
    exact hnow (if_pos ⟨hs, hc, hlook.1, hlook.2.2.2.2.2.2.2 rfl⟩)

theorem Handles.tries_timer (hp : l.InPhase p) (hc : l.session.closing = false)
    (hc' : l'.session.closing = false) {id : Nat} {purpose : Purpose}
    (hh : l.Handles strategy l' (.event (.timer id purpose))) :
    ∃ q, l'.InPhase q ∧ l.turn.Tries strategy p (.event (.timer id purpose))
      (l.turn.handle strategy (.event (.timer id purpose))).attempts q := by
  have hcall : (Input.event (.timer id purpose)).call? ≠ some .register := nofun
  have hopens : ∀ w, Input.event (.timer id purpose) = .command (.opening w) →
      l.state.status = none → p.trying = true := nofun
  by_cases hnow : l.turn.plan strategy (.event (.timer id purpose)) = .now .register
  · obtain ⟨q, hl, hq⟩ := hh.planned hp
    have hdue : l.turn.session.timer purpose.slot = some id := by
      by_contra hn
      cases hnow.symm.trans (if_neg hn)
    have hregister : ∃ n, purpose = .register n := by
      simp only [Turn.plan, hdue, if_true, Turn.ask] at hnow
      cases purpose with
      | register n => exact ⟨n, rfl⟩
      | _ => dsimp only at hnow; split_ifs at hnow; cases hnow
    obtain ⟨n, rfl⟩ := hregister
    have hattempts :
        (l.turn.handle strategy (.event (.timer id (.register n)))).attempts = [n] := by
      have hc : l.turn.session.closing = false := hc
      have hdue : l.turn.session.timer .register = some id := hdue
      simp [Turn.handle, Turn.onEvent, Turn.onTimer, Turn.fired, hdue, hc, Session.setTimer]
      rfl
    rw [hnow] at hl
    generalize hms : (Plan.now Method.register).call?.toList = ms at hl
    obtain rfl := (hp.timer_iff .register).1 (Option.isSome_of_eq_some hdue)
    rw [hattempts]
    refine ⟨q, hq, ?_⟩
    cases hl with
    | retry => exact .due hdue
    | _ => cases hms
  · exact hh.tries_aside hp hc' hcall hnow hopens

/-- Where an attempt has an outcome and nothing is planned, no timer is set, and the task is idle. -/
theorem Handles.idle_of_plan (hh : l.Handles strategy l' i) (hp : l.InPhase .registering)
    (hcall : i.call? = some .register) (hplan : l.turn.plan strategy i = .nothing) :
    l'.InPhase .idle := by
  obtain ⟨q, hl, hq⟩ := hh.planned hp
  have hslots : ∀ slot : Slot, q ≠ slot.phase := by
    rintro slot rfl
    obtain ⟨id, hid⟩ := Option.isSome_iff_exists.1 ((hq.timer_iff slot).2 rfl)
    rcases hh.timer_cases hp hid with ⟨hold, -⟩ | ⟨purpose, delay, -, hset, -⟩
    · cases slot <;> cases (hp.timer_iff _).1 (Option.isSome_of_eq_some hold)
    · cases hplan.symm.trans hset
  rw [hcall, hplan] at hl
  generalize hms : Plan.nothing.call?.toList = ms at hl
  cases hl with
  | ignore hlate => cases hlate
  | retryNow => cases hms
  | retryLater => exact absurd rfl (hslots .register)
  | giveUp => exact hq
  | opened => exact absurd rfl (hslots .keepAlive)

theorem Handles.tries_registered (hp : l.InPhase p) (hc : l.session.closing = false) {n : UInt32}
    {result : Except ConnectionError RegisterResponse}
    (hh : l.Handles strategy l' (.event (.registered n result))) :
    ∃ q, l'.InPhase q ∧ l.turn.Tries strategy p (.event (.registered n result))
      (l.turn.handle strategy (.event (.registered n result))).attempts q := by
  obtain ⟨q, hl, hq⟩ := hh.planned hp
  obtain rfl := hl.registering_of_got (hp.fits.closing.symm.trans hc)
  have hclosing : l.turn.session.closing = false := hc
  -- a timer that is planned tells the phase
  have hlater : ∀ purpose delay,
      l.turn.plan strategy (.event (.registered n result)) = .later purpose delay →
      l'.InPhase purpose.slot.phase ∧
        (l.turn.handle strategy (.event (.registered n result))).attempts = [] := by
    intro purpose delay hplan
    have hphase := (hq.timer_iff _).1 (Option.isSome_of_eq_some (hh.timer_of_later hplan))
    exact ⟨hphase ▸ hq, Turn.attempts_of_plan rfl (by rw [hplan]; nofun)⟩
  cases hr : Turn.refusal? result with
  | ok r =>
    have hplan := Turn.plan_of_accepted strategy l.turn (i := .event (.registered n result))
      (Input.accepted?_eq_some.2 ⟨n, result, rfl, hr⟩)
    rw [hclosing, if_neg nofun] at hplan
    obtain ⟨hresting, hattempts⟩ := hlater _ _ hplan
    exact ⟨_, hresting, hattempts ▸ .opened hr⟩
  | error failure =>
    have hplan := Turn.plan_of_refused strategy (n := n) hr hclosing
    cases hd : strategy.decide l.turn.session.consultations { number := n, failure } with
    | now =>
      rw [hd] at hplan
      have hattempts : (l.turn.handle strategy (.event (.registered n result))).attempts =
          [nextAttempt n] := by
        simp [Turn.handle, Turn.onEvent, Turn.onRegistered, hr, Turn.onRefused, hclosing,
          Turn.consult, hd]
        rfl
      rw [hplan] at hl
      generalize hms : (Plan.now Method.register).call?.toList = ms at hl
      refine ⟨q, hq, ?_⟩
      rw [hattempts]
      cases hl with
      | retryNow => exact .again hr hd
      | _ => cases hms
    | after delay =>
      rw [hd] at hplan
      obtain ⟨hretrying, hattempts⟩ := hlater _ _ hplan
      exact ⟨_, hretrying, hattempts ▸ .later hr hd⟩
    | fail error =>
      rw [hd] at hplan
      have hattempts : (l.turn.handle strategy (.event (.registered n result))).attempts = [] :=
        Turn.attempts_of_plan rfl (by simp [hplan])
      exact ⟨_, hh.idle_of_plan hp rfl hplan, hattempts ▸ .gaveUp hr hd⟩

/-- The end is not asked for unless somebody wants the session closed. -/
theorem Handles.unclosed (hh : l.Handles strategy l' i) (hc : l.session.closing = false)
    (hi : ∀ w, i ≠ .command (.closing w)) : l'.session.closing = false := by
  rw [hh.session, Turn.handle_closing_of_ne strategy hi]
  exact hc

/-- **What an input does to a round of attempts**, while nobody wants the session closed. -/
theorem Handles.tries (hh : l.Handles strategy l' i) (hp : l.InPhase p)
    (hc : l.session.closing = false) (hi : ∀ w, i ≠ .command (.closing w)) :
    ∃ q, l'.InPhase q ∧ l.turn.Tries strategy p i (l.turn.handle strategy i).attempts q := by
  have hc' := hh.unclosed hc hi
  -- the outcome of another call is no reason to register the session
  have hother : ∀ m, i.call? = some m → m ≠ .register →
      l.turn.plan strategy i ≠ .now .register := by
    intro m hm hne hnow
    obtain ⟨q, hl, -⟩ := hh.planned hp
    rw [hm, hnow] at hl
    exact hl.not_mem_of_got hne (List.mem_singleton_self _)
  rcases i with (w | w) | (⟨id, purpose⟩ | ⟨n, result⟩ | result | result)
  · exact hh.tries_opening hp hc hc'
  · exact absurd rfl (hi w)
  · exact hh.tries_timer hp hc hc'
  · exact hh.tries_registered hp hc
  · exact hh.tries_aside hp hc' nofun (hother _ rfl nofun) nofun
  · exact hh.tries_aside hp hc' nofun (hother _ rfl nofun) nofun

end

end Life

/-! ## Attempts of a moment -/

namespace Moment

/-- The numbers of the attempts that the task makes. -/
def attempts (strategy : Strategy) (m : Moment) : List UInt32 := (m.turn strategy).attempts

/-- What the strategy is asked. -/
def consulted (strategy : Strategy) (m : Moment) : List (Attempt × Decision) :=
  (m.turn strategy).consulted

/-- An attempt fails: it has an outcome that does not register the session. -/
def Loses (n : UInt32) (m : Moment) : Prop :=
  (∃ request result, m.outcome? = some (.register n request, result)) ∧ ∀ r, ¬m.Accepts r

section
variable {strategy : Strategy} {m : Moment} {l : Life} {h : Happening} {i : Input} {n : UInt32}

theorem attempts_of_input (hi : l.input? h = some i) :
    attempts strategy ⟨l, h⟩ = (l.turn.handle strategy i).attempts := by
  rw [attempts, turn_of_input hi]

theorem attempts_of_none (hi : l.input? h = none) : attempts strategy ⟨l, h⟩ = [] := by
  rw [attempts, turn_of_none hi]
  rfl

theorem consulted_of_none (hi : l.input? h = none) : consulted strategy ⟨l, h⟩ = [] := by
  rw [consulted, turn_of_none hi]
  rfl

/-- **The strategy is asked once about an attempt that fails**, and about nothing else. -/
theorem consulted_of_input (hi : l.input? h = some i) (hc : l.session.closing = false) :
    consulted strategy ⟨l, h⟩ =
      (i.failed?.map fun a => (a, strategy.decide l.session.consultations a)).toList := by
  rw [consulted, turn_of_input hi]
  exact Turn.handle_consulted rfl hc strategy i

theorem mem_consulted (hi : l.input? h = some i) (hc : l.session.closing = false) {a : Attempt}
    {d : Decision} : (a, d) ∈ consulted strategy ⟨l, h⟩ ↔
      i.failed? = some a ∧ strategy.decide l.session.consultations a = d := by
  simp only [consulted_of_input hi hc, Option.mem_toList, Option.map_eq_some_iff, Prod.mk.injEq]
  constructor
  · rintro ⟨a, ha, rfl, hd⟩
    exact ⟨ha, hd⟩
  · rintro ⟨ha, hd⟩
    exact ⟨a, ha, rfl, hd⟩

theorem attempts_eq_nil : m.attempts strategy = [] ↔ ¬m.Issues strategy .register := by
  rw [attempts, Turn.attempts, List.filterMap_eq_nil_iff]
  constructor
  · rintro hnone ⟨e, he, hm⟩
    exact absurd (Errand.attempt?_isSome.2 hm) (by rw [hnone e he]; nofun)
  · intro hnone e he
    rw [← Option.not_isSome_iff_eq_none, Errand.attempt?_isSome]
    exact fun hm => hnone ⟨e, he, hm⟩

theorem givesUp_iff :
    m.GivesUp strategy ↔ ∃ a error, (a, .fail error) ∈ m.consulted strategy := by
  refine exists_congr fun a => exists_congr fun error => ?_
  rw [consulted, Turn.consulted, List.mem_filterMap]
  constructor
  · exact fun h => ⟨_, h, rfl⟩
  · rintro ⟨action, h, ha⟩
    cases action <;> cases ha
    exact h

/-- An attempt fails when the task takes in an outcome that is refused. -/
theorem loses_of_input (hi : l.input? h = some i) :
    Loses n ⟨l, h⟩ ↔ ∃ failure, i.failed? = some { number := n, failure } := by
  constructor
  · rintro ⟨⟨request, result, ho⟩, hnot⟩
    obtain rfl := Option.some.inj (hi.symm.trans (outcome?_eq_some ho))
    cases hr : Turn.refusal? (result.bind Response.toRegister) with
    | ok r =>
      refine absurd (accepts_iff.2 ?_) (hnot r)
      rw [accepted?_of_input hi]
      exact Input.accepted?_eq_some.2 ⟨n, _, rfl, hr⟩
    | error failure => exact ⟨failure, Input.failed?_of_refused hr⟩
  · rintro ⟨failure, hf⟩
    obtain ⟨result, rfl, hr⟩ := Input.failed?_eq_some.1 hf
    obtain ⟨e, raw, ho, hm, he⟩ := outcome?_of_call? (m := ⟨l, h⟩) hi rfl
    refine ⟨?_, fun r ha => ?_⟩
    · cases e <;> cases he
      exact ⟨_, raw, ho⟩
    · rw [accepts_iff, accepted?_of_input hi] at ha
      obtain ⟨_, _, heq, hok⟩ := Input.accepted?_eq_some.1 ha
      cases heq
      cases hr.symm.trans hok

theorem Loses.concludes (hl : m.Loses n) : m.Concludes .register := by
  obtain ⟨⟨request, result, ho⟩, -⟩ := hl
  exact ⟨_, result, ho, rfl⟩

theorem Accepts.concludes {r : RegisterResponse} (ha : m.Accepts r) : m.Concludes .register := by
  obtain ⟨attempt, request, ho, -⟩ := ha
  exact ⟨_, _, ho, rfl⟩

/-- The strategy gives up when an attempt has failed. -/
theorem GivesUp.concludes (hg : m.GivesUp strategy) : m.Concludes .register := by
  obtain ⟨l, h⟩ := m
  obtain ⟨a, error, ha⟩ := hg
  rcases hi : l.input? h with _ | i
  · rw [turn_of_none hi] at ha
    cases ha
  · rw [turn_of_input hi, ← Turn.mem_said rfl] at ha
    exact (concludes_of_input hi).2 (Turn.handle_served rfl strategy i |>.gave_up ha).2.2.1

end

instance (strategy : Strategy) (m : Moment) : Decidable (m.GivesUp strategy) :=
  decidable_of_iff ((m.consulted strategy).any fun x => x.2.isFail) <| by
    simp only [givesUp_iff, List.any_eq_true, Decision.isFail_iff]
    constructor
    · rintro ⟨⟨a, d⟩, h, error, rfl⟩
      exact ⟨a, error, h⟩
    · rintro ⟨a, error, h⟩
      exact ⟨_, h, error, rfl⟩

instance (m : Moment) : Decidable (∃ r, m.Accepts r) :=
  decidable_of_iff m.accepted?.isSome <| by simp only [Option.isSome_iff_exists, accepts_iff]

instance (m : Moment) : Decidable (∃ w, m.Closes w) :=
  decidable_of_iff (∃ c ∈ m.command?, m.command? = some (.closing c.waiter)) <| by
    constructor
    · rintro ⟨c, -, hc⟩
      exact ⟨_, hc⟩
    · rintro ⟨w, hw⟩
      exact ⟨_, hw, hw⟩

instance (strategy : Strategy) (m : Moment) : Decidable (m.EndsRound strategy) :=
  inferInstanceAs (Decidable (_ ∨ _ ∨ _))

end Moment

end ClusterSession
