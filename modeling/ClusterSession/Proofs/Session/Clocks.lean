/-
  ClusterSession: the life of a session task on a virtual clock.

  The clock shows whole milliseconds.  A timer that is set goes off when its delay has
  passed, rounded up, and its event is taken in at that instant; only then does the clock
  go on.  It stands still, too, while there are commands to take in.  Requests may be
  answered, or given up, at any time.

  * `Clocked`: a life, the clock, and the times at which timers go off.
  * `Tick`: something happens, or time passes; `Clocked.step` is what comes of it.
  * `Clocked.lived` and `Clocked.annals`: the life of a task that was just spawned, and
    what has happened in it, with dates.
  * `Clocked.OnTime`: no timer that is in a slot is overdue.
-/
import ClusterSession.Proofs.Session.Plans

namespace ClusterSession

/-- A moment, and its date. -/
structure Dated extends Moment where
  time : Nat

/-- A life with a clock. -/
structure Clocked where
  life : Life
  /-- The clock, in milliseconds. -/
  now : Nat
  /-- When the timer of each number goes off. -/
  due : Nat → Nat

/-- What can happen on a clock. -/
inductive Tick where
  | happens (h : Happening)
  | passes (millis : Nat)

/-- When timers go off, once some more have been set at a time. -/
def setDue (now : Nat) (alarms : List Alarm) (due : Nat → Nat) : Nat → Nat :=
  alarms.foldl (fun due a id => if id = a.id then now + a.delay.ticks else due id) due

namespace Clocked

/-- A task that has just been spawned, on a state that was never registered. -/
def born (clientId : String) (selector : Selector) : Clocked :=
  { life := .born clientId selector, now := 0, due := fun _ => 0 }

/-- Whether something can happen: a timer does not go off before its time. -/
def allows (c : Clocked) : Happening → Bool
  | .timer i => (c.life.timers[i]?).all fun a => c.due a.id ≤ c.now
  | _ => true

/-- Whether the task has nothing to do before a time: no command waits, and no timer goes off.
    A task that has stopped has nothing to do any more. -/
def idleUntil (c : Clocked) (time : Nat) : Bool :=
  c.life.stopped ||
    c.life.commands.isEmpty &&
      [Slot.keepAlive, .unregister, .register].all fun slot =>
        (c.life.session.timer slot).all fun id => time ≤ c.due id

/-- Something happens now. -/
def date (c : Clocked) (h : Happening) : Dated :=
  { life := c.life, happening := h, time := c.now }

/-- A moment that can come next. -/
def Next (c : Clocked) (m : Dated) : Prop := ∃ h, c.allows h = true ∧ c.date h = m

/-- What comes of something that happens. -/
def happen (strategy : Strategy) (h : Happening) (c : Clocked) : Clocked :=
  { c with
    life := c.life.step strategy h
    due := setDue c.now ((c.date h).turn strategy).alarms c.due }

/-- The clock goes on. -/
def wait (millis : Nat) (c : Clocked) : Clocked := { c with now := c.now + millis }

/-- A tick, if it can be. -/
def step (strategy : Strategy) (c : Clocked) : Tick → Clocked
  | .happens h => if c.allows h then c.happen strategy h else c
  | .passes millis => if c.idleUntil (c.now + millis) then c.wait millis else c

/-- What a tick adds to the annals. -/
def note (c : Clocked) : Tick → List Dated
  | .happens h => if c.allows h then [c.date h] else []
  | .passes _ => []

/-- One tick after another. -/
def run (strategy : Strategy) (c : Clocked) (ticks : List Tick) : Clocked :=
  ticks.foldl (step strategy) c

/-- What happens, tick after tick. -/
def chronicle (strategy : Strategy) (c : Clocked) : List Tick → List Dated
  | [] => []
  | t :: ticks => c.note t ++ (c.step strategy t).chronicle strategy ticks

theorem Next.life {c : Clocked} {m : Dated} (h : c.Next m) : c.life = m.life := by
  obtain ⟨h, -, rfl⟩ := h
  rfl

/-- A tick is something that happens and is noted, or the clock goes on, or it is nothing. -/
theorem step_cases (strategy : Strategy) (c : Clocked) (t : Tick) :
    (∃ h, t = .happens h ∧ c.allows h = true ∧ c.step strategy t = c.happen strategy h ∧
      c.note t = [c.date h]) ∨
    c.note t = [] ∧ ((∃ millis, c.idleUntil (c.now + millis) = true ∧
      c.step strategy t = c.wait millis) ∨ c.step strategy t = c) := by
  cases t with
  | happens h =>
    cases ha : c.allows h with
    | true => exact .inl ⟨h, rfl, ha, if_pos ha, if_pos ha⟩
    | false =>
      have hn : ¬c.allows h = true := by rw [ha]; nofun
      exact .inr ⟨if_neg hn, .inr (if_neg hn)⟩
  | passes millis =>
    refine .inr ⟨rfl, ?_⟩
    by_cases hi : c.idleUntil (c.now + millis) = true
    · exact .inl ⟨millis, hi, if_pos hi⟩
    · exact .inr (if_neg hi)

section
variable (strategy : Strategy) (clientId : String) (selector : Selector) (ticks : List Tick)

/-- The life of a task that was spawned on a state that was never registered, with its clock. -/
def lived : Clocked := (born clientId selector).run strategy ticks

/-- What has happened in that life. -/
def annals : List Dated := (born clientId selector).chronicle strategy ticks

theorem lived_concat (t : Tick) :
    lived strategy clientId selector (ticks ++ [t]) =
      (lived strategy clientId selector ticks).step strategy t := by
  rw [lived, run, List.foldl_append]
  rfl

theorem annals_concat (t : Tick) :
    annals strategy clientId selector (ticks ++ [t]) =
      annals strategy clientId selector ticks ++
        (lived strategy clientId selector ticks).note t := by
  have h : ∀ c : Clocked, c.chronicle strategy (ticks ++ [t]) =
      c.chronicle strategy ticks ++ (c.run strategy ticks).note t := by
    induction ticks with
    | nil => exact fun c => List.append_nil _
    | cons t' rest ih =>
      intro c
      show c.note t' ++ (c.step strategy t').chronicle strategy (rest ++ [t]) = _
      rw [ih, ← List.append_assoc]
      rfl
  exact h _

/-- **A life with a clock is a life**, and its annals are those of that life. -/
theorem annals_undated : ∃ hs,
    (lived strategy clientId selector ticks).life = Life.lived strategy clientId selector hs ∧
    (annals strategy clientId selector ticks).map Dated.toMoment =
      Life.annals strategy clientId selector hs := by
  induction ticks using List.reverseRecOn with
  | nil => exact ⟨[], rfl, rfl⟩
  | append_singleton ticks t ih =>
    obtain ⟨hs, hlife, hlog⟩ := ih
    rw [lived_concat, annals_concat]
    rcases step_cases strategy (lived strategy clientId selector ticks) t with
      ⟨h, -, -, hstep, hnote⟩ | ⟨hnote, ⟨millis, -, hstep⟩ | hstep⟩
    · refine ⟨hs ++ [h], ?_, ?_⟩
      · rw [hstep, Life.lived_concat, ← hlife]
        rfl
      · rw [hnote, List.map_append, hlog, Life.annals, Life.annals, Life.chronicle_concat]
        exact congrArg (fun l : Life => _ ++ [Moment.mk l h]) hlife
    · exact ⟨hs, hstep ▸ hlife, by rw [hnote, List.append_nil, hlog]⟩
    · exact ⟨hs, hstep.symm ▸ hlife, by rw [hnote, List.append_nil, hlog]⟩

theorem lived_inPhase :
    ∃ p, (lived strategy clientId selector ticks).life.InPhase p := by
  obtain ⟨hs, hlife, -⟩ := annals_undated strategy clientId selector ticks
  exact hlife ▸ Life.lived_inPhase strategy clientId selector hs

end

section
variable {strategy : Strategy} {clientId : String} {selector : Selector}

/-- **What everything that happens adds to a life with a clock and its annals, and what passing time
    keeps, holds of all.** -/
theorem annals_induction {P : Clocked → List Dated → Prop} (hborn : P (born clientId selector) [])
    (hhappens : ∀ c p log h, c.life.InPhase p → c.allows h = true → P c log →
      P (c.happen strategy h) (log ++ [c.date h]))
    (hpasses : ∀ c log millis, c.idleUntil (c.now + millis) = true → P c log →
      P (c.wait millis) log) (ticks : List Tick) :
    P (lived strategy clientId selector ticks) (annals strategy clientId selector ticks) := by
  induction ticks using List.reverseRecOn with
  | nil => exact hborn
  | append_singleton ticks t ih =>
    obtain ⟨p, hp⟩ := lived_inPhase strategy clientId selector ticks
    rw [lived_concat, annals_concat]
    rcases step_cases strategy (lived strategy clientId selector ticks) t with
      ⟨h, -, ha, hstep, hnote⟩ | ⟨hnote, ⟨millis, hi, hstep⟩ | hstep⟩
    · rw [hstep, hnote]
      exact hhappens _ p _ h hp ha ih
    · rw [hstep, hnote, List.append_nil]
      exact hpasses _ _ millis hi ih
    · rw [hstep, hnote, List.append_nil]
      exact ih

/-- A moment of the past is the last one of a shorter life. -/
theorem annals_split {ticks : List Tick} {before after : List Dated} {m : Dated}
    (h : annals strategy clientId selector ticks = before ++ m :: after) :
    ∃ past, annals strategy clientId selector past = before ∧
      (lived strategy clientId selector past).Next m := by
  induction ticks using List.reverseRecOn generalizing after with
  | nil => exact absurd h.symm (List.append_ne_nil_of_right_ne_nil _ (List.cons_ne_nil _ _))
  | append_singleton ticks t ih =>
    rw [annals_concat] at h
    rcases step_cases strategy (lived strategy clientId selector ticks) t with
      ⟨h', -, ha, -, hnote⟩ | ⟨hnote, -⟩
    · rw [hnote] at h
      rcases concat_split h with ⟨rfl, rfl, -⟩ | ⟨rest, hlog, -⟩
      · exact ⟨ticks, rfl, h', ha, rfl⟩
      · exact ih hlog
    · rw [hnote, List.append_nil] at h
      exact ih h

/-! ## Timers are on time -/

/-- No timer that is in a slot is overdue, unless the task has stopped. -/
def OnTime (c : Clocked) : Prop :=
  c.life.stopped = false → ∀ slot id, c.life.session.timer slot = some id → c.now ≤ c.due id

section
variable {c : Clocked} {h : Happening} {i : Input}

/-- A task that has stopped does not go on. -/
theorem stopped_of_step (hs : (c.life.step strategy h).stopped = false) :
    c.life.stopped = false := by
  rw [← Bool.not_eq_true] at hs ⊢
  intro hstopped
  refine hs ?_
  cases h <;> simp only [Life.step, Life.happen, Life.ask, hstopped, if_true] <;>
    first | rfl | exact hstopped | (split <;> first | rfl | exact hstopped)

/-- What a plan does to the times at which timers go off. -/
theorem happen_due (hi : c.life.input? h = some i) : (c.happen strategy h).due =
    match c.life.turn.plan strategy i with
    | .later _ delay =>
      fun id => if id = c.life.session.timersSet + 1 then c.now + delay.ticks else c.due id
    | _ => c.due := by
  have ha : ((c.date h).turn strategy).alarms =
      ((c.life.turn.plan strategy i).alarm? (c.life.session.timersSet + 1)).toList := by
    rw [show (c.date h).turn strategy = c.life.turn.handle strategy i by
      rw [Moment.turn, Moment.input?, date, hi]; rfl]
    exact (c.life.turn.handle_follows strategy i).alarms
  show setDue c.now _ c.due = _
  rw [ha]
  cases c.life.turn.plan strategy i <;> rfl

theorem happen_due_of_none (hi : c.life.input? h = none) : (c.happen strategy h).due = c.due := by
  show setDue c.now ((c.date h).turn strategy).alarms c.due = c.due
  rw [Moment.turn, Moment.input?, date, hi]
  rfl

end

/-- **No timer that is in a slot is ever overdue.** -/
theorem lived_onTime (ticks : List Tick) : (lived strategy clientId selector ticks).OnTime := by
  refine annals_induction (P := fun c _ => c.OnTime) ?_ ?_ ?_ ticks
  · intro _ slot id hid
    cases slot <;> cases hid
  · intro c p log h hp ha ih hs slot id hid
    have ih := ih (stopped_of_step hs)
    rcases c.life.step_input strategy h with ⟨i, hi, hh⟩ | ⟨hi, halike, -⟩
    · rw [happen_due hi]
      rcases hh.timer_cases hp hid with ⟨hold, hplan⟩ | ⟨purpose, delay, -, hplan, rfl⟩
      · rw [hplan]
        exact ih slot id hold
      · rw [hplan]
        dsimp only
        rw [if_pos rfl]
        exact Nat.le_add_right _ _
    · rw [happen_due_of_none hi]
      exact ih slot id (halike.session ▸ hid)
  · intro c log millis hi ih hs slot id hid
    rw [idleUntil, show c.life.stopped = false from hs, Bool.false_or, Bool.and_eq_true,
      List.all_eq_true] at hi
    have hslot := hi.2 slot (by cases slot <;> simp)
    rw [show c.life.session.timer slot = some id from hid] at hslot
    exact of_decide_eq_true hslot

end

end Clocked

end ClusterSession
