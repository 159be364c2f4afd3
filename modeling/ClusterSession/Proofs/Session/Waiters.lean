/-
  ClusterSession: nobody waits in vain.

  * `Life.owes`: whether a request of a call has no outcome yet.
  * `waiters_accounted`: who waits for the session to open waits for the outcome of
    one request to register or for one timer, and who waits for it to close waits
    for one request or one timer too; so that something will wake the task, and the
    task does not stop before.
-/
import ClusterSession.Proofs.Session.Courses

namespace ClusterSession

/-- Exactly one of some conditions holds. -/
def ExactlyOne (conditions : List Bool) : Prop := conditions.count true = 1

instance (conditions : List Bool) : Decidable (ExactlyOne conditions) :=
  inferInstanceAs (Decidable (conditions.count true = 1))

namespace Life

/-- Whether a request of a call has no outcome yet. -/
def owes (l : Life) (m : Method) : Bool := l.calls.contains m

/-- A round of attempts to register is on: an attempt is on its way, or is due later. -/
def InRound (l : Life) : Prop :=
  l.owes .register = true ∨ l.session.registerTimer.isSome = true

/-- Something is on its way that the task takes in: the outcome of a request to register or to end
    the session, or the going off of a timer that is in its slot. -/
def Wakes (l : Life) : Prop :=
  l.stopped = false ∧
    (l.owes .register = true ∨ l.owes .unregister = true ∨
      ∃ a ∈ l.timers, a.purpose.slot ≠ .keepAlive ∧ l.session.timer a.purpose.slot = some a.id)

section
variable {l : Life} {p : Phase}

theorem owes_iff {m : Method} : l.owes m = true ↔ 0 < l.calls.count m := by
  rw [owes, List.contains_iff_mem, List.count_pos_iff]

/-- No request but a heartbeat is left over from an earlier phase. -/
theorem InPhase.count_calls (h : l.InPhase p) {m : Method} (hm : m ≠ .keepAlive) :
    l.calls.count m = p.calls m := by
  have ho := h.owes m
  have hl : p.late m = 0 := by
    cases m <;> cases p <;> first | rfl | exact absurd rfl hm
  omega

theorem InPhase.count_le (h : l.InPhase p) {m : Method} (hm : m ≠ .keepAlive) :
    l.calls.count m ≤ 1 := by
  rw [h.count_calls hm]
  cases p <;> cases m <;> decide

theorem InPhase.owes_eq (h : l.InPhase p) {m : Method} (hm : m ≠ .keepAlive) :
    l.owes m = decide (p.calls m = 1) := by
  have hc := h.count_le hm
  have hn := h.count_calls hm
  rw [Bool.eq_iff_iff, owes_iff, decide_eq_true_iff]
  omega

theorem InPhase.isEnded_eq (h : l.InPhase p) :
    l.state.isEnded = decide (p.standing = some true) := by
  rw [Bool.eq_iff_iff, h.fits.isEnded, decide_eq_true_iff]

/-- A timer in a slot can still go off. -/
theorem Timed.wakes (h : l.Timed) (slot : Slot) (hs : (l.session.timer slot).isSome = true) :
    ∃ a ∈ l.timers, a.purpose.slot = slot ∧ l.session.timer a.purpose.slot = some a.id := by
  obtain ⟨id, hid⟩ := Option.isSome_iff_exists.1 hs
  obtain ⟨a, ha, rfl, rfl⟩ := h slot id hid
  exact ⟨a, ha, rfl, hid⟩

/-- Nobody waits once the task has stopped. -/
theorem Left.nobody (h : l.Left) (hs : l.stopped = true) :
    l.session.openWaiters = [] ∧ l.session.closeWaiters = [] := by
  have hidle := (h.stopped hs).2
  simpa only [Session.isIdle, Bool.and_eq_true, decide_eq_true_iff] using hidle

/-- Whoever waits will see the task woken. -/
theorem InPhase.wakes (h : l.InPhase p) (ht : l.Timed) (hl : l.Left)
    (hw : l.session.openWaiters ≠ [] ∨ l.session.closeWaiters ≠ []) : l.Wakes := by
  refine ⟨Bool.eq_false_iff.2 fun hs => ?_, ?_⟩
  · exact hw.elim (· (hl.nobody hs).1) (· (hl.nobody hs).2)
  · rw [h.fits.openWaiters, h.fits.closeWaiters] at hw
    rw [h.owes_eq (m := .register) nofun, h.owes_eq (m := .unregister) nofun]
    have hpending : decide (p.calls .register = 1) = true ∨
        decide (p.calls .unregister = 1) = true ∨
        p.look.registerTimer = true ∨ p.look.unregisterTimer = true := by
      revert hw
      cases p <;> decide
    refine hpending.imp id (Or.imp id fun hs => ?_)
    rw [← h.fits.registerTimer, ← h.fits.unregisterTimer] at hs
    rcases hs with hs | hs
    · obtain ⟨a, ha, hslot, hid⟩ := ht.wakes .register hs
      exact ⟨a, ha, hslot ▸ nofun, hid⟩
    · obtain ⟨a, ha, hslot, hid⟩ := ht.wakes .unregister hs
      exact ⟨a, ha, hslot ▸ nofun, hid⟩

/-- A task that has stopped leaves no request behind, unless it is a heartbeat. -/
theorem InPhase.owes_of_stopped (h : l.InPhase p) (hl : l.Left) (hs : l.stopped = true) :
    l.owes .register = false ∧ l.owes .unregister = false := by
  have ho := h.fits.openWaiters.not.1 (not_not.2 (hl.nobody hs).1)
  have hc := h.fits.closeWaiters.not.1 (not_not.2 (hl.nobody hs).2)
  rw [h.owes_eq (m := .register) nofun, h.owes_eq (m := .unregister) nofun]
  revert ho hc
  cases p <;> decide

end

/-- **Nobody waits in vain.**  In every life, those who wait for the session to open are there
    just as long as a round of attempts to register is on and the end has not been asked for, and
    those who wait for it to close just from when the end has been asked for until it has come.
    In between, exactly one request or timer stands for each, and it will wake the task.  The task
    stops only when no handle is left, and nothing that anybody waited for is on its way. -/
theorem waiters_accounted (strategy : Strategy) (clientId : String) (selector : Selector)
    (hs : List Happening) :
    let l := lived strategy clientId selector hs
    (l.session.openWaiters ≠ [] ↔ l.session.closing = false ∧ l.InRound) ∧
    (l.session.openWaiters ≠ [] →
      ExactlyOne [l.owes .register, l.session.registerTimer.isSome]) ∧
    (l.session.closeWaiters ≠ [] ↔ l.session.closing = true ∧ l.state.isEnded = false) ∧
    (l.session.closeWaiters ≠ [] →
      ExactlyOne [l.owes .register, l.owes .unregister, l.session.unregisterTimer.isSome]) ∧
    (∀ m, m ≠ .keepAlive → l.calls.count m ≤ 1) ∧
    (l.session.openWaiters ≠ [] ∨ l.session.closeWaiters ≠ [] → l.Wakes) ∧
    (l.stopped = true →
      l.handles = 0 ∧ l.owes .register = false ∧ l.owes .unregister = false) := by
  intro l
  obtain ⟨p, hp⟩ := lived_inPhase strategy clientId selector hs
  have hleft := lived_left strategy clientId selector hs
  have htimed := lived_timed strategy clientId selector hs
  have hreg := hp.owes_eq (m := .register) nofun
  have hun := hp.owes_eq (m := .unregister) nofun
  refine ⟨?_, ?_, ?_, ?_, fun m => hp.count_le, hp.wakes htimed hleft, fun hs => ?_⟩
  · rw [hp.fits.openWaiters, hp.fits.closing, InRound, hreg, hp.fits.registerTimer]
    cases p <;> decide
  · rw [hp.fits.openWaiters, hreg, hp.fits.registerTimer]
    cases p <;> decide
  · rw [hp.fits.closeWaiters, hp.fits.closing, hp.isEnded_eq]
    cases p <;> decide
  · rw [hp.fits.closeWaiters, hreg, hun, hp.fits.unregisterTimer]
    cases p <;> decide
  · exact ⟨(hleft.detached (hleft.stopped hs).1).1, hp.owes_of_stopped hleft hs⟩

end Life

end ClusterSession
