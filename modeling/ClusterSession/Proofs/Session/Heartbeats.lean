/-
  ClusterSession: the heartbeats of a live session.

  * `Life.Beats`: the session is live, and its end has not been asked for.
  * `heartbeats_single`: then one heartbeat is on its way, or the timer for the next
    one is set, and not both; at any other time no timer for a heartbeat is set, and
    at most one heartbeat is on its way, from before.
-/
import ClusterSession.Proofs.Session.Waiters

namespace ClusterSession

/-- A heartbeat is sent by a session that is live, and that stays so. -/
theorem Phase.Leads.eq_beating {p q : Phase} {got : Option Method} {ms : List Method}
    (h : p.Leads got ms q) (hm : .keepAlive ∈ ms) : q = .beating := by
  cases h <;> first | rfl | simp at hm

namespace Life

/-- The session is live, and its end has not been asked for. -/
def Beats (l : Life) : Prop := l.state.isLive = true ∧ l.session.closing = false

section
variable {l : Life} {p : Phase}

theorem InPhase.beats_iff (h : l.InPhase p) : l.Beats ↔ p = .resting ∨ p = .beating := by
  rw [Beats, h.fits.isLive, h.fits.closing]
  cases p <;> decide

theorem InPhase.heartbeats_le (h : l.InPhase p) : l.calls.count .keepAlive ≤ 1 := by
  have hp : p.calls .keepAlive + p.late .keepAlive ≤ 1 := by
    cases p <;> decide
  exact Nat.le_trans (h.owes .keepAlive).2 hp

end

/-- When a heartbeat has been sent, the session is live. -/
theorem beats_of_sent (strategy : Strategy) (clientId : String) (selector : Selector)
    (hs : List Happening) {x : Sent} (hx : x ∈ (lived strategy clientId selector hs).sent)
    (hm : x.method = .keepAlive) : (lived strategy clientId selector (hs.take (x.time + 1))).Beats := by
  obtain ⟨-, p, q, got, ms, hl, hms, -, hq⟩ := lived_sent strategy clientId selector hs x hx
  exact hq.beats_iff.2 (.inr (hl.eq_beating (hm ▸ hms)))

/-- **There is one chain of heartbeats.**  In every life, while the session is live and its end
    has not been asked for, either the timer for the next heartbeat is set, and can go off, or one
    heartbeat is on its way.  At any other time the timer is not set, and at most one heartbeat is
    on its way, which was sent while the session was live and its end had not been asked for. -/
theorem heartbeats_single (strategy : Strategy) (clientId : String) (selector : Selector)
    (hs : List Happening) :
    let l := lived strategy clientId selector hs
    (l.Beats →
      ExactlyOne [l.session.keepAliveTimer.isSome, l.owes .keepAlive] ∧
      l.calls.count .keepAlive ≤ 1 ∧
      ∀ id, l.session.keepAliveTimer = some id → ∃ a ∈ l.timers, a.id = id ∧ a.purpose = .keepAlive) ∧
    (¬l.Beats →
      l.session.keepAliveTimer = none ∧
      l.calls.count .keepAlive ≤ 1 ∧
      ∀ x ∈ l.outstanding, x.method = .keepAlive →
        x.time + 1 < hs.length ∧
        (lived strategy clientId selector (hs.take (x.time + 1))).Beats) := by
  intro l
  obtain ⟨p, hp⟩ := lived_inPhase strategy clientId selector hs
  have htimed := lived_timed strategy clientId selector hs
  refine ⟨fun hb => ⟨?_, hp.heartbeats_le, fun id hid => ?_⟩,
    fun hb => ⟨?_, hp.heartbeats_le, fun x hx hm => ?_⟩⟩
  · rcases hp.beats_iff.1 hb with rfl | rfl
    · have hcount := (hp.owes .keepAlive).2
      have howes : l.owes .keepAlive = false := by
        rw [← Bool.not_eq_true, owes_iff]
        exact Nat.not_lt.2 hcount
      rw [hp.fits.keepAliveTimer, howes]
      decide
    · have howes : l.owes .keepAlive = true := owes_iff.2 (hp.owes .keepAlive).1
      rw [hp.fits.keepAliveTimer, howes]
      decide
  · obtain ⟨a, ha, hida, hslot⟩ := htimed .keepAlive id hid
    refine ⟨a, ha, hida, ?_⟩
    cases h : a.purpose <;> rw [h] at hslot <;> first | rfl | cases hslot
  · rw [← Option.not_isSome_iff_eq_none, hp.fits.keepAliveTimer]
    exact fun ht => hb (hp.beats_iff.2 (.inl (Phase.eq_resting ht)))
  · have hsent := lived_outstanding strategy clientId selector hs x hx
    have hbeats := beats_of_sent strategy clientId selector hs hsent hm
    refine ⟨?_, hbeats⟩
    have hlt := (lived_sent strategy clientId selector hs x hsent).1
    refine Nat.lt_of_le_of_ne hlt fun he => hb ?_
    rw [he, List.take_length] at hbeats
    exact hbeats

end Life

end ClusterSession
