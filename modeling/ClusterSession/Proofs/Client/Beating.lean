/-
  ClusterSession: a client with a heartbeat on its way.

  * `Turn.handle_silent`, `Life.step_beating`: until the outcome is taken in, nothing that
    happens to the task changes the status or the selector, or sends another request, unless
    it is the end that is asked for.
  * `Client.closing_of_run`: an end that is not asked for now has not been asked for before.
  * `Client.Sound.task_stays`: whatever happens to the task, the heartbeat, the connection
    and the clock are where they were.
  * `Client.Sound.free`: when the next send finds nobody at the link.
-/
import ClusterSession.Proofs.Client.Trips
import ClusterSession.Proofs.Session.Changes

namespace ClusterSession

/-! ## A task with a heartbeat on its way -/

/-- Without an outcome, a task touches neither the state nor the selector, unless the end is asked
    for. -/
theorem Turn.handle_silent (t : Turn) (strategy : Strategy) {i : Input} (hi : i.call? = none)
    (hc : (t.handle strategy i).session.closing = false) :
    (t.handle strategy i).state = t.state ∧ (t.handle strategy i).selector = t.selector := by
  rcases i with (w | w) | (⟨id, purpose⟩ | ⟨attempt, result⟩ | result | result)
  · exact ⟨t.onOpen_state w, t.onOpen_selector w⟩
  · cases hended : t.state.isEnded with
    | false => exact absurd (onClose_closing hended w) (Bool.eq_false_iff.1 hc)
    | true =>
      show (t.onClose w).state = _ ∧ (t.onClose w).selector = _
      unfold onClose
      rw [if_pos hended]
      exact ⟨rfl, rfl⟩
  · exact ⟨t.onTimer_state id purpose, t.onTimer_selector id purpose⟩
  · cases hi
  · cases hi
  · cases hi

namespace Life

section
variable {strategy : Strategy} {l : Life} {p : Phase} {h : Happening}

/-- The end that has been asked for stays asked for. -/
theorem step_closing (hc : l.session.closing = true) :
    (l.step strategy h).session.closing = true := by
  rcases l.step_input strategy h with ⟨i, -, hh⟩ | ⟨-, ha, -⟩
  · rw [hh.session]
    exact Turn.handle_closing strategy hc
  · rw [ha.session]
    exact hc

/-- While a heartbeat is on its way, it is the only request. -/
theorem InPhase.outstanding_of_beating (hp : l.InPhase .beating) :
    ∃ x, l.outstanding = [x] ∧ x.method = .keepAlive := by
  have hk : l.calls.count .keepAlive = 1 :=
    Nat.le_antisymm (hp.owes .keepAlive).2 (hp.owes .keepAlive).1
  have hall : ∀ c ∈ l.calls, c = .keepAlive := by
    intro c hc
    have hpos := List.count_pos_iff.2 hc
    cases c with
    | keepAlive => rfl
    | register => exact absurd hpos (Nat.not_lt.2 (hp.owes .register).2)
    | unregister => exact absurd hpos (Nat.not_lt.2 (hp.owes .unregister).2)
  have hcalls : l.calls = [.keepAlive] := by
    have hrep := List.eq_replicate_of_mem hall
    rw [hrep, List.count_replicate_self] at hk
    rw [hrep, hk]
    rfl
  obtain ⟨x, hx, hm⟩ := List.map_eq_singleton_iff.1 hcalls
  exact ⟨x, hx, hm⟩

/-- A task that is not to end, and has a heartbeat on its way, is beating. -/
theorem InPhase.eq_beating (hp : l.InPhase p) (hc : l.session.closing = false)
    (hm : .keepAlive ∈ l.calls) : p = .beating := by
  have hcount := List.count_pos_iff.2 hm
  have hle := (hp.owes .keepAlive).2
  rw [hp.fits.closing] at hc
  cases p <;> first | rfl | cases hc; done | exact absurd (Nat.lt_of_lt_of_le hcount hle) (by decide)

/-- **A heartbeat on its way stays there** until its outcome is taken in, unless the end is asked
    for. -/
theorem step_beating (hp : l.InPhase .beating) (hn : ∀ k result, h ≠ .outcome k result)
    (hs : ∀ s, h ≠ .select s) (hc : (l.step strategy h).session.closing = false) :
    (l.step strategy h).InPhase .beating ∧
      (l.step strategy h).state.status = l.state.status ∧
      (l.step strategy h).selector = l.selector := by
  rcases l.step_input strategy h with ⟨i, hi, hh⟩ | ⟨-, ha, hsel⟩
  · have hcall := input?_call? hi hn
    obtain ⟨ms, q, hl, hq⟩ := hh.next hp
    obtain ⟨hstate, hselector⟩ := l.turn.handle_silent strategy hcall (hh.session ▸ hc)
    rw [hcall] at hl
    refine ⟨?_, ?_, hh.selector.trans hselector⟩
    · cases hl with
      | stay => exact hq
      | partBeating => exact absurd (hq.fits.closing.symm.trans hc) (by decide)
    · rw [hh.state, hstate]
      rfl
  · exact ⟨(ha.passes hp).inPhase, ha.status, hsel hs⟩

end

end Life

namespace Client

section
variable {strategy : Strategy} {C : Client}

/-! ## What a client keeps -/

/-- The end that has been asked for stays asked for. -/
theorem closing_of_step {o : Occurrence} (h : (C.step strategy o).life.session.closing = false) :
    C.life.session.closing = false := by
  have hact : ∀ e ways, (C.act strategy e ways).life.session.closing = false →
      C.life.session.closing = false := by
    intro e ways hc
    rw [← Bool.not_eq_true]
    exact fun ht => absurd (Life.step_closing (l := C.task) ht) (Bool.eq_false_iff.1 hc)
  have hgo : ∀ i p, (C.goOn i p).life = C.life := by
    intro i p
    unfold goOn
    split <;> rfl
  cases o with
  | task e =>
    rcases C.step_task strategy e with he | ⟨he, -, -⟩ <;> rw [he] at h
    · exact h
    · exact hact _ _ h
  | told i =>
    simp only [step] at h
    split at h
    · exact hact _ _ h
    · exact h
  | launch i =>
    simp only [step] at h
    split at h
    · exact h
    · exact h
  | turn i => exact hgo i .turn ▸ h
  | dialed i accepted => exact hgo i (.dialed · accepted) ▸ h
  | answered i result => exact hgo i (.answered · result) ▸ h
  | late i limit =>
    simp only [step] at h
    split at h
    · exact h
    · exact h
  | select o => exact h
  | pass millis =>
    simp only [step] at h
    split at h
    · exact h
    · exact h

theorem closing_of_run {os : List Occurrence}
    (h : (C.run strategy os).life.session.closing = false) : C.life.session.closing = false := by
  induction os generalizing C with
  | nil => exact h
  | cons o rest ih => exact closing_of_step (ih h)

/-- While a heartbeat is on its way, it is the only request. -/
theorem Sound.ways_length (h : C.Sound) (hp : C.task.InPhase .beating) : C.ways.length = 1 := by
  obtain ⟨x, hx, -⟩ := hp.outstanding_of_beating
  exact h.length.trans (congrArg List.length hx)

/-- A task with a heartbeat on its way, and its connection, stay as they are. -/
structure Stays (C C' : Client) : Prop where
  beating : C'.task.InPhase .beating
  status : C'.life.state.status = C.life.state.status
  traffic : C'.traffic = C.traffic
  ways : C'.ways = C.ways
  now : C'.now = C.now

/-- **Whatever happens to the task, a heartbeat on its way is where it was.** -/
theorem Sound.task_stays (h : C.Sound) (hp : C.task.InPhase .beating) {e : Happening}
    (hc : (C.step strategy (.task e)).life.session.closing = false) :
    C.Stays (C.step strategy (.task e)) := by
  rcases C.step_task strategy e with he | ⟨he, hn, hs⟩ <;> rw [he] at hc ⊢
  · exact ⟨hp, rfl, rfl, rfl, rfl⟩
  · obtain ⟨hp', hstatus, hsel⟩ := Life.step_beating hp hn hs hc
    obtain ⟨x, hx, -⟩ := hp'.outstanding_of_beating
    refine ⟨⟨hp'.fits, hp'.owes⟩, hstatus, ?_, ?_, rfl⟩
    · show { C.traffic with selector := (C.task.step strategy e).selector } = C.traffic
      rw [hsel]
      rfl
    · show C.ways ++ List.replicate ((C.task.step strategy e).outstanding.length - C.ways.length) _ =
        C.ways
      rw [hx, h.ways_length hp]
      exact List.append_nil _

/-- A request that is nowhere to be found does not go on. -/
theorem goOn_of_not_away {i : Nat} {p : Token → Passage} (h : ∀ t, .away t ∉ C.ways) :
    C.goOn i p = C := by
  unfold goOn
  split
  · next t hi => exact absurd (List.mem_of_getElem? hi) (h t)
  · rfl

/-- A request that is the only one. -/
theorem only_way {w w' : Way} {i : Nat} (h : C.ways = [w]) (hi : C.ways[i]? = some w') :
    i = 0 ∧ w' = w := by
  rw [h, List.getElem?_singleton] at hi
  split at hi
  · next h0 => exact ⟨h0, (Option.some.inj hi).symm⟩
  · cases hi

/-- Nobody is at the link if no request on its way wants a turn there. -/
theorem Sound.free (h : C.Sound) (hw : ∀ t st, .away t ∈ C.ways →
    C.traffic.cluster.stage? t = some st → st.wantsTurn = false) :
    C.traffic.cluster.turns = [] := by
  rw [List.eq_nil_iff_forall_not_mem]
  intro u hu
  obtain ⟨st, hst, hwants⟩ := (h.traffic.tidy.orderly.mem_turns u).1 hu
  exact absurd hwants (Bool.eq_false_iff.1 (hw u st (h.owned u st hst) hst))

end

end Client

end ClusterSession
