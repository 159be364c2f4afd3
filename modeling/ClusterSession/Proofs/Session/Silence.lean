/-
  ClusterSession: silence at the end of a session.

  * `Life.EndAsked`: the task is about to take in the first command that asks for the
    end, or another one before the end has come.
  * `closing_stays`: what has been asked for stays asked for.
  * `run_of_ended`: once the session has ended, nothing changes.
  * `silent_end`: from the command that asks for the end, the task makes no call but
    the one that ends the session; and from the end, none at all.
-/
import ClusterSession.Proofs.Session.Waiters

namespace ClusterSession

/-- Whoever asks for the end of a session that has not ended has it asked for. -/
theorem Turn.onClose_closing {t : Turn} (h : t.state.isEnded = false) (w : Waiter) :
    (t.onClose w).session.closing = true := by
  unfold onClose
  rw [if_neg (by simp [h])]
  dsimp only
  split
  · next hc => exact hc
  · split
    · simp [Session.setTimer]
    · split <;> simp [Session.setTimer]

namespace Life

/-- The task is about to take in a command that asks for the end, and the end has not come. -/
def EndAsked (l : Life) : Prop :=
  l.stopped = false ∧ l.detached = false ∧ l.state.isEnded = false ∧
    ∃ w rest, l.commands = .closing w :: rest

section
variable {strategy : Strategy} {l l' : Life} {p : Phase} {i : Input}

theorem EndAsked.closing (h : l.EndAsked) :
    (l.step strategy .command).session.closing = true := by
  obtain ⟨hs, hd, he, w, rest, hc⟩ := h
  simp only [step, happen, takeCommand, hs, hd, hc, Bool.false_eq_true, if_false]
  exact Turn.onClose_closing he w

/-- The end that has been asked for stays asked for. -/
theorem closing_stays (hp : l.InPhase p) (hc : l.session.closing = true) (hs : List Happening) :
    (l.run strategy hs).session.closing = true := by
  induction hs generalizing l p with
  | nil => exact hc
  | cons h rest ih =>
    obtain ⟨q, news, ⟨got, hl⟩, hq, -, -⟩ := step_passes strategy hp h
    rw [hp.fits.closing] at hc
    exact ih hq (hq.fits.closing.trans (hl.closing hc))

/-! ## After the end -/

/-- What a life keeps once the session has ended. -/
structure Unmoved (l l' : Life) : Prop where
  sent : l'.sent = l.sent
  status : l'.state.status = l.state.status
  sessionId : l'.state.sessionId = l.state.sessionId

theorem Offers.of_ended (strategy : Strategy) (ho : l.Offers i l') (hp : l.InPhase p)
    (he : p.standing = some true) :
    (l'.take strategy i).state = l.state ∧ (l'.take strategy i).selector = l.selector := by
  obtain ⟨hf, hc, -, -⟩ := ho.owes hp
  have hkept : l'.state = l.state ∧ l'.selector = l.selector := by cases ho <;> exact ⟨rfl, rfl⟩
  obtain ⟨hst, hsel⟩ :=
    Turn.handle_of_ended strategy (t := ⟨l'.session, l'.state, l'.selector, []⟩) hf hc he
  exact ⟨hst.trans hkept.1, hsel.trans hkept.2⟩

/-- Once the session has ended, a happening changes nothing. -/
theorem step_of_ended (strategy : Strategy) (hp : l.InPhase p) (he : p.standing = some true)
    (h : Happening) :
    (l.step strategy h).InPhase p ∧ Unmoved l (l.step strategy h) ∧
      ((∀ s, h ≠ .select s) → (l.step strategy h).selector = l.selector) := by
  obtain ⟨q, news, ⟨got, hl⟩, hq, hsent, -⟩ := step_passes strategy hp h
  obtain ⟨rfl, hnews⟩ := hl.ended he
  rw [List.map_eq_nil_iff.1 hnews, List.append_nil] at hsent
  refine ⟨hq, ?_⟩
  rcases l.happen_cases strategy h with ⟨i, l', -, ho, hh⟩ | ⟨ha, hsel⟩
  · obtain ⟨hst, hsel⟩ := ho.of_ended strategy hp he
    rw [← hh] at hst hsel
    exact ⟨⟨hsent, congrArg SessionState.status hst, congrArg SessionState.sessionId hst⟩,
      fun _ => hsel⟩
  · exact ⟨⟨hsent, ha.status, ha.sessionId⟩, hsel⟩

theorem run_of_ended (strategy : Strategy) (hp : l.InPhase p) (he : p.standing = some true)
    (hs : List Happening) :
    (l.run strategy hs).InPhase p ∧ Unmoved l (l.run strategy hs) := by
  induction hs generalizing l with
  | nil => exact ⟨hp, rfl, rfl, rfl⟩
  | cons h rest ih =>
    obtain ⟨hq, hu, -⟩ := step_of_ended strategy hp he h
    obtain ⟨hr, hu'⟩ := ih hq
    exact ⟨hr, hu'.sent.trans hu.sent, hu'.status.trans hu.status,
      hu'.sessionId.trans hu.sessionId⟩

end

/-- What is sent once the end has been asked for ends the session. -/
theorem unregister_of_closing {strategy : Strategy} {clientId : String} {selector : Selector}
    {hs : List Happening} {x : Sent}
    (hx : x ∈ (lived strategy clientId selector hs).sent)
    (hc : (lived strategy clientId selector (hs.take (x.time + 1))).session.closing = true) :
    ∃ id, (lived strategy clientId selector hs).state.sessionId = some id ∧
      x.errand = .unregister { session := id } := by
  obtain ⟨-, p, q, got, ms, hl, hms, -, hq⟩ := lived_sent strategy clientId selector hs x hx
  have hm := hl.silent (hq.fits.closing ▸ hc) _ hms
  have hn := lived_named strategy clientId selector hs x hx
  rcases x with ⟨time, r | r | ⟨⟨id⟩⟩⟩
  · cases hm
  · cases hm
  · exact ⟨id, hn, rfl⟩

/-- **Silence at the end.**  From the command that asks for the end of a session that has not
    ended, the task makes no call but the one that ends this session, one at a time.  From the
    end, it makes none; no timer is set, nobody waits, and neither the status nor the number of
    the session changes, nor, through the task, the selector. -/
theorem silent_end (strategy : Strategy) (clientId : String) (selector : Selector)
    (p q : List Happening) :
    ((lived strategy clientId selector p).EndAsked →
      let l := lived strategy clientId selector (p ++ .command :: q)
      (∀ x ∈ l.sent, p.length ≤ x.time → ∃ id, l.state.sessionId = some id ∧
        x.errand = .unregister { session := id }) ∧
      l.calls.count .unregister ≤ 1) ∧
    ((lived strategy clientId selector p).state.isEnded = true →
      let l := lived strategy clientId selector (p ++ q)
      Unmoved (lived strategy clientId selector p) l ∧
      (∀ slot, l.session.timer slot = none) ∧
      l.session.openWaiters = [] ∧ l.session.closeWaiters = [] ∧
      ∀ h, (∀ s, h ≠ .select s) → (l.step strategy h).selector = l.selector) := by
  constructor
  · intro hask l
    have hclosing : ∀ q', (lived strategy clientId selector (p ++ .command :: q')).session.closing =
        true := by
      intro q'
      obtain ⟨r, hr⟩ := lived_inPhase strategy clientId selector (p ++ [.command])
      rw [List.append_cons, lived_append]
      refine closing_stays hr ?_ q'
      rw [lived_concat]
      exact hask.closing
    refine ⟨fun x hx ht => unregister_of_closing hx ?_, ?_⟩
    · rw [List.take_append, List.take_of_length_le (by omega),
        show x.time + 1 - p.length = x.time - p.length + 1 by omega, List.take_succ_cons]
      exact hclosing _
    · obtain ⟨r, hr⟩ := lived_inPhase strategy clientId selector (p ++ .command :: q)
      exact hr.count_le nofun
  · intro hended l
    obtain ⟨r, hr⟩ := lived_inPhase strategy clientId selector p
    have he : r.standing = some true := hr.fits.isEnded.1 hended
    obtain ⟨hl, hu⟩ := run_of_ended strategy hr he q
    rw [← lived_append] at hl hu
    obtain ⟨ho, hc⟩ := hl.fits.nobody_of_ended he
    exact ⟨hu, hl.fits.timer_of_ended he, ho, hc, fun h => (step_of_ended strategy hl he h).2.2⟩

/-- A session is registered, and its end is asked for. -/
def farewell : List Happening :=
  [.opening, .command, .outcome 0 (.ok (.register (.accept 7 1000 none []))), .closing]

/-- The command that asks for the end is taken in while the timer for a heartbeat is set; the
    cluster agrees, and that timer goes off all the same. -/
theorem silent_end_farewell :
    let lived := lived StrategyConfig.once.strategy "c" (.ofServers .any [])
    let l := lived (farewell ++ .command :: [.timer 0])
    let answered := farewell ++ [.command, .outcome 0 (.ok (.unregister .accept))]
    let l' := lived (answered ++ [.timer 0])
    ((lived farewell).EndAsked ∧
      (∀ x ∈ l.sent, farewell.length ≤ x.time → ∃ id, l.state.sessionId = some id ∧
        x.errand = .unregister { session := id }) ∧
      l.calls.count .unregister ≤ 1) ∧
    (lived answered).state.isEnded = true ∧ Unmoved (lived answered) l' := by
  have hask : (lived StrategyConfig.once.strategy "c" (.ofServers .any []) farewell).EndAsked :=
    ⟨rfl, rfl, rfl, 1, [], rfl⟩
  refine ⟨⟨hask, (silent_end _ _ _ farewell [.timer 0]).1 hask⟩, rfl, ?_⟩
  exact ((silent_end _ _ _ _ [.timer 0]).2 rfl).1

end Life

end ClusterSession
