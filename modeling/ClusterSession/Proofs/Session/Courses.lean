/-
  ClusterSession: what every happening in the life of a session task keeps.

  * `Life.InPhase`: the life is in a phase; `step_passes`: every happening takes it
    to a phase where the present one leads, and the requests that it brings are
    those of that step.
  * `Life.Timed`: every timer in a slot can still go off.
  * `Life.Named`: the requests carry the number of the session.
  * `Life.Left`: what is known when no handle is left.
  * `lived_sent`: every request so far was sent in a step of the phases.
-/
import ClusterSession.Proofs.Session.Lives
import ClusterSession.Proofs.Session.Phases
import Mathlib.Data.List.Induction
import Mathlib.Data.List.Perm.Basic

namespace ClusterSession

/-- The request of an errand carries the number of the session. -/
def Errand.Names (state : SessionState) : Errand → Prop
  | register _ _ => True
  | keepAlive r => state.sessionId = some r.session
  | unregister r => state.sessionId = some r.session

theorem Errand.Fits.names {state : SessionState} {e : Errand} (h : e.Fits state) :
    e.Names state := by
  cases e with
  | register => trivial
  | keepAlive => exact h.1
  | unregister => exact h

theorem Errand.Names.mono {e : Errand} {state state' : SessionState} (h : e.Names state)
    (hid : ∀ id, state.sessionId = some id → state'.sessionId = some id) : e.Names state' := by
  cases e with
  | register => trivial
  | keepAlive r => exact hid _ h
  | unregister r => exact hid _ h

namespace Phase

variable {p : Phase}

theorem Owes.perm {calls calls' : List Method} (h : p.Owes calls) (hp : calls.Perm calls') :
    p.Owes calls' := fun m => hp.count_eq m ▸ h m

/-- The counters of the state have nothing to do with the phase. -/
theorem Fits.congr {session : Session} {state state' : SessionState} (h : p.Fits session state)
    (hs : state'.status = state.status) (hid : state'.sessionId = state.sessionId) :
    p.Fits session state' := by
  refine ⟨h.look, ?_, fun hp => hid.trans (h.unnumbered hp), fun hp => hid ▸ h.numbered hp⟩
  rw [← h.standing, SessionState.standing, hs, SessionState.standing]

end Phase

namespace Life

/-- The calls without an outcome. -/
def calls (l : Life) : List Method := l.outstanding.map Sent.method

/-- A life is in a phase. -/
structure InPhase (l : Life) (p : Phase) : Prop where
  fits : p.Fits l.session l.state
  owes : p.Owes l.calls

/-- A life goes from one phase to another, and sends `news` on the way. -/
structure Passes (l l' : Life) (p q : Phase) (news : List Sent) : Prop where
  leads : ∃ got, p.Leads got (news.map Sent.method) q
  inPhase : l'.InPhase q
  sent : l'.sent = l.sent ++ news
  time : ∀ x ∈ news, x.time = l.time

section
variable {strategy : Strategy} {l l' : Life} {p : Phase} {i : Input}

theorem Alike.passes (h : Alike l l') (hp : l.InPhase p) : Passes l l' p p [] :=
  { leads := ⟨none, .stay⟩
    inPhase :=
      { fits := h.session ▸ hp.fits.congr h.status h.sessionId
        owes := by unfold calls; rw [h.outstanding]; exact hp.owes }
    sent := by rw [h.sent, List.append_nil]
    time := nofun }

/-- An outcome that is offered belongs to a call that the phase owes. -/
theorem Offers.owes (h : l.Offers i l') (hp : l.InPhase p) :
    p.Fits l'.session l'.state ∧ p.Owes (i.call?.toList ++ l'.calls) ∧
      l'.sent = l.sent ∧ l'.time = l.time := by
  refine ⟨?_, ?_, ?_, ?_⟩
  · cases h <;> exact hp.fits
  · cases h with
    | command => exact hp.owes
    | timer => exact hp.owes
    | outcome result hx =>
      obtain ⟨hi, rfl⟩ := List.getElem?_eq_some_iff.1 hx
      rw [Input.call?_outcome]
      exact hp.owes.perm ((List.getElem_cons_eraseIdx_perm hi).symm.map Sent.method)
  · cases h <;> rfl
  · cases h <;> rfl

theorem Offers.passes (h : l.Offers i l') (hp : l.InPhase p) :
    ∃ q news, Passes l (l'.take strategy i) p q news := by
  obtain ⟨hf, ho, hs, ht⟩ := h.owes hp
  obtain ⟨ms, q, hl, hq, hms⟩ :=
    Turn.handle_next strategy (t := ⟨l'.session, l'.state, l'.selector, []⟩) hf ho
  let news : List Sent :=
    (l'.session.step strategy l'.state l'.selector i).errands.map
      ({ time := l'.time, errand := · })
  have hnews : news.map Sent.method = ms := by
    simp only [news, List.map_map]
    exact hms
  refine ⟨q, news, ⟨i.call?, hnews ▸ hl⟩, ⟨hq, ?_⟩, hs ▸ rfl, ?_⟩
  · have hcalls : (l'.take strategy i).calls = l'.calls ++ ms := by
      rw [← hnews]
      exact List.map_append
    exact hcalls ▸ hl.owes ho
  · intro x hx
    obtain ⟨e, -, rfl⟩ := List.mem_map.1 hx
    exact ht

/-- **Every happening takes a life from phase to phase.** -/
theorem step_passes (strategy : Strategy) (hp : l.InPhase p) (h : Happening) :
    ∃ q news, Passes l (l.step strategy h) p q news := by
  have hs : ∃ q news, Passes l (l.happen strategy h) p q news := by
    rcases l.happen_cases strategy h with ⟨i, l', -, ho, he⟩ | ⟨ha, -⟩
    · rw [he]
      exact ho.passes hp
    · exact ⟨p, [], ha.passes hp⟩
  obtain ⟨q, news, hl, hq, hsent, htime⟩ := hs
  exact ⟨q, news, hl, ⟨hq.fits, hq.owes⟩, hsent, htime⟩

theorem born_inPhase (clientId : String) (selector : Selector) :
    (born clientId selector).InPhase .idle :=
  { fits := ⟨rfl, rfl, fun _ => rfl, nofun⟩
    owes := fun m => by cases m <;> exact ⟨Nat.le_refl 0, Nat.zero_le _⟩ }

/-! ## Timers and numbers -/

/-- Every timer in a slot can still go off. -/
def Timed (l : Life) : Prop :=
  ∀ slot id, l.session.timer slot = some id → ∃ a ∈ l.timers, a.id = id ∧ a.purpose.slot = slot

theorem Offers.timed (h : l.Offers i l') (ht : l.Timed) : (l'.take strategy i).Timed := by
  have hold : Turn.Tracked l.timers ⟨l.session, l.state, l.selector, []⟩ := by
    intro slot id hid
    obtain ⟨a, ha, hrest⟩ := ht slot id hid
    exact ⟨a, List.mem_append_left _ ha, hrest⟩
  cases h with
  | command => exact Turn.handle_tracked strategy _ hold
  | outcome => exact Turn.handle_tracked strategy _ hold
  | @timer k a ha =>
    obtain ⟨hk, rfl⟩ := List.getElem?_eq_some_iff.1 ha
    refine Turn.onTimer_tracked fun slot id hid => ?_
    obtain ⟨b, hb, hrest⟩ := hold slot id hid
    rw [List.mem_append, (List.getElem_cons_eraseIdx_perm hk).symm.mem_iff, ← List.mem_append] at hb
    exact ⟨b, hb, hrest⟩

theorem step_timed (ht : l.Timed) (h : Happening) : (l.step strategy h).Timed := by
  show (l.happen strategy h).Timed
  rcases l.happen_cases strategy h with ⟨i, l', -, ho, he⟩ | ⟨ha, -⟩
  · rw [he]
    exact ho.timed ht
  · unfold Timed
    rw [ha.session, ha.timers]
    exact ht

/-- The requests so far carry the number of the session. -/
def Named (l : Life) : Prop := ∀ x ∈ l.sent, x.errand.Names l.state

theorem step_named (hn : l.Named) (h : Happening) : (l.step strategy h).Named := by
  show (l.happen strategy h).Named
  rcases l.happen_cases strategy h with ⟨i, l', -, ho, he⟩ | ⟨ha, -⟩
  · have hl' : l'.sent = l.sent ∧ l'.state = l.state := by cases ho <;> exact ⟨rfl, rfl⟩
    rw [he]
    intro x hx
    rcases List.mem_append.1 hx with hx | hx
    · refine (hn x (hl'.1 ▸ hx)).mono fun id hid => ?_
      exact Turn.handle_sessionId _ strategy i (hl'.2 ▸ hid)
    · obtain ⟨e, he, rfl⟩ := List.mem_map.1 hx
      exact (Turn.handle_fits ⟨l'.session, l'.state, l'.selector, []⟩ strategy i nofun e he).names
  · unfold Named
    rw [ha.sent]
    exact fun x hx => (hn x hx).mono fun id hid => ha.sessionId.trans hid

/-! ## Handles -/

/-- When no handle is left, no command will come; the task stops when nobody waits. -/
structure Left (l : Life) : Prop where
  detached : l.detached = true → l.handles = 0 ∧ l.commands = []
  stopped : l.stopped = true → l.detached = true ∧ l.session.isIdle = true

theorem Offers.left (h : l.Offers i l') (hl : l.Left) (hs : l.stopped = false) :
    (l'.take strategy i).Left := by
  have hrest : l'.stopped = false ∧ l'.detached = l.detached ∧ l'.handles = l.handles ∧
      (l.detached = true → l'.commands = l.commands) := by
    cases h with
    | command hd _ => exact ⟨hs, rfl, rfl, fun hd' => absurd (hd.symm.trans hd') nofun⟩
    | outcome => exact ⟨hs, rfl, rfl, fun _ => rfl⟩
    | timer => exact ⟨hs, rfl, rfl, fun _ => rfl⟩
  obtain ⟨hstop, hdet, hhan, hcom⟩ := hrest
  refine ⟨fun hd => ?_, fun hs' => absurd (hstop.symm.trans hs') nofun⟩
  have hd : l.detached = true := hdet.symm.trans hd
  exact ⟨hhan.trans (hl.detached hd).1, (hcom hd).trans (hl.detached hd).2⟩

theorem step_left (hl : l.Left) (h : Happening) : (l.step strategy h).Left := by
  suffices hs : (l.happen strategy h).Left from ⟨hs.detached, hs.stopped⟩
  cases h with
  | opening | closing | clone =>
    simp only [happen, ask]
    split
    · exact hl
    · next hn => exact ⟨fun hd => absurd (hl.detached hd).1 hn, hl.stopped⟩
  | drop =>
    refine ⟨fun hd => ⟨?_, (hl.detached hd).2⟩, hl.stopped⟩
    show l.handles - 1 = 0
    rw [(hl.detached hd).1]
  | detach =>
    simp only [happen]
    split
    · next hn => exact ⟨fun _ => hn, fun hs => ⟨rfl, (hl.stopped hs).2⟩⟩
    · exact hl
  | stop =>
    simp only [happen]
    split
    · next hn => exact ⟨hl.detached, fun _ => by simpa using hn⟩
    · exact hl
  | select | raise | nextCommand => exact ⟨hl.detached, hl.stopped⟩
  | command =>
    simp only [happen, takeCommand]
    split
    · exact hl
    · next hs =>
      split
      · next hd hc => exact Offers.left (.command hd hc) hl (by simpa using hs)
      · exact hl
  | outcome i result =>
    simp only [happen, takeOutcome]
    split
    · exact hl
    · next hs =>
      split
      · next hx => exact Offers.left (.outcome result hx) hl (by simpa using hs)
      · exact hl
  | timer i =>
    simp only [happen, takeTimer]
    split
    · exact hl
    · next hs =>
      split
      · next ha => exact Offers.left (.timer ha) hl (by simpa using hs)
      · exact hl

/-! ## Lives -/

/-- The requests without an outcome are among those that were sent. -/
theorem step_outstanding (ho : ∀ x ∈ l.outstanding, x ∈ l.sent) (h : Happening) :
    ∀ x ∈ (l.step strategy h).outstanding, x ∈ (l.step strategy h).sent := by
  show ∀ x ∈ (l.happen strategy h).outstanding, x ∈ (l.happen strategy h).sent
  rcases l.happen_cases strategy h with ⟨i, l', -, hi, he⟩ | ⟨ha, -⟩
  · have hl' : l'.sent = l.sent ∧ ∀ x ∈ l'.outstanding, x ∈ l.outstanding := by
      cases hi with
      | command => exact ⟨rfl, fun _ hx => hx⟩
      | outcome => exact ⟨rfl, fun _ hx => List.mem_of_mem_eraseIdx hx⟩
      | timer => exact ⟨rfl, fun _ hx => hx⟩
    rw [he]
    intro x hx
    rcases List.mem_append.1 hx with hx | hx
    · exact List.mem_append_left _ (hl'.1 ▸ ho x (hl'.2 x hx))
    · exact List.mem_append_right _ hx
  · rw [ha.outstanding, ha.sent]
    exact ho

end

section
variable (strategy : Strategy) (clientId : String) (selector : Selector) (hs : List Happening)

/-- The life of a task that was spawned on a state that was never registered. -/
def lived : Life := (born clientId selector).run strategy hs

theorem lived_inPhase : ∃ p, (lived strategy clientId selector hs).InPhase p := by
  refine run_of_step (P := fun l => ∃ p, l.InPhase p) ?_ ⟨_, born_inPhase clientId selector⟩ hs
  rintro l h ⟨p, hp⟩
  obtain ⟨q, news, hq⟩ := step_passes strategy hp h
  exact ⟨q, hq.inPhase⟩

theorem lived_timed : (lived strategy clientId selector hs).Timed :=
  run_of_step (P := Timed) (fun _ h hl => step_timed hl h) (fun slot _ => by cases slot <;> nofun) hs

theorem lived_named : (lived strategy clientId selector hs).Named :=
  run_of_step (P := Named) (fun _ h hl => step_named hl h) (by nofun) hs

theorem lived_left : (lived strategy clientId selector hs).Left :=
  run_of_step (P := Left) (fun _ h hl => step_left hl h) ⟨by nofun, by nofun⟩ hs

theorem lived_outstanding :
    ∀ x ∈ (lived strategy clientId selector hs).outstanding,
      x ∈ (lived strategy clientId selector hs).sent :=
  run_of_step (P := fun l => ∀ x ∈ l.outstanding, x ∈ l.sent)
    (fun _ h hl => step_outstanding hl h) (by nofun) hs

theorem lived_append (hs' : List Happening) :
    lived strategy clientId selector (hs ++ hs') =
      (lived strategy clientId selector hs).run strategy hs' :=
  run_append _ _ _

theorem lived_concat (h : Happening) :
    lived strategy clientId selector (hs ++ [h]) =
      (lived strategy clientId selector hs).step strategy h :=
  run_concat _ _ _

theorem lived_time : (lived strategy clientId selector hs).time = hs.length :=
  (run_time _ _).trans (Nat.zero_add _)

/-- **Every request was sent in a step of the phases**: the one of its number. -/
theorem lived_sent : ∀ x ∈ (lived strategy clientId selector hs).sent, x.time < hs.length ∧
    ∃ p q got ms, p.Leads got ms q ∧ x.method ∈ ms ∧
      (lived strategy clientId selector (hs.take x.time)).InPhase p ∧
      (lived strategy clientId selector (hs.take (x.time + 1))).InPhase q := by
  induction hs using List.reverseRecOn with
  | nil => nofun
  | append_singleton hs h ih =>
    obtain ⟨p, hp⟩ := lived_inPhase strategy clientId selector hs
    obtain ⟨q, news, ⟨got, hl⟩, hq, hsent, htime⟩ := step_passes strategy hp h
    rw [← lived_concat] at hq hsent
    intro x hx
    rw [hsent] at hx
    rw [List.length_append, List.length_singleton]
    rcases List.mem_append.1 hx with hx | hx
    · obtain ⟨ht, hrest⟩ := ih x hx
      rw [List.take_append_of_le_length (by omega), List.take_append_of_le_length (by omega)]
      exact ⟨by omega, hrest⟩
    · have ht : x.time = hs.length := (htime x hx).trans (lived_time _ _ _ _)
      refine ⟨by omega, p, q, got, _, hl, List.mem_map_of_mem hx, ?_, ?_⟩
      · rw [ht, List.take_left]
        exact hp
      · rw [ht, List.take_of_length_le (by simp)]
        exact hq

end

end Life

end ClusterSession
