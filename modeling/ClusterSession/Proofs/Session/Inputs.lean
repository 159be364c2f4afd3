/-
  ClusterSession: what a session task takes in.

  * `Life.input?`: the input that the task takes in when something happens.
  * `Life.Handles`: what handling an input leaves of a life.
  * `step_input`: in a happening, the task handles an input, or nothing happens to it.
  * `Handles.leads`: an input takes the task from phase to phase.
  * `input?_timer`, `input?_stopped`: where inputs come from.
-/
import ClusterSession.Proofs.Session.Courses

namespace ClusterSession

namespace Life

/-- The turn that begins. -/
def turn (l : Life) : Turn :=
  { session := l.session, state := l.state, selector := l.selector, actions := [] }

/-- The input that the task takes in. -/
def input? (l : Life) : Happening → Option Input
  | .command =>
    if l.stopped then none
    else match l.detached, l.commands with
      | false, c :: _ => some (.command c)
      | _, _ => none
  | .outcome i result =>
    if l.stopped then none
    else (l.outstanding[i]?).map fun x => .event (x.errand.outcome result)
  | .timer i =>
    if l.stopped then none else (l.timers[i]?).map fun a => .event (.timer a.id a.purpose)
  | _ => none

/-- What handling an input leaves of a life. -/
structure Handles (strategy : Strategy) (l l' : Life) (i : Input) : Prop where
  session : l'.session = (l.turn.handle strategy i).session
  state : l'.state = (l.turn.handle strategy i).state
  selector : l'.selector = (l.turn.handle strategy i).selector
  sent : (l'.sent.drop l.sent.length).map Sent.errand = (l.turn.handle strategy i).errands
  calls : ∃ rest, l.calls.Perm (i.call?.toList ++ rest) ∧
    l'.calls = rest ++ (l.turn.handle strategy i).calls
  outstanding : ∃ rest news, (∀ x ∈ rest, x ∈ l.outstanding) ∧ l'.outstanding = rest ++ news ∧
    news.map Sent.errand = (l.turn.handle strategy i).errands
  timers : ∀ a ∈ l'.timers, a ∈ l.timers ∨ a ∈ (l.turn.handle strategy i).armed

section
variable {l l' : Life} {i : Input}

theorem Offers.handles (strategy : Strategy) (h : l.Offers i l') :
    l.Handles strategy (l'.take strategy i) i := by
  have hturn : l'.turn = l.turn := by cases h <;> rfl
  have hsent : l'.sent = l.sent := by cases h <;> rfl
  have hcalls : l.calls.Perm (i.call?.toList ++ l'.calls) := by
    cases h with
    | command => exact .refl _
    | timer => exact .refl _
    | outcome result hx =>
      obtain ⟨hi, rfl⟩ := List.getElem?_eq_some_iff.1 hx
      rw [Input.call?_outcome]
      exact (List.getElem_cons_eraseIdx_perm hi).symm.map Sent.method
  have hrest : ∀ x ∈ l'.outstanding, x ∈ l.outstanding := by
    cases h with
    | outcome => exact fun _ => List.mem_of_mem_eraseIdx
    | _ => exact fun _ hx => hx
  have htimers : ∀ a ∈ l'.timers, a ∈ l.timers := by
    cases h with
    | timer => exact fun _ => List.mem_of_mem_eraseIdx
    | _ => exact fun _ ha => ha
  refine ⟨?_, ?_, ?_, ?_, ⟨l'.calls, hcalls, ?_⟩, ⟨l'.outstanding, _, hrest, rfl, ?_⟩, ?_⟩
  · exact congrArg (fun t => (Turn.handle strategy i t).session) hturn
  · exact congrArg (fun t => (Turn.handle strategy i t).state) hturn
  · exact congrArg (fun t => (Turn.handle strategy i t).selector) hturn
  · rw [← hturn]
    show ((l'.sent ++ _).drop l.sent.length).map Sent.errand = _
    rw [hsent, List.drop_left, List.map_map]
    exact List.map_id _
  · rw [← hturn]
    show (l'.outstanding ++ _).map Sent.method = _
    rw [List.map_append, List.map_map]
    rfl
  · rw [← hturn, List.map_map]
    exact List.map_id _
  · rw [← hturn]
    exact fun a ha => (List.mem_append.1 ha).imp_left (htimers a)

/-- **In a happening, the task takes in an input, or nothing happens to it.** -/
theorem step_input (strategy : Strategy) (l : Life) (h : Happening) :
    (∃ i, l.input? h = some i ∧ l.Handles strategy (l.step strategy h) i) ∨
      l.input? h = none ∧ Alike l (l.step strategy h) ∧
        ((∀ s, h ≠ .select s) → (l.step strategy h).selector = l.selector) := by
  have htaken : ∀ i l', l.Offers i l' → l.happen strategy h = l'.take strategy i →
      l.Handles strategy (l.step strategy h) i := by
    intro i l' ho he
    have hh := ho.handles strategy
    rw [← he] at hh
    exact ⟨hh.session, hh.state, hh.selector, hh.sent, hh.calls, hh.outstanding, hh.timers⟩
  have haside : l.input? h = none → Alike l (l.happen strategy h) →
      ((∀ s, h ≠ .select s) → (l.happen strategy h).selector = l.selector) →
      l.input? h = none ∧ Alike l (l.step strategy h) ∧
        ((∀ s, h ≠ .select s) → (l.step strategy h).selector = l.selector) :=
    fun hi ha hs =>
      ⟨hi, ⟨ha.session, ha.status, ha.sessionId, ha.sent, ha.outstanding, ha.timers⟩, hs⟩
  have hself : l.input? h = none → l.happen strategy h = l → l.input? h = none ∧
      Alike l (l.step strategy h) ∧
        ((∀ s, h ≠ .select s) → (l.step strategy h).selector = l.selector) :=
    fun hi he => haside hi (he.symm ▸ .refl l) fun _ => congrArg Life.selector he
  cases h with
  | opening | closing =>
    refine .inr (haside rfl ?_ ?_) <;> simp only [happen, ask] <;> split <;>
      first | exact ⟨rfl, rfl, rfl, rfl, rfl, rfl⟩ | exact fun _ => rfl
  | clone | detach | stop =>
    refine .inr (haside rfl ?_ ?_) <;> simp only [happen] <;> split <;>
      first | exact ⟨rfl, rfl, rfl, rfl, rfl, rfl⟩ | exact fun _ => rfl
  | drop | nextCommand =>
    exact .inr (haside rfl ⟨rfl, rfl, rfl, rfl, rfl, rfl⟩ fun _ => rfl)
  | raise counter n =>
    refine .inr (haside rfl ⟨rfl, ?_, ?_, rfl, rfl, rfl⟩ fun _ => rfl) <;> cases counter <;> rfl
  | select s =>
    exact .inr (haside rfl ⟨rfl, rfl, rfl, rfl, rfl, rfl⟩ fun hs => absurd rfl (hs s))
  | command =>
    cases hs : l.stopped with
    | true =>
      exact .inr (hself (by simp only [input?, hs, if_true]) (by simp only [happen, hs, if_true]))
    | false =>
      cases hd : l.detached with
      | true =>
        exact .inr (hself (by simp [input?, hs, hd]) (by simp [happen, hs, takeCommand, hd]))
      | false =>
        cases hc : l.commands with
        | nil =>
          exact .inr (hself (by simp [input?, hs, hd, hc])
            (by simp [happen, hs, takeCommand, hd, hc]))
        | cons c rest =>
          exact .inl ⟨_, by simp [input?, hs, hd, hc],
            htaken _ _ (.command hd hc) (by simp [happen, hs, takeCommand, hd, hc])⟩
  | outcome k result =>
    cases hs : l.stopped with
    | true =>
      exact .inr (hself (by simp only [input?, hs, if_true]) (by simp only [happen, hs, if_true]))
    | false =>
      cases hx : l.outstanding[k]? with
      | none =>
        exact .inr (hself (by simp [input?, hs, hx]) (by simp [happen, hs, takeOutcome, hx]))
      | some x =>
        exact .inl ⟨_, by simp [input?, hs, hx],
          htaken _ _ (.outcome result hx) (by simp [happen, hs, takeOutcome, hx])⟩
  | timer k =>
    cases hs : l.stopped with
    | true =>
      exact .inr (hself (by simp only [input?, hs, if_true]) (by simp only [happen, hs, if_true]))
    | false =>
      cases ha : l.timers[k]? with
      | none =>
        exact .inr (hself (by simp [input?, hs, ha]) (by simp [happen, hs, takeTimer, ha]))
      | some a =>
        exact .inl ⟨_, by simp [input?, hs, ha],
          htaken _ _ (.timer ha) (by simp [happen, hs, takeTimer, ha])⟩

/-! ## Phases -/

variable {p : Phase} {h : Happening} {strategy : Strategy}

/-- **An input takes the task from phase to phase**, with the calls of its turn. -/
theorem Handles.leads (hh : l.Handles strategy l' i) (hp : l.InPhase p) :
    ∃ q, p.Leads i.call? (l.turn.handle strategy i).calls q ∧ l'.InPhase q := by
  obtain ⟨rest, hperm, hcalls⟩ := hh.calls
  have ho : p.Owes (i.call?.toList ++ rest) := hp.owes.perm hperm
  obtain ⟨ms, q, hl, hq, hms⟩ := Turn.handle_next strategy (t := l.turn) hp.fits ho
  have hms : (l.turn.handle strategy i).calls = ms := hms
  refine ⟨q, hms ▸ hl, hh.session ▸ hh.state ▸ hq, ?_⟩
  rw [hcalls, hms]
  exact hl.owes ho

theorem Handles.next (hh : l.Handles strategy l' i) (hp : l.InPhase p) :
    ∃ ms q, p.Leads i.call? ms q ∧ l'.InPhase q := by
  obtain ⟨q, hl, hq⟩ := hh.leads hp
  exact ⟨_, q, hl, hq⟩

/-- **Whatever happens, the task is in a phase**; and in the same one, if it takes in no input. -/
theorem step_inPhase (hp : l.InPhase p) (h : Happening) :
    ∃ q, (l.step strategy h).InPhase q := by
  rcases l.step_input strategy h with ⟨i, -, hh⟩ | ⟨-, ha, -⟩
  · obtain ⟨ms, q, -, hq⟩ := hh.next hp
    exact ⟨q, hq⟩
  · exact ⟨p, (ha.passes hp).inPhase⟩

/-- Only an outcome is the outcome of a call. -/
theorem input?_call? (hi : l.input? h = some i) (hn : ∀ k result, h ≠ .outcome k result) :
    i.call? = none := by
  cases h with
  | command =>
    simp only [input?] at hi
    split at hi
    · cases hi
    · split at hi
      · cases hi; rfl
      · cases hi
  | timer k =>
    simp only [input?] at hi
    split at hi
    · cases hi
    · obtain ⟨a, -, rfl⟩ := Option.map_eq_some_iff.1 hi
      rfl
  | outcome k result => exact absurd rfl (hn k result)
  | _ => cases hi

/-- Only an event of a timer is the event of a timer. -/
theorem input?_timer {id : Nat} {purpose : Purpose}
    (hi : l.input? h = some (.event (.timer id purpose))) :
    ∃ k, h = .timer k ∧ l.timers[k]? = some { id, purpose } := by
  cases h with
  | timer k =>
    simp only [input?] at hi
    split at hi
    · cases hi
    · obtain ⟨a, ha, he⟩ := Option.map_eq_some_iff.1 hi
      cases he
      exact ⟨k, rfl, ha⟩
  | command =>
    simp only [input?] at hi
    split at hi
    · cases hi
    · split at hi <;> cases hi
  | outcome k result =>
    simp only [input?] at hi
    split at hi
    · cases hi
    · obtain ⟨x, -, he⟩ := Option.map_eq_some_iff.1 hi
      rcases x with ⟨_, _ | _ | _⟩ <;> cases he
  | _ => cases hi

/-- A task that has stopped takes in nothing. -/
theorem input?_stopped (hi : l.input? h = some i) : l.stopped = false := by
  rw [← Bool.not_eq_true]
  intro hs
  cases h <;> simp [input?, hs] at hi

end

end Life

end ClusterSession
