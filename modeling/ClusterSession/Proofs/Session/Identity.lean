/-
  ClusterSession: one session for each task, reported faithfully.

  * `highest`: the highest value to which a counter has been raised.
  * `Life.Numbered`: at most one answer has registered the session, and the number of the
    session is the one that it gave.
  * `Life.Counted`: the counters are the highest values to which they have been raised.
  * `identity_faithful`: every request names this session and this client, and heartbeats
    report these counters.
-/
import ClusterSession.Proofs.Session.Changes
import ClusterSession.Proofs.Session.Chronicles

namespace ClusterSession

/-! ## Counters -/

/-- The value to which the application raises a counter. -/
def Happening.raised? (counter : Counter) : Happening → Option UInt64
  | raise c n => if c = counter then some n else none
  | _ => none

/-- The highest value to which a counter has been raised; zero, if it has not. -/
def highest (counter : Counter) (log : List Moment) : UInt64 :=
  (log.filterMap fun m => m.happening.raised? counter).foldl max 0

theorem highest_concat (counter : Counter) (log : List Moment) (m : Moment) :
    highest counter (log ++ [m]) =
      (m.happening.raised? counter).elim (highest counter log) (max (highest counter log)) := by
  unfold highest
  rw [filterMap_concat, List.foldl_append]
  cases m.happening.raised? counter <;> rfl

theorem le_highest_concat (counter : Counter) (log : List Moment) (m : Moment) :
    highest counter log ≤ highest counter (log ++ [m]) := by
  rw [highest_concat]
  cases m.happening.raised? counter with
  | none => exact UInt64.le_refl _
  | some n =>
    show _ ≤ if highest counter log ≤ n then n else highest counter log
    split
    · assumption
    · exact UInt64.le_refl _

/-- The highest values only grow. -/
theorem highest_le_append (counter : Counter) (log later : List Moment) :
    highest counter log ≤ highest counter (log ++ later) := by
  induction later using List.reverseRecOn with
  | nil => rw [List.append_nil]; exact UInt64.le_refl _
  | append_singleton later m ih =>
    rw [← List.append_assoc]
    exact UInt64.le_trans ih (le_highest_concat counter _ m)

/-! ## What requests tell -/

/-- The number of one session, that of an answer that registered it, is among the moments. -/
def Registered (id : UInt64) (log : List Moment) : Prop :=
  ∃ m ∈ log, ∃ r, m.Accepts r ∧ id = r.session

/-- What a request tells of client and session, if it is sent at the end of `before` in the
    moment `m`. -/
def Errand.Tells (clientId : String) (before : List Moment) (m : Moment) : Errand → Prop
  | register _ q => q.client = clientId
  | keepAlive q => Registered q.session (before ++ [m]) ∧
      q.commandSequence = highest .commandResponse before ∧
      q.eventIndex = highest .completeIndex before
  | unregister q => Registered q.session (before ++ [m])

namespace Life

section
variable {strategy : Strategy} {l : Life} {p : Phase} {h : Happening}

/-- What the task and the application leave of the counters. -/
theorem step_rest (strategy : Strategy) (l : Life) (h : Happening) :
    (l.step strategy h).state.clientId = l.state.clientId ∧
    (l.step strategy h).state.commandResponse =
      (h.raised? .commandResponse).elim l.state.commandResponse (max l.state.commandResponse) ∧
    (l.step strategy h).state.completeIndex =
      (h.raised? .completeIndex).elim l.state.completeIndex (max l.state.completeIndex) := by
  have hself : ∀ l' : Life, l'.state = l.state → l'.state.clientId = l.state.clientId ∧
      l'.state.commandResponse = l.state.commandResponse ∧
      l'.state.completeIndex = l.state.completeIndex := fun l' he => he ▸ ⟨rfl, rfl, rfl⟩
  have htake : ∀ i (l' : Life), l'.state = l.state →
      (l'.take strategy i).state.clientId = l.state.clientId ∧
      (l'.take strategy i).state.commandResponse = l.state.commandResponse ∧
      (l'.take strategy i).state.completeIndex = l.state.completeIndex := by
    intro i l' he
    have hstate : (l'.take strategy i).state = _ := l'.turn.handle_state strategy i
    rw [hstate, ← he]
    exact l'.state.change_rest _ _
  cases h with
  | raise counter n => cases counter <;> exact ⟨rfl, rfl, rfl⟩
  | opening | closing =>
    simp only [step, happen, ask]
    split <;> exact hself _ rfl
  | clone | detach | stop =>
    simp only [step, happen]
    split <;> exact hself _ rfl
  | drop | select => exact hself _ rfl
  | nextCommand => exact ⟨rfl, rfl, rfl⟩
  | command =>
    simp only [step, happen, takeCommand]
    split
    · exact hself _ rfl
    · split
      · exact htake _ _ rfl
      · exact hself _ rfl
  | outcome k result =>
    simp only [step, happen, takeOutcome]
    split
    · exact hself _ rfl
    · split
      · exact htake _ _ rfl
      · exact hself _ rfl
  | timer k =>
    simp only [step, happen, takeTimer]
    split
    · exact hself _ rfl
    · split
      · exact htake _ _ rfl
      · exact hself _ rfl

/-! ## What is known of a session -/

/-- At most one answer has registered the session; its number is the one that it gave. -/
def Numbered (l : Life) (log : List Moment) : Prop :=
  ∃ r? : Option RegisterResponse,
    log.filterMap Moment.accepted? = r?.toList ∧ l.state.sessionId = r?.map (·.session)

/-- The client is the one of the start, and the counters are the highest values so far. -/
structure Counted (clientId : String) (l : Life) (log : List Moment) : Prop where
  client : l.state.clientId = clientId
  commandResponse : l.state.commandResponse = highest .commandResponse log
  completeIndex : l.state.completeIndex = highest .completeIndex log

theorem step_counted {clientId : String} {log : List Moment} (h : Happening)
    (hl : l.Counted clientId log) :
    (l.step strategy h).Counted clientId (log ++ [{ life := l, happening := h }]) := by
  obtain ⟨hclient, hresponse, hindex⟩ := step_rest strategy l h
  refine ⟨hclient.trans hl.client, ?_, ?_⟩
  · rw [highest_concat, hresponse, hl.commandResponse]
  · rw [highest_concat, hindex, hl.completeIndex]

/-- A session is registered only while it has no number. -/
theorem InPhase.unnumbered_of_accepted (hp : l.InPhase p) {i : Input} {r : RegisterResponse}
    {l' : Life} (hh : l.Handles strategy l' i) (ha : i.accepted? = some r) :
    l.state.sessionId = none := by
  obtain ⟨attempt, result, rfl, -⟩ := Input.accepted?_eq_some.1 ha
  obtain ⟨ms, q, hl, -⟩ := hh.next hp
  refine hp.fits.unnumbered ?_
  cases hl with
  | ignore hl => cases p <;> cases hl
  | _ => rfl

theorem step_numbered {log : List Moment} (h : Happening) (hp : l.InPhase p)
    (hl : l.Numbered log) :
    (l.step strategy h).Numbered (log ++ [{ life := l, happening := h }]) := by
  obtain ⟨r?, hlog, hid⟩ := hl
  unfold Numbered
  rw [filterMap_concat, hlog]
  rcases l.step_input strategy h with ⟨i, hi, hh⟩ | ⟨hi, ha, -⟩
  · rw [Moment.accepted?_of_input hi, hh.state, Turn.handle_state, SessionState.change_sessionId]
    have hnumbers : Turn.numbers? i = i.accepted?.map (·.session) := by
      rcases i with _ | (_ | ⟨attempt, result⟩ | _ | _) <;> try rfl
      simp only [Turn.numbers?, Input.accepted?]
      cases Turn.refusal? result <;> rfl
    rw [hnumbers]
    cases ha : i.accepted? with
    | none => exact ⟨r?, by simp, by simpa [Life.turn] using hid⟩
    | some r =>
      have hnone := hp.unnumbered_of_accepted hh ha
      obtain rfl : r? = none := Option.map_eq_none_iff.1 (hid.symm.trans hnone)
      exact ⟨some r, rfl, by simp [Life.turn, hnone]⟩
  · rw [Moment.accepted?_of_none hi, ha.sessionId]
    exact ⟨r?, by simp, hid⟩

end

section
variable {strategy : Strategy} {clientId : String} {selector : Selector} {hs : List Happening}

theorem annals_counted :
    (lived strategy clientId selector hs).Counted clientId
      (annals strategy clientId selector hs) :=
  annals_induction (P := Counted clientId) ⟨rfl, rfl, rfl⟩ (fun _ _ _ h _ => step_counted h) hs

theorem annals_numbered :
    (lived strategy clientId selector hs).Numbered (annals strategy clientId selector hs) :=
  annals_induction (P := Numbered) ⟨none, rfl, rfl⟩ (fun _ _ _ h => step_numbered h) hs

end

section
variable {l : Life} {log : List Moment}

/-- A number of a session is the one that was given with the registration. -/
theorem Numbered.registered (hl : l.Numbered log) {id : UInt64}
    (hid : l.state.sessionId = some id) : Registered id log := by
  obtain ⟨r?, hlog, hr⟩ := hl
  obtain ⟨r, rfl, rfl⟩ := Option.map_eq_some_iff.1 (hr.symm.trans hid)
  have hmem : r ∈ log.filterMap Moment.accepted? := by
    rw [hlog]
    exact List.mem_singleton_self r
  obtain ⟨m, hm, ha⟩ := List.mem_filterMap.1 hmem
  exact ⟨m, hm, r, Moment.accepts_iff.2 ha, rfl⟩

/-- Once the session is registered, its number is known. -/
theorem Numbered.sessionId (hl : l.Numbered log) {m : Moment} {r : RegisterResponse}
    (hm : m ∈ log) (ha : m.Accepts r) : l.state.sessionId = some r.session := by
  obtain ⟨r?, hlog, hr⟩ := hl
  have hmem : r ∈ r?.toList := hlog ▸ List.mem_filterMap.2 ⟨m, hm, Moment.accepts_iff.1 ha⟩
  rw [hr, Option.mem_toList.1 hmem]
  rfl

/-- One answer registers the session. -/
theorem Numbered.eq_of_accepts (hl : l.Numbered log) {m m' : Moment} {r r' : RegisterResponse}
    (hm : m ∈ log) (ha : m.Accepts r) (hm' : m' ∈ log) (ha' : m'.Accepts r') : r' = r := by
  obtain ⟨r?, hlog, -⟩ := hl
  have hmem : ∀ d ∈ log, ∀ x, d.Accepts x → r? = some x := by
    intro d hd x hx
    rw [← Option.mem_toList, ← hlog]
    exact List.mem_filterMap.2 ⟨d, hd, Moment.accepts_iff.1 hx⟩
  exact Option.some.inj ((hmem m' hm' r' ha').symm.trans (hmem m hm r ha))

/-- The session is registered once. -/
theorem Numbered.unique (hl : l.Numbered log) {before after : List Moment} {m : Moment}
    {r : RegisterResponse} (hlog : log = before ++ m :: after) (ha : m.Accepts r) :
    ∀ d ∈ before ++ after, ∀ r', ¬d.Accepts r' := by
  intro d hd r' ha'
  obtain ⟨r?, hfilter, -⟩ := hl
  have hnone : before.filterMap Moment.accepted? = [] ∧ after.filterMap Moment.accepted? = [] := by
    have hlen := congrArg List.length hfilter
    rw [hlog, List.filterMap_append, List.filterMap_cons, Moment.accepts_iff.1 ha,
      List.length_append, List.length_cons] at hlen
    have hle : r?.toList.length ≤ 1 := by cases r? <;> simp
    exact ⟨List.length_eq_zero_iff.1 (by omega), List.length_eq_zero_iff.1 (by omega)⟩
  have hmem : r' ∈ (before ++ after).filterMap Moment.accepted? :=
    List.mem_filterMap.2 ⟨d, hd, Moment.accepts_iff.1 ha'⟩
  rw [List.filterMap_append, hnone.1, hnone.2] at hmem
  cases hmem

end

/-- What a task sends tells what its state says after the turn. -/
theorem errands_fit {strategy : Strategy} {m : Moment} {e : Errand} (he : e ∈ m.errands strategy) :
    e.Fits (m.life.step strategy m.happening).state := by
  rcases m.life.step_input strategy m.happening with ⟨i, hi, hh⟩ | ⟨hi, -, -⟩
  · rw [hh.state]
    refine m.life.turn.handle_fits strategy i nofun e ?_
    rwa [Moment.errands_of_input hi] at he
  · rw [Moment.errands_of_none hi] at he
    cases he

/-- The task and the application do not meet in one moment. -/
theorem errand_rest {strategy : Strategy} {m : Moment} {e : Errand} (he : e ∈ m.errands strategy) :
    (m.life.step strategy m.happening).state.clientId = m.life.state.clientId ∧
    (m.life.step strategy m.happening).state.commandResponse = m.life.state.commandResponse ∧
    (m.life.step strategy m.happening).state.completeIndex = m.life.state.completeIndex := by
  have hraised : ∀ counter, m.happening.raised? counter = none := by
    intro counter
    rcases hi : m.life.input? m.happening with _ | i
    · rw [Moment.errands_of_none hi] at he
      cases he
    · cases hh : m.happening <;> rw [hh] at hi <;> first | rfl | cases hi
  have hrest := step_rest strategy m.life m.happening
  rwa [hraised, hraised] at hrest

/-- **One session for each task, reported faithfully.**  In every life, at most one answer
    registers the session, and its number stays from then on.  Every request to register names the
    client; every heartbeat and every attempt to end the session names the session that has been
    registered.  Heartbeats report the highest values to which the counters have been raised so
    far, so that what they report never decreases. -/
theorem identity_faithful (strategy : Strategy) (clientId : String) (selector : Selector)
    (hs : List Happening) :
    let l := lived strategy clientId selector hs
    let log := annals strategy clientId selector hs
    l.sent.map Sent.errand = log.flatMap (Moment.errands strategy) ∧
    (∀ before m after r, log = before ++ m :: after → m.Accepts r →
      (∀ d ∈ before ++ after, ∀ r', ¬d.Accepts r') ∧
      (∀ d ∈ after, d.life.state.sessionId = some r.session) ∧
      l.state.sessionId = some r.session) ∧
    (∀ before m after, log = before ++ m :: after →
      ∀ e ∈ m.errands strategy, e.Tells clientId before m) ∧
    ∀ before m between m' after, log = before ++ m :: (between ++ m' :: after) →
      ∀ q q', .keepAlive q ∈ m.errands strategy → .keepAlive q' ∈ m'.errands strategy →
        q.commandSequence ≤ q'.commandSequence ∧ q.eventIndex ≤ q'.eventIndex := by
  intro l log
  have htells : ∀ before m after, log = before ++ m :: after →
      ∀ e ∈ m.errands strategy, e.Tells clientId before m := by
    intro before m after hlog e he
    obtain ⟨past, hbefore, hlife, hnow, hnext⟩ := annals_split hlog
    have hfits := errands_fit he
    have hcounted : m.life.Counted clientId before := hlife ▸ hbefore ▸ annals_counted
    have hnumbered : (m.life.step strategy m.happening).Numbered (before ++ [m]) :=
      hnext ▸ hnow ▸ annals_numbered
    have hrest := errand_rest he
    cases e with
    | register attempt q => exact hfits.trans (hrest.1.trans hcounted.client)
    | keepAlive q =>
      obtain ⟨hid, hresponse, hindex⟩ := hfits
      exact ⟨hnumbered.registered hid, hresponse.trans (hrest.2.1.trans hcounted.commandResponse),
        hindex.trans (hrest.2.2.trans hcounted.completeIndex)⟩
    | unregister q => exact hnumbered.registered hfits
  refine ⟨annals_sent strategy clientId selector hs, fun before m after r hlog ha => ?_, htells, ?_⟩
  · have hnumbered : l.Numbered log := annals_numbered
    refine ⟨hnumbered.unique hlog ha, fun d hd => ?_, hnumbered.sessionId (hlog ▸ by simp) ha⟩
    obtain ⟨between, hlater⟩ := annals_later (P := Numbered) (fun _ => annals_numbered) hlog hd
    exact hlater.sessionId (by simp) ha
  · intro before m between m' after hlog q q' hq hq'
    obtain ⟨-, hresponse, hindex⟩ := htells before m _ hlog _ hq
    obtain ⟨-, hresponse', hindex'⟩ :=
      htells (before ++ m :: between) m' after (by simpa using hlog) _ hq'
    rw [hresponse, hresponse', hindex, hindex']
    exact ⟨highest_le_append _ _ _, highest_le_append _ _ _⟩

/-- A counter that is raised to less than it was stays. -/
example :
    (lived StrategyConfig.once.strategy "c" (.ofServers .any []) [
        .opening, .command, .raise .commandResponse 5, .raise .commandResponse 3,
        .outcome 0 (.ok (.register (.accept 7 7 none []))), .timer 0]).sent.map Sent.errand =
      [.register 1 { client := "c" },
        .keepAlive { session := 7, commandSequence := 5, eventIndex := 0 }] := by
  decide +kernel

end Life

end ClusterSession
