/-
  ClusterSession: a heartbeat that fails, and the one that follows.

  * `Client.carrier?`: the member that carries a heartbeat.
  * `Client.Held`: a heartbeat has failed, and the task has not taken it in: the member is
    marked, and the clock stands still.  `Held.step`: so it stays until then.
  * `Held.told`: the task forgets the leader and sends the next heartbeat at once.
  * `Client.Resent`: that heartbeat waits, or is with another member, or has its answer.
    `Resent.step`: so it stays, as long as members accept connections and answer.
  * `failover_leaves_failed`: all of it, for any client at any time.
-/
import ClusterSession.Proofs.Client.Beating
import ClusterSession.Proofs.Cluster.Abandonment

namespace ClusterSession

/-- The `i`-th request ends with a connection error or a timeout, or is given up. -/
inductive Occurrence.Fails (i : Nat) : Occurrence → Prop
  | answered (e : ConnectionError) : e.breaksLink = true ∨ e.isTimeout = true →
      Fails i (.answered i (.error e))
  | late (limit : Duration) : Fails i (.late i limit)

/-- Members accept connections and answer, and the selector is left alone.  The task takes in no
    result. -/
def Occurrence.calm : Occurrence → Bool
  | task _ | launch _ | turn _ | pass _ => true
  | dialed _ accepted => accepted
  | answered _ result => result.isOk
  | told _ | late _ _ | select _ => false

/-! ## A connection after a failure -/

namespace Cluster

section
variable {c : Cluster} {t : Token} {s : Selector} {m a : Address}

/-- **A send that finds nobody at the link leaves the failed member**, if there is another. -/
theorem start_avoids (h : c.turns = []) (hf : c.failed = some m) (hc : c.Current s)
    (hn : s.candidates.Nodup) (ho : ∃ b ∈ s.candidates, b ≠ m) :
    ∃ a, ((c.start t s).cluster.stage? t).bind Stage.member? = some a ∧ a ≠ m ∧
      a ∈ s.candidates := by
  rw [start_stage? h]
  cases hl : c.link.filter (c.reusable s) with
  | some l =>
    refine ⟨l.address, rfl, ?_, hc.known_of_reusable hl⟩
    -- a link that is used again does not lead to the failed member
    rintro rfl
    obtain ⟨-, hr⟩ := Option.filter_eq_some_iff.1 hl
    simp [reusable, hf] at hr
  | none =>
    obtain ⟨b, rest, hd, hne⟩ := head_demote_ne hn ho
    have hb : b ∈ demote (some m) s.candidates := hd ▸ List.mem_cons_self
    rw [hf, hd]
    exact ⟨b, rfl, hne, mem_demote.1 hb⟩

/-- A send that waits on a member does not wait for its turn. -/
theorem turn_member? (h : (c.stage? t).bind Stage.member? = some a) :
    ((c.turn t s).cluster.stage? t).bind Stage.member? = some a := by
  obtain ⟨st, hst, hm⟩ := Option.bind_eq_some_iff.1 h
  have hidle : c.turn t s = c.idle s := by
    unfold turn
    cases st with
    | dialing | sending => simp only [hst, ite_self]
    | queued | dropping => cases hm
  rw [hidle]
  exact h

/-- A member that was dialed and accepts a connection carries the request. -/
theorem dialed_stage? (h : (c.stage? t).bind Stage.member? = some a) :
    ∃ k, (c.dialed t true s).cluster.stage? t = some (.sending a k) := by
  obtain ⟨st, hst, hm⟩ := Option.bind_eq_some_iff.1 h
  cases st with
  | dialing b rest g =>
    obtain rfl := Option.some.inj hm
    simp only [dialed, hst, if_true]
    exact ⟨_, useLink_stage? _ _ _ _⟩
  | sending b k =>
    obtain rfl := Option.some.inj hm
    rw [dialed_of_sending hst]
    exact ⟨k, hst⟩
  | queued | dropping => cases hm

/-- An answer is the end of a send; one that waits for a connection takes in none. -/
theorem answered_member? (r : Response) (h : (c.stage? t).bind Stage.member? = some a) :
    (c.answered t (.ok r) s).move = .finish (.ok r) ∨
      ((c.answered t (.ok r) s).cluster.stage? t).bind Stage.member? = some a := by
  obtain ⟨st, hst, hm⟩ := Option.bind_eq_some_iff.1 h
  cases st with
  | sending b k =>
    left
    simp only [answered, hst]
  | dialing b rest g =>
    right
    simp only [answered, hst]
    exact h
  | queued | dropping => cases hm

end

end Cluster

namespace Client

section
variable {strategy : Strategy} {C : Client} {m : Address} {e : ConnectionError} {now : Nat}
  {status : Option SessionStatus}

/-! ## A heartbeat that has failed -/

/-- A heartbeat that `m` carried has failed with `e`, and the task has not taken it in. -/
structure Held (C : Client) (m : Address) (e : ConnectionError) (now : Nat)
    (status : Option SessionStatus) : Prop where
  sound : C.Sound
  beating : C.task.InPhase .beating
  ways : C.ways = [.back (.error e)]
  failed : C.traffic.cluster.failed = some m
  now : C.now = now
  status : C.life.state.status = status

/-- The member that carries the `i`-th request, which is a heartbeat. -/
def carrier? (C : Client) (i : Nat) : Option Address :=
  match C.life.calls[i]?, C.ways[i]? with
  | some .keepAlive, some (.away t) => (C.traffic.cluster.stage? t).bind Stage.carrier?
  | _, _ => none

theorem carrier?_eq_some {i : Nat} : C.carrier? i = some m ↔ C.life.calls[i]? = some .keepAlive ∧
    ∃ t k, C.ways[i]? = some (.away t) ∧ C.traffic.cluster.stage? t = some (.sending m k) := by
  unfold carrier?
  constructor
  · intro h
    split at h
    · next t hc hw =>
      obtain ⟨st, hst, hm⟩ := Option.bind_eq_some_iff.1 h
      cases st with
      | sending a k =>
        obtain rfl := Option.some.inj hm
        exact ⟨hc, t, k, hw, hst⟩
      | _ => cases hm
    · cases h
  · rintro ⟨hc, t, k, hw, hst⟩
    rw [hc, hw]
    show (C.traffic.cluster.stage? t).bind _ = _
    rw [hst]
    rfl

variable (strategy) in
/-- A heartbeat that fails marks its member. -/
theorem held_of_fails (h : C.Sound) (hp : C.task.InPhase .beating) (hc : C.carrier? 0 = some m)
    {o : Occurrence} (ho : o.Fails 0) :
    ∃ e, (C.step strategy o).Held m e C.now C.life.state.status := by
  obtain ⟨-, t, k, hway, hst⟩ := carrier?_eq_some.1 hc
  obtain ⟨x, hx, -⟩ := hp.outstanding_of_beating
  have hx : C.life.outstanding = [x] := hx
  have hways : C.ways = [.away t] := by
    obtain ⟨w, hw⟩ := List.length_eq_one_iff.1 (h.ways_length hp)
    rw [hw] at hway ⊢
    exact congrArg (fun w => [w]) (Option.some.inj hway)
  cases ho with
  | answered e he =>
    have hgo : C.step strategy (.answered 0 (.error e)) = C.go 0 (.answered t (.error e)) := by
      simp only [step, goOn, hway]
    have hfree : C.traffic.cluster.turns = [] := by
      refine h.free fun u st hu hst' => ?_
      rw [hways, List.mem_singleton] at hu
      obtain rfl := Way.away.inj hu
      obtain rfl := Option.some.inj (hst.symm.trans hst')
      rfl
    have hdrop := Cluster.answered_of_fails (s := C.traffic.selector) hfree hst (by simpa using he)
    refine ⟨e, step_sound h _, ?_, ?_, ?_, ?_, ?_⟩ <;> rw [hgo]
    · exact ⟨hp.fits, hp.owes⟩
    · show C.ways.set 0 (Move.way t (C.traffic.cluster.answered t _ _).move) = _
      rw [hdrop, hways]
      rfl
    · rw [(go_traffic rfl).1]
      show (C.traffic.cluster.answered t _ _).cluster.failed = _
      rw [hdrop]
      rfl
    · rfl
    · rfl
  | late limit =>
    have hgo : C.step strategy (.late 0 limit) =
        C.giveUp 0 t (lateAnswer x.errand.request limit) := by
      simp only [step, hway, hx, List.getElem?_cons_zero]
    refine ⟨lateAnswer x.errand.request limit, step_sound h _, ?_, ?_, ?_, ?_, ?_⟩ <;> rw [hgo]
    · exact ⟨hp.fits, hp.owes⟩
    · show C.ways.set 0 _ = _
      rw [hways]
      rfl
    · show (C.traffic.cluster.abandon t).1.failed = _
      simp only [Cluster.abandon, hst]
      rfl
    · rfl
    · rfl

/-- **A heartbeat that has failed waits for the task to take it in**, and the clock with it. -/
theorem Held.step (h : C.Held m e now status) {o : Occurrence} (ho : o ≠ .told 0)
    (hc : (C.step strategy o).life.session.closing = false) :
    (C.step strategy o).Held m e now status := by
  have haway : ∀ t, .away t ∉ C.ways := by
    intro t ht
    rw [h.ways, List.mem_singleton] at ht
    cases ht
  have hgo : ∀ i p, (C.goOn i p).Held m e now status :=
    fun i p => (goOn_of_not_away haway).symm ▸ h
  cases o with
  | task happening =>
    have hs := h.sound.task_stays h.beating hc
    exact ⟨step_sound h.sound _, hs.beating, hs.ways.trans h.ways, hs.traffic ▸ h.failed,
      hs.now.trans h.now, hs.status.trans h.status⟩
  | told i =>
    have hi : C.ways[i]? = none := by
      cases hi : C.ways[i]? with
      | none => rfl
      | some w => exact absurd (congrArg Occurrence.told (only_way h.ways hi).1) ho
    rw [show C.step strategy (.told i) = C by simp only [Client.step, hi]]
    exact h
  | launch i =>
    simp only [Client.step]
    split
    · next hi => cases (only_way h.ways hi).2
    · exact h
  | turn i => exact hgo i .turn
  | dialed i accepted => exact hgo i (.dialed · accepted)
  | answered i result => exact hgo i (.answered · result)
  | late i limit =>
    simp only [Client.step]
    split
    · next hi _ => cases (only_way h.ways hi).2
    · exact h
  | select o =>
    exact ⟨step_sound h.sound (.select o), ⟨h.beating.fits, h.beating.owes⟩, h.ways, h.failed, h.now,
      h.status⟩
  | pass millis =>
    have hbusy : C.idle = false := by simp [idle, h.ways]
    rw [show C.step strategy (.pass millis) = C by simp [Client.step, hbusy]]
    exact h

theorem Held.run (h : C.Held m e now status) {os : List Occurrence} (ho : .told 0 ∉ os)
    (hc : (C.run strategy os).life.session.closing = false) :
    (C.run strategy os).Held m e now status := by
  induction os generalizing C with
  | nil => exact h
  | cons o rest ih =>
    have hne : o ≠ .told 0 := fun he => ho (he ▸ List.mem_cons_self)
    exact ih (h.step hne (closing_of_run hc)) (fun hm => ho (List.mem_cons_of_mem _ hm)) hc

/-! ## The heartbeat that follows -/

/-- How far a heartbeat has come that was sent at `now`: it waits, and `m` is marked; or it waits
    on one of the other `members`; or it has been answered. -/
inductive Retries (C : Client) (m : Address) (members : List Address) (now : Nat) : Prop
  | waiting : C.ways = [.waiting] → C.traffic.cluster.failed = some m → C.now = now →
      Retries C m members now
  | away {t : Token} {a : Address} : C.ways = [.away t] → C.traffic.waitsOn t = some a → a ≠ m →
      a ∈ members → Retries C m members now
  | back (r : Response) : C.ways = [.back (.ok r)] → Retries C m members now

/-- After a heartbeat that `m` carried has failed, the task has sent another, and knows no leader. -/
structure Resent (C : Client) (m : Address) (members : List Address) (now : Nat) : Prop where
  sound : C.Sound
  beating : C.task.InPhase .beating
  status : C.life.state.status = some .opened
  leader : C.traffic.selector.leader = none
  servers : C.traffic.selector.servers = members
  retries : C.Retries m members now

variable (strategy) in
/-- The task takes in the result of the heartbeat that was on its way; what is outstanding then has
    been sent now. -/
theorem told_handles (hp : C.task.InPhase .beating) {result : Except ConnectionError Response}
    (hw : C.ways = [.back result]) (hs : C.life.stopped = false) :
    C.step strategy (.told 0) = C.act strategy (.outcome 0 result) [] ∧
      C.task.Handles strategy (C.task.step strategy (.outcome 0 result))
        (.event (.keptAlive (result.bind Response.toKeepAlive))) ∧
      (C.task.step strategy (.outcome 0 result)).sent =
        C.life.sent ++ (C.task.step strategy (.outcome 0 result)).outstanding := by
  obtain ⟨x, hx, hm⟩ := hp.outstanding_of_beating
  obtain ⟨r, hr⟩ : ∃ r, x.errand = .keepAlive r := by
    cases he : x.errand with
    | keepAlive r => exact ⟨r, rfl⟩
    | _ => rw [Sent.method, he] at hm; cases hm
  have hstopped : C.task.stopped = false := hs
  have hinput : C.task.input? (.outcome 0 result) =
      some (.event (.keptAlive (result.bind Response.toKeepAlive))) := by
    simp only [Life.input?, hstopped, hx, List.getElem?_cons_zero, Option.map_some, hr]
    rfl
  refine ⟨?_, ?_, ?_⟩
  · simp only [step, hw, hs]
    rfl
  · obtain ⟨i, hi, hh⟩ | ⟨hn, -⟩ := C.task.step_input strategy (.outcome 0 result)
    · obtain rfl := Option.some.inj (hinput.symm.trans hi)
      exact hh
    · cases hinput.symm.trans hn
  · have htaken : C.task.happen strategy (.outcome 0 result) =
        { C.task with outstanding := [] }.take strategy (.event (x.errand.outcome result)) := by
      simp only [Life.happen, hstopped, Life.takeOutcome, hx]
      rfl
    show (C.task.happen strategy _).sent = _ ++ (C.task.happen strategy _).outstanding
    rw [htaken]
    rfl

variable (strategy) in
/-- **The task forgets the leader, and sends the next heartbeat at once.** -/
theorem Held.told (h : C.Held m e now (some .opened)) (hc : C.life.session.closing = false)
    (hs : C.life.stopped = false) (hl : C.traffic.selector.leader.isSome = true) :
    (C.step strategy (.told 0)).Resent m C.traffic.selector.servers now ∧
      (C.step strategy (.told 0)).ways = [.waiting] ∧
      ∃ x, (C.step strategy (.told 0)).life.outstanding = [x] ∧ x.method = .keepAlive ∧
        (C.step strategy (.told 0)).life.sent = C.life.sent ++ [x] := by
  obtain ⟨hstep, hh, hsent⟩ := told_handles strategy h.beating h.ways hs
  have hturn : C.task.turn.handle strategy
      (.event (.keptAlive ((Except.error e).bind Response.toKeepAlive))) =
        C.task.turn.forgetLeader.keepAlive := by
    have hclosing : C.task.turn.session.closing = false := hc
    have hlive : C.task.turn.state.isLive = true := h.beating.fits.isLive.2 rfl
    have hleader : C.task.turn.selector.leader.isSome = true := hl
    show C.task.turn.onKeptAlive (.error e) = _
    simp only [Turn.onKeptAlive, hclosing, hlive]
    show C.task.turn.onHeartbeatFailed = _
    rw [Turn.onHeartbeatFailed, if_pos hleader]
  obtain ⟨-, q, -, hq⟩ := hh.next h.beating
  have hcalls : .keepAlive ∈ (C.task.step strategy (.outcome 0 (.error e))).calls := by
    obtain ⟨rest, -, hcalls⟩ := hh.calls
    rw [hcalls, hturn, Turn.keepAlive_calls (h.beating.fits.numbered rfl)]
    simp
  have hclosing : (C.task.step strategy (.outcome 0 (.error e))).session.closing = false := by
    rw [hh.session, hturn, Turn.keepAlive_session]
    exact hc
  obtain rfl := hq.eq_beating hclosing hcalls
  have hselector : (C.task.step strategy (.outcome 0 (.error e))).selector =
      C.traffic.selector.clearLeader := by
    rw [hh.selector, hturn, Turn.keepAlive_selector]
    rfl
  obtain ⟨y, hy, hym⟩ := hq.outstanding_of_beating
  have hways : (C.step strategy (.told 0)).ways = [.waiting] := by
    rw [hstep]
    show [] ++ List.replicate ((C.task.step strategy _).outstanding.length - 0) Way.waiting = _
    rw [hy]
    rfl
  refine ⟨⟨step_sound h.sound _, ?_, ?_, ?_, ?_, .waiting hways ?_ ?_⟩, hways, y, ?_, hym, ?_⟩ <;>
    rw [hstep]
  · exact ⟨hq.fits, hq.owes⟩
  · show (C.task.step strategy _).state.status = _
    rw [hh.state, hturn, Turn.keepAlive_state]
    exact h.status
  · exact congrArg Selector.leader hselector
  · exact (congrArg Selector.servers hselector).trans rfl
  · exact h.failed
  · exact h.now
  · exact hy
  · exact hy ▸ hsent

/-! ## Its way to another member -/

/-- The send of the only request waits on a member. -/
theorem go_waitsOn {p : Passage} {w : Way} {a : Address} (hw : C.ways = [w])
    (hp : C.traffic.allows p = true)
    (ha : ((C.traffic.cluster.handle C.traffic.selector p).cluster.stage? p.token).bind
      Stage.member? = some a) :
    (C.go 0 p).ways = [.away p.token] ∧ (C.go 0 p).traffic.waitsOn p.token = some a := by
  obtain ⟨st, hst, -⟩ := Option.bind_eq_some_iff.1 ha
  constructor
  · show C.ways.set 0 _ = _
    rw [way_of_stage hst, hw]
    rfl
  · show ((C.go 0 p).traffic.cluster.stage? p.token).bind Stage.member? = _
    rw [(go_traffic hp).1]
    exact ha

section
variable {members : List Address}

/-- What stays when something happens to the send. -/
theorem Resent.of_go (h : C.Resent m members now) {p : Passage} (hp : C.traffic.allows p = true)
    (hs : (C.go 0 p).Sound) (hr : (C.go 0 p).Retries m members now) :
    (C.go 0 p).Resent m members now := by
  obtain ⟨position, hsel⟩ := C.traffic.cluster.handle_selector C.traffic.selector p
  replace hsel := (go_traffic (i := 0) hp).2.trans hsel
  exact
    { sound := hs
      beating := ⟨h.beating.fits, h.beating.owes⟩
      status := h.status
      leader := (congrArg Selector.leader hsel).trans h.leader
      servers := (congrArg Selector.servers hsel).trans h.servers
      retries := hr }

/-- **It is sent to another member**, whether that one is linked or has to be dialed. -/
theorem Resent.launched (h : C.Resent m members now) (ho : ∃ b ∈ members, b ≠ m)
    (hw : C.ways = [.waiting]) (hf : C.traffic.cluster.failed = some m) :
    (C.go 0 (.start C.traffic.begun)).Resent m members now ∧
      ∃ t a, (C.go 0 (.start C.traffic.begun)).ways = [.away t] ∧
        (C.go 0 (.start C.traffic.begun)).traffic.waitsOn t = some a ∧ a ≠ m ∧ a ∈ members := by
  have hp : C.traffic.allows (.start C.traffic.begun) = true := by simp [Traffic.allows]
  have hfree : C.traffic.cluster.turns = [] := by
    refine h.sound.free fun t st ht => ?_
    rw [hw, List.mem_singleton] at ht
    cases ht
  have hcandidates : C.traffic.selector.candidates = members :=
    (h.sound.traffic.selector.candidates_of_leaderless h.leader).trans h.servers
  obtain ⟨a, ha, hne, hmem⟩ := Cluster.start_avoids (t := C.traffic.begun) hfree hf
    h.sound.traffic.tidy.current h.sound.traffic.selector.candidates_nodup (hcandidates ▸ ho)
  rw [hcandidates] at hmem
  obtain ⟨haway, hwaits⟩ := go_waitsOn hw hp ha
  exact ⟨h.of_go hp (go_sound h.sound hp (.inr (by rw [hw]; rfl))) (.away haway hwaits hne hmem),
    _, a, haway, hwaits, hne, hmem⟩

/-- **The heartbeat that follows goes to another member**, and nowhere else, as long as members
    accept connections and answer. -/
theorem Resent.step (h : C.Resent m members now) (ho : ∃ b ∈ members, b ≠ m) {o : Occurrence}
    (hcalm : o.calm = true) (hc : (C.step strategy o).life.session.closing = false) :
    (C.step strategy o).Resent m members now := by
  have hgo : ∀ i (p : Token → Passage), (∀ t, C.traffic.allows (p t) = true ∧ (p t).token = t) →
      (∀ t a, C.ways = [.away t] → C.traffic.waitsOn t = some a → a ≠ m → a ∈ members →
        (C.go 0 (p t)).Retries m members now) → (C.goOn i p).Resent m members now := by
    intro i p hp hr
    have hs := goOn_sound h.sound i (fun t => (hp t).2) fun t => (hp t).1
    cases h.retries with
    | away hw ha hne hmem =>
      unfold goOn at hs ⊢
      split at hs
      · next t hi =>
        obtain ⟨rfl, ht⟩ := only_way hw hi
        obtain rfl := Way.away.inj ht
        exact h.of_go (hp _).1 hs (hr _ _ hw ha hne hmem)
      · exact h
    | waiting hw | back r hw =>
      rw [goOn_of_not_away fun t ht => by rw [hw, List.mem_singleton] at ht; cases ht]
      exact h
  cases o with
  | task e =>
    have hs := h.sound.task_stays h.beating hc
    refine ⟨step_sound h.sound _, hs.beating, hs.status.trans h.status, hs.traffic ▸ h.leader,
      hs.traffic ▸ h.servers, ?_⟩
    cases h.retries with
    | waiting hw hf hn => exact .waiting (hs.ways.trans hw) (hs.traffic ▸ hf) (hs.now.trans hn)
    | away hw ha hne hmem => exact .away (hs.ways.trans hw) (hs.traffic ▸ ha) hne hmem
    | back r hw => exact .back r (hs.ways.trans hw)
  | launch i =>
    simp only [Client.step]
    split
    · next hi =>
      cases h.retries with
      | waiting hw hf hn =>
        obtain ⟨rfl, -⟩ := only_way hw hi
        exact (h.launched ho hw hf).1
      | away hw => cases (only_way hw hi).2
      | back r hw => cases (only_way hw hi).2
    · exact h
  | turn i =>
    refine hgo i .turn (fun t => ⟨rfl, rfl⟩) fun t a hw ha hne hmem => ?_
    obtain ⟨haway, hwaits⟩ := go_waitsOn (p := .turn t) hw rfl (Cluster.turn_member? ha)
    exact .away haway hwaits hne hmem
  | dialed i accepted =>
    obtain rfl : accepted = true := hcalm
    refine hgo i (.dialed · true) (fun t => ⟨rfl, rfl⟩) fun t a hw ha hne hmem => ?_
    obtain ⟨k, hk⟩ := Cluster.dialed_stage? (s := C.traffic.selector) ha
    obtain ⟨haway, hwaits⟩ :=
      go_waitsOn (p := .dialed t true) hw rfl (congrArg (·.bind Stage.member?) hk)
    exact .away haway hwaits hne hmem
  | answered i result =>
    obtain ⟨r, rfl⟩ : ∃ r, result = .ok r := by
      cases result with
      | ok r => exact ⟨r, rfl⟩
      | error e => cases hcalm
    refine hgo i (.answered · (.ok r)) (fun t => ⟨rfl, rfl⟩) fun t a hw ha hne hmem => ?_
    rcases Cluster.answered_member? (s := C.traffic.selector) r ha with hm | hstays
    · refine .back r ?_
      show C.ways.set 0 (Move.way t (C.traffic.cluster.answered t _ _).move) = _
      rw [hm, hw]
      rfl
    · obtain ⟨haway, hwaits⟩ := go_waitsOn (p := .answered t (.ok r)) hw rfl hstays
      exact .away haway hwaits hne hmem
  | pass millis =>
    simp only [Client.step]
    split
    · next hidle =>
      refine ⟨⟨h.sound.traffic, h.sound.phase, h.sound.length, h.sound.owned⟩,
        ⟨h.beating.fits, h.beating.owes⟩, h.status, h.leader, h.servers, ?_⟩
      cases h.retries with
      | waiting hw => simp [idle, hw] at hidle
      | away hw ha hne hmem => exact .away hw ha hne hmem
      | back r hw => simp [idle, hw] at hidle
    · exact h
  | told i => cases hcalm
  | late i limit => cases hcalm
  | select o => cases hcalm

theorem Resent.run (h : C.Resent m members now) (ho : ∃ b ∈ members, b ≠ m)
    {os : List Occurrence} (hcalm : ∀ o ∈ os, o.calm = true)
    (hc : (C.run strategy os).life.session.closing = false) :
    (C.run strategy os).Resent m members now := by
  induction os generalizing C with
  | nil => exact h
  | cons o rest ih =>
    refine ih (h.step ho (hcalm o List.mem_cons_self) (closing_of_run hc)) ?_ hc
    exact fun o' ho' => hcalm o' (List.mem_cons_of_mem _ ho')

/-- While it waits, the member is marked, and the clock stands still. -/
theorem Resent.of_waiting (h : C.Resent m members now) (hw : C.ways = [.waiting]) :
    C.traffic.cluster.failed = some m ∧ C.now = now := by
  cases h.retries with
  | waiting _ hf hn => exact ⟨hf, hn⟩
  | away hw' => cases hw.symm.trans hw'
  | back r hw' => cases hw.symm.trans hw'

/-- The member that carries it is another. -/
theorem Resent.carries (h : C.Resent m members now) {b : Address} (hb : C.carrier? 0 = some b) :
    b ≠ m ∧ b ∈ members := by
  obtain ⟨-, t, k, hway, hst⟩ := carrier?_eq_some.1 hb
  cases h.retries with
  | away hw ha hne hmem =>
    cases (only_way hw hway).2
    have hb : C.traffic.waitsOn t = some b := by
      unfold Traffic.waitsOn
      rw [hst]
      rfl
    obtain rfl := Option.some.inj (ha.symm.trans hb)
    exact ⟨hne, hmem⟩
  | waiting hw => cases (only_way hw hway).2
  | back r hw => cases (only_way hw hway).2

/-- A member carries it as soon as it is sent and the connection is accepted. -/
theorem Resent.reaches (h : C.Resent m members now) (ho : ∃ b ∈ members, b ≠ m)
    (hw : C.ways = [.waiting]) :
    ∃ b ∈ members, b ≠ m ∧ (C.run strategy [.launch 0, .dialed 0 true]).carrier? 0 = some b := by
  have hlaunch : C.step strategy (.launch 0) = C.go 0 (.start C.traffic.begun) := by
    simp only [Client.step, hw]
    rfl
  obtain ⟨h', t, a, haway, hwaits, hne, hmem⟩ := h.launched ho hw (h.of_waiting hw).1
  have hrun : C.run strategy [.launch 0, .dialed 0 true] =
      (C.go 0 (.start C.traffic.begun)).go 0 (.dialed t true) := by
    show (C.step strategy (.launch 0)).step strategy (.dialed 0 true) = _
    rw [hlaunch]
    simp only [Client.step, goOn, haway]
    rfl
  rw [hrun]
  generalize C.go 0 (.start C.traffic.begun) = C' at h' haway hwaits
  obtain ⟨k, hk⟩ := Cluster.dialed_stage? (s := C'.traffic.selector) hwaits
  obtain ⟨x, hx, hm⟩ := h'.beating.outstanding_of_beating
  refine ⟨a, hmem, hne, carrier?_eq_some.2 ⟨?_, t, k, ?_, ?_⟩⟩
  · show (C'.task.outstanding.map Sent.method)[0]? = _
    rw [hx, ← hm]
    rfl
  · rw [(go_waitsOn (p := .dialed t true) haway rfl (congrArg (·.bind Stage.member?) hk)).1]
    rfl
  · rw [(go_traffic rfl).1]
    exact hk

/-- An answer that is in order leaves the session open. -/
theorem Resent.renewed (h : C.Resent m members now) {r : KeepAliveResponse}
    (hw : C.ways = [.back (.ok (.keepAlive r))]) (hr : r.isOk = true) :
    (C.step strategy (.told 0)).life.state.status = some .opened := by
  cases hs : C.life.stopped with
  | true =>
    have hstep : C.step strategy (.told 0) = C := by
      simp only [Client.step, hw, hs]
      rfl
    rw [hstep]
    exact h.status
  | false =>
    obtain ⟨hstep, hh, -⟩ := told_handles strategy h.beating hw hs
    have hturn : C.task.turn.handle strategy (.event (.keptAlive
        ((Except.ok (Response.keepAlive r)).bind Response.toKeepAlive))) =
          C.task.turn.onRenewed r := by
      have hclosing : C.task.turn.session.closing = false := h.beating.fits.closing
      have hlive : C.task.turn.state.isLive = true := h.beating.fits.isLive.2 rfl
      show C.task.turn.onKeptAlive (.ok r) = _
      simp only [Turn.onKeptAlive, hclosing, hlive, Outcome.of, Except.map, hr]
      rfl
    have hstatus : C.task.turn.state.status = some .opened := h.status
    rw [hstep]
    show (C.task.step strategy _).state.status = _
    rw [hh.state, hturn]
    simp [Turn.onRenewed, Turn.scheduleKeepAlive, SessionState.moveTo, hstatus,
      SessionStatus.mayFollow, SessionStatus.canBecome]

end

/-- **Failover leaves the failed member.**  Take any client at any time, its session open, and let a
    heartbeat that `m` carries fail with a connection error or a timeout, or be given up.  Until the
    task takes that in, the session stays open.  If then a leader is known, the end has not been
    asked for, and there is another member, the leader is forgotten, the members stay, and the next
    heartbeat is sent at the same instant.  From then on, as long as members accept connections and
    answer, and the selector is left alone, the session stays open; the clock stands still until the
    heartbeat is sent; another member carries it; and if that one renews the session, the session is
    open still. -/
theorem failover_leaves_failed (strategy : Strategy) (clientId : String)
    (selection : SelectionStrategy) (servers : List Address) (os : List Occurrence) (i : Nat)
    (m : Address) (fail : Occurrence) (mid after : List Occurrence) :
    let C := (initial clientId selection servers).run strategy os
    let C₁ := (C.step strategy fail).run strategy mid
    let C₂ := C₁.step strategy (.told i)
    let C₃ := C₂.run strategy after
    let members := C₁.traffic.selector.servers
    C.carrier? i = some m → fail.Fails i → .told i ∉ mid → C.life.state.status = some .opened →
    C₁.life.session.closing = false → C₁.life.stopped = false →
    C₁.traffic.selector.leader.isSome = true → (∃ b ∈ members, b ≠ m) →
    ((∀ os', os' <+: mid →
        ((C.step strategy fail).run strategy os').life.state.status = some .opened) ∧
      C₂.traffic.selector.leader = none ∧ C₂.traffic.selector.servers = members ∧
      (∃ x, x.method = .keepAlive ∧ C₂.life.sent = C₁.life.sent ++ [x] ∧
        C₂.life.outstanding = [x] ∧ C₂.ways = [.waiting]) ∧
      C₂.now = C.now) ∧
    ((∀ o ∈ after, o.calm = true) → C₃.life.session.closing = false →
      C₃.life.state.status = some .opened ∧
      (C₃.ways = [.waiting] → C₃.now = C.now ∧ ∃ b ∈ members, b ≠ m ∧
        (C₃.run strategy [.launch 0, .dialed 0 true]).carrier? 0 = some b) ∧
      (∀ b, C₃.carrier? 0 = some b → b ≠ m ∧ b ∈ members) ∧
      ∀ r, C₃.ways = [.back (.ok (.keepAlive r))] → r.isOk = true →
        (C₃.step strategy (.told 0)).life.state.status = some .opened) := by
  intro C C₁ C₂ C₃ members hcarries hfails hmid hopened hclosing hstopped hleader hothers
  have hsound : C.Sound := run_sound (initial_sound clientId selection servers) os
  -- the heartbeat is the only request
  obtain ⟨hbeating, rfl⟩ : C.task.InPhase .beating ∧ i = 0 := by
    obtain ⟨p, hp⟩ := hsound.phase
    obtain ⟨hi, -⟩ := carrier?_eq_some.1 hcarries
    have hc : C.life.session.closing = false := closing_of_step (closing_of_run hclosing)
    obtain rfl := hp.eq_beating hc (List.mem_of_getElem? hi)
    obtain ⟨y, hy, -⟩ := hp.outstanding_of_beating
    refine ⟨hp, ?_⟩
    have hlt := (List.getElem?_eq_some_iff.1 hi).1
    have hlen : C.life.calls.length = 1 := congrArg (List.length ∘ List.map Sent.method) hy
    omega
  obtain ⟨e, hheld⟩ := held_of_fails strategy hsound hbeating hcarries hfails
  rw [hopened] at hheld
  have hheld₁ : C₁.Held m e C.now (some .opened) := hheld.run hmid hclosing
  obtain ⟨hresent, hways, x, hx, hm, hsent⟩ := hheld₁.told strategy hclosing hstopped hleader
  refine ⟨⟨?_, hresent.leader, hresent.servers, ⟨x, hm, hsent, hx, hways⟩, ?_⟩,
    fun hcalm hclosing₃ => ?_⟩
  · rintro os' ⟨rest, rfl⟩
    have hrun : C₁ = ((C.step strategy fail).run strategy os').run strategy rest := run_append _ _ _
    refine (hheld.run (fun h => hmid (List.mem_append_left _ h)) ?_).status
    exact closing_of_run (hrun ▸ hclosing)
  · exact (hresent.of_waiting hways).2
  · have hresent₃ : C₃.Resent m members C.now := hresent.run hothers hcalm hclosing₃
    exact ⟨hresent₃.status,
      fun hw => ⟨(hresent₃.of_waiting hw).2, hresent₃.reaches hothers hw⟩,
      fun b => hresent₃.carries, fun r => hresent₃.renewed⟩

/-- A session over two members is registered, with `a` for a leader, and a heartbeat is sent. -/
def firstBeat : List Occurrence :=
  [.task .opening, .task .command, .launch 0, .dialed 0 true,
    .answered 0 (.ok (.register
      (.accept 7 1000 (some ⟨"a", 5000⟩) [⟨"a", 5000⟩, ⟨"b", 5000⟩]))), .told 0,
    .pass 500, .task (.timer 0), .launch 0]

/-- The leader does not answer in time; the other member carries the heartbeat that follows, and
    renews the session. -/
theorem failover_leaves_failed_leader :
    let strategy := StrategyConfig.once.strategy
    let C := (initial "c" .any [⟨"a", 5000⟩, ⟨"b", 5000⟩]).run strategy firstBeat
    let C₁ := (C.step strategy (.late 0 (.ofMillis 200))).run strategy [.task .nextCommand]
    let C₂ := C₁.step strategy (.told 0)
    let resend := [.launch 0, .dialed 0 true]
    let renew := [.answered 0 (.ok (.keepAlive (.accept (some ⟨"b", 5000⟩) [])))]
    let C₃ := C₂.run strategy resend
    let C₄ := C₂.run strategy (resend ++ renew)
    C.carrier? 0 = some ⟨"a", 5000⟩ ∧ C.life.state.status = some .opened ∧
      C₁.life.session.closing = false ∧ C₁.life.stopped = false ∧
      C₁.traffic.selector.leader.isSome = true ∧
      C₂.traffic.selector.leader = none ∧ C₂.now = C.now ∧
      C₃.carrier? 0 = some ⟨"b", 5000⟩ ∧ (⟨"b", 5000⟩ : Address) ∈ C₁.traffic.selector.servers ∧
      (C₄.step strategy (.told 0)).life.state.status = some .opened := by
  intro strategy C C₁ C₂ resend renew C₃ C₄
  have hcarries : C.carrier? 0 = some ⟨"a", 5000⟩ := by decide +kernel
  have hcarries₃ : C₃.carrier? 0 = some ⟨"b", 5000⟩ := by decide +kernel
  have hfailover := fun after => failover_leaves_failed strategy "c" .any _ firstBeat 0 _
    (.late 0 (.ofMillis 200)) [.task .nextCommand] after hcarries (.late _) (by simp)
    (by decide +kernel) (by decide +kernel) (by decide +kernel) (by decide +kernel)
    ⟨⟨"b", 5000⟩, by decide +kernel⟩
  obtain ⟨⟨-, hleader, -, -, hnow⟩, hresend⟩ := hfailover resend
  replace hresend := hresend (by decide) (by decide +kernel)
  have hrenew := (hfailover (resend ++ renew)).2 (by decide) (by decide +kernel)
  have hback : C₄.ways = [.back (.ok (.keepAlive (.accept (some ⟨"b", 5000⟩) [])))] := by
    decide +kernel
  refine ⟨hcarries, by decide +kernel, by decide +kernel, by decide +kernel, by decide +kernel, ?_⟩
  -- the rest is read off as it stands, for nothing of the run is to be computed again
  with_reducible exact ⟨hleader, hnow, hcarries₃, (hresend.2.2.1 _ hcarries₃).2,
    hrenew.2.2.2 _ hback rfl⟩

end

end Client

end ClusterSession
