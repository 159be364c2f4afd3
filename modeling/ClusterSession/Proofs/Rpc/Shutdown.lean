/-
  ClusterSession: the end of a connection.

  The peer's messages end, by a hang-up or by a fault.  What had arrived is dispatched,
  then the connection is marked as closed, and then nobody waits any more.

  * `step_winds`: on a closed connection no send starts, and none is set back;
    `Line.Within`: how far a send is from its end.
  * `none_left`, `closed_of_turns`: sends end and the end is noticed when all that are to
    take a turn have taken it.
  * `shuts_down`: what follows for every run.
  * `due_result_lost`: what a send is due can be lost, to the fault of its own write or to
    another send that gets its number.
-/
import ClusterSession.Proofs.Rpc.Deliveries
import ClusterSession.Proofs.Rpc.Laps

namespace ClusterSession

namespace Line

/-! ## Turns -/

/-- The turns that are left, the last one first in count. -/
def turns (turn : Nat → Incident) : Nat → List Incident
  | 0 => []
  | n + 1 => turn n :: turns turn n

/-- What nothing sets back, and every turn furthers, is done when all turns have come. -/
theorem done_of_turns {P : Nat → Line → Prop} {turn : Nat → Incident}
    (hkeep : ∀ n l i, P n l → P n (l.step i)) (hturn : ∀ n l, P (n + 1) l → P n (l.step (turn n)))
    {n : Nat} {l : Line} (h : P n l) {more : List Incident} (hm : (turns turn n).Sublist more) :
    P 0 (more.foldl step l) := by
  induction more generalizing n l with
  | nil =>
    cases n with
    | zero => exact h
    | succ n => cases hm
  | cons i rest ih =>
    rw [List.foldl_cons]
    rcases List.sublist_cons_iff.1 hm with hm | ⟨r, hr, hm⟩
    · exact ih (hkeep n l i h) hm
    · cases n with
      | zero => cases hr
      | succ n =>
        obtain ⟨rfl, rfl⟩ := List.cons.inj hr
        exact ih (hturn n l h) hm

/-! ## Closed connections -/

/-- What a step leaves of a closed connection. -/
structure Winds (l l' : Line) : Prop where
  closed : l'.rpc.closed = true
  frames : ∀ t, l.frames.lookup t = none → l'.frames.lookup t = none
  sends : ∀ q ∈ l'.rpc.sends,
    ∃ p ∈ l.rpc.sends, p.token = q.token ∧ (p.written = true → q.written = true)

theorem lookup_filter_eq_none {frames : List (Token × RequestFrame)} {t : Token}
    (h : frames.lookup t = none) (q : Token × RequestFrame → Bool) :
    (frames.filter q).lookup t = none := by
  rw [List.lookup_eq_none_iff] at h ⊢
  exact fun x hx => h x (List.mem_of_mem_filter hx)

section
variable {l : Line}

theorem Winds.refl (hc : l.rpc.closed = true) : Winds l l :=
  ⟨hc, fun _ h => h, fun p hp => ⟨p, hp, rfl, id⟩⟩

/-- A send is over. -/
theorem Winds.finish (hc : l.rpc.closed = true) (p : Pending) (q : Token × RequestFrame → Bool)
    (log : List Entry) :
    Winds l { l with rpc := l.rpc.finish p, frames := l.frames.filter q, log } := by
  refine ⟨(finish_closed _ _).trans hc, fun t h => lookup_filter_eq_none h q, fun r hr => ?_⟩
  obtain ⟨r', hr', ht, hw, -⟩ := Rpc.mem_of_mem_finish hr
  exact ⟨r', hr', ht, fun h => hw ▸ h⟩

/-- **On a closed connection no send starts, and none is set back.** -/
theorem step_winds (hc : l.rpc.closed = true) (i : Incident) : Winds l (l.step i) := by
  have hfin : ∀ p log, Winds l { l with rpc := l.rpc.finish p, log } := fun p log => by
    have h := Winds.finish hc p (fun _ => true) log
    rwa [List.filter_eq_self.2 fun _ _ => rfl] at h
  cases i with
  | send r =>
    simp only [step, Line.send, Rpc.start, hc, if_true]
    exact ⟨hc, fun _ h => h, fun p hp => ⟨p, hp, rfl, id⟩⟩
  | hand t =>
    simp only [step, Line.hand]
    split
    · exact ⟨hc, fun _ h => lookup_filter_eq_none h _, fun p hp => ⟨p, hp, rfl, id⟩⟩
    · exact .refl hc
  | wrote t outcome =>
    simp only [step, Line.wrote]
    split
    · next _ _ p hp _ =>
      split
      · exact .refl hc
      · cases outcome with
        | ok _ =>
          refine ⟨hc, fun _ h => h, fun q hq => ?_⟩
          replace hq : q ∈ (l.rpc.noteWritten t).sends := hq
          rw [Rpc.noteWritten_sends] at hq
          obtain ⟨p, hp, rfl⟩ := List.mem_map.1 hq
          refine ⟨p, hp, ?_⟩
          split
          · exact ⟨rfl, fun _ => rfl⟩
          · exact ⟨rfl, id⟩
        | error e =>
          simp only [Rpc.written, hp]
          exact hfin p _
    · exact .refl hc
  | resume t =>
    simp only [step, Rpc.resume]
    split
    · next p _ =>
      split
      · exact hfin p _
      · exact .refl hc
    · exact .refl hc
  | abandon t =>
    simp only [step, Line.abandon]
    split
    · next p hp =>
      rw [Rpc.abandon, hp]
      exact Winds.finish hc p _ _
    · exact .refl hc
  | arrive v =>
    simp only [step]
    split
    · exact .refl hc
    · exact ⟨hc, fun _ h => h, fun p hp => ⟨p, hp, rfl, id⟩⟩
  | hangUp => exact ⟨hc, fun _ h => h, fun p hp => ⟨p, hp, rfl, id⟩⟩
  | run => exact ⟨hc, fun _ h => h, fun p hp => ⟨p, hp, rfl, id⟩⟩
  | dispatch =>
    simp only [step, Line.dispatch, hc, Bool.not_true, Bool.and_false]
    exact .refl hc
  | close =>
    simp only [step, Line.close, hc, Bool.not_true, Bool.and_false, Bool.false_eq_true, if_false]
    exact .refl hc

/-- On a closed connection no send starts, whatever happens. -/
theorem foldl_winds (hc : l.rpc.closed = true) (more : List Incident) :
    Winds l (more.foldl step l) := by
  induction more using List.reverseRecOn with
  | nil => exact .refl hc
  | append_singleton more i ih =>
    rw [List.foldl_concat]
    have hw := step_winds ih.closed i
    refine ⟨hw.closed, fun t h => hw.frames t (ih.frames t h), fun q hq => ?_⟩
    obtain ⟨r, hr, htr, hwr⟩ := hw.sends q hq
    obtain ⟨p, hp, htp, hwp⟩ := ih.sends r hr
    exact ⟨p, hp, htp.trans htr, hwr ∘ hwp⟩

/-- The transport has the frame of the send, if it did not have it before. -/
theorem hand_eq (l : Line) (t : Token) : ∃ frames es,
    l.hand t = { l with frames, log := l.log ++ es } ∧ frames.lookup t = none ∧
      ∀ e ∈ es, ∃ frame, e = .handed t frame := by
  unfold Line.hand
  split
  · next frame _ =>
    refine ⟨_, [.handed t frame], rfl, ?_, by simp⟩
    rw [List.lookup_eq_none_iff]
    intro x hx
    have hne : x.1 ≠ t := of_decide_eq_true (List.mem_filter.1 hx).2
    simpa using hne.symm
  · next hn => exact ⟨l.frames, [], by rw [List.append_nil], hn, nofun⟩

/-- How far a send that has been told its result is from its end: it still has to look for its
    result, before that its frame has to be written, and before that handed over. -/
def Within (l : Line) (t : Token) : Nat → Prop
  | 0 => ∀ p ∈ l.rpc.sends, p.token ≠ t
  | 1 => ∀ p ∈ l.rpc.sends, p.token = t → p.written = true
  | 2 => ∀ p ∈ l.rpc.sends, p.token = t → p.written = true ∨ l.frames.lookup t = none
  | _ => True

/-- The turns of a send: the transport is given its frame and is done with it, and the send looks
    for its result. -/
def sendTurn (t : Token) (outcome : Except ConnectionError Unit) : Nat → Incident
  | 0 => .resume t
  | 1 => .wrote t outcome
  | _ => .hand t

/-- Number of turns that a send needs. -/
def turnsLeft (l : Line) (p : Pending) : Nat :=
  if p.written then 1 else if (l.frames.lookup p.token).isNone then 2 else 3

theorem Winds.within {l' : Line} (hw : Winds l l') {t : Token} {n : Nat} (h : Within l t n) :
    Within l' t n := by
  match n with
  | 0 =>
    intro q hq ht
    obtain ⟨p, hp, he, -⟩ := hw.sends q hq
    exact h p hp (he.trans ht)
  | 1 =>
    intro q hq ht
    obtain ⟨p, hp, he, hwritten⟩ := hw.sends q hq
    exact hwritten (h p hp (he.trans ht))
  | 2 =>
    intro q hq ht
    obtain ⟨p, hp, he, hwritten⟩ := hw.sends q hq
    exact (h p hp (he.trans ht)).imp hwritten (hw.frames t)
  | n + 3 => exact trivial

/-- Nobody waits on a closed connection. -/
theorem Heard.told_of_closed (h : l.Heard) (hc : l.rpc.closed = true) {p : Pending}
    (hp : p ∈ l.rpc.sends) : ∃ result, p.told = some result := by
  cases hn : p.told with
  | some result => exact ⟨result, rfl⟩
  | none =>
    have hm := (h.kept.waiting p.id p.token).2 ⟨p, hp, rfl, rfl, hn⟩
    rw [h.quiet hc] at hm
    cases hm

/-- Every turn furthers the send. -/
theorem within_turn (h : l.Heard) (hc : l.rpc.closed = true) {t : Token}
    (outcome : Except ConnectionError Unit) {n : Nat} (hw : Within l t (n + 1)) :
    Within (l.step (sendTurn t outcome n)) t n := by
  obtain _ | _ | _ | n := n
  -- the send looks for its result
  · intro q hq ht
    simp only [sendTurn, step] at hq
    cases hs : l.rpc.send? t with
    | none =>
      rw [Rpc.resume, hs] at hq
      exact absurd (h.send?_eq hq) (by rw [ht, hs]; rintro ⟨⟩)
    | some p =>
      obtain ⟨hp, rfl⟩ := Rpc.mem_of_send? hs
      obtain ⟨result, hr⟩ := h.told_of_closed hc hp
      rw [Rpc.resume, hs] at hq
      simp only [hw p hp rfl, hr] at hq
      obtain ⟨-, -, -, -, hne⟩ := Rpc.mem_of_mem_finish hq
      exact hne ht
  -- the transport is done with its frame
  · intro q hq ht
    simp only [sendTurn, step, Line.wrote] at hq
    split at hq
    · next _ _ p hs hf =>
      obtain ⟨hp, rfl⟩ := Rpc.mem_of_send? hs
      split at hq
      · next hwritten =>
        rwa [List.inj_on_of_nodup_map h.kept.tokens hq hp ht]
      · cases outcome with
        | ok _ =>
          replace hq : q ∈ (l.rpc.noteWritten p.token).sends := hq
          rw [Rpc.noteWritten_sends] at hq
          obtain ⟨r, hr, rfl⟩ := List.mem_map.1 hq
          split
          · rfl
          · next hne =>
            rw [if_neg hne] at ht
            exact absurd ht hne
        | error e =>
          simp only [Rpc.written, hs] at hq
          obtain ⟨-, -, -, -, hne⟩ := Rpc.mem_of_mem_finish hq
          exact absurd ht hne
    · next hno =>
      refine (hw q hq ht).resolve_right fun hf => ?_
      subst ht
      exact hno q (h.send?_eq hq) hf
  -- the transport is given its frame
  · intro q hq ht
    obtain ⟨frames, es, he, hn, -⟩ := l.hand_eq t
    show q.written = true ∨ (l.hand t).frames.lookup t = none
    rw [he]
    exact .inr hn
  · exact trivial

theorem within_turnsLeft {p : Pending} (h : l.Heard) (hp : p ∈ l.rpc.sends) :
    Within l p.token (l.turnsLeft p) := by
  have hsame : ∀ q ∈ l.rpc.sends, q.token = p.token → q = p := fun q hq ht =>
    List.inj_on_of_nodup_map h.kept.tokens hq hp ht
  unfold turnsLeft
  split
  · next hw =>
    intro q hq ht
    rwa [hsame q hq ht]
  · split
    · next hf => exact fun q hq ht => .inr (Option.isNone_iff_eq_none.1 hf)
    · exact trivial

/-- **On a closed connection, a send is over when its turns have come.** -/
theorem over_of_turns (h : l.Heard) (hc : l.rpc.closed = true) {p : Pending}
    (hp : p ∈ l.rpc.sends) {outcome : Except ConnectionError Unit} {more : List Incident}
    (hm : (turns (sendTurn p.token outcome) (l.turnsLeft p)).Sublist more) :
    ∀ q ∈ (more.foldl step l).rpc.sends, q.token ≠ p.token := by
  have hdone := done_of_turns
    (P := fun n l => l.Heard ∧ l.rpc.closed = true ∧ Within l p.token n)
    (fun n l i ⟨h, hc, hw⟩ =>
      ⟨step_heard h i, (step_winds hc i).closed, (step_winds hc i).within hw⟩)
    (fun n l ⟨h, hc, hw⟩ => ⟨step_heard h _, (step_winds hc _).closed, within_turn h hc outcome hw⟩)
    ⟨h, hc, within_turnsLeft h hp⟩ hm
  exact hdone.2.2

/-- **On a closed connection, nobody is left when the turns of all sends have come.** -/
theorem none_left (h : l.Heard) (hc : l.rpc.closed = true) {more : List Incident}
    (hm : ∀ p ∈ l.rpc.sends, ∃ outcome,
      (turns (sendTurn p.token outcome) (l.turnsLeft p)).Sublist more) :
    (more.foldl step l).rpc.sends = [] := by
  refine List.eq_nil_iff_forall_not_mem.2 fun q hq => ?_
  obtain ⟨p, hp, ht, -⟩ := (foldl_winds hc more).sends q hq
  obtain ⟨outcome, hturns⟩ := hm p hp
  exact over_of_turns h hc hp hturns q hq ht.symm

/-! ## Connections that are about to close -/

/-- The turns of a connection whose messages have ended: those that are left are dispatched, and
    the end is noticed. -/
def closingTurn : Nat → Incident
  | 0 => .close
  | _ => .dispatch

/-- The connection is closed, or its messages have ended and at most so many turns are left. -/
def Closes (n : Nat) (l : Line) : Prop :=
  l.rpc.closed = true ∨ (l.reading = true ∧ l.gone = true ∧ l.inbound.length < n)

theorem Unread.closes {l' : Line} (hu : Unread l l') {n : Nat} (hr : l.reading = true)
    (hg : l.gone = true) (hn : l.inbound.length < n) : Closes n l' :=
  .inr ⟨hu.reading.trans hr, hu.gone.trans hg, by rwa [hu.inbound]⟩

/-- The first message is dispatched, if there is one. -/
theorem dispatch_inbound (hr : l.reading = true) (hc : l.rpc.closed = false) :
    l.dispatch.inbound = l.inbound.tail ∧ l.dispatch.reading = true ∧ l.dispatch.gone = l.gone := by
  unfold Line.dispatch
  cases hin : l.inbound <;> simp [hr, hc, hin]

theorem Closes.step {n : Nat} (h : Closes n l) (i : Incident) : Closes n (l.step i) := by
  cases hc : l.rpc.closed with
  | true => exact .inl (step_winds hc i).closed
  | false =>
    obtain ⟨hr, hg, hn⟩ := h.resolve_left (by rw [hc]; exact Bool.false_ne_true)
    cases i with
    | send r => exact (l.send_unread r).closes hr hg hn
    | hand t => exact (l.hand_unread t).closes hr hg hn
    | wrote t outcome => exact (l.wrote_unread t outcome).closes hr hg hn
    | resume t => exact (l.resume_unread t).closes hr hg hn
    | abandon t => exact (l.abandon_unread t).closes hr hg hn
    | close => exact l.close_unread.closes hr hg hn
    | arrive v =>
      simp only [Line.step, hg, if_true]
      exact h
    | hangUp => exact .inr ⟨hr, rfl, hn⟩
    | run => exact .inr ⟨rfl, hg, hn⟩
    | dispatch =>
      obtain ⟨hin, hr', hg'⟩ := dispatch_inbound hr hc
      refine .inr ⟨hr', hg'.trans hg, ?_⟩
      show l.dispatch.inbound.length < n
      rw [hin, List.length_tail]
      omega

/-- Every turn brings the end closer. -/
theorem Closes.turn {n : Nat} (h : Closes (n + 1) l) : Closes n (l.step (closingTurn n)) := by
  cases hc : l.rpc.closed with
  | true => exact .inl (step_winds hc _).closed
  | false =>
    obtain ⟨hr, hg, hn⟩ := h.resolve_left (by rw [hc]; exact Bool.false_ne_true)
    cases n with
    | zero =>
      have hin : l.inbound = [] := List.length_eq_zero_iff.1 (Nat.lt_one_iff.1 hn)
      refine .inl ?_
      show l.close.rpc.closed = true
      simp only [Line.close, hr, hg, hin, hc, List.isEmpty_nil, Bool.not_false, Bool.and_self,
        if_true]
      rw [Rpc.shutdown_eq]
    | succ n =>
      obtain ⟨hin, hr', hg'⟩ := dispatch_inbound hr hc
      refine .inr ⟨hr', hg'.trans hg, ?_⟩
      show l.dispatch.inbound.length < n + 1
      rw [hin, List.length_tail]
      omega

/-- **A connection that is read is closed when the messages have ended and the turns have come.** -/
theorem closed_of_turns (hr : l.reading = true) (hg : l.gone = true) {more : List Incident}
    (hm : (turns closingTurn (l.inbound.length + 1)).Sublist more) :
    (more.foldl step l).rpc.closed = true := by
  have hdone := done_of_turns (P := Closes) (fun _ _ i h => h.step i) (fun _ _ h => h.turn)
    (.inr ⟨hr, hg, Nat.lt_succ_self _⟩) hm
  exact hdone.resolve_right fun h => Nat.not_lt_zero _ h.2.2

end

/-! ## The end of a connection -/

/-- What a send ends with that is due a result: that, or the fault of its own write. -/
def Resolves (log : List Entry) (t : Token) (due result : Except ConnectionError Response) : Prop :=
  result = due ∨ ∃ e, result = .error e ∧ .wrote t (.error e) ∈ log

/-- What the end of the messages comes to.  What becomes of a send whose number was doubled while it
    waited is left open. -/
structure ShutsDown (is : List Incident) : Prop where
  /-- Every message that arrived is dispatched before the connection is closed. -/
  dispatched : ∀ before after, (run is).log = before ++ .closed :: after →
    before.filter Entry.isMessage = (arrivals is).map seen ∧ after.filter Entry.isMessage = []
  /-- A send that waits for a response ends with it. -/
  answered : ∀ before f later t result after,
    (run is).log = before ++ .read f :: (later ++ .ended t result :: after) →
    Awaits before t f.id → ¬Doubled before t →
    Resolves (before ++ .read f :: later) t (.ok f.body) result
  /-- A send that waits when the connection is closed is told so. -/
  failed : ∀ before later t id result after,
    (run is).log = before ++ .closed :: (later ++ .ended t result :: after) →
    Awaits before t id → ¬Doubled before t →
    Resolves (before ++ .closed :: later) t (.error .connectionClosed) result
  /-- Numbers are doubled only when they come round. -/
  doubled : ∀ t, Doubled (run is).log t → Lapped (run is).log
  /-- The end of the messages is noticed. -/
  noticed : .run ∈ is → .hangUp ∈ is → ∀ more,
    (turns closingTurn ((run is).inbound.length + 1)).Sublist more →
    (run (is ++ more)).rpc.closed = true
  /-- No send stays pending that can go on. -/
  resolved : (run is).rpc.closed = true → ∀ more,
    (∀ p ∈ (run is).rpc.sends, ∃ outcome,
      (turns (sendTurn p.token outcome) ((run is).turnsLeft p)).Sublist more) →
    ∀ t id, ¬Pends (run (is ++ more)).log t id
  /-- A send that starts later fails at once, and changes nothing. -/
  refused : (run is).rpc.closed = true → ∀ r,
    (run is).step (.send r) = { run is with log := (run is).log ++ [.refused .connectionClosed] }
  closed : (run is).rpc.closed = true ↔ .closed ∈ (run is).log
  lasting : (run is).rpc.closed = true → ∀ more, (run (is ++ more)).rpc.closed = true
  /-- Running the connection again has no effect. -/
  rerun : .run ∈ is → (run is).step .run = run is

theorem run_append (is more : List Incident) : run (is ++ more) = more.foldl step (run is) :=
  List.foldl_append

section
variable {l : Line}

/-- A send that waited when it was told something ends with that. -/
theorem Heard.resolves (h : l.Heard) {before later after : List Entry} {e : Entry} {t : Token}
    {id : UInt32} {due result : Except ConnectionError Response}
    (hlog : l.log = before ++ e :: (later ++ .ended t result :: after)) (hw : Awaits before t id)
    (hd : ¬Doubled before t) (hv : e.verdict? id = some due) :
    Resolves (before ++ e :: later) t due result := by
  have hn : Numbered before := by
    have := h.numbered
    rw [hlog] at this
    exact this.append
  obtain ⟨first, frame, rest, hbefore, hid, -⟩ := hw.pends
  have hbegins : ∃ x ∈ before, x.begins t = true :=
    ⟨.began t frame, hbefore ▸ List.mem_append_right _ List.mem_cons_self, by simp [Entry.begins]⟩
  have ho : Ordered before := fun past x tail u hx hend =>
    h.pended past x (tail ++ e :: (later ++ .ended t result :: after)) u
      (by rw [hlog, hx, List.append_assoc, List.cons_append]) hend
  have hsplit : l.log = (before ++ e :: later) ++ .ended t result :: after := by
    rw [hlog, List.append_assoc, List.cons_append]
  refine (h.ended _ t result after hsplit).imp_left fun hr => ?_
  have hnum : id = UInt32.ofNat t := (hw.pends.numbered hn).2
  rw [verdict_append hbegins, List.findSome?_cons, ← hnum, hv] at hr
  cases hb : verdict before t with
  | none =>
    rw [hb] at hr
    exact (Option.some.inj hr).symm
  | some v => exact absurd (doubled_of_awaits hn ho hw hb) hd

/-- A send that was told a result ends with it, if its frame is written. -/
theorem resumes_of_told (h : l.Heard) {p : Pending} (hp : p ∈ l.rpc.sends) (hw : p.written = false)
    {result : Except ConnectionError Response} (hr : p.told = some result) :
    ∃ later, ([.hand p.token, .wrote p.token (.ok ()), .resume p.token].foldl step l).log =
        l.log ++ later ++ [.ended p.token result] ∧
      ∀ e, .wrote p.token (.error e) ∉ later := by
  obtain ⟨frames, es, hhand, hframes, hes⟩ := l.hand_eq p.token
  have hwrote : (l.step (.hand p.token)).step (.wrote p.token (.ok ())) =
      { l with
        rpc := l.rpc.noteWritten p.token
        frames
        log := l.log ++ es ++ [.wrote p.token (.ok ())] } := by
    show (l.hand p.token).wrote p.token (.ok ()) = _
    rw [hhand]
    simp only [Line.wrote, h.send?_eq hp, hframes, hw, Bool.false_eq_true, if_false]
  have h' := step_heard (step_heard h (.hand p.token)) (.wrote p.token (.ok ()))
  rw [List.foldl_cons, List.foldl_cons, List.foldl_cons, List.foldl_nil]
  rw [hwrote] at h' ⊢
  have hmem : { p with written := true } ∈ (l.rpc.noteWritten p.token).sends := by
    rw [Rpc.noteWritten_sends]
    exact List.mem_map.2 ⟨p, hp, if_pos rfl⟩
  have hs : (l.rpc.noteWritten p.token).send? p.token = some { p with written := true } :=
    h'.send?_eq hmem
  refine ⟨es ++ [.wrote p.token (.ok ())], ?_, fun e he => ?_⟩
  · simp only [step, Rpc.resume, hs, hr, Line.goOn, List.append_assoc]
  · rcases List.mem_append.1 he with he | he
    · obtain ⟨frame, hx⟩ := hes _ he
      cases hx
    · simp at he

/-- So it does if the connection is closed before. -/
theorem ends_of_told (h : l.Heard) (hin : l.inbound = []) (ho : l.rpc.closed = false) {p : Pending}
    (hp : p ∈ l.rpc.sends) (hw : p.written = false) {result : Except ConnectionError Response}
    (hr : p.told = some result) :
    ∃ later, ([.run, .hangUp, .close, .hand p.token, .wrote p.token (.ok ()),
          .resume p.token].foldl step l).log =
        l.log ++ .closed :: (later ++ [.ended p.token result]) ∧
      ∀ e, .wrote p.token (.error e) ∉ later := by
  have h' := step_heard (step_heard (step_heard h .run) .hangUp) .close
  have hclose : ((l.step .run).step .hangUp).step .close =
      { l with
        rpc := l.rpc.shutdown
        gone := true
        reading := true
        log := l.log ++ [.closed] } := by
    simp [step, Line.close, hin, ho]
  rw [List.foldl_cons, List.foldl_cons, List.foldl_cons]
  rw [hclose] at h' ⊢
  have hp' : p ∈ l.rpc.shutdown.sends := by
    rw [Rpc.shutdown_sends h.kept]
    exact List.mem_map.2 ⟨p, hp, Pending.heed_of_told hr⟩
  obtain ⟨later, hlog, hlater⟩ := resumes_of_told h' hp' hw hr
  exact ⟨later, hlog.trans (by simp), hlater⟩

end

/-- **At the end of its messages a connection has dispatched all of them, whoever still waits is
    told so, nobody stays pending, and no send starts any more.** -/
theorem shuts_down (is : List Incident) : ShutsDown is := by
  have hl := run_heard is
  have hd := run_delivered is
  refine
    { dispatched := fun before after hlog => ?_
      answered := fun before f later t result after hlog hw hn =>
        hl.resolves hlog hw hn (if_pos rfl)
      failed := fun before later t id result after hlog hw hn => hl.resolves hlog hw hn rfl
      doubled := fun t ht => ht.lapped hl.numbered
      noticed := fun hrun hgone more hm => ?_
      resolved := fun hc more hm t id hp => ?_
      refused := fun hc r => ?_
      closed := hl.closed
      lasting := fun hc more => ?_
      rerun := fun hrun => ?_ }
  · have hafter := hd.last before after hlog
    have hc : (run is).rpc.closed = true := hl.closed.2 (hlog ▸ by simp)
    refine ⟨?_, hafter⟩
    have harrived := hd.arrived
    rw [(hd.drained hc).2, hlog, List.filter_append,
      List.filter_cons_of_neg (by simp [Entry.isMessage]), hafter] at harrived
    simpa using harrived
  · rw [run_append]
    have hg : (run is).gone = true := by
      rw [hd.gone]
      exact List.any_eq_true.2 ⟨_, hgone, rfl⟩
    exact closed_of_turns (hd.reading.2 hrun) hg hm
  · obtain ⟨p, hp, -⟩ := ((run_heard (is ++ more)).pends t id).1 hp
    rw [run_append, none_left hl hc hm] at hp
    cases hp
  · simp only [step, Line.send, Rpc.start, hc, if_true]
  · rw [run_append]
    exact (foldl_winds hc more).closed
  · show { run is with reading := true } = run is
    rw [← hd.reading.2 hrun]

/-- Two sends: the first is answered before the peer hangs up, the second is not. -/
def farewell : List Incident :=
  [.run, .send closing, .send closing, .hand 0, .hand 1, .wrote 0 (.ok ()), .wrote 1 (.ok ()),
    .arrive (ResponseFrame.toValue { id := 0, body := .unregister .accept }), .hangUp, .dispatch,
    .close, .resume 0, .resume 1]

theorem shuts_down_farewell :
    ShutsDown farewell ∧ (∀ t, ¬Doubled (run farewell).log t) ∧
      (run farewell).log[8]? = some (.ended 0 (.ok (.unregister .accept))) ∧
      (run farewell).log[9]? = some (.ended 1 (.error .connectionClosed)) := by
  have h := shuts_down farewell
  have hshort : (run farewell).log.length ≤ UInt32.size := by
    rw [show (run farewell).log.length = 10 from rfl]
    decide
  exact ⟨h, fun t ht => not_lapped_of_short hshort (h.doubled t ht), rfl, rfl⟩

/-- A send whose number comes round, and which is not over when the connection is closed. -/
def overdue : List Incident :=
  rounds (UInt32.size - 1) ++ [.send closing] ++
    [.run, .hangUp, .close, .hand 0, .wrote 0 (.ok ()), .resume 0]

/-- **What a send is due can be lost.**  It is not the answer that a send ends with if its own write
    fails after it was answered.  And it is not the end of the connection if its number came round
    while it waited; no write has failed there. -/
theorem due_result_lost :
    let fault := ConnectionError.transport "broken pipe"
    let f : ResponseFrame := { id := 0, body := .unregister .accept }
    let frame : RequestFrame := { id := 0, body := closing }
    (run [.run, .send closing, .hand 0, .arrive f.toValue, .hangUp, .dispatch, .close,
        .wrote 0 (.error fault)]).log =
      [.began 0 frame, .handed 0 frame, .read f, .closed, .wrote 0 (.error fault),
        .ended 0 (.error fault)] ∧
    ∃ before later,
      (run overdue).log = before ++ .closed :: (later ++ [.ended 0 (.error .channelClosed)]) ∧
        Awaits before 0 0 ∧ ∀ e, .wrote 0 (.error e) ∉ before ++ .closed :: later := by
  refine ⟨rfl, ?_⟩
  have hlapped := run_lapped
  have hcaller : ∀ i ∈ rounds (UInt32.size - 1) ++ [.send closing], i.byCaller = true :=
    List.forall_mem_append.2 ⟨rounds_byCaller _, by simp [Incident.byCaller]⟩
  obtain ⟨hlog, hin⟩ := run_byCaller hcaller
  have h := run_heard (rounds (UInt32.size - 1) ++ [.send closing])
  rw [overdue, run_append]
  -- from here on, the run itself does not matter
  generalize run (rounds (UInt32.size - 1) ++ [.send closing]) = l at hlapped hlog hin h ⊢
  let p : Pending := { first with told := some (.error .channelClosed) }
  have hp : p ∈ l.rpc.sends := by rw [hlapped]; exact List.mem_cons_self
  have ho : l.rpc.closed = false := by rw [hlapped]; rfl
  obtain ⟨later, hend, hlater⟩ := ends_of_told h hin ho hp rfl rfl
  refine ⟨l.log, later, hend, ((h.pends 0 0).2 ⟨p, hp, rfl, rfl⟩).awaits hlog, fun e he => ?_⟩
  rcases List.mem_append.1 he with he | he
  · exact absurd (hlog _ he) Bool.false_ne_true
  · exact hlater e ((List.mem_cons.1 he).resolve_left nofun)

end Line

end ClusterSession
