/-
  ClusterSession: the messages of a connection.

  What the peer says is dispatched in the order in which it arrives.

  * `arrivals`: the messages that arrive before the peer's messages end.
  * `Line.Delivered`: of these, some have been dispatched, and the others wait; when the
    connection is closed, none is left.
  * `Line.Unread`: what a step that reads no message leaves as it is.
  * `run_delivered`: this holds at any time.
-/
import ClusterSession.Proofs.Rpc.Verdicts

namespace ClusterSession

open Json

/-! ## Arrivals -/

/-- The message that arrives. -/
def Incident.message? : Incident → Option Value
  | arrive v => some v
  | _ => none

/-- The messages of the peer end. -/
def Incident.hangsUp : Incident → Bool
  | hangUp => true
  | _ => false

/-- The messages that arrive before the peer's messages end. -/
def arrivals (is : List Incident) : List Value :=
  (is.takeWhile fun i => !i.hangsUp).filterMap Incident.message?

theorem arrivals_concat (is : List Incident) (i : Incident) :
    arrivals (is ++ [i]) =
      if is.any Incident.hangsUp then arrivals is else arrivals is ++ i.message?.toList := by
  unfold arrivals
  rw [List.takeWhile_append]
  by_cases h : is.any Incident.hangsUp
  · have hne : (is.takeWhile fun i => !i.hangsUp).length ≠ is.length := by
      intro he
      obtain ⟨x, hx, hb⟩ := List.any_eq_true.1 h
      have hall := (List.takeWhile_prefix fun i : Incident => !i.hangsUp).eq_of_length he
      have hnot := List.takeWhile_eq_self_iff.1 hall x hx
      rw [hb] at hnot
      cases hnot
    rw [if_neg hne, if_pos h]
  · have hall : (is.takeWhile fun i => !i.hangsUp) = is := by
      refine List.takeWhile_eq_self_iff.2 fun x hx => ?_
      rw [Bool.not_eq_true']
      exact Bool.eq_false_iff.2 fun hb => h (List.any_eq_true.2 ⟨x, hx, hb⟩)
    rw [if_pos (congrArg _ hall), if_neg h, hall, List.filterMap_append]
    cases i <;> rfl

/-- A message has been dispatched or passed over. -/
def Entry.isMessage : Entry → Bool
  | read _ | passed => true
  | _ => false

theorem isMessage_seen (v : Value) : (Line.seen v).isMessage = true := by
  unfold Line.seen
  split <;> rfl

namespace Line

/-! ## Messages -/

/-- The messages that have been dispatched, and those that have not, are those that arrived. -/
structure Delivered (is : List Incident) (l : Line) : Prop where
  reading : l.reading = true ↔ .run ∈ is
  gone : l.gone = is.any Incident.hangsUp
  arrived : l.log.filter Entry.isMessage ++ l.inbound.map seen = (arrivals is).map seen
  drained : l.rpc.closed = true → l.gone = true ∧ l.inbound = []
  last : ∀ before after, l.log = before ++ .closed :: after → after.filter Entry.isMessage = []

theorem finish_closed (c : Rpc) (p : Pending) : (c.finish p).closed = c.closed := by
  rw [Rpc.finish_eq_unpark]
  exact unpark_closed c p.id

/-- What a step that reads no message leaves as it is. -/
structure Unread (l l' : Line) : Prop where
  log : ∃ es, l'.log = l.log ++ es ∧ ∀ e ∈ es, e.isMessage = false
  inbound : l'.inbound = l.inbound
  gone : l'.gone = l.gone
  reading : l'.reading = l.reading
  closed : l'.rpc.closed = true → l.rpc.closed = true ∨ (l.gone = true ∧ l.inbound = [])

section
variable {l : Line} {is : List Incident}

theorem Unread.refl (l : Line) : Unread l l :=
  ⟨⟨[], (List.append_nil _).symm, nofun⟩, rfl, rfl, rfl, .inl⟩

/-- One entry is added. -/
theorem Unread.of_entry {rpc : Rpc} {begun : Nat} {frames : List (Token × RequestFrame)} {e : Entry}
    (he : e.isMessage = false) (hc : rpc.closed = l.rpc.closed) :
    Unread l { l with rpc, begun, frames, log := l.log ++ [e] } :=
  ⟨⟨[e], rfl, by simpa using he⟩, rfl, rfl, rfl, fun h => .inl (hc ▸ h)⟩

theorem send_unread (l : Line) (r : Request) : Unread l (l.send r) := by
  unfold Line.send Rpc.start
  cases ho : l.rpc.closed with
  | true => exact .of_entry rfl rfl
  | false => exact .of_entry rfl (unpark_closed _ _)

theorem hand_unread (l : Line) (t : Token) : Unread l (l.hand t) := by
  unfold Line.hand
  split
  · exact .of_entry rfl rfl
  · exact .refl l

theorem resume_unread (l : Line) (t : Token) : Unread l (l.goOn t (l.rpc.resume t)) := by
  unfold Rpc.resume
  split
  · split
    · exact .of_entry rfl (finish_closed _ _)
    · exact .refl l
  · exact .refl l

theorem wrote_unread (l : Line) (t : Token) (outcome : Except ConnectionError Unit) :
    Unread l (l.wrote t outcome) := by
  unfold Line.wrote
  split
  · next p _ hp _ =>
    split
    · exact .refl l
    · cases outcome with
      | ok _ => exact .of_entry rfl rfl
      | error e =>
        simp only [Rpc.written, hp]
        refine ⟨⟨[.wrote t (.error e), .ended t (.error e)], ?_, ?_⟩, rfl, rfl, rfl, fun h => .inl ?_⟩
        · exact List.append_assoc _ _ _
        · simp [Entry.isMessage]
        · exact (finish_closed _ _) ▸ h
  · exact .refl l

theorem abandon_unread (l : Line) (t : Token) : Unread l (l.abandon t) := by
  unfold Line.abandon
  split
  · next p hp =>
    refine .of_entry rfl ?_
    rw [Rpc.abandon, hp]
    exact finish_closed _ _
  · exact .refl l

theorem close_unread (l : Line) : Unread l l.close := by
  unfold Line.close
  split
  · next h =>
    simp only [Bool.and_eq_true, List.isEmpty_iff] at h
    exact ⟨⟨[.closed], rfl, by simp [Entry.isMessage]⟩, rfl, rfl, rfl, fun _ => .inr ⟨h.1.1.2, h.1.2⟩⟩
  · exact .refl l

/-- An incident that reads no message and brings none. -/
theorem Delivered.unread (h : Delivered is l) {i : Incident} {l' : Line} (hu : Unread l l')
    (hm : i.message? = none) (hh : i.hangsUp = false) (hr : i ≠ .run) :
    Delivered (is ++ [i]) l' := by
  obtain ⟨es, hlog, hes⟩ := hu.log
  have hfilter : es.filter Entry.isMessage = [] :=
    List.filter_eq_nil_iff.2 fun e he => by rw [hes e he]; exact Bool.false_ne_true
  refine ⟨?_, ?_, ?_, fun hc => ?_, fun before after hsplit => ?_⟩
  · rw [hu.reading, h.reading, List.mem_append, List.mem_singleton]
    exact (or_iff_left (Ne.symm hr)).symm
  · rw [hu.gone, h.gone, List.any_append]
    simp [hh]
  · rw [hlog, List.filter_append, hfilter, List.append_nil, hu.inbound, h.arrived, arrivals_concat,
      hm, Option.toList_none, List.append_nil, ite_self]
  · rw [hu.gone, hu.inbound]
    exact (hu.closed hc).elim h.drained id
  · rw [hlog] at hsplit
    rcases List.append_eq_append_iff.1 hsplit with ⟨mid, -, hes'⟩ | ⟨mid, hold, hafter⟩
    · refine List.filter_eq_nil_iff.2 fun e he => ?_
      rw [hes e (hes' ▸ by simp [he])]
      exact Bool.false_ne_true
    · cases mid with
      | nil =>
        refine List.filter_eq_nil_iff.2 fun e he => ?_
        rw [hes e (by rw [List.nil_append] at hafter; rw [← hafter]; simp [he])]
        exact Bool.false_ne_true
      | cons x rest =>
        rw [List.cons_append] at hafter
        obtain ⟨rfl, rfl⟩ := List.cons.inj hafter
        rw [List.filter_append, hfilter, h.last before rest hold, List.append_nil]

theorem Delivered.dispatch (h : Delivered is l) (hl : l.Heard) :
    Delivered (is ++ [.dispatch]) l.dispatch := by
  unfold Line.dispatch
  split
  · next v rest hopen hin =>
    have ho : l.rpc.closed = false := by
      simpa using (Bool.and_eq_true_iff.1 hopen).2
    have hclosed : (l.rpc.receive v).closed = l.rpc.closed := by
      unfold Rpc.receive
      split
      · rw [Rpc.dispatch_eq]
      · rfl
    have hnot : .closed ∉ l.log := fun hm => by
      rw [hl.closed.2 hm] at ho
      cases ho
    refine ⟨?_, ?_, ?_, fun hc => ?_, fun before after hsplit => ?_⟩
    · rw [h.reading, List.mem_append, List.mem_singleton]
      exact (or_iff_left nofun).symm
    · rw [h.gone, List.any_append]
      simp [Incident.hangsUp]
    · have ha := h.arrived
      rw [hin, List.map_cons] at ha
      rw [List.filter_append, List.filter_cons_of_pos (isMessage_seen v), List.filter_nil,
        List.append_assoc, List.singleton_append, ha, arrivals_concat]
      simp [Incident.message?]
    · exact absurd (hclosed.symm.trans hc) (by rw [ho]; exact Bool.false_ne_true)
    · replace hsplit : l.log ++ [seen v] = before ++ .closed :: after := hsplit
      have hm : .closed ∈ l.log ++ [seen v] := by simp [hsplit]
      rcases List.mem_append.1 hm with hm | hm
      · exact absurd hm hnot
      · have := isMessage_seen v
        rw [← List.mem_singleton.1 hm] at this
        cases this
  · exact h.unread (.refl l) rfl rfl nofun

theorem step_delivered (h : Delivered is l) (hl : l.Heard) (i : Incident) :
    Delivered (is ++ [i]) (l.step i) := by
  cases i with
  | send r => exact h.unread (l.send_unread r) rfl rfl (by rintro ⟨⟩)
  | hand t => exact h.unread (l.hand_unread t) rfl rfl (by rintro ⟨⟩)
  | wrote t outcome => exact h.unread (l.wrote_unread t outcome) rfl rfl (by rintro ⟨⟩)
  | resume t => exact h.unread (l.resume_unread t) rfl rfl (by rintro ⟨⟩)
  | abandon t => exact h.unread (l.abandon_unread t) rfl rfl (by rintro ⟨⟩)
  | close => exact h.unread l.close_unread rfl rfl (by rintro ⟨⟩)
  | dispatch => exact h.dispatch hl
  | arrive v =>
    have hreading : l.reading = true ↔ .run ∈ is ++ [.arrive v] := by
      rw [h.reading, List.mem_append, List.mem_singleton]
      exact (or_iff_left (by rintro ⟨⟩)).symm
    have hgone : l.gone = (is ++ [Incident.arrive v]).any Incident.hangsUp := by
      rw [h.gone, List.any_append]
      exact (Bool.or_false _).symm
    simp only [Line.step]
    split
    · next hg =>
      refine ⟨hreading, hgone, ?_, h.drained, h.last⟩
      rw [h.arrived, arrivals_concat, if_pos (h.gone ▸ hg)]
    · next hg =>
      refine ⟨hreading, hgone, ?_, fun hc => absurd (h.drained hc).1 hg, h.last⟩
      rw [List.map_append, ← List.append_assoc, h.arrived, arrivals_concat,
        if_neg (h.gone ▸ hg), List.map_append]
      rfl
  | hangUp =>
    refine ⟨?_, ?_, ?_, fun hc => ⟨rfl, (h.drained hc).2⟩, h.last⟩
    · show l.reading = true ↔ _
      rw [h.reading, List.mem_append, List.mem_singleton]
      exact (or_iff_left (by rintro ⟨⟩)).symm
    · rw [List.any_append]
      simp [Incident.hangsUp, Line.step]
    · show l.log.filter Entry.isMessage ++ l.inbound.map seen = _
      rw [h.arrived, arrivals_concat]
      simp [Incident.message?]
  | run =>
    refine ⟨?_, ?_, ?_, h.drained, h.last⟩
    · exact iff_of_true rfl (List.mem_append_right _ List.mem_cons_self)
    · show l.gone = _
      rw [h.gone, List.any_append]
      simp [Incident.hangsUp]
    · show l.log.filter Entry.isMessage ++ l.inbound.map seen = _
      rw [h.arrived, arrivals_concat]
      simp [Incident.message?]

end

theorem initial_delivered : Delivered [] initial where
  reading := by simp [initial]
  gone := rfl
  arrived := rfl
  drained hc := by cases hc
  last before after he :=
    absurd he.symm (List.append_ne_nil_of_right_ne_nil _ (List.cons_ne_nil _ _))

/-- **At any time, the messages that arrived have been dispatched in order, up to one.** -/
theorem run_delivered (is : List Incident) : Delivered is (run is) := by
  induction is using List.reverseRecOn with
  | nil => exact initial_delivered
  | append_singleton is i ih =>
    rw [run_concat]
    exact step_delivered ih (run_heard is) i

end Line

end ClusterSession
