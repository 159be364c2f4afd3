/-
  ClusterSession: messages that answer nobody.

  The peer may say what it likes: what is no response frame, and a frame under whose number
  nobody waits, changes nothing for those who wait.

  * `Line.Stray`: a message that answers nobody who waits.
  * `Line.Strewn`: one run is another one with extra messages, which are dispatched when they
    are stray.
  * `Line.Alike`: what two such runs have in common; `Strewn.alike`: every incident keeps it.
  * `Strewn.next`: what can happen without the extra messages can happen with them, as soon
    as those that have arrived are out of the way.
  * `strays_ignored`: what follows for every run.
-/
import ClusterSession.Proofs.Rpc.Sockets
import ClusterSession.Proofs.Wire.Frames

namespace ClusterSession

open Json

/-- Callers and the transport do this; the messages have nothing to do with it. -/
def Incident.isCall : Incident → Bool
  | send _ | hand _ | wrote _ _ | resume _ | abandon _ => true
  | _ => false

/-- The connection is run. -/
def Incident.isRun : Incident → Bool
  | run => true
  | _ => false

namespace Line

/-! ## Extra messages -/

/-- A message that answers nobody: it is no response frame, or every send that is under way with its
    number has been told its result. -/
def Stray (l : Line) (v : Value) : Prop :=
  ∀ f, ResponseFrame.ofValue v = .ok f → ∀ p ∈ l.rpc.sends, p.id = f.id → p.told ≠ none

/-- The messages that have not been dispatched, each with whether it is an extra one, after an
    incident; `extra` says so of the message that arrives, if any. -/
def queued (l : Line) (extra : Bool) (queue : List (Value × Bool)) : Incident → List (Value × Bool)
  | .arrive v => if l.gone then queue else queue ++ [(v, extra)]
  | .dispatch => if l.reading && !l.rpc.closed then queue.tail else queue
  | _ => queue

/-- No extra message is in the way: the next one to be dispatched is none, and the end is not
    noticed while nothing but extra messages waits. -/
def Unhindered (l : Line) (queue : List (Value × Bool)) (i : Incident) : Prop :=
  l.reading = true →
    match i with
    | .dispatch => ∀ x ∈ queue.head?, x.2 = false
    | .close => queue = [] ∨ ∃ x ∈ queue, x.2 = false
    | _ => True

/-- The second run is the first with extra messages: they arrive at any time, and when their turn
    comes they are stray.  The queue has the messages that the second run has not dispatched. -/
inductive Strewn : List Incident → List Incident → List (Value × Bool) → Prop where
  | start : Strewn [] [] []
  /-- The same happens to both. -/
  | own {is js queue} (i : Incident) : Strewn is js queue → Unhindered (run js) queue i →
      Strewn (is ++ [i]) (js ++ [i]) ((run js).queued false queue i)
  /-- An extra message arrives. -/
  | arrives {is js queue} (v : Value) : Strewn is js queue →
      Strewn is (js ++ [.arrive v]) ((run js).queued true queue (.arrive v))
  /-- An extra message is dispatched, and nobody waits for it. -/
  | passes {is js v queue} : Strewn is js ((v, true) :: queue) → (run js).Stray v →
      Strewn is (js ++ [.dispatch]) ((run js).queued true ((v, true) :: queue) .dispatch)
  /-- The end is not noticed, as extra messages still wait. -/
  | holds {is js queue} : Strewn is js queue → queue ≠ [] →
      Strewn is (js ++ [.close]) ((run js).queued true queue .close)

/-! ## Lines that differ in their messages -/

/-- The second line is the first with extra messages in its queue and in its log. -/
structure Alike (l l' : Line) (queue : List (Value × Bool)) : Prop where
  same : l' = { l with inbound := queue.map (·.1), log := l'.log }
  inbound : l.inbound = (queue.filter (!·.2)).map (·.1)
  seen : l'.log.filter (!·.isMessage) = l.log.filter (!·.isMessage)
  read : (l.log.filter Entry.isMessage).Sublist (l'.log.filter Entry.isMessage)

section
variable {l l' : Line} {queue : List (Value × Bool)}

/-- What callers and the transport do has nothing to do with the messages. -/
theorem step_call (l : Line) {i : Incident} (h : i.isCall = true) :
    ∃ es, (∀ e ∈ es, e.isMessage = false) ∧ ∀ inbound log,
      step { l with inbound, log } i = { l.step i with inbound, log := log ++ es } := by
  have hone : ∀ {e : Entry}, e.isMessage = false → ∀ x ∈ [e], x.isMessage = false := by
    intro e he x hx
    rwa [List.mem_singleton.1 hx]
  have hkeep : (∀ inbound log, step { l with inbound, log } i = { l with inbound, log }) →
      ∃ es, (∀ e ∈ es, e.isMessage = false) ∧ ∀ inbound log,
        step { l with inbound, log } i = { l.step i with inbound, log := log ++ es } := by
    intro hi
    have hl : l.step i = l := hi l.inbound l.log
    refine ⟨[], List.forall_mem_nil _, fun inbound log => ?_⟩
    rw [hi, hl, List.append_nil]
  cases i with
  | send r =>
    rcases hs : l.rpc.start l.begun r with ⟨result, rpc⟩
    cases result with
    | ok frame =>
      exact ⟨[.began l.begun frame], hone rfl, fun _ _ => by simp only [step, Line.send, hs]⟩
    | error e => exact ⟨[.refused e], hone rfl, fun _ _ => by simp only [step, Line.send, hs]⟩
  | hand t =>
    cases hf : l.frames.lookup t with
    | some frame =>
      exact ⟨[.handed t frame], hone rfl, fun _ _ => by simp only [step, Line.hand, hf]⟩
    | none => exact hkeep fun _ _ => by simp only [step, Line.hand, hf]
  | wrote t outcome =>
    cases hp : l.rpc.send? t with
    | none => exact hkeep fun _ _ => by simp only [step, Line.wrote, hp]
    | some p =>
      cases hf : l.frames.lookup t with
      | some frame => exact hkeep fun _ _ => by simp only [step, Line.wrote, hp, hf]
      | none =>
        cases hw : p.written with
        | true => exact hkeep fun _ _ => by simp only [step, Line.wrote, hp, hf, hw, if_true]
        | false =>
          cases outcome with
          | ok _ =>
            exact ⟨[.wrote t (.ok ())], hone rfl, fun _ _ => by simp [step, Line.wrote, hp, hf, hw]⟩
          | error e =>
            refine ⟨[.wrote t (.error e), .ended t (.error e)], by simp [Entry.isMessage], ?_⟩
            intro inbound log
            simp [step, Line.wrote, Line.goOn, Rpc.written, hp, hf, hw]
  | resume t =>
    rcases hs : l.rpc.resume t with ⟨result, rpc⟩
    cases result with
    | some result =>
      exact ⟨[.ended t result], hone rfl, fun _ _ => by simp only [step, Line.goOn, hs]⟩
    | none =>
      exact ⟨[], List.forall_mem_nil _, fun _ _ => by
        simp only [step, Line.goOn, hs, List.append_nil]⟩
  | abandon t =>
    cases hp : l.rpc.send? t with
    | some p => exact ⟨[.abandoned t], hone rfl, fun _ _ => by simp only [step, Line.abandon, hp]⟩
    | none => exact hkeep fun _ _ => by simp only [step, Line.abandon, hp]
  | _ => cases h

/-- Nobody is told of a stray message. -/
theorem Heard.receive_stray (h : l.Heard) {v : Value} (hv : l.Stray v) :
    l.rpc.receive v = l.rpc := by
  unfold Rpc.receive
  cases hf : ResponseFrame.ofValue v with
  | error e => rfl
  | ok f =>
    show l.rpc.dispatch f = l.rpc
    unfold Rpc.dispatch
    cases hl : l.rpc.callbacks.lookup f.id with
    | none => rfl
    | some t =>
      obtain ⟨p, hp, -, hid, hn⟩ := (h.kept.waiting _ _).1 (h.kept.lookup_eq_some.1 hl)
      exact absurd hn (hv f hf p hp hid)

section
variable (h : Alike l l' queue)
include h

theorem Alike.rpc : l'.rpc = l.rpc := by rw [h.same]

theorem Alike.gone : l'.gone = l.gone := by rw [h.same]

theorem Alike.reading : l'.reading = l.reading := by rw [h.same]

theorem Alike.all : l'.inbound = queue.map (·.1) := by rw [h.same]

end

/-! ### Incidents of both -/

theorem Alike.call (h : Alike l l' queue) {i : Incident} (hi : i.isCall = true) :
    Alike (l.step i) (l'.step i) queue := by
  obtain ⟨es, hes, hstep⟩ := l.step_call hi
  have hl : l.step i = { l.step i with inbound := l.inbound, log := l.log ++ es } :=
    hstep l.inbound l.log
  have hl' : l'.step i = { l.step i with inbound := queue.map (·.1), log := l'.log ++ es } :=
    (congrArg (step · i) h.same).trans (hstep _ _)
  have hlog : (l.step i).log = l.log ++ es := congrArg Line.log hl
  have hlog' : (l'.step i).log = l'.log ++ es := congrArg Line.log hl'
  have hes' : es.filter Entry.isMessage = [] :=
    List.filter_eq_nil_iff.2 fun e he => by rw [hes e he]; exact Bool.false_ne_true
  refine ⟨?_, (congrArg Line.inbound hl).trans h.inbound, ?_, ?_⟩
  · rw [hlog']
    exact hl'
  · rw [hlog, hlog', List.filter_append, List.filter_append, h.seen]
  · rw [hlog, hlog', List.filter_append, List.filter_append, hes', List.append_nil, List.append_nil]
    exact h.read

theorem Alike.hangUp (h : Alike l l' queue) :
    Alike { l with gone := true } { l' with gone := true } queue := by
  obtain ⟨hsame, hinbound, hseen, hread⟩ := h
  exact ⟨congrArg (fun l : Line => { l with gone := true }) hsame, hinbound, hseen, hread⟩

theorem Alike.run (h : Alike l l' queue) :
    Alike { l with reading := true } { l' with reading := true } queue :=
  ⟨congrArg (fun l : Line => { l with reading := true }) h.same, h.inbound, h.seen, h.read⟩

/-- The same message arrives, or an extra one. -/
theorem Alike.arrive (h : Alike l l' queue) (v : Value) :
    Alike (l.step (.arrive v)) (l'.step (.arrive v)) (l'.queued false queue (.arrive v)) := by
  simp only [step, queued, h.gone]
  split
  · exact h
  · refine ⟨?_, ?_, h.seen, h.read⟩
    · rw [h.same]
      simp
    · simp [h.inbound]

theorem Alike.arrive_extra (h : Alike l l' queue) (v : Value) :
    Alike l (l'.step (.arrive v)) (l'.queued true queue (.arrive v)) := by
  simp only [step, queued, h.gone]
  split
  · exact h
  · refine ⟨?_, ?_, h.seen, h.read⟩
    · rw [h.same]
      simp
    · simp [h.inbound]

theorem Alike.dispatch (h : Alike l l' queue) (hu : Unhindered l' queue .dispatch) :
    Alike l.dispatch l'.dispatch (l'.queued false queue .dispatch) := by
  cases hopen : l.reading && !l.rpc.closed with
  | false =>
    simp only [Line.dispatch, queued, h.rpc, h.reading, hopen]
    exact h
  | true =>
    cases queue with
    | nil =>
      have hinbound : l.inbound = [] := h.inbound
      simp only [Line.dispatch, queued, h.rpc, h.reading, hopen, hinbound, h.all, List.map_nil]
      exact h
    | cons x rest =>
      obtain ⟨v, extra⟩ := x
      obtain rfl : extra = false := hu (h.reading.trans (Bool.and_eq_true_iff.1 hopen).1) _ rfl
      have hinbound : l.inbound = v :: (rest.filter (!·.2)).map (·.1) := h.inbound
      simp only [Line.dispatch, queued, h.rpc, h.reading, hopen, hinbound, h.all, List.map_cons]
      have hm := isMessage_seen v
      refine ⟨?_, rfl, ?_, ?_⟩
      · rw [h.same]
        rfl
      · simp [hm, h.seen]
      · simpa [hm] using h.read

/-- The end is noticed by both, or by neither. -/
theorem Alike.close (h : Alike l l' queue) (hu : Unhindered l' queue .close) :
    Alike l.close l'.close queue := by
  have hcond : (l'.reading && l'.gone && l'.inbound.isEmpty && !l'.rpc.closed) =
      (l.reading && l.gone && l.inbound.isEmpty && !l.rpc.closed) := by
    rw [h.rpc, h.gone, h.reading]
    cases hr : l.reading with
    | false => rfl
    | true =>
      have hempty : l'.inbound.isEmpty = l.inbound.isEmpty := by
        rw [h.all, h.inbound]
        rcases hu (h.reading.trans hr) with rfl | ⟨x, hx, hown⟩
        · rfl
        · have hx' : x ∈ queue.filter (!·.2) := List.mem_filter.2 ⟨hx, by rw [hown]; rfl⟩
          rw [List.isEmpty_eq_false_iff.2 (List.ne_nil_of_mem (List.mem_map_of_mem hx)),
            List.isEmpty_eq_false_iff.2 (List.ne_nil_of_mem (List.mem_map_of_mem hx'))]
      rw [hempty]
  unfold Line.close
  rw [hcond]
  split
  · refine ⟨?_, h.inbound, ?_, ?_⟩
    · rw [h.same]
    · simp [h.seen]
    · simpa [Entry.isMessage] using h.read
  · exact h

/-! ### Incidents of extra messages -/

theorem Alike.stray_iff (h : Alike l l' queue) {v : Value} : l'.Stray v ↔ l.Stray v := by
  unfold Stray
  rw [h.rpc]

theorem Alike.pass {v : Value} (h : Alike l l' ((v, true) :: queue)) (hl : l'.Heard)
    (hv : l'.Stray v) :
    Alike l l'.dispatch (l'.queued true ((v, true) :: queue) .dispatch) := by
  cases hopen : l'.reading && !l'.rpc.closed with
  | false =>
    simp only [Line.dispatch, queued, hopen]
    exact h
  | true =>
    have hm := isMessage_seen v
    simp only [Line.dispatch, queued, hopen, h.all, List.map_cons, hl.receive_stray hv]
    refine ⟨?_, h.inbound, ?_, ?_⟩
    · rw [h.same]
      rfl
    · simp [hm, h.seen]
    · rw [List.filter_append]
      exact h.read.trans (List.sublist_append_left _ _)

theorem Alike.hold (h : Alike l l' queue) (hq : queue ≠ []) : Alike l l'.close queue := by
  have hempty : l'.inbound.isEmpty = false := by
    rw [h.all]
    exact List.isEmpty_eq_false_iff.2 (mt List.map_eq_nil_iff.1 hq)
  simp only [Line.close, hempty, Bool.and_false, Bool.false_and, Bool.false_eq_true, if_false]
  exact h

end

/-! ## Runs -/

section
variable {is js : List Incident} {queue : List (Value × Bool)}

/-- **With extra messages strewn in, the same happens.** -/
theorem Strewn.alike (h : Strewn is js queue) : Alike (run is) (run js) queue := by
  induction h with
  | start => exact ⟨rfl, rfl, rfl, List.Sublist.refl _⟩
  | own i _ hu ih =>
    rw [run_concat, run_concat]
    cases i with
    | arrive v => exact ih.arrive v
    | dispatch => exact ih.dispatch hu
    | close => exact ih.close hu
    | hangUp => exact ih.hangUp
    | run => exact ih.run
    | _ => exact ih.call rfl
  | arrives v _ ih =>
    rw [run_concat]
    exact ih.arrive_extra v
  | passes _ hv ih =>
    rw [run_concat]
    exact ih.pass (run_heard _) hv
  | holds _ hq ih =>
    rw [run_concat]
    exact ih.hold hq

/-- Extra messages that are stray are dispatched one after another. -/
theorem Strewn.pass_all {front : List (Value × Bool)} (h : Strewn is js (front ++ queue))
    (hr : (run is).reading = true) (hc : (run is).rpc.closed = false)
    (hs : ∀ x ∈ front, x.2 = true ∧ (run is).Stray x.1) :
    Strewn is (js ++ List.replicate front.length .dispatch) queue := by
  induction front generalizing js with
  | nil =>
    rw [List.length_nil, List.replicate_zero, List.append_nil]
    exact h
  | cons x front ih =>
    obtain ⟨v, extra⟩ := x
    obtain ⟨hextra, hv⟩ := hs _ List.mem_cons_self
    obtain rfl : extra = true := hextra
    have halike := h.alike
    have hpass := h.passes (halike.stray_iff.2 hv)
    have hopen : ((run js).reading && !(run js).rpc.closed) = true := by
      rw [halike.reading, halike.rpc, hr, hc]
      rfl
    simp only [queued, hopen] at hpass
    rw [List.length_cons, List.replicate_succ, List.append_cons]
    exact ih hpass fun x hx => hs x (List.mem_cons_of_mem _ hx)

/-- When those in front have been dispatched, no extra message is in the way. -/
theorem Strewn.clear (h : Strewn is js queue)
    (hs : ∀ x ∈ queue, x.2 = true → (run js).Stray x.1) :
    ∃ n queue', Strewn is (js ++ List.replicate n .dispatch) queue' ∧
      ∀ i, Unhindered (run (js ++ List.replicate n .dispatch)) queue' i := by
  have halike := h.alike
  have hnone : ∀ l i, Unhindered l [] i := by
    intro l i _
    cases i with
    | dispatch => exact fun x hx => by cases hx
    | close => exact .inl rfl
    | _ => trivial
  cases hr : (run is).reading with
  | false =>
    refine ⟨0, queue, by rwa [List.replicate_zero, List.append_nil], fun i hread => ?_⟩
    rw [List.replicate_zero, List.append_nil, halike.reading, hr] at hread
    cases hread
  | true =>
    cases hc : (run is).rpc.closed with
    | true =>
      have hdrained := ((run_delivered js).drained (by rw [halike.rpc, hc])).2
      obtain rfl : queue = [] := List.map_eq_nil_iff.1 (halike.all.symm.trans hdrained)
      exact ⟨0, [], by rwa [List.replicate_zero, List.append_nil], hnone _⟩
    | false =>
      have hsplit : queue.takeWhile (·.2) ++ queue.dropWhile (·.2) = queue :=
        List.takeWhile_append_dropWhile
      refine ⟨(queue.takeWhile (·.2)).length, queue.dropWhile (·.2), ?_, ?_⟩
      · refine pass_all (hsplit.symm ▸ h) hr hc fun x hx => ?_
        have hextra : x.2 = true := List.mem_takeWhile_imp hx
        exact ⟨hextra, halike.stray_iff.1 (hs x (hsplit ▸ List.mem_append_left _ hx) hextra)⟩
      · have hhead := List.head?_dropWhile_not (fun x : Value × Bool => x.2) queue
        cases hd : queue.dropWhile (·.2) with
        | nil => exact hnone _
        | cons x rest =>
          rw [hd] at hhead
          intro i _
          cases i with
          | dispatch => exact fun y hy => Option.some.inj hy ▸ hhead
          | close => exact .inr ⟨x, List.mem_cons_self, hhead⟩
          | _ => trivial

/-- **What can happen without the extra messages happens with them**, as soon as those in front have
    been dispatched. -/
theorem Strewn.next (h : Strewn is js queue)
    (hs : ∀ x ∈ queue, x.2 = true → (run js).Stray x.1) (i : Incident) :
    ∃ n queue', Strewn (is ++ [i]) (js ++ List.replicate n .dispatch ++ [i]) queue' := by
  obtain ⟨n, queue', h', hu⟩ := h.clear hs
  exact ⟨n, _, h'.own i (hu i)⟩

/-- How often the connection was run, and whether that is over: the first time when it is closed,
    and any other at once. -/
def returned (is : List Incident) : List Bool :=
  match is.countP Incident.isRun with
  | 0 => []
  | n + 1 => (run is).rpc.closed :: List.replicate n true

theorem Strewn.countP_isRun (h : Strewn is js queue) :
    js.countP Incident.isRun = is.countP Incident.isRun := by
  induction h with
  | start => rfl
  | own i _ _ ih => rw [List.countP_append, List.countP_append, ih]
  | arrives v _ ih | passes _ _ ih | holds _ _ ih =>
    rw [List.countP_append, ih]
    rfl

end

/-! ## What extra messages change -/

/-- With extra messages, a run is what it is without them. -/
structure Unmoved (is js : List Incident) (queue : List (Value × Bool)) : Prop where
  /-- The table is the same, the sends that are under way and what they have been told, and whether
      the connection is closed. -/
  rpc : (run js).rpc = (run is).rpc
  /-- The same is seen in the same order, but for messages: sends start under the same numbers, the
      same frames are written, sends end with the same results, and the end is noticed. -/
  seen : (run js).log.filter (!·.isMessage) = (run is).log.filter (!·.isMessage)
  /-- The messages that are not extra are dispatched in the same order. -/
  read : ((run is).log.filter Entry.isMessage).Sublist ((run js).log.filter Entry.isMessage)
  /-- Whoever ran the connection is done at the same time. -/
  returned : returned js = returned is
  /-- Nothing is held up: what can happen without the extra messages happens with them, as soon as
      those in front have been dispatched. -/
  next : (∀ x ∈ queue, x.2 = true → (run js).Stray x.1) → ∀ i, ∃ n queue',
    Strewn (is ++ [i]) (js ++ List.replicate n .dispatch ++ [i]) queue'

theorem Strewn.unmoved {is js : List Incident} {queue : List (Value × Bool)}
    (h : Strewn is js queue) : Unmoved is js queue where
  rpc := h.alike.rpc
  seen := h.alike.seen
  read := h.alike.read
  returned := by rw [Line.returned, Line.returned, h.countP_isRun, h.alike.rpc]
  next := h.next

/-- **Messages that answer nobody change nothing.**  However a run goes, and whenever extra messages
    come in between, each of which is no response frame or has a number under which nobody waits
    when its turn comes, it goes as it would without them.  Over a web socket, frames that bring no
    document and do not end it change nothing at all: what is read of a socket is the same without
    them, and so is the run of a connection that is given just what is read. -/
theorem strays_ignored :
    (∀ is js queue, Strewn is js queue → Unmoved is js queue) ∧
      (∀ xs ys, xs.filter (!isIdle ·) = ys.filter (!isIdle ·) →
        run (overSocket xs) = run (overSocket ys)) ∧
      (∀ taken fs gs,
        fs.filter (!WebSocket.Frame.isIdle ·) = gs.filter (!WebSocket.Frame.isIdle ·) →
        WebSocket.receive taken fs = WebSocket.receive taken gs) ∧
      ∀ xs, (∀ i, .inl i ∈ xs → i.message? = none ∧ i.hangsUp = false) →
        arrivals (overSocket xs) = (WebSocket.receive true (xs.filterMap Sum.getRight?)).1 ∧
          ((overSocket xs).any Incident.hangsUp = false ↔
            (WebSocket.receive true (xs.filterMap Sum.getRight?)).2 = .running) := by
  refine ⟨fun is js queue h => h.unmoved, fun xs ys h => ?_, fun taken fs gs h => ?_,
    overSocket_receive⟩
  · rw [← overSocket_filter xs, h, overSocket_filter]
  · rw [← WebSocket.receive_filter taken fs, h, WebSocket.receive_filter]

/-- A send that is answered, and the end of the connection. -/
def answeredOnce : List Incident :=
  [.send (.unregister { session := 1 }), .run, .hand 0, .wrote 0 (.ok ()),
    .arrive (ResponseFrame.toValue { id := 0, body := .unregister .accept }), .dispatch, .resume 0,
    .hangUp, .close]

/-- The same with a message that is no frame, a frame for a send that has not started, and the
    answer once more when the send has been told of it. -/
def answeredAmid : List Incident :=
  [.send (.unregister { session := 1 }), .arrive .null, .run, .dispatch, .hand 0, .wrote 0 (.ok ()),
    .arrive (ResponseFrame.toValue { id := 1, body := .unregister .accept }),
    .arrive (ResponseFrame.toValue { id := 0, body := .unregister .accept }), .dispatch, .dispatch,
    .arrive (ResponseFrame.toValue { id := 0, body := .unregister (.reject .internal) }), .dispatch,
    .resume 0, .hangUp, .close]

theorem stray_of_frame {l : Line} {f : ResponseFrame} (hf : ∀ a ∈ f.body.addresses, a.Readable)
    (h : ∀ p ∈ l.rpc.sends, p.id = f.id → p.told ≠ none) : l.Stray f.toValue := by
  intro g hg
  rw [ResponseFrame.ofValue, ResponseFrame.ofValue_toValue hf] at hg
  cases hg
  exact h

theorem answeredAmid_strewn : Strewn answeredOnce answeredAmid [] := by
  let ok (id : UInt32) : ResponseFrame := { id, body := .unregister .accept }
  let again : ResponseFrame := { id := 0, body := .unregister (.reject .internal) }
  have h := Strewn.start.own (.send (.unregister { session := 1 })) fun _ => trivial
  have h : Strewn _ _ [(.null, true)] := (h.arrives .null).own .run fun _ => trivial
  have h := h.passes fun f hf => by cases hf
  have h := (h.own (.hand 0) fun _ => trivial).own (.wrote 0 (.ok ())) fun _ => trivial
  have h : Strewn _ _ [((ok 1).toValue, true), ((ok 0).toValue, false)] :=
    (h.arrives (ok 1).toValue).own (.arrive (ok 0).toValue) fun _ => trivial
  have h := h.passes (stray_of_frame (List.forall_mem_nil _) (by decide))
  have h := h.own .dispatch fun _ x hx => by cases hx; rfl
  have h : Strewn _ _ [(again.toValue, true)] := h.arrives again.toValue
  have h := h.passes (stray_of_frame (List.forall_mem_nil _) (by decide))
  have h := (h.own (.resume 0) fun _ => trivial).own .hangUp fun _ => trivial
  exact h.own .close fun _ => .inl rfl

/-- A socket with a ping, a text that breaks off and a pong among the frames. -/
def amidIdle : List (Incident ⊕ WebSocket.Frame) :=
  [.inl .run, .inr .ping, .inr (.text "\x7b\x22id\x22"), .inr (.text "null"), .inr .pong,
    .inl .dispatch, .inr .close]

theorem strays_ignored_amid :
    Strewn answeredOnce answeredAmid [] ∧ Unmoved answeredOnce answeredAmid [] ∧
      (run answeredAmid).rpc.closed = true ∧
      (run answeredAmid).log.find? (·.ends 0) = some (.ended 0 (.ok (.unregister .accept))) ∧
      run (overSocket amidIdle) =
        run (overSocket [.inl .run, .inr (.text "null"), .inl .dispatch, .inr .close]) := by
  have hbroken : isIdle (.inr (.text "\x7b\x22id\x22")) = true := by decide +kernel
  have hnull : isIdle (.inr (.text "null")) = false := by decide +kernel
  have hfilter : amidIdle.filter (!isIdle ·) =
      [.inl .run, .inr (.text "null"), .inl .dispatch, .inr .close].filter (!isIdle ·) := by
    simp only [amidIdle, List.filter, hbroken, hnull]
    rfl
  exact ⟨answeredAmid_strewn, strays_ignored.1 _ _ _ answeredAmid_strewn, rfl, rfl,
    strays_ignored.2.1 _ _ hfilter⟩

end Line

end ClusterSession
