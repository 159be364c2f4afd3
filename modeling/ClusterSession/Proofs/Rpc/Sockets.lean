/-
  ClusterSession: a connection over a web socket.

  * `WebSocket.Frame.isIdle`: a frame that brings no document and does not end the socket;
    `receive_filter`: such frames are passed over.
  * `Line.overSocket`: what happens to a connection among its callers and the frames of its
    socket; `overSocket_filter`: idle frames bring nothing to it.
  * `overSocket_receive`: the connection is given just what the socket delivers.
-/
import ClusterSession.Proofs.Rpc.Deliveries
import ClusterSession.WebSocket

namespace ClusterSession

namespace WebSocket

/-- Nothing is read after the frame. -/
def Frame.ends : Frame → Bool
  | close | lost => true
  | _ => false

/-- A frame that brings no document, after which reading goes on. -/
def Frame.isIdle (f : Frame) : Bool := !f.ends && f.document?.isNone

section
variable {taken : Bool} {f : Frame} {rest rest' : List Frame}

theorem Frame.isIdle_iff : f.isIdle = true ↔ f.ends = false ∧ f.document? = none := by
  rw [isIdle, Bool.and_eq_true, Bool.not_eq_true', Option.isNone_iff_eq_none]

theorem receive_ends (h : f.ends = true) :
    ∃ result, receive taken (f :: rest) = ([], .ended result) := by
  cases f with
  | close => exact ⟨.ok (), rfl⟩
  | lost => exact ⟨.error .webSocket, rfl⟩
  | _ => cases h

theorem receive_cons (h : f.ends = false) :
    receive taken (f :: rest) =
      match f.document? with
      | none => receive taken rest
      | some v =>
        if taken then (v :: (receive taken rest).1, (receive taken rest).2)
        else ([], .ended (.ok ())) := by
  cases f with
  | close | lost => cases h
  | _ => rfl

/-- **Idle frames are passed over.** -/
theorem receive_filter (taken : Bool) (fs : List Frame) :
    receive taken (fs.filter (!·.isIdle)) = receive taken fs := by
  induction fs with
  | nil => rfl
  | cons f rest ih =>
    cases hf : f.isIdle with
    | true =>
      obtain ⟨hends, hnone⟩ := Frame.isIdle_iff.1 hf
      rw [List.filter_cons_of_neg (by simp [hf]), receive_cons hends, hnone, ih]
    | false =>
      rw [List.filter_cons_of_pos (by simp [hf])]
      cases hends : f.ends with
      | false => rw [receive_cons hends, receive_cons hends, ih]
      | true =>
        cases f with
        | close | lost => rfl
        | _ => cases hends

end

end WebSocket

namespace Line

/-- What a frame brings to a connection. -/
def ofFrame (f : WebSocket.Frame) : List Incident :=
  if f.ends then [.hangUp] else f.document?.toList.map .arrive

/-- What happens to a connection among its callers and the frames of its web socket. -/
def overSocket (xs : List (Incident ⊕ WebSocket.Frame)) : List Incident :=
  xs.flatMap (Sum.elim (fun i => [i]) ofFrame)

/-- An idle frame, and not what callers do. -/
def isIdle : Incident ⊕ WebSocket.Frame → Bool :=
  Sum.elim (fun _ => false) WebSocket.Frame.isIdle

/-- **Idle frames bring nothing to a connection.** -/
theorem overSocket_filter (xs : List (Incident ⊕ WebSocket.Frame)) :
    overSocket (xs.filter (!isIdle ·)) = overSocket xs := by
  induction xs with
  | nil => rfl
  | cons x rest ih =>
    unfold overSocket at ih ⊢
    cases hx : isIdle x with
    | false => rw [List.filter_cons_of_pos (by simp [hx]), List.flatMap_cons, List.flatMap_cons, ih]
    | true =>
      cases x with
      | inl i => cases hx
      | inr f =>
        obtain ⟨hends, hnone⟩ := WebSocket.Frame.isIdle_iff.1 hx
        have hnothing : Sum.elim (fun i => [i]) ofFrame (.inr f : Incident ⊕ WebSocket.Frame) =
            [] := by
          simp [ofFrame, hends, hnone]
        rw [List.filter_cons_of_neg (by simp [hx]), List.flatMap_cons, ih, hnothing,
          List.nil_append]

/-- **The connection is given the documents that the socket delivers**, and its messages end when
    reading does. -/
theorem overSocket_receive (xs : List (Incident ⊕ WebSocket.Frame))
    (h : ∀ i, .inl i ∈ xs → i.message? = none ∧ i.hangsUp = false) :
    arrivals (overSocket xs) = (WebSocket.receive true (xs.filterMap Sum.getRight?)).1 ∧
      ((overSocket xs).any Incident.hangsUp = false ↔
        (WebSocket.receive true (xs.filterMap Sum.getRight?)).2 = .running) := by
  induction xs with
  | nil => exact ⟨rfl, iff_of_true rfl rfl⟩
  | cons x rest ih =>
    have ih := ih fun i hi => h i (List.mem_cons_of_mem _ hi)
    unfold overSocket arrivals at ih ⊢
    rw [List.flatMap_cons]
    cases x with
    | inl i =>
      obtain ⟨hm, hh⟩ := h i List.mem_cons_self
      rw [show (Sum.inl i :: rest).filterMap Sum.getRight? = rest.filterMap Sum.getRight? from rfl]
      simpa [hm, hh] using ih
    | inr f =>
      show _ = (WebSocket.receive true (f :: rest.filterMap Sum.getRight?)).1 ∧
        (_ ↔ (WebSocket.receive true (f :: rest.filterMap Sum.getRight?)).2 = _)
      cases hends : f.ends with
      | true =>
        obtain ⟨result, hr⟩ : ∃ result, WebSocket.receive true
            (f :: rest.filterMap Sum.getRight?) = ([], .ended result) :=
          WebSocket.receive_ends hends
        rw [hr]
        simp [ofFrame, hends, Incident.hangsUp]
      | false =>
        rw [WebSocket.receive_cons hends]
        cases hd : f.document? with
        | none => simpa [ofFrame, hends, hd] using ih
        | some v => simpa [ofFrame, hends, hd, Incident.hangsUp, Incident.message?] using ih

end Line

end ClusterSession
