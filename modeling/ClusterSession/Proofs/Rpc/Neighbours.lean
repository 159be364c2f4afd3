/-
  ClusterSession: a send among others.

  * `Line.Concerns`, `Line.Only`: what happens has to do with one send, and with no other.
  * `Line.Keeps`: a send is not over, and waits under its number unless it was told its result.
  * `Line.Peaceful`: a send that starts does nothing to the others, whatever becomes of it, and
    the end of an older one does nothing to it.
  * `step_mem`: what has to do with one send leaves those that have other numbers as they are.
  * `peaceful_iff`: a send that starts is peaceful exactly if its number has not come round to
    one that is not over.
  * `round_disturbs`: a send that is still waiting when its number comes round.
-/
import ClusterSession.Proofs.Rpc.Laps

namespace ClusterSession

open Json

namespace Rpc

section
variable {c : Rpc} {begun : Nat} {p q : Pending}

/-- Whoever has another number is not told. -/
theorem Kept.mem_answer (h : c.Kept begun) (hq : q ∈ c.sends) {id : UInt32} (hid : q.id ≠ id)
    (result : Except ConnectionError Response) : q ∈ (c.answer id result).sends := by
  rw [answer_eq]
  refine List.mem_map.2 ⟨q, hq, if_neg fun hl => hid ?_⟩
  obtain ⟨p, hp, ht, hpid, -⟩ := (h.waiting _ _).1 (h.lookup_eq_some.1 hl)
  rw [← List.inj_on_of_nodup_map h.tokens hp hq ht]
  exact hpid

/-- The end of a send does nothing to one that has another number. -/
theorem Kept.mem_finish_of_ne (h : c.Kept begun) (hq : q ∈ c.sends) (ht : q.token ≠ p.token)
    (hid : q.id ≠ p.id) : q ∈ (c.finish p).sends := by
  rw [finish_eq_unpark]
  exact List.mem_filter.2 ⟨h.mem_answer hq hid _, decide_eq_true ht⟩

/-- Whoever is left under a number that was given up was told a result. -/
theorem Kept.told_of_unpark (h : c.Kept begun) {id : UInt32} (hq : q ∈ (c.unpark id).sends)
    (hid : q.id = id) : q.told ≠ none := fun hn =>
  unpark_free id q.token (((unpark_kept h id).waiting _ _).2 ⟨q, hq, rfl, hid, hn⟩)

theorem Kept.told_of_finish (h : c.Kept begun) (hq : q ∈ (c.finish p).sends) (hid : q.id = p.id) :
    q.told ≠ none := by
  rw [finish_eq_unpark] at hq
  exact h.told_of_unpark (List.mem_of_mem_filter hq) hid

end

end Rpc

namespace Line

/-- What happens has to do with the send and with no other: with its frame, its result, its caller,
    or a response that has its number. -/
def Concerns (l : Line) (t : Token) : Incident → Prop
  | .hand u | .wrote u _ | .resume u | .abandon u => u = t
  | .dispatch => ∀ v f, l.inbound.head? = some v → ResponseFrame.ofValue v = .ok f →
    f.id = UInt32.ofNat t
  | .arrive _ | .hangUp | .run => True
  | .send _ | .close => False

/-- All that happens has to do with the send and with no other. -/
def Only (t : Token) : Line → List Incident → Prop
  | _, [] => True
  | l, i :: rest => l.Concerns t i ∧ Only t (l.step i) rest

/-- The send is not over, and if it was not told its result, it waits under its number. -/
structure Keeps (l : Line) (q : Pending) : Prop where
  pending : q ∈ l.rpc.sends
  parked : q.told = none → (q.id, q.token) ∈ l.rpc.callbacks

/-- The next send, when it has started. -/
def newcomer (l : Line) : Pending :=
  { token := l.begun, id := UInt32.ofNat l.begun, written := false, told := none }

/-- A send that starts next disturbs no other: whatever happens to it, all others are kept; and
    whatever happens to one of the others, the end of it included, the new one is kept. -/
structure Peaceful (l : Line) (r : Request) : Prop where
  others : ∀ more, Only l.begun (l.step (.send r)) more → ∀ p ∈ l.rpc.sends,
    (more.foldl step (l.step (.send r))).Keeps p
  newcomer : ∀ p ∈ l.rpc.sends, ∀ more, Only p.token (l.step (.send r)) more →
    (more.foldl step (l.step (.send r))).Keeps l.newcomer

section
variable {l : Line} {q : Pending} {t : Token}

theorem Heard.keeps (h : l.Heard) (hq : q ∈ l.rpc.sends) : l.Keeps q :=
  ⟨hq, fun hn => (h.kept.waiting _ _).2 ⟨q, hq, rfl, rfl, hn⟩⟩

/-- **What has to do with one send leaves those that have other numbers as they are.** -/
theorem step_mem (h : l.Heard) (hq : q ∈ l.rpc.sends) (hid : q.id ≠ UInt32.ofNat t)
    {i : Incident} (hc : l.Concerns t i) : q ∈ (l.step i).rpc.sends := by
  have ht : q.token ≠ t := by
    rintro rfl
    exact hid (h.kept.numbered q hq).2
  have hfinish : ∀ p, l.rpc.send? t = some p → q ∈ (l.rpc.finish p).sends := by
    intro p hp
    obtain ⟨hm, rfl⟩ := Rpc.mem_of_send? hp
    refine h.kept.mem_finish_of_ne hq ht ?_
    rwa [(h.kept.numbered p hm).2]
  cases i with
  | hand u =>
    simp only [step, Line.hand]
    split <;> exact hq
  | wrote u outcome =>
    obtain rfl : u = t := hc
    simp only [step, Line.wrote]
    split
    · next p hp _ =>
      split
      · exact hq
      · cases outcome with
        | ok _ =>
          show q ∈ (l.rpc.noteWritten u).sends
          rw [Rpc.noteWritten_sends]
          exact List.mem_map.2 ⟨q, hq, if_neg ht⟩
        | error e =>
          simp only [Rpc.written, hp]
          exact hfinish p hp
    · exact hq
  | resume u =>
    obtain rfl : u = t := hc
    simp only [step, Rpc.resume]
    split
    · next p hp =>
      split
      · exact hfinish p hp
      · exact hq
    · exact hq
  | abandon u =>
    obtain rfl : u = t := hc
    simp only [step, Line.abandon]
    split
    · next p hp =>
      rw [Rpc.abandon, hp]
      exact hfinish p hp
    · exact hq
  | arrive v =>
    simp only [step]
    split <;> exact hq
  | hangUp => exact hq
  | run => exact hq
  | dispatch =>
    simp only [step, Line.dispatch]
    split
    · next v rest _ hin =>
      show q ∈ (l.rpc.receive v).sends
      unfold Rpc.receive
      split
      · next f hf =>
        refine h.kept.mem_answer hq ?_ _
        rwa [hc v f (by rw [hin]; rfl) hf]
      · exact hq
    · exact hq
  | send r => exact hc.elim
  | close => exact hc.elim

/-- So does all that happens, if it has to do with one send only. -/
theorem foldl_keeps (h : l.Heard) (hq : q ∈ l.rpc.sends) (hid : q.id ≠ UInt32.ofNat t)
    {more : List Incident} (ho : Only t l more) : (more.foldl step l).Keeps q := by
  induction more generalizing l with
  | nil => exact h.keeps hq
  | cons i rest ih => exact ih (step_heard h i) (step_mem h hq hid ho.1) ho.2

/-- The sends when one more has started. -/
theorem Heard.send_sends (h : l.Heard) (ho : l.rpc.closed = false) (r : Request) :
    (l.step (.send r)).rpc.sends =
      (l.rpc.unpark (UInt32.ofNat l.begun)).sends ++ [l.newcomer] := by
  simp only [step, Line.send, Rpc.start_eq_unpark h.kept ho]
  rfl

end

/-- **A send that starts disturbs no other, unless its number has come round** to one that is not
    over.  Then either that one is told at once that its wait was given up, or, if it was told its
    result before, its end gives up the wait of the new one. -/
theorem peaceful_iff (is : List Incident) (r : Request) (ho : (run is).rpc.closed = false) :
    (run is).Peaceful r ↔
      ∀ t id, Pends (run is).log t id → ¬UInt32.size ∣ (run is).begun - t := by
  generalize hl : run is = l at ho ⊢
  have h : l.Heard := hl ▸ run_heard is
  have hstep : (l.step (.send r)).Heard := step_heard h _
  have hsends := h.send_sends ho r
  have hsame : ∀ p ∈ l.rpc.sends,
      p.id = UInt32.ofNat l.begun ↔ UInt32.size ∣ l.begun - p.token := by
    intro p hp
    obtain ⟨hlt, hid⟩ := h.kept.numbered p hp
    rw [hid]
    exact ofNat_eq_iff_dvd (Nat.le_of_lt hlt)
  constructor
  · intro hpeace t id hpends hdvd
    obtain ⟨p, hp, rfl, rfl⟩ := (h.pends t id).1 hpends
    have hid := (hsame p hp).2 hdvd
    have hm := (hpeace.others [] trivial p hp).pending
    -- it is still there, so it was told before; but now the new one goes with it
    have hnew := (hpeace.newcomer p hp [.abandon p.token] ⟨rfl, trivial⟩).pending
    rw [List.foldl_nil] at hm
    have habandon : ((l.step (.send r)).step (.abandon p.token)).rpc =
        (l.step (.send r)).rpc.finish p := by
      show ((l.step (.send r)).abandon p.token).rpc = _
      simp only [Line.abandon, Rpc.abandon, hstep.send?_eq hm]
    rw [List.foldl_cons, List.foldl_nil, habandon] at hnew
    exact hstep.kept.told_of_finish hnew hid.symm rfl
  · intro hround
    have hne : ∀ p ∈ l.rpc.sends, p.id ≠ UInt32.ofNat l.begun := fun p hp hid =>
      hround p.token p.id ((h.pends _ _).2 ⟨p, hp, rfl, rfl⟩) ((hsame p hp).1 hid)
    refine ⟨fun more hmore p hp => ?_, fun p hp more hmore => ?_⟩
    · refine foldl_keeps hstep ?_ (hne p hp) hmore
      rw [hsends]
      exact List.mem_append_left _ (h.kept.mem_answer hp (hne p hp) _)
    · refine foldl_keeps hstep ?_ ?_ hmore
      · rw [hsends]
        exact List.mem_append_right _ List.mem_cons_self
      · rw [← (h.kept.numbered p hp).2]
        exact (hne p hp).symm

/-- Next to a send that is not answered, another one does no harm. -/
theorem peaceful_iff_second :
    (run [.send closing]).rpc.closed = false ∧ (run [.send closing]).Peaceful closing := by
  refine ⟨rfl, (peaceful_iff [.send closing] closing rfl).2 fun t id hpends hdvd => ?_⟩
  have h := run_heard [.send closing]
  have hlt : t < (run [.send closing]).begun := h.count ▸ (hpends.numbered h.numbered).1
  have hle := Nat.le_of_dvd (Nat.sub_pos_of_lt hlt) hdvd
  have hbegun : (run [.send closing]).begun = 1 := rfl
  rw [hbegun] at hle
  exact absurd (Nat.le_trans hle (Nat.sub_le 1 t)) (by decide)

/-- **A send that starts when its number has come round disturbs the one that has it.**  The first
    of `2 ^ 32` sends still waits when the next one starts; it is told that its wait was given up,
    and the new one waits in its place. -/
theorem round_disturbs :
    (run (rounds (UInt32.size - 1))).rpc.closed = false ∧
      (run (rounds (UInt32.size - 1))).Keeps first ∧
      ¬(run (rounds (UInt32.size - 1))).Peaceful closing ∧
      (run (rounds (UInt32.size - 1) ++ [.send closing])).rpc = { lonely (UInt32.size + 1) with
        callbacks := [(0, UInt32.size)]
        sends := [{ first with told := some (.error .channelClosed) },
          { token := UInt32.size, id := 0, written := false, told := none }] } := by
  obtain ⟨hrpc, -⟩ := run_full
  have hlapped := run_lapped
  have h := run_heard (rounds (UInt32.size - 1))
  rw [run_concat] at hlapped ⊢
  -- from here on, the run itself does not matter
  generalize run (rounds (UInt32.size - 1)) = l at hrpc hlapped h ⊢
  have hfirst : first ∈ l.rpc.sends := by rw [hrpc]; exact List.mem_cons_self
  refine ⟨by rw [hrpc]; rfl, h.keeps hfirst, fun hpeace => ?_, hlapped⟩
  have hkept := (hpeace.others [] trivial first hfirst).pending
  rw [List.foldl_nil, hlapped] at hkept
  simp [first] at hkept

end Line

end ClusterSession
