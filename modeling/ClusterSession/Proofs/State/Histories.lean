/-
  ClusterSession: a session state and all that was done to it.

  * `SessionStatus.Legal`: the steps of the lifecycle, one by one.
  * `SessionState.perform`: one operation and its answer; `SessionState.run` is one after
    another, and `SessionState.taken` are the statuses that the state takes meanwhile.
  * `SessionState.Tracks`: these are a path of legal steps, and watchers see where it ends.
  * `SessionState.Records`: what number, status and counters are after some operations.
  * `run_records`: a state that was never registered records whatever is done to it.
  * `Records.fits`: what it answers fits what has been done before.
-/
import ClusterSession.Proofs.Logs
import ClusterSession.State

namespace ClusterSession

/-! ## The lifecycle -/

namespace SessionStatus

/-- The steps of the lifecycle. -/
inductive Legal : Option SessionStatus → SessionStatus → Prop where
  | register : Legal none opened
  /-- A session that was never registered may be closed. -/
  | abandon : Legal none closed
  | falter : Legal (some opened) unstable
  | recover : Legal (some unstable) opened
  | expire {current : SessionStatus} (h : current = opened ∨ current = unstable) :
      Legal (some current) expired
  | close {current : SessionStatus} (h : current = opened ∨ current = unstable) :
      Legal (some current) closed

section
variable {old : Option SessionStatus} {next : SessionStatus}

/-- **A state takes the legal steps and no others.** -/
theorem mayFollow_iff : mayFollow old next = true ↔ Legal old next := by
  constructor
  · intro h
    rcases old with _ | current
    · have hfirst : next = opened ∨ next = closed := by simpa [mayFollow] using h
      rcases hfirst with rfl | rfl
      · exact .register
      · exact .abandon
    · have hcurrent : current = opened ∨ current = unstable := by
        cases current <;> first | exact .inl rfl | exact .inr rfl | cases h
      cases next with
      | opened =>
        rcases hcurrent with rfl | rfl
        · cases h
        · exact .recover
      | unstable =>
        rcases hcurrent with rfl | rfl
        · exact .falter
        · cases h
      | expired => exact .expire hcurrent
      | closed => exact .close hcurrent
  · intro h
    cases h with
    | register | abandon | falter | recover => rfl
    | expire h | close h => rcases h with rfl | rfl <;> rfl

/-- A step leads elsewhere. -/
theorem Legal.ne (h : Legal old next) : some next ≠ old := by
  intro he
  subst he
  cases h with
  | expire h | close h => rcases h with h | h <;> cases h

/-- No step leads away from a terminal status. -/
theorem Legal.not_terminal {current : SessionStatus} (h : Legal (some current) next) :
    current.isTerminal = false := by
  cases h with
  | falter | recover => rfl
  | expire h | close h => rcases h with rfl | rfl <;> rfl

end

end SessionStatus

namespace SessionState

/-! ## Operations -/

/-- What is done to a state. -/
inductive Operation where
  | assign (id : UInt64)
  | moveTo (next : SessionStatus)
  | nextCommand
  | raise (counter : Counter) (n : UInt64)
deriving DecidableEq, Repr

/-- What an operation answers. -/
inductive Answer where
  | verdict (b : Bool)
  | number (n : UInt64)
  | nothing
deriving DecidableEq, Repr

namespace Operation

/-- The number that is given to the session. -/
def given? : Operation → Option UInt64
  | assign id => some id
  | _ => none

/-- The value to which a counter is raised. -/
def raised? (counter : Counter) : Operation → Option UInt64
  | raise c n => if c = counter then some n else none
  | _ => none

/-- A command number is asked for. -/
def allots : Operation → Bool
  | nextCommand => true
  | _ => false

/-- The first number that was given to the session. -/
def firstGiven (os : List Operation) : Option UInt64 := (os.filterMap given?).head?

/-- The values to which a counter was raised. -/
def raises (counter : Counter) (os : List Operation) : List UInt64 :=
  os.filterMap (raised? counter)

/-- How many command numbers were asked for. -/
def allotted (os : List Operation) : Nat := os.countP allots

section
variable (os : List Operation) (o : Operation)

theorem firstGiven_concat : firstGiven (os ++ [o]) = (firstGiven os).or o.given? := by
  unfold firstGiven
  rw [filterMap_concat, List.head?_append]
  cases o.given? <;> rfl

theorem mem_raises_concat {counter : Counter} {n : UInt64} :
    n ∈ raises counter (os ++ [o]) ↔ n ∈ raises counter os ∨ o.raised? counter = some n := by
  unfold raises
  rw [filterMap_concat, List.mem_append, Option.mem_toList]

theorem allotted_concat : allotted (os ++ [o]) = allotted os + if o.allots then 1 else 0 := by
  unfold allotted
  rw [List.countP_append, List.countP_singleton]

end

end Operation

/-- The value of a counter that the application moves. -/
def level (s : SessionState) : Counter → UInt64
  | .commandResponse => s.commandResponse
  | .responseIndex => s.responseIndex
  | .eventIndex => s.eventIndex
  | .completeIndex => s.completeIndex

/-- Does something to a state; says what it answers. -/
def perform (s : SessionState) : Operation → Answer × SessionState
  | .assign id => (.verdict (s.assign id).1, (s.assign id).2)
  | .moveTo next => (.verdict (s.moveTo next).1, (s.moveTo next).2)
  | .nextCommand => (.number s.nextCommand.1, s.nextCommand.2)
  | .raise counter n => (.nothing, s.raise n counter)

/-- One operation after another. -/
def run (s : SessionState) (os : List Operation) : SessionState :=
  os.foldl (fun s o => (s.perform o).2) s

/-- The status that an operation takes a state to, if that is another one. -/
def takes? (s : SessionState) (o : Operation) : Option SessionStatus :=
  if (s.perform o).2.status = s.status then none else (s.perform o).2.status

/-- The statuses that a state takes, one after another. -/
def taken (s : SessionState) : List Operation → List SessionStatus
  | [] => []
  | o :: os => (s.takes? o).toList ++ (s.perform o).2.taken os

section
variable (s : SessionState) (os : List Operation) (o : Operation)

theorem run_concat : s.run (os ++ [o]) = ((s.run os).perform o).2 := by
  unfold run
  rw [List.foldl_append]
  rfl

theorem taken_concat : s.taken (os ++ [o]) = s.taken os ++ ((s.run os).takes? o).toList := by
  induction os generalizing s with
  | nil => exact List.append_nil _
  | cons o' os ih =>
    show (s.takes? o').toList ++ (s.perform o').2.taken (os ++ [o]) = _
    rw [ih, ← List.append_assoc]
    rfl

end

/-! ## What one operation does -/

/-- What an operation does to all but the status. -/
structure Does (s s' : SessionState) (o : Operation) : Prop where
  client : s'.clientId = s.clientId
  number : s'.sessionId = s.sessionId.or o.given?
  commands : s'.commandRequest = s.commandRequest + if o.allots then 1 else 0
  level : ∀ c, s'.level c = (o.raised? c).elim (s.level c) (max (s.level c))

/-- An operation that takes the status on, and tells the watchers. -/
structure Moves (s : SessionState) (o : Operation) (next : SessionStatus) : Prop where
  operation : o = .moveTo next
  legal : SessionStatus.Legal s.status next
  answer : (s.perform o).1 = .verdict true
  status : (s.perform o).2.status = some next
  watched : (s.perform o).2.watched = some next
  notices : (s.perform o).2.notices = s.notices + 1

/-- An operation that leaves the status. -/
structure Stays (s : SessionState) (o : Operation) : Prop where
  refused : ∀ next, o = .moveTo next →
    ¬SessionStatus.Legal s.status next ∧ (s.perform o).1 = .verdict false
  status : (s.perform o).2.status = s.status
  watched : (s.perform o).2.watched = s.watched
  notices : (s.perform o).2.notices = s.notices

section
variable (s : SessionState) (o : Operation)

theorem perform_does : s.Does (s.perform o).2 o := by
  cases o with
  | assign id =>
    show s.Does (s.assign id).2 _
    rw [assign_eq]
    exact ⟨rfl, rfl, (UInt64.add_zero _).symm, fun c => by cases c <;> rfl⟩
  | moveTo next =>
    show s.Does (s.moveTo next).2 _
    unfold moveTo
    split <;> exact ⟨rfl, Option.or_none.symm, (UInt64.add_zero _).symm,
      fun c => by cases c <;> rfl⟩
  | nextCommand => exact ⟨rfl, Option.or_none.symm, rfl, fun c => by cases c <;> rfl⟩
  | raise counter n =>
    constructor
    · cases counter <;> rfl
    · cases counter <;> exact Option.or_none.symm
    · cases counter <;> exact (UInt64.add_zero _).symm
    · intro c
      cases counter <;> cases c <;> rfl

/-- **An operation takes the status a legal step on, or leaves it.** -/
theorem moves_or_stays : (∃ next, s.Moves o next) ∨ s.Stays o := by
  cases o with
  | assign id =>
    right
    constructor
    · nofun
    all_goals rw [perform, assign_eq]
  | moveTo next =>
    by_cases h : SessionStatus.mayFollow s.status next = true
    · have hmove : s.moveTo next = (true, _) := if_pos h
      left
      refine ⟨next, rfl, SessionStatus.mayFollow_iff.1 h, ?_, ?_, ?_, ?_⟩
      all_goals simp only [perform, hmove]
    · have hmove : s.moveTo next = (false, s) := if_neg h
      right
      constructor
      · intro next' he
        cases he
        exact ⟨fun hl => h (SessionStatus.mayFollow_iff.2 hl), by rw [perform, hmove]⟩
      all_goals rw [perform, hmove]
  | nextCommand => exact .inr ⟨nofun, rfl, rfl, rfl⟩
  | raise counter n => cases counter <;> exact .inr ⟨nofun, rfl, rfl, rfl⟩

end

section
variable {s : SessionState} {o : Operation} {next : SessionStatus}

theorem Moves.takes? (h : s.Moves o next) : s.takes? o = some next := by
  have hne : (s.perform o).2.status ≠ s.status := by
    rw [h.status]
    exact h.legal.ne
  rw [SessionState.takes?, if_neg hne, h.status]

theorem Stays.takes? (h : s.Stays o) : s.takes? o = none := by
  rw [SessionState.takes?, if_pos h.status]

end

/-! ## The statuses taken -/

/-- The statuses of `path` have been taken, one after another. -/
structure Tracks (s : SessionState) (path : List SessionStatus) : Prop where
  /-- The status is the last one taken. -/
  status : s.status = path.getLast?
  /-- Every status taken is a legal step from the one before. -/
  legal : ∀ before next after, path = before ++ next :: after →
    SessionStatus.Legal before.getLast? next
  /-- Watchers see the status. -/
  watched : s.watched = s.status
  /-- Watchers have been told of every step. -/
  notices : s.notices = path.length

namespace Tracks

section
variable {s : SessionState} {path : List SessionStatus}

/-- One more step of the path. -/
theorem legal_concat (h : s.Tracks path) {step : SessionStatus}
    (hl : SessionStatus.Legal s.status step) (before : List SessionStatus) (next : SessionStatus)
    (after : List SessionStatus) (he : path ++ [step] = before ++ next :: after) :
    SessionStatus.Legal before.getLast? next := by
  rcases concat_split he with ⟨rfl, rfl, -⟩ | ⟨rest, hpath, -⟩
  · rw [← h.status]
    exact hl
  · exact h.legal before next rest hpath

theorem perform (h : s.Tracks path) (o : Operation) :
    (s.perform o).2.Tracks (path ++ (s.takes? o).toList) := by
  rcases s.moves_or_stays o with ⟨step, hm⟩ | hs
  · rw [hm.takes?, Option.toList_some]
    constructor
    · rw [List.getLast?_concat, hm.status]
    · exact h.legal_concat hm.legal
    · rw [hm.watched, hm.status]
    · rw [hm.notices, h.notices, List.length_append, List.length_singleton]
  · rw [hs.takes?, Option.toList_none, List.append_nil]
    constructor
    · rw [hs.status, h.status]
    · exact h.legal
    · rw [hs.watched, hs.status, h.watched]
    · rw [hs.notices, h.notices]

/-- Nothing follows a terminal status. -/
theorem ended (h : s.Tracks path) {before after : List SessionStatus} {next : SessionStatus}
    (hp : path = before ++ next :: after) (hn : next.isTerminal = true) : after = [] := by
  cases after with
  | nil => rfl
  | cons later rest =>
    have hl := h.legal (before ++ [next]) later rest (by simp [hp])
    rw [List.getLast?_concat] at hl
    rw [hl.not_terminal] at hn
    cases hn

end

end Tracks

/-! ## What the operations leave -/

/-- What a state shows after some operations, in which it took the statuses of `path`. -/
structure Records (clientId : String) (s : SessionState) (os : List Operation)
    (path : List SessionStatus) : Prop extends s.Tracks path where
  /-- The client never changes. -/
  client : s.clientId = clientId
  /-- The number of the session is the first that was given. -/
  number : s.sessionId = Operation.firstGiven os
  /-- The last command number says how many were asked for, until there are no more of them. -/
  commands : Operation.allotted os < UInt64.size → s.commandRequest.toNat = Operation.allotted os
  /-- No counter is below a value to which it was raised. -/
  highest : ∀ c, ∀ n ∈ Operation.raises c os, n ≤ s.level c
  /-- A counter is at zero, or was raised to its value. -/
  reached : ∀ c, s.level c = 0 ∨ s.level c ∈ Operation.raises c os

/-- What an operation answers after others, if it takes the status from `old` to `new`. -/
def Answer.Fits (a : Answer) (os : List Operation) (old new : Option SessionStatus) :
    Operation → Prop
  | .assign id =>
    a = .verdict (Operation.firstGiven (os ++ [.assign id]) = some id) ∧ new = old
  | .moveTo next =>
    a = .verdict (new ≠ old) ∧ (SessionStatus.Legal old next → new = some next) ∧
      (¬SessionStatus.Legal old next → new = old)
  | .nextCommand =>
    (∃ n, a = .number n ∧
      (Operation.allotted os + 1 < UInt64.size → n.toNat = Operation.allotted os + 1)) ∧ new = old
  | .raise _ _ => a = .nothing ∧ new = old

theorem fresh_records (clientId : String) : (fresh clientId).Records clientId [] [] where
  status := rfl
  legal := by
    intro before next after h
    exact absurd h.symm (List.append_ne_nil_of_right_ne_nil _ (List.cons_ne_nil _ _))
  watched := rfl
  notices := rfl
  client := rfl
  number := rfl
  commands _ := rfl
  highest _ := nofun
  reached c := by
    left
    cases c <;> rfl

namespace Records

section
variable {clientId : String} {s : SessionState} {os : List Operation} {path : List SessionStatus}

/-- A command number that is asked for is the next one. -/
theorem nextCommand (h : s.Records clientId os path)
    (hlt : Operation.allotted os + 1 < UInt64.size) :
    (s.commandRequest + 1).toNat = Operation.allotted os + 1 := by
  have hn := h.commands (by omega)
  have hone : (1 : UInt64).toNat = 1 := rfl
  rw [UInt64.toNat_add, hn, hone]
  exact Nat.mod_eq_of_lt hlt

/-- A counter keeps the highest value to which it was raised. -/
theorem level_concat (h : s.Records clientId os path) (o : Operation) (c : Counter) :
    (∀ n ∈ Operation.raises c (os ++ [o]), n ≤ (s.perform o).2.level c) ∧
      ((s.perform o).2.level c = 0 ∨
        (s.perform o).2.level c ∈ Operation.raises c (os ++ [o])) := by
  rw [(s.perform_does o).level c]
  simp only [Operation.mem_raises_concat]
  cases hr : o.raised? c with
  | none =>
    constructor
    · rintro n (hn | hn)
      · exact h.highest c n hn
      · cases hn
    · exact (h.reached c).imp_right .inl
  | some m =>
    show (∀ n, n ∈ Operation.raises c os ∨ some m = some n → n ≤ max (s.level c) m) ∧
      (max (s.level c) m = 0 ∨ max (s.level c) m ∈ Operation.raises c os ∨
        some m = some (max (s.level c) m))
    by_cases hle : s.level c ≤ m
    · have hmax : max (s.level c) m = m := if_pos hle
      rw [hmax]
      constructor
      · rintro n (hn | hn)
        · exact UInt64.le_trans (h.highest c n hn) hle
        · cases hn
          exact UInt64.le_refl _
      · exact .inr (.inr rfl)
    · have hmax : max (s.level c) m = s.level c := if_neg hle
      rw [hmax]
      constructor
      · rintro n (hn | hn)
        · exact h.highest c n hn
        · cases hn
          exact (UInt64.le_total _ _).resolve_left hle
      · exact (h.reached c).imp_right .inl

/-- **Every operation is recorded.** -/
theorem perform (h : s.Records clientId os path) (o : Operation) :
    (s.perform o).2.Records clientId (os ++ [o]) (path ++ (s.takes? o).toList) := by
  have hd := s.perform_does o
  refine ⟨h.toTracks.perform o, hd.client.trans h.client, ?_, ?_,
    fun c => (h.level_concat o c).1, fun c => (h.level_concat o c).2⟩
  · rw [hd.number, h.number, Operation.firstGiven_concat]
  · rw [Operation.allotted_concat, hd.commands]
    intro hlt
    by_cases ha : o.allots = true
    · simp only [if_pos ha] at hlt ⊢
      exact h.nextCommand hlt
    · simp only [if_neg ha, UInt64.add_zero, Nat.add_zero] at hlt ⊢
      exact h.commands hlt

/-- **What an operation answers fits what has been done before.** -/
theorem fits (h : s.Records clientId os path) (o : Operation) :
    (s.perform o).1.Fits os s.status (s.perform o).2.status o := by
  cases o with
  | assign id =>
    rw [SessionState.perform, assign_eq, Answer.Fits, Operation.firstGiven_concat, ← h.number]
    exact ⟨rfl, rfl⟩
  | moveTo next =>
    rcases s.moves_or_stays (.moveTo next) with ⟨step, hm⟩ | hs
    · obtain rfl : next = step := Operation.moveTo.inj hm.operation
      rw [hm.answer, hm.status]
      exact ⟨by rw [decide_eq_true hm.legal.ne], fun _ => rfl, fun hn => absurd hm.legal hn⟩
    · obtain ⟨hrefused, hanswer⟩ := hs.refused next rfl
      rw [hanswer, hs.status]
      exact ⟨by simp, fun hl => absurd hl hrefused, fun _ => rfl⟩
  | nextCommand =>
    exact ⟨⟨s.commandRequest + 1, rfl, h.nextCommand⟩, rfl⟩
  | raise counter n => cases counter <;> exact ⟨rfl, rfl⟩

end

end Records

/-- **A state that was never registered records whatever is done to it.** -/
theorem run_records (clientId : String) (os : List Operation) :
    ((fresh clientId).run os).Records clientId os ((fresh clientId).taken os) := by
  induction os using List.reverseRecOn with
  | nil => exact fresh_records clientId
  | append_singleton os o ih =>
    rw [run_concat, taken_concat]
    exact ih.perform o

end SessionState

end ClusterSession
