/-
  ClusterSession: session states and the handles to them.

  * `Holdings`: the states that were made, and where each handle leads; `Deed` is what the
    holders of handles do, and `Holdings.run` is one deed after another.
  * `Holdings.received`: the operations on one state, through whatever handle.
  * `Holdings.Kept`: every state is what the operations on it have made of a fresh one.
  * `target?_run`: a handle leads to its state until it is dropped.
  * `histories_shared`: all handles to a state show the whole history of the state.
-/
import ClusterSession.Proofs.State.Histories

namespace ClusterSession

open SessionState (Operation Answer)

/-! ## States and handles -/

/-- States, and the handles that lead to them. -/
structure Holdings where
  states : List SessionState
  /-- For each handle its state, as long as the handle has not been dropped. -/
  handles : List (Option Nat)

/-- What the holders of handles do. -/
inductive Deed where
  /-- Makes a state that was never registered, with a handle to it. -/
  | create (clientId : String)
  /-- Makes one more handle to the state of a handle. -/
  | clone (handle : Nat)
  | drop (handle : Nat)
  | operate (handle : Nat) (o : Operation)
deriving DecidableEq, Repr

/-- The client of the state that a deed makes. -/
def Deed.client? : Deed → Option String
  | create clientId => some clientId
  | _ => none

namespace Holdings

def empty : Holdings := { states := [], handles := [] }

/-- The state to which a handle leads. -/
def target? (w : Holdings) (h : Nat) : Option Nat := (w.handles[h]?).join

/-- What is read through a handle. -/
def read? (w : Holdings) (h : Nat) : Option SessionState :=
  (w.target? h).bind fun i => w.states[i]?

/-- What an operation answers through a handle. -/
def answer? (w : Holdings) (h : Nat) (o : Operation) : Option Answer :=
  (w.read? h).map fun s => (s.perform o).1

def perform (w : Holdings) : Deed → Holdings
  | .create clientId =>
    { states := w.states ++ [.fresh clientId], handles := w.handles ++ [some w.states.length] }
  | .clone h => { w with handles := w.handles ++ [w.target? h] }
  | .drop h => { w with handles := w.handles.set h none }
  | .operate h o =>
    match w.target? h with
    | some i => { w with states := w.states.modify i fun s => (s.perform o).2 }
    | none => w

/-- One deed after another. -/
def run (w : Holdings) (ds : List Deed) : Holdings := ds.foldl perform w

/-- The operation on one state, if a deed is one. -/
def operation? (w : Holdings) (i : Nat) : Deed → Option Operation
  | .operate h o => if w.target? h = some i then some o else none
  | _ => none

/-- The operations on one state, through whatever handle. -/
def received (w : Holdings) (i : Nat) : List Deed → List Operation
  | [] => []
  | d :: ds => (w.operation? i d).toList ++ (w.perform d).received i ds

section
variable (w : Holdings) (ds : List Deed) (d : Deed)

theorem run_concat : w.run (ds ++ [d]) = (w.run ds).perform d := by
  unfold run
  rw [List.foldl_append]
  rfl

theorem received_concat (i : Nat) :
    w.received i (ds ++ [d]) = w.received i ds ++ ((w.run ds).operation? i d).toList := by
  induction ds generalizing w with
  | nil => exact List.append_nil _
  | cons d' ds ih =>
    show (w.operation? i d').toList ++ (w.perform d').received i (ds ++ [d]) = _
    rw [ih, ← List.append_assoc]
    rfl

end

/-! ## Where handles lead -/

section
variable {w : Holdings} {h i : Nat}

theorem lt_of_target? (hh : w.target? h = some i) : h < w.handles.length := by
  by_contra hge
  rw [target?, List.getElem?_eq_none (Nat.le_of_not_lt hge)] at hh
  cases hh

/-- A new handle leads where it was made to lead, and the others stay. -/
theorem target?_push (states : List SessionState) (target : Option Nat) (h : Nat) :
    target? { states, handles := w.handles ++ [target] } h =
      if h = w.handles.length then target else w.target? h := by
  unfold target?
  by_cases hlast : h = w.handles.length
  · rw [if_pos hlast, hlast, List.getElem?_concat_length]
    rfl
  · rw [if_neg hlast]
    by_cases hlt : h < w.handles.length
    · rw [List.getElem?_append_left hlt]
    · have hle : w.handles.length + 1 ≤ h := by omega
      rw [List.getElem?_eq_none (by rwa [List.length_append]),
        List.getElem?_eq_none (by omega)]

theorem target?_drop (h' : Nat) :
    (w.perform (.drop h)).target? h' = if h' = h then none else w.target? h' := by
  show ((w.handles.set h none)[h']?).join = _
  rw [List.getElem?_set]
  by_cases he : h' = h
  · subst he
    rw [if_pos rfl, if_pos rfl]
    split <;> rfl
  · rw [if_neg (Ne.symm he), if_neg he]
    rfl

theorem target?_operate (o : Operation) (h' : Nat) :
    (w.perform (.operate h o)).target? h' = w.target? h' := by
  simp only [perform]
  split <;> rfl

/-- A handle leads to its state until it is dropped. -/
theorem target?_perform (hh : w.target? h = some i) {d : Deed} (hd : d ≠ .drop h) :
    (w.perform d).target? h = some i := by
  have hne : h ≠ w.handles.length := Nat.ne_of_lt (lt_of_target? hh)
  cases d with
  | create clientId =>
    rw [perform, target?_push, if_neg hne]
    exact hh
  | clone h' =>
    rw [perform, target?_push, if_neg hne]
    exact hh
  | drop h' =>
    have he : h ≠ h' := by
      rintro rfl
      exact hd rfl
    rw [target?_drop, if_neg he]
    exact hh
  | operate h' o =>
    rw [target?_operate]
    exact hh

theorem target?_run (hh : w.target? h = some i) {ds : List Deed} (hd : .drop h ∉ ds) :
    (w.run ds).target? h = some i := by
  induction ds generalizing w with
  | nil => exact hh
  | cons d ds ih =>
    have hfirst : d ≠ .drop h := fun he => hd (he ▸ List.mem_cons_self)
    exact ih (target?_perform hh hfirst) fun hm => hd (List.mem_cons_of_mem _ hm)

/-- A clone leads where its original leads. -/
theorem target?_clone (hh : w.target? h = some i) :
    (w.perform (.clone h)).target? w.handles.length = some i := by
  rw [perform, target?_push, if_pos rfl]
  exact hh

end

/-! ## What the deeds leave -/

/-- Every state is what the operations on it have made of a fresh one, and every handle leads to a
    state. -/
structure Kept (w : Holdings) (clients : List String) (done : Nat → List Operation) : Prop where
  states : w.states = clients.mapIdx fun i clientId => (SessionState.fresh clientId).run (done i)
  targets : ∀ h i, w.target? h = some i → i < clients.length
  /-- Nothing is done to a state before it is made. -/
  unmade : ∀ i, clients.length ≤ i → done i = []

namespace Kept

section
variable {w : Holdings} {clients : List String} {done : Nat → List Operation}

/-- What is read through a handle. -/
theorem read? (hw : w.Kept clients done) {h i : Nat} {clientId : String}
    (hh : w.target? h = some i) (hc : clients[i]? = some clientId) :
    w.read? h = some ((SessionState.fresh clientId).run (done i)) := by
  rw [Holdings.read?, hh, hw.states]
  show (clients.mapIdx _)[i]? = _
  rw [List.getElem?_mapIdx, hc]
  rfl

/-- Handles that lead where handles led change nothing. -/
theorem lead (hw : w.Kept clients done) {handles : List (Option Nat)}
    (ht : ∀ h i, target? { w with handles } h = some i → ∃ h', w.target? h' = some i) :
    Kept { w with handles } clients done where
  states := hw.states
  targets h i hh := by
    obtain ⟨h', hh'⟩ := ht h i hh
    exact hw.targets h' i hh'
  unmade := hw.unmade

/-- A new state is fresh. -/
theorem create (hw : w.Kept clients done) (clientId : String) :
    (w.perform (.create clientId)).Kept (clients ++ [clientId]) done := by
  have hlength : w.states.length = clients.length := by rw [hw.states, List.length_mapIdx]
  constructor
  · show w.states ++ [SessionState.fresh clientId] = _
    rw [List.mapIdx_concat, ← hw.states, hw.unmade _ (Nat.le_refl _)]
    rfl
  · intro h i hh
    rw [perform, target?_push] at hh
    rw [List.length_append, List.length_singleton]
    split at hh
    · cases hh
      omega
    · have hlt := hw.targets h i hh
      omega
  · intro i hi
    rw [List.length_append] at hi
    exact hw.unmade i (by omega)

/-- An operation is done to the state to which the handle leads, and to no other. -/
theorem operate (hw : w.Kept clients done) {h j : Nat} (hj : w.target? h = some j)
    (o : Operation) :
    (w.perform (.operate h o)).Kept clients
      fun i => done i ++ (w.operation? i (.operate h o)).toList := by
  have hreaches : ∀ i, w.operation? i (.operate h o) = if i = j then some o else none := by
    intro i
    by_cases hi : i = j
    · rw [operation?, hj, if_pos hi, if_pos (by rw [hi])]
    · rw [operation?, hj, if_neg hi, if_neg fun he => hi (Option.some.inj he).symm]
  simp only [hreaches]
  constructor
  · simp only [perform, hj, hw.states]
    apply List.ext_getElem?
    intro i
    rw [List.getElem?_modify, List.getElem?_mapIdx, List.getElem?_mapIdx]
    cases clients[i]? with
    | none => rfl
    | some clientId =>
      by_cases hi : i = j
      · subst hi
        simp [SessionState.run_concat]
      · simp [hi, Ne.symm hi]
  · intro h' i hh
    rw [target?_operate] at hh
    exact hw.targets h' i hh
  · intro i hi
    have hne : i ≠ j := by
      have hlt := hw.targets h j hj
      omega
    rw [hw.unmade i hi, if_neg hne]
    rfl

theorem perform (hw : w.Kept clients done) (d : Deed) :
    (w.perform d).Kept (clients ++ d.client?.toList)
      fun i => done i ++ (w.operation? i d).toList := by
  have hquiet : ∀ d : Deed, (∀ i, w.operation? i d = none) →
      (fun i => done i ++ (w.operation? i d).toList) = done := by
    intro d hd
    funext i
    rw [hd, Option.toList_none, List.append_nil]
  have hmade : ∀ d : Deed, d.client? = none → clients ++ d.client?.toList = clients := by
    intro d hd
    rw [hd, Option.toList_none, List.append_nil]
  cases d with
  | create clientId =>
    rw [hquiet _ fun _ => rfl]
    exact hw.create clientId
  | clone h =>
    rw [hquiet _ fun _ => rfl, hmade _ rfl]
    refine hw.lead fun h' i hh => ?_
    rw [target?_push] at hh
    split at hh
    · exact ⟨h, hh⟩
    · exact ⟨h', hh⟩
  | drop h =>
    rw [hquiet _ fun _ => rfl, hmade _ rfl]
    refine hw.lead fun h' i hh => ?_
    have hh' : (w.perform (.drop h)).target? h' = some i := hh
    rw [target?_drop] at hh'
    split at hh'
    · cases hh'
    · exact ⟨h', hh'⟩
  | operate h o =>
    rw [hmade _ rfl]
    cases hj : w.target? h with
    | some j => exact hw.operate hj o
    | none =>
      have hsame : w.perform (.operate h o) = w := by rw [Holdings.perform, hj]
      rw [hsame, hquiet _ fun i => by rw [operation?, hj, if_neg nofun]]
      exact hw

end

end Kept

/-- **Every state is what was done to it, through whatever handles.** -/
theorem run_kept (ds : List Deed) :
    (empty.run ds).Kept (ds.filterMap Deed.client?) fun i => empty.received i ds := by
  induction ds using List.reverseRecOn with
  | nil => exact ⟨rfl, nofun, fun _ _ => rfl⟩
  | append_singleton ds d ih =>
    have hd := ih.perform d
    rw [filterMap_concat, run_concat]
    simp only [received_concat]
    exact hd

/-- **Handles to one state.**  Whatever is done, in whatever order and through whatever handles, all
    handles to a state read the same: what the operations on that state have made of a fresh one.
    The number of the session is the first that was given; the statuses taken are legal steps,
    nothing follows a terminal one, and watchers see the last; the counters are the highest values
    to which they were raised, and the command number says how many were asked for.  The next
    operation answers accordingly through each of the handles, and all of them read what it leaves.
    A clone leads where its original leads, and a handle leads there until it is dropped. -/
theorem histories_shared (ds : List Deed) {h i : Nat}
    (hh : (empty.run ds).target? h = some i) :
    let w := empty.run ds
    let os := empty.received i ds
    ∃ clientId, (ds.filterMap Deed.client?)[i]? = some clientId ∧
      let s := (SessionState.fresh clientId).run os
      let path := (SessionState.fresh clientId).taken os
      (∀ h', w.target? h' = some i → w.read? h' = some s) ∧
      s.Records clientId os path ∧
      (∀ before next after, path = before ++ next :: after →
        next.isTerminal = true → after = []) ∧
      (∀ o, w.answer? h o = some (s.perform o).1 ∧
        (s.perform o).1.Fits os s.status (s.perform o).2.status o ∧
        ∀ h', w.target? h' = some i →
          (w.perform (.operate h o)).read? h' = some (s.perform o).2) ∧
      (w.perform (.clone h)).target? w.handles.length = some i ∧
      ∀ later, .drop h ∉ later → (w.run later).target? h = some i := by
  intro w os
  have hw := run_kept ds
  obtain ⟨clientId, hclient⟩ : ∃ clientId, (ds.filterMap Deed.client?)[i]? = some clientId :=
    ⟨_, List.getElem?_eq_getElem (hw.targets h i hh)⟩
  have hrecords := SessionState.run_records clientId os
  refine ⟨clientId, hclient, ?_, hrecords, ?_, ?_, target?_clone hh, ?_⟩
  · intro h' hh'
    exact hw.read? hh' hclient
  · intro before next after hp hn
    exact hrecords.toTracks.ended hp hn
  · intro o
    refine ⟨?_, hrecords.fits o, ?_⟩
    · rw [answer?, hw.read? hh hclient]
      rfl
    · intro h' hh'
      have hnext := (hw.operate hh o).read? (by rwa [target?_operate]) hclient
      rw [hnext, operation?, hh, if_pos rfl, Option.toList_some, SessionState.run_concat]
  · intro later hd
    exact target?_run hh hd

/-- Four handles to two states.  Two of them are clones of the first, and lead on when it is
    dropped; what is done through them adds up, and the other state has its own history. -/
theorem histories_shared_clones :
    let ds : List Deed := [.create "c", .clone 0, .create "d", .operate 0 (.assign 7),
      .operate 1 (.assign 8), .operate 0 (.moveTo .opened), .operate 1 .nextCommand, .clone 1,
      .drop 0, .operate 3 (.moveTo .unstable), .operate 2 (.moveTo .closed),
      .operate 1 (.raise .eventIndex 9), .operate 3 (.raise .eventIndex 4),
      .operate 1 (.moveTo .expired), .operate 3 (.moveTo .opened), .operate 0 .nextCommand]
    (empty.run ds).target? 3 = some 0 ∧ ∃ s, (empty.run ds).read? 1 = some s ∧
      (empty.run ds).read? 3 = some s ∧
      s.Records "c" [.assign 7, .assign 8, .moveTo .opened, .nextCommand, .moveTo .unstable,
        .raise .eventIndex 9, .raise .eventIndex 4, .moveTo .expired, .moveTo .opened]
        [.opened, .unstable, .expired] ∧
      (empty.run ds).answer? 3 .nextCommand = some (.number 2) := by
  intro ds
  have hh : (empty.run ds).target? 3 = some 0 := by decide
  obtain ⟨clientId, hclient, hread, hrecords, -, hanswers, -⟩ := histories_shared ds hh
  obtain rfl : "c" = clientId := Option.some.inj hclient
  exact ⟨hh, _, hread 1 (by decide), hread 3 hh, hrecords, (hanswers .nextCommand).1⟩

end Holdings

end ClusterSession
