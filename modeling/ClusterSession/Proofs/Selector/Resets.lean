/-
  ClusterSession: reports that say nothing new.

  * `distinct_eq_self`: nothing is dropped from a list in which no address occurs twice.
  * `membership_membership`: a report that comes again leaves the members as they are.
  * `clearLeader_eq_reset`, `reset_reset`: forgetting the leader is a report of no leader
    and the present members, and a report that comes again only counts.
  * `reports_repeated`: this holds after any operations.
-/
import ClusterSession.Proofs.Selector.Histories

namespace ClusterSession

/-! ## Members -/

theorem foldl_distinct_eq (servers seen : List Address) (h : (seen ++ servers).Nodup) :
    servers.foldl (fun seen a => if a ∈ seen then seen else seen ++ [a]) seen =
      seen ++ servers := by
  induction servers generalizing seen with
  | nil => exact (List.append_nil seen).symm
  | cons a rest ih =>
    have ha : a ∉ seen := fun ha => (List.nodup_append.1 h).2.2 a ha a List.mem_cons_self rfl
    have hsplit : seen ++ a :: rest = seen ++ [a] ++ rest := List.append_cons seen a rest
    rw [List.foldl_cons, if_neg ha, hsplit]
    exact ih _ (hsplit ▸ h)

/-- Nothing is dropped from a list in which no address occurs twice. -/
theorem distinct_eq_self {servers : List Address} (h : servers.Nodup) :
    distinct servers = servers :=
  foldl_distinct_eq servers [] h

namespace Selector

/-- A report of the present members, and of no leader, changes no member. -/
theorem membership_self {present : List Address} (h : present.Nodup) :
    membership present none present = present := by
  unfold membership
  dsimp only
  rw [distinct_eq_self h, ite_self]

/-- **A report that comes again leaves the members as they are**, whether they were reported or
    kept, and whether the leader was missing or not. -/
theorem membership_membership (present : List Address) (leader : Option Address)
    (servers : List Address) :
    membership (membership present leader servers) leader servers =
      membership present leader servers := by
  by_cases hreported : distinct servers = []
  · -- the members that were kept are kept again, and now the leader is one of them
    simp only [membership, if_pos hreported]
    cases leader with
    | none => rfl
    | some l =>
      dsimp only
      by_cases hl : l ∈ present
      · simp only [if_pos hl]
      · simp only [if_neg hl, if_pos List.mem_cons_self]
  · -- the members that were reported do not depend on the present ones
    simp only [membership, if_neg hreported]

/-! ## Reports -/

section
variable {s : Selector}

/-- Without a leader, the members are the candidates. -/
theorem clearLeader_eq (s : Selector) :
    s.clearLeader = { s with
      leader := none
      candidates := s.servers
      position := 0
      generation := s.generation + 1 } := rfl

/-- **Forgetting the leader is a report of no leader and the present members**, as long as no member
    occurs twice. -/
theorem clearLeader_eq_reset (h : s.Sound) : s.clearLeader = s.reset none s.servers := by
  rw [reset, membership_self h.nodup]
  rfl

/-- With a member that occurs twice, forgetting the leader would not be a report: a report drops
    the repetition. -/
example :
    let s : Selector :=
      { strategy := .any, leader := none, servers := [⟨"a", 1⟩, ⟨"a", 1⟩], candidates := []
        position := 0, generation := 1 }
    s.clearLeader.servers = [⟨"a", 1⟩, ⟨"a", 1⟩] ∧
      (s.reset none s.servers).servers = [⟨"a", 1⟩] := by
  decide

/-- **A report that comes again only counts.** -/
theorem reset_reset (s : Selector) (leader : Option Address) (servers : List Address) :
    (s.reset leader servers).reset leader servers =
      { s.reset leader servers with generation := (s.reset leader servers).generation + 1 } := by
  show reselect { s.reset leader servers with
    leader, servers := membership (membership s.servers leader servers) leader servers } = _
  rw [membership_membership]
  rfl

end

/-- **A selector after any operations, and reports that say nothing new.**  To forget the leader is
    to report no leader and the present members: either way the members stay, all of them are
    candidates, from the start and in a new generation.  And whatever leader and members are
    reported, repeated, none at all, or without the leader, to report them again changes the
    generation and nothing else. -/
theorem reports_repeated (strategy : SelectionStrategy) (members : List Address)
    (os : List Operation) :
    let s := (ofServers strategy members).run os
    s.clearLeader = s.reset none s.servers ∧
      s.clearLeader = { s with
        leader := none, candidates := s.servers, position := 0, generation := s.generation + 1 } ∧
      ∀ leader servers, (s.reset leader servers).reset leader servers =
        { s.reset leader servers with generation := (s.reset leader servers).generation + 1 } := by
  intro s
  have hsound : s.Sound := run_sound (ofServers_sound strategy members) os
  exact ⟨clearLeader_eq_reset hsound, s.clearLeader_eq, s.reset_reset⟩

end Selector

end ClusterSession
