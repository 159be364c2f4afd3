/-
  ClusterSession: why links are dropped.

  A member is marked by its address, and so is the link that a failed send drops.

  * `Traffic.Drops`: the connection is the link no more after an occasion.
  * `Reason`: why it is not: a send of the member has failed, or a send whose turn has
    come finds the member under suspicion, or the link out of date.
  * `drops_iff_reason`: these are all the reasons, and each is enough.  Which connection a
    failed send was carried over is not among them.
  * `stale_failure_drops`: so a link is dropped that carried nothing but a send that has
    completed.
-/
import ClusterSession.Proofs.Cluster.Marks

namespace ClusterSession

namespace Traffic

/-- The connection is the link, and after the occasion it is not. -/
def Drops (T : Traffic) (o : Occasion) (l : Link) : Prop :=
  T.cluster.link = some l ∧ ∀ l', (T.step o).cluster.link = some l' → l'.connection ≠ l.connection

/-- Why the occasion puts an end to the link. -/
inductive Reason (T : Traffic) (ends : List Ending) (links : List LinkEvent) (l : Link) :
    Occasion → Prop
  /-- A send that the member has carried, over this connection or another, ends with a connection
      error, or has not been answered in time. -/
  | broken {o : Occasion} (t : Token) (broken : T.ending? o = some (.broken t l.address)) :
      Reason T ends links l o
  /-- A send whose turn has come finds the member under suspicion. -/
  | suspect {p : Passage} (started : T.allows p = true) (turn : T.cluster.takesTurn p = true)
      (suspect : Suspect ends l.address) : Reason T ends links l (.passage p)
  /-- A send whose turn has come finds that the selector has changed, and prefers another. -/
  | outdated {p : Passage} (started : T.allows p = true) (turn : T.cluster.takesTurn p = true)
      (changed : ¬Undisturbed links l.connection) (other : T.selector.preferred ≠ some l.address) :
      Reason T ends links l (.passage p)

/-- The send is carried over the connection. -/
def CarriedOver (links : List LinkEvent) (t : Token) (connection : Nat) : Prop :=
  .made t connection ∈ links ∨ .reused t connection ∈ links

section
variable {T : Traffic} {l : Link} {o : Occasion} {p : Passage} {ends : List Ending}
  {links : List LinkEvent}

theorem Drops.not_link (h : T.Drops o l) {generation : Nat} :
    (T.step o).cluster.link ≠ some { l with generation } :=
  fun hl => h.2 _ hl rfl

theorem drops_of_unlinked (hl : T.cluster.link = some l) (h : (T.step o).cluster.link = none) :
    T.Drops o l :=
  ⟨hl, fun _ hl' => absurd (h.symm.trans hl') nofun⟩

theorem step_cluster (h : T.allows p = true) :
    (T.step (.passage p)).cluster = (T.cluster.handle T.selector p).cluster :=
  congrArg Traffic.cluster (pass_of_allows h)

/-- A link that may be used again stays when the turn of a send comes. -/
theorem Drops.not_usable (h : T.Drops (.passage p) l) (hd : T.Disciplined links)
    (ha : T.allows p = true) (hp : T.cluster.takesTurn p = true) : ¬T.Usable links l := by
  intro hu
  obtain ⟨generation, hl⟩ := (hd.reused p l hp h.1 hu).link
  exact h.not_link ((congrArg Cluster.link (step_cluster ha)).trans hl)

/-- There is always a reason. -/
theorem Drops.reason (h : T.Drops o l) (hT : T.Sound) (hm : T.Marked ends)
    (hd : T.Disciplined links) : T.Reason ends links l o := by
  cases o with
  | select o => exact absurd h.1 h.not_link
  | passage p =>
    by_cases ha : T.allows p = true
    · have hstep := Cluster.handle_endStep (s := T.selector) hm.grave hT.tidy.orderly
        (hT.start_absent ha)
      have hstay : (T.cluster.handle T.selector p).cluster.link ≠ T.cluster.link := fun hl =>
        h.not_link ((congrArg Cluster.link (step_cluster ha)).trans (hl.trans h.1))
      have hending : T.ending? (.passage p) = T.cluster.ending? T.selector p := if_pos ha
      rw [← hending] at hstep
      generalize hc : (T.cluster.handle T.selector p).cluster = c at hstep
      generalize he : T.ending? (.passage p) = e at hstep
      rw [hc] at hstay
      cases hstep with
      | connects turn =>
        by_cases hs : Suspect ends l.address
        · exact .suspect ha turn hs
        · have hu := h.not_usable hd ha turn
          unfold Usable at hu
          rw [Ne, hm.failed, not_and_or, not_not, or_iff_right hs, not_or] at hu
          exact .outdated ha turn hu.2 hu.1
      | dials dialing => cases (hd.unlinked _ _ _ _ dialing).symm.trans h.1
      | @drops a c link' failed' =>
        by_cases hl : l.address = a
        · exact .broken p.token (by rw [he, hl])
        · rw [link', h.1, Option.filter_some, decide_eq_true hl] at hstay
          exact absurd rfl hstay
      | completes link' => exact absurd link' hstay
      | abandons link' => exact absurd link' hstay
      | stays link' => exact absurd link' hstay
    · have hsame : T.step (.passage p) = T := if_neg ha
      exact absurd ((congrArg (·.cluster.link) hsame).trans h.1) h.not_link

/-- Each reason is enough. -/
theorem Reason.drops (h : T.Reason ends links l o) (hl : T.cluster.link = some l) (hT : T.Sound)
    (hm : T.Marked ends) (hd : T.Disciplined links) : T.Drops o l := by
  have hrelinks : ∀ p, T.allows p = true → T.cluster.takesTurn p = true → ¬T.Usable links l →
      T.Drops (.passage p) l := fun p ha hp hu =>
    drops_of_unlinked hl
      ((congrArg Cluster.link (step_cluster ha)).trans (hd.relinked p l hp hl hu).link)
  cases h with
  | broken t hbroken =>
    cases o with
    | select o => cases hbroken
    | passage p =>
      by_cases ha : T.allows p = true
      · have hstep := Cluster.handle_endStep (s := T.selector) hm.grave hT.tidy.orderly
          (hT.start_absent ha)
        rw [show T.cluster.ending? T.selector p = _ from (if_pos ha).symm.trans hbroken] at hstep
        refine drops_of_unlinked hl ((congrArg Cluster.link (step_cluster ha)).trans ?_)
        generalize (T.cluster.handle T.selector p).cluster = c at hstep
        cases hstep with
        | drops link' failed' =>
          rw [link', hl, Option.filter_some, decide_eq_false (not_not_intro rfl)]
          rfl
      · cases (if_neg ha).symm.trans hbroken
  | suspect started turn suspect =>
    exact hrelinks _ started turn fun hu => hu.1 ((hm.failed _).2 suspect)
  | outdated started turn changed other =>
    exact hrelinks _ started turn fun hu => hu.2.elim other changed

end

/-- **Why links are dropped.**  Take any connection at any time, and its link: an occasion puts an end
    to it exactly when a send that the member of the link has carried ends with a connection error
    or has not been answered in time, or when the turn of a send comes while the member is under
    suspicion, or when it comes after the selector has been reset or cleared since the dial of the
    link began or the link was used again last, and the member is not its first candidate.  It does
    not matter over which connection the member has carried a send. -/
theorem drops_iff_reason (strategy : SelectionStrategy) (servers : List Address)
    (os : List Occasion) (l : Link) (o : Occasion) :
    let start := initial strategy servers
    let T := start.run os
    T.cluster.link = some l →
      (T.Drops o l ↔ T.Reason (start.endLog os) (start.linkLog os) l o) := by
  intro start T hl
  have hT : T.Sound := run_sound (initial_sound strategy servers) os
  have hmarked : T.Marked (start.endLog os) := run_marked strategy servers os
  have hdisciplined : T.Disciplined (start.linkLog os) := links_disciplined strategy servers os
  exact ⟨fun h => h.reason hT hmarked hdisciplined, fun h => h.drops hl hT hmarked hdisciplined⟩

/-- Two sends share a link, and one of them fails.  A third one has the member dialed again, and
    completes; then the second one fails, too, and takes the new link with it. -/
theorem drops_iff_reason_stale :
    let start := initial .any [⟨"a", 5000⟩]
    let T := start.run [.passage (.start 0), .passage (.dialed 0 true), .passage (.start 1),
      .passage (.answered 0 (.error .connectionClosed)), .passage (.start 2),
      .passage (.dialed 2 true)]
    let l : Link := { address := ⟨"a", 5000⟩, generation := 1, connection := 1 }
    T.cluster.link = some l ∧ T.cluster.stage? 1 = some (.sending ⟨"a", 5000⟩ 0) ∧
      T.Drops (.passage (.answered 1 (.error .connectionClosed))) l := by
  intro start T l
  have hbroken : T.ending? (.passage (.answered 1 (.error .connectionClosed))) =
      some (.broken 1 l.address) := by decide
  have hreason := (drops_iff_reason .any _ _ l _ (by decide)).2 (.broken 1 hbroken)
  exact ⟨by decide, by decide, hreason⟩

/-- **A stale failure drops a fresh link.**  Nobody whom the new connection has carried has failed or
    was given up, and the selector has not been changed; still the link is dropped, and the next
    send dials. -/
theorem stale_failure_drops :
    let start := initial .any [⟨"a", 5000⟩]
    let os := [.passage (.start 0), .passage (.dialed 0 true), .passage (.start 1),
      .passage (.answered 0 (.error .connectionClosed)), .passage (.start 2),
      .passage (.dialed 2 true), .passage (.answered 2 (.ok (.unregister ⟨.accepted⟩)))]
    let o := .passage (.answered 1 (.error .connectionClosed))
    let l : Link := { address := ⟨"a", 5000⟩, generation := 1, connection := 1 }
    (start.run os).Drops o l ∧
      (∀ t, CarriedOver (start.linkLog os) t l.connection →
        ∀ b, .broken t b ∉ start.endLog (os ++ [o]) ∧ .abandoned t b ∉ start.endLog (os ++ [o])) ∧
      .changed ∉ start.linkLog os ∧
      ((start.run (os ++ [o])).step (.passage (.start 3))).cluster.stage? 3 =
        some (.dialing ⟨"a", 5000⟩ [] 1) := by
  intro start os o l
  have hlinks : start.linkLog os =
      [.asked 0, .made 0 0, .reused 1 0, .asked 2, .made 2 1] := by decide
  have hends : start.endLog (os ++ [o]) =
      [.broken 0 ⟨"a", 5000⟩, .completed 2 ⟨"a", 5000⟩, .broken 1 ⟨"a", 5000⟩] := by decide
  have hl : (start.run os).cluster.link = some l := by decide
  refine ⟨drops_of_unlinked hl (by decide), fun t ht b => ?_, ?_, by decide⟩
  · rw [hlinks] at ht
    obtain rfl : t = 2 := by simpa [CarriedOver, l] using ht
    rw [hends]
    simp
  · rw [hlinks]
    simp

end Traffic

end ClusterSession
