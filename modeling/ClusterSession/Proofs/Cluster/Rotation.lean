/-
  ClusterSession: which members carry requests that are made one after another.

  Some members answer requests, and the others hang.  Every member accepts connections,
  and nobody else uses the connection.

  * `Traffic.request`: one request, until the member answers, or the connection or the
    caller has waited long enough.
  * `Traffic.carriers`: the members that carry the requests.
  * `request_next`: after a request to a member that hangs, the next one goes to the first
    of the others.  Only one failed member is remembered: two members at the front that
    hang take turns, and nobody else has one.
  * `rotation_reaches`: so it depends on the first two whether requests ever reach a member
    that answers.
-/
import ClusterSession.Proofs.Cluster.Traffic

namespace ClusterSession

/-- How the wait for a member that hangs ends. -/
inductive Patience where
  /-- The connection waits so many milliseconds. -/
  | limit (millis : Nat)
  /-- The caller stops waiting. -/
  | caller

namespace Traffic

/-- The next send, until a member carries its request. -/
def attempt (T : Traffic) : Traffic :=
  T.run [.passage (.start T.begun), .passage (.dialed T.begun true)]

/-- The member that carries the request of the next send. -/
def carrier? (T : Traffic) : Option Address :=
  (T.attempt.cluster.stage? T.begun).bind Stage.carrier?

section
variable (hangs : Address → Bool)

/-- How a request ends that `a` carries. -/
def ending (t : Token) (a : Address) (x : Patience × Response) : Passage :=
  if hangs a then
    match x.1 with
    | .limit millis => .answered t (.error (noAnswer a millis))
    | .caller => .abandon t
  else .answered t (.ok x.2)

/-- One request. -/
def request (x : Patience × Response) (T : Traffic) : Traffic :=
  match T.carrier? with
  | some a => T.attempt.pass (ending hangs T.begun a x)
  | none => T.attempt

/-- The members that carry some requests, one after another. -/
def carriers : List (Patience × Response) → Traffic → List Address
  | [], _ => []
  | x :: xs, T => T.carrier?.toList ++ carriers xs (T.request hangs x)

end

/-- The link, if it can be used again. -/
def live (T : Traffic) : Option Link := T.cluster.link.filter (T.cluster.reusable T.selector)

/-- The member that carries the next request. -/
def nextCarrier (T : Traffic) : Option Address := T.cluster.nextCarrier T.selector

end Traffic

/-! ## The end of a request -/

namespace Cluster

section
variable {c c' : Cluster} {t : Token} {s : Selector} {a : Address}

/-- After a failure, everybody else comes first. -/
theorem nextCarrier_of_failed (hf : c.failed = some a) (hl : ∀ l, c.link = some l → l.address = a) :
    c.nextCarrier s = (demote (some a) s.candidates).head? := by
  have hn : c.link.filter (c.reusable s) = none := by
    rw [Option.filter_eq_none_iff]
    intro l hl'
    simp [reusable, hf, hl l hl']
  rw [nextCarrier, hn, hf]

/-- The connection has waited long enough for the answer. -/
theorem Carries.late (h : c.Carries c' t s a) {e : ConnectionError} (he : e.isTimeout = true) :
    (c'.answered t (.error e) s).cluster.turns = [] ∧
      (c'.answered t (.error e) s).cluster.nextCarrier s =
        (demote (some a) s.candidates).head? := by
  obtain ⟨k, hk⟩ := h.stage
  have ht : ((c'.takeTurn t).enter t (.dropping a e)).turns = [t] := by
    simp [enter, takeTurn, h.free]
  rw [answered_of_fails h.free hk (by rw [he, Bool.or_true])]
  refine ⟨by simp [dropLink, forget, endTurn, ht], nextCarrier_of_failed rfl fun l hl => ?_⟩
  obtain ⟨j, hj⟩ := h.link
  have hl : Option.filter (·.address ≠ a) c'.link = some l := hl
  simp only [hj, Option.filter_some] at hl
  split at hl
  · rw [← Option.some.inj hl]
  · cases hl

/-- The caller has stopped waiting for the answer. -/
theorem Carries.abandoned (h : c.Carries c' t s a) :
    (c'.abandon t).1.turns = [] ∧
      (c'.abandon t).1.nextCarrier s = (demote (some a) s.candidates).head? := by
  obtain ⟨k, hk⟩ := h.stage
  obtain ⟨j, hj⟩ := h.link
  have hd : (c'.abandon t).1 = forget t { c' with failed := some a } := by
    simp only [abandon, hk]
  rw [hd]
  refine ⟨h.free, nextCarrier_of_failed rfl fun l hl => ?_⟩
  have hl : c'.link = some l := hl
  rw [hj] at hl
  rw [← Option.some.inj hl]

/-- The answer has come. -/
theorem Carries.answered (h : c.Carries c' t s a) (r : Response) :
    (c'.answered t (.ok r) s).cluster.turns = [] ∧
      (c'.answered t (.ok r) s).cluster.nextCarrier s = some a := by
  obtain ⟨k, hk⟩ := h.stage
  obtain ⟨j, hj⟩ := h.link
  have hd : (c'.answered t (.ok r) s).cluster = forget t (c'.settle a) := by
    simp only [Cluster.answered, hk]
  rw [hd]
  refine ⟨(settle_turns c' a).trans h.free, ?_⟩
  have hl : (forget t (c'.settle a)).link = some _ := (settle_link c' a).trans hj
  have hf : (forget t (c'.settle a)).failed ≠ some a := by
    show (c'.settle a).failed ≠ some a
    unfold settle
    split
    · simp
    · assumption
  have hr : (forget t (c'.settle a)).link.filter ((forget t (c'.settle a)).reusable s) =
      some { address := a, generation := s.generation, connection := j } := by
    rw [Option.filter_eq_some_iff]
    exact ⟨hl, by simp [reusable, hf]⟩
  rw [nextCarrier, hr]

/-- However the request ends, the next one goes to the same member only if it has answered. -/
theorem Carries.ended (h : c.Carries c' t s a) (hangs : Address → Bool) (x : Patience × Response) :
    (c'.handle s (Traffic.ending hangs t a x)).cluster.turns = [] ∧
      (c'.handle s (Traffic.ending hangs t a x)).cluster.nextCarrier s =
        if hangs a then (demote (some a) s.candidates).head? else some a := by
  unfold Traffic.ending
  cases hangs a with
  | true =>
    cases x.1 with
    | limit millis => exact h.late rfl
    | caller => exact h.abandoned
  | false => exact h.answered x.2

end

end Cluster

namespace Traffic

section
variable {hangs : Address → Bool} {T : Traffic} {a : Address}

/-! ## One request -/

theorem attempt_carries (h : T.cluster.turns = []) (ha : T.nextCarrier = some a) :
    T.cluster.Carries T.attempt.cluster T.begun T.selector a ∧
      ∃ position, T.attempt.selector = { T.selector with position } := by
  have hs : T.attempt = (T.pass (.start T.begun)).pass (.dialed T.begun true) := rfl
  rw [hs, pass_of_allows (p := .start T.begun) (by simp [allows]), pass_of_allows rfl]
  refine ⟨Cluster.start_dialed h ha, ?_⟩
  obtain ⟨position, hp⟩ := T.cluster.handle_selector T.selector (.start T.begun)
  obtain ⟨position', hp'⟩ := Cluster.handle_selector
    (T.cluster.handle T.selector (.start T.begun)).cluster
    (T.cluster.handle T.selector (.start T.begun)).selector (.dialed T.begun true)
  refine ⟨position', hp'.trans ?_⟩
  rw [hp]

theorem carrier?_eq (h : T.cluster.turns = []) (ha : T.nextCarrier = some a) :
    T.carrier? = some a := by
  obtain ⟨k, hk⟩ := (attempt_carries h ha).1.stage
  rw [carrier?, hk]
  rfl

/-- **The next request goes to the same member if it has answered, and to the first of the others
    if it hangs.** -/
theorem request_next (hangs : Address → Bool) (h : T.cluster.turns = [])
    (ha : T.nextCarrier = some a) (x : Patience × Response) :
    (T.request hangs x).cluster.turns = [] ∧
      (T.request hangs x).selector.candidates = T.selector.candidates ∧
      (T.request hangs x).nextCarrier =
        if hangs a then (demote (some a) T.selector.candidates).head? else some a := by
  obtain ⟨hc, position, hs⟩ := attempt_carries h ha
  have hc' : T.cluster.Carries T.attempt.cluster T.begun T.attempt.selector a := by
    rw [hs]
    exact ⟨hc.stage, hc.link, hc.free, hc.failed⟩
  have hr : T.request hangs x = T.attempt.pass (ending hangs T.begun a x) := by
    simp only [request, carrier?_eq h ha]
  have hallows : T.attempt.allows (ending hangs T.begun a x) = true := by
    unfold ending
    split
    · split <;> rfl
    · rfl
  obtain ⟨hturns, hnext⟩ := hc'.ended hangs x
  obtain ⟨position', hs'⟩ := T.attempt.cluster.handle_selector T.attempt.selector
    (ending hangs T.begun a x)
  rw [hr, pass_of_allows hallows]
  refine ⟨hturns, ?_, ?_⟩
  · rw [hs', hs]
  · rw [nextCarrier, hs']
    refine hnext.trans ?_
    rw [hs]

/-! ## Requests one after another -/

/-- Nobody is at the link, the candidates are `cs`, and the next request goes to `a`. -/
structure Ready (T : Traffic) (cs : List Address) (a : Address) : Prop where
  free : T.cluster.turns = []
  candidates : T.selector.candidates = cs
  next : T.nextCarrier = some a

namespace Ready
variable {cs : List Address} {b : Address} {x : Patience × Response}
  {xs : List (Patience × Response)}

theorem carriers_cons (h : T.Ready cs a) :
    T.carriers hangs (x :: xs) = a :: (T.request hangs x).carriers hangs xs := by
  rw [carriers, carrier?_eq h.free h.next]
  rfl

theorem answered (h : T.Ready cs a) (ha : hangs a = false) : (T.request hangs x).Ready cs a := by
  obtain ⟨hf, hc, hn⟩ := request_next hangs h.free h.next x
  rw [ha] at hn
  exact ⟨hf, hc.trans h.candidates, hn⟩

theorem hung (h : T.Ready cs a) (ha : hangs a = true) (hb : (demote (some a) cs).head? = some b) :
    (T.request hangs x).Ready cs b := by
  obtain ⟨hf, hc, hn⟩ := request_next hangs h.free h.next x
  rw [ha, h.candidates] at hn
  exact ⟨hf, hc.trans h.candidates, hn.trans hb⟩

/-- Some member carries the next request. -/
theorem request (h : T.Ready cs a) (hcs : cs ≠ []) (hangs : Address → Bool)
    (x : Patience × Response) :
    ∃ b, (T.request hangs x).Ready cs b ∧
      (hangs a = false ∧ b = a ∨ hangs a = true ∧ b ∈ cs.take 2) := by
  cases ha : hangs a with
  | false => exact ⟨a, h.answered ha, .inl ⟨rfl, rfl⟩⟩
  | true =>
    obtain ⟨b, hb⟩ := head?_demote_isSome (some a) hcs
    exact ⟨b, h.hung ha hb, .inr ⟨rfl, head?_demote_mem hb⟩⟩

theorem carriers_length (h : T.Ready cs a) (hcs : cs ≠ []) :
    (T.carriers hangs xs).length = xs.length := by
  induction xs generalizing T a with
  | nil => rfl
  | cons x xs ih =>
    obtain ⟨b, hb, -⟩ := h.request hcs hangs x
    rw [h.carriers_cons, List.length_cons, List.length_cons, ih hb]

/-- **Two members at the front that hang starve the requests**, once one has gone to a member that
    hangs. -/
theorem starved (h : T.Ready cs a) (hcs : cs ≠ []) (ha : hangs a = true)
    (hfront : ∀ b ∈ cs.take 2, hangs b = true) : ∀ b ∈ T.carriers hangs xs, hangs b = true := by
  induction xs generalizing T a with
  | nil => nofun
  | cons x xs ih =>
    rw [h.carriers_cons]
    obtain ⟨b, hb, ⟨hf, -⟩ | ⟨-, hmem⟩⟩ := h.request hcs hangs x
    · exact absurd (ha.symm.trans hf) nofun
    · intro c hc
      rcases List.mem_cons.1 hc with rfl | hc
      · exact ha
      · exact ih hb (hfront b hmem) c hc

/-- The next request reaches a member that answers. -/
theorem reaches (h : T.Ready cs a) (ha : hangs a = false) (hxs : 0 < xs.length) :
    ∃ b ∈ T.carriers hangs xs, hangs b = false := by
  cases xs with
  | nil => cases hxs
  | cons x xs => exact ⟨a, h.carriers_cons ▸ List.mem_cons_self, ha⟩

/-- A later request reaches a member that answers. -/
theorem reaches_later (h : T.Ready cs a) (hxs : 0 < xs.length)
    (hr : ∀ x xs', xs = x :: xs' →
      ∃ b ∈ (T.request hangs x).carriers hangs xs', hangs b = false) :
    ∃ b ∈ T.carriers hangs xs, hangs b = false := by
  cases xs with
  | nil => cases hxs
  | cons x xs =>
    obtain ⟨b, hb, hans⟩ := hr x xs rfl
    exact ⟨b, h.carriers_cons ▸ List.mem_cons_of_mem _ hb, hans⟩

/-- **One member at the front that answers is reached** in as many requests as there are members. -/
theorem reaches_front (h : T.Ready cs a) (hmem : a ∈ cs) (hb : b ∈ cs.take 2)
    (hans : hangs b = false) (hxs : cs.length ≤ xs.length) :
    ∃ b ∈ T.carriers hangs xs, hangs b = false := by
  have hpos : 0 < xs.length := Nat.lt_of_lt_of_le (List.length_pos_of_mem hmem) hxs
  cases ha : hangs a with
  | false => exact h.reaches ha hpos
  | true =>
    have hab : b ≠ a := by
      rintro rfl
      exact absurd (ha.symm.trans hans) nofun
    -- the member that hangs is not the first two at once, so the list goes on
    rcases cs with _ | ⟨c, _ | ⟨d, rest⟩⟩
    · cases hmem
    · simp only [List.take_succ_cons, List.take_nil, List.mem_singleton] at hb hmem
      exact absurd (hb.trans hmem.symm) hab
    · have hfront : b = c ∨ b = d := by simpa using hb
      refine h.reaches_later hpos fun x xs' he => ?_
      have hlen : rest.length + 1 ≤ xs'.length := by
        rw [he] at hxs
        simpa using hxs
      have hpos' : 0 < xs'.length := by omega
      by_cases hc : a = c
      · subst hc
        obtain rfl := hfront.resolve_left hab
        exact (h.hung ha head?_demote_self).reaches hans hpos'
      · have hnext := h.hung (x := x) ha (head?_demote_of_ne hc)
        cases hcans : hangs c with
        | false => exact hnext.reaches hcans hpos'
        | true =>
          obtain rfl : b = d := hfront.resolve_left fun he => by
            exact absurd ((he ▸ hans).symm.trans hcans) nofun
          have hrest : a ∈ rest := by
            rcases List.mem_cons.1 hmem with he | hmem
            · exact absurd he hc
            · exact (List.mem_cons.1 hmem).resolve_left hab.symm
          refine hnext.reaches_later hpos' fun y xs'' he' => ?_
          refine (hnext.hung hcans head?_demote_self).reaches hans ?_
          have := List.length_pos_of_mem hrest
          rw [he', List.length_cons] at hlen
          omega

end Ready

/-! ## Any connection -/

/-- Some candidate carries the next request; it is one of the first two, unless the link can be used
    again. -/
theorem Sound.ready (hT : T.Sound) (h : T.cluster.turns = []) (hcs : T.selector.candidates ≠ []) :
    ∃ a, T.Ready T.selector.candidates a ∧ a ∈ T.selector.candidates ∧
      ((∃ l, T.live = some l ∧ l.address = a) ∨
        T.live = none ∧ a ∈ T.selector.candidates.take 2) := by
  unfold live
  cases hl : T.cluster.link.filter (T.cluster.reusable T.selector) with
  | some l =>
    have hn : T.nextCarrier = some l.address := by
      unfold nextCarrier Cluster.nextCarrier
      rw [hl]
    exact ⟨_, ⟨h, rfl, hn⟩, hT.tidy.current.known_of_reusable hl, .inl ⟨l, rfl, rfl⟩⟩
  | none =>
    obtain ⟨a, ha⟩ := head?_demote_isSome T.cluster.failed hcs
    have hn : T.nextCarrier = some a := by
      unfold nextCarrier Cluster.nextCarrier
      rw [hl]
      exact ha
    have hmem := head?_demote_mem ha
    exact ⟨a, ⟨h, rfl, hn⟩, List.mem_of_mem_take hmem, .inr ⟨rfl, hmem⟩⟩

end

/-- **Rotation looks no further than the first two members.**  Take any connection that selects
    all members, at any time at which nobody is at the link, and let some member answer.  Every
    request is carried by some member; and among as many requests as there are members, one after
    another, at least one is carried by a member that answers just if one of the first two
    candidates answers, or if the link can be used again and leads to a member that answers. -/
theorem rotation_reaches (servers : List Address) (os : List Occasion) (hangs : Address → Bool)
    (xs : List (Patience × Response)) :
    let T := (initial .any servers).run os
    T.cluster.turns = [] → (∃ a ∈ T.selector.servers, hangs a = false) →
    T.selector.servers.length ≤ xs.length →
    (T.carriers hangs xs).length = xs.length ∧
    ((∃ a ∈ T.carriers hangs xs, hangs a = false) ↔
      (∃ a ∈ T.selector.candidates.take 2, hangs a = false) ∨
        ∃ l, T.live = some l ∧ hangs l.address = false) := by
  intro T hfree hans hlen
  have hT : T.Sound := run_sound (initial_sound .any servers) os
  have hperm : T.selector.candidates.Perm T.selector.servers :=
    hT.selector.candidates_perm (run_strategy _ os)
  have hcs : T.selector.candidates ≠ [] := by
    obtain ⟨a, ha, -⟩ := hans
    exact List.ne_nil_of_mem (hperm.mem_iff.2 ha)
  have hxs : T.selector.candidates.length ≤ xs.length := hperm.length_eq ▸ hlen
  obtain ⟨a, hready, hmem, hlive⟩ := hT.ready hfree hcs
  refine ⟨hready.carriers_length hcs, fun ⟨b, hb, hbans⟩ => ?_, ?_⟩
  · by_contra hno
    obtain ⟨hfront, hlink⟩ := not_or.1 hno
    have hfront : ∀ c ∈ T.selector.candidates.take 2, hangs c = true :=
      fun c hc => eq_true_of_ne_false fun he => hfront ⟨c, hc, he⟩
    have ha : hangs a = true := by
      rcases hlive with ⟨l, hl, rfl⟩ | ⟨-, ha⟩
      · exact eq_true_of_ne_false fun he => hlink ⟨l, hl, he⟩
      · exact hfront a ha
    exact absurd ((hready.starved hcs ha hfront b hb).symm.trans hbans) nofun
  · rintro (⟨c, hc, hcans⟩ | ⟨l, hl, hlans⟩)
    · exact hready.reaches_front hmem hc hcans hxs
    · rcases hlive with ⟨l', hl', rfl⟩ | ⟨hl', -⟩
      · obtain rfl := Option.some.inj (hl.symm.trans hl')
        exact hready.reaches hlans (Nat.lt_of_lt_of_le (List.length_pos_of_mem hmem) hxs)
      · exact absurd (hl.symm.trans hl') nofun

/-- Three members. -/
def trio : List Address := [⟨"a", 5000⟩, ⟨"b", 5000⟩, ⟨"c", 5000⟩]

/-- A request that the connection waits 100 milliseconds for. -/
def patient : Patience × Response := (.limit 100, .unregister .accept)

/-- A request that its caller gives up. -/
def impatient : Patience × Response := (.caller, .unregister .accept)

/-- One member hangs, and has been given up before. -/
theorem rotation_reaches_second :
    let os := [.passage (.start 0), .passage (.dialed 0 true), .passage (.abandon 0)]
    let T := (initial .any trio).run os
    let hangs : Address → Bool := fun a => a.host = "a"
    let xs := [patient, impatient, patient]
    T.cluster.turns = [] ∧ (∃ a ∈ T.selector.servers, hangs a = false) ∧
      T.selector.servers.length ≤ xs.length ∧ (T.carriers hangs xs).length = xs.length ∧
      ∃ a ∈ T.carriers hangs xs, hangs a = false := by
  intro os T hangs xs
  have hfree : T.cluster.turns = [] := by decide
  have hans : ∃ a ∈ T.selector.servers, hangs a = false := by decide
  have hlen : T.selector.servers.length ≤ xs.length := by decide
  obtain ⟨hcarried, hreach⟩ := rotation_reaches trio os hangs xs hfree hans hlen
  exact ⟨hfree, hans, hlen, hcarried, hreach.2 (.inl (by decide))⟩

/-- Two members hang, and the third does not get any of three requests. -/
theorem rotation_misses_third :
    let T := (initial .any trio).run []
    let hangs : Address → Bool := fun a => a.host ≠ "c"
    let xs := [patient, impatient, patient]
    T.cluster.turns = [] ∧ (∃ a ∈ T.selector.servers, hangs a = false) ∧
      T.selector.servers.length ≤ xs.length ∧ ¬∃ a ∈ T.carriers hangs xs, hangs a = false := by
  decide

end Traffic

end ClusterSession
