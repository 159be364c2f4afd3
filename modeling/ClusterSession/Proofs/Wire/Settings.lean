/-
  ClusterSession: configurations are read as they are written, if they make sense.

  * `StrategyConfig.ofValue_toValue`, `SessionConfig.ofValue_toValue`: the document of a
    strategy, or of a configuration, denotes it.
  * `SessionConfig.Sensible`, `validate_eq_ok_iff`: the configurations that are not refused.
  * `settings_round_trip`: a configuration is read back from its text if it is sensible, and
    refused as it would be otherwise; whatever is read is sensible.
-/
import ClusterSession.Config
import ClusterSession.Proofs.Wire.Frames

namespace ClusterSession

open Json

variable {origin : Origin} {depth : Nat}

/-! ## Strategies and orders of members -/

theorem SelectionStrategy.ofValue_toValue (s : SelectionStrategy) :
    decoder.ofValue origin s.toValue = .ok s := by
  cases s <;> rfl

namespace StrategyConfig

theorem fixedRecord_content (maxAttempts : UInt32) (delayMs : UInt64) :
    fixedRecord.ofMembers origin [] fixedRecord.blank
      [("maxAttempts", .ofNat maxAttempts.toNat), ("delayMs", .ofNat delayMs.toNat)] =
        .ok (maxAttempts, delayMs) := by
  rw [Record.ofMembers_next rfl (by decide) (uint32_ofValue _),
    Record.ofMembers_next rfl (by decide) (uint64_ofValue _)]
  rfl

@[simp] theorem fixedRecord_steady : fixedRecord.Steady where
  commutes := Record.commutes_of_pairwise (by simp [fixedRecord, Field.must, Field.may])
  fields := by simp [fixedRecord, Field.must, Field.may]

/-- The document of a strategy denotes it. -/
theorem ofValue_toValue (c : StrategyConfig) : decoder.ofValue origin c.toValue = .ok c := by
  cases c with
  | fixedAttempts maxAttempts delayMs =>
    have hcontent : (Variant.ofRecord "fixedAttempts" fixedRecord fun p =>
        fixedAttempts p.1 p.2).content (.object _) = _ :=
      Variant.content_ofRecord (fixedRecord_content maxAttempts delayMs)
    exact (Decoder.tagged_object rfl (by simp)).trans hcontent
  | _ => rfl

@[simp] theorem decoder_steady : decoder.Steady := Decoder.tagged_steady (by simp)

@[simp] theorem decoder_agrees : decoder.Agrees := Decoder.tagged_agrees

@[simp] theorem toValue_fits (c : StrategyConfig) : c.toValue.Fits (depth + 1) := by
  cases c <;> exact object_fits (by simp)

end StrategyConfig

namespace SessionConfig

/-! ## Documents -/

/-- The document of a configuration denotes it, if every member's address is readable. -/
theorem ofValue_toValue {c : SessionConfig} (h : ∀ a ∈ c.members, a.Readable) :
    decoder.ofValue origin c.toValue = .ok c := by
  show record.ofMembers origin [] record.blank _ = _
  rw [Record.ofMembers_optional rfl (by decide) (by decide) (by simp) (fun _ _ => rfl) rfl,
    Record.ofMembers_next rfl (by decide) (uint64_ofValue _),
    Record.ofMembers_next rfl (by decide) (StrategyConfig.ofValue_toValue _),
    Record.ofMembers_next rfl (by decide) (SelectionStrategy.ofValue_toValue _),
    Record.ofMembers_next rfl (by decide) (Address.ofValue_membersValue h)]
  rfl

theorem record_steady : record.Steady where
  commutes := Record.commutes_of_pairwise (by simp [record, Field.may])
  fields := by simp [record, Field.may, SelectionStrategy.decoder]

theorem decoder_agrees : decoder.Agrees :=
  Record.Agrees.decoder (by simp [Record.Agrees, record, Field.may, SelectionStrategy.decoder])

theorem toValue_fits (c : SessionConfig) : c.toValue.Fits (depth + 2) :=
  object_fits (List.forall_mem_append.2
    ⟨optional_fits string_fits, by simp [SelectionStrategy.toValue]⟩)

/-! ## Sense -/

/-- The settings make sense: requests are waited for, the client has a name that shows, and a
    strategy with a number of attempts makes one. -/
structure Sensible (c : SessionConfig) : Prop where
  timeout : 0 < c.requestTimeoutMs
  client : ∀ id ∈ c.clientId, ∃ x ∈ id.toList, isWhiteSpace x = false
  attempts : ∀ n delay, c.strategy = .fixedAttempts n delay → 0 < n

/-- A text is blank just if no character of it shows. -/
theorem isBlankText_eq_false_iff {s : String} :
    isBlankText s = false ↔ ∃ x ∈ s.toList, isWhiteSpace x = false := by
  rw [isBlankText, List.all_eq_false]
  simp only [Bool.not_eq_true]

/-- **The configurations that make sense are those that are not refused.** -/
theorem validate_eq_ok_iff {c : SessionConfig} : c.validate = .ok () ↔ c.Sensible := by
  unfold validate
  split
  · next htimeout =>
    refine iff_of_false nofun fun h => ?_
    exact absurd (htimeout ▸ h.timeout : (0 : UInt64) < 0) (by decide)
  · next htimeout =>
    split
    · next hblank =>
      refine iff_of_false nofun fun h => ?_
      obtain ⟨id, hid, hb⟩ := (Option.any_eq_true _ _).1 hblank
      exact absurd (hb.symm.trans (isBlankText_eq_false_iff.2 (h.client id hid))) nofun
    · next hblank =>
      have hclient : ∀ id ∈ c.clientId, ∃ x ∈ id.toList, isWhiteSpace x = false := by
        intro id hid
        refine isBlankText_eq_false_iff.1 (eq_false_of_ne_true fun hb => hblank ?_)
        exact (Option.any_eq_true _ _).2 ⟨id, hid, hb⟩
      split
      · next delay hs =>
        exact iff_of_false nofun fun h => absurd (h.attempts _ _ hs) (by decide)
      · next hs =>
        refine iff_of_true rfl ⟨UInt64.pos_iff_ne_zero.2 htimeout, hclient, fun n delay he => ?_⟩
        exact UInt32.pos_iff_ne_zero.2 fun hn => hs delay (hn ▸ he)

/-- A configuration is refused as such. -/
theorem config_of_validate {c : SessionConfig} {e : SessionError} (h : c.validate = .error e) :
    ∃ text, e = .config text := by
  unfold validate at h
  split at h
  · exact ⟨_, (Except.error.inj h).symm⟩
  · split at h
    · exact ⟨_, (Except.error.inj h).symm⟩
    · split at h
      · exact ⟨_, (Except.error.inj h).symm⟩
      · cases h

/-! ## Texts -/

/-- What is read from a text is kept if it is not refused. -/
theorem parse_eq (s : String) :
    parse s =
      match decoder.fromText s with
      | .error fault => .error (.json fault)
      | .ok c => c.validate.map fun _ => c := by
  unfold parse
  cases decoder.fromText s with
  | error fault => rfl
  | ok c =>
    show (c.validate >>= fun _ => Except.ok c) = c.validate.map fun _ => c
    cases c.validate with
    | error e => rfl
    | ok u => rfl

/-- **A configuration is read back from its text if it makes sense, and refused as it would be
    otherwise.**  Every setting may have any value, as long as the addresses of the members are
    readable; and whatever configuration is read, from whatever text, makes sense. -/
theorem settings_round_trip :
    (∀ c : SessionConfig, (∀ a ∈ c.members, a.Readable) → ∀ s ∈ c.toValue.texts,
      (c.validate = .ok () → parse s = .ok c) ∧
      ∀ e, c.validate = .error e → parse s = .error e ∧ ∃ text, e = .config text) ∧
    ∀ s c, parse s = .ok c → c.Sensible := by
  refine ⟨fun c h s hs => ?_, fun s c h => ?_⟩
  · have hread : decoder.fromText s = .ok c :=
      (Decoder.recovers record_steady.decoder decoder_agrees c.toValue_fits (ofValue_toValue h)
        hs).1
    have hparse : parse s = c.validate.map fun _ => c := by
      rw [parse_eq, hread]
    refine ⟨fun hc => ?_, fun e he => ⟨?_, config_of_validate he⟩⟩
    · rw [hparse, hc]
      rfl
    · rw [hparse, he]
      rfl
  · rw [parse_eq] at h
    split at h
    · cases h
    · next c' _ =>
      cases hv : c'.validate with
      | error e => cases hv ▸ h
      | ok u =>
        rw [hv] at h
        cases h
        exact validate_eq_ok_iff.1 hv

/-- A configuration in which every setting is made. -/
def inventory : SessionConfig where
  clientId := some "inventory \x22north\x22\u00a0"
  requestTimeoutMs := 18446744073709551615
  strategy := .fixedAttempts 3 100
  selection := .followers
  members := [⟨"::1", 5000⟩, ⟨"b", 65535⟩]

/-- Its text, with the settings in order. -/
def inventoryText : String :=
  "\x7b\x22clientId\x22:\x22inventory \x5c\x22north\x5c\x22\u00a0\x22," ++
    "\x22requestTimeoutMs\x22:18446744073709551615," ++
    "\x22strategy\x22:\x7b\x22kind\x22:\x22fixedAttempts\x22," ++
    "\x22maxAttempts\x22:3,\x22delayMs\x22:100\x7d," ++
    "\x22selection\x22:\x22followers\x22,\x22members\x22:[\x22[::1]:5000\x22,\x22b:65535\x22]\x7d"

/-- The same with a name that does not show, and no attempts; the name is refused first. -/
def nameless : SessionConfig :=
  { inventory with clientId := some "\u2003", strategy := .fixedAttempts 0 100 }

theorem settings_round_trip_inventory :
    (∀ a ∈ inventory.members, a.Readable) ∧ inventory.toValue.compact = inventoryText ∧
      inventory.validate = .ok () ∧ parse inventoryText = .ok inventory ∧ inventory.Sensible ∧
      nameless.validate = .error (.config "clientId must not be blank") ∧
      parse nameless.toValue.compact = .error (.config "clientId must not be blank") := by
  have hreadable : ∀ a ∈ inventory.members, a.Readable := by decide
  have htext : inventory.toValue.compact = inventoryText := by decide +kernel
  have hvalid : inventory.validate = .ok () := by decide
  have hblank : nameless.validate = .error (.config "clientId must not be blank") := by decide
  have hparse : parse inventoryText = .ok inventory :=
    (settings_round_trip.1 inventory hreadable _ (List.mem_pair.2 (.inl htext.symm))).1 hvalid
  refine ⟨hreadable, htext, hvalid, hparse, settings_round_trip.2 _ _ hparse, hblank, ?_⟩
  exact ((settings_round_trip.1 nameless hreadable _ (List.mem_pair.2 (.inl rfl))).2 _ hblank).1

end SessionConfig

end ClusterSession
