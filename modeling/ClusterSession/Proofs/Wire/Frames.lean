/-
  ClusterSession: frames are read as they are written.

  * `ofValue_toValue`: the document of an address, of a name, of a message or of a frame
    denotes it.
  * `decoder_steady`, `decoder_agrees`: messages may have their members in any order, and
    are read from a text as from its document.
  * `toValue_fits`: the documents of messages and frames are not deep.
  * `frames_round_trip`: every frame is read back from its text, along either way.
-/
import ClusterSession.Proofs.Wire.Addresses
import ClusterSession.Proofs.Wire.Records

namespace ClusterSession

open Json

variable {origin : Origin} {depth : Nat}

/-! ## Numbers, names and addresses -/

/-- A number of 64 bits is read from its document. -/
theorem uint64_ofValue (n : UInt64) : Decoder.uint64.ofValue origin (.ofNat n.toNat) = .ok n := by
  refine Decoder.map_eq_ok.2 ⟨n.toNat, ?_, UInt64.ofNat_toNat⟩
  exact if_pos n.toNat_lt_size

theorem uint32_ofValue (n : UInt32) : Decoder.uint32.ofValue origin (.ofNat n.toNat) = .ok n := by
  refine Decoder.map_eq_ok.2 ⟨n.toNat, ?_, UInt32.ofNat_toNat⟩
  exact if_pos n.toNat_lt_size

theorem ResponseStatus.ofValue_toValue (s : ResponseStatus) :
    decoder.ofValue origin s.toValue = .ok s := by
  cases s <;> rfl

theorem ErrorType.nullable_toValue (e : ErrorType) :
    decoder.nullable.ofValue origin e.toValue = .ok (some e) := by
  cases e <;> rfl

namespace Address

variable {a : Address} {members : List Address}

theorem ofValue_toValue (h : a.Readable) : decoder.ofValue origin a.toValue = .ok a := by
  refine bind_eq_ok.2 ⟨a.display, rfl, ?_⟩
  simp only [parse_display h]

theorem nullable_toValue (h : a.Readable) :
    decoder.nullable.ofValue origin a.toValue = .ok (some a) :=
  (Decoder.nullable_eq_ok fun he => by cases he).2 ⟨a, ofValue_toValue h, rfl⟩

theorem ofValue_membersValue (h : ∀ a ∈ members, a.Readable) :
    decoder.list.ofValue origin (membersValue members) = .ok members := by
  show (members.map toValue).mapM (decoder.ofValue origin) = .ok members
  induction members with
  | nil => rfl
  | cons a rest ih =>
    rw [List.map_cons, List.mapM_cons, ofValue_toValue (h a List.mem_cons_self),
      ih fun b hb => h b (List.mem_cons_of_mem _ hb)]
    rfl

/-- The addresses of a response are its leader's and its members'. -/
theorem forall_readable {leader : Option Address} :
    (∀ a ∈ leader.toList ++ members, a.Readable) ↔
      (∀ a ∈ leader, a.Readable) ∧ ∀ a ∈ members, a.Readable := by
  simp only [List.forall_mem_append, Option.mem_toList, Option.mem_def]

@[simp] theorem decoder_steady : decoder.Steady := Decoder.refine_steady Decoder.text_steady _

@[simp] theorem decoder_agrees : decoder.Agrees := Decoder.refine_agrees Decoder.text_agrees _

end Address

@[simp] theorem address_fits (a : Address) : a.toValue.Fits depth := string_fits _

@[simp] theorem membersValue_fits (members : List Address) :
    (membersValue members).Fits (depth + 1) :=
  itemsFit_iff.2 fun v hv => by
    obtain ⟨a, -, rfl⟩ := List.mem_map.1 hv
    exact address_fits a

/-! ## Requests -/

namespace RegisterRequest

theorem record_content (r : RegisterRequest) :
    record.ofMembers origin [] record.blank r.content = .ok r := rfl

@[simp] theorem record_steady : record.Steady where
  commutes := Record.commutes_of_pairwise (by simp [record])
  fields := by simp [record, Field.must]

end RegisterRequest

namespace KeepAliveRequest

theorem record_content (r : KeepAliveRequest) :
    record.ofMembers origin [] record.blank r.content = .ok r := by
  rw [content, Record.ofMembers_next rfl (by decide) (uint64_ofValue _),
    Record.ofMembers_next rfl (by decide) (uint64_ofValue _),
    Record.ofMembers_next rfl (by decide) (uint64_ofValue _)]
  rfl

@[simp] theorem record_steady : record.Steady where
  commutes := Record.commutes_of_pairwise (by simp [record, Field.must])
  fields := by simp [record, Field.must]

end KeepAliveRequest

namespace UnregisterRequest

theorem record_content (r : UnregisterRequest) :
    record.ofMembers origin [] record.blank r.content = .ok r := by
  rw [content, Record.ofMembers_next rfl (by decide) (uint64_ofValue _)]
  rfl

@[simp] theorem record_steady : record.Steady where
  commutes := Record.commutes_of_pairwise (by simp [record])
  fields := by simp [record, Field.must]

end UnregisterRequest

namespace Request

/-- The document of a request denotes it. -/
theorem ofValue_toValue (r : Request) : decoder.ofValue origin r.toValue = .ok r := by
  cases r with
  | register r =>
    exact (Decoder.tagged_object rfl (by simp [RegisterRequest.content])).trans
      (Variant.content_ofRecord r.record_content)
  | keepAlive r =>
    exact (Decoder.tagged_object rfl (by simp [KeepAliveRequest.content])).trans
      (Variant.content_ofRecord r.record_content)
  | unregister r =>
    exact (Decoder.tagged_object rfl (by simp [UnregisterRequest.content])).trans
      (Variant.content_ofRecord r.record_content)

@[simp] theorem decoder_steady : decoder.Steady :=
  Decoder.tagged_steady (by simp)

@[simp] theorem decoder_agrees : decoder.Agrees := Decoder.tagged_agrees

theorem toValue_fits (r : Request) : r.toValue.Fits (depth + 1) := by
  refine object_fits ?_
  cases r with
  | register r => simp [RegisterRequest.content]
  | keepAlive r => simp [KeepAliveRequest.content]
  | unregister r => simp [UnregisterRequest.content]

end Request

/-! ## Responses -/

theorem Verdict.content_fits (v : Verdict) (depth : Nat) : ∀ m ∈ v.content, m.2.Fits depth :=
  List.forall_mem_cons.2 ⟨nameOf_fits _ _, optional_fits fun _ => nameOf_fits _ _⟩

namespace RegisterResponse

theorem record_content {r : RegisterResponse} (hl : ∀ a ∈ r.leader, a.Readable)
    (hm : ∀ a ∈ r.members, a.Readable) :
    record.ofMembers origin [] record.blank r.content = .ok r := by
  simp only [content, Verdict.content, List.cons_append, List.append_assoc, List.nil_append]
  rw [Record.ofMembers_next rfl (by decide) (ResponseStatus.ofValue_toValue _),
    Record.ofMembers_optional rfl (by decide) (by decide) (by simp)
      (fun e _ => ErrorType.nullable_toValue e) rfl,
    Record.ofMembers_next rfl (by decide) (uint64_ofValue _),
    Record.ofMembers_next rfl (by decide) (uint64_ofValue _),
    Record.ofMembers_optional rfl (by decide) (by decide) (by simp)
      (fun a ha => Address.nullable_toValue (hl a ha)) rfl,
    Record.ofMembers_next rfl (by decide) (Address.ofValue_membersValue hm)]
  rfl

@[simp] theorem record_steady : record.Steady where
  commutes := Record.commutes_of_pairwise (by simp [record, Field.must, Field.may])
  fields := by simp [record, Field.must, Field.may, ResponseStatus.decoder, ErrorType.decoder]

end RegisterResponse

namespace KeepAliveResponse

theorem record_content {r : KeepAliveResponse} (hl : ∀ a ∈ r.leader, a.Readable)
    (hm : ∀ a ∈ r.members, a.Readable) :
    record.ofMembers origin [] record.blank r.content = .ok r := by
  simp only [content, Verdict.content, List.cons_append, List.append_assoc]
  rw [Record.ofMembers_next rfl (by decide) (ResponseStatus.ofValue_toValue _),
    Record.ofMembers_optional rfl (by decide) (by decide) (by simp)
      (fun e _ => ErrorType.nullable_toValue e) rfl,
    Record.ofMembers_optional rfl (by decide) (by decide) (by simp)
      (fun a ha => Address.nullable_toValue (hl a ha)) rfl,
    Record.ofMembers_next rfl (by decide) (Address.ofValue_membersValue hm)]
  rfl

@[simp] theorem record_steady : record.Steady where
  commutes := Record.commutes_of_pairwise (by simp [record, Field.must, Field.may])
  fields := by simp [record, Field.must, Field.may, ResponseStatus.decoder, ErrorType.decoder]

end KeepAliveResponse

namespace UnregisterResponse

theorem record_content (r : UnregisterResponse) :
    record.ofMembers origin [] record.blank r.content = .ok r := by
  rw [content, Verdict.content, ← List.append_nil (optional _ _),
    Record.ofMembers_next rfl (by decide) (ResponseStatus.ofValue_toValue _),
    Record.ofMembers_optional rfl (by decide) (by decide) (by simp)
      (fun e _ => ErrorType.nullable_toValue e) rfl]
  rfl

@[simp] theorem record_steady : record.Steady where
  commutes := Record.commutes_of_pairwise (by simp [record, Field.must, Field.may])
  fields := by simp [record, Field.must, Field.may, ResponseStatus.decoder, ErrorType.decoder]

end UnregisterResponse

namespace Response

/-- The addresses in a response. -/
def addresses : Response → List Address
  | register r => r.leader.toList ++ r.members
  | keepAlive r => r.leader.toList ++ r.members
  | unregister _ => []

/-- The document of a response denotes it. -/
theorem ofValue_toValue {r : Response} (h : ∀ a ∈ r.addresses, a.Readable) :
    decoder.ofValue origin r.toValue = .ok r := by
  cases r with
  | register r =>
    obtain ⟨hl, hm⟩ := Address.forall_readable.1 h
    exact (Decoder.tagged_object rfl (by simp [RegisterResponse.content, Verdict.content])).trans
      (Variant.content_ofRecord (RegisterResponse.record_content hl hm))
  | keepAlive r =>
    obtain ⟨hl, hm⟩ := Address.forall_readable.1 h
    exact (Decoder.tagged_object rfl (by simp [KeepAliveResponse.content, Verdict.content])).trans
      (Variant.content_ofRecord (KeepAliveResponse.record_content hl hm))
  | unregister r =>
    exact (Decoder.tagged_object rfl (by simp [UnregisterResponse.content, Verdict.content])).trans
      (Variant.content_ofRecord r.record_content)

@[simp] theorem decoder_steady : decoder.Steady :=
  Decoder.tagged_steady (by simp)

@[simp] theorem decoder_agrees : decoder.Agrees := Decoder.tagged_agrees

theorem toValue_fits (r : Response) : r.toValue.Fits (depth + 2) := by
  refine object_fits (List.forall_mem_cons.2 ⟨string_fits _, ?_⟩)
  have hverdict := r.verdict.content_fits (depth + 1)
  cases r with
  | register r =>
    exact List.forall_mem_append.2 ⟨List.forall_mem_append.2
      ⟨List.forall_mem_append.2 ⟨hverdict, by simp⟩, optional_fits address_fits⟩, by simp⟩
  | keepAlive r =>
    exact List.forall_mem_append.2
      ⟨List.forall_mem_append.2 ⟨hverdict, optional_fits address_fits⟩, by simp⟩
  | unregister r => exact hverdict

end Response

/-! ## Frames -/

namespace RequestFrame

/-- The document of a request with its number denotes it. -/
theorem ofValue_toValue (f : RequestFrame) : decoder.ofValue origin f.toValue = .ok f := by
  show record.ofMembers origin [] record.blank _ = _
  rw [Record.ofMembers_next rfl (by decide) (uint32_ofValue _),
    Record.ofMembers_next rfl (by decide) f.body.ofValue_toValue]
  rfl

theorem record_steady : record.Steady where
  commutes := Record.commutes_of_pairwise (by simp [record, Field.must])
  fields := by simp [record, Field.must]

theorem decoder_agrees : decoder.Agrees :=
  Record.Agrees.decoder (by simp [Record.Agrees, record, Field.must])

theorem toValue_fits (f : RequestFrame) : f.toValue.Fits (depth + 2) :=
  object_fits (by simp [Request.toValue_fits])

end RequestFrame

namespace ResponseFrame

/-- The document of a response with its number denotes it. -/
theorem ofValue_toValue {f : ResponseFrame} (h : ∀ a ∈ f.body.addresses, a.Readable) :
    decoder.ofValue origin f.toValue = .ok f := by
  show record.ofMembers origin [] record.blank _ = _
  rw [Record.ofMembers_next rfl (by decide) (uint32_ofValue _),
    Record.ofMembers_next rfl (by decide) (Response.ofValue_toValue h)]
  rfl

theorem record_steady : record.Steady where
  commutes := Record.commutes_of_pairwise (by simp [record, Field.must])
  fields := by simp [record, Field.must]

theorem decoder_agrees : decoder.Agrees :=
  Record.Agrees.decoder (by simp [Record.Agrees, record, Field.must])

theorem toValue_fits (f : ResponseFrame) : f.toValue.Fits (depth + 3) :=
  object_fits (by simp [Response.toValue_fits])

end ResponseFrame

/-- **Every frame is read back from its text**, along either way: a request with any content, and a
    response in which every address is readable. -/
theorem frames_round_trip :
    (∀ f : RequestFrame, ∀ s ∈ f.toValue.texts,
      RequestFrame.decoder.fromText s = .ok f ∧ RequestFrame.decoder.fromDocument s = .ok f) ∧
    ∀ f : ResponseFrame, (∀ a ∈ f.body.addresses, a.Readable) → ∀ s ∈ f.toValue.texts,
      ResponseFrame.decoder.fromText s = .ok f ∧ ResponseFrame.decoder.fromDocument s = .ok f :=
  ⟨fun f _ => Decoder.recovers RequestFrame.record_steady.decoder RequestFrame.decoder_agrees
      f.toValue_fits f.ofValue_toValue,
    fun f h _ => Decoder.recovers ResponseFrame.record_steady.decoder ResponseFrame.decoder_agrees
      f.toValue_fits (ResponseFrame.ofValue_toValue h)⟩

/-- An answer that names a member by its IPv6 address, and one with a host that begins with a
    bracket. -/
def ResponseFrame.bracketed : ResponseFrame where
  id := 7
  body := .keepAlive (.accept (some ⟨"::1", 9001⟩) [⟨"::1", 9001⟩, ⟨"[b", 80⟩])

/-- Its text, as a connection writes it. -/
def ResponseFrame.bracketedText : String :=
  "\x7b\x22body\x22:\x7b\x22leader\x22:\x22[::1]:9001\x22," ++
    "\x22members\x22:[\x22[::1]:9001\x22,\x22[b:80\x22]," ++
    "\x22status\x22:\x22OK\x22,\x22type\x22:\x22keep_alive\x22\x7d,\x22id\x22:7\x7d"

theorem frames_round_trip_bracketed :
    (∀ a ∈ ResponseFrame.bracketed.body.addresses, a.Readable) ∧
      ResponseFrame.bracketed.toValue.canonical.compact = ResponseFrame.bracketedText ∧
      ResponseFrame.decoder.fromDocument ResponseFrame.bracketedText = .ok .bracketed := by
  have hreadable : ∀ a ∈ ResponseFrame.bracketed.body.addresses, a.Readable := by decide
  have htext : ResponseFrame.bracketed.toValue.canonical.compact = ResponseFrame.bracketedText := by
    decide +kernel
  refine ⟨hreadable, htext, ?_⟩
  rw [← htext]
  exact (frames_round_trip.2 _ hreadable _ (List.mem_pair.2 (.inr rfl))).2

end ClusterSession
