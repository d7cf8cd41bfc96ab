import ChatGateway.Message.Wire
import ChatGateway.Proofs.Json.Fields
import ChatGateway.Proofs.Json.Texts
import ChatGateway.Proofs.Time.Written

open ChatGateway.Field (Entry written)

namespace ChatGateway

namespace Json

/-- A text, unless it is empty. -/
def ofText (value : String) : Option Json := if value = "" then none else some (.str value)

theorem unlessEmpty_eq (name value : String) :
    unlessEmpty name value = ((ofText value).map (name, ·)).toList := by
  unfold unlessEmpty ofText
  simp only [String.isEmpty_iff]
  split <;> rfl

theorem ifSome_eq {α : Type} (name : String) (f : α → Json) (o : Option α) :
    ifSome name f o = ((o.map f).map (name, ·)).toList := by
  cases o <;> rfl

theorem clear_text (depth : Nat) (value : String) : Clear depth (ofText value) :=
  .unlessDefault (.str value)

theorem isExact_ofNat {n : Nat} (below : n < 2 ^ 64) : isExact n = true := by
  have low : minInt ≤ (n : Int) := Int.le_trans (by decide) (Int.natCast_nonneg n)
  have high : (n : Int) ≤ maxInt := by
    have limit : maxInt = 2 ^ 64 - 1 := by decide
    omega
  simp [isExact, low, high]

end Json

/-- A double whose JSON text reads as itself. -/
def Binary64.ReadsBack (x : Binary64) : Prop :=
  Json.number x.toJsonText.toList = some (.float x, [])

theorem Decoder.nat_ofNat {bits n : Nat} (below : n < 2 ^ bits) :
    Decoder.nat bits (.ofNat n) = .ok n := by
  have high : (n : Int) ≤ Int.pow 2 bits - 1 := by
    have cast : ((2 ^ bits : Nat) : Int) = Int.pow 2 bits := Int.natCast_pow 2 bits
    omega
  change (if 0 ≤ (n : Int) ∧ (n : Int) ≤ Int.pow 2 bits - 1 then _ else _ :
    Except DecodeError Int).map Int.toNat = _
  rw [if_pos ⟨Int.natCast_nonneg n, high⟩]
  rfl

theorem Entry.read_text {σ : Type} {name : String} {set : String → σ → σ} {s : σ} {v : String}
    (default : set "" s = s) :
    Entry.read s ⟨.opt name Decoder.string set, Json.ofText v⟩ = .ok (set v s) :=
  Entry.read_unless default id fun _ => rfl

namespace Chat

/-- What is written of a conversation, field by field. -/
def values (c : Chat) : List (Option Json) := [some (.str c.id), Json.ofText c.title]

theorem fields_plain : Field.Plain fields := ⟨by decide, by decide⟩

theorem toJson_eq (c : Chat) : c.toJson = .obj (written (fields.zipWith Entry.mk c.values)) := by
  rw [toJson, Json.unlessEmpty_eq]
  simp only [values, fields, List.zipWith, written, List.flatMap_cons, List.flatMap_nil,
    List.append_nil]
  rfl

theorem decode_toJson (c : Chat) : decode c.toJson = .ok c := by
  rw [toJson_eq]
  refine (Field.decode_written (fields.zipWith Entry.mk c.values) fields_plain ?_ ⟨"", ""⟩).trans ?_
  · simp [values, fields, Field.req, Field.opt]
  exact Entry.foldlM_cons (Entry.read_some rfl) (Entry.foldlM_cons (Entry.read_text rfl) rfl)

theorem legible (c : Chat) {depth : Nat} : Json.Legible (depth + 1) c.toJson := by
  rw [toJson_eq]
  refine .obj (Json.legible_written ?_)
  simp only [values, List.forall_mem_cons]
  exact ⟨.some (.str c.id), Json.clear_text _ c.title, nofun⟩

end Chat

namespace Attachment

/-- What is written of an attachment, field by field. -/
def values (a : Attachment) : List (Option Json) :=
  [some (.str a.mime), some (.ofNat a.fileLength), Json.ofText a.fileName, a.thumbnail.map .str,
    a.seconds.map .ofNat, a.latitude.map .float, a.longitude.map .float]

theorem fields_plain : Field.Plain fields := ⟨by decide, by decide⟩

theorem toJson_eq (a : Attachment) :
    a.toJson = .obj (written (fields.zipWith Entry.mk a.values)) := by
  simp only [toJson, Json.unlessEmpty_eq, Json.ifSome_eq, values, fields, List.zipWith, written,
    List.flatMap_cons, List.flatMap_nil, List.append_nil, List.append_assoc]
  rfl

/-- The attachment without its bytes and the mark that they can be had. -/
def disclosed (a : Attachment) : Attachment := { a with content := none, canDownload := false }

/-- What the numbers of an attachment are limited to. -/
structure Fits (a : Attachment) : Prop where
  fileLength : a.fileLength < 2 ^ 64
  seconds : ∀ n ∈ a.seconds, n < 2 ^ 32
  latitude : ∀ x ∈ a.latitude, x.isFinite = true
  longitude : ∀ x ∈ a.longitude, x.isFinite = true

theorem decode_toJson {a : Attachment} (fits : a.Fits) : decode a.toJson = .ok a.disclosed := by
  rw [toJson_eq]
  refine (Field.decode_written (fields.zipWith Entry.mk a.values) fields_plain ?_
    { mime := "" }).trans ?_
  · simp [values, fields, Field.req, Field.opt]
  refine Entry.foldlM_cons (Entry.read_some rfl) ?_
  refine Entry.foldlM_cons (Entry.read_some (Decoder.nat_ofNat fits.fileLength)) ?_
  refine Entry.foldlM_cons (Entry.read_text rfl) ?_
  dsimp only
  refine Entry.foldlM_cons (Entry.read_optional rfl (fun _ => Json.noConfusion) fun _ _ => rfl) ?_
  refine Entry.foldlM_cons (Entry.read_optional rfl (fun _ => Json.noConfusion) fun n some =>
    Decoder.nat_ofNat (fits.seconds n some)) ?_
  dsimp only
  refine Entry.foldlM_cons (Entry.read_optional rfl (fun _ => Json.noConfusion) fun _ _ => rfl) ?_
  refine Entry.foldlM_cons (Entry.read_optional rfl (fun _ => Json.noConfusion) fun _ _ => rfl) ?_
  rfl

/-- The numbers of places read back. -/
structure ReadsBack (a : Attachment) : Prop where
  latitude : ∀ x ∈ a.latitude, x.ReadsBack
  longitude : ∀ x ∈ a.longitude, x.ReadsBack

theorem legible {a : Attachment} (fits : a.Fits) (back : a.ReadsBack) {depth : Nat} :
    Json.Legible (depth + 1) a.toJson := by
  rw [toJson_eq]
  refine .obj (Json.legible_written ?_)
  simp only [values, List.forall_mem_cons]
  refine ⟨.some (.str a.mime), .some (.int (Json.isExact_ofNat fits.fileLength)),
    Json.clear_text _ a.fileName, .map fun s _ => .str s, .map fun n some => ?_,
    .map fun x some => ?_, .map fun x some => ?_, nofun⟩
  · exact .int (Json.isExact_ofNat (Nat.lt_trans (fits.seconds n some) (by decide)))
  · exact .float (fits.latitude x some) (back.latitude x some)
  · exact .float (fits.longitude x some) (back.longitude x some)

end Attachment

theorem MessageKind.decode_toJson (k : MessageKind) : decode k.toJson = .ok k := by
  cases k <;> rfl

theorem Instant.decode_toJson {t : Instant} (common : t.Common) : decode t.toJson = .ok t := by
  rw [toJson, decode, parse?_print common]

namespace Message

/-- What is written of a message, field by field. -/
def values (m : Message) : List (Option Json) :=
  [some (.str m.id), Json.ofText m.trackId, some m.timestamp.toJson, some m.kind.toJson,
    some m.chat.toJson, m.participant.map Chat.toJson, Json.ofText m.text,
    m.attachment.map Attachment.toJson, some (.bool m.fromMe), some (.bool m.fromInternal),
    if m.edited = false then none else some (.bool true),
    if m.forwardingScore = 0 then none else some (.ofNat m.forwardingScore),
    Json.ofText m.inReply, Json.ofText m.synopsis]

theorem fields_plain : Field.Plain fields := ⟨by decide, by decide⟩

theorem toJson_eq (m : Message) : m.toJson = .obj (written (fields.zipWith Entry.mk m.values)) := by
  have edited : (if m.edited then [("edited", Json.bool true)] else []) =
      ((if m.edited = false then none else some (Json.bool true)).map ("edited", ·)).toList := by
    cases m.edited <;> rfl
  have forwarded : (if m.forwardingScore = 0 then []
        else [("forwardingscore", Json.ofNat m.forwardingScore)]) =
      ((if m.forwardingScore = 0 then none
        else some (Json.ofNat m.forwardingScore)).map ("forwardingscore", ·)).toList := by
    split <;> rfl
  simp only [toJson, edited, forwarded, Json.unlessEmpty_eq, Json.ifSome_eq, values, fields,
    List.zipWith, written, List.flatMap_cons, List.flatMap_nil, List.append_nil, List.append_assoc]
  rfl

/-- The message without the bytes of its attachment. -/
def disclosed (m : Message) : Message :=
  { m with attachment := m.attachment.map Attachment.disclosed }

/-- What the time and the numbers of a message are limited to. -/
structure Fits (m : Message) : Prop where
  timestamp : m.timestamp.Common
  attachment : ∀ a ∈ m.attachment, a.Fits
  forwardingScore : m.forwardingScore < 2 ^ 32

theorem decode_toJson {m : Message} (fits : m.Fits) : decode m.toJson = .ok m.disclosed := by
  rw [toJson_eq]
  refine (Field.decode_written (fields.zipWith Entry.mk m.values) fields_plain ?_ blank).trans ?_
  · simp [values, fields, Field.req, Field.opt]
  refine Entry.foldlM_cons (Entry.read_some rfl) ?_
  refine Entry.foldlM_cons (Entry.read_text rfl) ?_
  dsimp only [blank]
  refine Entry.foldlM_cons (Entry.read_some (Instant.decode_toJson fits.timestamp)) ?_
  refine Entry.foldlM_cons (Entry.read_some (MessageKind.decode_toJson m.kind)) ?_
  dsimp only
  refine Entry.foldlM_cons (Entry.read_some (Chat.decode_toJson m.chat)) ?_
  refine Entry.foldlM_cons (Entry.read_optional rfl (fun _ => Json.noConfusion) fun c _ =>
    Chat.decode_toJson c) ?_
  dsimp only
  refine Entry.foldlM_cons (Entry.read_text rfl) ?_
  refine Entry.foldlM_cons (Entry.read_map rfl (fun _ => Json.noConfusion) fun a some =>
    Attachment.decode_toJson (fits.attachment a some)) ?_
  dsimp only
  refine Entry.foldlM_cons (Entry.read_some rfl) ?_
  refine Entry.foldlM_cons (Entry.read_some rfl) ?_
  dsimp only
  refine Entry.foldlM_cons (Entry.read_unless rfl (fun plain => plain) fun edited =>
    congrArg Except.ok (Bool.eq_true_of_not_eq_false edited).symm) ?_
  refine Entry.foldlM_cons (Entry.read_unless rfl (fun unset => unset) fun _ =>
    Decoder.nat_ofNat fits.forwardingScore) ?_
  dsimp only
  refine Entry.foldlM_cons (Entry.read_text rfl) ?_
  refine Entry.foldlM_cons (Entry.read_text rfl) ?_
  rfl

theorem toJson_disclosed (m : Message) : m.disclosed.toJson = m.toJson := by
  unfold disclosed toJson
  cases m.attachment <;> rfl

theorem readText_toJson {m : Message} (fits : m.Fits) (back : ∀ a ∈ m.attachment, a.ReadsBack) :
    Json.readText fields blank (Json.print m.toJson) = .ok m.disclosed := by
  have decoded := decode_toJson fits
  rw [toJson_eq] at decoded ⊢
  refine Json.readText_written fields_plain ?_ decoded
  simp only [values, List.forall_mem_cons]
  exact ⟨.some (.str m.id), Json.clear_text _ m.trackId, .some (.str m.timestamp.print),
    .some (.str m.kind.name), .some m.chat.legible, .map fun c _ => c.legible,
    Json.clear_text _ m.text,
    .map fun a some => Attachment.legible (fits.attachment a some) (back a some),
    .some (.bool m.fromMe), .some (.bool m.fromInternal), .unlessDefault (.bool true),
    .unlessDefault (.int (Json.isExact_ofNat (Nat.lt_trans fits.forwardingScore (by decide)))),
    Json.clear_text _ m.inReply, Json.clear_text _ m.synopsis, nofun⟩

end Message

end ChatGateway
