import ChatGateway.Webhook.Wire
import ChatGateway.Proofs.Message.Wire

open ChatGateway.Field (Entry written)

namespace ChatGateway

namespace Webhook

/-- What is written of a webhook, field by field. The owner is not. -/
def values (w : Webhook) : List (Option Json) :=
  [none, some (.str w.url), some (.bool w.forwardInternal), Json.ofText w.trackId, w.extra,
    w.groups.map .bool, w.broadcasts.map .bool, w.readReceipts.map .bool, w.calls.map .bool,
    w.failure.map Instant.toJson, w.success.map Instant.toJson]

theorem fields_plain : Field.Plain fields := ⟨by decide, by decide⟩

theorem toJson_eq (w : Webhook) : w.toJson = .obj (written (fields.zipWith Entry.mk w.values)) := by
  simp only [toJson, Json.unlessEmpty_eq, Json.ifSome_eq, Option.map_id_apply, values, fields,
    List.zipWith, written, List.flatMap_cons, List.flatMap_nil, List.append_nil, List.append_assoc]
  rfl

/-- What the times of a webhook are limited to, and how its data is kept: with the names of an
object in order and none twice. -/
structure Fits (w : Webhook) : Prop where
  extra : ∀ j ∈ w.extra, j.canonical = j
  failure : ∀ t ∈ w.failure, t.Common
  success : ∀ t ∈ w.success, t.Common

theorem read_extra {σ : Type} {name : String} {set : Option Json → σ → σ} {s : σ}
    {extra : Option Json} (default : set none s = s) (real : extra ≠ some .null)
    (kept : ∀ j ∈ extra, j.canonical = j) :
    Entry.read s ⟨.opt name Decoder.anything set, extra⟩ = .ok (set extra s) := by
  cases extra with
  | none => exact congrArg Except.ok default.symm
  | some j =>
      refine Entry.read_some ?_
      rw [Decoder.anything, kept j rfl]
      exact fun null => real (congrArg some null)

theorem decode_toJson {w : Webhook} (fits : w.Fits) (real : w.extra ≠ some .null) :
    decode w.toJson = .ok { w with token := "" } := by
  rw [toJson_eq]
  refine (Field.decode_written (fields.zipWith Entry.mk w.values) fields_plain ?_
    { url := "" }).trans ?_
  · simp [values, fields, Field.req, Field.opt]
  refine Entry.foldlM_cons rfl ?_
  refine Entry.foldlM_cons (Entry.read_some rfl) ?_
  refine Entry.foldlM_cons (Entry.read_some rfl) ?_
  refine Entry.foldlM_cons (Entry.read_text rfl) ?_
  dsimp only
  refine Entry.foldlM_cons (read_extra rfl real fits.extra) ?_
  refine Entry.foldlM_cons (Entry.read_optional rfl (fun _ => Json.noConfusion) fun _ _ => rfl) ?_
  dsimp only
  refine Entry.foldlM_cons (Entry.read_optional rfl (fun _ => Json.noConfusion) fun _ _ => rfl) ?_
  refine Entry.foldlM_cons (Entry.read_optional rfl (fun _ => Json.noConfusion) fun _ _ => rfl) ?_
  dsimp only
  refine Entry.foldlM_cons (Entry.read_optional rfl (fun _ => Json.noConfusion) fun _ _ => rfl) ?_
  refine Entry.foldlM_cons (Entry.read_optional rfl (fun _ => Json.noConfusion) fun t some =>
    Instant.decode_toJson (fits.failure t some)) ?_
  dsimp only
  refine Entry.foldlM_cons (Entry.read_optional rfl (fun _ => Json.noConfusion) fun t some =>
    Instant.decode_toJson (fits.success t some)) ?_
  rfl

theorem readText_toJson {w : Webhook} (fits : w.Fits) (real : w.extra ≠ some .null)
    (legible : ∀ j ∈ w.extra, Json.Legible (Json.maxDepth - 1) j) :
    Json.readText fields { url := "" } (Json.print w.toJson) = .ok { w with token := "" } := by
  have decoded := decode_toJson fits real
  rw [toJson_eq] at decoded ⊢
  refine Json.readText_written fields_plain ?_ decoded
  simp only [values, List.forall_mem_cons]
  exact ⟨nofun, .some (.str w.url), .some (.bool w.forwardInternal), Json.clear_text _ w.trackId,
    legible, .map fun b _ => .bool b, .map fun b _ => .bool b, .map fun b _ => .bool b,
    .map fun b _ => .bool b, .map fun t _ => .str t.print, .map fun t _ => .str t.print, nofun⟩

end Webhook

/-- A message that is written reads back without the bytes of its attachment and the mark that they
can be had, and these make no difference to the text; so does a webhook without its owner. The
value that is written may be as deep as it likes; a text is read if the numbers in it read back and
the data of a webhook is no deeper than a reader goes. -/
theorem wire_loses_and_leaks_nothing {m : Message} (fits : m.Fits) {w : Webhook} (kept : w.Fits)
    (real : w.extra ≠ some .null) :
    Message.decode m.toJson = .ok m.disclosed ∧
    ((∀ a ∈ m.attachment, a.ReadsBack) →
      Json.readText Message.fields Message.blank (Json.print m.toJson) = .ok m.disclosed) ∧
    (∀ m₁ m₂ : Message, m₁.disclosed = m₂.disclosed →
      Json.print m₁.toJson = Json.print m₂.toJson) ∧
    Webhook.decode w.toJson = .ok { w with token := "" } ∧
    ((∀ j ∈ w.extra, Json.Legible (Json.maxDepth - 1) j) →
      Json.readText Webhook.fields { url := "" } (Json.print w.toJson) =
        .ok { w with token := "" }) := by
  refine ⟨Message.decode_toJson fits, Message.readText_toJson fits, fun m₁ m₂ same => ?_,
    Webhook.decode_toJson kept real, Webhook.readText_toJson kept real⟩
  rw [← Message.toJson_disclosed m₁, ← Message.toJson_disclosed m₂, same]

/-- A place to half a degree. -/
theorem half_degree_readsBack : Binary64.ReadsBack ⟨0xC037800000000000⟩ := by
  have text : Binary64.toJsonText ⟨0xC037800000000000⟩ = "-23.5" := by decide +kernel
  have value : Binary64.ofDigits? true ['2', '3'] ['5'] 0 = some ⟨0xC037800000000000⟩ := by
    have tenth : (Binary64.ofNat 235).divPower 1 =
        (Binary64.ofNat 235).div (Binary64.powerOfTen 1) := by
      rw [Binary64.divPower, if_pos (by decide)]
    change some ((Binary64.ofNat 235).divPower 1).negate = _
    rw [tenth]
    decide +kernel
  have read : Json.number ['-', '2', '3', '.', '5'] =
      (Binary64.ofDigits? true ['2', '3'] ['5'] 0).bind fun x => some (.float x, []) := rfl
  unfold Binary64.ReadsBack
  rw [text]
  exact read.trans (by rw [value]; rfl)

/-- A leap second, a place and data in a webhook are read as they were written. -/
theorem place_reads_back :
    let a : Attachment :=
      { mime := "text/x-uri", latitude := some ⟨0xC037800000000000⟩, content := some [1, 2] }
    let m : Message :=
      { id := "A", timestamp := ⟨1483228799, 1500000000⟩, kind := .location,
        chat := ⟨"1@s.whatsapp.net", "Ana"⟩, attachment := some a }
    let w : Webhook :=
      { token := "tok", url := "http://one.example/hook", success := some ⟨0, 1000000⟩,
        extra := some (.obj [("a", .arr [.int 1, .null])]) }
    Json.readText Message.fields Message.blank (Json.print m.toJson) = .ok m.disclosed ∧
      Json.print m.toJson = Json.print m.disclosed.toJson ∧
      Json.readText Webhook.fields { url := "" } (Json.print w.toJson) =
        .ok { w with token := "" } := by
  intro a m w
  have fits : m.Fits := by
    refine ⟨⟨by decide, by decide, .inr ⟨by decide, by decide⟩⟩, fun a' same => ?_, by decide⟩
    cases same
    exact ⟨by decide, nofun, fun x same => by cases same; decide, nofun⟩
  have kept : w.Fits := by
    refine ⟨fun j same => ?_, nofun, fun t same => ?_⟩
    · cases same
      rfl
    · cases same
      exact ⟨by decide, by decide, .inl (by decide)⟩
  have back : ∀ a ∈ m.attachment, a.ReadsBack := fun a' same => by
    cases same
    refine ⟨fun x same => ?_, nofun⟩
    cases same
    exact half_degree_readsBack
  have legible : ∀ j ∈ w.extra, Json.Legible (Json.maxDepth - 1) j := fun j same => by
    cases same
    refine .obj fun member inside => ?_
    rw [List.mem_singleton.mp inside]
    refine .arr fun item inside => ?_
    rcases List.mem_cons.mp inside with rfl | inside
    · exact .int (by decide)
    · rw [List.mem_singleton.mp inside]
      exact .null
  have all := wire_loses_and_leaks_nothing fits kept (by simp [w])
  exact ⟨all.2.1 back, all.2.2.1 m m.disclosed rfl, all.2.2.2.2 legible⟩

end ChatGateway
