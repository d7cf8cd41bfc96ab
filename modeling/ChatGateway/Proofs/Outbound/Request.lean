import ChatGateway.Outbound.Request
import ChatGateway.Proofs.Base64
import ChatGateway.Proofs.Outbound.ChatId
import ChatGateway.Proofs.Webhook.Filter

namespace ChatGateway

namespace Violation

theorem check_ok_iff {vs : List Violation} : check vs = .ok () ↔ vs = [] := by
  cases vs with
  | nil => exact ⟨fun _ => rfl, fun _ => rfl⟩
  | cons v rest => exact ⟨nofun, nofun⟩

theorem check_validation {vs : List Violation} {f : Failure} (broken : check vs = .error f) :
    f.kind = .validation := by
  unfold check at broken
  split at broken
  · cases broken
  · rw [← Except.error.inj broken]
    rfl

theorem tooLong_nil_iff {member text : String} {max : Nat} :
    tooLong member text max = [] ↔ text.length ≤ max := by
  unfold tooLong
  split <;> simp <;> omega

theorem missing_nil_iff {member text reason : String} :
    missing member text reason = [] ↔ text ≠ "" := by
  unfold missing
  split <;> simp_all [String.isEmpty_iff]

end Violation

theorem MessageKind.ofMime_cases (mime : String) :
    ofMime mime ∈ [image, audio, video, document] := by
  unfold ofMime
  dsimp only
  split <;> decide

namespace Outbound.Request

variable {r : Request} {now : Instant} {m : Message}

theorem violations_nil_iff : r.violations = [] ↔
    r.id.length ≤ 128 ∧ r.chatId ≠ "" ∧ r.trackId.length ≤ 128 := by
  rw [violations, List.append_eq_nil_iff, List.append_eq_nil_iff, Violation.tooLong_nil_iff,
    Violation.tooLong_nil_iff, Violation.missing_nil_iff, and_assoc]

/-- The message a request is made into. -/
def made (r : Request) (now : Instant) (chat : String) (attachment : Option Attachment)
    (kind : MessageKind) : Message :=
  { id := r.id, trackId := r.trackId, timestamp := now, kind := kind, chat := { id := chat },
    text := r.text, attachment := attachment, fromMe := true, fromInternal := true,
    inReply := r.inReply }

/-- A request that is accepted breaks no rule, and names a chat, an attachment and a kind. -/
theorem message_ok (asked : r.message now = .ok m) :
    ∃ chat attachment kind, Violation.check r.violations = .ok () ∧
      Outbound.chatId r.chatId = .ok chat ∧ r.attachment = .ok attachment ∧
      r.kind attachment = .ok kind ∧ m = r.made now chat attachment kind := by
  simp only [message, bind, Except.bind] at asked
  split at asked
  · cases asked
  next valid =>
  split at asked
  · cases asked
  next chat named =>
  split at asked
  · cases asked
  next attachment attached =>
  split at asked
  · cases asked
  next kind ofKind =>
  exact ⟨chat, attachment, kind, valid, named, attached, ofKind, (Except.ok.inj asked).symm⟩

theorem message_of {chat : String} {attachment : Option Attachment} {kind : MessageKind}
    (valid : Violation.check r.violations = .ok ()) (named : Outbound.chatId r.chatId = .ok chat)
    (attached : r.attachment = .ok attachment) (ofKind : r.kind attachment = .ok kind) :
    r.message now = .ok (r.made now chat attachment kind) := by
  simp only [message, bind, Except.bind, valid, named, attached, ofKind]
  rfl

/-- An attachment carries the bytes that the request has in Base64. -/
theorem attachment_content {a : Attachment} (attached : r.attachment = .ok (some a)) :
    ∃ bytes, Base64.decode (Text.trim r.content).toList = some bytes ∧ a.content = some bytes := by
  unfold attachment at attached
  split at attached
  · cases attached
  · split at attached
    · cases attached
    · next bytes decoded =>
      cases attached
      exact ⟨bytes, decoded, rfl⟩

/-- The attachment with the bytes. -/
def attached (r : Request) (bytes : List UInt8) : Attachment :=
  { mime := r.mediaType, fileLength := bytes.length, fileName := r.fileName, content := some bytes }

theorem attachment_blank (blank : Text.trim r.content = "") : r.attachment = .ok none :=
  if_pos (Text.isBlankText_iff.mpr blank)

theorem attachment_filled (filled : Text.trim r.content ≠ "") :
    (∃ bytes, bytes ≠ [] ∧ (Text.trim r.content).toList = Base64.encode bytes ∧
      r.attachment = .ok (some (r.attached bytes))) ∨
    (∀ bytes, (Text.trim r.content).toList ≠ Base64.encode bytes) ∧
      r.attachment = .error (.validation "invalid attachment content") := by
  have full : ¬Text.isBlankText r.content = true := fun blank =>
    filled (Text.isBlankText_iff.mp blank)
  unfold attachment
  rw [if_neg full]
  cases read : Base64.decode (Text.trim r.content).toList with
  | none =>
      refine Or.inr ⟨fun bytes written => ?_, rfl⟩
      rw [written, Base64.decode_encode] at read
      cases read
  | some bytes =>
      have written := Base64.decode_eq_some_iff.mp read
      refine Or.inl ⟨bytes, ?_, written, rfl⟩
      rintro rfl
      exact filled (String.toList_inj.mp written)

theorem kind_blank (blank : Text.trim r.text = "") :
    r.kind none = .error (.validation "text or attachment required") :=
  if_pos (Text.isBlankText_iff.mpr blank)

theorem kind_text (some : Text.trim r.text ≠ "") : r.kind none = .ok .text :=
  if_neg fun blank => some (Text.isBlankText_iff.mp blank)

theorem attachment_error {f : Failure} (failed : r.attachment = .error f) :
    f.kind = .validation := by
  by_cases empty : Text.trim r.content = ""
  · cases (attachment_blank empty).symm.trans failed
  · rcases attachment_filled empty with ⟨_, _, _, made⟩ | ⟨_, refused⟩
    · cases made.symm.trans failed
    · cases refused.symm.trans failed
      rfl

theorem kind_error {attachment : Option Attachment} {f : Failure}
    (failed : r.kind attachment = .error f) : f.kind = .validation := by
  unfold kind at failed
  split at failed
  · cases failed
  · split at failed
    · cases failed
      rfl
    · cases failed

theorem kind_file (a : Attachment) : r.kind (some a) = .ok (.ofMime a.mime) := rfl

/-- A request without content conveys its text, which must not be blank; any other conveys the
attachment that it has in Base64. -/
inductive Conveys (r : Request) : Option Attachment → MessageKind → Prop where
  | text (empty : Text.trim r.content = "") (full : Text.trim r.text ≠ "") : Conveys r none .text
  | file {bytes : List UInt8} (full : bytes ≠ [])
      (written : (Text.trim r.content).toList = Base64.encode bytes) :
      Conveys r (some (r.attached bytes)) (.ofMime r.mediaType)

theorem content_full {bytes : List UInt8} (full : bytes ≠ [])
    (written : (Text.trim r.content).toList = Base64.encode bytes) : Text.trim r.content ≠ "" := by
  intro empty
  rw [empty] at written
  exact full (Base64.encode_eq_nil_iff.mp written.symm)

theorem conveys_iff {attachment : Option Attachment} {kind : MessageKind} :
    r.attachment = .ok attachment ∧ r.kind attachment = .ok kind ↔ r.Conveys attachment kind := by
  constructor
  · rintro ⟨attached, ofKind⟩
    by_cases empty : Text.trim r.content = ""
    · cases (attachment_blank empty).symm.trans attached
      by_cases blank : Text.trim r.text = ""
      · cases (kind_blank blank).symm.trans ofKind
      · cases (kind_text blank).symm.trans ofKind
        exact .text empty blank
    · rcases attachment_filled empty with ⟨bytes, full, written, made⟩ | ⟨_, failed⟩
      · obtain rfl := Except.ok.inj (made.symm.trans attached)
        obtain rfl := Except.ok.inj ((kind_file _).symm.trans ofKind)
        exact .file full written
      · cases failed.symm.trans attached
  · intro conveyed
    cases conveyed with
    | text empty full => exact ⟨attachment_blank empty, kind_text full⟩
    | @file bytes full written =>
        rcases attachment_filled (content_full full written) with ⟨_, _, same, made⟩ | ⟨none, _⟩
        · rw [made, Base64.encode_injective (same.symm.trans written)]
          exact ⟨rfl, kind_file _⟩
        · exact absurd written (none bytes)

theorem message_eq_ok_iff : r.message now = .ok m ↔
    (r.id.length ≤ 128 ∧ r.chatId ≠ "" ∧ r.trackId.length ≤ 128) ∧
      ∃ chat attachment kind, Outbound.chatId r.chatId = .ok chat ∧ r.Conveys attachment kind ∧
        m = r.made now chat attachment kind := by
  rw [← violations_nil_iff, ← Violation.check_ok_iff]
  constructor
  · intro asked
    obtain ⟨chat, attachment, kind, valid, named, attached, ofKind, made⟩ := message_ok asked
    exact ⟨valid, chat, attachment, kind, named, conveys_iff.mp ⟨attached, ofKind⟩, made⟩
  · rintro ⟨valid, chat, attachment, kind, named, conveyed, rfl⟩
    obtain ⟨attached, ofKind⟩ := conveys_iff.mpr conveyed
    exact message_of valid named attached ofKind

namespace Conveys

variable {attachment : Option Attachment} {kind : MessageKind}

theorem isSome_iff (conveyed : r.Conveys attachment kind) :
    attachment.isSome = true ↔ Text.trim r.content ≠ "" := by
  cases conveyed with
  | text empty _ => simp [empty]
  | file full written => simp [content_full full written]

theorem content (conveyed : r.Conveys attachment kind) : ∀ a ∈ attachment, ∃ bytes,
    (a = r.attached bytes ∧ a.content = some bytes) ∧
      Base64.encode bytes = (Text.trim r.content).toList ∧
      a.fileLength = bytes.length ∧ 1 ≤ a.fileLength := by
  cases conveyed with
  | text => exact nofun
  | @file bytes full written =>
      rintro a ⟨⟩
      exact ⟨bytes, ⟨rfl, rfl⟩, written.symm, rfl, List.length_pos_iff.mpr full⟩

theorem kind_text_iff (conveyed : r.Conveys attachment kind) :
    kind = .text ↔ attachment = none := by
  cases conveyed with
  | text => exact ⟨fun _ => rfl, fun _ => rfl⟩
  | file =>
      refine ⟨fun text => ?_, nofun⟩
      have media := MessageKind.ofMime_cases r.mediaType
      rw [text] at media
      exact absurd media (by decide)

theorem kind_media (conveyed : r.Conveys attachment kind) :
    ∀ a ∈ attachment, kind = .ofMime a.mime ∧ kind ∈ [.image, .audio, .video, .document] := by
  cases conveyed with
  | text => exact nofun
  | file =>
      rintro a ⟨⟩
      exact ⟨rfl, MessageKind.ofMime_cases r.mediaType⟩

theorem kind_sent (conveyed : r.Conveys attachment kind) :
    kind ∈ [.text, .image, .audio, .video, .document] := by
  cases conveyed with
  | text => decide
  | file => exact List.mem_cons_of_mem .text (MessageKind.ofMime_cases r.mediaType)

theorem flawless (conveyed : r.Conveys attachment kind) (chat : String) :
    (r.made now chat attachment kind).flaw? = none := by
  have deliverable : ∀ kind ∈ [MessageKind.text, .image, .audio, .video, .document],
      kind.isDeliverable = true := by decide
  have filled : (kind == .text && Text.isBlankText r.text) = false := by
    cases conveyed with
    | text _ full =>
        rw [Bool.and_eq_false_iff, ← Bool.not_eq_true, ← Bool.not_eq_true]
        exact Or.inr fun blank => full (Text.isBlankText_iff.mp blank)
    | file =>
        have media : ∀ kind ∈ [MessageKind.image, .audio, .video, .document],
            (kind == .text) = false := by decide
        rw [media _ (MessageKind.ofMime_cases r.mediaType), Bool.false_and]
  have sound := deliverable kind conveyed.kind_sent
  change (if !kind.isDeliverable then some SkipReason.notDeliverable
    else if kind == .text && Text.isBlankText r.text then some .emptyText else none) = none
  rw [sound, filled]
  rfl

/-- No webhook skips the message for what it is. -/
theorem skipped (conveyed : r.Conveys attachment kind) (chat : String) (w : Webhook) :
    ∀ reason ∈ [SkipReason.notDeliverable, .emptyText, .readReceipts, .calls],
      w.skipReason? (r.made now chat attachment kind) ≠ some reason := by
  intro reason listed skipped
  have apart : ∀ kind ∈ [MessageKind.text, .image, .audio, .video, .document],
      (kind == .system) = false ∧ (kind == .call) = false := by decide
  obtain ⟨notice, call⟩ := apart kind conveyed.kind_sent
  rcases Webhook.skipReason?_cases skipped with flaw | ⟨f, blocked, rfl⟩ | rfl
  · rw [conveyed.flawless] at flaw
    cases flaw
  · have covered := (Webhook.blocks_iff.mp blocked).1
    cases f with
    | readReceipts =>
        change (kind == .system && _) = true at covered
        rw [notice] at covered
        cases covered
    | calls =>
        change (kind == .call) = true at covered
        rw [call] at covered
        cases covered
    | groups => exact absurd listed (by decide)
    | broadcasts => exact absurd listed (by decide)
  · exact absurd listed (by decide)

end Conveys

/-- The rules for requests. -/
structure Acceptable (r : Request) : Prop where
  id : r.id.length ≤ 128
  trackId : r.trackId.length ≤ 128
  named : r.chatId ≠ ""
  chat : ∃ out, Outbound.chatId r.chatId = .ok out
  body : Text.trim r.content = "" ∧ Text.trim r.text ≠ "" ∨
    ∃ bytes ≠ [], (Text.trim r.content).toList = Base64.encode bytes

theorem message_isOk_iff : (∃ m, r.message now = .ok m) ↔ r.Acceptable := by
  constructor
  · rintro ⟨m, asked⟩
    obtain ⟨⟨id, named, track⟩, chat, _, _, found, conveyed, _⟩ := message_eq_ok_iff.mp asked
    refine ⟨id, track, named, ⟨chat, found⟩, ?_⟩
    cases conveyed with
    | text empty full => exact Or.inl ⟨empty, full⟩
    | file full written => exact Or.inr ⟨_, full, written⟩
  · rintro ⟨id, track, named, ⟨chat, found⟩, body⟩
    have conveyed : ∃ attachment kind, r.Conveys attachment kind := by
      rcases body with ⟨empty, full⟩ | ⟨bytes, full, written⟩
      · exact ⟨_, _, .text empty full⟩
      · exact ⟨_, _, .file full written⟩
    obtain ⟨attachment, kind, conveyed⟩ := conveyed
    exact ⟨_, message_eq_ok_iff.mpr ⟨⟨id, named, track⟩, chat, _, _, found, conveyed, rfl⟩⟩

theorem message_error {f : Failure} (failed : r.message now = .error f) :
    f.kind = .validation := by
  simp only [message, bind, Except.bind] at failed
  split at failed
  · next broken =>
    cases failed
    exact Violation.check_validation broken
  split at failed
  · next unnamed =>
    cases failed
    rw [chatId_error unnamed]
    rfl
  split at failed
  · next unread =>
    cases failed
    exact attachment_error unread
  next attachment _ =>
  split at failed
  · next blank =>
    cases failed
    exact kind_error blank
  · cases failed

/-- A request is accepted exactly if it follows the rules, and breaks them otherwise. The message it
is made into has an attachment exactly if there is content, with just the bytes that the content
is Base64 for; it is a text exactly if it has none, and else a file of one of four kinds. No webhook
skips it for what it is. Whatever bytes there are, they can be sent, with any white space around
their Base64. -/
theorem requests_are_converted_exactly (r : Request) (now : Instant) :
    ((∃ m, r.message now = .ok m) ↔ r.Acceptable) ∧
    (∀ f, r.message now = .error f → f.kind = .validation) ∧
    (∀ m, r.message now = .ok m →
      (∃ chat, Outbound.chatId r.chatId = .ok chat ∧ m = r.made now chat m.attachment m.kind) ∧
      (m.attachment.isSome = true ↔ Text.trim r.content ≠ "") ∧
      (∀ a ∈ m.attachment, ∃ bytes, (a = r.attached bytes ∧ a.content = some bytes) ∧
        Base64.encode bytes = (Text.trim r.content).toList ∧
        a.fileLength = bytes.length ∧ 1 ≤ a.fileLength) ∧
      (m.kind = .text ↔ m.attachment = none) ∧
      (∀ a ∈ m.attachment, m.kind = .ofMime a.mime ∧
        m.kind ∈ [.image, .audio, .video, .document]) ∧
      ∀ w : Webhook, ∀ reason ∈ [SkipReason.notDeliverable, .emptyText, .readReceipts, .calls],
        w.skipReason? m ≠ some reason) ∧
    ∀ bytes front back, bytes ≠ [] → (∀ c ∈ front, Text.isBlank c = true) →
      (∀ c ∈ back, Text.isBlank c = true) →
      r.content = String.ofList (front ++ Base64.encode bytes ++ back) →
      r.id.length ≤ 128 → r.trackId.length ≤ 128 →
      (∃ chat, Outbound.chatId r.chatId = .ok chat) →
      ∃ m a, r.message now = .ok m ∧ m.attachment = some a ∧ a.content = some bytes := by
  refine ⟨message_isOk_iff, fun f => message_error, fun m asked => ?_, ?_⟩
  · obtain ⟨_, chat, attachment, kind, found, conveyed, rfl⟩ := message_eq_ok_iff.mp asked
    exact ⟨⟨chat, found, rfl⟩, conveyed.isSome_iff, conveyed.content, conveyed.kind_text_iff,
      conveyed.kind_media, conveyed.skipped chat⟩
  · rintro bytes front back full before behind content id track ⟨chat, found⟩
    have written : (Text.trim r.content).toList = Base64.encode bytes := by
      rw [content, Text.trim_toList, String.toList_ofList]
      exact (Text.Trimmed.of_unblank (Base64.encode_unblank bytes)).surrounded before behind
    have named : r.chatId ≠ "" := by
      intro empty
      have nothing : Text.trim "" = "" := by decide
      have refused := (chatId_empty nothing).2
      rw [empty, refused] at found
      cases found
    exact ⟨_, _, message_eq_ok_iff.mpr
      ⟨⟨id, named, track⟩, chat, _, _, found, .file full written, rfl⟩, rfl, rfl⟩

/-- A picture that comes with white space around its Base64. -/
theorem picture_is_accepted :
    let r : Request := { chatId := "5511", mime := "image/png", content := " aGk=\n" }
    r.Acceptable ∧ ∃ m, r.message .epoch = .ok m ∧ m.attachment = some (r.attached [104, 105]) ∧
      m.kind = .image := by
  intro r
  obtain ⟨accepted, _, converted, padded⟩ := requests_are_converted_exactly r .epoch
  have content : r.content = String.ofList ([' '] ++ Base64.encode [104, 105] ++ ['\n']) := by
    decide
  have chat : Outbound.chatId r.chatId = .ok "5511@s.whatsapp.net" := by decide
  have blank : [' '].all Text.isBlank = true ∧ ['\n'].all Text.isBlank = true := by decide
  obtain ⟨m, a, asked, carried, bytes⟩ := padded [104, 105] [' '] ['\n'] (by decide)
    (List.all_eq_true.mp blank.1) (List.all_eq_true.mp blank.2) content (by decide) (by decide)
    ⟨_, chat⟩
  obtain ⟨_, _, files, _, kinds, _⟩ := converted m asked
  obtain ⟨bytes', ⟨file, same⟩, _⟩ := files a carried
  obtain rfl := Option.some.inj (bytes.symm.trans same)
  have picture : MessageKind.ofMime a.mime = .image := by
    rw [file]
    decide
  exact ⟨accepted.mp ⟨m, asked⟩, m, asked, carried.trans (congrArg some file),
    (kinds a carried).1.trans picture⟩

end Outbound.Request

end ChatGateway
