import ChatGateway.Base64
import ChatGateway.Outbound.ChatId
import ChatGateway.Message.Wire
import ChatGateway.Violation

namespace ChatGateway.Outbound

structure Request where
  id : String := ""
  chatId : String := ""
  trackId : String := ""
  text : String := ""
  inReply : String := ""
  fileName : String := ""
  mime : String := ""
  content : String := ""
  deriving DecidableEq, Repr

namespace Request

def fields : List (Field Request) :=
  [.opt "id" Decoder.string (fun v r => { r with id := v }),
   (Field.opt "chatid" Decoder.string (fun v r => { r with chatId := v })).aliased ["chatId"],
   (Field.opt "trackid" Decoder.string (fun v r => { r with trackId := v })).aliased ["trackId"],
   .opt "text" Decoder.string (fun v r => { r with text := v }),
   (Field.opt "inreply" Decoder.string (fun v r => { r with inReply := v })).aliased ["inReply"],
   (Field.opt "filename" Decoder.string (fun v r => { r with fileName := v })).aliased
     ["fileName"],
   .opt "mime" Decoder.string (fun v r => { r with mime := v }),
   .opt "content" Decoder.string (fun v r => { r with content := v })]

def decode : Decoder Request := Field.decode fields {}

def violations (r : Request) : List Violation :=
  Violation.tooLong "id" r.id 128 ++
    Violation.missing "chat_id" r.chatId "chat id missing" ++
    Violation.tooLong "track_id" r.trackId 128

def mediaType (r : Request) : String :=
  if Text.isBlankText r.mime then "application/octet-stream" else Text.trim r.mime

def attachment (r : Request) : Except Failure (Option Attachment) :=
  if Text.isBlankText r.content then .ok none
  else match Base64.decode (Text.trim r.content).toList with
    | none => .error (.validation "invalid attachment content")
    | some bytes => .ok (some { mime := r.mediaType, fileLength := bytes.length,
                                fileName := r.fileName, content := some bytes })

def kind (r : Request) : Option Attachment → Except Failure MessageKind
  | some a => .ok (MessageKind.ofMime a.mime)
  | none =>
    if Text.isBlankText r.text then .error (.validation "text or attachment required")
    else .ok .text

def message (r : Request) (now : Instant) : Except Failure Message := do
  Violation.check r.violations
  let chat ← Outbound.chatId r.chatId
  let attachment ← r.attachment
  let kind ← r.kind attachment
  return { id := r.id, trackId := r.trackId, timestamp := now, kind := kind,
           chat := { id := chat }, text := r.text, attachment := attachment, fromMe := true,
           fromInternal := true, inReply := r.inReply }

end Request

def receipt (m : Message) : Json :=
  .obj ([("id", .str m.id)] ++ Json.unlessEmpty "trackid" m.trackId ++
    [("chatid", .str m.chat.id)])

end ChatGateway.Outbound
