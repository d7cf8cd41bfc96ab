import ChatGateway.Message.Basic
import ChatGateway.Time.Written

/-!
Messages as JSON. Members with their default value are left out, except for the two marks of
origin; the bytes of an attachment are never written.
-/

namespace ChatGateway

namespace Json

def unlessEmpty (name value : String) : List (String × Json) :=
  if value.isEmpty then [] else [(name, .str value)]

def ifSome {α : Type} (name : String) (f : α → Json) : Option α → List (String × Json)
  | some a => [(name, f a)]
  | none => []

end Json

namespace Instant

def toJson (t : Instant) : Json := .str t.print

def decode : Decoder Instant
  | .str s => match parse? s with
    | some t => .ok t
    | none => .error .wrongValue
  | _ => .error .wrongType

end Instant

namespace Chat

def fields : List (Field Chat) :=
  [.req "id" Decoder.string (fun v c => { c with id := v }),
   .opt "title" Decoder.string (fun v c => { c with title := v })]

def decode : Decoder Chat := Field.decode fields ⟨"", ""⟩

def toJson (c : Chat) : Json :=
  .obj ([("id", .str c.id)] ++ Json.unlessEmpty "title" c.title)

end Chat

namespace Attachment

def fields : List (Field Attachment) :=
  [.req "mime" Decoder.string (fun v a => { a with mime := v }),
   .opt "filelength" (Decoder.nat 64) (fun v a => { a with fileLength := v }),
   .opt "filename" Decoder.string (fun v a => { a with fileName := v }),
   .opt "thumbnail" (Decoder.optional Decoder.string) (fun v a => { a with thumbnail := v }),
   .opt "seconds" (Decoder.optional (Decoder.nat 32)) (fun v a => { a with seconds := v }),
   .opt "latitude" (Decoder.optional Decoder.float) (fun v a => { a with latitude := v }),
   .opt "longitude" (Decoder.optional Decoder.float) (fun v a => { a with longitude := v })]

def decode : Decoder Attachment := Field.decode fields { mime := "" }

def toJson (a : Attachment) : Json :=
  .obj ([("mime", .str a.mime), ("filelength", .ofNat a.fileLength)] ++
    Json.unlessEmpty "filename" a.fileName ++
    Json.ifSome "thumbnail" .str a.thumbnail ++
    Json.ifSome "seconds" .ofNat a.seconds ++
    Json.ifSome "latitude" .float a.latitude ++
    Json.ifSome "longitude" .float a.longitude)

end Attachment

namespace Message

def fields : List (Field Message) :=
  [.req "id" Decoder.string (fun v m => { m with id := v }),
   .opt "trackid" Decoder.string (fun v m => { m with trackId := v }),
   .req "timestamp" Instant.decode (fun v m => { m with timestamp := v }),
   .req "type" MessageKind.decode (fun v m => { m with kind := v }),
   .req "chat" Chat.decode (fun v m => { m with chat := v }),
   .opt "participant" (Decoder.optional Chat.decode) (fun v m => { m with participant := v }),
   .opt "text" Decoder.string (fun v m => { m with text := v }),
   .opt "attachment" (Decoder.optional Attachment.decode)
     (fun v m => { m with attachment := v }),
   .opt "fromme" Decoder.bool (fun v m => { m with fromMe := v }),
   .opt "frominternal" Decoder.bool (fun v m => { m with fromInternal := v }),
   .opt "edited" Decoder.bool (fun v m => { m with edited := v }),
   .opt "forwardingscore" (Decoder.nat 32) (fun v m => { m with forwardingScore := v }),
   .opt "inreply" Decoder.string (fun v m => { m with inReply := v }),
   .opt "synopsis" Decoder.string (fun v m => { m with synopsis := v })]

def blank : Message := { id := "", timestamp := .epoch, kind := .unknown, chat := ⟨"", ""⟩ }

def decode : Decoder Message := Field.decode fields blank

def toJson (m : Message) : Json :=
  .obj ([("id", .str m.id)] ++
    Json.unlessEmpty "trackid" m.trackId ++
    [("timestamp", m.timestamp.toJson), ("type", m.kind.toJson), ("chat", m.chat.toJson)] ++
    Json.ifSome "participant" Chat.toJson m.participant ++
    Json.unlessEmpty "text" m.text ++
    Json.ifSome "attachment" Attachment.toJson m.attachment ++
    [("fromme", .bool m.fromMe), ("frominternal", .bool m.fromInternal)] ++
    (if m.edited then [("edited", .bool true)] else []) ++
    (if m.forwardingScore = 0 then [] else [("forwardingscore", .ofNat m.forwardingScore)]) ++
    Json.unlessEmpty "inreply" m.inReply ++
    Json.unlessEmpty "synopsis" m.synopsis)

end Message

end ChatGateway
