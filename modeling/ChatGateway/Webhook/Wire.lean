import ChatGateway.Webhook.Basic
import ChatGateway.Message.Wire

/-!
Webhooks as JSON. The owner is read but not written, and members without a value are left out.
-/

namespace ChatGateway.Webhook

def fields : List (Field Webhook) :=
  [.opt "token" Decoder.string (fun v w => { w with token := v }),
   .req "url" Decoder.string (fun v w => { w with url := v }),
   .opt "forwardinternal" Decoder.bool (fun v w => { w with forwardInternal := v }),
   .opt "trackid" Decoder.string (fun v w => { w with trackId := v }),
   .opt "extra" Decoder.anything (fun v w => { w with extra := v }),
   .opt "groups" (Decoder.optional Decoder.bool) (fun v w => { w with groups := v }),
   .opt "broadcasts" (Decoder.optional Decoder.bool) (fun v w => { w with broadcasts := v }),
   .opt "readreceipts" (Decoder.optional Decoder.bool) (fun v w => { w with readReceipts := v }),
   .opt "calls" (Decoder.optional Decoder.bool) (fun v w => { w with calls := v }),
   .opt "failure" (Decoder.optional Instant.decode) (fun v w => { w with failure := v }),
   .opt "success" (Decoder.optional Instant.decode) (fun v w => { w with success := v })]

def decode : Decoder Webhook := Field.decode fields { url := "" }

def toJson (w : Webhook) : Json :=
  .obj ([("url", .str w.url), ("forwardinternal", .bool w.forwardInternal)] ++
    Json.unlessEmpty "trackid" w.trackId ++
    Json.ifSome "extra" id w.extra ++
    Json.ifSome "groups" .bool w.groups ++
    Json.ifSome "broadcasts" .bool w.broadcasts ++
    Json.ifSome "readreceipts" .bool w.readReceipts ++
    Json.ifSome "calls" .bool w.calls ++
    Json.ifSome "failure" Instant.toJson w.failure ++
    Json.ifSome "success" Instant.toJson w.success)

end ChatGateway.Webhook
