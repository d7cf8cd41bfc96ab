import ChatGateway.Tenant.Basic

namespace ChatGateway

structure TenantInfo where
  token : String
  status : TenantStatus
  wid : Option String
  verified : Bool
  messages : Int
  options : TenantOptions
  webhooks : List Webhook

namespace TenantInfo

def toJson (i : TenantInfo) : Json :=
  .obj ([("token", .str i.token), ("status", i.status.toJson)] ++
    Json.ifSome "wid" .str i.wid ++
    [("verified", .bool i.verified), ("messages", .int i.messages),
      ("groups", .bool i.options.groups), ("broadcasts", .bool i.options.broadcasts),
      ("readreceipts", .bool i.options.readReceipts), ("calls", .bool i.options.calls),
      ("readupdate", .bool i.options.readUpdate),
      ("webhooks", .arr (i.webhooks.map Webhook.toJson))])

end TenantInfo

namespace Hosted

def info (h : Hosted) : TenantInfo where
  token := h.tenant.token
  status := h.tenant.status
  wid := h.tenant.wid
  verified := h.tenant.profile.verified
  messages := h.tenant.messages.count
  options := h.options
  webhooks := h.tenant.webhookList

end Hosted

end ChatGateway
