import ChatGateway.Switch
import ChatGateway.Message.Wire
import ChatGateway.Settings.Basic
import ChatGateway.Tenant.Status

namespace ChatGateway

structure Profile where
  token : String
  wid : Option String := none
  verified : Bool := false
  /-- Whether the tenant is logged in detail. -/
  devel : Bool := false
  groups : Switch := .unset
  broadcasts : Switch := .unset
  readReceipts : Switch := .unset
  calls : Switch := .unset
  readUpdate : Switch := .unset
  createdAt : Instant
  updatedAt : Instant
  deriving DecidableEq, Repr, Inhabited

/-- The options in force for a tenant. -/
structure TenantOptions where
  groups : Bool
  broadcasts : Bool
  readReceipts : Bool
  calls : Bool
  readUpdate : Bool
  historySync : Bool
  deriving DecidableEq, Repr

namespace TenantOptions

def toJson (o : TenantOptions) : Json :=
  .obj [("groups", .bool o.groups), ("broadcasts", .bool o.broadcasts),
    ("read_receipts", .bool o.readReceipts), ("calls", .bool o.calls),
    ("read_update", .bool o.readUpdate), ("history_sync", .bool o.historySync)]

end TenantOptions

namespace Profile

def fresh (token : String) (now : Instant) : Profile :=
  { token := token, createdAt := now, updatedAt := now }

def identity (p : Profile) : Option String := p.wid.filter (!·.isEmpty)

def initialStatus (p : Profile) : TenantStatus :=
  match p.identity with
  | none => .unprepared
  | some _ => if p.verified then .disconnected else .loggedOut

def options (p : Profile) (d : TenantDefaults) : TenantOptions where
  groups := Switch.resolve d.groups p.groups
  broadcasts := Switch.resolve d.broadcasts p.broadcasts
  readReceipts := Switch.resolve d.readReceipts p.readReceipts
  calls := Switch.resolve d.calls p.calls
  readUpdate := Switch.resolve (.ofBool d.readUpdate) p.readUpdate
  historySync := d.historySync

/-- The members of a stored tenant. All are needed but the identity. -/
def fields : List (Field Profile) :=
  [.req "token" Decoder.string (fun v p => { p with token := v }),
   .opt "wid" (Decoder.optional Decoder.string) (fun v p => { p with wid := v }),
   .req "verified" Decoder.bool (fun v p => { p with verified := v }),
   .req "devel" Decoder.bool (fun v p => { p with devel := v }),
   .req "groups" Switch.decode (fun v p => { p with groups := v }),
   .req "broadcasts" Switch.decode (fun v p => { p with broadcasts := v }),
   .req "read_receipts" Switch.decode (fun v p => { p with readReceipts := v }),
   .req "calls" Switch.decode (fun v p => { p with calls := v }),
   .req "read_update" Switch.decode (fun v p => { p with readUpdate := v }),
   .req "created_at" Instant.decode (fun v p => { p with createdAt := v }),
   .req "updated_at" Instant.decode (fun v p => { p with updatedAt := v })]

def members (p : Profile) : List (String × Json) :=
  [("token", .str p.token), ("wid", Json.ofOption .str p.wid), ("verified", .bool p.verified),
    ("devel", .bool p.devel), ("groups", p.groups.toJson), ("broadcasts", p.broadcasts.toJson),
    ("read_receipts", p.readReceipts.toJson), ("calls", p.calls.toJson),
    ("read_update", p.readUpdate.toJson), ("created_at", p.createdAt.toJson),
    ("updated_at", p.updatedAt.toJson)]

def toJson (p : Profile) : Json := .obj p.members

def decodeOver (start : Profile) : Decoder Profile := fun j =>
  match j with
  | .obj given =>
    let merged := given.foldl (fun ms m => Json.insertMember m.1 m.2 ms)
      (Json.sortMembers start.members)
    Field.decode fields start (.obj merged)
  | j => Field.decode fields start j

end Profile

end ChatGateway
