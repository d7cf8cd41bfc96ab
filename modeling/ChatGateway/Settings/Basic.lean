import ChatGateway.Switch

namespace ChatGateway

structure CorsSettings where
  allowedOrigins : List String := ["*"]
  maxAgeSeconds : Nat := 3600
  deriving DecidableEq, Repr

structure ServerSettings where
  host : String := "0.0.0.0"
  port : Nat := 31000
  bodyLimit : Nat := 33554432
  shutdownGraceSeconds : Nat := 10
  cors : CorsSettings := {}
  deriving DecidableEq, Repr

structure DatabaseSettings where
  provider : String := "memory"
  url : String := ""
  maxConnections : Nat := 10
  minConnections : Nat := 1
  connectTimeoutSeconds : Nat := 10
  idleTimeoutSeconds : Nat := 300
  runMigrations : Bool := true
  deriving DecidableEq, Repr

structure CacheSettings where
  maxMessages : Nat := 0
  synopsisLength : Nat := 50
  /-- Whether a record that replaces one of equal content is kept from subscribers. -/
  debounceDispatch : Bool := true
  titleSeconds : Nat := 600
  titleCapacity : Nat := 5000
  deriving DecidableEq, Repr

/-- What tenants do where their own options are unset. -/
structure TenantDefaults where
  groups : Switch := .on
  broadcasts : Switch := .off
  readReceipts : Switch := .off
  calls : Switch := .on
  readUpdate : Bool := false
  historySync : Bool := false
  deriving DecidableEq, Repr

structure DeliverySettings where
  timeoutSeconds : Nat := 10
  userAgent : String := "Wagate/0.1.0"
  queueCapacity : Nat := 1024
  acceptInvalidCertificates : Bool := true
  deriving DecidableEq, Repr

structure PushSettings where
  bufferSize : Nat := 256
  messageTarget : String := "message"
  deriving DecidableEq, Repr

structure LogSettings where
  level : String := "info"
  format : String := "pretty"
  deriving DecidableEq, Repr

structure Settings where
  server : ServerSettings := {}
  database : DatabaseSettings := {}
  cache : CacheSettings := {}
  defaults : TenantDefaults := {}
  delivery : DeliverySettings := {}
  push : PushSettings := {}
  log : LogSettings := {}
  deriving DecidableEq, Repr

end ChatGateway
