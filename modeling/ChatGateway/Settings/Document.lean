import ChatGateway.Settings.Basic

namespace ChatGateway

/-- How values are read, so that the same members serve strict documents and ones whose values may
be written as text. -/
structure Dialect where
  bool : Decoder Bool
  nat : (bits : Nat) → Decoder Nat
  string : Decoder String
  switch : Decoder Switch
  /-- Whether an array in place of a table may have more items than the table has members. -/
  surplus : Bool

namespace Dialect

def strict : Dialect := ⟨Decoder.bool, Decoder.nat, Decoder.string, Switch.decode, false⟩

def table {σ : Type} (k : Dialect) (fields : List (Field σ)) (start : σ) : Decoder σ :=
  if k.surplus then Field.decodeFront fields start else Field.decode fields start

end Dialect

namespace CorsSettings

def fields (k : Dialect) : List (Field CorsSettings) :=
  [.opt "allowed_origins" (Decoder.list k.string) (fun v s => { s with allowedOrigins := v }),
   .opt "max_age_seconds" (k.nat 64) (fun v s => { s with maxAgeSeconds := v })]

def toJson (s : CorsSettings) : Json :=
  .obj [("allowed_origins", .arr (s.allowedOrigins.map .str)),
    ("max_age_seconds", .ofNat s.maxAgeSeconds)]

end CorsSettings

namespace ServerSettings

def fields (k : Dialect) : List (Field ServerSettings) :=
  [.opt "host" k.string (fun v s => { s with host := v }),
   .opt "port" (k.nat 16) (fun v s => { s with port := v }),
   .opt "body_limit_bytes" (k.nat 64) (fun v s => { s with bodyLimit := v }),
   .opt "shutdown_grace_seconds" (k.nat 64) (fun v s => { s with shutdownGraceSeconds := v }),
   .opt "cors" (k.table (CorsSettings.fields k) {}) (fun v s => { s with cors := v })]

def toJson (s : ServerSettings) : Json :=
  .obj [("host", .str s.host), ("port", .ofNat s.port),
    ("body_limit_bytes", .ofNat s.bodyLimit),
    ("shutdown_grace_seconds", .ofNat s.shutdownGraceSeconds), ("cors", s.cors.toJson)]

end ServerSettings

namespace DatabaseSettings

def fields (k : Dialect) : List (Field DatabaseSettings) :=
  [.opt "provider" k.string (fun v s => { s with provider := v }),
   .opt "url" k.string (fun v s => { s with url := v }),
   .opt "max_connections" (k.nat 32) (fun v s => { s with maxConnections := v }),
   .opt "min_connections" (k.nat 32) (fun v s => { s with minConnections := v }),
   .opt "connect_timeout_seconds" (k.nat 64) (fun v s => { s with connectTimeoutSeconds := v }),
   .opt "idle_timeout_seconds" (k.nat 64) (fun v s => { s with idleTimeoutSeconds := v }),
   .opt "run_migrations" k.bool (fun v s => { s with runMigrations := v })]

def toJson (s : DatabaseSettings) : Json :=
  .obj [("provider", .str s.provider), ("url", .str s.url),
    ("max_connections", .ofNat s.maxConnections), ("min_connections", .ofNat s.minConnections),
    ("connect_timeout_seconds", .ofNat s.connectTimeoutSeconds),
    ("idle_timeout_seconds", .ofNat s.idleTimeoutSeconds),
    ("run_migrations", .bool s.runMigrations)]

end DatabaseSettings

namespace CacheSettings

def fields (k : Dialect) : List (Field CacheSettings) :=
  [.opt "max_messages" (k.nat 64) (fun v s => { s with maxMessages := v }),
   .opt "synopsis_length" (k.nat 64) (fun v s => { s with synopsisLength := v }),
   .opt "debounce_dispatch" k.bool (fun v s => { s with debounceDispatch := v }),
   .opt "chat_title_ttl_seconds" (k.nat 64) (fun v s => { s with titleSeconds := v }),
   .opt "chat_title_capacity" (k.nat 64) (fun v s => { s with titleCapacity := v })]

def toJson (s : CacheSettings) : Json :=
  .obj [("max_messages", .ofNat s.maxMessages), ("synopsis_length", .ofNat s.synopsisLength),
    ("debounce_dispatch", .bool s.debounceDispatch),
    ("chat_title_ttl_seconds", .ofNat s.titleSeconds),
    ("chat_title_capacity", .ofNat s.titleCapacity)]

end CacheSettings

namespace TenantDefaults

def fields (k : Dialect) : List (Field TenantDefaults) :=
  [.opt "groups" k.switch (fun v s => { s with groups := v }),
   .opt "broadcasts" k.switch (fun v s => { s with broadcasts := v }),
   .opt "read_receipts" k.switch (fun v s => { s with readReceipts := v }),
   .opt "calls" k.switch (fun v s => { s with calls := v }),
   .opt "read_update" k.bool (fun v s => { s with readUpdate := v }),
   .opt "history_sync" k.bool (fun v s => { s with historySync := v })]

def toJson (s : TenantDefaults) : Json :=
  .obj [("groups", s.groups.toJson), ("broadcasts", s.broadcasts.toJson),
    ("read_receipts", s.readReceipts.toJson), ("calls", s.calls.toJson),
    ("read_update", .bool s.readUpdate), ("history_sync", .bool s.historySync)]

end TenantDefaults

namespace DeliverySettings

def fields (k : Dialect) : List (Field DeliverySettings) :=
  [.opt "timeout_seconds" (k.nat 64) (fun v s => { s with timeoutSeconds := v }),
   .opt "user_agent" k.string (fun v s => { s with userAgent := v }),
   .opt "queue_capacity" (k.nat 64) (fun v s => { s with queueCapacity := v }),
   .opt "accept_invalid_certs" k.bool (fun v s => { s with acceptInvalidCertificates := v })]

def toJson (s : DeliverySettings) : Json :=
  .obj [("timeout_seconds", .ofNat s.timeoutSeconds), ("user_agent", .str s.userAgent),
    ("queue_capacity", .ofNat s.queueCapacity),
    ("accept_invalid_certs", .bool s.acceptInvalidCertificates)]

end DeliverySettings

namespace PushSettings

def fields (k : Dialect) : List (Field PushSettings) :=
  [.opt "channel_buffer_size" (k.nat 64) (fun v s => { s with bufferSize := v }),
   .opt "message_target" k.string (fun v s => { s with messageTarget := v })]

def toJson (s : PushSettings) : Json :=
  .obj [("channel_buffer_size", .ofNat s.bufferSize), ("message_target", .str s.messageTarget)]

end PushSettings

namespace LogSettings

def fields (k : Dialect) : List (Field LogSettings) :=
  [.opt "level" k.string (fun v s => { s with level := v }),
   .opt "format" k.string (fun v s => { s with format := v })]

def toJson (s : LogSettings) : Json :=
  .obj [("level", .str s.level), ("format", .str s.format)]

end LogSettings

namespace Settings

def fields (k : Dialect) : List (Field Settings) :=
  [.opt "server" (k.table (ServerSettings.fields k) {}) (fun v s => { s with server := v }),
   .opt "database" (k.table (DatabaseSettings.fields k) {})
     (fun v s => { s with database := v }),
   .opt "cache" (k.table (CacheSettings.fields k) {}) (fun v s => { s with cache := v }),
   .opt "whatsapp" (k.table (TenantDefaults.fields k) {})
     (fun v s => { s with defaults := v }),
   .opt "webhook" (k.table (DeliverySettings.fields k) {})
     (fun v s => { s with delivery := v }),
   .opt "realtime" (k.table (PushSettings.fields k) {}) (fun v s => { s with push := v }),
   .opt "logging" (k.table (LogSettings.fields k) {}) (fun v s => { s with log := v })]

def decode (k : Dialect) : Decoder Settings := k.table (fields k) {}

def toJson (s : Settings) : Json :=
  .obj [("server", s.server.toJson), ("database", s.database.toJson), ("cache", s.cache.toJson),
    ("whatsapp", s.defaults.toJson), ("webhook", s.delivery.toJson),
    ("realtime", s.push.toJson), ("logging", s.log.toJson)]

end Settings

end ChatGateway
