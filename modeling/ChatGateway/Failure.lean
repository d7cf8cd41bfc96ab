
namespace ChatGateway

inductive FailureKind where
  | notFound
  | authentication
  | validation
  | conflict
  | internal
  | database
  | cache
  | configuration
  | protocol
  | serialization
  | externalService
  | notImplemented
  | serviceUnavailable
  deriving DecidableEq, Repr

namespace FailureKind

def all : List FailureKind :=
  [notFound, authentication, validation, conflict, internal, database, cache, configuration,
   protocol, serialization, externalService, notImplemented, serviceUnavailable]

def label : FailureKind → String
  | notFound => "NOT_FOUND"
  | authentication => "AUTHENTICATION"
  | validation => "VALIDATION"
  | conflict => "CONFLICT"
  | internal => "INTERNAL"
  | database => "DATABASE"
  | cache => "CACHE"
  | configuration => "CONFIGURATION"
  | protocol => "PROTOCOL"
  | serialization => "SERIALIZATION"
  | externalService => "EXTERNAL_SERVICE"
  | notImplemented => "NOT_IMPLEMENTED"
  | serviceUnavailable => "SERVICE_UNAVAILABLE"

def name : FailureKind → String
  | notFound => "NotFound"
  | authentication => "Authentication"
  | validation => "Validation"
  | conflict => "Conflict"
  | internal => "Internal"
  | database => "Database"
  | cache => "Cache"
  | configuration => "Configuration"
  | protocol => "Protocol"
  | serialization => "Serialization"
  | externalService => "ExternalService"
  | notImplemented => "NotImplemented"
  | serviceUnavailable => "ServiceUnavailable"

def ofName? (s : String) : Option FailureKind := all.find? (·.name == s)

end FailureKind

structure Failure where
  kind : FailureKind
  message : String
  source : Option String := none
  deriving DecidableEq, Repr

namespace Failure

def notFound (message : String) : Failure := ⟨.notFound, message, none⟩
def authentication (message : String) : Failure := ⟨.authentication, message, none⟩
def validation (message : String) : Failure := ⟨.validation, message, none⟩
def conflict (message : String) : Failure := ⟨.conflict, message, none⟩
def internal (message : String) : Failure := ⟨.internal, message, none⟩
def database (message : String) : Failure := ⟨.database, message, none⟩
def configuration (message : String) : Failure := ⟨.configuration, message, none⟩
def protocol (message : String) : Failure := ⟨.protocol, message, none⟩
def notImplemented (message : String) : Failure := ⟨.notImplemented, message, none⟩
def unavailable (message : String) : Failure := ⟨.serviceUnavailable, message, none⟩

def ofInputOutput (text : String) : Failure := ⟨.internal, "I/O error: " ++ text, some text⟩

def ofSettings (text : String) : Failure :=
  ⟨.configuration, "Configuration error: " ++ text, some text⟩

def ofDecoding (text : String) : Failure :=
  ⟨.serialization, "JSON serialization error: " ++ text, some text⟩

def display (f : Failure) : String := f.kind.label ++ ": " ++ f.message

/-- A copy, which does not carry the cause. -/
def copy (f : Failure) : Failure := { f with source := none }

def status (f : Failure) : Nat × String :=
  match f.kind with
  | .validation => (400, "VALIDATION_ERROR")
  | .authentication => (401, "UNAUTHORIZED")
  | .notFound => (404, "NOT_FOUND")
  | .conflict => (409, "CONFLICT")
  | .serviceUnavailable => (503, "SERVICE_UNAVAILABLE")
  | .notImplemented => (501, "NOT_IMPLEMENTED")
  | .protocol | .externalService => (502, "UPSTREAM_ERROR")
  | .internal | .database | .cache | .configuration | .serialization => (500, "INTERNAL_ERROR")

end Failure

end ChatGateway
