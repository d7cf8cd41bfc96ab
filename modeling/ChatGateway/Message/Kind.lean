import ChatGateway.Json.Decode
import ChatGateway.Text.Blank

namespace ChatGateway

inductive MessageKind where
  | text
  | image
  | audio
  | video
  | document
  | location
  | contact
  | call
  | revoke
  | system
  /-- Noise of the protocol that no subscriber should see. -/
  | discard
  | unknown
  deriving DecidableEq, Repr, Inhabited

namespace MessageKind

def all : List MessageKind :=
  [text, image, audio, video, document, location, contact, call, revoke, system, discard, unknown]

def name : MessageKind → String
  | text => "text"
  | image => "image"
  | audio => "audio"
  | video => "video"
  | document => "document"
  | location => "location"
  | contact => "contact"
  | call => "call"
  | revoke => "revoke"
  | system => "system"
  | discard => "discard"
  | unknown => "unknown"

def ofName? (s : String) : Option MessageKind := all.find? (·.name == s)

def isDeliverable (k : MessageKind) : Bool := k != discard && k != unknown

def isMedia (k : MessageKind) : Bool :=
  k == image || k == audio || k == video || k == document

/-- The kind of an attachment by its media type: the part before the first slash, without
parameters, in lower case as written. -/
def ofMime (mime : String) : MessageKind :=
  let base := Text.trimChars (mime.toList.takeWhile (· != ';'))
  match String.ofList (base.takeWhile (· != '/')) with
  | "image" => image
  | "audio" => audio
  | "video" => video
  | _ => document

def decode : Decoder MessageKind := Decoder.variant ofName?

def toJson (k : MessageKind) : Json := .str k.name

end MessageKind

end ChatGateway
