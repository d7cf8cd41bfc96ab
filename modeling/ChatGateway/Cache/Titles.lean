import ChatGateway.Settings.Basic
import ChatGateway.Text.Case
import ChatGateway.Keyed

namespace ChatGateway.Cache

/-- Chat titles once looked up. Chats are told apart without regard to case, and empty titles are
not kept. A title stays until it is invalidated: the seconds and the room of the settings only
decide whether titles are kept at all, so neither expiry nor eviction is modelled. -/
structure Titles where
  entries : List (String × String) := []
  enabled : Bool := true
  deriving Repr

namespace Titles

def ofSettings (s : CacheSettings) : Titles :=
  { enabled := s.titleCapacity != 0 && s.titleSeconds != 0 }

def key (chat : String) : String := Text.lower chat

def get? (c : Titles) (chat : String) : Option String := c.entries.lookup (key chat)

def insert (c : Titles) (chat title : String) : Titles :=
  if title.isEmpty || !c.enabled then c
  else { c with entries := Keyed.put Prod.fst (key chat, title) c.entries }

/-- The title kept for a chat, or else the one a look-up finds, which is kept from then on. Tells
also whether a look-up was needed. -/
def getOrFetch (c : Titles) (chat : String) (lookUp : Option String) :
    Titles × Option String × Bool :=
  match c.get? chat with
  | some title => (c, some title, false)
  | none =>
    match lookUp.filter (!·.isEmpty) with
    | some title => (c.insert chat title, some title, true)
    | none => (c, none, true)

def invalidate (c : Titles) (chat : String) : Titles :=
  { c with entries := Keyed.erase Prod.fst (key chat) c.entries }

end Titles

end ChatGateway.Cache
