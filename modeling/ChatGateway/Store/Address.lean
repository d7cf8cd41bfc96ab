import ChatGateway.Store.Repository
import ChatGateway.Text.Split

namespace ChatGateway.Store

/-- Where the first `://` ends, or else 0. -/
def schemeEnd : List Char → Nat → Nat
  | ':' :: '/' :: '/' :: _, n => n + 3
  | _ :: rest, n => schemeEnd rest (n + 1)
  | [], _ => 0

/-- A database address fit to be shown: what stands between the last colon of the credentials and
the last `@` is hidden. -/
def maskPassword (url : String) : String :=
  match Text.splitLast? '@' url.toList with
  | none => url
  | some (credentials, host) =>
    match Text.splitLast? ':' credentials with
    | none => url
    | some (user, _) =>
      if schemeEnd url.toList 0 < user.length then
        String.ofList (user ++ ":****@".toList ++ host)
      else url

def unreachable : Failure := .database "Failed to connect to database"

/-- The store that the settings ask for. No database server can be reached. -/
def open? (s : DatabaseSettings) : Except Failure Repository :=
  if s.provider == "memory" then .ok {}
  else if s.provider == "postgres" then .error unreachable
  else .error (.configuration ("Unknown database provider: " ++ s.provider))

end ChatGateway.Store
