import ChatGateway.Http.Service

/-!
Access from pages of other origins. A request made to ask what is allowed is answered at once,
whatever its path; every other reply names the origin that may read it.
-/

namespace ChatGateway.Http

namespace Cors

/-- The origin that may read a reply: every one, or the one that asks if it is listed. -/
def allowedOrigin (s : CorsSettings) (r : Request) : List (String × String) :=
  let header (value : String) := [("access-control-allow-origin", value)]
  if s.allowedOrigins.contains "*" then header "*"
  else match r.header? "origin" with
    | some origin => if s.allowedOrigins.contains origin then header origin else []
    | none => []

def preflight (s : CorsSettings) (r : Request) : Reply :=
  { status := 200
    headers := allowedOrigin s r ++
      [("access-control-allow-headers", "*"),
        ("access-control-allow-methods", "DELETE,GET,OPTIONS,POST"),
        ("access-control-max-age", toString s.maxAgeSeconds)] }

end Cors

namespace Service

def serve (s : Service) (r : Request) : Service × Reply :=
  let cors := s.gateway.host.settings.server.cors
  if r.method == "OPTIONS" then (s, Cors.preflight cors r)
  else
    let (s, reply) := s.dispatch r
    (s, { reply with headers := reply.headers ++ Cors.allowedOrigin cors r })

end Service

end ChatGateway.Http
