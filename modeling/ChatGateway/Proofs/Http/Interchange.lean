import ChatGateway.Proofs.Http.Tokens

/-!
A tenant named in the path and a tenant named by a header get the same reply and the same change,
but in two cases: where the token is a fixed segment and the path with it is taken for a message's,
and where the id in the path is not UTF-8, so that the token beside it is not read either.
-/

namespace ChatGateway

theorem Failure.status_ne (f : Failure) : f.status.1 ≠ 405 := by
  unfold Failure.status
  cases f.kind <;> decide

theorem Gateway.get_fails {g : Gateway} {token : String} {f : Failure}
    (fails : g.get token = .error f) : f.status.1 = 404 := by
  unfold Gateway.get at fails
  split at fails <;> cases fails
  rfl

theorem Violation.check_fails {vs : List Violation} {f : Failure}
    (fails : Violation.check vs = .error f) : f.status.1 = 400 := by
  unfold Violation.check at fails
  split at fails <;> cases fails
  rfl

namespace Http

open Text (Utf8.decode?)

variable {α β : Type}

/-- A fault is answered with another status than this. -/
def Answer.Spares (status : Nat) (a : Answer α) : Prop :=
  ∀ reply, a = .error reply → reply.status ≠ status

namespace Answer.Spares

variable {status : Nat}

theorem ok (x : α) : Spares status (.ok x) := fun _ failed => by cases failed

theorem error {reply : Reply} (other : reply.status ≠ status) :
    Spares status (.error reply : Answer α) := fun _ failed => by
  cases failed
  exact other

theorem bind {a : Answer α} {next : α → Answer β} (first : a.Spares status)
    (later : ∀ x, (next x).Spares status) : Spares status (a >>= next) := by
  cases a with
  | error reply => exact error (first reply rfl)
  | ok x => exact later x

theorem orFail {result : Except Failure α}
    (other : ∀ f, result = .error f → f.status.1 ≠ status) :
    Spares status (Http.orFail result) := by
  cases result with
  | error f => exact error (other f rfl)
  | ok x => exact ok x

end Answer.Spares

open Answer (Spares)

namespace Call

variable {c : Call} {status : Nat}

theorem token_spares (other : status ≠ 401) : c.token.Spares status := by
  unfold token
  dsimp only
  split
  · exact .ok _
  · exact .ok _
  · exact .error other.symm

theorem query_spares (other : status ≠ 400) (name : String) (read : String → Option α) :
    (c.query name read).Spares status := by
  unfold query
  split
  · exact .error other.symm
  · exact .ok _
  · split
    · exact .ok _
    · exact .error other.symm

theorem body_spares {σ : Type} (limit : Nat) (fields : List (Field σ)) (start : σ) :
    (c.body limit fields start).Spares 405 := by
  unfold body
  split
  · exact .error (by decide)
  split
  · exact .error (by decide)
  split
  · exact .ok _
  · exact .error (by decide)
  · exact .error (by decide)

end Call

namespace Service

variable {s : Service} {c : Call} {status : Nat}

theorem view_status {a : Answer Json} (other : status ≠ 200) (spares : a.Spares status) :
    (s.view a).2.status ≠ status := by
  unfold view
  cases a with
  | error reply => exact spares reply rfl
  | ok data => exact other.symm

theorem act_status {step : Gateway → Gateway × Except Failure α} {reply : α → Reply}
    (fails : ∀ f, (step s.gateway).2 = .error f → f.status.1 ≠ status)
    (done : ∀ a, (reply a).status ≠ status) : (s.act step reply).2.status ≠ status := by
  unfold act
  generalize step s.gateway = outcome at fails ⊢
  obtain ⟨g, result⟩ := outcome
  cases result with
  | error f => exact fails f rfl
  | ok a => exact done a

/-- What is posted to an endpoint is not refused for its method. -/
theorem answer_posts {e : Endpoint} (posts : e = .pair ∨ e = .send ∨ e = .webhooks)
    (method : c.request.method = "POST") : (s.answer e c).2.status ≠ 405 := by
  have named : c.token.Spares 405 := c.token_spares (by decide)
  have done : ∀ data, (Reply.success data).status ≠ 405 := fun _ => (by decide : 200 ≠ 405)
  rcases posts with rfl | rfl | rfl
  · change (s.pair c).2.status ≠ 405
    unfold pair
    dsimp only
    split
    · next reply failed =>
      refine Spares.bind named (fun token => ?_) reply failed
      refine Spares.bind (c.body_spares _ _ _) fun r => ?_
      exact Spares.bind (Spares.orFail fun f _ => f.status_ne) fun _ => .ok _
    · exact act_status (fun f _ => f.status_ne) fun i => done i.toJson
  · change (s.send c).2.status ≠ 405
    unfold send
    dsimp only
    split
    · next reply failed =>
      refine Spares.bind named (fun token => ?_) reply failed
      exact Spares.bind (c.body_spares _ _ _) fun _ => .ok _
    · exact act_status (fun f _ => f.status_ne) fun m => done (Outbound.receipt m)
  · rw [answer, method, if_pos (beq_self_eq_true "POST")]
    unfold addWebhook
    dsimp only
    split
    · next reply failed =>
      refine Spares.bind named (fun token => ?_) reply failed
      exact Spares.bind (c.body_spares _ _ _) fun _ => .ok _
    · exact act_status (fun f _ => f.status_ne) fun w => done w.toJson

theorem get_spares (token : String) : (orFail (s.gateway.get token)).Spares 401 :=
  Spares.orFail fun f fails => by
    rw [Gateway.get_fails fails]
    decide

theorem receive_status (spares : c.token.Spares 401) : (s.receive c).2.status ≠ 401 := by
  refine view_status (by decide) ?_
  refine Spares.bind spares fun token => Spares.bind (c.query_spares (by decide) _ _) ?_
  refine fun seconds => Spares.bind (get_spares token) fun h => Spares.bind ?_ fun _ => .ok _
  unfold since
  split
  · exact .ok _
  split
  · exact .ok _
  · exact .error (by decide : 400 ≠ 401)

theorem removeWebhook_status (spares : c.token.Spares 401) :
    (s.removeWebhook c).2.status ≠ 401 := by
  unfold removeWebhook
  dsimp only
  split
  · next reply failed =>
    refine Spares.bind spares (fun token => ?_) reply failed
    refine Spares.bind (c.query_spares (by decide) _ _) fun url => ?_
    split
    · exact .error (by decide)
    · refine Spares.bind (Spares.orFail fun f fails => ?_) fun _ => .ok _
      rw [Violation.check_fails fails]
      decide
  · next token url =>
    refine act_status (fun f fails => ?_) fun removed => ?_
    · unfold Gateway.removeWebhook Gateway.withTenant at fails
      split at fails
      · next missing =>
        cases fails
        rw [Gateway.get_fails missing]
        decide
      · cases fails
    · split
      · exact (by decide : 200 ≠ 401)
      · exact (by decide : 404 ≠ 401)

/-- What is asked of an endpoint for a tenant is not refused for want of one. -/
theorem answer_asks {e : Endpoint} (asks : e = .info ∨ e = .receive ∨ e = .webhooks)
    (method : c.request.method ≠ "POST") {token : String} (named : c.token = .ok token) :
    (s.answer e c).2.status ≠ 401 := by
  have spares : c.token.Spares 401 := by
    rw [named]
    exact .ok token
  rcases asks with rfl | rfl | rfl
  · change (s.info c).2.status ≠ 401
    refine view_status (by decide) ?_
    exact Spares.bind spares fun token => Spares.bind (get_spares token) fun _ => .ok _
  · exact receive_status spares
  · rw [answer, if_neg (by simpa using method)]
    split
    · exact removeWebhook_status spares
    · unfold listWebhooks
      refine view_status (by decide) ?_
      exact Spares.bind spares fun token => Spares.bind (get_spares token) fun _ => .ok _

theorem answer_unnamed {reply : Reply} (unnamed : c.token = .error reply) :
    s.answer .message c = (s, reply) := by
  change (if c.request.method == "DELETE" then s.revoke c else s.getMessage c) = _
  split
  · rw [revoke, unnamed]
    rfl
  · rw [getMessage, unnamed]
    rfl

theorem answer_unread {token : String} {reply : Reply} (named : c.token = .ok token)
    (unread : c.segments = .error reply) : s.answer .message c = (s, reply) := by
  change (if c.request.method == "DELETE" then s.revoke c else s.getMessage c) = _
  split
  · rw [revoke, named, unread]
    rfl
  · rw [getMessage, named, unread]
    rfl

/-- What becomes of a request whose path leads to an endpoint. -/
theorem dispatch_found {r : Request} {e : Endpoint} {vs : List (Segment × List Char)}
    (found : r.target.segments?.bind Route.find? = some (e, vs)) :
    s.dispatch r = if e.answers r.method then
      let (s, reply) := s.answer e ⟨r, vs⟩
      (s, if r.method == "HEAD" then { reply with body := none } else reply)
    else (s, .bare 405) := by
  unfold dispatch
  rw [found]
  dsimp only
  cases e.answers r.method <;> rfl

theorem dispatch_status {r : Request} {e : Endpoint} {vs : List (Segment × List Char)}
    (found : r.target.segments?.bind Route.find? = some (e, vs)) :
    (s.dispatch r).2.status =
      if e.answers r.method then (s.answer e ⟨r, vs⟩).2.status else 405 := by
  rw [dispatch_found found]
  cases e.answers r.method with
  | false => rfl
  | true =>
      rw [if_pos rfl, if_pos rfl]
      dsimp only
      split <;> rfl

theorem serve_status {r : Request} (method : r.method ≠ "OPTIONS") :
    (s.serve r).2.status = (s.dispatch r).2.status := by
  unfold serve
  dsimp only
  rw [if_neg (by simpa using method)]

theorem serve_eq {r r' : Request} (method : r.method = r'.method)
    (origin : r.header? "origin" = r'.header? "origin") (same : s.dispatch r = s.dispatch r') :
    s.serve r = s.serve r' := by
  unfold serve Cors.preflight Cors.allowedOrigin
  rw [method, origin, same]

end Service

section Naming

variable {s : Service} {r : Request} {t : String} {route : Route} {id : List Char}

theorem captured_of (ofTenant : route ∈ Route.ofTenant) :
    route.captured id = if route.endpoint = .message then [(.id, id)] else [] := by
  rcases Route.of_tenant ofTenant with rfl | rfl | rfl | rfl | rfl | rfl | rfl <;> rfl

theorem fill_whole (ofTenant : route ∈ Route.ofTenant) (whole : '/' ∉ id) :
    ∀ part ∈ route.fill id, '/' ∉ part := by
  intro part member
  obtain ⟨segment, there, rfl⟩ := List.mem_map.mp member
  cases segment with
  | token => exact whole
  | id => exact whole
  | fixed text =>
      have clean : (Route.ofTenant.all fun route => (route.fill []).all (!·.contains '/')) = true :=
        by decide
      have named := List.all_eq_true.mp (List.all_eq_true.mp clean route ofTenant)
      simpa using named _ (List.mem_map.mpr ⟨.fixed text, there, rfl⟩)

theorem byPath_segments (plain : ∀ c ∈ t.toList, isPlain c = true)
    (ofTenant : route ∈ Route.ofTenant) (whole : '/' ∉ id) :
    (r.byPath t route id).target.segments? = some ("api".toList :: t.toList :: route.fill id) := by
  refine Target.segments?_ofSegments (fun part member => ?_) r.target.query
  rcases List.mem_cons.mp member with rfl | member
  · decide
  rcases List.mem_cons.mp member with rfl | member
  · exact plain_whole plain
  · exact fill_whole ofTenant whole part member

theorem byHeader_segments (ofTenant : route ∈ Route.ofTenant) (whole : '/' ∉ id) :
    (r.byHeader t route id).target.segments? = some ("api".toList :: route.fill id) := by
  refine Target.segments?_ofSegments (fun part member => ?_) r.target.query
  rcases List.mem_cons.mp member with rfl | member
  · decide
  · exact fill_whole ofTenant whole part member

theorem found_byHeader (ofTenant : route ∈ Route.ofTenant) (whole : '/' ∉ id)
    (present : route.endpoint = .message → id ≠ []) :
    (r.byHeader t route id).target.segments?.bind Route.find? =
      some (route.endpoint, route.captured id) := by
  rw [byHeader_segments ofTenant whole, Option.bind_some,
    Route.find?_without_token ofTenant present]

theorem decoded_captured (ofTenant : route ∈ Route.ofTenant) (r : Request) (id : List Char) :
    (⟨r, route.captured id⟩ : Call).decoded? = if route.endpoint = .message then
      (Utf8.decode? (percentDecode id)).map fun text => [(.id, text)] else some [] := by
  rw [Call.decoded?, captured_of ofTenant]
  split
  · rw [List.mapM_cons, List.mapM_nil]
    cases Utf8.decode? (percentDecode id) <;> rfl
  · rfl

theorem decoded_token (plain : ∀ c ∈ t.toList, isPlain c = true) {r' : Request}
    {vs : List (Segment × List Char)} : (⟨r, (.token, t.toList) :: vs⟩ : Call).decoded? =
      (⟨r', vs⟩ : Call).decoded?.map ((.token, t) :: ·) := by
  rw [Call.decoded?, Call.decoded?, List.mapM_cons, plain_decoded plain]
  cases vs.mapM fun v => (Utf8.decode? (percentDecode v.2)).map (v.1, ·) <;> rfl

theorem silent_id (r : Request) (part : List Char) :
    (⟨r, [(.id, part)]⟩ : Call).decoded?.bind (·.lookup .token) = none := by
  rw [Call.decoded?, List.mapM_cons, List.mapM_nil]
  cases Utf8.decode? (percentDecode part) <;> rfl

theorem silent_captured (ofTenant : route ∈ Route.ofTenant) (r : Request) (id : List Char) :
    (⟨r, route.captured id⟩ : Call).decoded?.bind (·.lookup .token) = none := by
  rw [captured_of ofTenant]
  split
  · exact silent_id r id
  · rfl

theorem alike_calls (plain : ∀ c ∈ t.toList, isPlain c = true) (full : t ≠ "")
    (ofTenant : route ∈ Route.ofTenant) {vs : List (Segment × String)}
    (read : (⟨r.byHeader t route id, route.captured id⟩ : Call).decoded? = some vs)
    (bare : r.header? "x-wagate-token" = none) :
    Call.Alike ⟨r.byPath t route id, (.token, t.toList) :: route.captured id⟩
      ⟨r.byHeader t route id, route.captured id⟩ := by
  have readPath : (⟨r.byPath t route id, (.token, t.toList) :: route.captured id⟩ : Call).decoded? =
      some ((.token, t) :: vs) := by
    rw [decoded_token plain, read, Option.map_some]
  constructor
  · have inPath := Call.token_path plain full (by rw [readPath]; rfl)
    exact inPath.trans
      (Call.token_header plain full (silent_captured ofTenant _ id)
        (Request.naming_token bare)).symm
  · rw [readPath, read]
    rfl
  · rfl
  · rfl
  · change (r.header? "content-type").filter _ = ((r.naming t).header? "content-type").filter _
    rw [Request.naming_other (by decide)]
  · rfl

theorem methods_split {e : Endpoint} {method : String}
    (single : e = .info ∨ e = .pair ∨ e = .receive ∨ e = .send ∨ e = .webhooks)
    (answers : e.answers method = true) :
    (Endpoint.message.answers method = true →
      method ≠ "POST" ∧ (e = .info ∨ e = .receive ∨ e = .webhooks)) ∧
    (Endpoint.message.answers method = false →
      method = "POST" ∧ (e = .pair ∨ e = .send ∨ e = .webhooks)) := by
  rcases single with rfl | rfl | rfl | rfl | rfl <;>
    simp [Endpoint.answers, Endpoint.methods] at answers ⊢ <;> grind

theorem single_endpoint (ofTenant : route ∈ Route.ofTenant) (single : route.pattern.length = 1) :
    route.endpoint = .info ∨ route.endpoint = .pair ∨ route.endpoint = .receive ∨
      route.endpoint = .send ∨ route.endpoint = .webhooks := by
  rcases Route.of_tenant ofTenant with rfl | rfl | rfl | rfl | rfl | rfl | rfl <;> simp at single ⊢

/-- Whether the path with the token does not stand for the one without: it is taken for a message's,
or the id in it cannot be read. -/
def Astray (t : String) (route : Route) (id : List Char) (method : String) : Prop :=
  Route.Shadows t.toList route ∧ (Endpoint.message.answers method ∨ route.endpoint.answers method) ∨
    route.endpoint = .message ∧ id ≠ [] ∧ Utf8.decode? (percentDecode id) = none ∧
      route.endpoint.answers method

theorem answers_method {e : Endpoint} {method : String} (answers : e.answers method = true) :
    method ≠ "OPTIONS" := by
  rintro rfl
  revert answers
  cases e <;> decide

theorem serve_ne {r r' : Request} (method : r.method ≠ "OPTIONS") (same : r.method = r'.method)
    (apart : (s.dispatch r).2.status ≠ (s.dispatch r').2.status) : s.serve r ≠ s.serve r' :=
  fun equal => apart <| by
    rw [← Service.serve_status method, ← Service.serve_status (same ▸ method), equal]

theorem serve_same (same : s.dispatch (r.byPath t route id) = s.dispatch (r.byHeader t route id)) :
    s.serve (r.byPath t route id) = s.serve (r.byHeader t route id) := by
  refine Service.serve_eq rfl ?_ same
  change r.header? "origin" = (r.naming t).header? "origin"
  rw [Request.naming_other (by decide)]

variable (plain : ∀ c ∈ t.toList, isPlain c = true) (ofTenant : route ∈ Route.ofTenant)
  (whole : '/' ∉ id)

include plain ofTenant whole

theorem serve_nowhere (message : route.endpoint = .message) (empty : id = []) :
    s.serve (r.byPath t route id) = s.serve (r.byHeader t route id) := by
  subst empty
  have nowhere := Route.find?_nowhere ofTenant message t.toList
  refine serve_same ?_
  unfold Service.dispatch
  rw [byPath_segments plain ofTenant whole, byHeader_segments ofTenant whole, Option.bind_some,
    Option.bind_some, nowhere.1, nowhere.2]

theorem serve_shadowed (full : t ≠ "") (bare : r.header? "x-wagate-token" = none)
    (shadowed : Route.Shadows t.toList route) :
    s.serve (r.byPath t route id) = s.serve (r.byHeader t route id) ↔
      ¬(Endpoint.message.answers r.method ∨ route.endpoint.answers r.method) := by
  have single := single_endpoint ofTenant shadowed.2
  have notMessage : route.endpoint ≠ .message := by
    rcases single with e | e | e | e | e <;> rw [e] <;> decide
  obtain ⟨name, -, taken⟩ := @Route.find?_shadowed route id ofTenant _ shadowed
  have byPath : (r.byPath t route id).target.segments?.bind Route.find? =
      some (.message, [(.id, name.toList)]) := by
    rw [byPath_segments plain ofTenant whole, Option.bind_some, taken]
  have byHeader := @found_byHeader r t route id ofTenant whole fun message =>
    absurd message notMessage
  have unnamed := Call.token_missing (silent_id (r.byPath t route id) name.toList) bare
  have named := Call.token_header plain full
    (silent_captured ofTenant (r.byHeader t route id) id) (Request.naming_token bare)
  have asks : Endpoint.message.answers r.method = true →
      s.serve (r.byPath t route id) ≠ s.serve (r.byHeader t route id) := fun asked => by
    refine serve_ne (answers_method asked) rfl ?_
    rw [Service.dispatch_status byPath, Service.dispatch_status byHeader, Request.byPath_method,
      Request.byHeader_method, if_pos asked, Service.answer_unnamed unnamed]
    split
    · next answers =>
      obtain ⟨notPost, which⟩ := (methods_split single answers).1 asked
      exact (Service.answer_asks which notPost named).symm
    · exact (by decide : 401 ≠ 405)
  have posts : Endpoint.message.answers r.method ≠ true → route.endpoint.answers r.method = true →
      s.serve (r.byPath t route id) ≠ s.serve (r.byHeader t route id) := fun unasked answers => by
    obtain ⟨post, which⟩ := (methods_split single answers).2 (Bool.eq_false_iff.mpr unasked)
    refine serve_ne (answers_method answers) rfl ?_
    rw [Service.dispatch_status byPath, Service.dispatch_status byHeader, Request.byPath_method,
      Request.byHeader_method, if_neg unasked, if_pos answers]
    exact (Service.answer_posts which post).symm
  constructor
  · rintro same (asked | answers)
    · exact asks asked same
    · by_cases asked : Endpoint.message.answers r.method = true
      · exact asks asked same
      · exact posts asked answers same
  · intro neither
    obtain ⟨unasked, unanswered⟩ := not_or.mp neither
    refine serve_same ?_
    rw [Service.dispatch_found byPath, Service.dispatch_found byHeader, Request.byPath_method,
      Request.byHeader_method, if_neg unasked, if_neg unanswered]

theorem found_byPath (clear : ¬Route.Shadows t.toList route)
    (present : route.endpoint = .message → id ≠ []) :
    (r.byPath t route id).target.segments?.bind Route.find? =
      some (route.endpoint, (.token, t.toList) :: route.captured id) := by
  rw [byPath_segments plain ofTenant whole, Option.bind_some,
    Route.find?_with_token ofTenant present clear]

/-- Where the id cannot be read, the token beside it is lost: unless the method is refused anyway,
one request has no token and the other has no id. -/
theorem serve_unread (full : t ≠ "") (bare : r.header? "x-wagate-token" = none)
    (clear : ¬Route.Shadows t.toList route) (message : route.endpoint = .message)
    (present : id ≠ []) (unread : Utf8.decode? (percentDecode id) = none) :
    s.serve (r.byPath t route id) = s.serve (r.byHeader t route id) ↔
      ¬route.endpoint.answers r.method := by
  have byPath := @found_byPath r t route id plain ofTenant whole clear fun _ => present
  have byHeader := @found_byHeader r t route id ofTenant whole fun _ => present
  have read : (⟨r.byHeader t route id, route.captured id⟩ : Call).decoded? = none := by
    rw [decoded_captured ofTenant, if_pos message, unread, Option.map_none]
  have unnamed := @Call.token_missing
    ⟨r.byPath t route id, (.token, t.toList) :: route.captured id⟩
    (by rw [decoded_token plain, read]; rfl) bare
  have named := Call.token_header plain full
    (silent_captured ofTenant (r.byHeader t route id) id) (Request.naming_token bare)
  have closed : (⟨r.byHeader t route id, route.captured id⟩ : Call).segments =
      .error (.bare 400) := by
    rw [Call.segments, read]
  rw [message] at byPath byHeader ⊢
  by_cases answers : Endpoint.message.answers r.method = true
  · refine iff_of_false (serve_ne (answers_method answers) rfl ?_) (not_not_intro answers)
    rw [Service.dispatch_status byPath, Service.dispatch_status byHeader,
      Request.byPath_method, Request.byHeader_method, if_pos answers, if_pos answers,
      Service.answer_unnamed unnamed, Service.answer_unread named closed]
    exact (by decide : 401 ≠ 400)
  · refine iff_of_true (serve_same ?_) answers
    rw [Service.dispatch_found byPath, Service.dispatch_found byHeader,
      Request.byPath_method, Request.byHeader_method, if_neg answers, if_neg answers]

theorem serve_read (full : t ≠ "") (bare : r.header? "x-wagate-token" = none)
    (clear : ¬Route.Shadows t.toList route) (present : route.endpoint = .message → id ≠ [])
    {vs : List (Segment × String)}
    (read : (⟨r.byHeader t route id, route.captured id⟩ : Call).decoded? = some vs) :
    s.serve (r.byPath t route id) = s.serve (r.byHeader t route id) := by
  have alike := alike_calls plain full ofTenant read bare
  have inner : route.endpoint ≠ .socket := by
    have all : ∀ route ∈ Route.ofTenant, route.endpoint ≠ .socket := by decide
    exact all route ofTenant
  refine serve_same ?_
  rw [Service.dispatch_found (found_byPath plain ofTenant whole clear present),
    Service.dispatch_found (found_byHeader ofTenant whole present), alike.answer_eq inner]
  rfl

theorem serve_clear (full : t ≠ "") (bare : r.header? "x-wagate-token" = none)
    (clear : ¬Route.Shadows t.toList route) (present : route.endpoint = .message → id ≠ []) :
    s.serve (r.byPath t route id) = s.serve (r.byHeader t route id) ↔
      ¬(route.endpoint = .message ∧ Utf8.decode? (percentDecode id) = none ∧
        route.endpoint.answers r.method) := by
  by_cases lost : route.endpoint = .message ∧ Utf8.decode? (percentDecode id) = none
  · obtain ⟨message, unread⟩ := lost
    rw [serve_unread plain ofTenant whole full bare clear message (present message) unread]
    simp only [message, unread, true_and]
  · have decoded := decoded_captured ofTenant (r.byHeader t route id) id
    obtain ⟨vs, read⟩ : ∃ vs,
        (⟨r.byHeader t route id, route.captured id⟩ : Call).decoded? = some vs := by
      rw [decoded]
      split
      · next message =>
        obtain ⟨text, read⟩ := Option.ne_none_iff_exists'.mp fun unread => lost ⟨message, unread⟩
        exact ⟨_, by rw [read, Option.map_some]⟩
      · exact ⟨[], rfl⟩
    refine iff_of_true (serve_read plain ofTenant whole full bare clear present read) ?_
    rintro ⟨message, unread, -⟩
    exact lost ⟨message, unread⟩

/-- For a request without the token's header, a token that needs no escapes and a tenant's
endpoint, it makes a difference whether the path or a header has the token where the request goes
astray, and only there. -/
theorem token_in_path_or_header (s : Service) (full : t ≠ "")
    (bare : r.header? "x-wagate-token" = none) :
    s.serve (r.byPath t route id) = s.serve (r.byHeader t route id) ↔
      ¬Astray t route id r.method := by
  unfold Astray
  by_cases nowhere : route.endpoint = .message ∧ id = []
  · refine iff_of_true (serve_nowhere plain ofTenant whole nowhere.1 nowhere.2) ?_
    rintro (⟨shadowed, -⟩ | ⟨-, present, -⟩)
    · rcases single_endpoint ofTenant shadowed.2 with e | e | e | e | e <;>
        rw [nowhere.1] at e <;> cases e
    · exact present nowhere.2
  have present : route.endpoint = .message → id ≠ [] := fun message empty =>
    nowhere ⟨message, empty⟩
  by_cases shadowed : Route.Shadows t.toList route
  · have notMessage : route.endpoint ≠ .message := by
      rcases single_endpoint ofTenant shadowed.2 with e | e | e | e | e <;> rw [e] <;> decide
    rw [serve_shadowed plain ofTenant whole full bare shadowed]
    simp only [shadowed, notMessage, true_and, false_and, or_false]
  · rw [serve_clear plain ofTenant whole full bare shadowed present]
    simp only [shadowed, false_and, false_or]
    exact not_congr ⟨fun ⟨m, unread, answers⟩ => ⟨m, present m, unread, answers⟩,
      fun ⟨m, _, unread, answers⟩ => ⟨m, unread, answers⟩⟩

end Naming

/-- A paired tenant whose token is the fixed segment of a path is found by the header only; any
other token will do in either place. -/
theorem fixed_segment_token :
    let host : Host := { settings := {}, office := ⟨""⟩, hub := {}, clock := ⟨.epoch⟩ }
    let s : Service := ⟨(Gateway.pair { host := host } "message" "1@s.whatsapp.net").1, .epoch⟩
    let r : Request := { method := "GET", target := {} }
    let info : Route := ⟨[.fixed "info"], .info⟩
    (s.serve (r.byPath "message" info [])).2.status = 401 ∧
      (s.serve (r.byHeader "message" info [])).2.status = 200 ∧
      (s.serve (r.byPath "message" info []) ≠ s.serve (r.byHeader "message" info [])) ∧
      s.serve (r.byPath "acme" info []) = s.serve (r.byHeader "acme" info []) := by
  intro host s r info
  have ofTenant : info ∈ Route.ofTenant := List.mem_cons_self
  have plain : ∀ c ∈ "message".toList, isPlain c = true := List.all_eq_true.mp (by decide)
  have plain' : ∀ c ∈ "acme".toList, isPlain c = true := List.all_eq_true.mp (by decide)
  refine ⟨by decide +kernel, by decide +kernel, fun same => ?_, ?_⟩
  · refine (token_in_path_or_header plain ofTenant List.not_mem_nil s (by decide) rfl).mp same ?_
    exact .inl ⟨⟨rfl, rfl⟩, .inl rfl⟩
  · refine (token_in_path_or_header plain' ofTenant List.not_mem_nil s (by decide) rfl).mpr ?_
    rintro (⟨⟨named, -⟩, -⟩ | ⟨message, -⟩)
    · exact Route.toList_ne (by decide) named
    · cases message

end Http

end ChatGateway
