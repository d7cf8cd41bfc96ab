import ChatGateway.Http.Cors
import ChatGateway.Proofs.Http.Paths

namespace ChatGateway

namespace Text.Utf8

theorem pieces_ascii {bs : List UInt8} (ascii : ∀ b ∈ bs, b.toNat < 0x80) :
    pieces bs = bs.map fun b => some (Char.ofNat b.toNat) := by
  induction bs with
  | nil => rw [pieces, List.map_nil]
  | cons b rest ih =>
      rw [pieces, if_pos (ascii b List.mem_cons_self), List.map_cons,
        ih fun other member => ascii other (List.mem_cons_of_mem b member)]

theorem mapM_some (cs : List Char) : (cs.map some).mapM id = some cs := by
  induction cs with
  | nil => rfl
  | cons c rest ih => simp [ih]

end Text.Utf8

namespace Http

open Text (Utf8.decode?)

theorem percentDecode_unescaped {cs : List Char} (ascii : ∀ c ∈ cs, c.toNat < 0x80)
    (unescaped : '%' ∉ cs) : percentDecode cs = cs.map fun c => .ofNat c.toNat := by
  induction cs with
  | nil => rfl
  | cons c rest ih =>
      rw [List.mem_cons, not_or] at unescaped
      have small := ascii c List.mem_cons_self
      have later := ih (fun other member => ascii other (List.mem_cons_of_mem c member))
        unescaped.2
      rw [percentDecode, later, Text.Utf8.encodeChar, if_pos small]
      · rfl
      · exact fun _ _ _ same _ => unescaped.1 same.symm

theorem decode?_unescaped {cs : List Char} (ascii : ∀ c ∈ cs, c.toNat < 0x80)
    (unescaped : '%' ∉ cs) : Utf8.decode? (percentDecode cs) = some (String.ofList cs) := by
  have bytes : ∀ b ∈ cs.map fun c => UInt8.ofNat c.toNat, b.toNat < 0x80 := by
    intro b member
    obtain ⟨c, there, rfl⟩ := List.mem_map.mp member
    have small := ascii c there
    rw [UInt8.toNat_ofNat_of_lt' (show c.toNat < 256 by omega)]
    exact small
  have same : (cs.map fun c => UInt8.ofNat c.toNat).map (fun b => some (Char.ofNat b.toNat)) =
      cs.map some := by
    rw [List.map_map]
    refine List.map_congr_left fun c there => ?_
    have small := ascii c there
    simp only [Function.comp, UInt8.toNat_ofNat_of_lt' (show c.toNat < 256 by omega),
      Char.ofNat_toNat]
  rw [Utf8.decode?, percentDecode_unescaped ascii unescaped, Text.Utf8.pieces_ascii bytes, same,
    Text.Utf8.mapM_some]
  rfl

section Plain

variable {t : String} (plain : ∀ c ∈ t.toList, isPlain c = true)

include plain

theorem plain_code {c : Char} (member : c ∈ t.toList) :
    c.toNat = 45 ∨ 48 ≤ c.toNat ∧ c.toNat ≤ 122 :=
  isPlain_code (plain c member)

theorem plain_whole : '/' ∉ t.toList := fun member => by
  have code := plain_code plain member
  revert code
  decide

theorem plain_decoded : Utf8.decode? (percentDecode t.toList) = some t := by
  have ascii : ∀ c ∈ t.toList, c.toNat < 0x80 := fun c member => by
    have code := plain_code plain member
    omega
  have unescaped : '%' ∉ t.toList := fun member => by
    have code := plain_code plain member
    revert code
    decide
  rw [decode?_unescaped ascii unescaped, String.ofList_toList]

theorem plain_trimmed : Text.trim t = t := by
  refine Text.trim_of_unblank fun c member => ?_
  have code := plain_code plain member
  simp only [Text.isBlank]
  generalize c.toNat = n at code
  simp
  omega

theorem plain_visible : (t.toList.all fun c =>
    c == '\t' || (32 ≤ c.toNat && c.toNat < 127)) = true := by
  refine List.all_eq_true.mpr fun c member => ?_
  have code := plain_code plain member
  have low : 32 ≤ c.toNat := by omega
  have high : c.toNat < 127 := by omega
  simp [low, high]

/-- A token that is not empty names a tenant as it is. -/
theorem plain_kept (full : t ≠ "") :
    ((some t).map Text.trim).filter (!·.isEmpty) = some t := by
  rw [Option.map_some, plain_trimmed plain, Option.filter_some, if_pos]
  simpa using full

end Plain

namespace Request

/-- The request on another path. -/
def onPath (r : Request) (parts : List (List Char)) : Request :=
  { r with target := .ofSegments parts r.target.query }

/-- The request with a header that names the tenant. -/
def naming (r : Request) (token : String) : Request :=
  { r with headers := r.headers ++ [("X-WAGATE-TOKEN", token)] }

/-- The request at a tenant's endpoint whose path has the tenant's token. -/
def byPath (r : Request) (t : String) (route : Route) (id : List Char) : Request :=
  r.onPath ("api".toList :: t.toList :: route.fill id)

/-- The request at a tenant's endpoint with a header for the token. -/
def byHeader (r : Request) (t : String) (route : Route) (id : List Char) : Request :=
  (r.naming t).onPath ("api".toList :: route.fill id)

@[simp] theorem byPath_method (r : Request) (t : String) (route : Route) (id : List Char) :
    (r.byPath t route id).method = r.method := rfl

@[simp] theorem byHeader_method (r : Request) (t : String) (route : Route) (id : List Char) :
    (r.byHeader t route id).method = r.method := rfl

variable {r : Request} {token : String}

theorem naming_token (bare : r.header? "x-wagate-token" = none) :
    (r.naming token).header? "x-wagate-token" = some token := by
  rw [header?, Option.map_eq_none_iff] at bare
  have named : Text.lowerAsciiText "X-WAGATE-TOKEN" = "x-wagate-token" := by decide
  rw [header?, naming, List.find?_append, bare, List.find?_singleton, named]
  rfl

theorem naming_other {name : String} (other : name ≠ "x-wagate-token") :
    (r.naming token).header? name = r.header? name := by
  have named : (Text.lowerAsciiText "X-WAGATE-TOKEN" == name) = false := by
    rw [show Text.lowerAsciiText "X-WAGATE-TOKEN" = "x-wagate-token" by decide]
    exact beq_false_of_ne (Ne.symm other)
  rw [header?, header?, naming, List.find?_append, List.find?_singleton, named,
    if_neg Bool.false_ne_true, Option.or_none]

end Request

namespace Call

section Named

variable {c : Call} {t : String}

theorem token_path (plain : ∀ c ∈ t.toList, isPlain c = true) (full : t ≠ "")
    (named : c.decoded?.bind (·.lookup .token) = some t) : c.token = .ok t := by
  rw [token, named, plain_kept plain full]

theorem token_header (plain : ∀ c ∈ t.toList, isPlain c = true) (full : t ≠ "")
    (silent : c.decoded?.bind (·.lookup .token) = none)
    (named : c.request.header? "x-wagate-token" = some t) : c.token = .ok t := by
  have visible : c.request.asciiHeader? "x-wagate-token" = some t := by
    rw [Request.asciiHeader?, named, Option.filter_some, if_pos (plain_visible plain)]
  rw [token, silent, visible, plain_kept plain full]
  rfl

theorem token_missing (silent : c.decoded?.bind (·.lookup .token) = none)
    (bare : c.request.header? "x-wagate-token" = none) :
    c.token = .error (.ofFailure (.authentication "Missing tenant token")) := by
  rw [token, silent, Request.asciiHeader?, bare]
  rfl

end Named

/-- An endpoint cannot tell the calls apart. -/
structure Alike (c c' : Call) : Prop where
  token : c.token = c'.token
  id : c.decoded?.map (·.lookup .id) = c'.decoded?.map (·.lookup .id)
  method : c.request.method = c'.request.method
  query : c.request.target.query = c'.request.target.query
  content : c.request.asciiHeader? "content-type" = c'.request.asciiHeader? "content-type"
  body : c.request.body = c'.request.body

namespace Alike

variable {c c' : Call} (alike : Alike c c')

include alike

theorem query_eq {α : Type} (name : String) (read : String → Option α) :
    c.query name read = c'.query name read := by
  simp only [Call.query, Target.queryValue, Target.queryMembers, alike.query]

theorem body_eq {σ : Type} (limit : Nat) (fields : List (Field σ)) (start : σ) :
    c.body limit fields start = c'.body limit fields start := by
  simp only [Call.body, alike.content, alike.body]

theorem segments_cases :
    (∃ vs vs', c.segments = .ok vs ∧ c'.segments = .ok vs' ∧ messageId vs = messageId vs') ∨
      c.segments = .error (.bare 400) ∧ c'.segments = .error (.bare 400) := by
  have same := alike.id
  cases read : c.decoded? with
  | none =>
      rw [read] at same
      have read' := Option.map_eq_none_iff.mp same.symm
      exact Or.inr ⟨by rw [segments, read], by rw [segments, read']⟩
  | some vs =>
      rw [read] at same
      obtain ⟨vs', read', lookup⟩ := Option.map_eq_some_iff.mp same.symm
      refine Or.inl ⟨vs, vs', by rw [segments, read], by rw [segments, read'], ?_⟩
      rw [messageId, messageId, lookup]

variable {s : Service}

theorem getMessage_eq : s.getMessage c = s.getMessage c' := by
  unfold Service.getMessage
  rw [alike.token]
  rcases alike.segments_cases with ⟨vs, vs', read, read', same⟩ | ⟨failed, failed'⟩
  · simp only [read, read', bind, Except.bind, same]
  · rw [failed, failed']

theorem revoke_eq : s.revoke c = s.revoke c' := by
  unfold Service.revoke
  rw [alike.token, alike.query_eq]
  rcases alike.segments_cases with ⟨vs, vs', read, read', same⟩ | ⟨failed, failed'⟩
  · simp only [read, read', bind, Except.bind, same]
  · rw [failed, failed']

/-- Whatever reads no more than the tenant, the id, the query and the body. -/
theorem answer_eq {e : Endpoint} (inner : e ≠ .socket) : s.answer e c = s.answer e c' := by
  cases e with
  | health => rfl
  | detailedHealth => rfl
  | info => simp only [Service.answer, Service.info, alike.token]
  | pair => simp only [Service.answer, Service.pair, alike.token, alike.body_eq]
  | receive => simp only [Service.answer, Service.receive, alike.token, alike.query_eq]
  | message =>
      simp only [Service.answer, alike.method, alike.getMessage_eq, alike.revoke_eq]
  | send => simp only [Service.answer, Service.send, alike.token, alike.body_eq]
  | webhooks =>
      simp only [Service.answer, alike.method, Service.addWebhook, Service.removeWebhook,
        Service.listWebhooks, alike.token, alike.body_eq, alike.query_eq]
  | toggle => simp only [Service.answer, Service.toggle, alike.token, alike.body_eq]
  | tenant => simp only [Service.answer, Service.deleteTenant, alike.token]
  | socket => exact absurd rfl inner

end Alike

end Call

end Http

end ChatGateway
