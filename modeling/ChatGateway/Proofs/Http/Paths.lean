import ChatGateway.Http.Route
import ChatGateway.Proofs.Text.Parts

/-!
Where the two paths of a tenant's endpoint lead: the one with the tenant's token, and the one
without it. They lead to the same endpoint, but for a token that is a fixed segment of a path
without one: then a path with that token is taken for one of those.
-/

namespace ChatGateway

namespace Http

/-- The characters of which a token does not have to be escaped: letters, digits, `-` and `_`. -/
def isPlain (c : Char) : Bool := c.isAlphanum || c == '-' || c == '_'

theorem isPlain_code {c : Char} (plain : isPlain c = true) :
    c.toNat = 45 ∨ 48 ≤ c.toNat ∧ c.toNat ≤ 122 := by
  change (((decide (65 ≤ c.val ∧ c.val ≤ 90) || decide (97 ≤ c.val) && decide (c.val ≤ 122)) ||
    decide (48 ≤ c.val) && decide (c.val ≤ 57)) || c == '-' || c == '_') = true at plain
  simp only [Bool.or_eq_true, Bool.and_eq_true, decide_eq_true_eq, beq_iff_eq,
    UInt32.le_iff_toNat_le] at plain
  change ((((65 ≤ c.toNat ∧ c.toNat ≤ 90) ∨ (97 ≤ c.toNat ∧ c.toNat ≤ 122)) ∨
    (48 ≤ c.toNat ∧ c.toNat ≤ 57)) ∨ c = '-') ∨ c = '_' at plain
  rcases plain with (((code | code) | code) | rfl) | rfl
  · omega
  · omega
  · omega
  · exact Or.inl rfl
  · exact Or.inr ⟨by decide, by decide⟩

namespace Target

/-- The target whose path has the segments. -/
def ofSegments (parts : List (List Char)) (query : List Char) : Target :=
  ⟨parts.flatMap ('/' :: ·), query⟩

theorem segments?_ofSegments {part : List Char} {parts : List (List Char)}
    (clean : ∀ p ∈ part :: parts, '/' ∉ p) (query : List Char) :
    (ofSegments (part :: parts) query).segments? = some (part :: parts) := by
  have cut : Text.splitOn '/' (part ++ parts.flatMap ('/' :: ·)) = part :: parts := by
    induction parts generalizing part with
    | nil =>
        rw [List.flatMap_nil, List.append_nil]
        exact Text.splitOn_last (clean part List.mem_cons_self)
    | cons next parts ih =>
        rw [List.flatMap_cons, List.cons_append, Text.splitOn_first (clean part List.mem_cons_self),
          ih fun p member => clean p (List.mem_cons_of_mem part member)]
  exact congrArg some cut

end Target

namespace Route

/-- The segments of a path of the pattern, with an id in the place for one. -/
def fill (r : Route) (id : List Char) : List (List Char) :=
  r.pattern.map fun
    | .fixed text => text.toList
    | _ => id

/-- The variable segments of such a path. -/
def captured (r : Route) (id : List Char) : List (Segment × List Char) :=
  r.pattern.filterMap fun
    | .fixed _ => none
    | s => some (s, id)

theorem fit_length {pattern : List Segment} {parts : List (List Char)}
    {vs : List (Segment × List Char)} (fits : fit pattern parts = some vs) :
    pattern.length = parts.length := by
  fun_induction fit pattern parts generalizing vs with
  | case1 => rfl
  | case2 text pattern parts ih => exact congrArg (· + 1) (ih fits)
  | case5 s pattern part parts _ _ ih =>
      obtain ⟨vs', fits', _⟩ := Option.map_eq_some_iff.mp fits
      exact congrArg (· + 1) (ih fits')
  | case3 => cases fits
  | case4 => cases fits
  | case6 => cases fits

/-- Only patterns as long as the path are of any account. -/
theorem find?_of_length (parts : List (List Char)) :
    find? parts = (all.filter (·.pattern.length == parts.length)).findSome? fun r =>
      (fit r.pattern parts).map (r.endpoint, ·) := by
  unfold find?
  induction all with
  | nil => rfl
  | cons r rest ih =>
      cases fits : fit r.pattern parts with
      | none =>
          rw [List.findSome?_cons_of_isNone (by rw [fits]; rfl), ih, List.filter_cons]
          split
          · rw [List.findSome?_cons_of_isNone (by rw [fits]; rfl)]
          · rfl
      | some vs =>
          rw [List.filter_cons, if_pos (beq_iff_eq.mpr (fit_length fits))]
          simp only [List.findSome?_cons, fits, Option.map_some]

theorem findSome?_or {α β : Type} {f : α → Option β} {a : α} {l : List α} :
    (a :: l).findSome? f = (f a).or (l.findSome? f) := by
  rw [List.findSome?_cons]
  cases f a <;> rfl

theorem toList_ne {a b : String} (apart : a ≠ b) : a.toList ≠ b.toList :=
  fun same => apart (String.toList_inj.mp same)

section Fit

variable {text : String} {pattern : List Segment} {part : List Char} {parts : List (List Char)}

theorem fit_nil : fit [] [] = some [] := by rw [fit]

theorem fit_same : fit (.fixed text :: pattern) (text.toList :: parts) = fit pattern parts := by
  rw [fit, if_pos rfl]

theorem fit_other (other : text.toList ≠ part) :
    fit (.fixed text :: pattern) (part :: parts) = none := by
  rw [fit, if_neg other]

theorem fit_last_other {last : String} (other : last.toList ≠ part) {before : List Char} :
    fit [.fixed text, .fixed last] [before, part] = none := by
  rw [fit, fit_other other, ite_self]

theorem fit_token {s : Segment} : fit (.token :: s :: pattern) (part :: parts) =
    (fit (s :: pattern) parts).map ((.token, part) :: ·) := by
  rw [fit]
  · rfl
  · exact fun _ fixed => by cases fixed

theorem fit_id (full : part ≠ []) : fit [.id] [part] = some [(.id, part)] := by
  rw [fit, fit_nil]
  · simp [full]
  · exact fun _ fixed => by cases fixed

theorem fit_no_id : fit [.id] [[]] = none := by
  rw [fit]
  · rfl
  · exact fun _ fixed => by cases fixed

end Fit

variable {a b c d : List Char}

theorem find?_two : find? [a, b] =
    [⟨[.fixed "health", .fixed "detailed"], .detailedHealth⟩,
      ⟨[.fixed "api", .fixed "info"], .info⟩, ⟨[.fixed "api", .fixed "pair"], .pair⟩,
      ⟨[.fixed "api", .fixed "receive"], .receive⟩, ⟨[.fixed "api", .fixed "send"], .send⟩,
      ⟨[.fixed "api", .fixed "webhooks"], .webhooks⟩, ⟨[.fixed "api", .token], .tenant⟩].findSome?
        fun r : Route => (fit r.pattern [a, b]).map (r.endpoint, ·) :=
  find?_of_length [a, b]

theorem find?_three : find? [a, b, c] =
    [⟨[.fixed "api", .fixed "message", .id], .message⟩,
      ⟨[.fixed "api", .fixed "webhooks", .fixed "toggle"], .toggle⟩,
      ⟨[.fixed "api", .token, .fixed "info"], .info⟩,
      ⟨[.fixed "api", .token, .fixed "pair"], .pair⟩,
      ⟨[.fixed "api", .token, .fixed "receive"], .receive⟩,
      ⟨[.fixed "api", .token, .fixed "send"], .send⟩,
      ⟨[.fixed "api", .token, .fixed "webhooks"], .webhooks⟩].findSome?
        fun r : Route => (fit r.pattern [a, b, c]).map (r.endpoint, ·) :=
  find?_of_length [a, b, c]

theorem find?_four : find? [a, b, c, d] =
    [⟨[.fixed "api", .token, .fixed "message", .id], .message⟩,
      ⟨[.fixed "api", .token, .fixed "webhooks", .fixed "toggle"], .toggle⟩].findSome?
        fun r : Route => (fit r.pattern [a, b, c, d]).map (r.endpoint, ·) :=
  find?_of_length [a, b, c, d]

variable {r : Route} {id : List Char}

/-- The routes of a tenant: a message's, the toggle, and those with one segment. -/
theorem of_tenant (ofTenant : r ∈ ofTenant) :
    r = ⟨[.fixed "message", .id], .message⟩ ∨
      r = ⟨[.fixed "webhooks", .fixed "toggle"], .toggle⟩ ∨ r = ⟨[.fixed "info"], .info⟩ ∨
      r = ⟨[.fixed "pair"], .pair⟩ ∨ r = ⟨[.fixed "receive"], .receive⟩ ∨
      r = ⟨[.fixed "send"], .send⟩ ∨ r = ⟨[.fixed "webhooks"], .webhooks⟩ := by
  simp only [Route.ofTenant, List.mem_cons, List.not_mem_nil, or_false] at ofTenant
  rcases ofTenant with rfl | rfl | rfl | rfl | rfl | rfl | rfl <;> simp

theorem find?_without_token (ofTenant : r ∈ ofTenant) (full : r.endpoint = .message → id ≠ []) :
    find? ("api".toList :: r.fill id) = some (r.endpoint, r.captured id) := by
  rcases of_tenant ofTenant with rfl | rfl | rfl | rfl | rfl | rfl | rfl
  · simp only [fill, List.map, find?_three, findSome?_or, fit_same, fit_id (full rfl),
      Option.map_some, Option.some_or]
    rfl
  · simp only [fill, List.map, find?_three, findSome?_or, fit_same, fit_other, toList_ne,
      ne_eq, String.reduceEq, not_false_eq_true, fit_nil, Option.map_some, Option.map_none,
      Option.some_or, Option.none_or]
    rfl
  all_goals
    simp only [fill, List.map, find?_two, findSome?_or, fit_same, fit_other, toList_ne, ne_eq,
      String.reduceEq, not_false_eq_true, fit_nil, Option.map_some, Option.map_none,
      Option.some_or, Option.none_or]
    rfl

/-- Whether a path with the token is taken for one without it. -/
def Shadows (t : List Char) (r : Route) : Prop := t = "message".toList ∧ r.pattern.length = 1

theorem find?_with_token (ofTenant : r ∈ ofTenant) (full : r.endpoint = .message → id ≠ [])
    {t : List Char} (clear : ¬Shadows t r) :
    find? ("api".toList :: t :: r.fill id) = some (r.endpoint, (.token, t) :: r.captured id) := by
  rcases of_tenant ofTenant with rfl | rfl | rfl | rfl | rfl | rfl | rfl
  · simp only [fill, List.map, find?_four, findSome?_or, fit_same, fit_token, fit_id (full rfl),
      Option.map_some, Option.some_or]
    rfl
  · simp only [fill, List.map, find?_four, findSome?_or, fit_same, fit_other, toList_ne, ne_eq,
      String.reduceEq, not_false_eq_true, fit_token, fit_nil, Option.map_some, Option.map_none,
      Option.some_or, Option.none_or]
    rfl
  all_goals
    have other : "message".toList ≠ t := fun same => clear ⟨same.symm, rfl⟩
    simp only [fill, List.map, find?_three, findSome?_or, fit_same, fit_other other, fit_other,
      fit_last_other, toList_ne, ne_eq, String.reduceEq, not_false_eq_true, fit_token, fit_nil,
      Option.map_some, Option.map_none, Option.some_or, Option.none_or]
    rfl

theorem find?_shadowed (ofTenant : r ∈ ofTenant) {t : List Char} (shadowed : Shadows t r) :
    ∃ name, r.pattern = [.fixed name] ∧
      find? ("api".toList :: t :: r.fill id) = some (.message, [(.id, name.toList)]) := by
  obtain ⟨rfl, single⟩ := shadowed
  rcases of_tenant ofTenant with rfl | rfl | rfl | rfl | rfl | rfl | rfl
  · cases single
  · cases single
  all_goals
    refine ⟨_, rfl, ?_⟩
    simp only [fill, List.map, find?_three, findSome?_or, fit_same]
    rw [fit_id (by decide)]
    rfl

theorem find?_nowhere (ofTenant : r ∈ ofTenant) (message : r.endpoint = .message)
    (t : List Char) :
    find? ("api".toList :: r.fill []) = none ∧ find? ("api".toList :: t :: r.fill []) = none := by
  have named : ∀ {text : String}, text ≠ "" → text.toList ≠ [] := toList_ne
  rcases of_tenant ofTenant with rfl | rfl | rfl | rfl | rfl | rfl | rfl
  · constructor
    · simp only [fill, List.map, find?_three, findSome?_or, fit_same, fit_no_id, fit_other,
        toList_ne, named, ne_eq, String.reduceEq, not_false_eq_true, fit_token, Option.map_none,
        Option.none_or, List.findSome?_nil]
    · simp only [fill, List.map, find?_four, findSome?_or, fit_same, fit_no_id, fit_other,
        toList_ne, ne_eq, String.reduceEq, not_false_eq_true, fit_token, Option.map_none,
        Option.none_or, List.findSome?_nil]
  all_goals cases message

end Route

end Http

end ChatGateway
