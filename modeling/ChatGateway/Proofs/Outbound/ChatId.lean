import ChatGateway.Outbound.ChatId
import ChatGateway.Proofs.Message.Basic
import ChatGateway.Proofs.Text.Decimal

namespace ChatGateway

namespace Outbound

theorem isNumber_iff {cs : List Char} :
    isNumber cs = true ↔ cs ≠ [] ∧ ∀ c ∈ cs, Text.isDigit c = true := by
  simp [isNumber]

theorem digit_ne {c d : Char} (digit : Text.isDigit c = true) (other : Text.isDigit d = false) :
    c ≠ d := by
  rintro rfl
  rw [digit] at other
  cases other

/-- One or more runs of digits. -/
structure Numbers (runs : List (List Char)) : Prop where
  full : runs ≠ []
  digits : ∀ run ∈ runs, run ≠ [] ∧ ∀ c ∈ run, Text.isDigit c = true

/-- Runs of digits as they are written, with a dash between any two. -/
def dashed (runs : List (List Char)) : List Char := ['-'].intercalate runs

/-- The id that stands for a recipient given by runs of digits. -/
def completed (runs : List (List Char)) : String :=
  String.ofList (dashed runs) ++ if runs.length = 1 then "@s.whatsapp.net" else "@g.us"

theorem dashed_single (run : List Char) : dashed [run] = run := List.intercalate_singleton

theorem dashed_cons (run next : List Char) (rest : List (List Char)) :
    dashed (run :: next :: rest) = run ++ '-' :: dashed (next :: rest) := by
  rw [dashed, List.intercalate_cons_cons, List.append_assoc]
  rfl

namespace Numbers

variable {runs : List (List Char)} (numbers : Numbers runs)

theorem single {run : List Char} (number : isNumber run = true) : Numbers [run] :=
  ⟨List.cons_ne_nil run [], fun _ member => List.mem_singleton.mp member ▸ isNumber_iff.mp number⟩

theorem tail {run next : List Char} {rest : List (List Char)}
    (numbers : Numbers (run :: next :: rest)) : Numbers (next :: rest) :=
  ⟨List.cons_ne_nil next rest, fun r member => numbers.digits r (List.mem_cons_of_mem run member)⟩

include numbers

theorem isNumber : runs.all isNumber = true :=
  List.all_eq_true.mpr fun run member => isNumber_iff.mpr (numbers.digits run member)

theorem splitOn_dashed : Text.splitOn '-' (dashed runs) = runs := by
  rw [Text.splitOn_eq]
  refine List.splitOn_intercalate '-' (fun run member dash => ?_) numbers.full
  exact digit_ne ((numbers.digits run member).2 '-' dash) (by decide) rfl

theorem char {c : Char} (member : c ∈ dashed runs) : c = '-' ∨ Text.isDigit c = true := by
  induction runs with
  | nil => exact absurd rfl numbers.full
  | cons run rest ih =>
      have own := (numbers.digits run List.mem_cons_self).2 c
      cases rest with
      | nil => exact Or.inr (own (dashed_single run ▸ member))
      | cons next rest =>
          rw [dashed_cons, List.mem_append, List.mem_cons] at member
          rcases member with inside | rfl | later
          · exact Or.inr (own inside)
          · exact Or.inl rfl
          · exact ih numbers.tail later

theorem dash_iff : '-' ∈ dashed runs ↔ runs.length ≠ 1 := by
  have full := numbers.full
  match runs with
  | [] => exact absurd rfl full
  | [run] =>
      have digits := (numbers.digits run List.mem_cons_self).2
      rw [dashed_single]
      exact ⟨fun dash => absurd rfl (digit_ne (digits '-' dash) (by decide)),
        fun more => absurd rfl more⟩
  | run :: next :: rest =>
      rw [dashed_cons]
      refine ⟨fun _ => ?_, fun _ => List.mem_append_right run List.mem_cons_self⟩
      rw [List.length_cons, List.length_cons]
      omega

theorem dashed_ne : dashed runs ≠ [] := by
  intro nothing
  have split := numbers.splitOn_dashed
  rw [nothing] at split
  exact (numbers.digits [] (split ▸ List.mem_cons_self)).1 rfl

/-- It begins with a digit, so that no more than the plus signs before it is dropped. -/
theorem dropWhile_plus (plus : Nat) :
    (List.replicate plus '+' ++ dashed runs).dropWhile (· == '+') = dashed runs := by
  rw [List.dropWhile_append_of_pos fun c member => by rw [(List.mem_replicate.mp member).2]; rfl]
  have full := numbers.full
  match runs with
  | [] => exact absurd rfl full
  | run :: rest =>
      obtain ⟨some, digits⟩ := numbers.digits run List.mem_cons_self
      obtain ⟨c, cs, rfl⟩ := List.exists_cons_of_ne_nil some
      have digit := digit_ne (digits c List.mem_cons_self) (show Text.isDigit '+' = false by decide)
      have head : ∃ behind, dashed ((c :: cs) :: rest) = c :: behind := by
        cases rest with
        | nil => exact ⟨cs, dashed_single _⟩
        | cons next rest => exact ⟨_, dashed_cons (c :: cs) next rest⟩
      obtain ⟨behind, head⟩ := head
      rw [head]
      exact List.dropWhile_cons_of_neg (by simpa using digit)

end Numbers

theorem isNumber_iff_run {number : List Char} : isNumber number = true ↔
    ∃ runs, Numbers runs ∧ runs.length = 1 ∧ dashed runs = number := by
  constructor
  · exact fun digits => ⟨[number], .single digits, rfl, dashed_single number⟩
  · rintro ⟨runs, numbers, one, rfl⟩
    obtain ⟨run, rfl⟩ := List.length_eq_one_iff.mp one
    rw [dashed_single]
    exact isNumber_iff.mpr (numbers.digits run List.mem_cons_self)

theorem isDashed_iff {number : List Char} :
    (number.contains '-' && (Text.splitOn '-' number).all isNumber) = true ↔
      ∃ runs, Numbers runs ∧ runs.length ≠ 1 ∧ dashed runs = number := by
  rw [Bool.and_eq_true, List.contains_iff_mem]
  constructor
  · rintro ⟨dash, all⟩
    have joined : dashed (Text.splitOn '-' number) = number := by
      rw [dashed, Text.splitOn_eq, List.intercalate_splitOn]
    have numbers : Numbers (Text.splitOn '-' number) := by
      refine ⟨?_, fun run member => isNumber_iff.mp (List.all_eq_true.mp all run member)⟩
      rw [Text.splitOn_eq]
      exact List.splitOn_ne_nil '-' number
    exact ⟨_, numbers, numbers.dash_iff.mp (joined.symm ▸ dash), joined⟩
  · rintro ⟨runs, numbers, more, rfl⟩
    rw [numbers.splitOn_dashed]
    exact ⟨numbers.dash_iff.mpr more, numbers.isNumber⟩

theorem plus_signs (cs : List Char) :
    ∃ plus, cs = List.replicate plus '+' ++ cs.dropWhile (· == '+') := by
  refine ⟨(cs.takeWhile (· == '+')).length, ?_⟩
  have signs : cs.takeWhile (· == '+') = List.replicate _ '+' :=
    List.eq_replicate_iff.mpr ⟨rfl, fun c member => by
      simpa using List.mem_takeWhile_imp member⟩
  rw [← signs, List.takeWhile_append_dropWhile]

section ChatId

variable {raw out : String}

/-- The runs of digits of a bare id. Plus signs before them do not count. -/
def Bare (id : String) (runs : List (List Char)) : Prop :=
  Numbers runs ∧ ∃ plus, id.toList = List.replicate plus '+' ++ dashed runs

/-- What is said of an id that is not accepted. -/
def refusal (raw : String) : String :=
  if Text.trim raw = "" then "chat id missing" else "malformed chat id: '" ++ raw ++ "'"

theorem chatId_served (served : '@' ∈ (Text.trim raw).toList) :
    chatId raw = .ok (Text.trim raw) := by
  rw [Text.trim_toList] at served
  have some : (Text.trimChars raw.toList).isEmpty = false :=
    List.isEmpty_eq_false_iff.mpr (List.ne_nil_of_mem served)
  have server : (Text.trimChars raw.toList).contains '@' = true := List.contains_iff_mem.mpr served
  simp only [chatId, some, server, if_true, Bool.false_eq_true, if_false]
  rfl

theorem chatId_empty (empty : Text.trim raw = "") :
    (∀ runs, ¬Bare (Text.trim raw) runs) ∧ chatId raw = .error (.validation (refusal raw)) := by
  have none : Text.trimChars raw.toList = [] := by rw [← Text.trim_toList, empty]; rfl
  refine ⟨?_, by simp only [chatId, none, List.isEmpty_nil, if_true, refusal, if_pos empty]⟩
  rintro runs ⟨numbers, plus, signs⟩
  rw [empty] at signs
  exact numbers.dashed_ne (List.append_eq_nil_iff.mp signs.symm).2

theorem chatId_bare (bare : '@' ∉ (Text.trim raw).toList) :
    (∃ runs, Bare (Text.trim raw) runs ∧ chatId raw = .ok (completed runs)) ∨
      (∀ runs, ¬Bare (Text.trim raw) runs) ∧
        chatId raw = .error (.validation (refusal raw)) := by
  by_cases empty : Text.trim raw = ""
  · exact Or.inr (chatId_empty empty)
  have full := String.toList_inj.not.mpr empty
  unfold Bare
  rw [refusal, if_neg empty]
  rw [Text.trim_toList] at full bare ⊢
  obtain ⟨plus, signs⟩ := plus_signs (Text.trimChars raw.toList)
  generalize behind : (Text.trimChars raw.toList).dropWhile (· == '+') = number at signs
  have some : (Text.trimChars raw.toList).isEmpty = false := List.isEmpty_eq_false_iff.mpr full
  have server : (Text.trimChars raw.toList).contains '@' = false := by simpa using bare
  simp only [chatId, some, server, behind, Bool.false_eq_true, if_false]
  split
  · next group =>
    obtain ⟨runs, numbers, more, rfl⟩ := isDashed_iff.mp group
    exact Or.inl ⟨runs, ⟨numbers, plus, signs⟩, by rw [completed, if_neg more]⟩
  · next noGroup =>
    split
    · next person =>
      obtain ⟨runs, numbers, one, rfl⟩ := isNumber_iff_run.mp person
      exact Or.inl ⟨runs, ⟨numbers, plus, signs⟩, by rw [completed, if_pos one]⟩
    · next noPerson =>
      refine Or.inr ⟨?_, rfl⟩
      rintro runs ⟨numbers, plus', signs'⟩
      rw [signs', numbers.dropWhile_plus] at behind
      by_cases one : runs.length = 1
      · exact noPerson (isNumber_iff_run.mpr ⟨runs, numbers, one, behind⟩)
      · exact noGroup (isDashed_iff.mpr ⟨runs, numbers, one, behind⟩)

theorem chatId_error {f : Failure} (failed : chatId raw = .error f) :
    f = .validation (refusal raw) := by
  by_cases served : '@' ∈ (Text.trim raw).toList
  · rw [chatId_served served] at failed
    cases failed
  · rcases chatId_bare served with ⟨runs, _, accepted⟩ | ⟨_, refused⟩
    · rw [accepted] at failed
      cases failed
    · exact Except.error.inj (failed.symm.trans refused)

section Completed

variable {runs : List (List Char)} (numbers : Numbers runs)

theorem completed_toList (runs : List (List Char)) : (completed runs).toList =
    dashed runs ++ (if runs.length = 1 then "@s.whatsapp.net" else "@g.us").toList := by
  rw [completed, String.toList_append, String.toList_ofList]

theorem completed_served (runs : List (List Char)) : '@' ∈ (completed runs).toList := by
  rw [completed_toList]
  refine List.mem_append_right (dashed runs) ?_
  split <;> decide

include numbers in
theorem completed_dash_iff : '-' ∈ (completed runs).toList ↔ runs.length ≠ 1 := by
  have server : '-' ∉ (if runs.length = 1 then "@s.whatsapp.net" else "@g.us").toList := by
    split <;> decide
  rw [completed_toList, List.mem_append, numbers.dash_iff]
  exact or_iff_left server

theorem completed_isGroup_iff (runs : List (List Char)) (title : String) :
    (Chat.mk (completed runs) title).isGroup = true ↔ runs.length ≠ 1 := by
  rw [Chat.isGroup, completed]
  by_cases one : runs.length = 1
  · rw [if_pos one, Text.endsWith_apart (Text.endsWith_append _ _) (by decide)]
    exact ⟨nofun, fun more => absurd one more⟩
  · rw [if_neg one, Text.endsWith_append]
    exact ⟨fun _ => one, fun _ => rfl⟩

theorem completed_not_broadcast (runs : List (List Char)) (title : String) :
    (Chat.mk (completed runs) title).isBroadcast = false := by
  by_cases one : runs.length = 1
  · have ends : Text.endsWith (completed runs) "@s.whatsapp.net" = true := by
      rw [completed, if_pos one, Text.endsWith_append]
    exact Chat.not_broadcast ends (by decide)
  · exact Chat.broadcast_of_group ((completed_isGroup_iff runs title).mpr one)

include numbers

theorem completed_unblank : ∀ c ∈ (completed runs).toList, Text.isBlank c = false := by
  intro c member
  rw [completed_toList, List.mem_append] at member
  rcases member with inside | ending
  · rcases numbers.char inside with rfl | digit
    · decide
    · exact Text.isDigit_unblank digit
  · have plain : ("@s.whatsapp.net".toList ++ "@g.us".toList).any Text.isBlank = false := by
      decide
    refine Bool.eq_false_iff.mpr (List.any_eq_false.mp plain c (List.mem_append.mpr ?_))
    split at ending
    · exact Or.inl ending
    · exact Or.inr ending

end Completed

theorem Bare.unique {id : String} {runs runs' : List (List Char)} (bare : Bare id runs)
    (bare' : Bare id runs') : runs' = runs := by
  obtain ⟨numbers, plus, signs⟩ := bare
  obtain ⟨numbers', plus', signs'⟩ := bare'
  have same := congrArg (List.dropWhile (· == '+')) (signs'.symm.trans signs)
  rw [numbers.dropWhile_plus, numbers'.dropWhile_plus] at same
  rw [← numbers'.splitOn_dashed, same, numbers.splitOn_dashed]

theorem Bare.dash_iff {runs : List (List Char)} (bare : Bare (Text.trim raw) runs) :
    '-' ∈ raw.toList ↔ runs.length ≠ 1 := by
  obtain ⟨numbers, plus, signs⟩ := bare
  rw [Text.trim_toList] at signs
  rw [← numbers.dash_iff]
  constructor
  · intro dash
    have kept := Text.mem_trimChars (by decide) dash
    rw [signs, List.mem_append] at kept
    rcases kept with sign | inside
    · cases (List.mem_replicate.mp sign).2
    · exact inside
  · intro dash
    refine Text.mem_of_mem_trimChars ?_
    rw [signs]
    exact List.mem_append_right _ dash

/-- An id with a server is accepted as it is trimmed. Any other is accepted exactly if it is made of
runs of digits joined by single dashes, possibly behind plus signs, and gets the server of persons
if there is one run and that of groups otherwise; else it breaks the rules for requests. Whatever
is accepted is an id without white space around it, and accepted as it is. A recipient without a
server is a group exactly if there is a dash in its id, and never a broadcast. -/
theorem chatId_follows_grammar (raw : String) :
    ('@' ∈ (Text.trim raw).toList → chatId raw = .ok (Text.trim raw)) ∧
    ('@' ∉ (Text.trim raw).toList → ∀ out, chatId raw = .ok out ↔
      ∃ runs, Bare (Text.trim raw) runs ∧ out = completed runs) ∧
    (∀ f, chatId raw = .error f → f = .validation (refusal raw)) ∧
    ∀ out, chatId raw = .ok out →
      (Text.trim out = out ∧ out ≠ "" ∧ chatId out = .ok out) ∧
      ('@' ∉ raw.toList → ∀ title,
        ((Chat.mk out title).isGroup = true ↔ '-' ∈ raw.toList) ∧
        ('-' ∈ out.toList ↔ '-' ∈ raw.toList) ∧
        (Chat.mk out title).isBroadcast = false) := by
  have again : ∀ {out : String}, '@' ∈ out.toList → Text.trim out = out →
      Text.trim out = out ∧ out ≠ "" ∧ chatId out = .ok out := by
    intro out served trimmed
    refine ⟨trimmed, ?_, ?_⟩
    · rintro rfl
      cases served
    · have kept : chatId out = .ok (Text.trim out) := chatId_served (trimmed.symm ▸ served)
      rwa [trimmed] at kept
  by_cases served : '@' ∈ (Text.trim raw).toList
  · have accepted := chatId_served served
    refine ⟨fun _ => accepted, absurd served, fun f => chatId_error, fun out given => ?_⟩
    cases accepted.symm.trans given
    refine ⟨again served (Text.trim_trim raw), fun bare => absurd ?_ bare⟩
    exact Text.mem_of_mem_trimChars (Text.trim_toList raw ▸ served)
  rcases chatId_bare served with ⟨runs, bare, accepted⟩ | ⟨noRuns, refused⟩
  · refine ⟨(absurd · served), fun _ out => ?_, fun f => chatId_error, fun out given => ?_⟩
    · rw [accepted]
      constructor
      · intro given
        exact ⟨runs, bare, (Except.ok.inj given).symm⟩
      · rintro ⟨runs', bare', rfl⟩
        rw [bare.unique bare']
    · cases accepted.symm.trans given
      have plain : Text.trim (completed runs) = completed runs :=
        Text.trim_of_unblank (completed_unblank bare.1)
      refine ⟨again (completed_served runs) plain, fun _ title => ?_⟩
      rw [bare.dash_iff]
      exact ⟨completed_isGroup_iff runs title, completed_dash_iff bare.1,
        completed_not_broadcast runs title⟩
  · refine ⟨(absurd · served), fun _ out => ?_, fun f => chatId_error, fun out given => ?_⟩
    · rw [refused]
      exact ⟨nofun, fun ⟨runs, bare, _⟩ => absurd bare (noRuns runs)⟩
    · rw [refused] at given
      cases given

/-- A group by its number, with white space and a plus sign before it. -/
theorem group_gets_its_server :
    let raw := " +5511-1603\n"
    chatId raw = .ok "5511-1603@g.us" ∧ chatId "5511-1603@g.us" = .ok "5511-1603@g.us" ∧
      (Chat.mk "5511-1603@g.us" "").isGroup = true := by
  intro raw
  obtain ⟨_, bare, _, laws⟩ := chatId_follows_grammar raw
  have digits : ["5511".toList, "1603".toList].all isNumber = true := by decide
  have runs : Bare (Text.trim raw) ["5511".toList, "1603".toList] :=
    ⟨⟨by decide, fun run member => isNumber_iff.mp (List.all_eq_true.mp digits run member)⟩,
      1, by decide⟩
  have accepted : chatId raw = .ok "5511-1603@g.us" :=
    (bare (by decide) "5511-1603@g.us").mpr ⟨_, runs, by decide⟩
  obtain ⟨⟨_, _, again⟩, chat⟩ := laws _ accepted
  exact ⟨accepted, again, (chat (by decide) "").1.mpr (by decide)⟩

end ChatId

end Outbound

end ChatGateway
