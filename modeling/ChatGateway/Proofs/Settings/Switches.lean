import ChatGateway.Proofs.Json.Fields
import ChatGateway.Proofs.Settings.Variables

namespace ChatGateway

theorem Dialect.table_obj {σ : Type} (k : Dialect) (fields : List (Field σ)) (start : σ)
    (members : List (String × Json)) :
    k.table fields start (.obj members) = Field.decode fields start (.obj members) := by
  unfold table
  split <;> rfl

/-- The options of a tenant whose default is a switch. -/
inductive TenantOption where
  | groups
  | broadcasts
  | readReceipts
  | calls
  deriving DecidableEq, Repr

namespace TenantOption

def name : TenantOption → String
  | groups => "groups"
  | broadcasts => "broadcasts"
  | readReceipts => "read_receipts"
  | calls => "calls"

def assign (o : TenantOption) (v : Switch) (d : TenantDefaults) : TenantDefaults :=
  match o with
  | groups => { d with groups := v }
  | broadcasts => { d with broadcasts := v }
  | readReceipts => { d with readReceipts := v }
  | calls => { d with calls := v }

/-- The settings with another default of an option. -/
def change (o : TenantOption) (v : Switch) (s : Settings) : Settings :=
  { s with defaults := o.assign v s.defaults }

/-- Where an option stands in the settings. -/
def place (o : TenantOption) : Place := [.member "whatsapp", .member o.name]

/-- A document with an option and nothing else. -/
def document (o : TenantOption) (j : Json) : Json := .obj [("whatsapp", .obj [(o.name, j)])]

variable (o : TenantOption) {x y : Json} {v w : Switch}

def field : Field TenantDefaults := .opt o.name Switch.decode o.assign

theorem field_found : (TenantDefaults.fields .lenient).find? (·.matchesName o.name) =
    some o.field := by
  cases o <;> rfl

theorem assign_apart (v : Switch) :
    Field.Apart (TenantDefaults.fields .lenient) o.name (o.assign v) := by
  intro g listed other
  simp only [TenantDefaults.fields, List.mem_cons, List.not_mem_nil, or_false] at listed
  cases o <;> rcases listed with rfl | rfl | rfl | rfl | rfl | rfl <;>
    first
    | exact absurd rfl other
    | exact Field.opt_apart fun _ _ => rfl

theorem change_apart (v : Switch) :
    Field.Apart (Settings.fields .lenient) "whatsapp" (o.change v) := by
  intro g listed other
  simp only [Settings.fields, List.mem_cons, List.not_mem_nil, or_false] at listed
  rcases listed with rfl | rfl | rfl | rfl | rfl | rfl | rfl <;>
    first
    | exact absurd rfl other
    | exact Field.opt_apart fun _ _ => rfl

theorem field_turned (reads : Switch.decode x = .ok v) (reads' : Switch.decode y = .ok w)
    (d : TenantDefaults) : o.field.read x d = (o.field.read y d).map (o.assign v) := by
  have last : o.assign v (o.assign w d) = o.assign v d := by cases o <;> rfl
  change (Switch.decode x).map _ = ((Switch.decode y).map _).map _
  rw [reads, reads']
  exact congrArg Except.ok last.symm

/-- The settings with a switch in its place are those with another one there, but for the option. -/
theorem decode_changeAt (reads : Switch.decode x = .ok v) (reads' : Switch.decode y = .ok w)
    (tree : Json) :
    Settings.decode .lenient (tree.changeAt (fun _ => x) o.place) =
      (Settings.decode .lenient (tree.changeAt (fun _ => y) o.place)).map (o.change v) := by
  let inner := ((tree.members.lookup "whatsapp").getD .null).members
  have section_turned : Field.decode (TenantDefaults.fields .lenient) {}
        (.obj (Json.insertMember o.name x inner)) =
      (Field.decode (TenantDefaults.fields .lenient) {}
        (.obj (Json.insertMember o.name y inner))).map (o.assign v) :=
    Field.decode_insertMember o.field_found (o.assign_apart v) (o.field_turned reads reads')
      inner {}
  have found : (Settings.fields .lenient).find? (·.matchesName "whatsapp") =
      some (.opt "whatsapp" (Dialect.lenient.table (TenantDefaults.fields .lenient) {})
        (fun d s => { s with defaults := d })) := rfl
  change Dialect.lenient.table _ _ (.obj (Json.insertMember "whatsapp"
      (.obj (Json.insertMember o.name x inner)) tree.members)) =
    (Dialect.lenient.table _ _ (.obj (Json.insertMember "whatsapp"
      (.obj (Json.insertMember o.name y inner)) tree.members))).map _
  rw [Dialect.table_obj, Dialect.table_obj]
  refine Field.decode_insertMember found (o.change_apart v) (fun s => ?_) tree.members {}
  change (Dialect.lenient.table _ _ _).map _ = ((Dialect.lenient.table _ _ _).map _).map _
  rw [Dialect.table_obj, Dialect.table_obj, section_turned]
  cases Field.decode (TenantDefaults.fields .lenient) {}
      (.obj (Json.insertMember o.name y inner)) <;> rfl

/-- Where a switch is all that is written, all else has its default. -/
theorem decode_alone (reads : Switch.decode x = .ok v) :
    Settings.decode .lenient ((Json.obj []).changeAt (fun _ => x) o.place) =
      .ok (o.change v {}) := by
  have unset : Settings.decode .lenient ((Json.obj []).changeAt (fun _ => .null) o.place) =
      .ok (o.change .unset {}) := by
    cases o <;> rfl
  rw [o.decode_changeAt reads (rfl : Switch.decode .null = .ok .unset), unset]
  cases o <;> rfl

end TenantOption

namespace Settings

variable {o : TenantOption} {x : Json} {v : Switch}

theorem overlay_switch (reads : Switch.decode x = .ok v) (depth : Nat) (old : Json) :
    overlay depth x old = x := by
  cases x with
  | obj members => cases reads
  | _ => cases depth <;> rfl

section Variable

variable {key s : String} (named : Text.lower key = "wagate__whatsapp__" ++ o.name)
include named

theorem putVariable_option (read : Switch.parse s = .ok v) (tree : Json) :
    putVariable key s tree = tree.changeAt (fun _ => variableValue s) o.place := by
  have chars : ∃ rest, (Text.lower key).toList = variableStart ++ rest ∧
      placeOf (dotted rest) = o.place := by
    rw [named]
    cases o
    · exact ⟨"whatsapp__groups".toList, rfl, by decide +kernel⟩
    · exact ⟨"whatsapp__broadcasts".toList, rfl, by decide +kernel⟩
    · exact ⟨"whatsapp__read_receipts".toList, rfl, by decide +kernel⟩
    · exact ⟨"whatsapp__calls".toList, rfl, by decide +kernel⟩
  obtain ⟨rest, split, placed⟩ := chars
  have leaf : overlay (Json.maxDepth + 1) (variableValue s) = fun _ => variableValue s :=
    funext (overlay_switch (decode_variableValue read) _)
  simp only [putVariable, split]
  rw [if_pos (List.isPrefixOf_iff_prefix.mpr (List.prefix_append _ _)), List.drop_left, put, leaf,
    placed]

/-- One more variable sets its option, whatever the other sources hold. -/
theorem load_variable (read : Switch.parse s = .ok v) (files : List (String × String))
    (name : String) (environment : List (String × String)) :
    load files name (environment ++ [(key, s)]) =
      (load files name (environment ++ [(key, "")])).map (o.change v) := by
  have empty : Switch.parse "" = .ok .unset := rfl
  have last (t : Json) : decode .lenient (putVariable key s t) =
      (decode .lenient (putVariable key "" t)).map (o.change v) := by
    rw [putVariable_option named read, putVariable_option named empty]
    exact o.decode_changeAt (decode_variableValue read) (decode_variableValue empty) t
  simp only [load, List.foldl_append, List.foldl_cons, List.foldl_nil, last]
  cases (["default", name].filterMap (fileNamed? files)).foldlM (fun t text => putFile text t)
      (.obj []) with
  | error e => rfl
  | ok t =>
      cases loaded : decode .lenient (putVariable key ""
          (environment.foldl (fun t v => putVariable v.1 v.2 t) t)) with
      | error e => simp only [bind, Except.bind, loaded]; rfl
      | ok r => simp only [bind, Except.bind, loaded]; rfl

theorem load_variable_alone (read : Switch.parse s = .ok v) (name : String) :
    load [] name [(key, s)] = .ok (o.change v {}) := by
  have nothing : ["default", name].filterMap (fileNamed? []) = [] := by simp [fileNamed?]
  have alone := o.decode_alone (decode_variableValue read)
  simp only [load, nothing, List.foldlM_nil, pure_bind, List.foldl_cons, List.foldl_nil,
    putVariable_option named read, alone]

end Variable

theorem withoutMark_print (members : List (String × Json)) :
    withoutMark (Json.print (.obj members)) = Json.print (.obj members) := by
  unfold withoutMark
  split
  · next rest same =>
    rw [Json.print, String.toList_ofList, Json.printChars, List.cons_append] at same
    cases same
  · rfl

theorem putFile_document (reads : Switch.decode x = .ok v) (legible : Json.Legible 125 x)
    (tree : Json) :
    putFile (o.document x).print tree = .ok (tree.changeAt (fun _ => x) o.place) := by
  have whole : Json.Legible Json.maxDepth (o.document x) := by
    refine .obj fun m member => ?_
    rw [List.mem_singleton.mp member]
    refine .obj fun m member => ?_
    rw [List.mem_singleton.mp member]
    exact legible
  have canonical : (o.document x).canonical = o.document x := by
    cases x <;> first | rfl | cases reads
  have merged (old : Json) : overlay (Json.maxDepth + 1) (.obj [(o.name, x)]) old =
      old.changeAt (fun _ => x) [.member o.name] := by
    change Json.obj (Json.insertMember o.name (overlay Json.maxDepth x _) old.members) = _
    rw [overlay_switch reads]
    rfl
  have placed : placeOf "whatsapp".toList = [.member "whatsapp"] := by decide +kernel
  rw [putFile, TenantOption.document, withoutMark_print, ← TenantOption.document,
    Json.parse?_print whole, Option.map_some, canonical]
  dsimp only [TenantOption.document]
  rw [List.foldl_cons, List.foldl_nil, put, placed, funext merged]
  rfl

theorem fileNamed?_single (file text name : String) :
    fileNamed? [(file, text)] name = none ∨ fileNamed? [(file, text)] name = some text := by
  unfold fileNamed?
  split
  · exact .inl rfl
  · split
    · next f found =>
      have same := List.mem_singleton.mp (List.mem_of_find?_eq_some found)
      exact .inr (by rw [same])
    · rw [List.lookup_cons]
      cases name == file with
      | true => exact .inr rfl
      | false => exact .inl rfl

theorem load_file_alone (reads : Switch.decode x = .ok v) (legible : Json.Legible 125 x)
    (name : String) : load [("default", (o.document x).print)] name [] = .ok (o.change v {}) := by
  let text := (o.document x).print
  let tree := (Json.obj []).changeAt (fun _ => x) o.place
  have once : putFile text (.obj []) = .ok tree := putFile_document reads legible _
  -- the name may be that of the same file, which is then read twice
  have again : putFile text tree = .ok tree := by
    have same : tree.changeAt (fun _ => x) o.place = tree := by
      simp [tree, TenantOption.place, Json.changeAt, Json.members, Json.insertMember]
    exact (putFile_document reads legible tree).trans (congrArg Except.ok same)
  have read : (["default", name].filterMap (fileNamed? [("default", text)])).foldlM
      (fun t text => putFile text t) (.obj []) = .ok tree := by
    have own : fileNamed? [("default", text)] "default" = some text := rfl
    rw [List.filterMap_cons_some own, List.foldlM_cons, once]
    change List.foldlM _ tree _ = _
    rcases fileNamed?_single "default" text name with none | found
    · rw [List.filterMap_cons_none none]
      rfl
    · rw [List.filterMap_cons_some found, List.foldlM_cons, again]
      rfl
  have alone : decode .lenient tree = .ok (o.change v {}) := o.decode_alone reads
  change load [("default", text)] name [] = _
  simp only [load, read, bind, Except.bind, List.foldl_nil, alone]

/-- A switch means the same wherever it is written. What is read from a text is read from a JSON
string, from a file of settings and from a variable of that text, which sets its option whatever
the other sources hold; what is refused as a text is refused as a JSON string; and an integer is a
switch in JSON if its decimal text is one. -/
theorem switches_mean_the_same :
    (∀ s v, Switch.parse s = .ok v →
      Switch.Spells (Json.print (.str s)) v ∧ Switch.decode (variableValue s) = .ok v ∧
      ∀ (o : TenantOption) (name : String),
        load [("default", (o.document (.str s)).print)] name [] = .ok (o.change v {}) ∧
        ∀ key, Text.lower key = "wagate__whatsapp__" ++ o.name →
          load [] name [(key, s)] = .ok (o.change v {}) ∧
          ∀ files environment, load files name (environment ++ [(key, s)]) =
            (load files name (environment ++ [(key, "")])).map (o.change v)) ∧
    (∀ s f, Switch.parse s = .error f →
      Switch.decode (.str s) = .error (.refused f.message) ∧
      ∀ v, ¬Switch.Spells (Json.print (.str s)) v) ∧
    ∀ n : Int, -2 ^ 63 ≤ n → n < 2 ^ 64 → ∀ v,
      Switch.Spells (toString n) v ↔ Switch.parse (toString n) = .ok v := by
  refine ⟨fun s v read => ?_, fun s f refused => ?_, fun n low high v => ?_⟩
  · refine ⟨Switch.spells_str.mpr read, decode_variableValue read, fun o name => ?_⟩
    refine ⟨load_file_alone (Switch.decode_str.mpr read) (.str s) name, fun key named => ?_⟩
    exact ⟨load_variable_alone named read name, fun files => load_variable named read files name⟩
  · refine ⟨?_, fun v spelled => ?_⟩
    · change Switch.decodeText s = _
      rw [Switch.decodeText, refused]
    · rw [Switch.spells_str, refused] at spelled
      cases spelled
  · have bounds : Json.minInt = -2 ^ 63 ∧ Json.maxInt = 2 ^ 64 - 1 := by decide
    have exact : Json.isExact n = true := by
      rw [Json.isExact, bounds.1, bounds.2, Bool.and_eq_true, decide_eq_true_eq, decide_eq_true_eq]
      omega
    exact Switch.spells_int exact

theorem forced_by_a_variable :
    Switch.parse " ForcedTrue\t" = .ok .forcedOn ∧
    Text.lower "Wagate__WhatsApp__Calls" = "wagate__whatsapp__" ++ TenantOption.calls.name ∧
    load [] "production" [("Wagate__WhatsApp__Calls", " ForcedTrue\t")] =
      .ok (TenantOption.calls.change .forcedOn {}) ∧
    Switch.parse "maybe" = .error (.configuration "Invalid option boolean value: maybe") ∧
    Switch.decode (.str "maybe") = .error (.refused "Invalid option boolean value: maybe") ∧
    (-2 ^ 63 ≤ (-2 : Int) ∧ (-2 : Int) < 2 ^ 64) ∧ Switch.Spells "-2" .forcedOff := by
  obtain ⟨accepted, refused, integers⟩ := switches_mean_the_same
  have read : Switch.parse " ForcedTrue\t" = .ok .forcedOn := rfl
  have named : Text.lower "Wagate__WhatsApp__Calls" =
      "wagate__whatsapp__" ++ TenantOption.calls.name := by
    decide +kernel
  have unread : Switch.parse "maybe" =
      .error (.configuration "Invalid option boolean value: maybe") := rfl
  have small : -2 ^ 63 ≤ (-2 : Int) ∧ (-2 : Int) < 2 ^ 64 := by decide
  obtain ⟨-, -, written⟩ := accepted _ _ read
  exact ⟨read, named, ((written .calls "production").2 _ named).1, unread, (refused _ _ unread).1,
    small, (integers (-2) small.1 small.2 .forcedOff).mpr rfl⟩

end Settings

end ChatGateway
