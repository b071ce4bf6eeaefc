import Mathlib
import FluidSheet.Sheet.Json
import FluidSheet.Proofs.Json.Text
import FluidSheet.Proofs.Json.Decode

-- What is absent or false goes unmentioned on the way out and is filled in again on the way in.

namespace FluidSheet

open Json Json.Decode

namespace Node

def kind : Node → Decode.Kind
  | .rule .. => .rule
  | .atRule .. => .atRule
  | .declaration _ => .declaration
  | .comment _ => .comment

def kindName : Node → String
  | .rule .. => "rule"
  | .atRule .. => "atrule"
  | .declaration _ => "decl"
  | .comment _ => "comment"

def members : Node → List (String × Json)
  | .rule selector nodes source =>
    [("selector", .string selector), ("nodes", .array (jsonNodes nodes))] ++ sourceMember source
  | .atRule name params nodes source =>
    [("name", .string name), ("params", .string params), ("nodes", .array (jsonNodes nodes))] ++ sourceMember source
  | .declaration d => d.members
  | .comment c => c.members

theorem json_members (n : Node) : n.json = .object ((Decode.kindField, .string n.kindName) :: n.members) := by
  cases n <;> rfl

theorem jsonNodes_map (ns : List Node) : jsonNodes ns = ns.map json := by
  induction ns with
  | nil => rfl
  | cons n ns ih => rw [jsonNodes, ih, List.map_cons]

theorem kind_named (n : Node) : Decode.kindOfName n.kindName = .ok n.kind := by
  cases n <;> rfl

def Untagged (ms : List (String × Json)) : Prop := ∀ m ∈ ms, m.1 ≠ Decode.kindField

theorem untagged_source (own : Untagged ms) (o : Option Source) : Untagged (ms ++ sourceMember o) := by
  intro m member
  rcases List.mem_append.mp member with early | late
  · exact own m early
  · obtain ⟨o, -, rfl⟩ := Option.mem_map.mp (Option.mem_toList.mp late)
    exact (by decide : "source" ≠ Decode.kindField)

theorem members_untagged (n : Node) : Untagged n.members := by
  cases n with
  | rule => exact untagged_source (by simp [Untagged, Decode.kindField]) _
  | atRule => exact untagged_source (by simp [Untagged, Decode.kindField]) _
  | declaration d =>
    obtain ⟨prop, value, important, o⟩ := d
    cases important <;> exact untagged_source (by simp [Untagged, Decode.kindField]) _
  | comment => exact untagged_source (by simp [Untagged, Decode.kindField]) _

end Node

namespace Decode

-- Records

theorem draftRecord_filled (filled : Filled fields 0 init ms state) :
    draftRecord origin name fields init (.object (ms.map fun (k, d) => (.string k, d))) = .ok state :=
  Filled.ofMembers (fun _ => rfl) filled

theorem line_json (n : UInt32) : option word32 (.nat n.toNat) = .ok (some n) := option_reads nofun (word32_count n)

theorem source_json (origin : Origin) (s : Source) : source origin s.json = .ok s := by
  refine record_filled ?_
  obtain ⟨file, line⟩ := s
  have lines : ∀ file, Filled sourceFields 1 ⟨file, none⟩ (line.map fun n => ("line", Json.nat n.toNat)).toList
      ⟨file, line⟩ := by
    intro file
    cases line with
    | none => exact .absent rfl (by decide) (.all (by decide))
    | some n => exact .present rfl rfl (take_ok (line_json n) _) (.all (by decide))
  cases file with
  | none => exact .absent rfl (by decide) (lines none)
  | some f => exact .present rfl rfl rfl (lines (some f))

theorem option_source (origin : Origin) (s : Source) : option (source origin) s.json = .ok (some s) :=
  congrArg (Except.map some) (source_json origin s)

-- Every record but a source ends with the source it came from.
theorem filled_source {fields : List (Field Json σ)} (fill : σ → Option Source → σ)
    (here : fields[n]? = some ⟨["source"], .free, fun j s => do return fill s (← option (source origin) j)⟩)
    (named : Field.place? fields "source" = some n) (last : fields.length ≤ n + 1)
    (unset : fill s none = s) (o : Option Source) : Filled fields n s (sourceMember o) (fill s o) := by
  cases o with
  | none =>
    rw [unset]
    exact .absent here nofun (.all last)
  | some o => exact .present here named (take_ok (option_source origin o) (fill s)) (.all last)

theorem declaration_filled (origin : Origin) (d : Declaration) :
    Filled (declarationFields origin) 0 ⟨"", "", false, none⟩ d.members d := by
  obtain ⟨prop, value, important, o⟩ := d
  have rest : Filled (declarationFields origin) 3 ⟨prop, value, important, none⟩ (sourceMember o)
      ⟨prop, value, important, o⟩ :=
    filled_source (fun (r : Declaration) o => { r with source := o }) rfl rfl (Nat.le_refl _) rfl o
  refine .present rfl rfl rfl (.present rfl rfl rfl ?_)
  cases important with
  | false => exact .absent rfl (by decide) rest
  | true => exact .present rfl rfl rfl rest

theorem comment_filled (origin : Origin) (c : Comment) :
    Filled (commentFields origin) 0 ⟨"", "", none⟩ c.members c := by
  obtain ⟨text, before, o⟩ := c
  have rest : Filled (commentFields origin) 2 ⟨text, before, none⟩ (sourceMember o) ⟨text, before, o⟩ :=
    filled_source (fun (r : Comment) o => { r with source := o }) rfl rfl (Nat.le_refl _) rfl o
  exact .present rfl rfl rfl (.present rfl rfl rfl rest)

theorem rule_filled (origin : Origin) {below : Json → Except ReadError (List Node)} {selector : String}
    (children : below (.array (Node.jsonNodes cs)) = .ok cs) :
    Filled (ruleFields origin below) 0 ⟨"", [], none⟩ (Node.rule selector cs o).members ⟨selector, cs, o⟩ := by
  have rest : Filled (ruleFields origin below) 2 ⟨selector, cs, none⟩ (sourceMember o) ⟨selector, cs, o⟩ :=
    filled_source (fun (r : Rule) o => { r with source := o }) rfl rfl (Nat.le_refl _) rfl o
  exact .present rfl rfl rfl (.present rfl rfl (take_ok children _) rest)

theorem atRule_filled (origin : Origin) {below : Json → Except ReadError (List Node)} {name params : String}
    (children : below (.array (Node.jsonNodes cs)) = .ok cs) :
    Filled (atRuleFields origin below) 0 ⟨"", "", [], none⟩ (Node.atRule name params cs o).members
      ⟨name, params, cs, o⟩ := by
  have rest : Filled (atRuleFields origin below) 3 ⟨name, params, cs, none⟩ (sourceMember o) ⟨name, params, cs, o⟩ :=
    filled_source (fun (r : AtRule) o => { r with source := o }) rfl rfl (Nat.le_refl _) rfl o
  exact .present rfl rfl rfl (.present rfl rfl rfl (.present rfl rfl (take_ok children _) rest))

-- Nodes

theorem content_members {below : Json → Except ReadError (List Node)} (n : Node)
    (children : ∀ cs, n.children? = some cs → below (.array (Node.jsonNodes cs)) = .ok cs) :
    content below n.kind (.object n.members) = .ok n := by
  cases n with
  | rule selector cs o => exact congrArg (Except.map Rule.node) (record_filled (rule_filled .buffer (children cs rfl)))
  | atRule name params cs o =>
    exact congrArg (Except.map AtRule.node) (record_filled (atRule_filled .buffer (children cs rfl)))
  | declaration d => exact congrArg (Except.map Node.declaration) (record_filled (declaration_filled .buffer d))
  | comment c => exact congrArg (Except.map Node.comment) (record_filled (comment_filled .buffer c))

theorem splitMembers_untagged (kind : Kind) (untagged : Node.Untagged ms) (acc : List (String × Json)) :
    splitMembers (some kind) acc ms = .ok (kind, .object (acc.reverse ++ ms)) := by
  induction ms generalizing acc with
  | nil => rw [splitMembers, List.append_nil]
  | cons m ms ih =>
    obtain ⟨k, j⟩ := m
    have other : k ≠ kindField := untagged (k, j) List.mem_cons_self
    rw [splitMembers, if_neg other, ih fun m member => untagged m (List.mem_cons_of_mem _ member)]
    simp

theorem split_json (n : Node) : split n.json = .ok (n.kind, .object n.members) := by
  have named : kindOfJson (.string n.kindName) = .ok n.kind := n.kind_named
  have rest := splitMembers_untagged n.kind n.members_untagged []
  rw [n.json_members, split, splitMembers, if_pos rfl, named]
  exact rest

theorem readMembers_untagged (kind : Kind) (untagged : Node.Untagged ms) (shallow : nestingMembers ms ≤ depth)
    (acc : List (String × Json)) :
    readMembers depth (some kind) acc (Draft.ofMembers ms) = .ok (kind, .object (acc.reverse ++ ms)) := by
  induction ms generalizing acc with
  | nil => rw [Draft.ofMembers, readMembers, List.append_nil]
  | cons m ms ih =>
    obtain ⟨k, j⟩ := m
    have other : k ≠ kindField := untagged (k, j) List.mem_cons_self
    rw [nestingMembers] at shallow
    have key : Access.draft.key (.string k) = .ok k := rfl
    rw [Draft.ofMembers, readMembers, key]
    simp only [bind, Except.bind, if_neg other]
    rw [toJson_ofJson j (by omega)]
    have rest := ih (fun m member => untagged m (List.mem_cons_of_mem _ member)) (by omega) ((k, j) :: acc)
    rw [List.reverse_cons, List.append_assoc] at rest
    exact rest

theorem list_json {one : Json → Except ReadError Node} (each : ∀ n ∈ ns, one n.json = .ok n) :
    list one (.array (Node.jsonNodes ns)) = .ok ns := by
  rw [list, Node.jsonNodes_map]
  exact mapM_written each

theorem node_nesting {n : Node} (member : n ∈ ns) : n.json.nesting ≤ nestingItems (Node.jsonNodes ns) :=
  nesting_item (Node.jsonNodes_map ns ▸ List.mem_map_of_mem member)

theorem child_nesting {n : Node} (children : n.children? = some cs) (member : c ∈ cs) :
    c.json.nesting + 2 ≤ n.json.nesting := by
  have here : c.json.nesting ≤ nestingItems (Node.jsonNodes cs) := node_nesting member
  have kept : ("nodes", Json.array (Node.jsonNodes cs)) ∈ n.members := by
    cases n <;> cases children <;> simp [Node.members]
  have held := nesting_member (List.mem_cons_of_mem (kindField, .string n.kindName) kept)
  rw [n.json_members, nesting]
  rw [nesting] at held
  omega

theorem content_below {one : Json → Except ReadError Node} (n : Node)
    (each : ∀ c : Node, c.json.nesting + 2 ≤ n.json.nesting → one c.json = .ok c) :
    content (list one) n.kind (.object n.members) = .ok n :=
  content_members n fun _ children => list_json fun c member => each c (child_nesting children member)

theorem heldNode_json (depth : Nat) (n : Node) (shallow : n.json.nesting ≤ depth) : heldNode depth n.json = .ok n := by
  induction depth generalizing n with
  | zero =>
    rw [n.json_members, nesting] at shallow
    omega
  | succ depth ih =>
    rw [heldNode, split_json]
    exact content_below n fun c deeper => ih c (by omega)

theorem read_json (n : Node) (shallow : n.json.nesting ≤ depth + 1) :
    Decode.read depth (.ofJson n.json) = .ok (n.kind, .object n.members) := by
  rw [n.json_members, nesting, nestingMembers] at shallow
  have named : kindOfDraft (.string n.kindName) = .ok n.kind := n.kind_named
  have key : Access.draft.key (.string kindField) = .ok kindField := rfl
  have rest := readMembers_untagged n.kind n.members_untagged (show nestingMembers n.members ≤ depth by omega) []
  rw [n.json_members, Draft.ofJson, Draft.ofMembers, Draft.ofJson, Decode.read, Decode.readMembers, key]
  simp only [bind, Except.bind, if_true, named]
  exact rest

-- Below the outermost nodes of a text all else is held in full.
theorem node_json (within : depth ≤ maxDepth) (n : Node) (shallow : n.json.nesting ≤ depth) :
    node depth (.ofJson n.json) = .ok n := by
  cases depth with
  | zero =>
    rw [n.json_members, nesting] at shallow
    omega
  | succ depth =>
    have whole : content (list (heldNode maxDepth)) n.kind (.object n.members) = .ok n :=
      content_below n fun c deeper => heldNode_json maxDepth c (by omega)
    rw [node, Nat.add_sub_cancel, read_json n shallow]
    · exact whole
    · nofun
    · nofun

theorem ofItems_map (items : List Json) : Draft.ofItems items = items.map Draft.ofJson := by
  induction items with
  | nil => rfl
  | cons j items ih => rw [Draft.ofItems, ih, List.map_cons]

theorem nodes_json (within : depth ≤ maxDepth) (ns : List Node) (shallow : nestingItems (Node.jsonNodes ns) ≤ depth) :
    nodes (depth + 1) (.ofJson (.array (Node.jsonNodes ns))) = .ok ns := by
  rw [Draft.ofJson, nodes, ofItems_map, Node.jsonNodes_map, List.map_map]
  exact mapM_written fun n member => node_json within n (Nat.le_trans (node_nesting member) shallow)

theorem sheet_filled (s : Sheet) (shallow : nestingItems (Node.jsonNodes s.nodes) + 2 ≤ maxDepth) :
    Filled (sheetFields (maxDepth - 1)) 0 ⟨none, []⟩
      ((s.file.map fun f => ("sourceFile", Draft.string f)).toList ++
        [("nodes", Draft.ofJson (.array (Node.jsonNodes s.nodes)))]) s := by
  obtain ⟨file, ns⟩ := s
  have read : nodes (maxDepth - 1) (.ofJson (.array (Node.jsonNodes ns))) = .ok ns :=
    nodes_json (show 125 ≤ maxDepth by decide) ns (Nat.le_of_add_le_add_right shallow)
  have rest : Filled (sheetFields (maxDepth - 1)) 1 ⟨file, []⟩ [("nodes", Draft.ofJson (.array (Node.jsonNodes ns)))]
      ⟨file, ns⟩ := .present rfl rfl (take_ok read _) (.all (Nat.le_refl _))
  cases file with
  | none => exact .absent rfl nofun rest
  | some f => exact .present rfl rfl rfl rest

theorem sheet_json (origin : Origin) (s : Sheet) (shallow : s.json.nesting ≤ maxDepth) :
    sheet origin (.ofJson s.json) = .ok s := by
  have held := nesting_member (List.mem_append_right (s.file.map fun f => ("sourceFile", Json.string f)).toList
    (List.mem_singleton_self ("nodes", Json.array (Node.jsonNodes s.nodes))))
  rw [nesting] at held
  rw [Sheet.json, nesting] at shallow
  have draft : Draft.ofJson s.json = .object (((s.file.map fun f => ("sourceFile", Draft.string f)).toList ++
      [("nodes", Draft.ofJson (.array (Node.jsonNodes s.nodes)))]).map fun (k, d) => (Draft.string k, d)) := by
    obtain ⟨file, ns⟩ := s
    cases file <;> rfl
  rw [draft]
  exact draftRecord_filled (sheet_filled s (by omega))

end Decode

-- Whole texts

theorem optional_counts {f : α → String × Json} (o : Option α) (each : ∀ a, Counts (f a).2) :
    ∀ m ∈ (o.map f).toList, Counts m.2 := by
  intro m member
  obtain ⟨a, -, rfl⟩ := Option.mem_map.mp (Option.mem_toList.mp member)
  exact each a

theorem source_counts (o : Option Source) : ∀ m ∈ sourceMember o, Counts m.2 := by
  refine optional_counts o fun s => .object (List.forall_mem_append.mpr ⟨optional_counts s.file fun _ => .string, ?_⟩)
  refine optional_counts s.line fun n => .number ?_
  exact Nat.lt_of_lt_of_le n.toNat_lt (by decide)

mutual
theorem node_counts : (n : Node) → Counts n.json
  | .rule _ ns o => .object (List.forall_mem_append.mpr
      ⟨by simpa [Counts.string] using Counts.array (nodes_counts ns), source_counts o⟩)
  | .atRule _ _ ns o => .object (List.forall_mem_append.mpr
      ⟨by simpa [Counts.string] using Counts.array (nodes_counts ns), source_counts o⟩)
  | .declaration d => by
    refine .object (List.forall_mem_cons.mpr ⟨.string, List.forall_mem_append.mpr ⟨?_, source_counts d.source⟩⟩)
    cases d.important <;> simp [Counts.string, Counts.bool]
  | .comment c => .object (List.forall_mem_cons.mpr
      ⟨.string, List.forall_mem_append.mpr ⟨by simp [Counts.string], source_counts c.source⟩⟩)

theorem nodes_counts : (ns : List Node) → ∀ j ∈ Node.jsonNodes ns, Counts j
  | [] => by simp [Node.jsonNodes]
  | n :: ns => List.forall_mem_cons.mpr ⟨node_counts n, nodes_counts ns⟩
end

theorem sheet_counts (s : Sheet) : Counts s.json :=
  .object (List.forall_mem_append.mpr
    ⟨optional_counts s.file fun _ => .string, List.forall_mem_singleton.mpr (.array (nodes_counts s.nodes))⟩)

namespace Sheet

theorem ofText_style (s : Sheet) (shallow : s.json.nesting ≤ maxDepth) (style : Style) :
    ofText (String.ofList (s.json.write style 0)) = .ok s := by
  have page := ofText_write (sheet_counts s) style
  rw [ofText, page]
  simp only [Decode.sheet_json .text s shallow, bind, Except.bind]
  rfl

-- However it is written, a sheet comes back as the same tree.
theorem ofText_json (s : Sheet) (shallow : s.json.nesting ≤ 127) :
    ofText s.json.compact = .ok s ∧ ofText s.json.pretty = .ok s :=
  ⟨ofText_style s shallow .compact, ofText_style s shallow .pretty⟩

theorem ofText_json_varied :
    let s : Sheet := ⟨some "", [
      .atRule "media" "" [
        .rule "a::before" [
          .declaration ⟨"content", "\"\\201c\"", true, some ⟨none, none⟩⟩,
          .comment ⟨"\t\x01", "\n", some ⟨some "a.css", some 4294967295⟩⟩] none] (some ⟨none, some 0⟩)]⟩
    s.json.nesting = 8 ∧ ofText s.json.compact = .ok s ∧ ofText s.json.pretty = .ok s := by
  intro s
  have depth : s.json.nesting = 8 := by decide +kernel
  exact ⟨depth, ofText_json s (by omega)⟩

end Sheet
end FluidSheet
