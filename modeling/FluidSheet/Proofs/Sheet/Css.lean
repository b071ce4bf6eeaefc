import Mathlib
import FluidSheet.Sheet.Css

namespace FluidSheet.Css

def newline (depth : Nat) : List Char := '\n' :: indent depth

def indented (depth : Nat) (cs : List Char) : List Char := cs.flatMap fun c => if c = '\n' then newline depth else [c]

-- What comes before a node that is not the first.
def parting : Node → List Char
  | .comment c => if '\n' ∈ c.before.toList then ['\n'] else [' ']
  | _ => ['\n']

def joined : List Node → List Char
  | [] => []
  | n :: rest => n.css.toList ++ rest.flatMap fun m => parting m ++ m.css.toList

mutual
def texts : Node → List (List Char)
  | .rule selector nodes _ => selector.toList :: textsAmong nodes
  | .atRule name params nodes _ => name.toList :: params.toList :: textsAmong nodes
  | .declaration d => [d.prop.toList, d.value.toList]
  | .comment c => [(Text.trim c.text).toList]

def textsAmong : List Node → List (List Char)
  | [] => []
  | n :: rest => texts n ++ textsAmong rest
end

def Unbroken (n : Node) : Prop := ∀ t ∈ texts n, '\n' ∉ t

instance (n : Node) : Decidable (Unbroken n) := inferInstanceAs (Decidable (∀ t ∈ texts n, '\n' ∉ t))

-- Lines below others; or the first of them goes on where the last of the others ends.
def below (goesOn : Bool) : (above lines : List (List Char)) → List (List Char)
  | [], lines => lines
  | [l], lines => if goesOn then (l ++ ' ' :: lines.headD []) :: lines.tail else l :: lines
  | l :: l' :: above, lines => l :: below goesOn (l' :: above) lines

-- A line break inside a text of the sheet does not make a line.
mutual
def linesOf : Node → List (List Char)
  | .rule selector nodes _ => (selector.toList ++ " \x7b".toList) :: (linesAmong nodes).map (indent 1 ++ ·) ++ [['}']]
  | .atRule name params nodes _ =>
    match nodes with
    | [] => [atRuleHead name params ++ [';']]
    | n :: rest =>
      (atRuleHead name params ++ " \x7b".toList) :: (linesAmong (n :: rest)).map (indent 1 ++ ·) ++ [['}']]
  | .declaration d => [ofDeclaration d]
  | .comment c => [ofComment c]

def linesAmong : List Node → List (List Char)
  | [] => []
  | n :: rest => linesBehind (linesOf n) rest

def linesBehind (above : List (List Char)) : List Node → List (List Char)
  | [] => above
  | n :: rest => linesBehind (below (continues n) above (linesOf n)) rest
end

def unlines (lines : List (List Char)) : List Char := ['\n'].intercalate lines

theorem parting_continues (n : Node) : parting n = if continues n then [' '] else ['\n'] := by
  cases n with
  | rule | atRule | declaration => rfl
  | comment c => by_cases broken : '\n' ∈ c.before.toList <;> simp [parting, continues, Comment.sameLine, broken]

theorem textsAmong_flatMap (nodes : List Node) : textsAmong nodes = nodes.flatMap texts := by
  induction nodes with
  | nil => rfl
  | cons n rest ih => rw [textsAmong, ih, List.flatMap_cons]

theorem below_nonempty (above : List (List Char)) (some : lines ≠ []) : below goesOn above lines ≠ [] := by
  fun_cases below goesOn above lines <;> simp [some]

theorem linesOf_nonempty (n : Node) : linesOf n ≠ [] := by
  cases n with
  | rule | declaration | comment => simp [linesOf]
  | atRule name params nodes source => cases nodes <;> simp [linesOf]

theorem linesBehind_nonempty (some : above ≠ []) (nodes : List Node) : linesBehind above nodes ≠ [] := by
  induction nodes generalizing above with
  | nil => exact some
  | cons n rest ih => exact ih (below_nonempty above (linesOf_nonempty n))

theorem below_intercalate (sep : List Char) (above : List (List Char)) (first : above ≠ []) (later : lines ≠ []) :
    sep.intercalate (below goesOn above lines) =
      sep.intercalate above ++ (if goesOn then [' '] else sep) ++ sep.intercalate lines := by
  induction above with
  | nil => exact absurd rfl first
  | cons l above ih =>
    cases above with
    | nil =>
      obtain ⟨l', lines, rfl⟩ := List.exists_cons_of_ne_nil later
      cases goesOn with
      | true => cases lines <;> simp [below, List.intercalate_cons_cons]
      | false => simp [below, List.intercalate_cons_cons]
    | cons l' above =>
      rw [below, List.intercalate_cons_of_ne_nil (below_nonempty _ later), ih (by simp), List.intercalate_cons_cons]
      simp

theorem indent_intercalate (pad sep : List Char) (some : lines ≠ []) :
    pad ++ (sep ++ pad).intercalate lines = sep.intercalate (lines.map (pad ++ ·)) := by
  induction lines with
  | nil => exact absurd rfl some
  | cons l lines ih =>
    cases lines with
    | nil => simp
    | cons l' lines =>
      have later := ih (by simp)
      rw [List.map_cons] at later
      rw [List.intercalate_cons_cons, List.map_cons, List.map_cons, List.intercalate_cons_cons, ← later]
      simp

theorem newline_deeper (depth : Nat) : newline (depth + 1) = newline depth ++ indent 1 := by
  rw [newline, newline, indent, indent, indent, List.cons_append, ← List.replicate_add]
  rfl

theorem below_append (above lines : List (List Char)) : below false above lines = above ++ lines := by
  fun_induction below false above lines with
  | case1 => rfl
  | case2 l lines impossible => cases impossible
  | case3 => rfl
  | case4 l l' above lines ih =>
    rw [ih]
    rfl

-- A block: the line it opens with, the lines inside moved in, and the closing brace.
theorem block_intercalate (depth : Nat) (head : List Char) (some : lines ≠ []) :
    (newline depth).intercalate (head :: lines.map (indent 1 ++ ·) ++ [['}']]) =
      head ++ newline (depth + 1) ++ (newline (depth + 1)).intercalate lines ++ newline depth ++ ['}'] := by
  have inside : lines.map (indent 1 ++ ·) ≠ [] := by simpa using some
  rw [List.cons_append, List.intercalate_cons_of_ne_nil (by simp), ← below_append,
    below_intercalate _ _ inside (by simp), ← indent_intercalate _ _ some, ← newline_deeper]
  simp [newline_deeper]

mutual
theorem ofNode_lines (depth : Nat) : ∀ n : Node, ofNode depth n = (newline depth).intercalate (linesOf n)
  | .rule selector nodes _ => by
    rw [ofNode, linesOf]
    exact ofBody_lines depth (selector.toList ++ " \x7b".toList) nodes
  | .atRule name params [] _ => by simp [ofNode, linesOf]
  | .atRule name params (n :: rest) _ => by
    rw [ofNode, linesOf]
    exact ofBody_lines depth (atRuleHead name params ++ " \x7b".toList) (n :: rest)
  | .declaration d => by simp [ofNode, linesOf]
  | .comment c => by simp [ofNode, linesOf]

theorem ofBody_lines (depth : Nat) (head : List Char) : ∀ nodes : List Node,
    head ++ ofBody depth nodes =
      (newline depth).intercalate (head :: (linesAmong nodes).map (indent 1 ++ ·) ++ [['}']])
  | [] => by simp [ofBody, linesAmong, newline, List.intercalate_cons_cons]
  | n :: rest => by
    rw [linesAmong, block_intercalate depth head (linesBehind_nonempty (linesOf_nonempty n) rest),
      ← ofRest_lines (depth + 1) (linesOf n) (linesOf_nonempty n) rest, ← ofNode_lines (depth + 1) n]
    simp [ofBody, newline]

theorem ofRest_lines (depth : Nat) (above : List (List Char)) (first : above ≠ []) : ∀ rest : List Node,
    (newline depth).intercalate above ++ ofRest depth rest = (newline depth).intercalate (linesBehind above rest)
  | [] => by rw [ofRest, linesBehind, List.append_nil]
  | n :: rest => by
    have lines := linesOf_nonempty n
    rw [linesBehind, ← ofRest_lines depth _ (below_nonempty above lines) rest, below_intercalate _ above first lines,
      ← ofNode_lines depth n, ofRest, newline]
    simp
end

def Whole (lines : List (List Char)) : Prop := ∀ l ∈ lines, '\n' ∉ l

theorem whole_cons : Whole (l :: lines) ↔ '\n' ∉ l ∧ Whole lines := List.forall_mem_cons

theorem below_whole (above lines : List (List Char)) (first : Whole above) (later : Whole lines) :
    Whole (below goesOn above lines) := by
  induction above with
  | nil => exact later
  | cons l above ih =>
    obtain ⟨here, first⟩ := whole_cons.mp first
    cases above with
    | nil =>
      cases goesOn with
      | false => exact whole_cons.mpr ⟨here, later⟩
      | true =>
        cases lines with
        | nil => exact whole_cons.mpr ⟨by simpa using here, later⟩
        | cons l' lines =>
          obtain ⟨there, later⟩ := whole_cons.mp later
          exact whole_cons.mpr ⟨by simp [here, there], later⟩
    | cons l' above => exact whole_cons.mpr ⟨here, ih first⟩

theorem block_whole (opens : '\n' ∉ head) (inside : Whole lines) :
    Whole ((head ++ " \x7b".toList) :: lines.map (indent 1 ++ ·) ++ [['}']]) := by
  intro l member
  rw [List.cons_append, List.mem_cons, List.mem_append, List.mem_map] at member
  rcases member with rfl | ⟨l, member, rfl⟩ | brace
  · simpa using opens
  · simp [indent, inside l member]
  · cases List.mem_singleton.mp brace
    decide

theorem atRuleHead_whole {name params : String} (named : '\n' ∉ name.toList) (told : '\n' ∉ params.toList) :
    '\n' ∉ atRuleHead name params := by
  unfold atRuleHead
  split_ifs <;> simp [named, told]

theorem children_unbroken {nodes : List Node} (unbroken : ∀ t ∈ textsAmong nodes, '\n' ∉ t) :
    ∀ n ∈ nodes, Unbroken n := by
  intro n member t among
  rw [textsAmong_flatMap] at unbroken
  exact unbroken t (List.mem_flatMap.mpr ⟨n, member, among⟩)

mutual
theorem linesOf_whole : ∀ n : Node, Unbroken n → Whole (linesOf n)
  | .rule selector nodes _, unbroken => by
    obtain ⟨here, among⟩ := List.forall_mem_cons.mp unbroken
    rw [linesOf]
    exact block_whole here (linesAmong_whole nodes (children_unbroken among))
  | .atRule name params [] _, unbroken => by
    obtain ⟨named, told⟩ := List.forall_mem_cons.mp unbroken
    have head := atRuleHead_whole named (told _ List.mem_cons_self)
    simpa [linesOf, Whole] using head
  | .atRule name params (n :: rest) _, unbroken => by
    obtain ⟨named, told⟩ := List.forall_mem_cons.mp unbroken
    obtain ⟨told, among⟩ := List.forall_mem_cons.mp told
    rw [linesOf]
    exact block_whole (atRuleHead_whole named told) (linesAmong_whole (n :: rest) (children_unbroken among))
  | .declaration d, unbroken => by
    have prop : '\n' ∉ d.prop.toList := unbroken _ List.mem_cons_self
    have value : '\n' ∉ d.value.toList := unbroken _ (List.mem_cons_of_mem _ List.mem_cons_self)
    rw [linesOf, Whole, List.forall_mem_singleton, ofDeclaration]
    split_ifs <;> simp [prop, value]
  | .comment c, unbroken => by
    have text : '\n' ∉ (Text.trim c.text).toList := unbroken _ List.mem_cons_self
    rw [Text.trim, String.toList_ofList] at text
    rw [linesOf, Whole, List.forall_mem_singleton, ofComment]
    simp [text]

theorem linesAmong_whole : ∀ nodes : List Node, (∀ n ∈ nodes, Unbroken n) → Whole (linesAmong nodes)
  | [], _ => nofun
  | n :: rest, unbroken => by
    obtain ⟨here, later⟩ := List.forall_mem_cons.mp unbroken
    exact linesBehind_whole (linesOf n) (linesOf_whole n here) rest later

theorem linesBehind_whole (above : List (List Char)) (first : Whole above) :
    ∀ nodes : List Node, (∀ n ∈ nodes, Unbroken n) → Whole (linesBehind above nodes)
  | [], _ => first
  | n :: rest, unbroken => by
    obtain ⟨here, later⟩ := List.forall_mem_cons.mp unbroken
    exact linesBehind_whole _ (below_whole above (linesOf n) first (linesOf_whole n here)) rest later
end

theorem indented_append (depth : Nat) (as bs : List Char) :
    indented depth (as ++ bs) = indented depth as ++ indented depth bs := List.flatMap_append

theorem indented_plain (depth : Nat) (plain : '\n' ∉ l) : indented depth l = l := by
  have each : ∀ c ∈ l, (if c = '\n' then newline depth else [c]) = [c] := by
    intro c member
    refine if_neg ?_
    rintro rfl
    exact plain member
  rw [indented, List.flatMap_congr each]
  exact List.flatMap_singleton' l

-- Where no line holds a line break, those of the text are those between the lines.
theorem indented_unlines (depth : Nat) (whole : Whole lines) :
    indented depth (unlines lines) = (newline depth).intercalate lines := by
  induction lines with
  | nil => rfl
  | cons l lines ih =>
    obtain ⟨here, later⟩ := whole_cons.mp whole
    cases lines with
    | nil =>
      rw [unlines, List.intercalate_singleton, List.intercalate_singleton]
      exact indented_plain depth here
    | cons l' lines =>
      have broken : indented depth ['\n'] = newline depth := List.append_nil _
      rw [unlines] at ih ⊢
      rw [List.intercalate_cons_cons, List.intercalate_cons_cons, indented_append, indented_append,
        indented_plain depth here, broken, ih later]

theorem node_unlines (n : Node) : n.css.toList = unlines (linesOf n) := by
  rw [Node.css, String.toList_ofList, ofNode_lines]
  rfl

theorem joined_rest (nodes : List Node) :
    ofRest 0 nodes = nodes.flatMap fun m => parting m ++ m.css.toList := by
  induction nodes with
  | nil => rfl
  | cons n rest ih =>
    rw [List.flatMap_cons, ← ih, ofRest, parting_continues, Node.css, String.toList_ofList]
    rfl

theorem joined_unlines (nodes : List Node) : joined nodes = unlines (linesAmong nodes) := by
  cases nodes with
  | nil => rfl
  | cons n rest =>
    rw [joined, ← joined_rest, node_unlines, linesAmong]
    exact ofRest_lines 0 (linesOf n) (linesOf_nonempty n) rest

-- A block is its head, the lines of its children moved in by two blanks, and the brace.
theorem css_composes :
    (∀ n depth, Unbroken n → ofNode depth n = indented depth n.css.toList) ∧
    (∀ file nodes, (Sheet.mk file nodes).css.toList = joined nodes ++ if nodes = [] then [] else ['\n']) ∧
    (∀ nodes, joined nodes = unlines (linesAmong nodes)) ∧
    (∀ selector nodes source, (Node.rule selector nodes source).css.toList =
      unlines ((selector.toList ++ " \x7b".toList) :: (linesAmong nodes).map ("  ".toList ++ ·) ++ ["\x7d".toList])) ∧
    (∀ name params nodes source, nodes ≠ [] → (Node.atRule name params nodes source).css.toList =
      unlines ((atRuleHead name params ++ " \x7b".toList) :: (linesAmong nodes).map ("  ".toList ++ ·) ++ ["\x7d".toList])) ∧
    ∀ nodes, nodes ≠ [] → (∀ n ∈ nodes, Unbroken n) → linesAmong nodes = (joined nodes).splitOn '\n' := by
  refine ⟨?_, ?_, joined_unlines, ?_, ?_, ?_⟩
  · intro n depth unbroken
    rw [node_unlines, indented_unlines depth (linesOf_whole n unbroken), ofNode_lines]
  · intro file nodes
    rw [Sheet.css, String.toList_ofList]
    cases nodes with
    | nil => rfl
    | cons n rest =>
      rw [ofSheet, joined_rest, joined, Node.css, String.toList_ofList]
      rfl
  · intro selector nodes source
    rw [node_unlines, linesOf]
    rfl
  · intro name params nodes source some
    obtain ⟨n, rest, rfl⟩ := List.exists_cons_of_ne_nil some
    rw [node_unlines, linesOf]
    rfl
  · intro nodes some unbroken
    obtain ⟨n, rest, rfl⟩ := List.exists_cons_of_ne_nil some
    rw [joined_unlines, unlines, List.splitOn_intercalate '\n' (linesAmong_whole _ unbroken)
      (linesBehind_nonempty (linesOf_nonempty n) rest)]

theorem css_composes_nested :
    let rule : Node := .rule ".a" [.declaration (.of "top" "1px"), .comment (.behind "note"), .comment (.ownLine "more")] none
    let n : Node := .atRule "media" "print" [rule] none
    (Unbroken n ∧ ofNode 1 n = "@media print \x7b\n    .a \x7b\n      top: 1px; /* note */\n      /* more */\n    \x7d\n  \x7d".toList) ∧
    ([rule] ≠ [] ∧ n.css.toList = "@media print \x7b\n  .a \x7b\n    top: 1px; /* note */\n    /* more */\n  \x7d\n\x7d".toList) ∧
    (∀ n ∈ [rule], Unbroken n) ∧ linesAmong [rule] = (joined [rule]).splitOn '\n' := by
  intro rule n
  obtain ⟨moved, -, -, -, block, lines⟩ := css_composes
  have unbroken : ∀ n ∈ [rule], Unbroken n := by decide
  refine ⟨⟨by decide, (moved n 1 (by decide)).trans (by decide +kernel)⟩, ⟨by simp, ?_⟩, unbroken, lines [rule] (by simp) unbroken⟩
  exact (block "media" "print" [rule] none (by simp)).trans (by decide +kernel)

end FluidSheet.Css
