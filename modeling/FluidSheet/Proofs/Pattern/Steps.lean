import FluidSheet.Pattern.Reader
import FluidSheet.Proofs.Pattern.Ways

namespace FluidSheet.Pattern

structure Reading where
  scope : Scope
  branches : List Term
  terms : List Term
  rest : List Char

def Reading.result (r : Reading) (inGroup : Bool) (fuel : Nat) : Option (Term × Scope × List Char) :=
  read fuel inGroup r.scope r.branches r.terms r.rest

-- More steps than there is text left are enough at either place.
def Goes (inGroup : Bool) (r s : Reading) : Prop :=
  ∀ fuel, r.rest.length < fuel → ∃ left, s.rest.length < left ∧ r.result inGroup fuel = s.result inGroup left

namespace Goes
variable {r s t : Reading}

theorem refl (r : Reading) : Goes inGroup r r := fun fuel enough => ⟨fuel, enough, rfl⟩

theorem trans (first : Goes inGroup r s) (second : Goes inGroup s t) : Goes inGroup r t := by
  intro fuel enough
  obtain ⟨left, enough, same⟩ := first fuel enough
  obtain ⟨left', enough', same'⟩ := second left enough
  exact ⟨left', enough', same.trans same'⟩

theorem step (shorter : s.rest.length < r.rest.length)
    (same : ∀ left, r.result inGroup (left + 1) = s.result inGroup left) : Goes inGroup r s := by
  intro fuel enough
  cases fuel with
  | zero => cases enough
  | succ left => exact ⟨left, by omega, same left⟩

end Goes

namespace Term

def ofSet (set : CharSet) (height : Nat) : Term := ⟨.set set, Form.ofSet set, height, true⟩

def ofChar (c : Char) : Term := ofSet (.char c) 0

def grouped (t : Term) (index : Option Nat) : Term := ⟨t.pattern, t.form.grouped index, t.height + 1, true⟩

end Term

variable {t : Term} {bs ts bs' ts' : List Term} {rest body inside : List Char}

def active : List Char := ['\\', '.', '+', '*', '?', '(', ')', '|', '[', '{', '^', '$']

-- Some of them are active in brackets or verbose patterns only.
def marks : List Char :=
  ['\\', '.', '+', '*', '?', '(', ')', '|', '[', ']', '{', '}', '^', '$', '#', '&', '-', '~']

theorem active_marks : active ⊆ marks := by simp [active, marks]

def escapeChar (c : Char) : List Char := if c ∈ marks then ['\\', c] else [c]

def escape (text : List Char) : List Char := text.flatMap escapeChar

theorem escape_cons (c : Char) (text : List Char) : escape (c :: text) = escapeChar c ++ escape text := rfl

theorem goes_plain (plain : c ∉ active) :
    Goes inGroup ⟨⟨.standard, names, groups⟩, bs, ts, c :: rest⟩ ⟨⟨.standard, names, groups⟩, bs, .ofChar c :: ts, rest⟩ := by
  apply Goes.step
  · simp
  · intro left
    simp only [active, List.mem_cons, List.not_mem_nil, or_false, not_or] at plain
    simp [Reading.result, read, Mode.skip, Mode.standard, primitive?, ofEscape?, Mode.fold, plain]
    rfl

theorem goes_escaped (mark : c ∈ marks) :
    Goes inGroup ⟨⟨.standard, names, groups⟩, bs, ts, '\\' :: c :: rest⟩
      ⟨⟨.standard, names, groups⟩, bs, .ofChar c :: ts, rest⟩ := by
  apply Goes.step
  · simp
  · intro left
    simp only [marks, List.mem_cons, List.not_mem_nil, or_false] at mark
    rcases mark with rfl | rfl | rfl | rfl | rfl | rfl | rfl | rfl | rfl | rfl | rfl | rfl | rfl | rfl | rfl | rfl | rfl | rfl
    all_goals rfl

theorem goes_escape (text : List Char) :
    Goes inGroup ⟨⟨.standard, names, groups⟩, bs, ts, escape text ++ rest⟩
      ⟨⟨.standard, names, groups⟩, bs, (text.map Term.ofChar).reverse ++ ts, rest⟩ := by
  induction text generalizing ts with
  | nil => exact .refl _
  | cons c text ih =>
    rw [escape_cons, List.append_assoc, List.map_cons, List.reverse_cons, List.append_assoc]
    refine Goes.trans ?_ ih
    unfold escapeChar
    split
    · rename_i mark
      exact goes_escaped mark
    · rename_i plain
      exact goes_plain fun mark => plain (active_marks mark)

-- It does not turn around how a repetition before it is preferred.
theorem escape_head (c : Char) (text : List Char) : (escape (c :: text) ++ rest).head? ≠ some '?' := by
  rw [escape_cons]
  unfold escapeChar
  split
  · simp
  · rename_i plain
    rintro ⟨rfl⟩
    exact plain (by decide)

theorem goes_bar (bs ts : List Term) (rest : List Char) :
    Goes inGroup ⟨⟨.standard, names, groups⟩, bs, ts, '|' :: rest⟩
      ⟨⟨.standard, names, groups⟩, inSequence ts :: bs, [], rest⟩ :=
  .step (by simp) fun _ => rfl

theorem goes_boundary (bs ts : List Term) :
    Goes inGroup ⟨⟨.standard, names, groups⟩, bs, ts, ['\\', 'b']⟩
      ⟨⟨.standard, names, groups⟩, bs, single (.check (.boundary false false)) :: ts, []⟩ :=
  .step (by simp) fun _ => rfl

theorem goes_bracket (shorter : rest.length < body.length)
    (bracket : Bracket.read (2 * body.length + 2) .standard body = some (s, rest)) :
    Goes inGroup ⟨⟨.standard, names, groups⟩, bs, ts, '[' :: body⟩
      ⟨⟨.standard, names, groups⟩, bs, .ofSet s.set s.height :: ts, rest⟩ := by
  apply Goes.step
  · simp
    omega
  · intro left
    simp only [Reading.result, read, Mode.skip, Mode.standard] at bracket ⊢
    simp [bracket]
    rfl

theorem goes_other (ordinary : c ∉ ['\\', '[', ']', '-', '&', '~']) (bs ts : List Term) (rest : List Char) :
    Goes inGroup ⟨⟨.standard, names, groups⟩, bs, ts, '[' :: '^' :: c :: ']' :: rest⟩
      ⟨⟨.standard, names, groups⟩, bs, .ofSet (.complement (.char c)) 1 :: ts, rest⟩ := by
  have bracket : ∀ n, Bracket.read (n + 3) .standard ('^' :: c :: ']' :: rest) = some (⟨.complement (.char c), 1⟩, rest) := by
    intro n
    simp only [List.mem_cons, List.not_mem_nil, or_false, not_or] at ordinary
    simp [Bracket.read, Bracket.readItems, Mode.skip, Mode.standard, Bracket.element?, Bracket.item?, Bracket.single?,
      Bracket.allowed, ordinary, Mode.negate?, Bracket.combine, Bracket.union, Mode.fold]
  exact goes_bracket (s := ⟨.complement (.char c), 1⟩) (by simp; omega) (bracket (2 * rest.length + 5))

def repeats : List (Char × Nat × Option Nat) := [('?', 0, some 1), ('*', 0, none), ('+', 1, none)]

theorem goes_again (least : Nat) (most : Option Nat) (mark : (c, least, most) ∈ repeats) (repeatable : t.repeatable = true)
    (greedy : rest.head? ≠ some '?') :
    Goes inGroup ⟨⟨.standard, names, groups⟩, bs, t :: ts, c :: rest⟩
      ⟨⟨.standard, names, groups⟩, bs, t.again least most false :: ts, rest⟩ := by
  have once : again? .standard least most (t :: ts) rest = some (t.again least most false :: ts, rest) := by
    unfold again?
    split
    rename_i here
    split at here
    · exact absurd rfl greedy
    · cases here
      simp [repeatable, Mode.standard]
  apply Goes.step
  · simp
  · intro left
    simp only [repeats, List.mem_cons, List.not_mem_nil, or_false, Prod.mk.injEq] at mark
    rcases mark with ⟨rfl, rfl, rfl⟩ | ⟨rfl, rfl, rfl⟩ | ⟨rfl, rfl, rfl⟩
    all_goals exact congrArg (Option.bind · _) once

theorem goes_group (opens : opening? ⟨.standard, names, groups⟩ body = some (.group index ⟨.standard, names', groups'⟩ inside))
    (within : inside.length ≤ body.length ∧ rest.length < inside.length)
    (inner : Goes true ⟨⟨.standard, names', groups'⟩, [], [], inside⟩
      ⟨⟨.standard, names'', groups''⟩, bs', ts', ')' :: rest⟩) :
    Goes inGroup ⟨⟨.standard, names, groups⟩, bs, ts, '(' :: body⟩
      ⟨⟨.standard, names'', groups''⟩, bs, (inChoice (inSequence ts' :: bs')).grouped index :: ts, rest⟩ := by
  intro fuel enough
  cases fuel with
  | zero => cases enough
  | succ left =>
    simp only [List.length_cons] at enough
    obtain ⟨left', enough', same⟩ := inner left (by simp; omega)
    cases left' with
    | zero => cases enough'
    | succ left' =>
      have closed : read left true ⟨.standard, names', groups'⟩ [] [] inside =
          some (inChoice (inSequence ts' :: bs'), ⟨.standard, names'', groups''⟩, rest) := same
      refine ⟨left, by simp; omega, ?_⟩
      simp only [Reading.result, read, Mode.skip, Mode.standard] at opens closed ⊢
      simp [opens, closed]
      rfl

def ReadsAs (text : List Char) (p : Pattern) : Prop :=
  ∃ t scope, read (text.length + 1) false ⟨.standard, [], 0⟩ [] [] text = some (t, scope, []) ∧ t.pattern = p

theorem goes_readsAs (goes : Goes false ⟨⟨.standard, [], 0⟩, [], [], text⟩ ⟨scope, bs, ts, []⟩)
    (standard : scope.mode = .standard) : ReadsAs text (inChoice (inSequence ts :: bs)).pattern := by
  obtain ⟨left, enough, same⟩ := goes _ (Nat.lt_succ_self _)
  cases left with
  | zero => cases enough
  | succ left =>
    have finished : (⟨scope, bs, ts, []⟩ : Reading).result false (left + 1) =
        some (inChoice (inSequence ts :: bs), scope, []) := by
      simp [Reading.result, read, standard, Mode.skip, Mode.standard]
    exact ⟨_, scope, same.trans finished, rfl⟩

-- Patterns that are read from options are read in this way; they may be too large for it.
theorem ofText_readsAs (given : ofText? s = some p) (reads : ReadsAs s.toList q) : p = q := by
  obtain ⟨t, scope, found, rfl⟩ := reads
  rw [String.length_toList] at found
  unfold ofText? at given
  rw [found, Option.bind_eq_bind, Option.bind_some] at given
  dsimp only at given
  split at given
  · exact (Option.some.inj given).symm
  · cases given

theorem again_pattern (takes : Form.isEmptyOnly t.form = false) (least : Nat) (most : Option Nat) (lazily : Bool) :
    (t.again least most lazily).pattern = .repeated t.pattern least most lazily := by
  unfold Term.again Form.counts
  rw [takes]
  rfl

theorem ofSet_takes (s : CharSet) : Form.isEmptyOnly (Form.ofSet s) = false := by
  unfold Form.ofSet Form.ofSpans
  split
  · rfl
  · split <;> rfl
  · rfl

theorem joined_chain (terms : List Term) : joined .seq terms = chain (terms.map (·.pattern)) := by
  cases terms with
  | nil => rfl
  | cons t ts =>
    rw [List.map_cons, chain, List.foldl_map]
    rfl

theorem inSequence_pattern (terms : List Term) : (inSequence terms).pattern = chain (terms.reverse.map (·.pattern)) := by
  rw [← joined_chain]
  unfold inSequence
  split <;> rfl

end FluidSheet.Pattern
