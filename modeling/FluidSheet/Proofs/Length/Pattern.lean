import FluidSheet.Pattern.Reader
import FluidSheet.Proofs.Length.Number
import FluidSheet.Proofs.Pattern.Ways

-- The parts of a text that a pattern takes, the preferred ones first.

namespace FluidSheet.Length
open Pattern (Place Ways Alike chain)

def digit : CharSet := .range '0'.toNat '9'.toNat

def single (c : Char) : Pattern := .set (.char c)

def many (s : CharSet) : Pattern := .repeated (.set s) 1 none false

def maybe (p : Pattern) : Pattern := .repeated p 0 (some 1) false

def enclosing (opening : List Char) (close : Char) : Pattern :=
  chain (opening.map single ++ [many (.complement (.char close)), single close])

def segment : Pattern :=
  .either (.either (enclosing ['"'] '"') (enclosing ['\x27'] '\x27')) (enclosing urlOpening ')')

def exponent : Pattern := chain [.set (.chars ['e', 'E']), maybe (.set (.chars ['+', '-'])), many digit]

def numeral : Pattern :=
  chain [maybe (single '-'), .repeated (.set digit) 0 none false, maybe (single '.'), many digit, maybe exponent]

def suffix (unit : List Char) : List Pattern :=
  unit.map single ++ if needsBoundary unit then [.check (.boundary false false)] else []

def pattern (unit : List Char) : Pattern := .either segment (chain (numeral :: suffix unit))

example :
    let text := "\"[^\"]+\"|'[^']+'|url\\([^)]+\\)|(-?[0-9]*\\.?[0-9]+(?:[eE][+-]?[0-9]+)?)px\\b"
    (Pattern.read (text.length + 1) false ⟨.standard, [], 0⟩ [] [] text.toList).map (·.1.pattern) =
      some (pattern "px".toList) := by decide +kernel

def reached (before : Option Char) (split : Split) : Place := .ofText (split.1.getLast?.or before) split.2

-- A pattern takes the parts of a text that are listed for it, in this order.
def Spells (a : Pattern) (f : List Char → List Split) : Prop :=
  ∀ before cs, ∃ xs, Ways a (.ofText before cs) xs ∧ Alike xs ((f cs).map (reached before))

def behind (front : List Char) (splits : List Split) : List Split := splits.map fun (n, rest) => (front ++ n, rest)

def onward (g : List Char → List Split) (splits : List Split) : List Split :=
  splits.flatMap fun (n, rest) => behind n (g rest)

variable {a b : Pattern} {s : CharSet} {f g : List Char → List Split} {splits : List Split} {cs : List Char}

theorem spells_alike (spells : Spells a f) (alike : ∀ cs, Alike (f cs) (g cs)) : Spells a g := by
  intro before cs
  obtain ⟨xs, ways, same⟩ := spells before cs
  exact ⟨xs, ways, same.trans ((alike cs).map _)⟩

theorem behind_none (splits : List Split) : behind [] splits = splits := List.map_id splits

theorem behind_append (front : List Char) (xs ys : List Split) : behind front (xs ++ ys) = behind front xs ++ behind front ys :=
  List.map_append

theorem behind_behind (first second : List Char) (splits : List Split) :
    behind first (behind second splits) = behind (first ++ second) splits := by
  unfold behind
  rw [List.map_map]
  exact List.map_congr_left fun split _ => congrArg (·, split.2) (List.append_assoc first second split.1).symm

theorem onward_append (g : List Char → List Split) (xs ys : List Split) : onward g (xs ++ ys) = onward g xs ++ onward g ys :=
  List.flatMap_append

theorem onward_single (g : List Char → List Split) (n rest : List Char) : onward g [(n, rest)] = behind n (g rest) :=
  List.append_nil _

theorem onward_behind (g : List Char → List Split) (front : List Char) (splits : List Split) :
    onward g (behind front splits) = behind front (onward g splits) := by
  induction splits with
  | nil => rfl
  | cons split splits ih =>
    change behind (front ++ split.1) (g split.2) ++ onward g (behind front splits) =
      behind front (behind split.1 (g split.2) ++ onward g splits)
    rw [ih, behind_append, behind_behind]

theorem onward_onward (g h : List Char → List Split) (splits : List Split) :
    onward h (onward g splits) = onward (fun cs => onward h (g cs)) splits := by
  induction splits with
  | nil => rfl
  | cons split splits ih =>
    change onward h (behind split.1 (g split.2) ++ onward g splits) =
      behind split.1 (onward h (g split.2)) ++ onward (fun cs => onward h (g cs)) splits
    rw [onward_append, onward_behind, ih]

theorem reached_behind (before : Option Char) (front : List Char) (splits : List Split) :
    (behind front splits).map (reached before) = splits.map (reached (front.getLast?.or before)) := by
  unfold behind
  rw [List.map_map]
  refine List.map_congr_left fun split _ => ?_
  simp only [reached, Function.comp_apply, List.getLast?_append, Option.or_assoc]

theorem spells_further (spells : Spells b g) {qs : List Place} (alike : Alike qs (splits.map (reached before))) :
    ∃ ends : Place → List Place, ∀ q ∈ qs, Ways b q (ends q) ∧ Alike (ends q) ((g q.rest).map (reached q.before)) := by
  have further : ∀ q, ∃ ys, q ∈ qs → Ways b q ys ∧ Alike ys ((g q.rest).map (reached q.before)) := by
    intro q
    by_cases member : q ∈ qs
    · obtain ⟨⟨front, rest⟩, -, rfl⟩ := List.mem_map.mp (alike.mem.mp member)
      obtain ⟨ys, ways, same⟩ := spells (front.getLast?.or before) rest
      exact ⟨ys, fun _ => ⟨ways, same⟩⟩
    · exact ⟨[], fun here => absurd here member⟩
  choose ends further using further
  exact ⟨ends, further⟩

theorem spells_seq (first : Spells a f) (second : Spells b g) : Spells (.seq a b) (fun cs => onward g (f cs)) := by
  intro before cs
  obtain ⟨qs, ways, alike⟩ := first before cs
  obtain ⟨ends, further⟩ := spells_further second alike
  refine ⟨qs.flatMap ends, .seq ways fun q member => (further q member).1, ?_⟩
  have steps : ((f cs).map (reached before)).flatMap (fun q => (g q.rest).map (reached q.before)) =
      (onward g (f cs)).map (reached before) := by
    rw [List.flatMap_map, onward, List.map_flatMap]
    exact List.flatMap_congr fun split _ => (reached_behind before split.1 (g split.2)).symm
  dsimp only
  rw [← steps]
  exact alike.flatMap fun q member => (further q member).2

theorem spells_either (first : Spells a f) (second : Spells b g) : Spells (.either a b) (fun cs => f cs ++ g cs) := by
  intro before cs
  obtain ⟨xs, ways, alike⟩ := first before cs
  obtain ⟨ys, ways', alike'⟩ := second before cs
  refine ⟨xs ++ ys, .either ways ways', ?_⟩
  rw [List.map_append]
  exact alike.append alike'

def taking (s : CharSet) : List Char → List Split
  | [] => []
  | c :: rest => if s.has c then [([c], rest)] else []

theorem taking_takes (member : s.has c = true) (rest : List Char) : taking s (c :: rest) = [([c], rest)] := if_pos member

theorem taking_stops (other : ∀ c ∈ cs.head?, s.has c = false) : taking s cs = [] := by
  cases cs with
  | nil => rfl
  | cons c rest => exact if_neg (by simp [other c rfl])

theorem opens_or (s : CharSet) (cs : List Char) :
    (∃ c rest, cs = c :: rest ∧ s.has c = true) ∨ ∀ c ∈ cs.head?, s.has c = false := by
  cases cs with
  | nil => exact .inr fun _ none => by cases none
  | cons c rest =>
    cases member : s.has c with
    | true => exact .inl ⟨c, rest, rfl, member⟩
    | false => exact .inr fun c' here => by cases here; exact member

theorem spells_set (s : CharSet) : Spells (.set s) (taking s) := by
  intro before cs
  rcases opens_or s cs with ⟨c, rest, rfl, member⟩ | other
  · rw [taking_takes member]
    exact ⟨_, .takes rfl member, .refl _⟩
  · rw [taking_stops other]
    exact ⟨[], .stops other, .refl _⟩

theorem endsIn_cons (c : Char) (ds rest : List Char) :
    endsIn (c :: ds) rest = behind [c] (endsIn ds rest) ++ [([c], ds ++ rest)] := by
  unfold endsIn behind
  rw [List.length_cons, List.range_succ, List.map_append, List.map_map]
  congr 1
  · refine List.map_congr_left fun k small => ?_
    rw [List.mem_range] at small
    have next : ds.length + 1 - k = ds.length - k + 1 := by omega
    simp [next]
  · simp

-- A run of characters, as long as there is one, or a part of it.
def runs (s : CharSet) (cs : List Char) : List Split := endsIn (cs.takeWhile s.has) (cs.dropWhile s.has)

theorem runs_takes (member : s.has c = true) (cs : List Char) :
    runs s (c :: cs) = behind [c] (runs s cs ++ [([], cs)]) := by
  unfold runs
  rw [List.takeWhile_cons_of_pos member, List.dropWhile_cons_of_pos member, endsIn_cons, List.takeWhile_append_dropWhile,
    behind_append]
  rfl

theorem runs_stops (other : ∀ c ∈ cs.head?, s.has c = false) : runs s cs = [] := by
  cases cs with
  | nil => rfl
  | cons c cs =>
    unfold runs
    rw [List.takeWhile_cons_of_neg (by simp [other c rfl])]
    rfl

theorem spells_any (s : CharSet) : Spells (.repeated (.set s) 0 none false) (fun cs => runs s cs ++ [([], cs)]) := by
  intro before cs
  have more : (none : Option Nat) ≠ some 0 := by simp
  induction cs generalizing before with
  | nil =>
    refine ⟨_, .greedy (f := fun _ => []) more (.stops fun _ none => by cases none) ?_ ?_, .refl _⟩
    · exact fun _ none => by cases none
    · exact fun _ none => by cases none
  | cons c rest ih =>
    dsimp only at ih ⊢
    cases member : s.has c with
    | true =>
      obtain ⟨xs, ways, alike⟩ := ih (some c)
      refine ⟨_, .greedy (f := fun _ => xs) more (.takes rfl member) ?_ ?_, ?_⟩
      · intro q here
        cases List.mem_singleton.mp here
        exact Nat.lt_succ_self _
      · intro q here
        cases List.mem_singleton.mp here
        exact ways
      · rw [runs_takes member, List.map_append, reached_behind]
        refine Alike.append ?_ (.refl _)
        change Alike (xs ++ []) _
        rw [List.append_nil]
        exact alike
    | false =>
      have other : ∀ c' ∈ (c :: rest).head?, s.has c' = false := fun c' here => by cases here; exact member
      rw [runs_stops other]
      refine ⟨_, .greedy (f := fun _ => []) more (.stops other) ?_ ?_, .refl _⟩
      · exact fun _ none => by cases none
      · exact fun _ none => by cases none

theorem spells_many (s : CharSet) : Spells (many s) (runs s) := by
  intro before cs
  rcases opens_or s cs with ⟨c, rest, rfl, member⟩ | other
  · obtain ⟨xs, ways, alike⟩ := spells_any s (some c) rest
    refine ⟨_, .required (f := fun _ => xs) (.takes rfl member) ?_, ?_⟩
    · intro q here
      cases List.mem_singleton.mp here
      exact ways
    · rw [runs_takes member, reached_behind]
      change Alike (xs ++ []) _
      rw [List.append_nil]
      exact alike
  · rw [runs_stops other]
    refine ⟨_, .required (f := fun _ => []) (.stops other) ?_, .refl _⟩
    exact fun _ none => by cases none

theorem spells_maybe (spells : Spells a f) (shorter : ∀ cs, ∀ split ∈ f cs, split.2.length < cs.length) :
    Spells (maybe a) (fun cs => f cs ++ [([], cs)]) := by
  intro before cs
  obtain ⟨xs, ways, alike⟩ := spells before cs
  refine ⟨_, .greedy (f := fun q => [q]) (by simp) ways ?_ (fun q _ => .enough), ?_⟩
  · intro q member
    obtain ⟨split, found, rfl⟩ := List.mem_map.mp (alike.mem.mp member)
    exact shorter cs split found
  · rw [List.flatMap_singleton', List.map_append]
    exact alike.append (.refl _)

theorem digit_has : digit.has = Char.isDigit := by
  funext c
  simp only [digit, CharSet.has, Char.isDigit, ge_iff_le, UInt32.le_iff_toNat_le]
  rfl

theorem char_has (c d : Char) : (CharSet.char c).has d = decide (d = c) := by
  rw [Bool.eq_iff_iff, CharSet.char, CharSet.has, Bool.and_eq_true, decide_eq_true_eq, decide_eq_true_eq, decide_eq_true_eq]
  constructor
  · exact fun ⟨low, high⟩ => Char.toNat_inj.mp (Nat.le_antisymm high low)
  · rintro rfl
    exact ⟨Nat.le_refl _, Nat.le_refl _⟩

theorem taking_other (other : ∀ rest, cs = c :: rest → False) : taking (.char c) cs = [] := by
  refine taking_stops fun d here => ?_
  rw [char_has]
  refine decide_eq_false ?_
  rintro rfl
  obtain ⟨rest, whole⟩ := List.head?_eq_some_iff.mp here
  exact other rest whole

theorem pair_has (c d x : Char) : (CharSet.chars [c, d]).has x = decide (x = c ∨ x = d) := by
  change (false || (CharSet.char c).has x || (CharSet.char d).has x) = _
  rw [char_has, char_has, Bool.false_or, Bool.decide_or]

theorem runs_digits (cs : List Char) : runs digit cs = endsIn (cs.takeWhile Char.isDigit) (cs.dropWhile Char.isDigit) := by
  unfold runs
  rw [digit_has]

theorem taking_shorter (s : CharSet) (cs : List Char) : ∀ split ∈ taking s cs, split.2.length < cs.length := by
  intro split member
  rcases opens_or s cs with ⟨c, rest, rfl, here⟩ | other
  · rw [taking_takes here] at member
    cases List.mem_singleton.mp member
    exact Nat.lt_succ_self _
  · rw [taking_stops other] at member
    cases member

theorem spells_exponent : Spells exponent exponentEnds := by
  have spells := spells_seq (spells_seq (spells_set (.chars ['e', 'E']))
    (spells_maybe (spells_set (.chars ['+', '-'])) (taking_shorter _))) (spells_many digit)
  refine spells_alike spells fun cs => ?_
  have same : onward (runs digit) (onward (fun cs => taking (.chars ['+', '-']) cs ++ [([], cs)])
      (taking (.chars ['e', 'E']) cs)) = exponentEnds cs := by
    cases cs with
    | nil => rfl
    | cons e rest =>
      unfold exponentEnds
      dsimp only
      by_cases letter : e = 'e' ∨ e = 'E'
      · rw [taking_takes (by rw [pair_has]; exact decide_eq_true letter), onward_single, onward_behind, onward_append,
          onward_single, behind_none, if_pos letter]
        cases rest with
        | nil => rfl
        | cons s digits =>
          dsimp only
          by_cases sign : s = '+' ∨ s = '-'
          · have other : digit.has s = false := by rcases sign with rfl | rfl <;> rfl
            rw [taking_takes (by rw [pair_has]; exact decide_eq_true sign), onward_single, if_pos sign, runs_digits digits,
              runs_stops (fun c here => by cases here; exact other), List.append_nil, behind_behind]
            rfl
          · rw [taking_stops (fun c here => by cases here; rw [pair_has]; exact decide_eq_false sign), if_neg sign,
              runs_digits]
            rfl
      · rw [taking_stops (fun c here => by cases here; rw [pair_has]; exact decide_eq_false letter), if_neg letter]
        rfl
  rw [same]
  exact .refl _

theorem exponent_shorter (cs : List Char) : ∀ split ∈ exponentEnds cs, split.2.length < cs.length := by
  intro split member
  obtain ⟨whole, front, d, same, -⟩ := exponentEnds_cuts cs split member
  rw [← whole, same, List.length_append, List.length_append, List.length_singleton]
  omega

def scaled (cs : List Char) : List Split := onward (fun cs => exponentEnds cs ++ [([], cs)]) (runs digit cs)

def pointed (cs : List Char) : List Split := onward scaled (taking (.char '.') cs ++ [([], cs)])

def whole (cs : List Char) : List Split := onward pointed (runs digit cs ++ [([], cs)])

theorem spells_number : Spells numeral (fun cs => onward whole (taking (.char '-') cs ++ [([], cs)])) := by
  have spells := spells_seq (spells_seq (spells_seq (spells_seq
    (spells_maybe (spells_set (.char '-')) (taking_shorter _)) (spells_any digit))
    (spells_maybe (spells_set (.char '.')) (taking_shorter _))) (spells_many digit))
    (spells_maybe spells_exponent exponent_shorter)
  refine spells_alike spells fun cs => ?_
  rw [onward_onward, onward_onward, onward_onward]
  exact .refl _

theorem scaled_digits (cs : List Char) :
    scaled cs = withExponent (endsIn (cs.takeWhile Char.isDigit) (cs.dropWhile Char.isDigit)) := by
  unfold scaled onward withExponent
  rw [runs_digits]
  refine List.flatMap_congr fun split _ => ?_
  change behind split.1 (exponentEnds split.2 ++ [([], split.2)]) = behind split.1 (exponentEnds split.2) ++ [(split.1, split.2)]
  rw [behind_append]
  refine congrArg (behind split.1 (exponentEnds split.2) ++ ·) ?_
  exact congrArg (fun n => [(n, split.2)]) (List.append_nil split.1)

-- Numbers that end in the fraction. They are tried first.
def fractions (cs : List Char) : List Split :=
  behind (cs.takeWhile Char.isDigit) (onward scaled (taking (.char '.') (cs.dropWhile Char.isDigit)))

theorem unsigned_parts (cs : List Char) : unsignedEnds cs = fractions cs ++ scaled cs := by
  unfold unsignedEnds fractions
  rw [scaled_digits]
  dsimp only
  refine congrArg (· ++ _) ?_
  split
  · rename_i rest point
    rw [point, taking_takes (by rw [char_has]; rfl), onward_single, behind_behind, scaled_digits]
    unfold behind
    exact List.map_congr_left fun split _ => congrArg (·, split.2) (List.append_assoc _ ['.'] split.1).symm
  · rename_i other
    rw [taking_other other]
    rfl

-- Numbers without a fraction come up again with every digit that the whole part gives back.
theorem whole_unsigned (cs : List Char) : Alike (whole cs) (unsignedEnds cs) := by
  rw [unsigned_parts]
  induction cs with
  | nil => exact .refl _
  | cons c cs ih =>
    cases opens : digit.has c with
    | true =>
      have opens' : c.isDigit = true := digit_has ▸ opens
      have none : taking (.char '.') (c :: cs) = [] :=
        taking_other fun _ same => (digit_sign opens').2.2.1 (List.cons.inj same).1
      have first : pointed (c :: cs) = scaled (c :: cs) := by
        rw [pointed, none, List.nil_append, onward_single, behind_none]
      have further : scaled (c :: cs) =
          behind [c] (scaled cs) ++ behind [c] (exponentEnds cs ++ [([], cs)]) := by
        rw [scaled, runs_takes opens, behind_append, onward_append, onward_behind, onward_behind, onward_single, behind_none]
        rfl
      have fraction : fractions (c :: cs) = behind [c] (fractions cs) := by
        unfold fractions
        rw [List.takeWhile_cons_of_pos opens', List.dropWhile_cons_of_pos opens', behind_behind]
        rfl
      have steps : whole (c :: cs) = behind [c] (whole cs) ++ scaled (c :: cs) := by
        rw [whole, runs_takes opens, onward_append, onward_behind, onward_single, behind_none, first]
        rfl
      rw [steps, fraction, further]
      have shifted : Alike (behind [c] (whole cs)) (behind [c] (fractions cs) ++ behind [c] (scaled cs)) := by
        rw [← behind_append]
        exact ih.map _
      refine (shifted.append (.refl _)).trans ?_
      rw [List.append_assoc]
      exact Alike.append (.refl _) (.again _ _)
    | false =>
      have closed : c.isDigit = false := digit_has ▸ opens
      have none : runs digit (c :: cs) = [] := runs_stops fun c' here => by cases here; exact opens
      rw [whole, none, List.nil_append, onward_single, behind_none, pointed, onward_append, onward_single, behind_none,
        fractions, List.takeWhile_cons_of_neg (by simp [closed]), List.dropWhile_cons_of_neg (by simp [closed]), behind_none]
      exact .refl _

theorem spells_numeral : Spells numeral numberEnds := by
  refine spells_alike spells_number fun cs => ?_
  rw [onward_append, onward_single, behind_none]
  unfold numberEnds
  split
  · rename_i rest
    rw [taking_takes (by rw [char_has]; rfl), onward_single]
    have none : unsignedEnds ('-' :: rest) = [] := rfl
    have alike := (whole_unsigned rest).map fun (n, rest) => (['-'] ++ n, rest)
    have stop := whole_unsigned ('-' :: rest)
    rw [none] at stop
    have both := alike.append stop
    rw [List.append_nil] at both
    exact both
  · rename_i other
    rw [taking_other other]
    exact whole_unsigned cs

end FluidSheet.Length
