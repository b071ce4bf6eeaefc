import FluidSheet.Length.Scan
import FluidSheet.Proofs.Number.Decimal

namespace FluidSheet

namespace Length

-- The first part of every split ends in a digit, and the parts make up the text.
def Cuts (cs : List Char) (splits : List Split) : Prop :=
  ∀ split ∈ splits, split.1 ++ split.2 = cs ∧ EndsInDigit split.1

theorem endsIn_cuts (digits : ∀ c ∈ ds, c.isDigit = true) (rest : List Char) : Cuts (ds ++ rest) (endsIn ds rest) := by
  intro split member
  obtain ⟨k, small, rfl⟩ := List.mem_map.mp member
  rw [List.mem_range] at small
  refine ⟨by simp [← List.append_assoc], digits_end (fun c member => digits c (List.mem_of_mem_take member)) ?_⟩
  intro empty
  rw [List.take_eq_nil_iff] at empty
  rcases empty with none | none
  · omega
  · simp [none] at small

theorem cuts_map (cuts : Cuts rest splits) (front : List Char) :
    Cuts (front ++ rest) (splits.map fun (number, rest) => (front ++ number, rest)) := by
  intro split member
  obtain ⟨⟨number, after⟩, found, rfl⟩ := List.mem_map.mp member
  obtain ⟨whole, ends⟩ := cuts _ found
  exact ⟨by simp only [List.append_assoc, whole], ends_behind front ends⟩

theorem digits_cuts (cs : List Char) :
    Cuts cs (endsIn (cs.takeWhile Char.isDigit) (cs.dropWhile Char.isDigit)) := by
  have digits : ∀ c ∈ cs.takeWhile Char.isDigit, c.isDigit = true := List.all_eq_true.mp List.all_takeWhile
  have cuts := endsIn_cuts digits (cs.dropWhile Char.isDigit)
  rwa [List.takeWhile_append_dropWhile] at cuts

theorem exponentEnds_cuts (cs : List Char) : Cuts cs (exponentEnds cs) := by
  have none : ∀ cs, Cuts cs [] := fun _ _ member => by cases member
  cases cs with
  | nil => exact none _
  | cons e rest =>
    unfold exponentEnds
    dsimp only
    split
    · cases rest with
      | nil => exact none _
      | cons s digits =>
        dsimp only
        split
        · exact cuts_map (digits_cuts digits) [e, s]
        · exact cuts_map (digits_cuts (s :: digits)) [e]
    · exact none _

theorem withExponent_cuts (cuts : Cuts cs splits) : Cuts cs (withExponent splits) := by
  intro split member
  obtain ⟨⟨number, rest⟩, found, member⟩ := List.mem_flatMap.mp member
  obtain ⟨whole, ends⟩ := cuts _ found
  rcases List.mem_append.mp member with longer | plain
  · have further := cuts_map (exponentEnds_cuts rest) number split longer
    exact ⟨further.1.trans whole, further.2⟩
  · cases List.mem_singleton.mp plain
    exact ⟨whole, ends⟩

theorem unsignedEnds_cuts (cs : List Char) : Cuts cs (unsignedEnds cs) := by
  intro split member
  unfold unsignedEnds at member
  rcases List.mem_append.mp member with fraction | whole
  · split at fraction
    · rename_i rest point
      have cuts := cuts_map (withExponent_cuts (digits_cuts rest)) (cs.takeWhile Char.isDigit ++ ['.'])
      rw [List.append_assoc, List.singleton_append, ← point, List.takeWhile_append_dropWhile] at cuts
      exact cuts split (by simpa using fraction)
    · cases fraction
  · exact withExponent_cuts (digits_cuts cs) split whole

theorem numberEnds_cuts (cs : List Char) : Cuts cs (numberEnds cs) := by
  unfold numberEnds
  split
  · exact cuts_map (unsignedEnds_cuts _) ['-']
  · exact unsignedEnds_cuts cs

def Numeric (c : Char) : Prop := c.isDigit = true ∨ c ∈ ['-', '.', 'e', 'E', '+']

instance : DecidablePred Numeric := fun c => inferInstanceAs (Decidable (c.isDigit = true ∨ c ∈ _))

def Spelled (splits : List Split) : Prop := ∀ split ∈ splits, ∀ c ∈ split.1, Numeric c

theorem spelled_map (spelled : Spelled splits) (numeric : ∀ c ∈ front, Numeric c) :
    Spelled (splits.map fun (number, rest) => (front ++ number, rest)) := by
  intro split member
  obtain ⟨⟨number, after⟩, found, rfl⟩ := List.mem_map.mp member
  exact List.forall_mem_append.mpr ⟨numeric, spelled _ found⟩

theorem digits_spelled (cs : List Char) :
    Spelled (endsIn (cs.takeWhile Char.isDigit) (cs.dropWhile Char.isDigit)) := by
  intro split member c inside
  obtain ⟨k, _, rfl⟩ := List.mem_map.mp member
  exact .inl (List.mem_takeWhile_imp (List.mem_of_mem_take inside))

theorem exponentEnds_spelled (cs : List Char) : Spelled (exponentEnds cs) := by
  have none : Spelled [] := fun _ member => by cases member
  cases cs with
  | nil => exact none
  | cons e rest =>
    unfold exponentEnds
    dsimp only
    split
    · rename_i letter
      have numeric : Numeric e := by rcases letter with rfl | rfl <;> exact .inr (by decide)
      cases rest with
      | nil => exact none
      | cons s digits =>
        dsimp only
        split
        · rename_i sign
          have numeric' : Numeric s := by rcases sign with rfl | rfl <;> exact .inr (by decide)
          exact spelled_map (digits_spelled digits) (List.forall_mem_cons.mpr ⟨numeric, List.forall_mem_singleton.mpr numeric'⟩)
        · exact spelled_map (digits_spelled (s :: digits)) (List.forall_mem_singleton.mpr numeric)
    · exact none

theorem withExponent_spelled (spelled : Spelled splits) : Spelled (withExponent splits) := by
  intro split member
  obtain ⟨⟨number, rest⟩, found, member⟩ := List.mem_flatMap.mp member
  rcases List.mem_append.mp member with longer | plain
  · exact spelled_map (exponentEnds_spelled rest) (spelled _ found) split longer
  · cases List.mem_singleton.mp plain
    exact spelled _ found

theorem unsignedEnds_spelled (cs : List Char) : Spelled (unsignedEnds cs) := by
  intro split member
  unfold unsignedEnds at member
  rcases List.mem_append.mp member with fraction | whole
  · split at fraction
    · rename_i rest point
      have numeric : ∀ c ∈ cs.takeWhile Char.isDigit ++ ['.'], Numeric c :=
        List.forall_mem_append.mpr
          ⟨fun c inside => .inl (List.mem_takeWhile_imp inside), List.forall_mem_singleton.mpr (.inr (by decide))⟩
      have spelled := spelled_map (withExponent_spelled (digits_spelled rest)) numeric
      exact spelled split (by simpa using fraction)
    · cases fraction
  · exact withExponent_spelled (digits_spelled cs) split whole

theorem numberEnds_spelled (cs : List Char) : Spelled (numberEnds cs) := by
  unfold numberEnds
  split
  · exact spelled_map (unsignedEnds_spelled _) (List.forall_mem_singleton.mpr (.inr (by decide)))
  · exact unsignedEnds_spelled cs

theorem enclosed_exact : enclosed? close cs = some (text, rest) ↔
    text ++ rest = cs ∧ ∃ inside, inside ≠ [] ∧ close ∉ inside ∧ text = inside ++ [close] := by
  constructor
  · intro found
    unfold enclosed? at found
    dsimp only at found
    split at found
    · rename_i c body d after here there
      cases found
      have stop := List.head?_dropWhile_not (fun x => decide (x ≠ close)) cs
      rw [there] at stop
      have same : d = close := by simpa using stop
      have whole := List.takeWhile_append_dropWhile (p := fun x => decide (x ≠ close)) (l := cs)
      rw [there, same] at whole
      refine ⟨by simpa using whole, _, ?_, ?_, rfl⟩
      · rw [here]
        exact List.cons_ne_nil c body
      · intro member
        have other := List.mem_takeWhile_imp member
        simp at other
    · cases found
  · rintro ⟨rfl, inside, some, first, rfl⟩
    have others : ∀ c ∈ inside, decide (c ≠ close) = true := by
      intro c member
      exact decide_eq_true fun same => first (same ▸ member)
    unfold enclosed?
    rw [List.append_assoc, List.takeWhile_append_of_pos others, List.dropWhile_append_of_pos others]
    obtain ⟨c, body, rfl⟩ := List.exists_cons_of_ne_nil some
    simp

-- A text to be taken whole, with what stands inside it.
inductive Segment : (inside text : List Char) → Prop where
  | quoted (quote : q = '"' ∨ q = '\x27') (first : q ∉ inside) : Segment inside (q :: (inside ++ [q]))
  | url (first : ')' ∉ inside) : Segment inside (urlOpening ++ (inside ++ [')']))

theorem segment_some (opens : Segment inside text) : text ≠ [] := by
  cases opens with
  | quoted | url => exact List.cons_ne_nil _ _

theorem sealed_exact : sealed? cs = some (text, rest) ↔
    text ++ rest = cs ∧ ∃ inside, inside ≠ [] ∧ Segment inside text := by
  constructor
  · intro found
    unfold sealed? at found
    split at found
    · obtain ⟨⟨body, after⟩, enclosed, same⟩ := Option.map_eq_some_iff.mp found
      cases same
      obtain ⟨rfl, inside, some, first, rfl⟩ := enclosed_exact.mp enclosed
      exact ⟨rfl, inside, some, .quoted (.inl rfl) first⟩
    · obtain ⟨⟨body, after⟩, enclosed, same⟩ := Option.map_eq_some_iff.mp found
      cases same
      obtain ⟨rfl, inside, some, first, rfl⟩ := enclosed_exact.mp enclosed
      exact ⟨rfl, inside, some, .quoted (.inr rfl) first⟩
    · split at found
      · rename_i opens
        obtain ⟨⟨body, after⟩, enclosed, same⟩ := Option.map_eq_some_iff.mp found
        cases same
        obtain ⟨behind, rfl⟩ := List.isPrefixOf_iff_prefix.mp opens
        obtain ⟨whole, inside, some, first, rfl⟩ := enclosed_exact.mp enclosed
        refine ⟨?_, inside, some, .url first⟩
        rw [List.append_assoc, whole]
        rfl
      · cases found
  · rintro ⟨rfl, inside, some, opens⟩
    have enclosed : ∀ close, close ∉ inside → enclosed? close (inside ++ [close] ++ rest) = .some (inside ++ [close], rest) :=
      fun close first => enclosed_exact.mpr ⟨rfl, inside, some, first, rfl⟩
    cases opens with
    | quoted quote first =>
      rcases quote with rfl | rfl
      · exact congrArg (Option.map _) (enclosed _ first)
      · exact congrArg (Option.map _) (enclosed _ first)
    | url first => exact congrArg (Option.map _) (enclosed _ first)

theorem sealed_whole (found : sealed? cs = some (text, rest)) : text ++ rest = cs ∧ text ≠ [] := by
  obtain ⟨whole, inside, _, opens⟩ := sealed_exact.mp found
  exact ⟨whole, segment_some opens⟩

theorem afterUnit_exact (found : afterUnit? unit cs = some rest) : unit ++ rest = cs ∧ unitEnds unit rest = true := by
  unfold afterUnit? at found
  split at found
  · rename_i here
    obtain ⟨starts, ends⟩ := Bool.and_eq_true_iff.mp here
    cases found
    obtain ⟨behind, whole⟩ := List.isPrefixOf_iff_prefix.mp starts
    rw [← whole, List.drop_left] at ends ⊢
    exact ⟨rfl, ends⟩
  · cases found

theorem length_number (found : length? unit cs = some (number, rest)) :
    (number, unit ++ rest) ∈ numberEnds cs ∧ unitEnds unit rest = true := by
  obtain ⟨⟨number', after⟩, member, found⟩ := List.exists_of_findSome?_eq_some found
  obtain ⟨rest', here, same⟩ := Option.map_eq_some_iff.mp found
  cases same
  obtain ⟨rfl, ends⟩ := afterUnit_exact here
  exact ⟨member, ends⟩

theorem length_whole (found : length? unit cs = some (number, rest)) :
    number ++ unit ++ rest = cs ∧ EndsInDigit number := by
  obtain ⟨whole, ends⟩ := numberEnds_cuts cs _ (length_number found).1
  exact ⟨(List.append_assoc ..).trans whole, ends⟩

theorem length_shorter (found : length? unit (c :: cs) = some (number, rest)) : rest.length ≤ cs.length := by
  obtain ⟨whole, front, d, rfl, _⟩ := length_whole found
  have size := congrArg List.length whole
  simp only [List.length_append, List.length_cons] at size
  omega

theorem length_spelled (found : length? unit cs = some (number, rest)) : ∀ c ∈ number, Numeric c :=
  numberEnds_spelled cs _ (length_number found).1

def Numbers (pieces : List Piece) : Prop := ∀ number, .length number ∈ pieces → EndsInDigit number

inductive Token (unit cs : List Char) : Piece → List Char → Prop where
  | sealed (here : sealed? cs = some (text, rest)) : Token unit cs (.sealed text) rest
  | length (closed : sealed? cs = none) (here : length? unit cs = some (number, rest)) : Token unit cs (.length number) rest

theorem token_exact : token? unit cs = some (piece, rest) ↔ Token unit cs piece rest := by
  unfold token?
  constructor
  · intro found
    split at found
    · rename_i here
      cases found
      exact .sealed here
    · rename_i closed
      obtain ⟨⟨number, after⟩, here, same⟩ := Option.map_eq_some_iff.mp found
      cases same
      exact .length closed here
  · intro token
    cases token with
    | sealed here => rw [here]
    | length closed here =>
      rw [closed, here]
      rfl

theorem token_none : token? unit cs = none ↔ sealed? cs = none ∧ length? unit cs = none := by
  unfold token?
  split
  · rename_i here
    simp [here]
  · rename_i closed
    simp [closed]

theorem token_whole (found : token? unit cs = some (piece, rest)) :
    piece.text unit ++ rest = cs ∧ piece.text unit ≠ [] ∧ ∀ number, piece = .length number → EndsInDigit number := by
  cases token_exact.mp found with
  | sealed here =>
    obtain ⟨whole, some⟩ := sealed_whole here
    exact ⟨whole, some, fun _ same => by cases same⟩
  | length _ here =>
    obtain ⟨whole, ends⟩ := length_whole here
    refine ⟨whole, ?_, fun number' same => by cases same; exact ends⟩
    obtain ⟨front, d, rfl, _⟩ := ends
    simp [Piece.text]

theorem scan_skip (unit : List Char) (skip : Nat) (cs : List Char) : scan unit skip cs = scan unit 0 (cs.drop skip) := by
  induction cs generalizing skip with
  | nil => cases skip <;> simp [scan]
  | cons c rest ih =>
    cases skip with
    | zero => rfl
    | succ skip => rw [scan, ih, List.drop_succ_cons]

theorem scan_plain (nothing : token? unit (c :: rest) = none) : scan unit 0 (c :: rest) = .plain c :: scan unit 0 rest := by
  rw [scan, nothing]

theorem scan_token (found : token? unit cs = some (piece, after)) : scan unit 0 cs = piece :: scan unit 0 after := by
  obtain ⟨whole, some, -⟩ := token_whole found
  cases cs with
  | nil => simp_all
  | cons c rest =>
    obtain ⟨d, text, here⟩ := List.exists_cons_of_ne_nil some
    rw [here, List.cons_append, List.cons.injEq] at whole
    obtain ⟨-, rfl⟩ := whole
    rw [scan, found]
    dsimp only
    rw [scan_skip, List.length_append, Nat.add_sub_cancel, List.drop_left]

theorem scan_induct {P : List Char → Prop} (unit : List Char) (nil : P [])
    (plain : ∀ c rest, token? unit (c :: rest) = none → P rest → P (c :: rest))
    (token : ∀ cs piece after, token? unit cs = some (piece, after) → P after → P cs) (cs : List Char) : P cs := by
  induction size : cs.length using Nat.strong_induction_on generalizing cs with
  | _ n ih =>
    cases cs with
    | nil => exact nil
    | cons c rest =>
      cases found : token? unit (c :: rest) with
      | none => exact plain c rest found (ih rest.length (by simp [← size]) rest rfl)
      | some found' =>
        obtain ⟨piece, after⟩ := found'
        obtain ⟨whole, some, -⟩ := token_whole found
        have shorter : after.length < n := by
          have taken := List.length_pos_of_ne_nil some
          rw [← size, ← whole, List.length_append]
          omega
        exact token _ piece after found (ih after.length shorter after rfl)

theorem scan_text (unit cs : List Char) : (scan unit 0 cs).flatMap (Piece.text unit) = cs := by
  induction cs using scan_induct unit with
  | nil => rfl
  | plain c rest found ih => rw [scan_plain found, List.flatMap_cons, ih]; rfl
  | token cs piece after found ih => rw [scan_token found, List.flatMap_cons, ih, (token_whole found).1]

theorem scan_lengths (unit cs : List Char) : ∀ number, .length number ∈ scan unit 0 cs →
    ∃ front back rest, front ++ back = cs ∧ length? unit back = some (number, rest) := by
  induction cs using scan_induct unit with
  | nil => exact fun _ none => by cases none
  | plain c rest found ih =>
    intro number member
    rw [scan_plain found] at member
    rcases List.mem_cons.mp member with same | later
    · cases same
    · obtain ⟨front, back, rest, rfl, here⟩ := ih number later
      exact ⟨c :: front, back, rest, rfl, here⟩
  | token cs piece after found ih =>
    intro number member
    rw [scan_token found] at member
    rcases List.mem_cons.mp member with rfl | later
    · cases token_exact.mp found with
      | length _ here => exact ⟨[], cs, after, rfl, here⟩
    · obtain ⟨front, back, rest, rfl, here⟩ := ih number later
      exact ⟨piece.text unit ++ front, back, rest, by simp [← (token_whole found).1], here⟩

theorem scan_numbers (unit cs : List Char) : Numbers (scan unit 0 cs) := by
  intro number member
  obtain ⟨front, back, rest, -, here⟩ := scan_lengths unit cs number member
  exact (length_whole here).2

end Length
end FluidSheet
