import FluidSheet.Proofs.Length.Scan

-- The scan takes those segments whole that are not empty.

namespace FluidSheet.Length

def Outside (cs : List Char) : Prop := ∀ inside text, Segment inside text → ¬ text <+: cs

inductive Reads : List Char → List Piece → Prop where
  | nil : Reads [] []
  | segment (opens : Segment inside text) (behind : Reads rest parts) : Reads (text ++ rest) (.sealed text :: parts)
  | plain (outside : Outside (c :: rest)) (behind : Reads rest parts) : Reads (c :: rest) (.plain c :: parts)

theorem closing_unique (first : close ∉ as) (first' : close ∉ bs) (same : as ++ close :: cs = bs ++ close :: ds) :
    as = bs ∧ cs = ds := by
  induction as generalizing bs with
  | nil =>
    cases bs with
    | nil => exact ⟨rfl, (List.cons.inj same).2⟩
    | cons b bs => exact absurd (List.mem_cons.mpr (.inl (List.cons.inj same).1)) first'
  | cons a as ih =>
    cases bs with
    | nil => exact absurd (List.mem_cons.mpr (.inl (List.cons.inj same).1.symm)) first
    | cons b bs =>
      obtain ⟨rfl, later⟩ := List.cons.inj same
      obtain ⟨rfl, rfl⟩ := ih (List.not_mem_of_not_mem_cons first) (List.not_mem_of_not_mem_cons first') later
      exact ⟨rfl, rfl⟩

theorem segment_unique (opens : Segment inside text) (opens' : Segment inside' text')
    (same : text ++ rest = text' ++ rest') : inside = inside' ∧ text = text' ∧ rest = rest' := by
  cases opens with
  | quoted quote first =>
    cases opens' with
    | quoted quote' first' =>
      simp only [List.cons_append, List.append_assoc, List.cons.injEq, List.nil_append] at same
      obtain ⟨rfl, same⟩ := same
      obtain ⟨rfl, rfl⟩ := closing_unique first first' same
      exact ⟨rfl, rfl, rfl⟩
    | url =>
      rw [List.cons_append, urlOpening, List.cons_append, List.cons_append, List.cons.injEq] at same
      rcases quote with rfl | rfl <;> cases same.1
  | url first =>
    cases opens' with
    | quoted quote' first' =>
      rw [List.cons_append, urlOpening, List.cons_append, List.cons_append, List.cons.injEq] at same
      rcases quote' with rfl | rfl <;> cases same.1
    | url first' =>
      simp only [List.append_assoc, List.append_cancel_left_eq, List.cons_append, List.nil_append] at same
      obtain ⟨rfl, rfl⟩ := closing_unique first first' same
      exact ⟨rfl, rfl, rfl⟩

theorem segment_opens (opens : Segment inside text) (starts : text <+: c :: rest) :
    (c = '"' ∨ c = '\x27') ∨ urlOpening <+: c :: rest := by
  cases opens with
  | quoted quote =>
    rw [← (List.cons_prefix_cons.mp starts).1]
    exact .inl quote
  | url => exact .inr ((List.prefix_append _ _).trans starts)

theorem outside_other (unquoted : c ≠ '"' ∧ c ≠ '\x27') (other : ¬ urlOpening <+: c :: rest) : Outside (c :: rest) := by
  intro inside text opens starts
  rcases segment_opens opens starts with (quote | quote) | url
  · exact unquoted.1 quote
  · exact unquoted.2 quote
  · exact other url

-- A text is read to its end, a segment at a time or, outside segments, some characters.
theorem segments_induct {P : List Char → Prop} (nil : P [])
    (segment : ∀ inside text rest, Segment inside text → P rest → P (text ++ rest))
    (plain : ∀ c rest, Outside (c :: rest) → (∀ after, after.length ≤ rest.length → P after) → P (c :: rest))
    (cs : List Char) : P cs := by
  induction size : cs.length using Nat.strong_induction_on generalizing cs with
  | _ n ih =>
    by_cases outside : Outside cs
    · cases cs with
      | nil => exact nil
      | cons c rest =>
        refine plain c rest outside fun after short => ih after.length ?_ after rfl
        rw [← size, List.length_cons]
        omega
    · unfold Outside at outside
      push Not at outside
      obtain ⟨inside, text, opens, rest, rfl⟩ := outside
      have taken := List.length_pos_of_ne_nil (segment_some opens)
      rw [List.length_append] at size
      exact segment inside text rest opens (ih rest.length (by omega) rest rfl)

theorem reads_exists (cs : List Char) : ∃ parts, Reads cs parts := by
  induction cs using segments_induct with
  | nil => exact ⟨[], .nil⟩
  | segment inside text rest opens ih =>
    obtain ⟨parts, behind⟩ := ih
    exact ⟨_, .segment opens behind⟩
  | plain c rest outside ih =>
    obtain ⟨parts, behind⟩ := ih rest (Nat.le_refl _)
    exact ⟨_, .plain outside behind⟩

theorem reads_unique (reads : Reads cs parts) (reads' : Reads cs parts') : parts = parts' := by
  induction reads generalizing parts' with
  | nil =>
    generalize empty : ([] : List Char) = cs at reads'
    cases reads' with
    | nil => rfl
    | segment opens => exact absurd (List.append_eq_nil_iff.mp empty.symm).1 (segment_some opens)
    | plain => cases empty
  | @segment inside text rest parts opens behind ih =>
    generalize whole : text ++ rest = cs at reads'
    cases reads' with
    | nil => exact absurd (List.append_eq_nil_iff.mp whole).1 (segment_some opens)
    | segment opens' behind' =>
      obtain ⟨-, rfl, rfl⟩ := segment_unique opens opens' whole
      rw [ih behind']
    | plain outside => exact absurd ⟨rest, whole⟩ (outside inside text opens)
  | @plain c rest parts outside behind ih =>
    generalize whole : c :: rest = cs at reads'
    cases reads' with
    | nil => cases whole
    | segment opens' => exact absurd ⟨_, whole.symm⟩ (outside _ _ opens')
    | plain _ behind' =>
      cases whole
      rw [ih behind']

theorem reads_text (reads : Reads cs parts) (unit : List Char) : parts.flatMap (Piece.text unit) = cs := by
  induction reads with
  | nil => rfl
  | segment _ _ ih => rw [List.flatMap_cons, ih]; rfl
  | plain _ _ ih => rw [List.flatMap_cons, ih]; rfl

theorem reads_run (outside : ∀ front c back, run = front ++ c :: back → Outside (c :: (back ++ rest)))
    (behind : Reads rest parts) : Reads (run ++ rest) (run.map .plain ++ parts) := by
  induction run with
  | nil => exact behind
  | cons c run ih =>
    exact .plain (outside [] c run rfl) (ih fun front c' back whole => outside (c :: front) c' back (congrArg _ whole))

theorem sealed_none (opens : Segment [] text) (rest : List Char) : sealed? (text ++ rest) = none := by
  rw [Option.eq_none_iff_forall_ne_some]
  rintro ⟨text', rest'⟩ found
  obtain ⟨same, inside, some, opens'⟩ := sealed_exact.mp found
  exact some (segment_unique opens opens' same.symm).1.symm

theorem sealed_outside (outside : Outside cs) : sealed? cs = none := by
  rw [Option.eq_none_iff_forall_ne_some]
  rintro ⟨text, rest⟩ found
  obtain ⟨same, inside, -, opens⟩ := sealed_exact.mp found
  exact outside inside text opens ⟨rest, same⟩

theorem numeric_outside (numeric : Numeric c) (rest : List Char) : Outside (c :: rest) := by
  have other : ∀ d, ¬ Numeric d → c ≠ d := fun d none same => none (same ▸ numeric)
  refine outside_other ⟨other _ (by decide), other _ (by decide)⟩ fun url => ?_
  exact other 'u' (by decide) (List.cons_prefix_cons.mp url).1.symm

end FluidSheet.Length
