import FluidSheet.Proofs.Length.Segment

-- Where no length meets a segment, two ways to cut up a text come together in one.

namespace FluidSheet

def Piece.dissolve : Piece → List Piece
  | .sealed text => text.map .plain
  | piece => [piece]

namespace Length

-- Lengths are cut out of what stands between the segments.
inductive Cutting (unit : List Char) : (parts pieces : List Piece) → Prop where
  | nil : Cutting unit [] []
  | segment (behind : Cutting unit parts pieces) : Cutting unit (.sealed text :: parts) (.sealed text :: pieces)
  | plain (behind : Cutting unit parts pieces) : Cutting unit (.plain c :: parts) (.plain c :: pieces)
  | length (behind : Cutting unit parts pieces) :
      Cutting unit ((number ++ unit).map .plain ++ parts) (.length number :: pieces)

def extent (unit : List Char) (pieces : List Piece) : Nat := (pieces.flatMap (Piece.text unit)).length

-- A length and a segment have a character in common.
def Overlap (unit : List Char) (found parts : List Piece) : Prop :=
  ∃ front number back front' text back', found = front ++ .length number :: back ∧
    parts = front' ++ .sealed text :: back' ∧ extent unit front < extent unit front' + text.length ∧
    extent unit front' < extent unit front + (number ++ unit).length

-- The reading and the scan cut a text up alike, but for the segments.
def InStep (unit cs : List Char) : Prop :=
  ∃ parts pieces, Reads cs parts ∧ Cutting unit parts pieces ∧
    pieces.flatMap Piece.dissolve = (scan unit 0 cs).flatMap Piece.dissolve

variable {unit cs : List Char} {parts pieces front back as bs : List Piece}

theorem extent_nil (unit : List Char) : extent unit [] = 0 := rfl

theorem extent_append (unit : List Char) (as bs : List Piece) :
    extent unit (as ++ bs) = extent unit as + extent unit bs := by
  rw [extent, List.flatMap_append, List.length_append]
  rfl

theorem extent_cons (unit : List Char) (p : Piece) (as : List Piece) :
    extent unit (p :: as) = (p.text unit).length + extent unit as := by
  rw [extent, List.flatMap_cons, List.length_append]
  rfl

theorem plain_text (unit cs : List Char) : (cs.map .plain).flatMap (Piece.text unit) = cs := by
  induction cs with
  | nil => rfl
  | cons c cs ih => exact congrArg (List.cons c) ih

theorem extent_plain (unit cs : List Char) : extent unit (cs.map .plain) = cs.length := by
  rw [extent, plain_text]

theorem dissolve_flatMap {f : Piece → List α} (each : ∀ p : Piece, p.dissolve.flatMap f = f p) (pieces : List Piece) :
    (pieces.flatMap Piece.dissolve).flatMap f = pieces.flatMap f := by
  rw [List.flatMap_assoc]
  exact List.flatMap_congr fun p _ => each p

theorem dissolve_text (unit : List Char) (p : Piece) : p.dissolve.flatMap (Piece.text unit) = p.text unit := by
  cases p with
  | plain | length => exact List.append_nil _
  | sealed text => exact plain_text unit text

theorem plain_front (cs : List Char) (other : ∀ c, p ≠ .plain c) (same : cs.map .plain ++ as = front ++ p :: back) :
    ∃ front', front = cs.map .plain ++ front' ∧ as = front' ++ p :: back := by
  induction cs generalizing front with
  | nil => exact ⟨front, rfl, same⟩
  | cons c cs ih =>
    cases front with
    | nil => exact absurd (List.cons.inj same).1.symm (other c)
    | cons q front =>
      obtain ⟨rfl, later⟩ := List.cons.inj same
      obtain ⟨front', rfl, behind⟩ := ih later
      exact ⟨front', rfl, behind⟩

theorem plain_start (text : pieces.flatMap (Piece.text unit) = cs ++ rest)
    (apart : ∀ front p back, pieces = front ++ p :: back → (∀ c, p ≠ .plain c) → cs.length ≤ extent unit front) :
    ∃ pieces', pieces = cs.map .plain ++ pieces' := by
  induction cs generalizing pieces with
  | nil => exact ⟨pieces, rfl⟩
  | cons c cs ih =>
    cases pieces with
    | nil => cases text
    | cons p pieces =>
      by_cases plain : ∃ d, p = .plain d
      · obtain ⟨d, rfl⟩ := plain
        obtain ⟨rfl, later⟩ := List.cons.inj text
        obtain ⟨pieces', rfl⟩ := ih later fun front p back whole other => by
          have reached := apart (.plain d :: front) p back (congrArg _ whole) other
          rw [extent_cons, List.length_cons] at reached
          have single : (Piece.text unit (.plain d)).length = 1 := rfl
          omega
        exact ⟨pieces', rfl⟩
      · have reached := apart [] p pieces rfl fun d same => plain ⟨d, same⟩
        exact absurd reached (Nat.not_succ_le_zero _)

theorem apart_behind (xs ys : List Piece) (same : xs.flatMap (Piece.text unit) = ys.flatMap (Piece.text unit))
    (whole : (xs ++ as).flatMap (Piece.text unit) = (ys ++ bs).flatMap (Piece.text unit))
    (apart : ¬ Overlap unit (xs ++ as) (ys ++ bs)) :
    as.flatMap (Piece.text unit) = bs.flatMap (Piece.text unit) ∧ ¬ Overlap unit as bs := by
  rw [List.flatMap_append, List.flatMap_append, same] at whole
  refine ⟨List.append_cancel_left whole, ?_⟩
  rintro ⟨front, number, back, front', text, back', rfl, rfl, left, right⟩
  have level : extent unit xs = extent unit ys := congrArg List.length same
  refine apart ⟨xs ++ front, number, back, ys ++ front', text, back', by simp, by simp, ?_, ?_⟩
  · rw [extent_append, extent_append]
    omega
  · rw [extent_append, extent_append]
    omega

theorem dissolve_extent (unit : List Char) (pieces : List Piece) :
    extent unit (pieces.flatMap Piece.dissolve) = extent unit pieces :=
  congrArg List.length (dissolve_flatMap (dissolve_text unit) pieces)

theorem dissolve_split (found : pieces.flatMap Piece.dissolve = front ++ .length number :: back) :
    ∃ before after, pieces = before ++ .length number :: after ∧ before.flatMap Piece.dissolve = front := by
  have other : ∀ c, Piece.length number ≠ .plain c := fun c same => by cases same
  induction pieces generalizing front with
  | nil => exact absurd found.symm (List.append_ne_nil_of_right_ne_nil _ (List.cons_ne_nil _ _))
  | cons p pieces ih =>
    have behind : ∀ front', front = p.dissolve ++ front' → pieces.flatMap Piece.dissolve = front' ++ .length number :: back →
        ∃ before after, p :: pieces = before ++ .length number :: after ∧ before.flatMap Piece.dissolve = front := by
      intro front' whole later
      obtain ⟨before, after, rfl, rfl⟩ := ih later
      exact ⟨p :: before, after, rfl, whole.symm⟩
    cases p with
    | plain c =>
      obtain ⟨front', whole, later⟩ := plain_front [c] other found
      exact behind front' whole later
    | sealed text =>
      obtain ⟨front', whole, later⟩ := plain_front text other found
      exact behind front' whole later
    | length number' =>
      cases front with
      | nil =>
        cases (List.cons.inj found).1
        exact ⟨[], pieces, rfl, rfl⟩
      | cons q front =>
        obtain ⟨rfl, later⟩ := List.cons.inj found
        exact behind front rfl later

theorem overlap_dissolve (unit : List Char) (found parts : List Piece) :
    Overlap unit (found.flatMap Piece.dissolve) parts ↔ Overlap unit found parts := by
  constructor
  · rintro ⟨front, number, back, front', text, back', whole, rest⟩
    obtain ⟨before, after, rfl, rfl⟩ := dissolve_split whole
    rw [dissolve_extent] at rest
    exact ⟨before, number, after, front', text, back', rfl, rest⟩
  · rintro ⟨front, number, back, front', text, back', rfl, rest⟩
    refine ⟨front.flatMap Piece.dissolve, number, back.flatMap Piece.dissolve, front', text, back', ?_, ?_⟩
    · rw [List.flatMap_append, List.flatMap_cons]
      rfl
    · rw [dissolve_extent]
      exact rest

theorem cutting_apart (cutting : Cutting unit parts pieces) : ¬ Overlap unit (pieces.flatMap Piece.dissolve) parts := by
  rintro ⟨front, number, back, front', text, back', found, read, left, right⟩
  have length : ∀ c, Piece.length number ≠ .plain c := fun c same => by cases same
  have segment : ∀ c, Piece.sealed text ≠ .plain c := fun c same => by cases same
  induction cutting generalizing front front' with
  | nil => exact absurd found.symm (List.append_ne_nil_of_right_ne_nil _ (List.cons_ne_nil _ _))
  | @segment parts pieces text' _ ih =>
    obtain ⟨front, rfl, later⟩ := plain_front text' length found
    rw [extent_append, extent_plain] at left right
    cases front' with
    | nil =>
      cases read
      rw [extent_nil] at left
      omega
    | cons p front' =>
      obtain ⟨rfl, behind⟩ := List.cons.inj read
      rw [extent_cons, Piece.text] at left right
      exact ih front front' later behind (by omega) (by omega)
  | @plain parts pieces c _ ih =>
    obtain ⟨front, rfl, later⟩ := plain_front [c] length found
    obtain ⟨front', rfl, behind⟩ := plain_front [c] segment read
    rw [extent_append, extent_append] at left right
    exact ih front front' later behind (by omega) (by omega)
  | @length parts pieces number' _ ih =>
    obtain ⟨front', rfl, behind⟩ := plain_front (number' ++ unit) segment read
    rw [extent_append, extent_plain] at left right
    cases front with
    | nil =>
      cases (List.cons.inj found).1
      rw [extent_nil] at right
      omega
    | cons p front =>
      obtain ⟨rfl, later⟩ := List.cons.inj found
      rw [extent_cons, Piece.text] at left right
      exact ih front front' later behind (by omega) (by omega)

def Solid (parts : List Piece) : Prop :=
  ∀ p ∈ parts, (∃ c, p = .plain c) ∨ ∃ text, p = .sealed text ∧ text ≠ []

def Found (pieces : List Piece) : Prop :=
  ∀ p ∈ pieces, (∃ c, p = .plain c) ∨ ∃ number, p = .length number ∧ number ≠ []

theorem reads_solid (reads : Reads cs parts) : Solid parts := by
  induction reads with
  | nil => exact fun _ none => by cases none
  | segment opens _ ih => exact List.forall_mem_cons.mpr ⟨.inr ⟨_, rfl, segment_some opens⟩, ih⟩
  | plain _ _ ih => exact List.forall_mem_cons.mpr ⟨.inl ⟨_, rfl⟩, ih⟩

theorem scan_found (unit cs : List Char) : Found ((scan unit 0 cs).flatMap Piece.dissolve) := by
  intro p member
  obtain ⟨q, known, inside⟩ := List.mem_flatMap.mp member
  cases q with
  | plain c => exact .inl ⟨c, List.mem_singleton.mp inside⟩
  | sealed text =>
    obtain ⟨c, _, rfl⟩ := List.mem_map.mp inside
    exact .inl ⟨c, rfl⟩
  | length number =>
    obtain ⟨front, d, rfl, _⟩ := scan_numbers unit cs number known
    exact .inr ⟨_, List.mem_singleton.mp inside, by simp⟩

theorem segment_start (found : Found as) (whole : as.flatMap (Piece.text unit) = text ++ rest)
    (apart : ¬ Overlap unit as (.sealed text :: parts)) : ∃ as', as = text.map .plain ++ as' := by
  refine plain_start whole fun front p back split other => ?_
  rcases found p (by simp [split]) with ⟨c, rfl⟩ | ⟨number, rfl, long⟩
  · exact absurd rfl (other c)
  · by_contra early
    refine apart ⟨front, number, back, [], text, parts, split, rfl, ?_, ?_⟩
    · rw [extent_nil]
      omega
    · have taken := List.length_pos_of_ne_nil long
      rw [extent_nil, List.length_append]
      omega

theorem length_start (solid : Solid parts) (whole : parts.flatMap (Piece.text unit) = (number ++ unit) ++ rest)
    (apart : ¬ Overlap unit (.length number :: as) parts) : ∃ parts', parts = (number ++ unit).map .plain ++ parts' := by
  refine plain_start whole fun front p back split other => ?_
  rcases solid p (by simp [split]) with ⟨c, rfl⟩ | ⟨text, rfl, long⟩
  · exact absurd rfl (other c)
  · by_contra early
    refine apart ⟨[], number, as, front, text, back, rfl, split, ?_, ?_⟩
    · have taken := List.length_pos_of_ne_nil long
      rw [extent_nil]
      omega
    · rw [extent_nil]
      omega

-- Two ways to cut up one text come together, where no length of the one meets a segment of the other.
theorem cutting_exists (found : Found as) (solid : Solid parts)
    (whole : as.flatMap (Piece.text unit) = parts.flatMap (Piece.text unit)) (apart : ¬ Overlap unit as parts) :
    ∃ pieces, Cutting unit parts pieces ∧ pieces.flatMap Piece.dissolve = as := by
  -- By length, as a segment takes the place of several pieces and a length that of several parts.
  induction size : as.length using Nat.strong_induction_on generalizing as parts with
  | _ n ih =>
    cases as with
    | nil =>
      cases parts with
      | nil => exact ⟨[], .nil, rfl⟩
      | cons p parts =>
        rcases solid p List.mem_cons_self with ⟨c, rfl⟩ | ⟨text, rfl, some⟩
        · cases whole
        · exact absurd (List.append_eq_nil_iff.mp whole.symm).1 some
    | cons a as =>
      rcases found a List.mem_cons_self with ⟨c, rfl⟩ | ⟨number, rfl, _⟩
      · cases parts with
        | nil => cases whole
        | cons p parts =>
          have solid' : Solid parts := fun q member => solid q (List.mem_cons_of_mem _ member)
          rcases solid p List.mem_cons_self with ⟨d, rfl⟩ | ⟨text, rfl, some⟩
          · obtain ⟨rfl, -⟩ := List.cons.inj whole
            obtain ⟨later, apart⟩ := apart_behind [.plain c] [.plain c] rfl whole apart
            obtain ⟨pieces, cutting, rfl⟩ := ih as.length (by simp [← size])
              (fun q member => found q (List.mem_cons_of_mem _ member)) solid' later apart rfl
            exact ⟨.plain c :: pieces, .plain cutting, rfl⟩
          · obtain ⟨as', split⟩ : ∃ as', .plain c :: as = text.map .plain ++ as' := segment_start found whole apart
            rw [split] at found whole apart size ⊢
            obtain ⟨later, apart⟩ := apart_behind (text.map .plain) [.sealed text]
              ((plain_text unit text).trans (List.append_nil text).symm) whole apart
            have taken := List.length_pos_of_ne_nil some
            rw [List.length_append, List.length_map] at size
            obtain ⟨pieces, cutting, rfl⟩ := ih as'.length (by omega)
              (fun q member => found q (List.mem_append_right _ member)) solid' later apart rfl
            exact ⟨.sealed text :: pieces, .segment cutting, rfl⟩
      · obtain ⟨parts', rfl⟩ := length_start solid whole.symm apart
        obtain ⟨later, apart⟩ := apart_behind [.length number] ((number ++ unit).map .plain)
          ((List.append_nil _).trans (plain_text unit _).symm) whole apart
        obtain ⟨pieces, cutting, rfl⟩ := ih as.length (by simp [← size])
          (fun q member => found q (List.mem_cons_of_mem _ member))
          (fun q member => solid q (List.mem_append_right _ member)) later apart rfl
        exact ⟨.length number :: pieces, .length cutting, rfl⟩

-- Scan and reading are in step exactly where no length reaches into a segment.
theorem inStep_exact (unit cs : List Char) :
    InStep unit cs ↔ ¬ ∃ parts, Reads cs parts ∧ Overlap unit (scan unit 0 cs) parts := by
  constructor
  · rintro ⟨parts, pieces, reads, cutting, same⟩ ⟨parts', reads', overlap⟩
    rw [reads_unique reads' reads, ← overlap_dissolve, ← same] at overlap
    exact cutting_apart cutting overlap
  · intro apart
    obtain ⟨parts, reads⟩ := reads_exists cs
    have whole : ((scan unit 0 cs).flatMap Piece.dissolve).flatMap (Piece.text unit) = parts.flatMap (Piece.text unit) := by
      rw [dissolve_flatMap (dissolve_text unit), scan_text, reads_text reads]
    obtain ⟨pieces, cutting, same⟩ := cutting_exists (scan_found unit cs) (reads_solid reads) whole
      fun overlap => apart ⟨parts, reads, (overlap_dissolve unit _ _).mp overlap⟩
    exact ⟨parts, pieces, reads, cutting, same⟩

end Length
end FluidSheet
