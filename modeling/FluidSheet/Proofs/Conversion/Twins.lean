import FluidSheet.Proofs.Conversion.Repeat

-- Two declarations of one property that come to one value are twins; the second one is kept back.

namespace FluidSheet.Settings
variable {s : Settings} {c : Context}

def final (s : Settings) (c : Context) (d : Declaration) : String := (s.wanted? c d).getD d.value

-- Not of one property and one value in the end, unless both have it from the start.
def Apart (s : Settings) (c : Context) (a b : Declaration) : Prop :=
  a.prop = b.prop → s.final c a = s.final c b → s.wanted? c a = none ∧ s.wanted? c b = none

def NoTwins (s : Settings) (c : Context) (ds : List Declaration) : Prop := ds.Pairwise (s.Apart c)

theorem apart_symm (apart : s.Apart c a b) : s.Apart c b a := by
  intro prop same
  obtain ⟨first, second⟩ := apart prop.symm same.symm
  exact ⟨second, first⟩

theorem noTwins_middle : s.NoTwins c (before ++ d :: after) ↔
    (∀ e ∈ before ++ after, s.Apart c d e) ∧ s.NoTwins c (before ++ after) := by
  rw [NoTwins, List.pairwise_middle apart_symm, List.pairwise_cons]
  rfl

theorem final_none (unwanted : s.wanted? c d = none) : s.final c d = d.value := by rw [final, unwanted, Option.getD_none]

theorem final_some (wanted : s.wanted? c d = some value) : s.final c d = value := by rw [final, wanted, Option.getD_some]

theorem kept_twin {d e : Declaration} {others : List Declaration} (stable : s.Stable c d)
    (wanted : s.wanted? c d = some value) (member : e ∈ others) (prop : e.prop = d.prop) (here : e.value = value) :
    ¬ ∀ e ∈ others, s.Apart c d e := by
  intro apart
  have settled := answer_kept stable wanted prop here
  have alike := apart e member prop.symm (by rw [final_some wanted, final_none settled, here])
  rw [wanted] at alike
  cases alike.1

-- A declaration has the same twins before and after its conversion, as long as it is free to be converted.
theorem apart_settled (stable : s.Stable c d) (wanted : s.wanted? c d = some value)
    (free : e.prop = d.prop → s.wanted? c e = none → e.value ≠ value) :
    s.Apart c (d.withValue value) e ↔ s.Apart c d e := by
  have once := stable_once stable wanted
  constructor
  · intro twin prop same
    rw [final_some wanted] at same
    have unwanted := (twin prop (by rw [final_none once, ← same]; rfl)).2
    exact absurd (by rw [same, final_none unwanted]) (free prop.symm unwanted)
  · intro twin prop same
    rw [final_none once] at same
    have unwanted := (twin prop (by rw [final_some wanted, ← same]; rfl)).1
    rw [wanted] at unwanted
    cases unwanted

def others (done rest : List Node) : List Declaration :=
  done.reverse.filterMap Node.declaration? ++ rest.filterMap Node.declaration?

theorem mem_others : .declaration e ∈ done ++ .declaration d :: rest ↔ e = d ∨ e ∈ others done rest := by
  simp only [others, List.mem_append, List.mem_cons, Node.mem_declarations, List.mem_reverse, Node.declaration.injEq]
  exact or_left_comm

theorem noTwins_place : s.NoTwins c ((done.reverse ++ [Node.declaration d] ++ rest).filterMap Node.declaration?) ↔
    (∀ e ∈ others done rest, s.Apart c d e) ∧ s.NoTwins c (others done rest) := by
  have split : (done.reverse ++ [Node.declaration d] ++ rest).filterMap Node.declaration? =
      done.reverse.filterMap Node.declaration? ++ d :: rest.filterMap Node.declaration? := by
    simp [Node.declaration?]
  rw [split, noTwins_middle]
  rfl

theorem settle_twins (replace : s.replace = true) (stable : s.Stable c d) :
    (∀ e, .declaration e ∈ s.settle c (done ++ .declaration d :: rest) d → s.wanted? c e = none) ∧
      s.NoTwins c ((done.reverse ++ s.settle c (done ++ .declaration d :: rest) d ++ rest).filterMap Node.declaration?) ↔
    s.NoTwins c ((done.reverse ++ [Node.declaration d] ++ rest).filterMap Node.declaration?) := by
  rcases settle_cases s c (done ++ .declaration d :: rest) d with ⟨settled, found⟩ | ⟨value, wanted, free, settled⟩
  · rw [settled, noTwins_place]
    constructor
    · exact fun h => h.2
    · intro apart
      refine ⟨?_, apart⟩
      intro e here
      cases List.mem_singleton.mp here
      rw [Option.eq_none_iff_forall_ne_some]
      intro value wanted
      obtain ⟨e, member, prop, same⟩ := declares_exact.mp (found value wanted)
      rcases mem_others.mp member with rfl | other
      · obtain ⟨_, _, _, _, changed⟩ := wanted_exact.mp wanted
        exact changed same.symm
      · exact kept_twin stable wanted other prop same apart.1
  · rw [replace, if_pos rfl, List.nil_append] at settled
    have alike : ∀ e ∈ others done rest, (s.Apart c (d.withValue value) e ↔ s.Apart c d e) := by
      intro e member
      apply apart_settled stable wanted
      intro prop _ here
      have taken : declares (done ++ .declaration d :: rest) d.prop value = true :=
        declares_exact.mpr ⟨e, mem_others.mpr (.inr member), prop, here⟩
      rw [free] at taken
      cases taken
    rw [settled, noTwins_place, noTwins_place]
    constructor
    · rintro ⟨_, twins, rest⟩
      exact ⟨fun e member => (alike e member).mp (twins e member), rest⟩
    · rintro ⟨twins, rest⟩
      refine ⟨?_, fun e member => (alike e member).mpr (twins e member), rest⟩
      intro e here
      cases List.mem_singleton.mp here
      exact stable_once stable wanted

theorem reach_twins (done : List Node) (replace : s.replace = true) (unmarked : Unmarked (done ++ rest))
    (stable : ∀ d, .declaration d ∈ rest → s.Stable c d) :
    (∀ d, .declaration d ∈ (s.reach c ⟨done, false⟩ rest []).done → s.wanted? c d = none) ↔
      (∀ d, .declaration d ∈ done → s.wanted? c d = none) ∧
        s.NoTwins c ((done.reverse ++ rest).filterMap Node.declaration?) := by
  induction rest generalizing done with
  | nil =>
    have settled : (∀ d, .declaration d ∈ done → s.wanted? c d = none) →
        s.NoTwins c ((done.reverse ++ []).filterMap Node.declaration?) := by
      intro unwanted
      refine List.pairwise_of_forall_mem_list fun a first b second _ _ => ⟨unwanted a ?_, unwanted b ?_⟩
      · simpa using Node.mem_declarations.mp first
      · simpa using Node.mem_declarations.mp second
    exact ⟨fun unwanted => ⟨unwanted, settled unwanted⟩, fun h => h.1⟩
  | cons n rest ih =>
    have moved := advance_unmarked (s := s) (c := c) unmarked
    rw [reach, List.append_nil, moved, ih _ (unmarked_settle _ unmarked) fun d member => stable d (List.mem_cons_of_mem _ member),
      List.reverse_append, List.reverse_reverse]
    cases n with
    | declaration d =>
      rw [List.append_cons done.reverse, ← settle_twins replace (stable d List.mem_cons_self), ← and_assoc]
      refine and_congr_left fun _ => ?_
      simp only [settleNode, List.mem_append, List.mem_reverse, or_imp, forall_and]
      exact and_comm
    | rule | atRule | comment => simp [settleNode]

-- Replacing leaves nothing to convert in a rule exactly when it has no twins.
theorem convertNodes_twins (replace : s.replace = true) (unmarked : Unmarked nodes)
    (stable : ∀ d, .declaration d ∈ nodes → s.Stable c d) :
    (∀ d, .declaration d ∈ (s.convertNodes c nodes).1 → s.wanted? c d = none) ↔
      s.NoTwins c (nodes.filterMap Node.declaration?) := by
  have run := reach_twins (c := c) [] replace unmarked stable
  simpa [convertNodes_reach] using run

end FluidSheet.Settings
