import Mathlib
import FluidSheet.Pattern.Basic

-- A place that can be reached in several ways is listed for each of them.

namespace FluidSheet.Pattern

-- A repetition goes on only from further places, so one of a pattern that can stay has no ways here.
inductive Ways : Pattern → Place → List Place → Prop where
  | empty : Ways .empty p [p]
  | takes (here : p.rest = c :: rest) (member : s.has c = true) : Ways (.set s) p [⟨some c, rest, p.left - 1⟩]
  | stops (other : ∀ c ∈ p.rest.head?, s.has c = false) : Ways (.set s) p []
  | holds (check : k.holds p = true) : Ways (.check k) p [p]
  | fails (check : k.holds p = false) : Ways (.check k) p []
  | seq (first : Ways a p qs) (onward : ∀ q ∈ qs, Ways b q (f q)) : Ways (.seq a b) p (qs.flatMap f)
  | either (first : Ways a p xs) (second : Ways b p ys) : Ways (.either a b) p (xs ++ ys)
  | required (once : Ways a p qs) (onward : ∀ q ∈ qs, Ways (.repeated a n (Walk.fewer most) lazily) q (f q)) :
      Ways (.repeated a (n + 1) most lazily) p (qs.flatMap f)
  | enough : Ways (.repeated a 0 (some 0) lazily) p [p]
  | greedy (more : most ≠ some 0) (once : Ways a p qs) (further : ∀ q ∈ qs, q.left < p.left)
      (onward : ∀ q ∈ qs, Ways (.repeated a 0 (Walk.fewer most) false) q (f q)) :
      Ways (.repeated a 0 most false) p (qs.flatMap f ++ [p])
  | lazy (more : most ≠ some 0) (once : Ways a p qs) (further : ∀ q ∈ qs, q.left < p.left)
      (onward : ∀ q ∈ qs, Ways (.repeated a 0 (Walk.fewer most) true) q (f q)) :
      Ways (.repeated a 0 most true) p (p :: qs.flatMap f)

variable {a b c : Pattern} {p : Place} {xs ys : List Place}

-- There is one order.
theorem ways_unique (ways : Ways a p xs) (other : Ways a p ys) : xs = ys := by
  induction ways generalizing ys with
  | empty => cases other; rfl
  | takes here member =>
    cases other with
    | takes here' => rw [here] at here'; cases here'; rfl
    | stops none =>
      rw [none _ (by rw [here]; rfl)] at member
      cases member
  | stops none =>
    cases other with
    | takes here member =>
      rw [none _ (by rw [here]; rfl)] at member
      cases member
    | stops => rfl
  | holds check =>
    cases other with
    | holds => rfl
    | fails none => rw [check] at none; cases none
  | fails none =>
    cases other with
    | holds check => rw [check] at none; cases none
    | fails => rfl
  | seq _ _ ih ihs =>
    cases other with
    | seq first onward =>
      cases ih first
      exact List.flatMap_congr fun q member => ihs q member (onward q member)
  | either _ _ ih ih' =>
    cases other with
    | either first second => rw [ih first, ih' second]
  | required _ _ ih ihs =>
    cases other with
    | required once onward =>
      cases ih once
      exact List.flatMap_congr fun q member => ihs q member (onward q member)
  | enough =>
    cases other with
    | enough => rfl
    | greedy more => exact absurd rfl more
    | lazy more => exact absurd rfl more
  | greedy more _ _ _ ih ihs =>
    cases other with
    | enough => exact absurd rfl more
    | greedy _ once _ onward =>
      cases ih once
      rw [List.flatMap_congr fun q member => ihs q member (onward q member)]
  | lazy more _ _ _ ih ihs =>
    cases other with
    | enough => exact absurd rfl more
    | lazy _ once _ onward =>
      cases ih once
      rw [List.flatMap_congr fun q member => ihs q member (onward q member)]

theorem ways_assoc (ways : Ways (.seq a (.seq b c)) p xs) : Ways (.seq (.seq a b) c) p xs := by
  cases ways with
  | seq first onward =>
    rename_i qs f
    have steps : ∀ q, ∃ rs, q ∈ qs → Ways b q rs ∧ ∃ g, (∀ r ∈ rs, Ways c r (g r)) ∧ f q = rs.flatMap g := by
      intro q
      by_cases member : q ∈ qs
      · have there := onward q member
        generalize f q = ys at there
        cases there with
        | seq second third => exact ⟨_, fun _ => ⟨second, _, third, rfl⟩⟩
      · exact ⟨[], fun here => absurd here member⟩
    choose middle second using steps
    -- The places to go on from come up behind several, and lead on alike.
    have ends : ∀ r, ∃ ys, (∃ q ∈ qs, r ∈ middle q) → Ways c r ys := by
      intro r
      by_cases reached : ∃ q ∈ qs, r ∈ middle q
      · obtain ⟨q, member, found⟩ := reached
        obtain ⟨-, g, third, -⟩ := second q member
        exact ⟨g r, fun _ => third r found⟩
      · exact ⟨[], fun here => absurd here reached⟩
    choose last third using ends
    have same : qs.flatMap f = (qs.flatMap middle).flatMap last := by
      rw [List.flatMap_assoc]
      refine List.flatMap_congr fun q member => ?_
      obtain ⟨-, g, third', same⟩ := second q member
      rw [same]
      exact List.flatMap_congr fun r found => ways_unique (third' r found) (third r ⟨q, member, found⟩)
    rw [same]
    refine .seq (.seq first fun q member => (second q member).1) fun r member => ?_
    exact third r (List.mem_flatMap.mp member)

-- Patterns in turn, in the brackets that they are read in.
def chain : List Pattern → Pattern
  | [] => .empty
  | p :: ps => ps.foldl .seq p

theorem ways_chain (ps : List Pattern) (ways : Ways (.seq a (chain ps)) p xs) : Ways (chain (a :: ps)) p xs := by
  cases ps with
  | nil =>
    cases ways with
    | seq first onward =>
      rename_i qs f
      have stay : qs.flatMap f = qs.flatMap fun q => [q] :=
        List.flatMap_congr fun q member => ways_unique (onward q member) .empty
      rw [stay, List.flatMap_singleton']
      exact first
  | cons b ps =>
    change Ways (ps.foldl .seq (.seq a b)) p xs
    change Ways (.seq a (ps.foldl .seq b)) p xs at ways
    induction ps using List.reverseRecOn generalizing xs with
    | nil => exact ways
    | append_singleton ps c ih =>
      rw [List.foldl_append] at ways ⊢
      cases ways_assoc ways with
      | seq first onward => exact .seq (ih first) onward

def Through (a b : Pattern) (p middle q : Place) : Prop :=
  ∃ (qs : List Place) (f : Place → List Place), Ways a p qs ∧ (∀ x ∈ qs, Ways b x (f x)) ∧
    qs.find? (fun x => !(f x).isEmpty) = some middle ∧ (f middle).head? = some q

theorem through_unique (through : Through a b p middle q) (other : Through a b p middle' q') : middle = middle' ∧ q = q' := by
  obtain ⟨qs, f, first, onward, found, there⟩ := through
  obtain ⟨qs', g, first', onward', found', there'⟩ := other
  cases ways_unique first first'
  have same : ∀ x ∈ qs, f x = g x := fun x member => ways_unique (onward x member) (onward' x member)
  have find : qs.find? (fun x => !(f x).isEmpty) = qs.find? (fun x => !(g x).isEmpty) := by
    clear found found' onward onward' first first'
    induction qs with
    | nil => rfl
    | cons x qs ih =>
      rw [List.find?_cons, List.find?_cons, same x List.mem_cons_self, ih fun x member => same x (List.mem_cons_of_mem _ member)]
  rw [find, found'] at found
  cases found
  rw [same _ (List.mem_of_find?_eq_some found'), there'] at there
  cases there
  exact ⟨rfl, rfl⟩

-- The same is found first in both; they may differ in what comes up again.
def Alike (xs ys : List α) : Prop := ∀ p : α → Bool, xs.find? p = ys.find? p

namespace Alike
variable {xs ys zs : List α} {f g : α → List β}

theorem refl (xs : List α) : Alike xs xs := fun _ => rfl

theorem symm (alike : Alike xs ys) : Alike ys xs := fun p => (alike p).symm

theorem trans (alike : Alike xs ys) (alike' : Alike ys zs) : Alike xs zs := fun p => (alike p).trans (alike' p)

theorem append (alike : Alike xs ys) (alike' : Alike xs' ys') : Alike (xs ++ xs') (ys ++ ys') := by
  intro p
  rw [List.find?_append, List.find?_append, alike, alike']

theorem again (xs ys : List α) : Alike (xs ++ (xs ++ ys)) (xs ++ ys) := by
  intro p
  rw [List.find?_append, List.find?_append]
  cases xs.find? p <;> rfl

theorem mem [DecidableEq α] (alike : Alike xs ys) : x ∈ xs ↔ x ∈ ys := by
  have found := alike (· == x)
  constructor
  · intro member
    have some : (xs.find? (· == x)).isSome = true := List.find?_isSome.mpr ⟨x, member, beq_self_eq_true x⟩
    rw [found] at some
    obtain ⟨y, member, same⟩ := List.find?_isSome.mp some
    cases eq_of_beq same
    exact member
  · intro member
    have some : (ys.find? (· == x)).isSome = true := List.find?_isSome.mpr ⟨x, member, beq_self_eq_true x⟩
    rw [← found] at some
    obtain ⟨y, member, same⟩ := List.find?_isSome.mp some
    cases eq_of_beq same
    exact member

theorem head (alike : Alike xs ys) : xs.head? = ys.head? := by
  cases xs with
  | nil =>
    cases ys with
    | nil => rfl
    | cons => cases alike fun _ => true
  | cons =>
    cases ys with
    | nil => cases alike fun _ => true
    | cons => exact alike fun _ => true

theorem findSome (alike : Alike xs ys) (f : α → Option β) : xs.findSome? f = ys.findSome? f := by
  have split : ∀ xs : List α, xs.findSome? f = (xs.find? fun x => (f x).isSome).bind f := by
    intro xs
    induction xs with
    | nil => rfl
    | cons x xs ih =>
      rw [List.findSome?_cons, List.find?_cons, ih]
      cases found : f x <;> simp [found]
  rw [split, split, alike]

theorem flatMap (alike : Alike xs ys) (onward : ∀ x ∈ xs, Alike (f x) (g x)) : Alike (xs.flatMap f) (ys.flatMap g) := by
  intro p
  rw [List.find?_flatMap, List.find?_flatMap, ← alike.findSome]
  clear alike
  induction xs with
  | nil => rfl
  | cons x xs ih =>
    rw [List.findSome?_cons, List.findSome?_cons, onward x List.mem_cons_self p,
      ih fun x member => onward x (List.mem_cons_of_mem _ member)]

theorem map (alike : Alike xs ys) (f : α → β) : Alike (xs.map f) (ys.map f) := by
  rw [List.map_eq_flatMap, List.map_eq_flatMap]
  exact alike.flatMap fun x _ => refl _

end Alike
end FluidSheet.Pattern
