import FluidSheet.Proofs.Files.Way

-- Where the same directories stand, the same paths lead somewhere.

namespace FluidSheet.Files
variable {f g : Files} {path : String}

def Level (f g : Files) : Prop := ∀ w, f.isDirectory w = g.isDirectory w

theorem holds_exact : holds above w = true ↔ above <+: w ∧ above.length < w.length := by
  rw [holds, Bool.and_eq_true, List.isPrefixOf_iff_prefix, decide_eq_true_eq]

theorem directory_exact : (d = w || holds w d) = true ↔ w <+: d := by
  rw [Bool.or_eq_true, decide_eq_true_eq, holds_exact]
  constructor
  · rintro (rfl | inside)
    · exact List.prefix_rfl
    · exact inside.1
  · intro above
    rcases Nat.eq_or_lt_of_le above.length_le with same | shorter
    · exact .inl (above.eq_of_length same).symm
    · exact .inr ⟨above, shorter⟩

theorem isDirectory_exact : f.isDirectory w = true ↔ (w.all (· = "..") = true ∨ w = ["/"]) ∨
    (∃ d ∈ f.directories, w <+: d) ∨ ∃ entry ∈ f.texts, holds w entry.1 = true := by
  simp only [isDirectory, Bool.or_eq_true, List.any_eq_true, decide_eq_true_eq, ← directory_exact, or_assoc]

theorem isDirectory_above (below : f.isDirectory w = true) (above : v <+: w) : f.isDirectory v = true := by
  rw [isDirectory_exact] at below ⊢
  rcases below with (upwards | root) | ⟨d, member, inside⟩ | ⟨entry, member, inside⟩
  · rw [List.all_eq_true] at upwards ⊢
    exact .inl (.inl fun part member => upwards part (above.mem member))
  · subst root
    rcases List.prefix_cons_iff.mp above with rfl | ⟨rest, rfl, none⟩
    · exact .inl (.inl rfl)
    · rw [List.prefix_nil.mp none]
      exact .inl (.inr rfl)
  · exact .inr (.inl ⟨d, member, above.trans inside⟩)
  · obtain ⟨further, shorter⟩ := holds_exact.mp inside
    exact .inr (.inr ⟨entry, member, holds_exact.mpr ⟨above.trans further, above.length_le.trans_lt shorter⟩⟩)

theorem start_directory (f : Files) (path : String) : f.isDirectory (start path) = true := by
  unfold start
  split <;> exact isDirectory_exact.mpr (.inl (by decide))

theorem enter_inside (above : v <+: enter w part) (other : v ≠ enter w part) : v <+: w := by
  unfold enter at above other
  split at above
  · exact above
  · rename_i solid
    rw [if_neg solid] at other
    split at above
    · rename_i down
      rw [if_pos down] at other
      exact (List.prefix_concat_iff.mp above).resolve_left other
    · rename_i up
      rw [if_neg up] at other
      split at above
      · exact above
      · rename_i low
        rw [if_neg low] at other
        split at above
        · rename_i out
          rw [if_pos out] at other
          exact (List.prefix_concat_iff.mp above).resolve_left other
        · exact above.trans (List.dropLast_prefix w)

theorem go_inside (here : f.isDirectory above = true) (found : f.go above parts = .ok w) (inside : v <+: w)
    (other : v ≠ w) : f.isDirectory v = true := by
  induction parts generalizing above with
  | nil =>
    cases found
    exact isDirectory_above here inside
  | cons part rest ih =>
    by_cases next : f.isDirectory (enter above part) = true
    · rw [go, next, Bool.or_true, if_pos rfl] at found
      exact ih next found
    · cases rest with
      | nil =>
        cases found
        exact isDirectory_above here (enter_inside inside other)
      | cons part' rest =>
        rw [go, Bool.eq_false_iff.mpr next] at found
        simp only [List.isEmpty_cons, Bool.or_self, Bool.false_eq_true, if_false] at found
        split at found <;> cases found

theorem resolve_inside (found : f.resolve path = .ok w) (inside : holds v w = true) : f.isDirectory v = true := by
  unfold resolve at found
  split at found
  · cases found
  · obtain ⟨above, shorter⟩ := holds_exact.mp inside
    exact go_inside (start_directory f path) found above fun same => Nat.lt_irrefl _ (same ▸ shorter)

theorem put_member {w : Way} {texts : List (Way × String)} (member : entry ∈ put w text texts) :
    entry.1 = w ∨ entry ∈ texts := by
  induction texts with
  | nil =>
    rw [List.mem_singleton.mp member]
    exact .inl rfl
  | cons first rest ih =>
    rw [put] at member
    split at member
    · rcases List.mem_cons.mp member with rfl | old
      · exact .inl rfl
      · exact .inr (List.mem_cons_of_mem _ old)
    · rcases List.mem_cons.mp member with rfl | later
      · exact .inr List.mem_cons_self
      · exact (ih later).imp_right (List.mem_cons_of_mem _)

theorem write_level (written : f.write path text = .ok g) : Level g f := by
  intro w
  obtain ⟨resolved, _, rfl⟩ := write_exact.mp written
  rw [Bool.eq_iff_iff]
  refine ⟨fun there => ?_, put_grown f (way path) text w⟩
  rcases isDirectory_exact.mp there with outer | made | ⟨entry, member, inside⟩
  · exact isDirectory_exact.mpr (.inl outer)
  · exact isDirectory_exact.mpr (.inr (.inl made))
  · rcases put_member member with here | old
    · rw [here] at inside
      exact resolve_inside resolved inside
    · exact isDirectory_exact.mpr (.inr (.inr ⟨entry, old, inside⟩))

namespace Level

theorem symm (level : Level f g) : Level g f := fun w => (level w).symm

theorem trans (first : Level f g) (second : Level g h) : Level f h := fun w => (first w).trans (second w)

theorem resolve (level : Level f g) (path : String) : f.resolve path = .ok w ↔ g.resolve path = .ok w :=
  ⟨resolve_grown fun w there => level w ▸ there, resolve_grown fun w there => (level w).symm ▸ there⟩

theorem read (level : Level f g) (same : f.text? (way path) = g.text? (way path)) :
    f.read path = .ok text ↔ g.read path = .ok text := by
  rw [read_exact, read_exact, level.resolve, same]

theorem write (level : Level f g) (path text : String) :
    (∃ f', f.write path text = .ok f') ↔ ∃ g', g.write path text = .ok g' := by
  simp only [write_exact, level.resolve, level (way path), exists_and_left, exists_eq, and_true]

end Level
end FluidSheet.Files
