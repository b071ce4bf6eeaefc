import Mathlib
import FluidSheet.Conversion.PropertyList

namespace FluidSheet

namespace Text

theorem occursIn_exact : occursIn needle cs = true ↔ needle <:+: cs := by
  induction cs with
  | nil => rw [occursIn, List.isEmpty_iff, List.infix_nil]
  | cons c cs ih => rw [occursIn, Bool.or_eq_true, ih, List.isPrefixOf_iff_prefix, List.infix_cons_iff]

end Text

namespace PropertyTest

-- The forms of a body. No body has two of them, so nothing hangs on the order they are tried in.
inductive Written : List Char → PropertyTest → Prop where
  | contains (nonempty : t ≠ []) : Written ('*' :: (t ++ ['*'])) (.contains t)
  | endsWith (nonempty : t ≠ []) (starless : '*' ∉ t) : Written ('*' :: t) (.endsWith t)
  | startsWith (nonempty : t ≠ []) (starless : '*' ∉ t) (bangless : '!' ∉ t) : Written (t ++ ['*']) (.startsWith t)
  | equals (nonempty : t ≠ []) (starless : '*' ∉ t) (bangless : '!' ∉ t) : Written t (.equals t)

def Holds (test : PropertyTest) (name : List Char) : Prop :=
  match test with
  | .equals text => name = text
  | .contains text => text <:+: name
  | .startsWith text => text <+: name
  | .endsWith text => text <:+ name

theorem accepts_exact {test : PropertyTest} : test.accepts name = true ↔ test.Holds name := by
  cases test with
  | equals text => exact decide_eq_true_iff
  | contains text => exact Text.occursIn_exact
  | startsWith text => exact List.isPrefixOf_iff_prefix
  | endsWith text => exact List.isSuffixOf_iff_suffix

theorem plainText_exact : plainText t = true ↔ t ≠ [] ∧ '*' ∉ t := by
  simp [plainText]

theorem plainHead_exact : plainHead t = true ↔ t ≠ [] ∧ '*' ∉ t ∧ '!' ∉ t := by
  simp [plainHead, plainText_exact, and_assoc]

theorem head_unstarred (nonempty : t ≠ []) (starless : '*' ∉ t) (rest : List Char) : (t ++ rest).head? ≠ some '*' := by
  obtain ⟨c, t, rfl⟩ := List.exists_cons_of_ne_nil nonempty
  rintro ⟨rfl⟩
  exact starless List.mem_cons_self

theorem last_unstarred (nonempty : t ≠ []) (starless : '*' ∉ t) (front : List Char) :
    (front ++ t).getLast? ≠ some '*' := by
  rw [List.getLast?_append_of_ne_nil _ nonempty]
  exact fun last => starless (List.mem_of_getLast? last)

theorem written_body (written : Written body test) : ofBody? body = some test := by
  cases written with
  | @contains t nonempty =>
    have long : 3 ≤ ('*' :: (t ++ ['*'])).length := by
      have := List.length_pos_iff.mpr nonempty
      simp
      omega
    have last : ('*' :: (t ++ ['*'])).getLast? = some '*' := by
      rw [← List.cons_append, List.getLast?_concat]
    rw [ofBody?, if_pos ⟨long, rfl, last⟩, List.drop_one, List.tail_cons, List.dropLast_concat]
  | @endsWith t nonempty starless =>
    have last : ('*' :: t).getLast? ≠ some '*' := last_unstarred nonempty starless ['*']
    have plain := plainText_exact.mpr ⟨nonempty, starless⟩
    rw [ofBody?, if_neg fun h => last h.2.2, if_pos (List.head?_cons ..), List.drop_one, List.tail_cons, if_pos plain]
  | @startsWith t nonempty starless bangless =>
    have head := head_unstarred nonempty starless ['*']
    have plain := plainHead_exact.mpr ⟨nonempty, starless, bangless⟩
    rw [ofBody?, if_neg fun h => head h.2.1, if_neg head, if_pos List.getLast?_concat, List.dropLast_concat, if_pos plain]
  | equals nonempty starless bangless =>
    have head := head_unstarred nonempty starless []
    have last : body.getLast? ≠ some '*' := last_unstarred nonempty starless []
    have plain := plainHead_exact.mpr ⟨nonempty, starless, bangless⟩
    rw [List.append_nil] at head
    rw [ofBody?, if_neg fun h => head h.2.1, if_neg head, if_neg last, if_pos plain]

theorem body_written (found : ofBody? body = some test) : Written body test := by
  unfold ofBody? at found
  split_ifs at found with starred opens plain closes plain plain
  · cases found
    obtain ⟨long, opens, closes⟩ := starred
    obtain ⟨rest, rfl⟩ := List.head?_eq_some_iff.mp opens
    have nonempty : rest ≠ [] := by
      rintro rfl
      simp at long
    rw [List.getLast?_cons_of_ne_nil nonempty] at closes
    obtain ⟨t, rfl⟩ := List.getLast?_eq_some_iff.mp closes
    rw [List.drop_one, List.tail_cons, List.dropLast_concat]
    refine .contains ?_
    rintro rfl
    simp at long
  · cases found
    obtain ⟨t, rfl⟩ := List.head?_eq_some_iff.mp opens
    obtain ⟨nonempty, starless⟩ := plainText_exact.mp plain
    exact .endsWith nonempty starless
  · cases found
    obtain ⟨t, rfl⟩ := List.getLast?_eq_some_iff.mp closes
    rw [List.dropLast_concat] at plain ⊢
    obtain ⟨nonempty, starless, bangless⟩ := plainHead_exact.mp plain
    exact .startsWith nonempty starless bangless
  · cases found
    obtain ⟨nonempty, starless, bangless⟩ := plainHead_exact.mp plain
    exact .equals nonempty starless bangless

theorem ofBody_exact : ofBody? body = some test ↔ Written body test := ⟨body_written, written_body⟩

end PropertyTest

namespace PropertyList

open PropertyTest

variable {entries others : List String} {entry name : String} {test : PropertyTest} {tests : List PropertyTest}

-- What an entry is for: it takes in every property, or takes in or leaves out those that pass a test.
def Includes (entry : String) (test : PropertyTest) : Prop :=
  entry.toList.head? ≠ some '!' ∧ Written entry.toList test

def Excludes (entry : String) (test : PropertyTest) : Prop :=
  ∃ body, entry.toList = '!' :: body ∧ Written body test

def Counts (entry : String) : Prop := entry = "*" ∨ ∃ test, Includes entry test ∨ Excludes entry test

-- The answer without the short way for the list that is one "*" and nothing else.
def sifts (l : PropertyList) (name : String) : Bool :=
  (l.everything || l.included.any (·.accepts name.toList)) && !l.excluded.any (·.accepts name.toList)

theorem everyProperty_exact : entry.toList = everyProperty ↔ entry = "*" := by
  rw [← String.toList_inj]
  rfl

theorem includedTest_exact : includedTest? entry.toList = some test ↔ Includes entry test := by
  unfold includedTest?
  split_ifs with bang
  · exact ⟨nofun, fun includes => absurd bang includes.1⟩
  · rw [ofBody_exact]
    exact ⟨fun written => ⟨bang, written⟩, fun includes => includes.2⟩

theorem excludedTest_exact : excludedTest? entry.toList = some test ↔ Excludes entry test := by
  unfold excludedTest?
  split_ifs with bang
  · obtain ⟨body, split⟩ := List.head?_eq_some_iff.mp bang
    rw [split, List.drop_one, List.tail_cons, ofBody_exact]
    constructor
    · exact fun written => ⟨body, split, written⟩
    · rintro ⟨body', split', written⟩
      cases split.symm.trans split'
      exact written
  · refine ⟨nofun, ?_⟩
    rintro ⟨body, split, _⟩
    exact absurd (by rw [split]; rfl) bang

theorem counts_exact : Counts entry ↔
    entry = "*" ∨ (includedTest? entry.toList).isSome = true ∨ (excludedTest? entry.toList).isSome = true := by
  simp only [Counts, Option.isSome_iff_exists, includedTest_exact, excludedTest_exact, exists_or]

instance (entry : String) : Decidable (Counts entry) := decidable_of_iff _ counts_exact.symm

-- An entry "*" has no form, so that it is set apart makes no odds.
theorem mem_tests {read : List Char → Option PropertyTest} (formless : read everyProperty = none) :
    test ∈ ((entries.map String.toList).filter (· ≠ everyProperty)).filterMap read ↔
      ∃ entry ∈ entries, read entry.toList = some test := by
  simp only [List.mem_filterMap, List.mem_filter, List.mem_map, decide_eq_true_eq]
  constructor
  · rintro ⟨_, ⟨⟨entry, member, rfl⟩, _⟩, found⟩
    exact ⟨entry, member, found⟩
  · rintro ⟨entry, member, found⟩
    refine ⟨_, ⟨⟨entry, member, rfl⟩, ?_⟩, found⟩
    intro star
    rw [star, formless] at found
    cases found

theorem included_exact : test ∈ (ofEntries entries).included ↔ ∃ entry ∈ entries, Includes entry test := by
  simp only [← includedTest_exact]
  exact mem_tests rfl

theorem excluded_exact : test ∈ (ofEntries entries).excluded ↔ ∃ entry ∈ entries, Excludes entry test := by
  simp only [← excludedTest_exact]
  exact mem_tests rfl

theorem everything_exact : (ofEntries entries).everything = true ↔ "*" ∈ entries := by
  simp only [ofEntries, List.contains_iff_mem, List.mem_map, everyProperty_exact, exists_eq_right]

theorem any_accepts {name : List Char} {forms : String → PropertyTest → Prop}
    (exact : ∀ test, test ∈ tests ↔ ∃ entry ∈ entries, forms entry test) :
    tests.any (·.accepts name) = true ↔ ∃ entry ∈ entries, ∃ test, forms entry test ∧ test.Holds name := by
  simp only [List.any_eq_true, exact, accepts_exact]
  constructor
  · rintro ⟨test, ⟨entry, member, formed⟩, holds⟩
    exact ⟨entry, member, test, formed, holds⟩
  · rintro ⟨entry, member, test, formed, holds⟩
    exact ⟨test, ⟨entry, member, formed⟩, holds⟩

theorem sifts_exact : (ofEntries entries).sifts name = true ↔
    ("*" ∈ entries ∨ ∃ entry ∈ entries, ∃ test, Includes entry test ∧ test.Holds name.toList) ∧
      ¬ ∃ entry ∈ entries, ∃ test, Excludes entry test ∧ test.Holds name.toList := by
  have taken : (ofEntries entries).included.any (·.accepts name.toList) = true ↔ _ := any_accepts fun _ => included_exact
  have left : (ofEntries entries).excluded.any (·.accepts name.toList) = true ↔ _ := any_accepts fun _ => excluded_exact
  rw [sifts, Bool.and_eq_true, Bool.or_eq_true, everything_exact, taken, Bool.not_eq_true', ← Bool.not_eq_true, left]

theorem selects_sifts (entries : List String) (name : String) :
    (ofEntries entries).selects name = (ofEntries entries).sifts name := by
  cases alone : (ofEntries entries).unfiltered with
  | false => rw [selects, alone, Bool.false_or, sifts]
  | true =>
    have star : entries.map String.toList = [everyProperty] := of_decide_eq_true alone
    simp [selects, sifts, ofEntries, star]

theorem sifts_counts (same : ∀ entry, Counts entry → (entry ∈ others ↔ entry ∈ entries)) (name : String) :
    (ofEntries others).sifts name = (ofEntries entries).sifts name := by
  have star : "*" ∈ others ↔ "*" ∈ entries := same _ (.inl rfl)
  have moved {forms : String → PropertyTest → Prop} (counts : ∀ entry test, forms entry test → Counts entry) :
      (∃ entry ∈ others, ∃ test, forms entry test ∧ test.Holds name.toList) ↔
        ∃ entry ∈ entries, ∃ test, forms entry test ∧ test.Holds name.toList := by
    refine exists_congr fun entry => ?_
    constructor
    · rintro ⟨member, test, formed, holds⟩
      exact ⟨(same entry (counts entry test formed)).mp member, test, formed, holds⟩
    · rintro ⟨member, test, formed, holds⟩
      exact ⟨(same entry (counts entry test formed)).mpr member, test, formed, holds⟩
  rw [Bool.eq_iff_iff, sifts_exact, sifts_exact, star, moved fun _ test includes => .inr ⟨test, .inl includes⟩,
    moved fun _ test excludes => .inr ⟨test, .inr excludes⟩]

-- What else stands in the list, in which order and how often, makes no difference.
theorem selects_exact (entries : List String) (name : String) :
    ((ofEntries entries).selects name = true ↔
      ("*" ∈ entries ∨ ∃ entry ∈ entries, ∃ test, Includes entry test ∧ test.Holds name.toList) ∧
        ¬ ∃ entry ∈ entries, ∃ test, Excludes entry test ∧ test.Holds name.toList) ∧
    (∀ others : List String, (∀ entry, Counts entry → (entry ∈ others ↔ entry ∈ entries)) →
      (ofEntries others).selects name = (ofEntries entries).selects name) ∧
    (ofEntries entries).selects name = (ofEntries entries).sifts name := by
  refine ⟨?_, fun others same => ?_, selects_sifts entries name⟩
  · rw [selects_sifts, sifts_exact]
  · rw [selects_sifts, selects_sifts, sifts_counts same]

theorem selects_exact_shuffled :
    (∀ entry, Counts entry →
      (entry ∈ ["**", "!*-left", "!", "margin*", "a*b", "margin*"] ↔ entry ∈ ["margin*", "!*-left"])) ∧
    (ofEntries ["**", "!*-left", "!", "margin*", "a*b", "margin*"]).selects "margin-left" =
      (ofEntries ["margin*", "!*-left"]).selects "margin-left" := by
  have same : ∀ entry, Counts entry →
      (entry ∈ ["**", "!*-left", "!", "margin*", "a*b", "margin*"] ↔ entry ∈ ["margin*", "!*-left"]) := by
    intro entry counts
    simp only [List.mem_cons, List.not_mem_nil, or_false]
    constructor
    · rintro (rfl | rfl | rfl | rfl | rfl | rfl)
      · exact absurd counts (by decide)
      · exact .inr rfl
      · exact absurd counts (by decide)
      · exact .inl rfl
      · exact absurd counts (by decide)
      · exact .inl rfl
    · rintro (rfl | rfl)
      · exact .inr (.inr (.inr (.inl rfl)))
      · exact .inr (.inl rfl)
  exact ⟨same, (selects_exact ["margin*", "!*-left"] "margin-left").2.1 _ same⟩

end PropertyList
end FluidSheet
