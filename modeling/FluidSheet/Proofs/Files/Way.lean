import Mathlib
import FluidSheet.Files.Basic

namespace FluidSheet

namespace Path

theorem partsOf_nonempty (cs : List Char) : partsOf cs ≠ [] := by
  cases cs with
  | nil => exact List.cons_ne_nil _ _
  | cons c cs =>
    rw [partsOf]
    split
    · exact List.cons_ne_nil _ _
    · split <;> exact List.cons_ne_nil _ _

theorem partsOf_other (other : c ≠ '/') (cs : List Char) :
    ∃ part rest, partsOf cs = part :: rest ∧ partsOf (c :: cs) = (c :: part) :: rest := by
  obtain ⟨part, rest, split⟩ := List.exists_cons_of_ne_nil (partsOf_nonempty cs)
  refine ⟨part, rest, split, ?_⟩
  rw [partsOf, if_neg other, split]

theorem partsOf_plain (plain : '/' ∉ cs) : partsOf cs = [cs] := by
  induction cs with
  | nil => rfl
  | cons c cs ih =>
    rw [List.mem_cons, not_or] at plain
    rw [partsOf, if_neg (Ne.symm plain.1), ih plain.2]

theorem partsOf_append (as bs : List Char) : partsOf (as ++ '/' :: bs) = partsOf as ++ partsOf bs := by
  induction as with
  | nil => rfl
  | cons c as ih =>
    by_cases slash : c = '/'
    · rw [List.cons_append, partsOf, if_pos slash, ih, partsOf, if_pos slash]
      rfl
    · obtain ⟨part, rest, whole, joined⟩ := partsOf_other slash (as ++ '/' :: bs)
      obtain ⟨part', rest', whole', joined'⟩ := partsOf_other slash as
      rw [ih, whole', List.cons_append, List.cons.injEq] at whole
      rw [List.cons_append, joined, joined', ← whole.1, ← whole.2]
      rfl

theorem parts_plain (cs : List Char) : ∀ part ∈ partsOf cs, '/' ∉ part := by
  induction cs with
  | nil =>
    intro part member
    rw [List.mem_singleton.mp member]
    exact List.not_mem_nil
  | cons c cs ih =>
    intro part member
    by_cases slash : c = '/'
    · rw [partsOf, if_pos slash] at member
      rcases List.mem_cons.mp member with rfl | old
      · exact List.not_mem_nil
      · exact ih part old
    · obtain ⟨first, rest, whole, joined⟩ := partsOf_other slash cs
      rw [joined] at member
      rw [whole] at ih
      rcases List.mem_cons.mp member with rfl | old
      · rw [List.mem_cons, not_or]
        exact ⟨Ne.symm slash, ih first List.mem_cons_self⟩
      · exact ih part (List.mem_cons_of_mem _ old)

structure Named (name : String) : Prop where
  plain : '/' ∉ name.toList
  solid : isVoid name = false
  inside : name ≠ ".."

theorem fileName_plain (found : fileName? path = some name) : '/' ∉ name.toList := by
  unfold fileName? at found
  split at found
  · cases found
  · rename_i part rest last
    split at found
    · cases found
    · cases found
      have member : name ∈ parts path := by
        rw [← List.mem_reverse]
        exact (List.dropWhile_suffix isVoid).mem (last ▸ List.mem_cons_self)
      obtain ⟨cs, split, rfl⟩ := List.mem_map.mp member
      rw [String.toList_ofList]
      exact parts_plain _ cs split

theorem splitName_plain (plain : '/' ∉ name.toList) : '/' ∉ (splitName name).1.toList := by
  unfold splitName
  dsimp only
  split
  · rename_i c rest back
    rw [String.toList_ofList, List.mem_reverse]
    intro slash
    have kept : '/' ∈ name.toList.reverse :=
      (List.dropWhile_suffix _).mem (back ▸ List.mem_cons_of_mem _ slash)
    exact plain (List.mem_reverse.mp kept)
  · exact plain

theorem stem_plain (found : stem? path = some stem) : '/' ∉ stem.toList := by
  obtain ⟨name, named, rfl⟩ := Option.map_eq_some_iff.mp found
  exact splitName_plain (fileName_plain named)

end Path

namespace Files
variable {f f' : Files} {path : String}

-- Where a path leads by its parts alone.
def way (path : String) : Way := (Path.parts path).foldl enter (start path)

theorem enter_named (named : Path.Named name) (way : Way) : enter way name = way ++ [name] := by
  rw [enter, named.solid, if_neg Bool.false_ne_true, if_pos named.inside]

theorem start_same (same : path.toList.head? = path'.toList.head?) : start path = start path' := by
  rw [start, start, same]

theorem way_behind (whole : path.toList = cs ++ '/' :: name.toList) (plain : '/' ∉ name.toList) :
    way path = enter (((Path.partsOf cs).map String.ofList).foldl enter (start path)) name := by
  rw [way, Path.parts, whole, Path.partsOf_append, Path.partsOf_plain plain, List.map_append, List.foldl_append]
  rw [List.map_singleton, String.ofList_toList]
  rfl

theorem way_join (directory : String) (named : Path.Named name) :
    way (Path.join directory name) = way directory ++ [name] := by
  rw [← enter_named named]
  unfold Path.join
  cases last : directory.toList.getLast? with
  | none =>
    have empty : directory = "" := String.toList_inj.mp (List.getLast?_eq_none_iff.mp last)
    have apart : name.toList.head? ≠ some '/' := fun first => named.plain (List.mem_of_mem_head? first)
    rw [empty, way, Path.parts, Path.partsOf_plain named.plain, List.map_singleton, String.ofList_toList, start,
      if_neg apart]
    rfl
  | some c =>
    obtain ⟨cs, text⟩ := List.getLast?_eq_some_iff.mp last
    by_cases slash : c = '/'
    · subst slash
      have whole : (directory ++ name).toList = cs ++ '/' :: name.toList := by
        rw [String.toList_append, text, List.append_assoc]
        rfl
      have same : start (directory ++ name) = start directory := by
        apply start_same
        rw [whole, text]
        cases cs <;> rfl
      have above : way directory = enter (((Path.partsOf cs).map String.ofList).foldl enter (start directory)) "" :=
        way_behind text List.not_mem_nil
      simp only [if_true]
      rw [way_behind whole named.plain, same, above]
      rfl
    · have whole : (directory ++ "/" ++ name).toList = directory.toList ++ '/' :: name.toList := by
        rw [String.toList_append, String.toList_append, List.append_assoc]
        rfl
      have same : start (directory ++ "/" ++ name) = start directory := by
        apply start_same
        rw [whole, text]
        cases cs <;> rfl
      simp only [slash, if_false]
      rw [way_behind whole named.plain, same]
      rfl

theorem go_way (found : f.go above parts = .ok w) : w = parts.foldl enter above := by
  induction parts generalizing above with
  | nil =>
    cases found
    rfl
  | cons part rest ih =>
    rw [go] at found
    split at found
    · exact ih found
    · split at found <;> cases found

theorem go_grown (grown : ∀ w, f.isDirectory w = true → f'.isDirectory w = true) (found : f.go above parts = .ok w) :
    f'.go above parts = .ok w := by
  induction parts generalizing above with
  | nil => exact found
  | cons part rest ih =>
    rw [go] at found ⊢
    split at found
    · rename_i through
      have still : (rest.isEmpty || f'.isDirectory (enter above part)) = true := by
        rw [Bool.or_eq_true] at through ⊢
        exact through.imp_right (grown _)
      rw [if_pos still]
      exact ih found
    · split at found <;> cases found

theorem resolve_way (found : f.resolve path = .ok w) : w = way path := by
  unfold resolve at found
  split at found
  · cases found
  · exact go_way found

theorem resolve_grown (grown : ∀ w, f.isDirectory w = true → f'.isDirectory w = true) (found : f.resolve path = .ok w) :
    f'.resolve path = .ok w := by
  unfold resolve at found ⊢
  split at found
  · cases found
  · rename_i named
    rw [if_neg named]
    exact go_grown grown found

theorem read_exact : f.read path = .ok text ↔ f.resolve path = .ok (way path) ∧ f.text? (way path) = some text := by
  unfold read
  constructor
  · intro found
    cases resolved : f.resolve path with
    | error e =>
      rw [resolved] at found
      cases found
    | ok w =>
      cases resolve_way resolved
      simp only [resolved, bind, Except.bind] at found
      split at found
      · rename_i text' here
        cases found
        exact ⟨rfl, here⟩
      · split at found <;> cases found
  · rintro ⟨resolved, found⟩
    simp only [resolved, bind, Except.bind, found]
    rfl

theorem write_exact : f.write path text = .ok f' ↔ f.resolve path = .ok (way path) ∧
    f.isDirectory (way path) = false ∧ f' = { f with texts := put (way path) text f.texts } := by
  unfold write
  constructor
  · intro done
    cases resolved : f.resolve path with
    | error e =>
      rw [resolved] at done
      cases done
    | ok w =>
      cases resolve_way resolved
      simp only [resolved, bind, Except.bind] at done
      split at done
      · cases done
      · rename_i free
        cases done
        exact ⟨rfl, by simpa using free, rfl⟩
  · rintro ⟨resolved, free, rfl⟩
    simp only [resolved, bind, Except.bind, free]
    rfl

theorem lookup_cons (entry : Way × String) (texts : List (Way × String)) (w : Way) :
    (entry :: texts).lookup w = if w = entry.1 then some entry.2 else texts.lookup w := by
  rw [List.lookup_cons]
  by_cases same : w = entry.1
  · rw [beq_iff_eq.mpr same, if_pos same]
  · rw [beq_false_of_ne same, if_neg same]

theorem lookup_put (way : Way) (text : String) (texts : List (Way × String)) (w : Way) :
    (put way text texts).lookup w = if w = way then some text else texts.lookup w := by
  induction texts with
  | nil => exact lookup_cons (way, text) [] w
  | cons entry rest ih =>
    rw [put, lookup_cons entry rest]
    by_cases same : entry.1 = way
    · rw [if_pos same, lookup_cons, same]
      by_cases here : w = way <;> simp only [here, if_true, if_false]
    · rw [if_neg same, lookup_cons, ih]
      by_cases here : w = entry.1
      · rw [if_pos here, if_neg fun there => same (here.symm.trans there), if_pos here]
      · rw [if_neg here, if_neg here]

theorem put_keeps {texts : List (Way × String)} (member : entry ∈ texts) (way : Way) (text : String) :
    ∃ t, (entry.1, t) ∈ put way text texts := by
  induction texts with
  | nil => cases member
  | cons first rest ih =>
    rw [put]
    by_cases same : first.1 = way
    · rw [if_pos same]
      rcases List.mem_cons.mp member with rfl | old
      · exact ⟨text, same ▸ List.mem_cons_self⟩
      · exact ⟨entry.2, List.mem_cons_of_mem _ old⟩
    · rw [if_neg same]
      rcases List.mem_cons.mp member with rfl | old
      · exact ⟨entry.2, List.mem_cons_self⟩
      · obtain ⟨t, kept⟩ := ih old
        exact ⟨t, List.mem_cons_of_mem _ kept⟩

theorem put_grown (f : Files) (way : Way) (text : String) (w : Way) (before : f.isDirectory w = true) :
    Files.isDirectory { f with texts := put way text f.texts } w = true := by
  unfold isDirectory at before ⊢
  rw [Bool.or_eq_true] at before ⊢
  refine before.imp_right fun held => ?_
  obtain ⟨entry, member, inside⟩ := List.any_eq_true.mp held
  obtain ⟨t, kept⟩ := put_keeps member way text
  exact List.any_eq_true.mpr ⟨_, kept, inside⟩

theorem write_text (written : f.write path text = .ok f') (w : Way) :
    f'.text? w = if w = way path then some text else f.text? w := by
  obtain ⟨_, _, rfl⟩ := write_exact.mp written
  exact lookup_put (way path) text f.texts w

theorem write_resolve (written : f.write path text = .ok f') (found : f.resolve path' = .ok w) :
    f'.resolve path' = .ok w := by
  obtain ⟨_, _, rfl⟩ := write_exact.mp written
  exact resolve_grown (put_grown f (way path) text) found

theorem write_read (written : f.write path text = .ok f') : f'.read path = .ok text := by
  obtain ⟨resolved, _, _⟩ := write_exact.mp written
  refine read_exact.mpr ⟨write_resolve written resolved, ?_⟩
  rw [write_text written, if_pos rfl]

theorem write_apart (written : f.write path text = .ok f') (apart : way path' ≠ way path)
    (found : f.read path' = .ok text') : f'.read path' = .ok text' := by
  obtain ⟨resolved, here⟩ := read_exact.mp found
  refine read_exact.mpr ⟨write_resolve written resolved, ?_⟩
  rw [write_text written, if_neg apart, here]

theorem createFrom_texts (created : f.createFrom above parts = .ok f') : f'.texts = f.texts := by
  induction parts generalizing f above with
  | nil =>
    cases created
    rfl
  | cons part rest ih =>
    rw [createFrom] at created
    split at created
    · exact ih created
    · split at created
      · cases created
      · have kept := ih created
        exact kept

theorem createDirectories_texts (created : f.createDirectories path = .ok f') : f'.texts = f.texts :=
  createFrom_texts created

end Files
end FluidSheet
