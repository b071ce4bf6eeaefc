import Mathlib
import FluidSheet.Options.Merge

-- An option left open comes to the same as its default written out.

namespace FluidSheet

-- What a result is: the first fault, and where there is none a value as it should be.
structure Vetted (r : Except ε α) (faults : List ε) (good : α → Prop) : Prop where
  fails : ∀ e, r = .error e ↔ faults.head? = some e
  holds : ∀ a, r = .ok a → good a

namespace Vetted
variable {r : Except ε α} {faults faults' : List ε} {good : α → Prop} {good' : β → Prop}

theorem ok (here : good a) : Vetted (.ok a : Except ε α) [] good where
  fails _ := ⟨nofun, nofun⟩
  holds := by
    rintro _ ⟨rfl⟩
    exact here

theorem error (e : ε) : Vetted (.error e : Except ε α) [e] good where
  fails e' := by simp
  holds := nofun

theorem bind {next : α → Except ε β} (first : Vetted r faults good)
    (rest : ∀ a, good a → Vetted (next a) faults' good') : Vetted (r >>= next) (faults ++ faults') good' := by
  cases r with
  | error e =>
    have found := (first.fails e).mp rfl
    constructor
    · intro e'
      change Except.error e = Except.error e' ↔ _
      rw [List.head?_append, found, Option.some_or, Option.some.injEq, Except.error.injEq]
    · exact nofun
  | ok a =>
    have none : faults = [] := by
      cases faults with
      | nil => rfl
      | cons e faults => cases (first.fails e).mpr rfl
    rw [none, List.nil_append]
    exact rest a (first.holds a rfl)

theorem map {f : α → β} (first : Vetted r faults good) (kept : ∀ a, good a → good' (f a)) :
    Vetted (do return f (← r)) faults good' := by
  rw [← List.append_nil faults]
  exact first.bind fun a here => .ok (kept a here)

theorem mapM {f : α → Except ε β} {faultsOf : α → List ε} {goodOf : α → β → Prop}
    (each : ∀ a, Vetted (f a) (faultsOf a) (goodOf a)) (as : List α) :
    Vetted (as.mapM f) (as.flatMap faultsOf) (List.Forall₂ goodOf as) := by
  induction as with
  | nil => exact .ok .nil
  | cons a as ih =>
    rw [List.mapM_cons, List.flatMap_cons]
    exact (each a).bind fun b first => ih.map fun bs rest => .cons first rest

theorem check {p q : Prop} [Decidable p] [Decidable q] (same : p ↔ q) (e : ε) :
    Vetted (if p then .error e else .ok () : Except ε Unit) (if q then [e] else []) fun _ => True := by
  by_cases wrong : q
  · rw [if_pos (same.mpr wrong), if_pos wrong]
    exact .error e
  · rw [if_neg (mt same.mp wrong), if_neg wrong]
    exact .ok trivial

end Vetted

def patternFaults (key : OptionKey) (texts : List String) : List OptionError :=
  (texts.filter fun text => (Pattern.ofText? text).isNone).map (.badPattern key)

def WidthSpec.patterns : WidthSpec → List String
  | fixed _ => []
  | byPath table _ => table.map (·.pattern)

def SelectorSpec.patterns : SelectorSpec → List String
  | .text _ => []
  | .pattern p => [p]

namespace Overrides

def patterns (o : Overrides) : OptionKey → List String
  | .viewportWidth => o.viewportWidth.elim [] WidthSpec.patterns
  | .viewportHeight => o.viewportHeight.elim [] WidthSpec.patterns
  | .selectorBlackList => o.selectorBlackList.elim [] (·.flatMap SelectorSpec.patterns)
  | .landscapeWidth => o.landscapeWidth.elim [] WidthSpec.patterns
  | .multiDesignWidths => o.multiDesignWidths.elim [] (·.flatMap (·.width.patterns))
  | .exclude => o.exclude.elim [] ExcludeSpec.patterns
  | _ => []

def faults (o : Overrides) : OptionKey → List OptionError
  | .sourceUnit => if o.sourceUnit = some "" then [.emptySourceUnit] else []
  | .unitPrecision => if ∃ n ∈ o.unitPrecision, 15 < n.toNat then [.precisionTooHigh] else []
  | .minPixelValue => if ∃ x ∈ o.minPixelValue, x.isFinite = false then [.minimumNotFinite] else []
  | key => patternFaults key (o.patterns key)

-- The options that can be wrong, in the order they are looked at.
def checked : List OptionKey :=
  [.sourceUnit, .viewportWidth, .viewportHeight, .unitPrecision, .selectorBlackList, .minPixelValue, .landscapeWidth,
    .multiDesignWidths, .exclude]

end Overrides

def TextPattern.Reads (text : String) (p : TextPattern) : Prop :=
  p.text = text ∧ Pattern.ofText? text = some p.pattern

def fitsPattern (text subject : String) : Bool := (Pattern.ofText? text).any (·.isMatch subject)

def WidthSpec.widthFor (file : String) : WidthSpec → Option Binary64
  | fixed width => some width
  | byPath table fallback => ((table.find? fun entry => fitsPattern entry.pattern file).map (·.width)).or fallback

-- It is of use unless it is absent, zero or not finite.
def WidthSpec.Gives (spec : WidthSpec) (source : WidthSource) : Prop :=
  ∀ file width, source.resolve file = some width ↔
    spec.widthFor file = some width ∧ width.isFinite = true ∧ width.isZero = false

inductive SelectorSpec.Gives : SelectorSpec → SelectorTest → Prop where
  | text : SelectorSpec.Gives (.text t) (.text t)
  | pattern {p : TextPattern} (reads : p.Reads t) : SelectorSpec.Gives (.pattern t) (.pattern p)

def DesignSpec.Gives (spec : DesignSpec) (d : DesignWidth) : Prop :=
  spec.width.Gives d.width ∧ d.mediaQuery = spec.mediaQuery

-- Every option that is given takes effect.
structure Overrides.Gives (o : Overrides) (s : Settings) : Prop where
  sourceUnit : ∀ unit ∈ o.sourceUnit, s.sourceUnit = unit
  viewportWidth : ∀ spec ∈ o.viewportWidth, spec.Gives s.viewportWidth
  viewportHeight : ∀ spec ∈ o.viewportHeight, spec.Gives s.viewportHeight
  unitPrecision : ∀ n ∈ o.unitPrecision, s.unitPrecision = n.toNat
  viewportUnit : ∀ unit ∈ o.viewportUnit, s.viewportUnit = unit
  fontViewportUnit : ∀ unit ∈ o.fontViewportUnit, s.fontViewportUnit = unit
  selectorBlackList : ∀ specs ∈ o.selectorBlackList, List.Forall₂ SelectorSpec.Gives specs s.selectorBlackList
  propList : ∀ entries ∈ o.propList, s.propList = entries
  minPixelValue : ∀ minimum ∈ o.minPixelValue, s.minPixelValue = minimum
  mediaQuery : ∀ on ∈ o.mediaQuery, s.mediaQuery = on
  replace : ∀ on ∈ o.replace, s.replace = on
  landscape : ∀ on ∈ o.landscape, s.landscape = on
  landscapeUnit : ∀ unit ∈ o.landscapeUnit, s.landscapeUnit = unit
  landscapeWidth : ∀ spec ∈ o.landscapeWidth, spec.Gives s.landscapeWidth
  multiDesign : ∀ on ∈ o.multiDesign, s.multiDesign = on
  multiDesignUnit : ∀ unit ∈ o.multiDesignUnit, s.multiDesignUnit = unit
  multiDesignWidths : ∀ specs ∈ o.multiDesignWidths, List.Forall₂ DesignSpec.Gives specs s.multiDesignWidths
  exclude : ∀ spec ∈ o.exclude, List.Forall₂ TextPattern.Reads spec.patterns s.exclude

theorem patternFaults_append (key : OptionKey) (texts texts' : List String) :
    patternFaults key (texts ++ texts') = patternFaults key texts ++ patternFaults key texts' := by
  rw [patternFaults, List.filter_append, List.map_append]
  rfl

theorem patternFaults_flatMap (key : OptionKey) (texts : α → List String) (as : List α) :
    patternFaults key (as.flatMap texts) = as.flatMap fun a => patternFaults key (texts a) := by
  induction as with
  | nil => rfl
  | cons a as ih => rw [List.flatMap_cons, List.flatMap_cons, patternFaults_append, ih]

section
variable {key : OptionKey} {f : α → Except OptionError β} {texts : α → List String} {goodOf : α → β → Prop}

theorem list_vetted (each : ∀ a, Vetted (f a) (patternFaults key (texts a)) (goodOf a)) (as : List α) :
    Vetted (as.mapM f) (patternFaults key (as.flatMap texts)) (List.Forall₂ goodOf as) := by
  rw [patternFaults_flatMap]
  exact .mapM each as

theorem option_vetted (each : ∀ a, Vetted (f a) (patternFaults key (texts a)) (goodOf a)) (x : Option α) :
    Vetted (x.mapM f) (patternFaults key (x.elim [] texts)) fun y => ∀ a ∈ x, ∀ standard, goodOf a (y.getD standard) := by
  cases x with
  | none => exact .ok nofun
  | some a =>
    refine (each a).map fun b here a' same _ => ?_
    cases same
    exact here

end

theorem pattern_vetted (key : OptionKey) (text : String) :
    Vetted (TextPattern.read key text) (patternFaults key [text]) (TextPattern.Reads text) := by
  unfold TextPattern.read patternFaults
  cases found : Pattern.ofText? text with
  | none =>
    rw [List.filter_cons_of_pos (by simp [found])]
    exact .error _
  | some p =>
    rw [List.filter_cons_of_neg (by simp [found])]
    exact .ok ⟨rfl, found⟩

theorem exclude_vetted (spec : ExcludeSpec) :
    Vetted (spec.patterns.mapM (TextPattern.read .exclude)) (patternFaults .exclude spec.patterns)
      (List.Forall₂ TextPattern.Reads spec.patterns) := by
  have each := list_vetted (pattern_vetted .exclude) spec.patterns
  rwa [List.flatMap_singleton'] at each

theorem reads_fits (reads : TextPattern.Reads text p) (subject : String) : p.fits subject = fitsPattern text subject := by
  rw [fitsPattern, reads.2]
  rfl

theorem lookUp_table {table : List PathWidth} {rows : List (TextPattern × Binary64)}
    (made : List.Forall₂ (fun entry row => TextPattern.Reads entry.pattern row.1 ∧ row.2 = entry.width) table rows)
    (fallback : Option Binary64) (file : String) :
    WidthSource.lookUp fallback file rows = (WidthSpec.byPath table fallback).widthFor file := by
  induction made with
  | nil => rfl
  | @cons entry row table rows first rest ih =>
    obtain ⟨p, width⟩ := row
    obtain ⟨reads, rfl⟩ := first
    rw [WidthSpec.widthFor] at ih ⊢
    rw [WidthSource.lookUp, reads_fits reads, ih, List.find?_cons]
    cases fitsPattern entry.pattern file <;> rfl

theorem resolve_gives {spec : WidthSpec} {source : WidthSource} (given : ∀ file, source.given? file = spec.widthFor file) :
    spec.Gives source := by
  intro file width
  rw [WidthSource.resolve, given, Option.filter_eq_some_iff, Bool.and_eq_true, Bool.not_eq_true']

theorem width_vetted (key : OptionKey) (spec : WidthSpec) :
    Vetted (WidthSource.ofSpec key spec) (patternFaults key spec.patterns) spec.Gives := by
  cases spec with
  | fixed width => exact .ok (resolve_gives fun _ => rfl)
  | byPath table fallback =>
    have row (entry : PathWidth) : Vetted (do return (← TextPattern.read key entry.pattern, entry.width))
        (patternFaults key [entry.pattern]) fun row => TextPattern.Reads entry.pattern row.1 ∧ row.2 = entry.width :=
      (pattern_vetted key entry.pattern).map fun _ reads => ⟨reads, rfl⟩
    rw [WidthSpec.patterns, List.map_eq_flatMap]
    exact (list_vetted row table).map fun rows made => resolve_gives (lookUp_table made fallback)

theorem selector_vetted (spec : SelectorSpec) :
    Vetted (SelectorTest.ofSpec spec) (patternFaults .selectorBlackList spec.patterns) spec.Gives := by
  cases spec with
  | text t => exact .ok SelectorSpec.Gives.text
  | pattern t => exact (pattern_vetted .selectorBlackList t).map fun p reads => SelectorSpec.Gives.pattern reads

theorem design_vetted (spec : DesignSpec) :
    Vetted (DesignWidth.ofSpec spec) (patternFaults .multiDesignWidths spec.width.patterns) spec.Gives :=
  (width_vetted .multiDesignWidths spec.width).map fun _ gives => ⟨gives, rfl⟩

theorem getD_given {x : Option α} (given : a ∈ x) (standard : α) : x.getD standard = a := by
  rw [Option.mem_def.mp given, Option.getD_some]

theorem ofOverrides_vetted (o : Overrides) :
    Vetted (Settings.ofOverrides o) (Overrides.checked.flatMap o.faults) o.Gives := by
  have unit : Vetted (Settings.checkUnit o.sourceUnit) (o.faults .sourceUnit) fun _ => True := .check Iff.rfl _
  have precision : Vetted (Settings.checkPrecision o.unitPrecision) (o.faults .unitPrecision) fun _ => True :=
    .check (by simp only [Option.any_eq_true, decide_eq_true_eq]; exact Iff.rfl) _
  have minimum : Vetted (Settings.checkMinimum o.minPixelValue) (o.faults .minPixelValue) fun _ => True :=
    .check (by simp only [Option.any_eq_true, Bool.not_eq_true']; exact Iff.rfl) _
  refine unit.bind fun _ _ => (option_vetted (width_vetted .viewportWidth) o.viewportWidth).bind fun _ viewportWidth => ?_
  refine (option_vetted (width_vetted .viewportHeight) o.viewportHeight).bind fun _ viewportHeight => ?_
  refine precision.bind fun _ _ => (option_vetted (list_vetted selector_vetted) o.selectorBlackList).bind fun _ blackList => ?_
  refine minimum.bind fun _ _ => (option_vetted (width_vetted .landscapeWidth) o.landscapeWidth).bind fun _ landscapeWidth => ?_
  refine (option_vetted (list_vetted design_vetted) o.multiDesignWidths).bind fun _ designs => ?_
  refine (option_vetted exclude_vetted o.exclude).bind fun _ exclude => .ok ?_
  exact {
    sourceUnit := fun _ given => getD_given given _
    viewportWidth := fun _ given => viewportWidth _ given _
    viewportHeight := fun _ given => viewportHeight _ given _
    unitPrecision := fun _ given => getD_given (Option.mem_map_of_mem _ given) _
    viewportUnit := fun _ given => getD_given given _
    fontViewportUnit := fun _ given => getD_given given _
    selectorBlackList := fun _ given => blackList _ given _
    propList := fun _ given => getD_given given _
    minPixelValue := fun _ given => getD_given given _
    mediaQuery := fun _ given => getD_given given _
    replace := fun _ given => getD_given given _
    landscape := fun _ given => getD_given given _
    landscapeUnit := fun _ given => getD_given given _
    landscapeWidth := fun _ given => landscapeWidth _ given _
    multiDesign := fun _ given => getD_given given _
    multiDesignUnit := fun _ given => getD_given given _
    multiDesignWidths := fun _ given => designs _ given _
    exclude := fun _ given => exclude _ given _ }

theorem faults_named {key : OptionKey} (fault : e ∈ Overrides.faults o key) :
    (∃ reason, e.message = OptionError.invalidValue key reason) ∨
      ∃ text ∈ o.patterns key, e.message = "invalid pattern " ++ Text.quoted text ++ " in " ++ key.text := by
  have single {p : Prop} [Decidable p] {e' : OptionError} (here : e ∈ if p then [e'] else []) : e = e' := by
    split_ifs at here
    · exact List.mem_singleton.mp here
    · cases here
  have pattern (here : e ∈ patternFaults key (o.patterns key)) :
      ∃ text ∈ o.patterns key, e.message = "invalid pattern " ++ Text.quoted text ++ " in " ++ key.text := by
    obtain ⟨text, member, rfl⟩ := List.mem_map.mp here
    exact ⟨text, List.mem_of_mem_filter member, rfl⟩
  cases key with
  | sourceUnit | unitPrecision | minPixelValue =>
    cases single fault
    exact .inl ⟨_, rfl⟩
  | _ => exact .inr (pattern fault)

theorem faults_exact {o : Overrides} {key : OptionKey} : o.faults key ≠ [] ↔
    (key = .sourceUnit ∧ o.sourceUnit = some "") ∨ (key = .unitPrecision ∧ ∃ n ∈ o.unitPrecision, 15 < n.toNat) ∨
      (key = .minPixelValue ∧ ∃ x ∈ o.minPixelValue, x.isFinite = false) ∨
      ∃ text ∈ o.patterns key, Pattern.ofText? text = none := by
  cases key <;> simp [Overrides.faults, Overrides.patterns, patternFaults]

theorem checked_all {o : Overrides} {key : OptionKey} (fault : o.faults key ≠ []) : key ∈ Overrides.checked := by
  cases key with
  | viewportUnit | fontViewportUnit | propList | mediaQuery | replace | landscape | landscapeUnit | multiDesign
  | multiDesignUnit => exact absurd rfl fault
  | _ => decide

theorem Vetted.refused {r : Except ε α} (vetted : Vetted r faults good) : (∃ e, r = .error e) ↔ faults ≠ [] := by
  simp only [vetted.fails, List.head?_eq_some_iff, List.ne_nil_iff_exists_cons]

namespace Settings

-- Reported is the first fault of the first option at fault, and what is taken over gives every option.
theorem ofOverrides_exact (o : Overrides) :
    ((∃ e, ofOverrides o = .error e) ↔
      o.sourceUnit = some "" ∨ (∃ n ∈ o.unitPrecision, 15 < n.toNat) ∨ (∃ x ∈ o.minPixelValue, x.isFinite = false) ∨
        ∃ key, ∃ text ∈ o.patterns key, Pattern.ofText? text = none) ∧
    (∀ e, ofOverrides o = .error e ↔ (Overrides.checked.flatMap o.faults).head? = some e) ∧
    (∀ key, ∀ e ∈ o.faults key, (∃ reason, e.message = OptionError.invalidValue key reason) ∨
      ∃ text ∈ o.patterns key, e.message = "invalid pattern " ++ Text.quoted text ++ " in " ++ key.text) ∧
    ∀ s, ofOverrides o = .ok s → o.Gives s := by
  have vetted := ofOverrides_vetted o
  refine ⟨?_, vetted.fails, fun key e => faults_named, vetted.holds⟩
  have found : (∃ key ∈ Overrides.checked, o.faults key ≠ []) ↔ ∃ key, o.faults key ≠ [] :=
    exists_congr fun key => and_iff_right_of_imp checked_all
  simp only [vetted.refused, ne_eq, List.flatMap_eq_nil_iff, not_forall, exists_prop] at found ⊢
  rw [found]
  simp only [← ne_eq, faults_exact, exists_or, exists_eq_left]

-- Where the entry that fits has no width of use the fallback does not stand in for it.
theorem ofOverrides_exact_tables :
    let wrong : Overrides := { Overrides.none with
      viewportHeight := some (.byPath [⟨"ok", 1⟩, ⟨"(", 2⟩, ⟨"[", 3⟩] none)
      unitPrecision := some 40
      exclude := some (.list [")"]) }
    let right : Overrides := { Overrides.none with
      landscapeWidth := some (.byPath [⟨"vant", 0⟩, ⟨"a", 414⟩] (some 750)) }
    ofOverrides wrong = .error (.badPattern .viewportHeight "(") ∧
      ∃ s, ofOverrides right = .ok s ∧ s.landscapeWidth.resolve "vant/a.css" = none ∧
        s.landscapeWidth.resolve "src/a.css" = some 414 ∧ s.landscapeWidth.resolve "src" = some 750 := by
  intro wrong right
  refine ⟨((ofOverrides_exact wrong).2.1 _).mpr (by decide +kernel), ?_⟩
  have sound : (Overrides.checked.flatMap right.faults).head? = none := by decide +kernel
  cases merged : ofOverrides right with
  | error e =>
    have fault := ((ofOverrides_exact right).2.1 e).mp merged
    rw [sound] at fault
    cases fault
  | ok s =>
    have gives := ((ofOverrides_exact right).2.2.2 s merged).landscapeWidth _ rfl
    refine ⟨s, rfl, ?_, (gives _ _).mpr (by decide +kernel), (gives _ _).mpr (by decide +kernel)⟩
    rw [Option.eq_none_iff_forall_ne_some]
    intro width here
    obtain ⟨found, _, nonzero⟩ := (gives _ _).mp here
    have zero : WidthSpec.widthFor "vant/a.css" (.byPath [⟨"vant", 0⟩, ⟨"a", 414⟩] (some 750)) = some 0 := by
      decide +kernel
    rw [← Option.some.inj (zero.symm.trans found)] at nonzero
    exact absurd nonzero (by decide +kernel)

end Settings

def Overrides.filled (o : Overrides) : Overrides :=
  { sourceUnit := o.sourceUnit.or defaults.sourceUnit
    viewportWidth := o.viewportWidth.or defaults.viewportWidth
    viewportHeight := o.viewportHeight.or defaults.viewportHeight
    unitPrecision := o.unitPrecision.or defaults.unitPrecision
    viewportUnit := o.viewportUnit.or defaults.viewportUnit
    fontViewportUnit := o.fontViewportUnit.or defaults.fontViewportUnit
    selectorBlackList := o.selectorBlackList.or defaults.selectorBlackList
    propList := o.propList.or defaults.propList
    minPixelValue := o.minPixelValue.or defaults.minPixelValue
    mediaQuery := o.mediaQuery.or defaults.mediaQuery
    replace := o.replace.or defaults.replace
    landscape := o.landscape.or defaults.landscape
    landscapeUnit := o.landscapeUnit.or defaults.landscapeUnit
    landscapeWidth := o.landscapeWidth.or defaults.landscapeWidth
    multiDesign := o.multiDesign.or defaults.multiDesign
    multiDesignUnit := o.multiDesignUnit.or defaults.multiDesignUnit
    multiDesignWidths := o.multiDesignWidths.or defaults.multiDesignWidths
    exclude := o.exclude.or defaults.exclude }

theorem mapM_or {f : α → Except ε β} (taken : f a = .ok b) (x : Option α) :
    (x.or (some a)).mapM f = (x.mapM f).map (·.or (some b)) := by
  cases x with
  | none => exact congrArg (Except.map some) taken
  | some a' =>
    change Except.map some (f a') = Except.map _ (Except.map some (f a'))
    cases f a' <;> rfl

theorem check_or {check : Option α → Except ε Unit} (passes : check (some a) = check none) (x : Option α) :
    check (x.or (some a)) = check x := by
  cases x with
  | none => exact passes
  | some a' => rfl

theorem map_bind (r : Except ε α) (f : α → β) (next : β → Except ε γ) : r.map f >>= next = r >>= fun a => next (f a) := by
  cases r <;> rfl

theorem getD_or (x : Option α) (standard : α) : (x.or (some standard)).getD standard = x.getD standard := by
  cases x <;> rfl

namespace Settings

-- The two tables of defaults, one of overrides and one of settings, say the same.
theorem ofOverrides_filled (o : Overrides) : ofOverrides o.filled = ofOverrides o := by
  have unit : checkUnit (o.sourceUnit.or (some "px")) = checkUnit o.sourceUnit := check_or rfl _
  have precision : checkPrecision (o.unitPrecision.or (some 5)) = checkPrecision o.unitPrecision := check_or rfl _
  have one : ¬ ((some (1 : Binary64)).any fun x => !x.isFinite) = true := by decide +kernel
  have minimum : checkMinimum (o.minPixelValue.or (some 1)) = checkMinimum o.minPixelValue := check_or (if_neg one) _
  have width (key : OptionKey) (w : Binary64) (x : Option WidthSpec) :
      (x.or (some (.fixed w))).mapM (WidthSource.ofSpec key) =
        (x.mapM (WidthSource.ofSpec key)).map (·.or (some (.fixed w))) :=
    mapM_or (by rfl) x
  have blackList : o.filled.selectorBlackList.mapM (List.mapM SelectorTest.ofSpec) =
      (o.selectorBlackList.mapM (List.mapM SelectorTest.ofSpec)).map (·.or (some standard.selectorBlackList)) :=
    mapM_or (by rfl) _
  have designs : o.filled.multiDesignWidths.mapM (List.mapM DesignWidth.ofSpec) =
      (o.multiDesignWidths.mapM (List.mapM DesignWidth.ofSpec)).map (·.or (some standard.multiDesignWidths)) :=
    mapM_or (by rfl) _
  have digits : ((o.unitPrecision.or (some 5)).map UInt32.toNat).getD 5 = (o.unitPrecision.map UInt32.toNat).getD 5 := by
    rw [Option.map_or]
    exact getD_or _ _
  rw [ofOverrides, blackList, designs]
  simp only [ofOverrides, Overrides.filled, Overrides.defaults, standard, unit, precision, minimum, width, map_bind,
    getD_or, digits, Option.or_none]

end Settings
end FluidSheet
