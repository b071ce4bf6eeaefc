import FluidSheet.Proofs.Conversion.Twins
import FluidSheet.Proofs.Length.Fixed

-- What the first run left to convert comes back, once more, in a block of every breakpoint.

namespace FluidSheet
namespace Settings

def measures (s : Settings) : List (String × WidthSource) :=
  (s.viewportUnit, s.viewportWidth) :: (s.fontViewportUnit, s.viewportWidth) ::
    s.breakpoints.map fun b => (b.unit, b.width)

def targets (s : Settings) (file : String) : List Target :=
  s.measures.filterMap fun (unit, width) => s.target? unit width file

-- All units are words, and no target unit is the one that is converted.
structure Worded (s : Settings) : Prop where
  some : s.sourceUnit ≠ ""
  source : Word s.sourceUnit.toList
  target : ∀ m ∈ s.measures, Word m.1.toList ∧ s.sourceUnit ≠ m.1

def Measured (s : Settings) : Prop := ∀ m ∈ s.measures, ∀ file, (m.2.resolve file).isSome = true

-- Nothing in the value is large enough to be converted.
def Spent (s : Settings) (value : String) : Prop :=
  ∀ m ∈ Length.magnitudes s.sourceUnit value, m.abs.lt s.minPixelValue = true

end Settings

structure Met.Steady (s : Settings) (m : Met) : Prop where
  unmarked : Unmarked m.rule.nodes
  stable : ∀ d, .declaration d ∈ m.rule.nodes → ∀ t ∈ s.targets m.file,
    s.convert t (s.convert t d.value) = s.convert t d.value

namespace Settings
variable {s : Settings} {c : Context}

theorem mem_targets : t ∈ s.targets file ↔ ∃ m ∈ s.measures, s.target? m.1 m.2 file = some t := List.mem_filterMap

theorem targetIn_measure (within : c.landscape = true → s.landscape = true) (prop : String) :
    ∃ m ∈ s.measures, s.targetIn? c prop = s.target? m.1 m.2 c.file := by
  unfold targetIn?
  split
  · rename_i landscape
    refine ⟨(s.landscapeUnit, s.landscapeWidth), ?_, rfl⟩
    simp [measures, breakpoints, landscapeBreakpoint, within landscape]
  · refine ⟨(s.unitFor prop, s.viewportWidth), ?_, rfl⟩
    unfold unitFor
    split <;> simp [measures]

theorem breakpoint_measure (member : b ∈ s.breakpoints) : (b.unit, b.width) ∈ s.measures :=
  List.mem_cons_of_mem _ (List.mem_cons_of_mem _ (List.mem_map_of_mem member))

theorem measured_target (measured : s.Measured) (member : m ∈ s.measures) (file : String) :
    ∃ t, s.target? m.1 m.2 file = some t ∧ t ∈ s.targets file := by
  obtain ⟨width, found⟩ := Option.isSome_iff_exists.mp (measured m member file)
  exact ⟨_, by rw [target?, found]; rfl, mem_targets.mpr ⟨m, member, by rw [target?, found]; rfl⟩⟩

-- What one target leaves as it is, every other one leaves.
theorem convert_spent (worded : s.Worded) (target : t ∈ s.targets file) (value : String) :
    s.convert t value = value ↔ s.Spent value := by
  obtain ⟨m, member, found⟩ := mem_targets.mp target
  obtain ⟨width, _, rfl⟩ := Option.map_eq_some_iff.mp found
  obtain ⟨word, other⟩ := worded.target m member
  exact Length.convert_fixed _ _ value worded.source worded.some word other

def Done (s : Settings) (d : Declaration) : Prop := s.isCandidate d = true → s.Spent d.value

theorem wanted_done (worded : s.Worded) (measured : s.Measured) (within : c.landscape = true → s.landscape = true)
    (d : Declaration) : s.wanted? c d = none ↔ s.Done d := by
  obtain ⟨m, member, found⟩ := targetIn_measure within d.prop
  obtain ⟨t, target, use⟩ := measured_target measured member c.file
  unfold wanted? Done
  rw [found, target, ← convert_spent worded use]
  split <;> simp_all

theorem convert_done (worded : s.Worded) (measured : s.Measured) (member : b ∈ s.breakpoints) (file : String)
    (d : Declaration) : b.convert? s file d = none ↔ s.Done d := by
  obtain ⟨t, target, use⟩ := measured_target measured (breakpoint_measure member) file
  unfold Breakpoint.convert? Done
  rw [target, ← convert_spent worded use]
  cases s.isCandidate d <;> simp

theorem copy_done (worded : s.Worded) (measured : s.Measured) (member : b ∈ s.breakpoints) (file : String) (r : Rule) :
    b.copy? s file r = none ↔ ∀ d ∈ r.declarations, s.Done d := by
  have all : (∀ d ∈ r.declarations, s.Done d) ↔ r.declarations.filterMap (b.convert? s file) = [] := by
    rw [List.filterMap_eq_nil_iff]
    exact forall₂_congr fun d _ => (convert_done worded measured member file d).symm
  rw [all]
  unfold Breakpoint.copy?
  split <;> simp_all

theorem block_none (b : Breakpoint) (rules : List Rule) : b.block rules = none ↔ rules = [] := by
  cases rules <;> simp [Breakpoint.block]

theorem blocks_none (s : Settings) (sources : List (Rule × String)) :
    s.blocks sources = [] ↔ ∀ b ∈ s.breakpoints, ∀ source ∈ sources, b.copy? s source.2 source.1 = none := by
  unfold blocks
  rw [List.filterMap_eq_nil_iff]
  refine forall₂_congr fun b _ => ?_
  rw [block_none, List.filterMap_eq_nil_iff]

theorem walked_source (sheetFile : String) (m : Met) :
    (m.walked s sheetFile).source? s = (m.source? s).map fun source => ((m.walked s sheetFile).rule, source.2) := by
  unfold Met.source? Met.walked
  dsimp only
  split <;> rfl

theorem again_sources (s : Settings) (sheet : Sheet) :
    s.sourcesAmong sheet.fileName false (s.convertSheet sheet).sheet.nodes =
      (sheet.met.map (Met.walked s sheet.fileName)).filterMap (Met.source? s) := by
  have mets := convertSheet_mets s sheet
  have blockless : (metAmong sheet.fileName none
      ((s.blocks (s.sourcesAmong sheet.fileName false sheet.nodes)).map AtRule.node)).filterMap (Met.source? s) = [] := by
    rw [List.filterMap_eq_nil_iff]
    intro m met
    obtain ⟨p, inside⟩ := Option.isSome_iff_exists.mp (blocks_met met).1
    simp [Met.source?, inside]
  refine (sheet_sources s (s.convertSheet sheet).sheet).trans ?_
  rw [mets, List.filterMap_append, blockless, List.append_nil]

variable {m : Met} {sheet : Sheet} {b : Breakpoint}

theorem context_within (s : Settings) (m : Met) : (m.context s).landscape = true → s.landscape = true := by
  intro landscape
  exact (Bool.and_eq_true_iff.mp landscape).1

theorem targetIn_targets (m : Met) (prop : String)
    (target : s.targetIn? (m.context s) prop = some t) : t ∈ s.targets m.file := by
  obtain ⟨measure, member, found⟩ := targetIn_measure (context_within s m) prop
  rw [found] at target
  exact mem_targets.mpr ⟨measure, member, target⟩

theorem steady_calm (steady : m.Steady s) : m.Calm s :=
  ⟨steady.unmarked, fun d member t target => steady.stable d member t (targetIn_targets m d.prop target)⟩

theorem copied_done (worded : s.Worded) (measured : s.Measured) (steady : m.Steady s) (breakpoint : b ∈ s.breakpoints)
    (member : .declaration d ∈ m.rule.nodes) (found : b.convert? s m.file d = some d') : s.Done d' := by
  obtain ⟨t, target, use⟩ := measured_target measured (breakpoint_measure breakpoint) m.file
  have value : d'.value = s.convert t d.value := by
    unfold Breakpoint.convert? at found
    rw [target] at found
    cases candidate : s.isCandidate d with
    | false => simp [candidate] at found
    | true =>
      obtain ⟨_, made⟩ : ¬ s.convert t d.value = d.value ∧ d.withValue (s.convert t d.value) = d' := by
        simpa [candidate] using found
      rw [← made]
      rfl
  intro _
  rw [value]
  exact (convert_spent worded use _).mp (steady.stable d member t use)

theorem copy_idle (worded : s.Worded) (measured : s.Measured)
    (steady : ∀ m ∈ sheet.met, m.takesPart s = true → m.Steady s)
    (met : m ∈ metAmong sheet.fileName none
      ((s.blocks (s.sourcesAmong sheet.fileName false sheet.nodes)).map AtRule.node)) : m.Idle s := by
  obtain ⟨-, -, b, breakpoint, source, member, copied⟩ := blocks_met met
  have nodes := copy_nodes copied
  rw [sheet_sources] at member
  obtain ⟨origin, original, found⟩ := List.mem_filterMap.mp member
  obtain ⟨rfl, -, part, -⟩ := source_met found
  refine ⟨?_, ?_⟩
  · rw [nodes]
    intro n copied
    obtain ⟨d, _, rfl⟩ := List.mem_map.mp copied
    rfl
  · intro d value copied wanted
    rw [nodes] at copied
    obtain ⟨d', made, same⟩ := List.mem_map.mp copied
    cases same
    obtain ⟨e, member, made⟩ := List.mem_filterMap.mp made
    have done := copied_done worded measured (steady origin original part) breakpoint (Node.mem_declarations.mp member) made
    rw [(wanted_done worded measured (context_within s m) d).mpr done] at wanted
    cases wanted

-- The second run changes no declaration; what it adds are blocks.
theorem again_walked (worded : s.Worded) (measured : s.Measured)
    (steady : ∀ m ∈ sheet.met, m.takesPart s = true → m.Steady s) :
    (s.walkNodes sheet.fileName none (s.convertSheet sheet).sheet.nodes).1 = (s.convertSheet sheet).sheet.nodes := by
  refine (walkNodes_idle _ fun n member => walkNode_idle n none fun m met part => ?_).1
  have met : m ∈ (s.convertSheet sheet).sheet.met := by
    rw [Sheet.met, metAmong_flatMap]
    exact List.mem_flatMap.mpr ⟨n, member, met⟩
  rw [convertSheet_mets] at met
  rcases List.mem_append.mp met with before | copied
  · obtain ⟨m, original, rfl⟩ := List.mem_map.mp before
    exact walked_idle sheet.fileName part (steady_calm (steady m original part))
  · exact copy_idle worded measured steady copied

theorem walked_twins (replace : s.replace = true) (worded : s.Worded) (measured : s.Measured) (sheetFile : String)
    (part : m.takesPart s = true) (steady : m.Steady s) :
    (∀ d ∈ (m.walked s sheetFile).rule.declarations, s.Done d) ↔ s.NoTwins (m.context s) m.rule.declarations := by
  have declarations : (m.walked s sheetFile).rule.declarations =
      (s.convertNodes (m.context s) m.rule.nodes).1.filterMap Node.declaration? := by
    rw [Rule.declarations, Met.walked, walkNodes_map, (walk_leafwise s sheetFile none).declarations, Met.converted,
      if_pos part]
  rw [declarations, Rule.declarations, ← convertNodes_twins replace steady.unmarked (steady_calm steady).stable]
  constructor
  · intro done d member
    exact (wanted_done worded measured (context_within s m) d).mpr (done d (Node.mem_declarations.mpr member))
  · intro unwanted d member
    exact (wanted_done worded measured (context_within s m) d).mp (unwanted d (Node.mem_declarations.mp member))

theorem again_blocks (replace : s.replace = true) (worded : s.Worded) (measured : s.Measured)
    (steady : ∀ m ∈ sheet.met, m.takesPart s = true → m.Steady s) :
    s.blocks (s.sourcesAmong sheet.fileName false (s.convertSheet sheet).sheet.nodes) = [] ↔
      s.breakpoints = [] ∨ ∀ source ∈ s.sourcesAmong sheet.fileName false sheet.nodes,
        s.NoTwins ⟨source.1.selector, source.2, false⟩ source.1.declarations := by
  have each : ∀ m ∈ sheet.met, ∀ source, m.source? s = some source →
      ((∀ d ∈ (m.walked s sheet.fileName).rule.declarations, s.Done d) ↔
        s.NoTwins ⟨source.1.selector, source.2, false⟩ source.1.declarations) := by
    intro m met source found
    obtain ⟨rfl, -, part, context⟩ := source_met found
    rw [← context]
    exact walked_twins replace worded measured sheet.fileName part (steady m met part)
  rw [blocks_none, again_sources, sheet_sources]
  cases breakpoints : s.breakpoints with
  | nil => simp
  | cons b more =>
    have first : b ∈ s.breakpoints := by simp [breakpoints]
    rw [← breakpoints]
    constructor
    · intro none
      right
      intro source member
      obtain ⟨m, met, found⟩ := List.mem_filterMap.mp member
      refine (each m met source found).mp ((copy_done worded measured first source.2 _).mp ?_)
      refine none b first ((m.walked s sheet.fileName).rule, source.2) ?_
      exact List.mem_filterMap.mpr ⟨_, List.mem_map_of_mem met, by rw [walked_source, found]; rfl⟩
    · rintro (impossible | twins) b' member source' again
      · simp [impossible] at first
      · obtain ⟨_, walked, found'⟩ := List.mem_filterMap.mp again
        obtain ⟨m, met, rfl⟩ := List.mem_map.mp walked
        rw [walked_source] at found'
        obtain ⟨source, found, rfl⟩ := Option.map_eq_some_iff.mp found'
        refine (copy_done worded measured member source.2 _).mpr ((each m met source found).mpr (twins source ?_))
        exact List.mem_filterMap.mpr ⟨m, met, found⟩

-- Unless there are breakpoints and, in a rule they are made from, twins.
theorem convertSheet_settles (s : Settings) (sheet : Sheet) (replace : s.replace = true) (worded : s.Worded)
    (measured : s.Measured) (steady : ∀ m ∈ sheet.met, m.takesPart s = true → m.Steady s) :
    let first := s.convertSheet sheet
    let second := s.convertSheet first.sheet
    second.report.emitted = [] ∧ second.sheet = first.sheet ↔
      s.breakpoints = [] ∨ ∀ source ∈ s.sourcesAmong sheet.fileName false sheet.nodes,
        s.NoTwins ⟨source.1.selector, source.2, false⟩ source.1.declarations := by
  intro first second
  rw [← again_blocks replace worded measured steady]
  have emitted : second.report.emitted = [] ↔
      s.blocks (s.sourcesAmong sheet.fileName false first.sheet.nodes) = [] := by
    rw [convertSheet_emitted]
    exact List.map_eq_nil_iff
  rw [emitted]
  constructor
  · exact fun h => h.1
  · intro blockless
    refine ⟨blockless, ?_⟩
    rw [convertSheet_sheet]
    change Sheet.mk _ ((s.walkNodes sheet.fileName none first.sheet.nodes).1 ++
      (s.blocks (s.sourcesAmong sheet.fileName false first.sheet.nodes)).map AtRule.node) = _
    rw [blockless, again_walked worded measured steady, List.map_nil, List.append_nil]

theorem landscape_worded (mediaQuery : Bool) : Worded { standard with landscape := true, mediaQuery } := by
  refine ⟨show "px" ≠ "" by decide, by simp [Word, standard], ?_⟩
  intro m member
  have unit : m.1 = "vw" := by
    simp only [measures, breakpoints, landscapeBreakpoint, designBreakpoints, standard, if_true, Bool.false_eq_true,
      if_false, Option.toList_some, List.append_nil, List.map_cons, List.map_nil, List.mem_cons, List.not_mem_nil,
      or_false] at member
    rcases member with rfl | rfl | rfl <;> rfl
  rw [unit]
  exact ⟨by simp [Word], show "px" ≠ "vw" by decide⟩

theorem fixed_resolve (usable : (width.isFinite && !width.isZero) = true) (file : String) :
    ((WidthSource.fixed width).resolve file).isSome = true := by
  simp [WidthSource.resolve, WidthSource.given?, Option.filter, usable]

theorem landscape_measured (mediaQuery : Bool) : Measured { standard with landscape := true, mediaQuery } := by
  intro m member file
  simp only [measures, breakpoints, landscapeBreakpoint, designBreakpoints, standard, if_true, Bool.false_eq_true,
    if_false, Option.toList_some, List.append_nil, List.map_cons, List.map_nil, List.mem_cons, List.not_mem_nil,
    or_false] at member
  rcases member with rfl | rfl | rfl <;> exact fixed_resolve (by decide +kernel) file

theorem convertSheet_settles_copies :
    let s : Settings := { standard with landscape := true, mediaQuery := true }
    let first := s.convertSheet ⟨none, [.rule ".a"
      [.declaration (.of "width" "100px"), .declaration (.of "height" "100px")] none]⟩
    let second := s.convertSheet first.sheet
    first.report.emitted = [⟨landscapeQuery, 1⟩] ∧ second.report.emitted = [] ∧ second.sheet = first.sheet := by
  intro s
  let sheet : Sheet := ⟨none, [.rule ".a"
    [.declaration (.of "width" "100px"), .declaration (.of "height" "100px")] none]⟩
  refine ⟨by decide +kernel,
    (convertSheet_settles s sheet rfl (landscape_worded true) (landscape_measured true) ?_).mpr (.inr ?_)⟩
  · intro m met _
    cases List.mem_singleton.mp met
    refine ⟨by decide +kernel, ?_⟩
    intro d member
    have value : d.value = "100px" := by
      rcases List.mem_pair.mp member with same | same <;> cases same <;> rfl
    rw [value]
    decide +kernel
  · intro source member
    cases List.mem_singleton.mp member
    exact List.pairwise_pair.mpr fun prop => absurd prop (by decide)

-- A twin that was kept back is copied again.
theorem twin_copied :
    let s : Settings := { standard with landscape := true }
    let sheet : Sheet := ⟨none, [.rule ".a"
      [.declaration (.of "width" "31.25vw"), .declaration (.of "width" "100px")] none]⟩
    s.Worded ∧ s.Measured ∧ (∀ m ∈ sheet.met, m.Steady s) ∧
      (s.convertSheet (s.convertSheet sheet).sheet).report.emitted = [⟨landscapeQuery, 1⟩] := by
  intro s sheet
  refine ⟨landscape_worded false, landscape_measured false, ?_, by decide +kernel⟩
  intro m met
  cases List.mem_singleton.mp met
  refine ⟨by decide +kernel, ?_⟩
  intro d member
  rcases List.mem_pair.mp member with same | same
  · cases same
    decide +kernel
  · cases same
    decide +kernel

end Settings
end FluidSheet
