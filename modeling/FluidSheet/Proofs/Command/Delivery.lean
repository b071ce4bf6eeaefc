import FluidSheet.Command.Convert
import FluidSheet.Proofs.Files.Way

namespace FluidSheet

namespace ConvertOrder

def directory? (order : ConvertOrder) : Option String := if order.dryRun then none else order.outDir

def outputName (input : String) (form : SheetForm) : String :=
  (Path.stem? input).getD "stylesheet" ++ "." ++ form.extension

def rendered (order : ConvertOrder) (s : Settings) (sheet : Sheet) : String :=
  (s.convertSheet sheet).sheet.render order.form

def rendering? (order : ConvertOrder) (s : Settings) (f : Files) (input : String) : Option String :=
  (f.text? (Files.way input)).bind fun text =>
    (Sheet.ofFile input text).toOption.map (order.rendered s)

-- The file that an entry names holds what the sheet of its own input comes to.
def Delivered (order : ConvertOrder) (s : Settings) (before after : Files) (e : FileSummary) : Prop :=
  ∃ path text, e.output = some path ∧ order.rendering? s before e.input = some text ∧ after.read path = .ok text

inductive Handles (s : Settings) (order : ConvertOrder) : Files → String → FileOutcome → Files → Prop where
  | unread (fault : f.read input = .error e) : Handles s order f input (.failed input (.unread input e)) f
  | malformed (read : f.read input = .ok text) (fault : Sheet.ofFile input text = .error e) :
      Handles s order f input (.failed input e) f
  | shown (read : f.read input = .ok text) (parsed : Sheet.ofFile input text = .ok sheet)
      (nowhere : order.directory? = none) :
      Handles s order f input (.converted ⟨input, none, (s.convertSheet sheet).report⟩) f
  | unwritten (read : f.read input = .ok text) (parsed : Sheet.ofFile input text = .ok sheet)
      (place : order.directory? = some directory)
      (fault : f.write (outputPath directory input order.form) (order.rendered s sheet) = .error e) :
      Handles s order f input (.failed input (.unwritten (outputPath directory input order.form) e)) f
  | written (read : f.read input = .ok text) (parsed : Sheet.ofFile input text = .ok sheet)
      (place : order.directory? = some directory)
      (done : f.write (outputPath directory input order.form) (order.rendered s sheet) = .ok f') :
      Handles s order f input (.converted ⟨input, some (outputPath directory input order.form),
        (s.convertSheet sheet).report⟩) f'

-- One input after another, each with the files that the one before leaves.
inductive Runs (s : Settings) (order : ConvertOrder) :
    Files → List String → List FileOutcome → Files → Prop where
  | nil : Runs s order f [] [] f
  | cons {inputs outcomes} (first : Handles s order f input outcome f₁)
      (rest : Runs s order f₁ inputs outcomes f') :
      Runs s order f (input :: inputs) (outcome :: outcomes) f'

variable {s : Settings} {order : ConvertOrder} {form : SheetForm} {inputs : List String}
  {log : Log.Record → StateM Workspace Unit}

theorem bind_exact (x : StateM Workspace α) (g : α → StateM Workspace β) (w : Workspace) :
    (x >>= g) w = g (x w).1 (x w).2 := rfl

theorem told_files (quiet : ∀ r w, (log r w).2.files = w.files) (records : Event → Log.Record) (events : List Event)
    (w : Workspace) : ((events.forM fun e => log (records e)) w).2.files = w.files := by
  induction events generalizing w with
  | nil => rfl
  | cons e events ih => exact (ih _).trans (quiet (records e) w)

theorem readSheet_exact (input : String) (w : Workspace) : readSheet Workspace.host input w =
    (match w.files.read input with
      | .ok text => Sheet.ofFile input text
      | .error e => .error (.unread input e), w) := by
  unfold readSheet
  rw [bind_exact]
  change (match w.files.read input with | .ok text => _ | .error e => _ : StateM Workspace _) w = _
  cases w.files.read input <;> rfl

theorem write_change (path text : String) (w : Workspace) : Workspace.host.write path text w =
    match w.files.write path text with
    | .ok files => (.ok (), { w with files })
    | .error e => (.error e, w) := rfl

theorem deliver_nowhere (nowhere : order.directory? = none) (input text : String) (w : Workspace) :
    (deliver Workspace.host order input text w).1 = .ok none ∧
      (deliver Workspace.host order input text w).2.files = w.files := by
  unfold directory? at nowhere
  unfold deliver
  split at nowhere
  · rename_i dry
    rw [if_pos dry]
    exact ⟨rfl, rfl⟩
  · rename_i wet
    rw [if_neg wet, nowhere]
    exact ⟨rfl, rfl⟩

theorem deliver_written (place : order.directory? = some directory) (input text : String) (w : Workspace) :
    deliver Workspace.host order input text w =
      match w.files.write (outputPath directory input order.form) text with
      | .ok files => (.ok (some (outputPath directory input order.form)), { w with files })
      | .error e => (.error (.unwritten (outputPath directory input order.form) e), w) := by
  unfold directory? at place
  unfold deliver
  split at place
  · cases place
  · rename_i wet
    rw [if_neg wet, place]
    dsimp only
    rw [bind_exact, write_change]
    cases w.files.write (outputPath directory input order.form) text <;> rfl

theorem convertFile_stopped (stopped : readSheet Workspace.host input w = (.error e, w)) :
    convertFile Workspace.host log s order input w = (.error e, w) := by
  unfold convertFile
  rw [bind_exact, stopped]
  rfl

theorem convertFile_going (quiet : ∀ r w, (log r w).2.files = w.files) (s : Settings) (order : ConvertOrder)
    (found : readSheet Workspace.host input w = (.ok sheet, w)) : ∃ told : Workspace, told.files = w.files ∧
      convertFile Workspace.host log s order input w =
        ((deliver Workspace.host order input (order.rendered s sheet) told).1.map
            fun output => ⟨input, output, (s.convertSheet sheet).report⟩,
          (deliver Workspace.host order input (order.rendered s sheet) told).2) := by
  refine ⟨_, told_files quiet (fun e => ⟨[.file input, .conversion sheet.fileName], e⟩)
    (s.convertSheet sheet).events w, ?_⟩
  unfold convertFile rendered
  rw [bind_exact, found]
  dsimp only
  rw [bind_exact, bind_exact]
  generalize deliver Workspace.host order input _ _ = delivered
  obtain ⟨result, after⟩ := delivered
  cases result <;> rfl

theorem convertFile_handles (quiet : ∀ r w, (log r w).2.files = w.files) (s : Settings) (order : ConvertOrder)
    (input : String) (w : Workspace) :
    Handles s order w.files input
      (match (convertFile Workspace.host log s order input w).1 with
        | .ok summary => .converted summary
        | .error e => .failed input e)
      (convertFile Workspace.host log s order input w).2.files := by
  have sheetRead := readSheet_exact input w
  cases read : w.files.read input with
  | error e =>
    rw [read] at sheetRead
    rw [convertFile_stopped sheetRead]
    exact .unread read
  | ok text =>
    rw [read] at sheetRead
    dsimp only at sheetRead
    cases parsed : Sheet.ofFile input text with
    | error e =>
      rw [parsed] at sheetRead
      rw [convertFile_stopped sheetRead]
      exact .malformed read parsed
    | ok sheet =>
      rw [parsed] at sheetRead
      obtain ⟨told, same, going⟩ := convertFile_going quiet s order sheetRead
      rw [going]
      cases place : order.directory? with
      | none =>
        obtain ⟨nothing, still⟩ := deliver_nowhere place input (order.rendered s sheet) told
        rw [nothing, still, same]
        exact .shown read parsed place
      | some directory =>
        rw [deliver_written place, same]
        cases done : w.files.write (outputPath directory input order.form) (order.rendered s sheet) with
        | ok files => exact .written read parsed place done
        | error e =>
          dsimp only
          rw [same]
          exact .unwritten read parsed place done

theorem convertInput_handles (quiet : ∀ r w, (log r w).2.files = w.files) (s : Settings) (order : ConvertOrder)
    (input : String) (w : Workspace) :
    Handles s order w.files input (order.convertInput Workspace.host log s input w).1
      (order.convertInput Workspace.host log s input w).2.files := by
  have handled := convertFile_handles quiet s order input w
  unfold convertInput
  rw [bind_exact]
  revert handled
  generalize convertFile Workspace.host log s order input w = ran
  obtain ⟨result, after⟩ := ran
  intro handled
  cases result with
  | ok summary => exact handled
  | error e =>
    dsimp only at handled ⊢
    rw [bind_exact]
    have same := quiet ⟨[], .failed e.message input⟩ after
    rw [← same] at handled
    exact handled

theorem inputs_run (quiet : ∀ r w, (log r w).2.files = w.files) (s : Settings) (order : ConvertOrder)
    (inputs : List String) (w : Workspace) :
    Runs s order w.files inputs (inputs.mapM (order.convertInput Workspace.host log s) w).1
      (inputs.mapM (order.convertInput Workspace.host log s) w).2.files := by
  induction inputs generalizing w with
  | nil => exact .nil
  | cons input inputs ih =>
    rw [List.mapM_cons]
    exact .cons (convertInput_handles quiet s order input w) (ih _)

theorem outputName_named (input : String) (form : SheetForm) : Path.Named (outputName input form) := by
  have long : 4 ≤ (outputName input form).length := by
    rw [outputName, String.length_append, String.length_append]
    have dot : ".".length = 1 := rfl
    have ending : 3 ≤ form.extension.length := by cases form <;> decide
    omega
  have stem : '/' ∉ ((Path.stem? input).getD "stylesheet").toList := by
    cases found : Path.stem? input with
    | none => decide
    | some stem => exact Path.stem_plain found
  have apart : ∀ short : String, short.length < 4 → outputName input form ≠ short := by
    intro short few same
    rw [same] at long
    omega
  refine ⟨?_, ?_, apart ".." (by decide)⟩
  · rw [outputName, String.toList_append, String.toList_append, List.mem_append, List.mem_append]
    rintro ((early | point) | ending)
    · exact stem early
    · revert point
      decide
    · revert ending
      cases form <;> decide
  · rw [Path.isVoid, Bool.or_eq_false_iff, decide_eq_false_iff_not, decide_eq_false_iff_not]
    exact ⟨apart "" (by decide), apart "." (by decide)⟩

theorem outputPath_way (directory input : String) (form : SheetForm) :
    Files.way (outputPath directory input form) = Files.way directory ++ [outputName input form] :=
  Files.way_join directory (outputName_named input form)

theorem outputPath_inj
    (same : Files.way (outputPath directory input form) = Files.way (outputPath directory input' form)) :
    outputPath directory input form = outputPath directory input' form := by
  rw [outputPath_way, outputPath_way, List.append_cancel_left_eq, List.cons.injEq] at same
  exact congrArg (Path.join directory) same.1

theorem handles_read (handles : Handles s order f input outcome f')
    (apart : ∀ e path', outcome = .converted e → e.output = some path' → Files.way path ≠ Files.way path')
    (found : f.read path = .ok text) : f'.read path = .ok text := by
  cases handles with
  | unread | malformed | shown | unwritten => exact found
  | written _ _ _ done => exact Files.write_apart done (apart _ _ rfl rfl) found

theorem handles_summary (place : order.directory? = some directory)
    (handles : Handles s order f input (.converted e) f') : e.input = input ∧
      e.output = some (outputPath directory input order.form) := by
  cases handles with
  | shown _ _ nowhere =>
    rw [place] at nowhere
    cases nowhere
  | written _ _ place' _ =>
    rw [place] at place'
    cases place'
    exact ⟨rfl, rfl⟩

theorem handles_outside (place : order.directory? = some directory) (handles : Handles s order f input outcome f')
    (apart : ∀ name, w ≠ Files.way directory ++ [name]) : f'.text? w = f.text? w := by
  cases handles with
  | unread | malformed | shown | unwritten => rfl
  | written _ _ place' done =>
    rw [place] at place'
    cases place'
    rw [Files.write_text done, outputPath_way, if_neg (apart _)]

theorem handles_delivers (place : order.directory? = some directory)
    (handles : Handles s order f input (.converted e) f')
    (same : f.text? (Files.way input) = before.text? (Files.way input)) : order.Delivered s before f' e := by
  cases handles with
  | shown _ _ nowhere =>
    rw [place] at nowhere
    cases nowhere
  | written read parsed _ done =>
    refine ⟨_, _, rfl, ?_, Files.write_read done⟩
    rw [rendering?, ← same, (Files.read_exact.mp read).2, Option.bind_some, parsed]
    rfl

theorem runs_read (runs : Runs s order f inputs outcomes f')
    (apart : ∀ e path', .converted e ∈ outcomes → e.output = some path' → Files.way path ≠ Files.way path')
    (found : f.read path = .ok text) : f'.read path = .ok text := by
  induction runs with
  | nil => exact found
  | cons first rest ih =>
    refine ih (fun e path' member => apart e path' (List.mem_cons_of_mem _ member)) ?_
    refine handles_read first ?_ found
    rintro e path' rfl
    exact apart e path' List.mem_cons_self

theorem runs_summary (place : order.directory? = some directory) (runs : Runs s order f inputs outcomes f')
    (member : .converted e ∈ outcomes) : e.input ∈ inputs ∧
      e.output = some (outputPath directory e.input order.form) := by
  induction runs with
  | nil => cases member
  | cons first rest ih =>
    rcases List.mem_cons.mp member with rfl | old
    · obtain ⟨rfl, output⟩ := handles_summary place first
      exact ⟨List.mem_cons_self, output⟩
    · obtain ⟨known, output⟩ := ih old
      exact ⟨List.mem_cons_of_mem _ known, output⟩

theorem runs_delivers (place : order.directory? = some directory) (runs : Runs s order f inputs outcomes f')
    (alone : ∀ later, .converted later ∈ outcomes → later.output ≠ e.output)
    (here : e.output = some (outputPath directory e.input order.form)) (delivered : order.Delivered s before f e) :
    order.Delivered s before f' e := by
  obtain ⟨path, text, output, rendering, found⟩ := delivered
  refine ⟨path, text, output, rendering, runs_read runs ?_ found⟩
  intro later path' member output' same
  have there := (runs_summary place runs member).2
  cases here.symm.trans output
  cases there.symm.trans output'
  rw [outputPath_inj same] at here
  exact alone later member (there.trans here.symm)

-- The last of the inputs that go to one path leaves its own rendering there.
theorem runs_last (place : order.directory? = some directory) (runs : Runs s order f inputs outcomes f')
    (apart : ∀ input ∈ inputs, ∀ name, Files.way input ≠ Files.way directory ++ [name])
    (same : ∀ input ∈ inputs, f.text? (Files.way input) = before.text? (Files.way input)) :
    ∀ e, .converted e ∈ outcomes →
      ∃ last, .converted last ∈ outcomes ∧ last.output = e.output ∧ order.Delivered s before f' last := by
  induction runs with
  | nil => exact fun _ none => by cases none
  | @cons f input outcome f₁ f' inputs outcomes first rest ih =>
    have unmoved : ∀ later ∈ inputs, f₁.text? (Files.way later) = before.text? (Files.way later) := by
      intro later member
      rw [← same later (List.mem_cons_of_mem _ member)]
      exact handles_outside place first (apart later (List.mem_cons_of_mem _ member))
    have tail := ih (fun later member => apart later (List.mem_cons_of_mem _ member)) unmoved
    have later : ∀ e', .converted e' ∈ outcomes → ∃ last, .converted last ∈ outcome :: outcomes ∧
        last.output = e'.output ∧ order.Delivered s before f' last := by
      intro e' member
      obtain ⟨last, known, output, delivered⟩ := tail e' member
      exact ⟨last, List.mem_cons_of_mem _ known, output, delivered⟩
    intro e member
    rcases List.mem_cons.mp member with rfl | old
    · by_cases again : ∃ e', .converted e' ∈ outcomes ∧ e'.output = e.output
      · obtain ⟨e', known, output⟩ := again
        rw [← output]
        exact later e' known
      · obtain ⟨named, output⟩ := handles_summary place first
        rw [← named] at output
        have delivered := handles_delivers place first (same input List.mem_cons_self)
        have alone : ∀ e', .converted e' ∈ outcomes → e'.output ≠ e.output :=
          fun e' known there => again ⟨e', known, there⟩
        exact ⟨e, List.mem_cons_self, rfl, runs_delivers place rest alone output delivered⟩
    · exact later e old

theorem loadOverrides_still (path : String) (w : Workspace) : (loadOverrides Workspace.host path w).2 = w := by
  unfold loadOverrides
  rw [bind_exact]
  change ((match w.files.read path with | .ok text => _ | .error e => _ : StateM Workspace _) w).2 = w
  cases w.files.read path <;> rfl

theorem settings_still (order : ConvertOrder) (w : Workspace) : (settings Workspace.host order w).2 = w := by
  unfold settings
  cases order.config with
  | none => rfl
  | some path => exact loadOverrides_still path w

theorem prepareDirectory_texts (order : ConvertOrder) (w : Workspace) :
    (prepareDirectory Workspace.host order w).2.files.texts = w.files.texts := by
  unfold prepareDirectory
  cases order.outDir with
  | none => rfl
  | some directory =>
    dsimp only
    split
    · rfl
    · rw [bind_exact]
      change (Workspace.change (·.createDirectories directory) w).2.files.texts = _
      unfold Workspace.change
      dsimp only
      cases created : w.files.createDirectories directory with
      | ok files => exact Files.createDirectories_texts created
      | error e => rfl

theorem mem_files {c : Conversions} : e ∈ c.files ↔ .converted e ∈ c.outcomes := by
  rw [Conversions.files, List.mem_filterMap]
  constructor
  · rintro ⟨outcome, member, summary⟩
    cases outcome with
    | converted s =>
      cases summary
      exact member
    | failed => cases summary
  · intro member
    exact ⟨_, member, rfl⟩

theorem run_rejected {host : Host (StateM Workspace)} (log : Log.Record → StateM Workspace Unit)
    (rejected : settings host order w = (.error e, w)) :
    order.run host log w = (.error e, w) := by
  unfold run
  rw [bind_exact, rejected]
  rfl

theorem run_unprepared (order : ConvertOrder) (accepted : settings Workspace.host order w = (.ok s, w))
    (unprepared : prepareDirectory Workspace.host order w = (.error e, w')) :
    order.run Workspace.host log w = (.error e, w') := by
  unfold run
  rw [bind_exact, accepted]
  dsimp only
  rw [bind_exact, unprepared]
  rfl

theorem run_prepared (quiet : ∀ r w, (log r w).2.files = w.files) (order : ConvertOrder)
    (accepted : settings Workspace.host order w = (.ok s, w))
    (prepared : prepareDirectory Workspace.host order w = (.ok (), w')) :
    ∃ c, (order.run Workspace.host log w).1 = .ok c ∧
      Runs s order w'.files order.inputs c.outcomes (order.run Workspace.host log w).2.files := by
  have ran : order.run Workspace.host log w =
      (.ok ⟨(order.inputs.mapM (order.convertInput Workspace.host log s) w').1⟩,
        (order.inputs.mapM (order.convertInput Workspace.host log s) w').2) := by
    unfold run
    rw [bind_exact, accepted]
    dsimp only
    rw [bind_exact, prepared]
    rfl
  rw [ran]
  exact ⟨_, rfl, inputs_run quiet s order order.inputs w'⟩

theorem run_runs (quiet : ∀ r w, (log r w).2.files = w.files) (ran : (order.run Workspace.host log w).1 = .ok c) :
    ∃ s f, (settings Workspace.host order w).1 = .ok s ∧ f.texts = w.files.texts ∧
      Runs s order f order.inputs c.outcomes (order.run Workspace.host log w).2.files := by
  cases settled : (settings Workspace.host order w).1 with
  | error e =>
    rw [run_rejected log (Prod.ext settled (settings_still order w))] at ran
    cases ran
  | ok s =>
    have accepted : settings Workspace.host order w = (.ok s, w) := Prod.ext settled (settings_still order w)
    have texts := prepareDirectory_texts order w
    cases prepared : prepareDirectory Workspace.host order w with
    | mk result after =>
      rw [prepared] at texts
      cases result with
      | error e =>
        rw [run_unprepared order accepted prepared] at ran
        cases ran
      | ok =>
        obtain ⟨c', ran', runs⟩ := run_prepared quiet order accepted prepared
        cases ran.symm.trans ran'
        exact ⟨s, after.files, rfl, texts, runs⟩

-- None is lost if and only if inputs that share an output share their rendering.
theorem run_delivers (order : ConvertOrder) (log : Log.Record → StateM Workspace Unit) (w : Workspace)
    (c : Conversions) (directory : String) (quiet : ∀ r w, (log r w).2.files = w.files)
    (writes : order.dryRun = false) (place : order.outDir = some directory)
    (apart : ∀ input ∈ order.inputs, ∀ name, Files.way input ≠ Files.way directory ++ [name])
    (ran : (order.run Workspace.host log w).1 = .ok c) :
    ∃ s, (settings Workspace.host order w).1 = .ok s ∧
      (∀ e ∈ c.files, e.input ∈ order.inputs ∧ e.output = some (outputPath directory e.input order.form)) ∧
      ((∀ e ∈ c.files, order.Delivered s w.files (order.run Workspace.host log w).2.files e) ↔
        ∀ e ∈ c.files, ∀ e' ∈ c.files, e.output = e'.output →
          order.rendering? s w.files e.input = order.rendering? s w.files e'.input) := by
  obtain ⟨s, f, accepted, texts, runs⟩ := run_runs quiet ran
  have place : order.directory? = some directory := by
    rw [directory?, writes, place]
    rfl
  have same : ∀ input ∈ order.inputs, f.text? (Files.way input) = w.files.text? (Files.way input) := by
    intro input _
    rw [Files.text?, texts, Files.text?]
  have last := runs_last place runs apart same
  refine ⟨s, accepted, fun e member => runs_summary place runs (mem_files.mp member), ?_, ?_⟩
  · intro all e member e' member' shared
    obtain ⟨path, text, output, rendering, found⟩ := all e member
    obtain ⟨path', text', output', rendering', found'⟩ := all e' member'
    cases output.symm.trans (shared.trans output')
    cases found.symm.trans found'
    rw [rendering, rendering']
  · intro agree e member
    obtain ⟨e', known, shared, path, text, output, rendering, found⟩ := last e (mem_files.mp member)
    refine ⟨path, text, shared ▸ output, ?_, found⟩
    rw [agree e member e' (mem_files.mpr known) shared.symm, rendering]

theorem run_delivers_apart :
    let order : ConvertOrder := ⟨["a/x.json", "b/y.json"], none, some "out", .css, false⟩
    let sheet := fun text : String => "\x7b\"nodes\": [\x7b\"type\": \"comment\", \"text\": \"" ++ text ++ "\"\x7d]\x7d"
    let w := Workspace.ofFiles (.ofList [("a/x.json", sheet "a"), ("b/y.json", sheet "b")])
    let run := order.run Workspace.host (fun _ => pure ()) w
    ∃ s c, (settings Workspace.host order w).1 = .ok s ∧ run.1 = .ok c ∧ c.files.length = 2 ∧
      ∀ e ∈ c.files, order.Delivered s w.files run.2.files e := by
  intro order sheet w run
  have names : run.1.toOption.map (·.files.map fun e => (e.input, e.output)) =
      some [("a/x.json", some "out/x.css"), ("b/y.json", some "out/y.css")] := by decide +kernel
  cases ran : run.1 with
  | error e =>
    rw [ran] at names
    cases names
  | ok c =>
    rw [ran] at names
    have names := Option.some.inj names
    have out : Files.way "out" = ["out"] := by decide +kernel
    have elsewhere : ∀ input ∈ order.inputs, (Files.way input).head? ≠ some "out" := by decide +kernel
    have apart : ∀ input ∈ order.inputs, ∀ name, Files.way input ≠ Files.way "out" ++ [name] := by
      intro input member name same
      rw [out] at same
      exact elsewhere input member (congrArg List.head? same)
    obtain ⟨s, accepted, _, delivered⟩ :=
      run_delivers order (fun _ => pure ()) w c "out" (fun _ _ => rfl) rfl rfl apart ran
    have two : c.files.length = 2 := by
      have length := congrArg List.length names
      rwa [List.length_map] at length
    refine ⟨s, c, accepted, rfl, two, delivered.mpr ?_⟩
    intro e member e' member' shared
    have known : (e.input, e.output) ∈ [("a/x.json", some "out/x.css"), ("b/y.json", some "out/y.css")] :=
      names ▸ List.mem_map_of_mem member
    have known' : (e'.input, e'.output) ∈ [("a/x.json", some "out/x.css"), ("b/y.json", some "out/y.css")] :=
      names ▸ List.mem_map_of_mem member'
    have alone : ∀ p ∈ [("a/x.json", some "out/x.css"), ("b/y.json", some "out/y.css")],
        ∀ p' ∈ [("a/x.json", some "out/x.css"), ("b/y.json", some "out/y.css")], p.2 = p'.2 → p.1 = p'.1 := by
      decide
    rw [show e.input = e'.input from alone _ known _ known' shared]

-- Both are told to be there, and the first is lost.
theorem output_overwritten :
    let order : ConvertOrder := ⟨["a/x.json", "b/x.json"], none, some "out", .css, false⟩
    let sheet := fun text : String => "\x7b\"nodes\": [\x7b\"type\": \"comment\", \"text\": \"" ++ text ++ "\"\x7d]\x7d"
    let w := Workspace.ofFiles (.ofList [("a/x.json", sheet "a"), ("b/x.json", sheet "b")])
    let run := order.run Workspace.host (fun _ => pure ()) w
    order.inputs.Nodup ∧ (∀ input ∈ order.inputs, Files.holds (Files.way "out") (Files.way input) = false) ∧
      (settings Workspace.host order w).1 = .ok Settings.standard ∧
      ∃ c, run.1 = .ok c ∧ c.errors = [] ∧ run.2.files.read "out/x.css" = .ok "/* b */\n" ∧
        ∃ e ∈ c.files, e.output = some "out/x.css" ∧
          order.rendering? Settings.standard w.files e.input = some "/* a */\n" ∧
          ¬ order.Delivered Settings.standard w.files run.2.files e := by
  intro order sheet w run
  refine ⟨by decide, by decide +kernel, rfl, ?_⟩
  have told : run.1.toOption.map (fun c => (c.errors, c.files.map fun e => (e.input, e.output))) =
      some ([], [("a/x.json", some "out/x.css"), ("b/x.json", some "out/x.css")]) := by decide +kernel
  have there : run.2.files.read "out/x.css" = .ok "/* b */\n" := by decide +kernel
  have first : order.rendering? Settings.standard w.files "a/x.json" = some "/* a */\n" := by decide +kernel
  cases ran : run.1 with
  | error e =>
    rw [ran] at told
    cases told
  | ok c =>
    rw [ran] at told
    have told := Prod.mk.inj (Option.some.inj told)
    have member : ("a/x.json", some "out/x.css") ∈ c.files.map fun e => (e.input, e.output) :=
      told.2 ▸ List.mem_cons_self
    obtain ⟨e, member, named⟩ := List.mem_map.mp member
    obtain ⟨input, output⟩ := Prod.mk.inj named
    rw [← input] at first
    refine ⟨c, rfl, told.1, there, e, member, output, first, ?_⟩
    rintro ⟨path, text, output', rendering, found⟩
    cases output.symm.trans output'
    cases first.symm.trans rendering
    exact absurd (found.symm.trans there) (by decide)

end ConvertOrder
end FluidSheet
