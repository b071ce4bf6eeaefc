import FluidSheet.Proofs.Command.Delivery
import FluidSheet.Proofs.Files.Directory

namespace FluidSheet

-- The same kind of failure at the same path; the machine may give another reason for it.
inductive FileFailure.Alike : FileFailure → FileFailure → Prop where
  | unread : Alike (.unread path e) (.unread path e')
  | malformed : Alike (.malformed path e) (.malformed path e)
  | unwritten : Alike (.unwritten path e) (.unwritten path e')

theorem FileFailure.Alike.refl (failure : FileFailure) : Alike failure failure := by
  cases failure with
  | unread => exact .unread
  | malformed => exact .malformed
  | unwritten => exact .unwritten

inductive FileOutcome.Alike : FileOutcome → FileOutcome → Prop where
  | converted : Alike (.converted e) (.converted e)
  | failed (alike : FileFailure.Alike fault fault') : Alike (.failed input fault) (.failed input fault')

namespace ConvertOrder

def outcomeOf (s : Settings) (order : ConvertOrder) (f : Files) (input : String) : FileOutcome :=
  match f.read input with
  | .error e => .failed input (.unread input e)
  | .ok text =>
    match Sheet.ofFile input text with
    | .error e => .failed input e
    | .ok sheet =>
      let report := (s.convertSheet sheet).report
      match order.directory? with
      | none => .converted ⟨input, none, report⟩
      | some directory =>
        let path := outputPath directory input order.form
        match f.write path (order.rendered s sheet) with
        | .error e => .failed input (.unwritten path e)
        | .ok _ => .converted ⟨input, some path, report⟩

def on (order : ConvertOrder) (inputs : List String) : ConvertOrder := { order with inputs }

def Apart (order : ConvertOrder) (c : Conversions) : Prop :=
  ∀ e ∈ c.files, ∀ path, e.output = some path → ∀ input ∈ order.inputs, Files.way path ≠ Files.way input

-- The run has one entry for each input, in order, and it is the one of the run on that input alone.
def EachAlone (order : ConvertOrder) (log : Log.Record → StateM Workspace Unit) (w : Workspace)
    (c : Conversions) : Prop :=
  ∃ parts : List Conversions,
    List.Forall₂ (fun input part => ((order.on [input]).run Workspace.host log w).1 = .ok part ∧
      part.files.map (·.input) ++ part.failures.map (·.1) = [input]) order.inputs parts ∧
    c.files = parts.flatMap (·.files) ∧
    List.Forall₂ (fun failure failure' => failure.1 = failure'.1 ∧ FileFailure.Alike failure.2 failure'.2)
      (parts.flatMap (·.failures)) c.failures

structure Undisturbed (inputs : List String) (f g : Files) : Prop where
  level : Files.Level f g
  texts : ∀ input ∈ inputs, f.text? (Files.way input) = g.text? (Files.way input)

variable {s : Settings} {order : ConvertOrder} {inputs : List String} {f g : Files} {w : Workspace}
  {log : Log.Record → StateM Workspace Unit}

theorem handles_exact (handles : Handles s order f input outcome f') : outcome = order.outcomeOf s f input := by
  unfold outcomeOf
  cases handles with
  | unread fault => simp only [fault]
  | malformed read fault => simp only [read, fault]
  | shown read parsed nowhere => simp only [read, parsed, nowhere]
  | unwritten read parsed place fault => simp only [read, parsed, place, fault]
  | written read parsed place done => simp only [read, parsed, place, done]

theorem outcomeOf_alike (level : Files.Level f g) (same : f.text? (Files.way input) = g.text? (Files.way input)) :
    FileOutcome.Alike (order.outcomeOf s f input) (order.outcomeOf s g input) := by
  unfold outcomeOf
  cases read : f.read input with
  | error e =>
    cases read' : g.read input with
    | error e' => exact .failed .unread
    | ok text =>
      rw [(level.read same).mpr read'] at read
      cases read
  | ok text =>
    rw [(level.read same).mp read]
    dsimp only
    cases Sheet.ofFile input text with
    | error e => exact .failed (FileFailure.Alike.refl e)
    | ok sheet =>
      dsimp only
      cases order.directory? with
      | none => exact .converted
      | some directory =>
        have writes := level.write (outputPath directory input order.form) (order.rendered s sheet)
        dsimp only
        cases done : f.write (outputPath directory input order.form) (order.rendered s sheet) with
        | error e =>
          cases done' : g.write (outputPath directory input order.form) (order.rendered s sheet) with
          | error e' => exact .failed .unwritten
          | ok g' =>
            obtain ⟨f', written⟩ := writes.mpr ⟨g', done'⟩
            rw [written] at done
            cases done
        | ok f' =>
          obtain ⟨g', written⟩ := writes.mp ⟨f', done⟩
          rw [written]
          exact .converted

theorem handles_still (handles : Handles s order f input outcome g)
    (apart : ∀ e path, outcome = .converted e → e.output = some path →
      ∀ later ∈ inputs, Files.way path ≠ Files.way later) :
    Undisturbed inputs f g := by
  cases handles with
  | unread | malformed | shown | unwritten => exact ⟨fun _ => rfl, fun _ _ => rfl⟩
  | written _ _ _ done =>
    refine ⟨(Files.write_level done).symm, fun later member => ?_⟩
    rw [Files.write_text done, if_neg (apart _ _ rfl rfl later member).symm]

theorem undisturbed_trans (first : Undisturbed inputs f g) (second : Undisturbed inputs g h) : Undisturbed inputs f h :=
  ⟨first.level.trans second.level, fun input member => (first.texts input member).trans (second.texts input member)⟩

-- Along a run every input fares as it would have fared at its start.
theorem runs_alike (still : Undisturbed inputs f g) (runs : Runs s order g inputs outcomes g')
    (apart : ∀ e path, .converted e ∈ outcomes → e.output = some path →
      ∀ input ∈ inputs, Files.way path ≠ Files.way input) :
    List.Forall₂ (fun input => FileOutcome.Alike (order.outcomeOf s f input)) inputs outcomes := by
  induction runs with
  | nil => exact .nil
  | cons first rest ih =>
    refine .cons ?_ (ih ?_ ?_)
    · rw [handles_exact first]
      exact outcomeOf_alike still.level (still.texts _ List.mem_cons_self)
    · have later : Undisturbed _ f _ := ⟨still.level, fun input member => still.texts input (List.mem_cons_of_mem _ member)⟩
      refine undisturbed_trans later (handles_still first ?_)
      rintro e path rfl output input member
      exact apart e path List.mem_cons_self output input (List.mem_cons_of_mem _ member)
    · intro e path member output input member'
      exact apart e path (List.mem_cons_of_mem _ member) output input (List.mem_cons_of_mem _ member')

theorem handles_nowhere (nowhere : order.directory? = none) (handles : Handles s order f input outcome g) : g = f := by
  cases handles with
  | unread | malformed | shown | unwritten => rfl
  | written _ _ place _ =>
    rw [nowhere] at place
    cases place

theorem runs_nowhere (nowhere : order.directory? = none) (runs : Runs s order f inputs outcomes g) : g = f := by
  induction runs with
  | nil => rfl
  | cons first _ ih => exact ih.trans (handles_nowhere nowhere first)

theorem prepareDirectory_exact (order : ConvertOrder) (w : Workspace) : prepareDirectory Workspace.host order w =
    match order.directory? with
    | none => (.ok (), w)
    | some directory =>
      match w.files.createDirectories directory with
      | .ok files => (.ok (), { w with files })
      | .error e => (.error (.noDirectory directory e), w) := by
  unfold prepareDirectory directory?
  cases order.outDir with
  | none => split <;> rfl
  | some directory =>
    dsimp only
    split
    · rfl
    · rw [bind_exact]
      change ((Workspace.change (·.createDirectories directory) w).1.mapError _, (Workspace.change _ w).2) = _
      unfold Workspace.change
      dsimp only
      cases w.files.createDirectories directory <;> rfl

section
variable {m : Type → Type} [Monad m] {host host' : Host m}

theorem settings_same (same : ∀ path, order.config = some path → host'.read path = host.read path)
    (inputs : List String) : settings host' (order.on inputs) = settings host order := by
  have config : (order.on inputs).config = order.config := rfl
  unfold settings
  rw [config]
  cases named : order.config with
  | none => rfl
  | some path =>
    unfold loadOverrides
    dsimp only
    rw [same path named]

theorem deliver_dry (dry : order.dryRun = true) (host : Host m) (input text : String) :
    deliver host order input text = pure (.ok none) := if_pos dry

theorem run_dry (dry : order.dryRun = true) (same : host'.read = host.read) (log : Log.Record → m Unit) :
    order.run host' log = order.run host log := by
  have files : ∀ s, convertFile host' log s order = convertFile host log s order := by
    intro s
    funext input
    unfold convertFile readSheet
    simp only [deliver_dry dry, same]
  have prepared : ∀ host : Host m, prepareDirectory host order = pure (.ok ()) := by
    intro host
    unfold prepareDirectory
    cases order.outDir with
    | none => rfl
    | some directory => exact if_pos dry
  unfold run
  have accepted : settings host' order = settings host order := settings_same (fun path _ => congrFun same path) order.inputs
  rw [accepted, prepared, prepared]
  unfold convertInput
  simp only [files]

end

theorem single_prepared (quiet : ∀ r w, (log r w).2.files = w.files) (accepted : settings Workspace.host order w = (.ok s, w))
    (prepared : prepareDirectory Workspace.host order w = (.ok (), w')) (input : String) :
    ((order.on [input]).run Workspace.host log w).1 = .ok ⟨[order.outcomeOf s w'.files input]⟩ := by
  obtain ⟨⟨outcomes⟩, ran, runs⟩ := run_prepared quiet (order.on [input]) accepted prepared
  cases runs with
  | cons first rest =>
    cases rest
    rw [ran, handles_exact first]
    rfl

theorem outcomeOf_names (s : Settings) (order : ConvertOrder) (f : Files) (input : String) :
    let part := Conversions.mk [order.outcomeOf s f input]
    part.files.map (·.input) ++ part.failures.map (·.1) = [input] := by
  unfold outcomeOf
  split
  · rfl
  · split
    · rfl
    · dsimp only
      split
      · rfl
      · split <;> rfl

theorem alike_account (alike : List.Forall₂ FileOutcome.Alike as bs) :
    let parts := as.map fun a => Conversions.mk [a]
    (Conversions.mk bs).files = parts.flatMap (·.files) ∧
      List.Forall₂ (fun fault fault' => fault.1 = fault'.1 ∧ FileFailure.Alike fault.2 fault'.2)
        (parts.flatMap (·.failures)) (Conversions.mk bs).failures := by
  induction alike with
  | nil => exact ⟨rfl, .nil⟩
  | cons first _ ih =>
    obtain ⟨files, failures⟩ := ih
    cases first with
    | converted => exact ⟨congrArg (List.cons _) files, failures⟩
    | failed alike => exact ⟨files, .cons ⟨rfl, alike⟩ failures⟩

theorem hasErrors_exact (c : Conversions) : c.hasErrors = true ↔ c.errors ≠ [] := by
  rw [Conversions.hasErrors, Conversions.errors, Bool.not_eq_true', List.isEmpty_eq_false_iff, ne_eq, ne_eq,
    List.map_eq_nil_iff]

theorem each_alone (quiet : ∀ r w, (log r w).2.files = w.files) (accepted : settings Workspace.host order w = (.ok s, w))
    (prepared : prepareDirectory Workspace.host order w = (.ok (), w')) :
    ∃ c, (order.run Workspace.host log w).1 = .ok c ∧ (c.hasErrors = true ↔ c.errors ≠ []) ∧
      (order.Apart c → order.EachAlone log w c) := by
  obtain ⟨c, ran, runs⟩ := run_prepared quiet order accepted prepared
  refine ⟨c, ran, hasErrors_exact c, fun apart => ?_⟩
  have alike := runs_alike ⟨fun _ => rfl, fun _ _ => rfl⟩ runs fun e path member => apart e (mem_files.mpr member) path
  obtain ⟨files, failures⟩ := alike_account (List.forall₂_map_left_iff.mpr alike)
  rw [List.map_map] at files failures
  refine ⟨_, ?_, files, failures⟩
  rw [List.forall₂_map_right_iff, List.forall₂_same]
  intro input _
  exact ⟨single_prepared quiet accepted prepared input, outcomeOf_names s order w'.files input⟩

-- Unless the directory for the results cannot be made, every input fares as in a run on it alone.
theorem run_independent (order : ConvertOrder) (log : Log.Record → StateM Workspace Unit) (w : Workspace)
    (quiet : ∀ r w, (log r w).2.files = w.files) :
    let run := order.run Workspace.host log w
    (∀ s, (settings Workspace.host order w).1 = .ok s →
      (∃ c, run.1 = .ok c ∧ (c.hasErrors = true ↔ c.errors ≠ []) ∧ (order.Apart c → order.EachAlone log w c)) ∨
      ∃ directory e, order.directory? = some directory ∧ w.files.createDirectories directory = .error e ∧
        ∀ inputs, (order.on inputs).run Workspace.host log w = (.error (.noDirectory directory e), w)) ∧
    (order.dryRun = true → run.2.files = w.files ∧
      ∀ host, host.read = Workspace.host.read → order.run host log w = run) ∧
    ∀ e, (settings Workspace.host order w).1 = .error e → ∀ (host : Host (StateM Workspace)) log inputs,
      (∀ path, order.config = some path → host.read path = Workspace.host.read path) →
      (order.on inputs).run host log w = (.error e, w) := by
  intro run
  refine ⟨?_, ?_, ?_⟩
  · intro s accepted
    have accepted : settings Workspace.host order w = (.ok s, w) := Prod.ext accepted (settings_still order w)
    have exact := prepareDirectory_exact order w
    cases place : order.directory? with
    | none =>
      rw [place] at exact
      exact .inl (each_alone quiet accepted exact)
    | some directory =>
      rw [place] at exact
      cases made : w.files.createDirectories directory with
      | ok files =>
        simp only [made] at exact
        exact .inl (each_alone quiet accepted exact)
      | error e =>
        simp only [made] at exact
        exact .inr ⟨directory, e, rfl, made, fun inputs => run_unprepared (order.on inputs) accepted exact⟩
  · intro dry
    refine ⟨?_, fun host same => congrFun (run_dry dry same log) w⟩
    have nowhere : order.directory? = none := if_pos dry
    have prepared := prepareDirectory_exact order w
    rw [nowhere] at prepared
    cases settled : (settings Workspace.host order w).1 with
    | error e =>
      have rejected := run_rejected log (Prod.ext settled (settings_still order w))
      exact congrArg (·.2.files) rejected
    | ok s =>
      obtain ⟨c, _, runs⟩ := run_prepared quiet order (Prod.ext settled (settings_still order w)) prepared
      exact runs_nowhere nowhere runs
  · intro e rejected host log inputs same
    apply run_rejected
    rw [settings_same same]
    exact Prod.ext rejected (settings_still order w)

theorem run_independent_missing :
    let order : ConvertOrder := ⟨["a/x.json", "b/y.json", "z.json"], none, some "out", .css, false⟩
    let sheet := "\x7b\"nodes\": []\x7d"
    let w := Workspace.ofFiles (.ofList [("a/x.json", sheet), ("z.json", sheet)])
    ∃ c, (order.run Workspace.host (fun _ => pure ()) w).1 = .ok c ∧ c.files.length = 2 ∧ c.errors ≠ [] ∧
      c.hasErrors = true ∧ order.EachAlone (fun _ => pure ()) w c := by
  intro order sheet w
  obtain ⟨ended, -⟩ := run_independent order (fun _ => pure ()) w fun _ _ => rfl
  obtain ⟨c, ran, errors, alone⟩ | ⟨directory, e, place, failed, _⟩ := ended Settings.standard rfl
  · have told : (order.run Workspace.host (fun _ => pure ()) w).1.toOption.map (fun c =>
        (c.files.map (·.output), c.hasErrors)) = some ([some "out/x.css", some "out/z.css"], true) := by decide +kernel
    rw [ran] at told
    obtain ⟨outputs, failed⟩ := Prod.mk.inj (Option.some.inj told)
    have apart : ∀ output ∈ [some "out/x.css", some "out/z.css"], ∀ path ∈ output, ∀ input ∈ order.inputs,
        Files.way path ≠ Files.way input := by decide +kernel
    refine ⟨c, ran, by simpa using congrArg List.length outputs, errors.mp failed, failed, alone ?_⟩
    intro e member path output
    exact apart e.output (outputs ▸ List.mem_map_of_mem member) path output
  · cases place
    have made : (w.files.createDirectories "out").toOption.isSome = true := by decide +kernel
    rw [failed] at made
    cases made

end ConvertOrder
end FluidSheet
