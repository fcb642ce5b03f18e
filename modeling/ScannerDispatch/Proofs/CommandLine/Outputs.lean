import ScannerDispatch.CommandLine.Run
import ScannerDispatch.Proofs.Dispatch.Reports
import ScannerDispatch.Proofs.Files.Contents

/-!
What a run leaves behind in a tree of files.

The outputs are generated together and then written one after another, so a run that fails at an
output has written those before it.

* `Performs x P`: what the action `x` changes is described by a list of written files, which satisfies
  `P` together with its result.  There is one rule for each operation of a run.
* `performs_generateFiles`: a run writes the first of its outputs and stops at the next one, or
  writes them all.
* `file?_of_failed_run`: a failed run changes no file but the outputs that it reports as written.
-/

namespace ScannerDispatch.CommandLine

/-! ## Written files -/

/-- An output file: where a run is asked to write it, and its text. -/
structure OutputFile where
  path : String
  contents : String
deriving Repr, DecidableEq, Inhabited

/-- The output files of a run, in the order in which they are written. -/
def Arguments.outputFiles (a : Arguments) (outputs : Outputs) : List OutputFile :=
  [⟨a.outputSource, outputs.source⟩, ⟨a.outputHeaderDecls, outputs.headerDecls⟩,
    ⟨a.outputHeader, outputs.header⟩]

/-- An output file that was written, with the place that its path led to. -/
structure Written extends OutputFile where
  place : Location
  place_last : place.getLast? = (Path.names path).getLast?

/-- Files of a tree after some were written: each is whole, and the last one at a place stays. -/
def overwritten (files : Location → Option ByteArray) (written : List Written) :
    Location → Option ByteArray :=
  written.foldl (fun files f l => if l = f.place then some f.contents.toUTF8 else files l) files

/-- The paths that a log reports as written. -/
def reportedPaths (log : List LogEvent) : List String :=
  log.filterMap fun
    | .wrote path => some path
    | _ => none

theorem overwritten_append (files : Location → Option ByteArray) (fs gs : List Written) :
    overwritten files (fs ++ gs) = overwritten (overwritten files fs) gs := by
  simp [overwritten]

theorem reportedPaths_append (log log' : List LogEvent) :
    reportedPaths (log ++ log') = reportedPaths log ++ reportedPaths log' :=
  List.filterMap_append

theorem reportedPaths_eq_nil {log : List LogEvent} (h : ∀ path, .wrote path ∉ log) :
    reportedPaths log = [] := by
  rw [reportedPaths, List.filterMap_eq_nil_iff]
  intro e he
  cases e with
  | wrote path => exact absurd he (h path)
  | _ => rfl

/-- Between two states of a run, given by tree and log, exactly these files were written, and reported
    in their order. -/
structure Writes (written : List Written) (tree after : FileTree) (log log' : List LogEvent) :
    Prop where
  files : after.file? = overwritten tree.file? written
  reported : reportedPaths log' = reportedPaths log ++ written.map (·.path)

section
variable {tree tree' tree'' : FileTree} {log log' log'' : List LogEvent} {fs gs : List Written}

theorem Writes.none (h : tree'.file? = tree.file?) : Writes [] tree tree' log log :=
  ⟨h, by simp⟩

theorem Writes.trans (h : Writes fs tree tree' log log') (h' : Writes gs tree' tree'' log' log'') :
    Writes (fs ++ gs) tree tree'' log log'' where
  files := by rw [overwritten_append, ← h.files, h'.files]
  reported := by rw [h'.reported, h.reported, List.append_assoc, List.map_append]

end

/-! ## Operations on files -/

variable {α β : Type}

/-- An operation that changes no file. -/
def Keeps (x : StateM Workspace α) : Prop :=
  ∀ w, (x.run w).2.tree.file? = w.tree.file?

theorem Keeps.pure (a : α) : Keeps (pure a) :=
  fun _ => rfl

theorem Keeps.bind {x : StateM Workspace α} {f : α → StateM Workspace β} (hx : Keeps x)
    (hf : ∀ a, Keeps (f a)) : Keeps (x >>= f) :=
  fun w => (hf (x.run w).1 (x.run w).2).trans (hx w)

theorem keeps_canonical (path : String) : Keeps (Workspace.files.canonical path) :=
  fun _ => rfl

theorem keeps_isDirectory (path : String) : Keeps (Workspace.files.isDirectory path) :=
  fun _ => rfl

theorem keeps_enter (path : String) : Keeps (Workspace.files.enter path) :=
  fun _ => rfl

theorem keeps_read (path : String) : Keeps (Workspace.files.read path) :=
  fun _ => rfl

theorem keeps_makeDirectory (path : String) : Keeps (Workspace.files.makeDirectory path) := by
  intro w
  change (Workspace.change (fun w => w.tree.makeDirectory w.here path) w).2.tree.file? = _
  rw [Workspace.change]
  cases h : w.tree.makeDirectory w.here path with
  | error e => rfl
  | ok tree => exact funext fun l => FileTree.file?_of_makeDirectory h l

theorem keeps_makeOrKeep (path : String) : Keeps (makeOrKeep Workspace.files path) := by
  refine (keeps_makeDirectory path).bind fun r => ?_
  cases r with
  | ok _ => exact .pure _
  | error e => exact (keeps_isDirectory path).bind fun _ => .pure _

theorem keeps_makeDirectories (paths : List String) :
    Keeps (makeDirectories Workspace.files paths) := by
  induction paths with
  | nil => exact .pure _
  | cons path outer ih =>
    refine (keeps_makeOrKeep path).bind fun r => ?_
    split
    · refine ih.bind fun r => ?_
      cases r with
      | ok _ => exact keeps_makeOrKeep path
      | error e => exact .pure _
    · exact .pure _

/-! ## Actions -/

/-- The result of an action in a workspace, what is reported by then, and the workspace after it. -/
def outcome (x : Action (StateM Workspace) α) (log : List LogEvent) (w : Workspace) :
    (Except RunError α × List LogEvent) × Workspace :=
  (x.run.run log).run w

theorem outcome_bind (x : Action (StateM Workspace) α) (f : α → Action (StateM Workspace) β)
    (log : List LogEvent) (w : Workspace) :
    outcome (x >>= f) log w =
      match outcome x log w with
      | ((.ok a, log'), w') => outcome (f a) log' w'
      | ((.error e, log'), w') => ((.error e, log'), w') := by
  cases h : outcome x log w with
  | mk r w' =>
    obtain ⟨r, log'⟩ := r
    have h : (x.run.run log).run w = ((r, log'), w') := h
    rw [outcome, ExceptT.run_bind, StateT.run_bind, StateT.run_bind, h]
    cases r <;> rfl

theorem outcome_attempt (failure : FileError → RunError)
    (x : StateM Workspace (Except FileError α)) (log : List LogEvent) (w : Workspace) :
    outcome (Action.attempt failure x) log w =
      (((x.run w).1.mapError failure, log), (x.run w).2) := by
  have hlift : outcome (liftM (liftM x : StateT (List LogEvent) (StateM Workspace) _)) log w =
      ((.ok (x.run w).1, log), (x.run w).2) := rfl
  rw [Action.attempt, outcome_bind, hlift]
  cases (x.run w).1 <;> rfl

/-- From every state, the files that the action `x` writes satisfy `P` together with its result. -/
def Performs (x : Action (StateM Workspace) α)
    (P : List Written → Except RunError α → Prop) : Prop :=
  ∀ log w, ∃ written, P written (outcome x log w).1.1 ∧
    Writes written w.tree (outcome x log w).2.tree log (outcome x log w).1.2

/-- What is returned satisfies `V`, and a failure satisfies `E`. -/
def Meets (V : α → Prop) (E : RunError → Prop) : Except RunError α → Prop
  | .ok a => V a
  | .error e => E e

theorem Meets.mono {V U : α → Prop} {E D : RunError → Prop} {r : Except RunError α}
    (h : Meets V E r) (hV : ∀ a, V a → U a) (hE : ∀ e, E e → D e) : Meets U D r := by
  cases r with
  | ok a => exact hV a h
  | error e => exact hE e h

/-- The action `x` writes nothing; what it returns satisfies `V` and its failures satisfy `E`. -/
def Quiet (x : Action (StateM Workspace) α) (V : α → Prop) (E : RunError → Prop) : Prop :=
  Performs x fun written r => written = [] ∧ Meets V E r

section
variable {x : Action (StateM Workspace) α} {f : α → Action (StateM Workspace) β}
  {V : α → Prop} {E : RunError → Prop} {P : List Written → Except RunError α → Prop}
  {R : List Written → Except RunError β → Prop}

theorem Performs.bind {Q : α → List Written → Except RunError β → Prop} (hx : Performs x P)
    (hf : ∀ a fs, P fs (.ok a) → Performs (f a) (Q a))
    (herror : ∀ e fs, P fs (.error e) → R fs (.error e))
    (hok : ∀ a fs gs r, P fs (.ok a) → Q a gs r → R (fs ++ gs) r) : Performs (x >>= f) R := by
  intro log w
  obtain ⟨fs, hP, hwrites⟩ := hx log w
  rw [outcome_bind]
  generalize outcome x log w = o at hP hwrites
  obtain ⟨⟨r, log'⟩, w'⟩ := o
  cases r with
  | error e => exact ⟨fs, herror e fs hP, hwrites⟩
  | ok a =>
    obtain ⟨gs, hQ, hwrites'⟩ := hf a fs hP log' w'
    exact ⟨fs ++ gs, hok a fs gs _ hP hQ, hwrites.trans hwrites'⟩

theorem Quiet.performs_bind (hx : Quiet x V E) (hf : ∀ a, V a → Performs (f a) R)
    (herror : ∀ e, E e → R [] (.error e)) : Performs (x >>= f) R := by
  refine Performs.bind (Q := fun _ => R) hx (fun a _ h => hf a h.2) ?_ ?_
  · rintro e fs ⟨rfl, he⟩
    exact herror e he
  · rintro a fs gs r ⟨rfl, -⟩ h
    exact h

theorem Quiet.bind {U : β → Prop} (hx : Quiet x V E) (hf : ∀ a, V a → Quiet (f a) U E) :
    Quiet (x >>= f) U E :=
  hx.performs_bind hf fun _ he => ⟨rfl, he⟩

theorem Quiet.mono {U : α → Prop} {D : RunError → Prop} (hx : Quiet x V E) (hV : ∀ a, V a → U a)
    (hE : ∀ e, E e → D e) : Quiet x U D := by
  intro log w
  obtain ⟨fs, ⟨hfs, hr⟩, hwrites⟩ := hx log w
  exact ⟨fs, ⟨hfs, hr.mono hV hE⟩, hwrites⟩

end

section
variable {V : α → Prop} {E : RunError → Prop}

theorem quiet_pure {a : α} (h : V a) : Quiet (pure a) V E :=
  fun _ _ => ⟨[], ⟨rfl, h⟩, .none rfl⟩

theorem quiet_throw {e : RunError} (h : E e) : Quiet (throw e) V E :=
  fun _ _ => ⟨[], ⟨rfl, h⟩, .none rfl⟩

theorem quiet_lift {x : StateM Workspace α} (h : Keeps x) :
    Quiet (liftM x : Action (StateM Workspace) α) (fun _ => True) E :=
  fun _ w => ⟨[], ⟨rfl, trivial⟩, .none (h w)⟩

end

theorem quiet_attempt {x : StateM Workspace (Except FileError α)} (failure : FileError → RunError)
    (h : Keeps x) :
    Quiet (Action.attempt failure x) (fun _ => True) fun e => ∃ reason, e = failure reason := by
  intro log w
  rw [outcome_attempt]
  refine ⟨[], ⟨rfl, ?_⟩, .none (h w)⟩
  cases (x.run w).1 with
  | ok a => exact trivial
  | error reason => exact ⟨reason, rfl⟩

/-- Something that reports no file as written is carried out without writing one. -/
theorem quiet_ofLogged {ε : Type} (failure : ε → RunError) {x : Logged ε α}
    (h : ∀ path, .wrote path ∉ x.log) :
    Quiet (Action.ofLogged failure x) (fun a => x.result = .ok a) fun _ => True := by
  have hmodify : Quiet (modify (· ++ x.log) : Action (StateM Workspace) PUnit) (fun _ => True)
      fun _ => True :=
    fun log w => ⟨[], ⟨rfl, trivial⟩, rfl, by
      change reportedPaths (log ++ x.log) = _
      rw [reportedPaths_append, reportedPaths_eq_nil h]
      rfl⟩
  refine hmodify.bind fun _ _ => ?_
  cases hx : x.result with
  | ok a => exact quiet_pure rfl
  | error e => exact quiet_throw trivial

/-! ## The run -/

theorem quiet_enterWorkdir (workdir : Option String) :
    Quiet (enterWorkdir Workspace.files workdir) (fun _ => True) fun _ => True := by
  cases workdir with
  | none => exact quiet_pure trivial
  | some path =>
    refine ((quiet_attempt _ (keeps_canonical path)).mono (fun _ => id) fun _ _ => trivial).bind
      fun place _ => ?_
    refine (quiet_lift (keeps_isDirectory place)).bind fun isDirectory _ => ?_
    cases isDirectory with
    | true => exact quiet_lift (keeps_enter place)
    | false => exact quiet_throw trivial

theorem quiet_loadConfig (path : String) :
    Quiet (loadConfig Workspace.files path)
      (fun config => ∃ text, (Config.ofToml text).result = .ok config) fun _ => True := by
  refine ((quiet_attempt _ (keeps_read path)).mono (fun _ => id) fun _ _ => trivial).bind
    fun bytes _ => ?_
  cases String.fromUTF8? bytes with
  | none => exact quiet_throw trivial
  | some text =>
    exact (quiet_ofLogged _ (Config.wrote_notMem_ofToml text)).mono (fun _ h => ⟨text, h⟩)
      fun _ => id

/-- The failure is one of writing the file at a path, or of making the directory for it. -/
def RunError.Concerns (path : String) : RunError → Prop
  | directoryNotMade parent _ => Path.parent? path = some parent
  | notWritten target _ => target = path
  | _ => False

/-- Of these outputs all are written, or those before the one that the failure is about. -/
def StopsAt (outputs : List OutputFile) (written : List Written) : Except RunError Unit → Prop
  | .ok () => written.map (·.toOutputFile) = outputs
  | .error e => ∃ done next rest, outputs = done ++ next :: rest ∧
      written.map (·.toOutputFile) = done ∧ e.Concerns next.path

/-- A write that fails changes nothing, and one that succeeds writes one file and reports it. -/
theorem performs_write_report (path contents : String) :
    Performs (do
      Action.attempt (.notWritten path) (Workspace.files.write path contents)
      Action.report (.wrote path)) (StopsAt [⟨path, contents⟩]) := by
  intro log w
  rw [outcome_bind, outcome_attempt]
  have hrun : (Workspace.files.write path contents).run w =
      Workspace.change (fun w => w.tree.write w.here path contents.toUTF8) w := rfl
  rw [hrun, Workspace.change]
  cases h : w.tree.write w.here path contents.toUTF8 with
  | error reason => exact ⟨[], ⟨[], _, [], rfl, rfl, rfl⟩, .none rfl⟩
  | ok tree =>
    obtain ⟨l, hlast, hl⟩ := FileTree.file?_of_write h
    exact ⟨[⟨⟨path, contents⟩, l, hlast⟩], rfl, funext hl, reportedPaths_append _ _⟩

theorem performs_writeOutput (path contents : String) :
    Performs (writeOutput Workspace.files path contents) (StopsAt [⟨path, contents⟩]) := by
  unfold writeOutput
  cases h : Path.parent? path with
  | none => exact performs_write_report path contents
  | some parent =>
    refine (quiet_attempt _ (keeps_makeDirectories _)).performs_bind
      (fun _ _ => performs_write_report path contents) ?_
    rintro e ⟨reason, rfl⟩
    exact ⟨[], _, [], rfl, rfl, h⟩

theorem Performs.seq {x y : Action (StateM Workspace) Unit} {os os' : List OutputFile}
    (hx : Performs x (StopsAt os)) (hy : Performs y (StopsAt os')) :
    Performs (x >>= fun _ => y) (StopsAt (os ++ os')) := by
  refine hx.bind (fun _ _ _ => hy) ?_ ?_
  · rintro e fs ⟨done, next, rest, rfl, hfs, he⟩
    exact ⟨done, next, rest ++ os', by simp, hfs, he⟩
  · intro _ fs gs r hfs hgs
    have hfs : fs.map (·.toOutputFile) = os := hfs
    cases r with
    | ok _ =>
      have hgs : gs.map (·.toOutputFile) = os' := hgs
      change (fs ++ gs).map (·.toOutputFile) = _
      rw [List.map_append, hfs, hgs]
    | error e =>
      obtain ⟨done, next, rest, rfl, hgs, he⟩ := hgs
      exact ⟨os ++ done, next, rest, by simp, by rw [List.map_append, hfs, hgs], he⟩

/-- The outputs are those that some configuration generates. -/
def Generated (outputs : Outputs) : Prop :=
  ∃ text config, (Config.ofToml text).result = .ok config ∧
    (Generator.ofConfig config).generate.result = .ok outputs

/-- A run fails before it writes anything, or it has generated its outputs and writes them in their
    order, up to one that fails. -/
theorem performs_generateFiles (a : Arguments) :
    Performs (generateFiles Workspace.files a) fun written r =>
      (written = [] ∧ ∃ e, r = .error e) ∨
        ∃ outputs, Generated outputs ∧ StopsAt (a.outputFiles outputs) written r := by
  have herror : ∀ e : RunError, True → ([] : List Written) = [] ∧ ∃ e',
      (.error e : Except RunError Unit) = .error e' := fun e _ => ⟨rfl, e, rfl⟩
  refine (quiet_enterWorkdir a.workdir).performs_bind (fun _ _ => ?_) fun e h => .inl (herror e h)
  refine (quiet_loadConfig a.configFile).performs_bind ?_ fun e h => .inl (herror e h)
  rintro config ⟨text, hconfig⟩
  refine (quiet_ofLogged _ (Generator.wrote_notMem_build config)).performs_bind (fun g hg => ?_)
    fun e h => .inl (herror e h)
  refine (quiet_ofLogged _ g.wrote_notMem_generate).performs_bind (fun outputs ho => ?_)
    fun e h => .inl (herror e h)
  obtain rfl : Generator.ofConfig config = g := Except.ok.inj hg
  have hwrites := (performs_writeOutput a.outputSource outputs.source).seq
    ((performs_writeOutput a.outputHeaderDecls outputs.headerDecls).seq
      (performs_writeOutput a.outputHeader outputs.header))
  intro log w
  obtain ⟨written, hstops, hwrites⟩ := hwrites log w
  exact ⟨written, .inr ⟨outputs, ⟨text, config, hconfig, ho⟩, hstops⟩, hwrites⟩

/-! ## Command lines -/

section
variable {tree after : FileTree} {here : Location} {arguments : List String} {response : Response}

theorem runOnTree_run {a : Arguments} (h : Arguments.parse arguments = .run a) :
    runOnTree tree here arguments =
      match outcome (generateFiles Workspace.files a) [] { tree, here } with
      | ((.ok (), log), w) => ({ exitCode := 0, log }, w.tree)
      | ((.error e, log), w) => ({ exitCode := 1, failure := some e, log }, w.tree) := by
  rw [runOnTree, execute, h, StateT.run_bind]
  cases ho : outcome (generateFiles Workspace.files a) [] { tree, here } with
  | mk r w =>
    obtain ⟨r, log⟩ := r
    have ho : ((generateFiles Workspace.files a).run.run []).run { tree, here } = ((r, log), w) := ho
    rw [ho]
    cases r <;> rfl

/-- Command lines that ask for no run change nothing and report nothing. -/
theorem runOnTree_of_not_run (tree : FileTree) (here : Location)
    (h : ∀ a, Arguments.parse arguments ≠ .run a) :
    (runOnTree tree here arguments).2 = tree ∧ (runOnTree tree here arguments).1.log = [] := by
  rw [runOnTree, execute]
  cases hp : Arguments.parse arguments with
  | run a => exact absurd hp (h a)
  | _ => exact ⟨rfl, rfl⟩

/-- **A run that succeeds has written all of its outputs, each as it was generated.** -/
theorem outputs_of_successful_run {a : Arguments} (ha : Arguments.parse arguments = .run a)
    (hrun : runOnTree tree here arguments = (response, after)) (hexit : response.exitCode = 0) :
    ∃ outputs written, Generated outputs ∧ written.map (·.toOutputFile) = a.outputFiles outputs ∧
      Writes written tree after [] response.log := by
  obtain ⟨written, hcases, hwrites⟩ := performs_generateFiles a [] { tree, here }
  rw [runOnTree_run ha] at hrun
  generalize outcome (generateFiles Workspace.files a) [] { tree, here } = o at hcases hwrites hrun
  obtain ⟨⟨r, log⟩, w⟩ := o
  cases r with
  | error e => cases hrun; cases hexit
  | ok _ =>
    cases hrun
    obtain ⟨-, e, he⟩ | ⟨outputs, hgenerated, hstops⟩ := hcases
    · cases he
    · exact ⟨outputs, written, hgenerated, hstops, hwrites⟩

/-- What a run with these arguments and this failure leaves behind: nothing, or the outputs before the
    one that the failure is about. -/
def LeftBehind (arguments : List String) (failure : Option RunError) (written : List Written) : Prop :=
  written = [] ∨ ∃ a outputs e, Arguments.parse arguments = .run a ∧ Generated outputs ∧
    failure = some e ∧ StopsAt (a.outputFiles outputs) written (.error e)

theorem exists_written_of_failed_run (hrun : runOnTree tree here arguments = (response, after))
    (hexit : response.exitCode ≠ 0) :
    ∃ written, Writes written tree after [] response.log ∧
      LeftBehind arguments response.failure written := by
  by_cases hparse : ∃ a, Arguments.parse arguments = .run a
  · obtain ⟨a, ha⟩ := hparse
    obtain ⟨written, hcases, hwrites⟩ := performs_generateFiles a [] { tree, here }
    rw [runOnTree_run ha] at hrun
    generalize outcome (generateFiles Workspace.files a) [] { tree, here } = o at hcases hwrites hrun
    obtain ⟨⟨r, log⟩, w⟩ := o
    cases r with
    | ok _ => cases hrun; exact absurd rfl hexit
    | error e =>
      cases hrun
      refine ⟨written, hwrites, ?_⟩
      exact hcases.imp And.left fun ⟨outputs, hgenerated, hstops⟩ =>
        ⟨a, outputs, e, ha, hgenerated, rfl, hstops⟩
  · obtain ⟨htree, hlog⟩ : after = tree ∧ response.log = [] := by
      simpa only [hrun] using runOnTree_of_not_run tree here (not_exists.1 hparse)
    exact ⟨[], by rw [htree, hlog]; exact .none rfl, .inl rfl⟩

/-- **A failed run changes no file but the outputs that it has written before the one that it fails
    at.**  So it changes nothing if it reports no output as written, or if its failure is not about an
    output.  It can leave one output behind, or two, since they are written one after another. -/
theorem file?_of_failed_run (hrun : runOnTree tree here arguments = (response, after))
    (hexit : response.exitCode ≠ 0) :
    ((∀ path, .wrote path ∉ response.log) → ∀ l, after.file? l = tree.file? l) ∧
      ((∀ e path, response.failure = some e → ¬ e.Concerns path) →
        ∀ l, after.file? l = tree.file? l) ∧
      ∃ written, Writes written tree after [] response.log ∧
        LeftBehind arguments response.failure written := by
  obtain ⟨written, hwrites, hcases⟩ := exists_written_of_failed_run hrun hexit
  have hnone : written = [] → ∀ l, after.file? l = tree.file? l := by
    rintro rfl l
    rw [hwrites.files]
    rfl
  refine ⟨fun hlog => hnone ?_, fun hfailure => hnone ?_, written, hwrites, hcases⟩
  · have hpaths : [] = written.map (·.path) :=
      (reportedPaths_eq_nil hlog).symm.trans hwrites.reported
    exact List.map_eq_nil_iff.1 hpaths.symm
  · obtain hnil | ⟨a, outputs, e, -, -, he, done, next, rest, -, -, hconcerns⟩ := hcases
    · exact hnil
    · exact absurd hconcerns (hfailure e next.path he)

/-- A run without its configuration fails and writes nothing. -/
theorem file?_of_missing_configuration :
    let run := runOnTree {} [] ["c", "-S", "s", "-D", "d", "-H", "h"]
    run.1.exitCode ≠ 0 ∧ run.1.log = [] ∧ ∀ l, run.2.file? l = ({} : FileTree).file? l := by
  intro run
  have hrun : run = (run.1, run.2) := rfl
  have hexit : run.1.exitCode ≠ 0 := by decide +kernel
  have hlog : run.1.log = [] := by decide +kernel
  exact ⟨hexit, hlog, (file?_of_failed_run hrun hexit).1 (by simp [hlog])⟩

/-- A small configuration. -/
def smallConfiguration : String :=
  "settings=\x7bidentTokenName=\"i\",makeTokenFunctionName=\"m\",errorTokenFunctionName=\"e\"," ++
    "checkKeywordFunctionName=\"k\",charTokenFunctionName=\"c\",identFunctionName=\"f\"," ++
    "symbolFunctionName=\"s\"\x7d\ntokens=\x7bliterals=[\"i\"]\x7d\n"

/-- A tree with a configuration in `c`, and with a directory `d` where the second output should go. -/
def blockedTree : FileTree :=
  .ofList [(["c"], .file smallConfiguration.toUTF8), (["d"], .directory)]

/-- A failed run can leave a new file: here the first output is written and the second one fails. -/
theorem not_forall_failed_unchanged :
    ¬ ∀ tree here arguments, (runOnTree tree here arguments).1.exitCode ≠ 0 →
      ∀ l, (runOnTree tree here arguments).2.file? l = tree.file? l := by
  intro h
  have hbefore : blockedTree.file? ["s"] = none := by decide +kernel
  have hafter :
      (runOnTree blockedTree [] ["c", "-S", "s", "-D", "d", "-H", "h"]).1.exitCode ≠ 0 ∧
        ((runOnTree blockedTree [] ["c", "-S", "s", "-D", "d", "-H", "h"]).2.file? ["s"]).isSome := by
    decide +kernel
  rw [h blockedTree [] _ hafter.1 ["s"], hbefore] at hafter
  cases hafter.2

end

end ScannerDispatch.CommandLine
