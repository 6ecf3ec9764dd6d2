import Decomment.Cli.Invoke
import Decomment.Proofs.ConfigLoad
import Decomment.Proofs.Jobs

/-! What a run of the program does to the workspace. Reading the command line, loading the
config, printing the stripped input and listing a directory only look at the workspace. A run
writes once, the stripped input into the output, and nothing before a failure; a directory run
writes, job after job, only files that the listed jobs' outputs name in the first workspace.
Reading the command line never lets `--stdout` and `--batch` through together. So a failed run
without `--batch`, a run with `--stdout`, and `--help` and `--version` leave the workspace as it
was; a finished run writes exactly the stripped input into the resolved output; and a directory
run changes nothing but its jobs' outputs.
-/

namespace Decomment

open Decomment.Files Decomment.Files.Workspace

-----------------------------------------------------------------------------------------
-- Steps that change nothing
-----------------------------------------------------------------------------------------

/-- A bound step runs on what the first step leaves. -/
theorem stateM_run_bind {σ α β : Type} (x : StateM σ α) (f : α → StateM σ β) (s : σ)
    : (x >>= f).run s = (f (x.run s).1).run (x.run s).2 :=
  rfl

/-- A step that looks at the workspace and changes nothing. -/
def Keeps {α : Type} (x : StateM Workspace α) : Prop :=
  ∀ w, (x.run w).2 = w

namespace Keeps

variable {α β : Type}

theorem pure (a : α) : Keeps (Pure.pure a : StateM Workspace α) :=
  fun _ => rfl

theorem bind {x : StateM Workspace α} {k : α → StateM Workspace β} (first : Keeps x)
    (next : ∀ a, Keeps (k a)) : Keeps (x >>= k) := by
  intro w
  rw [StateT.run_bind]
  have stays := first w
  generalize x.run w = result at stays
  obtain ⟨a, v⟩ := result
  subst stays
  exact next a v

theorem mapM {f : α → StateM Workspace β} (each : ∀ a, Keeps (f a))
    : ∀ xs : List α, Keeps (xs.mapM f)
  | [] => Keeps.pure _
  | a :: rest => by
      rw [List.mapM_cons]
      exact (each a).bind fun _ => (mapM each rest).bind fun _ => Keeps.pure _

/-- A step that changes nothing runs as its answer on the workspace it started from. -/
theorem run_eq {x : StateM Workspace α} (keeps : Keeps x) (w : Workspace)
    : x.run w = ((x.run w).1, w) :=
  Prod.ext rfl (keeps w)

end Keeps

theorem keeps_readText (path : String) : Keeps (readText path : StateM Workspace _) :=
  fun w => readText_keeps w path

theorem keeps_load (features : Features) (text : String)
    : Keeps (Config.load features text : StateM Workspace _) :=
  fun w => Config.load_keeps features text w

theorem keeps_listEntries (dir : String) : Keeps (Batch.listEntries dir : StateM Workspace _) := by
  unfold Batch.listEntries
  refine Keeps.bind (fun _ => rfl) fun listed => ?_
  cases listed with
  | error e => exact Keeps.pure _
  | ok names =>
      exact (Keeps.mapM (fun name => (fun _ => rfl : Keeps _)) names).bind fun _ => Keeps.pure _

theorem keeps_jobs (dir : String) : Keeps (Batch.jobs dir : StateM Workspace _) := by
  unfold Batch.jobs
  refine (keeps_listEntries dir).bind fun listed => ?_
  cases listed <;> exact Keeps.pure _

-----------------------------------------------------------------------------------------
-- Reading the command line
-----------------------------------------------------------------------------------------

namespace Cli

/-- A command line that reads is what the options recorded ask for, with no two of them
excluding each other. -/
theorem readArgs_eq_ok {features : Features} {args : List String} {a : Arguments}
    (parsed : readArgs features args = .ok a)
    : ∃ r : Reader, firstClash r.used = none ∧ a = r.arguments := by
  unfold readArgs at parsed
  cases folded : args.foldlM (readArg (Flag.offered features)) {} with
  | error e => simp [folded, bind, Except.bind] at parsed
  | ok r =>
      cases resolved : r.resolve with
      | error e => simp [folded, resolved, bind, Except.bind] at parsed
      | ok r' =>
          simp only [folded, resolved, bind, Except.bind] at parsed
          cases clash : firstClash r'.used with
          | some found => simp [clash] at parsed
          | none =>
              simp only [clash, pure, Except.pure, Except.ok.injEq] at parsed
              exact ⟨r', clash, parsed.symm⟩

/-- With no clash found, no two options given exclude each other. -/
theorem clashes_eq_false_of_firstClash {used : List Flag} (noClash : firstClash used = none)
    {f g : Flag} (fUsed : f ∈ used) (gUsed : g ∈ used) (apart : g ≠ f)
    : f.clashes g = false := by
  unfold firstClash at noClash
  have none := List.findSome?_eq_none_iff.mp noClash f fUsed
  -- the options clashing with `f` are none at all
  have noOthers : used.filter (fun g => g != f && f.clashes g) = [] := by
    split at none
    · assumption
    · cases none
  have notKept := List.filter_eq_nil_iff.mp noOthers g gUsed
  simpa [apart] using notKept

/-- An option with a value was given. -/
theorem Reader.mem_used_of_value? {r : Reader} {f : Flag} {v : String} (given : r.value? f = some v)
    : f ∈ r.used := by
  obtain ⟨entry, found, -⟩ := Option.map_eq_some_iff.mp given
  have named : entry.flag = f := by simpa using List.find?_some found
  exact List.mem_map.mpr ⟨entry, List.mem_of_find?_eq_some found, named⟩

/-- A command line that reads never asks both to print the stripped text and to strip a
directory. -/
theorem batch_eq_none_of_stdout {features : Features} {args : List String} {a : Arguments}
    (parsed : readArgs features args = .ok a) (printing : a.stdout = true) : a.batch = none := by
  obtain ⟨r, noClash, rfl⟩ := readArgs_eq_ok parsed
  cases given : r.value? .batch with
  | none => exact given
  | some dir =>
      have batchUsed := Reader.mem_used_of_value? given
      have stdoutUsed : Flag.stdout ∈ r.used := by
        simpa [Reader.arguments, Reader.has] using printing
      have apart := clashes_eq_false_of_firstClash noClash stdoutUsed batchUsed (by decide)
      exact absurd apart (by decide)

-----------------------------------------------------------------------------------------
-- The settings of a command line
-----------------------------------------------------------------------------------------

/-- The settings a command line asks for in a workspace: the defaults, or the config it names,
then its input and output paths, then its header choice. -/
def Resolves (features : Features) (a : Arguments) (w : Workspace) (settings : Settings) : Prop :=
  ∃ base : Settings,
    (a.config = none ∧ base = {} ∨
      ∃ config, a.config = some config ∧
        ((Config.load features config : StateM Workspace _).run w).1 = .ok base) ∧
    settings =
      { input := a.input.getD base.input
        output := a.output.getD base.output
        keepPragmaOnly := !a.keepHeader && base.keepPragmaOnly }

theorem override_eq (a : Arguments) (base : Settings)
    : a.override base =
      { input := a.input.getD base.input
        output := a.output.getD base.output
        keepPragmaOnly := !a.keepHeader && base.keepPragmaOnly } := by
  unfold Arguments.override
  cases a.keepHeader <;> rfl

theorem keeps_settings (features : Features) (a : Arguments)
    : Keeps (a.settings features : StateM Workspace _) := by
  unfold Arguments.settings
  cases a.config with
  | some config => exact (keeps_load features config).bind fun _ => Keeps.pure _
  | none => exact Keeps.pure _

/-- Settings a command line reads to are the ones it asks for. -/
theorem resolves_of_settings {features : Features} {a : Arguments} {w : Workspace}
    {settings : Settings}
    (resolved : ((a.settings features : StateM Workspace _).run w).1 = .ok settings)
    : Resolves features a w settings := by
  unfold Arguments.settings at resolved
  cases given : a.config with
  | none =>
      simp only [given] at resolved
      cases resolved
      exact ⟨{}, Or.inl ⟨given, rfl⟩, override_eq a {}⟩
  | some config =>
      simp only [given, StateT.run_bind] at resolved
      rw [(keeps_load features config).run_eq w] at resolved
      cases loaded : ((Config.load features config : StateM Workspace _).run w).1 with
      | error e =>
          rw [loaded] at resolved
          cases resolved
      | ok base =>
          rw [loaded] at resolved
          cases resolved
          exact ⟨base, Or.inr ⟨config, given, loaded⟩, override_eq a base⟩

end Cli

-----------------------------------------------------------------------------------------
-- A run
-----------------------------------------------------------------------------------------

/-- A failed run changes nothing. -/
theorem run_keeps_of_error {settings : Settings} {w : Workspace} {f : Failure}
    (failed : ((run settings : StateM Workspace _).run w).1 = .error f)
    : ((run settings : StateM Workspace _).run w).2 = w := by
  unfold run at failed ⊢
  rw [runPaths_run] at failed ⊢
  cases read : ((readText settings.input : StateM Workspace _).run w).1 with
  | error e => rfl
  | ok source =>
      simp only [read] at failed
      dsimp only
      rw [writeStripped_run] at failed ⊢
      cases chosen : w.fileKey settings.output with
      | error e => rfl
      | ok key =>
          simp only [chosen] at failed
          cases failed

/-- A finished run has read its input and written the stripped text into the file its output
names, and nothing else. -/
theorem run_eq_of_ok {settings : Settings} {w : Workspace} {r : Report}
    (done : ((run settings : StateM Workspace _).run w).1 = .ok r)
    : ∃ source key, ((readText settings.input : StateM Workspace _).run w).1 = .ok source ∧
      w.fileKey settings.output = .ok key ∧
      ((run settings : StateM Workspace _).run w).2 =
        w.set key (.file (encodeUtf8 (strip settings.keepPragmaOnly source).text)) := by
  unfold run at done ⊢
  rw [runPaths_run] at done ⊢
  cases read : ((readText settings.input : StateM Workspace _).run w).1 with
  | error e =>
      simp only [read] at done
      cases done
  | ok source =>
      simp only [read] at done
      dsimp only
      rw [writeStripped_run] at done ⊢
      cases chosen : w.fileKey settings.output with
      | error e =>
          simp only [chosen] at done
          cases done
      | ok key => exact ⟨source, key, rfl, rfl, rfl⟩

-----------------------------------------------------------------------------------------
-- A directory run
-----------------------------------------------------------------------------------------

namespace Batch

/-- A workspace that has the directories of `w` and differs from it only at files that the
outputs of some jobs name in `w`. -/
structure WrittenBy (w : Workspace) (todo : List Job) (v : Workspace) : Prop where
  dirs : SameDirs v w
  written : ∀ key, v.node? key ≠ w.node? key →
    ∃ job ∈ todo, w.fileKey job.output = .ok key

variable {w v : Workspace} {todo : List Job}

theorem WrittenBy.refl (w : Workspace) (todo : List Job) : WrittenBy w todo w :=
  ⟨fun _ => Iff.rfl, fun _ changed => absurd rfl changed⟩

/-- A job run on a workspace written by the jobs writes, if anything, a file its output names in
`w`. -/
theorem WrittenBy.runPaths {keep : Bool} {job : Job} (written : WrittenBy w todo v)
    (member : job ∈ todo)
    : WrittenBy w todo
      ((Decomment.runPaths keep job.input job.output : StateM Workspace _).run v).2 := by
  rw [runPaths_run]
  cases read : ((readText job.input : StateM Workspace _).run v).1 with
  | error e => exact written
  | ok source =>
      dsimp only
      rw [writeStripped_run]
      cases chosen : v.fileKey job.output with
      | error e => exact written
      | ok key =>
          obtain ⟨-, -, -, -, -, notDir⟩ := fileKey_eq_ok chosen
          refine ⟨sameDirs_set_file written.dirs notDir _, ?_⟩
          intro k changed
          by_cases here : k = key
          · subst here
            exact ⟨job, member, fileKey_eq_of_sameDirs written.dirs chosen⟩
          · rw [node?_set, if_neg here] at changed
            exact written.written k changed

/-- Jobs run one after another write only files that their outputs name in `w`, by induction on
the jobs. -/
theorem WrittenBy.stripAll {keep : Bool} (written : WrittenBy w todo v) (rest : List Job)
    (inTodo : ∀ job ∈ rest, job ∈ todo)
    : WrittenBy w todo ((Batch.stripAll keep rest : StateM Workspace _).run v).2 := by
  induction rest generalizing v with
  | nil => exact written
  | cons job rest ih =>
      rw [stripAll_cons_run]
      exact ih (written.runPaths (inTodo job List.mem_cons_self))
        fun other member => inTodo other (List.mem_cons_of_mem job member)

end Batch

namespace Cli

/-- A directory run whose listing answers leaves what its jobs leave. -/
theorem stripDirectory_run_snd {settings : Settings} {json : Bool} {dir : String} {w : Workspace}
    {todo : List Batch.Job} (listed : ((Batch.jobs dir : StateM Workspace _).run w).1 = .ok todo)
    : ((stripDirectory settings json dir : StateM Workspace _).run w).2 =
      ((Batch.stripAll settings.keepPragmaOnly todo : StateM Workspace _).run w).2 := by
  have listing := (keeps_jobs dir).run_eq w
  rw [listed] at listing
  unfold stripDirectory
  rw [stateM_run_bind, listing]
  dsimp only
  rw [stateM_run_bind]
  split <;> rfl

/-- A directory run changes only files that the outputs of the directory's jobs name. -/
theorem stripDirectory_changes_only_outputs (settings : Settings) (json : Bool) (dir : String)
    (w : Workspace) (key : List String)
    (changed : ((stripDirectory settings json dir : StateM Workspace _).run w).2.node? key ≠
      w.node? key)
    : ∃ todo, ((Batch.jobs dir : StateM Workspace _).run w).1 = .ok todo ∧
      ∃ job ∈ todo, w.fileKey job.output = .ok key := by
  cases listed : ((Batch.jobs dir : StateM Workspace _).run w).1 with
  | error f =>
      have listing := (keeps_jobs dir).run_eq w
      rw [listed] at listing
      unfold stripDirectory at changed
      rw [stateM_run_bind, listing] at changed
      exact absurd rfl changed
  | ok todo =>
      rw [stripDirectory_run_snd listed] at changed
      have written : Batch.WrittenBy w todo
          ((Batch.stripAll settings.keepPragmaOnly todo : StateM Workspace _).run w).2 :=
        (Batch.WrittenBy.refl w todo).stripAll todo fun _ member => member
      exact ⟨todo, rfl, written.written key changed⟩

-----------------------------------------------------------------------------------------
-- A run of the program
-----------------------------------------------------------------------------------------

/-- Printing the stripped input reads it and changes nothing. -/
theorem printStripped_run (settings : Settings) (w : Workspace)
    : (printStripped settings : StateM Workspace _).run w =
      (match ((readText settings.input : StateM Workspace _).run w).1 with
        | .error e => failed (.read settings.input e)
        | .ok source => { exitCode := 0, stdout := (strip settings.keepPragmaOnly source).text },
        w) := by
  unfold printStripped
  rw [stateM_run_bind, (keeps_readText settings.input).run_eq w]
  cases ((readText settings.input : StateM Workspace _).run w).1 <;> rfl

variable {features : Features} {args : List String} {w : Workspace} {a : Arguments}
  {settings : Settings}

/-- A command line that does not read, or asks for the help or the version, changes nothing. -/
theorem execute_keeps_of_stop {stop : Stop} (stopped : readArgs features args = .error stop)
    : ((execute features args : StateM Workspace _).run w).2 = w := by
  unfold execute
  rw [stopped]
  cases stop <;> rfl

/-- A command line whose settings do not resolve fails and changes nothing. -/
theorem execute_run_of_unresolved {f : Failure} (parsed : readArgs features args = .ok a)
    (unresolved : ((a.settings features : StateM Workspace _).run w).1 = .error f)
    : (execute features args : StateM Workspace _).run w = (failed f, w) := by
  unfold execute
  rw [parsed]
  dsimp only
  rw [stateM_run_bind, (keeps_settings features a).run_eq w, unresolved]
  rfl

/-- Once the settings resolve, `--batch` strips the directory. -/
theorem execute_run_of_batch {dir : String} (parsed : readArgs features args = .ok a)
    (resolved : ((a.settings features : StateM Workspace _).run w).1 = .ok settings)
    (batch : a.batch = some dir)
    : (execute features args : StateM Workspace _).run w =
      (stripDirectory settings a.json dir : StateM Workspace _).run w := by
  unfold execute
  rw [parsed]
  dsimp only
  rw [stateM_run_bind, (keeps_settings features a).run_eq w, resolved]
  dsimp only
  rw [batch]

/-- Once the settings resolve, `--stdout` prints the stripped input. -/
theorem execute_run_of_stdout (parsed : readArgs features args = .ok a)
    (resolved : ((a.settings features : StateM Workspace _).run w).1 = .ok settings)
    (printing : a.stdout = true)
    : (execute features args : StateM Workspace _).run w =
      (printStripped settings : StateM Workspace _).run w := by
  unfold execute
  rw [parsed]
  dsimp only
  rw [stateM_run_bind, (keeps_settings features a).run_eq w, resolved]
  dsimp only
  rw [batch_eq_none_of_stdout parsed printing]
  dsimp only
  rw [if_pos printing]

/-- Once the settings resolve, a run with neither `--batch` nor `--stdout` strips the input into
the output, and exits with 0 when that works. -/
theorem execute_run_of_write (parsed : readArgs features args = .ok a)
    (resolved : ((a.settings features : StateM Workspace _).run w).1 = .ok settings)
    (noBatch : a.batch = none) (notPrinting : a.stdout = false)
    : (execute features args : StateM Workspace _).run w =
      (match ((run settings : StateM Workspace _).run w).1 with
        | .error f => failed f
        | .ok r => { exitCode := 0, stdout := reportText a.json r ++ "\n" },
        ((run settings : StateM Workspace _).run w).2) := by
  unfold execute
  rw [parsed]
  dsimp only
  rw [stateM_run_bind, (keeps_settings features a).run_eq w, resolved]
  dsimp only
  rw [noBatch]
  dsimp only
  rw [if_neg (by simp [notPrinting]), stateM_run_bind]
  cases ((run settings : StateM Workspace _).run w).1 <;> rfl

/-- A run that exits with an error without `--batch` changes nothing: the command line, the
settings or printing stopped it before any write, or the single write was the step that failed. -/
theorem execute_keeps_of_failure
    (failedExit : ((execute features args : StateM Workspace _).run w).1.exitCode ≠ 0)
    (noBatch : ∀ a, readArgs features args = .ok a → a.batch = none)
    : ((execute features args : StateM Workspace _).run w).2 = w := by
  cases parsing : readArgs features args with
  | error stop => exact execute_keeps_of_stop parsing
  | ok a =>
      cases resolving : ((a.settings features : StateM Workspace _).run w).1 with
      | error f => rw [execute_run_of_unresolved parsing resolving]
      | ok settings =>
          cases printing : a.stdout with
          | true => rw [execute_run_of_stdout parsing resolving printing, printStripped_run]
          | false =>
              rw [execute_run_of_write parsing resolving (noBatch a parsing) printing]
                at failedExit ⊢
              cases ran : ((run settings : StateM Workspace _).run w).1 with
              | error f => exact run_keeps_of_error ran
              | ok r =>
                  rw [ran] at failedExit
                  exact absurd rfl failedExit

/-- A run with `--stdout` changes nothing. -/
theorem execute_keeps_of_stdout (parsed : readArgs features args = .ok a)
    (printing : a.stdout = true) : ((execute features args : StateM Workspace _).run w).2 = w := by
  cases resolving : ((a.settings features : StateM Workspace _).run w).1 with
  | error f => rw [execute_run_of_unresolved parsed resolving]
  | ok settings => rw [execute_run_of_stdout parsed resolving printing, printStripped_run]

/-- A run that writes and exits with 0 has resolved the settings it asks for, read their input,
and written the stripped text, encoded, into the file their output names, and nothing else. -/
theorem execute_run_of_written (parsed : readArgs features args = .ok a)
    (notPrinting : a.stdout = false) (noBatch : a.batch = none)
    (succeeded : ((execute features args : StateM Workspace _).run w).1.exitCode = 0)
    : ∃ settings source key, Resolves features a w settings ∧
      ((readText settings.input : StateM Workspace _).run w).1 = .ok source ∧
      w.fileKey settings.output = .ok key ∧
      ((execute features args : StateM Workspace _).run w).2 =
        w.set key (.file (encodeUtf8 (strip settings.keepPragmaOnly source).text)) ∧
      ((execute features args : StateM Workspace _).run w).2.read settings.output =
        .ok (encodeUtf8 (strip settings.keepPragmaOnly source).text) := by
  cases resolving : ((a.settings features : StateM Workspace _).run w).1 with
  | error f =>
      rw [execute_run_of_unresolved parsed resolving] at succeeded
      simp [failed] at succeeded
  | ok settings =>
      rw [execute_run_of_write parsed resolving noBatch notPrinting] at succeeded ⊢
      cases ran : ((run settings : StateM Workspace _).run w).1 with
      | error f =>
          rw [ran] at succeeded
          simp [failed] at succeeded
      | ok r =>
          obtain ⟨source, key, read, chosen, written⟩ := run_eq_of_ok ran
          refine ⟨settings, source, key, resolves_of_settings resolving, read, chosen, written,
            ?_⟩
          rw [written]
          exact read_set_of_fileKey chosen _

/-- A run with `--stdout` that exits with 0 has resolved the settings it asks for, read their
input, and printed the stripped text and nothing else. -/
theorem execute_run_of_printed (parsed : readArgs features args = .ok a)
    (printing : a.stdout = true)
    (succeeded : ((execute features args : StateM Workspace _).run w).1.exitCode = 0)
    : ∃ settings source, Resolves features a w settings ∧
      ((readText settings.input : StateM Workspace _).run w).1 = .ok source ∧
      (execute features args : StateM Workspace _).run w =
        ({ exitCode := 0, stdout := (strip settings.keepPragmaOnly source).text }, w) := by
  cases resolving : ((a.settings features : StateM Workspace _).run w).1 with
  | error f =>
      rw [execute_run_of_unresolved parsed resolving] at succeeded
      simp [failed] at succeeded
  | ok settings =>
      rw [execute_run_of_stdout parsed resolving printing, printStripped_run] at succeeded ⊢
      cases read : ((readText settings.input : StateM Workspace _).run w).1 with
      | error e =>
          rw [read] at succeeded
          simp [failed] at succeeded
      | ok source => exact ⟨settings, source, resolves_of_settings resolving, read, rfl⟩

/-- A run with `--batch` changes only files that the outputs of the directory's jobs name. -/
theorem execute_changes_only_batch_outputs {dir : String} (parsed : readArgs features args = .ok a)
    (batch : a.batch = some dir) (key : List String)
    (changed : ((execute features args : StateM Workspace _).run w).2.node? key ≠ w.node? key)
    : ∃ todo, ((Batch.jobs dir : StateM Workspace _).run w).1 = .ok todo ∧
      ∃ job ∈ todo, w.fileKey job.output = .ok key := by
  cases resolving : ((a.settings features : StateM Workspace _).run w).1 with
  | error f =>
      rw [execute_run_of_unresolved parsed resolving] at changed
      exact absurd rfl changed
  | ok settings =>
      rw [execute_run_of_batch parsed resolving batch] at changed
      exact stripDirectory_changes_only_outputs settings a.json dir w key changed

/-- A run of the program writes only its output, and nothing when it fails. Without `--batch`, a
run that exits with an error changes nothing, and so does one whose command line does not read,
which is how `--help` and `--version` end; a run with `--stdout` changes nothing. A run with
neither option that exits with 0 leaves the workspace as it was but for the file that the
resolved output names, which then holds the stripped input; with `--stdout` and exit 0 the run
prints the stripped input and nothing else. A run with `--batch` changes only files that the
outputs of the directory's jobs name.
-/
theorem execute_writes_only_output (features : Features) (args : List String) (w : Workspace)
    : ((((execute features args : StateM Workspace _).run w).1.exitCode ≠ 0 ∧
          ∀ a, readArgs features args = .ok a → a.batch = none) →
        ((execute features args : StateM Workspace _).run w).2 = w) ∧
      (∀ stop, readArgs features args = .error stop →
        ((execute features args : StateM Workspace _).run w).2 = w) ∧
      (∀ a, readArgs features args = .ok a → a.stdout = true →
        ((execute features args : StateM Workspace _).run w).2 = w) ∧
      (∀ a, readArgs features args = .ok a → a.stdout = false → a.batch = none →
        ((execute features args : StateM Workspace _).run w).1.exitCode = 0 →
        ∃ settings source key, Resolves features a w settings ∧
          ((readText settings.input : StateM Workspace _).run w).1 = .ok source ∧
          w.fileKey settings.output = .ok key ∧
          ((execute features args : StateM Workspace _).run w).2 =
            w.set key (.file (encodeUtf8 (strip settings.keepPragmaOnly source).text)) ∧
          ((execute features args : StateM Workspace _).run w).2.read settings.output =
            .ok (encodeUtf8 (strip settings.keepPragmaOnly source).text)) ∧
      (∀ a, readArgs features args = .ok a → a.stdout = true →
        ((execute features args : StateM Workspace _).run w).1.exitCode = 0 →
        ∃ settings source, Resolves features a w settings ∧
          ((readText settings.input : StateM Workspace _).run w).1 = .ok source ∧
          (execute features args : StateM Workspace _).run w =
            ({ exitCode := 0, stdout := (strip settings.keepPragmaOnly source).text }, w)) ∧
      (∀ a dir, readArgs features args = .ok a → a.batch = some dir → ∀ key,
        ((execute features args : StateM Workspace _).run w).2.node? key ≠ w.node? key →
        ∃ todo, ((Batch.jobs dir : StateM Workspace _).run w).1 = .ok todo ∧
          ∃ job ∈ todo, w.fileKey job.output = .ok key) :=
  ⟨fun ⟨failedExit, noBatch⟩ => execute_keeps_of_failure failedExit noBatch,
    fun _ stopped => execute_keeps_of_stop stopped, fun _ => execute_keeps_of_stdout,
    fun _ => execute_run_of_written, fun _ => execute_run_of_printed,
    fun _ _ => execute_changes_only_batch_outputs⟩

/-- A workspace holding one source. -/
def oneSource : Workspace :=
  { nodes := [(["in.sol"], .file (encodeUtf8 "uint a; // x\n"))] }

theorem execute_writes_only_output_of_one_source :
    readArgs ⟨false, false⟩ ["-i", "in.sol", "-o", "out.sol"] =
        .ok { input := some "in.sol", output := some "out.sol" } ∧
      ((execute ⟨false, false⟩ ["-i", "in.sol", "-o", "out.sol"] : StateM Workspace _).run
        oneSource).1.exitCode = 0 ∧
      ∃ settings source key,
        Resolves ⟨false, false⟩ { input := some "in.sol", output := some "out.sol" } oneSource
          settings ∧
        ((readText settings.input : StateM Workspace _).run oneSource).1 = .ok source ∧
        oneSource.fileKey settings.output = .ok key ∧
        ((execute ⟨false, false⟩ ["-i", "in.sol", "-o", "out.sol"] : StateM Workspace _).run
          oneSource).2 =
          oneSource.set key (.file (encodeUtf8 (strip settings.keepPragmaOnly source).text)) ∧
        ((execute ⟨false, false⟩ ["-i", "in.sol", "-o", "out.sol"] : StateM Workspace _).run
          oneSource).2.read settings.output =
          .ok (encodeUtf8 (strip settings.keepPragmaOnly source).text) := by
  have parsed : readArgs ⟨false, false⟩ ["-i", "in.sol", "-o", "out.sol"] =
      .ok { input := some "in.sol", output := some "out.sol" } := by
    rfl
  have succeeded : ((execute ⟨false, false⟩ ["-i", "in.sol", "-o", "out.sol"] :
      StateM Workspace _).run oneSource).1.exitCode = 0 := by
    decide +kernel
  exact ⟨parsed, succeeded,
    (execute_writes_only_output ⟨false, false⟩ _ oneSource).2.2.2.1 _ parsed rfl rfl
      succeeded⟩

end Cli

end Decomment
