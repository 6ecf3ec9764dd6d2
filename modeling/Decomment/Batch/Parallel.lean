import Decomment.Batch

/-!
Stripping the jobs of a directory in parallel.

Every job runs on its own: it reads its source, then writes its output, then puts its outcome
into a map that all jobs share, keyed by the job's source path; putting an outcome under a path
replaces the one there. A scheduler interleaves the steps of the jobs in any order. When all jobs
are done, the caller walks the jobs in order and takes each one's outcome out of the map: a
report is printed, a failure counted, and a job whose outcome is missing is passed over.
-/

namespace Decomment.Batch

open Decomment.Files

/-- The outcomes of a parallel run, by source path. -/
structure Outcomes where
  entries : List (String × Except Failure Report) := []
deriving Repr

namespace Outcomes

/-- The outcome stored under a source path. -/
def find? (o : Outcomes) (path : String) : Option (Except Failure Report) :=
  findEntry? o.entries path

/-- Stores an outcome under a source path, replacing the one there. -/
def insert (o : Outcomes) (path : String) (outcome : Except Failure Report) : Outcomes :=
  { entries := putEntry o.entries path outcome }

/-- Takes the outcome under a source path out of the map. -/
def remove (o : Outcomes) (path : String) : Outcomes :=
  { entries := o.entries.filter fun entry => entry.1 != path }

end Outcomes

/-- How far a job of a parallel run has got. -/
inductive Stage where
  /-- Not started. -/
  | waiting
  /-- Its source is read; its output is not written yet. -/
  | read (source : String)
  /-- Its outcome is known but not yet in the map. -/
  | finished (outcome : Except Failure Report)
  /-- Its outcome is in the map. -/
  | done
deriving Repr

/-- Whether a job is done. -/
def Stage.isDone : Stage → Bool
  | .done => true
  | _ => false

/-- A parallel run: the shared workspace, the stage of each job by position, and the map. -/
structure Pool where
  workspace : Workspace
  stages : List Stage
  outcomes : Outcomes

/-- The pool before any job has taken a step. -/
def Pool.start (w : Workspace) (count : Nat) : Pool :=
  { workspace := w, stages := List.replicate count .waiting, outcomes := {} }

/-- The job at position `k` takes its next step. A job that is done, or a position with no job,
leaves the pool as it is. -/
def Pool.advance (keep : Bool) (todo : List Job) (pool : Pool) (k : Nat) : Pool :=
  match todo[k]?, pool.stages[k]? with
  | some job, some .waiting =>
    match ((readText job.input : StateM Workspace _).run pool.workspace).1 with
    | .error e => { pool with stages := pool.stages.set k (.finished (.error (.read job.input e))) }
    | .ok source => { pool with stages := pool.stages.set k (.read source) }
  | some job, some (.read source) =>
    let (outcome, w) :=
      (writeStripped keep job.output source : StateM Workspace _).run pool.workspace
    { pool with workspace := w, stages := pool.stages.set k (.finished outcome) }
  | some job, some (.finished outcome) =>
    { pool with
      stages := pool.stages.set k .done
      outcomes := pool.outcomes.insert job.input outcome }
  | _, _ => pool

/-- Runs the steps a schedule names, in order: each entry is the position of the job that
moves. -/
def Pool.run (keep : Bool) (todo : List Job) (pool : Pool) (schedule : List Nat) : Pool :=
  schedule.foldl (Pool.advance keep todo) pool

/-- Every job is done. -/
def Pool.Finished (pool : Pool) : Prop :=
  ∀ stage ∈ pool.stages, stage.isDone

instance (pool : Pool) : Decidable pool.Finished :=
  inferInstanceAs (Decidable (∀ stage ∈ pool.stages, stage.isDone))

/-- Walks the jobs in order and takes each one's outcome out of the map: the reports of those
that succeeded, and how many failed. A job with no outcome in the map is passed over. -/
def drain (outcomes : Outcomes) : List Job → List Report × Nat
  | [] => ([], 0)
  | job :: rest =>
    match outcomes.find? job.input with
    | some (.ok report) =>
      let after := drain (outcomes.remove job.input) rest
      (report :: after.1, after.2)
    | some (.error _) =>
      let after := drain (outcomes.remove job.input) rest
      (after.1, after.2 + 1)
    | none => drain outcomes rest

end Decomment.Batch
