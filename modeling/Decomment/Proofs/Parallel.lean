import Decomment.Batch.Parallel
import Decomment.Proofs.Jobs

/-! Running independent jobs in parallel gives what running each alone gives. Whatever order a
scheduler moves the jobs in, every outcome in the shared map is the one the job has run alone
against the first workspace, the map holds one outcome per job, and the workspace ends as running
the jobs one after another leaves it. Both runs keep one frame invariant (`Framed`): the
workspace is the first one, with the files of the jobs that have written replaced by what each of
them writes alone. A run finishes once every job has had three steps, in whatever interleaving.
-/

namespace Decomment.Batch

open Decomment.Files Decomment.Files.Workspace

/-- A job run alone against a workspace: its outcome and the workspace it leaves. -/
def runAlone (keep : Bool) (w : Workspace) (job : Job) : Except Failure Report × Workspace :=
  (runPaths keep job.input job.output : StateM Workspace _).run w

section Framed

variable {keep : Bool} {w : Workspace} {todo : List Job}

theorem runAlone_of_read_error (keep : Bool) {job : Job} {e : IoError}
    (failed : ((readText job.input : StateM Workspace _).run w).1 = .error e)
    : runAlone keep w job = (.error (.read job.input e), w) := by
  rw [runAlone, runPaths_run, failed]

theorem runAlone_of_read_ok (keep : Bool) {job : Job} {source : String}
    (read : ((readText job.input : StateM Workspace _).run w).1 = .ok source)
    : runAlone keep w job = (writeStripped keep job.output source : StateM Workspace _).run w := by
  rw [runAlone, runPaths_run, read]

/-- A workspace written by the jobs `done` from `w`: it holds each path once and has the
directories of `w`; at the file each of those jobs writes it holds what the job run alone leaves
there; everywhere else it holds what `w` holds. -/
structure Framed (keep : Bool) (w : Workspace) (todo : List Job) (done : Job → Prop)
    (v : Workspace) : Prop where
  keys : (v.nodes.map Prod.fst).Nodup
  dirs : SameDirs v w
  written : ∀ job ∈ todo, done job → ∀ key, w.fileKey job.output = .ok key →
    v.node? key = (runAlone keep w job).2.node? key
  untouched : ∀ key, (∀ job ∈ todo, done job → w.fileKey job.output ≠ .ok key) →
    v.node? key = w.node? key

variable {done : Job → Prop} {v : Workspace} {job : Job}

theorem Framed.start (keys : (w.nodes.map Prod.fst).Nodup)
    : Framed keep w todo (fun _ => False) w :=
  ⟨keys, fun _ => Iff.rfl, fun _ _ never => never.elim, fun _ _ => rfl⟩

theorem Framed.congr {done' : Job → Prop} (framed : Framed keep w todo done v)
    (same : ∀ job ∈ todo, done' job ↔ done job) : Framed keep w todo done' v := by
  refine ⟨framed.keys, framed.dirs, ?_, ?_⟩
  · intro job member isDone
    exact framed.written job member ((same job member).mp isDone)
  · intro key apart
    exact framed.untouched key fun job member isDone =>
      apart job member ((same job member).mpr isDone)

/-- Two workspaces written by the same jobs hold the same nodes. -/
theorem Framed.node?_eq {v' : Workspace} (framed : Framed keep w todo done v)
    (framed' : Framed keep w todo done v') (key : List String) : v.node? key = v'.node? key := by
  by_cases hit : ∃ job ∈ todo, done job ∧ w.fileKey job.output = .ok key
  · obtain ⟨job, member, isDone, chosen⟩ := hit
    rw [framed.written job member isDone key chosen, framed'.written job member isDone key chosen]
  · simp only [not_exists, not_and] at hit
    rw [framed.untouched key hit, framed'.untouched key hit]

/-- Two workspaces written by the same jobs hold the same entries. -/
theorem Framed.perm {v' : Workspace} (framed : Framed keep w todo done v)
    (framed' : Framed keep w todo done v') : v.nodes.Perm v'.nodes :=
  perm_of_findEntry? framed.keys framed'.keys (framed.node?_eq framed')

/-- A job reads in a written workspace what it reads in the first one. -/
theorem Framed.readText_eq (ind : Independent w todo) (framed : Framed keep w todo done v)
    (member : job ∈ todo)
    : ((readText job.input : StateM Workspace _).run v).1 =
      ((readText job.input : StateM Workspace _).run w).1 := by
  have same : v.read job.input = w.read job.input :=
    ind.read job member v framed.dirs fun key apart =>
      framed.untouched key fun other member' _ => apart other member'
  simp only [readText_run, same]

/-- A job whose read failed has written nothing, so a workspace written by `done` is written by
`done` and the job too. -/
theorem Framed.unwritten (ind : Independent w todo) (framed : Framed keep w todo done v)
    (member : job ∈ todo) (unchanged : (runAlone keep w job).2 = w)
    : Framed keep w todo (fun other => done other ∨ other = job) v := by
  refine ⟨framed.keys, framed.dirs, ?_, ?_⟩
  · rintro other member' (isDone | rfl) key chosen
    · exact framed.written other member' isDone key chosen
    · by_cases already : done other
      · exact framed.written other member' already key chosen
      -- no job of `done` writes the file, since only `other` does
      rw [unchanged]
      apply framed.untouched key
      intro third member'' isDone chosen'
      exact already (ind.apart third member'' other member' key chosen' chosen ▸ isDone)
  · intro key apart
    exact framed.untouched key fun other member' isDone =>
      apart other member' (Or.inl isDone)

/-- A job's write from a written workspace has the outcome the job has alone, and the workspace
it leaves is written by the job too. -/
theorem Framed.write_alone (ind : Independent w todo) (framed : Framed keep w todo done v)
    (member : job ∈ todo) {source : String}
    (read : ((readText job.input : StateM Workspace _).run w).1 = .ok source)
    : ((writeStripped keep job.output source : StateM Workspace _).run v).1 =
        (runAlone keep w job).1 ∧
      Framed keep w todo (fun other => done other ∨ other = job)
        ((writeStripped keep job.output source : StateM Workspace _).run v).2 := by
  have alone := runAlone_of_read_ok keep read
  rw [writeStripped_run] at alone
  rw [writeStripped_run, ind.fileKey job member v framed.dirs]
  cases chosen : w.fileKey job.output with
  | error e =>
      simp only [chosen] at alone ⊢
      refine ⟨by rw [alone], framed.keys, framed.dirs, ?_, ?_⟩
      · rintro other member' (isDone | rfl) key chosen'
        · exact framed.written other member' isDone key chosen'
        · rw [chosen] at chosen'
          cases chosen'
      · intro key apart
        exact framed.untouched key fun other member' isDone =>
          apart other member' (Or.inl isDone)
  | ok key =>
      simp only [chosen] at alone ⊢
      obtain ⟨-, -, -, -, -, notDir⟩ := fileKey_eq_ok chosen
      refine ⟨by rw [alone], nodup_putEntry framed.keys key _, ?_, ?_, ?_⟩
      · -- the file written holds no directory, and held none before
        intro other
        rw [node?_set]
        split
        · rename_i atKey
          subst atKey
          simp [notDir]
        · exact framed.dirs other
      · rintro other member' (isDone | rfl) key' chosen'
        · by_cases atKey : key' = key
          · subst atKey
            obtain rfl := ind.apart other member' job member key' chosen' chosen
            simp [alone]
          · rw [node?_set, if_neg atKey]
            exact framed.written other member' isDone key' chosen'
        · rw [chosen] at chosen'
          cases chosen'
          simp [alone]
      · intro key' apart
        have notKey : key' ≠ key := fun atKey =>
          apart job member (Or.inr rfl) (atKey ▸ chosen)
        rw [node?_set, if_neg notKey]
        exact framed.untouched key' fun other member' isDone =>
          apart other member' (Or.inl isDone)

/-- A job run from a written workspace has the outcome it has alone, and leaves a workspace
written by the job too. -/
theorem Framed.runPaths_alone (ind : Independent w todo) (framed : Framed keep w todo done v)
    (member : job ∈ todo)
    : ((runPaths keep job.input job.output : StateM Workspace _).run v).1 =
        (runAlone keep w job).1 ∧
      Framed keep w todo (fun other => done other ∨ other = job)
        ((runPaths keep job.input job.output : StateM Workspace _).run v).2 := by
  rw [runPaths_run, framed.readText_eq ind member]
  cases read : ((readText job.input : StateM Workspace _).run w).1 with
  | error e =>
      have alone := runAlone_of_read_error keep read
      exact ⟨by rw [alone], framed.unwritten ind member (by rw [alone])⟩
  | ok source => exact framed.write_alone ind member read

/-- Running jobs one after another from a workspace written by `done`: each job has the outcome
it has alone, and the workspace is then written by `done` and the jobs run, by induction on the
jobs left. -/
theorem stripAll_run_framed (ind : Independent w todo)
    : ∀ (done rest : List Job) (v : Workspace), (∀ job ∈ rest, job ∈ todo) →
      Framed keep w todo (· ∈ done) v →
      ((stripAll keep rest : StateM Workspace _).run v).1 =
          rest.map (fun job => (job, (runAlone keep w job).1)) ∧
        Framed keep w todo (· ∈ done ++ rest)
          ((stripAll keep rest : StateM Workspace _).run v).2 := by
  intro done rest
  induction rest generalizing done with
  | nil =>
      intro v _ framed
      exact ⟨rfl, framed.congr fun _ _ => by simp⟩
  | cons job rest ih =>
      intro v inTodo framed
      have step := framed.runPaths_alone ind (inTodo job List.mem_cons_self)
      rw [stripAll_cons_run]
      generalize (runPaths keep job.input job.output : StateM Workspace _).run v = first at step ⊢
      have later := ih (done ++ [job]) first.2 (fun other member => inTodo other
        (List.mem_cons_of_mem job member)) (step.2.congr fun _ _ => by simp)
      rw [List.map_cons, step.1, later.1]
      exact ⟨rfl, later.2.congr fun _ _ => by simp⟩

end Framed

-----------------------------------------------------------------------------------------
-- Positions in the pool
-----------------------------------------------------------------------------------------

theorem getElem?_set_of_getElem? {α : Type} {xs : List α} {k : Nat} {old : α}
    (present : xs[k]? = some old) (new : α) (i : Nat)
    : (xs.set k new)[i]? = if i = k then some new else xs[i]? := by
  have bound : k < xs.length := (List.getElem?_eq_some_iff.mp present).1
  by_cases here : i = k
  · subst here
    simp [bound]
  · simp [here, List.getElem?_set_ne (Ne.symm here)]

/-- Jobs with the same source path stand at the same position. -/
theorem index_eq_of_input {todo : List Job} (nodup : (todo.map Job.input).Nodup) {i j : Nat}
    {job other : Job} (at_i : todo[i]? = some job) (at_j : todo[j]? = some other)
    (same : job.input = other.input) : i = j := by
  have left : (todo.map Job.input)[i]? = some job.input := by simp [at_i]
  have right : (todo.map Job.input)[j]? = some job.input := by simp [at_j, same]
  have bound : i < (todo.map Job.input).length := (List.getElem?_eq_some_iff.mp left).1
  exact (List.getElem?_inj bound nodup).mp (left.trans right.symm)

/-- Whether a job's outcome is known: its write has run, or its read has failed. -/
def Stage.settled : Stage → Bool
  | .finished _ => true
  | .done => true
  | _ => false

/-- The jobs whose stage, at their position, has settled. -/
def Settled (todo : List Job) (stages : List Stage) (job : Job) : Prop :=
  ∃ (i : Nat) (stage : Stage), todo[i]? = some job ∧ stages[i]? = some stage ∧ stage.settled = true

section Positions

variable {todo : List Job} {stages : List Stage} {k : Nat} {job : Job} {old : Stage}

/-- After the job at `k` moves, position `k` holds that job's new stage, and every other
position its old one. -/
theorem stage_after_set {i : Nat} {other : Job} {new stage : Stage}
    (at_k : todo[k]? = some job) (present : stages[k]? = some old) (at_i : todo[i]? = some other)
    (stage_i : (stages.set k new)[i]? = some stage)
    : (i = k ∧ other = job ∧ stage = new) ∨ (i ≠ k ∧ stages[i]? = some stage) := by
  rw [getElem?_set_of_getElem? present] at stage_i
  by_cases here : i = k
  · subst here
    rw [if_pos rfl, Option.some.injEq] at stage_i
    rw [at_k, Option.some.injEq] at at_i
    exact Or.inl ⟨rfl, at_i.symm, stage_i.symm⟩
  · rw [if_neg here] at stage_i
    exact Or.inr ⟨here, stage_i⟩

theorem settled_self (nodup : (todo.map Job.input).Nodup) (at_k : todo[k]? = some job)
    (present : stages[k]? = some old) : Settled todo stages job ↔ old.settled = true := by
  constructor
  · rintro ⟨i, stage, at_i, stage_i, settled⟩
    obtain rfl := index_eq_of_input nodup at_i at_k rfl
    rw [present, Option.some.injEq] at stage_i
    rwa [stage_i]
  · intro settled
    exact ⟨k, old, at_k, present, settled⟩

/-- Moving the job at position `k` to a new stage settles that job or not, and no other. -/
theorem settled_set (nodup : (todo.map Job.input).Nodup) (at_k : todo[k]? = some job)
    (present : stages[k]? = some old) (new : Stage) (other : Job)
    : Settled todo (stages.set k new) other ↔
      (other = job ∧ new.settled = true) ∨ (other ≠ job ∧ Settled todo stages other) := by
  constructor
  · rintro ⟨i, stage, at_i, stage_i, settled⟩
    rcases stage_after_set at_k present at_i stage_i with ⟨-, rfl, rfl⟩ | ⟨here, stage_i⟩
    · exact Or.inl ⟨rfl, settled⟩
    · refine Or.inr ⟨?_, i, stage, at_i, stage_i, settled⟩
      rintro rfl
      exact here (index_eq_of_input nodup at_i at_k rfl)
  · rintro (⟨rfl, settled⟩ | ⟨differ, i, stage, at_i, stage_i, settled⟩)
    · exact ⟨k, new, at_k, by rw [getElem?_set_of_getElem? present, if_pos rfl], settled⟩
    · have here : i ≠ k := by
        rintro rfl
        rw [at_k, Option.some.injEq] at at_i
        exact differ at_i.symm
      exact ⟨i, stage, at_i, by rw [getElem?_set_of_getElem? present, if_neg here, stage_i],
        settled⟩

theorem settled_set_of_same (nodup : (todo.map Job.input).Nodup) (at_k : todo[k]? = some job)
    (present : stages[k]? = some old) (new : Stage) (same : new.settled = old.settled)
    (other : Job) : Settled todo (stages.set k new) other ↔ Settled todo stages other := by
  rw [settled_set nodup at_k present]
  by_cases here : other = job
  · subst here
    simp [settled_self nodup at_k present, same]
  · simp [here]

theorem settled_set_of_settles (nodup : (todo.map Job.input).Nodup) (at_k : todo[k]? = some job)
    (present : stages[k]? = some old) (new : Stage) (settles : new.settled = true) (other : Job)
    : Settled todo (stages.set k new) other ↔ Settled todo stages other ∨ other = job := by
  rw [settled_set nodup at_k present]
  by_cases here : other = job
  · subst here
    simp [settles]
  · simp [here]

end Positions

-----------------------------------------------------------------------------------------
-- The pool invariant
-----------------------------------------------------------------------------------------

/-- What the stage of a job records, against the job run alone from `w`: the source it read, the
outcome it has, or that the map holds that outcome under its source path. -/
def StageFact (keep : Bool) (w : Workspace) (outcomes : Outcomes) (job : Job) : Stage → Prop
  | .waiting => True
  | .read source => ((readText job.input : StateM Workspace _).run w).1 = .ok source
  | .finished outcome => outcome = (runAlone keep w job).1
  | .done => outcomes.find? job.input = some (runAlone keep w job).1

/-- What holds of the pool at every step of a parallel run of `todo` from `w`. -/
structure PoolInv (keep : Bool) (w : Workspace) (todo : List Job) (pool : Pool) : Prop where
  length : pool.stages.length = todo.length
  framed : Framed keep w todo (Settled todo pool.stages) pool.workspace
  facts : ∀ (i : Nat) (job : Job) (stage : Stage), todo[i]? = some job →
    pool.stages[i]? = some stage → StageFact keep w pool.outcomes job stage
  stored : ∀ (path : String) (outcome : Except Failure Report),
    pool.outcomes.find? path = some outcome →
    ∃ (i : Nat) (job : Job), todo[i]? = some job ∧ pool.stages[i]? = some .done ∧
      job.input = path
  distinct : (pool.outcomes.entries.map Prod.fst).Nodup

section Invariant

variable {keep : Bool} {w : Workspace} {todo : List Job} {pool : Pool} {k : Nat} {job : Job}
  {old : Stage}

theorem facts_set {outcomes : Outcomes} {stages : List Stage}
    (facts : ∀ (i : Nat) (job : Job) (stage : Stage), todo[i]? = some job →
      stages[i]? = some stage → StageFact keep w outcomes job stage)
    (at_k : todo[k]? = some job) (present : stages[k]? = some old) {new : Stage}
    (fact : StageFact keep w outcomes job new)
    : ∀ (i : Nat) (other : Job) (stage : Stage), todo[i]? = some other →
      (stages.set k new)[i]? = some stage → StageFact keep w outcomes other stage := by
  intro i other stage at_i stage_i
  rcases stage_after_set at_k present at_i stage_i with ⟨-, rfl, rfl⟩ | ⟨-, stage_i⟩
  · exact fact
  · exact facts i other stage at_i stage_i

/-- Moving a job that is not done keeps every stored outcome's job done. -/
theorem stored_set {outcomes : Outcomes} {stages : List Stage}
    (stored : ∀ (path : String) (outcome : Except Failure Report),
      outcomes.find? path = some outcome →
      ∃ (i : Nat) (job : Job), todo[i]? = some job ∧ stages[i]? = some .done ∧ job.input = path)
    (present : stages[k]? = some old) (notDone : old.isDone = false) (new : Stage)
    : ∀ (path : String) (outcome : Except Failure Report), outcomes.find? path = some outcome →
      ∃ (i : Nat) (job : Job), todo[i]? = some job ∧ (stages.set k new)[i]? = some .done ∧
        job.input = path := by
  intro path outcome found
  obtain ⟨i, other, at_i, stage_i, input⟩ := stored path outcome found
  have here : i ≠ k := by
    rintro rfl
    rw [present, Option.some.injEq] at stage_i
    rw [stage_i] at notDone
    cases notDone
  exact ⟨i, other, at_i, by rw [getElem?_set_of_getElem? present, if_neg here, stage_i], input⟩

/-- A waiting job reads its source: what it reads is what it reads alone, and a failed read
settles it with the outcome it has alone. -/
theorem PoolInv.begin (ind : Independent w todo) (nodup : (todo.map Job.input).Nodup)
    (inv : PoolInv keep w todo pool) (at_k : todo[k]? = some job)
    (waiting : pool.stages[k]? = some .waiting)
    : PoolInv keep w todo (pool.advance keep todo k) := by
  have member : job ∈ todo := List.mem_of_getElem? at_k
  simp only [Pool.advance, at_k, waiting, inv.framed.readText_eq ind member]
  cases read : ((readText job.input : StateM Workspace _).run w).1 with
  | error e =>
      dsimp only
      have alone := runAlone_of_read_error keep read
      refine ⟨by simp [inv.length], ?_, facts_set inv.facts at_k waiting ?_,
        stored_set inv.stored waiting rfl _, inv.distinct⟩
      · exact (inv.framed.unwritten ind member (by rw [alone])).congr fun other _ =>
          settled_set_of_settles nodup at_k waiting _ rfl other
      · simp [StageFact, alone]
  | ok source =>
      dsimp only
      refine ⟨by simp [inv.length], ?_, facts_set inv.facts at_k waiting read,
        stored_set inv.stored waiting rfl _, inv.distinct⟩
      exact inv.framed.congr fun other _ =>
        settled_set_of_same nodup at_k waiting (.read source) rfl other

/-- A job that has read its source writes its output, with the outcome it has alone. -/
theorem PoolInv.write (ind : Independent w todo) (nodup : (todo.map Job.input).Nodup)
    (inv : PoolInv keep w todo pool) (at_k : todo[k]? = some job) {source : String}
    (reading : pool.stages[k]? = some (.read source))
    : PoolInv keep w todo (pool.advance keep todo k) := by
  have member : job ∈ todo := List.mem_of_getElem? at_k
  have read : ((readText job.input : StateM Workspace _).run w).1 = .ok source :=
    inv.facts k job _ at_k reading
  have step := inv.framed.write_alone ind member read
  simp only [Pool.advance, at_k, reading]
  generalize (writeStripped keep job.output source : StateM Workspace _).run pool.workspace =
    result at step ⊢
  obtain ⟨outcome, written⟩ := result
  dsimp only at step ⊢
  refine ⟨by simp [inv.length], ?_, facts_set inv.facts at_k reading step.1,
    stored_set inv.stored reading rfl _, inv.distinct⟩
  exact step.2.congr fun other _ => settled_set_of_settles nodup at_k reading _ rfl other

/-- A job with a known outcome stores it in the map under its source path. -/
theorem PoolInv.store (nodup : (todo.map Job.input).Nodup) (inv : PoolInv keep w todo pool)
    (at_k : todo[k]? = some job) {outcome : Except Failure Report}
    (finished : pool.stages[k]? = some (.finished outcome))
    : PoolInv keep w todo (pool.advance keep todo k) := by
  have alone : outcome = (runAlone keep w job).1 := inv.facts k job _ at_k finished
  -- the map changes only under this job's path, which no other job has
  have elsewhere : ∀ i other, todo[i]? = some other → i ≠ k →
      (pool.outcomes.insert job.input outcome).find? other.input =
        pool.outcomes.find? other.input := by
    intro i other at_i here
    have differ : other.input ≠ job.input := fun same =>
      here (index_eq_of_input nodup at_i at_k same)
    simp [Outcomes.find?, Outcomes.insert, differ]
  simp only [Pool.advance, at_k, finished]
  refine ⟨by simp [inv.length], ?_, ?_, ?_, nodup_putEntry inv.distinct _ _⟩
  · exact inv.framed.congr fun other _ => settled_set_of_same nodup at_k finished .done rfl other
  · intro i other stage at_i stage_i
    rcases stage_after_set at_k finished at_i stage_i with ⟨-, rfl, rfl⟩ | ⟨here, stage_i⟩
    · simp [StageFact, Outcomes.find?, Outcomes.insert, alone]
    · have fact := inv.facts i other stage at_i stage_i
      -- only a done job's fact reads the map
      cases stage with
      | done =>
          rw [StageFact, elsewhere i other at_i here]
          exact fact
      | _ => exact fact
  · intro path value found
    by_cases atJob : path = job.input
    · exact ⟨k, job, at_k, by rw [getElem?_set_of_getElem? finished, if_pos rfl], atJob.symm⟩
    · have kept : pool.outcomes.find? path = some value := by
        simpa [Outcomes.find?, Outcomes.insert, atJob] using found
      exact stored_set inv.stored finished rfl _ path value kept

/-- Every step of every job keeps the invariant. -/
theorem PoolInv.advance (ind : Independent w todo) (nodup : (todo.map Job.input).Nodup)
    (inv : PoolInv keep w todo pool) (k : Nat)
    : PoolInv keep w todo (pool.advance keep todo k) := by
  cases at_k : todo[k]? with
  | none =>
      simp only [Pool.advance, at_k]
      exact inv
  | some job =>
      cases present : pool.stages[k]? with
      | none =>
          simp only [Pool.advance, at_k, present]
          exact inv
      | some stage =>
          cases stage with
          | waiting => exact inv.begin ind nodup at_k present
          | read source => exact inv.write ind nodup at_k present
          | finished outcome => exact inv.store nodup at_k present
          | done =>
              simp only [Pool.advance, at_k, present]
              exact inv

/-- Every schedule keeps the invariant, by induction on the schedule. -/
theorem PoolInv.run (ind : Independent w todo) (nodup : (todo.map Job.input).Nodup)
    (inv : PoolInv keep w todo pool) (schedule : List Nat)
    : PoolInv keep w todo (pool.run keep todo schedule) := by
  induction schedule generalizing pool with
  | nil => exact inv
  | cons k rest ih => exact ih (inv.advance ind nodup k)

theorem PoolInv.start (keys : (w.nodes.map Prod.fst).Nodup)
    : PoolInv keep w todo (Pool.start w todo.length) := by
  refine ⟨by simp [Pool.start], (Framed.start keys).congr ?_, ?_, ?_, List.nodup_nil⟩
  · -- every job waits
    intro job _
    simp only [Settled, Pool.start, iff_false, not_exists, not_and]
    intro i stage _ stage_i
    rw [List.getElem?_replicate] at stage_i
    split at stage_i
    · cases stage_i
      decide
    · cases stage_i
  · intro i job stage _ stage_i
    simp only [Pool.start, List.getElem?_replicate] at stage_i
    split at stage_i
    · cases stage_i
      trivial
    · cases stage_i
  · intro path outcome found
    cases found

-----------------------------------------------------------------------------------------
-- A finished run
-----------------------------------------------------------------------------------------

theorem PoolInv.done_of_finished (inv : PoolInv keep w todo pool) (finished : pool.Finished)
    {i : Nat} (at_i : todo[i]? = some job) : pool.stages[i]? = some .done := by
  have bound : i < pool.stages.length := inv.length ▸ (List.getElem?_eq_some_iff.mp at_i).1
  have isDone := finished _ (List.getElem_mem bound)
  rw [List.getElem?_eq_getElem bound]
  revert isDone
  cases pool.stages[i] <;> simp [Stage.isDone]

/-- When every job is done, the map holds under each job's source path its outcome alone. -/
theorem PoolInv.find?_input (inv : PoolInv keep w todo pool) (finished : pool.Finished)
    (member : job ∈ todo) : pool.outcomes.find? job.input = some (runAlone keep w job).1 := by
  obtain ⟨i, at_i⟩ := List.mem_iff_getElem?.mp member
  exact inv.facts i job .done at_i (inv.done_of_finished finished at_i)

/-- When every job is done, the map reads as the list of the jobs' outcomes alone. -/
theorem PoolInv.find?_eq (nodup : (todo.map Job.input).Nodup) (inv : PoolInv keep w todo pool)
    (finished : pool.Finished) (path : String)
    : pool.outcomes.find? path =
      findEntry? (todo.map fun job => (job.input, (runAlone keep w job).1)) path := by
  have keys : ((todo.map fun job => (job.input, (runAlone keep w job).1)).map Prod.fst).Nodup := by
    simpa [Function.comp_def] using nodup
  apply Option.ext
  intro outcome
  rw [findEntry?_eq_some_iff keys]
  constructor
  · intro found
    obtain ⟨i, job, at_i, stage_i, rfl⟩ := inv.stored _ outcome found
    have fact : pool.outcomes.find? job.input = some (runAlone keep w job).1 :=
      inv.facts i job .done at_i stage_i
    rw [found, Option.some.injEq] at fact
    exact List.mem_map.mpr ⟨job, List.mem_of_getElem? at_i, by rw [fact]⟩
  · intro member
    obtain ⟨job, inTodo, same⟩ := List.mem_map.mp member
    obtain ⟨rfl, rfl⟩ := Prod.mk.inj same
    exact inv.find?_input finished inTodo

end Invariant

-----------------------------------------------------------------------------------------
-- Progress
-----------------------------------------------------------------------------------------

/-- How far a job has got: each step moves it on by one stage or more. -/
def Stage.rank : Stage → Nat
  | .waiting => 0
  | .read _ => 1
  | .finished _ => 2
  | .done => 3

/-- The rank of the job at a position. -/
def Pool.rankAt (pool : Pool) (i : Nat) : Nat :=
  (pool.stages[i]?.map Stage.rank).getD 0

section Progress

variable {keep : Bool} {todo : List Job}

/-- A step changes at most the stage at its own position. -/
theorem Pool.stages_advance (pool : Pool) (k : Nat)
    : (pool.advance keep todo k).stages = pool.stages ∨
      ∃ stage, (pool.advance keep todo k).stages = pool.stages.set k stage := by
  unfold Pool.advance
  split
  · split
    · exact Or.inr ⟨_, rfl⟩
    · exact Or.inr ⟨_, rfl⟩
  · exact Or.inr ⟨_, rfl⟩
  · exact Or.inr ⟨_, rfl⟩
  · exact Or.inl rfl

theorem Pool.stage_advance_ne (pool : Pool) {k i : Nat} (here : i ≠ k)
    : (pool.advance keep todo k).stages[i]? = pool.stages[i]? := by
  rcases pool.stages_advance k with same | ⟨stage, moved⟩
  · rw [same]
  · rw [moved, List.getElem?_set_ne (Ne.symm here)]

theorem Pool.length_advance (pool : Pool) (k : Nat)
    : (pool.advance keep todo k).stages.length = pool.stages.length := by
  rcases pool.stages_advance k with same | ⟨stage, moved⟩
  · rw [same]
  · rw [moved, List.length_set]

theorem Pool.length_run (pool : Pool) (schedule : List Nat)
    : (pool.run keep todo schedule).stages.length = pool.stages.length := by
  induction schedule generalizing pool with
  | nil => rfl
  | cons k rest ih => exact (ih (pool.advance keep todo k)).trans (pool.length_advance k)

/-- A step of a job that has one moves it on by a stage, up to done. -/
theorem Pool.rankAt_advance_self (pool : Pool) {k : Nat} {job : Job} {stage : Stage}
    (at_k : todo[k]? = some job) (present : pool.stages[k]? = some stage)
    : min 3 (stage.rank + 1) ≤ (pool.advance keep todo k).rankAt k := by
  have bound : k < pool.stages.length := (List.getElem?_eq_some_iff.mp present).1
  cases stage with
  | waiting =>
      simp only [Pool.advance, at_k, present]
      split <;> simp [Pool.rankAt, bound, Stage.rank]
  | read source =>
      simp only [Pool.advance, at_k, present]
      generalize (writeStripped keep job.output source : StateM Workspace _).run pool.workspace =
        result
      obtain ⟨outcome, written⟩ := result
      simp [Pool.rankAt, bound, Stage.rank]
  | finished outcome =>
      simp only [Pool.advance, at_k, present]
      simp [Pool.rankAt, bound, Stage.rank]
  | done =>
      simp only [Pool.advance, at_k, present]
      simp [Pool.rankAt, present, Stage.rank]

/-- Along a schedule, the job at a position moves on by a stage for each of its steps, up to
done, by induction on the schedule. -/
theorem Pool.rankAt_run {i : Nat} (bound : i < todo.length) (schedule : List Nat)
    : ∀ pool : Pool, pool.stages.length = todo.length →
      min 3 (pool.rankAt i + schedule.count i) ≤ (pool.run keep todo schedule).rankAt i := by
  induction schedule with
  | nil =>
      intro pool _
      exact Nat.min_le_right _ _
  | cons k rest ih =>
      intro pool length
      have kept : (pool.advance keep todo k).stages.length = todo.length :=
        (pool.length_advance k).trans length
      have later := ih (pool.advance keep todo k) kept
      -- one step at `k` moves the job at `i` on exactly when `k = i`
      have step : min 3 (pool.rankAt i + if k = i then 1 else 0) ≤
          (pool.advance keep todo k).rankAt i := by
        by_cases here : k = i
        · subst here
          have present : pool.stages[k]? = some pool.stages[k] :=
            List.getElem?_eq_getElem (length ▸ bound)
          have moved : min 3 (pool.stages[k].rank + 1) ≤ (pool.advance keep todo k).rankAt k :=
            pool.rankAt_advance_self (List.getElem?_eq_getElem bound) present
          simp only [Pool.rankAt, present, Option.map_some, Option.getD_some, if_true] at moved ⊢
          exact moved
        · rw [if_neg here, Nat.add_zero]
          simp only [Pool.rankAt, Pool.stage_advance_ne pool (Ne.symm here)]
          exact Nat.min_le_right _ _
      have counted : (k :: rest).count i = rest.count i + if k = i then 1 else 0 := by
        simp [List.count_cons]
      show min 3 (pool.rankAt i + (k :: rest).count i) ≤
        ((pool.advance keep todo k).run keep todo rest).rankAt i
      rw [counted]
      omega

/-- Every job finishes in three steps of its own: a schedule that moves every job at least three
times, interleaved in any way, finishes the run. -/
theorem Pool.run_finished (w : Workspace) (schedule : List Nat)
    (often : ∀ k < todo.length, 3 ≤ schedule.count k)
    : ((Pool.start w todo.length).run keep todo schedule).Finished := by
  intro stage member
  obtain ⟨i, stage_i⟩ := List.mem_iff_getElem?.mp member
  have kept : (Pool.start w todo.length).stages.length = todo.length := by simp [Pool.start]
  have bound : i < todo.length := by
    rw [← kept, ← Pool.length_run (Pool.start w todo.length) schedule]
    exact (List.getElem?_eq_some_iff.mp stage_i).1
  have ranked : min 3 ((Pool.start w todo.length).rankAt i + schedule.count i) ≤
      ((Pool.start w todo.length).run keep todo schedule).rankAt i :=
    Pool.rankAt_run bound schedule _ kept
  have waiting : (Pool.start w todo.length).rankAt i = 0 := by
    simp [Pool.rankAt, Pool.start, bound, Stage.rank]
  have counted := often i bound
  have full : 3 ≤ ((Pool.start w todo.length).run keep todo schedule).rankAt i := by omega
  simp only [Pool.rankAt, stage_i, Option.map_some, Option.getD_some] at full
  cases stage with
  | done => rfl
  | _ => simp [Stage.rank] at full

end Progress

theorem Outcomes.find?_remove (o : Outcomes) (path other : String)
    : (o.remove path).find? other = if other = path then none else o.find? other := by
  simp only [Outcomes.find?, Outcomes.remove, findEntry?, List.find?_filter]
  by_cases same : other = path
  · subst same
    simp
  · rw [if_neg same]
    congr 2
    funext entry
    by_cases at_other : entry.1 = other
    · simp [at_other, same]
    · simp [at_other]

/-- Walking jobs with distinct source paths that the map all holds takes out one outcome for each
of them: the reports and the failures together count the jobs, by induction on the jobs. -/
theorem drain_count (outcomes : Outcomes) (todo : List Job) (nodup : (todo.map Job.input).Nodup)
    (present : ∀ job ∈ todo, outcomes.find? job.input ≠ none)
    : (drain outcomes todo).1.length + (drain outcomes todo).2 = todo.length := by
  induction todo generalizing outcomes with
  | nil => rfl
  | cons job rest ih =>
      rw [List.map_cons, List.nodup_cons] at nodup
      -- taking this job's outcome out leaves the others' in place
      have later : ∀ other ∈ rest, (outcomes.remove job.input).find? other.input ≠ none := by
        intro other member
        have differ : other.input ≠ job.input := fun same =>
          nodup.1 (same ▸ List.mem_map_of_mem member)
        rw [Outcomes.find?_remove, if_neg differ]
        exact present other (List.mem_cons_of_mem _ member)
      have after := ih (outcomes.remove job.input) nodup.2 later
      cases found : outcomes.find? job.input with
      | none => exact absurd found (present job List.mem_cons_self)
      | some outcome =>
          cases outcome with
          | ok report =>
              simp only [drain, found, List.length_cons]
              omega
          | error e =>
              simp only [drain, found, List.length_cons]
              omega

/-- Stripping the jobs of a directory in parallel does not depend on the schedule. The jobs read
distinct files, write distinct files, and write no file that a job reads; and once every job is
done, whatever order its steps ran in, the map holds for each job exactly the outcome it has run
alone against the first workspace, the workspace holds what running the jobs one after another
leaves, and walking the jobs takes a report or a failure out of the map for each of them. -/
theorem parallel_strip_matches_alone (w : Workspace) (valid : w.Valid) (keep : Bool) (dir : String)
    (todo : List Job) (listed : ((jobs dir : StateM Workspace _).run w).1 = .ok todo)
    : (todo.map Job.input).Nodup ∧ (todo.map Job.output).Nodup ∧
      (∀ job ∈ todo, ∀ other ∈ todo, job.output ≠ other.input) ∧
      ∀ schedule : List Nat, ((Pool.start w todo.length).run keep todo schedule).Finished →
        ((Pool.start w todo.length).run keep todo schedule).outcomes.entries.Perm
            (todo.map fun job =>
              (job.input, ((runPaths keep job.input job.output : StateM Workspace _).run w).1)) ∧
          ((Pool.start w todo.length).run keep todo schedule).workspace.nodes.Perm
            ((stripAll keep todo : StateM Workspace _).run w).2.nodes ∧
          (drain ((Pool.start w todo.length).run keep todo schedule).outcomes todo).1.length +
              (drain ((Pool.start w todo.length).run keep todo schedule).outcomes todo).2 =
            todo.length := by
  have nodup := nodup_inputs valid listed
  have ind := jobs_independent valid listed
  refine ⟨nodup, nodup_outputs valid listed, output_ne_input_of_mem valid listed, ?_⟩
  intro schedule finished
  have inv : PoolInv keep w todo ((Pool.start w todo.length).run keep todo schedule) :=
    (PoolInv.start valid.nodup).run ind nodup schedule
  generalize (Pool.start w todo.length).run keep todo schedule = final at inv finished ⊢
  have first : Framed keep w todo (· ∈ []) w :=
    (Framed.start valid.nodup).congr fun _ _ => by simp
  have sequential := stripAll_run_framed ind [] todo w (fun _ member => member) first
  have keys : ((todo.map fun job => (job.input, (runAlone keep w job).1)).map Prod.fst).Nodup := by
    simpa [Function.comp_def] using nodup
  refine ⟨?_, ?_, ?_⟩
  · exact perm_of_findEntry? inv.distinct keys (inv.find?_eq nodup finished)
  · -- both workspaces are written by every job
    refine (inv.framed.congr fun job member => ?_).perm sequential.2
    obtain ⟨i, at_i⟩ := List.mem_iff_getElem?.mp member
    exact iff_of_true (by simpa using member)
      ⟨i, .done, at_i, inv.done_of_finished finished at_i, rfl⟩
  · refine drain_count final.outcomes todo nodup fun job member => ?_
    rw [inv.find?_input finished member]
    exact Option.some_ne_none _

/-- A directory `src` holding two source files. -/
def twoSources : Workspace :=
  { nodes := [(["src"], .dir), (["src", "a.sol"], .file [47, 47, 120, 10, 65]),
      (["src", "b.sol"], .file [66, 32, 47, 42, 121, 42, 47, 10])] }

/-- The jobs of `twoSources`, in byte order of their sources. -/
def twoSourceJobs : List Job :=
  [⟨"src/a.sol", "src/a_no_comments.sol"⟩, ⟨"src/b.sol", "src/b_no_comments.sol"⟩]

/-- The two jobs of `twoSources` run with their steps interleaved, each job moved three times:
the map and the workspace end as the jobs leave them alone and one after another. -/
theorem parallel_strip_two_sources_interleaved
    : twoSources.Valid ∧
      ((jobs "src" : StateM Workspace _).run twoSources).1 = .ok twoSourceJobs ∧
      ((Pool.start twoSources 2).run true twoSourceJobs [1, 0, 1, 0, 0, 1]).Finished ∧
      ((Pool.start twoSources 2).run true twoSourceJobs [1, 0, 1, 0, 0, 1]).outcomes.entries.Perm
          (twoSourceJobs.map fun job =>
            (job.input, ((runPaths true job.input job.output : StateM Workspace _).run
              twoSources).1)) ∧
        ((Pool.start twoSources 2).run true twoSourceJobs [1, 0, 1, 0, 0, 1]).workspace.nodes.Perm
          ((stripAll true twoSourceJobs : StateM Workspace _).run twoSources).2.nodes := by
  have valid : twoSources.Valid := by decide +kernel
  have listed : ((jobs "src" : StateM Workspace _).run twoSources).1 = .ok twoSourceJobs := by
    have names : twoSources.list "src" = .ok ["a.sol", "b.sol"] := by decide +kernel
    rw [jobs_run, names]
    simp only [select]
    -- the listing comes sorted, which `decide` cannot see through `mergeSort`
    rw [List.mergeSort_of_pairwise (by decide +kernel)]
    decide +kernel
  have finished : ((Pool.start twoSources twoSourceJobs.length).run true twoSourceJobs
      [1, 0, 1, 0, 0, 1]).Finished :=
    Pool.run_finished twoSources _ (by decide)
  obtain ⟨entries, nodes, -⟩ :=
    (parallel_strip_matches_alone twoSources valid true "src" _ listed).2.2.2 _ finished
  exact ⟨valid, listed, finished, entries, nodes⟩

end Decomment.Batch
