import Decomment.Batch
import Decomment.Proofs.Workspace

/-! The jobs of a directory. Each one reads a regular `.sol` file that the directory lists under a
plain name, and writes the sibling whose stem carries the stripped suffix. The listing holds
distinct names and no stem that already ends in the suffix is taken, so the jobs read distinct
files, write distinct files, and write no file that a job reads. All of them read and write in
the one directory the listing walked to; what one job writes therefore never lies on the way of
another, and the jobs can run in any order.
-/

namespace Decomment

open Decomment.Files Decomment.Files.Path Decomment.Files.Workspace

-----------------------------------------------------------------------------------------
-- One job in the workspace
-----------------------------------------------------------------------------------------

theorem writeStripped_run (w : Workspace) (keep : Bool) (output source : String)
    : (writeStripped keep output source : StateM Workspace _).run w =
      match w.fileKey output with
      | .ok key =>
        (.ok { outputPath := output
               sourceLines := (strip keep source).sourceLines
               cleanedLines := (strip keep source).cleanedLines },
          w.set key (.file (encodeUtf8 (strip keep source).text)))
      | .error e => (.error (.write output e), w) := by
  have written := writeText_run w output (strip keep source).text
  cases chosen : w.fileKey output <;>
    simp only [chosen] at written <;>
    simp [writeStripped, StateT.run_bind, written] <;> rfl

theorem runPaths_run (w : Workspace) (keep : Bool) (input output : String)
    : (runPaths keep input output : StateM Workspace _).run w =
      match ((readText input : StateM Workspace _).run w).1 with
      | .error e => (.error (.read input e), w)
      | .ok source => (writeStripped keep output source : StateM Workspace _).run w := by
  cases reading : w.read input with
  | ok bytes =>
      cases decoding : decodeUtf8? bytes <;>
        simp [runPaths, readText, FileSystem.readBytes, reading, decoding] <;> rfl
  | error e =>
      simp [runPaths, readText, FileSystem.readBytes, reading]
      rfl

namespace Batch

-----------------------------------------------------------------------------------------
-- The listing
-----------------------------------------------------------------------------------------

/-- Steps that look at the workspace and change nothing run as a map over it. -/
theorem mapM_run_of_reads {α β : Type} (f : α → StateM Workspace β) (g : Workspace → α → β)
    (reads : ∀ a w, (f a).run w = pure (g w a, w)) (xs : List α) (w : Workspace)
    : (xs.mapM f).run w = pure (xs.map (g w), w) := by
  induction xs with
  | nil => rfl
  | cons x rest ih => simp [List.mapM_cons, reads, ih]

/-- The jobs of a directory come from the names it lists, each with whether it names a file. -/
theorem jobs_run (w : Workspace) (dir : String)
    : ((jobs dir : StateM Workspace _).run w).1 =
      match w.list dir with
      | .error e => .error (.listDir dir e)
      | .ok names =>
        .ok (select dir (names.map fun name => { name, isFile := w.isFile (join dir name) })) := by
  have entries := mapM_run_of_reads
    (fun name => Entry.mk name <$> (FileSystem.isFile (join dir name) : StateM Workspace Bool))
    (fun v name => { name, isFile := v.isFile (join dir name) }) (fun _ _ => rfl)
  cases found : w.list dir <;>
    simp [jobs, listEntries, FileSystem.listDir, found, entries] <;> rfl

/-- Running jobs one after another: the first job runs on the workspace, the others on what it
leaves. -/
theorem stripAll_cons_run (keep : Bool) (job : Job) (rest : List Job) (w : Workspace)
    : (stripAll keep (job :: rest) : StateM Workspace _).run w =
      ((job, ((runPaths keep job.input job.output : StateM Workspace _).run w).1) ::
          ((stripAll keep rest : StateM Workspace _).run
            ((runPaths keep job.input job.output : StateM Workspace _).run w).2).1,
        ((stripAll keep rest : StateM Workspace _).run
          ((runPaths keep job.input job.output : StateM Workspace _).run w).2).2) := by
  simp only [stripAll, List.mapM_cons]
  rfl

-----------------------------------------------------------------------------------------
-- One job
-----------------------------------------------------------------------------------------

/-- A job made from a plain name `stem.sol` whose stem does not end in the stripped suffix: it
reads the name in the directory and writes the sibling named by the stem, the suffix and
`.sol`. -/
structure SourceJob (dir : String) (job : Job) (name stem : List Char) : Prop where
  plain : IsPlainName name
  named : name = stem ++ ".sol".toList
  fresh : ¬ strippedSuffix.toList <:+ stem
  input : job.input = join dir (String.ofList name)
  output : job.output =
    join (parentText job.input) (String.ofList (stem ++ (strippedSuffix ++ ".sol").toList))

/-- A job that the directory's listing makes from an entry with a plain name. -/
theorem jobOf?_eq_some {dir : String} {entry : Entry} {job : Job}
    (plain : IsPlainName entry.name.toList) (made : jobOf? dir entry = some job)
    : entry.isFile = true ∧ ∃ stem, SourceJob dir job entry.name.toList stem := by
  have named : fileName? (join dir entry.name) = some entry.name :=
    fileName?_join dir entry.name plain
  unfold jobOf? at made
  simp only [extension?, stem?, named, Option.bind_some, Option.map_some] at made
  cases cut : splitAtDot entry.name.toList with
  | none => simp [cut] at made
  | some parts =>
      obtain ⟨stem, ext⟩ := parts
      obtain ⟨whole, filled⟩ := splitAtDot_eq_some cut
      simp only [cut, Option.map_some] at made
      split at made
      · cases made
      · rename_i kept
        simp only [Bool.or_eq_true, Bool.not_eq_true', bne_iff_ne, ne_eq, Option.some.injEq,
          not_or, Decidable.not_not] at kept
        obtain ⟨isFile, sol⟩ := kept
        have extIsSol : ext = "sol".toList := by
          rw [← sol, String.toList_ofList]
        split at made
        · cases made
        · rename_i notStripped
          cases made
          refine ⟨by simpa using isFile, stem, plain, ?_, ?_, by simp, ?_⟩
          · rw [whole, extIsSol]
            rfl
          · intro stripped
            apply notStripped
            rw [endsWith_eq_true_iff, String.toList_ofList]
            exact stripped
          · have written : String.ofList stem ++ strippedSuffix ++ ".sol" =
                String.ofList (stem ++ (strippedSuffix ++ ".sol").toList) := by
              simp [← String.toList_inj, String.toList_append]
            simp only [withFileName, named, written]

variable {dir : String} {job other : Job} {name stem name' stem' : List Char}

/-- The name a job writes: the stem, the stripped suffix and `.sol`. -/
theorem SourceJob.plain_output (src : SourceJob dir job name stem)
    : IsPlainName (stem ++ (strippedSuffix ++ ".sol").toList) := by
  have noSlash : '/' ∉ stem := fun member =>
    src.plain.2.1 (src.named ▸ List.mem_append_left _ member)
  refine ⟨by simp, ?_, ?_, ?_⟩
  · simp only [List.mem_append, not_or]
    exact ⟨noSlash, by decide⟩
  · intro short
    have := congrArg List.length short
    simp [strippedSuffix] at this
  · intro short
    have := congrArg List.length short
    simp [strippedSuffix] at this

theorem SourceJob.fileName?_input (src : SourceJob dir job name stem)
    : fileName? job.input = some (String.ofList name) := by
  rw [src.input]
  exact fileName?_join dir _ (by simpa using src.plain)

theorem SourceJob.fileName?_output (src : SourceJob dir job name stem)
    : fileName? job.output = some (String.ofList (stem ++ (strippedSuffix ++ ".sol").toList)) := by
  rw [src.output]
  exact fileName?_join _ _ (by simpa using src.plain_output)

/-- No job reads a name that a job writes: the stem of that name would end in the stripped
suffix. -/
theorem SourceJob.name_ne_stripped (src : SourceJob dir job name stem) (other : List Char)
    : name ≠ other ++ (strippedSuffix ++ ".sol").toList := by
  intro same
  rw [src.named, String.toList_append, ← List.append_assoc] at same
  have stemEq : stem = other ++ strippedSuffix.toList := List.append_cancel_right same
  exact src.fresh ⟨other, stemEq.symm⟩

/-- Two jobs made from one name are the same job. -/
theorem SourceJob.eq (src : SourceJob dir job name stem) (source : SourceJob dir other name stem')
    : job = other := by
  have stemEq : stem = stem' := List.append_cancel_right (src.named.symm.trans source.named)
  subst stemEq
  have inputEq : job.input = other.input := src.input.trans source.input.symm
  have outputEq : job.output = other.output := by rw [src.output, source.output, inputEq]
  cases job
  cases other
  simp_all

/-- The file names of a job's paths tell jobs from different names apart. -/
theorem SourceJob.input_ne (src : SourceJob dir job name stem)
    (source : SourceJob dir other name' stem') (differ : name ≠ name')
    : job.input ≠ other.input := by
  intro same
  have names := src.fileName?_input.symm.trans (same ▸ source.fileName?_input)
  exact differ (String.ofList_injective (Option.some.inj names))

theorem SourceJob.output_ne (src : SourceJob dir job name stem)
    (source : SourceJob dir other name' stem') (differ : name ≠ name')
    : job.output ≠ other.output := by
  intro same
  have names := src.fileName?_output.symm.trans (same ▸ source.fileName?_output)
  have newEq := String.ofList_injective (Option.some.inj names)
  rw [String.toList_append, ← List.append_assoc, ← List.append_assoc] at newEq
  have stemEq : stem = stem' := by
    simpa using List.append_cancel_right newEq
  exact differ (by rw [src.named, source.named, stemEq])

theorem SourceJob.output_ne_input (src : SourceJob dir job name stem)
    (source : SourceJob dir other name' stem') : job.output ≠ other.input := by
  intro same
  have names := src.fileName?_output.symm.trans (same ▸ source.fileName?_input)
  exact source.name_ne_stripped stem (String.ofList_injective (Option.some.inj names)).symm

-----------------------------------------------------------------------------------------
-- Where a job reads and writes
-----------------------------------------------------------------------------------------

theorem start_eq_of_absolute {r s : Route} (same : r.absolute = s.absolute)
    : start r = start s := by
  simp [start, same]

theorem SourceJob.route_input (src : SourceJob dir job name stem)
    : Route.ofText job.input =
      { absolute := (Route.ofText dir).absolute
        parts := (Route.ofText dir).parts ++ [String.ofList name]
        slash := false } := by
  rw [src.input, route_join dir _ (by simpa using src.plain)]
  simp [Route.ofText, startsWith_slash]

/-- A job's source is looked up where the directory's own components lead. -/
theorem SourceJob.walk_input (src : SourceJob dir job name stem) (w : Workspace)
    : w.descend (start (Route.ofText job.input)) (Route.ofText job.input).parts.dropLast =
      w.descend (start (Route.ofText dir)) (Route.ofText dir).parts := by
  rw [src.route_input, List.dropLast_concat]
  rfl

theorem SourceJob.last_input (src : SourceJob dir job name stem)
    : (Route.ofText job.input).parts.getLast? = some (String.ofList name) := by
  rw [src.route_input]
  simp

/-- A job's output is written where the directory's own components lead, too: its directory
text passes the same directories, leaving out `.`. -/
theorem SourceJob.walk_output (src : SourceJob dir job name stem) (w : Workspace)
    : w.descend (start (Route.ofText job.output)) (Route.ofText job.output).parts.dropLast =
      w.descend (start (Route.ofText dir)) (Route.ofText dir).parts := by
  have plainName : IsPlainName (String.ofList name).toList := by simpa using src.plain
  have route := route_join (parentText job.input)
    (String.ofList (stem ++ (strippedSuffix ++ ".sol").toList)) (by simpa using src.plain_output)
  have rooted : decide ((parentText job.input).toList.head? = some '/') =
      (Route.ofText dir).absolute := by
    simp only [Route.ofText, startsWith_slash, head?_parentText, src.input,
      head?_join_eq_slash dir _ plainName]
  rw [← src.output] at route
  -- the start is fixed first: found inside the rewritten route, its place has to be guessed
  have started : start (Route.ofText job.output) = start (Route.ofText dir) :=
    start_eq_of_absolute ((congrArg Route.absolute route).trans rooted)
  rw [started, route, List.dropLast_concat, ← descend_filter_dot, src.input,
    filter_parts_sibling dir _ plainName, descend_filter_dot]
  rfl

theorem SourceJob.last_output (src : SourceJob dir job name stem)
    : (Route.ofText job.output).parts.getLast? =
      some (String.ofList (stem ++ (strippedSuffix ++ ".sol").toList)) := by
  rw [src.output, route_join _ _ (by simpa using src.plain_output)]
  simp

-----------------------------------------------------------------------------------------
-- The jobs of a listing
-----------------------------------------------------------------------------------------

variable {w : Workspace} {todo : List Job}

/-- Every job of a directory of a well-formed workspace is made from a name the directory
lists, and its source names a file. -/
theorem source_of_mem_jobs (valid : w.Valid)
    (listed : ((jobs dir : StateM Workspace _).run w).1 = .ok todo) (member : job ∈ todo)
    : w.isFile job.input = true ∧ ∃ name stem, SourceJob dir job name stem := by
  rw [jobs_run] at listed
  cases found : w.list dir with
  | error e => simp [found] at listed
  | ok names =>
      simp only [found] at listed
      obtain rfl := Except.ok.inj listed
      obtain ⟨entry, sorted, made⟩ := List.mem_filterMap.mp member
      obtain ⟨name, listedName, rfl⟩ := List.mem_map.mp ((List.mergeSort_perm _ _).subset sorted)
      -- the entry is read off `made`; the name's check is elaborated after it
      obtain ⟨isFile, stem, src⟩ :=
        jobOf?_eq_some (by exact (valid.listed_names found).2 name listedName) made
      refine ⟨?_, _, stem, src⟩
      rw [src.input, String.ofList_toList]
      exact isFile

/-- Two jobs of a directory of a well-formed workspace are made from different names. -/
theorem jobs_pairwise (valid : w.Valid)
    (listed : ((jobs dir : StateM Workspace _).run w).1 = .ok todo)
    : todo.Pairwise fun job other => ∃ name stem name' stem',
      SourceJob dir job name stem ∧ SourceJob dir other name' stem' ∧ name ≠ name' := by
  rw [jobs_run] at listed
  cases found : w.list dir with
  | error e => simp [found] at listed
  | ok names =>
      simp only [found] at listed
      obtain rfl := Except.ok.inj listed
      obtain ⟨distinct, plain⟩ := valid.listed_names found
      let entries := names.map fun name => ({ name, isFile := w.isFile (join dir name) } : Entry)
      have sortedPerm := List.mergeSort_perm entries fun a b => decide (a.name ≤ b.name)
      -- the sorted entries carry the listed names, which are distinct and plain
      have sortedNames :
          ((entries.mergeSort fun a b => decide (a.name ≤ b.name)).map Entry.name).Nodup := by
        rw [(sortedPerm.map Entry.name).nodup_iff]
        simpa [entries, Function.comp_def] using distinct
      have plainEntry : ∀ entry ∈ entries.mergeSort (fun a b => decide (a.name ≤ b.name)),
          IsPlainName entry.name.toList := by
        intro entry sorted
        obtain ⟨name, listedName, rfl⟩ := List.mem_map.mp (sortedPerm.subset sorted)
        exact plain name listedName
      have spread : (entries.mergeSort fun a b => decide (a.name ≤ b.name)).Pairwise
          fun entry entry' => entry.name ≠ entry'.name ∧ IsPlainName entry.name.toList ∧
            IsPlainName entry'.name.toList :=
        (List.pairwise_map.mp sortedNames).imp_of_mem
          fun first second differ => ⟨differ, plainEntry _ first, plainEntry _ second⟩
      refine spread.filterMap (jobOf? dir) ?_
      rintro entry entry' ⟨differ, plainFirst, plainSecond⟩ job made other made'
      obtain ⟨-, stem, src⟩ := jobOf?_eq_some plainFirst made
      obtain ⟨-, stem', source⟩ := jobOf?_eq_some plainSecond made'
      exact ⟨_, stem, _, stem', src, source, fun same => differ (String.toList_inj.mp same)⟩

theorem nodup_inputs (valid : w.Valid)
    (listed : ((jobs dir : StateM Workspace _).run w).1 = .ok todo) : (todo.map Job.input).Nodup :=
  List.pairwise_map.mpr <| (jobs_pairwise valid listed).imp
    fun ⟨_, _, _, _, src, source, differ⟩ => src.input_ne source differ

theorem nodup_outputs (valid : w.Valid)
    (listed : ((jobs dir : StateM Workspace _).run w).1 = .ok todo) : (todo.map Job.output).Nodup :=
  List.pairwise_map.mpr <| (jobs_pairwise valid listed).imp
    fun ⟨_, _, _, _, src, source, differ⟩ => src.output_ne source differ

theorem output_ne_input_of_mem (valid : w.Valid)
    (listed : ((jobs dir : StateM Workspace _).run w).1 = .ok todo)
    : ∀ job ∈ todo, ∀ other ∈ todo, job.output ≠ other.input := by
  intro job member other member'
  obtain ⟨-, _, _, src⟩ := source_of_mem_jobs valid listed member
  obtain ⟨-, _, _, source⟩ := source_of_mem_jobs valid listed member'
  exact src.output_ne_input source

-----------------------------------------------------------------------------------------
-- Independence
-----------------------------------------------------------------------------------------

/-- What lets jobs run in any order against the workspace they start from: a job reads the same
in any workspace with the same directories that agrees away from the files the jobs write;
it chooses the same file to write in any workspace with the same directories; and no two jobs
write the same file. -/
structure Independent (w : Workspace) (todo : List Job) : Prop where
  read : ∀ job ∈ todo, ∀ v : Workspace, SameDirs v w →
    (∀ key, (∀ other ∈ todo, w.fileKey other.output ≠ .ok key) → v.node? key = w.node? key) →
    v.read job.input = w.read job.input
  fileKey : ∀ job ∈ todo, ∀ v : Workspace, SameDirs v w →
    v.fileKey job.output = w.fileKey job.output
  apart : ∀ job ∈ todo, ∀ other ∈ todo, ∀ key, w.fileKey job.output = .ok key →
    w.fileKey other.output = .ok key → job = other

/-- A job whose source names a file: the directory's walk gets to a directory. -/
theorem SourceJob.walk_of_isFile (src : SourceJob dir job name stem)
    (isFile : w.isFile job.input = true)
    : ∃ place,
      w.descend (start (Route.ofText dir)) (Route.ofText dir).parts = .ok (.inside place) := by
  unfold Workspace.isFile at isFile
  split at isFile
  · rename_i bytes found
    obtain ⟨-, place, -, walk, -⟩ := locate_eq_file found
    exact ⟨place, (src.walk_input w).symm.trans walk⟩
  · cases isFile

/-- A job writes its stripped name in the directory the walk gets to. -/
theorem SourceJob.key_eq_of_fileKey (src : SourceJob dir job name stem) {place : List String}
    (walk : w.descend (start (Route.ofText dir)) (Route.ofText dir).parts = .ok (.inside place))
    {key : List String} (chosen : w.fileKey job.output = .ok key)
    : key = place ++ [String.ofList (stem ++ (strippedSuffix ++ ".sol").toList)] := by
  obtain ⟨last, dir', lastEq, walk', rfl, -⟩ := fileKey_eq_ok chosen
  rw [src.walk_output, walk] at walk'
  rw [src.last_output] at lastEq
  cases walk'
  cases lastEq
  rfl

/-- The jobs of a directory of a well-formed workspace are independent. -/
theorem jobs_independent (valid : w.Valid)
    (listed : ((jobs dir : StateM Workspace _).run w).1 = .ok todo) : Independent w todo := by
  have sources := fun job (member : job ∈ todo) => source_of_mem_jobs valid listed member
  refine ⟨?_, ?_, ?_⟩
  · intro job member v same agrees
    obtain ⟨isFile, name, stem, src⟩ := sources job member
    obtain ⟨place, walk⟩ := src.walk_of_isFile isFile
    have vWalk := descend_of_dirs (fun key isDir => (same key).mpr isDir) walk
    refine read_eq_of_frame (by rw [src.walk_input, src.walk_input, vWalk, walk]) ?_
    intro last dir' lastEq reached
    rw [src.last_input] at lastEq
    rw [src.walk_input, walk] at reached
    cases lastEq
    cases reached
    -- the source is not among the files the jobs write
    apply agrees
    intro other member' chosen
    obtain ⟨-, name', stem', source⟩ := sources other member'
    have keyEq := source.key_eq_of_fileKey walk chosen
    simp only [List.append_cancel_left_eq, List.cons.injEq, and_true] at keyEq
    exact src.name_ne_stripped stem' (String.ofList_injective keyEq)
  · intro job member v same
    obtain ⟨isFile, name, stem, src⟩ := sources job member
    obtain ⟨place, walk⟩ := src.walk_of_isFile isFile
    have vWalk := descend_of_dirs (fun key isDir => (same key).mpr isDir) walk
    exact fileKey_eq_of_frame (by rw [src.walk_output, src.walk_output, vWalk, walk]) same
  · intro job member other member' key chosen chosen'
    obtain ⟨isFile, name, stem, src⟩ := sources job member
    obtain ⟨-, name', stem', source⟩ := sources other member'
    obtain ⟨place, walk⟩ := src.walk_of_isFile isFile
    have keyEq :=
      (src.key_eq_of_fileKey walk chosen).symm.trans (source.key_eq_of_fileKey walk chosen')
    simp only [List.append_cancel_left_eq, List.cons.injEq, and_true] at keyEq
    have newEq := String.ofList_injective keyEq
    rw [String.toList_append, ← List.append_assoc, ← List.append_assoc] at newEq
    have stemEq : stem = stem' := by simpa using List.append_cancel_right newEq
    subst stemEq
    have nameEq : name = name' := src.named.trans source.named.symm
    subst nameEq
    exact src.eq source

end Batch

end Decomment
