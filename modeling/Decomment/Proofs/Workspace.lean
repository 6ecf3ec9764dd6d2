import Decomment.Files.System
import Decomment.Proofs.Paths
import Mathlib.Data.List.Nodup

/-! The workspace as a file system: what each operation looks at and what it changes. A walk
through directories sees only which paths hold directories, and `.` components leave it where
it is. Finding a path and choosing the file a write goes to see, besides the walk, only the node
at the last component; so two workspaces that agree there give the same answers. A well-formed
workspace holds one node per path, made of plain names, and lists distinct plain names.
-/

namespace Decomment.Files

-----------------------------------------------------------------------------------------
-- Association lists
-----------------------------------------------------------------------------------------

section Entries

variable {κ ν : Type} [BEq κ] [LawfulBEq κ]

/-- Reading a key after putting a value: the value at that key, what was there elsewhere. -/
@[simp] theorem findEntry?_putEntry [DecidableEq κ] (entries : List (κ × ν)) (key other : κ)
    (value : ν)
    : findEntry? (putEntry entries key value) other =
      if other = key then some value else findEntry? entries other := by
  unfold putEntry findEntry?
  split
  · rename_i present
    have sameKey : ((fun entry : κ × ν => entry.1 == other) ∘
        fun entry => if entry.1 == key then (key, value) else entry) =
        fun entry => entry.1 == other := by
      funext entry
      by_cases atKey : entry.1 = key <;> simp [atKey]
    rw [List.find?_map, sameKey, Option.map_map]
    cases found : entries.find? (fun entry => entry.1 == other) with
    | none =>
        by_cases same : other = key
        · subst same
          obtain ⟨entry, member, atKey⟩ := List.any_eq_true.mp present
          exact absurd atKey (List.find?_eq_none.mp found entry member)
        · simp [same]
    | some entry =>
        have atOther : entry.1 = other := by simpa using List.find?_some found
        by_cases same : other = key <;> simp [same, atOther]
  · rename_i absent
    rw [List.find?_append]
    by_cases same : other = key
    · subst same
      have missing : entries.find? (fun entry => entry.1 == other) = none :=
        List.find?_eq_none.mpr fun entry member atKey =>
          absent (List.any_eq_true.mpr ⟨entry, member, atKey⟩)
      simp [missing]
    · simp [same, Ne.symm same]

theorem map_fst_putEntry [DecidableEq κ] (entries : List (κ × ν)) (key : κ) (value : ν)
    : (putEntry entries key value).map Prod.fst =
      if entries.any (fun entry => entry.1 == key) then entries.map Prod.fst
      else entries.map Prod.fst ++ [key] := by
  unfold putEntry
  split
  · rw [List.map_map]
    apply List.map_congr_left
    intro entry _
    by_cases atKey : entry.1 = key <;> simp [atKey]
  · simp

/-- Putting a value keeps the keys distinct. -/
theorem nodup_putEntry [DecidableEq κ] {entries : List (κ × ν)}
    (nodup : (entries.map Prod.fst).Nodup) (key : κ) (value : ν) : ((putEntry entries key value).map Prod.fst).Nodup := by
  rw [map_fst_putEntry]
  split
  · exact nodup
  · rename_i absent
    have fresh : key ∉ entries.map Prod.fst := by
      simp only [List.mem_map, not_exists, not_and]
      intro entry member atKey
      exact absent (List.any_eq_true.mpr ⟨entry, member, by simp [atKey]⟩)
    simpa using nodup.concat fresh

/-- With distinct keys, a key reads a value exactly when the pair is an entry. -/
theorem findEntry?_eq_some_iff {entries : List (κ × ν)} (nodup : (entries.map Prod.fst).Nodup)
    {key : κ} {value : ν} : findEntry? entries key = some value ↔ (key, value) ∈ entries := by
  unfold findEntry?
  constructor
  · intro found
    obtain ⟨entry, located, rfl⟩ := Option.map_eq_some_iff.mp found
    have atKey : entry.1 = key := by simpa using List.find?_some located
    rw [← atKey]
    exact List.mem_of_find?_eq_some located
  · intro member
    cases found : entries.find? (fun entry => entry.1 == key) with
    | none => exact absurd (by simp) (List.find?_eq_none.mp found _ member)
    | some entry =>
        have atKey : entry.1 = key := by simpa using List.find?_some found
        have same : entry = (key, value) :=
          List.inj_on_of_nodup_map nodup (List.mem_of_find?_eq_some found) member atKey
        simp [same]

/-- Two lists with distinct keys that read alike hold the same entries. -/
theorem perm_of_findEntry? {left right : List (κ × ν)} (leftNodup : (left.map Prod.fst).Nodup)
    (rightNodup : (right.map Prod.fst).Nodup)
    (same : ∀ key, findEntry? left key = findEntry? right key)
    : left.Perm right := by
  rw [List.perm_ext_iff_of_nodup (leftNodup.of_map _) (rightNodup.of_map _)]
  rintro ⟨key, value⟩
  rw [← findEntry?_eq_some_iff leftNodup, ← findEntry?_eq_some_iff rightNodup, same]

end Entries

namespace Workspace

@[simp] theorem node?_set (w : Workspace) (key other : List String) (n : Node)
    : (w.set key n).node? other = if other = key then some n else w.node? other :=
  findEntry?_putEntry w.nodes key other n

/-- Two workspaces hold directories at the same paths. -/
def SameDirs (v w : Workspace) : Prop :=
  ∀ key, v.node? key = some .dir ↔ w.node? key = some .dir

-----------------------------------------------------------------------------------------
-- Walks through directories
-----------------------------------------------------------------------------------------

/-- `.` components leave a walk where it is. -/
theorem descend_filter_dot (w : Workspace) (place : Place) (parts : List String)
    : w.descend place (parts.filter (· != ".")) = w.descend place parts := by
  induction parts generalizing place with
  | nil => rfl
  | cons c rest ih =>
      by_cases dot : c = "."
      · subst dot
        simp [descend, ih]
      · rw [List.filter_cons_of_pos (by simpa using dot)]
        simp only [descend, ih]

/-- A walk that gets through keeps getting through when every directory it could pass stays
one, by induction on the components. -/
theorem descend_of_dirs {v w : Workspace}
    (dirs : ∀ key, w.node? key = some .dir → v.node? key = some .dir)
    {place result : Place} {parts : List String} (walk : w.descend place parts = .ok result)
    : v.descend place parts = .ok result := by
  induction parts generalizing place with
  | nil => exact walk
  | cons c rest ih =>
      simp only [descend] at walk ⊢
      by_cases dot : c == "."
      · rw [if_pos dot] at walk ⊢
        exact ih walk
      rw [if_neg dot] at walk ⊢
      by_cases up : c == ".."
      · rw [if_pos up] at walk ⊢
        exact ih walk
      rw [if_neg up] at walk ⊢
      by_cases long : tooLong c
      · rw [if_pos long] at walk
        cases walk
      rw [if_neg long] at walk ⊢
      -- only a directory lets the walk go on, and it is still there
      cases place with
      | outside => cases walk
      | inside dir =>
          cases found : w.node? (dir ++ [c]) with
          | none => simp [found] at walk
          | some node =>
              cases node with
              | file bytes => simp [found] at walk
              | dir =>
                  simp only [found] at walk
                  simp only [dirs _ found]
                  exact ih walk

-----------------------------------------------------------------------------------------
-- Finding a path, and the file a write goes to
-----------------------------------------------------------------------------------------

/-- A path names a file when it is not refused, its directories lead to a directory of the
workspace, and its last component there is that file. -/
theorem locate_eq_file {w : Workspace} {p : String} {bytes : List UInt8}
    (found : w.locate p = .ok (.file bytes))
    : ∃ last dir, (Route.ofText p).parts.getLast? = some last ∧
      w.descend (start (Route.ofText p)) (Route.ofText p).parts.dropLast = .ok (.inside dir) ∧
      w.node? (dir ++ [last]) = some (.file bytes) := by
  simp only [locate] at found
  split at found
  · cases found
  · split at found
    · cases found
    · rename_i last lastEq
      split at found
      · cases found
      · rename_i place walk
        split at found
        · cases found
        split at found
        · cases found
        split at found
        · cases found
        cases place with
        | outside => cases found
        | inside dir =>
            refine ⟨last, dir, lastEq, walk, ?_⟩
            simp only at found
            split at found
            · cases found
            · cases found
            · rename_i stored
              split at found
              · cases found
              · cases found
                exact stored

/-- Two workspaces whose walks for a path end alike, and that hold the same node at its last
component, find the same thing at the path. -/
theorem locate_eq_of_frame {v w : Workspace} {p : String}
    (walk : v.descend (start (Route.ofText p)) (Route.ofText p).parts.dropLast =
      w.descend (start (Route.ofText p)) (Route.ofText p).parts.dropLast)
    (atLast : ∀ last dir, (Route.ofText p).parts.getLast? = some last →
      w.descend (start (Route.ofText p)) (Route.ofText p).parts.dropLast = .ok (.inside dir) →
      v.node? (dir ++ [last]) = w.node? (dir ++ [last]))
    : v.locate p = w.locate p := by
  simp only [locate]
  split
  · rfl
  · cases lastEq : (Route.ofText p).parts.getLast? with
    | none => rfl
    | some last =>
        simp only [walk]
        cases reached : w.descend (start (Route.ofText p)) (Route.ofText p).parts.dropLast with
        | error e => rfl
        | ok place =>
            cases place with
            | outside => rfl
            | inside dir => simp only [atLast last dir lastEq reached]

theorem read_eq_of_frame {v w : Workspace} {p : String}
    (walk : v.descend (start (Route.ofText p)) (Route.ofText p).parts.dropLast =
      w.descend (start (Route.ofText p)) (Route.ofText p).parts.dropLast)
    (atLast : ∀ last dir, (Route.ofText p).parts.getLast? = some last →
      w.descend (start (Route.ofText p)) (Route.ofText p).parts.dropLast = .ok (.inside dir) →
      v.node? (dir ++ [last]) = w.node? (dir ++ [last]))
    : v.read p = w.read p := by
  rw [read, read, locate_eq_of_frame walk atLast]

/-- A write goes to the last component of a path, in the directory its other components lead
to. -/
theorem fileKey_eq_ok {w : Workspace} {p : String} {key : List String}
    (chosen : w.fileKey p = .ok key)
    : ∃ last dir, (Route.ofText p).parts.getLast? = some last ∧
      w.descend (start (Route.ofText p)) (Route.ofText p).parts.dropLast = .ok (.inside dir) ∧
      key = dir ++ [last] ∧ w.node? key ≠ some .dir := by
  simp only [fileKey] at chosen
  split at chosen
  · cases chosen
  · split at chosen
    · cases chosen
    · rename_i last lastEq
      split at chosen
      · cases chosen
      · rename_i place walk
        split at chosen
        · cases chosen
        split at chosen
        · cases chosen
        cases place with
        | outside => cases chosen
        | inside dir =>
            simp only at chosen
            split at chosen
            · cases chosen
            · rename_i notDir
              cases chosen
              exact ⟨last, dir, lastEq, walk, rfl, notDir⟩

/-- Two workspaces whose walks for a path end alike, and that hold directories at the same
paths, choose the same file to write. -/
theorem fileKey_eq_of_frame {v w : Workspace} {p : String}
    (walk : v.descend (start (Route.ofText p)) (Route.ofText p).parts.dropLast =
      w.descend (start (Route.ofText p)) (Route.ofText p).parts.dropLast)
    (dirs : SameDirs v w) : v.fileKey p = w.fileKey p := by
  have sameDir : ∀ key, (v.node? key = some .dir) = (w.node? key = some .dir) :=
    fun key => propext (dirs key)
  simp only [fileKey, walk, sameDir]

/-- A workspace with the same directories writes a path where `w` does. -/
theorem fileKey_eq_of_sameDirs {v w : Workspace} (dirs : SameDirs v w) {p : String}
    {key : List String} (chosen : v.fileKey p = .ok key) : w.fileKey p = .ok key := by
  obtain ⟨-, dir, -, walk, -, -⟩ := fileKey_eq_ok chosen
  have wWalk := descend_of_dirs (fun k isDir => (dirs k).mp isDir) walk
  rw [← fileKey_eq_of_frame (walk.trans wWalk.symm) dirs]
  exact chosen

/-- Writing a file where no directory is keeps the directories. -/
theorem sameDirs_set_file {v w : Workspace} (dirs : SameDirs v w) {key : List String}
    (notDir : v.node? key ≠ some .dir) (bytes : List UInt8)
    : SameDirs (v.set key (.file bytes)) w := by
  intro k
  rw [node?_set]
  by_cases here : k = key
  · subst here
    rw [if_pos rfl, ← dirs k]
    exact iff_of_false (fun isDir => nomatch isDir) notDir
  · rw [if_neg here]
    exact dirs k

/-- After a write, the path written names the bytes written: the walk to its directory is the
same, and the checks the write passed are the ones finding it makes. -/
theorem locate_set_of_fileKey {w : Workspace} {p : String} {key : List String}
    (chosen : w.fileKey p = .ok key) (bytes : List UInt8)
    : (w.set key (.file bytes)).locate p = .ok (.file bytes) := by
  obtain ⟨last, dir, lastEq, walk, rfl, notDir⟩ := fileKey_eq_ok chosen
  have dirs := sameDirs_set_file (fun _ => Iff.rfl) notDir bytes
  have setWalk := descend_of_dirs (fun k isDir => (dirs k).mpr isDir) walk
  unfold fileKey at chosen
  unfold locate
  cases refused : refusal? p with
  | some e =>
      rw [refused] at chosen
      cases chosen
  | none =>
      simp only [refused, lastEq, walk] at chosen
      simp only [setWalk, lastEq]
      split at chosen
      · cases chosen
      · rename_i named
        simp only [Bool.or_eq_true, beq_iff_eq, not_or] at named
        obtain ⟨⟨notDot, notDotDot⟩, notSlash⟩ := named
        split at chosen
        · cases chosen
        · rename_i short
          simp [notDot, notDotDot, short, notSlash]

theorem read_set_of_fileKey {w : Workspace} {p : String} {key : List String}
    (chosen : w.fileKey p = .ok key) (bytes : List UInt8)
    : (w.set key (.file bytes)).read p = .ok bytes := by
  rw [read, locate_set_of_fileKey chosen]

-----------------------------------------------------------------------------------------
-- The file system of the state monad
-----------------------------------------------------------------------------------------

theorem readText_run (w : Workspace) (path : String)
    : (readText path : StateM Workspace _).run w =
      ((match w.read path with
        | .ok bytes =>
          match decodeUtf8? bytes with
          | some text => .ok text
          | none => .error .invalidUtf8
        | .error e => .error e), w) := by
  cases reading : w.read path with
  | ok bytes =>
      cases decoding : decodeUtf8? bytes <;>
        simp [readText, FileSystem.readBytes, reading, decoding] <;> rfl
  | error e =>
      simp [readText, FileSystem.readBytes, reading]
      rfl
/-- Reading a file changes nothing. -/
theorem readText_keeps (w : Workspace) (path : String)
    : ((readText path : StateM Workspace _).run w).2 = w := by
  rw [readText_run]

theorem writeText_run (w : Workspace) (path text : String)
    : (writeText path text : StateM Workspace _).run w =
      match w.fileKey path with
      | .ok key => (.ok (), w.set key (.file (encodeUtf8 text)))
      | .error e => (.error e, w) := by
  cases chosen : w.fileKey path <;>
    simp [writeText, FileSystem.writeBytes, Workspace.write, chosen, Except.map] <;> rfl
-----------------------------------------------------------------------------------------
-- Well-formed workspaces
-----------------------------------------------------------------------------------------

/-- A workspace as a file system has it: one node per path, and paths made of plain names. -/
structure Valid (w : Workspace) : Prop where
  nodup : (w.nodes.map Prod.fst).Nodup
  plain : ∀ entry ∈ w.nodes, ∀ name ∈ entry.1, IsPlainName name.toList

instance (w : Workspace) : Decidable w.Valid :=
  decidable_of_iff ((w.nodes.map Prod.fst).Nodup ∧
      ∀ entry ∈ w.nodes, ∀ name ∈ entry.1, IsPlainName name.toList)
    ⟨fun ⟨nodup, plain⟩ => ⟨nodup, plain⟩, fun ⟨nodup, plain⟩ => ⟨nodup, plain⟩⟩

/-- A key one longer than a directory and starting with it is the directory and its last
name. -/
theorem eq_append_getLast {key dir : List String} {name : String}
    (parent : key.dropLast = dir) (last : key.getLast? = some name) : key = dir ++ [name] := by
  rw [← parent]
  exact (List.dropLast_append_getLast? name last).symm

/-- The names a directory of a well-formed workspace lists are distinct and plain. -/
theorem Valid.listed_names {w : Workspace} (valid : w.Valid) {p : String} {names : List String}
    (listed : w.list p = .ok names)
    : names.Nodup ∧ ∀ name ∈ names, IsPlainName name.toList := by
  unfold Workspace.list at listed
  split at listed
  · rename_i dir _
    cases listed
    constructor
    · -- keys are distinct, and a name below the directory comes from one key only
      have distinctKeys : w.nodes.Pairwise fun entry other => entry.1 ≠ other.1 :=
        List.pairwise_map.mp valid.nodup
      refine distinctKeys.filterMap _ ?_
      intro entry other differ name named name' named' same
      subst same
      split at named <;> split at named'
      all_goals first
        | cases named
        | cases named'
        | skip
      rename_i under under'
      apply differ
      rw [eq_append_getLast (beq_iff_eq.mp (Bool.and_eq_true_iff.mp under).1) named,
        eq_append_getLast (beq_iff_eq.mp (Bool.and_eq_true_iff.mp under').1) named']
    · intro name member
      obtain ⟨entry, entryMember, named⟩ := List.mem_filterMap.mp member
      split at named
      · exact valid.plain entry entryMember name (List.mem_of_getLast? named)
      · cases named
  · cases listed
    exact ⟨List.nodup_nil, by simp⟩
  · cases listed
  · cases listed

end Workspace

end Decomment.Files
