import Decomment.Proofs.Jobs

/-! The three outcomes of a run on a pair of paths. The source is read first. When it does not
name a file whose bytes are UTF-8 text, the run fails naming the source and writes nothing.
Otherwise the run writes the stripped text into the file the output names, creating or
truncating it, and reports the output and the line counts. When the output names no file that
can be written, the run fails naming the output and writes nothing. Nothing else in the
workspace changes, also when both paths name the same file. A path is refused before it is
resolved when it is too long, so a source can fail to be read although the file it names holds
UTF-8 text.
-/

namespace Decomment

open Decomment.Files Decomment.Files.Workspace

namespace Files.Workspace

/-- A path reads as a text: it names a file whose bytes are that text in UTF-8. -/
def ReadsAs (w : Workspace) (p text : String) : Prop :=
  ∃ bytes, w.locate p = .ok (.file bytes) ∧ decodeUtf8? bytes = some text

/-- Why a path cannot be read as text. Its lookup fails: it is missing, lies under a file, or the
path is refused (a zero byte, `pathMax` bytes or more, a component longer than `nameMax`). Or it
names a directory. Or it names a file whose bytes are not UTF-8. -/
inductive ReadFailure (w : Workspace) (p : String) : IoError → Prop
  | unresolved {e : IoError} (failed : w.locate p = .error e) : ReadFailure w p e
  | directory {place : Place} (isDir : w.locate p = .ok (.dir place))
      : ReadFailure w p .isADirectory
  | notUtf8 {bytes : List UInt8} (isFile : w.locate p = .ok (.file bytes))
      (bad : decodeUtf8? bytes = none) : ReadFailure w p .invalidUtf8

/-- Reading a path as text succeeds exactly on a path that reads as a text, and fails with the
reason a `ReadFailure` gives; either way the workspace stays as it was. -/
theorem readText_run_cases (w : Workspace) (p : String)
    : (∃ text, w.ReadsAs p text ∧ (readText p : StateM Workspace _).run w = (.ok text, w)) ∨
      (∃ e, w.ReadFailure p e ∧ (readText p : StateM Workspace _).run w = (.error e, w)) := by
  rw [readText_run]
  cases located : w.locate p with
  | error e => exact .inr ⟨e, .unresolved located, by simp [read, located]⟩
  | ok found =>
      cases found with
      | dir place => exact .inr ⟨.isADirectory, .directory located, by simp [read, located]⟩
      | file bytes =>
          cases decoded : decodeUtf8? bytes with
          | none =>
              exact .inr ⟨.invalidUtf8, .notUtf8 located decoded,
                by simp [read, located, decoded]⟩
          | some text =>
              exact .inl ⟨text, ⟨bytes, located, decoded⟩, by simp [read, located, decoded]⟩

end Files.Workspace

/-- A run on a pair of paths is all or nothing. Either the source reads as a text, the output
names a file to write, and the run reports the output with the line counts of stripping that
text, leaving the workspace changed only at that file, which now holds the stripped text. Or the
source cannot be read, and the run fails naming it and changes nothing. Or the source reads but
the output cannot be written, and the run fails naming the output and changes nothing. The
conditions of the three cases exclude one another, so each outcome happens exactly under its
own. -/
theorem runPaths_all_or_nothing (w : Workspace) (keep : Bool) (input output : String)
    : (∃ source key, w.ReadsAs input source ∧ w.fileKey output = .ok key ∧
        (runPaths keep input output : StateM Workspace _).run w =
          (.ok { outputPath := output
                 sourceLines := (strip keep source).sourceLines
                 cleanedLines := (strip keep source).cleanedLines },
            w.set key (.file (encodeUtf8 (strip keep source).text))) ∧
        (w.set key (.file (encodeUtf8 (strip keep source).text))).read output =
          .ok (encodeUtf8 (strip keep source).text)) ∨
      (∃ e, w.ReadFailure input e ∧
        (runPaths keep input output : StateM Workspace _).run w = (.error (.read input e), w)) ∨
      (∃ source e, w.ReadsAs input source ∧ w.fileKey output = .error e ∧
        (runPaths keep input output : StateM Workspace _).run w =
          (.error (.write output e), w)) := by
  rw [runPaths_run]
  rcases readText_run_cases w input with ⟨source, reads, readRun⟩ | ⟨e, fails, readRun⟩
  · rw [readRun]
    dsimp only
    rw [writeStripped_run]
    cases chosen : w.fileKey output with
    | ok key => exact .inl ⟨source, key, reads, rfl, rfl, read_set_of_fileKey chosen _⟩
    | error e => exact .inr (.inr ⟨source, e, reads, rfl, rfl⟩)
  · rw [readRun]
    exact .inr (.inl ⟨e, fails, rfl⟩)

-----------------------------------------------------------------------------------------
-- A long path to a readable file
-----------------------------------------------------------------------------------------

/-- `./` repeated names no component. -/
theorem pieces_replicate_dot (n : Nat) (rest : List Char)
    : pieces ((List.replicate n ['.', '/']).flatten ++ rest) =
      List.replicate n ['.'] ++ pieces rest := by
  induction n with
  | zero => simp
  | succ n ih =>
      have split : (List.replicate (n + 1) ['.', '/']).flatten ++ rest =
          ['.'] ++ '/' :: ((List.replicate n ['.', '/']).flatten ++ rest) := by
        simp [List.replicate_succ]
      rw [split, pieces_append_slash, ih, List.replicate_succ, List.cons_append]
      rfl

/-- `./` repeated `n` times takes `2 * n` bytes. -/
theorem utf8ByteSize_replicate_dot (n : Nat)
    : (String.ofList (List.replicate n ['.', '/']).flatten).utf8ByteSize = 2 * n := by
  induction n with
  | zero => rfl
  | succ n ih =>
      have pair : (String.ofList ['.', '/']).utf8ByteSize = 2 := by decide
      rw [List.replicate_succ, List.flatten_cons, String.ofList_append,
        String.utf8ByteSize_append, ih, pair]
      omega

/-- `./` repeated before a plain name names that name: the path is relative, and its other
components are `.`. -/
theorem keyOf?_replicate_dot (n : Nat) {name : List Char} (plain : IsPlainName name)
    : keyOf? (String.ofList ((List.replicate n ['.', '/']).flatten ++ name)) =
      some [String.ofList name] := by
  have chars : (String.ofList ((List.replicate n ['.', '/']).flatten ++ name)).toList =
      (List.replicate n ['.', '/']).flatten ++ name :=
    String.toList_ofList
  have relative :
      (Route.ofText (String.ofList ((List.replicate n ['.', '/']).flatten ++ name))).absolute =
        false := by
    rw [Route.ofText, startsWith_slash, chars, decide_eq_false_iff_not]
    cases n with
    | zero => exact plain.head?_ne_slash
    | succ n => simp [List.replicate_succ]
  -- the name is neither `.` nor `..`, and reads back from its text
  have notDot : String.ofList name ≠ "." := fun same => plain.2.2.1 (by
    simpa using congrArg String.toList same)
  have notUp : String.ofList name ≠ ".." := fun same => plain.2.2.2 (by
    simpa using congrArg String.toList same)
  have parts : (Route.ofText (String.ofList ((List.replicate n ['.', '/']).flatten ++ name))).parts =
      List.replicate n "." ++ [String.ofList name] := by
    simp only [Route.ofText, chars, pieces_replicate_dot, pieces_plain plain, List.map_append,
      List.map_replicate, List.map_singleton]
  simp only [keyOf?, relative, parts, Bool.false_or]
  simp [List.mem_replicate, notDot, Ne.symm notUp]

/-- A path without a zero byte and of `pathMax` bytes or more is refused as too long. -/
theorem refusal?_of_long {p : String} (noNul : hasNul p = false) (long : pathMax ≤ p.utf8ByteSize)
    : refusal? p = some .nameTooLong := by
  have notEmpty : p.isEmpty = false := by
    rw [String.isEmpty_eq_utf8ByteSize_beq_zero, beq_eq_false_iff_ne]
    unfold pathMax at long
    omega
  simp [refusal?, noNul, notEmpty, long]

/-- A source path refused before it is resolved fails the run reading it. -/
theorem runPaths_of_refused {input : String} {e : IoError} (refused : refusal? input = some e)
    (w : Workspace) (keep : Bool) (output : String)
    : (runPaths keep input output : StateM Workspace _).run w = (.error (.read input e), w) := by
  rw [runPaths_run, readText_run]
  simp [Workspace.read, locate, refused]

/-- `2046` times `./` before the name of a file that holds UTF-8 text: the path names that
file, and it does not lie under a file, yet it has 4098 bytes and is refused before it is
resolved, so the run fails reading it. -/
theorem runPaths_refuses_long_path_to_readable_file :
    let input := String.ofList ((List.replicate 2046 ['.', '/']).flatten ++ "in.sol".toList)
    let w : Workspace := { nodes := [(["in.sol"], .file (encodeUtf8 "x"))] }
    keyOf? input = some ["in.sol"] ∧ w.node? ["in.sol"] = some (.file (encodeUtf8 "x")) ∧
      decodeUtf8? (encodeUtf8 "x") = some "x" ∧
      (runPaths true input "o.sol" : StateM Workspace _).run w =
        (.error (.read input .nameTooLong), w) := by
  intro input w
  have named : keyOf? input = some ["in.sol"] := by
    have plain : IsPlainName "in.sol".toList := by decide
    have dotted := keyOf?_replicate_dot 2046 plain
    rw [String.ofList_toList] at dotted
    exact dotted
  have long : input.utf8ByteSize = 4098 := by
    show (String.ofList ((List.replicate 2046 ['.', '/']).flatten ++ "in.sol".toList)).utf8ByteSize
      = 4098
    rw [String.ofList_append, String.utf8ByteSize_append, utf8ByteSize_replicate_dot,
      String.ofList_toList]
    decide
  -- no character of the path is a zero byte
  have noNul : hasNul input = false := by
    rw [hasNul, String.toList_ofList, Bool.eq_false_iff]
    intro has
    rcases List.mem_append.mp (List.contains_iff_mem.mp has) with inDots | inName
    · obtain ⟨piece, member, inPiece⟩ := List.mem_flatten.mp inDots
      rw [(List.mem_replicate.mp member).2] at inPiece
      exact absurd inPiece (by decide)
    · exact absurd inName (by decide)
  have refused : refusal? input = some .nameTooLong :=
    refusal?_of_long noNul (by rw [long]; decide)
  exact ⟨named, by decide +kernel, by decide +kernel, runPaths_of_refused refused w true "o.sol"⟩

end Decomment
