import Decomment.Config.Load
import Decomment.Proofs.Workspace

/-! Loading a config. Loading looks at the workspace and changes nothing; which reader answers
is fixed by whether the text names a file or has a config extension, then by the extension,
then by whether the file reads. The builds with and without the TOML reader therefore answer
alike everywhere but at a TOML file that reads as UTF-8, and at inline text that only TOML
reads.
-/

namespace Decomment.Config

open Decomment.Files

variable {features : Features} {text : String} {w : Workspace}

-----------------------------------------------------------------------------------------
-- Which reader answers
-----------------------------------------------------------------------------------------

theorem loadFile_run (features : Features) (path : String) (w : Workspace)
    : (loadFile features path : StateM Workspace _).run w =
      (match formatOf? path with
        | none => .error (.unsupportedFormat path)
        | some format =>
          match ((readText path : StateM Workspace _).run w).1 with
          | .error e => .error (.configRead path e)
          | .ok contents => readFormat features path format contents, w) := by
  have keeps := Workspace.readText_keeps w path
  cases format : formatOf? path with
  | none => simp [loadFile, format]; rfl
  | some format =>
      rcases reading : (readText path : StateM Workspace _).run w with ⟨result, after⟩
      rw [reading] at keeps
      subst keeps
      simp only [loadFile, format, StateT.run_bind, reading]
      cases result <;> rfl

/-- Text that names a file, or has a config extension, is loaded as a file. -/
theorem load_run_of_path (taken : w.isFile text = true ∨ (formatOf? text).isSome = true)
    : (load features text : StateM Workspace _).run w =
      (loadFile features text : StateM Workspace _).run w := by
  simp [load, FileSystem.isFile, StateT.run_bind, if_pos taken]

/-- Any other text is the config itself. -/
theorem load_run_of_inline (notFile : w.isFile text = false) (noFormat : formatOf? text = none)
    : (load features text : StateM Workspace _).run w = (readInline features text, w) := by
  simp [load, FileSystem.isFile, StateT.run_bind, notFile, noFormat]
  rfl

/-- A config file that reads is read by the reader of its extension. -/
theorem load_run_of_readable {format : Format} {contents : String}
    (named : formatOf? text = some format)
    (read : ((readText text : StateM Workspace _).run w).1 = .ok contents)
    : (load features text : StateM Workspace _).run w =
      (readFormat features text format contents, w) := by
  rw [load_run_of_path (by simp [named]), loadFile_run, named]
  simp only [read]

/-- A config file that does not read is a read failure. -/
theorem load_run_of_unreadable {format : Format} {e : IoError}
    (named : formatOf? text = some format)
    (read : ((readText text : StateM Workspace _).run w).1 = .error e)
    : (load features text : StateM Workspace _).run w = (.error (.configRead text e), w) := by
  rw [load_run_of_path (by simp [named]), loadFile_run, named]
  simp only [read]

/-- A file without a config extension is refused. -/
theorem load_run_of_unsupported (isFile : w.isFile text = true) (noFormat : formatOf? text = none)
    : (load features text : StateM Workspace _).run w = (.error (.unsupportedFormat text), w) := by
  rw [load_run_of_path (by simp [isFile]), loadFile_run, noFormat]

/-- Loading a config changes nothing. -/
theorem load_keeps (features : Features) (text : String) (w : Workspace)
    : ((load features text : StateM Workspace _).run w).2 = w := by
  cases named : formatOf? text with
  | some format =>
      cases read : ((readText text : StateM Workspace _).run w).1 with
      | error e => rw [load_run_of_unreadable named read]
      | ok contents => rw [load_run_of_readable named read]
  | none =>
      cases isFile : w.isFile text with
      | true => rw [load_run_of_unsupported isFile named]
      | false => rw [load_run_of_inline isFile named]

-----------------------------------------------------------------------------------------
-- What the TOML reader changes
-----------------------------------------------------------------------------------------

/-- Inline text that JSON reads, or that TOML does not, is read alike with or without the TOML
reader: as its settings, or as the JSON error. -/
theorem readInline_eq_of_not_only_toml {features features' : Features}
    (notOnlyToml : ∀ e settings, Settings.ofJson text = .error e →
      Settings.ofToml text ≠ .ok settings)
    : readInline features text = readInline features' text := by
  unfold readInline
  cases json : Settings.ofJson text with
  | ok settings => rfl
  | error e =>
      cases toml : Settings.ofToml text with
      | ok settings => exact absurd toml (notOnlyToml e settings json)
      | error _ => simp

/-- Away from a TOML file that reads and from inline text that only TOML reads, loading answers
alike with or without the TOML reader, by cases on how the text is taken. -/
theorem load_run_eq_of_no_toml {features features' : Features}
    (noTomlFile : ∀ contents, formatOf? text = some .toml →
      ((readText text : StateM Workspace _).run w).1 ≠ .ok contents)
    (notOnlyToml : w.isFile text = false → formatOf? text = none →
      ∀ e settings, Settings.ofJson text = .error e → Settings.ofToml text ≠ .ok settings)
    : (load features text : StateM Workspace _).run w =
      (load features' text : StateM Workspace _).run w := by
  cases named : formatOf? text with
  | some format =>
      cases read : ((readText text : StateM Workspace _).run w).1 with
      | error e => rw [load_run_of_unreadable named read, load_run_of_unreadable named read]
      | ok contents =>
          rw [load_run_of_readable named read, load_run_of_readable named read]
          cases format with
          | json => rfl
          | toml => exact absurd read (noTomlFile contents named)
  | none =>
      cases isFile : w.isFile text with
      | true => rw [load_run_of_unsupported isFile named, load_run_of_unsupported isFile named]
      | false =>
          rw [load_run_of_inline isFile named, load_run_of_inline isFile named,
            readInline_eq_of_not_only_toml (notOnlyToml isFile named)]

/-- The build without the TOML reader and the full build load configs identically, and leave the
workspace as it is, except in two cases. At a TOML file that reads as UTF-8, the first refuses
it as TOML while the full build gives what the TOML reader makes of it. At inline text that JSON
refuses and TOML reads, the first gives the JSON error while the full build gives the settings.
So a TOML file that does not read is a read failure in both, and inline text that both readers
refuse gives the same JSON error in both.
-/
theorem load_agrees_across_builds (text : String) (w : Workspace) (batch batch' : Bool)
    : (∀ contents, formatOf? text = some .toml →
        ((readText text : StateM Workspace _).run w).1 = .ok contents →
        (load ⟨false, batch⟩ text : StateM Workspace _).run w =
            (.error (.tomlNotEnabled text), w) ∧
          (load ⟨true, batch'⟩ text : StateM Workspace _).run w =
            ((Settings.ofToml contents).mapError .tomlConfig, w)) ∧
      (∀ e settings, w.isFile text = false → formatOf? text = none →
        Settings.ofJson text = .error e → Settings.ofToml text = .ok settings →
        (load ⟨false, batch⟩ text : StateM Workspace _).run w = (.error (.jsonConfig e), w) ∧
          (load ⟨true, batch'⟩ text : StateM Workspace _).run w = (.ok settings, w)) ∧
      ((∀ contents, formatOf? text = some .toml →
          ((readText text : StateM Workspace _).run w).1 ≠ .ok contents) →
        (w.isFile text = false → formatOf? text = none →
          ∀ e settings, Settings.ofJson text = .error e → Settings.ofToml text ≠ .ok settings) →
        (load ⟨false, batch⟩ text : StateM Workspace _).run w =
          (load ⟨true, batch'⟩ text : StateM Workspace _).run w) ∧
      (∀ e, formatOf? text = some .toml →
        ((readText text : StateM Workspace _).run w).1 = .error e →
        (load ⟨false, batch⟩ text : StateM Workspace _).run w =
            (.error (.configRead text e), w) ∧
          (load ⟨true, batch'⟩ text : StateM Workspace _).run w =
            (.error (.configRead text e), w)) ∧
      (∀ e e', w.isFile text = false → formatOf? text = none →
        Settings.ofJson text = .error e → Settings.ofToml text = .error e' →
        (load ⟨false, batch⟩ text : StateM Workspace _).run w = (.error (.jsonConfig e), w) ∧
          (load ⟨true, batch'⟩ text : StateM Workspace _).run w =
            (.error (.jsonConfig e), w)) := by
  refine ⟨?tomlFile, ?onlyToml, load_run_eq_of_no_toml, ?unreadable, ?neither⟩
  case tomlFile =>
    intro contents named read
    exact ⟨load_run_of_readable named read, load_run_of_readable named read⟩
  case onlyToml =>
    intro e settings notFile noFormat json toml
    rw [load_run_of_inline notFile noFormat, load_run_of_inline notFile noFormat]
    simp [readInline, json, toml]
  case unreadable =>
    intro e named read
    exact ⟨load_run_of_unreadable named read, load_run_of_unreadable named read⟩
  case neither =>
    intro e e' notFile noFormat json toml
    rw [load_run_of_inline notFile noFormat, load_run_of_inline notFile noFormat]
    simp [readInline, json, toml]

/-- A workspace holding one TOML config. -/
def tomlConfigFile : Workspace :=
  { nodes := [(["strip.toml"], .file (encodeUtf8 "input = \"in.sol\"\n"))] }

theorem load_agrees_across_builds_of_toml_file :
    formatOf? "strip.toml" = some .toml ∧
      ((readText "strip.toml" : StateM Workspace _).run tomlConfigFile).1 =
        .ok "input = \"in.sol\"\n" ∧
      (load ⟨false, false⟩ "strip.toml" : StateM Workspace _).run tomlConfigFile =
        (.error (.tomlNotEnabled "strip.toml"), tomlConfigFile) ∧
      (load ⟨true, true⟩ "strip.toml" : StateM Workspace _).run tomlConfigFile =
        ((Settings.ofToml "input = \"in.sol\"\n").mapError .tomlConfig, tomlConfigFile) := by
  have named : formatOf? "strip.toml" = some .toml := by decide
  have read : ((readText "strip.toml" : StateM Workspace _).run tomlConfigFile).1 =
      .ok "input = \"in.sol\"\n" := by
    decide +kernel
  exact ⟨named, read,
    (load_agrees_across_builds "strip.toml" tomlConfigFile false true).1 _ named read⟩

end Decomment.Config
