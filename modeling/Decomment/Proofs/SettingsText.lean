import Decomment.Proofs.Quoted
import Decomment.Proofs.ConfigLoad
import Decomment.Proofs.Paths

/-! Shown settings read back. The text of some settings is the compact JSON object of its three
fields; the JSON reader reads each member of it back, whatever characters the paths hold, so the
text reads as the same settings. The text ends in `}`, so no extension of it is `json` or
`toml`: as a config it is taken inline unless a file of that name is there, and then it loads as
the same settings.
-/

namespace Decomment.Config

open Decomment.Json Decomment.Files

-----------------------------------------------------------------------------------------
-- Reading the members of an object
-----------------------------------------------------------------------------------------

/-- One step of reading the members of an object, with the equations that only the termination
proof needs left out. -/
theorem readMembers_eq (first : Bool) (fields : Fields) (input : List Char)
    : readMembers first fields input =
      match nextKey first input with
      | .error e => .error e
      | .ok none => .ok (fields, input)
      | .ok (some (name, afterKey)) =>
        if fields.isSet name then .error ⟨.duplicateField name, duplicateAt afterKey, 0⟩
        else
          match objectColon afterKey with
          | .error e => .error e
          | .ok afterColon =>
            if name == "input" then
              match readPath afterColon with
              | .ok (v, rest) => readMembers false { fields with input := some v } rest
              | .error e => .error e
            else if name == "output" then
              match readPath afterColon with
              | .ok (v, rest) => readMembers false { fields with output := some v } rest
              | .error e => .error e
            else if name == "keep_pragma_only" then
              match readBool afterColon with
              | .ok (v, rest) => readMembers false { fields with keepPragmaOnly := some v } rest
              | .error e => .error e
            else
              match skipValue afterColon with
              | .ok rest => readMembers false fields rest
              | .error e => .error e := by
  rw [readMembers]
  -- each dependent match of the definition is split and read back as a plain one
  split <;> rename_i key <;> simp only [key]
  split
  · rfl
  split <;> rename_i colon <;> simp only [colon]
  split
  · split <;> rename_i value <;> simp only [value]
  split
  · split <;> rename_i value <;> simp only [value]
  split
  · split <;> rename_i value <;> simp only [value]
  · split <;> rename_i value <;> simp only [value]

/-- The first member name of an object, written as a JSON string, reads back. -/
theorem nextKey_first (name : String) (rest : List Char)
    : nextKey true (quoteChars name.toList ++ rest) = .ok (some (name, rest)) := by
  simp [nextKey, skipSpace, quoteChars, isSpace, memberName, readString,
    stringChars_flatMap_escapeChar, Except.map]

/-- A later member name, after its comma, reads back. -/
theorem nextKey_later (name : String) (rest : List Char)
    : nextKey false (',' :: (quoteChars name.toList ++ rest)) = .ok (some (name, rest)) := by
  simp [nextKey, skipSpace, quoteChars, isSpace, memberName, readString,
    stringChars_flatMap_escapeChar, Except.map]

theorem nextKey_close : nextKey false ['}'] = .ok none := rfl

theorem objectColon_colon (rest : List Char) : objectColon (':' :: rest) = .ok rest := by
  simp [objectColon, skipSpace, isSpace]

/-- A path written as a JSON string reads back. -/
theorem readPath_quoteChars (s : String) (rest : List Char)
    : readPath (quoteChars s.toList ++ rest) = .ok (s, rest) := by
  simp [readPath, skipSpace, quoteChars, isSpace, readString, stringChars_flatMap_escapeChar]

/-- A written switch reads back. -/
theorem readBool_renderBool (b : Bool) (rest : List Char)
    : readBool ((Settings.renderBool b).toList ++ rest) = .ok (b, rest) := by
  cases b <;> simp [readBool, Settings.renderBool, skipSpace, isSpace, matchWord, Except.map]

-----------------------------------------------------------------------------------------
-- The text of settings
-----------------------------------------------------------------------------------------

/-- The text of settings, character by character: the three members, each name and path
written as a JSON string. -/
theorem toList_render (s : Settings)
    : s.render.toList =
      '{' :: (quoteChars "input".toList ++ ':' :: (quoteChars s.input.toList ++ ',' ::
        (quoteChars "output".toList ++ ':' :: (quoteChars s.output.toList ++ ',' ::
          (quoteChars "keep_pragma_only".toList ++ ':' ::
            ((Settings.renderBool s.keepPragmaOnly).toList ++ ['}'])))))) := by
  have input : quoteChars "input".toList = "\"input\"".toList := by decide
  have output : quoteChars "output".toList = "\"output\"".toList := by decide
  have keep : quoteChars "keep_pragma_only".toList = "\"keep_pragma_only\"".toList := by decide
  rw [input, output, keep]
  -- unfolding by `delta` avoids building the equation lemma of `render`, which is slow
  delta Settings.render
  simp [quote]

/-- The members of the text of settings read back as its three fields, member by member, up
to the closing brace. -/
theorem readMembers_render (s : Settings)
    : readMembers true {} (s.render.toList.tail) =
      .ok (⟨some s.input, some s.output, some s.keepPragmaOnly⟩, ['}']) := by
  rw [toList_render, List.tail_cons]
  rw [readMembers_eq, nextKey_first]
  simp +decide only [objectColon_colon, readPath_quoteChars, if_false, if_true]
  rw [readMembers_eq, nextKey_later]
  simp +decide only [objectColon_colon, readPath_quoteChars, if_false, if_true]
  rw [readMembers_eq, nextKey_later]
  simp +decide only [Fields.isSet, objectColon_colon, readBool_renderBool, if_false, if_true]
  rw [readMembers_eq, nextKey_close]

/-- The text of settings reads as the same settings, by reading its members. -/
theorem readJson_render (s : Settings) : readJson s.render.toList = .ok s := by
  have opened : skipSpace s.render.toList = '{' :: s.render.toList.tail := by
    simp [toList_render, skipSpace, isSpace]
  have closed : endObject ['}'] = .ok [] := rfl
  unfold readJson
  rw [opened]
  simp only [readMembers_render, bind, Except.bind, closed, endOfText]
  rfl

/-- The text of settings reads as the same settings. -/
theorem ofJson_render (s : Settings) : Settings.ofJson s.render = .ok s := by
  rw [Settings.ofJson, readJson_render]
  rfl

/-- The text of settings ends in its closing brace. -/
theorem getLast?_render (s : Settings) : s.render.toList.getLast? = some '}' := by
  have brace : "\x7d".toList = ['}'] := rfl
  delta Settings.render
  rw [String.toList_append, brace, List.getLast?_concat]

/-- The text of settings has no config extension: it ends in `}`. -/
theorem formatOf?_render (s : Settings) : formatOf? s.render = none := by
  unfold formatOf?
  cases found : Path.extension? s.render with
  | none => rfl
  | some ext =>
      have extLast := getLast?_extension? (getLast?_render s) (by decide) (by decide) found
      split
      · rename_i json
        cases json
        simp at extLast
      · rename_i toml
        cases toml
        simp at extLast
      · rfl

/-- The text of settings decodes back to the same settings. Read as inline config it gives
them, in either build; it ends in `}`, so its last component has neither config extension; and
so, as a config, it loads as them and changes nothing wherever no file has that name. -/
theorem render_reads_back (features : Features) (s : Settings)
    : readInline features s.render = .ok s ∧ s.render.toList.getLast? = some '}' ∧
      formatOf? s.render = none ∧
      ∀ w : Workspace, w.isFile s.render = false →
        (load features s.render : StateM Workspace _).run w = (.ok s, w) := by
  have inline : readInline features s.render = .ok s := by
    simp [readInline, ofJson_render]
  refine ⟨inline, getLast?_render s, formatOf?_render s, ?_⟩
  intro w notFile
  rw [load_run_of_inline notFile (formatOf?_render s), inline]

/-- Settings whose paths hold a quote, a backslash, a tab, a control character, DEL, a line
separator and a letter outside ASCII. -/
def oddPaths : Settings :=
  { input := "a\"b\\c\td", output := "\x01\x7f\u2028é", keepPragmaOnly := false }

theorem render_reads_back_of_odd_paths :
    ({} : Workspace).isFile oddPaths.render = false ∧
      readInline ⟨false, false⟩ oddPaths.render = .ok oddPaths ∧
      oddPaths.render.toList.getLast? = some '}' ∧
      formatOf? oddPaths.render = none ∧
      ∀ w : Workspace, w.isFile oddPaths.render = false →
        (load ⟨false, false⟩ oddPaths.render : StateM Workspace _).run w = (.ok oddPaths, w) := by
  have absent : ({} : Workspace).isFile oddPaths.render = false := by decide +kernel
  exact ⟨absent, render_reads_back ⟨false, false⟩ oddPaths⟩

end Decomment.Config
