import Decomment.Config.Toml
import Decomment.Json.Lexeme

/-! A JSON object is no TOML document. TOML skips blanks, line breaks and comments before a line,
and a line opens with a header or a key; a text whose first character after JSON white space is
an opening brace has neither, since a carriage return alone is no line break and JSON white space
holds no comment. So inline settings that are an object are never read as TOML.
-/

namespace Decomment.Toml

open Decomment.Json (isSpace skipSpace skipSpace_cons_of_isSpace)

/-- The first character of a stream that is not JSON white space is an opening brace. -/
def OpensBrace (s : Stream) : Prop :=
  ∃ rest, skipSpace (s.map Prod.snd) = '{' :: rest

section Opens

variable {offset : Nat} {c : Char} {s : Stream}

theorem OpensBrace.tail (opens : OpensBrace ((offset, c) :: s)) (space : isSpace c = true) :
    OpensBrace s := by
  obtain ⟨rest, spaced⟩ := opens
  rw [List.map_cons, skipSpace_cons_of_isSpace space] at spaced
  exact ⟨rest, spaced⟩

/-- The first character of a stream that opens with a brace is white space or the brace. -/
theorem OpensBrace.head (opens : OpensBrace ((offset, c) :: s)) : isSpace c = true ∨ c = '{' := by
  by_cases space : isSpace c = true
  · exact .inl space
  · obtain ⟨rest, spaced⟩ := opens
    rw [List.map_cons, skipSpace, List.dropWhile_cons_of_neg space] at spaced
    exact .inr (List.cons.inj spaced).1

theorem OpensBrace.ne_nil (opens : OpensBrace s) : s ≠ [] := by
  rintro rfl
  obtain ⟨rest, spaced⟩ := opens
  cases spaced

/-- The stream of a text that opens with a brace opens with the brace: a carriage return and
line feed read as one line feed is white space as they are. -/
theorem opensBrace_streamFrom {rest : List Char} (offset : Nat) (text : List Char)
    (spaced : skipSpace text = '{' :: rest) : OpensBrace (streamFrom offset text) := by
  fun_induction streamFrom offset text with
  | case1 offset tail ih =>
    rw [skipSpace_cons_of_isSpace (by decide), skipSpace_cons_of_isSpace (by decide)] at spaced
    obtain ⟨more, opens⟩ := ih spaced
    exact ⟨more, by rw [List.map_cons, skipSpace_cons_of_isSpace rfl, opens]⟩
  | case2 offset c tail _ ih =>
    by_cases space : isSpace c = true
    · rw [skipSpace_cons_of_isSpace space] at spaced
      obtain ⟨more, opens⟩ := ih spaced
      exact ⟨more, by rw [List.map_cons, skipSpace_cons_of_isSpace space, opens]⟩
    · rw [skipSpace, List.dropWhile_cons_of_neg space] at spaced
      obtain ⟨rfl, -⟩ := List.cons.inj spaced
      exact ⟨_, by rw [List.map_cons, skipSpace, List.dropWhile_cons_of_neg space]⟩
  | case3 => cases spaced

end Opens

namespace Cursor

variable {c c' : Cursor}

theorem opensBrace_eatWhitespace (opens : OpensBrace c.rest) : OpensBrace c.eatWhitespace.rest := by
  obtain ⟨rest, size⟩ := c
  show OpensBrace (rest.dropWhile fun e => isBlank e.2)
  induction rest with
  | nil => exact absurd rfl opens.ne_nil
  | cons e tail ih =>
    obtain ⟨offset, ch⟩ := e
    by_cases blank : isBlank ch = true
    · have skipped : ((offset, ch) :: tail).dropWhile (fun e => isBlank e.2) =
          tail.dropWhile (fun e => isBlank e.2) := List.dropWhile_cons_of_pos blank
      rw [skipped]
      have space : isSpace ch = true := by
        simp only [isBlank, Bool.or_eq_true, beq_iff_eq] at blank
        rcases blank with rfl | rfl <;> rfl
      exact ih (opens.tail space)
    · have kept : ((offset, ch) :: tail).dropWhile (fun e => isBlank e.2) = (offset, ch) :: tail :=
        List.dropWhile_cons_of_neg blank
      rw [kept]
      exact opens

/-- The next token where a stream opens with a brace: white space, a line break, the brace, or an
error at a lone carriage return. -/
theorem next_of_opensBrace (opens : OpensBrace c.rest) :
    (∃ e, c.next = .error e) ∨
      (∃ start r, c.next = .ok (some (⟨start, .whitespace⟩, r))) ∨
      (∃ start, c.next = .ok (some (⟨start, .newline⟩, c.skip)) ∧
        OpensBrace c.skip.rest) ∨
      (∃ start, c.next = .ok (some (⟨start, .leftBrace⟩, c.skip))) := by
  obtain ⟨rest, size⟩ := c
  cases rest with
  | nil => exact absurd rfl opens.ne_nil
  | cons e tail =>
    obtain ⟨offset, ch⟩ := e
    rcases opens.head with space | rfl
    · simp only [isSpace, Bool.or_eq_true, beq_iff_eq] at space
      rcases space with ((rfl | rfl) | rfl) | rfl
      · exact .inr (.inl ⟨offset, _, rfl⟩)
      · exact .inr (.inr (.inl ⟨offset, rfl, opens.tail rfl⟩))
      · exact .inr (.inl ⟨offset, _, rfl⟩)
      · exact .inl ⟨_, rfl⟩
    · exact .inr (.inr (.inr ⟨offset, rfl⟩))

theorem eatComment_of_opensBrace (opens : OpensBrace c.rest) : c.eatComment = .ok (false, c) := by
  obtain ⟨rest, size⟩ := c
  cases rest with
  | nil => exact absurd rfl opens.ne_nil
  | cons e tail =>
    obtain ⟨offset, ch⟩ := e
    have notHash : ch ≠ '#' := by
      rintro rfl
      rcases opens.head with space | brace
      · exact absurd space (by decide)
      · exact absurd brace (by decide)
    simp [eatComment, eatChar?, peekChar?, notHash]

/-- Reading a line break where a stream opens with a brace reads it and leaves a stream that
still does, or reads nothing. -/
theorem eat_newline_of_opensBrace {found : Bool} (opens : OpensBrace c.rest)
    (ate : c.eat .newline = .ok (found, c')) :
    (found = true ∧ OpensBrace c'.rest) ∨ (found = false ∧ c' = c) := by
  rcases next_of_opensBrace opens with ⟨e, failed⟩ | ⟨start, r, token⟩ |
      ⟨start, token, kept⟩ | ⟨start, token⟩
  · rw [eat, failed] at ate
    cases ate
  · rw [eat, token] at ate
    cases ate
    exact .inr ⟨rfl, rfl⟩
  · rw [eat, token] at ate
    cases ate
    exact .inl ⟨rfl, kept⟩
  · rw [eat, token] at ate
    cases ate
    exact .inr ⟨rfl, rfl⟩

/-- A key cannot start where a stream opens with a brace. -/
theorem tableKey_of_opensBrace (opens : OpensBrace c.rest) : ∃ e, c.tableKey = .error e := by
  rcases next_of_opensBrace opens with ⟨e, failed⟩ | ⟨start, r, token⟩ |
      ⟨start, token, -⟩ | ⟨start, token⟩
  all_goals
    rw [tableKey]
    first | rw [failed] | rw [token]
    exact ⟨_, rfl⟩

end Cursor

/-- Empty lines skipped where a stream opens with a brace leave a stream that still does. By
induction on the fuel, one line break at a time. -/
theorem skipEmptyLines_of_opensBrace {c c' : Cursor} (fuel : Nat) (opens : OpensBrace c.rest)
    (skipped : skipEmptyLines fuel c = .ok c') : OpensBrace c'.rest := by
  induction fuel generalizing c with
  | zero =>
    cases skipped
    exact opens
  | succ fuel ih =>
    have blanks := Cursor.opensBrace_eatWhitespace opens
    -- no comment can start here, so only line breaks are skipped
    have step : skipEmptyLines (fuel + 1) c = (c.eatWhitespace.eat .newline).bind fun ate =>
        if ate.1 then skipEmptyLines fuel ate.2 else pure ate.2 := by
      rw [skipEmptyLines, Cursor.eatComment_of_opensBrace blanks]
      rfl
    rw [step] at skipped
    cases ate : c.eatWhitespace.eat .newline with
    | error e =>
      rw [ate] at skipped
      cases skipped
    | ok result =>
      obtain ⟨found, after⟩ := result
      rw [ate] at skipped
      rcases Cursor.eat_newline_of_opensBrace blanks ate with ⟨rfl, kept⟩ | ⟨rfl, rfl⟩
      · exact ih kept skipped
      · cases skipped
        exact blanks

section Lines

variable {c : Cursor}

theorem dottedKey_of_opensBrace (opens : OpensBrace c.rest) : ∃ e, dottedKey c = .error e := by
  obtain ⟨e, failed⟩ := Cursor.tableKey_of_opensBrace opens
  rw [dottedKey, failed]
  exact ⟨e, rfl⟩

/-- No line of a document can be read where the stream opens with a brace: after the empty
lines comes neither a header nor a key. -/
theorem readLine_of_opensBrace (opens : OpensBrace c.rest) : ∃ e, readLine c = .error e := by
  unfold readLine
  cases skipped : skipEmptyLines (c.rest.length + 1) c with
  | error e => exact ⟨e, rfl⟩
  | ok c' =>
    have kept := skipEmptyLines_of_opensBrace _ opens skipped
    obtain ⟨e, noKey⟩ := dottedKey_of_opensBrace kept
    rcases Cursor.next_of_opensBrace kept with ⟨e', failed⟩ | ⟨start, r, token⟩ |
        ⟨start, token, -⟩ | ⟨start, token⟩
    · exact ⟨e', by simp [failed, bind, Except.bind]⟩
    all_goals
      exact ⟨e, by simp [token, noKey, bind, Except.bind]⟩

theorem readTables_of_opensBrace {fuel : Nat} {done : List Table} {current : Table}
    (opens : OpensBrace c.rest) : ∃ e, readTables (fuel + 1) done current c = .error e := by
  obtain ⟨e, failed⟩ := readLine_of_opensBrace opens
  rw [readTables, failed]
  exact ⟨e, rfl⟩

end Lines

/-- TOML reads no text whose first character after JSON white space is an opening brace: such a
text is neither empty lines nor a header or a key. -/
theorem read_of_opensBrace {text : String} {rest : List Char}
    (spaced : skipSpace text.toList = '{' :: rest) : ∃ e, Table.read text = .error e := by
  have opens : OpensBrace (Cursor.ofString text).rest := by
    show OpensBrace (Stream.ofString text)
    have stream := opensBrace_streamFrom 0 _ spaced
    unfold Stream.ofString
    split
    next offset tail mark =>
      -- a byte order mark is neither white space nor a brace
      rw [mark] at stream
      rcases stream.head with space | brace
      · exact absurd space (by decide)
      · exact absurd brace (by decide)
    next => exact stream
  exact readTables_of_opensBrace opens

end Decomment.Toml

namespace Decomment

theorem Settings.ofToml_of_opensBrace {text : String} {rest : List Char}
    (spaced : Json.skipSpace text.toList = '{' :: rest) :
    ∃ e, Settings.ofToml text = .error e := by
  obtain ⟨f, failed⟩ := Toml.read_of_opensBrace spaced
  unfold Settings.ofToml Config.readToml
  rw [failed]
  exact ⟨_, rfl⟩

end Decomment
