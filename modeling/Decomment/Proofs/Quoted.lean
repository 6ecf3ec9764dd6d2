import Decomment.Json.Quote
import Decomment.Json.Lexeme

/-! JSON string literals read back. Each character the writer escapes gets an escape that the
reader decodes to it: a short escape, or a `\u` escape whose four hex digits give its code point;
each character written as it is, the reader keeps. So reading a written literal gives back the
whole text and stops right after its closing quote.
-/

namespace Decomment.Json

-----------------------------------------------------------------------------------------
-- Escapes
-----------------------------------------------------------------------------------------

/-- A hex digit reads back as its value. -/
theorem hexValue?_hexDigit {n : Nat} (small : n < 16) : hexValue? (hexDigit n) = some n := by
  revert n
  decide

/-- A control character written as a `\u` escape with two zero digits reads back: its code point
is below every surrogate. -/
theorem unicodeEscape_control {c : Char} (control : c.toNat < 0x20) (rest : List Char)
    : unicodeEscape ('0' :: '0' :: hexDigit (c.toNat / 16) :: hexDigit (c.toNat % 16) :: rest) =
      .ok (c, rest) := by
  have zero : hexValue? '0' = some 0 := by decide
  have high := hexValue?_hexDigit (n := c.toNat / 16) (by omega)
  have low := hexValue?_hexDigit (n := c.toNat % 16) (by omega)
  have digits : c.toNat / 16 * 16 + c.toNat % 16 = c.toNat := Nat.div_add_mod' _ _
  have notTrailing : isTrailing c.toNat = false := by
    simp only [isTrailing, Bool.and_eq_false_iff, decide_eq_false_iff_not]
    omega
  have notLeading : isLeading c.toNat = false := by
    simp only [isLeading, Bool.and_eq_false_iff, decide_eq_false_iff_not]
    omega
  simp [unicodeEscape, hex4, zero, high, low, digits, notTrailing, notLeading]

theorem escape_of_shortEscape? {c d : Char} (short : shortEscape? c = some d) (rest : List Char)
    : escape (c :: rest) = .ok (d, rest) := by
  unfold escape
  split
  · rename_i same
    cases same
  · rename_i same
    obtain ⟨rfl, rfl⟩ := List.cons.inj same
    cases short
  · rename_i same
    obtain ⟨rfl, rfl⟩ := List.cons.inj same
    simp [short]

-----------------------------------------------------------------------------------------
-- Reading a literal
-----------------------------------------------------------------------------------------

variable {acc rest : List Char}

theorem stringChars_escape {after : List Char} {c : Char} (decoded : escape rest = .ok (c, after))
    : stringChars acc ('\\' :: rest) = stringChars (c :: acc) after := by
  rw [stringChars.eq_3]
  split
  · rename_i found
    rw [decoded] at found
    cases found
    rfl
  · rename_i found
    rw [decoded] at found
    cases found

theorem stringChars_plain {c : Char} (notQuote : c ≠ '"') (notBackslash : c ≠ '\\')
    (printable : ¬ c.toNat < 0x20)
    : stringChars acc (c :: rest) = stringChars (c :: acc) rest := by
  rw [stringChars.eq_4 _ _ _ notQuote notBackslash, if_neg printable]

/-- A short escape reads back as the character it stands for. -/
theorem stringChars_short {c d : Char} (short : shortEscape? d = some c)
    : stringChars acc (['\\', d] ++ rest) = stringChars (c :: acc) rest :=
  stringChars_escape (escape_of_shortEscape? short rest)

/-- Reading a written character decodes it, by cases on how the writer writes it: the quote, the
backslash and the five controls with a short escape, the other controls with a `\u` escape, and
the rest as they are. -/
theorem stringChars_escapeChar (acc : List Char) (c : Char) (rest : List Char)
    : stringChars acc (escapeChar c ++ rest) = stringChars (c :: acc) rest := by
  by_cases quote : c = '"'
  · subst quote
    exact stringChars_short rfl
  by_cases backslash : c = '\\'
  · subst backslash
    exact stringChars_short rfl
  by_cases backspace : c = '\x08'
  · subst backspace
    exact stringChars_short rfl
  by_cases formFeed : c = '\x0c'
  · subst formFeed
    exact stringChars_short rfl
  by_cases lineFeed : c = '\n'
  · subst lineFeed
    exact stringChars_short rfl
  by_cases carriageReturn : c = '\r'
  · subst carriageReturn
    exact stringChars_short rfl
  by_cases tab : c = '\t'
  · subst tab
    exact stringChars_short rfl
  have written : escapeChar c = if c.toNat < 0x20 then
      ['\\', 'u', '0', '0', hexDigit (c.toNat / 16), hexDigit (c.toNat % 16)] else [c] := by
    unfold escapeChar
    split <;> simp_all
  rw [written]
  split
  · rename_i control
    exact stringChars_escape (unicodeEscape_control control rest)
  · rename_i printable
    exact stringChars_plain quote backslash printable

/-- A written literal after its opening quote reads back as its text, with what follows its
closing quote left over, by induction on the text. -/
theorem stringChars_flatMap_escapeChar (text : List Char)
    : stringChars acc (text.flatMap escapeChar ++ '"' :: rest) =
      .ok (String.ofList (acc.reverse ++ text), rest) := by
  induction text generalizing acc with
  | nil =>
      rw [List.flatMap_nil, List.nil_append, stringChars.eq_2, List.append_nil]
  | cons c text ih =>
      rw [List.flatMap_cons, List.append_assoc, stringChars_escapeChar, ih]
      simp

/-- A written string reads back after its opening quote. -/
theorem readString_quote (s : String) (rest : List Char)
    : readString ((quote s).toList.tail ++ rest) = .ok (s, rest) := by
  have literal : (quote s).toList.tail ++ rest = s.toList.flatMap escapeChar ++ '"' :: rest := by
    simp [quote, quoteChars]
  rw [literal, readString, stringChars_flatMap_escapeChar]
  simp

end Decomment.Json
