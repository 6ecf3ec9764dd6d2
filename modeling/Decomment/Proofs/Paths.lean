import Decomment.Files.Workspace
import Decomment.Files.Path
import Decomment.Proofs.Lists
import Mathlib.Data.List.TakeDrop

/-! Paths built by joining a name to a directory. A plain name is the last component of the
joined path and its file name. The directory part of a path is a prefix of its text, and for a
path that ends in a plain name it has, apart from `.` pieces, the components of the text before
the name; so a sibling of the path walks through the same directories.
-/

namespace Decomment.Files

open Decomment.Files.Path

-----------------------------------------------------------------------------------------
-- Plain names
-----------------------------------------------------------------------------------------

/-- A name a directory can hold: not empty, without a separator, and neither `.` nor `..`. -/
def IsPlainName (name : List Char) : Prop :=
  name ≠ [] ∧ '/' ∉ name ∧ name ≠ ['.'] ∧ name ≠ ['.', '.']

instance : DecidablePred IsPlainName := fun name =>
  inferInstanceAs (Decidable (name ≠ [] ∧ '/' ∉ name ∧ name ≠ ['.'] ∧ name ≠ ['.', '.']))

/-- A text a name can follow directly: empty or ending in a separator. -/
def EndsOpen (front : List Char) : Prop :=
  front = [] ∨ front.getLast? = some '/'

theorem EndsOpen.drop {front : List Char} (ends : EndsOpen front) (k : Nat)
    : EndsOpen (front.drop k) := by
  rcases ends with rfl | last
  · simp [EndsOpen]
  · obtain ⟨body, rfl⟩ := List.getLast?_eq_some_iff.mp last
    rw [List.drop_append]
    by_cases short : k ≤ body.length
    · right
      rw [Nat.sub_eq_zero_of_le short]
      simp
    · left
      rw [List.drop_eq_nil_of_le (by omega), List.drop_eq_nil_of_le (by simp; omega)]
      rfl

theorem IsPlainName.head?_ne_slash {name : List Char} (plain : IsPlainName name)
    : name.head? ≠ some '/' :=
  fun first => plain.2.1 (List.mem_of_head? first)

theorem IsPlainName.getLast?_ne_slash {name : List Char} (plain : IsPlainName name)
    : name.getLast? ≠ some '/' :=
  fun last => plain.2.1 (List.mem_of_getLast? last)

-----------------------------------------------------------------------------------------
-- Components
-----------------------------------------------------------------------------------------

/-- The pieces that count as components: neither empty nor `.`. -/
def countsAsComponent (piece : List Char) : Bool :=
  piece != ['.'] && !piece.isEmpty

@[simp] theorem pieces_nil : pieces [] = [] := by
  simp [pieces]

theorem pieces_plain {name : List Char} (plain : IsPlainName name) : pieces name = [name] := by
  simp [pieces, List.splitOn_eq_singleton plain.2.1, plain.1]

theorem pieces_append_slash (front rest : List Char)
    : pieces (front ++ '/' :: rest) = pieces front ++ pieces rest := by
  simp [pieces, List.splitOn_append_cons_self]

/-- A plain name after a text a name can follow is one more component. -/
theorem pieces_append_plain {front name : List Char} (ends : EndsOpen front)
    (plain : IsPlainName name) : pieces (front ++ name) = pieces front ++ [name] := by
  rcases ends with rfl | last
  · simp [pieces_plain plain]
  · obtain ⟨body, rfl⟩ := List.getLast?_eq_some_iff.mp last
    rw [List.append_assoc, List.singleton_append, pieces_append_slash, pieces_append_slash,
      pieces_plain plain, pieces_nil, List.append_nil]

/-- Leaving out `.` from the components leaves the pieces that count. -/
theorem filter_pieces_eq (p : List Char)
    : (pieces p).filter (· != ['.']) = (p.splitOn '/').filter countsAsComponent := by
  rw [pieces, List.filter_filter]
  rfl

-----------------------------------------------------------------------------------------
-- Segments and file names
-----------------------------------------------------------------------------------------

/-- The head of a path, by cases: a root, a leading `.` alone or before a separator, or none. -/
theorem headLength_cases (p : List Char)
    : (∃ rest, p = '/' :: rest) ∨ p = ['.'] ∨ (∃ rest, p = '.' :: '/' :: rest) ∨
      (headLength p = 0 ∧ p.head? ≠ some '/') := by
  unfold headLength
  split
  · exact Or.inl ⟨_, rfl⟩
  · exact Or.inr (Or.inl rfl)
  · exact Or.inr (Or.inr (Or.inl ⟨_, rfl⟩))
  · rename_i notRoot _ _
    refine Or.inr (Or.inr (Or.inr ⟨rfl, ?_⟩))
    cases p with
    | nil => simp
    | cons c rest =>
        rintro first
        simp only [List.head?_cons, Option.some.injEq] at first
        exact notRoot rest (by rw [first])

theorem headLength_le_one (p : List Char) : headLength p ≤ 1 := by
  unfold headLength
  split <;> simp

theorem headLength_plain {name : List Char} (plain : IsPlainName name) : headLength name = 0 := by
  obtain ⟨-, noSlash, notDot, -⟩ := plain
  unfold headLength
  split <;> simp_all

/-- No piece is trimmed from the end when the last one is a plain name. -/
theorem trimSegments_append_plain {name : List Char} (plain : IsPlainName name)
    (before : List (List Char)) : trimSegments (before ++ [name]) = before ++ [name] := by
  have kept : (name.isEmpty || name == ['.']) = false := by
    simp [plain.1, plain.2.2.1]
  simp [trimSegments, kept]

theorem prefix_trimSegments (segs : List (List Char)) : trimSegments segs <+: segs := by
  rw [trimSegments, ← List.reverse_reverse segs, List.reverse_prefix, List.reverse_reverse]
  exact List.dropWhile_suffix _

/-- Trimming drops only pieces that do not count. -/
theorem filter_trimSegments (segs : List (List Char))
    : (trimSegments segs).filter countsAsComponent = segs.filter countsAsComponent := by
  have removed : ∀ s : List Char, (s.isEmpty || s == ['.']) = true →
      countsAsComponent s = false := by
    intro s trimmed
    rcases Bool.or_eq_true_iff.mp trimmed with empty | dot
    · simp [countsAsComponent, empty]
    · simp [countsAsComponent, beq_iff_eq.mp dot]
  rw [trimSegments, List.filter_reverse, filter_dropWhile removed, List.filter_reverse,
    List.reverse_reverse]

/-- A text a name can follow, then a plain name, splits into pieces that the name ends. -/
theorem splitOn_append_plain {front name : List Char} (ends : EndsOpen front)
    (plain : IsPlainName name) : ∃ before, (front ++ name).splitOn '/' = before ++ [name] := by
  rcases ends with rfl | last
  · exact ⟨[], by simp [List.splitOn_eq_singleton plain.2.1]⟩
  · obtain ⟨body, rfl⟩ := List.getLast?_eq_some_iff.mp last
    refine ⟨body.splitOn '/', ?_⟩
    rw [List.append_assoc, List.singleton_append, List.splitOn_append_cons_self,
      List.splitOn_eq_singleton plain.2.1]

/-- The segments of a path that ends in a plain name end in that name. -/
theorem segments_append_plain {front name : List Char} (ends : EndsOpen front)
    (plain : IsPlainName name) : ∃ before, (segments (front ++ name)).2 = before ++ [name] := by
  have afterHead : ∃ body, (front ++ name).drop (headLength (front ++ name)) = body ++ name ∧
      EndsOpen body := by
    by_cases empty : front = []
    · subst empty
      exact ⟨[], by simp [headLength_plain plain], Or.inl rfl⟩
    · have short : headLength (front ++ name) ≤ front.length := by
        have atMostOne := headLength_le_one (front ++ name)
        have positive : 0 < front.length := List.length_pos_iff.mpr empty
        omega
      exact ⟨front.drop _, List.drop_append_of_le_length short, ends.drop _⟩
  obtain ⟨body, cut, bodyEnds⟩ := afterHead
  obtain ⟨before, split⟩ := splitOn_append_plain bodyEnds plain
  exact ⟨before, by rw [segments, cut, split, trimSegments_append_plain plain]⟩

/-- Leaving out `.`, the components of a path are its segments that count. -/
theorem filter_pieces (p : List Char)
    : (pieces p).filter (· != ['.']) = (segments p).2.filter countsAsComponent := by
  rw [filter_pieces_eq, segments, filter_trimSegments]
  rcases headLength_cases p with ⟨rest, rfl⟩ | rfl | ⟨rest, rfl⟩ | ⟨zero, -⟩
  · simp [headLength, List.splitOn_cons_eq_if_modifyHead, countsAsComponent]
  · decide
  · simp [headLength, List.splitOn_cons_eq_if_modifyHead, countsAsComponent]
  · rw [zero, List.drop_zero]

/-- Every path text is a text a name can follow, then its last segment, which holds no
separator. -/
theorem exists_endsOpen_append (p : List Char)
    : ∃ front name, p = front ++ name ∧ EndsOpen front ∧ '/' ∉ name := by
  refine ⟨(p.reverse.dropWhile (· != '/')).reverse, (p.reverse.takeWhile (· != '/')).reverse,
    ?_, ?_, ?_⟩
  · rw [← List.reverse_append, List.takeWhile_append_dropWhile, List.reverse_reverse]
  · -- the segment stops at the last separator, which then ends the front
    cases dropped : p.reverse.dropWhile (· != '/') with
    | nil => exact Or.inl rfl
    | cons c rest =>
        have stops := @List.head_dropWhile_not _ (· != '/') p.reverse (by simp [dropped])
        simp only [dropped, List.head_cons, bne_eq_false_iff_eq] at stops
        right
        simp [stops]
  · intro member
    have taken := List.all_eq_true.mp List.all_takeWhile _ (List.mem_reverse.mp member)
    simp at taken

/-- A path that ends in a plain name has that name as its file name. -/
theorem fileName?_of_plain {p : String} {front name : List Char} (split : p.toList = front ++ name)
    (ends : EndsOpen front) (plain : IsPlainName name)
    : fileName? p = some (String.ofList name) := by
  obtain ⟨before, segs⟩ := segments_append_plain ends plain
  have notUp : (name == ['.', '.']) = false := by simpa using plain.2.2.2
  simp [fileName?, split, segs, notUp]

-----------------------------------------------------------------------------------------
-- Joining
-----------------------------------------------------------------------------------------

/-- What `join` puts before a name that does not start at the root: the base, then a separator
unless the base is empty or ends in one. -/
def joinFront (base : List Char) : List Char :=
  if base = [] ∨ base.getLast? = some '/' then base else base ++ ['/']

theorem joinFront_endsOpen (base : List Char) : EndsOpen (joinFront base) := by
  unfold joinFront
  split
  · assumption
  · exact Or.inr (by simp)

theorem head?_joinFront (base : List Char) : (joinFront base).head? = base.head? := by
  unfold joinFront
  split
  · rfl
  · cases base <;> simp_all

theorem pieces_joinFront (base : List Char) : pieces (joinFront base) = pieces base := by
  unfold joinFront
  split
  · rfl
  · rw [pieces_append_slash, pieces_nil, List.append_nil]

theorem startsWith_slash (s : String) : s.startsWith "/" = decide (s.toList.head? = some '/') := by
  rw [Bool.eq_iff_iff, String.startsWith_string_iff, decide_eq_true_iff]
  cases s.toList <;> simp [eq_comm]

theorem endsWith_eq_true_iff (s t : String) : s.endsWith t = true ↔ t.toList <:+ s.toList := by
  rw [← String.endsWith_toSlice, String.Slice.endsWith_string_iff, String.copy_toSlice]

theorem endsWith_slash (s : String) : s.endsWith "/" = decide (s.toList.getLast? = some '/') := by
  rw [Bool.eq_iff_iff, endsWith_eq_true_iff, decide_eq_true_iff, List.getLast?_eq_some_iff]
  have slash : "/".toList = ['/'] := by simp
  rw [slash]
  exact exists_congr fun _ => eq_comm

theorem join_toList (base name : String) (relative : name.toList.head? ≠ some '/')
    : (join base name).toList = joinFront base.toList ++ name.toList := by
  have notRoot : name.startsWith "/" = false := by simpa [startsWith_slash] using relative
  have opened : (base.isEmpty || base.endsWith "/") = true ↔
      (base.toList = [] ∨ base.toList.getLast? = some '/') := by
    simp [endsWith_slash, String.isEmpty_iff]
  unfold join joinFront
  rw [notRoot, if_neg Bool.false_ne_true]
  by_cases ends : base.toList = [] ∨ base.toList.getLast? = some '/'
  · rw [if_pos (opened.mpr ends), if_pos ends, String.toList_append]
  · rw [if_neg (mt opened.mp ends), if_neg ends]
    simp

/-- A plain name joined to a base starts at the root exactly when the base does. -/
theorem head?_join_eq_slash (base name : String) (plain : IsPlainName name.toList)
    : (join base name).toList.head? = some '/' ↔ base.toList.head? = some '/' := by
  rw [join_toList base name plain.head?_ne_slash, List.head?_append, head?_joinFront]
  cases base.toList.head? with
  | none => simpa using plain.head?_ne_slash
  | some c => simp

/-- The route of a plain name joined to a base: the components of the base and the name. -/
theorem route_join (base name : String) (plain : IsPlainName name.toList)
    : Route.ofText (join base name) =
      { absolute := decide (base.toList.head? = some '/')
        parts := (pieces base.toList).map String.ofList ++ [name]
        slash := false } := by
  have joined := join_toList base name plain.head?_ne_slash
  have last : (joinFront base.toList ++ name.toList).getLast? = name.toList.getLast? :=
    List.getLast?_append_of_ne_nil _ plain.1
  have absolute := head?_join_eq_slash base name plain
  rw [joined] at absolute
  simp only [Route.ofText, startsWith_slash, endsWith_slash, joined, absolute, last,
    pieces_append_plain (joinFront_endsOpen _) plain, pieces_joinFront, List.map_append,
    List.map_singleton, String.ofList_toList, plain.getLast?_ne_slash, decide_false]

/-- A plain name joined to a base is the file name of the result. -/
theorem fileName?_join (base name : String) (plain : IsPlainName name.toList)
    : fileName? (join base name) = some name := by
  rw [fileName?_of_plain (join_toList base name plain.head?_ne_slash) (joinFront_endsOpen _) plain,
    String.ofList_toList]

-----------------------------------------------------------------------------------------
-- The directory part
-----------------------------------------------------------------------------------------

theorem toList_parentText (p : String)
    : (parentText p).toList =
      (segments p.toList).1 ++ ['/'].intercalate (trimSegments (segments p.toList).2.dropLast) := by
  simp [parentText]

/-- The pieces `parentText` joins are a prefix of the pieces after the head. -/
theorem prefix_parentPieces (p : List Char)
    : trimSegments (segments p).2.dropLast <+: (p.drop (headLength p)).splitOn '/' :=
  (prefix_trimSegments _).trans ((List.dropLast_prefix _).trans (prefix_trimSegments _))

/-- The directory part of a path is a prefix of its text. -/
theorem prefix_parentText (p : String) : (parentText p).toList <+: p.toList := by
  rw [toList_parentText]
  obtain ⟨rest, whole⟩ := prefix_parentPieces p.toList
  have joined := prefix_intercalate ['/'] (trimSegments (segments p.toList).2.dropLast) rest
  rw [whole, List.intercalate_splitOn] at joined
  calc (segments p.toList).1 ++ ['/'].intercalate (trimSegments (segments p.toList).2.dropLast)
      <+: p.toList.take (headLength p.toList) ++ p.toList.drop (headLength p.toList) :=
        (List.prefix_append_right_inj _).mpr joined
    _ = p.toList := List.take_append_drop _ _

/-- The directory part of a path starts at the root exactly when the path does. -/
theorem head?_parentText {p : String}
    : (parentText p).toList.head? = some '/' ↔ p.toList.head? = some '/' := by
  constructor
  · intro root
    obtain ⟨rest, whole⟩ := prefix_parentText p
    rw [← whole, List.head?_append, root]
    rfl
  · intro root
    obtain ⟨rest, first⟩ := List.head?_eq_some_iff.mp root
    simp [toList_parentText, segments, first, headLength]

/-- Joining pieces without separators and splitting again keeps the pieces that count. -/
theorem filter_splitOn_intercalate {segs : List (List Char)} (clean : ∀ s ∈ segs, '/' ∉ s)
    : ((['/'].intercalate segs).splitOn '/').filter countsAsComponent =
      segs.filter countsAsComponent := by
  by_cases empty : segs = []
  · subst empty
    rfl
  · rw [List.splitOn_intercalate '/' clean empty]

/-- Leaving out `.`, the components of the directory part of a path are its segments before the
last that count. -/
theorem filter_pieces_parentText (p : String)
    : (pieces (parentText p).toList).filter (· != ['.']) =
      ((segments p.toList).2.dropLast).filter countsAsComponent := by
  rw [filter_pieces_eq, toList_parentText, ← filter_trimSegments ((segments p.toList).2.dropLast)]
  have clean : ∀ s ∈ trimSegments (segments p.toList).2.dropLast, '/' ∉ s :=
    fun s member => not_mem_of_mem_splitOn ((prefix_parentPieces p.toList).subset member)
  have prefixed := prefix_parentPieces p.toList
  have front : (segments p.toList).1 = p.toList.take (headLength p.toList) := rfl
  rw [front]
  generalize trimSegments (segments p.toList).2.dropLast = segs at clean prefixed ⊢
  generalize p.toList = text at prefixed ⊢
  have emptyOut : ¬ countsAsComponent [] = true := by decide
  have dotOut : ¬ countsAsComponent ['.'] = true := by decide
  have dotNotSlash : ('.' == '/') = false := rfl
  rcases headLength_cases text with ⟨rest, rfl⟩ | rfl | ⟨rest, rfl⟩ | ⟨zero, -⟩
  · -- a root: the separator splits off an empty piece first
    have first : ('/' :: rest).take (headLength ('/' :: rest)) = ['/'] := rfl
    rw [first, List.singleton_append, List.splitOn_cons_eq_if_modifyHead]
    simp only [beq_self_eq_true, if_true]
    rw [List.filter_cons_of_neg emptyOut, filter_splitOn_intercalate clean]
  · -- a lone `.`: nothing follows it
    have nothing : segs <+: [[]] := prefixed
    rcases List.prefix_cons_iff.mp nothing with rfl | ⟨others, rfl, gone⟩
    · decide
    · rw [List.prefix_nil.mp gone]
      decide
  · -- a leading `.` before a separator: the pieces start with the empty one after it
    have first : ('.' :: '/' :: rest).take (headLength ('.' :: '/' :: rest)) = ['.'] := rfl
    have afterDot : segs <+: [] :: rest.splitOn '/' := by
      simpa [headLength, List.splitOn_cons_eq_if_modifyHead] using prefixed
    rw [first]
    rcases List.prefix_cons_iff.mp afterDot with rfl | ⟨others, rfl, -⟩
    · decide
    · by_cases alone : others = []
      · subst alone
        decide
      · have othersClean : ∀ s ∈ others, '/' ∉ s := fun s member => clean s (by simp [member])
        have spelled : ['.'] ++ ['/'].intercalate ([] :: others) =
            '.' :: '/' :: ['/'].intercalate others := by
          rw [List.intercalate_cons_of_ne_nil alone]
          rfl
        rw [spelled, List.splitOn_cons_eq_if_modifyHead, List.splitOn_cons_eq_if_modifyHead]
        simp only [dotNotSlash, beq_self_eq_true, if_true, Bool.false_eq_true, if_false,
          List.modifyHead_cons]
        rw [List.filter_cons_of_neg dotOut, List.filter_cons_of_neg emptyOut,
          filter_splitOn_intercalate othersClean]
  · rw [zero, List.take_zero, List.nil_append, filter_splitOn_intercalate clean]

/-- The directory part of a path that ends in a plain name has, leaving out `.`, the components
of the text before the name. -/
theorem filter_pieces_parentText_of_plain {p : String} {front name : List Char}
    (split : p.toList = front ++ name) (ends : EndsOpen front) (plain : IsPlainName name)
    : (pieces (parentText p).toList).filter (· != ['.']) = (pieces front).filter (· != ['.']) := by
  obtain ⟨before, segs⟩ := segments_append_plain ends plain
  have counted : countsAsComponent name = true := by
    simp [countsAsComponent, plain.1, plain.2.2.1]
  have notDot : (name != ['.']) = true := by simpa using plain.2.2.1
  have whole := filter_pieces (front ++ name)
  rw [pieces_append_plain ends plain, segs, List.filter_append, List.filter_append,
    List.filter_singleton, List.filter_singleton, notDot, counted] at whole
  rw [filter_pieces_parentText, split, segs, List.dropLast_concat]
  exact (List.append_cancel_right whole).symm

/-- Leaving out `.`, a sibling of a plain name joined to a base passes the base's directories. -/
theorem filter_parts_sibling (base name : String) (plain : IsPlainName name.toList)
    : ((pieces (parentText (join base name)).toList).map String.ofList).filter (· != ".") =
      ((pieces base.toList).map String.ofList).filter (· != ".") := by
  have notDot : ((· != ".") ∘ String.ofList) = fun piece : List Char => piece != ['.'] := by
    funext piece
    have same : String.ofList piece = "." ↔ piece = ['.'] := by
      rw [← String.toList_inj, String.toList_ofList]
      simp
    rw [Function.comp_apply, Bool.eq_iff_iff, bne_iff_ne, bne_iff_ne, ne_eq, ne_eq, same]
  rw [List.filter_map, List.filter_map, notDot,
    filter_pieces_parentText_of_plain (join_toList base name plain.head?_ne_slash)
      (joinFront_endsOpen _) plain, pieces_joinFront]

-----------------------------------------------------------------------------------------
-- Extensions
-----------------------------------------------------------------------------------------

/-- A name split at its last dot is its stem, the dot and its extension, and the stem is not
empty. -/
theorem splitAtDot_eq_some {name stem ext : List Char} (cut : splitAtDot name = some (stem, ext))
    : name = stem ++ '.' :: ext ∧ stem ≠ [] := by
  unfold splitAtDot at cut
  split at cut
  · cases cut
  · rename_i after dot before spanned
    split at cut
    · cases cut
    · rename_i filled
      obtain ⟨rfl, rfl⟩ := Prod.mk.inj (Option.some.inj cut)
      rw [List.span_eq_takeWhile_dropWhile, Prod.mk.injEq] at spanned
      obtain ⟨taken, dropped⟩ := spanned
      -- the first character the span stops at is the dot
      have isDot : dot = '.' := by
        have stops := List.head_dropWhile_not (· != '.') (by rw [dropped]; simp)
        simp only [dropped, List.head_cons, bne_eq_false_iff_eq] at stops
        exact stops
      have whole : name.reverse = after ++ dot :: before := by
        rw [← taken, ← dropped, List.takeWhile_append_dropWhile]
      refine ⟨?_, by simpa using filled⟩
      rw [← List.reverse_reverse name, whole, isDot]
      simp

/-- The extension of a path whose text ends in a character other than a separator and a dot
ends in that character: the last segment is then the file name, and its extension is a
nonempty end of it. -/
theorem getLast?_extension? {p : String} {c : Char} (last : p.toList.getLast? = some c)
    (notSlash : c ≠ '/') (notDot : c ≠ '.') {ext : String} (found : extension? p = some ext)
    : ext.toList.getLast? = some c := by
  obtain ⟨front, name, split, ends, noSlash⟩ := exists_endsOpen_append p.toList
  have nameLast : name.getLast? = some c := by
    rw [split] at last
    cases name with
    | nil =>
        rw [List.append_nil] at last
        rcases ends with rfl | frontLast
        · cases last
        · exact absurd (frontLast.symm.trans last) (by simpa using Ne.symm notSlash)
    | cons d more => rwa [List.getLast?_append_of_ne_nil _ (List.cons_ne_nil d more)] at last
  have plain : IsPlainName name := by
    refine ⟨fun empty => by simp [empty] at nameLast, noSlash, ?_, ?_⟩
    · rintro rfl
      exact notDot (by simpa using nameLast.symm)
    · rintro rfl
      exact notDot (by simpa using nameLast.symm)
  unfold extension? at found
  rw [fileName?_of_plain split ends plain, Option.bind_some, String.toList_ofList] at found
  obtain ⟨⟨stem, extension⟩, cut, rfl⟩ := Option.map_eq_some_iff.mp found
  obtain ⟨rfl, -⟩ := splitAtDot_eq_some cut
  rw [String.toList_ofList]
  cases extension with
  | nil => exact absurd (by simpa using nameLast.symm) notDot
  | cons d more =>
      rwa [List.getLast?_append_of_ne_nil _ (List.cons_ne_nil _ _),
        List.getLast?_cons_cons] at nameLast

end Decomment.Files
