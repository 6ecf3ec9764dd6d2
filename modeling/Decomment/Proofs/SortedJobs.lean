import Decomment.Proofs.RunOutcomes
import Mathlib.Data.Char

/-! The jobs of a directory are its sources, in the byte order of their names, whatever order the
listing comes in. A source is an entry whose path in the directory names a regular file, and
whose name is a stem and `.sol`, with a stem that is not empty (so that `sol` is the name's
extension) and does not end in the stripped suffix. Its job reads that path and writes the
file named by the stem, the suffix and `.sol` in the same directory.

UTF-8 keeps the order of code points, so names in the order of texts are names in the order of
their bytes; and a listing sorted by names that are all distinct is one list, whatever order the
names were listed in. A regular file whose path in the directory is too long to be looked up is
no source: the listing shows it, but asking whether its path names a file fails.
-/

namespace Decomment.Batch

open Decomment.Files Decomment.Files.Path Decomment.Files.Workspace

-----------------------------------------------------------------------------------------
-- Byte order of names
-----------------------------------------------------------------------------------------

theorem toList_loop (bytes : ByteArray) (i : Nat) (done : List UInt8)
    : ByteArray.toList.loop bytes i done = done.reverse ++ bytes.data.toList.drop i := by
  fun_induction ByteArray.toList.loop bytes i done with
  | case1 i done inside ih =>
    have inData : i < bytes.data.toList.length := by simpa using inside
    rw [ih, List.reverse_cons, List.append_assoc, List.drop_eq_getElem_cons inData]
    simp [ByteArray.get!, inside]
  | case2 i done outside =>
    rw [List.drop_eq_nil_of_le (by simpa using outside), List.append_nil]

theorem byteArray_toList (bytes : ByteArray) : bytes.toList = bytes.data.toList := by
  simp [ByteArray.toList, toList_loop]

/-- The UTF-8 bytes of a text are those of its characters, one after another. -/
theorem encodeUtf8_eq_flatMap (text : String)
    : encodeUtf8 text = text.toList.flatMap String.utf8EncodeChar := by
  rw [encodeUtf8, byteArray_toList, String.toUTF8, ← String.utf8Encode_toList, List.utf8Encode,
    List.toList_data_toByteArray]

theorem byte_toNat {n : Nat} (small : n < 256) : (UInt8.ofNat n).toNat = n := by
  rw [UInt8.toNat_ofNat', Nat.mod_eq_of_lt small]

/-- A character before another is encoded by bytes that come first, whatever follows either.
The cases are the pairs of encoding lengths: encodings of different lengths differ in their first
byte, which grows with the length, and encodings of one length are the code point's digits in
base 64 under fixed marks, which compare as the code points do. -/
theorem utf8EncodeChar_append_lt {a b : Char} (lt : a < b) (x y : List UInt8)
    : String.utf8EncodeChar a ++ x < String.utf8EncodeChar b ++ y := by
  have points : a.val.toNat < b.val.toNat := lt
  have bound : b.val.toNat < 0x110000 := by
    rcases b.valid with small | ⟨-, small⟩ <;> omega
  unfold String.utf8EncodeChar
  dsimp only
  split_ifs <;>
    simp (disch := omega) only [List.cons_append, List.nil_append, List.cons_lt_cons_iff,
      UInt8.lt_iff_toNat_lt, ← UInt8.toNat_inj, byte_toNat, Nat.mod_eq_of_lt] <;>
    omega

theorem append_lt_append_left_iff {front x y : List UInt8} : front ++ x < front ++ y ↔ x < y := by
  induction front with
  | nil => rfl
  | cons byte front ih => rw [List.cons_append, List.cons_append, List.cons_lt_cons_self, ih]

/-- Texts compare as their UTF-8 bytes do, by induction on the characters: the first character
where two texts differ decides both orders. -/
theorem flatMap_utf8EncodeChar_lt_iff {l m : List Char}
    : l.flatMap String.utf8EncodeChar < m.flatMap String.utf8EncodeChar ↔ l < m := by
  induction l generalizing m with
  | nil =>
    cases m with
    | nil => simp
    | cons c m =>
      obtain ⟨byte, bytes, first⟩ :=
        List.exists_cons_of_ne_nil (@String.utf8EncodeChar_ne_nil c)
      simp [first]
  | cons a l ih =>
    cases m with
    | nil => simp
    | cons b m =>
      rw [List.flatMap_cons, List.flatMap_cons]
      rcases lt_trichotomy a b with before | same | after
      · exact iff_of_true (utf8EncodeChar_append_lt before _ _)
          (List.cons_lt_cons_iff.mpr (.inl before))
      · subst same
        rw [append_lt_append_left_iff, List.cons_lt_cons_self, ih]
      · exact iff_of_false (fun first => List.lt_asymm first (utf8EncodeChar_append_lt after _ _))
          (fun first => List.lt_asymm first (List.cons_lt_cons_iff.mpr (.inl after)))

/-- Names in the order of texts are names in the order of their UTF-8 bytes. -/
theorem encodeUtf8_lt_iff {s t : String} : encodeUtf8 s < encodeUtf8 t ↔ s < t := by
  rw [encodeUtf8_eq_flatMap, encodeUtf8_eq_flatMap, flatMap_utf8EncodeChar_lt_iff, String.lt_iff]

-----------------------------------------------------------------------------------------
-- Sources
-----------------------------------------------------------------------------------------

/-- A name of a source with its stem: the name is the stem and `.sol`; the stem is not empty, so
the dot is not the name's first character and `sol` is its extension; and the stem does not end
in the stripped suffix. -/
structure SourceName (name stem : String) : Prop where
  named : name = stem ++ ".sol"
  filled : stem ≠ ""
  fresh : ¬ strippedSuffix.toList <:+ stem.toList

/-- A path names the entry `name` of the directory that `dir` names: in every workspace the
directories of its lookup lead where `dir` leads, and its last component is `name`, with no
separator after it. -/
structure NamesEntry (dir name path : String) : Prop where
  walk : ∀ w : Workspace,
    w.descend (start (Route.ofText path)) (Route.ofText path).parts.dropLast =
      w.descend (start (Route.ofText dir)) (Route.ofText dir).parts
  last : (Route.ofText path).parts.getLast? = some name
  noSlash : (Route.ofText path).slash = false

/-- The job of a source of a directory: it reads the source's name joined to the directory, and
writes the entry of the same directory named by the stem, the stripped suffix and `.sol`. -/
structure Strips (dir name stem : String) (job : Job) : Prop where
  input : job.input = join dir name
  output : NamesEntry dir (stem ++ strippedSuffix ++ ".sol") job.output

/-- A name has one stem. -/
theorem SourceName.stem_eq {name stem stem' : String} (source : SourceName name stem)
    (other : SourceName name stem') : stem = stem' := by
  have chars := congrArg String.toList (source.named.symm.trans other.named)
  rw [String.toList_append, String.toList_append] at chars
  exact String.toList_inj.mp (List.append_cancel_right chars)

/-- A name split at a dot that is not its first character, with no dot after it. -/
theorem splitAtDot_append_dot {stem ext : List Char} (filled : stem ≠ []) (noDot : '.' ∉ ext)
    : splitAtDot (stem ++ '.' :: ext) = some (stem, ext) := by
  have kept : ∀ c ∈ ext.reverse, (c != '.') = true := by
    intro c member
    have : c ≠ '.' := fun same => noDot (same ▸ List.mem_reverse.mp member)
    simpa using this
  have spanned :
      (stem ++ '.' :: ext).reverse.span (· != '.') = (ext.reverse, '.' :: stem.reverse) := by
    rw [List.span_eq_takeWhile_dropWhile, List.reverse_append, List.reverse_cons,
      List.append_assoc, List.takeWhile_append_of_pos kept, List.dropWhile_append_of_pos kept]
    simp
  rw [splitAtDot, spanned]
  simp [filled]

/-- A path joined from a directory and a plain name has that name's extension. -/
theorem extension?_join (dir : String) {name : String} (plain : IsPlainName name.toList)
    : extension? (join dir name) =
      (splitAtDot name.toList).map fun parts => String.ofList parts.2 := by
  rw [extension?, fileName?_join dir name plain, Option.bind_some]

/-- A regular file whose name is a source's makes a job. -/
theorem jobOf?_of_sourceName (dir : String) {entry : Entry} {stem : String}
    (plain : IsPlainName entry.name.toList) (isFile : entry.isFile = true)
    (source : SourceName entry.name stem)
    : jobOf? dir entry = some ⟨join dir entry.name,
        withFileName (join dir entry.name) (stem ++ strippedSuffix ++ ".sol")⟩ := by
  have cut : splitAtDot entry.name.toList = some (stem.toList, "sol".toList) := by
    rw [source.named, String.toList_append]
    exact splitAtDot_append_dot (by simpa using source.filled) (by decide)
  have kept : stem.endsWith strippedSuffix = false := by
    rw [Bool.eq_false_iff, ne_eq, endsWith_eq_true_iff]
    exact source.fresh
  simp [jobOf?, isFile, extension?_join dir plain, stem?, fileName?_join dir _ plain, cut, kept]

/-- The job a source makes strips it: it reads the source in the directory and writes the stem's
stripped sibling there. -/
theorem SourceJob.strips {dir : String} {job : Job} {name stem : List Char}
    (src : SourceJob dir job name stem)
    : Strips dir (String.ofList name) (String.ofList stem) job := by
  have written : String.ofList (stem ++ (strippedSuffix ++ ".sol").toList) =
      String.ofList stem ++ strippedSuffix ++ ".sol" := by
    simp [← String.toList_inj, String.toList_append]
  have route := route_join (parentText job.input)
    (String.ofList (stem ++ (strippedSuffix ++ ".sol").toList)) (by simpa using src.plain_output)
  rw [← src.output] at route
  refine ⟨src.input, src.walk_output, ?_, by rw [route]⟩
  rw [src.last_output, written]

/-- A job made from an entry with a plain name comes from a regular file with a source's name,
and strips it. -/
theorem jobOf?_eq_some_source {dir : String} {entry : Entry} {job : Job}
    (plain : IsPlainName entry.name.toList) (made : jobOf? dir entry = some job)
    : entry.isFile = true ∧
      ∃ stem, SourceName entry.name stem ∧ Strips dir entry.name stem job := by
  obtain ⟨isFile, stem, src⟩ := jobOf?_eq_some plain made
  have strips := src.strips
  rw [String.ofList_toList] at strips
  refine ⟨isFile, String.ofList stem, ⟨?_, ?_, by simpa using src.fresh⟩, strips⟩
  · rw [← String.toList_inj, String.toList_append, String.toList_ofList]
    exact src.named
  · -- an empty stem leaves the name `.sol`, which has no extension and makes no job
    intro empty
    have noStem : stem = [] := by simpa using congrArg String.toList empty
    have bare : entry.name.toList = ".sol".toList := by rw [src.named, noStem]; rfl
    have cut : splitAtDot entry.name.toList = none := by rw [bare]; decide
    have none : jobOf? dir entry = none := by
      simp [jobOf?, extension?_join dir plain, cut]
    rw [none] at made
    cases made

/-- Going through a listing sorted by distinct names, the jobs are made from the regular files
with a source's name, in the listing's order; by induction on the listing. -/
theorem filterMap_jobOf? (dir : String) {entries : List Entry}
    (plain : ∀ entry ∈ entries, IsPlainName entry.name.toList)
    (sorted : entries.Pairwise fun a b => a.name < b.name)
    : ∃ picked : List (String × String),
      List.Forall₂ (fun source job => Strips dir source.1 source.2 job) picked
        (entries.filterMap (jobOf? dir)) ∧
      picked.Pairwise (fun source other => source.1 < other.1) ∧
      ∀ name stem,
        (name, stem) ∈ picked ↔ (⟨name, true⟩ : Entry) ∈ entries ∧ SourceName name stem := by
  induction entries with
  | nil => exact ⟨[], .nil, .nil, by simp⟩
  | cons entry rest ih =>
    obtain ⟨firstLt, restSorted⟩ := List.pairwise_cons.mp sorted
    obtain ⟨picked, strips, ordered, members⟩ :=
      ih (fun other member => plain other (List.mem_cons_of_mem _ member)) restSorted
    have entryPlain := plain entry List.mem_cons_self
    cases made : jobOf? dir entry with
    | none =>
      refine ⟨picked, by simpa [List.filterMap_cons, made] using strips, ordered, ?_⟩
      intro name stem
      rw [members, List.mem_cons]
      constructor
      · rintro ⟨member, source⟩
        exact ⟨.inr member, source⟩
      · rintro ⟨rfl | member, source⟩
        · -- a regular file with a source's name makes a job
          rw [jobOf?_of_sourceName dir entryPlain rfl source] at made
          cases made
        · exact ⟨member, source⟩
    | some job =>
      obtain ⟨isFile, stem, source, strip⟩ := jobOf?_eq_some_source entryPlain made
      have whole : (⟨entry.name, true⟩ : Entry) = entry := by rw [← isFile]
      refine ⟨(entry.name, stem) :: picked, ?_, ?_, ?_⟩
      · rw [List.filterMap_cons, made]
        exact .cons strip strips
      · refine List.pairwise_cons.mpr ⟨?_, ordered⟩
        intro other member
        exact firstLt _ ((members other.1 other.2).mp member).1
      · intro name stem'
        rw [List.mem_cons, members, List.mem_cons, Prod.mk.injEq]
        constructor
        · rintro (⟨rfl, rfl⟩ | ⟨member, source'⟩)
          · exact ⟨.inl whole, source⟩
          · exact ⟨.inr member, source'⟩
        · rintro ⟨same | member, source'⟩
          · have named : name = entry.name := congrArg Entry.name same
            subst named
            exact .inl ⟨rfl, (source.stem_eq source').symm⟩
          · exact .inr ⟨member, source'⟩

-----------------------------------------------------------------------------------------
-- The jobs of a listing
-----------------------------------------------------------------------------------------

/-- The jobs of a directory as its entries decide them, given the names it lists and whether
the path of each in the directory names a regular file: one job for each source, in increasing
byte order of the names, and each strips its source. -/
def SortedSources (dir : String) (names : List String) (isFile : String → Bool)
    (todo : List Job) : Prop :=
  ∃ picked : List (String × String),
    List.Forall₂ (fun source job => Strips dir source.1 source.2 job) picked todo ∧
    picked.Pairwise (fun source other => encodeUtf8 source.1 < encodeUtf8 other.1) ∧
    ∀ name stem,
      (name, stem) ∈ picked ↔ name ∈ names ∧ isFile name = true ∧ SourceName name stem

/-- Entries sorted by names that are distinct come in increasing order of the names. -/
theorem mergeSort_names_lt {entries : List Entry} (distinct : (entries.map Entry.name).Nodup)
    : (entries.mergeSort fun a b => decide (a.name ≤ b.name)).Pairwise
        fun a b => a.name < b.name := by
  have sorted := @List.pairwise_mergeSort _ (fun a b : Entry => decide (a.name ≤ b.name))
    (fun a b c first second => decide_eq_true
      (String.le_trans (of_decide_eq_true first) (of_decide_eq_true second)))
    (fun a b => by simpa using String.le_total a.name b.name) entries
  have sortedDistinct : ((entries.mergeSort fun a b => decide (a.name ≤ b.name)).map
      Entry.name).Nodup :=
    ((List.mergeSort_perm _ _).map Entry.name).nodup_iff.mpr distinct
  refine (sorted.and (List.pairwise_map.mp sortedDistinct)).imp ?_
  rintro a b ⟨atMost, differ⟩
  exact String.not_le.mp fun back => differ (String.le_antisymm (of_decide_eq_true atMost) back)

/-- A listing of distinct names makes the same jobs in every order. -/
theorem select_perm (dir : String) {listing other : List Entry} (perm : listing.Perm other)
    (distinct : (listing.map Entry.name).Nodup) : select dir listing = select dir other := by
  have otherDistinct : (other.map Entry.name).Nodup := (perm.map Entry.name).nodup_iff.mp distinct
  unfold select
  congr 1
  refine List.Perm.eq_of_pairwise ?_ (mergeSort_names_lt distinct)
    (mergeSort_names_lt otherDistinct)
    ((List.mergeSort_perm _ _).trans (perm.trans (List.mergeSort_perm _ _).symm))
  intro a b _ _ before after
  exact absurd after (String.lt_asymm before)

/-- The jobs of a listing of distinct plain names are its sources in byte order of the names. -/
theorem select_sortedSources (dir : String) {names : List String} (isFile : String → Bool)
    (distinct : names.Nodup) (plain : ∀ name ∈ names, IsPlainName name.toList)
    : SortedSources dir names isFile
        (select dir (names.map fun name => { name, isFile := isFile name })) := by
  have entryNames : ((names.map fun name => ({ name, isFile := isFile name } : Entry)).map
      Entry.name) = names := by
    simp [Function.comp_def]
  have plainSorted : ∀ entry ∈ (names.map fun name =>
      ({ name, isFile := isFile name } : Entry)).mergeSort (fun a b => decide (a.name ≤ b.name)),
      IsPlainName entry.name.toList := by
    intro entry member
    obtain ⟨name, listed, rfl⟩ := List.mem_map.mp (List.mem_mergeSort.mp member)
    exact plain name listed
  obtain ⟨picked, strips, ordered, members⟩ :=
    filterMap_jobOf? dir plainSorted (mergeSort_names_lt (by rw [entryNames]; exact distinct))
  refine ⟨picked, strips, ordered.imp encodeUtf8_lt_iff.mpr, ?_⟩
  intro name stem
  rw [members, List.mem_mergeSort]
  simp [and_assoc]

/-- The jobs of a directory of a well-formed workspace are its sources in byte order of their
names, and they are the same for every order the listing may come in. Listing the directory
fails exactly when the jobs fail, with the listing's error.
-/
theorem jobs_sorted_sources (w : Workspace) (valid : w.Valid) (dir : String)
    : match w.list dir with
      | .error e => ((jobs dir : StateM Workspace _).run w).1 = .error (.listDir dir e)
      | .ok names =>
        ∃ todo, ((jobs dir : StateM Workspace _).run w).1 = .ok todo ∧
          SortedSources dir names (fun name => w.isFile (join dir name)) todo ∧
          ∀ listing : List String, listing.Perm names →
            select dir (listing.map fun name => { name, isFile := w.isFile (join dir name) }) =
              todo := by
  rw [jobs_run]
  cases listed : w.list dir with
  | error e => rfl
  | ok names =>
    obtain ⟨distinct, plain⟩ := valid.listed_names listed
    refine ⟨_, rfl, select_sortedSources dir _ distinct plain, fun listing perm => ?_⟩
    have listingDistinct : ((listing.map fun name =>
        ({ name, isFile := w.isFile (join dir name) } : Entry)).map Entry.name).Nodup := by
      simpa [Function.comp_def] using perm.nodup_iff.mpr distinct
    exact select_perm dir (perm.map _) listingDistinct

/-- A directory with two sources, a stripped file, a file that is no source, and a directory with
a source's name. -/
def mixedDirectory : Workspace :=
  { nodes := [(["d"], .dir), (["d", "b.sol"], .file []), (["d", "a.sol"], .file []),
      (["d", "a_no_comments.sol"], .file []), (["d", "notes.txt"], .file []),
      (["d", "x.sol"], .dir), (["d", "..sol"], .file []), (["d", ".sol"], .file [])] }

theorem jobs_sorted_sources_of_mixed_directory :
    mixedDirectory.Valid ∧
      match mixedDirectory.list "d" with
      | .error e => ((jobs "d" : StateM Workspace _).run mixedDirectory).1 = .error (.listDir "d" e)
      | .ok names =>
        ∃ todo, ((jobs "d" : StateM Workspace _).run mixedDirectory).1 = .ok todo ∧
          SortedSources "d" names (fun name => mixedDirectory.isFile (join "d" name)) todo ∧
          ∀ listing : List String, listing.Perm names →
            select "d" (listing.map fun name =>
              { name, isFile := mixedDirectory.isFile (join "d" name) }) = todo := by
  have valid : mixedDirectory.Valid := by decide +kernel
  exact ⟨valid, jobs_sorted_sources mixedDirectory valid "d"⟩

-----------------------------------------------------------------------------------------
-- A source too deep to be looked up
-----------------------------------------------------------------------------------------

/-- A path is not refused when it has no zero byte, is not empty, and is shorter than
`pathMax`. -/
theorem refusal?_of_short {p : String} (noNul : hasNul p = false) (filled : p.isEmpty = false)
    (short : p.utf8ByteSize < pathMax) : refusal? p = none := by
  simp [refusal?, noNul, filled, Nat.not_le.mpr short]

/-- `./` repeated adds no zero byte. -/
theorem hasNul_replicate_dot (n : Nat) {rest : List Char} (clean : Char.ofNat 0 ∉ rest)
    : hasNul (String.ofList ((List.replicate n ['.', '/']).flatten ++ rest)) = false := by
  rw [hasNul, String.toList_ofList, Bool.eq_false_iff]
  intro has
  rcases List.mem_append.mp (List.contains_iff_mem.mp has) with inDots | inRest
  · obtain ⟨piece, member, inPiece⟩ := List.mem_flatten.mp inDots
    rw [(List.mem_replicate.mp member).2] at inPiece
    exact absurd inPiece (by decide)
  · exact clean inRest

/-- `./` repeated before a plain name leads where the name alone leads: its components are `.`
and the name. -/
theorem route_replicate_dot (n : Nat) {name : List Char} (plain : IsPlainName name)
    : Route.ofText (String.ofList ((List.replicate n ['.', '/']).flatten ++ name)) =
      { absolute := false, parts := List.replicate n "." ++ [String.ofList name],
        slash := false } := by
  have chars : (String.ofList ((List.replicate n ['.', '/']).flatten ++ name)).toList =
      (List.replicate n ['.', '/']).flatten ++ name :=
    String.toList_ofList
  have relative : ((List.replicate n ['.', '/']).flatten ++ name).head? ≠ some '/' := by
    cases n with
    | zero => simpa using plain.head?_ne_slash
    | succ n => simp [List.replicate_succ]
  have last : ((List.replicate n ['.', '/']).flatten ++ name).getLast? ≠ some '/' := by
    rw [List.getLast?_append_of_ne_nil _ plain.1]
    exact plain.getLast?_ne_slash
  simp only [Route.ofText, startsWith_slash, endsWith_slash, chars, pieces_replicate_dot,
    pieces_plain plain, List.map_append, List.map_replicate, List.map_singleton, relative, last,
    decide_false]

/-- A directory named by `./` repeated before a plain name lists what the name alone lists, when
neither path is refused. -/
theorem list_replicate_dot (w : Workspace) (n : Nat) {name : List Char} (plain : IsPlainName name)
    (kept : refusal? (String.ofList ((List.replicate n ['.', '/']).flatten ++ name)) = none)
    (keptAlone : refusal? (String.ofList name) = none)
    : w.list (String.ofList ((List.replicate n ['.', '/']).flatten ++ name)) =
      w.list (String.ofList name) := by
  have alone := route_replicate_dot 0 plain
  simp only [List.replicate_zero, List.flatten_nil, List.nil_append] at alone
  have dots : w.descend (.inside []) (List.replicate n ".") = .ok (.inside []) := by
    rw [← descend_filter_dot]
    simp [descend]
  have locates : w.locate (String.ofList ((List.replicate n ['.', '/']).flatten ++ name)) =
      w.locate (String.ofList name) := by
    unfold locate
    rw [kept, keptAlone, route_replicate_dot n plain, alone]
    simp [start, List.dropLast_append_of_ne_nil, dots, descend]
  unfold Workspace.list
  rw [locates]

/-- A directory reached through `n` times `./` and `d`, where `d` lists only the name `a.sol`:
when the directory's path fits but that of `a.sol` in it is too long, asking whether `a.sol`
names a file is refused, and the directory makes no job. -/
theorem jobs_of_long_dotted_dir (w : Workspace) (n : Nat) (fits : 2 * n + 1 < pathMax)
    (long : pathMax ≤ 2 * n + 7) (listed : w.list "d" = .ok ["a.sol"])
    : ((jobs (String.ofList ((List.replicate n ['.', '/']).flatten ++ ['d'])) :
        StateM Workspace _).run w).1 = .ok [] := by
  set dir := String.ofList ((List.replicate n ['.', '/']).flatten ++ ['d']) with dirText
  have dirBytes : dir.utf8ByteSize = 2 * n + 1 := by
    rw [dirText, String.ofList_append, String.utf8ByteSize_append, utf8ByteSize_replicate_dot]
    rfl
  have dirKept : refusal? dir = none := by
    refine refusal?_of_short (hasNul_replicate_dot n (by decide)) ?_ (by rw [dirBytes]; exact fits)
    rw [String.isEmpty_eq_utf8ByteSize_beq_zero, dirBytes]
    rfl
  have dirListed : w.list dir = .ok ["a.sol"] := by
    rw [list_replicate_dot w n (by decide) dirKept (by decide)]
    exact listed
  -- the file's path is the directory's text, a separator and the name
  have joined : join dir "a.sol" =
      String.ofList ((List.replicate n ['.', '/']).flatten ++ "d/a.sol".toList) := by
    have dirLast : dir.toList.getLast? = some 'd' := by
      rw [dirText, String.toList_ofList, List.getLast?_append_of_ne_nil _ (List.cons_ne_nil _ _)]
      rfl
    have front : joinFront dir.toList = dir.toList ++ ['/'] := by
      rw [joinFront, if_neg]
      rintro (empty | slash)
      · simp [empty] at dirLast
      · rw [dirLast] at slash
        cases slash
    rw [← String.toList_inj, join_toList dir "a.sol" (by decide), front, dirText,
      String.toList_ofList, String.toList_ofList]
    simp
  have refused : refusal? (join dir "a.sol") = some .nameTooLong := by
    have fileBytes : (join dir "a.sol").utf8ByteSize = 2 * n + 7 := by
      rw [joined, String.ofList_append, String.utf8ByteSize_append, utf8ByteSize_replicate_dot]
      rfl
    rw [joined] at fileBytes ⊢
    exact refusal?_of_long (hasNul_replicate_dot n (by decide)) (by rw [fileBytes]; exact long)
  have notFile : w.isFile (join dir "a.sol") = false := by
    simp [Workspace.isFile, locate, refused]
  rw [jobs_run, dirListed]
  simp [notFile, select, jobOf?]

/-- A directory reached through `2045` times `./` lists a regular file `a.sol`, a source; but the
path of that file in the directory has 4097 bytes, asking whether it names a file is refused,
and the directory makes no job. -/
theorem jobs_skip_source_behind_long_path :
    let dir := String.ofList ((List.replicate 2045 ['.', '/']).flatten ++ ['d'])
    let w : Workspace := { nodes := [(["d"], .dir), (["d", "a.sol"], .file (encodeUtf8 "x"))] }
    w.list "d" = .ok ["a.sol"] ∧ w.node? ["d", "a.sol"] = some (.file (encodeUtf8 "x")) ∧
      SourceName "a.sol" "a" ∧ ((jobs dir : StateM Workspace _).run w).1 = .ok [] := by
  intro dir w
  have listed : w.list "d" = .ok ["a.sol"] := by decide +kernel
  exact ⟨listed, by decide +kernel, ⟨rfl, by decide, by decide⟩,
    jobs_of_long_dotted_dir w 2045 (by decide) (by decide) listed⟩

end Decomment.Batch
