import Decomment.Cli.Flag
import Decomment.Text.Similarity

/-!
Reading the command line.

The arguments are read left to right. `--name` and `--name=value` are long options, `-x` a
cluster of short ones, in which an option that takes a value takes the rest of the cluster (after
an optional `=`) or, if nothing is left, the next argument that does not look like an option. An
argument `--` makes every later one a plain argument, and no plain argument is accepted.

A value becomes the option's when the next option is read, or at the end; only then is the
option checked: a missing value, or an option given twice, is an error there. `--help` and
`--version` stop the reading where they stand. After the last argument, options that exclude each
other are errors, the first option in the order given that clashes with another being the one
named.

An unknown long option is answered with the most similar long name (Jaro similarity above 0.7), if
any. The usage line of an error names the options given so far where the error says so. The line
of a value given to a switch also names, once one of the program's own options has been recorded,
their group in their place; the line of an unknown option never does.
-/

namespace Decomment.Cli

/-- An error in the command line. -/
inductive UsageError where
  /-- An argument that is no option, with a similar option's name. -/
  | unknown (arg : String) (similar : Option String) (usage : Usage)
  /-- An option that takes a value was given none. -/
  | missingValue (flag : Flag)
  /-- An option that takes a path was given an empty one. -/
  | emptyValue (flag : Flag)
  /-- An option given a second time. -/
  | repeated (flag : Flag)
  /-- A value given to an option that takes none. -/
  | unexpectedValue (flag : Flag) (value : String) (usage : Usage)
  /-- An option given with others it excludes. -/
  | conflict (flag : Flag) (others : List Flag) (usage : Usage)
deriving DecidableEq, Repr

/-- The closing lines of an error: the usage, if any, and where to find help. -/
def errorTail (usageLine : Option String) : String :=
  (match usageLine with
    | some u => "\n\nUsage: " ++ u
    | none => "") ++ "\n\nFor more information, try '--help'.\n"

/-- The text of an error in the command line. -/
def UsageError.message : UsageError → String
  | .unknown arg similar usage =>
    "error: unexpected argument '" ++ arg ++ "' found" ++
      (match similar with
        | some s => "\n\n  tip: a similar argument exists: '" ++ s ++ "'"
        | none => "") ++ errorTail (some usage.text)
  | .missingValue flag | .emptyValue flag =>
    "error: a value is required for '" ++ flag.display ++ "' but none was supplied" ++
      errorTail none
  | .repeated flag =>
    "error: the argument '" ++ flag.display ++ "' cannot be used multiple times" ++
      errorTail (some (Usage.text {}))
  | .unexpectedValue flag value usage =>
    "error: unexpected value '" ++ value ++ "' for '" ++ flag.display ++
      "' found; no more were expected" ++ errorTail (some usage.text)
  | .conflict flag others usage =>
    "error: the argument '" ++ flag.display ++ "' cannot be used with" ++
      (match others with
        | [other] => " '" ++ other.display ++ "'"
        | _ => ":" ++ String.join (others.map fun o => "\n  " ++ o.display)) ++
      errorTail (some usage.text)

/-- What the command line asks for. -/
structure Arguments where
  input : Option String := none
  output : Option String := none
  config : Option String := none
  keepHeader : Bool := false
  json : Bool := false
  stdout : Bool := false
  batch : Option String := none
  verbose : Nat := 0
deriving DecidableEq, Repr

/-- Why reading stops early: an error, or a request for the help or the version. -/
inductive Stop where
  | error (e : UsageError)
  | help
  | version
deriving DecidableEq, Repr

/-- An option given, with its value, and how often it was given for the counting option. -/
structure Given where
  flag : Flag
  value : String := ""
  count : Nat := 1
deriving DecidableEq, Repr

/-- The state of reading: the options given so far in order, an option waiting for its value
(and the value, once read), whether `--` was read, and whether one of the program's own options
was recorded, which puts their group among the options given for good. -/
structure Reader where
  given : List Given := []
  pending : Option (Flag × Option String) := none
  trailing : Bool := false
  grouped : Bool := false
deriving DecidableEq, Repr

namespace Reader

/-- The options given so far, in order. -/
def used (r : Reader) : List Flag :=
  r.given.map Given.flag

/-- The option was given. -/
def has (r : Reader) (f : Flag) : Bool :=
  r.used.contains f

/-- Forgets an option. -/
def drop (r : Reader) (f : Flag) : Reader :=
  { r with given := r.given.filter (·.flag != f) }

/-- Records an option given with a value, which it must have if it takes one, and which may not
be empty for a path. An option given a second time is refused before its value is looked at. -/
def apply (r : Reader) (f : Flag) (value : Option String) : Except Stop Reader :=
  match f with
  | .help => .error .help
  | .version => .error .version
  | .verbose =>
    let count := ((r.given.find? (·.flag == f)).map Given.count).getD 0
    .ok { r.drop f with
      given := (r.drop f).given ++ [{ flag := f, count := count + 1 }], grouped := true }
  | _ =>
    if f.takesValue && value.isNone then .error (.error (.missingValue f))
    else if r.has f then .error (.error (.repeated f))
    else if f.takesPath && value == some "" then .error (.error (.emptyValue f))
    else .ok { r with given := r.given ++ [{ flag := f, value := value.getD "" }], grouped := true }

/-- Records the option waiting for its value, if any. -/
def resolve (r : Reader) : Except Stop Reader :=
  match r.pending with
  | none => .ok r
  | some (f, value) => { r with pending := none }.apply f value

/-- Records the waiting option as `resolve` does, but keeps going on an error: an option given
twice is then forgotten, an option without its value is left out, and a path left empty is noted
as given, without a value. -/
def resolveQuietly (r : Reader) : Reader :=
  match r.pending with
  | some (f, some v) =>
    let r := { r with pending := none }
    if r.has f then r.drop f
    else
      match r.apply f (some v) with
      | .ok r => r
      | .error _ => { r with given := r.given ++ [{ flag := f }], grouped := true }
  | _ => { r with pending := none }

/-- Records an option and its value, after the waiting one. -/
def react (r : Reader) (f : Flag) (value : Option String) : Except Stop Reader := do
  (← r.resolve).apply f value

/-- Lets an option wait for its value, after the waiting one. -/
def expect (r : Reader) (f : Flag) : Except Stop Reader := do
  return { ← r.resolve with pending := some (f, none) }

/-- Notes an option as given without recording a value, if it was not given yet. -/
def touch (r : Reader) (f : Flag) : Reader :=
  if r.has f then r else { r with given := r.given ++ [{ flag := f }] }

/-- The usage line that names some options and, once one of the program's own options was
recorded, the group of those among `flags`. -/
def usageOf (r : Reader) (flags named : List Flag) : Usage :=
  { named, group := if r.grouped then flags.filter Flag.isOwn else [] }

end Reader

/-- The long option most similar to a name, if any is similar enough; of equally similar ones,
the last. -/
def similarFlag (flags : List Flag) (name : String) : Option Flag :=
  let scored := flags.map fun f => (Text.jaro name.toList f.long.toList, f)
  let best := scored.foldl (fun best (score, f) =>
    if score > 0.7 then
      match best with
      | some (top, _) => if score ≥ top then some (score, f) else best
      | none => some (score, f)
    else best) none
  best.map Prod.snd

/-- Reads a long option with its attached value, if any. -/
def readLong (flags : List Flag) (r : Reader) (name : String) (value : Option String) :
    Except Stop Reader :=
  match flags.find? (·.long == name) with
  | some f =>
    if f.takesValue then
      match value with
      | some v => r.react f (some v)
      | none => r.expect f
    else
      match value with
      | some v => .error (.error (.unexpectedValue f v (r.usageOf flags (r.used ++ [f]))))
      | none => r.react f none
  | none =>
    let r := r.resolveQuietly
    let similar := similarFlag flags name
    let r := match similar with
      | some f => r.touch f
      | none => r
    .error (.error (.unknown ("--" ++ name) (similar.map fun f => "--" ++ f.long)
      { named := r.used }))

/-- Reads a cluster of short options. -/
def readShort (flags : List Flag) : Reader → List Char → Except Stop Reader
  | r, [] => .ok r
  | r, c :: rest =>
    match flags.find? (·.short? == some c) with
    | some f =>
      if !f.takesValue then
        match r.react f none with
        | .ok r => readShort flags r rest
        | .error e => .error e
      else
        match rest with
        | [] => r.expect f
        | '=' :: value => r.react f (some (String.ofList value))
        | value => r.react f (some (String.ofList value))
    | none => .error (.error (.unknown ("-" ++ String.singleton c) none {}))

/-- Reads an argument that is not an option: the value of the option waiting for one, or else an
error. -/
def readPlain (r : Reader) (arg : String) : Except Stop Reader :=
  match r.pending with
  | some (f, none) => if r.trailing then .error (.error (.unknown arg none {}))
    else .ok { r with pending := some (f, some arg) }
  | _ => .error (.error (.unknown arg none {}))

/-- Reads one argument. -/
def readArg (flags : List Flag) (r : Reader) (arg : String) : Except Stop Reader :=
  let chars := arg.toList
  if r.trailing then readPlain r arg
  else match chars with
    | ['-', '-'] => .ok { r with trailing := true }
    | '-' :: '-' :: name =>
      match name.span (· != '=') with
      | (flag, '=' :: value) => readLong flags r (String.ofList flag) (some (String.ofList value))
      | (flag, _) => readLong flags r (String.ofList flag) none
    | '-' :: c :: rest => readShort flags r (c :: rest)
    | _ => readPlain r arg

/-- The first option given, in order, that clashes with others given, and those others. -/
def firstClash (used : List Flag) : Option (Flag × List Flag) :=
  used.findSome? fun f =>
    match used.filter fun g => g != f && f.clashes g with
    | [] => none
    | others => some (f, others)

/-- The value given to an option. -/
def Reader.value? (r : Reader) (f : Flag) : Option String :=
  (r.given.find? (·.flag == f)).map Given.value

/-- What the options given ask for. -/
def Reader.arguments (r : Reader) : Arguments :=
  { input := r.value? .input
    output := r.value? .output
    config := r.value? .config
    keepHeader := r.has .keepHeader
    json := r.has .json
    stdout := r.has .stdout
    batch := r.value? .batch
    verbose := ((r.given.find? (·.flag == .verbose)).map Given.count).getD 0 }

/-- Reads the command line of a build. -/
def readArgs (features : Features) (args : List String) : Except Stop Arguments := do
  let flags := Flag.offered features
  let r ← args.foldlM (readArg flags) {}
  let r ← r.resolve
  match firstClash r.used with
  | some (f, others) =>
    .error (.error (.conflict f others.eraseDups
      { named := r.used.filter fun g => !others.contains g }))
  | none => return r.arguments

end Decomment.Cli
