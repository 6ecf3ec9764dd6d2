import Decomment.Config.Load

/-!
The options of the command line.

Each option has a long name, and most a one-letter short name. Four take a value, named in
messages and in the help by its placeholder (`--input <INPUT>`); `--verbose` may be repeated and
counts; the rest are switches. `--batch` exists only in a build that strips directories.
`--stdout` excludes `--json` and `--output`, and `--batch` excludes `--input`, `--output` and
`--stdout`. The paths (`--input`, `--output`, `--batch`) may not be empty. All options but
`--help` and `--version` form a group, which usage lines of some errors name.
-/

namespace Decomment.Cli

/-- An option of the command line. -/
inductive Flag where
  | input
  | output
  | config
  | keepHeader
  | json
  | stdout
  | batch
  | verbose
  | help
  | version
deriving DecidableEq, Repr

namespace Flag

/-- The options a build offers, in the order the help lists them. -/
def offered (features : Features) : List Flag :=
  [.input, .output, .config, .keepHeader, .json, .stdout] ++
    (if features.batch then [.batch] else []) ++ [.verbose, .help, .version]

/-- The long name, without its dashes. -/
def long : Flag → String
  | .input => "input"
  | .output => "output"
  | .config => "config"
  | .keepHeader => "keep-header"
  | .json => "json"
  | .stdout => "stdout"
  | .batch => "batch"
  | .verbose => "verbose"
  | .help => "help"
  | .version => "version"

/-- The short name, if there is one. -/
def short? : Flag → Option Char
  | .input => some 'i'
  | .output => some 'o'
  | .config => some 'c'
  | .verbose => some 'v'
  | .help => some 'h'
  | .version => some 'V'
  | _ => none

/-- The placeholder of the value an option takes, if it takes one. -/
def placeholder? : Flag → Option String
  | .input => some "INPUT"
  | .output => some "OUTPUT"
  | .config => some "CONFIG"
  | .batch => some "DIR"
  | _ => none

/-- The option takes a value. -/
def takesValue (f : Flag) : Bool :=
  f.placeholder?.isSome

/-- The option takes a path, which may not be empty. -/
def takesPath : Flag → Bool
  | .input | .output | .batch => true
  | _ => false

/-- The option is one of the program's own, as against `--help` and `--version`, which every
command has. The program's own options form one group, which a usage line may name. -/
def isOwn : Flag → Bool
  | .help | .version => false
  | _ => true

/-- What the help says an option does. -/
def about : Flag → String
  | .input => "Source file to clean"
  | .output => "Where the cleaned source is written"
  | .config => "Config file (.json or .toml) or inline JSON"
  | .keepHeader => "Keep the header above the first `pragma solidity`"
  | .json => "Print the report as JSON"
  | .stdout => "Write the cleaned source to stdout instead of the output file"
  | .batch => "Clean every .sol file in a directory"
  | .verbose => "More log output on stderr (-v info, -vv debug)"
  | .help => "Print help"
  | .version => "Print version"

/-- The options that may not be given together with this one. -/
def excludes : Flag → List Flag
  | .stdout => [.json, .output]
  | .batch => [.input, .output, .stdout]
  | _ => []

/-- Two options exclude each other, in either direction. -/
def clashes (f g : Flag) : Bool :=
  f.excludes.contains g || g.excludes.contains f

/-- How an option is named in messages: its long name, then its placeholder, or `...` for the
counting option. -/
def display (f : Flag) : String :=
  "--" ++ f.long ++
    match f.placeholder? with
    | some p => " <" ++ p ++ ">"
    | none => if f == .verbose then "..." else ""

/-- How an option is shown in the help: with its short name first, if it has one. -/
def spec (f : Flag) : String :=
  (match f.short? with
    | some c => "-" ++ String.singleton c ++ ", "
    | none => "    ") ++ f.display

end Flag

/-- The name of the program. -/
def programName : String := "sol-cleaner"

/-- What the program does, as the help says it. -/
def description : String :=
  "Strip comments from a flattened Solidity source, keeping the version pragma"

/-- The text `--version` prints. -/
def versionText : String :=
  programName ++ " 0.1.0\n"

/-- A text padded with spaces to a width. -/
def padRight (text : String) (width : Nat) : String :=
  text ++ String.ofList (List.replicate (width - text.length) ' ')

/-- The text `--help` prints: the description, the usage, and a line per option with the
descriptions in one column. -/
def helpText (features : Features) : String :=
  let flags := Flag.offered features
  let width := (flags.map fun f => f.spec.length).foldl max 0
  let line (f : Flag) := "  " ++ padRight f.spec width ++ "  " ++ f.about
  description ++ "\n\nUsage: " ++ programName ++ " [OPTIONS]\n\nOptions:\n" ++
    "\n".intercalate (flags.map line) ++ "\n"

/-- A usage line of an error: the options it names, and the members of the group of the
program's own options when it names that group too (else none). -/
structure Usage where
  named : List Flag := []
  group : List Flag := []
deriving DecidableEq, Repr

/-- The text of a usage line: the general one when it names nothing, else the program with each
named option once. A named group stands, after the other options, for all its members, which are
then not named one by one. -/
def Usage.text (u : Usage) : String :=
  let shown := (u.named.filter fun f => !u.group.contains f).eraseDups.map Flag.display
  let parts := if u.group.isEmpty then shown
    else shown ++ ["<" ++ "|".intercalate (u.group.map Flag.display) ++ ">"]
  if parts.isEmpty then programName ++ " [OPTIONS]"
  else programName ++ " " ++ " ".intercalate parts

end Decomment.Cli
