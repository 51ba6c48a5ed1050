import YamlSchema.Run

/-!
# The command line

`Command.ofArguments` reads the arguments from left to right.  Options have a long name or a letter or both; a value
stands behind its option, attached to it or after `=`, or is the next argument, which may then not look like an option.
Letters may share one dash.  `Command.execute` does what is asked in a file system.
-/

namespace YamlSchema

/-- What a run is asked for. -/
structure Request where
  overrides : Settings.Overrides := {}
  config : Option String := none
  /-- How often more detail in the log was asked for. -/
  verbosity : Nat := 0
  deriving DecidableEq, Repr

inductive Command where
  | help
  | version
  | run (r : Request)
  deriving DecidableEq, Repr

/-- Why arguments are refused. -/
inductive UsageFault where
  | unexpected (argument : String)
  | valueMissing (option : String)
  | valueUnwanted (option value : String)
  | repeated (option : String)
  | emptyValue (option : String)
  deriving DecidableEq, Repr

def UsageFault.message : UsageFault → String
  | .unexpected argument => s!"unexpected argument '{argument}' found"
  | .valueMissing option => s!"a value is required for '{option}' but none was supplied"
  | .valueUnwanted option value => s!"unexpected value '{value}' for '{option}' found; no more were expected"
  | .repeated option => s!"the argument '{option}' cannot be used multiple times"
  | .emptyValue option => s!"a value is required for '{option}' but none was supplied"

namespace CommandLine

inductive Flag where
  | targets
  | schemas
  | exclude
  | schemasOnly
  | config
  | verbose
  | help
  | version
  deriving DecidableEq, Repr

namespace Flag

def all : List Flag := [.verbose, .targets, .schemas, .exclude, .schemasOnly, .config, .help, .version]

def long : Flag → String
  | .targets => "targets"
  | .schemas => "schemas"
  | .exclude => "exclude"
  | .schemasOnly => "schemas-only"
  | .config => "config"
  | .verbose => "verbose"
  | .help => "help"
  | .version => "version"

def letter? : Flag → Option Char
  | .targets => some 't'
  | .schemas => some 's'
  | .exclude => some 'e'
  | .verbose => some 'v'
  | .help => some 'h'
  | .version => some 'V'
  | .schemasOnly | .config => none

def takesValue : Flag → Bool
  | .targets | .schemas | .exclude | .config => true
  | .schemasOnly | .verbose | .help | .version => false

def ofLong? (name : String) : Option Flag := all.find? fun o => o.long = name

def ofLetter? (c : Char) : Option Flag := all.find? fun o => o.letter? = some c

/-- An option as it is named in messages. -/
def shown (o : Flag) : String := "--" ++ o.long

/-- What stands behind the name of an option in the help. -/
def operand : Flag → String
  | .targets | .schemas | .exclude => " <GLOB>"
  | .config => " <FILE>"
  | .verbose => "..."
  | .schemasOnly | .help | .version => ""

def purpose : Flag → String
  | .targets => "Add a glob pattern for validation targets"
  | .schemas => "Add a glob pattern for schemas"
  | .exclude => "Add a glob pattern to exclude from schemas and targets"
  | .schemasOnly => "Only load and check the schemas"
  | .config => "Path to a YAML configuration file"
  | .verbose => "Enable verbose logging. Repeat for more verbosity (-v, -vv, -vvv)"
  | .help => "Print help"
  | .version => "Print version"

end Flag

/-- A request with the value of an option. -/
def withValue (r : Request) (o : Flag) (value : String) : Except UsageFault Request :=
  let set := r.overrides
  match o with
  | .targets => .ok { r with overrides := { set with targets := set.targets ++ [value] } }
  | .schemas => .ok { r with overrides := { set with schemas := set.schemas ++ [value] } }
  | .exclude => .ok { r with overrides := { set with exclude := set.exclude ++ [value] } }
  | .config =>
    if r.config.isSome then .error (.repeated o.shown)
    else if value = "" then .error (.emptyValue o.shown)
    else .ok { r with config := some value }
  | _ => .ok r

/-- What an option without a value does: it changes the request, or asks for something else than a run. -/
def withSwitch (r : Request) (o : Flag) : Except UsageFault (Request × Option Command) :=
  match o with
  | .verbose => .ok ({ r with verbosity := r.verbosity + 1 }, none)
  | .schemasOnly =>
    if r.overrides.schemasOnly then .error (.repeated o.shown)
    else .ok ({ r with overrides := { r.overrides with schemasOnly := true } }, none)
  | .help => .ok (r, some .help)
  | .version => .ok (r, some .version)
  | _ => .ok (r, none)

/-- How far one argument leads. -/
inductive Progress where
  | goOn (r : Request)
  | wants (r : Request) (o : Flag)
  | stop (c : Command)

/-- Reads letters behind one dash; behind a letter that takes a value stands the value. -/
def letters (argument : String) (r : Request) : List Char → Except UsageFault Progress
  | [] => .ok (.goOn r)
  | c :: rest =>
    match Flag.ofLetter? c with
    | none => .error (.unexpected argument)
    | some o =>
      if o.takesValue then
        match rest with
        | [] => .ok (.wants r o)
        | '=' :: value => (withValue r o (String.ofList value)).map .goOn
        | value => (withValue r o (String.ofList value)).map .goOn
      else match withSwitch r o with
        | .error e => .error e
        | .ok (_, some command) => .ok (.stop command)
        | .ok (r, none) => letters argument r rest

/-- Reads what stands behind two dashes. -/
def longName (argument : String) (r : Request) (cs : List Char) : Except UsageFault Progress :=
  let name := cs.takeWhile (· ≠ '=')
  let value := if name.length = cs.length then none else some (String.ofList (cs.drop (name.length + 1)))
  match Flag.ofLong? (String.ofList name), value with
  | none, _ => .error (.unexpected argument)
  | some o, some value =>
    if o.takesValue then (withValue r o value).map .goOn else .error (.valueUnwanted o.shown value)
  | some o, none =>
    if o.takesValue then .ok (.wants r o)
    else (withSwitch r o).map fun (r, command) => match command with
      | some c => .stop c
      | none => .goOn r

def argument (r : Request) (text : String) : Except UsageFault Progress :=
  match text.toList with
  | '-' :: '-' :: cs => longName text r cs
  | '-' :: c :: cs => letters text r (c :: cs)
  | _ => .error (.unexpected text)

/-- Whether an argument cannot be the value of the option before it. -/
def looksLikeOption (text : String) : Bool :=
  match text.toList with
  | '-' :: _ :: _ => true
  | _ => false

/-- Reads arguments, of which the last one read may still want a value. -/
def arguments (r : Request) (wanting : Option Flag) : List String → Except UsageFault Command
  | [] => match wanting with
    | none => .ok (.run r)
    | some o => .error (.valueMissing o.shown)
  | text :: rest =>
    match wanting with
    | some o =>
      if looksLikeOption text then .error (.valueMissing o.shown)
      else match withValue r o text with
        | .ok r => arguments r none rest
        | .error e => .error e
    | none =>
      if text = "--" then
        match rest with
        | [] => .ok (.run r)
        | extra :: _ => .error (.unexpected extra)
      else match argument r text with
        | .ok (.goOn r) => arguments r none rest
        | .ok (.wants r o) => arguments r (some o) rest
        | .ok (.stop c) => .ok c
        | .error e => .error e

/-- The text that is shown for help; on coloured output headings are bold and underlined, and names are bold. -/
def help (coloured : Bool) : String :=
  let inStyle := fun (style text : String) => if coloured then style ++ text ++ "\x1b[0m" else text
  let heading := inStyle "\x1b[1m\x1b[4m"
  let name := inStyle "\x1b[1m"
  let line := fun (o : Flag) =>
    let letter := match o.letter? with
      | some c => name (String.ofList ['-', c]) ++ ", "
      | none => "    "
    let gap := 18 - o.shown.length - o.operand.length
    "  " ++ letter ++ name o.shown ++ o.operand ++ String.ofList (List.replicate gap ' ') ++ o.purpose ++ "\n"
  "Command-line interface for scheyaml: discovers schema and target YAML files by glob, validates targets against " ++
    "the schemas their directives declare, and prints a colored report.\n\n" ++
    heading "Usage:" ++ " " ++ name "scheyaml" ++ " [OPTIONS]\n\n" ++ heading "Options:" ++ "\n" ++
    String.join (Flag.all.map line)

end CommandLine

/-- What the program leaves behind. -/
structure Answer where
  output : String
  exitCode : Nat
  /-- Why it did not do what was asked. -/
  complaint : Option String := none
  deriving DecidableEq, Repr

namespace Command

def ofArguments (arguments : List String) : Except UsageFault Command := CommandLine.arguments {} none arguments

/-- Resolves the settings and runs with them. -/
def runRequest (fs : FileSystem) (coloured : Bool) (r : Request) : Answer :=
  match Settings.resolve fs r.config r.overrides with
  | .error e => ⟨"", 2, some e.message⟩
  | .ok s =>
    let run := Run.ofSettings fs s
    match run.result with
    | .ok tally => ⟨run.output coloured, tally.exitCode, none⟩
    | .error e => ⟨run.output coloured, 2, some e.message⟩

def execute (fs : FileSystem) (coloured : Bool) (arguments : List String) : Answer :=
  match ofArguments arguments with
  | .error e => ⟨"", 2, some e.message⟩
  | .ok .help => ⟨CommandLine.help coloured, 0, none⟩
  | .ok .version => ⟨s!"scheyaml {Report.version}\n", 0, none⟩
  | .ok (.run r) => runRequest fs coloured r

end Command

end YamlSchema
