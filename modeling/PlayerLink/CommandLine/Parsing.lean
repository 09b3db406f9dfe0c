import PlayerLink.CommandLine.Invocation

/-!
# Reading the command line

Arguments are read from left to right. An option is written with two dashes and its name, its
value after an equals sign or as the next argument, or with one dash and its letter, its value
right behind it, after an equals sign or as the next argument; letters of flags may be written
together. A value that starts with a dash must be joined to its option. After two dashes alone
no more options are taken, and since no subcommand takes anything else, nothing may follow.

The first thing that is wrong, or the first request for help, decides. Help has a line for each
subcommand.
-/

namespace PlayerLink

namespace CommandLine

/-- Why a command line is not run. -/
inductive Refusal where
  | help
  | version
  | error
  deriving DecidableEq, Repr

/-- The options that are understood at a place. -/
structure Grammar where
  options : List CliOption
  /-- Whether the version can be asked for. -/
  hasVersion : Bool

/-- Where reading stands after an argument that holds options. -/
inductive Progressed where
  | ready (given : Settings)
  /-- The next argument is the value of an option. -/
  | awaiting (option : CliOption) (given : Settings)

/-- Takes an option with its value. -/
def takeOption (option : CliOption) (value : String) (given : Settings) :
    Except Refusal Settings :=
  (given.take value option).elim (.error .error) .ok

/-- An argument of two dashes and `body`. -/
def readLong (g : Grammar) (given : Settings) (body : List Char) :
    Except Refusal Progressed :=
  let name := String.ofList (body.takeWhile (· ≠ '='))
  let value := match body.dropWhile (· ≠ '=') with
    | [] => none
    | _ :: value => some (String.ofList value)
  if name = "help" ∨ (name = "version" ∧ g.hasVersion) then
    if value.isSome then .error .error
    else if name = "help" then .error .help else .error .version
  else
    match g.options.find? (·.long = name) with
    | none => .error .error
    | some option =>
      match option.takesValue, value with
      | true, none => .ok (.awaiting option given)
      | true, some value => (takeOption option value given).map .ready
      | false, none => (takeOption option "" given).map .ready
      | false, some _ => .error .error

/-- An argument of one dash and letters. -/
def readShort (g : Grammar) : Settings → List Char → Except Refusal Progressed
  | given, [] => .ok (.ready given)
  | given, c :: rest =>
    if c = 'h' then .error .help
    else if c = 'V' ∧ g.hasVersion then .error .version
    else
      match g.options.find? (·.short = some c) with
      | none => .error .error
      | some option =>
        if option.takesValue then
          match rest with
          | [] => .ok (.awaiting option given)
          | '=' :: value => (takeOption option (String.ofList value) given).map .ready
          | value => (takeOption option (String.ofList value) given).map .ready
        else
          match takeOption option "" given with
          | .error e => .error e
          | .ok given => readShort g given rest

/-- What an argument looks like. -/
inductive Shape where
  | terminator
  | long (body : List Char)
  | short (letters : List Char)
  | plain

/-- A dash alone is an ordinary argument. -/
def shape (arg : String) : Shape :=
  match arg.toList with
  | ['-', '-'] => .terminator
  | '-' :: '-' :: body => .long body
  | '-' :: c :: rest => .short (c :: rest)
  | _ => .plain

/-- Whether an argument starts with a dash and is more than a dash. -/
def isDashed (arg : String) : Bool :=
  match shape arg with
  | .plain => false
  | _ => true

/-- Reads the arguments after a subcommand. -/
def readArguments (g : Grammar) : Progressed → List String → Except Refusal Settings
  | .ready given, [] => .ok given
  | .awaiting _ _, [] => .error .error
  | .awaiting option given, arg :: rest =>
    if isDashed arg then .error .error
    else
      match takeOption option arg given with
      | .error e => .error e
      | .ok given => readArguments g (.ready given) rest
  | .ready given, arg :: rest =>
    match shape arg with
    | .plain => .error .error
    | .terminator => if rest.isEmpty then .ok given else .error .error
    | .long body =>
      match readLong g given body with
      | .error e => .error e
      | .ok progressed => readArguments g progressed rest
    | .short letters =>
      match readShort g given letters with
      | .error e => .error e
      | .ok progressed => readArguments g progressed rest

/-- A command line that can be run. -/
structure Request where
  verbose : Bool
  invocation : Invocation
  deriving DecidableEq, Repr

/-- What is understood in front of the subcommand. -/
def topGrammar : Grammar := ⟨[.verbose], true⟩

/-- Answers a request for help on a subcommand: its name is the only argument. -/
def readHelp : List String → Refusal
  | [] => .help
  | [name] =>
    if name = "help" ∨ Subcommand.all.any (·.name = name) then .help else .error
  | _ => .error

/-- Reads the arguments of a subcommand and puts them together with the options in front of
it. -/
def readSubcommand (before : Settings) (subcommand : Subcommand) (args : List String) :
    Except Refusal Request := do
  let given ← readArguments ⟨subcommand.options, false⟩ (.ready {}) args
  match subcommand.invocation given with
  | none => .error .error
  | some invocation => .ok ⟨before.verbose || given.verbose, invocation⟩

/-- Reads a command line from the options in front of the subcommand on. -/
def readFrom (given : Settings) : List String → Except Refusal Request
  | [] => .error .error
  | arg :: rest =>
    match shape arg with
    | .plain =>
      if arg = "help" then .error (readHelp rest)
      else
        match Subcommand.all.find? (·.name = arg) with
        | some subcommand => readSubcommand given subcommand rest
        | none => .error .error
    | .terminator => .error .error
    | .long body =>
      match readLong topGrammar given body with
      | .ok (.ready given) => readFrom given rest
      | .ok (.awaiting ..) => .error .error
      | .error e => .error e
    | .short letters =>
      match readShort topGrammar given letters with
      | .ok (.ready given) => readFrom given rest
      | .ok (.awaiting ..) => .error .error
      | .error e => .error e

/-- Reads a command line, without the name of the program. -/
def read (args : List String) : Except Refusal Request := readFrom {} args

/-! ### Help -/

/-- An option as it is written. -/
def optionText (o : CliOption) : String :=
  let name := match o.short with
    | some letter => s!"-{letter}|--{o.long}"
    | none => s!"--{o.long}"
  if o.takesValue then s!"[{name} VALUE]" else s!"[{name}]"

/-- A subcommand with its options, on one line. -/
def subcommandText (c : Subcommand) : String :=
  String.intercalate " " (c.name :: c.options.map optionText)

/-- The lines of help. -/
def usage : List String :=
  [ "Talks to portable players over USB mass storage.",
    "",
    "Usage: playerlink [-v|--verbose] SUBCOMMAND",
    "",
    "Subcommands:" ] ++
  Subcommand.all.map (fun c => "  " ++ subcommandText c) ++
  [ "",
    "-h, --help shows this text, -V, --version the version." ]

/-- The name of the program with its version. -/
def version : String := "playerlink 1.0"

/-- The code that the program ends with when a command line is not run. -/
def Refusal.exitCode : Refusal → UInt32
  | .help | .version => 0
  | .error => 2

end CommandLine

end PlayerLink
