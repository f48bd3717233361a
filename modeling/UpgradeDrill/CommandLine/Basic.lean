import UpgradeDrill.Text.Digits

/-!
# Command lines

What the arguments of the program ask for. They are read from left to right, and what decides first
counts: a request for help, or the first mistake. That an option is missing is noticed only at the
end.
-/

namespace UpgradeDrill

/-- What is wrong with a command line. -/
inductive UsageError where
  | unexpected (argument : String)
  | unknownSubcommand (name : String)
  | missingValue (option : String)
  | invalidValue (option value : String)
  | repeated (option : String)
  | missingOption (option : String)
  deriving DecidableEq, Repr

def UsageError.message : UsageError → String
  | unexpected argument => "error: unexpected argument '" ++ argument ++ "' found"
  | unknownSubcommand name => "error: unrecognized subcommand '" ++ name ++ "'"
  | missingValue option =>
    "error: a value is required for '" ++ option ++ "' but none was supplied"
  | invalidValue option value => "error: invalid value '" ++ value ++ "' for '" ++ option ++ "'"
  | repeated option => "error: the argument '" ++ option ++ "' cannot be used multiple times"
  | missingOption option =>
    "error: the following required arguments were not provided: " ++ option

/-- Options of a drill that take a value. -/
inductive RunOption where
  | config
  | imageTag
  | upgradeName
  | concurrency
  deriving DecidableEq, Repr

namespace RunOption

def long : RunOption → String
  | config => "config"
  | imageTag => "image-tag"
  | upgradeName => "upgrade-name"
  | concurrency => "concurrency"

def ofLong? (name : String) : Option RunOption :=
  [config, imageTag, upgradeName, concurrency].find? (·.long = name)

def ofShort? : Char → Option RunOption
  | 't' => imageTag
  | 'n' => upgradeName
  | _ => none

/-- An option as errors show it. -/
def shown (option : RunOption) : String := "--" ++ option.long ++ " <" ++ option.long ++ ">"

end RunOption

structure RunOptions where
  configPath : String
  imageTag : Option String
  upgradeName : Option String
  concurrency : Option Nat
  deriving DecidableEq, Repr

/-- What a command line asks for. -/
inductive Invocation where
  | help (run : Bool)
  | version
  | run (options : RunOptions)
  | nothing
  | invalid (error : UsageError)
  deriving DecidableEq, Repr

namespace CommandLine

/-- What an argument is by its form. -/
inductive Argument where
  /-- Two dashes by themselves, after which there are no options. -/
  | escape
  /-- A long option, and the value attached to it. -/
  | long (name : String) (value : Option String)
  /-- Short options after one dash. -/
  | shorts (letters : List Char)
  | plain
  deriving DecidableEq, Repr

def Argument.ofString (argument : String) : Argument :=
  match argument.toList with
  | ['-', '-'] => escape
  | '-' :: '-' :: text =>
    let name := text.takeWhile (· ≠ '=')
    match text.dropWhile (· ≠ '=') with
    | [] => long (String.ofList name) none
    | _ :: value => long (String.ofList name) (some (String.ofList value))
  | '-' :: c :: letters => shorts (c :: letters)
  | _ => plain

/-- Whether an argument may be the value of the option before it. -/
def isValue (argument : String) : Bool := Argument.ofString argument = .plain

/-- What was given of a drill's options so far. -/
structure Given where
  values : List (RunOption × String) := []
  verbose : Bool := false

def concurrency? (value : String) : Option Nat :=
  (Digits.below? 10 UInt64.size value.toList).filter (0 < ·)

def accepts (option : RunOption) (value : String) : Bool :=
  match option with
  | .config => value ≠ ""
  | .concurrency => (concurrency? value).isSome
  | .imageTag | .upgradeName => true

/-- Gives an option a value, once. -/
def Given.set (given : Given) (option : RunOption) (value : String) : Except UsageError Given :=
  if accepts option value then
    if (given.values.lookup option).isSome then .error (.repeated option.shown)
    else .ok { given with values := (option, value) :: given.values }
  else .error (.invalidValue option.shown value)

def Given.finish (given : Given) : Invocation :=
  match given.values.lookup .config with
  | none => .invalid (.missingOption (RunOption.config.shown))
  | some configPath =>
    .run {
      configPath
      imageTag := given.values.lookup .imageTag
      upgradeName := given.values.lookup .upgradeName
      concurrency := (given.values.lookup .concurrency).bind concurrency? }

/-- Why reading stops at an argument, or how it goes on. -/
inductive Reading where
  | stop (invocation : Invocation)
  | goOn (given : Given)
  /-- The next argument is the value of an option. -/
  | await (given : Given) (option : RunOption)

/-- Notes the flag for more output, given at most once. -/
def Given.setVerbose (given : Given) : Except UsageError Given :=
  if given.verbose then .error (.repeated "--verbose") else .ok { given with verbose := true }

def Reading.ofExcept : Except UsageError Given → Reading
  | .ok given => goOn given
  | .error error => stop (.invalid error)

/-- Reads short options. The rest of the letters after an option that takes a value is the value. -/
def readShorts (argument : String) (given : Given) : List Char → Reading
  | [] => .goOn given
  | 'h' :: _ => .stop (.help true)
  | 'v' :: letters =>
    match given.setVerbose with
    | .ok given => readShorts argument given letters
    | .error error => .stop (.invalid error)
  | c :: letters =>
    match RunOption.ofShort? c, letters with
    | none, _ => .stop (.invalid (.unexpected argument))
    | some option, [] => .await given option
    | some option, '=' :: value => .ofExcept (given.set option (String.ofList value))
    | some option, value => .ofExcept (given.set option (String.ofList value))

def readArgument (given : Given) (argument : String) : Reading :=
  match Argument.ofString argument with
  | .long "help" none => .stop (.help true)
  | .long "verbose" none => .ofExcept given.setVerbose
  | .long name value =>
    match RunOption.ofLong? name, value with
    | none, _ => .stop (.invalid (.unexpected argument))
    | some option, none => .await given option
    | some option, some value => .ofExcept (given.set option value)
  | .shorts letters => readShorts argument given letters
  | .escape | .plain => .stop (.invalid (.unexpected argument))

def readRun (given : Given) : List String → Invocation
  | [] => given.finish
  | ["--"] => given.finish
  | "--" :: argument :: _ => .invalid (.unexpected argument)
  | argument :: rest =>
    match readArgument given argument, rest with
    | .stop invocation, _ => invocation
    | .goOn given, rest => readRun given rest
    | .await _ option, [] => .invalid (.missingValue option.shown)
    | .await given option, value :: rest =>
      if isValue value then
        match given.set option value with
        | .ok given => readRun given rest
        | .error error => .invalid error
      else .invalid (.missingValue option.shown)

def readHelp : List String → Invocation
  | [] | ["help"] => .help false
  | ["run"] => .help true
  | "run" :: name :: _ | "help" :: name :: _ | name :: _ => .invalid (.unknownSubcommand name)

/-- Reads short flags before a subcommand. -/
def readFlags (argument : String) (verbose : Bool) : List Char → Except Invocation Bool
  | [] => .ok verbose
  | 'h' :: _ => .error (.help false)
  | 'V' :: _ => .error .version
  | 'v' :: letters =>
    if verbose then .error (.invalid (.repeated "--verbose")) else readFlags argument true letters
  | _ => .error (.invalid (.unexpected argument))

def readFrom (verbose : Bool) : List String → Invocation
  | [] => .nothing
  | ["--"] => .nothing
  | "--" :: argument :: _ => .invalid (.unexpected argument)
  | "run" :: rest => readRun {} rest
  | "help" :: rest => readHelp rest
  | argument :: rest =>
    match Argument.ofString argument with
    | .long "help" none => .help false
    | .long "version" none => .version
    | .long "verbose" none =>
      if verbose then .invalid (.repeated "--verbose") else readFrom true rest
    | .shorts letters =>
      match readFlags argument verbose letters with
      | .ok verbose => readFrom verbose rest
      | .error invocation => invocation
    | .plain => .invalid (.unknownSubcommand argument)
    | .long _ _ | .escape => .invalid (.unexpected argument)

def read (arguments : List String) : Invocation := readFrom false arguments

end CommandLine

end UpgradeDrill
