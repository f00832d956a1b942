import ProviderGen.HostPath
import ProviderGen.Text.Split

/-!
The arguments of the command line. Options of the program come before the command and options of
a command after it; every option may be given once, and no command takes anything else.
-/

namespace ProviderGen.CommandLine

inductive Command where
  | generate (config output : HostPath) (skipFormat : Bool)
  | plan (config : HostPath)
deriving DecidableEq, Repr

/-- What the arguments ask for; `misuse` stands for arguments that are refused. -/
inductive Request where
  | run (command : Command)
  | help
  | misuse
deriving DecidableEq, Repr

structure GlobalOptions where
  verbose : Bool := false
  debug : Bool := false

structure CommandOptions where
  config? : Option String := none
  output? : Option String := none
  skipFormat : Bool := false

inductive Step (α : Type) where
  | next (options : α)
  | help
  | misuse

def isValue (argument : String) : Bool :=
  !Text.startsWith '-' argument || argument = "-"

def Step.ofFlag {α : Type} (given : Bool) (options : α) : Step α :=
  if given then .misuse else .next options

namespace GlobalOptions

def verboseFlag (options : GlobalOptions) : Step GlobalOptions :=
  .ofFlag options.verbose { options with verbose := true }

def debugFlag (options : GlobalOptions) : Step GlobalOptions :=
  .ofFlag options.debug { options with debug := true }

def letters (options : GlobalOptions) : List Char → Step GlobalOptions
  | [] => .next options
  | letter :: rest =>
    let step :=
      if letter = 'v' then options.verboseFlag
      else if letter = 'd' then options.debugFlag
      else if letter = 'h' then .help
      else .misuse
    match step with
    | .next options => options.letters rest
    | .help => .help
    | .misuse => .misuse

end GlobalOptions

namespace CommandOptions

def setConfig (options : CommandOptions) (value : String) : Step CommandOptions :=
  if options.config?.isSome || value = "" then .misuse
  else .next { options with config? := some value }

def setOutput (options : CommandOptions) (value : String) : Step CommandOptions :=
  if options.output?.isSome || value = "" then .misuse
  else .next { options with output? := some value }

end CommandOptions

inductive CommandName where
  | generate
  | plan
deriving DecidableEq, Repr

def valueOption? (command : CommandName) (name : String) :
    Option (CommandOptions → String → Step CommandOptions) :=
  if name = "config" then some CommandOptions.setConfig
  else if name = "output" && command = .generate then some CommandOptions.setOutput
  else none

def longName (letter : Char) : String :=
  if letter = 'c' then "config" else if letter = 'o' then "output" else ""

def readOptions (command : CommandName) : CommandOptions → List String → Step CommandOptions
  | options, [] => .next options
  | options, argument :: rest =>
    match argument.toList with
    | ['-', '-'] =>
      match rest with
      | [] => .next options
      | _ :: _ => .misuse
    | '-' :: '-' :: long =>
      let name := String.ofList (long.takeWhile (· != '='))
      match long.dropWhile (· != '=') with
      | [] =>
        if name = "help" then .help
        else if name = "skip-format" && command = .generate then
          if options.skipFormat then .misuse
          else readOptions command { options with skipFormat := true } rest
        else match valueOption? command name, rest with
          | some set, value :: rest =>
            if !isValue value then .misuse
            else match set options value with
              | .next options => readOptions command options rest
              | .help => .help
              | .misuse => .misuse
          | _, _ => .misuse
      | _ :: value =>
        match valueOption? command name with
        | none => .misuse
        | some set =>
          match set options (String.ofList value) with
          | .next options => readOptions command options rest
          | .help => .help
          | .misuse => .misuse
    | '-' :: letter :: attached =>
      if letter = 'h' then .help
      else match valueOption? command (longName letter), attached, rest with
        | none, _, _ => .misuse
        | some _, [], [] => .misuse
        | some set, [], value :: rest =>
          if !isValue value then .misuse
          else match set options value with
            | .next options => readOptions command options rest
            | .help => .help
            | .misuse => .misuse
        | some set, first :: more, rest =>
          match set options (String.ofList (if first = '=' then more else first :: more)) with
          | .next options => readOptions command options rest
          | .help => .help
          | .misuse => .misuse
    | _ => .misuse

def defaultConfig : String := "upforge.toml"

def configVariable : String := "UPFORGE_CONFIG"

/-- The command that options amount to. The environment counts only for what no option gives, and
an empty value is refused there too. -/
def CommandOptions.request (command : CommandName) (environment? : Option String)
    (options : CommandOptions) : Request :=
  let config := options.config?.getD (environment?.getD defaultConfig)
  if config = "" then .misuse
  else match command, options.output? with
    | .plan, _ => .run (.plan ⟨config⟩)
    | .generate, some output => .run (.generate ⟨config⟩ ⟨output⟩ options.skipFormat)
    | .generate, none => .misuse

def readCommand (command : CommandName) (environment? : Option String)
    (arguments : List String) : Request :=
  match readOptions command {} arguments with
  | .next options => options.request command environment?
  | .help => .help
  | .misuse => .misuse

def readHelp : List String → Request
  | [] => .help
  | [topic] => if topic = "generate" || topic = "plan" || topic = "help" then .help else .misuse
  | _ :: _ :: _ => .misuse

def readArguments (environment? : Option String) : GlobalOptions → List String → Request
  | _, [] => .misuse
  | options, argument :: rest =>
    if argument = "generate" then readCommand .generate environment? rest
    else if argument = "plan" then readCommand .plan environment? rest
    else if argument = "help" then readHelp rest
    else
      let step : Step GlobalOptions :=
        match argument.toList with
        | ['-', '-'] => .misuse
        | '-' :: '-' :: name =>
          if name = "verbose".toList then options.verboseFlag
          else if name = "debug".toList then options.debugFlag
          else if name = "help".toList then .help
          else .misuse
        | '-' :: letter :: letters => options.letters (letter :: letters)
        | _ => .misuse
      match step with
      | .next options => readArguments environment? options rest
      | .help => .help
      | .misuse => .misuse

end ProviderGen.CommandLine
