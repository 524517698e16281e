import Gatehouse.Settings

/-!
# The command line

The gateway is started with one option: the file that its settings are in.

## Main definitions

* `Command`: What is asked for.
* `Command.ofArgs`: The command that arguments spell.
* `Command.usage`: How the command is used.
-/

namespace Gatehouse

/-- What is asked for: to start with the settings in a file, or to be told something. -/
inductive Command where
  | start (file : String)
  | help
  | version
  deriving DecidableEq, Repr

/-- Why arguments spell no command. -/
inductive UsageError where
  | unexpected (argument : String)
  | valueMissing (option : String)
  | repeated (option : String)
  deriving DecidableEq, Repr

/-- The wording of a usage error. -/
def UsageError.message : UsageError → String
  | unexpected argument => s!"unexpected argument '{argument}' found"
  | valueMissing option => s!"a value is required for '{option}' but none was supplied"
  | repeated option => s!"the argument '{option}' cannot be used multiple times"

namespace Command

/-- The file that settings are in unless another one is named. -/
def standardFile : String := "trackgate.toml"

/-- The option that names a file, as it is told. -/
def option : String := "--config <CONFIG>"

/-- How the command is used. -/
def usage : String :=
  "\n".intercalate
    ["Authorizing gateway for experiment tracking servers", "",
     "Usage: trackgate [OPTIONS]", "", "Options:",
     "  -c, --config <CONFIG>  Path to configuration file [default: " ++ standardFile ++ "]",
     "  -h, --help             Print help",
     "  -V, --version          Print version"]

/-- The name and the version. -/
def about : String := "trackgate 0.1.0"

/-- A value that is written together with its option, after a sign of equality or not. -/
def joined? (argument : String) : Option String :=
  let after (mark : String) : Option (List Char) :=
    if mark.toList.isPrefixOf argument.toList then some (argument.toList.drop mark.length)
    else none
  match after "--config=", after "-c=", after "-c" with
  | some value, _, _ => some (String.ofList value)
  | none, some value, _ => some (String.ofList value)
  | none, none, some (c :: value) => some (String.ofList (c :: value))
  | none, none, _ => none

/-- The command that arguments spell, the file being known if it has been named. -/
def ofArgsFrom (file : Option String) : List String → Except UsageError Command
  | [] => .ok (.start (file.getD standardFile))
  | argument :: rest =>
    if argument = "--help" || argument = "-h" then .ok .help
    else if argument = "--version" || argument = "-V" then .ok .version
    else if argument = "--config" || argument = "-c" then
      match rest with
      | [] => .error (.valueMissing option)
      | value :: rest =>
        if file.isSome then .error (.repeated option) else ofArgsFrom (some value) rest
    else
      match joined? argument with
      | none => .error (.unexpected argument)
      | some value =>
        if file.isSome then .error (.repeated option) else ofArgsFrom (some value) rest

/-- The command that arguments spell. -/
def ofArgs (arguments : List String) : Except UsageError Command := ofArgsFrom none arguments

end Command

end Gatehouse
