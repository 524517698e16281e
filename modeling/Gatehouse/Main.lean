import Gatehouse.Command
import Gatehouse.Startup

/-!
# The command

Reads the settings, opens the ledger, makes sure that there is an administrator, looks at
all that a gateway needs, and tells where it is to listen.
-/

namespace Gatehouse.Main

/-- The text of a file, if there is one. -/
def textOfFile (path : String) : IO (Option String) := do
  try
    return some (Text.ofUtf8Lossy (← IO.FS.readBinFile path).toList)
  catch _ => return none

/-- The variables of the gateway that are set. -/
def variablesSet : IO Environment := do
  let mut found := []
  for name in Settings.variableNames do
    if let some value ← IO.getEnv name then found := found ++ [(name, value)]
  return found

/-- Reports why the command ends. -/
def failWith (status : UInt32) (message : String) : IO UInt32 := do
  IO.eprintln s!"Error: {message}"
  return status

/-- Gets a gateway ready with the settings in a file. -/
def start (file : String) : IO UInt32 := do
  match Settings.load (← textOfFile file) (← variablesSet) with
  | .error e => failWith 1 e.message
  | .ok settings =>
    match settings.ledger, settings.plan with
    | .error e, _ => failWith 1 e.message
    | .ok _, .error refusal => failWith 1 refusal.message
    | .ok _, .ok plan =>
      IO.println s!"Gateway for {plan.site.base.text} ready to listen on {settings.address}"
      return 0

/-- Does what the arguments ask for. -/
def run (arguments : List String) : IO UInt32 := do
  match Command.ofArgs arguments with
  | .error e => failWith 2 e.message
  | .ok .help => IO.println Command.usage; return 0
  | .ok .version => IO.println Command.about; return 0
  | .ok (.start file) => start file

end Gatehouse.Main

/-- The command. -/
def main (arguments : List String) : IO UInt32 := Gatehouse.Main.run arguments
