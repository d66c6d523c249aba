import HostCall.CommandLine

/-!
The program: the command line on the real file system. What a run reports is logged on the error
stream, debugging details apart.
-/
namespace HostCall

/-- The reason for which the system refused an operation. -/
def FileError.ofSystem : IO.Error → FileError
  | .noFileOrDirectory .. => .notFound
  | .alreadyExists .. => .alreadyExists
  | .inappropriateType _ code _ => if code = 20 then .notADirectory else .isADirectory
  | e => .other (toString e)

/-- Turns a failure of the system into a result. -/
def attempting {α : Type} (action : IO α) : IO (Except FileError α) := do
  match ← action.toBaseIO with
  | .ok value => return .ok value
  | .error e => return .error (.ofSystem e)

instance : FileAccess IO where
  read path := do
    match ← attempting (IO.FS.readBinFile path) with
    | .error e => return .error e
    | .ok bytes => return (String.fromUTF8? bytes).elim (.error .notText) .ok
  write path text := attempting (IO.FS.writeFile path text)
  createDirectories path :=
    if path = "" then return .ok () else attempting (IO.FS.createDirAll path)
  size path := attempting do return (← IO.FS.readBinFile path).size

def usageText : String :=
  "usage: generate [--config PATH]\n" ++
  "       plan [--config PATH] [--function NAME]\n"

def logLines (o : Outcome) : List String :=
  let events := o.events.filter (·.level ≠ .debug)
  events.map (fun e => e.level.label ++ " " ++ e.message) ++
    o.error.toList.map fun e => "ERROR " ++ e.message

end HostCall

def main (arguments : List String) : IO UInt32 := do
  let o ← HostCall.runProgram (m := IO) arguments
  for line in HostCall.logLines o do
    IO.eprintln line
  IO.eprint (if o.code = 2 then HostCall.usageText else o.stderr)
  IO.print o.stdout
  return o.code.toUInt32
