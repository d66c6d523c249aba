import HostCall.Files.FileError
import HostCall.Mismatch
import HostCall.Unsupported

/-!
Why a run fails.
-/
namespace HostCall

/-- What is wrong with an output file after it was written. -/
inductive OutputFault where
  | empty (path : String)
  | missing (path : String)
  /-- A fault in the reporter's own words. -/
  | stated (text : String)
  deriving DecidableEq, Repr

def OutputFault.message : OutputFault → String
  | empty path => "output empty: " ++ path
  | missing path => "output missing: " ++ path
  | stated text => text

inductive RunError where
  | unsupported (u : Unsupported)
  | verify (faults : List OutputFault)
  | read (path : String) (cause : FileError)
  | write (path : String) (cause : FileError)
  | descriptors (path : String) (cause : Refusal)
  | config (path : String) (cause : Refusal)
  deriving DecidableEq, Repr

def Refusal.message : Refusal → String
  | malformed => "syntax error"
  | mismatch m => m.message

def RunError.message : RunError → String
  | unsupported u => u.message
  | verify faults =>
    "verification failed:\n  - " ++ "\n  - ".intercalate (faults.map (·.message))
  | read path cause => "failed to read " ++ path ++ ": " ++ cause.message
  | write path cause => "failed to write " ++ path ++ ": " ++ cause.message
  | descriptors path cause => "failed to parse " ++ path ++ ": " ++ cause.message
  | config path cause => "failed to parse " ++ path ++ ": " ++ cause.message

end HostCall
