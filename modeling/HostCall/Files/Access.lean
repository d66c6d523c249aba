import HostCall.Files.FileSystem

/-!
Access to files from within a computation. A run is written against this interface, so that it
works on a file system that is a value as it does on the real one.
-/
namespace HostCall

class FileAccess (m : Type → Type) where
  read : String → m (Except FileError String)
  /-- Replaces what is in a file, or makes it. -/
  write : String → String → m (Except FileError Unit)
  createDirectories : String → m (Except FileError Unit)
  size : String → m (Except FileError Nat)

instance : FileAccess (StateM FileSystem) where
  read path := do return (← get).read path
  write path text := do
    match (← get).write path text.toUTF8 with
    | .error e => return .error e
    | .ok fs =>
      set fs
      return .ok ()
  createDirectories path := modifyGet fun fs => fs.createDirectories path
  size path := do return (← get).size path

end HostCall
