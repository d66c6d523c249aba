import HostCall.Files.FileError
import HostCall.Files.Path
import HostCall.Text.Lossy

/-!
A file system as a value: what is where below its root, and the directory that relative paths start
from. Operations follow links, and fail for the reasons for which they fail on a real one.
-/
namespace HostCall

/-- The names that lead from the root to a place. -/
abbrev Location := List String

inductive Entry where
  | file (bytes : ByteArray)
  | directory
  /-- A link, with the path that it stands for. -/
  | link (target : String)
  /-- A device that is empty and takes whatever is written to it. -/
  | sink

def Entry.isDirectory : Entry → Bool
  | directory => true
  | file _ | link _ | sink => false

structure FileSystem where
  entries : List (Location × Entry) := []
  /-- The directory that relative paths start from. -/
  current : Location := []

inductive Target where
  | found (location : Location) (entry : Entry)
  /-- The directory is there, but nothing of this name is in it. -/
  | missing (directory : Location) (name : String)

namespace FileSystem

/-- What is at a place; at the root there is a directory. -/
def entry? (fs : FileSystem) (location : Location) : Option Entry :=
  if location = [] then some .directory else fs.entries.lookup location

def put (fs : FileSystem) (location : Location) (entry : Entry) : FileSystem :=
  { fs with entries := (location, entry) :: fs.entries.filter (·.1 ≠ location) }

/--
Goes from a directory along the parts of a path; where a link is followed, `onLink` goes on along
the link's path and the parts after it. A link that is the last part is followed only if `follow`
says so.
-/
def walkParts (fs : FileSystem) (follow : Bool)
    (onLink : Location → List String → Except FileError Target) (location : Location)
    (parts : List String) : Except FileError Target :=
  match fs.entry? location with
  | none => .error .notFound
  | some entry =>
    match parts with
    | [] => .ok (.found location entry)
    | part :: rest =>
      if !entry.isDirectory then .error .notADirectory
      else if part = "." then fs.walkParts follow onLink location rest
      else if part = ".." then fs.walkParts follow onLink location.dropLast rest
      else
        let next := location ++ [part]
        match fs.entry? next with
        | none => if rest = [] then .ok (.missing location part) else .error .notFound
        | some (.link path) =>
          if rest = [] && !follow then .ok (.found next (.link path))
          else onLink (if Path.isAbsolute path then [] else location) (Path.parts path ++ rest)
        | some _ => fs.walkParts follow onLink next rest

/-- Goes from a directory along the parts of a path and follows a number of links at most. -/
def walk (fs : FileSystem) (follow : Bool) :
    Nat → Location → List String → Except FileError Target
  | 0 => fs.walkParts follow fun _ _ => .error .tooManyLinks
  | links + 1 => fs.walkParts follow (fs.walk follow links)

def locate (fs : FileSystem) (follow : Bool) (path : String) : Except FileError Target :=
  if path = "" then .error .notFound
  else
    let start := if Path.isAbsolute path then [] else fs.current
    fs.walk follow 40 start (Path.parts path)

def read (fs : FileSystem) (path : String) : Except FileError String :=
  match fs.locate true path with
  | .error e => .error e
  | .ok (.missing ..) => .error .notFound
  | .ok (.found _ (.file bytes)) =>
    match String.fromUTF8? bytes with
    | some text => .ok text
    | none => .error .notText
  | .ok (.found _ .sink) => .ok ""
  | .ok (.found _ .directory) => .error .isADirectory
  | .ok (.found _ (.link _)) => .error .tooManyLinks

/-- Replaces what is in a file, or makes the file in a directory that is there. -/
def write (fs : FileSystem) (path : String) (bytes : ByteArray) : Except FileError FileSystem :=
  match fs.locate true path with
  | .error e => .error e
  | .ok (.missing directory name) => .ok (fs.put (directory ++ [name]) (.file bytes))
  | .ok (.found location (.file _)) => .ok (fs.put location (.file bytes))
  | .ok (.found _ .sink) => .ok fs
  | .ok (.found _ .directory) => .error .isADirectory
  | .ok (.found _ (.link _)) => .error .tooManyLinks

/-- How many bytes there are to read at a path; a directory counts as not empty. -/
def size (fs : FileSystem) (path : String) : Except FileError Nat :=
  match fs.locate true path with
  | .error e => .error e
  | .ok (.missing ..) => .error .notFound
  | .ok (.found _ (.file bytes)) => .ok bytes.size
  | .ok (.found _ .sink) => .ok 0
  | .ok (.found ..) => .ok 4096

def isDirectory (fs : FileSystem) (path : String) : Bool :=
  match fs.locate true path with
  | .ok (.found _ .directory) => true
  | _ => false

def createDirectory (fs : FileSystem) (path : String) : Except FileError FileSystem :=
  match fs.locate false (Path.trimSeparators path) with
  | .error e => .error e
  | .ok (.missing directory name) => .ok (fs.put (directory ++ [name]) .directory)
  | .ok (.found ..) => .error .alreadyExists

def ensureDirectory (fs : FileSystem) (path : String) : Except FileError Unit × FileSystem :=
  match fs.createDirectory path with
  | .ok fs => (.ok (), fs)
  | .error e => (if fs.isDirectory path then .ok () else .error e, fs)

/--
Makes a directory and those above it that are missing, at most `depth` of them; what has been made
stays when something fails.
-/
def createWithParents (fs : FileSystem) : Nat → String → Except FileError Unit × FileSystem
  | 0, _ => (.error .notFound, fs)
  | depth + 1, path =>
    if path = "" then (.ok (), fs)
    else
      match fs.createDirectory path with
      | .ok fs => (.ok (), fs)
      | .error .notFound =>
        match Path.parent? path with
        | none => (.error .notFound, fs)
        | some parent =>
          match fs.createWithParents depth parent with
          | (.error e, fs) => (.error e, fs)
          | (.ok (), fs) => fs.ensureDirectory path
      | .error e => (if fs.isDirectory path then .ok () else .error e, fs)

def createDirectories (fs : FileSystem) (path : String) : Except FileError Unit × FileSystem :=
  fs.createWithParents (path.length + 1) path

/-- Puts an entry below the current directory, in directories that are made for it. -/
def install (fs : FileSystem) (path : String) (entry : Entry) : FileSystem :=
  go fs fs.current ((Path.parts path).filter (· ≠ "."))
where
  go (fs : FileSystem) (location : Location) : List String → FileSystem
    | [] => fs
    | [name] => fs.put (location ++ [name]) entry
    | name :: rest =>
      let next := location ++ [name]
      let fs := if (fs.entry? next).isSome then fs else fs.put next .directory
      go fs next rest

/-- The files and directories below the current directory; a directory has no text. -/
def listing (fs : FileSystem) : List (String × Option String) :=
  fs.entries.filterMap fun (location, entry) =>
    if fs.current.isPrefixOf location && location ≠ fs.current then
      let path := "/".intercalate (location.drop fs.current.length)
      match entry with
      | .file bytes => some (path, some (text bytes))
      | .directory => some (path ++ "/", none)
      | .link _ | .sink => none
    else none
where
  /-- The text of a file, whatever its bytes are. -/
  text (bytes : ByteArray) : String :=
    match String.fromUTF8? bytes with
    | some text => text
    | none => String.ofList (Text.decodeLossy bytes.toList)

/-- A file system with a device to write to in vain and an empty directory to work in. -/
def fresh : FileSystem :=
  { entries := [(["dev"], .directory), (["dev", "null"], .sink), (["tmp"], .directory),
                (["tmp", "work"], .directory)]
    current := ["tmp", "work"] }

end FileSystem

end HostCall
