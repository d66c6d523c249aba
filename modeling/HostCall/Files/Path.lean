/-!
Paths as they are written. A path is taken as text: joining and taking the parent leave everything
else in it as it is.
-/
namespace HostCall.Path

def isAbsolute (path : String) : Bool := path.toList.head? == some '/'

def endsInSeparator (path : String) : Bool := path.toList.getLast? == some '/'

/-- The path of something below a directory; an absolute path stays as it is. -/
def join (base path : String) : String :=
  if isAbsolute path then path
  else if base = "" || endsInSeparator base then base ++ path
  else base ++ "/" ++ path

/--
Drops separators and parts that are a lone dot from the end of a path, which is given from its end
to its start.
-/
def trimEnd : List Char → List Char
  | '/' :: rest => trimEnd rest
  | '.' :: '/' :: rest => trimEnd rest
  | ['.'] => []
  | path => path

/-- Splits off what a path starts with: the root, or a lone dot. -/
def splitStart (path : List Char) : List Char × List Char :=
  match path with
  | '/' :: rest => (['/'], rest)
  | ['.'] => (['.'], [])
  | '.' :: '/' :: rest => (['.'], '/' :: rest)
  | path => ([], path)

/-- The path without its last part, if it has one. -/
def parent? (path : String) : Option String :=
  let (start, body) := splitStart path.toList
  match trimEnd body.reverse with
  | [] => if start = ['.'] then some "" else none
  | trimmed =>
    let rest := trimEnd (trimmed.dropWhile (· ≠ '/'))
    some (String.ofList (start ++ rest.reverse))

/-- The directory that a file's own paths are relative to. -/
def directoryOf (file : String) : String :=
  match parent? file with
  | none | some "" => "."
  | some directory => directory

/-- The text between separators; an empty part stands between two that adjoin. -/
def splitSeparators : List Char → List (List Char)
  | [] => [[]]
  | c :: rest =>
    match splitSeparators rest with
    | [] => [[c]]
    | part :: parts => if c = '/' then [] :: part :: parts else (c :: part) :: parts

/-- The names that lead to a file, one below the other. A separator at the end asks for a directory. -/
def parts (path : String) : List String :=
  let names := (splitSeparators path.toList).filter (· ≠ [])
  let names := names.map String.ofList
  if endsInSeparator path && !names.isEmpty then names ++ ["."] else names

/-- A path without the separators at its end. -/
def trimSeparators (path : String) : String :=
  match path.toList.reverse.dropWhile (· = '/') with
  | [] => path
  | trimmed => String.ofList trimmed.reverse

end HostCall.Path
