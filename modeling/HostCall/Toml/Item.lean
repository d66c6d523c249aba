/-!
What a TOML document holds. Tables keep their keys in order, and remember how they came to be,
because that decides what may still be added to them.
-/
namespace HostCall.Toml

/-- How a table came to be. -/
inductive Origin where
  /-- It has a header of its own. -/
  | header
  /-- A longer header passes through it. -/
  | implied
  /-- A dotted key passes through it. -/
  | dotted
  /-- It is written in braces. -/
  | inline
  deriving DecidableEq, Repr

inductive Item where
  | string (value : String)
  | integer (value : Int)
  /-- A floating-point number, as messages spell it. -/
  | real (spelling : String)
  | boolean (value : Bool)
  | datetime
  | array (items : List Item)
  | table (origin : Origin) (entries : List (String × Item))
  /-- An array of tables with a header each. -/
  | tables (elements : List (List (String × Item)))
  deriving Repr

/-- The keys of a table and their values, in order. -/
abbrev Entries := List (String × Item)

namespace Entries

def get? (entries : Entries) (key : String) : Option Item := entries.lookup key

def erase (entries : Entries) (key : String) : Entries := entries.filter (·.1 != key)

/-- Changes the value of a key in its place, or adds the key at the end. -/
def change (key : String) (f : Option Item → Option Item) : Entries → Option Entries
  | [] => (f none).map fun value => [(key, value)]
  | (k, value) :: rest =>
    if k = key then (f (some value)).map fun value => (k, value) :: rest
    else (change key f rest).map ((k, value) :: ·)

def changeLast (f : Entries → Option Entries) : List Entries → Option (List Entries)
  | [] => none
  | [last] => (f last).map ([·])
  | first :: rest => (changeLast f rest).map (first :: ·)

/--
Gives a dotted key its value. Tables on the way are made as they are needed; those that are there
already must not have a header of their own, and the last of them must have come from a dotted key.
-/
def assign (value : Item) : List String → Entries → Option Entries
  | [], _ => none
  | [key], entries => change key (fun old => if old.isSome then none else some value) entries
  | key :: path, entries =>
    let mayEnd := path.length ≠ 1
    change key
      (fun
        | none => (assign value path []).map (.table .dotted)
        | some (.table .dotted inner) => (assign value path inner).map (.table .dotted)
        | some (.table .implied inner) =>
          if mayEnd then (assign value path inner).map (.table .implied) else none
        | some (.tables elements) =>
          if mayEnd then (changeLast (assign value path) elements).map .tables else none
        | some _ => none)
      entries

def assignAll (assignments : List (List String × Item)) (entries : Entries) : Option Entries :=
  assignments.foldlM (fun entries (path, value) => assign value path entries) entries

/--
Makes a change in the table that a header's path leads to. Tables on the way are made as they are
needed; of an array of tables the last one is meant.
-/
def descend (f : Entries → Option Entries) : List String → Entries → Option Entries
  | [], entries => f entries
  | key :: path, entries =>
    change key
      (fun
        | none => (descend f path []).map (.table .implied)
        | some (.table .inline _) => none
        | some (.table origin inner) => (descend f path inner).map (.table origin)
        | some (.tables elements) => (changeLast (descend f path) elements).map .tables
        | some _ => none)
      entries

/--
Adds a table with a header. Headers of longer paths may have passed through it before; it then
keeps what is in it and takes its place after the keys that are there.
-/
def addTable (key : String) (assignments : List (List String × Item)) (entries : Entries) :
    Option Entries := do
  let inner ← match entries.get? key with
    | none => some []
    | some (.table .implied inner) => some inner
    | some _ => none
  let filled ← assignAll assignments inner
  return entries.erase key ++ [(key, .table .header filled)]

def addElement (key : String) (assignments : List (List String × Item)) (entries : Entries) :
    Option Entries := do
  let filled ← assignAll assignments []
  change key
    (fun
      | none => some (.tables [filled])
      | some (.tables elements) => some (.tables (elements ++ [filled]))
      | some _ => none)
    entries

end Entries

end HostCall.Toml
