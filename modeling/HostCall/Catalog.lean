import HostCall.NameSet
import HostCall.Settings
import HostCall.Unsupported

/-!
What a run knows beforehand and never changes: the types, the types that are excluded, and the
parameters that return mapped ranges. Of several entries under one name the last one counts.
-/
namespace HostCall

structure Catalog where
  types : List TypeEntry := []
  excluded : List String := []
  mappings : List Mapping := []
  deriving DecidableEq, Repr, Inhabited

namespace Catalog

def ofConfig (types : List TypeEntry) (m : Marshalling) : Catalog :=
  { types, excluded := m.excludedTypes, mappings := m.mappings }

/-- States one more mapped range. -/
def withMapping (c : Catalog) (m : Mapping) : Catalog := { c with mappings := c.mappings ++ [m] }

def category? (c : Catalog) (type : String) : Option Category :=
  (c.types.findRev? (·.name == type)).map (·.category)

def isRegistered (c : Catalog) (type : String) : Bool := (c.category? type).isSome

/-- Whether a type is registered as a struct or union. -/
def hasLayout (c : Catalog) (type : String) : Bool := (c.category? type).any Category.hasLayout

def names (c : Catalog) : NameSet := .ofList (c.types.map (·.name))

def isExcluded (c : Catalog) (type : String) : Bool := c.excluded.contains type

/-- The range that a function returns through a parameter of this declared name. -/
def range? (c : Catalog) (function param : String) : Option MappedRange :=
  (c.mappings.findRev? fun m => m.function == function && m.param == param).map (·.toMappedRange)

end Catalog

end HostCall
