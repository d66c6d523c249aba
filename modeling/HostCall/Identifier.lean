/-!
Names in the generated code: which texts are C identifiers, and the names and type spellings
that a wrapper derives from those of its function's parameters.
-/
namespace HostCall

def isIdentifierStart (c : Char) : Bool := c.isAlpha || c == '_'

def isIdentifierPart (c : Char) : Bool := c.isAlphanum || c == '_'

/-- A C identifier is made of ASCII letters, digits and underscores and does not start with a digit. -/
def isIdentifier (name : String) : Bool :=
  match name.toList with
  | [] => false
  | c :: rest => isIdentifierStart c && rest.all isIdentifierPart

/-- The C spelling of a type or of a pointer to it. -/
def typeSpelling (type : String) (isPointer : Bool) : String :=
  if isPointer then type ++ "*" else type

/-- The local that holds the host copy of a struct parameter. -/
def localCopyName (param : String) : String := "local_" ++ param

/-- The class that copies a guest struct of this type into host memory. -/
def marshalClassName (type : String) : String := "Marshal" ++ type

/-- The flag that keeps a wrapper from reporting the same parameter twice. -/
def shownFlagName (param : String) : String := "shown_" ++ param

def addressOf (expression : String) : String := "&" ++ expression

end HostCall
