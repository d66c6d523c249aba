/-!
Text inside a C string literal. A backslash, a quote and a line feed are written as two
characters each, all else as itself, so the literal ends at the quote that closes it and nowhere
before.
-/
namespace HostCall.Literal

def escapeChar (c : Char) : List Char :=
  match c with
  | '\\' => ['\\', '\\']
  | '"' => ['\\', '"']
  | '\n' => ['\\', 'n']
  | c => [c]

def escapeChars (text : List Char) : List Char := text.flatMap escapeChar

def escape (text : String) : String := String.ofList (escapeChars text.toList)

end HostCall.Literal
