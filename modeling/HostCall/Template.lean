/-!
Templates: a text in which a mark stands for a value to be filled in. The mark is looked for from
left to right and its occurrences do not overlap; a filled-in value is not searched again.
-/
namespace HostCall.Template

/--
Cuts a text at every occurrence of the mark, after passing over the first `skip` characters, and
gives the first piece and the pieces after it.
-/
def cut (mark : List Char) : Nat → List Char → List Char × List (List Char)
  | _, [] => ([], [])
  | skip + 1, _ :: rest => cut mark skip rest
  | 0, c :: rest =>
    if mark.isPrefixOf (c :: rest) then
      let (piece, others) := cut mark (mark.length - 1) rest
      ([], piece :: others)
    else
      let (piece, others) := cut mark 0 rest
      (c :: piece, others)

/-- The pieces of a text between the occurrences of the mark; there is always one. -/
def pieces (mark text : List Char) : List (List Char) :=
  let (piece, others) := cut mark 0 text
  piece :: others

def fillIn (value : List Char) (parts : List (List Char)) : List Char :=
  (parts.intersperse value).flatten

/-- Puts the value at every occurrence of the mark. -/
def instantiate (mark template value : String) : String :=
  String.ofList (fillIn value.toList (pieces mark.toList template.toList))

end HostCall.Template
