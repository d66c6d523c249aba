/-!
Text from bytes that may not be UTF-8. A run of bytes that begins a character and does not complete
it, as long as it can be, becomes one replacement character, and so does a byte that begins none.
-/
namespace HostCall.Text

def replacement : Char := '\ufffd'

def isTail (b : UInt8) : Bool := 0x80 ≤ b && b ≤ 0xbf

/-- Whether a second byte may follow a first one. -/
def mayFollow (first second : UInt8) : Bool :=
  if first = 0xe0 then 0xa0 ≤ second && second ≤ 0xbf
  else if first = 0xed then 0x80 ≤ second && second ≤ 0x9f
  else if first = 0xf0 then 0x90 ≤ second && second ≤ 0xbf
  else if first = 0xf4 then 0x80 ≤ second && second ≤ 0x8f
  else isTail second

/-- How many bytes a character has that begins with this one; none begins with it if there are none. -/
def lengthFrom (first : UInt8) : Nat :=
  if first < 0x80 then 1
  else if 0xc2 ≤ first && first ≤ 0xdf then 2
  else if 0xe0 ≤ first && first ≤ 0xef then 3
  else if 0xf0 ≤ first && first ≤ 0xf4 then 4
  else 0

/-- The character of a first byte, of which `bits` bits count, and the bytes after it. -/
def compose (first : UInt8) (bits : Nat) (tail : List UInt8) : Char :=
  Char.ofNat (tail.foldl (fun n b => n * 64 + b.toNat % 64) (first.toNat % Nat.pow 2 bits))

def decodeLossy : List UInt8 → List Char
  | [] => []
  | a :: rest =>
    if lengthFrom a = 1 then compose a 7 [] :: decodeLossy rest
    else if lengthFrom a = 0 then replacement :: decodeLossy rest
    else
      match rest with
      | [] => [replacement]
      | b :: rest₂ =>
        if !mayFollow a b then replacement :: decodeLossy (b :: rest₂)
        else if lengthFrom a = 2 then compose a 5 [b] :: decodeLossy rest₂
        else
          match rest₂ with
          | [] => [replacement]
          | c :: rest₃ =>
            if !isTail c then replacement :: decodeLossy (c :: rest₃)
            else if lengthFrom a = 3 then compose a 4 [b, c] :: decodeLossy rest₃
            else
              match rest₃ with
              | [] => [replacement]
              | d :: rest₄ =>
                if isTail d then compose a 3 [b, c, d] :: decodeLossy rest₄
                else replacement :: decodeLossy (d :: rest₄)
termination_by bytes => bytes.length

end HostCall.Text
