/-!
# UTF-8

Octets and the text they write. Decoding accepts exactly the shortest forms of the characters: no
overlong form, no surrogate, nothing above U+10FFFF. A fault names the index of the first octet
that does not start a character, and how many octets there begin one validly; when the octets end
inside such a beginning, the text is incomplete rather than invalid.
-/

namespace AlignmentTally.Utf8

/-- Why octets are not UTF-8. -/
inductive Error where
  /-- The octets from `index` on begin no character: the first `length` of them rule it out. -/
  | invalid (index length : Nat)
  /-- The octets end inside the character that begins at `index`. -/
  | incomplete (index : Nat)
  deriving DecidableEq, Repr

/-- The fault in words. -/
def Error.message : Error → String
  | invalid index length => s!"invalid utf-8 sequence of {length} bytes from index {index}"
  | incomplete index => s!"incomplete utf-8 byte sequence from index {index}"

/-- The octets of a text. -/
def encode (text : String) : List UInt8 := text.toList.flatMap String.utf8EncodeChar

/-- Whether an octet continues a character. -/
def isTail (b : UInt8) : Bool := 0x80 ≤ b && b ≤ 0xbf

/-- The least and the greatest second octet of a character that begins with `a`; `none` when no
character of several octets begins with `a`. -/
def secondRange? (a : UInt8) : Option (UInt8 × UInt8) :=
  if a < 0xc2 ∨ 0xf4 < a then none
  else if a = 0xe0 then some (0xa0, 0xbf)
  else if a = 0xed then some (0x80, 0x9f)
  else if a = 0xf0 then some (0x90, 0xbf)
  else if a = 0xf4 then some (0x80, 0x8f)
  else some (0x80, 0xbf)

/-- The character of two octets. -/
def two (a b : UInt8) : Char := .ofNat ((a.toNat - 0xc0) * 64 + (b.toNat - 0x80))

/-- The character of three octets. -/
def three (a b c : UInt8) : Char :=
  .ofNat ((a.toNat - 0xe0) * 4096 + (b.toNat - 0x80) * 64 + (c.toNat - 0x80))

/-- The character of four octets. -/
def four (a b c d : UInt8) : Char :=
  .ofNat ((a.toNat - 0xf0) * 262144 + (b.toNat - 0x80) * 4096 + (c.toNat - 0x80) * 64 +
    (d.toNat - 0x80))

/-- The characters of octets that stand from `index` on. -/
def decodeFrom (index : Nat) : List UInt8 → Except Error (List Char)
  | [] => .ok []
  | a :: rest =>
    if a < 0x80 then do
      return .ofNat a.toNat :: (← decodeFrom (index + 1) rest)
    else
      match secondRange? a, rest with
      | none, _ => .error (.invalid index 1)
      | some _, [] => .error (.incomplete index)
      | some (low, high), b :: rest =>
        if b < low ∨ high < b then .error (.invalid index 1)
        else if a < 0xe0 then do
          return two a b :: (← decodeFrom (index + 2) rest)
        else
          match rest with
          | [] => .error (.incomplete index)
          | c :: rest =>
            if ¬ isTail c then .error (.invalid index 2)
            else if a < 0xf0 then do
              return three a b c :: (← decodeFrom (index + 3) rest)
            else
              match rest with
              | [] => .error (.incomplete index)
              | d :: rest =>
                if ¬ isTail d then .error (.invalid index 3)
                else do
                  return four a b c d :: (← decodeFrom (index + 4) rest)

/-- The text that octets write. -/
def decode (octets : List UInt8) : Except Error String :=
  (decodeFrom 0 octets).map String.ofList

end AlignmentTally.Utf8
