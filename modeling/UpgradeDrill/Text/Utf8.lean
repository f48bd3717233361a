/-!
# Texts as bytes

UTF-8, read strictly, or with each malformed part replaced by U+FFFD. A malformed part is the
longest beginning of a character that the bytes contain, or a single byte that begins none.
-/

namespace UpgradeDrill.Utf8

def encode (text : String) : List UInt8 := text.toUTF8.toList

/-- The text of bytes that are well-formed. -/
def decode? (bytes : List UInt8) : Option String := String.fromUTF8? ⟨bytes.toArray⟩

/-- The character that stands for a malformed part. -/
def replacement : Char := Char.ofNat 0xfffd

/-- A byte in the middle of a character. -/
def isTail (byte : UInt8) : Bool := 0x80 ≤ byte && byte ≤ 0xbf

def tailBits (byte : UInt8) : Nat := byte.toNat % 64

/-- The bytes that may come second after the first byte of a character, and how many bytes the
character has; `none` for a byte that begins no character of several bytes. -/
def lead? (byte : UInt8) : Option ((UInt8 → Bool) × Nat) :=
  if 0xc2 ≤ byte && byte ≤ 0xdf then some (isTail, 2)
  else if byte == 0xe0 then some (fun second => 0xa0 ≤ second && isTail second, 3)
  else if byte == 0xed then some (fun second => second ≤ 0x9f && isTail second, 3)
  else if 0xe1 ≤ byte && byte ≤ 0xef then some (isTail, 3)
  else if byte == 0xf0 then some (fun second => 0x90 ≤ second && isTail second, 4)
  else if 0xf1 ≤ byte && byte ≤ 0xf3 then some (isTail, 4)
  else if byte == 0xf4 then some (fun second => second ≤ 0x8f && isTail second, 4)
  else none

/-- Reads bytes as text, malformed parts replaced. -/
def decodeLossy : List UInt8 → List Char
  | [] => []
  | first :: rest =>
    if first < 0x80 then Char.ofNat first.toNat :: decodeLossy rest
    else
      match lead? first, rest with
      | none, rest => replacement :: decodeLossy rest
      | some _, [] => [replacement]
      | some (mayFollow, size), second :: rest =>
        if mayFollow second then
          if size = 2 then
            Char.ofNat (first.toNat % 32 * 64 + tailBits second) :: decodeLossy rest
          else
            match rest with
            | [] => [replacement]
            | third :: rest =>
              if isTail third then
                if size = 3 then
                  Char.ofNat (first.toNat % 16 * 4096 + tailBits second * 64 + tailBits third) ::
                    decodeLossy rest
                else
                  match rest with
                  | [] => [replacement]
                  | fourth :: rest =>
                    if isTail fourth then
                      Char.ofNat (first.toNat % 8 * 262144 + tailBits second * 4096 +
                        tailBits third * 64 + tailBits fourth) :: decodeLossy rest
                    else replacement :: decodeLossy (fourth :: rest)
              else replacement :: decodeLossy (third :: rest)
        else replacement :: decodeLossy (second :: rest)
termination_by bytes => bytes.length

end UpgradeDrill.Utf8
