import UpgradeDrill.Text.Digits

/-!
# Bytes as hexadecimal text

Two lower-case digits for each byte. Reading takes either case and gives back what was written.
-/

namespace UpgradeDrill.Hex

def digit (n : Nat) : Char :=
  if n < 10 then Char.ofNat ('0'.toNat + n) else Char.ofNat ('a'.toNat + (n - 10))

/-- The two digits of each byte. -/
def encode : List UInt8 → List Char
  | [] => []
  | byte :: rest => digit (byte.toNat / 16) :: digit (byte.toNat % 16) :: encode rest

def decode? : List Char → Option (List UInt8)
  | [] => some []
  | [_] => none
  | high :: low :: rest => do
    let high ← Digits.value? 16 high
    let low ← Digits.value? 16 low
    return UInt8.ofNat (16 * high + low) :: (← decode? rest)

def ofBytes (bytes : List UInt8) : String := String.ofList (encode bytes)

def toBytes? (text : String) : Option (List UInt8) := decode? text.toList

end UpgradeDrill.Hex
