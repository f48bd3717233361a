/-!
# Variable-length numbers

A number as groups of seven bits, the lowest first, the high bit of a byte set if another byte
follows. A reader takes at most ten bytes and a number of at most 64 bits; it does not insist on the
shortest form.
-/

namespace UpgradeDrill.Wire

def encodeVarint (n : Nat) : List UInt8 :=
  if n < 128 then [UInt8.ofNat n]
  else UInt8.ofNat (n % 128 + 128) :: encodeVarint (n / 128)
termination_by n
decreasing_by omega

/-- Reads a number of at most `size` bytes; the last of ten has room for a single bit. -/
def readVarint (size : Nat) : List UInt8 → Option (Nat × List UInt8)
  | [] => none
  | byte :: rest =>
    match size with
    | 0 => none
    | size + 1 =>
      if byte.toNat < 128 then
        if size = 0 ∧ 2 ≤ byte.toNat then none else some (byte.toNat, rest)
      else do
        let (high, rest) ← readVarint size rest
        return (byte.toNat - 128 + 128 * high, rest)

def decodeVarint (bytes : List UInt8) : Option (Nat × List UInt8) := readVarint 10 bytes

theorem length_lt_of_readVarint {size : Nat} {bytes rest : List UInt8} {n : Nat}
    (h : readVarint size bytes = some (n, rest)) : rest.length < bytes.length := by
  induction bytes generalizing size n rest with
  | nil => simp [readVarint] at h
  | cons byte tail ih =>
    cases size with
    | zero => simp [readVarint] at h
    | succ size =>
      simp only [readVarint] at h
      split at h
      · split at h
        · cases h
        · cases h
          exact Nat.lt_succ_self _
      · obtain ⟨⟨high, after⟩, read, same⟩ := Option.bind_eq_some_iff.1 h
        cases same
        exact Nat.lt_succ_of_lt (ih read)

theorem length_lt_of_decodeVarint {bytes rest : List UInt8} {n : Nat}
    (h : decodeVarint bytes = some (n, rest)) : rest.length < bytes.length :=
  length_lt_of_readVarint h

end UpgradeDrill.Wire
