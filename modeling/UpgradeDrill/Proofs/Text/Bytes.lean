import Mathlib.Data.List.Basic
import Mathlib.Tactic.Lemma
import UpgradeDrill.Text.Base64
import UpgradeDrill.Text.Hex

/-!
# Bytes as text

Text in base 64 is read as bytes exactly if it is what these bytes are written as, but for padding
that may be left out (`Base64.decode?_eq_some_iff`). Text in hexadecimal digits is read back as the
bytes it was written from (`Hex.toBytes?_ofBytes`).
-/

namespace UpgradeDrill

namespace Base64

/-- The symbol for six bits. -/
def symbol (n : Nat) : Char :=
  if n < 26 then Char.ofNat ('A'.toNat + n)
  else if n < 52 then Char.ofNat ('a'.toNat + (n - 26))
  else if n < 62 then Char.ofNat ('0'.toNat + (n - 52))
  else if n = 62 then '+'
  else '/'

/-- The bits of bytes in groups of six, the last one filled up with zeros. -/
def pack : List UInt8 → List Nat
  | [] => []
  | [a] => [a.toNat / 4, a.toNat % 4 * 16]
  | [a, b] => [a.toNat / 4, a.toNat % 4 * 16 + b.toNat / 16, b.toNat % 16 * 4]
  | a :: b :: c :: rest =>
    a.toNat / 4 :: (a.toNat % 4 * 16 + b.toNat / 16) :: (b.toNat % 16 * 4 + c.toNat / 64) ::
      c.toNat % 64 :: pack rest

/-- How many signs fill up the last group of four symbols. -/
def padding (bytes : List UInt8) : Nat := (3 - bytes.length % 3) % 3

/-- The symbols of bytes, without padding. -/
def symbols (bytes : List UInt8) : List Char := (pack bytes).map symbol

/-- Bytes in standard base 64. -/
def encode (bytes : List UInt8) : List Char :=
  symbols bytes ++ List.replicate (padding bytes) '='

/-- A text is that of bytes, with all of the padding or less. -/
def Spells (text : List Char) (bytes : List UInt8) : Prop :=
  ∃ count ≤ padding bytes, text = symbols bytes ++ List.replicate count '='

lemma spells_encode (bytes : List UInt8) : Spells (encode bytes) bytes :=
  ⟨padding bytes, Nat.le_refl _, rfl⟩

lemma value?_symbol : ∀ n < 64, value? (symbol n) = some n := by decide

lemma symbol_ne_padding : ∀ n < 64, symbol n ≠ '=' := by decide

/-- The characters from one on are told apart by how far they are from it. -/
lemma ofNat_add_sub {first c : Char} (le : first ≤ c) :
    Char.ofNat (first.toNat + (c.toNat - first.toNat)) = c := by
  have le : first.toNat ≤ c.toNat := le
  rw [Nat.add_sub_of_le le, Char.ofNat_toNat]

/-- Each symbol stands for six bits and is the only one that does. -/
lemma value?_eq_some_iff {c : Char} {n : Nat} : value? c = some n ↔ n < 64 ∧ c = symbol n := by
  constructor
  · intro read
    unfold value? at read
    split at read
    · rename_i upper
      have first : 'A'.toNat = 65 := rfl
      have last : c.toNat ≤ 90 := upper.2
      cases read
      rw [symbol, if_pos (by omega), ofNat_add_sub upper.1]
      exact ⟨by omega, rfl⟩
    split at read
    · rename_i lower
      have first : 'a'.toNat = 97 := rfl
      have last : c.toNat ≤ 122 := lower.2
      cases read
      rw [symbol, if_neg (by omega), if_pos (by omega), Nat.add_sub_cancel,
        ofNat_add_sub lower.1]
      exact ⟨by omega, rfl⟩
    split at read
    · rename_i digit
      have first : '0'.toNat = 48 := rfl
      have last : c.toNat ≤ 57 := digit.2
      cases read
      rw [symbol, if_neg (by omega), if_neg (by omega), if_pos (by omega), Nat.add_sub_cancel,
        ofNat_add_sub digit.1]
      exact ⟨by omega, rfl⟩
    split at read
    · rename_i plus
      cases read
      exact ⟨by decide, plus⟩
    split at read
    · rename_i slash
      cases read
      exact ⟨by decide, slash⟩
    · cases read
  · rintro ⟨lt, rfl⟩
    exact value?_symbol n lt

lemma pack_lt (bytes : List UInt8) : ∀ n ∈ pack bytes, n < 64 := by
  fun_induction pack bytes with
  | case1 => nofun
  | case2 a =>
    have := a.toNat_lt
    simp only [List.forall_mem_cons]
    exact ⟨by omega, by omega, nofun⟩
  | case3 a b =>
    have := a.toNat_lt
    have := b.toNat_lt
    simp only [List.forall_mem_cons]
    exact ⟨by omega, by omega, by omega, nofun⟩
  | case4 a b c rest ih =>
    have := a.toNat_lt
    have := b.toNat_lt
    have := c.toNat_lt
    simp only [List.forall_mem_cons]
    exact ⟨by omega, by omega, by omega, by omega, ih⟩

lemma ofNat_eq {n : Nat} {byte : UInt8} (same : n = byte.toNat) : UInt8.ofNat n = byte := by
  rw [same, UInt8.ofNat_toNat]

lemma unpack?_pack (bytes : List UInt8) : unpack? (pack bytes) = some bytes := by
  fun_induction pack bytes with
  | case1 => rfl
  | case2 a =>
    have first : UInt8.ofNat (a.toNat / 4 * 4 + a.toNat % 4 * 16 / 16) = a := ofNat_eq (by omega)
    rw [unpack?, if_pos (by omega), first]
  | case3 a b =>
    have := b.toNat_lt
    have first : UInt8.ofNat (a.toNat / 4 * 4 + (a.toNat % 4 * 16 + b.toNat / 16) / 16) = a :=
      ofNat_eq (by omega)
    have second : UInt8.ofNat ((a.toNat % 4 * 16 + b.toNat / 16) % 16 * 16 +
        b.toNat % 16 * 4 / 4) = b := ofNat_eq (by omega)
    rw [unpack?, if_pos (by omega), first, second]
  | case4 a b c rest ih =>
    have := b.toNat_lt
    have := c.toNat_lt
    have first : UInt8.ofNat (a.toNat / 4 * 4 + (a.toNat % 4 * 16 + b.toNat / 16) / 16) = a :=
      ofNat_eq (by omega)
    have second : UInt8.ofNat ((a.toNat % 4 * 16 + b.toNat / 16) % 16 * 16 +
        (b.toNat % 16 * 4 + c.toNat / 64) / 4) = b := ofNat_eq (by omega)
    have third : UInt8.ofNat ((b.toNat % 16 * 4 + c.toNat / 64) % 4 * 64 + c.toNat % 64) = c :=
      ofNat_eq (by omega)
    rw [unpack?, ih, first, second, third]
    rfl

lemma toNat_ofNat {n : Nat} (lt : n < 256) : (UInt8.ofNat n).toNat = n :=
  UInt8.toNat_ofNat_of_lt' lt

/-- Only what bytes are packed into is unpacked. -/
lemma eq_pack_of_unpack? {values : List Nat} {bytes : List UInt8} (small : ∀ n ∈ values, n < 64)
    (read : unpack? values = some bytes) : values = pack bytes := by
  fun_induction unpack? values generalizing bytes with
  | case1 =>
    cases read
    rfl
  | case2 => cases read
  | case3 a b full =>
    simp only [List.forall_mem_cons] at small
    cases read
    have first : (UInt8.ofNat (a * 4 + b / 16)).toNat = a * 4 + b / 16 := toNat_ofNat (by omega)
    rw [pack, first, show (a * 4 + b / 16) / 4 = a by omega,
      show (a * 4 + b / 16) % 4 * 16 = b by omega]
  | case4 => cases read
  | case5 a b c full =>
    simp only [List.forall_mem_cons] at small
    cases read
    have first : (UInt8.ofNat (a * 4 + b / 16)).toNat = a * 4 + b / 16 := toNat_ofNat (by omega)
    have second : (UInt8.ofNat (b % 16 * 16 + c / 4)).toNat = b % 16 * 16 + c / 4 :=
      toNat_ofNat (by omega)
    rw [pack, first, second, show (a * 4 + b / 16) / 4 = a by omega,
      show (a * 4 + b / 16) % 4 * 16 + (b % 16 * 16 + c / 4) / 16 = b by omega,
      show (b % 16 * 16 + c / 4) % 16 * 4 = c by omega]
  | case6 => cases read
  | case7 a b c d rest ih =>
    simp only [List.forall_mem_cons] at small
    obtain ⟨bytes, others, same⟩ := Option.bind_eq_some_iff.1 read
    cases same
    have first : (UInt8.ofNat (a * 4 + b / 16)).toNat = a * 4 + b / 16 := toNat_ofNat (by omega)
    have second : (UInt8.ofNat (b % 16 * 16 + c / 4)).toNat = b % 16 * 16 + c / 4 :=
      toNat_ofNat (by omega)
    have third : (UInt8.ofNat (c % 4 * 64 + d)).toNat = c % 4 * 64 + d := toNat_ofNat (by omega)
    rw [pack, first, second, third, ← ih small.2.2.2.2 others,
      show (a * 4 + b / 16) / 4 = a by omega,
      show (a * 4 + b / 16) % 4 * 16 + (b % 16 * 16 + c / 4) / 16 = b by omega,
      show (b % 16 * 16 + c / 4) % 16 * 4 + (c % 4 * 64 + d) / 64 = c by omega,
      show (c % 4 * 64 + d) % 64 = d by omega]

/-- The padding fills up a group of four. -/
lemma padding_eq (bytes : List UInt8) :
    (4 - (symbols bytes).length % 4) % 4 = padding bytes := by
  rw [symbols, List.length_map, padding]
  fun_induction pack bytes with
  | case1 => rfl
  | case2 => rfl
  | case3 => rfl
  | case4 a b c rest ih =>
    simp only [List.length_cons]
    omega

/-- Symbols are read as the values that they are written for. -/
lemma mapM_value?_eq_some_iff {text : List Char} {values : List Nat} :
    text.mapM value? = some values ↔ (∀ n ∈ values, n < 64) ∧ text = values.map symbol := by
  constructor
  · intro read
    induction text generalizing values with
    | nil =>
      cases read
      exact ⟨nofun, rfl⟩
    | cons c text ih =>
      rw [List.mapM_cons] at read
      obtain ⟨n, first, read⟩ := Option.bind_eq_some_iff.1 read
      obtain ⟨others, after, same⟩ := Option.bind_eq_some_iff.1 read
      cases same
      obtain ⟨lt, rfl⟩ := value?_eq_some_iff.1 first
      obtain ⟨small, rfl⟩ := ih after
      exact ⟨List.forall_mem_cons.2 ⟨lt, small⟩, rfl⟩
  · rintro ⟨small, rfl⟩
    induction values with
    | nil => rfl
    | cons n values ih =>
      obtain ⟨lt, small⟩ := List.forall_mem_cons.1 small
      rw [List.map_cons, List.mapM_cons, value?_symbol n lt, ih small]
      rfl

lemma of_guard {p : Prop} [Decidable p] (passed : (guard p : Option Unit) = some ()) : p := by
  by_contra no
  rw [guard, if_neg no] at passed
  cases passed

/-- A text is read as bytes exactly if it spells them. -/
theorem decode?_eq_some_iff {text : List Char} {bytes : List UInt8} :
    decode? text = some bytes ↔ Spells text bytes := by
  constructor
  · intro read
    obtain ⟨_, only, read⟩ := Option.bind_eq_some_iff.1 read
    obtain ⟨_, short, read⟩ := Option.bind_eq_some_iff.1 read
    obtain ⟨values, front, unpacked⟩ := Option.bind_eq_some_iff.1 read
    obtain ⟨small, front⟩ := mapM_value?_eq_some_iff.1 front
    have short := of_guard short
    cases eq_pack_of_unpack? small unpacked
    rw [front, ← symbols, padding_eq] at short
    refine ⟨_, short, ?_⟩
    have back : text.dropWhile (· ≠ '=') =
        List.replicate (text.dropWhile (· ≠ '=')).length '=' :=
      List.eq_replicate_iff.2 ⟨rfl, fun c mem =>
        of_decide_eq_true (List.all_eq_true.1 (of_guard only) c mem)⟩
    rw [← back, symbols, ← front, List.takeWhile_append_dropWhile]
  · rintro ⟨count, le, rfl⟩
    have before : ∀ c ∈ symbols bytes, decide (c ≠ '=') = true := by
      intro c mem
      obtain ⟨n, packed, rfl⟩ := List.mem_map.1 mem
      exact decide_eq_true (symbol_ne_padding n (pack_lt bytes n packed))
    have front : (symbols bytes ++ List.replicate count '=').takeWhile (· ≠ '=') =
        symbols bytes := by
      rw [List.takeWhile_append_of_pos before]
      cases count <;> simp [List.replicate_succ]
    have back : (symbols bytes ++ List.replicate count '=').dropWhile (· ≠ '=') =
        List.replicate count '=' := by
      rw [List.dropWhile_append_of_pos before]
      cases count <;> simp [List.replicate_succ]
    have values : (symbols bytes).mapM value? = some (pack bytes) :=
      mapM_value?_eq_some_iff.2 ⟨pack_lt bytes, rfl⟩
    have only : (List.replicate count '=').all (· = '=') = true :=
      List.all_eq_true.2 fun c mem => decide_eq_true (List.eq_of_mem_replicate mem)
    simp only [decode?, front, back, guard, only, List.length_replicate, padding_eq, if_pos le,
      if_true, values]
    exact unpack?_pack bytes

/-- A text spells one sequence of bytes at most. -/
lemma Spells.unique {text : List Char} {bytes bytes' : List UInt8} (spells : Spells text bytes)
    (spells' : Spells text bytes') : bytes = bytes' :=
  Option.some.inj ((decode?_eq_some_iff.2 spells).symm.trans (decode?_eq_some_iff.2 spells'))

end Base64

namespace Hex

lemma value?_digit : ∀ n < 16, Digits.value? 16 (digit n) = some n := by decide

/-- The digits of bytes are read back. -/
theorem toBytes?_ofBytes (bytes : List UInt8) : toBytes? (ofBytes bytes) = some bytes := by
  rw [toBytes?, ofBytes, String.toList_ofList]
  induction bytes with
  | nil => rfl
  | cons byte rest ih =>
    have small : byte.toNat < 256 := byte.toNat_lt
    have whole : 16 * (byte.toNat / 16) + byte.toNat % 16 = byte.toNat := Nat.div_add_mod ..
    rw [encode, decode?, value?_digit _ (by omega), value?_digit _ (by omega), ih]
    simp only [Option.bind_eq_bind, Option.bind_some, whole, UInt8.ofNat_toNat]
    rfl

lemma digit_mem : ∀ n < 16, digit n ∈ "0123456789abcdef".toList := by decide

/-- No digit is written in upper case. -/
lemma mem_of_mem_encode (bytes : List UInt8) :
    ∀ c ∈ encode bytes, c ∈ "0123456789abcdef".toList := by
  induction bytes with
  | nil => nofun
  | cons byte rest ih =>
    have small : byte.toNat < 256 := byte.toNat_lt
    rw [encode, List.forall_mem_cons, List.forall_mem_cons]
    exact ⟨digit_mem _ (by omega), digit_mem _ (by omega), ih⟩

end Hex

end UpgradeDrill
