import Mathlib.Algebra.Group.Nat.Defs
import UpgradeDrill.Wire.Message

/-!
# Fields read back

A text is read back from its bytes. A number, a key or a field is read back from what it is written
as, whatever bytes follow, if it fits the form it is written in. So the bytes of a sequence of
fields are read as that sequence (`readFields_encodeFields`).
-/

namespace UpgradeDrill

namespace Utf8

lemma toList_loop (bytes : ByteArray) (i : Nat) (taken : List UInt8) :
    ByteArray.toList.loop bytes i taken = taken.reverse ++ bytes.data.toList.drop i := by
  fun_induction ByteArray.toList.loop bytes i taken with
  | case1 i taken less ih =>
    have inside : i < bytes.data.toList.length := less
    have byte : bytes.get! i = bytes.data.toList[i] := getElem!_pos bytes.data i less
    rw [ih, List.reverse_cons, List.append_assoc, List.drop_eq_getElem_cons inside, byte]
    rfl
  | case2 i taken out =>
    rw [List.drop_eq_nil_of_le (Nat.not_lt.1 out), List.append_nil]

lemma encode_eq (text : String) : encode text = text.toUTF8.data.toList := by
  rw [encode, ByteArray.toList, toList_loop]
  rfl

/-- A text is read back from its bytes. -/
theorem decode?_encode (text : String) : decode? (encode text) = some text := by
  rw [decode?, encode_eq]
  exact dif_pos text.isValidUTF8

lemma eq_empty_of_encode {text : String} (empty : encode text = []) : text = "" := by
  have same : encode text = encode "" := empty.trans (encode_eq "").symm
  exact Option.some.inj ((decode?_encode text).symm.trans ((congrArg decode? same).trans
    (decode?_encode "")))

end Utf8

namespace Wire

/-- Each part of a field has the size of the form it is written in. -/
structure Field.Fits (field : Field) : Prop where
  pos : 0 < field.number
  small : field.number < 2 ^ 29
  payload : match field.payload with
    | .varint value => value < 2 ^ 64
    | .fixed64 bytes => bytes.length = 8
    | .delimited bytes => bytes.length < 2 ^ 64
    | .group => True
    | .fixed32 bytes => bytes.length = 4

variable {depth : Nat} {field : Field} {fields : List Field}

/-- The last of ten bytes has room for a single bit, each one before it for seven. -/
lemma readVarint_encodeVarint {size n : Nat} (rest : List UInt8) (small : n < 2 * 128 ^ size) :
    readVarint (size + 1) (encodeVarint n ++ rest) = some (n, rest) := by
  -- The induction is on the bytes that may still follow the first one.
  induction size generalizing n with
  | zero =>
    have byte : (UInt8.ofNat n).toNat = n := UInt8.toNat_ofNat_of_lt' (show n < 256 by omega)
    rw [encodeVarint, if_pos (by omega), List.singleton_append, readVarint, byte,
      if_pos (by omega), if_neg (by omega)]
  | succ size ih =>
    rw [encodeVarint]
    split
    · rename_i single
      have byte : (UInt8.ofNat n).toNat = n := UInt8.toNat_ofNat_of_lt' (show _ < 256 by omega)
      rw [List.singleton_append, readVarint, byte, if_pos single, if_neg (by omega)]
    · have byte : (UInt8.ofNat (n % 128 + 128)).toNat = n % 128 + 128 :=
        UInt8.toNat_ofNat_of_lt' (show _ < 256 by omega)
      have high : n / 128 < 2 * 128 ^ size := by
        rw [Nat.pow_succ] at small
        omega
      rw [List.cons_append, readVarint, byte, if_neg (by omega), ih high]
      have whole : n % 128 + 128 - 128 + 128 * (n / 128) = n := by omega
      exact congrArg (fun value => some (value, rest)) whole

/-- A number of 64 bits is read back. -/
theorem decodeVarint_encodeVarint {n : Nat} (rest : List UInt8) (small : n < 2 ^ 64) :
    decodeVarint (encodeVarint n ++ rest) = some (n, rest) :=
  readVarint_encodeVarint rest (show n < 2 * 128 ^ 9 from small)

lemma frontVarint_encodeVarint {n : Nat} (rest : List UInt8) (small : n < 2 ^ 64) :
    ∃ shorter, frontVarint (encodeVarint n ++ rest) = some ⟨n, rest, shorter⟩ := by
  have read := decodeVarint_encodeVarint rest small
  refine ⟨length_lt_of_decodeVarint read, ?_⟩
  unfold frontVarint
  split
  · rename_i none
    cases read.symm.trans none
  · rename_i read'
    cases read.symm.trans read'
    rfl

lemma frontKey_encodeKey {number form : Nat} (rest : List UInt8) (pos : 0 < number)
    (small : number < 2 ^ 29) (known : form < 6) :
    ∃ shorter, frontKey (encodeKey number form ++ rest) = some ⟨(number, form), rest, shorter⟩ := by
  have fits : number * 8 + form < UInt32.size := by
    simp only [UInt32.size]
    omega
  obtain ⟨shorter, read⟩ := frontVarint_encodeVarint rest
    (Nat.lt_of_lt_of_le fits (by decide) : number * 8 + form < 2 ^ 64)
  refine ⟨shorter, ?_⟩
  have parts : (number * 8 + form) / 8 = number ∧ (number * 8 + form) % 8 = form := by omega
  unfold frontKey encodeKey
  rw [read]
  simp only [Option.bind_eq_bind, Option.bind_some, parts]
  exact if_pos ⟨fits, known, by omega⟩

lemma takeBytes_append (bytes rest : List UInt8) :
    ∃ le, takeBytes bytes.length (bytes ++ rest) = some (bytes, ⟨rest, le⟩) := by
  refine ⟨by simp, ?_⟩
  rw [takeBytes, if_pos (by simp)]
  simp only [List.take_left, List.drop_left]

/-- The form in which a field of a payload is written. -/
def Payload.form : Payload → Nat
  | .varint _ => 0
  | .fixed64 _ => 1
  | .delimited _ => 2
  | .group => 3
  | .fixed32 _ => 5

/-- What is written after the key of a field with a number. -/
def Payload.body (number : Nat) : Payload → List UInt8
  | .varint value => encodeVarint value
  | .fixed64 bytes => bytes
  | .delimited bytes => encodeVarint bytes.length ++ bytes
  | .group => encodeKey number 4
  | .fixed32 bytes => bytes

lemma Field.encode_eq (field : Field) :
    field.encode =
      encodeKey field.number field.payload.form ++ field.payload.body field.number := by
  obtain ⟨number, payload⟩ := field
  cases payload with
  | delimited bytes => exact List.append_assoc ..
  | _ => rfl

-- The bytes are a variable of their own, since the rest that is read carries a bound on their
-- length.
lemma readPayload_body (depth : Nat) {bytes rest : List UInt8} (fits : field.Fits)
    (eq : bytes = field.payload.body field.number ++ rest) :
    ∃ le, readPayload (depth + 1) field.number field.payload.form bytes =
      some (field.payload, ⟨rest, le⟩) := by
  obtain ⟨number, payload⟩ := field
  obtain ⟨pos, small, sized⟩ := fits
  refine ⟨by simp [eq], ?_⟩
  cases payload with
  | varint value =>
    subst eq
    obtain ⟨_, read⟩ := frontVarint_encodeVarint rest sized
    simp only [Payload.form, Payload.body, readPayload]
    rw [read]
    rfl
  | fixed64 inner =>
    subst eq
    obtain ⟨_, taken⟩ := takeBytes_append inner rest
    rw [sized] at taken
    simp only [Payload.form, Payload.body, readPayload]
    rw [taken]
    rfl
  | delimited inner =>
    rw [Payload.body, List.append_assoc] at eq
    subst eq
    obtain ⟨_, read⟩ := frontVarint_encodeVarint (inner ++ rest) sized
    obtain ⟨_, taken⟩ := takeBytes_append inner rest
    simp only [Payload.form, readPayload]
    rw [read]
    simp only [Option.bind_eq_bind, Option.bind_some]
    rw [taken]
    rfl
  | group =>
    subst eq
    obtain ⟨_, read⟩ := frontKey_encodeKey rest pos small (by decide : 4 < 6)
    simp only [Payload.form, Payload.body, readPayload]
    rw [skipGroup, read]
    simp only [Option.bind_eq_bind, Option.bind_some, if_true]
    rfl
  | fixed32 inner =>
    subst eq
    obtain ⟨_, taken⟩ := takeBytes_append inner rest
    rw [sized] at taken
    simp only [Payload.form, Payload.body, readPayload]
    rw [taken]
    rfl

/-- A field is read back from the front of some bytes. -/
theorem readField_encode (depth : Nat) {bytes rest : List UInt8} (fits : field.Fits)
    (eq : bytes = field.encode ++ rest) :
    ∃ shorter, readField (depth + 1) bytes = some ⟨field, rest, shorter⟩ := by
  rw [field.encode_eq, List.append_assoc] at eq
  subst eq
  have known : field.payload.form < 6 := by
    unfold Payload.form
    split <;> omega
  obtain ⟨_, key⟩ := frontKey_encodeKey (field.payload.body field.number ++ rest) fits.pos
    fits.small known
  obtain ⟨le, payload⟩ := readPayload_body depth fits rfl
  refine ⟨Nat.lt_of_le_of_lt le ‹_›, ?_⟩
  rw [readField, key]
  simp only [Option.bind_eq_bind, Option.bind_some]
  rw [payload]
  rfl

/-- The first field is read before what follows it. -/
theorem readFields_append (after : List UInt8) (fits : field.Fits) :
    readFields (depth + 1) (field.encode ++ after) =
      (readFields (depth + 1) after).map (field :: ·) := by
  generalize eq : field.encode ++ after = bytes
  obtain ⟨shorter, read⟩ := readField_encode depth fits eq.symm
  cases bytes with
  | nil => cases shorter
  | cons byte rest =>
    rw [readFields, read, Option.map_eq_bind]
    rfl

/-- The bytes of fields are read as these fields. -/
theorem readFields_encodeFields (fits : ∀ field ∈ fields, field.Fits) :
    readFields (depth + 1) (encodeFields fields) = some fields := by
  induction fields with
  | nil => rw [encodeFields, List.flatMap_nil, readFields]
  | cons field fields ih =>
    obtain ⟨first, others⟩ := List.forall_mem_cons.1 fits
    rw [encodeFields, List.flatMap_cons, readFields_append _ first, ← encodeFields, ih others]
    rfl

end Wire

end UpgradeDrill
