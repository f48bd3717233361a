import UpgradeDrill.Proofs.Wire.Field

/-!
# The grammar of fields

Which bytes spell a number, a key, a field. A number may be spelled longer than need be, a group may
hold anything. The readers take exactly what the grammar admits off the front, whatever bytes follow
(`readVarint_eq_some_iff`, `readField_eq_some_iff`), so bytes are read as fields if and only if they
are pieces that spell them one after the other (`readFields_eq_some_iff`).
-/

namespace UpgradeDrill.Wire

/-- Bytes that spell a number: groups of seven bits, the lowest first, in at most `size` bytes. If
there is room for one more byte only, it has room for a single bit. -/
inductive SpellsNumber : (size : Nat) → List UInt8 → Nat → Prop where
  | last {size : Nat} {byte : UInt8} (ends : byte.toNat < 128)
    (room : size = 0 → byte.toNat < 2) : SpellsNumber (size + 1) [byte] byte.toNat
  | more {size high : Nat} {byte : UInt8} {bytes : List UInt8} (goes : ¬ byte.toNat < 128)
    (rest : SpellsNumber size bytes high) :
    SpellsNumber (size + 1) (byte :: bytes) (byte.toNat - 128 + 128 * high)

/-- Bytes that spell a number of 64 bits. -/
def SpellsVarint (bytes : List UInt8) (value : Nat) : Prop := SpellsNumber 10 bytes value

/-- Bytes that spell the key of a field: its number and its form. -/
structure SpellsKey (bytes : List UInt8) (number form : Nat) : Prop where
  varint : SpellsVarint bytes (number * 8 + form)
  pos : 0 < number
  small : number < 2 ^ 29
  known : form < 6

mutual

/-- Bytes that spell what a field with a number holds, with groups at most `depth` deep. -/
inductive SpellsPayload : (depth number : Nat) → List UInt8 → Payload → Prop where
  | varint {depth number value : Nat} {bytes : List UInt8} (spells : SpellsVarint bytes value) :
    SpellsPayload (depth + 1) number bytes (.varint value)
  | fixed64 {depth number : Nat} {bytes : List UInt8} (size : bytes.length = 8) :
    SpellsPayload (depth + 1) number bytes (.fixed64 bytes)
  | delimited {depth number : Nat} {size bytes : List UInt8}
    (spells : SpellsVarint size bytes.length) :
    SpellsPayload (depth + 1) number (size ++ bytes) (.delimited bytes)
  | group {depth number : Nat} {bytes : List UInt8} (spells : SpellsGroup depth number bytes) :
    SpellsPayload (depth + 1) number bytes .group
  | fixed32 {depth number : Nat} {bytes : List UInt8} (size : bytes.length = 4) :
    SpellsPayload (depth + 1) number bytes (.fixed32 bytes)

/-- Bytes that spell fields and then the end of a group with a number. -/
inductive SpellsGroup : (depth number : Nat) → List UInt8 → Prop where
  | close {depth number : Nat} {key : List UInt8} (spells : SpellsKey key number 4) :
    SpellsGroup depth number key
  | field {depth number inner : Nat} {key body rest : List UInt8} {payload : Payload}
    (keyed : SpellsKey key inner payload.form) (held : SpellsPayload depth inner body payload)
    (spells : SpellsGroup depth number rest) : SpellsGroup depth number (key ++ (body ++ rest))

end

/-- Bytes that spell a field. -/
inductive SpellsField (depth : Nat) : List UInt8 → Field → Prop where
  | intro {number : Nat} {key body : List UInt8} {payload : Payload}
    (keyed : SpellsKey key number payload.form)
    (held : SpellsPayload depth number body payload) :
    SpellsField depth (key ++ body) ⟨number, payload⟩

/-- Bytes that spell fields one after the other. -/
inductive SpellsFields (depth : Nat) : List UInt8 → List Field → Prop where
  | nil : SpellsFields depth [] []
  | cons {piece bytes : List UInt8} {field : Field} {fields : List Field}
    (first : SpellsField depth piece field) (others : SpellsFields depth bytes fields) :
    SpellsFields depth (piece ++ bytes) (field :: fields)

variable {depth number form value size : Nat} {bytes rest : List UInt8} {payload : Payload}
  {field : Field}

/-- A number is read off the front exactly if the bytes begin with a spelling of it. -/
lemma readVarint_eq_some_iff :
    readVarint size bytes = some (value, rest) ↔
      ∃ piece, SpellsNumber size piece value ∧ bytes = piece ++ rest := by
  constructor
  · intro read
    induction bytes generalizing size value with
    | nil => simp [readVarint] at read
    | cons byte tail ih =>
      cases size with
      | zero => simp [readVarint] at read
      | succ size =>
        rw [readVarint] at read
        split at read
        · rename_i ends
          split at read
          · cases read
          · rename_i room
            cases read
            exact ⟨[byte], .last ends (by omega), rfl⟩
        · rename_i goes
          obtain ⟨⟨high, after⟩, inner, same⟩ := Option.bind_eq_some_iff.1 read
          cases same
          obtain ⟨piece, spells, rfl⟩ := ih inner
          exact ⟨byte :: piece, .more goes spells, rfl⟩
  · rintro ⟨piece, spells, rfl⟩
    induction spells with
    | last ends room => rw [List.singleton_append, readVarint, if_pos ends, if_neg (by omega)]
    | more goes _ ih =>
      rw [List.cons_append, readVarint, if_neg goes, ih]
      rfl

lemma frontVarint_eq_some_iff :
    (∃ shorter, frontVarint bytes = some ⟨value, rest, shorter⟩) ↔
      ∃ piece, SpellsVarint piece value ∧ bytes = piece ++ rest := by
  refine Iff.trans ?_ readVarint_eq_some_iff
  constructor
  · rintro ⟨shorter, read⟩
    unfold frontVarint at read
    split at read
    · cases read
    · rename_i found
      cases read
      exact found
  · intro found
    refine ⟨length_lt_of_decodeVarint found, ?_⟩
    unfold frontVarint
    split
    · rename_i none
      cases none.symm.trans found
    · rename_i found'
      cases found'.symm.trans found
      rfl

lemma frontKey_eq_some_iff :
    (∃ shorter, frontKey bytes = some ⟨(number, form), rest, shorter⟩) ↔
      ∃ piece, SpellsKey piece number form ∧ bytes = piece ++ rest := by
  constructor
  · rintro ⟨shorter, read⟩
    obtain ⟨⟨key, after, shorter'⟩, front, checked⟩ := Option.bind_eq_some_iff.1 read
    obtain ⟨piece, spells, rfl⟩ := frontVarint_eq_some_iff.1 ⟨shorter', front⟩
    by_cases fits : key < UInt32.size ∧ key % 8 < 6 ∧ 8 ≤ key
    · cases (if_pos fits).symm.trans checked
      obtain ⟨small, known, pos⟩ := fits
      have whole : key / 8 * 8 + key % 8 = key := by omega
      simp only [UInt32.size] at small
      exact ⟨piece, ⟨by rwa [whole], by omega, by omega, known⟩, rfl⟩
    · cases (if_neg fits).symm.trans checked
  · rintro ⟨piece, ⟨spells, pos, small, known⟩, rfl⟩
    obtain ⟨shorter, front⟩ := frontVarint_eq_some_iff.2 ⟨piece, spells, rfl⟩
    refine ⟨shorter, ?_⟩
    have fits : number * 8 + form < UInt32.size := by
      simp only [UInt32.size]
      omega
    have parts : (number * 8 + form) / 8 = number ∧ (number * 8 + form) % 8 = form := by omega
    rw [frontKey, front]
    simp only [Option.bind_eq_bind, Option.bind_some, parts]
    exact if_pos ⟨fits, known, by omega⟩

lemma takeBytes_eq_some_iff {taken : List UInt8} :
    (∃ le, takeBytes size bytes = some (taken, ⟨rest, le⟩)) ↔
      taken.length = size ∧ bytes = taken ++ rest := by
  unfold takeBytes
  constructor
  · rintro ⟨le, read⟩
    split at read
    · cases read
      exact ⟨List.length_take_of_le ‹_›, (List.take_append_drop size bytes).symm⟩
    · cases read
  · rintro ⟨rfl, rfl⟩
    refine ⟨by simp, ?_⟩
    rw [if_pos (by simp)]
    simp only [List.take_left, List.drop_left]

/-- What a payload is read from, given what the group is read from that it may be. -/
lemma spells_of_readPayload {le : rest.length ≤ bytes.length}
    (group : ∀ {depth number : Nat} {rest : List UInt8} {le : rest.length ≤ bytes.length},
      skipGroup depth number bytes = some ⟨rest, le⟩ →
        ∃ piece, SpellsGroup depth number piece ∧ bytes = piece ++ rest)
    (read : readPayload depth number form bytes = some (payload, ⟨rest, le⟩)) :
    payload.form = form ∧ ∃ piece, SpellsPayload depth number piece payload ∧
      bytes = piece ++ rest := by
  cases depth with
  | zero => simp [readPayload] at read
  | succ depth =>
    unfold readPayload at read
    split at read
    · contradiction
    · obtain ⟨⟨value, rest, shorter⟩, front, same⟩ := Option.bind_eq_some_iff.1 read
      cases same
      obtain ⟨piece, spells, eq⟩ := frontVarint_eq_some_iff.1 ⟨shorter, front⟩
      exact ⟨rfl, piece, .varint spells, eq⟩
    · obtain ⟨⟨taken, rest, le⟩, front, same⟩ := Option.bind_eq_some_iff.1 read
      cases same
      obtain ⟨size, eq⟩ := takeBytes_eq_some_iff.1 ⟨le, front⟩
      exact ⟨rfl, taken, .fixed64 size, eq⟩
    · obtain ⟨⟨size, held, shorter⟩, front, read⟩ := Option.bind_eq_some_iff.1 read
      obtain ⟨⟨taken, rest, le'⟩, back, same⟩ := Option.bind_eq_some_iff.1 read
      cases same
      obtain ⟨piece, spells, eq⟩ := frontVarint_eq_some_iff.1 ⟨shorter, front⟩
      obtain ⟨rfl, eq'⟩ := takeBytes_eq_some_iff.1 ⟨le', back⟩
      refine ⟨rfl, piece ++ taken, .delimited spells, ?_⟩
      exact (eq.trans (congrArg (piece ++ ·) eq')).trans (List.append_assoc ..).symm
    · rename_i deeper
      cases deeper
      obtain ⟨⟨rest, le⟩, inner, same⟩ := Option.bind_eq_some_iff.1 read
      cases same
      obtain ⟨piece, spells, eq⟩ := group inner
      exact ⟨rfl, piece, .group spells, eq⟩
    · obtain ⟨⟨taken, rest, le⟩, front, same⟩ := Option.bind_eq_some_iff.1 read
      cases same
      obtain ⟨size, eq⟩ := takeBytes_eq_some_iff.1 ⟨le, front⟩
      exact ⟨rfl, taken, .fixed32 size, eq⟩
    · cases read

/-- What a group is read from. -/
lemma spells_of_skipGroup {depth number : Nat} {bytes rest : List UInt8}
    {le : rest.length ≤ bytes.length} (read : skipGroup depth number bytes = some ⟨rest, le⟩) :
    ∃ piece, SpellsGroup depth number piece ∧ bytes = piece ++ rest := by
  rw [skipGroup] at read
  obtain ⟨⟨⟨inner, form⟩, held, shorter⟩, front, read⟩ := Option.bind_eq_some_iff.1 read
  obtain ⟨key, keyed, eq⟩ := frontKey_eq_some_iff.1 ⟨shorter, front⟩
  by_cases close : form = 4
  · have read := (if_pos close).symm.trans read
    by_cases own : inner = number
    · cases (if_pos own).symm.trans read
      subst close own
      exact ⟨key, .close keyed, eq⟩
    · cases (if_neg own).symm.trans read
  · have read := (if_neg close).symm.trans read
    obtain ⟨⟨payload, others, le⟩, body, read⟩ := Option.bind_eq_some_iff.1 read
    obtain ⟨⟨last, le'⟩, after, same⟩ := Option.bind_eq_some_iff.1 read
    cases same
    have fewer : others.length < bytes.length := Nat.lt_of_le_of_lt le shorter
    obtain ⟨rfl, body, spells, eq'⟩ := spells_of_readPayload spells_of_skipGroup body
    obtain ⟨tail, group, eq''⟩ := spells_of_skipGroup after
    refine ⟨key ++ (body ++ tail), .field keyed spells group, ?_⟩
    rw [List.append_assoc, List.append_assoc, ← eq'']
    exact eq.trans (congrArg (key ++ ·) eq')
termination_by bytes.length

/-- No payload has the form of the end of a group. -/
lemma Payload.form_ne_end (payload : Payload) : payload.form ≠ 4 := by
  cases payload <;> exact Nat.ne_of_beq_eq_false rfl

mutual

-- The bytes are a variable of their own, since the rest that is read carries a bound on their
-- length.
/-- Bytes that spell a payload are read as it, whatever follows. -/
lemma readPayload_of_spells {depth number : Nat} {piece bytes rest : List UInt8}
    {payload : Payload} (spells : SpellsPayload depth number piece payload)
    (eq : bytes = piece ++ rest) :
    ∃ le, readPayload depth number payload.form bytes = some (payload, ⟨rest, le⟩) := by
  match spells, eq with
  | .varint spells, eq =>
    refine ⟨List.IsSuffix.length_le ⟨_, eq.symm⟩, ?_⟩
    obtain ⟨_, read⟩ := frontVarint_eq_some_iff.2 ⟨_, spells, eq⟩
    simp only [Payload.form, readPayload]
    rw [read]
    rfl
  | .fixed64 size, eq =>
    refine ⟨List.IsSuffix.length_le ⟨_, eq.symm⟩, ?_⟩
    obtain ⟨_, taken⟩ := takeBytes_eq_some_iff.2 ⟨size, eq⟩
    simp only [Payload.form, readPayload]
    rw [taken]
    rfl
  | .delimited spells, eq =>
    refine ⟨List.IsSuffix.length_le ⟨_, eq.symm⟩, ?_⟩
    rw [List.append_assoc] at eq
    obtain ⟨_, read⟩ := frontVarint_eq_some_iff.2 ⟨_, spells, eq⟩
    obtain ⟨_, taken⟩ := takeBytes_eq_some_iff.2 ⟨rfl, rfl⟩
    simp only [Payload.form, readPayload]
    rw [read]
    simp only [Option.bind_eq_bind, Option.bind_some]
    rw [taken]
    rfl
  | .group spells, eq =>
    refine ⟨List.IsSuffix.length_le ⟨_, eq.symm⟩, ?_⟩
    obtain ⟨_, read⟩ := skipGroup_of_spells spells eq
    simp only [Payload.form, readPayload]
    rw [read]
    rfl
  | .fixed32 size, eq =>
    refine ⟨List.IsSuffix.length_le ⟨_, eq.symm⟩, ?_⟩
    obtain ⟨_, taken⟩ := takeBytes_eq_some_iff.2 ⟨size, eq⟩
    simp only [Payload.form, readPayload]
    rw [taken]
    rfl

lemma skipGroup_of_spells {depth number : Nat} {piece bytes rest : List UInt8}
    (spells : SpellsGroup depth number piece) (eq : bytes = piece ++ rest) :
    ∃ le, skipGroup depth number bytes = some ⟨rest, le⟩ := by
  match spells, eq with
  | .close keyed, eq =>
    refine ⟨List.IsSuffix.length_le ⟨_, eq.symm⟩, ?_⟩
    obtain ⟨_, read⟩ := frontKey_eq_some_iff.2 ⟨_, keyed, eq⟩
    rw [skipGroup, read]
    simp only [Option.bind_eq_bind, Option.bind_some, if_true]
    rfl
  | @SpellsGroup.field _ _ _ _ _ _ payload keyed held spells, eq =>
    refine ⟨List.IsSuffix.length_le ⟨_, eq.symm⟩, ?_⟩
    rw [List.append_assoc, List.append_assoc] at eq
    obtain ⟨_, read⟩ := frontKey_eq_some_iff.2 ⟨_, keyed, eq⟩
    obtain ⟨_, body⟩ := readPayload_of_spells held rfl
    obtain ⟨_, others⟩ := skipGroup_of_spells spells rfl
    have inside : payload.form ≠ 4 := payload.form_ne_end
    rw [skipGroup, read]
    simp only [Option.bind_eq_bind, Option.bind_some, if_neg inside]
    rw [body]
    simp only [Option.bind_some]
    rw [others]
    rfl

end

/-- A field is read off the front exactly if the bytes begin with a spelling of it. -/
theorem readField_eq_some_iff :
    (∃ shorter, readField depth bytes = some ⟨field, rest, shorter⟩) ↔
      ∃ piece, SpellsField depth piece field ∧ bytes = piece ++ rest := by
  constructor
  · rintro ⟨shorter, read⟩
    obtain ⟨⟨⟨number, form⟩, held, shorter'⟩, front, read⟩ := Option.bind_eq_some_iff.1 read
    obtain ⟨⟨payload, rest, le⟩, body, same⟩ := Option.bind_eq_some_iff.1 read
    cases same
    obtain ⟨key, keyed, eq⟩ := frontKey_eq_some_iff.1 ⟨shorter', front⟩
    obtain ⟨rfl, body, spells, eq'⟩ := spells_of_readPayload spells_of_skipGroup body
    refine ⟨key ++ body, .intro keyed spells, ?_⟩
    rw [List.append_assoc]
    exact eq.trans (congrArg (key ++ ·) eq')
  · rintro ⟨_, ⟨keyed, held⟩, eq⟩
    rw [List.append_assoc] at eq
    obtain ⟨_, key⟩ := frontKey_eq_some_iff.2 ⟨_, keyed, eq⟩
    obtain ⟨le, payload⟩ := readPayload_of_spells held rfl
    refine ⟨Nat.lt_of_le_of_lt le ‹_›, ?_⟩
    rw [readField, key]
    simp only [Option.bind_eq_bind, Option.bind_some]
    rw [payload]
    rfl

/-- A field as it is written is one spelling of it. -/
lemma spellsField_encode (depth : Nat) (fits : field.Fits) :
    SpellsField (depth + 1) field.encode field := by
  have read := @readField_encode field depth _ [] fits rfl
  obtain ⟨piece, spells, eq⟩ := readField_eq_some_iff.1 read
  rwa [List.append_cancel_right eq]

/-- Bytes are read as fields exactly if they spell them one after the other. -/
theorem readFields_eq_some_iff {fields : List Field} :
    readFields depth bytes = some fields ↔ SpellsFields depth bytes fields := by
  constructor
  · intro read
    induction count : bytes.length using Nat.strongRecOn generalizing bytes fields with
    | ind count ih =>
      cases bytes with
      | nil =>
        rw [readFields] at read
        cases read
        exact .nil
      | cons byte tail =>
        rw [readFields] at read
        obtain ⟨⟨field, rest, shorter⟩, front, read⟩ := Option.bind_eq_some_iff.1 read
        obtain ⟨others, after, same⟩ := Option.bind_eq_some_iff.1 read
        cases same
        obtain ⟨piece, spells, eq⟩ := readField_eq_some_iff.1 ⟨shorter, front⟩
        rw [eq]
        exact .cons spells (ih rest.length (count ▸ shorter) after rfl)
  · intro spells
    induction spells with
    | nil => rw [readFields]
    | @cons piece after _ _ first _ ih =>
      generalize eq : piece ++ after = bytes
      obtain ⟨shorter, read⟩ := readField_eq_some_iff.2 ⟨_, first, eq.symm⟩
      cases bytes with
      | nil => cases shorter
      | cons byte rest =>
        rw [readFields, read]
        simp only [Option.bind_eq_bind, Option.bind_some]
        rw [ih]
        rfl

end UpgradeDrill.Wire
