import UpgradeDrill.Chain.Messages
import UpgradeDrill.Proofs.Wire.Field

/-!
# Messages read back

Every message of the sequencer service is read back from its bytes as it was (`messages_read_back`).
A message is lawful if its fields are plain ones that build it up from the blank message. Then its
bytes are read as these fields, and they are taken in one by one.
-/

namespace UpgradeDrill

namespace Wire

/-- A field of a valid number that holds a number of 64 bits or some bytes. -/
structure Field.Plain (field : Field) : Prop where
  pos : 0 < field.number
  small : field.number < 2 ^ 29
  payload : (∃ value < 2 ^ 64, field.payload = .varint value) ∨
    ∃ bytes, field.payload = .delimited bytes

section Plain

variable {number : Nat} {fields : List Field}

lemma plain_numberField {value : Nat} (pos : 0 < number) (small : number < 2 ^ 29)
    (bounded : value < 2 ^ 64) : ∀ field ∈ numberField number value, field.Plain := by
  unfold numberField
  split
  · nofun
  · intro field mem
    obtain rfl := List.mem_singleton.1 mem
    exact ⟨pos, small, .inl ⟨value, bounded, rfl⟩⟩

lemma plain_repeatedField (pos : 0 < number) (small : number < 2 ^ 29)
    (items : List (List UInt8)) : ∀ field ∈ repeatedField number items, field.Plain := by
  intro field mem
  obtain ⟨bytes, _, rfl⟩ := List.mem_map.1 mem
  exact ⟨pos, small, .inr ⟨bytes, rfl⟩⟩

lemma plain_bytesField (pos : 0 < number) (small : number < 2 ^ 29) (bytes : List UInt8) :
    ∀ field ∈ bytesField number bytes, field.Plain := by
  unfold bytesField
  split
  · nofun
  · exact plain_repeatedField pos small [bytes]

/-- The bytes that a field holds are some of the bytes of all fields. -/
lemma length_le_of_mem (number : Nat) {bytes : List UInt8}
    (mem : ⟨number, .delimited bytes⟩ ∈ fields) :
    bytes.length ≤ (encodeFields fields).length := by
  obtain ⟨first, last, rfl⟩ := List.append_of_mem mem
  simp only [encodeFields, List.flatMap_append, List.flatMap_cons, List.length_append,
    Field.encode]
  omega

/-- Fields have room for the bytes they hold if those of all fields fit into memory. -/
lemma fits_of_plain (plain : ∀ field ∈ fields, field.Plain)
    (short : (encodeFields fields).length < 2 ^ 64) : ∀ field ∈ fields, field.Fits := by
  intro field mem
  obtain ⟨pos, small, ⟨value, bounded, eq⟩ | ⟨bytes, eq⟩⟩ := plain _ mem
  · exact ⟨pos, small, by rwa [eq]⟩
  · obtain ⟨number, payload⟩ := field
    subst eq
    exact ⟨pos, small, Nat.lt_of_le_of_lt (length_le_of_mem number mem) short⟩

end Plain

section Absorbs

variable {M : Type} [Message M] (depth number : Nat) {before middle after : M}

/-- Fields taken into a message one by one make it another one. -/
def Absorbs (fields : List Field) (before after : M) : Prop :=
  fields.foldlM (Message.absorb depth) before = some after

variable {depth} in
lemma Absorbs.append {fields fields' : List Field} (first : Absorbs depth fields before middle)
    (second : Absorbs depth fields' middle after) :
    Absorbs depth (fields ++ fields') before after := by
  unfold Absorbs at *
  rw [List.foldlM_append, first]
  exact second

variable {depth} in
lemma absorbs_single {field : Field} (taken : Message.absorb depth before field = some after) :
    Absorbs depth [field] before after := by
  unfold Absorbs
  rw [List.foldlM_cons, taken]
  rfl

/-- A number that is left out is zero. -/
lemma absorbs_numberField (value : Nat) (holding : Nat → M)
    (taken : ∀ payload, Message.absorb depth (holding 0) ⟨number, payload⟩ =
      do return holding (← payload.number?)) :
    Absorbs depth (numberField number value) (holding 0) (holding value) := by
  unfold numberField
  split
  · rename_i zero
    rw [zero]
    rfl
  · exact absorbs_single (taken _)

lemma absorbs_bytesField (bytes : List UInt8) (holding : List UInt8 → M)
    (taken : ∀ payload, Message.absorb depth (holding []) ⟨number, payload⟩ =
      do return holding (← payload.bytes?)) :
    Absorbs depth (bytesField number bytes) (holding []) (holding bytes) := by
  unfold bytesField
  split
  · rename_i empty
    rw [List.isEmpty_iff.1 empty]
    rfl
  · exact absorbs_single (taken _)

lemma absorbs_textField (text : String) (holding : String → M)
    (taken : ∀ payload, Message.absorb depth (holding "") ⟨number, payload⟩ =
      do return holding (← payload.text?)) :
    Absorbs depth (textField number text) (holding "") (holding text) := by
  unfold textField bytesField
  split
  · rename_i empty
    rw [Utf8.eq_empty_of_encode (List.isEmpty_iff.1 empty)]
    rfl
  · refine absorbs_single ((taken _).trans ?_)
    exact congrArg (· >>= fun text => pure (holding text)) (Utf8.decode?_encode text)

/-- Items are taken in from the first to the last, none left out. -/
lemma absorbs_repeatedField {β : Type} (spell : β → List UInt8) (items : List β)
    (holding : List β → M)
    (taken : ∀ earlier, ∀ item ∈ items,
      Message.absorb depth (holding earlier) ⟨number, .delimited (spell item)⟩ =
        some (holding (earlier ++ [item]))) :
    Absorbs depth (repeatedField number (items.map spell)) (holding []) (holding items) := by
  -- The induction is on the items that are left, after any earlier ones.
  suffices ∀ earlier, Absorbs depth (repeatedField number (items.map spell)) (holding earlier)
      (holding (earlier ++ items)) from this []
  induction items with
  | nil =>
    intro earlier
    rw [List.append_nil]
    rfl
  | cons item items ih =>
    intro earlier
    have first := taken earlier item List.mem_cons_self
    have others := ih (fun earlier item mem => taken earlier item (List.mem_cons_of_mem _ mem))
      (earlier ++ [item])
    rw [List.append_assoc] at others
    exact (absorbs_single first).append others

lemma absorbs_repeatedBytes (items : List (List UInt8)) (holding : List (List UInt8) → M)
    (taken : ∀ earlier payload, Message.absorb depth (holding earlier) ⟨number, payload⟩ =
      do return holding (earlier ++ [← payload.bytes?])) :
    Absorbs depth (repeatedField number items) (holding []) (holding items) := by
  have absorbs := absorbs_repeatedField depth number id items holding
    fun earlier item _ => taken earlier (.delimited item)
  rwa [List.map_id] at absorbs

end Absorbs

/-- A message whose fields are plain and build it up. -/
class LawfulMessage (M : Type) [Message M] where
  /-- How deep messages are nested, the message itself included. -/
  levels : Nat
  /-- The numbers of a message are of 64 bits. -/
  Bounded : M → Prop
  levels_pos : 0 < levels
  plain : ∀ message, Bounded message → ∀ field ∈ Message.fields message, field.Plain
  absorbs : ∀ depth message, levels ≤ depth → Bounded message →
    (encode message).length < 2 ^ 64 →
    Absorbs depth (Message.fields message) Message.blank message

section Lawful

variable {M N : Type} [Message M] [Message N] [LawfulMessage N] {depth : Nat} (number : Nat)

/-- A lawful message is read back from its bytes. -/
theorem extend?_encode {message : N} (deep : LawfulMessage.levels N ≤ depth)
    (bounded : LawfulMessage.Bounded message) (short : (encode message).length < 2 ^ 64) :
    extend? depth Message.blank (encode message) = some message := by
  have fits := fits_of_plain (LawfulMessage.plain message bounded) short
  have absorbs := LawfulMessage.absorbs depth message deep bounded short
  obtain ⟨depth, rfl⟩ : ∃ left, depth = left + 1 :=
    Nat.exists_eq_add_one.2 (Nat.lt_of_lt_of_le LawfulMessage.levels_pos deep)
  rw [extend?, encode, readFields_encodeFields fits]
  exact absorbs

/-- A lawful message is read back from the field that holds it. -/
lemma into?_encode {message : N} (deep : LawfulMessage.levels N < depth)
    (bounded : LawfulMessage.Bounded message) (short : (encode message).length < 2 ^ 64) :
    (Payload.delimited (encode message)).into? depth Message.blank = some message := by
  cases depth with
  | zero => cases deep
  | succ depth => exact extend?_encode (Nat.le_of_lt_succ deep) bounded short

/-- Messages embedded one after the other. -/
lemma absorbs_embedded (items : List N) (holding : List N → M)
    (deep : LawfulMessage.levels N < depth) (bounded : ∀ item ∈ items, LawfulMessage.Bounded item)
    (short : ∀ item ∈ items, (encode item).length < 2 ^ 64)
    (taken : ∀ earlier payload, Message.absorb depth (holding earlier) ⟨number, payload⟩ =
      do return holding (earlier ++ [← payload.into? depth Message.blank])) :
    Absorbs depth (repeatedField number (items.map encode)) (holding []) (holding items) := by
  refine absorbs_repeatedField depth number encode items holding fun earlier item mem =>
    (taken _ _).trans ?_
  rw [into?_encode deep (bounded item mem) (short item mem)]
  rfl

/-- A message embedded if there is one. -/
lemma absorbs_optional (item : Option N) (holding : Option N → M)
    (deep : LawfulMessage.levels N < depth) (bounded : ∀ inner ∈ item, LawfulMessage.Bounded inner)
    (short : ∀ inner ∈ item, (encode inner).length < 2 ^ 64)
    (taken : ∀ payload, Message.absorb depth (holding none) ⟨number, payload⟩ =
      do return holding (some (← payload.into? depth Message.blank))) :
    Absorbs depth (repeatedField number (item.toList.map encode)) (holding none)
      (holding item) := by
  cases item with
  | none => rfl
  | some inner =>
    refine absorbs_single ((taken _).trans ?_)
    rw [into?_encode deep (bounded inner rfl) (short inner rfl)]
    rfl

end Lawful

end Wire

open Wire

instance : LawfulMessage BlockRequest where
  levels := 1
  Bounded request := request.height < 2 ^ 64
  levels_pos := by decide
  plain _ bounded := plain_numberField (by decide) (by decide) bounded
  absorbs depth request _ _ _ :=
    absorbs_numberField depth 1 request.height BlockRequest.mk fun _ => rfl

instance : LawfulMessage CommitInfo where
  levels := 1
  Bounded _ := True
  levels_pos := by decide
  plain _ _ := by
    simp only [Message.fields, List.forall_mem_append]
    exact ⟨plain_bytesField (by decide) (by decide) _, plain_bytesField (by decide) (by decide) _⟩
  absorbs depth info _ _ _ :=
    (absorbs_bytesField depth 1 info.info (CommitInfo.mk · []) fun _ => rfl).append
      (absorbs_bytesField depth 2 info.proof (CommitInfo.mk info.info ·) fun _ => rfl)

instance : LawfulMessage Block where
  levels := 2
  Bounded _ := True
  levels_pos := by decide
  plain _ _ := by
    simp only [Message.fields, List.forall_mem_append]
    refine ⟨⟨⟨⟨⟨⟨?_, ?_⟩, ?_⟩, ?_⟩, ?_⟩, ?_⟩, ?_⟩
    all_goals first
    | exact plain_bytesField (by decide) (by decide) _
    | exact plain_repeatedField (by decide) (by decide) _
  absorbs depth block deep _ short := by
    have embedded (info : CommitInfo) (mem : info ∈ block.commitInfo) :
        (encode info).length < 2 ^ 64 := by
      refine Nat.lt_of_le_of_lt (length_le_of_mem 7 ?_) short
      refine List.mem_append_right _ (List.mem_map_of_mem (List.mem_map_of_mem ?_))
      exact Option.mem_toList.2 mem
    obtain ⟨header, transactions, proof, idsProof, hash, changes, info⟩ := block
    have first := absorbs_bytesField depth 1 header (Block.mk · [] [] [] [] [] none) fun _ => rfl
    have second := absorbs_repeatedBytes depth 2 transactions (Block.mk header · [] [] [] [] none)
      fun _ _ => rfl
    have third := absorbs_bytesField depth 3 proof (Block.mk header transactions · [] [] [] none)
      fun _ => rfl
    have fourth := absorbs_bytesField depth 4 idsProof
      (Block.mk header transactions proof · [] [] none) fun _ => rfl
    have fifth := absorbs_bytesField depth 5 hash
      (Block.mk header transactions proof idsProof · [] none) fun _ => rfl
    have sixth := absorbs_repeatedBytes depth 6 changes
      (Block.mk header transactions proof idsProof hash · none) fun _ _ => rfl
    have seventh := absorbs_optional 7 info
      (Block.mk header transactions proof idsProof hash changes ·) deep (fun _ _ => trivial)
      embedded fun _ => rfl
    exact (((((first.append second).append third).append fourth).append fifth).append
      sixth).append seventh

instance : LawfulMessage ChangeInfo where
  levels := 1
  Bounded info := info.activationHeight < 2 ^ 64 ∧ info.appVersion < 2 ^ 64
  levels_pos := by decide
  plain info bounded := by
    simp only [Message.fields, List.forall_mem_append]
    exact ⟨⟨⟨plain_numberField (by decide) (by decide) bounded.1,
      plain_bytesField (by decide) (by decide) _⟩,
      plain_numberField (by decide) (by decide) bounded.2⟩,
      plain_bytesField (by decide) (by decide) _⟩
  absorbs depth info _ _ _ := by
    obtain ⟨height, name, version, hash⟩ := info
    have first := absorbs_numberField depth 1 height (ChangeInfo.mk · "" 0 "") fun _ => rfl
    have second := absorbs_textField depth 2 name (ChangeInfo.mk height · 0 "") fun _ => rfl
    have third := absorbs_numberField depth 3 version (ChangeInfo.mk height name · "") fun _ => rfl
    have fourth := absorbs_textField depth 4 hash (ChangeInfo.mk height name version ·) fun _ => rfl
    exact ((first.append second).append third).append fourth

instance : LawfulMessage UpgradesInfo where
  levels := 2
  Bounded info := ∀ change ∈ info.applied ++ info.scheduled, LawfulMessage.Bounded change
  levels_pos := by decide
  plain _ _ := by
    simp only [Message.fields, List.forall_mem_append]
    exact ⟨plain_repeatedField (by decide) (by decide) _,
      plain_repeatedField (by decide) (by decide) _⟩
  absorbs depth info deep bounded short := by
    obtain ⟨applied, scheduled⟩ := info
    obtain ⟨appliedBounded, scheduledBounded⟩ := List.forall_mem_append.1 bounded
    have first := absorbs_embedded 1 applied (UpgradesInfo.mk · []) deep appliedBounded
    have second := absorbs_embedded 2 scheduled (UpgradesInfo.mk applied ·) deep scheduledBounded
    refine (first ?_ fun _ _ => rfl).append (second ?_ fun _ _ => rfl)
    · intro change mem
      refine Nat.lt_of_le_of_lt (length_le_of_mem 1 ?_) short
      exact List.mem_append_left _ (List.mem_map_of_mem (List.mem_map_of_mem mem))
    · intro change mem
      refine Nat.lt_of_le_of_lt (length_le_of_mem 2 ?_) short
      exact List.mem_append_right _ (List.mem_map_of_mem (List.mem_map_of_mem mem))

instance : LawfulMessage UpgradesRequest where
  levels := 1
  Bounded _ := True
  levels_pos := by decide
  plain _ _ := nofun
  absorbs _ _ _ _ _ := rfl

instance : LawfulMessage ValidatorAddress where
  levels := 1
  Bounded _ := True
  levels_pos := by decide
  plain _ _ := plain_bytesField (by decide) (by decide) _
  absorbs depth address _ _ _ :=
    absorbs_textField depth 1 address.bech32m ValidatorAddress.mk fun _ => rfl

instance : LawfulMessage ValidatorNameRequest where
  levels := 2
  Bounded _ := True
  levels_pos := by decide
  plain _ _ := plain_repeatedField (by decide) (by decide) _
  absorbs depth request deep _ short := by
    refine absorbs_optional 1 request.address ValidatorNameRequest.mk deep (fun _ _ => trivial) ?_
      fun _ => rfl
    intro address mem
    refine Nat.lt_of_le_of_lt (length_le_of_mem 1 ?_) short
    exact List.mem_map_of_mem (List.mem_map_of_mem (Option.mem_toList.2 mem))

instance : LawfulMessage ValidatorName where
  levels := 1
  Bounded _ := True
  levels_pos := by decide
  plain _ _ := plain_bytesField (by decide) (by decide) _
  absorbs depth response _ _ _ :=
    absorbs_textField depth 1 response.name ValidatorName.mk fun _ => rfl

namespace Wire

lemma length_encodeVarint_le {size n : Nat} (small : n < 128 ^ (size + 1)) :
    (encodeVarint n).length ≤ size + 1 := by
  induction size generalizing n with
  | zero =>
    rw [encodeVarint, if_pos (by omega)]
    exact Nat.le_refl 1
  | succ size ih =>
    rw [encodeVarint]
    split
    · exact Nat.succ_le_succ (Nat.zero_le _)
    · refine Nat.succ_le_succ (ih ?_)
      rw [Nat.pow_succ] at small
      omega

/-- The key and the number of a request take ten bytes each at most. -/
lemma length_encode_blockRequest (request : BlockRequest) (bounded : request.height < 2 ^ 64) :
    (encode request).length < 2 ^ 64 := by
  have key : (encodeKey 1 0).length ≤ 1 := length_encodeVarint_le (by decide)
  have height : (encodeVarint request.height).length ≤ 9 + 1 :=
    length_encodeVarint_le (Nat.lt_of_lt_of_le bounded (by decide))
  simp only [encode, encodeFields, Message.fields, numberField]
  split
  · decide
  · simp only [List.flatMap_cons, List.flatMap_nil, Field.encode, List.length_append,
      List.length_nil]
    omega

namespace Sample

/-- A block with empty items among others, and with votes that are there but empty. -/
def block : Block := { rollupTransactions := [[], [1], []], commitInfo := some ⟨[], []⟩ }

def change : ChangeInfo := ⟨2 ^ 64 - 1, "price_feed_change", 2 ^ 64 - 1, ""⟩

end Sample

/-- Every message of the service whose numbers are of 64 bits, and whose bytes any memory could
hold, is decoded from its bytes as it was. -/
theorem messages_read_back :
    (∀ block : Block, (encode block).length < 2 ^ 64 → decode? (encode block) = some block) ∧
    (∀ info : CommitInfo, (encode info).length < 2 ^ 64 → decode? (encode info) = some info) ∧
    (∀ request : BlockRequest, request.height < 2 ^ 64 →
      decode? (encode request) = some request) ∧
    (∀ request : UpgradesRequest, decode? (encode request) = some request) ∧
    (∀ info : UpgradesInfo,
      (∀ change ∈ info.applied ++ info.scheduled,
        change.activationHeight < 2 ^ 64 ∧ change.appVersion < 2 ^ 64) →
      (encode info).length < 2 ^ 64 → decode? (encode info) = some info) ∧
    (∀ change : ChangeInfo, change.activationHeight < 2 ^ 64 → change.appVersion < 2 ^ 64 →
      (encode change).length < 2 ^ 64 → decode? (encode change) = some change) ∧
    (∀ address : ValidatorAddress, (encode address).length < 2 ^ 64 →
      decode? (encode address) = some address) ∧
    (∀ request : ValidatorNameRequest, (encode request).length < 2 ^ 64 →
      decode? (encode request) = some request) ∧
    (∀ response : ValidatorName, (encode response).length < 2 ^ 64 →
      decode? (encode response) = some response) := by
  refine ⟨fun _ => ?_, fun _ => ?_, fun request bounded => ?_, fun request => ?_,
    fun _ bounded => ?_, fun change height version => ?_, fun _ => ?_, fun _ => ?_, fun _ => ?_⟩
  · exact extend?_encode (by decide) trivial
  · exact extend?_encode (by decide) trivial
  · exact extend?_encode (by decide) bounded (length_encode_blockRequest request bounded)
  · exact extend?_encode (by decide) trivial (show [].length < 2 ^ 64 by decide)
  · exact extend?_encode (by decide) bounded
  · have bounded : LawfulMessage.Bounded change := ⟨height, version⟩
    exact extend?_encode (by decide) bounded
  · exact extend?_encode (by decide) trivial
  · exact extend?_encode (by decide) trivial
  · exact extend?_encode (by decide) trivial

/-- Votes that are there but empty are not taken for missing ones, no empty item gets lost, and the
greatest numbers are read back. -/
theorem messages_read_back_sample :
    (encode Sample.block).length < 2 ^ 64 ∧ decode? (encode Sample.block) = some Sample.block ∧
    (encode { Sample.block with commitInfo := none }).length < 2 ^ 64 ∧
    decode? (encode { Sample.block with commitInfo := none }) =
      some { Sample.block with commitInfo := none } ∧
    decode? (encode (BlockRequest.mk (2 ^ 64 - 1))) = some (BlockRequest.mk (2 ^ 64 - 1)) ∧
    (encode (UpgradesInfo.mk [Sample.change] [Sample.change])).length < 2 ^ 64 ∧
    decode? (encode (UpgradesInfo.mk [Sample.change] [Sample.change])) =
      some (UpgradesInfo.mk [Sample.change] [Sample.change]) ∧
    (encode (ValidatorNameRequest.mk (some ⟨""⟩))).length < 2 ^ 64 ∧
    decode? (encode (ValidatorNameRequest.mk (some ⟨""⟩))) =
      some (ValidatorNameRequest.mk (some ⟨""⟩)) := by
  obtain ⟨block, -, request, -, info, -, -, name, -⟩ := messages_read_back
  have present : (encode Sample.block).length < 2 ^ 64 := by decide +kernel
  have absent : (encode { Sample.block with commitInfo := none }).length < 2 ^ 64 := by
    decide +kernel
  have changes : (encode (UpgradesInfo.mk [Sample.change] [Sample.change])).length < 2 ^ 64 := by
    decide +kernel
  have empty : (encode (ValidatorNameRequest.mk (some ⟨""⟩))).length < 2 ^ 64 := by decide +kernel
  exact ⟨present, block _ present, absent, block _ absent, request _ (by decide), changes,
    info _ (by decide) changes, empty, name _ empty⟩

end Wire

end UpgradeDrill
