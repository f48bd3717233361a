import Mathlib.Data.List.Basic
import UpgradeDrill.Chain.Messages
import UpgradeDrill.Proofs.Wire.Grammar

/-!
# Fields that a message does not have

A newer node may send fields that a message of this library does not have. Wherever they stand
between the fields of the message, and however they are spelled, the message is read as if they were
not there (`undeclared_fields_skipped`): a reader finds the same pieces whatever follows them, and
of the fields it reads only those that the message has count.
-/

namespace UpgradeDrill

namespace Wire

/-- Bytes with further fields put between their own ones, of numbers other than the given ones. -/
inductive Widened (numbers : List Nat) : List UInt8 → List UInt8 → Prop where
  | nil : Widened numbers [] []
  | keep {piece bytes wider : List UInt8} {field : Field}
    (own : SpellsField maxDepth piece field) (rest : Widened numbers bytes wider) :
    Widened numbers (piece ++ bytes) (piece ++ wider)
  | put {piece bytes wider : List UInt8} {field : Field}
    (new : SpellsField maxDepth piece field) (other : field.number ∉ numbers)
    (rest : Widened numbers bytes wider) : Widened numbers bytes (piece ++ wider)

/-- The numbers are those of the fields that a message has. -/
structure Declares (M : Type) [Message M] (numbers : List Nat) : Prop where
  /-- No field of a message may hold a group. -/
  refuses : ∀ depth (message : M), ∀ number ∈ numbers,
    Message.absorb depth message ⟨number, .group⟩ = none
  ignores : ∀ depth (message : M) (field : Field), field.number ∉ numbers →
    Message.absorb depth message field = some message

variable {M : Type} [Message M] {numbers : List Nat} {bytes wider : List UInt8}

/-- Both are fields one after the other, and the same ones if those of other numbers are left
out. -/
lemma Widened.spells (widened : Widened numbers bytes wider) :
    ∃ fields more, SpellsFields maxDepth bytes fields ∧ SpellsFields maxDepth wider more ∧
      more.filter (·.number ∈ numbers) = fields.filter (·.number ∈ numbers) := by
  induction widened with
  | nil => exact ⟨[], [], .nil, .nil, rfl⟩
  | @keep _ _ _ field own _ ih =>
    obtain ⟨fields, more, spells, spells', same⟩ := ih
    refine ⟨field :: fields, field :: more, .cons own spells, .cons own spells', ?_⟩
    rw [List.filter_cons, List.filter_cons, same]
  | @put _ _ _ field new other _ ih =>
    obtain ⟨fields, more, spells, spells', same⟩ := ih
    refine ⟨fields, field :: more, spells, .cons new spells', ?_⟩
    rw [List.filter_cons_of_neg (by simpa using other), same]

/-- Only the fields that a message has count. -/
lemma Declares.foldlM_filter (declares : Declares M numbers) (depth : Nat) (message : M)
    (fields : List Field) :
    (fields.filter (·.number ∈ numbers)).foldlM (Message.absorb depth) message =
      fields.foldlM (Message.absorb depth) message := by
  induction fields generalizing message with
  | nil => rfl
  | cons field fields ih =>
    by_cases own : field.number ∈ numbers
    · rw [List.filter_cons_of_pos (by simpa using own), List.foldlM_cons, List.foldlM_cons]
      exact congrArg _ (funext ih)
    · rw [List.filter_cons_of_neg (by simpa using own), List.foldlM_cons,
        declares.ignores depth message field own]
      exact ih message

lemma decode?_of_spells {fields : List Field} (spells : SpellsFields maxDepth bytes fields) :
    (decode? bytes : Option M) =
      fields.foldlM (Message.absorb maxDepth) Message.blank := by
  rw [decode?, extend?, readFields_eq_some_iff.2 spells]
  rfl

/-- Fields that a message does not have make no difference to it. -/
theorem Declares.decode?_eq (declares : Declares M numbers)
    (widened : Widened numbers bytes wider) : (decode? wider : Option M) = decode? bytes := by
  obtain ⟨fields, more, spells, spells', same⟩ := widened.spells
  rw [decode?_of_spells spells, decode?_of_spells spells', ← declares.foldlM_filter, same,
    declares.foldlM_filter]

/-- A message has fields with these numbers, and takes no notice of others: an encoding of it is a
sequence of fields, which may be widened by other fields without a change to the message, so that
messages of widened encodings are equal exactly if those of the encodings are. -/
structure Extensible (M : Type) [Message M] (numbers : List Nat) : Prop where
  declares : Declares M numbers
  spelled : ∀ (bytes : List UInt8) (message : M), decode? bytes = some message →
    ∃ fields, SpellsFields maxDepth bytes fields
  skipped : ∀ (bytes wider : List UInt8) (message : M), decode? bytes = some message →
    Widened numbers bytes wider → decode? wider = some message
  compared : ∀ (bytes bytes' wider wider' : List UInt8) (message message' : M),
    decode? bytes = some message → decode? bytes' = some message' →
    Widened numbers bytes wider → Widened numbers bytes' wider' →
    ((decode? wider : Option M) = decode? wider' ↔ message = message')

lemma Declares.extensible (declares : Declares M numbers) : Extensible M numbers where
  declares
  spelled bytes message decoded := by
    obtain ⟨fields, read, _⟩ := Option.bind_eq_some_iff.1 decoded
    exact ⟨fields, readFields_eq_some_iff.1 read⟩
  skipped bytes wider message decoded widened := (declares.decode?_eq widened).trans decoded
  compared bytes bytes' wider wider' message message' decoded decoded' widened widened' := by
    rw [declares.decode?_eq widened, declares.decode?_eq widened', decoded, decoded',
      Option.some_inj]

/-- No message is read from a group. -/
lemma Payload.into?_group (depth : Nat) (message : M) : group.into? depth message = none := by
  cases depth <;> rfl

end Wire

open Wire

lemma BlockRequest.declares : Declares BlockRequest [1] where
  refuses _ _ := List.forall_iff_forall_mem.1 rfl
  ignores _ _ field other := by
    simp only [Message.absorb]
    split <;> simp_all

lemma CommitInfo.declares : Declares CommitInfo [1, 2] where
  refuses _ _ := List.forall_iff_forall_mem.1 ⟨rfl, rfl⟩
  ignores _ _ field other := by
    simp only [Message.absorb]
    split <;> simp_all

lemma Block.declares : Declares Block [1, 2, 3, 4, 5, 6, 7] where
  refuses depth block := by
    refine List.forall_iff_forall_mem.1 ⟨rfl, rfl, rfl, rfl, rfl, rfl, ?_⟩
    simp only [Message.absorb, Payload.into?_group]
    rfl
  ignores _ _ field other := by
    simp only [Message.absorb]
    split <;> simp_all

lemma ChangeInfo.declares : Declares ChangeInfo [1, 2, 3, 4] where
  refuses _ _ := List.forall_iff_forall_mem.1 ⟨rfl, rfl, rfl, rfl⟩
  ignores _ _ field other := by
    simp only [Message.absorb]
    split <;> simp_all

lemma UpgradesRequest.declares : Declares UpgradesRequest [] where
  refuses _ _ := nofun
  ignores _ _ _ _ := rfl

lemma UpgradesInfo.declares : Declares UpgradesInfo [1, 2] where
  refuses depth info := by
    refine List.forall_iff_forall_mem.1 ⟨?_, ?_⟩
    all_goals
      simp only [Message.absorb, Payload.into?_group]
      rfl
  ignores _ _ field other := by
    simp only [Message.absorb]
    split <;> simp_all

lemma ValidatorAddress.declares : Declares ValidatorAddress [1] where
  refuses _ _ := List.forall_iff_forall_mem.1 rfl
  ignores _ _ field other := by
    simp only [Message.absorb]
    split <;> simp_all

lemma ValidatorNameRequest.declares : Declares ValidatorNameRequest [1] where
  refuses depth request := by
    refine List.forall_iff_forall_mem.1 ?_
    simp only [List.Forall, Message.absorb, Payload.into?_group]
    rfl
  ignores _ _ field other := by
    simp only [Message.absorb]
    split <;> simp_all

lemma ValidatorName.declares : Declares ValidatorName [1] where
  refuses _ _ := List.forall_iff_forall_mem.1 rfl
  ignores _ _ field other := by
    simp only [Message.absorb]
    split <;> simp_all

namespace Wire

/-- Every message of the service is read from its fields alone, wherever and in whatever form a
newer node puts other fields between them. -/
theorem undeclared_fields_skipped :
    Extensible BlockRequest [1] ∧ Extensible Block [1, 2, 3, 4, 5, 6, 7] ∧
    Extensible CommitInfo [1, 2] ∧ Extensible UpgradesRequest [] ∧
    Extensible UpgradesInfo [1, 2] ∧ Extensible ChangeInfo [1, 2, 3, 4] ∧
    Extensible ValidatorAddress [1] ∧ Extensible ValidatorNameRequest [1] ∧
    Extensible ValidatorName [1] :=
  ⟨BlockRequest.declares.extensible, Block.declares.extensible, CommitInfo.declares.extensible,
    UpgradesRequest.declares.extensible, UpgradesInfo.declares.extensible,
    ChangeInfo.declares.extensible, ValidatorAddress.declares.extensible,
    ValidatorNameRequest.declares.extensible, ValidatorName.declares.extensible⟩

namespace Sample

/-- Upgrades of which one is scheduled, for height 5. -/
def upgrades : UpgradesInfo := ⟨[], [⟨5, "", 0, ""⟩]⟩

def scheduled : Field := ⟨2, .delimited [0x08, 5]⟩

/-- Field 3 with the number 255, its key in more bytes than need be. -/
def spare : List UInt8 := [0x98, 0] ++ [0xff, 1]

/-- Fields of the other forms. -/
def others : List Field :=
  [⟨15, .fixed64 [1, 2, 3, 4, 5, 6, 7, 8]⟩, ⟨100, .delimited [0xff]⟩, ⟨16, .fixed32 [1, 2, 3, 4]⟩]

lemma spells_spare : SpellsField maxDepth spare ⟨3, .varint 255⟩ := by
  have last : SpellsNumber 9 [0] 0 := @SpellsNumber.last 8 0 (by decide) (by decide)
  have key : SpellsKey [0x98, 0] 3 0 :=
    ⟨@SpellsNumber.more 9 0 0x98 _ (by decide) last, by decide, by decide, by decide⟩
  have high : SpellsNumber 9 [1] 1 := @SpellsNumber.last 8 1 (by decide) (by decide)
  have value : SpellsVarint [0xff, 1] 255 := @SpellsNumber.more 9 1 0xff _ (by decide) high
  exact .intro key (.varint value)

lemma widened : Widened [1, 2] (scheduled.encode ++ [])
    (spare ++ (scheduled.encode ++ encodeFields others)) := by
  have spells (field : Field) (fits : field.Fits) : SpellsField maxDepth field.encode field :=
    spellsField_encode 99 fits
  have two : 2 < 2 ^ 64 := by decide
  have one : 1 < 2 ^ 64 := by decide
  refine .put spells_spare (by decide) (.keep (spells _ ⟨by decide, by decide, two⟩) ?_)
  refine .put (spells _ ⟨by decide, by decide, rfl⟩) (by decide) ?_
  refine .put (spells _ ⟨by decide, by decide, one⟩) (by decide) ?_
  exact .put (spells _ ⟨by decide, by decide, rfl⟩) (by decide) .nil

end Sample

/-- Fields of all forms before and after the only field of a message, one of them spelled in more
bytes than need be. -/
theorem undeclared_fields_skipped_sample :
    decode? (Sample.scheduled.encode ++ []) = some Sample.upgrades ∧
    Widened [1, 2] (Sample.scheduled.encode ++ [])
      (Sample.spare ++ (Sample.scheduled.encode ++ encodeFields Sample.others)) ∧
    decode? (Sample.spare ++ (Sample.scheduled.encode ++ encodeFields Sample.others)) =
      some Sample.upgrades := by
  obtain ⟨-, -, -, -, upgrades, -⟩ := undeclared_fields_skipped
  have read : decode? (Sample.scheduled.encode ++ []) = some Sample.upgrades := by decide +kernel
  exact ⟨read, Sample.widened, upgrades.skipped _ _ _ read Sample.widened⟩

end Wire

end UpgradeDrill
