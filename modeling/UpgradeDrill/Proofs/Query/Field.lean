import Mathlib.Algebra.Group.Nat.Defs
import UpgradeDrill.Proofs.Text.Digits
import UpgradeDrill.Query.Field

/-!
# Fields as they are read

A path leads through members of objects to a value or breaks off at a step. An integer is read from
the value it leads to exactly if that is a natural number below `2 ^ 64` or spells one in decimal
digits (`integer_field_read`). A quantity is read if it is written as `0x` and hexadecimal digits,
and also if a plus sign stands between the two, which no quantity has (`quantities_read`).
-/

namespace UpgradeDrill.Json

section Paths

/-- A value stands at the end of a path, each step of which is a member of an object. -/
inductive Reaches : Json → List String → Json → Prop where
  | here {value : Json} : Reaches value [] value
  | member {members : List (String × Json)} {key : String} {path : List String} {inner found : Json}
    (has : members.lookup key = some inner) (further : Reaches inner path found) :
    Reaches (.obj members) (key :: path) found

/-- Some step of a path is not a member of an object where the path has come to. -/
inductive Breaks : Json → List String → Prop where
  | here {value : Json} {key : String} {path : List String}
    (lacks : ∀ members, value = .obj members → key ∉ members.map Prod.fst) :
    Breaks value (key :: path)
  | further {members : List (String × Json)} {key : String} {path : List String} {inner : Json}
    (has : members.lookup key = some inner) (breaks : Breaks inner path) :
    Breaks (.obj members) (key :: path)

variable {value found inner : Json} {key : String} {path : List String}

lemma get?_eq_some_iff : value.get? key = some inner ↔
    ∃ members, value = .obj members ∧ members.lookup key = some inner := by
  cases value <;> simp [get?]

lemma get?_eq_none_iff : value.get? key = none ↔
    ∀ members, value = .obj members → key ∉ members.map Prod.fst := by
  cases value with
  | obj members =>
    simp only [get?, List.lookup_eq_none_iff, bne_iff_ne, List.mem_map, obj.injEq, forall_eq']
    exact ⟨fun apart ⟨member, mem, same⟩ => apart member mem same.symm,
      fun lacks member mem same => lacks ⟨member, mem, same.symm⟩⟩
  | _ => simp [get?]

theorem follow?_eq_some_iff : value.follow? path = some found ↔ value.Reaches path found := by
  induction path generalizing value with
  | nil =>
    refine ⟨fun same => ?_, fun reaches => ?_⟩
    · cases same
      exact .here
    · cases reaches
      rfl
  | cons key path ih =>
    simp only [follow?, Option.bind_eq_some_iff, get?_eq_some_iff, ih]
    constructor
    · rintro ⟨inner, ⟨members, rfl, has⟩, further⟩
      exact .member has further
    · intro reaches
      cases reaches with
      | member has further => exact ⟨_, ⟨_, rfl, has⟩, further⟩

theorem follow?_eq_none_iff : value.follow? path = none ↔ value.Breaks path := by
  induction path generalizing value with
  | nil => exact ⟨nofun, nofun⟩
  | cons key path ih =>
    rw [follow?, Option.bind_eq_none_iff]
    constructor
    · intro broken
      cases step : value.get? key with
      | none => exact .here (get?_eq_none_iff.1 step)
      | some inner =>
        obtain ⟨members, rfl, has⟩ := get?_eq_some_iff.1 step
        exact .further has (ih.1 (broken inner step))
    · intro breaks inner step
      cases breaks with
      | here lacks => cases (get?_eq_none_iff.2 lacks).symm.trans step
      | further has breaks =>
        cases has.symm.trans step
        exact ih.2 breaks

end Paths

section Fields

variable {α : Type} {read? : Json → Option α} {value : Json} {path : List String}

/-- What is wrong with a field that must be there and of a kind. -/
def fault? (read? : Json → Option α) (value : Json) (path : List String) : Option QueryError :=
  match value.follow? path with
  | none => some (.missingField (dotted path))
  | some found =>
    if (read? found).isSome then none else some (.invalidField (dotted path) found)

lemma fieldAs_eq_ok_iff {result : α} :
    value.fieldAs read? path = .ok result ↔
      ∃ found, value.follow? path = some found ∧ read? found = some result := by
  unfold fieldAs field
  cases value.follow? path with
  | none => simp
  | some found => cases read : read? found <;> simp [read]

/-- A field is read, or something is wrong with it. -/
lemma fieldAs_cases (read? : Json → Option α) (value : Json) (path : List String) :
    (∃ result, value.fieldAs read? path = .ok result ∧ value.fault? read? path = none) ∨
      ∃ error, value.fieldAs read? path = .error error ∧ value.fault? read? path = some error := by
  unfold fieldAs field fault?
  cases value.follow? path with
  | none => exact .inr ⟨_, rfl, rfl⟩
  | some found => cases read : read? found <;> simp [read]

/-- A reading that goes on after a field fails by the first fault. -/
lemma fieldAs_bind_eq_error_iff {β : Type} {others : α → Except QueryError β}
    {faults : List (Option QueryError)} {error : QueryError}
    (goes : ∀ result, value.fieldAs read? path = .ok result →
      (others result = .error error ↔ faults.findSome? id = some error)) :
    (value.fieldAs read? path >>= others) = .error error ↔
      (value.fault? read? path :: faults).findSome? id = some error := by
  rcases fieldAs_cases read? value path with ⟨result, read, fine⟩ | ⟨wrong, read, fault⟩
  · rw [fine, ← (show faults.findSome? id = (none :: faults).findSome? id from rfl), ← goes _ read,
      read]
    rfl
  · rw [read, fault]
    exact ⟨fun same => congrArg some (Except.error.inj same),
      fun same => congrArg Except.error (Option.some.inj same)⟩

/-- Where a path breaks off, its field is missing. -/
lemma fieldAs_of_breaks (breaks : value.Breaks path) :
    value.fieldAs read? path = .error (.missingField (dotted path)) := by
  simp [fieldAs, field, follow?_eq_none_iff.2 breaks]

/-- Where a path leads to a value, it is this value that is read. -/
lemma Reaches.read_iff {found : Json} {result : α} (reaches : value.Reaches path found) :
    value.fieldAs read? path = .ok result ↔ read? found = some result := by
  rw [fieldAs_eq_ok_iff, follow?_eq_some_iff.2 reaches]
  simp only [Option.some.injEq, exists_eq_left']

/-- Where a path leads to a value that cannot be read, the field is invalid. -/
lemma Reaches.refused_iff {found : Json} {error : QueryError} (reaches : value.Reaches path found) :
    value.fieldAs read? path = .error error ↔
      error = .invalidField (dotted path) found ∧ read? found = none := by
  rw [fieldAs, field, follow?_eq_some_iff.2 reaches]
  cases read : read? found <;> simp [read, eq_comm]

lemma breaks_or_reaches (value : Json) (path : List String) :
    value.Breaks path ∨ ∃ found, value.Reaches path found := by
  cases step : value.follow? path with
  | none => exact .inl (follow?_eq_none_iff.1 step)
  | some found => exact .inr ⟨found, follow?_eq_some_iff.1 step⟩

end Fields

section Integers

/-- A value is a natural number, or a text that spells one in decimal digits. -/
inductive IsInteger : Json → Nat → Prop where
  | number {i : Int} {n : Nat} (same : i = n) : IsInteger (.num (.int i)) n
  | text {text : String} {n : Nat} (spells : Digits.Spells 10 text.toList n) :
    IsInteger (.str text) n

/-- Numbers and texts that are no natural number: floating-point numbers, whatever their value,
negative numbers, the empty text, and texts with a character that is neither a plus sign nor a
decimal digit. -/
inductive Unnatural : Json → Prop where
  | float {x : Float} : Unnatural (.num (.float x))
  | negative {i : Int} (below : i < 0) : Unnatural (.num (.int i))
  | empty : Unnatural (.str "")
  | character {text : String} {c : Char} (mem : c ∈ text.toList) (sign : c ≠ '+')
    (strange : ∀ value, ¬ Digits.IsDigit 10 c value) : Unnatural (.str text)

variable {value found : Json} {path : List String} {m n : Nat}

lemma IsInteger.unique (is : value.IsInteger m) (is' : value.IsInteger n) : m = n := by
  cases is with
  | number same =>
    cases is' with
    | number same' => exact Int.ofNat_inj.1 (same.symm.trans same')
  | text spells =>
    cases is' with
    | text spells' => exact spells.unique (by decide) spells'

lemma Unnatural.not_isInteger (unnatural : value.Unnatural) : ¬ value.IsInteger n := by
  intro is
  cases unnatural with
  | float => cases is
  | negative below =>
    cases is with
    | number same => omega
  | empty =>
    cases is with
    | text spells => exact spells.ne_nil rfl
  | character mem sign strange =>
    cases is with
    | text spells =>
      rcases spells.isDigit_of_mem _ mem with plus | ⟨value, digit⟩
      · exact sign plus
      · exact strange value digit

theorem toUInt64?_eq_some_iff : toUInt64? value = some n ↔ value.IsInteger n ∧ n < 2 ^ 64 := by
  have size : UInt64.size = 2 ^ 64 := rfl
  constructor
  · intro read
    unfold toUInt64? at read
    split at read
    · split at read
      · rename_i fits
        cases read
        exact ⟨.number (by omega), by omega⟩
      · cases read
    · obtain ⟨spells, lt⟩ := (Digits.below?_eq_some_iff (by decide)).1 read
      exact ⟨.text spells, lt⟩
    · cases read
  · rintro ⟨is, lt⟩
    cases is with
    | number same =>
      subst same
      rw [toUInt64?, if_pos ⟨Int.natCast_nonneg n, by omega⟩, Int.toNat_natCast]
    | text spells => exact (Digits.below?_eq_some_iff (by decide)).2 ⟨spells, lt⟩

lemma toUInt64?_eq_none_iff : toUInt64? value = none ↔ ∀ n < 2 ^ 64, ¬ value.IsInteger n := by
  simp only [Option.eq_none_iff_forall_ne_some, ne_eq, toUInt64?_eq_some_iff, not_and']

/-- Reading an integer fails with a missing field exactly if the path breaks off, and otherwise
depends on the value that it leads to. A natural number below `2 ^ 64` and a text that spells one
are read as this number. No other value is read: one that is too large is refused like the rest. -/
theorem integer_field_read (value : Json) (path : List String) :
    (value.Breaks path ∨ ∃ found, value.Reaches path found) ∧
    (∀ field, value.uint64Field path = .error (.missingField field) ↔
      field = dotted path ∧ value.Breaks path) ∧
    ∀ found, value.Reaches path found →
      (∀ n, value.uint64Field path = .ok n ↔ found.IsInteger n ∧ n < 2 ^ 64) ∧
      (∀ error, value.uint64Field path = .error error ↔
        error = .invalidField (dotted path) found ∧ ∀ n < 2 ^ 64, ¬ found.IsInteger n) ∧
      (∀ n, found.IsInteger n → 2 ^ 64 ≤ n →
        value.uint64Field path = .error (.invalidField (dotted path) found)) ∧
      (found.Unnatural → value.uint64Field path = .error (.invalidField (dotted path) found)) ∧
      ∀ n < 2 ^ 64, found = ofNat n ∨ found = .str (toString n) →
        value.uint64Field path = .ok n := by
  refine ⟨breaks_or_reaches value path, fun field => ?_, fun found reaches => ?_⟩
  · constructor
    · intro missing
      rcases breaks_or_reaches value path with breaks | ⟨found, reaches⟩
      · cases (fieldAs_of_breaks breaks).symm.trans missing
        exact ⟨rfl, breaks⟩
      · cases (reaches.refused_iff.1 missing).1
    · rintro ⟨rfl, breaks⟩
      exact fieldAs_of_breaks breaks
  have taken (n : Nat) : value.uint64Field path = .ok n ↔ found.IsInteger n ∧ n < 2 ^ 64 :=
    reaches.read_iff.trans toUInt64?_eq_some_iff
  have refused (error : QueryError) : value.uint64Field path = .error error ↔
      error = .invalidField (dotted path) found ∧ ∀ n < 2 ^ 64, ¬ found.IsInteger n := by
    rw [uint64Field, reaches.refused_iff, toUInt64?_eq_none_iff]
  refine ⟨taken, refused, fun n is large => ?_, fun unnatural => ?_, fun n lt written => ?_⟩
  · refine (refused _).2 ⟨rfl, fun m lt is' => ?_⟩
    exact Nat.not_lt_of_le large (is'.unique is ▸ lt)
  · exact (refused _).2 ⟨rfl, fun _ _ => unnatural.not_isInteger⟩
  · refine (taken n).2 ⟨?_, lt⟩
    rcases written with rfl | rfl
    · exact .number rfl
    · exact .text (Digits.spells_toString n)

/-- A reply with an integer that has a sign and zeros in front of it, one that is too large, and a
number that is integral but no integer. -/
def sampleReply : Json :=
  .obj [("block", .obj [("height", .str "+007"), ("power", ofNat (2 ^ 64)),
    ("share", .num (.float 1))])]

/-- What is read in the reply, and what is missing in it. -/
theorem integer_field_read_sample :
    sampleReply.uint64Field ["block", "height"] = .ok 7 ∧
    sampleReply.uint64Field ["block", "power"] =
      .error (.invalidField "block.power" (ofNat (2 ^ 64))) ∧
    sampleReply.uint64Field ["block", "share"] =
      .error (.invalidField "block.share" (.num (.float 1))) ∧
    sampleReply.uint64Field ["block", "height", "low"] =
      .error (.missingField "block.height.low") ∧
    (ofNat 7).uint64Field [] = .ok 7 := by
  have spells : Digits.Spells 10 "+007".toList 7 :=
    .plus ((Digits.natural?_eq_some_iff (by decide)).1 (by decide))
  obtain ⟨-, -, height⟩ := integer_field_read sampleReply ["block", "height"]
  obtain ⟨-, -, power⟩ := integer_field_read sampleReply ["block", "power"]
  obtain ⟨-, -, share⟩ := integer_field_read sampleReply ["block", "share"]
  obtain ⟨-, missing, -⟩ := integer_field_read sampleReply ["block", "height", "low"]
  obtain ⟨-, -, whole⟩ := integer_field_read (ofNat 7) []
  obtain ⟨taken, -, -, -, -⟩ := height _ (.member rfl (.member rfl .here))
  obtain ⟨-, -, large, -, -⟩ := power _ (.member rfl (.member rfl .here))
  obtain ⟨-, -, -, unnatural, -⟩ := share _ (.member rfl (.member rfl .here))
  obtain ⟨-, -, -, -, read⟩ := whole _ .here
  exact ⟨(taken 7).2 ⟨.text spells, by decide⟩, large _ (.number rfl) (Nat.le_refl _),
    unnatural .float, (missing _).2 ⟨rfl, .further rfl (.further rfl (.here nofun))⟩,
    read 7 (by decide) (.inl rfl)⟩

end Integers

section Quantities

/-- A text of `0x` and one or more hexadecimal digits. -/
inductive IsQuantity : Json → Nat → Prop where
  | text {text : String} {digits : List Char} {n : Nat}
    (marked : text.toList = '0' :: 'x' :: digits) (numeral : Digits.Numeral 16 digits n) :
    IsQuantity (.str text) n

/-- A text that would be a quantity without the plus sign behind its `0x`. -/
inductive IsSignedQuantity : Json → Nat → Prop where
  | text {text : String} {digits : List Char} {n : Nat}
    (marked : text.toList = '0' :: 'x' :: '+' :: digits) (numeral : Digits.Numeral 16 digits n) :
    IsSignedQuantity (.str text) n

/-- A value is a quantity, or would be one without a plus sign. -/
def IsTaken (value : Json) (n : Nat) : Prop := value.IsQuantity n ∨ value.IsSignedQuantity n

variable {value : Json} {limit m n : Nat}

lemma IsSignedQuantity.not_isQuantity (signed : value.IsSignedQuantity m) :
    ¬ value.IsQuantity n := by
  intro is
  cases signed with
  | text marked =>
    cases is with
    | text marked' numeral =>
      cases marked.symm.trans marked'
      obtain ⟨value, plus⟩ := numeral.isDigit_of_mem '+' List.mem_cons_self
      exact Digits.not_isDigit_plus (by decide) plus

/-- A text is taken for a number exactly if what stands behind its `0x` spells it. -/
lemma isTaken_str_iff {text : String} : (str text).IsTaken n ↔
    ∃ digits, text.toList = '0' :: 'x' :: digits ∧ Digits.Spells 16 digits n := by
  constructor
  · rintro (⟨marked, numeral⟩ | ⟨marked, numeral⟩)
    · exact ⟨_, marked, .plain numeral⟩
    · exact ⟨_, marked, .plus numeral⟩
  · rintro ⟨digits, marked, numeral | numeral⟩
    · exact .inl (.text marked numeral)
    · exact .inr (.text marked numeral)

lemma IsTaken.exists_str (taken : value.IsTaken n) : ∃ text, value = .str text := by
  rcases taken with is | signed
  · cases is
    exact ⟨_, rfl⟩
  · cases signed
    exact ⟨_, rfl⟩

/-- A value is taken for one number at most. -/
lemma IsTaken.unique (taken : value.IsTaken m) (taken' : value.IsTaken n) : m = n := by
  obtain ⟨text, rfl⟩ := taken.exists_str
  obtain ⟨digits, marked, spells⟩ := isTaken_str_iff.1 taken
  obtain ⟨digits', marked', spells'⟩ := isTaken_str_iff.1 taken'
  cases marked.symm.trans marked'
  exact spells.unique (by decide) spells'

theorem toQuantity?_eq_some_iff :
    toQuantity? limit value = some n ↔ value.IsTaken n ∧ n < limit := by
  cases value with
  | str text =>
    rw [isTaken_str_iff, toQuantity?]
    split
    · rename_i digits marked
      simp only [Digits.below?_eq_some_iff (show 16 ≤ 16 by decide), marked, List.cons.injEq,
        true_and, exists_eq_left']
    · rename_i unmarked
      exact ⟨nofun, fun ⟨⟨digits, marked, _⟩, _⟩ => absurd marked (unmarked digits)⟩
  | _ => exact ⟨nofun, fun ⟨taken, _⟩ => nomatch taken.exists_str⟩

/-- What a reader of quantities below a limit makes of a value. -/
structure ReadAsQuantity (limit : Nat) (value : Json) (outcome : Except QueryError Nat) :
    Prop where
  ok : ∀ n, outcome = .ok n ↔ value.IsTaken n ∧ n < limit
  refused : ∀ error, outcome = .error error ↔
    error = .invalidField "quantity" value ∧ ∀ n < limit, ¬ value.IsTaken n
  /-- No number is cut down to one below the limit. -/
  tooLarge : ∀ n, value.IsTaken n → limit ≤ n → outcome = .error (.invalidField "quantity" value)
  /-- The quantities are what is read, unless a plus sign stands in a number below the limit. -/
  quantities : (∀ n, outcome = .ok n ↔ value.IsQuantity n ∧ n < limit) ↔
    ∀ n < limit, ¬ value.IsSignedQuantity n

/-- A reader that takes what is taken, and fails in one way, reads quantities. -/
lemma ReadAsQuantity.of_ok {outcome : Except QueryError Nat}
    (ok : ∀ n, outcome = .ok n ↔ value.IsTaken n ∧ n < limit)
    (fault : ∀ error, outcome = .error error → error = .invalidField "quantity" value) :
    ReadAsQuantity limit value outcome := by
  have refused (error : QueryError) : outcome = .error error ↔
      error = .invalidField "quantity" value ∧ ∀ n < limit, ¬ value.IsTaken n := by
    constructor
    · intro failed
      refine ⟨fault error failed, fun n lt taken => ?_⟩
      cases failed.symm.trans ((ok n).2 ⟨taken, lt⟩)
    · rintro ⟨rfl, none⟩
      cases outcome with
      | ok n =>
        obtain ⟨taken, lt⟩ := (ok n).1 rfl
        exact absurd taken (none n lt)
      | error error => rw [fault error rfl]
  refine ⟨ok, refused, fun n taken large => ?_, fun only n lt signed => ?_, fun unsigned n => ?_⟩
  · refine (refused _).2 ⟨rfl, fun m lt taken' => ?_⟩
    exact Nat.not_lt_of_le large (taken'.unique taken ▸ lt)
  · -- With a plus sign the number is read, but nothing that has one is a quantity.
    exact signed.not_isQuantity ((only n).1 ((ok n).2 ⟨.inr signed, lt⟩)).1
  · rw [ok]
    refine and_congr_left fun lt => ⟨?_, .inl⟩
    rintro (is | signed)
    · exact is
    · exact absurd signed (unsigned n lt)

lemma quantity_eq_ok_iff : value.quantity = .ok n ↔ value.IsTaken n ∧ n < 2 ^ 128 := by
  rw [← show uint128Size = 2 ^ 128 from rfl, ← toQuantity?_eq_some_iff, quantity]
  cases toQuantity? uint128Size value <;> simp

lemma quantity_error {error : QueryError} (failed : value.quantity = .error error) :
    error = .invalidField "quantity" value := by
  unfold quantity at failed
  split at failed
  · cases failed
  · cases failed
    rfl

lemma blockNumber_eq_ok_iff : value.blockNumber = .ok n ↔ value.IsTaken n ∧ n < 2 ^ 64 := by
  have small : value.blockNumber = .ok n ↔ value.quantity = .ok n ∧ n < UInt64.size := by
    unfold blockNumber
    cases value.quantity with
    | error error => simp
    | ok m =>
      by_cases lt : m < UInt64.size
      · simp only [if_pos lt, Except.ok.injEq]
        exact ⟨fun same => ⟨same, same ▸ lt⟩, And.left⟩
      · simp only [if_neg lt, reduceCtorEq, Except.ok.injEq, false_iff]
        exact fun ⟨same, lt'⟩ => lt (same ▸ lt')
  rw [small, quantity_eq_ok_iff, and_assoc]
  refine and_congr_right fun _ => ⟨And.right, fun lt => ⟨?_, lt⟩⟩
  exact Nat.lt_of_lt_of_le lt (by decide)

lemma blockNumber_error {error : QueryError} (failed : value.blockNumber = .error error) :
    error = .invalidField "quantity" value := by
  unfold blockNumber at failed
  split at failed
  · rename_i unread
    cases failed
    exact quantity_error unread
  split at failed
  · cases failed
  · cases failed
    rfl

/-- A quantity is read as its number if that is below `2 ^ 128`, a block number if it is below
`2 ^ 64`. So is a text with a plus sign behind its `0x`, and any other value is invalid. -/
theorem quantities_read (value : Json) :
    ReadAsQuantity (2 ^ 128) value value.quantity ∧
      ReadAsQuantity (2 ^ 64) value value.blockNumber :=
  ⟨.of_ok (fun _ => quantity_eq_ok_iff) fun _ => quantity_error,
    .of_ok (fun _ => blockNumber_eq_ok_iff) fun _ => blockNumber_error⟩

example : (str "0x001F").quantity = .ok 31 := rfl

/-- A text that is no quantity is read as one. -/
theorem signed_quantity_read :
    (str "0x+ff").quantity = .ok 255 ∧ (str "0x+ff").blockNumber = .ok 255 ∧
      ¬ (str "0x+ff").IsQuantity 255 := by
  refine ⟨rfl, rfl, ?_⟩
  have signed : (str "0x+ff").IsSignedQuantity 255 :=
    .text rfl ((Digits.natural?_eq_some_iff (by decide)).1 (by decide))
  exact signed.not_isQuantity

end Quantities

end UpgradeDrill.Json
