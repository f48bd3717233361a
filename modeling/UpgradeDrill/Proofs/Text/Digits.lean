import Mathlib.Tactic.Lemma
import UpgradeDrill.Text.Digits

/-!
# Numerals

A numeral is one or more digits, the last of which counts least; zeros in front of it count for
nothing. A text is read as a number exactly if it is a numeral of it (`natural?_eq_some_iff`). Where
a limit is set, a plus sign may stand in front of it, and the number must be below the limit
(`below?_eq_some_iff`). Every number has a numeral (`numeral_toDigits`), and no text has two numbers
(`Spells.unique`).
-/

namespace UpgradeDrill.Digits

/-- A character is the digit for a value; letters count in either case. -/
structure IsDigit (base : Nat) (c : Char) (value : Nat) : Prop where
  lt : value < base
  written : c = value.digitChar ∨ c = value.digitChar.toUpper

/-- One or more digits that write a number, the most significant one first. -/
inductive Numeral (base : Nat) : List Char → Nat → Prop where
  | digit {c : Char} {value : Nat} (is : IsDigit base c value) : Numeral base [c] value
  | append {digits : List Char} {c : Char} {n value : Nat} (numeral : Numeral base digits n)
    (is : IsDigit base c value) : Numeral base (digits ++ [c]) (n * base + value)

/-- A numeral, in front of which a plus sign may stand. -/
inductive Spells (base : Nat) : List Char → Nat → Prop where
  | plain {digits : List Char} {n : Nat} (numeral : Numeral base digits n) : Spells base digits n
  | plus {digits : List Char} {n : Nat} (numeral : Numeral base digits n) :
    Spells base ('+' :: digits) n

variable {base limit m n value : Nat} {c : Char} {digits front text : List Char}

lemma value?_digitChar : ∀ value < 16, value? 16 value.digitChar = some value ∧
    value? 16 value.digitChar.toUpper = some value := by decide

/-- The digits are told by the finitely many characters up to the last letter among them. -/
lemma written_of_value? : ∀ k ≤ 'f'.toNat, ∀ value ∈ value? 16 (Char.ofNat k),
    Char.ofNat k = value.digitChar ∨ Char.ofNat k = value.digitChar.toUpper := by decide +kernel

/-- No character beyond the last letter that is a digit is one. -/
lemma le_of_value? (read : value? base c = some value) : c.toNat ≤ 'f'.toNat := by
  refine Nat.le_of_not_lt fun beyond => ?_
  have above {first last : Char} (le : last ≤ 'f') : ¬ (first ≤ c ∧ c ≤ last) := fun within =>
    Nat.not_lt_of_le (Nat.le_trans (show c.toNat ≤ last.toNat from within.2) le) beyond
  rw [value?, if_neg (above (by decide)), if_neg (above (by decide)),
    if_neg (above (by decide))] at read
  cases read

/-- Digits in a smaller base are hexadecimal digits of the same value. -/
lemma value?_eq_some_iff_lt (small : base ≤ 16) :
    value? base c = some value ↔ value < base ∧ value? 16 c = some value := by
  simp only [value?, Option.filter_eq_some_iff, decide_eq_true_eq]
  exact ⟨fun ⟨read, lt⟩ => ⟨lt, read, Nat.lt_of_lt_of_le lt small⟩, fun ⟨lt, read, _⟩ => ⟨read, lt⟩⟩

lemma value?_eq_some_iff (small : base ≤ 16) :
    value? base c = some value ↔ IsDigit base c value := by
  rw [value?_eq_some_iff_lt small]
  constructor
  · rintro ⟨lt, read⟩
    have written := written_of_value? c.toNat (le_of_value? read) value
    rw [Char.ofNat_toNat] at written
    exact ⟨lt, written read⟩
  · rintro ⟨lt, rfl | rfl⟩
    · exact ⟨lt, (value?_digitChar value (Nat.lt_of_lt_of_le lt small)).1⟩
    · exact ⟨lt, (value?_digitChar value (Nat.lt_of_lt_of_le lt small)).2⟩

lemma not_isDigit_plus (small : base ≤ 16) : ¬ IsDigit base '+' value := by
  rw [← value?_eq_some_iff small, value?_eq_some_iff_lt small]
  rintro ⟨-, read⟩
  cases read

lemma append?_append (n : Nat) (digits more : List Char) :
    append? base n (digits ++ more) =
      (append? base n digits).bind fun front => append? base front more := by
  induction digits generalizing n with
  | nil => rfl
  | cons c rest ih =>
    simp only [List.cons_append, append?, Option.bind_eq_bind, ih, Option.bind_assoc]

/-- Digits behind a numeral make a longer one. -/
lemma Numeral.of_append? (small : base ≤ 16) (numeral : Numeral base front m)
    (read : append? base m digits = some n) : Numeral base (front ++ digits) n := by
  induction digits generalizing front m with
  | nil =>
    cases read
    rwa [List.append_nil]
  | cons c rest ih =>
    obtain ⟨value, digit, read⟩ := Option.bind_eq_some_iff.1 read
    have longer := ih (numeral.append ((value?_eq_some_iff small).1 digit)) read
    rwa [List.append_assoc, List.singleton_append] at longer

lemma Numeral.ne_nil (numeral : Numeral base digits n) : digits ≠ [] := by
  cases numeral <;> simp

lemma natural?_of_ne_nil (some : digits ≠ []) : natural? base digits = append? base 0 digits := by
  cases digits with
  | nil => exact absurd rfl some
  | cons c rest => rfl

lemma append?_of_numeral (small : base ≤ 16) (numeral : Numeral base digits n) :
    append? base 0 digits = some n := by
  induction numeral with
  | digit is => simp [append?, (value?_eq_some_iff small).2 is]
  | append numeral is ih => simp [append?_append, ih, append?, (value?_eq_some_iff small).2 is]

/-- A text is read as a natural number exactly if it is a numeral of it. -/
theorem natural?_eq_some_iff (small : base ≤ 16) :
    natural? base text = some n ↔ Numeral base text n := by
  constructor
  · intro read
    cases text with
    | nil => cases read
    | cons c rest =>
      obtain ⟨value, digit, read⟩ := Option.bind_eq_some_iff.1 read
      rw [Nat.zero_mul, Nat.zero_add] at read
      exact (Numeral.digit ((value?_eq_some_iff small).1 digit)).of_append? small read
  · intro numeral
    rw [natural?_of_ne_nil numeral.ne_nil]
    exact append?_of_numeral small numeral

/-- Every character of a numeral is a digit. -/
lemma Numeral.isDigit_of_mem (numeral : Numeral base digits n) :
    ∀ c ∈ digits, ∃ value, IsDigit base c value := by
  induction numeral with
  | digit is => exact List.forall_mem_singleton.2 ⟨_, is⟩
  | append _ is ih =>
    exact List.forall_mem_append.2 ⟨ih, List.forall_mem_singleton.2 ⟨_, is⟩⟩

lemma spells_plus_iff (small : base ≤ 16) :
    Spells base ('+' :: digits) n ↔ Numeral base digits n := by
  refine ⟨fun spells => ?_, .plus⟩
  cases spells with
  | plain numeral =>
    obtain ⟨value, is⟩ := numeral.isDigit_of_mem '+' List.mem_cons_self
    exact absurd is (not_isDigit_plus small)
  | plus numeral => exact numeral

/-- A text is read under a limit exactly if it spells a number below it. -/
theorem below?_eq_some_iff (small : base ≤ 16) :
    below? base limit text = some n ↔ Spells base text n ∧ n < limit := by
  unfold below?
  split
  · rw [Option.filter_eq_some_iff, natural?_eq_some_iff small, spells_plus_iff small,
      decide_eq_true_eq]
  · rename_i unsigned
    rw [Option.filter_eq_some_iff, natural?_eq_some_iff small, decide_eq_true_eq]
    refine and_congr_left fun _ => ⟨.plain, fun spells => ?_⟩
    cases spells with
    | plain numeral => exact numeral
    | plus => exact absurd rfl (unsigned _)

/-- A text spells one number at most. -/
lemma Spells.unique (small : base ≤ 16) (spells : Spells base text m)
    (spells' : Spells base text n) : m = n := by
  have read {k : Nat} (spells : Spells base text k) (le : k ≤ max m n) :
      below? base (max m n + 1) text = some k :=
    (below?_eq_some_iff small).2 ⟨spells, Nat.lt_succ_of_le le⟩
  exact Option.some.inj
    ((read spells (Nat.le_max_left m n)).symm.trans (read spells' (Nat.le_max_right m n)))

lemma Spells.ne_nil (spells : Spells base text n) : text ≠ [] := by
  cases spells with
  | plain numeral => exact numeral.ne_nil
  | plus => exact List.cons_ne_nil _ _

/-- Every character is a plus sign or a digit. -/
lemma Spells.isDigit_of_mem (spells : Spells base text n) :
    ∀ c ∈ text, c = '+' ∨ ∃ value, IsDigit base c value := by
  cases spells with
  | plain numeral => exact fun c mem => .inr (numeral.isDigit_of_mem c mem)
  | plus numeral =>
    exact List.forall_mem_cons.2 ⟨.inl rfl, fun c mem => .inr (numeral.isDigit_of_mem c mem)⟩

/-- The shortest digits of a number are a numeral of it. -/
theorem numeral_toDigits (two : 1 < base) (n : Nat) : Numeral base (Nat.toDigits base n) n := by
  induction n using Nat.strongRecOn with
  | ind n ih =>
    rw [Nat.toDigits_eq_if two]
    split
    · rename_i lt
      exact .digit ⟨lt, .inl rfl⟩
    · rename_i ge
      have pos : 0 < base := Nat.lt_of_succ_lt two
      have numeral := (ih (n / base) (Nat.div_lt_self (by omega) two)).append
        ⟨Nat.mod_lt n pos, .inl rfl⟩
      rwa [Nat.div_add_mod'] at numeral

/-- The text of a number spells it. -/
lemma spells_toString (n : Nat) : Spells 10 (toString n).toList n := by
  rw [Nat.toString_eq_ofList_toDigits, String.toList_ofList]
  exact .plain (numeral_toDigits (by decide) n)

end UpgradeDrill.Digits
