import Mathlib.Algebra.Group.Nat.Defs
import UpgradeDrill.Drill.SequencerCli
import UpgradeDrill.Proofs.Text.Digits
import UpgradeDrill.Proofs.Text.Lines

/-!
# Balances that the client prints

A balance is read from the last line of what the client printed. This line must show an amount: the
digits of a number below `2 ^ 128` and the asset right behind them, with nothing but blanks around
them. Whatever stands on the lines before is not looked at (`balance_read`).
-/

namespace UpgradeDrill.SequencerCli

/-- A line shows an amount: a numeral with the asset right behind it, and blanks around them. -/
inductive Shows : List Char → Nat → Prop where
  | amount {left digits right : List Char} {n : Nat} (spells : Digits.Spells 10 digits n)
    (before : ∀ c ∈ left, isBlank c = true) (behind : ∀ c ∈ right, isBlank c = true) :
    Shows (left ++ (digits ++ "nria".toList) ++ right) n

variable {front rest text line ending : List Char} {n : Nat}

section LastLine

lemma lastLine_concat (text : List Char) (c : Char) : lastLine (text ++ [c]) =
    ((if c = '\n' then text.reverse else c :: text.reverse).takeWhile (· ≠ '\n')).reverse := by
  rw [lastLine, List.reverse_append]
  by_cases breaks : c = '\n' <;> simp [breaks]

lemma takeWhile_append_break (rest front : List Char) :
    (rest ++ '\n' :: front).takeWhile (· ≠ '\n') = rest.takeWhile (· ≠ '\n') := by
  induction rest with
  | nil => rfl
  | cons c rest ih => simp only [List.cons_append, List.takeWhile_cons, ih]

/-- What stands before a line feed is not in the last line of what follows it. -/
lemma lastLine_append_cons (front : List Char) (some : rest ≠ []) :
    lastLine (front ++ '\n' :: rest) = lastLine rest := by
  obtain ⟨more, c, rfl⟩ := (List.eq_nil_or_concat' rest).resolve_left some
  have reversed : (front ++ '\n' :: more).reverse = more.reverse ++ '\n' :: front.reverse := by simp
  rw [← List.cons_append, ← List.append_assoc, lastLine_concat, lastLine_concat, reversed]
  split
  · rw [takeWhile_append_break]
  · rw [← List.cons_append, takeWhile_append_break]

/-- A line that a line feed ends is the last one. -/
lemma lastLine_broken (whole : '\n' ∉ line) : lastLine (line ++ ['\n']) = line := by
  have plain : line.reverse.takeWhile (· ≠ '\n') = line.reverse :=
    List.takeWhile_eq_self_iff.2 fun c mem =>
      decide_eq_true fun same => whole (same ▸ List.mem_reverse.1 mem)
  rw [lastLine_concat, if_pos rfl, plain, List.reverse_reverse]

/-- A text without a line feed is its last line. -/
lemma lastLine_of_not_mem (whole : '\n' ∉ line) : lastLine line = line := by
  rcases List.eq_nil_or_concat' line with rfl | ⟨front, c, rfl⟩
  · rfl
  · have plain : c ≠ '\n' := fun same => whole (by simp [same])
    have unbroken : lastLine (front ++ [c] ++ ['\n']) = lastLine (front ++ [c]) := by
      rw [lastLine_concat, if_pos rfl, lastLine_concat, if_neg plain, List.reverse_append]
      rfl
    rw [← unbroken, lastLine_broken whole]

/-- The last line, but for blanks around it, is the last one of all lines. -/
theorem trimBlanks_lastLine (some : text ≠ []) :
    ∃ line, (lines text).getLast? = .some line ∧ trimBlanks (lastLine text) = trimBlanks line := by
  -- Lines are taken off the front until one is left, which ends with the text or with a break.
  induction size : text.length using Nat.strongRecOn generalizing text with
  | ind length ih =>
    by_cases breaks : '\n' ∈ text
    · obtain ⟨front, rest, rfl, whole⟩ := List.eq_append_cons_of_mem breaks
      rcases eq_or_ne rest [] with rfl | more
      · refine ⟨withoutReturn front, by rw [lines_append_cons whole]; rfl, ?_⟩
        rw [lastLine_broken whole, trimBlanks_withoutReturn]
      · have shorter : rest.length < length := by
          rw [← size, List.length_append, List.length_cons]
          omega
        rw [getLast?_lines_append front more, lastLine_append_cons front more]
        exact ih _ shorter more rfl
    · exact ⟨text, by rw [lines_of_not_mem breaks some]; rfl, by rw [lastLine_of_not_mem breaks]⟩

end LastLine

section Amounts

lemma dropEnd?_eq_some_iff : dropEnd? ending text = some front ↔ text = front ++ ending := by
  unfold dropEnd?
  split
  · rename_i ends
    obtain ⟨start, rfl⟩ := List.isSuffixOf_iff_suffix.1 ends
    rw [List.length_append, Nat.add_sub_cancel, List.take_left, Option.some.injEq,
      List.append_cancel_right_eq]
  · rename_i ends
    refine ⟨nofun, ?_⟩
    rintro rfl
    exact absurd (List.isSuffixOf_iff_suffix.2 (List.suffix_append _ _)) ends

lemma isBlank_digitChar : ∀ value < 10, isBlank value.digitChar = false ∧
    isBlank value.digitChar.toUpper = false := by decide

lemma isBlank_asset : ∀ c ∈ asset.toList, isBlank c = false := by
  show ∀ c ∈ ['n', 'r', 'i', 'a'], isBlank c = false
  simp only [List.forall_mem_cons]
  exact ⟨rfl, rfl, rfl, rfl, nofun⟩

/-- No blank is part of an amount. -/
lemma not_isBlank_of_spells {digits : List Char} (spells : Digits.Spells 10 digits n) :
    ∀ c ∈ digits ++ asset.toList, isBlank c = false := by
  refine List.forall_mem_append.2 ⟨fun c mem => ?_, isBlank_asset⟩
  rcases spells.isDigit_of_mem c mem with rfl | ⟨value, lt, rfl | rfl⟩
  · rfl
  · exact (isBlank_digitChar value lt).1
  · exact (isBlank_digitChar value lt).2

/-- An amount is what a line shows that is left when its blanks are trimmed. -/
lemma shows_iff : Shows line n ↔
    ∃ digits, trimBlanks line = digits ++ asset.toList ∧ Digits.Spells 10 digits n := by
  constructor
  · rintro ⟨spells, before, behind⟩
    refine ⟨_, ?_, spells⟩
    rw [trimBlanks_append_right behind, trimBlanks_append_left before]
    exact trimBlanks_eq_self (not_isBlank_of_spells spells)
  · rintro ⟨digits, trimmed, spells⟩
    obtain ⟨left, right, whole, before, behind⟩ := exists_trimBlanks line
    rw [whole, trimmed]
    exact .amount spells before behind

/-- The balance that a last line shows is read. -/
theorem parseBalance_eq_some_iff {stdout : String} : parseBalance stdout = some n ↔
    ∃ line, (lines stdout.toList).getLast? = some line ∧ Shows line n ∧ n < 2 ^ 128 := by
  have limit : uint128Size = 2 ^ 128 := rfl
  have read (trimmed : List Char) :
      (dropEnd? asset.toList trimmed).bind (Digits.below? 10 uint128Size) = some n ↔
        (∃ digits, trimmed = digits ++ asset.toList ∧ Digits.Spells 10 digits n) ∧ n < 2 ^ 128 := by
    simp only [Option.bind_eq_some_iff, dropEnd?_eq_some_iff,
      Digits.below?_eq_some_iff (show 10 ≤ 16 by decide), limit, ← and_assoc, exists_and_right]
  rw [parseBalance, read]
  rcases eq_or_ne stdout.toList [] with empty | some
  · rw [empty]
    simp [lines, lastLine, trimBlanks, asset]
  · obtain ⟨line, last, same⟩ := trimBlanks_lastLine some
    rw [same, ← shows_iff, last]
    simp only [Option.some.injEq, exists_eq_left']

/-- What stands before a line feed does not matter for what is read behind it. -/
lemma parseBalance_append {rest : String} (before : String) (some : rest ≠ "") :
    parseBalance (before ++ "\n" ++ rest) = parseBalance rest := by
  have text : (before ++ "\n" ++ rest).toList = before.toList ++ '\n' :: rest.toList := by
    simp only [String.toList_append, List.append_assoc]
    rfl
  have some : rest.toList ≠ [] := mt String.toList_eq_nil_iff.1 some
  refine Option.ext fun n => ?_
  rw [parseBalance_eq_some_iff, parseBalance_eq_some_iff, text, getLast?_lines_append _ some]

/-- A printed text begins with lines that are not looked at, if any, and its last one shows an
amount. -/
lemma parseBalance_of_last {front left right ending : String} (lt : n < 2 ^ 128)
    (blank : ∀ c ∈ (left ++ right).toList, c = ' ' ∨ c = '\t')
    (begins : front = "" ∨ ∃ before, ∃ brk ∈ ["\n", "\r\n"], front = before ++ brk)
    (ends : ending ∈ ["", "\n", "\r\n"]) :
    parseBalance (front ++ left ++ toString n ++ "nria" ++ right ++ ending) = some n := by
  have spells : Digits.Spells 10 (toString n).toList n := Digits.spells_toString n
  obtain ⟨before, behind⟩ := List.forall_mem_append.1 (String.toList_append ▸ blank)
  have isBlank_of {c : Char} (blank : c = ' ' ∨ c = '\t') : isBlank c = true := by
    rcases blank with rfl | rfl <;> rfl
  have unbroken {c : Char} (blank : c = ' ' ∨ c = '\t') : c ≠ '\n' ∧ c ≠ '\r' := by
    rcases blank with rfl | rfl <;> decide
  have shown {c : Char} (dark : isBlank c = false) : c ≠ '\n' ∧ c ≠ '\r' :=
    ⟨fun same => absurd (same ▸ dark) (by decide), fun same => absurd (same ▸ dark) (by decide)⟩
  have plain : ∀ c ∈ left.toList ++ ((toString n).toList ++ "nria".toList) ++ right.toList,
      c ≠ '\n' ∧ c ≠ '\r' := by
    refine List.forall_mem_append.2 ⟨List.forall_mem_append.2 ⟨?_, ?_⟩, ?_⟩
    · exact fun c mem => unbroken (before c mem)
    · exact fun c mem => shown (not_isBlank_of_spells spells c mem)
    · exact fun c mem => unbroken (behind c mem)
  have only := lines_append_break plain (by simp) ending.toList (List.mem_map_of_mem ends)
  rw [parseBalance_eq_some_iff]
  refine ⟨_, ?_, .amount spells (fun c mem => isBlank_of (before c mem))
    (fun c mem => isBlank_of (behind c mem)), lt⟩
  have text : (front ++ left ++ toString n ++ "nria" ++ right ++ ending).toList = front.toList ++
      (left.toList ++ ((toString n).toList ++ "nria".toList) ++ right.toList ++ ending.toList) := by
    simp only [String.toList_append, List.append_assoc]
  rw [text]
  rcases begins with rfl | ⟨before, brk, mem, rfl⟩
  · exact congrArg List.getLast? only
  · rw [String.toList_append, List.append_assoc,
      getLast?_lines_of_break _ (by simp) _ (List.mem_map_of_mem mem), only]
    rfl

/-- A last line that does not end with the asset shows no balance. -/
lemma parseBalance_eq_none {stdout : String} (last : (lines stdout.toList).getLast? = some line)
    (other : ¬ "nria".toList <:+ trimBlanks line) : parseBalance stdout = none := by
  refine Option.eq_none_iff_forall_ne_some.2 fun n read => ?_
  obtain ⟨line', last', shows, -⟩ := parseBalance_eq_some_iff.1 read
  cases last.symm.trans last'
  obtain ⟨digits, trimmed, -⟩ := shows_iff.1 shows
  exact other (trimmed ▸ List.suffix_append digits _)

/-- Nothing is left of a blank line, so it does not end with the asset. -/
lemma not_suffix_of_blank (blank : ∀ c ∈ line, isBlank c = true) :
    ¬ "nria".toList <:+ trimBlanks line := by
  have nothing : trimBlanks line = [] := trimBlanks_append_right blank []
  rw [nothing]
  decide

end Amounts

/-- A number below `2 ^ 128` that is printed on the last line, with the asset right behind it and
spaces or tabs around it, is read whatever was printed before and whether or not a break follows. A
balance is read only if the last line shows it, so neither an earlier line nor a blank last one nor
one with another asset is read as a balance. -/
theorem balance_read :
    (∀ (n : Nat) (front left right ending : String), n < 2 ^ 128 →
      (front = "" ∨ ∃ before, ∃ brk ∈ ["\n", "\r\n"], front = before ++ brk) →
      (∀ c ∈ (left ++ right).toList, c = ' ' ∨ c = '\t') → ending ∈ ["", "\n", "\r\n"] →
      parseBalance (front ++ left ++ toString n ++ "nria" ++ right ++ ending) = some n) ∧
    (∀ stdout n, parseBalance stdout = some n ↔
      ∃ line, (lines stdout.toList).getLast? = some line ∧ Shows line n ∧ n < 2 ^ 128) ∧
    (∀ before rest, rest ≠ "" →
      parseBalance (before ++ "\n" ++ rest) = parseBalance rest) ∧
    ∀ (stdout : String) (line : List Char), (lines stdout.toList).getLast? = some line →
      ((∀ c ∈ line, isBlank c = true) → parseBalance stdout = none) ∧
      (¬ "nria".toList <:+ trimBlanks line → parseBalance stdout = none) :=
  ⟨fun _ _ _ _ _ lt begins blank ends => parseBalance_of_last lt blank begins ends,
    fun _ _ => parseBalance_eq_some_iff, fun before _ some => parseBalance_append before some,
    fun _ _ last => ⟨fun blank => parseBalance_eq_none last (not_suffix_of_blank blank),
      parseBalance_eq_none last⟩⟩

/-- A balance below other output, one with a sign and zeros, and a line that shows none. -/
theorem balance_read_sample :
    parseBalance ("balance:" ++ "\r\n" ++ "\t" ++ toString 1000 ++ "nria" ++ " " ++ "\r\n") =
      some 1000 ∧
    parseBalance "balance:\n+007nria" = some 7 ∧
    parseBalance ("5nria" ++ "\n" ++ "6nria") = parseBalance "6nria" ∧
    parseBalance "5nria\n \n" = none ∧
    parseBalance "5nria\n5ria" = none := by
  obtain ⟨printed, shown, earlier, none⟩ := balance_read
  have spells : Digits.Spells 10 "+007".toList 7 :=
    .plus ((Digits.natural?_eq_some_iff (by decide)).1 (by decide))
  have shows : Shows ([] ++ ("+007".toList ++ "nria".toList) ++ []) 7 := .amount spells nofun nofun
  have blank : ∀ c ∈ ("\t" ++ " ").toList, c = ' ' ∨ c = '\t' :=
    List.forall_mem_cons.2 ⟨.inr rfl, List.forall_mem_singleton.2 (.inl rfl)⟩
  refine ⟨printed 1000 _ "\t" " " "\r\n" (by decide) (.inr ⟨"balance:", "\r\n", ?_, rfl⟩) blank ?_,
    (shown _ 7).2 ⟨"+007nria".toList, rfl, shows, by decide⟩, earlier _ _ (by decide),
    (none _ [' '] rfl).1 (List.forall_mem_singleton.2 rfl), (none _ "5ria".toList rfl).2 ?_⟩
  · decide
  · decide
  · decide

end UpgradeDrill.SequencerCli
