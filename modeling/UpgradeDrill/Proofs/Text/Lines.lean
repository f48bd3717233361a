import Mathlib.Data.List.Basic
import Mathlib.Data.List.TakeWhile
import Mathlib.Tactic.Lemma
import UpgradeDrill.Text.Blank

/-!
# Lines and blanks around them

A line feed ends a line, and a carriage return in front of it belongs to the break. The last line
need not end, and a break at the end begins no line, so what stands before a break says nothing
about the last line of what follows (`getLast?_lines_append`). Trimming takes away the blanks at
both ends, and nothing else (`exists_trimBlanks`).
-/

namespace UpgradeDrill

/-- The lines of a text. -/
def lines : List Char → List (List Char)
  | [] => []
  | '\n' :: rest => [] :: lines rest
  | '\r' :: '\n' :: rest => [] :: lines rest
  | c :: rest =>
    match lines rest with
    | [] => [[c]]
    | line :: others => (c :: line) :: others

section Lines

variable {c : Char} {front line rest text : List Char}

/-- A line without the carriage return that belongs to the break behind it. -/
def withoutReturn (line : List Char) : List Char :=
  if line.getLast? = some '\r' then line.dropLast else line

lemma withoutReturn_concat (line : List Char) : withoutReturn (line ++ ['\r']) = line := by
  rw [withoutReturn, if_pos List.getLast?_concat, List.dropLast_concat]

lemma withoutReturn_of_not_mem (plain : '\r' ∉ line) : withoutReturn line = line :=
  if_neg fun last => plain (List.mem_of_getLast? last)

/-- A line is what it is without a carriage return at its end, or has one more. -/
lemma withoutReturn_cases (line : List Char) :
    line = withoutReturn line ∨ line = withoutReturn line ++ ['\r'] := by
  unfold withoutReturn
  split
  · rename_i last
    exact .inr (List.dropLast_append_getLast? _ last).symm
  · exact .inl rfl

lemma withoutReturn_cons_cons (c d : Char) (line : List Char) :
    withoutReturn (c :: d :: line) = c :: withoutReturn (d :: line) := by
  unfold withoutReturn
  rw [List.getLast?_cons_cons]
  split
  · rfl
  · rfl

/-- A character that does not begin a break is part of the line that goes on behind it. -/
lemma lines_cons {others : List (List Char)} (plain : c ≠ '\n')
    (apart : c = '\r' → rest.head? ≠ some '\n') (goes : lines rest = line :: others) :
    lines (c :: rest) = (c :: line) :: others := by
  rw [lines, goes]
  · exact plain
  · rintro _ rfl rfl
    exact apart rfl rfl

/-- What stands before the first line feed is the first line. -/
lemma lines_append_cons (whole : '\n' ∉ front) (rest : List Char) :
    lines (front ++ '\n' :: rest) = withoutReturn front :: lines rest := by
  induction front with
  | nil => rfl
  | cons c front ih =>
    obtain ⟨plain, whole⟩ := not_or.1 (mt List.mem_cons.2 whole)
    cases front with
    | nil =>
      by_cases returns : c = '\r'
      · subst returns
        rfl
      · rw [withoutReturn_of_not_mem (by simpa [eq_comm] using returns)]
        exact lines_cons (Ne.symm plain) (fun same => absurd same returns) rfl
    | cons d front =>
      rw [withoutReturn_cons_cons]
      refine lines_cons (Ne.symm plain) (fun _ breaks => ?_) (ih whole)
      exact whole (List.mem_cons.2 (.inl (Option.some.inj breaks).symm))

lemma lines_of_not_mem (whole : '\n' ∉ line) (some : line ≠ []) : lines line = [line] := by
  induction line with
  | nil => exact absurd rfl some
  | cons c line ih =>
    obtain ⟨plain, whole⟩ := not_or.1 (mt List.mem_cons.2 whole)
    cases line with
    | nil =>
      rw [lines]
      · rfl
      · exact Ne.symm plain
      · nofun
    | cons d line =>
      refine lines_cons (Ne.symm plain) (fun _ breaks => ?_) (ih whole (List.cons_ne_nil _ _))
      exact whole (List.mem_cons.2 (.inl (Option.some.inj breaks).symm))

/-- A text that is not empty has a line. -/
lemma lines_ne_nil (some : text ≠ []) : lines text ≠ [] := by
  by_cases breaks : '\n' ∈ text
  · obtain ⟨front, rest, rfl, whole⟩ := List.eq_append_cons_of_mem breaks
    rw [lines_append_cons whole]
    exact List.cons_ne_nil _ _
  · rw [lines_of_not_mem breaks some]
    exact List.cons_ne_nil _ _

/-- Nothing before a line feed is in the last line of what follows it. -/
theorem getLast?_lines_append (front : List Char) (some : rest ≠ []) :
    (lines (front ++ '\n' :: rest)).getLast? = (lines rest).getLast? := by
  -- The text up to the first line feed is taken off, until there is none in front of `rest`.
  induction size : front.length using Nat.strongRecOn generalizing front with
  | ind length ih =>
    by_cases breaks : '\n' ∈ front
    · obtain ⟨first, front, rfl, whole⟩ := List.eq_append_cons_of_mem breaks
      have shorter : front.length < length := by
        rw [← size, List.length_append, List.length_cons]
        omega
      have more : lines (front ++ '\n' :: rest) ≠ [] := lines_ne_nil (by simp)
      rw [List.append_assoc, List.cons_append, lines_append_cons whole,
        List.getLast?_cons_of_ne_nil more, ih _ shorter front rfl]
    · rw [lines_append_cons breaks, List.getLast?_cons_of_ne_nil (lines_ne_nil some)]

/-- The same for both kinds of breaks. -/
lemma getLast?_lines_of_break (before : List Char) (some : rest ≠ []) :
    ∀ brk ∈ [['\n'], ['\r', '\n']],
      (lines (before ++ (brk ++ rest))).getLast? = (lines rest).getLast? := by
  simp only [List.forall_mem_cons]
  refine ⟨getLast?_lines_append before some, ?_, nofun⟩
  have returned : before ++ (['\r', '\n'] ++ rest) = (before ++ ['\r']) ++ '\n' :: rest := by
    simp only [List.append_assoc, List.cons_append, List.nil_append]
  rw [returned, getLast?_lines_append _ some]

/-- A line is the only one, whether or not a break ends it. -/
lemma lines_append_break (plain : ∀ c ∈ line, c ≠ '\n' ∧ c ≠ '\r') (some : line ≠ []) :
    ∀ ending ∈ [[], ['\n'], ['\r', '\n']], lines (line ++ ending) = [line] := by
  have whole : '\n' ∉ line := fun mem => (plain _ mem).1 rfl
  have plain : '\r' ∉ line := fun mem => (plain _ mem).2 rfl
  have returned : '\n' ∉ line ++ ['\r'] := by simpa using whole
  simp only [List.forall_mem_cons]
  refine ⟨?_, ?_, ?_, nofun⟩
  · rw [List.append_nil, lines_of_not_mem whole some]
  · rw [lines_append_cons whole, withoutReturn_of_not_mem plain, lines]
  · rw [← List.singleton_append, ← List.append_assoc, lines_append_cons returned,
      withoutReturn_concat, lines]

end Lines

section Blanks

variable {left right text : List Char}

/-- Blanks in front are trimmed. -/
lemma trimBlanks_append_left (blank : ∀ c ∈ left, isBlank c = true) (text : List Char) :
    trimBlanks (left ++ text) = trimBlanks text := by
  rw [trimBlanks, List.dropWhile_append_of_pos blank, trimBlanks]

/-- Blanks at the end are trimmed. -/
lemma trimBlanks_append_right (blank : ∀ c ∈ right, isBlank c = true) (text : List Char) :
    trimBlanks (text ++ right) = trimBlanks text := by
  unfold trimBlanks
  rw [List.dropWhile_append]
  split
  · rename_i empty
    rw [List.isEmpty_iff.1 empty, List.dropWhile_eq_nil_iff.2 blank]
  · rw [List.reverse_append,
      List.dropWhile_append_of_pos fun c mem => blank c (List.mem_reverse.1 mem)]

/-- A text without blanks is left as it is. -/
lemma trimBlanks_eq_self (dark : ∀ c ∈ text, isBlank c = false) : trimBlanks text = text := by
  have kept {text : List Char} (dark : ∀ c ∈ text, isBlank c = false) :
      text.dropWhile isBlank = text := by
    refine List.dropWhile_eq_self_iff.2 fun _ => ?_
    rw [dark _ (List.getElem_mem _)]
    exact Bool.false_ne_true
  rw [trimBlanks, kept dark, kept fun c mem => dark c (List.mem_reverse.1 mem),
    List.reverse_reverse]

/-- A carriage return at the end of a line is trimmed with the blanks. -/
lemma trimBlanks_withoutReturn (line : List Char) :
    trimBlanks (withoutReturn line) = trimBlanks line := by
  have blank : ∀ c ∈ ['\r'], isBlank c = true := List.forall_mem_singleton.2 rfl
  rcases withoutReturn_cases line with same | returned
  · rw [← same]
  · rw [← trimBlanks_append_right blank, ← returned]

/-- Only blanks at both ends are trimmed. -/
lemma exists_trimBlanks (text : List Char) : ∃ left right,
    text = left ++ trimBlanks text ++ right ∧ (∀ c ∈ left, isBlank c = true) ∧
      ∀ c ∈ right, isBlank c = true := by
  have front : text.takeWhile isBlank ++ text.dropWhile isBlank = text :=
    List.takeWhile_append_dropWhile
  have back : ((text.dropWhile isBlank).reverse.takeWhile isBlank ++
      (text.dropWhile isBlank).reverse.dropWhile isBlank).reverse = text.dropWhile isBlank := by
    rw [List.takeWhile_append_dropWhile, List.reverse_reverse]
  rw [List.reverse_append] at back
  refine ⟨text.takeWhile isBlank, ((text.dropWhile isBlank).reverse.takeWhile isBlank).reverse, ?_,
    fun _ => List.mem_takeWhile_imp, fun _ mem => List.mem_takeWhile_imp (List.mem_reverse.1 mem)⟩
  rw [trimBlanks, List.append_assoc, back, front]

end Blanks

end UpgradeDrill
