import UpgradeDrill.Routine.Team

/-!
# Pools of routines

A pool runs a list of routines with at most a given number under way at once. It is itself a
routine: whoever wakes first goes on until it has to wait again, so routines that need no waiting
run one after another. A routine that ends makes room for the next in line at that moment, and a
failure ends the pool. The disciplines of a pool differ in who comes first if several wake together,
and in which failure counts.
-/

namespace UpgradeDrill

/-- A member of a team that goes on at some time. -/
structure Turn where
  due : Nat
  position : Nat
  deriving DecidableEq, Repr

/-- Which of several turns that are due together comes first. -/
inductive Precedence where
  /-- The turn of the routine that stands earlier in the list. -/
  | listed
  /-- The turn of the routine that began to wait earlier. -/
  | queued
  deriving DecidableEq, Repr

/-- Whether a turn stays in front of one that comes later. -/
def Precedence.keeps (precedence : Precedence) (turn later : Turn) : Bool :=
  turn.due < later.due ||
    (turn.due = later.due &&
      match precedence with
      | listed => turn.position < later.position
      | queued => true)

/-- Puts a turn into a line of turns, whose first one is the next. -/
def Precedence.lineUp (precedence : Precedence) (turn : Turn) : List Turn → List Turn
  | [] => [turn]
  | other :: line =>
    if precedence.keeps other turn then other :: precedence.lineUp turn line
    else turn :: other :: line

/-- The outcomes of routines with their positions, the latest first. -/
abbrev Outcomes (ε α : Type) : Type := List (Nat × Except ε α)

namespace Outcomes

variable {ε α : Type}

def latestFailure? : Outcomes ε α → Option ε
  | (_, .error error) :: _ => some error
  | _ => none

/-- A failure of a routine before which, in the list, all have ended well. -/
def listedFailure? (outcomes : Outcomes ε α) : Option ε :=
  let listed := (List.range outcomes.length).map (outcomes.lookup ·)
  match listed.find? fun outcome => !outcome.any (·.isOk) with
  | some (some (.error error)) => some error
  | _ => none

/-- The results with their positions, the first one first. -/
def results (outcomes : Outcomes ε α) : List (Nat × α) :=
  outcomes.reverse.filterMap fun (position, outcome) =>
    outcome.toOption.map fun value => (position, value)

end Outcomes

structure Discipline (ε α : Type) where
  precedence : Precedence
  /-- The failure that ends the pool, if any. -/
  failure? : Outcomes ε α → Option ε

structure Progress (ε α : Type) where
  now : Nat
  /-- The turns of the routines that are under way, the next one first. -/
  line : List Turn
  /-- The positions of the routines that have not begun. -/
  waiting : List Nat
  outcomes : Outcomes ε α

namespace Progress

variable {ε α : Type}

def start (limit count : Nat) : Progress ε α :=
  let positions := List.range count
  ⟨0, (positions.take limit).map (⟨0, ·⟩), positions.drop limit, []⟩

/-- The member in a position goes on without waiting. -/
def goOn (position : Nat) (progress : Progress ε α) : Progress ε α :=
  { progress with line := ⟨progress.now, position⟩ :: progress.line }

def wait (precedence : Precedence) (position pause : Nat) (progress : Progress ε α) :
    Progress ε α :=
  { progress with line := precedence.lineUp ⟨progress.now + pause, position⟩ progress.line }

/-- The member in a position has ended, and the next that has not begun may begin. -/
def finish (precedence : Precedence) (position : Nat) (outcome : Except ε α)
    (progress : Progress ε α) : Progress ε α :=
  let progress := { progress with outcomes := (position, outcome) :: progress.outcomes }
  match progress.waiting with
  | [] => progress
  | next :: waiting => { progress.wait precedence next 0 with waiting }

end Progress

variable {I : Interface} {ε α : Type}

mutual

def Team.run (discipline : Discipline ε α) :
    Team I (Except ε α) → Progress ε α → Routine I (Except ε (List (Nat × α)))
  | .mk member, progress =>
    match progress.line with
    | [] => .done (.ok progress.outcomes.results)
    | turn :: line =>
      let rest :=
        (member turn.position).run discipline turn.position { progress with now := turn.due, line }
      if turn.due = progress.now then rest else .wait (turn.due - progress.now) rest

/-- Runs a team from what one of its members does. -/
def Member.run (discipline : Discipline ε α) :
    Member I (Except ε α) → (position : Nat) → Progress ε α →
      Routine I (Except ε (List (Nat × α)))
  | .absent, _, progress => .done (.ok progress.outcomes.results)
  | .ended outcome rest, position, progress =>
    let progress := progress.finish discipline.precedence position outcome
    match discipline.failure? progress.outcomes with
    | some error => .done (.error error)
    | none => rest.run discipline progress
  | .ask request next, position, progress =>
    .ask request fun reply took => (next reply took).run discipline (progress.goOn position)
  | .wait pause next, position, progress =>
    next.run discipline
      (if pause = 0 then progress.goOn position
      else progress.wait discipline.precedence position pause)
  | .clock next, position, progress =>
    .clock fun now => (next now).run discipline (progress.goOn position)

end

/-- Runs attempts with at most `limit` under way. Gives each result with the position of its attempt
in the list, in the order in which they ended, or the failure that ended the run. -/
def runTogether (discipline : Discipline ε α) (limit : Nat) (attempts : List (Attempt I ε α)) :
    Attempt I ε (List (Nat × α)) :=
  ExceptT.mk ((Team.ofList (attempts.map (·.run))).run discipline (.start limit attempts.length))

/-- Runs attempts with at most `limit` under way, until they have all ended or one has failed. -/
def pool (limit : Nat) (attempts : List (Attempt I ε α)) : Attempt I ε (List (Nat × α)) :=
  runTogether ⟨.queued, Outcomes.latestFailure?⟩ limit attempts

def inOrder (results : List (Nat × α)) : List α :=
  (List.range results.length).filterMap (List.lookup · results)

/-- How attempts are run all at once. Up to thirty are gone through in the order of the list
whenever one of them wakes, and the first failure counts. More are queued, and a failure counts
once all attempts before it in the list have ended well. -/
def Discipline.ofCount (count : Nat) : Discipline ε α :=
  if count ≤ 30 then ⟨.listed, Outcomes.latestFailure?⟩ else ⟨.queued, Outcomes.listedFailure?⟩

/-- Runs attempts all at once. Gives their results in the order of the list, or a failure. -/
def joinAll (attempts : List (Attempt I ε α)) : Attempt I ε (List α) :=
  inOrder <$> runTogether (.ofCount attempts.length) attempts.length attempts

end UpgradeDrill
