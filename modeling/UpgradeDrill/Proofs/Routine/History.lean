import UpgradeDrill.Proofs.Routine.Pool

/-!
# Rules of a history

A rule says which exchange may follow which history. `Ensures` is a triple over histories: from any
history of one kind, an attempt keeps the rule at every exchange, however it goes on or ends, and
leaves a history of another kind if it gives a value. The members of a pool each keep a rule of
their own, which looks at their own exchanges only (`runTogether_ensures`).
-/

namespace UpgradeDrill

open Routine

variable {I : Interface} {ε ε' α β : Type}

/-- Which exchange may follow which history. -/
abbrev Rule (I : Interface) : Type := List (Exchange I) → Exchange I → Prop

/-- A kind of history, at a time. -/
abbrev State (I : Interface) : Type := List (Exchange I) → (now : Nat) → Prop

/-- A kind of history that lasts, whatever follows. -/
def State.Lasting (lasts : State I) : Prop :=
  ∀ ⦃history now later⦄ (es : List (Exchange I)), now ≤ later → lasts history now →
    lasts (history ++ es) later

/-- The histories without an exchange of a kind. -/
def State.Without (kind : Exchange I → Bool) : State I :=
  fun history _ => ∀ e ∈ history, kind e = false

/-- Every exchange of a history that goes on from another keeps a rule. -/
def Rule.Kept (rule : Rule I) (history es : List (Exchange I)) : Prop :=
  ∀ before e after, es = before ++ e :: after → rule (history ++ before) e

lemma Rule.Kept.append {rule : Rule I} {history first second : List (Exchange I)}
    (left : rule.Kept history first) (right : rule.Kept (history ++ first) second) :
    rule.Kept history (first ++ second) := by
  intro before e after eq
  rcases List.append_eq_append_iff.1 eq with ⟨middle, rfl, same⟩ | ⟨middle, rfl, same⟩
  · rw [← List.append_assoc]
    exact right middle e after same
  · cases middle with
    | nil =>
      rw [List.append_nil] at right
      have kept := right [] e after same.symm
      rwa [List.append_nil] at kept
    | cons d middle =>
      obtain ⟨rfl, rfl⟩ := List.cons.inj same
      exact left before e middle rfl

/-- A rule is kept by the exchanges of a log if every entry keeps it. -/
lemma Rule.Kept.of_log {rule : Rule I} {history : List (Exchange I)} {log : Log I}
    (kept : ∀ before position e after, log = before ++ (position, e) :: after →
      rule (history ++ before.map (·.2)) e) :
    rule.Kept history (log.map (·.2)) := by
  intro before e after eq
  obtain ⟨first, second, rfl, rfl, same⟩ := List.map_eq_append_iff.1 eq
  obtain ⟨⟨position, _⟩, last, rfl, rfl, rfl⟩ := List.map_eq_cons_iff.1 same
  exact kept first position _ last rfl

/-- A rule that lets an exchange of a kind follow none of that kind only allows one of it. -/
lemma Rule.Kept.countP_le_one {rule : Rule I} {kind : Exchange I → Bool} {es : List (Exchange I)}
    (first : ∀ before e, rule before e → kind e = true → State.Without kind before e.time)
    (kept : rule.Kept [] es) : es.countP kind ≤ 1 := by
  induction es using List.reverseRecOn with
  | nil => exact Nat.zero_le _
  | append_singleton es e ih =>
    rw [List.countP_append, List.countP_singleton]
    have last : rule es e := kept es e [] rfl
    cases is : kind e with
    | true =>
      have none : es.countP kind = 0 :=
        List.countP_eq_zero.2 fun d mem => Bool.eq_false_iff.1 (first es e last is d mem)
      rw [none]
      exact Nat.le_refl _
    | false =>
      refine ih fun before d after eq => kept before d (after ++ [e]) ?_
      rw [eq, List.append_assoc, List.cons_append]

/-- Every exchange in the log of a pool keeps the rule of its member. -/
structure Log.Keeps (own : Nat → Rule I) (now : Nat) (log : Log I) : Prop where
  own : ∀ before position e after, log = before ++ (position, e) :: after →
    own position (Log.thread before position) e
  time : ∀ entry ∈ log, now ≤ entry.2.time

lemma Log.Keeps.of_append {own : Nat → Rule I} {now : Nat} {log first second : Log I}
    (keeps : log.Keeps own now) (eq : log = first ++ second) : Keeps own now first where
  own before position e after same :=
    keeps.own before position e (after ++ second) (by rw [eq, same, List.append_assoc]; rfl)
  time entry mem := keeps.time entry (eq ▸ List.mem_append_left _ mem)

lemma Log.Keeps.entry {own : Nat → Rule I} {now position : Nat} {log : Log I} {e : Exchange I}
    (keeps : log.Keeps own now) (mem : (position, e) ∈ log) :
    ∃ history ⊆ log.thread position, own position history e := by
  obtain ⟨before, after, eq⟩ := List.append_of_mem mem
  refine ⟨Log.thread before position, fun d own => ?_, keeps.own _ _ _ _ eq⟩
  rw [Log.mem_thread] at own ⊢
  rw [eq]
  exact List.mem_append_left _ own

lemma Log.Keeps.exists_own {own : Nat → Rule I} {now : Nat} {log : Log I} {e : Exchange I}
    (keeps : log.Keeps own now) (mem : e ∈ log.map (·.2)) :
    ∃ position history, own position history e := by
  obtain ⟨⟨position, e⟩, listed, rfl⟩ := List.mem_map.1 mem
  obtain ⟨history, _, kept⟩ := keeps.entry listed
  exact ⟨position, history, kept⟩

/-- A log has no exchange of a kind if only one member makes such, and that one has not yet. -/
lemma Log.without {kind : Exchange I → Bool} {log : Log I} {position : Nat}
    (own : ∀ e ∈ log.thread position, kind e = false)
    (others : ∀ entry ∈ log, kind entry.2 = true → entry.1 = position) :
    ∀ e ∈ log.map (·.2), kind e = false := by
  intro e mem
  obtain ⟨⟨other, e⟩, listed, rfl⟩ := List.mem_map.1 mem
  cases is : kind e with
  | false => rfl
  | true =>
    obtain rfl : other = position := others _ listed is
    exact is.symm.trans (own e (Log.mem_thread.2 listed))

namespace Attempt

/-- From any history of a kind, an attempt keeps a rule, and leaves a history of another kind with
its value. -/
def Ensures (rule : Rule I) (P : State I) (x : Attempt I ε α) (Q : α → State I) : Prop :=
  ∀ ⦃history now es rest finish⦄, P history now → Reaches x.run now es rest finish →
    rule.Kept history es ∧
      ∀ value, rest = done (.ok value) → Q value (history ++ es) finish

variable {rule : Rule I} {P P' : State I} {Q : α → State I} {x : Attempt I ε α}

lemma Ensures.ofExcept {result : Except ε α}
    (post : ∀ value history now, result = .ok value → P history now → Q value history now) :
    Ensures rule P (ofExcept result) Q := by
  intro history now es rest finish pre path
  obtain ⟨rfl, rfl, rfl⟩ := reaches_done_iff.1 path
  refine ⟨fun before e after eq => ?_, fun value eq => ?_⟩
  · cases List.nil_eq_append_iff.1 eq |>.2
  · cases eq
    rw [List.append_nil]
    exact post _ _ _ rfl pre

lemma Ensures.pure {value : α} (post : ∀ history now, P history now → Q value history now) :
    Ensures rule P (Pure.pure value : Attempt I ε α) Q := by
  show Ensures rule P (Attempt.ofExcept (.ok value)) Q
  refine Ensures.ofExcept fun value' history now eq pre => ?_
  cases eq
  exact post _ _ pre

lemma Ensures.throw {error : ε} : Ensures rule P (throw error : Attempt I ε α) Q :=
  Ensures.ofExcept nofun

lemma Ensures.bind {f : α → Attempt I ε β} {R : β → State I} (first : Ensures rule P x Q)
    (second : ∀ value, Ensures rule (Q value) (f value) R) : Ensures rule P (x >>= f) R := by
  intro history now es rest finish pre path
  rcases reaches_bind_cases path with
    ⟨left, path, failed⟩ | ⟨es₁, es₂, value, time, rfl, left, right⟩
  · refine ⟨(first pre path).1, fun value eq => ?_⟩
    obtain ⟨error, eq, _⟩ := failed _ eq
    cases eq
  · obtain ⟨kept, post⟩ := first pre left
    obtain ⟨kept', post'⟩ := second value (post value rfl) right
    rw [← List.append_assoc]
    exact ⟨kept.append kept', post'⟩

lemma Ensures.mono {Q' : α → State I} (ensures : Ensures rule P x Q)
    (pre : ∀ history now, P' history now → P history now)
    (post : ∀ value history now, Q value history now → Q' value history now) :
    Ensures rule P' x Q' := by
  intro history now es rest finish holds path
  obtain ⟨kept, ends⟩ := ensures (pre _ _ holds) path
  exact ⟨kept, fun value eq => post _ _ _ (ends value eq)⟩

lemma Ensures.map {R : State I} (f : α → β) (ensures : Ensures rule P x fun _ => R) :
    Ensures rule P (f <$> x) fun _ => R := by
  rw [map_eq_pure_bind]
  exact ensures.bind fun _ => .pure fun _ _ => id

/-- What does not depend on the history may be used throughout. -/
lemma Ensures.of_fact {fact : Prop} (ensures : fact → Ensures rule P x Q) :
    Ensures rule (fun history now => fact ∧ P history now) x Q :=
  fun _ _ _ _ _ pre path => ensures pre.1 pre.2 path

/-- What an attempt gives has the properties of all that it gives. -/
lemma Ensures.returning {V : α → Prop} (ensures : Ensures rule P x Q) (returns : x.Returns V) :
    Ensures rule P x fun value history now => V value ∧ Q value history now := by
  intro history now es rest finish pre path
  obtain ⟨kept, post⟩ := ensures pre path
  refine ⟨kept, fun value eq => ⟨?_, post value eq⟩⟩
  subst eq
  exact returns path

/-- What lasts holds after an attempt if it did before. -/
lemma Ensures.frame {lasts : State I} (lasting : State.Lasting lasts)
    (ensures : Ensures rule P x Q) :
    Ensures rule (fun history now => P history now ∧ lasts history now) x
      fun value history now => Q value history now ∧ lasts history now := by
  intro history now es rest finish pre path
  obtain ⟨kept, post⟩ := ensures pre.1 path
  exact ⟨kept, fun value eq => ⟨post value eq, lasting es path.le pre.2⟩⟩

lemma Ensures.widen {g : ε → ε'} (ensures : Ensures rule P x Q) :
    Ensures rule P (x.widen g) Q := by
  intro history now es rest finish pre path
  obtain ⟨left, path, ended⟩ := reaches_map_cases path
  obtain ⟨kept, post⟩ := ensures pre path
  refine ⟨kept, fun value eq => ?_⟩
  obtain ⟨result, rfl, same⟩ := ended _ eq
  cases result with
  | ok value' =>
    cases same
    exact post value rfl
  | error error => cases same

/-- An attempt that only asks what may follow any history of a kind. -/
lemma Ensures.of_asksOnly {K : I.Request → Prop} (only : x.AsksOnly K)
    (allowed : ∀ history e, K e.request → rule history e)
    (post : ∀ {history now es value finish}, P history now → (∀ e ∈ es, K e.request) →
      x.Yields now es (.ok value) finish → Q value (history ++ es) finish) :
    Ensures rule P x Q := by
  intro history now es rest finish pre path
  refine ⟨fun before e after eq => allowed _ e (only path e ?_), fun value eq => ?_⟩
  · rw [eq]
    exact List.mem_append_right _ List.mem_cons_self
  · cases eq
    exact post pre (only path) path

/-- An attempt that only asks what may follow all histories of a kind that lasts. -/
lemma Ensures.of_lasting {K : I.Request → Prop} {lasts : State I} (lasting : State.Lasting lasts)
    (only : x.AsksOnly K)
    (allowed : ∀ history e, lasts history e.time → K e.request → rule history e) :
    Ensures rule lasts x fun _ => lasts := by
  intro history now es rest finish pre path
  refine ⟨fun before e after eq => ?_, fun _ _ => lasting es path.le pre⟩
  have mem : e ∈ es := eq ▸ List.mem_append_right _ List.mem_cons_self
  exact allowed _ e (lasting before (path.time_mem mem).1 pre) (only path e mem)

/-- An attempt makes one exchange of a kind, which has arrived when there is a value. -/
def Makes (x : Attempt I ε α) (Is : Exchange I → Prop) (Gives : α → Exchange I → Prop) : Prop :=
  ∀ ⦃now es rest finish⦄, Reaches x.run now es rest finish →
    (es = [] ∧ ∀ outcome, rest ≠ done outcome) ∨
      ∃ e, es = [e] ∧ Is e ∧ e.time = now ∧
        ∀ value, rest = done (.ok value) → Gives value e ∧ e.arrival = finish

/-- An attempt of one exchange, if that may follow any history of a kind. -/
lemma Ensures.of_makes {Is : Exchange I → Prop} {Gives : α → Exchange I → Prop}
    (makes : x.Makes Is Gives)
    (allowed : ∀ history e, P history e.time → Is e → rule history e) :
    Ensures rule P x fun value history finish =>
      ∃ earlier e, history = earlier ++ [e] ∧ P earlier e.time ∧ Is e ∧ Gives value e ∧
        e.arrival = finish := by
  intro history now es rest finish pre path
  rcases makes path with ⟨rfl, under⟩ | ⟨e, rfl, is', rfl, gives⟩
  · refine ⟨fun before e after eq => ?_, fun value eq => (under _ eq).elim⟩
    cases before with
    | nil => cases eq
    | cons => cases eq
  · refine ⟨fun before d after eq => ?_, fun value eq => ?_⟩
    · cases before with
      | nil =>
        obtain ⟨rfl, rfl⟩ := List.cons.inj eq
        rw [List.append_nil]
        exact allowed history e pre is'
      | cons => cases List.nil_eq_append_iff.1 (List.cons.inj eq).2 |>.2
    · obtain ⟨gives, arrival⟩ := gives value eq
      exact ⟨history, e, rfl, pre, is', gives, arrival⟩

/-- The members of a pool keep their own rules, each as if it were alone. -/
lemma runTogether_ensures {discipline : Discipline ε α} {limit now finish : Nat}
    {attempts : List (Attempt I ε α)} {own : Nat → Rule I} {Q : Nat → α → State I}
    {es : List (Exchange I)} {rest} (sound : discipline.Sound)
    (room : limit = 0 → attempts.length = 0)
    (members : ∀ (position : Nat) (attempt : Attempt I ε α), attempts[position]? = some attempt →
      Ensures (own position) (fun history _ => history = []) attempt (Q position))
    (path : Reaches (runTogether discipline limit attempts).run now es rest finish) :
    ∃ log : Log I, log.map (·.2) = es ∧ log.Keeps own now ∧
      ∀ results, rest = done (.ok results) →
        ∀ (position : Nat) (attempt : Attempt I ε α), attempts[position]? = some attempt →
          ∃ value time, (inOrder results)[position]? = some value ∧ time ≤ finish ∧
            Q position value (log.thread position) time := by
  obtain ⟨log, rfl, gone⟩ := runTogether_gone sound room path
  refine ⟨log, rfl, ⟨fun before position e after eq => ?_, fun entry mem => ?_⟩,
    fun results eq => ?_⟩
  · -- The member's own path has the exchange in the same place of its part of the log.
    have lt := gone.tags (position, e) (eq ▸ List.mem_append_right _ List.mem_cons_self)
    obtain ⟨part, time, follows⟩ := gone.member position lt
    obtain ⟨attempt, start, listed, _, path⟩ := follows.attempt
    have thread : log.thread position =
        Log.thread before position ++ e :: Log.thread after position := by
      rw [eq, ← List.singleton_append, ← List.append_assoc, Log.thread_append, Log.thread_append,
        Log.thread_self, List.append_assoc]
      rfl
    exact (members position attempt listed rfl path).1 _ _ _ thread
  · exact (path.time_mem (List.mem_map_of_mem mem)).1
  · cases eq
    intro position attempt listed
    obtain ⟨value, start, time, given, _, le, path⟩ := gone.yields.2 position attempt listed
    exact ⟨value, time, given, le, (members position attempt listed rfl path).2 value rfl⟩

/-- What a pool ensures follows from what its members ensure, each for its own exchanges. -/
theorem Ensures.of_pool {limit : Nat} {attempts : List (Attempt I ε α)} (own : Nat → Rule I)
    (Q : Nat → α → State I) {R : List (Nat × α) → State I} (room : 0 < limit)
    (members : ∀ (position : Nat) (attempt : Attempt I ε α), attempts[position]? = some attempt →
      Ensures (own position) (fun history _ => history = []) attempt (Q position))
    (allowed : ∀ {history now} {before : Log I} {position e}, P history now →
      before.Keeps own now → now ≤ e.time → own position (before.thread position) e →
      rule (history ++ before.map (·.2)) e)
    (post : ∀ {history now} {log : Log I} {results finish}, P history now → log.Keeps own now →
      now ≤ finish →
      (∀ (position : Nat) (attempt : Attempt I ε α), attempts[position]? = some attempt →
        ∃ value time, (inOrder results)[position]? = some value ∧ time ≤ finish ∧
          Q position value (log.thread position) time) →
      R results (history ++ log.map (·.2)) finish) :
    Ensures rule P (pool limit attempts) R := by
  intro history now es rest finish pre path
  obtain ⟨log, rfl, keeps, ends⟩ :=
    runTogether_ensures (sound_latestFailure _) (fun none => absurd none (Nat.ne_of_gt room))
      members path
  refine ⟨.of_log fun before position e after eq => ?_, fun results eq => ?_⟩
  · have mem : (position, e) ∈ log := eq ▸ List.mem_append_right _ List.mem_cons_self
    exact allowed pre (keeps.of_append eq) (keeps.time _ mem) (keeps.own _ _ _ _ eq)
  · exact post pre keeps path.le (ends results eq)

/-- From any history of a kind, an attempt leaves a history of another kind with its value, or one
of a third kind if it fails. -/
def Leaves (P : List (Exchange I) → Prop) (x : Attempt I ε α) (Q : α → List (Exchange I) → Prop)
    (E : List (Exchange I) → Prop) : Prop :=
  ∀ ⦃history now es outcome finish⦄, P history → x.Yields now es outcome finish →
    match outcome with
    | .ok value => Q value (history ++ es)
    | .error _ => E (history ++ es)

section Leaves

variable {P E : List (Exchange I) → Prop} {Q : α → List (Exchange I) → Prop} {x : Attempt I ε α}

/-- The second part of a bind may rely on what the first part gives. -/
lemma Leaves.bind_returns {V : α → Prop} {f : α → Attempt I ε β} {R : β → List (Exchange I) → Prop}
    (first : Leaves P x Q E) (returns : x.Returns V)
    (second : ∀ value, V value → Leaves (Q value) (f value) R E) : Leaves P (x >>= f) R E := by
  intro history now es outcome finish pre path
  rcases path.bind_cases with ⟨error, rfl, left⟩ | ⟨es₁, es₂, value, time, rfl, left, right⟩
  · exact first pre left
  · rw [← List.append_assoc]
    exact second value (returns left) (first pre left) right

lemma Leaves.bind {f : α → Attempt I ε β} {R : β → List (Exchange I) → Prop}
    (first : Leaves P x Q E) (second : ∀ value, Leaves (Q value) (f value) R E) :
    Leaves P (x >>= f) R E :=
  first.bind_returns (V := fun _ => True) (fun _ _ _ _ _ => trivial) fun value _ => second value

lemma Leaves.widen {g : ε → ε'} (leaves : Leaves P x Q E) : Leaves P (x.widen g) Q E := by
  intro history now es outcome finish pre path
  obtain ⟨result, inner, rfl⟩ := yields_widen_iff.1 path
  have post := leaves pre inner
  cases result with
  | ok value => exact post
  | error error => exact post

lemma Leaves.pure {value : α} (post : ∀ history, P history → Q value history) :
    Leaves P (Pure.pure value : Attempt I ε α) Q E := by
  intro history now es outcome finish pre path
  obtain ⟨rfl, rfl, rfl⟩ := yields_pure_iff.1 path
  rw [List.append_nil]
  exact post history pre

lemma Leaves.throw {error : ε} (post : ∀ history, P history → E history) :
    Leaves P (throw error : Attempt I ε α) Q E := by
  intro history now es outcome finish pre path
  obtain ⟨rfl, rfl, rfl⟩ := yields_throw_iff.1 path
  rw [List.append_nil]
  exact post history pre

/-- An attempt leaves what goes on with all that it asks. -/
lemma Leaves.of_asksOnly {K : I.Request → Prop} (only : x.AsksOnly K)
    (goesOn : ∀ history es, P history → (∀ e ∈ es, K e.request) → P (history ++ es))
    (failed : ∀ history, P history → E history) : Leaves P x (fun _ => P) E := by
  intro history now es outcome finish pre path
  have post := goesOn history es pre (only path)
  cases outcome with
  | ok value => exact post
  | error error => exact failed _ post

end Leaves

end Attempt

end UpgradeDrill
