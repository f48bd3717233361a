import Mathlib.Data.List.Nodup
import Mathlib.Tactic.Lemma
import UpgradeDrill.Upgrade.Registry

/-!
# What a registry accepts

Reported changes are accepted exactly if there are some, each is claimed by a group with the same
height, and the last one has the expected app version. No change of an accepted registry is claimed
twice.
-/

namespace UpgradeDrill

/-- Checks of all items succeed if that of each item does. -/
lemma Except.forM_ok_iff {ε α : Type} {list : List α} {check : α → Except ε Unit} :
    list.forM check = .ok () ↔ ∀ item ∈ list, check item = .ok () := by
  induction list with
  | nil => exact ⟨nofun, fun _ => rfl⟩
  | cons item rest ih =>
    rw [List.forall_mem_cons, ← ih]
    show (check item).bind (fun _ => rest.forM check) = _ ↔ _
    cases check item with
    | error error => exact ⟨nofun, fun both => by cases both.1⟩
    | ok => exact ⟨fun rest => ⟨rfl, rest⟩, fun both => both.2⟩

/-- Checks of items fail as that of the first item does that is refused. -/
lemma Except.forM_error_iff {ε α : Type} {list : List α} {check : α → Except ε Unit} {error : ε} :
    list.forM check = .error error ↔ ∃ before item after, list = before ++ item :: after ∧
      (∀ earlier ∈ before, check earlier = .ok ()) ∧ check item = .error error := by
  induction list with
  | nil =>
    refine ⟨nofun, ?_⟩
    rintro ⟨before, item, after, eq, _⟩
    cases before <;> cases eq
  | cons first rest ih =>
    show (check first).bind (fun _ => rest.forM check) = _ ↔ _
    constructor
    · intro failed
      cases checked : check first with
      | error other =>
        rw [checked] at failed
        cases failed
        exact ⟨[], first, rest, rfl, List.forall_mem_nil _, checked⟩
      | ok =>
        rw [checked] at failed
        obtain ⟨before, item, after, rfl, passed, refused⟩ := ih.1 failed
        exact ⟨first :: before, item, after, rfl, List.forall_mem_cons.2 ⟨checked, passed⟩, refused⟩
    · rintro ⟨before, item, after, eq, passed, refused⟩
      cases before with
      | nil =>
        cases eq
        rw [refused]
        rfl
      | cons earlier before =>
        obtain ⟨rfl, rfl⟩ := List.cons.inj eq
        obtain ⟨checked, passed⟩ := List.forall_mem_cons.1 passed
        rw [checked]
        exact ih.2 ⟨before, item, after, rfl, passed, refused⟩

/-- Checks of items fail as that of one of them does. -/
lemma Except.of_forM_error {ε α : Type} {list : List α} {check : α → Except ε Unit} {error : ε}
    (failed : list.forM check = .error error) : ∃ item ∈ list, check item = .error error := by
  obtain ⟨before, item, after, rfl, _, refused⟩ := forM_error_iff.1 failed
  exact ⟨item, List.mem_append_right _ List.mem_cons_self, refused⟩

namespace Registry

variable {registry : Registry} {info : ChangeInfo} {infos : List ChangeInfo} {version : Nat}

lemma checkChange_ok_iff : registry.checkChange info = .ok () ↔
    ∃ group, registry.groupOf? info.name = some group ∧
      info.activationHeight = group.activationHeight := by
  unfold checkChange
  constructor
  · intro ok
    split at ok
    · cases ok
    · rename_i group claimed
      split at ok
      · rename_i same
        exact ⟨group, claimed, same⟩
      · cases ok
  · rintro ⟨group, claimed, same⟩
    rw [claimed]
    exact if_pos same

/-- Changes are accepted with the app version of the last one. -/
lemma checkChanges_ok_iff : registry.checkChanges infos (some version) = .ok () ↔
    (∀ info ∈ infos, registry.checkChange info = .ok ()) ∧
      ∃ last, infos.getLast? = some last ∧ last.appVersion = version := by
  unfold checkChanges
  constructor
  · intro ok
    split at ok
    · cases ok
    · rename_i last is
      cases known : infos.forM registry.checkChange with
      | error error =>
        rw [known] at ok
        cases ok
      | ok =>
        rw [known] at ok
        refine ⟨Except.forM_ok_iff.1 known, last, is, ?_⟩
        by_contra other
        have failed : (if last.appVersion = version then (.ok () : Except UpgradeError Unit)
          else .error (.appVersionMismatch last.name version last.appVersion)) = .ok () := ok
        rw [if_neg other] at failed
        cases failed
  · rintro ⟨known, last, is, same⟩
    rw [is]
    show (infos.forM registry.checkChange).bind
      (fun _ => if last.appVersion = version then _ else _) = _
    rw [Except.forM_ok_iff.2 known, if_pos same]
    rfl

/-- A single group claims its own changes. -/
lemma of_groupOf?_single {group other : UpgradeGroup} {name : String}
    (claimed : groupOf? ⟨[group]⟩ name = some other) : other = group ∧ name ∈ group.changes := by
  unfold groupOf? at claimed
  have holds := List.find?_some claimed
  obtain rfl := List.mem_singleton.1 (List.mem_of_find?_eq_some claimed)
  exact ⟨rfl, List.contains_iff_mem.1 holds⟩

lemma nodup_of_secondClaim? {owners claims : List (String × String)}
    (none : secondClaim? owners claims = none) :
    (claims.map (·.1)).Nodup ∧ ∀ claim ∈ claims, owners.lookup claim.1 = .none := by
  induction claims generalizing owners with
  | nil => exact ⟨List.nodup_nil, nofun⟩
  | cons claim rest ih =>
    obtain ⟨change, claimant⟩ := claim
    rw [secondClaim?] at none
    split at none
    · cases none
    · rename_i fresh
      obtain ⟨nodup, absent⟩ := ih none
      -- No later claim is on the change of the first one.
      have ne : ∀ claim ∈ rest, (claim.1 == change) = false ∧ owners.lookup claim.1 = .none := by
        intro claim mem
        have absent := absent claim mem
        rw [List.lookup_cons] at absent
        split at absent
        · cases absent
        · rename_i ne
          exact ⟨ne, absent⟩
      refine ⟨List.nodup_cons.2 ⟨fun mem => ?_, nodup⟩, List.forall_mem_cons.2
        ⟨fresh, fun claim mem => (ne claim mem).2⟩⟩
      obtain ⟨claim, mem, eq⟩ := List.mem_map.1 mem
      exact absurd eq (beq_eq_false_iff_ne.1 (ne claim mem).1)

/-- The registry of a single group, which does not claim a change twice. -/
lemma of_ofGroups_single {group : UpgradeGroup} (ok : ofGroups [group] = .ok registry) :
    registry = ⟨[group]⟩ ∧ group.changes.Nodup := by
  unfold ofGroups at ok
  split at ok
  · cases ok
  · rename_i none
    cases ok
    have nodup := (nodup_of_secondClaim? none).1
    rw [claims, List.flatMap_singleton, List.map_map] at nodup
    exact ⟨rfl, List.Nodup.of_map _ nodup⟩

end Registry

end UpgradeDrill
