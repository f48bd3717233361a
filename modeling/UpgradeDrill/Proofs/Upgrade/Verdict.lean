import Mathlib.Data.List.Forall2
import UpgradeDrill.Proofs.Upgrade.Registry

/-!
# The verdict on reported changes

Reported changes are looked at in their order, and the first one that is not in place decides. Only
the last one has its app version compared, and only once all of them are in place. `Verdict` has one
constructor for each way this can go, and a check comes to what one of them says and to nothing else
(`changes_judged`). So what a check says of a list follows from what it says of the parts of the
list.
-/

namespace UpgradeDrill

namespace Registry

variable (registry : Registry)

/-- A group claims a change that no group before it claims. -/
def Claims (change : String) (group : UpgradeGroup) : Prop :=
  ∃ before after, registry.groups = before ++ group :: after ∧ change ∈ group.changes ∧
    ∀ earlier ∈ before, change ∉ earlier.changes

/-- A reported change takes effect at the height of the group that claims it. -/
def InPlace (info : ChangeInfo) : Prop :=
  ∃ group, registry.Claims info.name group ∧ info.activationHeight = group.activationHeight

/-- What the check of reported changes comes to. -/
inductive Verdict (version : Option Nat) : List ChangeInfo → Except UpgradeError Unit → Prop where
  | nothing : Verdict version [] (.error .noChangeInfos)
  | unclaimed {before info after} :
    (∀ earlier ∈ before, registry.InPlace earlier) →
    (∀ group, ¬ registry.Claims info.name group) →
    Verdict version (before ++ info :: after) (.error (.unknownChange info.name))
  | displaced {before info after group} :
    (∀ earlier ∈ before, registry.InPlace earlier) →
    registry.Claims info.name group →
    info.activationHeight ≠ group.activationHeight →
    Verdict version (before ++ info :: after)
      (.error (.activationHeightMismatch info.name group.activationHeight info.activationHeight))
  | outdated {before last expected} :
    (∀ info ∈ before ++ [last], registry.InPlace info) →
    version = some expected →
    last.appVersion ≠ expected →
    Verdict version (before ++ [last])
      (.error (.appVersionMismatch last.name expected last.appVersion))
  | accepted {before last} :
    (∀ info ∈ before ++ [last], registry.InPlace info) →
    (∀ expected, version = some expected → last.appVersion = expected) →
    Verdict version (before ++ [last]) (.ok ())

/-- Reports of the same change at the same height, perhaps with other app versions and hashes. -/
def Alike (info other : ChangeInfo) : Prop :=
  info.name = other.name ∧ info.activationHeight = other.activationHeight

variable {registry} {change : String} {group : UpgradeGroup} {info other last : ChangeInfo}
  {infos others : List ChangeInfo} {version : Option Nat} {outcome : Except UpgradeError Unit}

section Claims

lemma groupOf?_eq_some_iff : registry.groupOf? change = some group ↔
    registry.Claims change group := by
  unfold groupOf? Claims
  rw [List.find?_eq_some_iff_append]
  constructor
  · rintro ⟨claimed, before, after, eq, others⟩
    refine ⟨before, after, eq, List.contains_iff_mem.1 claimed, fun earlier mem claims => ?_⟩
    have passed := others earlier mem
    rw [List.contains_iff_mem.2 claims] at passed
    cases passed
  · rintro ⟨before, after, eq, claimed, others⟩
    refine ⟨List.contains_iff_mem.2 claimed, before, after, eq, fun earlier mem => ?_⟩
    rw [Bool.not_eq_true', Bool.eq_false_iff]
    exact mt List.contains_iff_mem.1 (others earlier mem)

lemma groupOf?_eq_none_iff : registry.groupOf? change = none ↔
    ∀ group, ¬ registry.Claims change group := by
  simp only [← groupOf?_eq_some_iff, Option.eq_none_iff_forall_ne_some, ne_eq]

/-- In a registry that was accepted, a change is claimed by each group that has it. -/
lemma claims_iff_mem {groups : List UpgradeGroup} (accepted : ofGroups groups = .ok registry) :
    registry.Claims change group ↔ group ∈ groups ∧ change ∈ group.changes := by
  unfold ofGroups at accepted
  split at accepted
  · cases accepted
  rename_i once
  cases accepted
  constructor
  · rintro ⟨before, after, rfl, claimed, _⟩
    exact ⟨List.mem_append_right _ List.mem_cons_self, claimed⟩
  · rintro ⟨mem, claimed⟩
    obtain ⟨before, after, rfl⟩ := List.append_of_mem mem
    refine ⟨before, after, rfl, claimed, fun earlier mem claims => ?_⟩
    -- Otherwise the change would stand twice among all claims.
    have nodup := (nodup_of_secondClaim? once).1
    rw [Registry.claims, List.flatMap_append, List.map_append] at nodup
    refine (List.nodup_append.1 nodup).2.2 change ?_ change ?_ rfl
    · exact List.mem_map.2 ⟨(change, earlier.name), List.mem_flatMap.2
        ⟨earlier, mem, List.mem_map.2 ⟨change, claims, rfl⟩⟩, rfl⟩
    · exact List.mem_map.2 ⟨(change, group.name), List.mem_flatMap.2
        ⟨group, List.mem_cons_self, List.mem_map.2 ⟨change, claimed, rfl⟩⟩, rfl⟩

end Claims

lemma checkChange_inPlace_iff : registry.checkChange info = .ok () ↔ registry.InPlace info := by
  rw [checkChange_ok_iff]
  exact exists_congr fun group => and_congr_left fun _ => groupOf?_eq_some_iff

lemma checkChange_of_unclaimed (unclaimed : ∀ group, ¬ registry.Claims info.name group) :
    registry.checkChange info = .error (.unknownChange info.name) := by
  unfold checkChange
  rw [groupOf?_eq_none_iff.2 unclaimed]

lemma checkChange_of_displaced (claims : registry.Claims info.name group)
    (ne : info.activationHeight ≠ group.activationHeight) :
    registry.checkChange info = .error
      (.activationHeightMismatch info.name group.activationHeight info.activationHeight) := by
  unfold checkChange
  rw [groupOf?_eq_some_iff.2 claims]
  exact if_neg ne

/-- A check looks at the changes first, and then at the app version of the last one. -/
lemma checkChanges_concat (before : List ChangeInfo) (last : ChangeInfo) (version : Option Nat) :
    registry.checkChanges (before ++ [last]) version =
      ((before ++ [last]).forM registry.checkChange).bind fun _ =>
        match version with
        | none => .ok ()
        | some expected =>
          if last.appVersion = expected then .ok ()
          else .error (.appVersionMismatch last.name expected last.appVersion) := by
  unfold checkChanges
  rw [List.getLast?_concat]
  rfl

/-- The first change that is refused decides. -/
lemma checkChanges_of_refused {before after : List ChangeInfo} {error : UpgradeError}
    (inPlace : ∀ earlier ∈ before, registry.InPlace earlier)
    (refused : registry.checkChange info = .error error) :
    registry.checkChanges (before ++ info :: after) version = .error error := by
  have failed : (before ++ info :: after).forM registry.checkChange = .error error :=
    Except.forM_error_iff.2 ⟨before, info, after, rfl,
      fun earlier mem => checkChange_inPlace_iff.2 (inPlace earlier mem), refused⟩
  obtain ⟨front, last, eq⟩ := List.eq_nil_or_concat' (before ++ info :: after) |>.resolve_left
    (List.append_ne_nil_of_right_ne_nil _ (List.cons_ne_nil _ _))
  rw [eq] at failed ⊢
  rw [checkChanges_concat, failed]
  rfl

lemma checkChanges_of_inPlace {before : List ChangeInfo}
    (inPlace : ∀ info ∈ before ++ [last], registry.InPlace info) :
    registry.checkChanges (before ++ [last]) version =
      match version with
      | none => .ok ()
      | some expected =>
        if last.appVersion = expected then .ok ()
        else .error (.appVersionMismatch last.name expected last.appVersion) := by
  rw [checkChanges_concat,
    Except.forM_ok_iff.2 fun info mem => checkChange_inPlace_iff.2 (inPlace info mem)]
  rfl

/-- A check comes to what a verdict says. -/
lemma Verdict.checkChanges_eq (verdict : registry.Verdict version infos outcome) :
    registry.checkChanges infos version = outcome := by
  cases verdict with
  | nothing => rfl
  | unclaimed inPlace unclaimed =>
    exact checkChanges_of_refused inPlace (checkChange_of_unclaimed unclaimed)
  | displaced inPlace claims ne =>
    exact checkChanges_of_refused inPlace (checkChange_of_displaced claims ne)
  | outdated inPlace known ne =>
    subst known
    rw [checkChanges_of_inPlace inPlace]
    exact if_neg ne
  | accepted inPlace same =>
    rw [checkChanges_of_inPlace inPlace]
    cases version with
    | none => rfl
    | some expected => exact if_pos (same expected rfl)

/-- Of every list there is a verdict. -/
lemma exists_verdict (registry : Registry) (version : Option Nat) (infos : List ChangeInfo) :
    ∃ outcome, registry.Verdict version infos outcome := by
  rcases List.eq_nil_or_concat' infos with rfl | ⟨before, last, rfl⟩
  · exact ⟨_, .nothing⟩
  cases known : (before ++ [last]).forM registry.checkChange with
  | error error =>
    obtain ⟨earlier, info, later, eq, passed, refused⟩ := Except.forM_error_iff.1 known
    have inPlace : ∀ info ∈ earlier, registry.InPlace info :=
      fun info mem => checkChange_inPlace_iff.1 (passed info mem)
    rw [eq]
    cases found : registry.groupOf? info.name with
    | none => exact ⟨_, .unclaimed inPlace (groupOf?_eq_none_iff.1 found)⟩
    | some group =>
      have claims := groupOf?_eq_some_iff.1 found
      refine ⟨_, .displaced inPlace claims fun same => ?_⟩
      rw [checkChange_inPlace_iff.2 ⟨group, claims, same⟩] at refused
      cases refused
  | ok =>
    have inPlace : ∀ info ∈ before ++ [last], registry.InPlace info :=
      fun info mem => checkChange_inPlace_iff.1 (Except.forM_ok_iff.1 known info mem)
    cases version with
    | none => exact ⟨_, .accepted inPlace nofun⟩
    | some expected =>
      by_cases same : last.appVersion = expected
      · refine ⟨_, .accepted inPlace fun other eq => ?_⟩
        cases eq
        exact same
      · exact ⟨_, .outdated inPlace rfl same⟩

/-- A check comes to its verdict only. -/
lemma checkChanges_eq_iff :
    registry.checkChanges infos version = outcome ↔ registry.Verdict version infos outcome := by
  refine ⟨?_, Verdict.checkChanges_eq⟩
  rintro rfl
  obtain ⟨outcome, verdict⟩ := exists_verdict registry version infos
  rwa [verdict.checkChanges_eq]

lemma checkChanges_accepts_iff : registry.checkChanges infos version = .ok () ↔
    (∀ info ∈ infos, registry.InPlace info) ∧ ∃ last, infos.getLast? = some last ∧
      ∀ expected, version = some expected → last.appVersion = expected := by
  rw [checkChanges_eq_iff]
  constructor
  · intro verdict
    generalize eq : Except.ok () = outcome at verdict
    cases verdict with
    | accepted inPlace same => exact ⟨inPlace, _, List.getLast?_concat, same⟩
    | _ => cases eq
  · rintro ⟨inPlace, last, is, same⟩
    obtain ⟨before, rfl⟩ := List.getLast?_eq_some_iff.1 is
    exact .accepted inPlace same

/-- A list is accepted in front of another if both are, the first one with any app version. -/
lemma checkChanges_append_iff (some : others ≠ []) :
    registry.checkChanges (infos ++ others) version = .ok () ↔
      registry.checkChanges others version = .ok () ∧
        (infos = [] ∨ registry.checkChanges infos none = .ok ()) := by
  have front : (infos = [] ∨ registry.checkChanges infos none = .ok ()) ↔
      ∀ info ∈ infos, registry.InPlace info := by
    rw [checkChanges_accepts_iff]
    rcases List.eq_nil_or_concat' infos with rfl | ⟨before, last, rfl⟩
    · exact iff_of_true (.inl rfl) (List.forall_mem_nil _)
    · constructor
      · rintro (none | ⟨inPlace, _⟩)
        · cases List.append_eq_nil_iff.1 none |>.2
        · exact inPlace
      · exact fun inPlace => .inr ⟨inPlace, last, List.getLast?_concat, nofun⟩
  rw [front, checkChanges_accepts_iff, checkChanges_accepts_iff, List.forall_mem_append,
    List.getLast?_append_of_ne_nil _ some]
  constructor
  · rintro ⟨⟨inPlace, inPlace'⟩, same⟩
    exact ⟨⟨inPlace', same⟩, inPlace⟩
  · rintro ⟨⟨inPlace', same⟩, inPlace⟩
    exact ⟨⟨inPlace, inPlace'⟩, same⟩

lemma Alike.checkChange_eq (alike : Alike info other) :
    registry.checkChange info = registry.checkChange other := by
  unfold checkChange
  rw [alike.1, alike.2]

/-- Nothing but the names and heights of the changes before the last one counts. -/
lemma checkChanges_congr (alike : infos.Forall₂ Alike others) :
    registry.checkChanges (infos ++ [last]) version =
      registry.checkChanges (others ++ [last]) version := by
  have same : (infos ++ [last]).forM registry.checkChange =
      (others ++ [last]).forM registry.checkChange := by
    induction alike with
    | nil => rfl
    | @cons info other rest rest' alike _ ih =>
      show (registry.checkChange info).bind (fun _ => (rest ++ [last]).forM _) =
        (registry.checkChange other).bind fun _ => (rest' ++ [last]).forM _
      rw [alike.checkChange_eq, ih]
  rw [checkChanges_concat, checkChanges_concat, same]

/-- A check judges reported changes as `Verdict` tells, for every registry and every expected app
version. A change of an accepted registry is claimed by whichever group has it. The app versions of
all changes but the last are not looked at, and neither are their hashes, so a list is accepted in
parts. -/
theorem changes_judged (registry : Registry) (version : Option Nat) :
    (∀ infos outcome, registry.checkChanges infos version = outcome ↔
        registry.Verdict version infos outcome) ∧
      (∀ infos, registry.checkChanges infos version = .ok () ↔
        (∀ info ∈ infos, registry.InPlace info) ∧ ∃ last, infos.getLast? = some last ∧
          ∀ expected, version = some expected → last.appVersion = expected) ∧
      (∀ groups, ofGroups groups = .ok registry → ∀ change group,
        registry.Claims change group ↔ group ∈ groups ∧ change ∈ group.changes) ∧
      (∀ infos others last, infos.Forall₂ Alike others →
        registry.checkChanges (infos ++ [last]) version =
          registry.checkChanges (others ++ [last]) version) ∧
      ∀ infos others, others ≠ [] →
        (registry.checkChanges (infos ++ others) version = .ok () ↔
          registry.checkChanges others version = .ok () ∧
            (infos = [] ∨ registry.checkChanges infos none = .ok ())) :=
  ⟨fun _ _ => checkChanges_eq_iff, fun _ => checkChanges_accepts_iff,
    fun _ accepted _ _ => claims_iff_mem accepted, fun _ _ _ alike => checkChanges_congr alike,
    fun _ _ some => checkChanges_append_iff some⟩

/-- Of two changes of one group, only the one reported last needs the expected app version. -/
theorem changes_judged_sample :
    let registry : Registry := ⟨[⟨"aspen", ["price_feed_change", "fee_change"], 60⟩]⟩
    ofGroups registry.groups = .ok registry ∧
      registry.Verdict (some 3) [⟨60, "price_feed_change", 2, ""⟩, ⟨60, "fee_change", 3, ""⟩]
        (.ok ()) ∧
      registry.Verdict (some 3) [⟨60, "fee_change", 3, ""⟩, ⟨60, "price_feed_change", 2, ""⟩]
        (.error (.appVersionMismatch "price_feed_change" 3 2)) := by
  intro registry
  obtain ⟨judged, _⟩ := changes_judged registry (some 3)
  exact ⟨rfl, (judged _ _).1 rfl, (judged _ _).1 rfl⟩

end Registry

end UpgradeDrill
