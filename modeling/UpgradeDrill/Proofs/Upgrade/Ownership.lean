import Mathlib.Data.List.Nodup
import UpgradeDrill.Proofs.Upgrade.Verdict

/-!
# Who owns a change

A registry is made of groups exactly if no change is listed twice among all of them, and otherwise
the change is reported that is the first to be listed again (`Contested`). In a registry every
change that is listed has one owner, so the order of the groups does not count (`changes_owned`).
-/

namespace UpgradeDrill

namespace Registry

variable {groups others : List UpgradeGroup} {group : UpgradeGroup} {registry other : Registry}
  {change first second : String}

/-- The first change that is listed again in the order of the groups, with the names of the groups
that list it first and again. No change before it is listed twice. -/
inductive Contested (groups : List UpgradeGroup) : (change first second : String) → Prop where
  | within {ahead group behind before change after} :
    groups = ahead ++ group :: behind →
    group.changes = before ++ change :: after →
    (ahead.flatMap (·.changes) ++ before).Nodup →
    change ∈ before →
    Contested groups change group.name group.name
  | across {ahead owner group behind before change after} :
    groups = ahead ++ group :: behind →
    group.changes = before ++ change :: after →
    (ahead.flatMap (·.changes) ++ before).Nodup →
    owner ∈ ahead →
    change ∈ owner.changes →
    Contested groups change owner.name group.name

/-- One of some groups lists a change, and no other does. -/
def SoleOwner (groups : List UpgradeGroup) (change : String) (group : UpgradeGroup) : Prop :=
  ∃ before after, groups = before ++ group :: after ∧ change ∈ group.changes ∧
    ∀ other ∈ before ++ after, change ∉ other.changes

section Claims

lemma map_fst_claims (groups : List UpgradeGroup) :
    (claims groups).map (·.1) = groups.flatMap (·.changes) := by
  rw [claims, List.map_flatMap]
  refine List.flatMap_congr fun group _ => ?_
  rw [List.map_map]
  exact List.map_id _

lemma mem_claims : (change, first) ∈ claims groups ↔
    ∃ owner ∈ groups, change ∈ owner.changes ∧ owner.name = first := by
  simp only [claims, List.mem_flatMap, List.mem_map, Prod.mk.injEq]
  constructor
  · rintro ⟨owner, mem, _, listed, rfl, name⟩
    exact ⟨owner, mem, listed, name⟩
  · rintro ⟨owner, mem, listed, name⟩
    exact ⟨owner, mem, change, listed, rfl, name⟩

lemma claims_append (groups others : List UpgradeGroup) :
    claims (groups ++ others) = claims groups ++ claims others :=
  List.flatMap_append

lemma claims_cons (group : UpgradeGroup) (groups : List UpgradeGroup) :
    claims (group :: groups) = group.changes.map (·, group.name) ++ claims groups :=
  List.flatMap_cons

/-- A claim is that of some group, and comes after the claims of all groups before it. -/
lemma exists_group_of_claims {before after : List (String × String)}
    (eq : claims groups = before ++ (change, second) :: after) :
    ∃ ahead group behind earlier later, groups = ahead ++ group :: behind ∧
      group.changes = earlier ++ change :: later ∧ group.name = second ∧
      before = claims ahead ++ earlier.map (·, group.name) := by
  induction groups generalizing before with
  | nil => cases List.append_ne_nil_of_right_ne_nil _ (List.cons_ne_nil _ _) eq.symm
  | cons group groups ih =>
    -- The claims before the one in question are all of this group, or some are of later ones.
    have further (own : List (String × String))
        (others : claims groups = own ++ (change, second) :: after)
        (eq : before = group.changes.map (·, group.name) ++ own) :
        ∃ ahead owner behind earlier later, group :: groups = ahead ++ owner :: behind ∧
          owner.changes = earlier ++ change :: later ∧ owner.name = second ∧
          before = claims ahead ++ earlier.map (·, owner.name) := by
      obtain ⟨ahead, owner, behind, earlier, later, rfl, listed, name, rfl⟩ := ih others
      refine ⟨group :: ahead, owner, behind, earlier, later, rfl, listed, name, ?_⟩
      rw [eq, claims_cons, List.append_assoc]
    rw [claims_cons] at eq
    rcases List.append_eq_append_iff.1 eq with ⟨own, eq, others⟩ | ⟨rest, own, others⟩
    · exact further own others eq
    · cases rest with
      | nil => exact further [] others.symm (by rw [own, List.append_nil, List.append_nil])
      | cons claim rest =>
        obtain ⟨rfl, _⟩ := List.cons.inj others
        obtain ⟨earlier, tail, listed, rfl, claimed⟩ := List.map_eq_append_iff.1 own
        obtain ⟨claim, later, rfl, same, _⟩ := List.map_eq_cons_iff.1 claimed
        cases same
        exact ⟨[], group, groups, earlier, later, rfl, listed, rfl, rfl⟩

/-- The claim is found on whose change there is one before, while those before are on different
changes. -/
lemma secondClaim?_eq_some_iff {owners rest : List (String × String)}
    (nodup : (owners.map (·.1)).Nodup) : secondClaim? owners rest = some (change, first, second) ↔
      ∃ before after, rest = before ++ (change, second) :: after ∧
        ((before ++ owners).map (·.1)).Nodup ∧ (change, first) ∈ before ++ owners := by
  induction rest generalizing owners with
  | nil =>
    refine ⟨nofun, ?_⟩
    rintro ⟨before, after, eq, _⟩
    cases List.append_ne_nil_of_right_ne_nil _ (List.cons_ne_nil _ _) eq.symm
  | cons claim rest ih =>
    obtain ⟨claimed, claimant⟩ := claim
    rw [secondClaim?]
    split
    · rename_i owner found
      obtain ⟨_, _, eq, _⟩ := List.lookup_eq_some_iff.1 found
      have owned : (claimed, owner) ∈ owners :=
        eq ▸ List.mem_append_right _ List.mem_cons_self
      constructor
      · intro eq
        cases eq
        exact ⟨[], rest, rfl, nodup, owned⟩
      · rintro ⟨before, after, eq, nodup', mem⟩
        cases before with
        | nil =>
          cases eq
          cases List.inj_on_of_nodup_map nodup owned mem rfl
          rfl
        | cons claim before =>
          cases eq
          -- The claims before would be on different changes, but this one is owned.
          have fresh := (List.nodup_cons.1 nodup').1
          exact absurd (List.mem_map_of_mem (List.mem_append_right before owned)) fresh
    · rename_i free
      have fresh : claimed ∉ owners.map (·.1) := by
        intro mem
        obtain ⟨claim, inOwners, rfl⟩ := List.mem_map.1 mem
        exact absurd rfl (bne_iff_ne.1 (List.lookup_eq_none_iff.1 free claim inOwners))
      have nodup : (((claimed, claimant) :: owners).map (·.1)).Nodup :=
        List.nodup_cons.2 ⟨fresh, nodup⟩
      have perm (before : List (String × String)) :
          (before ++ (claimed, claimant) :: owners).Perm
            ((claimed, claimant) :: (before ++ owners)) := List.perm_middle
      rw [ih nodup]
      constructor
      · rintro ⟨before, after, rfl, nodup, mem⟩
        exact ⟨(claimed, claimant) :: before, after, rfl, ((perm before).map _).nodup_iff.1 nodup,
          (perm before).mem_iff.1 mem⟩
      · rintro ⟨before, after, eq, nodup, mem⟩
        cases before with
        | nil =>
          cases eq
          exact absurd (List.mem_map_of_mem mem) fresh
        | cons claim before =>
          cases eq
          exact ⟨before, after, rfl, ((perm before).map _).nodup_iff.2 nodup,
            (perm before).mem_iff.2 mem⟩

/-- As long as nothing is owned, the change of the second claim has been claimed before. -/
lemma secondClaim?_nil_eq_some_iff {rest : List (String × String)} :
    secondClaim? [] rest = some (change, first, second) ↔
      ∃ before after, rest = before ++ (change, second) :: after ∧
        (before.map (·.1)).Nodup ∧ (change, first) ∈ before := by
  have none : (([] : List (String × String)).map (·.1)).Nodup := List.nodup_nil
  simp only [secondClaim?_eq_some_iff none, List.append_nil]

end Claims

/-- A second claim is on the first change that is listed again. -/
lemma secondClaim?_iff_contested :
    secondClaim? [] (claims groups) = some (change, first, second) ↔
      Contested groups change first second := by
  -- The changes that are listed before one of a group.
  have listedBefore (ahead : List UpgradeGroup) (earlier : List String) (name : String) :
      (claims ahead ++ earlier.map (·, name)).map (·.1) =
        ahead.flatMap (·.changes) ++ earlier := by
    rw [List.map_append, map_fst_claims, List.map_map]
    exact congrArg _ (List.map_id _)
  have claimsOf {ahead group behind earlier later}
      (listed : group.changes = earlier ++ change :: later) :
      claims (ahead ++ group :: behind) = (claims ahead ++ earlier.map (·, group.name)) ++
        (change, group.name) :: (later.map (·, group.name) ++ claims behind) := by
    rw [claims_append, claims_cons, listed, List.map_append, List.append_assoc, List.append_assoc]
    rfl
  rw [secondClaim?_nil_eq_some_iff]
  constructor
  · rintro ⟨before, after, eq, nodup, mem⟩
    obtain ⟨ahead, group, behind, earlier, later, parted, listed, rfl, rfl⟩ :=
      exists_group_of_claims eq
    rw [listedBefore] at nodup
    rcases List.mem_append.1 mem with mem | mem
    · obtain ⟨owner, inAhead, claimed, rfl⟩ := mem_claims.1 mem
      exact .across parted listed nodup inAhead claimed
    · obtain ⟨_, repeated, eq⟩ := List.mem_map.1 mem
      cases eq
      exact .within parted listed nodup repeated
  · rintro (⟨rfl, listed, nodup, mem⟩ | ⟨rfl, listed, nodup, inAhead, claimed⟩)
    · refine ⟨_, _, claimsOf listed, by rwa [listedBefore], List.mem_append_right _ ?_⟩
      exact List.mem_map.2 ⟨change, mem, rfl⟩
    · refine ⟨_, _, claimsOf listed, by rwa [listedBefore], List.mem_append_left _ ?_⟩
      exact mem_claims.2 ⟨_, inAhead, claimed, rfl⟩

lemma ofGroups_eq_error_iff {error : UpgradeError} : ofGroups groups = .error error ↔
    ∃ change first second, error = .ambiguousChange change first second ∧
      Contested groups change first second := by
  simp only [← secondClaim?_iff_contested]
  unfold ofGroups
  split
  · rename_i change first second found
    constructor
    · intro eq
      cases eq
      exact ⟨change, first, second, rfl, found⟩
    · rintro ⟨change', first', second', rfl, found'⟩
      cases found.symm.trans found'
      rfl
  · rename_i none
    refine ⟨nofun, ?_⟩
    rintro ⟨_, _, _, _, found⟩
    cases none.symm.trans found

/-- Groups are accepted if no change is listed twice among them, and are kept as they are. -/
lemma ofGroups_eq_ok_iff : ofGroups groups = .ok registry ↔
    (groups.flatMap (·.changes)).Nodup ∧ registry = ⟨groups⟩ := by
  cases found : secondClaim? [] (claims groups) with
  | none =>
    have nodup := (nodup_of_secondClaim? found).1
    rw [map_fst_claims] at nodup
    have accepted : ofGroups groups = .ok ⟨groups⟩ := by rw [ofGroups, found]
    rw [accepted, Except.ok.injEq, eq_comm, and_iff_right nodup]
  | some claim =>
    obtain ⟨change, first, second⟩ := claim
    have refused : ofGroups groups = .error (.ambiguousChange change first second) := by
      rw [ofGroups, found]
    rw [refused]
    refine ⟨nofun, fun ⟨nodup, _⟩ => ?_⟩
    obtain ⟨before, after, eq, _, mem⟩ := secondClaim?_nil_eq_some_iff.1 found
    rw [← map_fst_claims, eq, List.map_append, List.map_cons] at nodup
    exact absurd rfl ((List.nodup_append.1 nodup).2.2 _ (List.mem_map_of_mem mem) _
      List.mem_cons_self)

section Accepted

/-- If no change is listed twice, the group that lists one is its owner. -/
lemma soleOwner_iff (nodup : (groups.flatMap (·.changes)).Nodup) :
    SoleOwner groups change group ↔ group ∈ groups ∧ change ∈ group.changes := by
  constructor
  · rintro ⟨before, after, rfl, listed, _⟩
    exact ⟨List.mem_append_right _ List.mem_cons_self, listed⟩
  · rintro ⟨mem, listed⟩
    obtain ⟨before, after, rfl⟩ := List.append_of_mem mem
    refine ⟨before, after, rfl, listed, fun other mem listed' => ?_⟩
    rw [List.flatMap_append, List.flatMap_cons] at nodup
    obtain ⟨_, nodup, apart⟩ := List.nodup_append.1 nodup
    rcases List.mem_append.1 mem with mem | mem
    · exact apart change (List.mem_flatMap.2 ⟨other, mem, listed'⟩) change
        (List.mem_append_left _ listed) rfl
    · exact (List.nodup_append.1 nodup).2.2 change listed change
        (List.mem_flatMap.2 ⟨other, mem, listed'⟩) rfl

lemma groupOf?_iff_soleOwner (accepted : ofGroups groups = .ok registry) :
    registry.groupOf? change = some group ↔ SoleOwner groups change group := by
  rw [soleOwner_iff (ofGroups_eq_ok_iff.1 accepted).1, groupOf?_eq_some_iff,
    claims_iff_mem accepted]

/-- Registries that give the same owners judge all reported changes alike. -/
lemma checkChanges_of_owners (same : ∀ change, other.groupOf? change = registry.groupOf? change)
    (infos : List ChangeInfo) (version : Option Nat) :
    other.checkChanges infos version = registry.checkChanges infos version := by
  have checks : other.checkChange = registry.checkChange := by
    funext info
    unfold checkChange
    rw [same]
  unfold checkChanges
  rw [checks]

/-- The order of the groups does not count. -/
lemma ofGroups_perm (accepted : ofGroups groups = .ok registry) (perm : others.Perm groups) :
    ∃ other, ofGroups others = .ok other ∧
      (∀ change, other.groupOf? change = registry.groupOf? change) ∧
      ∀ infos version, other.checkChanges infos version = registry.checkChanges infos version := by
  have nodup := (ofGroups_eq_ok_iff.1 accepted).1
  have nodup' := (perm.flatMap_right (·.changes)).nodup_iff.2 nodup
  have accepted' : ofGroups others = .ok ⟨others⟩ := ofGroups_eq_ok_iff.2 ⟨nodup', rfl⟩
  have same (change) : groupOf? ⟨others⟩ change = registry.groupOf? change := by
    refine Option.ext fun group => ?_
    rw [groupOf?_iff_soleOwner accepted', groupOf?_iff_soleOwner accepted, soleOwner_iff nodup',
      soleOwner_iff nodup, perm.mem_iff]
  exact ⟨⟨others⟩, accepted', same, checkChanges_of_owners same⟩

end Accepted

/-- Groups make a registry exactly if no change is listed twice among them, and otherwise the first
one that is listed again is reported. A registry gives every change the one group that lists it, so
groups in another order make a registry that judges alike. -/
theorem changes_owned (groups : List UpgradeGroup) :
    ((∃ registry, ofGroups groups = .ok registry) ↔ (groups.flatMap (·.changes)).Nodup) ∧
      (∀ error, ofGroups groups = .error error ↔
        ∃ change first second, error = .ambiguousChange change first second ∧
          Contested groups change first second) ∧
      ∀ registry, ofGroups groups = .ok registry →
        registry.groups = groups ∧
        (∀ change group, registry.groupOf? change = some group ↔
          SoleOwner groups change group) ∧
        ∀ others, others.Perm groups → ∃ other, ofGroups others = .ok other ∧
          (∀ change, other.groupOf? change = registry.groupOf? change) ∧
          ∀ infos version,
            other.checkChanges infos version = registry.checkChanges infos version := by
  refine ⟨?_, fun error => ofGroups_eq_error_iff, fun registry accepted => ⟨?_, ?_, ?_⟩⟩
  · constructor
    · rintro ⟨registry, accepted⟩
      exact (ofGroups_eq_ok_iff.1 accepted).1
    · exact fun nodup => ⟨_, ofGroups_eq_ok_iff.2 ⟨nodup, rfl⟩⟩
  · rw [(ofGroups_eq_ok_iff.1 accepted).2]
  · exact fun change group => groupOf?_iff_soleOwner accepted
  · exact fun others perm => ofGroups_perm accepted perm

/-- Groups of one name, one of them between groups without changes. -/
theorem changes_owned_sample :
    let first : UpgradeGroup := ⟨"aspen", ["price_feed_change", "fee_change"], 60⟩
    let second : UpgradeGroup := ⟨"aspen", ["burn_change"], 90⟩
    let groups : List UpgradeGroup := [⟨"birch", [], 5⟩, first, ⟨"birch", [], 5⟩, second]
    let registry : Registry := ⟨groups⟩
    ofGroups groups = .ok registry ∧
      groups.reverse.Perm groups ∧
      SoleOwner groups "burn_change" second ∧
      (∃ other, ofGroups groups.reverse = .ok other ∧
        other.groupOf? "fee_change" = registry.groupOf? "fee_change") ∧
      ofGroups (groups ++ [first]) =
        .error (.ambiguousChange "price_feed_change" "aspen" "aspen") ∧
      Contested (groups ++ [first]) "price_feed_change" "aspen" "aspen" := by
  intro first second groups registry
  have accepted : ofGroups groups = .ok registry := rfl
  have perm : groups.reverse.Perm groups := List.reverse_perm groups
  obtain ⟨_, owners, order⟩ := (changes_owned groups).2.2 registry accepted
  obtain ⟨other, accepted', same, _⟩ := order groups.reverse perm
  have refused : ofGroups (groups ++ [first]) =
      .error (.ambiguousChange "price_feed_change" "aspen" "aspen") := rfl
  obtain ⟨_, _, _, eq, contested⟩ := ((changes_owned (groups ++ [first])).2.1 _).1 refused
  cases eq
  exact ⟨accepted, perm, (owners _ _).1 rfl, ⟨other, accepted', same _⟩, refused, contested⟩

end Registry

end UpgradeDrill
