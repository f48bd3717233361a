import UpgradeDrill.Proofs.Routine.Turns
import UpgradeDrill.Proofs.Simulation.Network
import UpgradeDrill.Upgrade.Aspen

/-!
# Checks of a simulated upgrade

The checks before and after aspen look at each node of a cohort several times at one moment. A look
settles what is due, which nobody sees: the networks that a check meets are `Alike`. So a node tells
what it is whenever it is asked, the nodes are checked one after another, and the first one that is
refused decides the error (`checks_exactly`).
-/

namespace UpgradeDrill

open Attempt

namespace SimulatedNetwork

/-- Two networks whose nodes are the same once everything is settled that is due. -/
def Alike (net net' : SimulatedNetwork) (now : Nat) : Prop :=
  net'.nodes.map (·.settle now) = net.nodes.map (·.settle now)

variable {net net' : SimulatedNetwork} {node : SimulatedNode} {place now height : Nat}

namespace Alike

lemma look (alike : Alike net net' now) (place : Nat) : Alike net (net'.look now place) now := by
  refine Eq.trans (List.ext_getElem? fun other => ?_) alike
  rw [List.getElem?_map, List.getElem?_map, SimulatedNetwork.look, List.getElem?_modify]
  cases net'.nodes[other]? with
  | none => rfl
  | some node =>
    by_cases here : place = other
    · simp only [if_pos here, Option.map_eq_map, Option.map_some,
        SimulatedNode.settle_settle _ (Nat.le_refl _)]
    · simp only [if_neg here, Option.map_eq_map, Option.map_some]

/-- A node is asked in a network that is alike, and tells what it does in the first one. -/
lemma ask {α : Type} (alike : Alike net net' now) (present : net.nodes[place]? = some node)
    (reply : SimulatedNode → Nat → Except QueryError α) :
    ∃ net'', Alike net net'' now ∧ net'.ask now place reply =
      ((node.reachableHeight now).bind (reply (node.settle now)), net'') := by
  have same := congrArg (·[place]?) alike
  simp only [List.getElem?_map, present, Option.map_some] at same
  obtain ⟨node', present', settled⟩ := Option.map_eq_some_iff.1 same
  refine ⟨_, alike.look place, ?_⟩
  rw [ask_eq present', settled, SimulatedNode.reachableHeight, settled,
    SimulatedNode.reachableHeight]

lemma lastBlockHeight (alike : Alike net net' now) (present : net.nodes[place]? = some node)
    (name : String) :
    ∃ net'', Alike net net'' now ∧ (SimulatedNetwork.node place name).lastBlockHeight.Ends world now
      net' (node.reachableHeight now) now net'' := by
  obtain ⟨net'', alike', asked⟩ := alike.ask present fun _ height => .ok height
  refine ⟨net'', alike', .bind (request_ends asked) ?_⟩
  cases node.reachableHeight now with
  | ok height => exact ends_ofExcept _
  | error error => exact ends_ofExcept _

lemma voteExtensionsEnableHeight (alike : Alike net net' now)
    (present : net.nodes[place]? = some node) (name : String) :
    ∃ net'', Alike net net'' now ∧
      (SimulatedNetwork.node place name).voteExtensionsEnableHeight.Ends world now net'
        ((node.reachableHeight now).bind fun _ => .ok node.voteExtensionsEnableHeight) now
        net'' := by
  obtain ⟨net'', alike', asked⟩ :=
    alike.ask present fun node _ => .ok node.voteExtensionsEnableHeight
  exact ⟨net'', alike', .bind (request_ends asked) (ends_ofExcept _)⟩

lemma block (alike : Alike net net' now) (present : net.nodes[place]? = some node) (name : String)
    (height : Nat) :
    ∃ net'', Alike net net'' now ∧
      ((SimulatedNetwork.node place name).block height).Ends world now net'
        ((node.reachableHeight now).bind fun latest =>
          if latest < height then .error (.missingField "block") else .ok (node.blockAt height))
        now net'' := by
  obtain ⟨net'', alike', asked⟩ := alike.ask present fun node latest =>
    if latest < height then .error (.missingField "block") else .ok (node.blockAt height)
  exact ⟨net'', alike', .bind (request_ends asked) (ends_ofExcept _)⟩

end Alike

/-- Nodes of a network as those that can be asked. -/
def cohort (net : SimulatedNetwork) (places : List (Fin net.nodes.length)) :
    List (Node simulation) :=
  places.map fun (place : Fin net.nodes.length) => SimulatedNetwork.node place net.nodes[place].name

lemma instant_request {ε : Type} {request : SimulationRequest} :
    (Attempt.request (I := simulation) request : Attempt simulation ε _).Instant world :=
  Attempt.instant_request fun _ _ => rfl

lemma instant_replied {α : Type} {asked : Attempt simulation QueryError (Except QueryError α)}
    (instant : asked.Instant world) : (replied asked).Instant world :=
  instant.bind fun _ => instant_done rfl

end SimulatedNetwork

namespace SimulatedNode

/-- A node that does not answer is unavailable. -/
lemma reachableHeight_error {node : SimulatedNode} {now : Nat} {cause : QueryError}
    (failed : node.reachableHeight now = .error cause) : cause = .status 503 := by
  rw [reachableHeight] at failed
  split at failed
  · cases failed
  · cases failed
    rfl

lemma commitInfo_isSome_iff {node : SimulatedNode} {height : Nat} :
    (node.blockAt height).commitInfo.isSome = true ↔
      ∃ first, node.commitInfoFrom = some first ∧ first ≤ height := by
  rw [blockAt, Option.isSome_map, Option.isSome_filter, Option.any_eq_true]
  simp only [decide_eq_true_iff]

end SimulatedNode

namespace Aspen

open SimulatedNetwork

/-- What the check of a node comes to before the upgrade. -/
inductive Before (now : Nat) (node : SimulatedNode) : Except UpgradeError Unit → Prop where
  | unreachable :
    (∀ height, node.reachableHeight now ≠ .ok height) →
    Before now node (.error (.query (.status 503)))
  | enabled {height} :
    node.reachableHeight now = .ok height →
    node.voteExtensionsEnableHeight ≠ 0 →
    Before now node
      (.error (.voteExtensionsEnableHeight node.name 0 node.voteExtensionsEnableHeight))
  | carried {height first} :
    node.reachableHeight now = .ok height →
    node.voteExtensionsEnableHeight = 0 →
    node.commitInfoFrom = some first → first ≤ height →
    Before now node (.error (.extendedCommitInfo node.name height true false))
  | passed {height} :
    node.reachableHeight now = .ok height →
    node.voteExtensionsEnableHeight = 0 →
    (∀ first, node.commitInfoFrom = some first → height < first) →
    Before now node (.ok ())

/-- What the check of a node comes to after an upgrade at a height. -/
inductive After (activationHeight now : Nat) (node : SimulatedNode) :
    Except UpgradeError Unit → Prop where
  | unreachable :
    (∀ height, node.reachableHeight now ≠ .ok height) →
    After activationHeight now node (.error (.query (.status 503)))
  | otherwise {height} :
    node.reachableHeight now = .ok height →
    node.voteExtensionsEnableHeight ≠ activationHeight + 1 →
    After activationHeight now node (.error (.voteExtensionsEnableHeight node.name
      (activationHeight + 1) node.voteExtensionsEnableHeight))
  | short {height} :
    node.reachableHeight now = .ok height →
    node.voteExtensionsEnableHeight = activationHeight + 1 →
    height < activationHeight →
    After activationHeight now node (.error (.query (.missingField "block")))
  | early {height first} :
    node.reachableHeight now = .ok height →
    node.voteExtensionsEnableHeight = activationHeight + 1 →
    activationHeight ≤ height →
    node.commitInfoFrom = some first → first ≤ activationHeight →
    After activationHeight now node
      (.error (.extendedCommitInfo node.name activationHeight true false))
  | absent {height} :
    node.reachableHeight now = .ok height →
    node.voteExtensionsEnableHeight = activationHeight + 1 →
    activationHeight ≤ height →
    (∀ first, node.commitInfoFrom = some first → height < first) →
    After activationHeight now node (.error (.extendedCommitInfo node.name height false true))
  | passed {height first} :
    node.reachableHeight now = .ok height →
    node.voteExtensionsEnableHeight = activationHeight + 1 →
    node.commitInfoFrom = some first → activationHeight < first → first ≤ height →
    After activationHeight now node (.ok ())

/-- A cohort is judged by its nodes, of which the first that is refused decides the error. -/
inductive Judged (Check : SimulatedNode → Except UpgradeError Unit → Prop)
    (nodes : List SimulatedNode) : Except UpgradeError Unit → Prop where
  | passed :
    (∀ node ∈ nodes, Check node (.ok ())) →
    Judged Check nodes (.ok ())
  | refused {before node after error} :
    nodes = before ++ node :: after →
    (∀ earlier ∈ before, Check earlier (.ok ())) →
    Check node (.error error) →
    Judged Check nodes (.error error)

section Checks

variable {net net' : SimulatedNetwork} {node : SimulatedNode} {place now : Nat}

lemma checkEnableHeight_ends (alike : Alike net net' now) (present : net.nodes[place]? = some node)
    (expected : Nat) :
    ∃ net'', Alike net net'' now ∧
      (checkEnableHeight (SimulatedNetwork.node place node.name) expected).Ends world now net'
        (match node.reachableHeight now with
        | .error cause => .error (.query cause)
        | .ok _ =>
          if node.voteExtensionsEnableHeight = expected then .ok ()
          else .error (.voteExtensionsEnableHeight node.name expected
            node.voteExtensionsEnableHeight))
        now net'' := by
  obtain ⟨net'', alike', asked⟩ := alike.voteExtensionsEnableHeight present node.name
  refine ⟨net'', alike', ?_⟩
  cases reached : node.reachableHeight now with
  | error cause =>
    rw [reached] at asked
    exact (asked.widen UpgradeError.query).bind_error _
  | ok height =>
    rw [reached] at asked
    refine (asked.widen UpgradeError.query).bind ?_
    dsimp only
    split
    · exact ends_pure ()
    · exact ends_throw _

lemma checkCommitInfo_ends {latest : Nat} (alike : Alike net net' now)
    (present : net.nodes[place]? = some node) (reached : node.reachableHeight now = .ok latest)
    (height : Nat) (expected : Bool) :
    ∃ net'', Alike net net'' now ∧
      (checkCommitInfo (SimulatedNetwork.node place node.name) height expected).Ends world now net'
        (if latest < height then .error (.query (.missingField "block"))
        else if (node.blockAt height).commitInfo.isSome = expected then .ok ()
        else .error (.extendedCommitInfo node.name height (node.blockAt height).commitInfo.isSome
          expected))
        now net'' := by
  obtain ⟨net'', alike', asked⟩ := alike.block present node.name height
  refine ⟨net'', alike', ?_⟩
  rw [reached] at asked
  simp only [Except.bind] at asked
  split
  · rename_i beyond
    rw [if_pos beyond] at asked
    exact (asked.widen UpgradeError.query).bind_error _
  · rename_i within
    rw [if_neg within] at asked
    refine (asked.widen UpgradeError.query).bind ?_
    dsimp only
    split
    · exact ends_pure ()
    · exact ends_throw _

lemma checkBefore_ends (alike : Alike net net' now) (present : net.nodes[place]? = some node) :
    ∃ outcome net'', Before now node outcome ∧ Alike net net'' now ∧
      (checkBefore (SimulatedNetwork.node place node.name)).Ends world now net' outcome now
        net'' := by
  obtain ⟨net₁, alike, enabled⟩ := checkEnableHeight_ends alike present 0
  cases reached : node.reachableHeight now with
  | error cause =>
    rw [reached] at enabled
    obtain rfl := SimulatedNode.reachableHeight_error reached
    refine ⟨_, net₁, .unreachable fun height eq => ?_, alike, enabled.bind_error _⟩
    cases reached.symm.trans eq
  | ok height =>
    rw [reached] at enabled
    dsimp only at enabled
    split at enabled
    · rename_i zero
      obtain ⟨net₂, alike, told⟩ := alike.lastBlockHeight present node.name
      rw [reached] at told
      obtain ⟨net₃, alike, carried⟩ := checkCommitInfo_ends alike present reached height false
      rw [if_neg (Nat.lt_irrefl _)] at carried
      have ends : (checkBefore (SimulatedNetwork.node place node.name)).Ends world now net' _ now
          net₃ := .bind enabled (.bind (told.widen UpgradeError.query) carried)
      refine ⟨_, net₃, ?_, alike, ends⟩
      cases carries : (node.blockAt height).commitInfo.isSome with
      | true =>
        obtain ⟨first, eq, le⟩ := SimulatedNode.commitInfo_isSome_iff.1 carries
        exact .carried reached zero eq le
      | false =>
        refine .passed reached zero fun first eq => Nat.not_le.1 fun le => ?_
        rw [SimulatedNode.commitInfo_isSome_iff.2 ⟨first, eq, le⟩] at carries
        cases carries
    · rename_i ne
      exact ⟨_, net₁, .enabled reached ne, alike, enabled.bind_error _⟩

lemma checkAfter_ends (activationHeight : Nat) (alike : Alike net net' now)
    (present : net.nodes[place]? = some node) :
    ∃ outcome net'', After activationHeight now node outcome ∧ Alike net net'' now ∧
      (checkAfter activationHeight (activationHeight + 1)
        (SimulatedNetwork.node place node.name)).Ends world now net' outcome now net'' := by
  obtain ⟨net₁, alike, enabled⟩ := checkEnableHeight_ends alike present (activationHeight + 1)
  cases reached : node.reachableHeight now with
  | error cause =>
    rw [reached] at enabled
    obtain rfl := SimulatedNode.reachableHeight_error reached
    refine ⟨_, net₁, .unreachable fun height eq => ?_, alike, enabled.bind_error _⟩
    cases reached.symm.trans eq
  | ok height =>
    rw [reached] at enabled
    dsimp only at enabled
    split at enabled
    · rename_i set
      obtain ⟨net₂, alike, activation⟩ :=
        checkCommitInfo_ends alike present reached activationHeight false
      split at activation
      · rename_i short
        exact ⟨_, net₂, .short reached set short, alike,
          enabled.bind (activation.bind_error _)⟩
      rename_i within
      have within := Nat.not_lt.1 within
      split at activation
      · rename_i plain
        obtain ⟨net₃, alike, told⟩ := alike.lastBlockHeight present node.name
        rw [reached] at told
        obtain ⟨net₄, alike, carried⟩ := checkCommitInfo_ends alike present reached height true
        rw [if_neg (Nat.lt_irrefl _)] at carried
        have ends : (checkAfter activationHeight (activationHeight + 1)
            (SimulatedNetwork.node place node.name)).Ends world now net' _ now net₄ :=
          .bind enabled (.bind activation (.bind (told.widen UpgradeError.query) carried))
        refine ⟨_, net₄, ?_, alike, ends⟩
        cases carries : (node.blockAt height).commitInfo.isSome with
        | true =>
          obtain ⟨first, eq, le⟩ := SimulatedNode.commitInfo_isSome_iff.1 carries
          refine .passed reached set eq (Nat.not_le.1 fun early => ?_) le
          rw [SimulatedNode.commitInfo_isSome_iff.2 ⟨first, eq, early⟩] at plain
          cases plain
        | false =>
          refine .absent reached set within fun first eq => Nat.not_le.1 fun le => ?_
          rw [SimulatedNode.commitInfo_isSome_iff.2 ⟨first, eq, le⟩] at carries
          cases carries
      · rename_i carries
        have carries := Bool.not_eq_false _ ▸ carries
        obtain ⟨first, eq, le⟩ := SimulatedNode.commitInfo_isSome_iff.1 carries
        rw [carries] at activation
        exact ⟨_, net₂, .early reached set within eq le, alike,
          enabled.bind (activation.bind_error _)⟩
    · rename_i ne
      exact ⟨_, net₁, .otherwise reached ne, alike, enabled.bind_error _⟩

end Checks

section Cohort

variable {net : SimulatedNetwork} {now : Nat}
  {Check : SimulatedNode → Except UpgradeError Unit → Prop}
  {check : Node simulation → Attempt simulation UpgradeError Unit}

lemma Judged.cons {node : SimulatedNode} {nodes : List SimulatedNode}
    {outcome : Except UpgradeError Unit} (passes : Check node (.ok ()))
    (judged : Judged Check nodes outcome) : Judged Check (node :: nodes) outcome := by
  cases judged with
  | passed all => exact .passed (List.forall_mem_cons.2 ⟨passes, all⟩)
  | @refused before _ after _ eq earlier refused =>
    have eq : node :: nodes = node :: before ++ _ :: after := congrArg (node :: ·) eq
    exact .refused eq (List.forall_mem_cons.2 ⟨passes, earlier⟩) refused

lemma Judged.first {node : SimulatedNode} {nodes : List SimulatedNode} {error : UpgradeError}
    (refused : Check node (.error error)) : Judged Check (node :: nodes) (.error error) :=
  .refused (List.nil_append _).symm (List.forall_mem_nil _) refused

/-- Checks of the nodes of a cohort one after another. -/
lemma inTurn_judged
    (one : ∀ {place node net'}, net.nodes[place]? = some node → Alike net net' now →
      ∃ outcome net'', Check node outcome ∧ Alike net net'' now ∧
        (check (SimulatedNetwork.node place node.name)).Ends world now net' outcome now net'')
    (places : List (Fin net.nodes.length)) (net' : SimulatedNetwork) (alike : Alike net net' now) :
    ∃ outcome net'', Judged Check (places.map (net.nodes[·])) (outcome.map fun _ => ()) ∧
      (((net.cohort places).map check).mapM id).Ends world now net' outcome now net'' := by
  induction places generalizing net' with
  | nil => exact ⟨.ok [], net', .passed (List.forall_mem_nil _), ends_pure []⟩
  | cons place places ih =>
    obtain ⟨first, net₁, checks, alike, ends⟩ :=
      one (List.getElem?_eq_getElem place.isLt) alike
    rw [cohort, List.map_cons, List.map_cons, List.map_cons, List.mapM_cons]
    cases first with
    | error error =>
      exact ⟨.error error, net₁, .first checks, ends.bind_error _⟩
    | ok =>
      obtain ⟨outcome, net₂, judged, rest⟩ := ih net₁ alike
      cases outcome with
      | error error => exact ⟨.error error, net₂, judged.cons checks, ends.bind (rest.bind_error _)⟩
      | ok values =>
        exact ⟨.ok (() :: values), net₂, judged.cons checks, ends.bind (rest.bind (ends_pure _))⟩

/-- Checks that take no time are joined as if each waited for the one before. -/
lemma joinAll_judged
    (one : ∀ {place node net'}, net.nodes[place]? = some node → Alike net net' now →
      ∃ outcome net'', Check node outcome ∧ Alike net net'' now ∧
        (check (SimulatedNetwork.node place node.name)).Ends world now net' outcome now net'')
    (instant : ∀ place name, (check (SimulatedNetwork.node place name)).Instant world)
    (places : List (Fin net.nodes.length)) :
    ∃ outcome net', Judged Check (places.map (net.nodes[·])) outcome ∧
      (do let _ ← joinAll ((net.cohort places).map check) :
        Attempt simulation UpgradeError Unit).Ends world now net outcome now net' := by
  obtain ⟨outcome, net', judged, ends⟩ := inTurn_judged one places net rfl
  have all : ∀ x ∈ (net.cohort places).map check, x.Instant world := by
    intro x mem
    obtain ⟨_, inCohort, rfl⟩ := List.mem_map.1 mem
    obtain ⟨place, _, rfl⟩ := List.mem_map.1 inCohort
    exact instant place _
  have joined : (joinAll ((net.cohort places).map check)).Ends world now net outcome now net' :=
    (joinAll_in_turn all now net).trans ends
  refine ⟨_, net', judged, ?_⟩
  cases outcome with
  | error error => exact joined.bind_error _
  | ok values => exact joined.bind (ends_pure ())

end Cohort

section Instant

variable (place : Nat) (name : String)

lemma instant_checkEnableHeight (expected : Nat) :
    (checkEnableHeight (SimulatedNetwork.node place name) expected).Instant world := by
  refine ((instant_replied instant_request).widen UpgradeError.query).bind fun actual => ?_
  split
  · exact instant_done rfl
  · exact instant_done rfl

lemma instant_checkCommitInfo (height : Nat) (expected : Bool) :
    (checkCommitInfo (SimulatedNetwork.node place name) height expected).Instant world := by
  refine ((instant_replied instant_request).widen UpgradeError.query).bind fun block => ?_
  dsimp only
  split
  · exact instant_done rfl
  · exact instant_done rfl

lemma instant_checkBefore : (checkBefore (SimulatedNetwork.node place name)).Instant world :=
  (instant_checkEnableHeight place name 0).bind fun _ =>
    ((instant_replied instant_request).widen UpgradeError.query).bind fun latest =>
      instant_checkCommitInfo place name latest false

lemma instant_checkAfter (activationHeight enableHeight : Nat) :
    (checkAfter activationHeight enableHeight (SimulatedNetwork.node place name)).Instant world :=
  (instant_checkEnableHeight place name enableHeight).bind fun _ =>
    (instant_checkCommitInfo place name activationHeight false).bind fun _ =>
      ((instant_replied instant_request).widen UpgradeError.query).bind fun latest =>
        instant_checkCommitInfo place name latest true

end Instant

section Conditions

variable {activationHeight now : Nat} {node : SimulatedNode}

lemma before_ok_iff : Before now node (.ok ()) ↔
    ∃ height, node.reachableHeight now = .ok height ∧ node.voteExtensionsEnableHeight = 0 ∧
      ∀ first, node.commitInfoFrom = some first → height < first := by
  constructor
  · rintro (_ | _ | _ | ⟨reached, zero, plain⟩)
    exact ⟨_, reached, zero, plain⟩
  · rintro ⟨_, reached, zero, plain⟩
    exact .passed reached zero plain

lemma after_ok_iff : After activationHeight now node (.ok ()) ↔
    ∃ height first, node.reachableHeight now = .ok height ∧
      node.voteExtensionsEnableHeight = activationHeight + 1 ∧
      node.commitInfoFrom = some first ∧ activationHeight < first ∧ first ≤ height := by
  constructor
  · rintro (_ | _ | _ | _ | _ | ⟨reached, set, carries, late, within⟩)
    exact ⟨_, _, reached, set, carries, late, within⟩
  · rintro ⟨_, _, reached, set, carries, late, within⟩
    exact .passed reached set carries late within

/-- If a chain has enabled vote extensions as it should, a node passes once it is two blocks past
activation. -/
lemma after_ok_iff_of_correct (set : node.voteExtensionsEnableHeight = activationHeight + 1)
    (carries : node.commitInfoFrom = some (activationHeight + 2)) :
    After activationHeight now node (.ok ()) ↔
      ∃ height, node.reachableHeight now = .ok height ∧ activationHeight + 2 ≤ height := by
  rw [after_ok_iff]
  constructor
  · rintro ⟨height, first, reached, _, same, _, within⟩
    cases carries.symm.trans same
    exact ⟨height, reached, within⟩
  · rintro ⟨height, reached, within⟩
    exact ⟨height, _, reached, set, carries, by omega, within⟩

/-- No node passes both checks, which differ in where vote extensions are to be enabled. -/
lemma Before.not_after (passes : Before now node (.ok ())) :
    ¬ After activationHeight now node (.ok ()) := by
  rw [after_ok_iff]
  rintro ⟨_, _, _, set, _⟩
  obtain ⟨_, _, zero, _⟩ := before_ok_iff.1 passes
  omega

lemma Judged.ok_iff {Check : SimulatedNode → Except UpgradeError Unit → Prop}
    (only : ∀ node error, Check node (.error error) → ¬ Check node (.ok ()))
    {nodes : List SimulatedNode} {outcome : Except UpgradeError Unit}
    (judged : Judged Check nodes outcome) :
    outcome = .ok () ↔ ∀ node ∈ nodes, Check node (.ok ()) := by
  cases judged with
  | passed all => exact ⟨fun _ => all, fun _ => rfl⟩
  | @refused _ node _ error eq _ refused =>
    refine ⟨nofun, fun all => absurd (all node ?_) (only node error refused)⟩
    rw [eq]
    exact List.mem_append_right _ List.mem_cons_self

lemma Before.refused {error : UpgradeError} (refused : Before now node (.error error)) :
    ¬ Before now node (.ok ()) := by
  rw [before_ok_iff]
  rintro ⟨height, reached, zero, plain⟩
  cases refused with
  | unreachable never => exact never height reached
  | enabled _ ne => exact ne zero
  | carried reached' _ carries le =>
    cases reached.symm.trans reached'
    exact Nat.not_lt.2 le (plain _ carries)

lemma After.refused {error : UpgradeError}
    (refused : After activationHeight now node (.error error)) :
    ¬ After activationHeight now node (.ok ()) := by
  rw [after_ok_iff]
  rintro ⟨height, first, reached, set, carries, late, within⟩
  cases refused with
  | unreachable never => exact never height reached
  | otherwise _ ne => exact ne set
  | short reached' _ short =>
    cases reached.symm.trans reached'
    omega
  | early _ _ _ carries' early =>
    cases carries.symm.trans carries'
    omega
  | absent reached' _ _ absent =>
    cases reached.symm.trans reached'
    exact Nat.not_lt.2 within (absent first carries)

end Conditions

section Assertions

variable (net : SimulatedNetwork) (places : List (Fin net.nodes.length)) (now : Nat)

lemma assertBefore_judged :
    let ending := (assertBefore (net.cohort places)).run.run world now net
    Judged (Before now) (places.map (net.nodes[·])) ending.value ∧ ending.time = now := by
  intro ending
  obtain ⟨outcome, net', judged, ends⟩ :=
    joinAll_judged (fun present alike => checkBefore_ends alike present) instant_checkBefore places
  have asked : ending = ⟨outcome, now, net'⟩ := ends
  rw [asked]
  exact ⟨judged, rfl⟩

lemma assertAfter_judged {activationHeight : Nat} (fits : activationHeight < maxUInt64) :
    let ending := (assertAfter (net.cohort places) activationHeight).run.run world now net
    Judged (After activationHeight now) (places.map (net.nodes[·])) ending.value ∧
      ending.time = now := by
  intro ending
  have counted : Lifecycle.heightAfter activationHeight 1 = .ok (activationHeight + 1) :=
    if_pos (Nat.succ_le_of_lt fits)
  obtain ⟨outcome, net', judged, ends⟩ :=
    joinAll_judged (fun present alike => checkAfter_ends activationHeight alike present)
      (fun place name => instant_checkAfter place name activationHeight (activationHeight + 1))
      places
  have asked : ending = ⟨outcome, now, net'⟩ := by
    show (assertAfter _ _).run.run _ _ _ = _
    rw [assertAfter, counted]
    exact ends
  rw [asked]
  exact ⟨judged, rfl⟩

/-- At the largest height no node is asked. -/
lemma assertAfter_overflows (cohort : List (Node simulation)) {activationHeight : Nat}
    (largest : maxUInt64 ≤ activationHeight) :
    (assertAfter cohort activationHeight).run =
      .done (.error (.heightOverflow activationHeight 1)) := by
  have beyond : Lifecycle.heightAfter activationHeight 1 =
      .error (.heightOverflow activationHeight 1) :=
    if_neg (Nat.not_le.2 (Nat.lt_succ_of_le largest))
  rw [assertAfter, beyond]
  rfl

end Assertions

/-- The checks of aspen in a simulated network at a moment. Before the upgrade they succeed if all
nodes answer, have vote extensions disabled and carry no commit info yet. After it they succeed if
all nodes answer, have vote extensions enabled from the height after activation on, and carry commit
info by now but not at activation. At the largest height no node is asked. Otherwise the first node
that is refused decides the error. So on a correct chain the check after the upgrade succeeds if all
nodes are two blocks past activation, and never where the check before it does. -/
theorem checks_exactly (net : SimulatedNetwork) (places : List (Fin net.nodes.length))
    (activationHeight now : Nat) :
    let nodes : List SimulatedNode := places.map (net.nodes[·])
    let before := (assertBefore (net.cohort places)).run.run world now net
    let after := (assertAfter (net.cohort places) activationHeight).run.run world now net
    Judged (Before now) nodes before.value ∧
    (before.value = .ok () ↔ ∀ node ∈ nodes, ∃ height, node.reachableHeight now = .ok height ∧
      node.voteExtensionsEnableHeight = 0 ∧
      ∀ first, node.commitInfoFrom = some first → height < first) ∧
    (maxUInt64 ≤ activationHeight →
      (assertAfter (net.cohort places) activationHeight).run =
        .done (.error (.heightOverflow activationHeight 1))) ∧
    (activationHeight < maxUInt64 →
      Judged (After activationHeight now) nodes after.value ∧
      (after.value = .ok () ↔ ∀ node ∈ nodes, ∃ height first,
        node.reachableHeight now = .ok height ∧
        node.voteExtensionsEnableHeight = activationHeight + 1 ∧
        node.commitInfoFrom = some first ∧ activationHeight < first ∧ first ≤ height) ∧
      ((∀ node ∈ nodes, node.voteExtensionsEnableHeight = activationHeight + 1 ∧
          node.commitInfoFrom = some (activationHeight + 2)) →
        (after.value = .ok () ↔ ∀ node ∈ nodes, ∃ height,
          node.reachableHeight now = .ok height ∧ activationHeight + 2 ≤ height))) ∧
    (nodes ≠ [] → ¬ (before.value = .ok () ∧ after.value = .ok ())) ∧
    before.time = now ∧ after.time = now := by
  intro nodes before after
  obtain ⟨judgedBefore, timeBefore⟩ := assertBefore_judged net places now
  have passesBefore : before.value = .ok () ↔ ∀ node ∈ nodes, Before now node (.ok ()) :=
    judgedBefore.ok_iff fun _ _ => Before.refused
  have passesAfter (fits : activationHeight < maxUInt64) :
      after.value = .ok () ↔ ∀ node ∈ nodes, After activationHeight now node (.ok ()) :=
    (assertAfter_judged net places now fits).1.ok_iff fun _ _ => After.refused
  have overflows (largest : maxUInt64 ≤ activationHeight) :
      after = ⟨.error (.heightOverflow activationHeight 1), now, net⟩ := by
    show (assertAfter _ _).run.run _ _ _ = _
    rw [assertAfter_overflows _ largest]
    rfl
  refine ⟨judgedBefore, ?_, assertAfter_overflows _, fun fits => ?_, ?_, timeBefore, ?_⟩
  · simp only [passesBefore, before_ok_iff]
  · refine ⟨(assertAfter_judged net places now fits).1, ?_, fun correct => ?_⟩
    · simp only [passesAfter fits, after_ok_iff]
    · rw [passesAfter fits]
      refine forall₂_congr fun node mem => ?_
      exact after_ok_iff_of_correct (correct node mem).1 (correct node mem).2
  · rintro some ⟨first, second⟩
    rcases Nat.lt_or_ge activationHeight maxUInt64 with fits | largest
    · obtain ⟨node, mem⟩ := List.exists_mem_of_ne_nil nodes some
      exact (passesBefore.1 first node mem).not_after ((passesAfter fits).1 second node mem)
    · rw [overflows largest] at second
      cases second
  · rcases Nat.lt_or_ge activationHeight maxUInt64 with fits | largest
    · exact (assertAfter_judged net places now fits).2
    · rw [overflows largest]

namespace Sample

/-- A chain in which vote extensions were enabled after activation at block 60, and from the block
after that on blocks carry commit info. -/
def enabled (name : String) (height : Nat) : SimulatedNode :=
  { SimulatedNode.start name height with
    voteExtensionsEnableHeight := 61, commitInfoFrom := some 62 }

/-- The second node is a block short of the first one that carries commit info. -/
def chain : SimulatedNetwork :=
  { nodes := [enabled "node0" 70, enabled "node1" 61, enabled "node2" 62], downtime := 0 }

lemma chain_correct : ∀ node ∈ chain.nodes,
    node.voteExtensionsEnableHeight = 60 + 1 ∧ node.commitInfoFrom = some (60 + 2) := by
  simp [chain, enabled]

lemma reachableHeight_enabled (name : String) (height : Nat) :
    (enabled name height).reachableHeight 0 = .ok height :=
  rfl

end Sample

/-- The check after the upgrade fails as long as the second node is a block short. -/
theorem checks_exactly_sample :
    let after (places : List (Fin 3)) :=
      (assertAfter (Sample.chain.cohort places) 60).run.run world 0 Sample.chain
    60 < maxUInt64 ∧ (after [0, 2]).value = .ok () ∧ (after [0, 1, 2]).value ≠ .ok () := by
  intro after
  have fits : 60 < maxUInt64 := by decide
  have exactly (places : List (Fin 3)) : (after places).value = .ok () ↔
      ∀ node ∈ places.map (Sample.chain.nodes[·]), ∃ height,
        node.reachableHeight 0 = .ok height ∧ 60 + 2 ≤ height := by
    obtain ⟨_, _, _, passes, _⟩ := checks_exactly Sample.chain places 60 0
    refine (passes fits).2.2 fun node mem => Sample.chain_correct node ?_
    obtain ⟨place, _, rfl⟩ := List.mem_map.1 mem
    exact List.getElem_mem _
  refine ⟨fits, (exactly _).2 fun node mem => ?_, fun passed => ?_⟩
  · rcases List.mem_cons.1 mem with rfl | mem
    · exact ⟨70, Sample.reachableHeight_enabled .., by decide⟩
    · cases List.mem_singleton.1 mem
      exact ⟨62, Sample.reachableHeight_enabled .., by decide⟩
  · obtain ⟨height, reached, within⟩ :=
      (exactly _).1 passed (Sample.enabled "node1" 61) (.tail _ (.head _))
    cases (Sample.reachableHeight_enabled "node1" 61).symm.trans reached
    exact absurd within (by decide)

end Aspen

end UpgradeDrill
