import Mathlib
import UpgradeDrill.Upgrade.Release

/-!
# Arguments of a deployment

The arguments that deploy a release tell the component and whatever of the release its chart
configures, and nothing else (`helmArgs_faithful`). The first eight name the deployment and its
chart and turn the price feed on or off. The settings after them pin each image of the chart by an
argument of its own, and configure the upgrade of a sequencer.
-/

namespace UpgradeDrill

/-- Of two texts that go on to the same one, one begins the other. -/
lemma prefix_or_prefix_of_append_eq {first second rest rest' : String}
    (same : first ++ rest = second ++ rest') :
    first.toList <+: second.toList ∨ second.toList <+: first.toList := by
  have eq : first.toList ++ rest.toList = second.toList ++ rest'.toList := by
    rw [← String.toList_append, same, String.toList_append]
  have start : first.toList <+: second.toList ++ rest'.toList := eq ▸ List.prefix_append ..
  exact List.prefix_or_prefix_of_prefix start (List.prefix_append ..)

namespace Image

/-- How the argument begins that pins an image. -/
def pinStart (image : Image) : String := "--set=" ++ image.chartValue ++ "="

/-- The argument that pins an image to a tag. -/
def pin (image : Image) (tag : String) : String := image.pinStart ++ tag

lemma mem_all (image : Image) : image ∈ all := by cases image <;> decide

lemma nodup_all : all.Nodup := by decide

/-- No two images are pinned by arguments that begin alike. -/
lemma eq_of_pinStart_begins {image other : Image}
    (start : image.pinStart.toList <+: other.pinStart.toList) : image = other := by
  have apart : ∀ image ∈ all, ∀ other ∈ all,
    image.pinStart.toList <+: other.pinStart.toList → image = other := by decide
  exact apart image image.mem_all other other.mem_all start

lemma pin_inj {image other : Image} {tag tag' : String} :
    image.pin tag = other.pin tag' ↔ image = other ∧ tag = tag' := by
  constructor
  · intro same
    obtain rfl : image = other := by
      rcases prefix_or_prefix_of_append_eq same with start | start
      · exact eq_of_pinStart_begins start
      · exact (eq_of_pinStart_begins start).symm
    exact ⟨rfl, (String.append_right_inj _).1 same⟩
  · rintro ⟨rfl, rfl⟩
    rfl

/-- A text that begins no argument that pins an image, and that none of them begins. -/
def Unlike (start : String) : Prop :=
  ∀ image ∈ all, ¬ image.pinStart.toList <+: start.toList ∧ ¬ start.toList <+: image.pinStart.toList

instance (start : String) : Decidable (Unlike start) :=
  inferInstanceAs (Decidable (∀ image ∈ all, _))

/-- An argument that pins no image. -/
def Unpinned (argument : String) : Prop := ∀ image tag, argument ≠ pin image tag

lemma Unlike.unpinned_append {start : String} (unlike : Unlike start) (rest : String) :
    Unpinned (start ++ rest) := by
  intro image tag same
  obtain ⟨before, after⟩ := unlike image image.mem_all
  rcases prefix_or_prefix_of_append_eq same with start | start
  · exact after start
  · exact before start

lemma Unlike.unpinned {start : String} (unlike : Unlike start) : Unpinned start := by
  have unpinned := unlike.unpinned_append ""
  rwa [String.append_empty] at unpinned

end Image

namespace Release

variable {release release' : Release} {subcommand : String} {component component' : Component}

/-- Two releases agree on what the chart of a component configures. -/
def AgreeFor : Component → Release → Release → Prop
  | .sequencer _ _, release, release' =>
    release.priceFeed = release'.priceFeed ∧
      release.tag? .sequencer = release'.tag? .sequencer ∧
      release.tag? .sequencerRelayer = release'.tag? .sequencerRelayer ∧
      release.upgrade = release'.upgrade
  | .rollup, release, release' =>
    release.tag? .conductor = release'.tag? .conductor ∧
      release.tag? .composer = release'.tag? .composer ∧
      release.tag? .bridgeWithdrawer = release'.tag? .bridgeWithdrawer ∧
      release.tag? .geth = release'.tag? .geth

/-- The arguments after the eight that name the deployment and its chart. -/
def settings (release : Release) (subcommand : String) (component : Component) : List String :=
  (release.helmArgs subcommand component).drop 8

/-- The settings that do not pin an image. -/
def otherArgs (release : Release) (subcommand : String) (component : Component) : List String :=
  (if subcommand = "install" then ["--create-namespace"] else []) ++
    if component.isSequencer then release.upgradeArgs else []

lemma settings_eq (release : Release) (subcommand : String) (component : Component) :
    release.settings subcommand component =
      release.imageArgs component.isSequencer ++ release.otherArgs subcommand component := by
  cases component with
  | sequencer => exact List.append_assoc ..
  | rollup => exact List.append_assoc ..

section Pins

open Image

lemma unpinned_upgradeArgs : ∀ argument ∈ release.upgradeArgs, Unpinned argument := by
  unfold upgradeArgs
  split
  · rename_i name height _
    refine List.forall_mem_cons.2 ⟨Unlike.unpinned (by decide), ?_⟩
    refine List.forall_mem_cons.2 ⟨Unlike.unpinned (by decide), ?_⟩
    refine List.forall_mem_cons.2 ⟨?_, List.forall_mem_singleton.2 ?_⟩
    · rw [String.append_assoc]
      exact Unlike.unpinned_append (by decide) _
    · have upgrades : Unlike "--set=upgrades." := by decide
      cases height with
      | none =>
        dsimp only
        rw [String.append_assoc]
        exact upgrades.unpinned_append _
      | some height =>
        dsimp only
        rw [String.append_assoc]
        exact upgrades.unpinned_append _
  · split
    · exact List.forall_mem_singleton.2 (Unlike.unpinned (by decide))
    · exact List.forall_mem_nil _

lemma unpinned_otherArgs :
    ∀ argument ∈ release.otherArgs subcommand component, Unpinned argument := by
  refine List.forall_mem_append.2 ⟨?_, ?_⟩
  · split
    · exact List.forall_mem_singleton.2 (Unlike.unpinned (by decide))
    · exact List.forall_mem_nil _
  · split
    · exact unpinned_upgradeArgs
    · exact List.forall_mem_nil _

/-- Each of some images that has a tag is pinned to it once. -/
lemma count_pins (image : Image) (tag : String) {images : List Image} (nodup : images.Nodup) :
    (images.filterMap fun image => (release.tag? image).map image.pin).count (image.pin tag) =
      if image ∈ images ∧ release.tag? image = some tag then 1 else 0 := by
  induction images with
  | nil => rfl
  | cons other images ih =>
    obtain ⟨fresh, nodup⟩ := List.nodup_cons.1 nodup
    specialize ih nodup
    cases pinned : release.tag? other with
    | none =>
      rw [List.filterMap_cons_none (by rw [pinned]; rfl), ih]
      grind
    | some tag' =>
      rw [List.filterMap_cons_some (by rw [pinned]; rfl), List.count_cons, ih]
      grind [pin_inj]

lemma mem_images_iff (image : Image) (sequencer : Bool) :
    image ∈ Image.all.filter (·.isSequencer = sequencer) ↔ image.isSequencer = sequencer := by
  rw [List.mem_filter, decide_eq_true_iff, and_iff_right image.mem_all]

/-- The settings for a component pin the images of its chart that have a tag, each of them once, and
no others. -/
lemma count_settings (release : Release) (subcommand : String) (component : Component)
    (image : Image) (tag : String) :
    (release.settings subcommand component).count (image.pin tag) =
      if image.isSequencer = component.isSequencer ∧ release.tag? image = some tag then 1
      else 0 := by
  have none : (release.otherArgs subcommand component).count (image.pin tag) = 0 :=
    List.count_eq_zero_of_not_mem fun mem => unpinned_otherArgs _ mem image tag rfl
  have pins : (release.imageArgs component.isSequencer).count (image.pin tag) = _ :=
    count_pins image tag (nodup_all.filter _)
  rw [settings_eq, List.count_append, none, pins, Nat.add_zero]
  simp only [mem_images_iff]

lemma one_pin_iff {image : Image} {tag : String} :
    (release.settings subcommand component).count (image.pin tag) = 1 ↔
      image.isSequencer = component.isSequencer ∧ release.tag? image = some tag := by
  rw [count_settings]
  split
  · rename_i pinned
    exact ⟨fun _ => pinned, fun _ => rfl⟩
  · rename_i unpinned
    exact ⟨nofun, fun pinned => absurd pinned unpinned⟩

/-- Settings that are the same pin the images of their chart to the same tags. -/
lemma tag?_eq_of_settings
    (same : release.settings subcommand component = release'.settings subcommand component)
    {image : Image} (own : image.isSequencer = component.isSequencer) :
    release.tag? image = release'.tag? image := by
  refine Option.ext fun tag => ?_
  have pinned : image.isSequencer = component.isSequencer ∧ release.tag? image = some tag ↔
      image.isSequencer = component.isSequencer ∧ release'.tag? image = some tag := by
    rw [← one_pin_iff, same, one_pin_iff]
  rwa [and_iff_right own, and_iff_right own] at pinned

end Pins

lemma imageArgs_congr {sequencer : Bool}
    (same : ∀ image : Image, image.isSequencer = sequencer →
      release.tag? image = release'.tag? image) :
    release.imageArgs sequencer = release'.imageArgs sequencer := by
  refine List.filterMap_congr fun image mem => ?_
  rw [same image (of_decide_eq_true (List.mem_filter.1 mem).2)]

/-- The argument that tells when an upgrade activates, or that it does not. -/
def heightArg (name : String) : Option Nat → String
  | some height => "--set=upgrades." ++ name ++ s!".baseInfo.activationHeight={height}"
  | none => "--set=upgrades." ++ name ++ ".enabled=false"

lemma heightArg_injective (name : String) : Function.Injective (heightArg name) := by
  have enabled (height : Nat) : s!".baseInfo.activationHeight={height}" ≠ ".enabled=false" := by
    intro same
    have start : ".baseInfo.activationHeight=".toList <+: ".enabled=false".toList := by
      refine ⟨(toString height).toList, ?_⟩
      rw [← String.toList_append, ← same]
      rfl
    exact absurd start (by decide)
  intro height height' same
  cases height with
  | none =>
    cases height' with
    | none => rfl
    | some height' => exact absurd ((String.append_right_inj _).1 same).symm (enabled height')
  | some height =>
    cases height' with
    | none => exact absurd ((String.append_right_inj _).1 same) (enabled height)
    | some height' =>
      have digits : toString height = toString height' :=
        (String.append_right_inj _).1 ((String.append_right_inj _).1 same)
      rw [Nat.repr_inj.1 digits]

lemma upgradeArgs_of_some {name : String} {height : Option Nat}
    (upgrade : release.upgrade = some ⟨name, height⟩) :
    release.upgradeArgs =
      ["--set=storage.enabled=true", "--set=sequencer-relayer.storage.enabled=true",
        "--values=dev/values/validators/" ++ name ++ ".upgrade.yml", heightArg name height] := by
  rw [upgradeArgs, upgrade]
  cases height with
  | none => rfl
  | some height => rfl

/-- One argument at most is given without an upgrade. -/
lemma length_upgradeArgs_of_none (none : release.upgrade = none) :
    release.upgradeArgs.length ≤ 1 := by
  rw [upgradeArgs, none]
  dsimp only
  split
  · exact Nat.le_refl _
  · exact Nat.zero_le _

/-- The arguments that configure an upgrade tell which one it is and when it activates. -/
lemma upgrade_eq_of_upgradeArgs (same : release.upgradeArgs = release'.upgradeArgs) :
    release.upgrade = release'.upgrade := by
  have apart {release release' : Release} {scheduled : ScheduledUpgrade}
      (same : release.upgradeArgs = release'.upgradeArgs)
      (upgrade : release.upgrade = some scheduled) : release'.upgrade ≠ none := by
    intro none
    have few := length_upgradeArgs_of_none none
    rw [← same, upgradeArgs_of_some upgrade] at few
    exact absurd few (Nat.not_le.2 (Nat.le_add_left ..))
  cases upgrade : release.upgrade with
  | none =>
    cases upgrade' : release'.upgrade with
    | none => rfl
    | some scheduled' => exact absurd upgrade (apart same.symm upgrade')
  | some scheduled =>
    cases upgrade' : release'.upgrade with
    | none => exact absurd upgrade' (apart same upgrade)
    | some scheduled' =>
      obtain ⟨name, height⟩ := scheduled
      obtain ⟨name', height'⟩ := scheduled'
      rw [upgradeArgs_of_some upgrade, upgradeArgs_of_some upgrade'] at same
      simp only [List.cons.injEq, String.append_left_inj, String.append_right_inj, true_and,
        and_true] at same
      obtain ⟨rfl, same⟩ := same
      rw [heightArg_injective name same]

/-- Settings of a sequencer that are the same configure the same upgrade. -/
lemma upgrade_eq_of_settings {name kubeNamespace : String}
    (same : release.settings subcommand (.sequencer name kubeNamespace) =
      release'.settings subcommand (.sequencer name kubeNamespace)) :
    release.upgrade = release'.upgrade := by
  have images : release.imageArgs true = release'.imageArgs true :=
    imageArgs_congr fun image own => tag?_eq_of_settings same own
  rw [settings_eq, settings_eq, Component.isSequencer, images] at same
  have others := List.append_cancel_left same
  exact upgrade_eq_of_upgradeArgs (List.append_cancel_left others)

/-- The arguments that name the deployment tell the component, and whether a sequencer has a price
feed. -/
lemma component_eq_of_helmArgs
    (same : release.helmArgs subcommand component = release'.helmArgs subcommand component') :
    component = component' ∧
      (component.isSequencer = true → release.priceFeed = release'.priceFeed) := by
  have charts : "charts/sequencer" ≠ "charts/evm-stack" := by decide
  have flags : ∀ on on' : Bool, toString on = toString on' → on = on' := by decide
  have argument (k : Nat) : (release.helmArgs subcommand component)[k]? =
    (release'.helmArgs subcommand component')[k]? := congrArg (·[k]?) same
  cases component with
  | sequencer name kubeNamespace =>
    cases component' with
    | sequencer name' kubeNamespace' =>
      have first : "-n=" ++ kubeNamespace = "-n=" ++ kubeNamespace' := Option.some.inj (argument 1)
      have second : name ++ "-sequencer-chart" = name' ++ "-sequencer-chart" :=
        Option.some.inj (argument 2)
      have sixth : toString release.priceFeed = toString release'.priceFeed :=
        (String.append_right_inj _).1 (Option.some.inj (argument 6))
      rw [(String.append_right_inj _).1 first, (String.append_left_inj _).1 second]
      exact ⟨rfl, fun _ => flags _ _ sixth⟩
    | rollup => exact absurd (Option.some.inj (argument 3)) charts
  | rollup =>
    cases component' with
    | sequencer => exact absurd (Option.some.inj (argument 3)) charts.symm
    | rollup => exact ⟨rfl, nofun⟩

/-- What the chart of a component does not configure does not count. -/
lemma helmArgs_congr (agree : AgreeFor component release release') :
    release.helmArgs subcommand component = release'.helmArgs subcommand component := by
  cases component with
  | sequencer name kubeNamespace =>
    obtain ⟨feed, sequencer, relayer, upgrade⟩ := agree
    have images : release.imageArgs true = release'.imageArgs true :=
      imageArgs_congr fun image own => by
        cases image with
        | sequencer => exact sequencer
        | sequencerRelayer => exact relayer
        | _ => cases own
    simp only [helmArgs, chartArgs, Component.isSequencer, images, upgradeArgs, feed, upgrade]
  | rollup =>
    obtain ⟨conductor, composer, bridgeWithdrawer, geth⟩ := agree
    have images : release.imageArgs false = release'.imageArgs false :=
      imageArgs_congr fun image own => by
        cases image with
        | conductor => exact conductor
        | composer => exact composer
        | bridgeWithdrawer => exact bridgeWithdrawer
        | geth => exact geth
        | _ => cases own
    simp only [helmArgs, chartArgs, Component.isSequencer, images, Bool.false_eq_true, if_false]

/-- The arguments that deploy releases to components are the same exactly for the same component and
releases that agree on what its chart configures. Each image that a release has a tag for is pinned
to it once in the chart that the image belongs to, and is not pinned in the other one. -/
theorem helmArgs_faithful (subcommand : String) :
    (∀ (component component' : Component) (release release' : Release),
      release.helmArgs subcommand component = release'.helmArgs subcommand component' ↔
        component = component' ∧ AgreeFor component release release') ∧
    ∀ (release : Release) (component : Component) (image : Image) (tag : String),
      (release.settings subcommand component).count (image.pin tag) =
        if image.isSequencer = component.isSequencer ∧ release.tag? image = some tag then 1
        else 0 := by
  refine ⟨fun component component' release release' => ⟨fun same => ?_, ?_⟩,
    fun release component => count_settings release subcommand component⟩
  · obtain ⟨rfl, feed⟩ := component_eq_of_helmArgs same
    have settings :
        release.settings subcommand component = release'.settings subcommand component :=
      congrArg (List.drop 8) same
    refine ⟨rfl, ?_⟩
    cases component with
    | sequencer name kubeNamespace =>
      exact ⟨feed rfl, tag?_eq_of_settings settings rfl, tag?_eq_of_settings settings rfl,
        upgrade_eq_of_settings settings⟩
    | rollup =>
      exact ⟨tag?_eq_of_settings settings rfl, tag?_eq_of_settings settings rfl,
        tag?_eq_of_settings settings rfl, tag?_eq_of_settings settings rfl⟩
  · rintro ⟨rfl, agree⟩
    exact helmArgs_congr agree

end Release

end UpgradeDrill
