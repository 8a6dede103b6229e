import RunnerCloud.Proofs.Provision.Course
import RunnerCloud.Proofs.Spec.Admission
import RunnerCloud.Proofs.Text.Trimming

/-!
Contract: what overrides, request and configuration come to in a spec.

Owns:
- `Replaces`, by which an override wins as soon as it is given, and `Tags.Extends`, by which further
  tags win nowhere;
- `RunnerSpec.Combines`, what each field of a spec is taken from;
- `build_combines`: every spec of a request combines its sources like this.

Does not own: which requests have a spec; `Admission` does.
-/

namespace RunnerCloud

/-- What is asked for replaces what holds otherwise, as soon as it is given at all. -/
structure Replaces {α : Type} (asked : Option α) (otherwise value : α) : Prop where
  given : ∀ wish, asked = some wish → value = wish
  absent : asked = none → value = otherwise

theorem replaces_getD {α : Type} (asked : Option α) (otherwise : α) :
    Replaces asked otherwise (asked.getD otherwise) := by
  cases asked with
  | none => exact ⟨nofun, fun _ => rfl⟩
  | some wish => exact ⟨fun _ same => Option.some.inj same, nofun⟩

/-! ## Tags -/

namespace Tags

def keys (tags : Tags) : List Text :=
  tags.map Prod.fst

/-- Further tags were added to those at hand, of which none changed. -/
structure Extends (tags extra whole : Tags) : Prop where
  keys_iff : ∀ key, key ∈ whole.keys ↔ key ∈ tags.keys ∨ key ∈ extra.keys
  kept : ∀ key ∈ tags.keys, whole.lookup key = tags.lookup key
  added : ∀ key ∉ tags.keys, whole.lookup key = extra.lookup key
  once : tags.keys.Nodup → extra.keys.Nodup → whole.keys.Nodup

theorem lookup_eq_none_iff {tags : Tags} {key : Text} :
    tags.lookup key = none ↔ key ∉ tags.keys := by
  rw [List.lookup_eq_none_iff]
  simp only [keys, List.mem_map, bne_iff_ne, not_exists, not_and]
  exact forall₂_congr fun tag _ => ⟨fun differs same => differs same.symm,
    fun differs same => differs same.symm⟩

theorem lookup_filter {tags : Tags} {key : Text} {test : Text × Text → Bool}
    (passes : ∀ value, test (key, value) = true) :
    List.lookup key (tags.filter test) = tags.lookup key := by
  induction tags with
  | nil => rfl
  | cons tag rest inductionHypothesis =>
      obtain ⟨other, value⟩ := tag
      by_cases same : key = other
      · subst same
        rw [List.filter_cons_of_pos (passes value), List.lookup_cons_self, List.lookup_cons_self]
      · have differs : (key == other) = false := by simpa using same
        rw [List.filter_cons]
        split <;> simp [List.lookup_cons, differs, inductionHypothesis]

theorem extends_withDefaults (tags extra : Tags) : tags.Extends extra (tags.withDefaults extra) where
  keys_iff := by
    intro key
    simp only [keys, withDefaults, List.map_append, List.mem_append, List.mem_map,
      List.mem_filter, Option.isNone_iff_eq_none]
    constructor
    · rintro (own | ⟨tag, ⟨member, -⟩, rfl⟩)
      · exact Or.inl own
      · exact Or.inr ⟨tag, member, rfl⟩
    · rintro (own | ⟨tag, member, rfl⟩)
      · exact Or.inl own
      · cases held : tags.lookup tag.1 with
        | none => exact Or.inr ⟨tag, ⟨member, held⟩, rfl⟩
        | some value =>
            have own : tag.1 ∈ tags.keys := by
              refine Classical.byContradiction fun foreign => ?_
              rw [lookup_eq_none_iff.2 foreign] at held
              cases held
            exact Or.inl (List.mem_map.1 own)
  kept := by
    intro key own
    cases held : tags.lookup key with
    | none => exact absurd own (lookup_eq_none_iff.1 held)
    | some value => exact lookup_withDefaults extra held
  added := by
    intro key foreign
    have absent := lookup_eq_none_iff.2 foreign
    unfold withDefaults
    rw [List.lookup_append, absent, Option.none_or]
    exact lookup_filter fun value => by simp [absent]
  once := by
    intro own further
    unfold keys withDefaults
    rw [List.map_append, List.nodup_append]
    refine ⟨own, further.sublist (List.filter_sublist.map Prod.fst), ?_⟩
    rintro key inTags _ inExtra rfl
    obtain ⟨tag, member, rfl⟩ := List.mem_map.1 inExtra
    have absent := (List.mem_filter.1 member).2
    rw [Option.isNone_iff_eq_none, lookup_eq_none_iff] at absent
    exact absent inTags

end Tags

/-! ## Specs -/

namespace RunnerSpec

variable {bootstrap : Bootstrap} {controllerId : Text} {config : ProviderConfig}

/-- What each field of a spec is taken from. -/
structure Combines (bootstrap : Bootstrap) (controllerId : Text) (config : ProviderConfig)
    (extra : ExtraSpecs) (spec : RunnerSpec) : Prop where
  vmSize : spec.vmSize = firstNonEmpty [extra.vmSize.getD "", bootstrap.flavor, config.vmSize]
  image : spec.image = firstNonEmpty [extra.image.getD "", bootstrap.image, config.image]
  network : Text.TrimsTo Text.isBlank
    (firstNonEmpty [extra.virtualNetworkCidr.getD "", config.virtualNetworkCidr]).points
    spec.virtualNetworkCidr.points
  networkGiven : spec.virtualNetworkCidr ≠ ""
  ephemeral : Replaces extra.useEphemeralStorage config.useEphemeralStorage spec.useEphemeralStorage
  accelerated : Replaces extra.useAcceleratedNetworking config.useAcceleratedNetworking
    spec.useAcceleratedNetworking
  diskSize : Replaces extra.diskSizeGb (if spec.useEphemeralStorage = true then 0 else 127)
    spec.diskSizeGb
  diskSizeSound : 0 ≤ spec.diskSizeGb
  storageType : spec.storageAccountType =
    if spec.useEphemeralStorage = true then ("Standard_LRS" : Text)
    else firstNonEmpty [extra.storageAccountType.getD "", "Standard_LRS"]
  sshKeys : spec.sshPublicKeys = bootstrap.sshKeys ++ extra.sshPublicKeys
  tags : Tags.Extends [
      ("garm-controller-id", controllerId), ("garm-pool-id", bootstrap.poolId),
      ("os-type", bootstrap.osType.text), ("os-arch", bootstrap.arch.text),
      ("os-name", spec.imageReference.sku), ("os-version", spec.imageReference.version)]
    extra.extraTags spec.tags

/-- Without a size that was asked for, an ephemeral disk has none, and a managed disk the usual one;
a size that was asked for was tested. -/
theorem diskSizeOf_nonneg {extra : ExtraSpecs} (ephemeral : Bool)
    (accepts : ExtraSpecs.ofFields (bootstrap.extraSpecs.getD []) = .accepted extra) :
    0 ≤ diskSizeOf extra ephemeral := by
  unfold diskSizeOf
  cases asked : extra.diskSizeGb with
  | none => cases ephemeral <;> decide
  | some sizeGb => exact ExtraSpecs.disk_size_of_accepted accepts asked

theorem networkOf_ok {extra : ExtraSpecs} {network : Text}
    (networks : networkOf extra config = .ok network) :
    network = Text.trimmed (effectiveNetwork extra config) ∧ network ≠ "" := by
  have written : firstGiven [extra.virtualNetworkCidr.getD ""] config.virtualNetworkCidr =
      effectiveNetwork extra config := firstGiven_eq _ _
  unfold networkOf at networks
  rw [written] at networks
  dsimp only at networks
  split at networks
  · cases networks
  · rename_i visible
    cases networks
    exact ⟨rfl, fun empty => visible (Text.isEmpty_iff.2 empty)⟩

/-- The spec of a request takes the overrides of its pool first, then the request, and then the
configuration. -/
theorem build_combines {spec : RunnerSpec} (builds : build bootstrap controllerId config = .ok spec) :
    ∃ extra, ExtraSpecs.ofFields (bootstrap.extraSpecs.getD []) = .accepted extra ∧
      Combines bootstrap controllerId config extra spec := by
  obtain ⟨extra, reference, network, userdata, -, -, extras, -, networks, -, rfl⟩ := build_ok builds
  have accepts := extraSpecsOf_ok_iff.1 extras
  obtain ⟨trimmed, visible⟩ := networkOf_ok networks
  refine ⟨extra, accepts, ?_⟩
  exact
    { vmSize := firstGiven_eq _ _
      image := firstGiven_eq _ _
      network := by
        show Text.TrimsTo _ (effectiveNetwork extra config).points network.points
        rw [trimmed, Text.trimmed, Text.trimmedBy, Text.points_ofPoints]
        exact Text.trimsTo_trimmedChars _ _
      networkGiven := visible
      ephemeral := replaces_getD _ _
      accelerated := replaces_getD _ _
      diskSize := replaces_getD _ _
      diskSizeSound := diskSizeOf_nonneg _ accepts
      storageType := by
        show storageTypeOf extra _ = _
        unfold storageTypeOf
        rw [firstGiven_eq]
        rfl
      sshKeys := rfl
      tags := Tags.extends_withDefaults _ _ }

open Provision in
/-- The sample request with overrides that contradict the configuration and a reserved tag. -/
def overridingBootstrap : Bootstrap :=
  { sampleBootstrap with
    extraSpecs := some [
      ("use_ephemeral_storage", .bool false),
      ("disk_size_gb", .int 0),
      ("virtual_network_cidr", .text " 10.1.0.0/16\n"),
      ("extra_tags", .dict [("garm-pool-id", .text "pool-2"), ("team", .text "ci")])] }

open Provision in
theorem build_combines_of_overriding :
    ∃ spec, build overridingBootstrap "controller-1"
        { sampleConfig with useEphemeralStorage := true } = .ok spec ∧
      spec.useEphemeralStorage = false ∧ spec.diskSizeGb = 0 ∧
      spec.tags.lookup ("garm-pool-id" : Text) = some "pool-1" ∧
      spec.tags.lookup ("team" : Text) = some "ci" := by
  obtain ⟨spec, builds⟩ : ∃ spec, build overridingBootstrap "controller-1"
      { sampleConfig with useEphemeralStorage := true } = .ok spec :=
    exists_of_isSome (by decide +kernel)
  obtain ⟨extra, accepts, combines⟩ := build_combines builds
  have overrides : ExtraSpecs.ofFields (overridingBootstrap.extraSpecs.getD []) = .accepted
      ⟨false, false, [], none, some 0, [("garm-pool-id", "pool-2"), ("team", "ci")], [],
        some false, none, some " 10.1.0.0/16\n", none, none⟩ := by
    decide +kernel
  cases accepts.symm.trans overrides
  refine ⟨spec, builds, combines.ephemeral.given _ rfl, combines.diskSize.given _ rfl, ?_, ?_⟩
  · exact combines.tags.kept "garm-pool-id" (by simp [Tags.keys])
  · exact combines.tags.added "team" (by simp [Tags.keys])

end RunnerSpec

end RunnerCloud
