import RunnerCloud.Proofs.Provision.Preparation
import RunnerCloud.Proofs.Provision.Wiring
import RunnerCloud.Proofs.Spec.Admission
import RunnerCloud.Proofs.Spec.Storage

/-!
Contract: the OS disk that is ordered with a VM.

Owns:
- `Request.osDisk`, the disk within the order for a VM, and `LocalDisk` and `ManagedDisk`, the two
  kinds of disk;
- `disk_sizing`: an ephemeral disk fits what the catalogue leaves for it, a managed disk has the size
  asked for, and a disk that does not fit is refused before anything is created.

Does not own: how the catalogue is read.
-/

namespace RunnerCloud

/-- The OS disk in the order for a VM. -/
def Request.osDisk (request : Request) : Value :=
  (request.body.field "storage_profile").field "os_disk"

namespace MachineOrder

variable (order : MachineOrder)

theorem osDisk_size : order.osDisk.field? "disk_size_gb" =
    if order.diskSizeGb = 0 then none else some (.int order.diskSizeGb) := by
  unfold osDisk entryIf
  by_cases zero : order.diskSizeGb = 0
  · have omitted : (order.diskSizeGb != 0) = false := by simp [zero]
    rw [omitted, if_pos zero]
    cases order.ephemeral <;> rfl
  · have given : (order.diskSizeGb != 0) = true := by simp [zero]
    rw [given, if_neg zero]
    rfl

theorem osDisk_placement : order.osDisk.field? "diff_disk_settings" =
    if order.ephemeral then
      some (.dict [("option", .text "Local"), ("placement", .text "ResourceDisk")])
    else none := by
  unfold osDisk entryIf
  cases (order.diskSizeGb != 0) <;> cases order.ephemeral <;> rfl

end MachineOrder

/-- The gigabytes that an ephemeral disk can take of local storage given in megabytes: the whole ones,
less the one that a confidential VM keeps. -/
def usableOf (confidential : Bool) (megabytes : Int) : Int :=
  megabytes / 1024 - if confidential then 1 else 0

/-- A disk on the local storage of a VM: of the size asked for, or, when that is zero, of all the
usable gigabytes. -/
structure LocalDisk (requestedGb usableGb : Int) (disk : Value) : Prop where
  usable : 1 ≤ usableGb
  size : ∃ sizeGb, disk.field? "disk_size_gb" = some (.int sizeGb) ∧
    sizeGb = (if requestedGb = 0 then usableGb else requestedGb) ∧ 1 ≤ sizeGb ∧ sizeGb ≤ usableGb
  caching : disk.field "caching" = .text "ReadOnly"
  placement : disk.field? "diff_disk_settings" =
    some (.dict [("option", .text "Local"), ("placement", .text "ResourceDisk")])
  storage : (disk.field "managed_disk").field "storage_account_type" = .text "Standard_LRS"

/-- A disk of its own: of the size asked for, or of the usual size; a size of zero is left out. -/
structure ManagedDisk (requestedGb : Option Int) (disk : Value) : Prop where
  size : disk.field? "disk_size_gb" =
    if requestedGb = some 0 then none else some (.int (requestedGb.getD 127))
  placement : disk.field? "diff_disk_settings" = none

namespace Provision

open Operation

/-! ## What a spec says about its disk -/

section Spec

variable {controllerId : Text} {config : ProviderConfig} {bootstrap : Bootstrap}
  {spec : RunnerSpec} {extra : ExtraSpecs}

/-- What of a spec follows from its overrides and the configuration alone. -/
structure Demands (extra : ExtraSpecs) (config : ProviderConfig) (spec : RunnerSpec) : Prop where
  ephemeral : spec.useEphemeralStorage = extra.useEphemeralStorage.getD config.useEphemeralStorage
  confidential : spec.confidential = extra.confidential
  size : spec.diskSizeGb = RunnerSpec.diskSizeOf extra spec.useEphemeralStorage
  storage : spec.storageAccountType = RunnerSpec.storageTypeOf extra spec.useEphemeralStorage
  asked : 0 ≤ extra.diskSizeGb.getD 0

theorem demands_of_admitted (accepts : admitted controllerId config bootstrap = .ok spec)
    (overrides : RunnerSpec.extraSpecsOf bootstrap = .ok extra) : Demands extra config spec := by
  obtain ⟨built, _, _, _, _, _, extras, _, _, _, rfl⟩ :=
    RunnerSpec.build_ok (build_of_admitted accepts)
  have same : built = extra := Except.ok.inj (extras.symm.trans overrides)
  subst same
  refine ⟨rfl, rfl, rfl, rfl, ?_⟩
  cases asked : built.diskSizeGb with
  | none => simp
  | some sizeGb =>
      exact ExtraSpecs.disk_size_of_accepted (RunnerSpec.extraSpecsOf_ok_iff.1 extras) asked

theorem usableGb_eq (demands : Demands extra config spec) (megabytes : Int) :
    spec.diskDemand.usableGb (megabytes / Sku.megabytesPerGigabyte) =
      usableOf extra.confidential megabytes := by
  have confidential : spec.diskDemand.confidential = extra.confidential := demands.confidential
  unfold DiskDemand.usableGb usableOf DiskDemand.confidentialOverheadGb Sku.megabytesPerGigabyte
  rw [confidential]
  cases extra.confidential <;> simp

theorem requestedGb_eq (demands : Demands extra config spec)
    (ephemeral : spec.useEphemeralStorage = true) :
    spec.diskDemand.requestedGb = extra.diskSizeGb.getD 0 := by
  have size := demands.size
  rw [ephemeral] at size
  exact size

end Spec

/-! ## The disk that is ordered -/

section Disk

variable {answers : CloudMethod → Value} {location : Text} {spec : RunnerSpec}
  {access : MachineAccess} {diskSizeGb : Int} {config : ProviderConfig} {extra : ExtraSpecs}
  {session : Session}

theorem managedDisk_ordered (demands : Demands extra config spec)
    (managed : spec.useEphemeralStorage = false) :
    ManagedDisk extra.diskSizeGb
      (plannedMachine answers location spec spec.diskSizeGb access).osDisk where
  size := by
    rw [MachineOrder.osDisk_size]
    show (if spec.diskSizeGb = 0 then none else some (Value.int spec.diskSizeGb)) = _
    rw [demands.size, managed]
    unfold RunnerSpec.diskSizeOf RunnerSpec.defaultDiskSizeGb
    cases extra.diskSizeGb <;> simp
  placement := by
    have managedOrder :
        (plannedMachine answers location spec spec.diskSizeGb access).ephemeral = false := managed
    rw [MachineOrder.osDisk_placement, managedOrder]
    rfl

/-- The disk of the size that the catalogue led to. -/
theorem localDisk_ordered (demands : Demands extra config spec)
    (ephemeral : spec.useEphemeralStorage = true) {megabytes : Int}
    (meets : spec.diskDemand.resolve (megabytes / Sku.megabytesPerGigabyte) = .ok diskSizeGb) :
    LocalDisk (extra.diskSizeGb.getD 0) (usableOf extra.confidential megabytes)
      (plannedMachine answers location spec diskSizeGb access).osDisk := by
  have requested := requestedGb_eq demands ephemeral
  obtain ⟨positive, fits, size⟩ := DiskDemand.resolve_ok ephemeral
    (by rw [requested]; exact demands.asked) meets
  rw [usableGb_eq demands] at fits size
  rw [requested] at size
  have ephemeralOrder :
      (plannedMachine answers location spec diskSizeGb access).ephemeral = true := ephemeral
  have storage : spec.storageAccountType = "Standard_LRS" := by
    rw [demands.storage, ephemeral]
    rfl
  exact
    { usable := by omega
      size := by
        refine ⟨diskSizeGb, ?_, size, positive, fits⟩
        rw [MachineOrder.osDisk_size]
        exact if_neg (by show diskSizeGb ≠ 0; omega)
      caching := by
        show Value.text (if spec.useEphemeralStorage then "ReadOnly" else "ReadWrite") = _
        rw [ephemeral]
        rfl
      placement := by
        rw [MachineOrder.osDisk_placement, ephemeralOrder]
        rfl
      storage := by
        show Value.text spec.storageAccountType = _
        rw [storage] }

/-- The disk of an order that a creation makes. -/
theorem Course.disk_ordered {execution : Execution RunnerInstance}
    (course : Course location spec session execution) (demands : Demands extra config spec)
    {request : Request} (member : request ∈ Event.requests execution.events)
    (isMachine : request.method = .createMachine) :
    (spec.useEphemeralStorage = true → ∃ sku megabytes,
      listedFor? session.script spec.vmSize = some sku ∧ sku.GivesMb megabytes ∧
        LocalDisk (extra.diskSizeGb.getD 0) (usableOf extra.confidential megabytes)
          request.osDisk) ∧
      (spec.useEphemeralStorage = false → ManagedDisk extra.diskSizeGb request.osDisk) := by
  obtain ⟨diskSizeGb, ready, rfl⟩ := course.ordered_machine member isMachine
  have sizes := sized_of_ready ready
  constructor
  · intro ephemeral
    obtain ⟨sku, maximumGb, listed, offers, meets⟩ := sized_ok ephemeral sizes
    obtain ⟨megabytes, gives, rfl⟩ := Sku.gives_of_ephemeralGb offers
    exact ⟨sku, megabytes, listed, gives, localDisk_ordered demands ephemeral meets⟩
  · intro managed
    rw [sized_of_managed location session managed] at sizes
    cases sizes
    exact managedDisk_ordered demands managed

/-- A creation without an ephemeral disk does not ask the catalogue. -/
theorem Course.not_listed {execution : Execution RunnerInstance}
    (course : Course location spec session execution) (managed : spec.useEphemeralStorage = false) :
    ∀ request ∈ Event.requests execution.events, request.method ≠ .listSkus := by
  intro request member catalogue
  obtain ⟨diskSizeGb, access, first⟩ := course.constructive_prefix
  have constructs : request ∈ constructive execution.events :=
    List.mem_filter.2 ⟨member, by simp [catalogue]⟩
  have method := (first.map Request.method).subset (List.mem_map_of_mem constructs)
  have among := plan_methods.subset method
  rw [catalogue] at among
  unfold creationMethods at among
  rw [managed] at among
  cases asked : spec.allocatePublicIp <;> simp [asked] at among

section Refusals

variable {sku : Sku} {megabytes : Int} (demands : Demands extra config spec)
  (ephemeral : spec.useEphemeralStorage = true) (unset : session.token.isSet = false)
  (sound : (session.script.next .listSkus).fault = none)
  (listed : listedFor? session.script spec.vmSize = some sku)
  (supports : sku.supportsEphemeral = true) (gives : sku.GivesMb megabytes)

include demands ephemeral unset sound listed supports gives

theorem sized_of_unusable (unusable : usableOf extra.confidential megabytes < 1) :
    ∃ problem, (sized location spec session).outcome = .error (.failed (.capacity problem)) := by
  have usable := usableGb_eq demands megabytes
  rw [outcome_sized ephemeral unset sound listed, Sku.ephemeralGb_of_gives supports gives]
  by_cases nothing : megabytes ≤ 0
  · rw [if_pos nothing]
    exact ⟨_, rfl⟩
  · have least : -1 ≤ usableOf extra.confidential megabytes := by
      unfold usableOf
      split <;> omega
    rw [if_neg nothing]
    refine ⟨.noUsableStorage spec.vmSize (usableOf extra.confidential megabytes), ?_⟩
    rw [← Failure.ofCapacity_of_small least unusable, ← usable]
    simp only
    rw [DiskDemand.resolve_of_unusable ephemeral (by omega)]
    rfl

theorem sized_of_tooMuch (usable : 1 ≤ usableOf extra.confidential megabytes)
    (tooMuch : usableOf extra.confidential megabytes < extra.diskSizeGb.getD 0) :
    (sized location spec session).outcome = .error (.failed (.ofCapacity
      (.exceedsMaximum spec.vmSize (usableOf extra.confidential megabytes)
        (extra.diskSizeGb.getD 0)))) := by
  have positive : ¬ megabytes ≤ 0 := by
    unfold usableOf at usable
    split at usable <;> omega
  rw [outcome_sized ephemeral unset sound listed, Sku.ephemeralGb_of_gives supports gives,
    if_neg positive]
  rw [← usableGb_eq demands, ← requestedGb_eq demands ephemeral] at tooMuch ⊢
  rw [← usableGb_eq demands] at usable
  simp only
  rw [DiskDemand.resolve_of_tooMuch ephemeral usable tooMuch]
  rfl

/-- Where the catalogue's entry leaves no room, the creation fails for that and calls for nothing
else, but it cannot say so when it would have to cite a request that is too long to be written. -/
theorem Course.ends_of_noRoom {execution : Execution RunnerInstance}
    (course : Course location spec session execution)
    (noRoom : usableOf extra.confidential megabytes < 1 ∨
      usableOf extra.confidential megabytes < extra.diskSizeGb.getD 0) :
    Event.requests execution.events = [.listSkus location] ∧
      (usableOf extra.confidential megabytes < 1 ∨
          Number.fits (extra.diskSizeGb.getD 0) = true →
        ∃ problem, execution.outcome = .error (.failed (.capacity problem))) ∧
      (1 ≤ usableOf extra.confidential megabytes →
          Number.fits (extra.diskSizeGb.getD 0) = false →
        execution.outcome = .error (.failed .unwritableInteger)) := by
  have stopped : ∀ {failure}, (sized location spec session).outcome = .error (.failed failure) →
      execution.outcome = .error (.failed failure) ∧
        Event.requests execution.events = [.listSkus location] := by
    intro failure stops
    have unprepared := prepared_of_unsized stops
    obtain ⟨ends, events⟩ := course.of_unprepared (by rw [unprepared])
    rw [unprepared] at events
    rw [ends, events]
    exact ⟨rfl, requests_sized ephemeral unset⟩
  by_cases unusable : usableOf extra.confidential megabytes < 1
  · obtain ⟨problem, stops⟩ : ∃ problem, (sized location spec session).outcome =
        .error (.failed (.capacity problem)) :=
      sized_of_unusable demands ephemeral unset sound listed supports gives unusable
    obtain ⟨ends, calls⟩ := stopped stops
    exact ⟨calls, fun _ => ⟨problem, ends⟩, fun usable => absurd unusable (by omega)⟩
  · have usable : 1 ≤ usableOf extra.confidential megabytes := by omega
    have tooMuch := noRoom.resolve_left unusable
    obtain ⟨ends, calls⟩ := stopped (sized_of_tooMuch demands ephemeral unset sound listed supports
      gives usable tooMuch)
    refine ⟨calls, fun writable => ?_, fun _ tooLong => ?_⟩
    · rw [Failure.ofCapacity_of_fits usable tooMuch (writable.resolve_left unusable)] at ends
      exact ⟨_, ends⟩
    · rw [ends, Failure.ofCapacity_of_tooLong tooLong]

end Refusals

end Disk

/-- The OS disk of a creation whose VM is called for. An ephemeral disk lies on local storage and
fits what the first catalogue entry for the VM size leaves to it; any other disk has the size asked
for, and the catalogue is not asked. And where the entry leaves too little, the creation fails for
that and calls for nothing but the catalogue. -/
theorem disk_sizing {controllerId : Text} {config : ProviderConfig} {bootstrap : Bootstrap}
    {spec : RunnerSpec} {extra : ExtraSpecs}
    (accepts : admitted controllerId config bootstrap = .ok spec)
    (overrides : RunnerSpec.extraSpecsOf bootstrap = .ok extra) (session : Session) :
    let run := create controllerId config bootstrap session
    let ephemeral := extra.useEphemeralStorage.getD config.useEphemeralStorage
    let requestedGb := extra.diskSizeGb.getD 0
    let usableGb := usableOf extra.confidential
    (∀ request ∈ Event.requests run.events, request.method = .createMachine →
      (ephemeral = true → ∃ sku megabytes, listedFor? session.script spec.vmSize = some sku ∧
        sku.GivesMb megabytes ∧ LocalDisk requestedGb (usableGb megabytes) request.osDisk) ∧
      (ephemeral = false → ManagedDisk extra.diskSizeGb request.osDisk)) ∧
    (ephemeral = false → ∀ request ∈ Event.requests run.events, request.method ≠ .listSkus) ∧
    (ephemeral = true → session.token.isSet = false →
      (session.script.next .listSkus).fault = none →
      ∀ sku megabytes, listedFor? session.script spec.vmSize = some sku →
        sku.supportsEphemeral = true → sku.GivesMb megabytes →
        usableGb megabytes < 1 ∨ usableGb megabytes < requestedGb →
          Event.requests run.events = [.listSkus config.location] ∧
          (usableGb megabytes < 1 ∨ Number.fits requestedGb = true →
            ∃ problem, run.outcome = .error (.failed (.capacity problem))) ∧
          (1 ≤ usableGb megabytes → Number.fits requestedGb = false →
            run.outcome = .error (.failed .unwritableInteger))) := by
  have demands := demands_of_admitted accepts overrides
  have course := createFrom_course config.location spec session
  dsimp only
  rw [create_of_admitted accepts, ← demands.ephemeral]
  refine ⟨fun request => course.disk_ordered demands, course.not_listed, ?_⟩
  intro ephemeral unset sound sku megabytes listed supports gives noRoom
  exact course.ends_of_noRoom demands ephemeral unset sound listed supports gives noRoom

/-- A request for a runner with an ephemeral disk. -/
def ephemeralBootstrap : Bootstrap :=
  { sampleBootstrap with extraSpecs := some [("use_ephemeral_storage", .bool true)] }

/-- A cloud with one VM size, which has 32 gigabytes of local storage. -/
def localStorage : CloudScript := fun method =>
  if method = .listSkus then
    [{ items := localStorageItems }]
  else []

theorem disk_sizing_of_localStorage :
    let run := create "controller-1" sampleConfig ephemeralBootstrap (sampleSession localStorage)
    ∃ spec extra, admitted "controller-1" sampleConfig ephemeralBootstrap = .ok spec ∧
      RunnerSpec.extraSpecsOf ephemeralBootstrap = .ok extra ∧
      ∃ request ∈ Event.requests run.events, request.method = .createMachine ∧
        ∃ sku megabytes, listedFor? localStorage spec.vmSize = some sku ∧ sku.GivesMb megabytes ∧
          LocalDisk 0 (usableOf false megabytes) request.osDisk := by
  have overrides : RunnerSpec.extraSpecsOf ephemeralBootstrap = .ok
      ⟨false, false, [], none, none, [], [], some true, none, none, none, none⟩ :=
    RunnerSpec.extraSpecsOf_ok_iff.2 (by decide +kernel)
  obtain ⟨spec, accepts⟩ : ∃ spec,
      admitted "controller-1" sampleConfig ephemeralBootstrap = .ok spec :=
    exists_of_isSome (by decide +kernel)
  have ordered : ∃ request ∈ Event.requests (create "controller-1" sampleConfig ephemeralBootstrap
      (sampleSession localStorage)).events, request.method = .createMachine := by
    decide +kernel
  obtain ⟨request, member, isMachine⟩ := ordered
  refine ⟨spec, _, accepts, overrides, request, member, isMachine, ?_⟩
  exact ((disk_sizing accepts overrides (sampleSession localStorage)).1 request member isMachine).1 rfl

/-- A request for more than there is fails, but not for that, when it is too long to be cited. -/
theorem excessive_request_uncited :
    let run := create "controller-1" sampleConfig (unwritableBootstrap true)
      (sampleSession localStorage)
    run.outcome = .error (.failed .unwritableInteger) ∧
      Event.requests run.events = [.listSkus sampleConfig.location] := by
  decide +kernel

end Provision

end RunnerCloud
