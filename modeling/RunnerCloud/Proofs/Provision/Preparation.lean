import RunnerCloud.Proofs.Provision.Course

/-!
Contract: what the preparations of a creation do, sizing the disk and then creating the group.

Owns:
- `sized` and `grouped`, the runs of the two parts, and how the preparations are put together from
  them;
- `Course.of_unprepared`, by which a creation stops where its preparations do;
- `prepared_of_set` and `requests_prepared_ne_nil`: under a set token the preparations do nothing but
  fail, and otherwise they call the cloud;
- `listedFor?`, the catalogue entry that the next listing has for a VM size, with `sized_ok` and
  `outcome_sized`: the disk is sized by that entry, or refused for it.

Does not own: what is created inside the group.
-/

namespace RunnerCloud

open Operation

variable {α β : Type}

namespace Operation

/-- What a part after another needs is a result of the first. -/
theorem exists_of_bind_ok {operation : Operation α} {next : α → Operation β} {session : Session}
    {value : β} (gives : ((operation >>= next) session).outcome = .ok value) :
    ∃ middle, (operation session).outcome = .ok middle ∧
      (next middle (operation session).session).outcome = .ok value := by
  cases ending : (operation session).outcome with
  | ok middle =>
      rw [bind_apply_of_ok ending] at gives
      exact ⟨middle, rfl, gives⟩
  | error reason =>
      rw [bind_apply_of_error ending] at gives
      cases gives

/-- The events of a sequence begin with those of its first part. -/
theorem events_bind (operation : Operation α) (next : α → Operation β) (session : Session) :
    ∃ rest, ((operation >>= next) session).events = (operation session).events ++ rest := by
  cases ending : (operation session).outcome with
  | ok middle =>
      rw [bind_apply_of_ok ending]
      exact ⟨_, rfl⟩
  | error reason =>
      rw [bind_apply_of_error ending]
      exact ⟨[], by simp⟩

/-- A part whose result is replaced. -/
theorem bind_pure_apply (operation : Operation α) (value : β) (session : Session) :
    (operation >>= fun _ => pure value) session =
      ⟨(operation session).outcome.map fun _ => value, (operation session).events,
        (operation session).session⟩ := by
  cases ending : (operation session).outcome with
  | ok middle =>
      rw [bind_apply_of_ok ending]
      simp [Except.map]
  | error reason =>
      rw [bind_apply_of_error ending]
      rfl

end Operation

namespace Provision

section Parts

variable (location : Text) (spec : RunnerSpec) (session : Session)

/-- The run that finds the size of the disk. -/
def sized : Execution Int :=
  diskSize (runIn spec session) location spec (begun session)

/-- The run that creates the group, once the size of the disk is known. -/
def grouped : Execution Value :=
  (runIn spec session).step .resourceGroup (Cloud.createGroup location spec.name spec.tags)
    (sized location spec session).session

variable {location spec session}

theorem prepared_of_unsized {reason : Stop}
    (stops : (sized location spec session).outcome = .error reason) :
    prepared location spec session =
      ⟨.error reason, (sized location spec session).events,
        (sized location spec session).session⟩ :=
  bind_apply_of_error stops

theorem prepared_of_sized {diskSizeGb : Int}
    (sizes : (sized location spec session).outcome = .ok diskSizeGb) :
    prepared location spec session =
      ⟨(grouped location spec session).outcome.map fun _ => diskSizeGb,
        (sized location spec session).events ++ (grouped location spec session).events,
        (grouped location spec session).session⟩ := by
  have continues : prepared location spec session = _ := bind_apply_of_ok sizes
  rw [continues, bind_pure_apply]
  rfl

theorem sized_of_ready {diskSizeGb : Int}
    (ready : (prepared location spec session).outcome = .ok diskSizeGb) :
    (sized location spec session).outcome = .ok diskSizeGb := by
  cases sizes : (sized location spec session).outcome with
  | error reason =>
      rw [prepared_of_unsized sizes] at ready
      cases ready
  | ok sizeGb =>
      rw [prepared_of_sized sizes] at ready
      cases made : (grouped location spec session).outcome with
      | error reason =>
          rw [made] at ready
          cases ready
      | ok resource =>
          rw [made] at ready
          cases ready
          rfl

theorem sized_of_managed (location : Text) (session : Session)
    (managed : spec.useEphemeralStorage = false) :
    sized location spec session = ⟨.ok spec.diskSizeGb, [], begun session⟩ := by
  unfold sized diskSize
  rw [if_neg (by simp [managed])]
  rfl

theorem sized_of_ephemeral (location : Text) (session : Session)
    (ephemeral : spec.useEphemeralStorage = true) :
    sized location spec session =
      ((runIn spec session).step .ephemeralDiskSize (Cloud.maxEphemeralGb location spec.vmSize) >>=
        fun maximumGb => ofExcept .ofCapacity (spec.diskDemand.resolve maximumGb))
        (begun session) := by
  unfold sized diskSize
  rw [if_pos ephemeral]

variable (location spec session)

theorem sized_progress :
    Progress (causeBlame session.script.answer []) (cataloguePlan location spec) (fun _ => True)
      (begun session) (sized location spec session) :=
  diskSize_progress _ location spec

theorem grouped_progress :
    Progress (causeBlame session.script.answer []) (groupPlan location spec) (fun _ => True)
      (sized location spec session).session (grouped location spec session) :=
  groupStep_progress _ location spec.name spec.tags

end Parts

/-- Where the preparations stop, the creation has stopped with them. -/
theorem Course.of_unprepared {location : Text} {spec : RunnerSpec} {session : Session}
    {execution : Execution RunnerInstance} {reason : Stop}
    (course : Course location spec session execution)
    (stops : (prepared location spec session).outcome = .error reason) :
    execution.outcome = .error reason ∧
      execution.events = (prepared location spec session).events := by
  cases course with
  | unprepared fails =>
      rw [stops] at fails
      cases fails
      exact ⟨rfl, rfl⟩
  | failed ready | interrupted ready | hung ready | unreported ready | created ready =>
      rw [stops] at ready
      cases ready

/-! ## The token before the preparations -/

section Token

variable {location : Text} {spec : RunnerSpec} {session : Session}

theorem prepared_of_set (location : Text) (spec : RunnerSpec)
    (set : session.token.isSet = true) :
    ∃ boundary, prepared location spec session =
      ⟨.error (.failed (.cancelledBefore spec.name boundary)), [], begun session⟩ := by
  have setStill : (begun session).token.isSet = true := set
  cases ephemeral : spec.useEphemeralStorage with
  | true =>
      have stops := step_of_set setStill (runIn spec session) .ephemeralDiskSize
        (Cloud.maxEphemeralGb location spec.vmSize)
      have unsized : sized location spec session = _ :=
        (sized_of_ephemeral location session ephemeral).trans (bind_apply_of_error (by rw [stops]))
      rw [stops] at unsized
      rw [prepared_of_unsized (by rw [unsized]), unsized]
      exact ⟨_, rfl⟩
  | false =>
      have sizes := sized_of_managed location session ephemeral
      have stops : grouped location spec session = _ :=
        step_of_set (by rw [sizes]; exact set) (runIn spec session) .resourceGroup _
      rw [prepared_of_sized (by rw [sizes]), stops, sizes]
      exact ⟨_, rfl⟩

/-- A step that starts while the token is not set makes its call. -/
theorem requests_step_ne_nil {request : Request} {operation : Operation α}
    (unset : session.token.isSet = false) (opens : (operation session).Opens request)
    (run : CreateRun) (step : Step) : Event.requests (run.step step operation session).events ≠ [] := by
  obtain ⟨rest, begins⟩ := opens
  rw [step_of_unset unset]
  show Event.requests (.logged _ :: (CreateRun.inStep step operation session).events) ≠ []
  rw [inStep_apply]
  simp [Execution.renamed, begins]

/-- The size of an ephemeral disk is asked for with one call. -/
theorem requests_sized (ephemeral : spec.useEphemeralStorage = true)
    (unset : session.token.isSet = false) :
    Event.requests (sized location spec session).events = [.listSkus location] := by
  have unsetStill : (begun session).token.isSet = false := unset
  have opens : (Cloud.maxEphemeralGb location spec.vmSize (begun session)).Opens
      (.listSkus location) := opens_maxEphemeralGb
  have calls := requests_step_ne_nil unsetStill opens (runIn spec session) .ephemeralDiskSize
  obtain ⟨rest, sizing⟩ := events_bind
    ((runIn spec session).step .ephemeralDiskSize (Cloud.maxEphemeralGb location spec.vmSize))
    (fun maximumGb => ofExcept .ofCapacity (spec.diskDemand.resolve maximumGb)) (begun session)
  have some : Event.requests (sized location spec session).events ≠ [] := by
    rw [sized_of_ephemeral location session ephemeral, sizing]
    simp [calls]
  have made := (sized_progress location spec session).made
  unfold cataloguePlan at made
  rw [if_pos ephemeral, List.prefix_cons_iff] at made
  rcases made with none | ⟨others, planned, none⟩
  · exact absurd none some
  · rw [List.prefix_nil.1 none] at planned
    exact planned

theorem requests_prepared_ne_nil (unset : session.token.isSet = false) :
    Event.requests (prepared location spec session).events ≠ [] := by
  cases ephemeral : spec.useEphemeralStorage with
  | true =>
      have begins : Event.requests (sized location spec session).events ≠ [] := by
        rw [requests_sized ephemeral unset]
        simp
      cases sizes : (sized location spec session).outcome with
      | error reason =>
          rw [prepared_of_unsized sizes]
          exact begins
      | ok diskSizeGb =>
          rw [prepared_of_sized sizes]
          simp [begins]
  | false =>
      have sizes := sized_of_managed location session ephemeral
      have opens : ∀ session, (Cloud.createGroup location spec.name spec.tags session).Opens
          (.createGroup spec.name location spec.tags) := by
        intro session
        unfold Cloud.createGroup
        rw [guarded_apply]
        exact Execution.opens_submit.renamed _
      have calls : Event.requests (grouped location spec session).events ≠ [] :=
        requests_step_ne_nil (by rw [sizes]; exact unset) (opens _) (runIn spec session) _
      rw [prepared_of_sized (by rw [sizes])]
      simp [calls]

end Token

/-! ## The catalogue -/

section Catalogue

variable {location vmSize : Text} {session : Session}

/-- The first entry for a VM size in the catalogue that is listed next. -/
def listedFor? (script : CloudScript) (vmSize : Text) : Option Sku :=
  ((script.next .listSkus).items.map Sku.ofValue).find? (·.isFor vmSize)

theorem outcome_ofExcept {ε : Type} (wrap : ε → Failure) (given : Except ε α) (session : Session) :
    (ofExcept wrap given session).outcome =
      given.mapError fun problem => .failed (wrap problem) := by
  cases given <;> rfl

theorem ofExcept_ok_iff {ε : Type} {wrap : ε → Failure} {given : Except ε α} {session : Session}
    {value : α} : (ofExcept wrap given session).outcome = .ok value ↔ given = .ok value := by
  rw [outcome_ofExcept]
  cases given <;> simp

theorem outcome_list_of_sound (request : Request)
    (sound : (session.script.next request.method).fault = none) :
    (list request session).outcome =
      .ok ⟨(session.script.next request.method).items,
        (session.script.next request.method).itemsFault⟩ := by
  unfold list
  rw [bind_apply_of_ok (by rw [call_of_sound sound]), call_of_sound sound]
  rfl

theorem listing_of_ok {request : Request} {listing : Listing}
    (gives : (list request session).outcome = .ok listing) :
    listing = ⟨(session.script.next request.method).items,
      (session.script.next request.method).itemsFault⟩ := by
  unfold list at gives
  obtain ⟨behaviour, met, same⟩ := exists_of_bind_ok gives
  cases fault : (session.script.next request.method).fault with
  | some fault =>
      rw [call_of_fault fault] at met
      cases met
  | none =>
      rw [call_of_sound fault] at met
      cases met
      exact (Except.ok.inj same).symm

theorem listedSku_of_ok {sku : Sku}
    (gives : (Cloud.listedSku location vmSize session).outcome = .ok (some sku)) :
    listedFor? session.script vmSize = some sku := by
  unfold Cloud.listedSku at gives
  obtain ⟨listing, listed, gives⟩ := exists_of_bind_ok gives
  have items : listing.items = (session.script.next .listSkus).items :=
    congrArg Listing.items (listing_of_ok listed)
  unfold listedFor?
  rw [← items]
  cases found : (listing.items.map Sku.ofValue).find? (·.isFor vmSize) with
  | some entry =>
      rw [found] at gives
      exact Except.ok.inj gives
  | none =>
      rw [found] at gives
      obtain ⟨_, _, impossible⟩ := exists_of_bind_ok gives
      cases impossible

theorem maxEphemeralGb_of_ok {maximumGb : Int}
    (gives : (Cloud.maxEphemeralGb location vmSize session).outcome = .ok maximumGb) :
    ∃ sku, listedFor? session.script vmSize = some sku ∧ sku.ephemeralGb vmSize = .ok maximumGb := by
  obtain ⟨sku, finds, sizes⟩ := exists_of_bind_ok gives
  obtain ⟨entry, lists, same⟩ := exists_of_bind_ok finds
  rw [guarded_apply, Execution.renamed_ok_iff] at lists
  cases entry with
  | none => cases same
  | some entry =>
      cases same
      exact ⟨sku, listedSku_of_ok lists, ofExcept_ok_iff.1 sizes⟩

theorem maxEphemeralGb_of_listed {sku : Sku}
    (sound : (session.script.next .listSkus).fault = none)
    (found : listedFor? session.script vmSize = some sku) :
    (Cloud.maxEphemeralGb location vmSize session).outcome =
      (sku.ephemeralGb vmSize).mapError .failed := by
  have listed : (list (.listSkus location) session).outcome =
      .ok ⟨(session.script.next .listSkus).items, (session.script.next .listSkus).itemsFault⟩ :=
    outcome_list_of_sound _ sound
  have entry : (Cloud.listedSku location vmSize session).outcome = .ok (some sku) := by
    unfold Cloud.listedSku
    rw [bind_apply_of_ok listed]
    unfold listedFor? at found
    rw [found]
    rfl
  have reported : (Cloud.guarded (.listSkus location) (Cloud.listedSku location vmSize)
      session).outcome = .ok (some sku) := by
    rw [guarded_apply, Execution.renamed_ok_iff]
    exact entry
  have finds : (Cloud.findSku location vmSize session).outcome = .ok sku := by
    unfold Cloud.findSku
    rw [bind_apply_of_ok reported]
    rfl
  unfold Cloud.maxEphemeralGb
  rw [bind_apply_of_ok finds]
  exact outcome_ofExcept _ _ _

end Catalogue

/-! ## The size of an ephemeral disk -/

section Sizing

variable {location : Text} {spec : RunnerSpec} {session : Session}

theorem outcome_step {operation : Operation α} {run : CreateRun} {step : Step}
    (unset : session.token.isSet = false) :
    (run.step step operation session).outcome =
      (operation session).outcome.mapError (Stop.renamed (CreateRun.attributed step)) := by
  rw [step_of_unset unset]
  show (CreateRun.inStep step operation session).outcome = _
  rw [inStep_apply]
  rfl

theorem step_ok {operation : Operation α} {run : CreateRun} {step : Step} {value : α}
    (gives : (run.step step operation session).outcome = .ok value) :
    session.token.isSet = false ∧ (operation session).outcome = .ok value := by
  cases set : session.token.isSet with
  | true =>
      rw [step_of_set set] at gives
      cases gives
  | false =>
      rw [outcome_step set] at gives
      cases acted : (operation session).outcome with
      | ok other =>
          rw [acted] at gives
          exact ⟨rfl, gives⟩
      | error reason =>
          rw [acted] at gives
          cases gives

theorem sized_ok {diskSizeGb : Int} (ephemeral : spec.useEphemeralStorage = true)
    (sizes : (sized location spec session).outcome = .ok diskSizeGb) :
    ∃ sku maximumGb, listedFor? session.script spec.vmSize = some sku ∧
      sku.ephemeralGb spec.vmSize = .ok maximumGb ∧
      spec.diskDemand.resolve maximumGb = .ok diskSizeGb := by
  rw [sized_of_ephemeral location session ephemeral] at sizes
  obtain ⟨maximumGb, measures, resolves⟩ := exists_of_bind_ok sizes
  obtain ⟨sku, listed, measured⟩ := maxEphemeralGb_of_ok (step_ok measures).2
  exact ⟨sku, maximumGb, listed, measured, ofExcept_ok_iff.1 resolves⟩

/-- The catalogue's entry decides about the size of an ephemeral disk. -/
theorem outcome_sized {sku : Sku} (ephemeral : spec.useEphemeralStorage = true)
    (unset : session.token.isSet = false) (sound : (session.script.next .listSkus).fault = none)
    (found : listedFor? session.script spec.vmSize = some sku) :
    (sized location spec session).outcome =
      match sku.ephemeralGb spec.vmSize with
      | .error failure => .error (.failed (CreateRun.attributed .ephemeralDiskSize failure))
      | .ok maximumGb => (spec.diskDemand.resolve maximumGb).mapError fun problem =>
          .failed (.ofCapacity problem) := by
  have unsetStill : (begun session).token.isSet = false := unset
  have measured : (Cloud.maxEphemeralGb location spec.vmSize (begun session)).outcome =
      (sku.ephemeralGb spec.vmSize).mapError .failed :=
    maxEphemeralGb_of_listed sound found
  have stepped : ((runIn spec session).step .ephemeralDiskSize
      (Cloud.maxEphemeralGb location spec.vmSize) (begun session)).outcome =
      ((sku.ephemeralGb spec.vmSize).mapError .failed).mapError
        (Stop.renamed (CreateRun.attributed .ephemeralDiskSize)) := by
    rw [outcome_step unsetStill, measured]
  rw [sized_of_ephemeral location session ephemeral]
  cases offered : sku.ephemeralGb spec.vmSize with
  | error failure =>
      rw [offered] at stepped
      rw [bind_apply_of_error stepped]
      rfl
  | ok maximumGb =>
      rw [offered] at stepped
      rw [bind_apply_of_ok stepped]
      exact outcome_ofExcept _ _ _

end Sizing

end Provision

end RunnerCloud
