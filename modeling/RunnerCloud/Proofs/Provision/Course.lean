import RunnerCloud.Proofs.Provision.Plan
import RunnerCloud.Proofs.Provision.Removal

/-!
Contract: the courses that a creation can take.

Owns:
- `prepared`, `filled` and `removed`, the runs of the parts of a creation;
- `Course`, the ways in which a creation ends, by how far it got, each with its outcome and its
  events, and `createFrom_course`: every creation takes one of them.

Does not own: what follows for the calls, the groups and the outcome of a creation.
-/

namespace RunnerCloud.Provision

open Operation

variable {α : Type}

/-! ## Rolling back -/

section RollingBack

variable {run : CreateRun} {operation : Operation α} {session : Session} {failure : Failure}

theorem rollingBack_of_removed
    (fails : (operation session).outcome = .error (.failed failure))
    (removes : (run.rollback (operation session).session).outcome = .ok ()) :
    run.rollingBack operation session =
      ⟨.error (.failed failure),
        (operation session).events ++ (run.rollback (operation session).session).events,
        (run.rollback (operation session).session).session⟩ := by
  unfold CreateRun.rollingBack
  rw [recover_apply_of_failed fails, bind_apply_of_ok removes]
  simp

theorem rollingBack_of_interrupted {reason : Stop}
    (fails : (operation session).outcome = .error (.failed failure))
    (stops : (run.rollback (operation session).session).outcome = .error reason) :
    run.rollingBack operation session =
      ⟨.error reason,
        (operation session).events ++ (run.rollback (operation session).session).events,
        (run.rollback (operation session).session).session⟩ := by
  unfold CreateRun.rollingBack
  rw [recover_apply_of_failed fails, bind_apply_of_error stops]

end RollingBack

/-! ## The addresses of an instance -/

/-- The public addresses that a text stands for; the empty text, like anything else, stands for
none. -/
def listedAddresses (given : Value) : List Address :=
  (given.text?.toList.filter fun address => !address.isEmpty).map fun address =>
    ⟨address, .external⟩

/-- Why a public address is refused. -/
def addressFailure : Failure :=
  .invalidModel Address.modelName [⟨[.key "address"], .notText⟩]

theorem addressesOf_of_not_text {given : Value} (noText : given.text? = none)
    (present : given.isEmptyLike = false) : addressesOf given = .error addressFailure := by
  cases given with
  | text written => cases noText
  | null => cases present
  | _ =>
      unfold addressesOf
      rw [if_neg (by simp [present])]
      rfl

theorem addressesOf_text (written : Text) :
    addressesOf (.text written) = .ok (listedAddresses (.text written)) := by
  cases blank : written.isEmpty with
  | true => simp [addressesOf, listedAddresses, Value.isEmptyLike, Value.text?, blank]
  | false =>
      unfold addressesOf
      rw [if_neg (by simp [Value.isEmptyLike, blank])]
      simp only [listedAddresses, Value.text?, Option.toList_some, List.filter_cons, blank]
      rfl

/-- A public address is listed, unless it is empty, or it is refused. -/
theorem addressesOf_cases (given : Value) :
    addressesOf given = .ok (listedAddresses given) ∨
      addressesOf given = .error addressFailure := by
  cases noText : given.text? with
  | some written =>
      cases given with
      | text other => exact Or.inl (addressesOf_text other)
      | _ => cases noText
  | none =>
      have nothing : listedAddresses given = [] := by
        simp [listedAddresses, noText]
      cases present : given.isEmptyLike with
      | true =>
          unfold addressesOf
          rw [if_pos present, nothing]
          exact Or.inl rfl
      | false => exact Or.inr (addressesOf_of_not_text noText present)

theorem addressesOf_ok {given : Value} {addresses : List Address}
    (reads : addressesOf given = .ok addresses) : addresses = listedAddresses given := by
  rcases addressesOf_cases given with listed | refused
  · rw [listed] at reads
    exact (Except.ok.inj reads).symm
  · rw [refused] at reads
    cases reads

theorem addressesOf_error {given : Value} {failure : Failure}
    (unreadable : addressesOf given = .error failure) : failure = addressFailure := by
  rcases addressesOf_cases given with listed | refused
  · rw [listed] at unreadable
    cases unreadable
  · rw [refused] at unreadable
    exact (Except.error.inj unreadable).symm

/-! ## The end of a creation -/

section Conclusion

variable {spec : RunnerSpec} {diskSizeGb : Int} {publicAddress : Value}

/-- The failures after which a creation keeps what it created: a public address that is refused, and
a size that the message cannot show. -/
def lateFailures : List Failure :=
  [addressFailure, .unwritableInteger]

theorem conclusion_ok {addresses : List Address} {message : Text}
    (concludes : conclusion spec diskSizeGb publicAddress = .ok (addresses, message)) :
    addressesOf publicAddress = .ok addresses ∧ createdMessage spec diskSizeGb = .ok message := by
  unfold conclusion at concludes
  split at concludes
  · cases concludes
  · rename_i listed reads
    cases told : createdMessage spec diskSizeGb with
    | ok text =>
        rw [told] at concludes
        cases concludes
        exact ⟨reads, rfl⟩
    | error failure =>
        rw [told] at concludes
        cases concludes

theorem createdMessage_error {failure : Failure}
    (silent : createdMessage spec diskSizeGb = .error failure) :
    failure = .unwritableInteger ∧ Number.fits diskSizeGb = false := by
  unfold createdMessage at silent
  split at silent
  · cases silent
  · rename_i tooLong
    cases silent
    exact ⟨rfl, by simpa using tooLong⟩

theorem conclusion_error {failure : Failure}
    (refuses : conclusion spec diskSizeGb publicAddress = .error failure) :
    (addressesOf publicAddress = .error failure ∧ failure = addressFailure) ∨
      failure = .unwritableInteger ∧ Number.fits diskSizeGb = false := by
  unfold conclusion at refuses
  split at refuses
  · rename_i problem unreadable
    cases refuses
    exact Or.inl ⟨unreadable, addressesOf_error unreadable⟩
  · cases told : createdMessage spec diskSizeGb with
    | ok text =>
        rw [told] at refuses
        cases refuses
    | error problem =>
        rw [told] at refuses
        cases refuses
        exact Or.inr (createdMessage_error told)

theorem conclusion_of_tooLong {addresses : List Address}
    (reads : addressesOf publicAddress = .ok addresses)
    (tooLong : Number.fits diskSizeGb = false) :
    conclusion spec diskSizeGb publicAddress = .error .unwritableInteger := by
  unfold conclusion createdMessage
  rw [reads, if_neg (by simp [tooLong])]
  rfl

theorem mem_lateFailures {failure : Failure}
    (refuses : conclusion spec diskSizeGb publicAddress = .error failure) :
    failure ∈ lateFailures := by
  rcases conclusion_error refuses with ⟨_, rfl⟩ | ⟨rfl, _⟩ <;> simp [lateFailures]

end Conclusion

/-! ## The two parts of a creation -/

section Parts

variable (location : Text) (spec : RunnerSpec) (session : Session)

/-- The creation in a session draws the serial for its log records first. -/
def begun : Session :=
  { session with nextSerial := session.nextSerial + 1 }

/-- What the creation goes by in its log records. -/
def runIn : CreateRun :=
  ⟨spec.name, session.nextSerial⟩

def prepared : Execution Int :=
  prepare (runIn spec session) location spec (begun session)

/-- The run of everything inside the group, once the size of the disk is known. -/
def filled (diskSizeGb : Int) : Execution Value :=
  resources (runIn spec session) location spec diskSizeGb (prepared location spec session).session

/-- The run of the removal after a failure inside the group. -/
def removed (diskSizeGb : Int) : Execution Unit :=
  (runIn spec session).rollback (filled location spec session diskSizeGb).session

/-- The ways in which a creation ends. -/
inductive Course : Execution RunnerInstance → Prop
  /-- The group was not created. -/
  | unprepared {reason : Stop}
      (stops : (prepared location spec session).outcome = .error reason) :
      Course ⟨.error reason, (prepared location spec session).events,
        (prepared location spec session).session⟩
  /-- It failed inside the group, and the group was removed. -/
  | failed {diskSizeGb : Int} {failure : Failure}
      (ready : (prepared location spec session).outcome = .ok diskSizeGb)
      (fails : (filled location spec session diskSizeGb).outcome = .error (.failed failure))
      (removes : (removed location spec session diskSizeGb).outcome = .ok ()) :
      Course ⟨.error (.failed failure),
        (prepared location spec session).events ++
          ((filled location spec session diskSizeGb).events ++
            (removed location spec session diskSizeGb).events),
        (removed location spec session diskSizeGb).session⟩
  /-- It failed inside the group, and the removal was interrupted. -/
  | interrupted {diskSizeGb : Int} {failure : Failure} {reason : Stop}
      (ready : (prepared location spec session).outcome = .ok diskSizeGb)
      (fails : (filled location spec session diskSizeGb).outcome = .error (.failed failure))
      (stops : (removed location spec session diskSizeGb).outcome = .error reason) :
      Course ⟨.error reason,
        (prepared location spec session).events ++
          ((filled location spec session diskSizeGb).events ++
            (removed location spec session diskSizeGb).events),
        (removed location spec session diskSizeGb).session⟩
  /-- It waits forever inside the group. -/
  | hung {diskSizeGb : Int}
      (ready : (prepared location spec session).outcome = .ok diskSizeGb)
      (hangs : (filled location spec session diskSizeGb).outcome = .error .hung) :
      Course ⟨.error .hung,
        (prepared location spec session).events ++ (filled location spec session diskSizeGb).events,
        (filled location spec session diskSizeGb).session⟩
  /-- The group is filled, but the result cannot be told. -/
  | unreported {diskSizeGb : Int} {address : Value} {failure : Failure}
      (ready : (prepared location spec session).outcome = .ok diskSizeGb)
      (fills : (filled location spec session diskSizeGb).outcome = .ok address)
      (refuses : conclusion spec diskSizeGb address = .error failure) :
      Course ⟨.error (.failed failure),
        (prepared location spec session).events ++ (filled location spec session diskSizeGb).events,
        (filled location spec session diskSizeGb).session⟩
  /-- The runner is created. -/
  | created {diskSizeGb : Int} {address : Value} {addresses : List Address} {message : Text}
      (ready : (prepared location spec session).outcome = .ok diskSizeGb)
      (fills : (filled location spec session diskSizeGb).outcome = .ok address)
      (concludes : conclusion spec diskSizeGb address = .ok (addresses, message)) :
      Course ⟨.ok (instanceOf spec addresses),
        (prepared location spec session).events ++
          ((filled location spec session diskSizeGb).events ++
            [.logged ((runIn spec session).record LogLevel.info message none)]),
        (filled location spec session diskSizeGb).session⟩

theorem createFrom_course : Course location spec session (createFrom location spec session) := by
  let run := runIn spec session
  let fill : Int → Operation RunnerInstance := fun diskSizeGb => do
    let publicAddress ← run.rollingBack (resources run location spec diskSizeGb)
    conclude run spec diskSizeGb publicAddress
  have starts : createFrom location spec session =
      (prepare run location spec >>= fill) (begun session) := rfl
  rw [starts]
  cases ready : (prepare run location spec (begun session)).outcome with
  | error reason =>
      rw [bind_apply_of_error ready]
      exact .unprepared ready
  | ok diskSizeGb =>
      -- The group is there: how the creation goes on depends on how filling it ends, and after a
      -- failure on how the removal ends.
      let before := (prepared location spec session).session
      let within := resources run location spec diskSizeGb
      rw [bind_apply_of_ok ready]
      show Course location spec session ⟨(fill diskSizeGb before).outcome,
        (prepared location spec session).events ++ (fill diskSizeGb before).events,
        (fill diskSizeGb before).session⟩
      rcases fills : (within before).outcome with (failure | _) | publicAddress
      · cases removes : (run.rollback (within before).session).outcome with
        | ok _ =>
            have undone := rollingBack_of_removed fills removes
            have ends : fill diskSizeGb before = _ := bind_apply_of_error (by rw [undone])
            rw [ends, undone]
            exact .failed ready fills removes
        | error reason =>
            have undone := rollingBack_of_interrupted fills removes
            have ends : fill diskSizeGb before = _ := bind_apply_of_error (by rw [undone])
            rw [ends, undone]
            exact .interrupted ready fills removes
      · have kept : run.rollingBack within before = within before := recover_apply_of_hung fills
        have ends : fill diskSizeGb before = _ := bind_apply_of_error (by rw [kept, fills])
        rw [ends, kept]
        exact .hung ready fills
      · have kept : run.rollingBack within before = within before := recover_apply_of_ok fills
        have continues : fill diskSizeGb before = _ := bind_apply_of_ok (by rw [kept, fills])
        rw [continues, kept]
        cases concludes : conclusion spec diskSizeGb publicAddress with
        | error failure =>
            have ends : ∀ session, conclude run spec diskSizeGb publicAddress session =
                ⟨.error (.failed failure), [], session⟩ := by
              intro session
              simp only [conclude, concludes]
              rfl
            rw [ends, List.append_nil]
            exact .unreported ready fills concludes
        | ok result =>
            have ends : ∀ session, conclude run spec diskSizeGb publicAddress session =
                ⟨.ok (instanceOf spec result.1),
                  [.logged (run.record LogLevel.info result.2 none)], session⟩ := by
              intro session
              simp only [conclude, concludes]
              rfl
            rw [ends]
            exact .created ready fills concludes

end Parts

theorem create_of_refused {controllerId : Text} {config : ProviderConfig} {bootstrap : Bootstrap}
    {failure : Failure} (refused : admitted controllerId config bootstrap = .error failure)
    (session : Session) :
    create controllerId config bootstrap session = ⟨.error (.failed failure), [], session⟩ := by
  unfold create
  rw [refused]
  rfl

theorem create_of_admitted {controllerId : Text} {config : ProviderConfig}
    {bootstrap : Bootstrap} {spec : RunnerSpec}
    (accepts : admitted controllerId config bootstrap = .ok spec) :
    create controllerId config bootstrap = createFrom config.location spec := by
  unfold create
  rw [accepts]
  rfl

theorem build_of_admitted {controllerId : Text} {config : ProviderConfig}
    {bootstrap : Bootstrap} {spec : RunnerSpec}
    (accepts : admitted controllerId config bootstrap = .ok spec) :
    RunnerSpec.build bootstrap controllerId config = .ok spec := by
  unfold admitted at accepts
  split at accepts
  · cases accepts
  · split at accepts
    · rename_i built
      rw [built, Except.ok.inj accepts]
    · cases accepts

theorem name_of_admitted {controllerId : Text} {config : ProviderConfig}
    {bootstrap : Bootstrap} {spec : RunnerSpec}
    (accepts : admitted controllerId config bootstrap = .ok spec) :
    spec.name = bootstrap.name := by
  obtain ⟨_, _, _, _, _, _, _, _, _, _, rfl⟩ := RunnerSpec.build_ok (build_of_admitted accepts)
  rfl

/-! ## The progress of the parts -/

section PartsProgress

variable (location : Text) (spec : RunnerSpec) (session : Session)

/-- Drawing a serial makes no difference to how far a part gets. -/
theorem progress_ofBegun {session : Session} {blame : Blame} {plan : List Request} {Result : α → Prop}
    {execution : Execution α} (progress : Progress blame plan Result (begun session) execution) :
    Progress blame plan Result session execution :=
  { progress with }

theorem prepared_progress :
    Progress (causeBlame session.script.answer []) (cataloguePlan location spec ++ groupPlan location spec)
      (fun _ => True) session (prepared location spec session) :=
  progress_ofBegun (prepare_progress session.nextSerial location spec)

variable {location spec session}

/-- What is inside the group is attached to what the session's script answers. -/
theorem filled_progress {diskSizeGb : Int}
    (ready : (prepared location spec session).outcome = .ok diskSizeGb) :
    Progress (causeBlame session.script.answer [])
      (resourcesPlan session.script.answer location spec diskSizeGb (accessFrom spec session.draws))
      (fun address => address = (grantedIp session.script.answer spec).address ∧
        usableIp session.script.answer spec = true ∧ Identified session.script.answer spec)
      (prepared location spec session).session (filled location spec session diskSizeGb) := by
  have preparations := prepared_progress location spec session
  obtain ⟨_, _, script⟩ := preparations.completed diskSizeGb ready
  have start : Ahead session.script.answer session.draws
      [.createSubnet, .createPublicIp, .createSecurityGroup, .createInterface] session :=
    ⟨fun _ _ => rfl, rfl⟩
  refine resources_progress session.nextSerial location spec diskSizeGb
    (start.after script preparations.draws (List.Subset.refl _) ?_)
  intro request member
  rcases preparation_methods member with same | same <;> simp [same]

theorem blame_not_late (request : Request) (fault : Fault) :
    request.blame fault ∉ lateFailures := by
  unfold Request.blame
  split
  · cases fault <;> simp [Cloud.reported, CreateRun.attributed, lateFailures, addressFailure]
  · simp [lateFailures, addressFailure]

/-- Nothing that goes wrong inside the group is a failure that comes late. -/
theorem filled_not_late {diskSizeGb : Int} {failure : Failure}
    (ready : (prepared location spec session).outcome = .ok diskSizeGb)
    (fails : (filled location spec session diskSizeGb).outcome = .error (.failed failure)) :
    failure ∉ lateFailures := by
  have progress := filled_progress ready
  rcases progress.failing failure fails with ⟨cancelled, -⟩ | cause
  · intro late
    simp only [lateFailures, List.mem_cons, List.not_mem_nil, or_false] at late
    rcases late with rfl | rfl <;> cases cancelled
  · cases cause with
    | raised called last => exact blame_not_late _ _
    | unlisted called => simp [lateFailures, addressFailure]
    | unreadable called unreadable =>
        rcases storageMb?_error unreadable with ⟨_, rfl⟩ | ⟨_, rfl⟩ | ⟨_, rfl⟩ <;>
          simp [lateFailures, addressFailure]
    | capacity problem asked => simp [lateFailures, addressFailure]
    | unwritable tooLong asked =>
        obtain ⟨request, member, catalogue⟩ := asked.resolve_left (by simp)
        exact absurd catalogue (resourcesPlan_methods (progress.made.subset member))
    | unidentified step given missing => simp [lateFailures, addressFailure]

theorem removed_removes (location : Text) (spec : RunnerSpec) (session : Session)
    (diskSizeGb : Int) : Removes spec.name (removed location spec session diskSizeGb) :=
  rollback_removes (runIn spec session) _

end PartsProgress

/-! ## The events of the parts -/

section PartsEvents

variable {location : Text} {spec : RunnerSpec} {session : Session}

theorem within_prepared :
    Event.Within (fun request => request.method ≠ .deleteGroup)
      (prepared location spec session).events := by
  refine (concerns_prepare (runIn spec session) location spec _).mono ?_
  rintro request (rfl | rfl) <;> simp [Request.method]

theorem within_filled (diskSizeGb : Int) :
    Event.Within (fun request => request.method ≠ .deleteGroup)
      (filled location spec session diskSizeGb).events :=
  (concerns_resources (runIn spec session) location spec diskSizeGb _).mono
    fun _ alters deletes => alters (Or.inr deletes)

/-- But for preparations that fail, the events of a creation are those of the preparations and of what
is inside the group, then those of a removal, or a last log record, or none. -/
theorem Course.parts {execution : Execution RunnerInstance}
    (course : Course location spec session execution) :
    execution.events = (prepared location spec session).events ∨
      ∃ diskSizeGb rest, (prepared location spec session).outcome = .ok diskSizeGb ∧
        execution.events = (prepared location spec session).events ++
          ((filled location spec session diskSizeGb).events ++ rest) ∧
        (rest = [] ∨ rest = (removed location spec session diskSizeGb).events ∨
          ∃ record, rest = [.logged record]) := by
  cases course with
  | unprepared stops => exact Or.inl rfl
  | failed ready fails removes => exact Or.inr ⟨_, _, ready, rfl, Or.inr (Or.inl rfl)⟩
  | interrupted ready fails stops => exact Or.inr ⟨_, _, ready, rfl, Or.inr (Or.inl rfl)⟩
  | hung ready hangs => exact Or.inr ⟨_, [], ready, by simp, Or.inl rfl⟩
  | unreported ready fills refuses => exact Or.inr ⟨_, [], ready, by simp, Or.inl rfl⟩
  | created ready fills concludes => exact Or.inr ⟨_, _, ready, rfl, Or.inr (Or.inr ⟨_, rfl⟩)⟩

end PartsEvents

/-! ## The group -/

/-- The creation of a group has returned. -/
def GroupCreated (events : List Event) : Prop :=
  ∃ request, request.method = .createGroup ∧ .returned request ∈ events

theorem groupCreated_append (earlier later : List Event) :
    GroupCreated (earlier ++ later) ↔ GroupCreated earlier ∨ GroupCreated later := by
  simp only [GroupCreated, List.mem_append]
  grind

theorem not_groupCreated {events : List Event} (within : Event.Within (¬ AltersGroups ·) events) :
    ¬ GroupCreated events := by
  rintro ⟨request, creates, returned⟩
  exact within _ returned request rfl (Or.inl creates)

theorem groupStep_returned_iff (run : CreateRun) (location name : Text) (tags : Tags)
    (session : Session) :
    let created := run.step .resourceGroup (Cloud.createGroup location name tags) session
    .returned (.createGroup name location tags) ∈ created.events ↔
      ∃ resource, created.outcome = .ok resource := by
  dsimp only
  cases cancelled : session.token.isSet with
  | true =>
      rw [step_of_set cancelled]
      simp
  | false =>
      rw [step_of_unset cancelled]
      show _ ∈ .logged _ :: (CreateRun.inStep _ _ session).events ↔
        ∃ resource, (CreateRun.inStep _ _ session).outcome = _
      rw [inStep_apply]
      simp only [Execution.renamed_ok_iff]
      unfold Cloud.createGroup
      rw [guarded_apply]
      simp only [Execution.renamed_ok_iff]
      rw [← returned_mem_submit_iff]
      simp [Execution.renamed]

/-- The preparations succeed exactly when they have created the group. -/
theorem groupCreated_prepared_iff (location : Text) (spec : RunnerSpec) (session : Session) :
    GroupCreated (prepared location spec session).events ↔
      ∃ diskSizeGb, (prepared location spec session).outcome = .ok diskSizeGb := by
  let run := runIn spec session
  let size := diskSize run location spec
  let create := run.step .resourceGroup (Cloud.createGroup location run.name spec.tags)
  let group : Request := .createGroup spec.name location spec.tags
  have sizing : ¬ GroupCreated (size (begun session)).events := by
    refine not_groupCreated ((concerns_diskSize run location spec (begun session)).mono ?_)
    rintro request rfl
    simp [AltersGroups, Request.method]
  have unfolded : prepared location spec session =
      (size >>= fun diskSizeGb => create >>= fun _ => pure diskSizeGb) (begun session) := rfl
  rw [unfolded]
  cases sized : (size (begun session)).outcome with
  | error reason =>
      rw [bind_apply_of_error sized]
      simp [sizing]
  | ok diskSizeGb =>
      rw [bind_apply_of_ok sized, groupCreated_append]
      simp only [sizing, false_or]
      have returned := groupStep_returned_iff run location run.name spec.tags
        (size (begun session)).session
      cases made : (create (size (begun session)).session).outcome with
      | error reason =>
          have unmade : ¬ GroupCreated (create (size (begun session)).session).events := by
            rintro ⟨request, creates, inEvents⟩
            have same := concerns_groupStep run location run.name spec.tags _ _ inEvents request rfl
            rw [same] at inEvents
            obtain ⟨resource, gives⟩ := returned.1 inEvents
            rw [made] at gives
            cases gives
          rw [bind_apply_of_error made]
          simp [unmade]
      | ok resource =>
          have inEvents := returned.2 ⟨resource, made⟩
          rw [bind_apply_of_ok made]
          refine ⟨fun _ => ⟨diskSizeGb, rfl⟩, fun _ => ⟨group, rfl, ?_⟩⟩
          exact List.mem_append_left _ inEvents

/-! ## A sample request -/

/-- A request for a runner on which nothing is special. -/
def sampleBootstrap : Bootstrap :=
  { name := "runner-1"
    tools := [⟨some "linux", some "x64", some "https://example.com/runner.tar.gz",
      some "runner.tar.gz", none, none⟩]
    repoUrl := ""
    callbackUrl := ""
    metadataUrl := ""
    instanceToken := ""
    sshKeys := []
    extraSpecs := none
    runnerGroup := ""
    caCertBundle := none
    osType := .linux
    arch := .amd64
    flavor := ""
    image := ""
    labels := []
    poolId := "pool-1"
    jitConfigEnabled := false }

def sampleConfig : ProviderConfig :=
  { location := "westeurope"
    useEphemeralStorage := false
    useAcceleratedNetworking := false
    virtualNetworkCidr := "10.10.0.0/24"
    vmSize := "Standard_F2s"
    image := "Canonical:server:22_04-lts:latest"
    credentials := ⟨some "sub", none, none, none⟩ }

/-- The session in which the sample request is served, under a token that the caller holds. -/
def sampleSession (script : CloudScript) : Session :=
  (Session.start script 0 id).withToken (.held false)

def sampleRun (script : CloudScript) : Execution RunnerInstance :=
  create "controller-1" sampleConfig sampleBootstrap (sampleSession script)

/-- The order for the group of the sample request. -/
def sampleGroup : Request :=
  .createGroup "runner-1" "westeurope"
    [("garm-controller-id", "controller-1"), ("garm-pool-id", "pool-1"), ("os-type", "linux"),
      ("os-arch", "amd64"), ("os-name", "22_04-lts"), ("os-version", "latest")]

/-- A number of one digit more than can be written. -/
def unwritableGb : Int :=
  Nat.pow 10 Number.mostDigits

/-- A request for a disk whose size is too long to be written. -/
def unwritableBootstrap (ephemeral : Bool) : Bootstrap :=
  { sampleBootstrap with
    extraSpecs := some [
      ("disk_size_gb", .int unwritableGb), ("use_ephemeral_storage", .bool ephemeral)] }

/-- A catalogue with the sample size, which has 32 gigabytes of local storage. -/
def localStorageItems : List Value := [
  .dict [
    ("name", .text "Standard_F2s"),
    ("resource_type", .text "virtualMachines"),
    ("capabilities", .list [
      .dict [("name", .text "MaxResourceVolumeMB"), ("value", .text "32768")]])]]

theorem exists_of_isSome {ε : Type} {given : Except ε α}
    (accepted : given.toOption.isSome = true) : ∃ value, given = .ok value := by
  cases given with
  | ok value => exact ⟨value, rfl⟩
  | error problem => cases accepted

theorem sample_admitted :
    ∃ spec, admitted "controller-1" sampleConfig sampleBootstrap = .ok spec :=
  exists_of_isSome (by decide +kernel)

end RunnerCloud.Provision
