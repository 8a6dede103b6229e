import RunnerCloud.Proofs.Run.Completion
import RunnerCloud.Provision.Create

/-!
Contract: how far the steps of a creation get, and why they fail.

Owns:
- `Request.blame`, the failure of a creation that a fault of one of its requests becomes;
- `Provision.Cause`, why a part of a creation fails when it was not cancelled: a fault of the
  request called for last, an unusable answer about disk sizes, too little storage, or a resource
  without an identifier;
- the progress of a step, and of each kind of action that a step performs.

Does not own: the order of the steps.
-/

namespace RunnerCloud

open Operation

variable {α : Type}

/-- The step of a creation that makes the request, and what the client is doing then. -/
def Request.purpose? : Request → Option (Step × CloudAction)
  | .listSkus location => some (.ephemeralDiskSize, .listSkus location)
  | .createGroup name _ _ => some (.resourceGroup, .createGroup name)
  | .createNetwork group _ _ => some (.virtualNetwork, .createNetwork group)
  | .createSubnet group _ => some (.subnet, .createSubnet group)
  | .createPublicIp group _ => some (.publicIp, .createPublicIp group)
  | .createSecurityGroup group _ _ => some (.securityGroup, .createSecurityGroup group)
  | .createInterface order => some (.networkInterface, .createInterface order.group)
  | .createMachine order => some (.virtualMachine, .createMachine order.name)
  | _ => none

/-- The failure of a creation that a fault of the request becomes: errors of a service name the step
and the action, everything else stays as it is. -/
def Request.blame (request : Request) (fault : Fault) : Failure :=
  match request.purpose? with
  | some (step, action) => CreateRun.attributed step (Cloud.reported action (.fault fault))
  | none => .fault fault

def Step.method : Step → CloudMethod
  | .ephemeralDiskSize => .listSkus
  | .resourceGroup => .createGroup
  | .virtualNetwork => .createNetwork
  | .subnet => .createSubnet
  | .publicIp => .createPublicIp
  | .securityGroup => .createSecurityGroup
  | .networkInterface => .createInterface
  | .virtualMachine => .createMachine

namespace Provision

/-- Why a part of a creation fails although it was not cancelled. `answers` are the answers that the
cloud gives when nothing goes wrong, and the steps in `before` were performed in earlier parts. -/
inductive Cause (answers : CloudMethod → Value) (before : List Step) (events : List Event) :
    Failure → Prop
  /-- The request called for last met a fault. -/
  | raised {request : Request} {fault : Fault}
      (called : (Event.requests events).getLast? = some request)
      (last : events.getLast? = some (.raised request fault)) :
      Cause answers before events (request.blame fault)
  /-- The catalogue, called for last, does not have the VM size. -/
  | unlisted {location vmSize : Text}
      (called : (Event.requests events).getLast? = some (.listSkus location)) :
      Cause answers before events (.stepFailed .ephemeralDiskSize (.vmSizeMissing vmSize location))
  /-- The catalogue, called for last, gives a size that cannot be read. -/
  | unreadable {location : Text} {sku : Sku} {failure : Failure}
      (called : (Event.requests events).getLast? = some (.listSkus location))
      (unreadable : sku.storageMb? = .error failure) :
      Cause answers before events failure
  /-- The disk, the size of which the catalogue was asked about, does not fit. -/
  | capacity (problem : CapacityProblem)
      (asked : .ephemeralDiskSize ∈ before ∨
        ∃ request ∈ Event.requests events, request.method = .listSkus) :
      Cause answers before events (.capacity problem)
  /-- The disk does not fit, and the numbers cannot be written that say so. -/
  | unwritable {problem : CapacityProblem}
      (tooLong : problem.numbers.all Number.fits = false)
      (asked : .ephemeralDiskSize ∈ before ∨
        ∃ request ∈ Event.requests events, request.method = .listSkus) :
      Cause answers before events .unwritableInteger
  /-- The resource that an earlier step was given has no identifier. -/
  | unidentified (step : Step)
      (given : step ∈ before ∨
        ∃ request : Request, request.delivery ∈ events ∧ request.method = step.method)
      (missing : ((answers step.method).field "id").isEmptyLike = true) :
      Cause answers before events (.missingResourceId step)

theorem Cause.ofCapacity {answers : CloudMethod → Value} {before : List Step} {events : List Event}
    (problem : CapacityProblem)
    (asked : .ephemeralDiskSize ∈ before ∨
      ∃ request ∈ Event.requests events, request.method = .listSkus) :
    Cause answers before events (.ofCapacity problem) := by
  unfold Failure.ofCapacity
  split
  · exact .capacity problem asked
  · rename_i tooLong
    exact .unwritable (by simpa using tooLong) asked

/-- Failures of a creation are put down to their causes. -/
def causeBlame (answers : CloudMethod → Value) (before : List Step) : Blame where
  Explains := Cause answers before
  explains_append := by
    intro earlier later failure cause
    have reaches : ∀ {request}, (Event.requests later).getLast? = some request →
        (Event.requests (earlier ++ later)).getLast? = some request := by
      intro request called
      rw [Event.requests_append, List.getLast?_append, called, Option.some_or]
    cases cause with
    | raised called last =>
        refine .raised (reaches called) ?_
        rw [List.getLast?_append, last, Option.some_or]
    | unlisted called => exact .unlisted (reaches called)
    | unreadable called unreadable => exact .unreadable (reaches called) unreadable
    | capacity problem asked =>
        refine .capacity problem (asked.imp_right ?_)
        rintro ⟨request, member, same⟩
        exact ⟨request, by simp [member], same⟩
    | unwritable tooLong asked =>
        refine .unwritable tooLong (asked.imp_right ?_)
        rintro ⟨request, member, same⟩
        exact ⟨request, by simp [member], same⟩
    | unidentified step given missing =>
        refine .unidentified step (given.imp_right ?_) missing
        rintro ⟨request, delivered, same⟩
        exact ⟨request, List.mem_append_right _ delivered, same⟩

/-- A listed step that is known to have made a request need not be listed. -/
theorem known_of_listed {before : List Step} {step other : Step} {request : Request}
    (Known : Request → Prop) (known : Known request) (purpose : request.method = step.method)
    (listed : other ∈ step :: before ∨ ∃ request, Known request ∧ request.method = other.method) :
    other ∈ before ∨ ∃ request, Known request ∧ request.method = other.method := by
  rcases listed with listed | found
  · rcases List.mem_cons.1 listed with rfl | listed
    · exact Or.inr ⟨request, known, purpose⟩
    · exact Or.inl listed
  · exact Or.inr found

/-- A step that was performed within the events need not have been performed before them. -/
theorem Cause.of_performed {answers : CloudMethod → Value} {before : List Step} {step : Step}
    {earlier later : List Event} {failure : Failure} {request : Request}
    (performed : request ∈ Event.requests earlier) (delivered : request.delivery ∈ earlier)
    (purpose : request.method = step.method)
    (cause : Cause answers (step :: before) later failure) :
    Cause answers before (earlier ++ later) failure := by
  have appended : Cause answers (step :: before) (earlier ++ later) failure :=
    (causeBlame answers (step :: before)).explains_append cause
  cases appended with
  | raised called last => exact .raised called last
  | unlisted called => exact .unlisted called
  | unreadable called unreadable => exact .unreadable called unreadable
  | capacity problem asked =>
      have inEvents : request ∈ Event.requests (earlier ++ later) := by simp [performed]
      exact .capacity problem (known_of_listed (· ∈ Event.requests _) inEvents purpose asked)
  | unwritable tooLong asked =>
      have inEvents : request ∈ Event.requests (earlier ++ later) := by simp [performed]
      exact .unwritable tooLong (known_of_listed (· ∈ Event.requests _) inEvents purpose asked)
  | unidentified other given missing =>
      have inEvents : request.delivery ∈ earlier ++ later := List.mem_append_left _ delivered
      exact .unidentified other (known_of_listed (·.delivery ∈ _) inEvents purpose given) missing

/-! ## Reporting and attributing failures -/

theorem guarded_apply (action : CloudAction) (operation : Operation α) (session : Session) :
    Cloud.guarded action operation session =
      (operation session).renamed (Cloud.reported action) :=
  recover_fail operation _ session

theorem inStep_apply (step : Step) (operation : Operation α) (session : Session) :
    CreateRun.inStep step operation session =
      (operation session).renamed (CreateRun.attributed step) :=
  recover_fail operation _ session

theorem reported_of_cancelled {failure : Failure} (cancelled : failure.category = .cancelled)
    (action : CloudAction) : Cloud.reported action failure = failure := by
  unfold Cloud.reported
  split
  · cases cancelled
  · rfl

theorem attributed_of_cancelled {failure : Failure} (cancelled : failure.category = .cancelled)
    (step : Step) : CreateRun.attributed step failure = failure := by
  unfold CreateRun.attributed
  split
  · simp only [Failure.category, Failure.cloudCategory] at cancelled
    split at cancelled <;> simp at cancelled
  · rfl

/-! ## Steps -/

variable {answers : CloudMethod → Value} {before : List Step} {session : Session}
  {request : Request} {name : Fault → Failure} {Other : Failure → Prop} {Result : α → Prop}

theorem checkCancelled_apply (run : CreateRun) (boundary : Boundary) (session : Session) :
    run.checkCancelled boundary session =
      if session.token.isSet then fail (.cancelledBefore run.name boundary) session
      else ⟨.ok (), [], session⟩ := by
  unfold CreateRun.checkCancelled
  rw [isCancelled_bind]
  split <;> rfl

theorem checkCancelled_progress (run : CreateRun) (boundary : Boundary) :
    Progress (causeBlame answers before) [] (fun _ => session.token.isSet = false) session
      (run.checkCancelled boundary session) := by
  rw [checkCancelled_apply]
  by_cases cancelled : session.token.isSet = true
  · rw [if_pos cancelled]
    exact Progress.fail (Or.inl ⟨rfl, cancelled⟩)
  · rw [if_neg cancelled]
    exact Progress.pure (by simpa using cancelled)

theorem step_of_set (set : session.token.isSet = true) (run : CreateRun) (step : Step)
    (operation : Operation α) :
    run.step step operation session =
      ⟨.error (.failed (.cancelledBefore run.name (.before step))), [], session⟩ := by
  have looked : run.checkCancelled (.before step) session =
      ⟨.error (.failed (.cancelledBefore run.name (.before step))), [], session⟩ := by
    rw [checkCancelled_apply, if_pos set]
    rfl
  unfold CreateRun.step
  rw [bind_apply_of_error (by rw [looked]), looked]

theorem step_of_unset (unset : session.token.isSet = false) (run : CreateRun) (step : Step)
    (operation : Operation α) :
    run.step step operation session =
      (run.log LogLevel.debug step.action (some step.name) >>= fun _ =>
        CreateRun.inStep step operation) session := by
  have looked : run.checkCancelled (.before step) session = ⟨.ok (), [], session⟩ := by
    rw [checkCancelled_apply, if_neg (by simp [unset])]
  unfold CreateRun.step
  rw [bind_apply_of_ok (by rw [looked]), looked]
  rfl

/-- A step whose action begins with one request and makes no other. -/
theorem step_progress {step : Step} {operation : Operation α} (run : CreateRun)
    (opens : (operation session).Opens request)
    (progress : session.token.isSet = false →
      Progress (.within request name Other) [request] Result session (operation session))
    (explains : ∀ events failure, (Event.requests events).getLast? = some request →
      (Blame.within request name Other).Explains events failure →
      Cause answers before events (CreateRun.attributed step failure)) :
    Progress (causeBlame answers before) [request] Result session
      (run.step step operation session) := by
  cases cancelled : session.token.isSet with
  | true =>
      rw [step_of_set cancelled]
      exact Progress.fail (Or.inl ⟨rfl, cancelled⟩)
  | false =>
      rw [step_of_unset cancelled]
      have acted := progress cancelled
      have logged : Progress (causeBlame answers before) [] (fun _ => True) session
          (run.log LogLevel.debug step.action (some step.name) session) :=
        emit_progress rfl (by simp) (Or.inl rfl)
      refine logged.bind fun _ _ _ _ => ?_
      show Progress _ _ _ session (CreateRun.inStep step operation session)
      rw [inStep_apply]
      refine acted.renamed ?_ fun failure explained => explains _ failure ?_ explained
      · intro failure isCancelled
        rw [attributed_of_cancelled isCancelled]
        exact isCancelled
      · rw [opens.requests acted]
        rfl

/-- A step gives something only when its action was delivered. -/
theorem delivers_step {operation : Operation α} (delivers : Delivers request operation)
    (run : CreateRun) (step : Step) : Delivers request (run.step step operation) :=
  Delivers.after fun _ _ _ => Delivers.after fun _ _ _ => delivers.recover _

/-! ## Actions -/

/-- The failure of a reported fault is the one that the request is to blame for. -/
theorem cause_of_reported {step : Step} {action : CloudAction} {events : List Event}
    {failure : Failure} (purpose : request.purpose? = some (step, action))
    (called : (Event.requests events).getLast? = some request)
    (explained : (Blame.within request (fun fault => Cloud.reported action (.fault fault))
      noOther).Explains events failure) :
    Cause answers before events (CreateRun.attributed step failure) := by
  rcases explained with ⟨fault, last, rfl⟩ | impossible
  · have blamed : CreateRun.attributed step (Cloud.reported action (.fault fault)) =
        request.blame fault := by
      rw [Request.blame, purpose]
    rw [blamed]
    exact .raised called last
  · exact impossible.elim

theorem guarded_progress (action : CloudAction) {operation : Operation α}
    (progress : Progress (.within request .fault noOther) [request] Result session
      (operation session)) :
    Progress (.within request (fun fault => Cloud.reported action (.fault fault)) noOther)
      [request] Result session (Cloud.guarded action operation session) := by
  rw [guarded_apply]
  refine progress.renamed ?_ ?_
  · intro failure cancelled
    rw [reported_of_cancelled cancelled]
    exact cancelled
  · rintro failure (⟨fault, last, rfl⟩ | impossible)
    · exact Or.inl ⟨fault, last, rfl⟩
    · exact impossible.elim

/-- A step whose action reports the faults of its one request. -/
theorem guardedStep_progress {step : Step} {action : CloudAction} {operation : Operation α}
    (run : CreateRun) (purpose : request.purpose? = some (step, action))
    (opens : (operation session).Opens request)
    (progress : session.token.isSet = false →
      Progress (.within request .fault noOther) [request] Result session (operation session)) :
    Progress (causeBlame answers before) [request] Result session
      (run.step step (Cloud.guarded action operation) session) := by
  refine step_progress run ?_ (fun unset => guarded_progress action (progress unset)) ?_
  · rw [guarded_apply]
    exact opens.renamed _
  · exact fun events failure => cause_of_reported purpose

/-- A step that starts one operation and waits for its result. -/
theorem completingStep_progress {step : Step} {action : CloudAction} (run : CreateRun)
    (purpose : request.purpose? = some (step, action)) :
    Progress (causeBlame answers before) [request]
      (fun value => value = session.script.answer request.method) session
      (run.step step (Cloud.guarded action (Cloud.complete true request)) session) :=
  guardedStep_progress run purpose Execution.opens_complete complete_progress

theorem delivers_completingStep {step : Step} {action : CloudAction} (run : CreateRun)
    (long : request.method.isLongRunning = true) :
    Delivers request (run.step step (Cloud.guarded action (Cloud.complete true request))) :=
  delivers_step ((delivers_complete long).recover _) run step

theorem groupStep_progress (run : CreateRun) (location name : Text) (tags : Tags) :
    Progress (causeBlame answers before) [.createGroup name location tags] (fun _ => True) session
      (run.step .resourceGroup (Cloud.createGroup location name tags) session) :=
  guardedStep_progress run rfl Execution.opens_submit fun unset =>
    (submit_progress unset).mono (fun _ _ => trivial) fun _ explained => explained

theorem resourceId_ok {step : Step} {resource identifier : Value} {session : Session}
    (gives : (CreateRun.resourceId step resource session).outcome = .ok identifier) :
    identifier = resource.field "id" := by
  unfold CreateRun.resourceId at gives
  split at gives
  · cases gives
  · cases gives
    rfl

/-- A resource is only of use with an identifier. -/
theorem resourceId_progress (step : Step) {resource : Value} (known : step ∈ before)
    (answered : resource = answers step.method) :
    Progress (causeBlame answers before) []
      (fun identifier => identifier = (answers step.method).field "id" ∧
        identifier.isEmptyLike = false) session
      (CreateRun.resourceId step resource session) := by
  subst answered
  unfold CreateRun.resourceId
  by_cases missing : ((answers step.method).field "id").isEmptyLike = true
  · rw [if_pos missing]
    exact Progress.fail (Or.inr (.unidentified step (Or.inl known) missing))
  · rw [if_neg missing]
    exact Progress.pure ⟨rfl, by simpa using missing⟩

/-! ## Sizing the disk -/

/-- What can be wrong with the catalogue's answer about a VM size. -/
def SizingFailure (location vmSize : Text) (failure : Failure) : Prop :=
  failure = .cloud (.vmSizeMissing vmSize location) ∨
    (∃ problem, failure = .capacity problem) ∨ ∃ sku : Sku, sku.storageMb? = .error failure

def UnreadableSize (failure : Failure) : Prop :=
  (∃ written, failure = .unreadableInteger written) ∨
    (∃ problem, failure = .oversizedInteger problem) ∨ ∃ written, failure = .notFinite written

theorem wholeOf?_error {value : Value} {failure : Failure}
    (unreadable : Sku.wholeOf? value = .error failure) : UnreadableSize failure := by
  cases value with
  | text written =>
      simp only [Sku.wholeOf?] at unreadable
      split at unreadable
      · cases unreadable
      · cases unreadable
        exact Or.inl ⟨written, rfl⟩
      · rename_i problem _
        cases unreadable
        exact Or.inr (Or.inl ⟨problem, rfl⟩)
  | float written =>
      simp only [Sku.wholeOf?] at unreadable
      split at unreadable
      · cases unreadable
      · cases unreadable
        exact Or.inr (Or.inr ⟨written, rfl⟩)
  | _ => cases unreadable

theorem storageMb?_error {sku : Sku} {failure : Failure}
    (unreadable : sku.storageMb? = .error failure) : UnreadableSize failure := by
  simp only [Sku.storageMb?] at unreadable
  split at unreadable
  · cases unreadable
  · exact wholeOf?_error unreadable

theorem ephemeralGb_error {sku : Sku} {vmSize : Text} {failure : Failure}
    (fails : sku.ephemeralGb vmSize = .error failure) :
    (∃ problem, failure = .capacity problem) ∨ sku.storageMb? = .error failure := by
  unfold Sku.ephemeralGb at fails
  split at fails
  · cases fails
    exact Or.inl ⟨_, rfl⟩
  · split at fails
    · rename_i unreadable
      cases fails
      exact Or.inr unreadable
    · cases fails
      exact Or.inl ⟨_, rfl⟩
    · split at fails
      · cases fails
        exact Or.inl ⟨_, rfl⟩
      · cases fails

theorem listedSku_progress (location vmSize : Text) (unset : session.token.isSet = false) :
    Progress (.within (.listSkus location) .fault noOther) [.listSkus location] (fun _ => True)
      session (Cloud.listedSku location vmSize session) := by
  refine (list_progress unset).bind_silent fun listing _ => ?_
  cases (listing.items.map Sku.ofValue).find? (·.isFor vmSize) with
  | some sku => exact Progress.pure trivial
  | none => exact (raise_progress _).bind_silent fun _ _ => Progress.pure trivial

theorem maxEphemeralGb_progress {location vmSize : Text} (unset : session.token.isSet = false) :
    Progress
      (.within (.listSkus location) (fun fault => Cloud.reported (.listSkus location) (.fault fault))
        (SizingFailure location vmSize))
      [.listSkus location] (fun _ => True) session
      (Cloud.maxEphemeralGb location vmSize session) := by
  have sku : Progress
      (.within (.listSkus location) (fun fault => Cloud.reported (.listSkus location) (.fault fault))
        (SizingFailure location vmSize))
      [.listSkus location] (fun _ => True) session (Cloud.findSku location vmSize session) := by
    have listed := (guarded_progress (.listSkus location)
      (listedSku_progress location vmSize unset)).widen (SizingFailure location vmSize)
    refine listed.bind_silent fun entry _ => ?_
    cases entry with
    | some sku => exact Progress.pure trivial
    | none => exact Progress.fail (Or.inr (Or.inr (Or.inl rfl)))
  refine sku.bind_silent fun entry _ => ?_
  refine Progress.ofExcept (fun _ _ => trivial) fun failure fails => Or.inr ?_
  rcases ephemeralGb_error fails with tooSmall | unreadable
  · exact Or.inr (Or.inl tooSmall)
  · exact Or.inr (Or.inr ⟨entry, unreadable⟩)

theorem opens_maxEphemeralGb {location vmSize : Text} :
    (Cloud.maxEphemeralGb location vmSize session).Opens (.listSkus location) := by
  have listed : (Cloud.guarded (.listSkus location) (Cloud.listedSku location vmSize)
      session).Opens (.listSkus location) := by
    rw [guarded_apply]
    exact (Execution.opens_list.bind).renamed _
  have sku : (Cloud.findSku location vmSize session).Opens (.listSkus location) := listed.bind
  exact sku.bind

theorem sizingStep_progress (run : CreateRun) (location vmSize : Text) :
    Progress (causeBlame answers before) [.listSkus location] (fun _ => True) session
      (run.step .ephemeralDiskSize (Cloud.maxEphemeralGb location vmSize) session) := by
  refine step_progress run opens_maxEphemeralGb maxEphemeralGb_progress ?_
  rintro events failure called (raised | other)
  · exact cause_of_reported rfl called (Or.inl raised)
  · rcases other with rfl | ⟨problem, rfl⟩ | ⟨sku, unreadable⟩
    · exact .unlisted called
    · exact .capacity problem (Or.inr ⟨_, List.mem_of_getLast? called, rfl⟩)
    · have plain : CreateRun.attributed .ephemeralDiskSize failure = failure := by
        rcases storageMb?_error unreadable with ⟨_, rfl⟩ | ⟨_, rfl⟩ | ⟨_, rfl⟩ <;> rfl
      rw [plain]
      exact .unreadable called unreadable

theorem delivers_sizingStep (run : CreateRun) (location vmSize : Text) :
    Delivers (.listSkus location)
      (run.step .ephemeralDiskSize (Cloud.maxEphemeralGb location vmSize)) := by
  have listing : Delivers (.listSkus location) (list (.listSkus location)) :=
    (delivers_call rfl).bind _
  have listed : Delivers (.listSkus location) (Cloud.listedSku location vmSize) := listing.bind _
  have found : Delivers (.listSkus location) (Cloud.findSku location vmSize) :=
    (listed.recover _).bind _
  exact delivers_step (found.bind _) run _

/-! ## Ordering the VM -/

/-- The access to the VM: a password needs random numbers. -/
def accessFrom (spec : RunnerSpec) (draws : Nat → Nat) : MachineAccess :=
  if spec.sshPublicKeys.isEmpty then
    .password (Password.ofDraws ((List.range Password.standardLength).map draws))
  else .keys spec.sshPublicKeys

theorem accessOf_apply (spec : RunnerSpec) (session : Session) :
    ∃ draws, Cloud.accessOf spec session =
      ⟨.ok (accessFrom spec session.draws), [], { session with draws := draws }⟩ := by
  unfold Cloud.accessOf accessFrom
  split
  · exact ⟨_, rfl⟩
  · exact ⟨session.draws, rfl⟩

theorem machineStep_progress (run : CreateRun) (location : Text) (spec : RunnerSpec)
    (interfaceId : Value) (tags : Tags) (diskSizeGb : Int) :
    Progress (causeBlame answers before)
      [.createMachine (spec.machineOrder location interfaceId tags diskSizeGb
        (accessFrom spec session.draws))]
      (fun _ => True) session
      (run.step .virtualMachine
        (Cloud.createMachine location true spec interfaceId tags diskSizeGb) session) := by
  let request : Request := .createMachine
    (spec.machineOrder location interfaceId tags diskSizeGb (accessFrom spec session.draws))
  obtain ⟨draws, settled⟩ := accessOf_apply spec session
  have ordered : Cloud.createMachine location true spec interfaceId tags diskSizeGb session =
      Cloud.guarded (.createMachine spec.name) (Cloud.complete true request)
        { session with draws := draws } := by
    unfold Cloud.createMachine
    rw [bind_apply_of_ok (by rw [settled]), settled]
    rfl
  refine step_progress run ?_ ?_ fun events failure =>
    cause_of_reported (rfl : request.purpose? = some (_, .createMachine spec.name))
  · rw [ordered, guarded_apply]
    exact Execution.opens_complete.renamed _
  · intro unset
    rw [ordered]
    have completed : Progress _ [request] _ { session with draws := draws }
        (Cloud.guarded (.createMachine spec.name) (Cloud.complete true request)
          { session with draws := draws }) :=
      guarded_progress _ (complete_progress unset)
    exact
      { completed with
        completed := fun value same => ⟨trivial, (completed.completed value same).2⟩
        draws := fun unused => absurd rfl (unused request (List.mem_singleton_self _)) }

end Provision

end RunnerCloud
