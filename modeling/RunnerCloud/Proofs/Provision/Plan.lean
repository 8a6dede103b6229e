import RunnerCloud.Proofs.Provision.Steps

/-!
Contract: the calls that a creation plans, and how far it gets with them.

Owns:
- `cataloguePlan`, `groupPlan` and `resourcesPlan`, the calls of a creation in their order, each with
  everything that it tells the cloud;
- `Identified`: the resources that are attached to others have identifiers;
- `prepare_progress` and `resources_progress`: both parts of a creation work through their plans,
  and fail for a `Cause` only.

Does not own: what happens after a failure.
-/

namespace RunnerCloud.Provision

open Operation CreateRun

/-! ## The plan -/

/-- The catalogue is asked about ephemeral disks only. -/
def cataloguePlan (location : Text) (spec : RunnerSpec) : List Request :=
  if spec.useEphemeralStorage then [.listSkus location] else []

def groupPlan (location : Text) (spec : RunnerSpec) : List Request :=
  [.createGroup spec.name location spec.tags]

def publicIpPlan (location : Text) (spec : RunnerSpec) : List Request :=
  if spec.allocatePublicIp then [.createPublicIp spec.name location] else []

/-- The steps whose resources are attached to others, by their identifiers. -/
def attachedSteps (spec : RunnerSpec) : List Step :=
  if spec.allocatePublicIp then [.publicIp, .subnet, .securityGroup, .networkInterface]
  else [.subnet, .securityGroup, .networkInterface]

section Answers

variable (answers : CloudMethod → Value)

/-- The public address that a creation gets. -/
def grantedIp (spec : RunnerSpec) : PublicIp :=
  if spec.allocatePublicIp then
    ⟨(answers .createPublicIp).field "ip_address", (answers .createPublicIp).field "id"⟩
  else noPublicIp

/-- The network interface, attached to what was created before. -/
def plannedInterface (location : Text) (spec : RunnerSpec) : InterfaceOrder :=
  { group := spec.name
    location := location
    subnetId := (answers .createSubnet).field "id"
    securityGroupId := (answers .createSecurityGroup).field "id"
    publicIpId := (grantedIp answers spec).identifier
    accelerated := spec.useAcceleratedNetworking }

/-- The security group, the interface and the VM. -/
def attachmentPlan (location : Text) (spec : RunnerSpec) (diskSizeGb : Int)
    (access : MachineAccess) : List Request := [
  .createSecurityGroup spec.name location spec.securityRules,
  .createInterface (plannedInterface answers location spec),
  .createMachine (spec.machineOrder location ((answers .createInterface).field "id") spec.tags
    diskSizeGb access)]

/-- A public address was asked for and has an identifier, or none was asked for. -/
def usableIp (spec : RunnerSpec) : Bool :=
  !spec.allocatePublicIp || !(grantedIp answers spec).identifier.isEmptyLike

/-- Every resource that is attached to another has an identifier. -/
def Identified (spec : RunnerSpec) : Prop :=
  ∀ step ∈ attachedSteps spec, ((answers step.method).field "id").isEmptyLike = false

/-- Everything inside the group; nothing follows a public address that is of no use. -/
def resourcesPlan (location : Text) (spec : RunnerSpec) (diskSizeGb : Int)
    (access : MachineAccess) : List Request :=
  .createNetwork spec.name location spec.virtualNetworkCidr ::
    .createSubnet spec.name spec.virtualNetworkCidr ::
      (publicIpPlan location spec ++
        if usableIp answers spec then attachmentPlan answers location spec diskSizeGb access else [])

end Answers

/-! ## The progress of preparations -/

variable {answers : CloudMethod → Value} {before : List Step} {session : Session}

theorem preparation_methods {location : Text} {spec : RunnerSpec} {request : Request}
    (member : request ∈ cataloguePlan location spec ++ groupPlan location spec) :
    request.method = .listSkus ∨ request.method = .createGroup := by
  unfold cataloguePlan groupPlan at member
  simp only [List.mem_append, List.mem_ite_nil_right, List.mem_singleton] at member
  rcases member with ⟨_, rfl⟩ | rfl
  · exact Or.inl rfl
  · exact Or.inr rfl

/-- After a step its request is known to have been made, and what it asks for to be delivered. -/
theorem bind_performed {α β : Type} (step : Step) {request : Request} {others : List Request}
    {Result : α → Prop} {Final : β → Prop} {operation : Operation α} {next : α → Operation β}
    (purpose : request.method = step.method) (delivers : Delivers request operation)
    (first : Progress (causeBlame answers before) [request] Result session (operation session))
    (rest : ∀ value, Result value →
      (operation session).session.script = session.script.after [request] →
      ((∀ other ∈ [request], other.method ≠ .createMachine) →
        (operation session).session.draws = session.draws) →
      Progress (causeBlame answers (step :: before)) others Final (operation session).session
        (next value (operation session).session)) :
    Progress (causeBlame answers before) (request :: others) Final session
      ((operation >>= next) session) := by
  refine first.bind_explaining rest fun value events failure gives planned cause => ?_
  have performed : request ∈ Event.requests (operation session).events := by
    rw [planned]
    exact List.mem_singleton_self request
  exact cause.of_performed performed (delivers session value gives) purpose

theorem diskSize_progress (run : CreateRun) (location : Text) (spec : RunnerSpec) :
    Progress (causeBlame answers before) (cataloguePlan location spec) (fun _ => True) session
      (diskSize run location spec session) := by
  unfold diskSize cataloguePlan
  by_cases ephemeral : spec.useEphemeralStorage = true
  · rw [if_pos ephemeral, if_pos ephemeral]
    refine bind_performed .ephemeralDiskSize rfl (delivers_sizingStep run location spec.vmSize)
      (sizingStep_progress run location spec.vmSize) fun maximumGb _ _ _ => ?_
    refine Progress.ofExcept (fun _ _ => trivial) fun problem _ => ?_
    exact .ofCapacity problem (Or.inl (by simp))
  · rw [if_neg ephemeral, if_neg ephemeral]
    exact Progress.pure trivial

theorem prepare_progress (serial : Nat) (location : Text) (spec : RunnerSpec) :
    Progress (causeBlame answers before) (cataloguePlan location spec ++ groupPlan location spec)
      (fun _ => True) session (prepare ⟨spec.name, serial⟩ location spec session) := by
  refine (diskSize_progress _ location spec).bind fun diskSizeGb _ _ _ => ?_
  exact (groupStep_progress _ location spec.name spec.tags).bind_silent fun _ _ =>
    Progress.pure trivial

/-! ## The progress inside the group -/

/-- What a session holds for the rest of a creation: the coming answers to some methods and the
random numbers are the given ones. -/
structure Ahead (answers : CloudMethod → Value) (draws : Nat → Nat) (methods : List CloudMethod)
    (session : Session) : Prop where
  coming : ∀ method ∈ methods, session.script.answer method = answers method
  drawn : session.draws = draws

/-- Calls of other methods than the VM's leave what is ahead as it is. -/
theorem Ahead.after {draws : Nat → Nat} {methods fewer : List CloudMethod} {later : Session}
    {made : List Request} (ahead : Ahead answers draws methods session)
    (script : later.script = session.script.after made)
    (keepsDraws : (∀ request ∈ made, request.method ≠ .createMachine) →
      later.draws = session.draws)
    (fewerThan : fewer ⊆ methods)
    (unused : ∀ request ∈ made, request.method ∉ CloudMethod.createMachine :: fewer) :
    Ahead answers draws fewer later where
  coming := by
    intro method member
    have different : ∀ request ∈ made, request.method ≠ method := by
      rintro request requested rfl
      exact unused request requested (List.mem_cons_of_mem _ member)
    rw [script, CloudScript.answer_after _ _ different]
    exact ahead.coming method (fewerThan member)
  drawn := by
    have noMachine : ∀ request ∈ made, request.method ≠ .createMachine := by
      intro request requested same
      exact unused request requested (by simp [same])
    rw [keepsDraws noMachine]
    exact ahead.drawn

theorem publicIp_progress (serial : Nat) (location : Text) (spec : RunnerSpec)
    (coming : session.script.answer .createPublicIp = answers .createPublicIp) :
    Progress (causeBlame answers before) (publicIpPlan location spec)
      (fun ip => ip = grantedIp answers spec ∧ usableIp answers spec = true) session
      (publicIp ⟨spec.name, serial⟩ location spec session) := by
  unfold publicIp publicIpPlan usableIp grantedIp
  by_cases asked : spec.allocatePublicIp = true
  · rw [if_pos asked, if_pos asked, if_pos asked]
    refine bind_performed .publicIp rfl (delivers_completingStep _ rfl)
      (completingStep_progress _ rfl) fun resource given _ _ => ?_
    have answered : resource = answers .createPublicIp := given.trans coming
    refine (resourceId_progress .publicIp (by simp) answered).bind_silent
      fun identifier ⟨same, present⟩ => ?_
    refine Progress.pure ⟨?_, ?_⟩
    · rw [answered, same]
      rfl
    · rw [same] at present
      simp [asked, Step.method] at present ⊢
      exact present
  · rw [if_neg asked, if_neg asked, if_neg asked]
    exact Progress.pure ⟨rfl, by simp [asked]⟩

theorem identified_of_usable {spec : RunnerSpec} (usable : usableIp answers spec = true)
    (subnet : ((answers .createSubnet).field "id").isEmptyLike = false)
    (securityGroup : ((answers .createSecurityGroup).field "id").isEmptyLike = false)
    (interface : ((answers .createInterface).field "id").isEmptyLike = false) :
    Identified answers spec := by
  intro step member
  unfold attachedSteps at member
  by_cases asked : spec.allocatePublicIp = true
  · rw [if_pos asked] at member
    have publicIp : ((answers .createPublicIp).field "id").isEmptyLike = false := by
      simpa [usableIp, grantedIp, asked] using usable
    simp only [List.mem_cons, List.not_mem_nil, or_false] at member
    rcases member with rfl | rfl | rfl | rfl <;> assumption
  · rw [if_neg asked] at member
    simp only [List.mem_cons, List.not_mem_nil, or_false] at member
    rcases member with rfl | rfl | rfl <;> assumption

theorem delivers_interface (serial : Nat) (location : Text) (spec : RunnerSpec)
    {subnet securityGroup : Value} (subnetAnswered : subnet = answers .createSubnet)
    (securityGroupAnswered : securityGroup = answers .createSecurityGroup) :
    Delivers (.createInterface (plannedInterface answers location spec))
      (interface ⟨spec.name, serial⟩ location spec subnet securityGroup
        (grantedIp answers spec).identifier) := by
  refine Delivers.after fun _ subnetId subnetGives => ?_
  refine Delivers.after fun _ securityGroupId securityGroupGives => ?_
  rw [resourceId_ok subnetGives, resourceId_ok securityGroupGives, subnetAnswered,
    securityGroupAnswered]
  exact delivers_completingStep _ rfl

theorem interface_progress (serial : Nat) (location : Text) (spec : RunnerSpec)
    {subnet securityGroup : Value} (subnetAnswered : subnet = answers .createSubnet)
    (securityGroupAnswered : securityGroup = answers .createSecurityGroup)
    (subnetKnown : .subnet ∈ before) (securityGroupKnown : .securityGroup ∈ before) :
    Progress (causeBlame answers before)
      [.createInterface (plannedInterface answers location spec)]
      (fun value => value = session.script.answer .createInterface ∧
        ((answers .createSubnet).field "id").isEmptyLike = false ∧
        ((answers .createSecurityGroup).field "id").isEmptyLike = false) session
      (interface ⟨spec.name, serial⟩ location spec subnet securityGroup
        (grantedIp answers spec).identifier session) := by
  refine (resourceId_progress .subnet subnetKnown subnetAnswered).bind
    fun subnetId ⟨sameSubnet, subnetPresent⟩ subnetScript _ => ?_
  refine (resourceId_progress .securityGroup securityGroupKnown securityGroupAnswered).bind
    fun securityGroupId ⟨sameSecurityGroup, securityGroupPresent⟩ securityGroupScript _ => ?_
  rw [sameSubnet] at subnetPresent
  rw [sameSecurityGroup] at securityGroupPresent
  rw [CloudScript.after_nil] at subnetScript securityGroupScript
  rw [← subnetScript, ← securityGroupScript, sameSubnet, sameSecurityGroup]
  exact (completingStep_progress _ rfl).mono
    (fun _ given => ⟨given, subnetPresent, securityGroupPresent⟩) fun _ explained => explained

/-- Inside the group, the catalogue is not asked any more. -/
theorem resourcesPlan_methods {location : Text} {spec : RunnerSpec} {diskSizeGb : Int}
    {access : MachineAccess} {request : Request}
    (member : request ∈ resourcesPlan answers location spec diskSizeGb access) :
    request.method ≠ .listSkus := by
  unfold resourcesPlan publicIpPlan attachmentPlan at member
  simp only [List.mem_append, List.mem_cons, List.mem_ite_nil_right, List.not_mem_nil,
    or_false] at member
  rcases member with rfl | rfl | ⟨_, rfl⟩ | ⟨_, rfl | rfl | rfl⟩ <;> simp [Request.method]

theorem resources_progress (serial : Nat) (location : Text) (spec : RunnerSpec)
    (diskSizeGb : Int) {draws : Nat → Nat}
    (ahead : Ahead answers draws
      [.createSubnet, .createPublicIp, .createSecurityGroup, .createInterface] session) :
    Progress (causeBlame answers [])
      (resourcesPlan answers location spec diskSizeGb (accessFrom spec draws))
      (fun address => address = (grantedIp answers spec).address ∧ usableIp answers spec = true ∧
        Identified answers spec)
      session (resources ⟨spec.name, serial⟩ location spec diskSizeGb session) := by
  unfold resourcesPlan
  refine bind_performed .virtualNetwork rfl (delivers_completingStep _ rfl) (completingStep_progress _ rfl)
    fun _ _ networkScript networkDraws => ?_
  have aheadOfSubnet := ahead.after networkScript networkDraws (List.Subset.refl _)
    (by simp [Request.method])
  refine bind_performed .subnet rfl (delivers_completingStep _ rfl) (completingStep_progress _ rfl)
    fun subnet subnetGiven subnetScript subnetDraws => ?_
  have subnetAnswered : subnet = answers .createSubnet :=
    subnetGiven.trans (aheadOfSubnet.coming _ (by simp [Request.method]))
  have aheadOfIp : Ahead answers draws [.createPublicIp, .createSecurityGroup, .createInterface] _ :=
    aheadOfSubnet.after subnetScript subnetDraws (by simp) (by simp [Request.method])
  refine (publicIp_progress serial location spec (aheadOfIp.coming _ (by simp))).bind
    fun ip ⟨granted, usable⟩ ipScript ipDraws => ?_
  have aheadOfSecurityGroup : Ahead answers draws [.createSecurityGroup, .createInterface] _ :=
    aheadOfIp.after ipScript ipDraws (by simp) (by
      unfold publicIpPlan
      split <;> simp [Request.method])
  rw [if_pos usable, granted]
  unfold attachmentPlan
  refine bind_performed .securityGroup rfl (delivers_completingStep _ rfl) (completingStep_progress _ rfl)
    fun securityGroup securityGroupGiven securityGroupScript securityGroupDraws => ?_
  have securityGroupAnswered : securityGroup = answers .createSecurityGroup :=
    securityGroupGiven.trans (aheadOfSecurityGroup.coming _ (by simp [Request.method]))
  have aheadOfInterface : Ahead answers draws [.createInterface] _ :=
    aheadOfSecurityGroup.after securityGroupScript securityGroupDraws (by simp)
      (by simp [Request.method])
  refine bind_performed .networkInterface rfl
    (delivers_interface serial location spec subnetAnswered securityGroupAnswered)
    (interface_progress serial location spec subnetAnswered securityGroupAnswered (by simp)
      (by simp)) fun interface ⟨interfaceGiven, subnetPresent, securityGroupPresent⟩
        interfaceScript interfaceDraws => ?_
  have interfaceAnswered : interface = answers .createInterface :=
    interfaceGiven.trans (aheadOfInterface.coming _ (by simp))
  have aheadOfMachine : Ahead answers draws [] _ :=
    aheadOfInterface.after interfaceScript interfaceDraws (by simp) (by simp [Request.method])
  refine (resourceId_progress .networkInterface (by simp) interfaceAnswered).bind
    fun interfaceId ⟨same, interfacePresent⟩ _ identifierDraws => ?_
  rw [same] at interfacePresent
  have drawn := (identifierDraws (by simp)).trans aheadOfMachine.drawn
  rw [same, ← drawn]
  refine (machineStep_progress _ location spec _ spec.tags diskSizeGb).bind_silent fun _ _ => ?_
  refine (checkCancelled_progress _ .completion).bind_silent fun _ _ => ?_
  exact Progress.pure ⟨rfl, usable,
    identified_of_usable usable subnetPresent securityGroupPresent interfacePresent⟩

end RunnerCloud.Provision
