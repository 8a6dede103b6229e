import Mathlib.Data.List.Basic
import RunnerCloud.Proofs.Provision.Course

/-!
Contract: what becomes of a creation that is cancelled.

Owns:
- `SetBetween`, the moment at which the cancel token becomes set;
- `Excuse`, the failures of a cancelled creation that are no cancellations;
- `cancellation_not_lost`: from that moment on nothing is started but the removal of the group, no
  operation is waited for, and the creation fails, with a cancellation or with an excuse; and it
  fails with a cancellation only if the token was set.

Does not own: how long a wait takes to notice the token.
-/

namespace RunnerCloud

namespace Event

/-- The token is set from the beginning, or some event sets it: the moment lies between the events
before it and the events after it. -/
def SetBetween (isSet : Bool) (events before after : List Event) : Prop :=
  isSet = true ∧ before = [] ∧ after = events ∨ events = before ++ .tokenSet :: after

variable {isSet : Bool} {events before after : List Event}

theorem Heeds.quiet_after (heeds : Heeds isSet events)
    (moment : SetBetween isSet events before after) : Quiet after := by
  rcases moment with ⟨setBefore, -, rfl⟩ | split
  · exact heeds.1 setBefore
  · exact heeds.2 before after split

theorem setBetween_append {earlier later : List Event}
    (moment : SetBetween isSet (earlier ++ later) before after) :
    (∃ rest, SetBetween isSet earlier before rest ∧ after = rest ++ later) ∨
      ∃ first, before = earlier ++ first ∧ SetBetween false later first after := by
  rcases moment with ⟨setBefore, none, rfl⟩ | split
  · exact Or.inl ⟨earlier, Or.inl ⟨setBefore, none, rfl⟩, rfl⟩
  · rcases List.append_eq_append_iff.1 split with ⟨gap, prefixed, inLater⟩ | ⟨gap, inEarlier, tail⟩
    · exact Or.inr ⟨gap, prefixed, Or.inr inLater⟩
    · cases gap with
      | nil =>
          refine Or.inr ⟨[], by simpa using inEarlier.symm, Or.inr ?_⟩
          simpa using tail.symm
      | cons head gap =>
          rw [List.cons_append, List.cons.injEq] at tail
          obtain ⟨rfl, rfl⟩ := tail
          exact Or.inl ⟨gap, Or.inr inEarlier, rfl⟩

theorem SetBetween.requests_eq (moment : SetBetween isSet events before after)
    (quiet : Quiet after) : requests events = requests before := by
  rcases moment with ⟨-, rfl, rfl⟩ | rfl
  · rw [quiet.requests_eq_nil]
    rfl
  · rw [requests_append, requests_cons, quiet.requests_eq_nil]
    simp

theorem SetBetween.mem (moment : SetBetween isSet events before after) {event : Event}
    (member : event ∈ events) (other : event ≠ .tokenSet) : event ∈ before ++ after := by
  rcases moment with ⟨-, rfl, rfl⟩ | rfl
  · exact member
  · simpa [other] using member

theorem SetBetween.last_mem (moment : SetBetween isSet events before after) {event : Event}
    (last : events.getLast? = some event) (other : event ≠ .tokenSet) : event ∈ after := by
  rcases moment with ⟨-, -, rfl⟩ | rfl
  · exact List.mem_of_getLast? last
  · have regrouped : before ++ .tokenSet :: after = (before ++ [.tokenSet]) ++ after := by simp
    rw [regrouped, List.getLast?_append] at last
    cases ending : after.getLast? with
    | some found =>
        rw [ending, Option.some_or] at last
        rw [← Option.some.inj last]
        exact List.mem_of_getLast? ending
    | none =>
        rw [ending, Option.none_or, List.getLast?_concat] at last
        exact absurd (Option.some.inj last).symm other

end Event

namespace Provision

open Operation

/-- Why a creation that was cancelled may fail for another reason: `before` is what happened until
the cancel token became set, `after` what happened then. The operation in flight at that moment is
the action of the step that made the last call. -/
inductive Excuse (answers : CloudMethod → Value) (before after : List Event) : Failure → Prop
  /-- The operation in flight met a fault. -/
  | inFlight {request : Request} {fault : Fault}
      (flying : (Event.requests before).getLast? = some request)
      (raised : .raised request fault ∈ after) :
      Excuse answers before after (request.blame fault)
  /-- The operation in flight did not find the VM size in the catalogue. -/
  | unlisted {location vmSize : Text}
      (flying : (Event.requests before).getLast? = some (.listSkus location)) :
      Excuse answers before after
        (.stepFailed .ephemeralDiskSize (.vmSizeMissing vmSize location))
  /-- The operation in flight could not read the size that the catalogue gives. -/
  | unreadable {location : Text} {sku : Sku} {failure : Failure}
      (flying : (Event.requests before).getLast? = some (.listSkus location))
      (unreadable : sku.storageMb? = .error failure) :
      Excuse answers before after failure
  /-- The disk, the size of which the catalogue was asked about, does not fit. -/
  | capacity (problem : CapacityProblem)
      (asked : ∃ request ∈ Event.requests before, request.method = .listSkus) :
      Excuse answers before after (.capacity problem)
  /-- The disk does not fit, and the numbers cannot be written that say so. -/
  | unwritable {problem : CapacityProblem}
      (tooLong : problem.numbers.all Number.fits = false)
      (asked : ∃ request ∈ Event.requests before, request.method = .listSkus) :
      Excuse answers before after .unwritableInteger
  /-- A resource that the cloud has given has no identifier. -/
  | unidentified (step : Step)
      (given : ∃ request : Request,
        request.delivery ∈ before ++ after ∧ request.method = step.method)
      (missing : ((answers step.method).field "id").isEmptyLike = true) :
      Excuse answers before after (.missingResourceId step)
  /-- The removal of the group was interrupted. -/
  | interrupted {name text : Text}
      (raised : .raised (deletion name) (.interrupt text) ∈ after) :
      Excuse answers before after (.fault (.interrupt text))

section Excuses

variable {answers : CloudMethod → Value} {before after : List Event} {failure : Failure}

theorem Excuse.extend (excuse : Excuse answers before after failure)
    (earlier between later : List Event) :
    Excuse answers (earlier ++ before) (between ++ after ++ later) failure := by
  have reaches : ∀ {request}, (Event.requests before).getLast? = some request →
      (Event.requests (earlier ++ before)).getLast? = some request := by
    intro request flying
    rw [Event.requests_append, List.getLast?_append, flying, Option.some_or]
  cases excuse with
  | inFlight flying raised => exact .inFlight (reaches flying) (by simp [raised])
  | unlisted flying => exact .unlisted (reaches flying)
  | unreadable flying unreadable => exact .unreadable (reaches flying) unreadable
  | capacity problem asked =>
      obtain ⟨request, member, same⟩ := asked
      exact .capacity problem ⟨request, by simp [member], same⟩
  | unwritable tooLong asked =>
      obtain ⟨request, member, same⟩ := asked
      exact .unwritable tooLong ⟨request, by simp [member], same⟩
  | unidentified step given missing =>
      obtain ⟨request, delivered, same⟩ := given
      refine .unidentified step ⟨request, ?_, same⟩ missing
      rcases List.mem_append.1 delivered with early | late
      · simp [early]
      · simp [late]
  | interrupted raised =>
      exact .interrupted (List.mem_append_left _ (List.mem_append_right _ raised))

theorem delivery_ne_tokenSet (request : Request) : request.delivery ≠ .tokenSet := by
  unfold Request.delivery
  split <;> simp

/-- The cause of a failure is an excuse when nothing was called for after the moment. -/
theorem Cause.excuse {isSet : Bool} {events : List Event} (cause : Cause answers [] events failure)
    (moment : Event.SetBetween isSet events before after) (quiet : Event.Quiet after) :
    Excuse answers before after failure := by
  have calls := moment.requests_eq quiet
  cases cause with
  | raised called last =>
      rw [calls] at called
      exact .inFlight called (moment.last_mem last (by simp))
  | unlisted called =>
      rw [calls] at called
      exact .unlisted called
  | unreadable called unreadable =>
      rw [calls] at called
      exact .unreadable called unreadable
  | capacity problem asked =>
      rw [calls] at asked
      exact .capacity problem (asked.resolve_left (by simp))
  | unwritable tooLong asked =>
      rw [calls] at asked
      exact .unwritable tooLong (asked.resolve_left (by simp))
  | unidentified step given missing =>
      obtain ⟨request, delivered, same⟩ := given.resolve_left (by simp)
      refine .unidentified step ⟨request, ?_, same⟩ missing
      exact moment.mem delivered (delivery_ne_tokenSet request)

theorem blame_not_cancelled (request : Request) (fault : Fault) :
    (request.blame fault).category ≠ .cancelled := by
  unfold Request.blame
  split
  · cases fault <;> simp [Cloud.reported, CreateRun.attributed, Failure.category]
  · cases fault <;> simp [Failure.category]

theorem Cause.not_cancelled {steps : List Step} {events : List Event}
    (cause : Cause answers steps events failure) : failure.category ≠ .cancelled := by
  cases cause with
  | raised called last => exact blame_not_cancelled _ _
  | unlisted called => simp [Failure.category]
  | unreadable called unreadable =>
      rcases storageMb?_error unreadable with ⟨_, rfl⟩ | ⟨_, rfl⟩ | ⟨_, rfl⟩
      · simp [Failure.category]
      · simp [Failure.category]
      · rename_i written
        cases written <;> simp [Failure.category]
  | capacity problem asked => simp [Failure.category]
  | unwritable tooLong asked => simp [Failure.category]
  | unidentified step given missing => simp [Failure.category]

end Excuses

/-! ## Parts of a creation -/

/-- What a part does from the moment at which the token becomes set. -/
structure CutShort {α : Type} (answers : CloudMethod → Value) (before after : List Event)
    (execution : Execution α) : Prop where
  quiet : Event.Quiet after
  set : execution.session.token.isSet = true
  ends : execution.outcome ≠ .error .hung
  fails : ∀ failure, execution.outcome = .error (.failed failure) →
    failure.category = .cancelled ∨ Excuse answers before after failure

theorem cutShort {α : Type} {answers : CloudMethod → Value} {plan : List Request}
    {Result : α → Prop} {session : Session} {execution : Execution α} {before after : List Event}
    (progress : Progress (causeBlame answers []) plan Result session execution)
    (moment : Event.SetBetween session.token.isSet execution.events before after) :
    CutShort answers before after execution := by
  have quiet := progress.heeds.quiet_after moment
  have set : execution.session.token.isSet = true := by
    rw [progress.token]
    rcases moment with ⟨setBefore, -, -⟩ | split
    · exact Or.inl setBefore
    · exact Or.inr (by rw [split]; simp)
  refine ⟨quiet, set, ?_, ?_⟩
  · intro hangs
    rw [progress.hanging hangs] at set
    cases set
  · intro failure fails
    rcases progress.failing failure fails with ⟨cancelled, _⟩ | cause
    · exact Or.inl cancelled
    · exact Or.inr (Cause.excuse cause moment quiet)

theorem set_of_cancelled_part {α : Type} {answers : CloudMethod → Value} {plan : List Request}
    {Result : α → Prop} {session : Session} {execution : Execution α} {failure : Failure}
    (progress : Progress (causeBlame answers []) plan Result session execution)
    (fails : execution.outcome = .error (.failed failure))
    (cancelled : failure.category = .cancelled) :
    session.token.isSet = true ∨ .tokenSet ∈ execution.events := by
  rcases progress.failing failure fails with ⟨_, set⟩ | cause
  · exact progress.token.1 set
  · exact absurd cancelled (Cause.not_cancelled cause)

/-- A result means that the token is not set. -/
def EndsUnset {α : Type} (operation : Operation α) : Prop :=
  ∀ session value, (operation session).outcome = .ok value →
    (operation session).session.token.isSet = false

theorem EndsUnset.after {α β : Type} {operation : Operation α} {next : α → Operation β}
    (ends : ∀ value, EndsUnset (next value)) : EndsUnset (operation >>= next) := by
  intro session final gives
  cases ending : (operation session).outcome with
  | ok value =>
      rw [bind_apply_of_ok ending] at gives ⊢
      exact ends value _ final gives
  | error reason =>
      rw [bind_apply_of_error ending] at gives
      cases gives

/-- The last look at the token comes when everything is created. -/
theorem resources_endsUnset (run : CreateRun) (location : Text) (spec : RunnerSpec)
    (diskSizeGb : Int) : EndsUnset (resources run location spec diskSizeGb) := by
  refine EndsUnset.after fun _ => EndsUnset.after fun subnet => EndsUnset.after fun ip => ?_
  refine EndsUnset.after fun group => EndsUnset.after fun interface => ?_
  refine EndsUnset.after fun interfaceId => EndsUnset.after fun _ => ?_
  intro session address gives
  cases set : session.token.isSet with
  | true =>
      have stops : (run.checkCancelled .completion session).outcome =
          .error (.failed (.cancelledBefore run.name .completion)) := by
        rw [checkCancelled_apply, if_pos set]
        rfl
      rw [bind_apply_of_error stops] at gives
      cases gives
  | false =>
      have passes : run.checkCancelled .completion session = ⟨.ok (), [], session⟩ := by
        rw [checkCancelled_apply, if_neg (by simp [set])]
      rw [bind_apply_of_ok (by rw [passes]), passes]
      exact set

/-! ## The removal -/

section Removal

variable {name : Text} {removal : Execution Unit} {before after : List Event}

theorem waited_not_mem (quiet : Event.Quiet after) (request : Request) (endless : Bool) :
    .waited request endless ∉ after := by
  intro member
  have idle := quiet _ member
  cases idle

/-- Behind a quiet part, a removal calls for the deletion and waits for nothing. -/
theorem Removes.calls_after (removes : Removes name removal) {rest : List Event}
    (quiet : Event.Quiet rest) :
    Event.requests (rest ++ removal.events) = [deletion name] ∧
      ∀ request endless, .waited request endless ∉ rest ++ removal.events := by
  constructor
  · rw [Event.requests_append, quiet.requests_eq_nil, removes.requests]
    rfl
  · intro request endless
    obtain ⟨record, others, begins, quietOthers⟩ := removes.begins
    rw [begins]
    simp [waited_not_mem quiet, waited_not_mem quietOthers]

/-- A token that becomes set during the removal does so after the deletion is called for. -/
theorem Removes.deletion_precedes (removes : Removes name removal)
    (split : removal.events = before ++ .tokenSet :: after) :
    deletion name ∈ Event.requests before := by
  obtain ⟨record, rest, begins, _⟩ := removes.begins
  rw [begins] at split
  match before with
  | [] => simp at split
  | [_] => simp at split
  | first :: second :: others =>
      simp only [List.cons_append, List.cons.injEq] at split
      rw [← split.2.1]
      simp

/-- A token that becomes set before the deletion is called for does so before the removal. -/
theorem Removes.moment_before (removes : Removes name removal) {isSet : Bool}
    {earlier : List Event}
    (moment : Event.SetBetween isSet (earlier ++ removal.events) before after)
    (unfailed : ∀ request ∈ Event.requests before, request.method ≠ .deleteGroup) :
    ∃ rest, Event.SetBetween isSet earlier before rest ∧ after = rest ++ removal.events := by
  rcases Event.setBetween_append moment with found | ⟨first, rfl, late⟩
  · exact found
  · have precedes := removes.deletion_precedes (late.resolve_left (by simp))
    exact absurd rfl (unfailed (deletion name) (by simp [precedes]))

end Removal

/-! ## Whole creations -/

section Creation

variable {location : Text} {spec : RunnerSpec} {session : Session} {before after : List Event}

/-- The token may become set in the preparations or inside the group. -/
theorem filled_cutShort {diskSizeGb : Int}
    (ready : (prepared location spec session).outcome = .ok diskSizeGb)
    (moment : Event.SetBetween session.token.isSet
      ((prepared location spec session).events ++ (filled location spec session diskSizeGb).events)
      before after) :
    CutShort session.script.answer before after (filled location spec session diskSizeGb) := by
  rcases Event.setBetween_append moment with ⟨rest, early, rfl⟩ | ⟨first, rfl, late⟩
  · have preparations := cutShort (prepared_progress location spec session) early
    have contents := cutShort (filled_progress ready) (Or.inl ⟨preparations.set, rfl, rfl⟩)
    refine ⟨?_, contents.set, contents.ends, ?_⟩
    · rw [Event.quiet_append]
      exact ⟨preparations.quiet, contents.quiet⟩
    · intro failure fails
      refine (contents.fails failure fails).imp_right fun excuse => ?_
      simpa using excuse.extend before rest []
  · have contents := cutShort (filled_progress ready) (late.imp_left (by simp))
    refine ⟨contents.quiet, contents.set, contents.ends, ?_⟩
    intro failure fails
    refine (contents.fails failure fails).imp_right fun excuse => ?_
    simpa using excuse.extend (prepared location spec session).events [] []

theorem not_filled {diskSizeGb : Int} {address : Value}
    (cut : CutShort session.script.answer before after (filled location spec session diskSizeGb)) :
    (filled location spec session diskSizeGb).outcome ≠ .ok address := by
  intro fills
  have unset := resources_endsUnset (runIn spec session) location spec diskSizeGb _ address fills
  have set : (filled location spec session diskSizeGb).session.token.isSet = true := cut.set
  rw [show (filled location spec session diskSizeGb).session.token.isSet = false from unset] at set
  cases set

/-- What a creation does from the moment at which the token becomes set. -/
structure Abandoned (answers : CloudMethod → Value) (name : Text) (before after : List Event)
    (outcome : Except Stop RunnerInstance) : Prop where
  calls : Event.requests after = [] ∨ Event.requests after = [deletion name]
  waits : ∀ request endless, .waited request endless ∉ after
  fails : ∃ failure, outcome = .error (.failed failure) ∧
    (failure.category = .cancelled ∨ Excuse answers before after failure)

theorem Course.abandoned {execution : Execution RunnerInstance}
    (course : Course location spec session execution)
    (moment : Event.SetBetween session.token.isSet execution.events before after)
    (unfailed : ∀ request ∈ Event.requests before, request.method ≠ .deleteGroup) :
    Abandoned session.script.answer spec.name before after execution.outcome := by
  cases course with
  | unprepared stops =>
      rename_i reason
      have cut := cutShort (prepared_progress location spec session) moment
      refine ⟨Or.inl cut.quiet.requests_eq_nil, waited_not_mem cut.quiet, ?_⟩
      cases reason with
      | failed failure => exact ⟨failure, rfl, cut.fails failure stops⟩
      | hung => exact absurd stops cut.ends
  | @failed diskSizeGb failure ready fails _ =>
      -- No deletion is called for before the moment, so it lies in front of the removal.
      have removes := removed_removes location spec session diskSizeGb
      rw [← List.append_assoc] at moment
      obtain ⟨rest, early, rfl⟩ := removes.moment_before moment unfailed
      have cut := filled_cutShort ready early
      obtain ⟨calls, waits⟩ := removes.calls_after cut.quiet
      refine ⟨Or.inr calls, waits, failure, rfl, ?_⟩
      refine (cut.fails failure fails).imp_right fun excuse => ?_
      simpa using excuse.extend [] [] (removed location spec session diskSizeGb).events
  | @interrupted diskSizeGb _ _ ready _ stops =>
      have removes := removed_removes location spec session diskSizeGb
      rw [← List.append_assoc] at moment
      obtain ⟨rest, early, rfl⟩ := removes.moment_before moment unfailed
      obtain ⟨calls, waits⟩ := removes.calls_after (filled_cutShort ready early).quiet
      refine ⟨Or.inr calls, waits, ?_⟩
      rcases removes.ends with ended | ⟨text, interrupted, raised⟩
      · rw [ended] at stops
        cases stops
      · rw [interrupted] at stops
        cases stops
        exact ⟨_, rfl, Or.inr (.interrupted (List.mem_append_right _ raised))⟩
  | hung ready hangs => exact absurd hangs (filled_cutShort ready moment).ends
  | unreported ready fills _ => exact absurd fills (not_filled (filled_cutShort ready moment))
  | created ready fills _ =>
      rw [← List.append_assoc] at moment
      rcases Event.setBetween_append moment with ⟨rest, early, _⟩ | ⟨first, _, late⟩
      · exact absurd fills (not_filled (filled_cutShort ready early))
      · have logged := late.resolve_left (by simp)
        cases first <;> simp at logged

theorem Course.set_of_cancelled {execution : Execution RunnerInstance}
    (course : Course location spec session execution) {failure : Failure}
    (fails : execution.outcome = .error (.failed failure))
    (cancelled : failure.category = .cancelled) :
    session.token.isSet = true ∨ .tokenSet ∈ execution.events := by
  have preparations := prepared_progress location spec session
  cases course with
  | unprepared stops =>
      cases fails
      have sets := set_of_cancelled_part preparations stops cancelled
      exact sets
  | failed ready failsInside removes =>
      cases fails
      rcases set_of_cancelled_part (filled_progress ready) failsInside cancelled with set | sets
      · exact (preparations.token.1 set).imp_right fun sets => by simp [sets]
      · exact Or.inr (by simp [sets])
  | interrupted ready failsInside stops =>
      rcases (removed_removes location spec session _).ends with ended | ⟨text, interrupted, _⟩
      · rw [ended] at stops
        cases stops
      · rw [interrupted] at stops
        cases stops
        cases fails
        cases cancelled
  | hung ready hangs => cases fails
  | unreported ready fills refuses =>
      cases fails
      rcases conclusion_error refuses with ⟨_, rfl⟩ | ⟨rfl, _⟩ <;> cases cancelled
  | created ready fills reads => cases fails

end Creation

/-- A cancellation is not lost: from the moment at which the token becomes set, unless the creation
has failed before and deletes its group, the creation is abandoned. And only then does it fail with
a cancellation. -/
theorem cancellation_not_lost {controllerId : Text} {config : ProviderConfig}
    {bootstrap : Bootstrap} {spec : RunnerSpec}
    (accepts : admitted controllerId config bootstrap = .ok spec) (session : Session) :
    let run := create controllerId config bootstrap session
    (∀ before after, Event.SetBetween session.token.isSet run.events before after →
      (∀ request ∈ Event.requests before, request.method ≠ .deleteGroup) →
      Abandoned session.script.answer spec.name before after run.outcome) ∧
    ∀ failure, run.outcome = .error (.failed failure) → failure.category = .cancelled →
      session.token.isSet = true ∨ .tokenSet ∈ run.events := by
  dsimp only
  rw [create_of_admitted accepts]
  have course := createFrom_course config.location spec session
  exact ⟨fun _ _ => course.abandoned, fun _ => course.set_of_cancelled⟩

/-- A cloud in which a cancellation arrives while the subnet is created. -/
def cancellingSubnet : CloudScript :=
  fun method => if method = .createSubnet then [{ polls := 2, cancelsAtWait := some 1 }] else []

theorem cancellation_not_lost_of_cancellingSubnet :
    ∃ spec before after, admitted "controller-1" sampleConfig sampleBootstrap = .ok spec ∧
      (sampleRun cancellingSubnet).events = before ++ .tokenSet :: after ∧
      Abandoned cancellingSubnet.answer spec.name before after
        (sampleRun cancellingSubnet).outcome := by
  obtain ⟨spec, accepts⟩ := sample_admitted
  have splits : (sampleRun cancellingSubnet).events =
      (sampleRun cancellingSubnet).events.takeWhile (· != .tokenSet) ++
        .tokenSet :: ((sampleRun cancellingSubnet).events.dropWhile (· != .tokenSet)).tail := by
    decide +kernel
  have unfailed : ∀ request ∈ Event.requests
      ((sampleRun cancellingSubnet).events.takeWhile (· != .tokenSet)),
      request.method ≠ .deleteGroup := by
    decide +kernel
  exact ⟨spec, _, _, accepts, splits,
    (cancellation_not_lost accepts (sampleSession cancellingSubnet)).1 _ _ (Or.inr splits) unfailed⟩

/-- A cloud in which a cancellation arrives while the catalogue is listed. -/
def cancellingCatalogue : CloudScript :=
  fun method => if method = .listSkus then [{ cancels := true, items := localStorageItems }] else []

/-- The token is set while the catalogue is asked, nothing fails in the cloud, and yet the creation
fails neither with a cancellation nor about the capacity nor about a step. -/
theorem cancelled_sizing_uncited :
    let run := create "controller-1" sampleConfig (unwritableBootstrap true)
      (sampleSession cancellingCatalogue)
    .tokenSet ∈ run.events ∧ (∀ event ∈ run.events, (event matches .raised _ _) = false) ∧
      ¬ ∀ failure, run.outcome = .error (.failed failure) →
        failure.category ∈ [.cancelled, .capacity, .provisioning] := by
  have ends : (create "controller-1" sampleConfig (unwritableBootstrap true)
      (sampleSession cancellingCatalogue)).outcome = .error (.failed .unwritableInteger) := by
    decide +kernel
  exact ⟨by decide +kernel, by decide +kernel, fun all => absurd (all _ ends) (by decide)⟩

end Provision

end RunnerCloud
