import RunnerCloud.Proofs.Provision.PoolListing
import RunnerCloud.Proofs.Run.Confinement

/-!
Contract: how the actions of the client and the operations on runners fail, by what their calls meet.

Owns:
- `Reporting`, by which everything that a call can meet is allowed as a failure once it is reported;
- its lemmas for the guarded forms of calls, and for finding, listing, stopping, starting and
  deleting runners.

Does not own: creations, which have failures of their own.
-/

namespace RunnerCloud.Provision

open Operation

variable {α : Type}

/-- What a permitted fault or the end of a watched wait makes a call fail with is allowed once it is
reported. -/
structure Reporting (Permitted : Fault → Prop) (Met Allowed : Failure → Prop) : Prop where
  raised : ∀ fault, Permitted fault → Met (.fault fault)
  cancelled : Met .cancelledWaiting
  reported : ∀ action failure, Met failure → Allowed (Cloud.reported action failure)

namespace Reporting

variable {Permitted : Fault → Prop} {Met Allowed : Failure → Prop}
  (reporting : Reporting Permitted Met Allowed)

include reporting

/-! ## Actions of the client -/

theorem guarded {Gives : α → Prop} {operation : Operation α} (action : CloudAction)
    (confined : Confined Permitted Met Gives operation) :
    Confined Permitted Allowed Gives (Cloud.guarded action operation) :=
  confined.recover fun failure met => confined_fail (reporting.reported action failure met)

theorem complete (action : CloudAction) (watched : Bool) (request : Request) :
    Confined Permitted Allowed anything
      (Cloud.guarded action (Cloud.complete watched request)) :=
  reporting.guarded action
    (confined_complete reporting.raised request reporting.cancelled watched)

theorem submit (action : CloudAction) (request : Request) :
    Confined Permitted Allowed anything (Cloud.guarded action (submit request)) :=
  reporting.guarded action (confined_submit reporting.raised request)

/-- An unwatched operation the result of which is not used. -/
theorem finish (action : CloudAction) (request : Request) :
    Confined Permitted Allowed anything
      (Cloud.guarded action (Cloud.complete false request >>= fun _ => pure ())) :=
  reporting.guarded action
    ((confined_complete reporting.raised request reporting.cancelled false).bind
      fun _ _ => confined_pure trivial)

/-! ## Operations on runners -/

variable (name poolId : Text)

theorem delete : Confined Permitted Allowed anything (delete name) := by
  have deletes : Confined Permitted Allowed anything (Cloud.deleteGroup name true) :=
    reporting.finish _ _
  refine deletes.recover fun failure allowed => ?_
  split
  · exact confined_drawSerial.bind fun _ _ => confined_emit _
  · exact confined_fail allowed

/-- The call of an inspection fails as allowed; the record may have no view. -/
theorem getMachine : Confined Permitted Allowed anything (Cloud.getMachine name name) :=
  reporting.submit _ _

theorem get (refused : ∀ item failure, RefusedFor item failure → Allowed failure) :
    Confined Permitted Allowed anything (get name) :=
  (reporting.getMachine name).bind fun item _ =>
    confined_ofExcept (fun _ _ => trivial) fun failure refuses => refused item failure refuses

theorem listPool (misused : ∀ misuse, Met (.misused misuse))
    (refused : ∀ item failure, RefusedFor item failure → Allowed failure) :
    Confined Permitted Allowed anything (listPool poolId) := by
  have listed : Confined Permitted Allowed anything (Cloud.listMachines poolId) := by
    refine reporting.guarded _ ?_
    refine (confined_list reporting.raised _).bind fun listing only => ?_
    refine (confined_ofExcept (fun _ _ => trivial) fun misuse _ => misused misuse).bind
      fun machines _ => ?_
    exact (confined_raise reporting.raised _ only).bind fun _ _ => confined_pure trivial
  refine listed.bind fun machines _ =>
    confined_ofExcept (fun _ _ => trivial) fun failure refuses => ?_
  obtain ⟨_, item, _, _, _, refusal⟩ := viewsOf_error_iff.1 refuses
  exact refused item failure refusal

theorem stop : Confined Permitted Allowed anything (stop name) :=
  reporting.finish _ _

theorem start : Confined Permitted Allowed anything (start name) :=
  reporting.finish _ _

end Reporting

end RunnerCloud.Provision
