import RunnerCloud.Cloud.Call

/-!
Contract: properties that waiting for a started operation has because the forms have them of which
it consists.

Owns:
- `Waiting`, a property that these forms have, or keep, and its walk through fetching a result,
  waiting once and watching until the end.

Does not own: the call that starts an operation; which properties are kept by waiting.
-/

namespace RunnerCloud.Operation

/-- The forms from which the waits for a started operation are built have the property, or keep
it. -/
structure Waiting (pending : Pending) (Holds : (α : Type) → Operation α → Prop) : Prop where
  result : ∀ {α : Type} (value : α), Holds α (pure value)
  sequence : ∀ {α β : Type} {operation : Operation α} {next : α → Operation β},
    Holds α operation → (∀ value, Holds β (next value)) → Holds β (operation >>= next)
  hung : Holds Value (stop .hung)
  cancelled : Holds Value (fail .cancelledWaiting)
  looked : Holds Bool isCancelled
  waited : Holds Unit (emit (.waited pending.request pending.behaviour.endless))
  fetched : ∀ succeeded, Holds Unit (emit (.fetched pending.request succeeded))
  arrives : ∀ arrives, Holds Unit (cancellationArrives arrives)
  taskArrives : ∀ waits, Holds Unit (taskCancellationMayArrive pending waits)
  /-- A wait meets no other faults than those in store for it. -/
  refused : ∀ waits, Holds Unit (raise pending.request (pending.behaviour.faultOfWait waits))
  lost : Holds Unit (raise pending.request pending.behaviour.resultFault)

namespace Waiting

variable {pending : Pending} {Holds : (α : Type) → Operation α → Prop}
  (waiting : Waiting pending Holds)

include waiting

theorem fetch : Holds Value (fetch pending) := by
  refine waiting.sequence (waiting.fetched _) fun _ => ?_
  refine waiting.sequence (waiting.arrives _) fun _ => ?_
  exact waiting.sequence waiting.lost fun _ => waiting.result _

theorem waitOnce (waits : Nat) : Holds Unit (waitOnce pending waits) := by
  refine waiting.sequence waiting.waited fun _ => ?_
  refine waiting.sequence (waiting.taskArrives waits) fun _ => ?_
  exact waiting.sequence (waiting.arrives _) fun _ => waiting.refused waits

/-- The property holds however often the operation is looked at. -/
theorem watch (looks waits : Nat) : Holds Value (watch pending looks waits) := by
  induction looks generalizing waits with
  | zero => exact waiting.hung
  | succ looks inductionHypothesis =>
      unfold Operation.watch
      split
      · exact waiting.fetch
      · refine waiting.sequence waiting.looked fun cancelled => ?_
        split
        · exact waiting.cancelled
        · exact waiting.sequence (waiting.waitOnce _) fun _ => inductionHypothesis _

theorem await (watched : Bool) : Holds Value (await watched pending) := by
  cases watched with
  | true => exact waiting.watch _ _
  | false => exact waiting.fetch

end Waiting

end RunnerCloud.Operation
