import RunnerCloud.Proofs.Run.Subjects

/-!
Contract: a fault that an operation meets decides how the operation ends.

Owns:
- `Operation.Surfaces`, by which every fault that is met in a run of an operation ends the run with a
  failure that shows it;
- its lemmas for the forms in which operations are built, and for calls and waits.

Does not own: failures that no fault brings about.
-/

namespace RunnerCloud

namespace Operation

variable {α β : Type} {Shows : Request → Fault → Failure → Prop}

/-- Every fault that is met ends the run with a failure that shows it. -/
def Surfaces (Shows : Request → Fault → Failure → Prop) (operation : Operation α) : Prop :=
  ∀ session request fault, .raised request fault ∈ (operation session).events →
    ∃ failure, (operation session).outcome = .error (.failed failure) ∧ Shows request fault failure

/-- What has to do with no request meets no fault. -/
theorem Concerns.surfaces {operation : Operation α} (unrelated : Concerns (fun _ => False) operation) :
    Surfaces Shows operation := by
  intro session request fault raised
  exact (unrelated session _ raised request rfl).elim

theorem surfaces_emit {event : Event} (noFault : ∀ request fault, event ≠ .raised request fault) :
    Surfaces Shows (emit event) := by
  intro session request fault raised
  exact absurd (List.mem_singleton.1 raised).symm (noFault request fault)

/-- A part that has given a result has met no fault, so what is met in two parts ends the one in
which it is met. -/
theorem Surfaces.bind {operation : Operation α} {next : α → Operation β}
    (first : Surfaces Shows operation) (rest : ∀ value, Surfaces Shows (next value)) :
    Surfaces Shows (operation >>= next) := by
  intro session request fault raised
  cases ending : (operation session).outcome with
  | error reason =>
      rw [bind_apply_of_error ending] at raised ⊢
      obtain ⟨failure, fails, shows⟩ := first session request fault raised
      rw [ending] at fails
      cases fails
      exact ⟨failure, rfl, shows⟩
  | ok value =>
      rw [bind_apply_of_ok ending] at raised ⊢
      rcases List.mem_append.1 raised with early | late
      · obtain ⟨failure, fails, _⟩ := first session request fault early
        rw [ending] at fails
        cases fails
      · exact rest value _ request fault late

/-- Failures in another form. -/
theorem Surfaces.renamed {Later : Request → Fault → Failure → Prop} {operation : Operation α}
    {rename : Failure → Failure} (surfaces : Surfaces Shows operation)
    (implies : ∀ request fault failure, Shows request fault failure →
      Later request fault (rename failure)) :
    Surfaces Later (operation.recover fun failure => fail (rename failure)) := by
  intro session request fault raised
  rw [recover_fail] at raised ⊢
  obtain ⟨failure, fails, shows⟩ := surfaces session request fault raised
  exact ⟨rename failure, Execution.renamed_failed_iff.2 ⟨failure, fails, rfl⟩,
    implies request fault failure shows⟩

/-- What is done about a failure decides how a run goes on that has met a fault, if it has to do with
no request itself. -/
theorem Surfaces.recover {operation : Operation α} {handle : Failure → Operation α}
    (surfaces : Surfaces Shows operation)
    (unrelated : ∀ failure, Concerns (fun _ => False) (handle failure)) {session : Session}
    {request : Request} {fault : Fault}
    (raised : .raised request fault ∈ (operation.recover handle session).events) :
    ∃ failure, (operation session).outcome = .error (.failed failure) ∧
      Shows request fault failure := by
  refine surfaces session request fault ?_
  rcases ending : (operation session).outcome with (failure | _) | value
  · rw [recover_apply_of_failed ending] at raised
    rcases List.mem_append.1 raised with early | late
    · exact early
    · exact (unrelated failure _ _ late request rfl).elim
  · rwa [recover_apply_of_hung ending] at raised
  · rwa [recover_apply_of_ok ending] at raised

theorem Surfaces.mono {Later : Request → Fault → Failure → Prop} {operation : Operation α}
    (surfaces : Surfaces Shows operation)
    (implies : ∀ request fault failure, Shows request fault failure → Later request fault failure) :
    Surfaces Later operation := by
  intro session request fault raised
  obtain ⟨failure, fails, shows⟩ := surfaces session request fault raised
  exact ⟨failure, fails, implies request fault failure shows⟩

/-! ## Calls and waits -/

/-- The fault itself is the failure. -/
def Unchanged (called : Request) : Request → Fault → Failure → Prop :=
  fun request fault failure => request = called ∧ failure = .fault fault

theorem surfaces_raise (request : Request) (fault : Option Fault) :
    Surfaces (Unchanged request) (raise request fault) := by
  cases fault with
  | none => exact (concerns_pure ()).surfaces
  | some fault =>
      intro session other met raised
      cases List.mem_singleton.1 raised
      exact ⟨.fault fault, rfl, rfl, rfl⟩

theorem surfaces_call (request : Request) : Surfaces (Unchanged request) (call request) := by
  refine (surfaces_emit (by simp)).bind fun _ => ?_
  refine concerns_session.surfaces.bind fun before => ?_
  refine (concerns_setSession _).surfaces.bind fun _ => ?_
  refine (concerns_cancellationArrives _).surfaces.bind fun _ => ?_
  refine (surfaces_raise request _).bind fun _ => ?_
  refine (surfaces_emit (by simp)).bind fun _ => ?_
  exact (concerns_pure _).surfaces

theorem surfaces_submit (request : Request) : Surfaces (Unchanged request) (submit request) :=
  (surfaces_call request).bind fun _ => (concerns_pure _).surfaces

theorem surfaces_list (request : Request) : Surfaces (Unchanged request) (list request) :=
  (surfaces_call request).bind fun _ => (concerns_pure _).surfaces

/-- However often an operation is waited for, the first fault ends the wait. -/
theorem waiting_surfaces (pending : Pending) :
    Waiting pending fun _ operation => Surfaces (Unchanged pending.request) operation where
  result := fun _ => (concerns_pure _).surfaces
  sequence := fun first rest => first.bind rest
  hung := (concerns_stop _).surfaces
  cancelled := (concerns_fail _).surfaces
  looked := concerns_isCancelled.surfaces
  waited := surfaces_emit (by simp)
  fetched := fun _ => surfaces_emit (by simp)
  arrives := fun _ => (concerns_cancellationArrives _).surfaces
  taskArrives := fun waits => (concerns_taskCancellationMayArrive pending waits).surfaces
  refused := fun _ => surfaces_raise _ _
  lost := surfaces_raise _ _

theorem surfaces_complete (watched : Bool) (request : Request) :
    Surfaces (Unchanged request) (Cloud.complete watched request) := by
  rw [complete_eq]
  exact (surfaces_call request).bind fun behaviour =>
    (waiting_surfaces ⟨request, behaviour⟩).await watched

end Operation

end RunnerCloud
