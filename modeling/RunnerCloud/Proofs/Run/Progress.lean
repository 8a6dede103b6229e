import RunnerCloud.Proofs.Run.Trace

/-!
Contract: how far a part of an operation gets, and what it leaves behind.

Owns:
- `Blame`, what failures are put down to;
- `Progress`, what holds of every run of a part of an operation that has a plan of calls: the calls
  made are the first ones of the plan, a result means that the plan was finished, no call and no
  wait starts once the cancel token is set, and a failure is a cancellation or has someone to blame;
- the progress of results, failures, sequences and renamed failures.

Does not own: which plan an operation has.
-/

namespace RunnerCloud

open Operation

variable {α β : Type}

/-- What failures are put down to, by the events that led to them. Events that lie further back
make no difference. -/
structure Blame where
  Explains : List Event → Failure → Prop
  explains_append : ∀ {earlier later : List Event} {failure : Failure},
    Explains later failure → Explains (earlier ++ later) failure

@[simp] theorem mapError_ok {ε δ : Type} (change : ε → δ) (value : α) :
    (Except.ok value).mapError change = .ok value :=
  rfl

@[simp] theorem mapError_error {ε δ : Type} (change : ε → δ) (error : ε) :
    (Except.error error : Except ε α).mapError change = .error (change error) :=
  rfl

/-- A stop whose failure got another form. -/
def Stop.renamed (rename : Failure → Failure) : Stop → Stop
  | .failed failure => .failed (rename failure)
  | .hung => .hung

/-- A run whose failure got another form; nothing else changes. -/
def Execution.renamed (rename : Failure → Failure) (execution : Execution α) : Execution α :=
  { execution with outcome := execution.outcome.mapError (Stop.renamed rename) }

namespace Execution

theorem renamed_ok_iff {rename : Failure → Failure} {execution : Execution α} {value : α} :
    (execution.renamed rename).outcome = .ok value ↔ execution.outcome = .ok value := by
  unfold renamed
  cases execution.outcome <;> simp

theorem renamed_failed_iff {rename : Failure → Failure} {execution : Execution α}
    {failure : Failure} :
    (execution.renamed rename).outcome = .error (.failed failure) ↔
      ∃ given, execution.outcome = .error (.failed given) ∧ failure = rename given := by
  unfold renamed
  rcases execution.outcome with (given | _) | _ <;>
    simp [Stop.renamed, eq_comm]

theorem renamed_hung_iff {rename : Failure → Failure} {execution : Execution α} :
    (execution.renamed rename).outcome = .error .hung ↔ execution.outcome = .error .hung := by
  unfold renamed
  rcases execution.outcome with (given | _) | _ <;> simp [Stop.renamed]

end Execution

/-- Recovering only to fail again gives the failure another form. -/
theorem Operation.recover_fail (operation : Operation α) (rename : Failure → Failure)
    (session : Session) :
    operation.recover (fun failure => fail (rename failure)) session =
      (operation session).renamed rename := by
  unfold recover Execution.renamed
  rcases operation session with ⟨(given | _) | _, events, after⟩ <;>
    simp [Stop.renamed]

structure Progress (blame : Blame) (plan : List Request) (Result : α → Prop) (session : Session)
    (execution : Execution α) : Prop where
  made : Event.requests execution.events <+: plan
  completed : ∀ value, execution.outcome = .ok value →
    Result value ∧ Event.requests execution.events = plan ∧
      execution.session.script = session.script.after plan
  /-- Only the order for the VM uses random numbers. -/
  draws : (∀ request ∈ plan, request.method ≠ .createMachine) →
    execution.session.draws = session.draws
  heeds : Event.Heeds session.token.isSet execution.events
  token : execution.session.token.isSet = true ↔
    session.token.isSet = true ∨ .tokenSet ∈ execution.events
  failing : ∀ failure, execution.outcome = .error (.failed failure) →
    failure.category = .cancelled ∧ execution.session.token.isSet = true ∨
      blame.Explains execution.events failure
  hanging : execution.outcome = .error .hung → execution.session.token.isSet = false

namespace Progress

variable {blame : Blame} {plan others : List Request} {session : Session}
  {Result : α → Prop} {Final : β → Prop}

theorem pure {value : α} (holds : Result value) :
    Progress blame [] Result session ((Pure.pure value : Operation α) session) where
  made := List.prefix_rfl
  completed := by
    intro other same
    cases same
    exact ⟨holds, rfl, rfl⟩
  draws := fun _ => rfl
  heeds := Event.quiet_nil.heeds _
  token := by simp
  failing := by simp
  hanging := by simp

theorem fail {failure : Failure}
    (excused : failure.category = .cancelled ∧ session.token.isSet = true ∨
      blame.Explains [] failure) :
    Progress blame plan Result session ((Operation.fail failure : Operation α) session) where
  made := List.nil_prefix
  completed := by simp
  draws := fun _ => rfl
  heeds := Event.quiet_nil.heeds _
  token := by simp
  failing := by
    intro other same
    cases same
    exact excused
  hanging := by simp

theorem ofExcept {ε : Type} {wrap : ε → Failure} {given : Except ε α}
    (holds : ∀ value, given = .ok value → Result value)
    (excused : ∀ problem, given = .error problem → blame.Explains [] (wrap problem)) :
    Progress blame [] Result session (Operation.ofExcept wrap given session) := by
  cases given with
  | ok value => exact pure (holds value rfl)
  | error problem => exact fail (Or.inr (excused problem rfl))

/-- Two parts, one after the other, work through their plans one after the other. What the second
part fails for may be explained by what the first one did. -/
theorem bind_explaining {operation : Operation α} {next : α → Operation β} {later : Blame}
    (first : Progress blame plan Result session (operation session))
    (rest : ∀ value, Result value →
      (operation session).session.script = session.script.after plan →
      ((∀ request ∈ plan, request.method ≠ .createMachine) →
        (operation session).session.draws = session.draws) →
      Progress later others Final (operation session).session
        (next value (operation session).session))
    (explains : ∀ value events failure, (operation session).outcome = .ok value →
      Event.requests (operation session).events = plan → later.Explains events failure →
      blame.Explains ((operation session).events ++ events) failure) :
    Progress blame (plan ++ others) Final session ((operation >>= next) session) := by
  cases ending : (operation session).outcome with
  | error reason =>
      rw [bind_apply_of_error ending]
      exact
        { made := first.made.trans (List.prefix_append plan others)
          completed := by simp
          draws := fun unused =>
            first.draws fun request member => unused request (List.mem_append_left _ member)
          heeds := first.heeds
          token := first.token
          failing := by
            intro failure same
            cases same
            exact first.failing failure ending
          hanging := by
            intro same
            cases same
            exact first.hanging ending }
  | ok value =>
      obtain ⟨holds, planned, script⟩ := first.completed value ending
      have second := rest value holds script first.draws
      rw [bind_apply_of_ok ending]
      exact
        { made := by
            rw [Event.requests_append, planned]
            exact (List.prefix_append_right_inj plan).2 second.made
          completed := by
            intro final same
            obtain ⟨finalHolds, finalPlanned, finalScript⟩ := second.completed final same
            refine ⟨finalHolds, ?_, ?_⟩
            · rw [Event.requests_append, planned, finalPlanned]
            · rw [finalScript, script, CloudScript.after_append]
          draws := by
            intro unused
            rw [second.draws fun request member => unused request (List.mem_append_right _ member),
              first.draws fun request member => unused request (List.mem_append_left _ member)]
          heeds := first.heeds.append second.heeds first.token.2
          token := by
            rw [second.token, first.token, List.mem_append, or_assoc]
          failing := by
            intro failure same
            rcases second.failing failure same with cancelled | explained
            · exact Or.inl cancelled
            · exact Or.inr (explains value _ failure ending planned explained)
          hanging := second.hanging }

theorem bind {operation : Operation α} {next : α → Operation β}
    (first : Progress blame plan Result session (operation session))
    (rest : ∀ value, Result value →
      (operation session).session.script = session.script.after plan →
      ((∀ request ∈ plan, request.method ≠ .createMachine) →
        (operation session).session.draws = session.draws) →
      Progress blame others Final (operation session).session
        (next value (operation session).session)) :
    Progress blame (plan ++ others) Final session ((operation >>= next) session) :=
  first.bind_explaining rest fun _ _ _ _ _ => blame.explains_append

/-- A part that makes no calls of its own adds nothing to the plan. -/
theorem bind_silent {operation : Operation α} {next : α → Operation β}
    (first : Progress blame plan Result session (operation session))
    (rest : ∀ value, Result value → Progress blame [] Final (operation session).session
      (next value (operation session).session)) :
    Progress blame plan Final session ((operation >>= next) session) := by
  rw [← List.append_nil plan]
  exact first.bind fun value holds _ _ => rest value holds

/-- A call in front of a part that makes no calls of its own, while the token is not set. -/
theorem called {request : Request} {advanced : Session} {execution : Execution α}
    (progress : Progress blame [] Result advanced execution)
    (unset : session.token.isSet = false) (token : advanced.token = session.token)
    (script : advanced.script = session.script.advance request.method)
    (draws : advanced.draws = session.draws) :
    Progress blame [request] Result session
      ⟨execution.outcome, .called request :: execution.events, execution.session⟩ where
  made := by
    rw [Event.requests_cons]
    exact (List.prefix_append_right_inj [request]).2 progress.made
  completed := by
    intro value same
    obtain ⟨holds, planned, unchanged⟩ := progress.completed value same
    refine ⟨holds, ?_, ?_⟩
    · rw [Event.requests_cons, planned]
      rfl
    · rw [unchanged, script]
      rfl
  draws := fun _ => (progress.draws (by simp)).trans draws
  heeds := by
    rw [unset]
    exact progress.heeds.cons (by simp)
  token := by
    rw [progress.token, token]
    simp
  failing := by
    intro failure same
    rcases progress.failing failure same with cancelled | explained
    · exact Or.inl cancelled
    · refine Or.inr ?_
      rw [← List.singleton_append]
      exact blame.explains_append explained
  hanging := progress.hanging

/-- Failures in another form, for which someone else may be to blame. -/
theorem renamed {rename : Failure → Failure} {other : Blame} {execution : Execution α}
    (progress : Progress blame plan Result session execution)
    (keeps : ∀ failure, failure.category = .cancelled → (rename failure).category = .cancelled)
    (explains : ∀ failure, blame.Explains execution.events failure →
      other.Explains execution.events (rename failure)) :
    Progress other plan Result session (execution.renamed rename) where
  made := progress.made
  completed := fun value same => progress.completed value (Execution.renamed_ok_iff.1 same)
  draws := progress.draws
  heeds := progress.heeds
  token := progress.token
  failing := by
    intro failure same
    obtain ⟨given, ending, named⟩ := Execution.renamed_failed_iff.1 same
    rw [named]
    rcases progress.failing given ending with ⟨cancelled, set⟩ | explained
    · exact Or.inl ⟨keeps given cancelled, set⟩
    · exact Or.inr (explains given explained)
  hanging := fun same => progress.hanging (Execution.renamed_hung_iff.1 same)

theorem mono {Weaker : α → Prop} {other : Blame} {execution : Execution α}
    (progress : Progress blame plan Result session execution)
    (result : ∀ value, Result value → Weaker value)
    (explains : ∀ failure, blame.Explains execution.events failure →
      other.Explains execution.events failure) :
    Progress other plan Weaker session execution :=
  { progress with
    completed := fun value same =>
      ⟨result value (progress.completed value same).1, (progress.completed value same).2⟩
    failing := fun failure same => (progress.failing failure same).imp_right (explains failure) }

end Progress

end RunnerCloud
