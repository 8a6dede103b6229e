import RunnerCloud.Cloud.Call

/-!
Contract: what the events of a run say about its calls and its log.

Owns:
- how `Event.requests` and `Event.logRecords` read events that were put together;
- `Event.subject?`, the request that an event belongs to;
- `Event.Quiet`, events among which no call and no wait starts, and `Event.Heeds`, events that are
  quiet from the moment at which the cancel token is set;
- `CloudScript.after`, the script that a list of calls leaves.

Does not own: which events an operation causes.
-/

namespace RunnerCloud

namespace Event

attribute [simp] request?

@[simp]
theorem requests_nil : requests [] = [] :=
  rfl

@[simp]
theorem requests_cons (event : Event) (events : List Event) :
    requests (event :: events) = event.request?.toList ++ requests events := by
  cases event <;> rfl

@[simp]
theorem requests_append (earlier later : List Event) :
    requests (earlier ++ later) = requests earlier ++ requests later := by
  simp [requests]

@[simp]
theorem logRecords_nil : logRecords [] = [] :=
  rfl

@[simp]
theorem logRecords_cons (event : Event) (events : List Event) :
    logRecords (event :: events) = event.logRecord?.toList ++ logRecords events := by
  cases event <;> rfl

@[simp]
theorem logRecords_append (earlier later : List Event) :
    logRecords (earlier ++ later) = logRecords earlier ++ logRecords later := by
  simp [logRecords]

def subject? : Event → Option Request
  | .called request => some request
  | .returned request => some request
  | .waited request _ => some request
  | .fetched request _ => some request
  | .raised request _ => some request
  | .tokenSet => none
  | .taskCancelled => none
  | .logged _ => none

def startsWork : Event → Bool
  | .called _ => true
  | .waited _ _ => true
  | _ => false

/-- No call and no wait starts. -/
def Quiet (events : List Event) : Prop :=
  ∀ event ∈ events, event.startsWork = false

instance (events : List Event) : Decidable (Quiet events) := by
  unfold Quiet
  infer_instance

@[simp]
theorem quiet_nil : Quiet [] := by
  simp [Quiet]

@[simp]
theorem quiet_cons (event : Event) (events : List Event) :
    Quiet (event :: events) ↔ event.startsWork = false ∧ Quiet events := by
  simp [Quiet]

@[simp]
theorem quiet_append (earlier later : List Event) :
    Quiet (earlier ++ later) ↔ Quiet earlier ∧ Quiet later := by
  simp [Quiet, or_imp, forall_and]

theorem Quiet.requests_eq_nil {events : List Event} (quiet : Quiet events) :
    requests events = [] := by
  induction events with
  | nil => rfl
  | cons event events inductionHypothesis =>
      rw [quiet_cons] at quiet
      rw [requests_cons, inductionHypothesis quiet.2]
      cases event <;> simp_all [startsWork]

/-- Nothing starts once the token is set: not at all when `isSet` says that it is set from the
beginning, and else not behind the event that sets it. -/
def Heeds (isSet : Bool) (events : List Event) : Prop :=
  (isSet = true → Quiet events) ∧
    ∀ before after, events = before ++ .tokenSet :: after → Quiet after

theorem Quiet.heeds {events : List Event} (quiet : Quiet events) (isSet : Bool) :
    Heeds isSet events := by
  refine ⟨fun _ => quiet, ?_⟩
  intro before after split
  rw [split, quiet_append, quiet_cons] at quiet
  exact quiet.2.2

/-- One event may be anything as long as the token is not set yet. -/
theorem Heeds.cons {event : Event} {events : List Event} (notSetting : event ≠ .tokenSet)
    {isSet : Bool} (heeds : Heeds isSet events) : Heeds false (event :: events) := by
  refine ⟨by simp, ?_⟩
  intro before after split
  cases before with
  | nil =>
      rw [List.nil_append, List.cons.injEq] at split
      exact absurd split.1 notSetting
  | cons head before =>
      rw [List.cons_append, List.cons.injEq] at split
      exact heeds.2 before after split.2

/-- What follows heeds the token as what came before has left it. -/
theorem Heeds.append {isSet isSetLater : Bool} {earlier later : List Event}
    (first : Heeds isSet earlier) (rest : Heeds isSetLater later)
    (passes : isSet = true ∨ .tokenSet ∈ earlier → isSetLater = true) :
    Heeds isSet (earlier ++ later) := by
  constructor
  · intro setBefore
    rw [quiet_append]
    exact ⟨first.1 setBefore, rest.1 (passes (Or.inl setBefore))⟩
  · intro before after split
    rcases List.append_eq_append_iff.1 split with ⟨gap, -, inLater⟩ | ⟨gap, inEarlier, tail⟩
    · exact rest.2 gap after inLater
    · cases gap with
      | nil => exact rest.2 [] after (by simpa using tail.symm)
      | cons head gap =>
          rw [List.cons_append, List.cons.injEq] at tail
          obtain ⟨rfl, rfl⟩ := tail
          have setEarlier : Event.tokenSet ∈ earlier := by
            rw [inEarlier]
            simp
          rw [quiet_append]
          exact ⟨first.2 before gap inEarlier, rest.1 (passes (Or.inr setEarlier))⟩

end Event

namespace CloudScript

/-- The script once the calls of a list were made. -/
def after (script : CloudScript) (requests : List Request) : CloudScript :=
  requests.foldl (fun script request => script.advance request.method) script

@[simp]
theorem after_nil (script : CloudScript) : script.after [] = script :=
  rfl

@[simp]
theorem after_cons (script : CloudScript) (request : Request) (requests : List Request) :
    script.after (request :: requests) = (script.advance request.method).after requests :=
  rfl

theorem after_append (script : CloudScript) (earlier later : List Request) :
    script.after (earlier ++ later) = (script.after earlier).after later :=
  List.foldl_append ..

/-- A call takes nothing from what other methods will meet. -/
theorem next_advance_of_ne (script : CloudScript) {called other : CloudMethod}
    (different : other ≠ called) : (script.advance called).next other = script.next other := by
  simp [next, advance, different]

theorem next_after (script : CloudScript) (requests : List Request) {method : CloudMethod}
    (unused : ∀ request ∈ requests, request.method ≠ method) :
    (script.after requests).next method = script.next method := by
  induction requests generalizing script with
  | nil => rfl
  | cons request requests inductionHypothesis =>
      rw [after_cons, inductionHypothesis _ fun other member => unused other (by simp [member]),
        next_advance_of_ne _ (unused request (by simp)).symm]

/-- What the next call of a method gives, if it succeeds. -/
def answer (script : CloudScript) (method : CloudMethod) : Value :=
  (script.next method).answerOf method

theorem answer_after (script : CloudScript) (requests : List Request) {method : CloudMethod}
    (unused : ∀ request ∈ requests, request.method ≠ method) :
    (script.after requests).answer method = script.answer method := by
  rw [answer, next_after script requests unused, answer]

end CloudScript

end RunnerCloud
