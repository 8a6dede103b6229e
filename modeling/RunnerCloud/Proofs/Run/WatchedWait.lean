import Mathlib.Data.ENat.Basic
import RunnerCloud.Proofs.Run.Completion

/-!
Contract: how a watched wait for a started operation ends.

Owns:
- three countdowns, each a number of waits or infinite: `Behaviour.doneAfter`, when the operation is
  done, `CancelToken.setAfter`, when the cancel token is set, and `Behaviour.failsAt`, the first wait
  that fails;
- `Execution.Ends`, the outcome of a run with the waits and the fetched results that led to it;
- `watched_wait`: the countdown that runs out first decides how the wait ends, and it never ends
  exactly when all three are infinite.

Does not own: what becomes of an operation that is not waited for any more.
-/

namespace RunnerCloud

open Operation

variable {α β : Type}

/-! ## Countdowns -/

namespace Behaviour

variable {behaviour : Behaviour} {waits : ℕ}

/-- The waits after which the operation is done. -/
def doneAfter (behaviour : Behaviour) : ℕ∞ :=
  if behaviour.endless then ⊤ else behaviour.polls

/-- The first wait that fails. -/
def failsAt (behaviour : Behaviour) : ℕ∞ :=
  if behaviour.waitFault = none then ⊤ else (behaviour.soundWaits + 1 : ℕ)

theorem isDone_iff : behaviour.isDone waits = true ↔ behaviour.doneAfter ≤ waits := by
  unfold isDone doneAfter
  by_cases endless : behaviour.endless = true <;> simp [endless]

theorem faultOfWait_eq_none_iff : behaviour.faultOfWait waits = none ↔ waits < behaviour.failsAt := by
  unfold faultOfWait failsAt
  by_cases sound : behaviour.waitFault = none
  · simp [sound]
  · rw [if_neg sound, Nat.cast_lt]
    by_cases early : behaviour.soundWaits < waits
    · rw [if_pos early]
      simp only [sound, false_iff]
      omega
    · rw [if_neg early]
      simp only [true_iff]
      omega

/-- A first failing wait comes right behind the sound ones. -/
theorem failing_of_failsAt (fails : behaviour.failsAt = waits) :
    waits = behaviour.soundWaits + 1 ∧
      ∃ fault, behaviour.waitFault = some fault ∧ behaviour.faultOfWait waits = some fault := by
  unfold failsAt at fails
  cases faulty : behaviour.waitFault with
  | none =>
      rw [if_pos faulty] at fails
      cases fails
  | some fault =>
      rw [if_neg (by simp [faulty]), Nat.cast_inj] at fails
      refine ⟨fails.symm, fault, rfl, ?_⟩
      unfold faultOfWait
      rw [if_pos (by omega), faulty]

theorem failsAt_le_eventfulWaits (fails : behaviour.failsAt = waits) :
    waits ≤ behaviour.eventfulWaits := by
  rw [(failing_of_failsAt fails).1]
  exact Nat.le_max_left ..

/-- A moment that comes before the operation is done, and while something can still happen to it if
it is endless, comes before the last look. -/
theorem lt_looks (within : waits ≤ behaviour.doneAfter)
    (eventful : behaviour.doneAfter = ⊤ → waits ≤ behaviour.eventfulWaits) :
    waits < behaviour.looks := by
  unfold looks
  unfold doneAfter at within eventful
  by_cases endless : behaviour.endless = true
  · rw [if_pos endless] at eventful ⊢
    have bounded := eventful rfl
    omega
  · rw [if_neg endless] at within ⊢
    rw [Nat.cast_le] at within
    omega

end Behaviour

namespace CancelToken

variable {token : CancelToken} {behaviour : Behaviour} {waits : ℕ}

/-- The wait during which a cancellation arrives through the token; waits are counted from one. -/
def reachedAt (token : CancelToken) (behaviour : Behaviour) : ℕ∞ :=
  match behaviour.cancelsAtWait with
  | some wait => if token.shared ∧ 1 ≤ wait then wait else ⊤
  | none => ⊤

/-- The waits after which the token is set; a task that is cancelled while it waits is cancelled in
the first wait. -/
def setAfter (token : CancelToken) (behaviour : Behaviour) : ℕ∞ :=
  if token.isSet then 0
  else if behaviour.endless ∧ token.endsEndlessWait then 1
  else token.reachedAt behaviour

theorem reachedAt_le_iff : token.reachedAt behaviour ≤ waits ↔
    token.shared = true ∧ ∃ wait, behaviour.cancelsAtWait = some wait ∧ 1 ≤ wait ∧ wait ≤ waits := by
  unfold reachedAt
  split <;> rename_i scripted
  · rename_i wait
    simp only [scripted, Option.some.injEq, exists_eq_left']
    split <;> rename_i reaches
    · rw [Nat.cast_le]
      simp [reaches]
    · simp only [top_le_iff, ENat.natCast_ne_top, false_iff]
      exact fun ⟨shared, counted, _⟩ => reaches ⟨shared, counted⟩
  · simp [scripted]

/-- The token is set from the beginning, or with the cancelled task, or by a scripted cancellation. -/
theorem setAfter_le_iff : token.setAfter behaviour ≤ waits ↔
    token.isSet = true ∨ (behaviour.endless = true ∧ token.endsEndlessWait = true) ∧ 1 ≤ waits ∨
      token.shared = true ∧
        ∃ wait, behaviour.cancelsAtWait = some wait ∧ 1 ≤ wait ∧ wait ≤ waits := by
  unfold setAfter
  by_cases set : token.isSet = true
  · simp [set]
  · rw [if_neg set]
    by_cases ends : behaviour.endless = true ∧ token.endsEndlessWait = true
    · rw [if_pos ends, Nat.one_le_cast]
      constructor
      · exact fun waited => Or.inr (Or.inl ⟨ends, waited⟩)
      · rintro (already | ⟨_, waited⟩ | ⟨_, wait, _, counted, due⟩)
        · exact absurd already set
        · exact waited
        · omega
    · rw [if_neg ends, reachedAt_le_iff]
      simp [set, ends]

theorem setAfter_le_zero_iff : token.setAfter behaviour ≤ (0 : ℕ) ↔ token.isSet = true := by
  rw [setAfter_le_iff]
  constructor
  · rintro (set | ⟨_, early⟩ | ⟨_, _, _, early, late⟩)
    · exact set
    · omega
    · omega
  · exact Or.inl

/-- What is new after one more wait. -/
theorem setAfter_le_succ_iff : token.setAfter behaviour ≤ (waits + 1 : ℕ) ↔
    token.setAfter behaviour ≤ waits ∨
      (behaviour.endless = true ∧ token.endsEndlessWait = true) ∧ waits = 0 ∨
      token.shared = true ∧ behaviour.cancelsAtWait = some (waits + 1) := by
  simp only [setAfter_le_iff]
  constructor
  · rintro (set | ⟨ends, _⟩ | ⟨shared, wait, scripted, counted, due⟩)
    · exact Or.inl (Or.inl set)
    · by_cases first : waits = 0
      · exact Or.inr (Or.inl ⟨ends, first⟩)
      · exact Or.inl (Or.inr (Or.inl ⟨ends, by omega⟩))
    · by_cases last : wait = waits + 1
      · exact Or.inr (Or.inr ⟨shared, last ▸ scripted⟩)
      · exact Or.inl (Or.inr (Or.inr ⟨shared, wait, scripted, counted, by omega⟩))
  · rintro ((set | ⟨ends, _⟩ | ⟨shared, wait, scripted, counted, due⟩) | ⟨ends, _⟩ |
      ⟨shared, scripted⟩)
    · exact Or.inl set
    · exact Or.inr (Or.inl ⟨ends, by omega⟩)
    · exact Or.inr (Or.inr ⟨shared, wait, scripted, counted, by omega⟩)
    · exact Or.inr (Or.inl ⟨ends, by omega⟩)
    · exact Or.inr (Or.inr ⟨shared, _, scripted, by omega, le_rfl⟩)

theorem setAfter_le_eventfulWaits (sets : token.setAfter behaviour = waits) :
    waits ≤ behaviour.eventfulWaits := by
  -- One wait earlier the token was not set yet.
  cases waits with
  | zero => exact Nat.zero_le _
  | succ earlier =>
      have notYet : ¬ token.setAfter behaviour ≤ earlier := by
        rw [sets, Nat.cast_le]
        omega
      unfold Behaviour.eventfulWaits
      rcases setAfter_le_succ_iff.1 sets.le with already | ⟨_, first⟩ | ⟨_, scripted⟩
      · exact absurd already notYet
      · omega
      · rw [scripted, Option.getD_some]
        exact Nat.le_max_right ..

/-- Whether the token is set once it was waited so often. -/
def isSetAfter (token : CancelToken) (behaviour : Behaviour) (waits : ℕ) : Bool :=
  token.isSet || (behaviour.endless && token.endsEndlessWait && decide (1 ≤ waits)) ||
    (token.shared && behaviour.cancelsAtWait.any fun wait => decide (1 ≤ wait ∧ wait ≤ waits))

theorem isSetAfter_iff :
    token.isSetAfter behaviour waits = true ↔ token.setAfter behaviour ≤ waits := by
  rw [setAfter_le_iff]
  unfold isSetAfter
  cases behaviour.cancelsAtWait <;> simp [or_assoc]

theorem isSetAfter_zero : token.isSetAfter behaviour 0 = token.isSet := by
  rw [Bool.eq_iff_iff, isSetAfter_iff]
  exact setAfter_le_zero_iff

/-- The token once it was waited so often. -/
def afterWaits (token : CancelToken) (behaviour : Behaviour) (waits : ℕ) : CancelToken :=
  { token with isSet := token.isSetAfter behaviour waits }

theorem afterWaits_zero : token.afterWaits behaviour 0 = token := by
  unfold afterWaits
  rw [isSetAfter_zero]

end CancelToken

/-- The session in which an operation was waited for so often. -/
def Session.afterWaits (session : Session) (behaviour : Behaviour) (waits : ℕ) : Session :=
  session.withToken (session.token.afterWaits behaviour waits)

/-! ## Waits and fetched results of a run -/

namespace Event

def isWait : Event → Bool
  | .waited _ _ => true
  | _ => false

def isFetch : Event → Bool
  | .fetched _ _ => true
  | _ => false

end Event

namespace Execution

/-- The run has this outcome after so many waits and so many fetched results. -/
structure Ends (execution : Execution α) (outcome : Except Stop α) (waits fetches : ℕ) : Prop where
  outcome : execution.outcome = outcome
  waits : execution.events.countP Event.isWait = waits
  fetches : execution.events.countP Event.isFetch = fetches

/-- The run gives a value after so many waits, fetches nothing, and leaves this session. -/
structure Gives (execution : Execution α) (value : α) (session : Session) (waits : ℕ) : Prop where
  ends : execution.Ends (.ok value) waits 0
  session : execution.session = session

variable {operation : Operation α} {next : α → Operation β} {value : α} {between session : Session}
  {outcome : Except Stop β} {waits laterWaits fetches : ℕ}

theorem Gives.bind (first : (operation session).Gives value between waits)
    (later : (next value between).Ends outcome laterWaits fetches) :
    ((operation >>= next) session).Ends outcome (waits + laterWaits) fetches := by
  rw [← first.session] at later
  rw [bind_apply_of_ok first.ends.outcome]
  exact
    { outcome := later.outcome
      waits := by rw [List.countP_append, first.ends.waits, later.waits]
      fetches := by rw [List.countP_append, first.ends.fetches, later.fetches, Nat.zero_add] }

theorem Gives.trans {final : β} {after : Session}
    (first : (operation session).Gives value between waits)
    (later : (next value between).Gives final after laterWaits) :
    ((operation >>= next) session).Gives final after (waits + laterWaits) where
  ends := first.bind later.ends
  session := by
    rw [bind_apply_of_ok first.ends.outcome, first.session]
    exact later.session

theorem Ends.bind_error {reason : Stop}
    (first : (operation session).Ends (.error reason) waits fetches) :
    ((operation >>= next) session).Ends (.error reason) waits fetches := by
  rw [bind_apply_of_error first.outcome]
  exact ⟨rfl, first.waits, first.fetches⟩

end Execution

namespace Operation

/-- The session once the token is set, if it is to be set. -/
def tellingToken (session : Session) (sets : Bool) : Session :=
  session.withToken { session.token with isSet := session.token.isSet || sets }

theorem tellingToken_false (session : Session) : tellingToken session false = session := by
  unfold tellingToken
  rw [Bool.or_false]
  rfl

theorem setToken_gives (session : Session) :
    (setToken session).Gives () (tellingToken session true) 0 := by
  unfold setToken
  by_cases set : session.token.isSet = true
  · rw [if_pos set]
    refine ⟨⟨rfl, rfl, rfl⟩, ?_⟩
    unfold tellingToken
    rw [Bool.or_true, ← set]
    rfl
  · rw [if_neg set]
    refine ⟨⟨rfl, rfl, rfl⟩, ?_⟩
    unfold tellingToken
    rw [Bool.or_true]
    rfl

theorem nothing_gives (session : Session) :
    (⟨.ok (), [], session⟩ : Execution Unit).Gives () (tellingToken session false) 0 := by
  rw [tellingToken_false]
  exact ⟨⟨rfl, rfl, rfl⟩, rfl⟩

theorem cancellationArrives_gives (arrives : Bool) (session : Session) :
    (cancellationArrives arrives session).Gives ()
      (tellingToken session (arrives && session.token.shared)) 0 := by
  rw [cancellationArrives_apply]
  by_cases reaches : (arrives && session.token.shared) = true
  · rw [if_pos reaches, reaches]
    exact setToken_gives session
  · rw [if_neg reaches, Bool.eq_false_of_not_eq_true reaches]
    exact nothing_gives session

theorem taskCancellationMayArrive_gives (pending : Pending) (waits : ℕ) (session : Session) :
    (taskCancellationMayArrive pending waits session).Gives ()
      (tellingToken session
        (pending.behaviour.endless && waits == 1 && session.token.endsEndlessWait)) 0 := by
  rw [taskCancellationMayArrive_apply]
  by_cases arrives :
      (pending.behaviour.endless && waits == 1 && session.token.endsEndlessWait) = true
  · rw [if_pos arrives, arrives]
    have emitted : (emit .taskCancelled session).Gives () session 0 := ⟨⟨rfl, rfl, rfl⟩, rfl⟩
    have both : ((emit .taskCancelled >>= fun _ => setToken) session).Gives ()
        (tellingToken session true) (0 + 0) := emitted.trans (setToken_gives session)
    exact both
  · rw [if_neg arrives, Bool.eq_false_of_not_eq_true arrives]
    exact nothing_gives session

/-- What one more wait makes of the token. -/
theorem tellingToken_afterWaits (session : Session) (behaviour : Behaviour) (waits : ℕ) :
    tellingToken
        (tellingToken (session.afterWaits behaviour waits)
          (behaviour.endless && waits + 1 == 1 && session.token.endsEndlessWait))
        (behaviour.cancelsAtWait == some (waits + 1) && session.token.shared) =
      session.afterWaits behaviour (waits + 1) := by
  have sets :
      (session.token.isSetAfter behaviour waits ||
          (behaviour.endless && waits + 1 == 1 && session.token.endsEndlessWait) ||
          (behaviour.cancelsAtWait == some (waits + 1) && session.token.shared)) =
        session.token.isSetAfter behaviour (waits + 1) := by
    rw [Bool.eq_iff_iff, CancelToken.isSetAfter_iff, CancelToken.setAfter_le_succ_iff,
      ← CancelToken.isSetAfter_iff]
    simp only [Bool.or_eq_true, Bool.and_eq_true, beq_iff_eq]
    grind
  unfold Session.afterWaits CancelToken.afterWaits
  rw [← sets]
  rfl

/-- A wait up to the moment at which it can fail. -/
def waitThrough (pending : Pending) (waits : ℕ) : Operation Unit := do
  emit (.waited pending.request pending.behaviour.endless)
  taskCancellationMayArrive pending waits
  cancellationArrives (pending.behaviour.cancelsAtWait == some waits)

theorem waitOnce_eq (pending : Pending) (waits : ℕ) :
    waitOnce pending waits = waitThrough pending waits >>= fun _ =>
      raise pending.request (pending.behaviour.faultOfWait waits) := by
  unfold waitOnce waitThrough
  simp only [bind_assoc]

variable {pending : Pending} {session : Session} {waits : ℕ}

theorem waitThrough_gives :
    (waitThrough pending (waits + 1) (session.afterWaits pending.behaviour waits)).Gives ()
      (session.afterWaits pending.behaviour (waits + 1)) 1 := by
  let before := session.afterWaits pending.behaviour waits
  have emitted : (emit (.waited pending.request pending.behaviour.endless) before).Gives () before 1 :=
    ⟨⟨rfl, rfl, rfl⟩, rfl⟩
  have byTask := taskCancellationMayArrive_gives pending (waits + 1) before
  have byToken := cancellationArrives_gives (pending.behaviour.cancelsAtWait == some (waits + 1))
    (tellingToken before
      (pending.behaviour.endless && waits + 1 == 1 && session.token.endsEndlessWait))
  rw [← tellingToken_afterWaits]
  unfold waitThrough
  have arrivals : (waitThrough pending (waits + 1) before).Gives () _ (1 + (0 + 0)) :=
    emitted.trans (byTask.trans byToken)
  exact arrivals

theorem waitOnce_of_sound (sound : pending.behaviour.faultOfWait (waits + 1) = none) :
    (waitOnce pending (waits + 1) (session.afterWaits pending.behaviour waits)).Gives ()
      (session.afterWaits pending.behaviour (waits + 1)) 1 := by
  rw [waitOnce_eq, sound]
  exact waitThrough_gives.trans ⟨⟨rfl, rfl, rfl⟩, rfl⟩

theorem waitOnce_of_fault {fault : Fault}
    (faulty : pending.behaviour.faultOfWait (waits + 1) = some fault) :
    (waitOnce pending (waits + 1) (session.afterWaits pending.behaviour waits)).Ends
      (.error (.failed (.fault fault))) 1 0 := by
  rw [waitOnce_eq, faulty]
  exact waitThrough_gives.bind ⟨rfl, rfl, rfl⟩

/-! ## Looking and waiting in turn -/

theorem outcome_fetch (pending : Pending) (session other : Session) :
    (fetch pending session).outcome = (fetch pending other).outcome := by
  cases fault : pending.behaviour.resultFault with
  | none => rw [fetch_of_sound fault, fetch_of_sound fault]
  | some fault => rw [fetch_of_fault fault, fetch_of_fault fault]

theorem fetch_ends (pending : Pending) (session : Session) :
    (fetch pending session).Ends (fetch pending session).outcome 0 1 := by
  have arrives := (cancellationArrives_gives pending.behaviour.cancelsAtResult session).ends
  cases fault : pending.behaviour.resultFault with
  | none =>
      rw [fetch_of_sound fault]
      exact
        { outcome := rfl
          waits := by simp [arrives.waits, Event.isWait]
          fetches := by simp [List.countP_cons, arrives.fetches, Event.isFetch] }
  | some fault =>
      rw [fetch_of_fault fault]
      exact
        { outcome := rfl
          waits := by simp [arrives.waits, Event.isWait]
          fetches := by simp [List.countP_cons, arrives.fetches, Event.isFetch] }

section Looks

variable {looks : ℕ} {outcome : Except Stop Value} {fetches : ℕ}

theorem isSet_afterWaits : (session.afterWaits pending.behaviour waits).token.isSet = true ↔
    session.token.setAfter pending.behaviour ≤ waits :=
  CancelToken.isSetAfter_iff

theorem watch_of_done (done : pending.behaviour.doneAfter ≤ waits) :
    watch pending (looks + 1) waits session = fetch pending session := by
  unfold watch
  rw [if_pos (Behaviour.isDone_iff.2 done)]

/-- A look at which the operation is not done decides by the token. -/
theorem watch_of_undone (undone : ¬ pending.behaviour.doneAfter ≤ waits) :
    watch pending (looks + 1) waits session =
      if session.token.isSet then fail .cancelledWaiting session
      else (waitOnce pending (waits + 1) >>= fun _ => watch pending looks (waits + 1)) session := by
  rw [← Behaviour.isDone_iff] at undone
  conv_lhs => unfold watch
  rw [if_neg undone, isCancelled_bind]
  split <;> rfl

theorem not_le_of_succ_le {countdown : ℕ∞} (runs : (waits + 1 : ℕ) ≤ countdown) :
    ¬ countdown ≤ waits := by
  intro ended
  have impossible : waits + 1 ≤ waits := Nat.cast_le.1 (runs.trans ended)
  omega

/-- The wait goes on for as long as no countdown has run out. -/
theorem watch_of_undecided (done : waits ≤ pending.behaviour.doneAfter)
    (set : waits ≤ session.token.setAfter pending.behaviour)
    (sound : waits < pending.behaviour.failsAt) {laterWaits : ℕ}
    (later : (watch pending looks waits (session.afterWaits pending.behaviour waits)).Ends outcome
      laterWaits fetches) :
    (watch pending (waits + looks) 0 session).Ends outcome (waits + laterWaits) fetches := by
  induction waits generalizing looks laterWaits with
  | zero =>
      rw [Session.afterWaits, CancelToken.afterWaits_zero] at later
      rw [Nat.zero_add, Nat.zero_add]
      exact later
  | succ waits inductionHypothesis =>
      have undone := not_le_of_succ_le done
      have unset := not_le_of_succ_le set
      have soundBefore : waits < pending.behaviour.failsAt :=
        (Nat.cast_le.2 (Nat.le_succ waits)).trans_lt sound
      have waited : (waitOnce pending (waits + 1)
          (session.afterWaits pending.behaviour waits)).Gives () _ 1 :=
        waitOnce_of_sound (Behaviour.faultOfWait_eq_none_iff.2 sound)
      have look : (watch pending (looks + 1) waits (session.afterWaits pending.behaviour waits)).Ends
          outcome (1 + laterWaits) fetches := by
        rw [watch_of_undone undone, if_neg (by rw [isSet_afterWaits]; exact unset)]
        exact waited.bind later
      have whole := inductionHypothesis (le_of_not_ge undone) (le_of_not_ge unset) soundBefore look
      rw [Nat.add_right_comm, Nat.add_assoc waits 1 laterWaits]
      exact whole

/-! ### The countdown that runs out first -/

theorem watch_ends_done {after : ℕ} (done : pending.behaviour.doneAfter = after)
    (unset : after ≤ session.token.setAfter pending.behaviour)
    (sound : after < pending.behaviour.failsAt) (enough : pending.behaviour.looks ≤ looks) :
    (watch pending looks 0 session).Ends (fetch pending session).outcome after 1 := by
  have counted : after < pending.behaviour.looks := by
    apply Behaviour.lt_looks done.ge
    intro endless
    rw [endless] at done
    cases done
  obtain ⟨more, rfl⟩ := Nat.exists_eq_add_of_lt (counted.trans_le enough)
  have look : (watch pending (more + 1) after (session.afterWaits pending.behaviour after)).Ends
      (fetch pending session).outcome 0 1 := by
    rw [watch_of_done done.le,
      outcome_fetch pending session (session.afterWaits pending.behaviour after)]
    exact fetch_ends ..
  exact watch_of_undecided done.ge unset sound look

theorem watch_ends_cancelled {after : ℕ} (set : session.token.setAfter pending.behaviour = after)
    (undone : after < pending.behaviour.doneAfter) (sound : after < pending.behaviour.failsAt)
    (enough : pending.behaviour.looks ≤ looks) :
    (watch pending looks 0 session).Ends (.error (.failed .cancelledWaiting)) after 0 := by
  have counted : after < pending.behaviour.looks :=
    Behaviour.lt_looks undone.le fun _ => CancelToken.setAfter_le_eventfulWaits set
  obtain ⟨more, rfl⟩ := Nat.exists_eq_add_of_lt (counted.trans_le enough)
  have look : (watch pending (more + 1) after (session.afterWaits pending.behaviour after)).Ends
      (.error (.failed .cancelledWaiting)) 0 0 := by
    rw [watch_of_undone (not_le_of_gt undone), if_pos (isSet_afterWaits.2 set.le)]
    exact ⟨rfl, rfl, rfl⟩
  exact watch_of_undecided undone.le set.ge sound look

/-- The wait that fails is the last one. -/
theorem watch_ends_failed {wait : ℕ} (fails : pending.behaviour.failsAt = wait)
    (undone : wait ≤ pending.behaviour.doneAfter)
    (unset : wait ≤ session.token.setAfter pending.behaviour)
    (enough : pending.behaviour.looks ≤ looks) :
    ∃ fault, pending.behaviour.waitFault = some fault ∧
      (watch pending looks 0 session).Ends (.error (.failed (.fault fault))) wait 0 := by
  have counted : wait < pending.behaviour.looks :=
    Behaviour.lt_looks undone fun _ => Behaviour.failsAt_le_eventfulWaits fails
  obtain ⟨behind, fault, faulty, met⟩ := Behaviour.failing_of_failsAt fails
  subst behind
  -- The sound waits come first, then the look before the wait that fails.
  let before := pending.behaviour.soundWaits
  obtain ⟨more, rfl⟩ := Nat.exists_eq_add_of_le (counted.le.trans enough)
  have sound : before < pending.behaviour.failsAt := by
    rw [fails, Nat.cast_lt]
    exact Nat.lt_succ_self before
  have look : (watch pending (more + 1) before (session.afterWaits pending.behaviour before)).Ends
      (.error (.failed (.fault fault))) 1 0 := by
    rw [watch_of_undone (not_le_of_succ_le undone),
      if_neg (by rw [isSet_afterWaits]; exact not_le_of_succ_le unset)]
    exact (waitOnce_of_fault met).bind_error
  have whole := watch_of_undecided (le_of_not_ge (not_le_of_succ_le undone))
    (le_of_not_ge (not_le_of_succ_le unset)) sound look
  rw [Nat.add_assoc, Nat.add_comm 1 more]
  exact ⟨fault, faulty, whole⟩

theorem watch_hangs (looks : ℕ) (undone : pending.behaviour.doneAfter = ⊤)
    (unset : session.token.setAfter pending.behaviour = ⊤) (sound : pending.behaviour.failsAt = ⊤) :
    (watch pending looks 0 session).Ends (.error .hung) looks 0 := by
  have nothingLeft : (watch pending 0 looks (session.afterWaits pending.behaviour looks)).Ends
      (.error .hung) 0 0 := ⟨rfl, rfl, rfl⟩
  refine watch_of_undecided ?_ ?_ ?_ nothingLeft
  · rw [undone]
    exact le_top
  · rw [unset]
    exact le_top
  · rw [sound]
    exact ENat.natCast_lt_top looks

end Looks

theorem fetch_ne_hung (pending : Pending) (session : Session) :
    (fetch pending session).outcome ≠ .error .hung := by
  cases fault : pending.behaviour.resultFault with
  | none => simp [fetch_of_sound fault]
  | some fault => simp [fetch_of_fault fault]

/-- Unless all of three countdowns are infinite, one of them runs out first. -/
theorem runs_out_first (done set fails : ℕ∞) :
    (∃ after : ℕ, done = after ∧ after ≤ set ∧ after < fails) ∨
      (∃ after : ℕ, set = after ∧ after < done ∧ after < fails) ∨
      (∃ wait : ℕ, fails = wait ∧ wait ≤ done ∧ wait ≤ set) ∨
      done = ⊤ ∧ set = ⊤ ∧ fails = ⊤ := by
  by_cases failing : fails ≤ done ∧ fails ≤ set
  · by_cases never : fails = ⊤
    · rw [never, top_le_iff, top_le_iff] at failing
      exact Or.inr (Or.inr (Or.inr ⟨failing.1, failing.2, never⟩))
    · obtain ⟨wait, rfl⟩ := ENat.ne_top_iff_exists.1 never
      exact Or.inr (Or.inr (Or.inl ⟨wait, rfl, failing⟩))
  · by_cases early : done ≤ set
    · have sound : done < fails := lt_of_not_ge fun fails => failing ⟨fails, fails.trans early⟩
      obtain ⟨after, rfl⟩ := ENat.ne_top_iff_exists.1 (ne_top_of_lt sound)
      exact Or.inl ⟨after, rfl, early, sound⟩
    · have undone : set < done := lt_of_not_ge early
      have sound : set < fails :=
        lt_of_not_ge fun fails => failing ⟨fails.trans undone.le, fails⟩
      obtain ⟨after, rfl⟩ := ENat.ne_top_iff_exists.1 (ne_top_of_lt sound)
      exact Or.inr (Or.inl ⟨after, rfl, undone, sound⟩)

/-- A watched wait ends as the countdown says that runs out first. A token that is set earlier than
the operation is done, and before a wait fails, ends it after just as many waits, and nothing is
fetched. An operation that is done no later than the token is set ends it after just as many waits
with one fetched result, which an unwatched wait fetches at once. A wait that fails before either has
happened is the last one, and its fault is raised as it is. The wait goes on forever exactly when
nothing of this ever happens, and looking more often than `looks` says makes no difference. -/
theorem watched_wait (pending : Pending) (session : Session) :
    let wait := await true pending session
    let unwatched := await false pending session
    let done := pending.behaviour.doneAfter
    let set := session.token.setAfter pending.behaviour
    let fails := pending.behaviour.failsAt
    (∀ after : ℕ, set = after → after < done → after < fails →
      wait.Ends (.error (.failed .cancelledWaiting)) after 0) ∧
    (∀ after : ℕ, done = after → after ≤ set → after < fails → wait.Ends unwatched.outcome after 1) ∧
    unwatched.Ends unwatched.outcome 0 1 ∧
    (∀ last : ℕ, fails = last → last ≤ done → last ≤ set → ∃ fault,
      pending.behaviour.waitFault = some fault ∧
        wait.Ends (.error (.failed (.fault fault))) last 0) ∧
    (wait.outcome = .error .hung ↔ done = ⊤ ∧ set = ⊤ ∧ fails = ⊤) ∧
    (set = ⊤ → fails = ⊤ → wait.outcome ≠ .error .hung → wait.outcome = unwatched.outcome) ∧
    ∀ looks, pending.behaviour.looks ≤ looks →
      (watch pending looks 0 session).outcome = wait.outcome := by
  have first := runs_out_first pending.behaviour.doneAfter (session.token.setAfter pending.behaviour)
    pending.behaviour.failsAt
  refine ⟨?cancelled, ?fetched, fetch_ends pending session, ?failed, ?never, ?alike, ?looks⟩
  case cancelled =>
    intro after set undone sound
    exact watch_ends_cancelled set undone sound le_rfl
  case fetched =>
    intro after done unset sound
    exact watch_ends_done done unset sound le_rfl
  case failed =>
    intro last fails undone unset
    exact watch_ends_failed fails undone unset le_rfl
  case never =>
    constructor
    · intro hangs
      rcases first with ⟨_, done, unset, sound⟩ | ⟨_, set, undone, sound⟩ |
        ⟨_, fails, undone, unset⟩ | never
      · have ends := (watch_ends_done done unset sound le_rfl).outcome
        exact absurd (ends.symm.trans hangs) (fetch_ne_hung pending session)
      · have ends := (watch_ends_cancelled set undone sound le_rfl).outcome
        cases ends.symm.trans hangs
      · obtain ⟨_, _, ends⟩ := watch_ends_failed fails undone unset le_rfl
        cases ends.outcome.symm.trans hangs
      · exact never
    · intro never
      exact (watch_hangs _ never.1 never.2.1 never.2.2).outcome
  case alike =>
    intro unset sound ends
    rcases first with ⟨_, done, early, passes⟩ | ⟨_, set, _⟩ | ⟨_, fails, _⟩ | never
    · exact (watch_ends_done done early passes le_rfl).outcome
    · cases unset.symm.trans set
    · cases sound.symm.trans fails
    · exact absurd (watch_hangs _ never.1 never.2.1 never.2.2).outcome ends
  case looks =>
    intro looks enough
    rcases first with ⟨_, done, unset, sound⟩ | ⟨_, set, undone, sound⟩ |
      ⟨_, fails, undone, unset⟩ | never
    · have ends := (watch_ends_done done unset sound le_rfl).outcome
      exact (watch_ends_done done unset sound enough).outcome.trans ends.symm
    · have ends := (watch_ends_cancelled set undone sound le_rfl).outcome
      exact (watch_ends_cancelled set undone sound enough).outcome.trans ends.symm
    · obtain ⟨fault, faulty, ends⟩ := watch_ends_failed fails undone unset le_rfl
      obtain ⟨other, same, more⟩ := watch_ends_failed fails undone unset enough
      cases faulty.symm.trans same
      exact more.outcome.trans ends.outcome.symm
    · have ends := (watch_hangs pending.behaviour.looks never.1 never.2.1 never.2.2).outcome
      exact (watch_hangs looks never.1 never.2.1 never.2.2).outcome.trans ends.symm

end Operation

end RunnerCloud
