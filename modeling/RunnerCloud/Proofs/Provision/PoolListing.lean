import Mathlib.Data.List.Forall2
import RunnerCloud.Proofs.Cloud.MachineViews

/-!
Contract: what the listing of a pool gives, and when it gives nothing.

Owns:
- `viewsOf_ok_iff` and `viewsOf_error_iff`: items have views one by one, or the first item without a
  view is to blame;
- `outcome_listPool`, the outcome of a listing by what stops it and the items that it keeps;
- `pool_listing`: a listing gives the views of exactly the items of its pool, in their order, or it
  fails and gives none, and items of other pools make no difference if their tags can be looked into;
- `foreign_machine_stops_listing`, an item of no pool whose tags cannot.

Does not own: what the view of a record says.
-/

namespace RunnerCloud.Provision

/-! ## The views of records -/

section Views

variable {item : Value} {items : List Value} {failure : Failure}

/-- The view of an item. -/
def IsViewOf (item : Value) (view : RunnerInstance) : Prop :=
  RunnerInstance.ofMachine (MachineRecord.ofValue? item) = .ok view

/-- Why an item has no view. -/
def RefusedFor (item : Value) (failure : Failure) : Prop :=
  RunnerInstance.ofMachine (MachineRecord.ofValue? item) = .error failure

theorem viewsOf_cons_ok_iff {views : List RunnerInstance} :
    viewsOf (item :: items) = .ok views ↔
      ∃ view rest, IsViewOf item view ∧ viewsOf items = .ok rest ∧ views = view :: rest := by
  unfold viewsOf IsViewOf
  rw [List.mapM_cons]
  cases RunnerInstance.ofMachine (MachineRecord.ofValue? item) with
  | error refusal => simp [Bind.bind, Except.bind]
  | ok view =>
      cases items.mapM fun machine => RunnerInstance.ofMachine (MachineRecord.ofValue? machine) <;>
        simp [Bind.bind, Except.bind, pure, Except.pure, eq_comm]

theorem viewsOf_cons_error_iff :
    viewsOf (item :: items) = .error failure ↔
      RefusedFor item failure ∨ HasView item ∧ viewsOf items = .error failure := by
  unfold viewsOf RefusedFor HasView
  rw [List.mapM_cons]
  cases RunnerInstance.ofMachine (MachineRecord.ofValue? item) with
  | error refusal => simp [Bind.bind, Except.bind]
  | ok view =>
      cases items.mapM fun machine => RunnerInstance.ofMachine (MachineRecord.ofValue? machine) <;>
        simp [Bind.bind, Except.bind, pure, Except.pure]

/-- Items have views when each of them has one. -/
theorem viewsOf_ok_iff {views : List RunnerInstance} :
    viewsOf items = .ok views ↔ List.Forall₂ IsViewOf items views := by
  induction items generalizing views with
  | nil => simp [viewsOf, pure, Except.pure, eq_comm]
  | cons first rest inductionHypothesis =>
      rw [viewsOf_cons_ok_iff, List.forall₂_cons_left_iff]
      simp only [inductionHypothesis]

/-- The first item without a view says why there are none. -/
theorem viewsOf_error_iff :
    viewsOf items = .error failure ↔ ∃ before item after, items = before ++ item :: after ∧
      (∀ earlier ∈ before, HasView earlier) ∧ RefusedFor item failure := by
  induction items with
  | nil => simp [viewsOf, pure, Except.pure]
  | cons first rest inductionHypothesis =>
      rw [viewsOf_cons_error_iff, inductionHypothesis]
      constructor
      · rintro (refuses | ⟨viewed, before, item, after, rfl, earlierViewed, refuses⟩)
        · exact ⟨[], first, rest, rfl, by simp, refuses⟩
        · exact ⟨first :: before, item, after, rfl,
            List.forall_mem_cons.2 ⟨viewed, earlierViewed⟩, refuses⟩
      · rintro ⟨before, item, after, split, earlierViewed, refuses⟩
        cases before with
        | nil =>
            cases split
            exact Or.inl refuses
        | cons head before =>
            cases split
            obtain ⟨viewed, earlierViewed⟩ := List.forall_mem_cons.1 earlierViewed
            exact Or.inr ⟨viewed, before, item, after, rfl, earlierViewed, refuses⟩

end Views

/-! ## The items of a pool -/

theorem exists_views_iff (items : List Value) :
    (∃ views, List.Forall₂ IsViewOf items views) ↔ ∀ item ∈ items, HasView item := by
  induction items with
  | nil => simp
  | cons item rest inductionHypothesis =>
      rw [List.forall_mem_cons, ← inductionHypothesis]
      simp only [List.forall₂_cons_left_iff]
      constructor
      · rintro ⟨_, view, views, viewed, restViewed, rfl⟩
        exact ⟨⟨view, viewed⟩, views, restViewed⟩
      · rintro ⟨⟨view, viewed⟩, views, restViewed⟩
        exact ⟨view :: views, view, views, viewed, restViewed, rfl⟩

theorem not_hasView_null : ¬ HasView .null := by
  rintro ⟨view, viewed⟩
  cases viewed

section Items

variable (poolId : Text)

/-- Where no item is missing, the kept items are those with the tag. -/
theorem filter_isKept {items : List Value} (present : .null ∉ items) :
    items.filter (isKept poolId) = items.filter (isTagged poolId) := by
  refine List.filter_congr fun item member => ?_
  cases item with
  | null => exact absurd member present
  | _ => rfl

/-- The views of what is kept are those of the items with the tag, if no item is missing. -/
theorem viewsOf_kept_iff {items : List Value} {views : List RunnerInstance} :
    viewsOf (items.filter (isKept poolId)) = .ok views ↔
      .null ∉ items ∧ List.Forall₂ IsViewOf (items.filter (isTagged poolId)) views := by
  rw [viewsOf_ok_iff]
  by_cases missing : .null ∈ items
  · refine iff_of_false (fun viewed => ?_) (fun present => present.1 missing)
    have kept : .null ∈ items.filter (isKept poolId) := List.mem_filter.2 ⟨missing, rfl⟩
    exact not_hasView_null ((exists_views_iff _).1 ⟨views, viewed⟩ .null kept)
  · rw [filter_isKept poolId missing]
    exact (and_iff_right missing).symm

end Items

/-! ## Listings -/

open Operation

/-- What stops a listing before it ends: its call fails, or the tags of an item cannot be looked into,
or else it fails behind the last item. -/
def listingFailure? (poolId : Text) (behaviour : Behaviour) : Option Failure :=
  match behaviour.fault, behaviour.items.findSome? tagMisuse?, behaviour.itemsFault with
  | some fault, _, _ => some (Cloud.reported (.listMachines poolId) (.fault fault))
  | none, some misuse, _ => some (.misused misuse)
  | none, none, some fault => some (Cloud.reported (.listMachines poolId) (.fault fault))
  | none, none, none => none

section Listings

variable {poolId : Text} {session : Session}

theorem outcome_listMachines (poolId : Text) (session : Session) :
    (Cloud.listMachines poolId session).outcome =
      match listingFailure? poolId (session.script.next .listMachines) with
      | some failure => .error (.failed failure)
      | none => .ok ((session.script.next .listMachines).items.filter (isKept poolId)) := by
  unfold Cloud.listMachines
  rw [guarded_apply]
  unfold listingFailure?
  cases refused : (session.script.next .listMachines).fault with
  | some fault =>
      have stops : (list .listMachines session).outcome = .error (.failed (.fault fault)) := by
        have met : call .listMachines session = _ := call_of_fault refused
        unfold list
        rw [bind_apply_of_error (by rw [met])]
      rw [bind_apply_of_error stops]
      rfl
  | none =>
      have listed : (list .listMachines session).outcome =
          .ok ⟨(session.script.next .listMachines).items,
            (session.script.next .listMachines).itemsFault⟩ := outcome_list_of_sound _ refused
      rw [bind_apply_of_ok listed]
      show (Execution.renamed _ ⟨((ofExcept .misused (Cloud.listedFor poolId _) >>= _) _).outcome,
        _, _⟩).outcome = _
      rw [listedFor_eq]
      cases (session.script.next .listMachines).items.findSome? tagMisuse? with
      | some misuse => rfl
      | none => cases (session.script.next .listMachines).itemsFault <;> rfl

/-- What stops a listing takes precedence over items that have no view. -/
theorem outcome_listPool (poolId : Text) (session : Session) :
    (listPool poolId session).outcome =
      match listingFailure? poolId (session.script.next .listMachines) with
      | some failure => .error (.failed failure)
      | none => (viewsOf ((session.script.next .listMachines).items.filter
          (isKept poolId))).mapError .failed := by
  have listed := outcome_listMachines poolId session
  unfold listPool
  cases stopped : listingFailure? poolId (session.script.next .listMachines) with
  | some failure =>
      rw [stopped] at listed
      rw [bind_apply_of_error listed]
  | none =>
      rw [stopped] at listed
      rw [bind_apply_of_ok listed]
      exact outcome_ofExcept _ _ _

theorem listPool_ok_iff {runners : List RunnerInstance} :
    (listPool poolId session).outcome = .ok runners ↔
      listingFailure? poolId (session.script.next .listMachines) = none ∧
        viewsOf ((session.script.next .listMachines).items.filter (isKept poolId)) =
          .ok runners := by
  rw [outcome_listPool]
  cases listingFailure? poolId (session.script.next .listMachines) with
  | some failure => simp
  | none => simp [mapError_eq_ok_iff]

theorem listPool_error_iff {reason : Stop}
    (sound : listingFailure? poolId (session.script.next .listMachines) = none) :
    (listPool poolId session).outcome = .error reason ↔ ∃ failure,
      viewsOf ((session.script.next .listMachines).items.filter (isKept poolId)) =
          .error failure ∧ reason = .failed failure := by
  rw [outcome_listPool, sound]
  cases viewsOf ((session.script.next .listMachines).items.filter (isKept poolId)) <;>
    simp [eq_comm]

end Listings

/-- The items can be looked through for tags: each of them is missing, or it is a record whose tags
are a document, or not given. -/
def Browsable (items : List Value) : Prop :=
  ∀ item ∈ items, tagMisuse? item = none

theorem listingFailure?_eq_none_iff {poolId : Text} {behaviour : Behaviour} :
    listingFailure? poolId behaviour = none ↔
      behaviour.fault = none ∧ Browsable behaviour.items ∧ behaviour.itemsFault = none := by
  unfold listingFailure? Browsable
  rw [← List.findSome?_eq_none_iff]
  cases behaviour.fault <;> cases behaviour.items.findSome? tagMisuse? <;>
    cases behaviour.itemsFault <;> simp

/-- The listing of a pool gives views exactly when the listing meets no fault, its items can be
looked through for tags, no item is missing, and the items with the tag of the pool have views; it
gives the views of these items, one for each and in their order. Otherwise it gives nothing and fails:
first for a fault of its call, then for the first item whose tags cannot be looked into, whatever its
pool is, then for the fault behind the last item, and then for the first item that is missing or that
has the tag and no view. Among items that can be looked through, those that are there and do not have
the tag make no difference to any of this. -/
theorem pool_listing (poolId : Text) (session : Session) :
    let listed := session.script.next .listMachines
    let outcome := (listPool poolId session).outcome
    let sound := listed.fault = none ∧ Browsable listed.items ∧ listed.itemsFault = none
    (∀ runners, outcome = .ok runners ↔ sound ∧ .null ∉ listed.items ∧
      List.Forall₂ IsViewOf (listed.items.filter (isTagged poolId)) runners) ∧
    ((∃ runners, outcome = .ok runners) ↔ sound ∧ .null ∉ listed.items ∧
      ∀ item ∈ listed.items, isTagged poolId item = true → HasView item) ∧
    (∀ fault, listed.fault = some fault →
      outcome = .error (.failed (Cloud.reported (.listMachines poolId) (.fault fault)))) ∧
    (listed.fault = none → ∀ before item after misuse, listed.items = before ++ item :: after →
      Browsable before → tagMisuse? item = some misuse →
        outcome = .error (.failed (.misused misuse))) ∧
    (listed.fault = none → Browsable listed.items → ∀ fault, listed.itemsFault = some fault →
      outcome = .error (.failed (Cloud.reported (.listMachines poolId) (.fault fault)))) ∧
    (sound → ∀ reason, outcome = .error reason ↔
      ∃ before item after failure,
        listed.items.filter (isKept poolId) = before ++ item :: after ∧
        (∀ earlier ∈ before, HasView earlier) ∧ RefusedFor item failure ∧
        reason = .failed failure) ∧
    ∀ other : Session, Browsable listed.items →
      Browsable (other.script.next .listMachines).items →
      (other.script.next .listMachines).fault = listed.fault →
      (other.script.next .listMachines).itemsFault = listed.itemsFault →
      (other.script.next .listMachines).items.filter (isKept poolId) =
        listed.items.filter (isKept poolId) →
      (listPool poolId other).outcome = outcome := by
  dsimp only
  refine ⟨?views, ?existence, ?call, ?misuse, ?ending, ?refusal, ?others⟩
  case views =>
    intro runners
    rw [listPool_ok_iff, viewsOf_kept_iff, listingFailure?_eq_none_iff]
  case existence =>
    simp only [listPool_ok_iff, viewsOf_kept_iff, listingFailure?_eq_none_iff, exists_and_left,
      exists_views_iff, List.mem_filter, and_imp]
  case call =>
    intro fault faulty
    rw [outcome_listPool, listingFailure?, faulty]
  case misuse =>
    intro sound before item after misuse split browsable misused
    have first : (session.script.next .listMachines).items.findSome? tagMisuse? = some misuse := by
      have none : before.findSome? tagMisuse? = none := List.findSome?_eq_none_iff.2 browsable
      rw [split, List.findSome?_append, none, List.findSome?_cons, misused]
      rfl
    rw [outcome_listPool, listingFailure?, sound, first]
  case ending =>
    intro sound browsable fault faulty
    rw [outcome_listPool, listingFailure?, sound, List.findSome?_eq_none_iff.2 browsable, faulty]
  case refusal =>
    intro sound reason
    rw [listPool_error_iff (listingFailure?_eq_none_iff.2 sound)]
    simp only [viewsOf_error_iff]
    constructor
    · rintro ⟨failure, ⟨before, item, after, kept, viewed, refuses⟩, rfl⟩
      exact ⟨before, item, after, failure, kept, viewed, refuses, rfl⟩
    · rintro ⟨before, item, after, failure, kept, viewed, refuses, rfl⟩
      exact ⟨failure, ⟨before, item, after, kept, viewed, refuses⟩, rfl⟩
  case others =>
    intro other browsable browsableToo sameFault sameEnding sameKept
    rw [outcome_listPool, outcome_listPool, sameKept]
    unfold listingFailure?
    rw [sameFault, sameEnding, List.findSome?_eq_none_iff.2 browsable,
      List.findSome?_eq_none_iff.2 browsableToo]

/-- A cloud with one VM, which belongs to no pool, and whose tags are a list. -/
def listedTags : CloudScript := fun method =>
  if method = .listMachines then [{ items := [.dict [
      ("name", .text "foreign"), ("tags", .list [.text "x"])]] }]
  else []

/-- A VM of no pool makes a difference to the listing of a pool, which fails for it with no complaint
about a record. -/
theorem foreign_machine_stops_listing :
    (listPool "pool-1" (sampleSession CloudScript.accepting)).outcome = .ok [] ∧
      (listPool "pool-1" (sampleSession listedTags)).outcome =
        .error (.failed (.misused (.noAttribute "list" "get"))) := by
  decide +kernel

end RunnerCloud.Provision
