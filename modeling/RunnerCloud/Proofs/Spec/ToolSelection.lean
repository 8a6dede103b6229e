import RunnerCloud.Proofs.Provision.Course
import RunnerCloud.Spec.Tools

/-!
Contract: which tools archive a request gets.

Owns:
- `ToolArchive.Fits`, for the archives that are meant for the platform of a request, and
  `ToolArchive.Usable`, for those of them that can be downloaded;
- `tools_selected_iff`: a request gets the first usable archive of its list, wherever that stands,
  exactly unless the list is `Obstructed`: the first archive for the platform is not complete;
- `usable_archive_missed`, a request that has a usable archive and gets none.

Does not own: what an archive is downloaded for.
-/

namespace RunnerCloud

variable {α : Type}

/-! ## The first item with a property -/

/-- The first item of a list that has the property. -/
def IsFirst (Holds : α → Prop) (items : List α) (item : α) : Prop :=
  ∃ before after, items = before ++ item :: after ∧ Holds item ∧
    ∀ earlier ∈ before, ¬ Holds earlier

theorem find?_eq_some_iff_isFirst {test : α → Bool} {Holds : α → Prop}
    (decides : ∀ item, test item = true ↔ Holds item) {items : List α} {item : α} :
    items.find? test = some item ↔ IsFirst Holds items item := by
  rw [List.find?_eq_some_iff_append]
  constructor
  · rintro ⟨passes, before, after, split, fails⟩
    refine ⟨before, after, split, (decides item).1 passes, fun earlier member holds => ?_⟩
    simpa [(decides earlier).2 holds] using fails earlier member
  · rintro ⟨before, after, split, holds, fails⟩
    refine ⟨(decides item).2 holds, before, after, split, fun earlier member => ?_⟩
    have failing : ¬ test earlier = true := fun passes =>
      fails earlier member ((decides earlier).1 passes)
    simpa using failing

theorem IsFirst.mem {Holds : α → Prop} {items : List α} {item : α}
    (first : IsFirst Holds items item) : item ∈ items := by
  obtain ⟨before, after, rfl, -, -⟩ := first
  simp

theorem IsFirst.holds {Holds : α → Prop} {items : List α} {item : α}
    (first : IsFirst Holds items item) : Holds item := by
  obtain ⟨_, _, _, holds, _⟩ := first
  exact holds

/-- A property that holds of some item holds of a first one. -/
theorem exists_isFirst {Holds : α → Prop} {items : List α} {item : α} (member : item ∈ items)
    (holds : Holds item) : ∃ first, IsFirst Holds items first := by
  classical
  have found : (items.find? fun candidate => decide (Holds candidate)).isSome = true :=
    List.find?_isSome.2 ⟨item, member, by simpa using holds⟩
  obtain ⟨first, finds⟩ := Option.isSome_iff_exists.1 found
  exact ⟨first, (find?_eq_some_iff_isFirst (by simp)).1 finds⟩

theorem IsFirst.unique {Holds : α → Prop} {items : List α} {first second : α}
    (isFirst : IsFirst Holds items first) (isSecond : IsFirst Holds items second) :
    first = second := by
  classical
  have decides : ∀ item, decide (Holds item) = true ↔ Holds item := by simp
  have finds := (find?_eq_some_iff_isFirst decides).2 isFirst
  rw [(find?_eq_some_iff_isFirst decides).2 isSecond] at finds
  exact (Option.some.inj finds).symm

/-- The first item with a property is the first one with each stronger property that it has. -/
theorem IsFirst.strengthen {Weak Strong : α → Prop} {items : List α} {item : α}
    (first : IsFirst Weak items item) (implies : ∀ candidate, Strong candidate → Weak candidate)
    (holds : Strong item) : IsFirst Strong items item := by
  obtain ⟨before, after, split, -, fails⟩ := first
  exact ⟨before, after, split, holds, fun earlier member strong =>
    fails earlier member (implies earlier strong)⟩

/-! ## Archives -/

namespace ToolArchive

/-- An archive for the operating system and the architecture of the request. -/
def Fits (bootstrap : Bootstrap) (archive : ToolArchive) : Prop :=
  archive.os = some bootstrap.osType.text ∧ archive.architecture = some bootstrap.arch.toolName

/-- An archive for the platform of the request that has a URL and a file name. -/
def Usable (bootstrap : Bootstrap) (archive : ToolArchive) : Prop :=
  archive.Fits bootstrap ∧
    ∃ url filename, archive.downloadUrl = some url ∧ url ≠ "" ∧
      archive.filename = some filename ∧ filename ≠ ""

theorem suits_iff {bootstrap : Bootstrap} {archive : ToolArchive} :
    archive.suits bootstrap = true ↔ archive.Fits bootstrap := by
  unfold suits Fits
  simp

theorem usable_iff {bootstrap : Bootstrap} {archive : ToolArchive} :
    archive.Usable bootstrap ↔ archive.Fits bootstrap ∧ archive.isComplete = true :=
  and_congr_right fun _ => isComplete_iff.symm

end ToolArchive

namespace Bootstrap

variable {bootstrap : Bootstrap} {archive : ToolArchive}

/-- The first archive for the platform of the request lacks its URL or its file name. -/
def Obstructed (bootstrap : Bootstrap) : Prop :=
  ∃ blocking, IsFirst (ToolArchive.Fits bootstrap) bootstrap.tools blocking ∧
    ¬ blocking.Usable bootstrap

/-! ## Selection -/

/-- The first archive for the platform decides. -/
theorem selectTools_eq_ok_iff :
    bootstrap.selectTools = .ok archive ↔
      IsFirst (ToolArchive.Fits bootstrap) bootstrap.tools archive ∧
        archive.isComplete = true := by
  rw [← find?_eq_some_iff_isFirst fun _ => ToolArchive.suits_iff]
  unfold selectTools
  cases bootstrap.tools.find? (·.suits bootstrap) with
  | none => simp
  | some found =>
      by_cases complete : found.isComplete = true
      · simp only [complete, if_true, Except.ok.injEq, Option.some.injEq]
        exact ⟨fun same => ⟨same, same ▸ complete⟩, And.left⟩
      · simp only [complete, if_false, reduceCtorEq, Option.some.injEq, false_iff, not_and]
        rintro rfl
        exact complete

theorem selectTools_eq_error {problem : SpecProblem}
    (fails : bootstrap.selectTools = .error problem) :
    problem = .noTools bootstrap.osType bootstrap.arch := by
  unfold selectTools at fails
  split at fails
  · split at fails
    · cases fails
    · exact (Except.error.inj fails).symm
  · exact (Except.error.inj fails).symm

theorem selectTools_eq_ok_iff_usable :
    bootstrap.selectTools = .ok archive ↔
      IsFirst (ToolArchive.Usable bootstrap) bootstrap.tools archive ∧ ¬ bootstrap.Obstructed := by
  rw [selectTools_eq_ok_iff]
  constructor
  · rintro ⟨first, complete⟩
    have usable := ToolArchive.usable_iff.2 ⟨first.holds, complete⟩
    refine ⟨first.strengthen (fun _ => And.left) usable, ?_⟩
    rintro ⟨blocking, isFirst, unusable⟩
    rw [isFirst.unique first] at unusable
    exact unusable usable
  · rintro ⟨firstUsable, unobstructed⟩
    obtain ⟨first, isFirst⟩ := exists_isFirst firstUsable.mem firstUsable.holds.1
    have usable : first.Usable bootstrap :=
      Classical.byContradiction fun unusable => unobstructed ⟨first, isFirst, unusable⟩
    have usableFirst : IsFirst (ToolArchive.Usable bootstrap) bootstrap.tools first :=
      isFirst.strengthen (fun _ => And.left) usable
    rw [firstUsable.unique usableFirst]
    exact ⟨isFirst, (ToolArchive.usable_iff.1 usable).2⟩

/-- A request gets the first usable archive of its list, unless the list is obstructed. It gets none
exactly if the list is obstructed or has no usable archive. -/
theorem tools_selected_iff (bootstrap : Bootstrap) :
    (∀ archive, bootstrap.selectTools = .ok archive ↔
      IsFirst (ToolArchive.Usable bootstrap) bootstrap.tools archive ∧ ¬ bootstrap.Obstructed) ∧
    ∀ problem, bootstrap.selectTools = .error problem ↔
      problem = .noTools bootstrap.osType bootstrap.arch ∧
        (bootstrap.Obstructed ∨ ∀ archive ∈ bootstrap.tools, ¬ archive.Usable bootstrap) := by
  refine ⟨fun archive => selectTools_eq_ok_iff_usable, fun problem => ?_⟩
  cases selects : bootstrap.selectTools with
  | ok archive =>
      obtain ⟨first, unobstructed⟩ := selectTools_eq_ok_iff_usable.1 selects
      simp only [reduceCtorEq, false_iff, not_and, not_or]
      exact fun _ => ⟨unobstructed, fun none => none archive first.mem first.holds⟩
  | error found =>
      rw [selectTools_eq_error selects, Except.error.injEq, eq_comm]
      refine (and_iff_left ?_).symm
      refine Classical.or_iff_not_imp_left.2 fun unobstructed archive member usable => ?_
      obtain ⟨first, isFirst⟩ := exists_isFirst member usable
      rw [selectTools_eq_ok_iff_usable.2 ⟨isFirst, unobstructed⟩] at selects
      cases selects

open Provision in
/-- A request with two archives for its platform, of which the first has no URL. -/
def obstructedBootstrap : Bootstrap :=
  { sampleBootstrap with
    tools := [
      ⟨some "linux", some "x64", none, some "runner.tar.gz", none, none⟩,
      ⟨some "linux", some "x64", some "https://example.com/runner.tar.gz", some "runner.tar.gz",
        none, none⟩] }

/-- The request gets none of its archives; it gets the usable one if that stands first. -/
theorem usable_archive_missed :
    (∃ archive ∈ obstructedBootstrap.tools, archive.Usable obstructedBootstrap) ∧
      obstructedBootstrap.selectTools = .error (.noTools .linux .amd64) ∧
      ∃ archive, { obstructedBootstrap with
        tools := obstructedBootstrap.tools.reverse }.selectTools = .ok archive := by
  refine ⟨?_, rfl, Provision.exists_of_isSome (by decide +kernel)⟩
  refine ⟨_, List.mem_cons_of_mem _ List.mem_cons_self, ⟨rfl, rfl⟩, _, _, rfl, ?_, rfl, ?_⟩
  · decide
  · decide

end Bootstrap

end RunnerCloud
