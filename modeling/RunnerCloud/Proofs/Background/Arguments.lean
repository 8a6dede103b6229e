import Mathlib.Data.List.Nodup
import RunnerCloud.Background.Variant

/-!
Contract: what a method gets of the arguments of a call, and what it gets through its variant.

Owns:
- `Parameter.Takes` and `Binds`, the rules by which parameters take the arguments of a call;
- `OpensTo`, for a keyword that a parameter waits for, and where a keyword goes: to that parameter, or
  among the further keywords (`Binds.keyword`);
- `Bound.completed`, what a method gets that is called with the same arguments, and with a fresh token
  if it takes one and none was given;
- `passes_iff`: a variant gives its method just that, exactly if the method takes no token, or the
  token can be handed on by keyword.

Does not own: which method a variant runs.
-/

namespace RunnerCloud.Background

variable {V : Type}

/-! ## Taking arguments -/

namespace Parameter

/-- The parameter waits for a keyword. -/
def IsOpen (parameter : Parameter) (values : List V) : Prop :=
  parameter.kind = .keyword ∨ parameter.kind = .ordinary ∧ values = []

/-- What is left by position behind the parameter. -/
def left (parameter : Parameter) (values : List V) : List V :=
  match parameter.kind with
  | .positional | .ordinary => values.tail
  | .remaining => []
  | .keyword | .further => values

/-- What a parameter may take, and what it leaves. -/
inductive Takes (parameter : Parameter) :
    List V → Keywords V → Passed V → List V → Keywords V → Prop
  | byPosition {value : V} {rest : List V} {keywords : Keywords V}
      (able : parameter.kind = .positional ∨
        parameter.kind = .ordinary ∧ keywords.get? parameter.name = none) :
      Takes parameter (value :: rest) keywords (.given value) rest keywords
  | byKeyword {value : V} {values : List V} {keywords : Keywords V}
      (isOpen : parameter.IsOpen values) (found : keywords.get? parameter.name = some value) :
      Takes parameter values keywords (.given value) values (keywords.erase parameter.name)
  | leftOut {values : List V} {keywords : Keywords V} (optional : parameter.optional = true)
      (ungiven : parameter.kind = .positional ∧ values = [] ∨
        parameter.IsOpen values ∧ keywords.get? parameter.name = none) :
      Takes parameter values keywords .leftOut values keywords
  | remaining {values : List V} {keywords : Keywords V} (takesAll : parameter.kind = .remaining) :
      Takes parameter values keywords (.remaining values) [] keywords
  | further {values : List V} {keywords : Keywords V} (takesAll : parameter.kind = .further) :
      Takes parameter values keywords (.further keywords) values []

variable {parameter : Parameter} {values valuesLeft : List V} {keywords keywordsLeft : Keywords V}
  {passed : Passed V} {name : String} {value : V}

theorem of_leftOut?
    (leaves : parameter.leftOut? values keywords = some (passed, valuesLeft, keywordsLeft)) :
    parameter.optional = true ∧ .leftOut = passed ∧ values = valuesLeft ∧
      keywords = keywordsLeft := by
  unfold leftOut? at leaves
  split at leaves <;> simp_all

theorem take?_eq_some_iff :
    parameter.take? values keywords = some (passed, valuesLeft, keywordsLeft) ↔
      parameter.Takes values keywords passed valuesLeft keywordsLeft := by
  constructor
  · intro takes
    unfold take? at takes
    split at takes <;> rename_i kind
    · cases values with
      | nil =>
          obtain ⟨optional, rfl, rfl, rfl⟩ := of_leftOut? takes
          exact .leftOut optional (Or.inl ⟨kind, rfl⟩)
      | cons first rest =>
          cases takes
          exact .byPosition (Or.inl kind)
    · cases values with
      | nil =>
          cases found : keywords.get? parameter.name with
          | none =>
              rw [found] at takes
              obtain ⟨optional, rfl, rfl, rfl⟩ := of_leftOut? takes
              exact .leftOut optional (Or.inr ⟨Or.inr ⟨kind, rfl⟩, found⟩)
          | some given =>
              rw [found] at takes
              cases takes
              exact .byKeyword (Or.inr ⟨kind, rfl⟩) found
      | cons first rest =>
          cases found : keywords.get? parameter.name with
          | none =>
              rw [found] at takes
              cases takes
              exact .byPosition (Or.inr ⟨kind, found⟩)
          | some given =>
              rw [found] at takes
              cases takes
    · cases takes
      exact .remaining kind
    · cases found : keywords.get? parameter.name with
      | none =>
          rw [found] at takes
          obtain ⟨optional, rfl, rfl, rfl⟩ := of_leftOut? takes
          exact .leftOut optional (Or.inr ⟨Or.inl kind, found⟩)
      | some given =>
          rw [found] at takes
          cases takes
          exact .byKeyword (Or.inl kind) found
    · cases takes
      exact .further kind
  · intro takes
    cases takes with
    | byPosition able =>
        rcases able with kind | ⟨kind, absent⟩ <;> simp_all [take?]
    | byKeyword isOpen found =>
        rcases isOpen with kind | ⟨kind, rfl⟩ <;> simp_all [take?]
    | leftOut optional ungiven =>
        rcases ungiven with ⟨kind, rfl⟩ | ⟨kind | ⟨kind, rfl⟩, absent⟩ <;>
          simp_all [take?, leftOut?]
    | remaining takesAll => simp [take?, takesAll]
    | further takesAll => simp [take?, takesAll]

namespace Takes

variable (takes : parameter.Takes values keywords passed valuesLeft keywordsLeft)

include takes

theorem left_eq : valuesLeft = parameter.left values := by
  cases takes with
  | byPosition able => rcases able with kind | ⟨kind, -⟩ <;> simp [left, kind]
  | byKeyword isOpen found => rcases isOpen with kind | ⟨kind, rfl⟩ <;> simp [left, kind]
  | leftOut optional ungiven =>
      rcases ungiven with ⟨kind, rfl⟩ | ⟨kind | ⟨kind, rfl⟩, -⟩ <;> simp [left, kind]
  | remaining takesAll => simp [left, takesAll]
  | further takesAll => simp [left, takesAll]

/-- A parameter gives no keywords. -/
theorem get?_of_left (found : keywordsLeft.get? name = some value) :
    keywords.get? name = some value := by
  cases takes with
  | byKeyword isOpen given =>
      by_cases same : name = parameter.name
      · subst same
        rw [Keywords.get?_erase, if_pos rfl] at found
        cases found
      · rwa [Keywords.get?_erase, if_neg same] at found
  | further takesAll => cases found
  | _ => exact found

theorem given_of_isOpen (isOpen : parameter.IsOpen values)
    (found : keywords.get? parameter.name = some value) : passed = .given value := by
  cases takes with
  | byPosition able => simp_all [IsOpen]
  | byKeyword alsoOpen given => rw [Option.some.inj (given.symm.trans found)]
  | leftOut optional ungiven => simp_all [IsOpen]
  | remaining takesAll => simp [IsOpen, takesAll] at isOpen
  | further takesAll => simp [IsOpen, takesAll] at isOpen

theorem further_of_kind (takesAll : parameter.kind = .further) : passed = .further keywords := by
  cases takes with
  | further kind => rfl
  | _ => simp_all [IsOpen]

/-- A keyword is left alone by a parameter that does not wait for it. -/
theorem get?_left (isNotLast : parameter.kind ≠ .further)
    (notAwaited : ¬ (parameter.IsOpen values ∧ parameter.name = name)) :
    keywordsLeft.get? name = keywords.get? name := by
  cases takes with
  | byKeyword isOpen given =>
      rw [Keywords.get?_erase, if_neg fun same => notAwaited ⟨isOpen, same.symm⟩]
  | further takesAll => exact absurd takesAll isNotLast
  | _ => rfl

/-- A keyword more, for which the parameter does not wait. -/
theorem set_other (isNotLast : parameter.kind ≠ .further) (other : parameter.name ≠ name)
    (value : V) :
    parameter.Takes values (keywords.set name value) passed valuesLeft
      (keywordsLeft.set name value) := by
  have same : ∀ keywords : Keywords V,
      (keywords.set name value).get? parameter.name = keywords.get? parameter.name :=
    fun keywords => by rw [Keywords.get?_set, if_neg other]
  cases takes with
  | byPosition able => exact .byPosition (by rwa [same])
  | byKeyword isOpen found =>
      have erased : (keywords.set name value).erase parameter.name =
          (keywords.erase parameter.name).set name value := by
        rw [Keywords.erase_set, if_neg other]
      exact erased ▸ .byKeyword isOpen (by rwa [same])
  | leftOut optional ungiven => exact .leftOut optional (by rwa [same])
  | remaining takesAll => exact .remaining takesAll
  | further takesAll => exact absurd takesAll isNotLast

/-- The keyword for which the parameter waits. -/
theorem set_self (isOpen : parameter.IsOpen values) (value : V) :
    parameter.Takes values (keywords.set parameter.name value) (.given value) valuesLeft
      keywordsLeft := by
  have byKeyword : parameter.Takes values (keywords.set parameter.name value) (.given value) values
      (keywords.erase parameter.name) := by
    have erased : (keywords.set parameter.name value).erase parameter.name =
        keywords.erase parameter.name := by
      rw [Keywords.erase_set, if_pos rfl]
    exact erased ▸ .byKeyword isOpen (Keywords.get?_set_self keywords parameter.name value)
  cases takes with
  | byPosition able => simp_all [IsOpen]
  | byKeyword alsoOpen found => exact byKeyword
  | leftOut optional ungiven =>
      have absent : keywords.get? parameter.name = none := by
        rcases ungiven with ⟨kind, -⟩ | ⟨-, absent⟩
        · simp [IsOpen, kind] at isOpen
        · exact absent
      rwa [Keywords.erase_of_get?_eq_none absent] at byKeyword
  | remaining takesAll => simp [IsOpen, takesAll] at isOpen
  | further takesAll => simp [IsOpen, takesAll] at isOpen

end Takes

end Parameter

/-- What parameters may get of arguments. -/
inductive Binds : List Parameter → List V → Keywords V → Bound V → Prop
  | nil : Binds [] [] [] []
  | cons {parameter : Parameter} {rest : List Parameter} {values valuesLeft : List V}
      {keywords keywordsLeft : Keywords V} {passed : Passed V} {bound : Bound V}
      (takes : parameter.Takes values keywords passed valuesLeft keywordsLeft)
      (binds : Binds rest valuesLeft keywordsLeft bound) :
      Binds (parameter :: rest) values keywords ((parameter.name, passed) :: bound)

theorem bindFrom?_eq_some_iff {parameters : List Parameter} {values : List V}
    {keywords : Keywords V} {bound : Bound V} :
    bindFrom? parameters values keywords = some bound ↔ Binds parameters values keywords bound := by
  constructor
  · intro binds
    induction parameters generalizing values keywords bound with
    | nil =>
        cases values <;> cases keywords <;> simp [bindFrom?] at binds
        subst binds
        exact .nil
    | cons parameter rest inductionHypothesis =>
        unfold bindFrom? at binds
        split at binds
        · cases binds
        · rename_i passed valuesLeft keywordsLeft takes
          obtain ⟨others, bindsRest, rfl⟩ := Option.map_eq_some_iff.1 binds
          exact .cons (Parameter.take?_eq_some_iff.1 takes) (inductionHypothesis bindsRest)
  · intro binds
    induction binds with
    | nil => rfl
    | cons takes binds inductionHypothesis =>
        simp [bindFrom?, Parameter.take?_eq_some_iff.2 takes, inductionHypothesis]

/-! ## Where a keyword goes -/

/-- The parameters are written in the order of their kinds. -/
abbrev Ordered (parameters : List Parameter) : Prop :=
  parameters.Pairwise fun earlier later => earlier.kind.rank ≤ later.kind.rank

/-- A parameter of the name waits for a keyword: it takes nothing by position, or there are too few
arguments by position for it. -/
def OpensTo (name : String) (parameters : List Parameter) (values : List V) : Prop :=
  ∃ index parameter, parameters[index]? = some parameter ∧ parameter.name = name ∧
    (parameter.kind = .keyword ∨ parameter.kind = .ordinary ∧ values.length ≤ index)

theorem opensTo_nil {name : String} {values : List V} : ¬ OpensTo name [] values := by
  rintro ⟨index, parameter, found, -⟩
  simp at found

/-- In front of a parameter that may be given by position stand only such parameters. -/
theorem left_eq_tail {parameter : Parameter} (early : parameter.kind.rank ≤ 1) (values : List V) :
    parameter.left values = values.tail := by
  cases kind : parameter.kind <;> simp_all [Parameter.left, ParameterKind.rank]

theorem opensTo_cons {name : String} {parameter : Parameter} {rest : List Parameter}
    {values : List V} (ordered : Ordered (parameter :: rest)) :
    OpensTo name (parameter :: rest) values ↔
      parameter.IsOpen values ∧ parameter.name = name ∨
        parameter.kind ≠ .further ∧ OpensTo name rest (parameter.left values) := by
  have earlier := (List.pairwise_cons.1 ordered).1
  constructor
  · rintro ⟨index, found, atIndex, rfl, opens⟩
    cases index with
    | zero =>
        cases atIndex
        refine Or.inl ⟨opens.imp_right fun ordinary => ?_, rfl⟩
        exact ⟨ordinary.1, List.length_eq_zero_iff.1 (Nat.le_zero.1 ordinary.2)⟩
    | succ index =>
        have behind := earlier found (List.mem_of_getElem? atIndex)
        rcases opens with kind | ⟨kind, few⟩
        · refine Or.inr ⟨?_, index, found, atIndex, rfl, Or.inl kind⟩
          rintro last
          simp [last, kind, ParameterKind.rank] at behind
        · have early : parameter.kind.rank ≤ 1 := by simpa [kind, ParameterKind.rank] using behind
          refine Or.inr ⟨?_, index, found, atIndex, rfl, Or.inr ⟨kind, ?_⟩⟩
          · rintro last
            simp [last, ParameterKind.rank] at early
          · rw [left_eq_tail early, List.length_tail]
            omega
  · rintro (⟨isOpen, rfl⟩ | ⟨-, index, found, atIndex, rfl, opens⟩)
    · refine ⟨0, parameter, rfl, rfl, isOpen.imp_right fun ordinary => ⟨ordinary.1, ?_⟩⟩
      simp [ordinary.2]
    · refine ⟨index + 1, found, atIndex, rfl, opens.imp_right fun ordinary => ⟨ordinary.1, ?_⟩⟩
      have behind := earlier found (List.mem_of_getElem? atIndex)
      have early : parameter.kind.rank ≤ 1 := by
        simpa [ordinary.1, ParameterKind.rank] using behind
      have few := ordinary.2
      rw [left_eq_tail early, List.length_tail] at few
      omega

theorem mem_names_of_opensTo {name : String} {parameters : List Parameter} {values : List V}
    (opens : OpensTo name parameters values) : name ∈ parameters.map Parameter.name := by
  obtain ⟨index, parameter, found, rfl, -⟩ := opens
  exact List.mem_map_of_mem (List.mem_of_getElem? found)

/-- The value in place of what a parameter of the name gets. -/
def Bound.fill (bound : Bound V) (name : String) (value : V) : Bound V :=
  bound.map fun entry => if entry.1 = name then (name, .given value) else entry

namespace Bound

theorem fill_cons_self (bound : Bound V) (name : String) (passed : Passed V) (value : V) :
    fill ((name, passed) :: bound) name value = (name, .given value) :: bound.fill name value := by
  simp [fill]

theorem fill_cons_of_ne {name other : String} (differs : other ≠ name) (bound : Bound V)
    (passed : Passed V) (value : V) :
    fill ((other, passed) :: bound) name value = (other, passed) :: bound.fill name value := by
  simp [fill, differs]

theorem fill_of_not_mem {bound : Bound V} {name : String} (other : name ∉ bound.map Prod.fst)
    (value : V) : bound.fill name value = bound := by
  refine (List.map_congr_left fun entry member => ?_).trans (List.map_id bound)
  have differs : entry.1 ≠ name := by
    rintro rfl
    exact other (List.mem_map_of_mem member)
  exact if_neg differs

end Bound

namespace Binds

variable {parameters : List Parameter} {values : List V} {keywords : Keywords V} {bound : Bound V}
  {name : String} {value : V}

theorem names_eq (binds : Binds parameters values keywords bound) :
    bound.map Prod.fst = parameters.map Parameter.name := by
  induction binds with
  | nil => rfl
  | cons takes binds inductionHypothesis => simp [inductionHypothesis]

/-- Further keywords are keywords of the call. -/
theorem get?_of_further (binds : Binds parameters values keywords bound) {other : String}
    {further : Keywords V} (member : (other, .further further) ∈ bound)
    (found : further.get? name = some value) : keywords.get? name = some value := by
  induction binds with
  | nil => cases member
  | cons takes binds inductionHypothesis =>
      rcases List.mem_cons.1 member with isHead | inRest
      · cases isHead
        cases takes
        exact found
      · exact takes.get?_of_left (inductionHypothesis inRest)

/-- A keyword goes to the parameter that waits for it, or it is among the further keywords. -/
theorem keyword (binds : Binds parameters values keywords bound) (ordered : Ordered parameters)
    (found : keywords.get? name = some value) :
    OpensTo name parameters values ∧ (name, .given value) ∈ bound ∨
      ∃ other further, (other, .further further) ∈ bound ∧ further.get? name = some value := by
  induction binds with
  | nil => cases found
  | @cons parameter rest values valuesLeft keywords keywordsLeft passed bound takes binds
      inductionHypothesis =>
      by_cases isLast : parameter.kind = .further
      · rw [takes.further_of_kind isLast]
        exact Or.inr ⟨parameter.name, keywords, List.mem_cons_self, found⟩
      by_cases awaited : parameter.IsOpen values ∧ parameter.name = name
      · obtain ⟨isOpen, rfl⟩ := awaited
        rw [takes.given_of_isOpen isOpen found]
        exact Or.inl ⟨(opensTo_cons ordered).2 (Or.inl ⟨isOpen, rfl⟩), List.mem_cons_self⟩
      · rw [← takes.get?_left isLast awaited] at found
        rcases inductionHypothesis (List.pairwise_cons.1 ordered).2 found with
          ⟨opens, member⟩ | ⟨other, further, member, inside⟩
        · rw [takes.left_eq] at opens
          exact Or.inl ⟨(opensTo_cons ordered).2 (Or.inr ⟨isLast, opens⟩),
            List.mem_cons_of_mem _ member⟩
        · exact Or.inr ⟨other, further, List.mem_cons_of_mem _ member, inside⟩

/-- What a parameter gets for which a keyword is awaited is that keyword, or nothing. -/
theorem get?_of_given (binds : Binds parameters values keywords bound)
    (ordered : Ordered parameters) (distinct : (parameters.map Parameter.name).Nodup)
    (opens : OpensTo name parameters values) (member : (name, .given value) ∈ bound) :
    keywords.get? name = some value := by
  induction binds with
  | nil => cases member
  | @cons parameter rest values valuesLeft keywords keywordsLeft passed bound takes binds
      inductionHypothesis =>
      obtain ⟨notRepeated, distinctRest⟩ := List.nodup_cons.1 distinct
      rcases (opensTo_cons ordered).1 opens with ⟨isOpen, rfl⟩ | ⟨-, opensRest⟩
      · rcases List.mem_cons.1 member with isHead | inRest
        · cases isHead
          cases takes with
          | byPosition able => simp_all [Parameter.IsOpen]
          | byKeyword alsoOpen found => exact found
        · rw [← binds.names_eq] at notRepeated
          exact absurd (List.mem_map_of_mem inRest) notRepeated
      · have other : parameter.name ≠ name := by
          rintro rfl
          exact notRepeated (mem_names_of_opensTo opensRest)
        have inRest : (name, .given value) ∈ bound := by
          rcases List.mem_cons.1 member with isHead | inRest
          · cases isHead
            exact absurd rfl other
          · exact inRest
        rw [← takes.left_eq] at opensRest
        exact takes.get?_of_left
          (inductionHypothesis (List.pairwise_cons.1 ordered).2 distinctRest opensRest inRest)

/-- A keyword more, for which a parameter waits, goes to that parameter and changes nothing else. -/
theorem set (binds : Binds parameters values keywords bound) (ordered : Ordered parameters)
    (distinct : (parameters.map Parameter.name).Nodup) (opens : OpensTo name parameters values)
    (value : V) : Binds parameters values (keywords.set name value) (bound.fill name value) := by
  induction binds with
  | nil => exact absurd opens opensTo_nil
  | @cons parameter rest values valuesLeft keywords keywordsLeft passed bound takes binds
      inductionHypothesis =>
      obtain ⟨notRepeated, distinctRest⟩ := List.nodup_cons.1 distinct
      rcases (opensTo_cons ordered).1 opens with ⟨isOpen, rfl⟩ | ⟨isNotLast, opensRest⟩
      · rw [← binds.names_eq] at notRepeated
        rw [Bound.fill_cons_self, Bound.fill_of_not_mem notRepeated]
        exact .cons (takes.set_self isOpen value) binds
      · have other : parameter.name ≠ name := by
          rintro rfl
          exact notRepeated (mem_names_of_opensTo opensRest)
        rw [← takes.left_eq] at opensRest
        rw [Bound.fill_cons_of_ne other]
        exact .cons (takes.set_other isNotLast other value)
          (inductionHypothesis (List.pairwise_cons.1 ordered).2 distinctRest opensRest)

/-- A parameter that may be given by position and by keyword is not given in both ways. -/
theorem opensTo_of_ordinary (binds : Binds parameters values keywords bound)
    (ordered : Ordered parameters) (distinct : (parameters.map Parameter.name).Nodup)
    {parameter : Parameter} (member : parameter ∈ parameters) (ordinary : parameter.kind = .ordinary)
    (found : keywords.get? parameter.name = some value) :
    OpensTo parameter.name parameters values := by
  induction binds with
  | nil => cases member
  | @cons first rest values valuesLeft keywords keywordsLeft passed bound takes binds
      inductionHypothesis =>
      obtain ⟨notRepeated, distinctRest⟩ := List.nodup_cons.1 distinct
      obtain ⟨earlier, orderedRest⟩ := List.pairwise_cons.1 ordered
      refine (opensTo_cons ordered).2 ?_
      rcases List.mem_cons.1 member with rfl | inRest
      · refine Or.inl ⟨?_, rfl⟩
        cases takes with
        | byPosition able => simp_all
        | byKeyword isOpen given => exact isOpen
        | leftOut optional ungiven => simp_all
        | remaining takesAll => simp_all
        | further takesAll => simp_all
      · have isNotLast : first.kind ≠ .further := by
          rintro last
          have before := earlier parameter inRest
          simp [last, ordinary, ParameterKind.rank] at before
        have other : first.name ≠ parameter.name := by
          intro same
          exact notRepeated (same ▸ List.mem_map_of_mem inRest)
        rw [← takes.get?_left isNotLast fun awaited => other awaited.2] at found
        rw [← takes.left_eq]
        exact Or.inr ⟨isNotLast, inductionHypothesis orderedRest distinctRest inRest found⟩

end Binds

theorem Signature.bind?_eq_some_iff {signature : Signature} {arguments : Arguments V}
    {bound : Bound V} :
    signature.bind? arguments = some bound ↔
      Binds signature.parameters arguments.positional arguments.keywords bound :=
  bindFrom?_eq_some_iff

/-! ## Tokens -/

section Tokens

variable {counts : V → Bool} {fresh value : V} {signature : Signature} {arguments : Arguments V}
  {bound : Bound V}

/-- A token is among the arguments by keyword. -/
def Arguments.GivesToken (counts : V → Bool) (arguments : Arguments V) : Prop :=
  ∃ value, arguments.keywords.get? tokenName = some value ∧ counts value = true

/-- What a parameter gets has a token under the token's name. -/
def Passed.holdsToken (counts : V → Bool) (name : String) : Passed V → Bool
  | .given value => name == tokenName && counts value
  | .further keywords => (keywords.get? tokenName).any counts
  | _ => false

/-- A token is among the arguments, by position or by keyword. -/
def Bound.hasToken (counts : V → Bool) (bound : Bound V) : Bool :=
  bound.any fun entry => entry.2.holdsToken counts entry.1

/-- The arguments with a fresh token for the parameter that takes one, if none is among them. -/
def Bound.completed (counts : V → Bool) (fresh : V) (bound : Bound V) : Bound V :=
  if bound.hasToken counts then bound else bound.fill tokenName fresh

/-- The token can be handed on by keyword: it is given so, or the parameter for it waits for it. The
keyword `fn` cannot be handed on with it. -/
def Signature.HandsOn (signature : Signature) (counts : V → Bool) (arguments : Arguments V) : Prop :=
  arguments.keywords.get? "fn" = none ∧
    (arguments.GivesToken counts ∨ OpensTo tokenName signature.parameters arguments.positional)

theorem Bound.hasToken_iff :
    bound.hasToken counts = true ↔
      (∃ value, (tokenName, .given value) ∈ bound ∧ counts value = true) ∨
        ∃ name further value, (name, .further further) ∈ bound ∧
          Keywords.get? further tokenName = some value ∧ counts value = true := by
  simp only [hasToken, List.any_eq_true]
  constructor
  · rintro ⟨⟨name, passed⟩, member, holds⟩
    cases passed with
    | given value =>
        simp only [Passed.holdsToken, Bool.and_eq_true, beq_iff_eq] at holds
        obtain ⟨rfl, isToken⟩ := holds
        exact Or.inl ⟨value, member, isToken⟩
    | further keywords =>
        obtain ⟨value, found, isToken⟩ := (Option.any_eq_true _ _).1 holds
        exact Or.inr ⟨name, keywords, value, member, found, isToken⟩
    | leftOut => cases holds
    | remaining values => cases holds
  · rintro (⟨value, member, isToken⟩ | ⟨name, further, value, member, found, isToken⟩)
    · exact ⟨_, member, by simp [Passed.holdsToken, isToken]⟩
    · exact ⟨_, member, by simp [Passed.holdsToken, found, isToken]⟩

theorem Arguments.withToken_of_givesToken (gives : arguments.GivesToken counts) :
    arguments.withToken counts fresh = arguments := by
  obtain ⟨value, found, isToken⟩ := gives
  have held : (arguments.keywords.get? tokenName).filter counts = some value := by
    rw [found, Option.filter_some, if_pos isToken]
  rw [withToken, held, Option.getD_some, Keywords.set_of_get?_eq_some found]

theorem Arguments.withToken_of_not_givesToken (gives : ¬ arguments.GivesToken counts) :
    arguments.withToken counts fresh =
      { arguments with keywords := arguments.keywords.set tokenName fresh } := by
  have none_ : (arguments.keywords.get? tokenName).filter counts = none := by
    rw [Option.filter_eq_none_iff]
    exact fun value found isToken => gives ⟨value, found, isToken⟩
  simp [withToken, none_]

theorem Arguments.get?_withToken (counts : V → Bool) (fresh : V) (arguments : Arguments V) :
    ∃ value, (arguments.withToken counts fresh).keywords.get? tokenName = some value :=
  ⟨_, Keywords.get?_set_self _ _ _⟩

theorem Bound.mem_of_mem_completed {name : String} {further : Keywords V}
    (member : (name, .further further) ∈ bound.completed counts fresh) :
    (name, .further further) ∈ bound := by
  unfold completed at member
  split at member
  · exact member
  · obtain ⟨entry, isEntry, same⟩ := List.mem_map.1 member
    split at same
    · cases same
    · exact same ▸ isEntry

namespace Signature

theorem not_mem_names (takesNone : ¬ signature.takes tokenName = true) :
    tokenName ∉ signature.parameters.map Parameter.name := by
  simpa [takes] using takesNone

theorem completed_of_not_takes (accepts : signature.bind? arguments = some bound)
    (takesNone : ¬ signature.takes tokenName = true) : bound.completed counts fresh = bound := by
  unfold Bound.completed
  split
  · rfl
  · refine Bound.fill_of_not_mem ?_ fresh
    rw [(bind?_eq_some_iff.1 accepts).names_eq]
    exact not_mem_names takesNone

theorem hasToken_of_givesToken (accepts : signature.bind? arguments = some bound)
    (gives : arguments.GivesToken counts) : bound.hasToken counts = true := by
  obtain ⟨value, found, isToken⟩ := gives
  refine Bound.hasToken_iff.2 ?_
  rcases (bind?_eq_some_iff.1 accepts).keyword signature.ordered found with
    ⟨-, member⟩ | ⟨name, further, member, inside⟩
  · exact Or.inl ⟨value, member, isToken⟩
  · exact Or.inr ⟨name, further, value, member, inside, isToken⟩

theorem givesToken_of_hasToken (accepts : signature.bind? arguments = some bound)
    (opens : OpensTo tokenName signature.parameters arguments.positional)
    (has : bound.hasToken counts = true) : arguments.GivesToken counts := by
  have binds := bind?_eq_some_iff.1 accepts
  rcases Bound.hasToken_iff.1 has with
    ⟨value, member, isToken⟩ | ⟨name, further, value, member, found, isToken⟩
  · exact ⟨value, binds.get?_of_given signature.ordered signature.distinct opens member, isToken⟩
  · exact ⟨value, binds.get?_of_further member found, isToken⟩

/-- What the method of a variant gets, if the token can be handed on. -/
theorem passes_of_handsOn (accepts : signature.bind? arguments = some bound)
    (hands : signature.takes tokenName = true → signature.HandsOn counts arguments) :
    (signature.handedOn? counts fresh arguments).bind signature.bind? =
      some (bound.completed counts fresh) := by
  by_cases takes : signature.takes tokenName = true
  · obtain ⟨unreserved, reaches⟩ := hands takes
    have handed : signature.handedOn? counts fresh arguments =
        some (arguments.withToken counts fresh) := by
      simp [handedOn?, takes, unreserved]
    rw [handed, Option.bind_some]
    by_cases gives : arguments.GivesToken counts
    · rw [Arguments.withToken_of_givesToken gives, accepts, Bound.completed,
        if_pos (hasToken_of_givesToken accepts gives)]
    · have opens := reaches.resolve_left gives
      have lacks : ¬ bound.hasToken counts = true := fun has =>
        gives (givesToken_of_hasToken accepts opens has)
      rw [Arguments.withToken_of_not_givesToken gives, Bound.completed, if_neg lacks]
      exact bind?_eq_some_iff.2 ((bind?_eq_some_iff.1 accepts).set signature.ordered
        signature.distinct opens fresh)
  · rw [handedOn?, if_neg takes, Option.bind_some, accepts, completed_of_not_takes accepts takes]

/-- A token that can be handed on by no keyword is not handed on. -/
theorem handsOn_of_passes (isToken : counts fresh = true)
    (accepts : signature.bind? arguments = some bound) (takes : signature.takes tokenName = true)
    (passes : (signature.handedOn? counts fresh arguments).bind signature.bind? =
      some (bound.completed counts fresh)) : signature.HandsOn counts arguments := by
  obtain ⟨handed, handedOn, passes⟩ := Option.bind_eq_some_iff.1 passes
  rw [handedOn?, if_pos takes] at handedOn
  split at handedOn
  · cases handedOn
  · rename_i unreserved
    obtain rfl := Option.some.inj handedOn
    refine ⟨by simpa using unreserved, ?_⟩
    by_contra unreachable
    rw [not_or] at unreachable
    rw [Arguments.withToken_of_not_givesToken unreachable.1] at passes
    -- The fresh token would be among the further keywords, where only keywords of the call are.
    rcases (bind?_eq_some_iff.1 passes).keyword signature.ordered
        (Keywords.get?_set_self arguments.keywords tokenName fresh) with
      ⟨opens, -⟩ | ⟨name, further, member, found⟩
    · exact unreachable.2 opens
    · have given := (bind?_eq_some_iff.1 accepts).get?_of_further
        (Bound.mem_of_mem_completed member) found
      exact unreachable.1 ⟨fresh, given, isToken⟩

theorem passes_iff (isToken : counts fresh = true)
    (accepts : signature.bind? arguments = some bound) :
    (signature.handedOn? counts fresh arguments).bind signature.bind? =
        some (bound.completed counts fresh) ↔
      (signature.takes tokenName = true → signature.HandsOn counts arguments) :=
  ⟨fun passes takes => handsOn_of_passes isToken accepts takes passes, passes_of_handsOn accepts⟩

/-- A token that is given by position, though it may be given by keyword, is refused. -/
theorem refuses_of_positional {parameter : Parameter} (member : parameter ∈ signature.parameters)
    (named : parameter.name = tokenName) (ordinary : parameter.kind = .ordinary)
    (given : ¬ OpensTo tokenName signature.parameters arguments.positional) :
    (signature.handedOn? counts fresh arguments).bind signature.bind? = none := by
  by_contra passes
  obtain ⟨bound, passes⟩ := Option.ne_none_iff_exists'.1 passes
  obtain ⟨handed, handedOn, binds⟩ := Option.bind_eq_some_iff.1 passes
  have takes : signature.takes tokenName = true :=
    List.any_eq_true.2 ⟨parameter, member, by simp [named]⟩
  rw [handedOn?, if_pos takes] at handedOn
  split at handedOn
  · cases handedOn
  · obtain rfl := Option.some.inj handedOn
    obtain ⟨value, found⟩ := arguments.get?_withToken counts fresh
    rw [← named] at found given
    exact given ((bind?_eq_some_iff.1 binds).opensTo_of_ordinary signature.ordered
      signature.distinct member ordinary found)

end Signature

end Tokens

end RunnerCloud.Background
