import RunnerCloud.Proofs.Background.Arguments
import RunnerCloud.Proofs.Background.AwaitedCall
import RunnerCloud.Proofs.Background.Inheritance

/-!
Contract: awaiting the background variant of a method, against calling the method.

Owns:
- `variant_runs_method_iff`: the variant of a method calls that method once, with the arguments it is
  awaited with and a fresh token if none is among them, and gives what the method gives, exactly if
  the method overrides none that has a variant, and takes no token or one that can be handed on by
  keyword;
- `overriding_method_not_run`, a class whose variant runs the method that the class has overridden, and
  `positional_token_refused`, a token that a method takes and its variant does not hand on.

Does not own: cancellations.
-/

namespace RunnerCloud.Background

variable {V : Type} {counts : V → Bool} {fresh : V} {callee : Callee} {signature : Signature}
  {arguments : Arguments V} {call : Call V} {bound : Bound V}

theorem Callee.call?_eq_some_iff (blocks : callee.member.kind = .blocking signature) :
    callee.call? counts fresh arguments = some call ↔
      ∃ bound, (signature.handedOn? counts fresh arguments).bind signature.bind? = some bound ∧
        call = ⟨callee, bound⟩ := by
  have takes : callee.member.signature? = some signature := by
    simp [Member.signature?, blocks]
  simp only [call?, takes, Option.bind_eq_bind, Option.bind_some, Option.bind_eq_some_iff,
    Option.pure_def, Option.some.injEq]
  constructor
  · rintro ⟨handed, handedOn, bound, binds, rfl⟩
    exact ⟨bound, ⟨handed, handedOn, binds⟩, rfl⟩
  · rintro ⟨bound, ⟨handed, handedOn, binds⟩, rfl⟩
    exact ⟨handed, handedOn, bound, binds, rfl⟩

theorem Callee.callee_of_call? (calls : callee.call? counts fresh arguments = some call) :
    call.callee = callee := by
  simp only [call?, Option.bind_eq_bind, Option.bind_eq_some_iff, Option.pure_def,
    Option.some.injEq] at calls
  obtain ⟨_, _, _, _, _, _, rfl⟩ := calls
  rfl

/-- A method that takes its token by position as well as by keyword does not get it by position from
its variant. -/
theorem Callee.call?_of_positional (blocks : callee.member.kind = .blocking signature)
    {parameter : Parameter} (member : parameter ∈ signature.parameters)
    (named : parameter.name = tokenName) (ordinary : parameter.kind = .ordinary)
    (given : ¬ OpensTo tokenName signature.parameters arguments.positional) :
    callee.call? counts fresh arguments = none := by
  refine Option.eq_none_iff_forall_ne_some.2 fun call calls => ?_
  obtain ⟨bound, passes, -⟩ := (call?_eq_some_iff blocks).1 calls
  rw [Signature.refuses_of_positional member named ordinary given] at passes
  cases passes

/-- Take a public blocking method `name` that an instance of a class has from a class that derives
from the mixin, in classes none of which writes a member of the variant's name, and arguments that
the method accepts. The variant exists, and it is awaited as if the method was called, exactly if the
method overrides none that is offered, and its token, if it takes one, can be handed on by keyword.
The method that the variant runs otherwise is an older one of that name. -/
theorem variant_runs_method_iff {table : ClassTable} (made : table.IsMade) {position : Nat}
    {name : String} {method : Callee} {definer : MadeClass}
    (has : table.reached? position name = some (.own method))
    (isPublic : method.member.isPublic = true) (blocks : method.member.kind = .blocking signature)
    (written : table[method.level]? = some definer) (derives : definer.derives = true)
    (free : table.LeavesFree (variantOf name)) (isToken : counts fresh = true)
    (accepts : signature.bind? arguments = some bound) :
    ∃ variant, table.reached? position (variantOf name) = some (.variant variant) ∧
      variant.member.name = name ∧ ¬ table.Overrides variant ∧
      (Makes (variant.call? counts fresh arguments) ⟨method, bound.completed counts fresh⟩ ↔
        ¬ table.Overrides method ∧
          (signature.takes tokenName = true → signature.HandsOn counts arguments)) := by
  have offered : method.member.isOffered = true := by
    simp [Member.isOffered, isPublic, Member.isBlocking, Member.signature?, blocks]
  obtain ⟨variant, reaches, named, original, isMethod⟩ :=
    made.lawful.reached?_variantOf free has offered written derives
  refine ⟨variant, reaches, named, original, ?_⟩
  rw [makes_iff]
  constructor
  · intro calls
    obtain rfl : method = variant := Callee.callee_of_call? calls
    obtain ⟨passed, passes, same⟩ := (Callee.call?_eq_some_iff blocks).1 calls
    cases same
    exact ⟨original, (Signature.passes_iff isToken accepts).1 passes⟩
  · rintro ⟨overridesNone, hands⟩
    obtain rfl := isMethod.2 overridesNone
    exact (Callee.call?_eq_some_iff blocks).2
      ⟨_, (Signature.passes_iff isToken accepts).2 hands, rfl⟩

/-! ## Sample classes -/

/-- An empty text is no token. -/
def countsAsToken (text : String) : Bool :=
  text != ""

def creationSignature : Signature :=
  ⟨[.instance, ⟨"bootstrap", .ordinary, false⟩, ⟨tokenName, .ordinary, true⟩], by decide, by decide⟩

/-- A method that takes the request for a runner, and a token. -/
def createInstance : Member :=
  ⟨"create_instance", .blocking creationSignature⟩

def startSignature : Signature :=
  ⟨[.instance, ⟨"instance_id", .ordinary, false⟩], by decide, by decide⟩

/-- A method that takes the name of a runner, and no token. -/
def startInstance : Member :=
  ⟨"start", .blocking startSignature⟩

/-- A contract, a provider that meets it and derives from the mixin, and a provider that starts
runners in another way. -/
def providerTexts : List ClassText :=
  [⟨[], [createInstance, startInstance]⟩, ⟨[.made 0, .mixin], [createInstance, startInstance]⟩,
    ⟨[.made 1], [startInstance]⟩]

def providerTable : ClassTable :=
  (providerTexts.foldlM ClassTable.declare? []).getD []

/-- An instance of the last class creates runners as the provider does, with a token of its own. -/
theorem variant_runs_method_iff_of_creation :
    ∃ variant, providerTable.reached? 2 "acreate_instance" = some (.variant variant) ∧
      Makes (variant.call? countsAsToken "fresh token" ⟨["instance", "request"], []⟩)
        ⟨⟨1, createInstance⟩, [("self", .given "instance"), ("bootstrap", .given "request"),
          ("cancel", .given "fresh token")]⟩ := by
  have has : providerTable.reached? 2 "create_instance" = some (.own ⟨1, createInstance⟩) := by
    decide +kernel
  have isPublic : createInstance.isPublic = true := by decide +kernel
  have derives : providerTable[1]?.any MadeClass.derives = true := by decide +kernel
  obtain ⟨provider, written, derives⟩ := (Option.any_eq_true _ _).1 derives
  have free : providerTable.LeavesFree (variantOf "create_instance") := by decide +kernel
  have isToken : countsAsToken "fresh token" = true := by decide
  have accepts : creationSignature.bind? ⟨["instance", "request"], []⟩ =
      some [("self", .given "instance"), ("bootstrap", .given "request"), ("cancel", .leftOut)] := rfl
  obtain ⟨variant, reaches, -, -, makes⟩ :=
    variant_runs_method_iff (ClassTable.isMade_foldlM providerTexts) has isPublic rfl written derives
      free isToken accepts
  have original : ¬ providerTable.Overrides ⟨1, createInstance⟩ := by decide +kernel
  have opens : OpensTo tokenName creationSignature.parameters ["instance", "request"] :=
    ⟨2, _, rfl, rfl, Or.inr ⟨rfl, by decide⟩⟩
  exact ⟨variant, reaches, makes.2 ⟨original, fun _ => ⟨rfl, Or.inr opens⟩⟩⟩

/-- A class that starts runners, and one derived from it that starts them in another way. -/
def startChain : ClassChain :=
  [[startInstance], [startInstance]]

/-- An instance of the derived class is started in its own way, and the background variant that it
has starts it in the way of the class before. -/
theorem overriding_method_not_run :
    startChain.table.IsMade ∧ startChain.table.LeavesFree (variantOf "start") ∧
      startChain.reached? "start" = some (.own ⟨1, startInstance⟩) ∧
      startChain.reached? (variantOf "start") = some (.variant ⟨0, startInstance⟩) ∧
      startSignature.bind? ⟨["instance", "runner"], []⟩ =
        some [("self", .given "instance"), ("instance_id", .given "runner")] ∧
      ¬ Makes
        (Callee.call? countsAsToken "fresh token" ⟨0, startInstance⟩ ⟨["instance", "runner"], []⟩)
        ⟨⟨1, startInstance⟩, [("self", .given "instance"), ("instance_id", .given "runner")]⟩ := by
  refine ⟨startChain.isMade_table, by decide +kernel, by decide +kernel, by decide +kernel, rfl, ?_⟩
  intro makes
  have same := Callee.callee_of_call? (makes_iff.1 makes)
  exact absurd same (by decide)

/-- The method that creates runners takes its token by position, and its variant does not hand one on
that is given so. -/
theorem positional_token_refused :
    creationSignature.bind? ⟨["instance", "request", "token"], []⟩ =
        some [("self", .given "instance"), ("bootstrap", .given "request"),
          (tokenName, .given "token")] ∧
      Callee.call? countsAsToken "fresh token" ⟨1, createInstance⟩
        ⟨["instance", "request", "token"], []⟩ = none := by
  have third : (⟨tokenName, .ordinary, true⟩ : Parameter) ∈ creationSignature.parameters := by
    decide
  have taken : ¬ OpensTo tokenName creationSignature.parameters ["instance", "request", "token"] := by
    rintro ⟨index, parameter, found, -, keyword | ⟨-, few⟩⟩
    · have byPosition : ∀ parameter ∈ creationSignature.parameters, parameter.kind ≠ .keyword := by
        decide
      exact byPosition parameter (List.mem_of_getElem? found) keyword
    · obtain ⟨inside, -⟩ := List.getElem?_eq_some_iff.1 found
      exact absurd inside (Nat.not_lt.2 few)
  exact ⟨rfl, Callee.call?_of_positional rfl third rfl rfl taken⟩

end RunnerCloud.Background
