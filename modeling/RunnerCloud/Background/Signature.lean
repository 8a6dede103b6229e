/-!
Contract: the parameters of a method, and the arguments of a call.

Owns:
- `Keywords`, the arguments of a call that are given by name;
- `Parameter` and `Signature`, what a method takes and in which ways, and `Parameter.take?`, what one
  parameter takes of the arguments that are left;
- `Signature.bind?`, what each parameter gets, unless the arguments do not fit;
- `Bound`, what a method is called with.

Values are of any type: nothing here looks into them.

Does not own: methods and the classes that have them.
-/

namespace RunnerCloud.Background

variable {V : Type}

/-! ## Arguments -/

/-- Arguments by name, in the order of the call. -/
abbrev Keywords (V : Type) := List (String × V)

namespace Keywords

def get? (keywords : Keywords V) (name : String) : Option V :=
  keywords.lookup name

def erase (keywords : Keywords V) (name : String) : Keywords V :=
  keywords.filter fun entry => entry.1 != name

/-- A keyword that is given already keeps its place. -/
def set : Keywords V → String → V → Keywords V
  | [], name, value => [(name, value)]
  | (other, held) :: rest, name, value =>
    if other == name then (name, value) :: rest else (other, held) :: set rest name value

variable {keywords : Keywords V} {name : String} {value : V}

theorem get?_cons (key : String) (held : V) (keywords : Keywords V) (name : String) :
    get? ((key, held) :: keywords) name = if name = key then some held else keywords.get? name := by
  by_cases same : name = key
  · simp [get?, same]
  · have unequal : (name == key) = false := beq_eq_false_iff_ne.2 same
    simp [get?, List.lookup_cons, unequal, same]

theorem erase_cons (key : String) (held : V) (keywords : Keywords V) (name : String) :
    erase ((key, held) :: keywords) name =
      if name = key then keywords.erase name else (key, held) :: keywords.erase name := by
  by_cases same : name = key
  · simp [erase, same]
  · simp [erase, same, Ne.symm same]

theorem set_cons (key : String) (held : V) (keywords : Keywords V) (name : String) (value : V) :
    set ((key, held) :: keywords) name value =
      if name = key then (name, value) :: keywords else (key, held) :: keywords.set name value := by
  by_cases same : name = key
  · simp [set, same]
  · simp [set, same, Ne.symm same]

theorem get?_erase (keywords : Keywords V) (name other : String) :
    (keywords.erase name).get? other = if other = name then none else keywords.get? other := by
  induction keywords with
  | nil => simp [erase, get?]
  | cons entry rest inductionHypothesis =>
      obtain ⟨key, held⟩ := entry
      rw [erase_cons, get?_cons]
      by_cases isName : name = key <;> by_cases isOther : other = key <;>
        simp_all [get?_cons, eq_comm]

theorem get?_set (keywords : Keywords V) (name : String) (value : V) (other : String) :
    (keywords.set name value).get? other =
      if other = name then some value else keywords.get? other := by
  induction keywords with
  | nil => rw [set, get?_cons]
  | cons entry rest inductionHypothesis =>
      obtain ⟨key, held⟩ := entry
      rw [set_cons, get?_cons]
      by_cases isName : name = key <;> by_cases isOther : other = key <;>
        simp_all [get?_cons, eq_comm]

@[simp]
theorem get?_set_self (keywords : Keywords V) (name : String) (value : V) :
    (keywords.set name value).get? name = some value := by
  rw [get?_set, if_pos rfl]

theorem erase_set (keywords : Keywords V) (name : String) (value : V) (other : String) :
    (keywords.set name value).erase other =
      if other = name then keywords.erase name else (keywords.erase other).set name value := by
  induction keywords with
  | nil =>
      rw [set, erase_cons]
      by_cases same : other = name <;> simp [set, erase, same]
  | cons entry rest inductionHypothesis =>
      obtain ⟨key, held⟩ := entry
      rw [set_cons, erase_cons, erase_cons]
      by_cases same : other = name
      · by_cases isName : name = key <;> simp_all [erase_cons]
      · by_cases isName : name = key <;> by_cases isOther : other = key <;>
          simp_all [erase_cons, set_cons, eq_comm]

theorem erase_of_get?_eq_none (absent : keywords.get? name = none) :
    keywords.erase name = keywords := by
  induction keywords with
  | nil => rfl
  | cons entry rest inductionHypothesis =>
      obtain ⟨key, held⟩ := entry
      rw [get?_cons] at absent
      rw [erase_cons]
      by_cases isName : name = key <;> simp_all

theorem set_of_get?_eq_some (found : keywords.get? name = some value) :
    keywords.set name value = keywords := by
  induction keywords with
  | nil => cases found
  | cons entry rest inductionHypothesis =>
      obtain ⟨key, held⟩ := entry
      rw [get?_cons] at found
      rw [set_cons]
      by_cases isName : name = key <;> simp_all

end Keywords

/-- The arguments of a call; the first by position is the instance whose method is called. -/
structure Arguments (V : Type) where
  positional : List V
  keywords : Keywords V
deriving DecidableEq, Repr

/-! ## Parameters -/

inductive ParameterKind where
  /-- Given by position. -/
  | positional
  /-- Given by position or by keyword. -/
  | ordinary
  /-- Takes whatever else is given by position. -/
  | remaining
  /-- Given by keyword. -/
  | keyword
  /-- Takes whatever else is given by keyword. -/
  | further
deriving DecidableEq, Repr

/-- The order in which parameters are written. -/
def ParameterKind.rank : ParameterKind → Nat
  | .positional => 0
  | .ordinary => 1
  | .remaining => 2
  | .keyword => 3
  | .further => 4

structure Parameter where
  name : String
  kind : ParameterKind
  /-- It has a default. -/
  optional : Bool
deriving DecidableEq, Repr

/-- What a parameter gets. -/
inductive Passed (V : Type) where
  | given (value : V)
  /-- The default applies. -/
  | leftOut
  | remaining (values : List V)
  | further (keywords : Keywords V)
deriving DecidableEq, Repr

/-- What a method is called with, parameter by parameter. -/
abbrev Bound (V : Type) := List (String × Passed V)

namespace Parameter

def leftOut? (parameter : Parameter) (values : List V) (keywords : Keywords V) :
    Option (Passed V × List V × Keywords V) :=
  if parameter.optional then some (.leftOut, values, keywords) else none

/-- What a parameter takes, and the arguments that it leaves. -/
def take? (parameter : Parameter) (values : List V) (keywords : Keywords V) :
    Option (Passed V × List V × Keywords V) :=
  match parameter.kind with
  | .positional =>
    match values with
    | value :: rest => some (.given value, rest, keywords)
    | [] => parameter.leftOut? [] keywords
  | .ordinary =>
    match values, keywords.get? parameter.name with
    | value :: rest, none => some (.given value, rest, keywords)
    | _ :: _, some _ => none
    | [], some value => some (.given value, [], keywords.erase parameter.name)
    | [], none => parameter.leftOut? [] keywords
  | .remaining => some (.remaining values, [], keywords)
  | .keyword =>
    match keywords.get? parameter.name with
    | some value => some (.given value, values, keywords.erase parameter.name)
    | none => parameter.leftOut? values keywords
  | .further => some (.further keywords, values, [])

end Parameter

/-- What the parameters get of the arguments, which have to be used up. -/
def bindFrom? : List Parameter → List V → Keywords V → Option (Bound V)
  | [], [], [] => some []
  | [], _, _ => none
  | parameter :: rest, values, keywords =>
    match parameter.take? values keywords with
    | none => none
    | some (passed, values, keywords) =>
      (bindFrom? rest values keywords).map ((parameter.name, passed) :: ·)

/-- The parameters of a method, the one for the instance included. -/
structure Signature where
  parameters : List Parameter
  distinct : (parameters.map Parameter.name).Nodup
  ordered : parameters.Pairwise fun earlier later => earlier.kind.rank ≤ later.kind.rank
deriving DecidableEq, Repr

namespace Signature

def bind? (signature : Signature) (arguments : Arguments V) : Option (Bound V) :=
  bindFrom? signature.parameters arguments.positional arguments.keywords

def takes (signature : Signature) (name : String) : Bool :=
  signature.parameters.any (·.name == name)

end Signature

end RunnerCloud.Background
