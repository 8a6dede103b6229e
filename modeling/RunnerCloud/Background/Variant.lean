import RunnerCloud.Background.Signature

/-!
Contract: background variants of blocking methods.

Owns:
- `Member`, a member as a class writes it, and `ClassText`, a class as it is written;
- `mergeOrders?`, the order in which a class looks behind itself, from the orders of its bases;
- `ClassTable`, the classes that have been made, and `ClassTable.declare?`, which makes another one. A
  class that derives from the mixin gains a background variant for each public blocking method that
  it writes itself, unless a member of the variant's name can already be seen;
- `ClassTable.reached?`, what an instance of a class has under a name;
- `Callee.call?`, the call that a variant makes of its method: a method that takes a token gets one
  by keyword;
- `ClassChain`, classes that derive from one another, the oldest first.

Does not own: tasks and their cancellation.
-/

namespace RunnerCloud.Background

/-! ## Members -/

inductive MemberKind where
  | blocking (signature : Signature)
  | asynchronous
  | property
  | static
  | constant
deriving DecidableEq, Repr

/-- The parameter for the instance. -/
def Parameter.instance : Parameter :=
  ⟨"self", .ordinary, false⟩

/-- The keyword under which methods take a cancel token. -/
def tokenName : String :=
  "cancel"

namespace MemberKind

/-- A blocking method that takes nothing. -/
def method : MemberKind :=
  .blocking ⟨[.instance], by decide, by decide⟩

/-- A blocking method that takes a cancel token. -/
def cancellable : MemberKind :=
  .blocking ⟨[.instance, ⟨tokenName, .ordinary, true⟩], by decide, by decide⟩

end MemberKind

/-- A member as a class defines it. -/
structure Member where
  name : String
  kind : MemberKind
deriving DecidableEq, Repr

/-- A method of one class, by the position of the class in its table. -/
structure Callee where
  level : Nat
  member : Member
deriving DecidableEq, Repr

/-- The name of the background variant of a method. -/
def variantOf (name : String) : String :=
  "a" ++ name

namespace Member

def signature? (candidate : Member) : Option Signature :=
  match candidate.kind with
  | .blocking signature => some signature
  | _ => none

def isBlocking (candidate : Member) : Bool :=
  candidate.signature?.isSome

def isPublic (candidate : Member) : Bool :=
  candidate.name.toList.head? != some '_'

/-- It gets a variant, unless the name of the variant is taken. -/
def isOffered (candidate : Member) : Bool :=
  candidate.isPublic && candidate.isBlocking

end Member

/-- A definition again replaces the kind and keeps the place. -/
def define (members : List Member) (newest : Member) : List Member :=
  if members.any (·.name == newest.name) then
    members.map fun present => if present.name == newest.name then newest else present
  else members ++ [newest]

/-- The members of a class, each name once. -/
def definitions (written : List Member) : List Member :=
  written.foldl define []

/-- A variant by its name, with what it calls. -/
abbrev Variants := List (String × Callee)

/-- The variants that a class gains: `visible` are the names that can be seen before the first. -/
def variantsOf (level : Nat) (visible : List String) : List Member → Variants
  | [] => []
  | candidate :: rest =>
    if candidate.isOffered && !visible.contains (variantOf candidate.name) then
      (variantOf candidate.name, ⟨level, candidate⟩) ::
        variantsOf level (variantOf candidate.name :: visible) rest
    else variantsOf level visible rest

/-! ## Classes -/

/-- What a class derives from. -/
inductive Base where
  /-- The class that adds the variants. -/
  | mixin
  /-- A class that was made before, by its position. -/
  | made (position : Nat)
deriving DecidableEq, Repr

/-- A base at the head of an order that stands behind the head of no order. -/
def nextBase? (orders : List (List Base)) : Option Base :=
  (orders.filterMap List.head?).find? fun candidate =>
    orders.all fun order => !order.tail.contains candidate

def dropHead (next : Base) (order : List Base) : List Base :=
  if order.head? = some next then order.tail else order

/-- The orders without a base that stands at the head of some. -/
def dropHeads (next : Base) (orders : List (List Base)) : List (List Base) :=
  orders.map (dropHead next)

theorem length_dropHead_le (next : Base) (order : List Base) :
    (dropHead next order).length ≤ order.length := by
  unfold dropHead
  split <;> simp

theorem length_dropHeads_le (next : Base) (orders : List (List Base)) :
    (dropHeads next orders).flatten.length ≤ orders.flatten.length := by
  induction orders with
  | nil => exact Nat.le_refl 0
  | cons order rest inductionHypothesis =>
      have shorter := length_dropHead_le next order
      simp only [dropHeads, List.map_cons, List.flatten_cons, List.length_append] at *
      omega

theorem length_dropHeads_lt {orders : List (List Base)} {next : Base}
    (found : nextBase? orders = some next) :
    (dropHeads next orders).flatten.length < orders.flatten.length := by
  obtain ⟨order, member, head⟩ := List.mem_filterMap.1 (List.mem_of_find?_eq_some found)
  obtain ⟨tail, rfl⟩ := List.head?_eq_some_iff.1 head
  obtain ⟨before, after, rfl⟩ := List.append_of_mem member
  have beforeShorter := length_dropHeads_le next before
  have afterShorter := length_dropHeads_le next after
  simp only [dropHeads, dropHead, List.map_append, List.map_cons, List.flatten_append,
    List.flatten_cons, List.length_append, List.head?_cons, if_true, List.tail_cons,
    List.length_cons] at *
  omega

/-- The orders put together, each kept as it is, the earlier orders first where both are possible. -/
def mergeOrders? (orders : List (List Base)) : Option (List Base) :=
  if orders.all List.isEmpty then some []
  else
    match _found : nextBase? orders with
    | none => none
    | some next => (mergeOrders? (dropHeads next orders)).map (next :: ·)
termination_by orders.flatten.length
decreasing_by exact length_dropHeads_lt _found

/-- A class as it is written. -/
structure ClassText where
  bases : List Base
  written : List Member
deriving DecidableEq, Repr

structure MadeClass where
  /-- Where a name is looked up that the class does not have itself. -/
  behind : List Base
  /-- What the class writes itself. -/
  own : List Member
  gained : Variants
deriving DecidableEq, Repr

namespace MadeClass

/-- What an instance has under a name. -/
inductive Reached where
  | variant (callee : Callee)
  | own (definition : Callee)
deriving DecidableEq, Repr

/-- It derives from the mixin. -/
def derives (made : MadeClass) : Bool :=
  made.behind.contains .mixin

def names (made : MadeClass) : List String :=
  made.own.map Member.name ++ made.gained.map Prod.fst

/-- What the class itself has under a name; a variant is never gained over a member. -/
def reached? (made : MadeClass) (level : Nat) (name : String) : Option Reached :=
  match made.gained.lookup name with
  | some callee => some (.variant callee)
  | none => (made.own.find? (·.name == name)).map fun found => .own ⟨level, found⟩

end MadeClass

/-- Classes in the order in which they were made. -/
abbrev ClassTable := List MadeClass

namespace ClassTable

/-- Where a base looks up names: in itself first. -/
def order? (table : ClassTable) : Base → Option (List Base)
  | .mixin => some [.mixin]
  | .made position => (table[position]?).map fun made => .made position :: made.behind

/-- The class that a base is; nobody looks anything up in the mixin. -/
def classAt? (table : ClassTable) : Base → Option MadeClass
  | .mixin => none
  | .made position => table[position]?

def names (table : ClassTable) (base : Base) : List String :=
  (table.classAt? base).elim [] MadeClass.names

/-- The class that is made next, once it is known where it looks up names. -/
def next (table : ClassTable) (written : List Member) (behind : List Base) : MadeClass :=
  let own := definitions written
  { behind, own
    gained :=
      if behind.contains .mixin then
        variantsOf table.length (own.map Member.name ++ behind.flatMap table.names) own
      else [] }

/-- Makes a class, unless a base is missing or the orders of its bases contradict each other. -/
def declare? (table : ClassTable) (text : ClassText) : Option ClassTable := do
  let orders ← text.bases.mapM table.order?
  let behind ← mergeOrders? (orders ++ [text.bases])
  return table ++ [table.next text.written behind]

def reachedAt? (table : ClassTable) (name : String) : Base → Option MadeClass.Reached
  | .mixin => none
  | .made position => (table[position]?).bind (·.reached? position name)

/-- What an instance of the class at `position` has under a name: what the first class has that knows
the name. -/
def reached? (table : ClassTable) (position : Nat) (name : String) : Option MadeClass.Reached :=
  (table.order? (.made position)).bind (·.findSome? (table.reachedAt? name))

end ClassTable

/-! ## Calls -/

/-- A call of a method, with what it gets. -/
structure Call (V : Type) where
  callee : Callee
  bound : Bound V
deriving DecidableEq, Repr

section Calls

variable {V : Type} (counts : V → Bool) (fresh : V)

/-- With the token of the call under its keyword, or a fresh one if none is given that counts. -/
def Arguments.withToken (arguments : Arguments V) : Arguments V :=
  let held := (arguments.keywords.get? tokenName).filter counts
  { arguments with keywords := arguments.keywords.set tokenName (held.getD fresh) }

/-- What a variant hands on to its method. The helper that adds the token has a parameter of its own
by the name `fn`, and refuses a keyword of that name. -/
def Signature.handedOn? (signature : Signature) (arguments : Arguments V) : Option (Arguments V) :=
  if signature.takes tokenName then
    if (arguments.keywords.get? "fn").isSome then none
    else some (arguments.withToken counts fresh)
  else some arguments

/-- The call that a variant makes, unless the arguments do not fit. -/
def Callee.call? (callee : Callee) (arguments : Arguments V) : Option (Call V) := do
  let signature ← callee.member.signature?
  let handedOn ← signature.handedOn? counts fresh arguments
  let bound ← signature.bind? handedOn
  return ⟨callee, bound⟩

end Calls

/-- The text by which a method names itself: the position of its class and its name. -/
def Callee.label (callee : Callee) : String :=
  callee.level.repr ++ "." ++ callee.member.name

/-- What a method answers: its label, and the kind of token that it was given. -/
def Call.answer (call : Call String) : String :=
  match call.bound.lookup tokenName with
  | some (.given kind) => call.callee.label ++ " cancel=" ++ kind
  | _ => call.callee.label

/-- What a variant answers that is awaited without arguments. -/
def Callee.answer (callee : Callee) : String :=
  match callee.call? (fun _ => true) "Event" ⟨["self"], []⟩ with
  | some call => call.answer
  | none => callee.label

/-! ## Chains -/

/-- The members that each class writes, the oldest class first. -/
abbrev ClassChain := List (List Member)

namespace ClassChain

abbrev Reached := MadeClass.Reached

/-- The class before, or the mixin for the oldest one. -/
def baseAt : Nat → Base
  | 0 => .mixin
  | level + 1 => .made level

def texts (chain : ClassChain) : List ClassText :=
  chain.zipIdx.map fun (written, level) => ⟨[baseAt level], written⟩

def table (chain : ClassChain) : ClassTable :=
  (chain.texts.foldlM ClassTable.declare? []).getD []

/-- The variants that each class gains. -/
def generated (chain : ClassChain) : List Variants :=
  chain.table.map MadeClass.gained

/-- What an instance of the last class reaches under a name. -/
def reached? (chain : ClassChain) (name : String) : Option Reached :=
  chain.table.reached? (chain.length - 1) name

end ClassChain

end RunnerCloud.Background
