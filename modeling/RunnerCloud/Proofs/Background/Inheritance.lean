import Mathlib.Data.List.Nodup
import RunnerCloud.Background.Variant

/-!
Contract: classes that derive from others, and the variants that they gain.

Owns:
- `Merges`, the merging of orders step by step, with what a merged order keeps and what is in it;
- `ClassTable.IsMade`, the tables that classes lead to that are made one after another, and
  `ClassTable.Lawful`, which making a class keeps: what stands behind something behind a class stands
  behind that class;
- `ClassChain.length_table`: classes that derive from one another can always be made;
- `ClassTable.Overrides`, for a method that replaces one for which there is a variant already;
- `reached?_variantOf`: each method that is offered has a variant, which runs a method of the same
  name that overrides none, so it runs the method itself exactly if that overrides none.

Does not own: with which arguments a variant runs its method.
-/

namespace RunnerCloud.Background

/-! ## Merged orders -/

/-- Orders that are merged base by base. -/
inductive Merges : List (List Base) → List Base → Prop
  | done {orders : List (List Base)} (empty : ∀ order ∈ orders, order = []) : Merges orders []
  | step {orders : List (List Base)} {next : Base} {rest : List Base}
      (chosen : nextBase? orders = some next) (merges : Merges (dropHeads next orders) rest) :
      Merges orders (next :: rest)

theorem merges_of_mergeOrders? {orders : List (List Base)} {merged : List Base}
    (merges : mergeOrders? orders = some merged) : Merges orders merged := by
  induction orders using mergeOrders?.induct generalizing merged with
  | case1 orders empty =>
      rw [mergeOrders?, if_pos empty] at merges
      cases merges
      exact .done (by simpa using empty)
  | case2 orders pending stuck =>
      rw [mergeOrders?, if_neg pending] at merges
      split at merges
      · cases merges
      · simp_all
  | case3 orders pending next chosen inductionHypothesis =>
      rw [mergeOrders?, if_neg pending] at merges
      split at merges
      · cases merges
      · rename_i other alsoChosen
        obtain rfl : next = other := Option.some.inj (chosen.symm.trans alsoChosen)
        obtain ⟨rest, mergesRest, rfl⟩ := Option.map_eq_some_iff.1 merges
        exact .step chosen (inductionHypothesis mergesRest)

theorem sublist_cons_of_dropHead {next : Base} {order rest : List Base}
    (kept : (dropHead next order).Sublist rest) : order.Sublist (next :: rest) := by
  unfold dropHead at kept
  split at kept
  · rename_i head
    obtain ⟨tail, rfl⟩ := List.head?_eq_some_iff.1 head
    exact kept.cons_cons next
  · exact kept.cons next

theorem dropHead_subset (next : Base) (order : List Base) : dropHead next order ⊆ order := by
  unfold dropHead
  split
  · exact (List.tail_sublist order).subset
  · exact List.Subset.refl order

namespace Merges

variable {orders : List (List Base)} {merged : List Base}

/-- Each of the orders is kept. -/
theorem sublist (merges : Merges orders merged) {order : List Base} (member : order ∈ orders) :
    order.Sublist merged := by
  induction merges generalizing order with
  | done empty =>
      rw [empty order member]
  | @step orders next rest chosen merges inductionHypothesis =>
      exact sublist_cons_of_dropHead (inductionHypothesis (List.mem_map_of_mem member))

/-- Nothing else is in the merged order. -/
theorem exists_mem (merges : Merges orders merged) {base : Base} (member : base ∈ merged) :
    ∃ order ∈ orders, base ∈ order := by
  induction merges with
  | done empty => cases member
  | @step orders next rest chosen merges inductionHypothesis =>
      rcases List.mem_cons.1 member with rfl | later
      · obtain ⟨order, isOrder, head⟩ :=
          List.mem_filterMap.1 (List.mem_of_find?_eq_some chosen)
        exact ⟨order, isOrder, List.mem_of_mem_head? head⟩
      · obtain ⟨left, isLeft, inLeft⟩ := inductionHypothesis later
        obtain ⟨order, isOrder, rfl⟩ := List.mem_map.1 isLeft
        exact ⟨order, isOrder, dropHead_subset next order inLeft⟩

end Merges

theorem mergeOrders?_of_next {orders : List (List Base)} {next : Base}
    (chosen : nextBase? orders = some next) :
    mergeOrders? orders = (mergeOrders? (dropHeads next orders)).map (next :: ·) := by
  have pending : ¬ orders.all List.isEmpty = true := by
    intro empty
    obtain ⟨order, member, head⟩ := List.mem_filterMap.1 (List.mem_of_find?_eq_some chosen)
    rw [List.isEmpty_iff.1 (List.all_eq_true.1 empty order member)] at head
    cases head
  rw [mergeOrders?, if_neg pending]
  split
  · rename_i stuck
    cases chosen.symm.trans stuck
  · rename_i other alsoChosen
    rw [Option.some.inj (chosen.symm.trans alsoChosen)]

/-- An order that contains nothing twice stays as it is. -/
theorem mergeOrders?_nil {order : List Base} (distinct : order.Nodup) :
    mergeOrders? [order, []] = some order := by
  induction order with
  | nil => simp [mergeOrders?]
  | cons next rest inductionHypothesis =>
      obtain ⟨unrepeated, distinctRest⟩ := List.nodup_cons.1 distinct
      have chosen : nextBase? [next :: rest, []] = some next := by simp [nextBase?, unrepeated]
      rw [mergeOrders?_of_next chosen]
      simp [dropHeads, dropHead, inductionHypothesis distinctRest]

theorem mergeOrders?_singleton {next : Base} {rest : List Base} (distinct : (next :: rest).Nodup) :
    mergeOrders? [next :: rest, [next]] = some (next :: rest) := by
  obtain ⟨unrepeated, distinctRest⟩ := List.nodup_cons.1 distinct
  have chosen : nextBase? [next :: rest, [next]] = some next := by simp [nextBase?, unrepeated]
  rw [mergeOrders?_of_next chosen]
  simp [dropHeads, dropHead, mergeOrders?_nil distinctRest]

/-! ## Members and variants of one class -/

theorem variantOf_inj {left right : String} : variantOf left = variantOf right ↔ left = right :=
  String.append_right_inj "a"

theorem names_define (members : List Member) (newest : Member) :
    (define members newest).map Member.name =
      if newest.name ∈ members.map Member.name then members.map Member.name
      else members.map Member.name ++ [newest.name] := by
  unfold define
  by_cases known : newest.name ∈ members.map Member.name
  · have found : members.any (·.name == newest.name) = true := by
      simpa using known
    rw [if_pos found, if_pos known, List.map_map]
    refine List.map_congr_left fun present member => ?_
    by_cases same : present.name = newest.name <;> simp [same]
  · have missing : ¬ members.any (·.name == newest.name) = true := by
      simpa using known
    rw [if_neg missing, if_neg known, List.map_append, List.map_singleton]

theorem nodup_names_define {members : List Member} (distinct : (members.map Member.name).Nodup)
    (newest : Member) : ((define members newest).map Member.name).Nodup := by
  rw [names_define]
  split
  · exact distinct
  · rename_i unknown
    refine List.nodup_append.2 ⟨distinct, by simp, ?_⟩
    rintro present member other isNewest rfl
    rw [List.mem_singleton.1 isNewest] at member
    exact unknown member

theorem nodup_names_definitions (written : List Member) :
    ((definitions written).map Member.name).Nodup := by
  have kept : ∀ members : List Member, (members.map Member.name).Nodup →
      ((written.foldl define members).map Member.name).Nodup := by
    induction written with
    | nil => exact fun members distinct => distinct
    | cons newest rest inductionHypothesis =>
        exact fun members distinct => inductionHypothesis _ (nodup_names_define distinct newest)
  exact kept [] List.nodup_nil

/-- The first member of the name that is offered gets the variant, if the variant's name is free. -/
theorem lookup_variantsOf (level : Nat) (visible : List String) (members : List Member)
    (name : String) :
    (variantsOf level visible members).lookup (variantOf name) =
      if variantOf name ∈ visible then none
      else (members.find? fun member => member.isOffered && member.name == name).map
        fun member => ⟨level, member⟩ := by
  induction members generalizing visible with
  | nil => simp [variantsOf]
  | cons candidate rest inductionHypothesis =>
      unfold variantsOf
      by_cases same : candidate.name = name
      · subst same
        by_cases taken : variantOf candidate.name ∈ visible
        · simp [inductionHypothesis, taken]
        · cases offered : candidate.isOffered <;> simp [inductionHypothesis, taken, offered]
      · have unequal : variantOf name ≠ variantOf candidate.name := by
          rwa [Ne, variantOf_inj, eq_comm]
        have unequalNames : (variantOf name == variantOf candidate.name) = false :=
          beq_eq_false_iff_ne.2 unequal
        split
        · simp [List.lookup_cons, unequalNames, inductionHypothesis, unequal, same]
        · simp [inductionHypothesis, same]

theorem find?_of_offered {members : List Member} (distinct : (members.map Member.name).Nodup)
    {member : Member} (isMember : member ∈ members) (offered : member.isOffered = true) :
    members.find? (fun candidate => candidate.isOffered && candidate.name == member.name) =
      some member := by
  have some_ : (members.find? fun candidate =>
      candidate.isOffered && candidate.name == member.name).isSome = true :=
    List.find?_isSome.2 ⟨member, isMember, by simp [offered]⟩
  obtain ⟨first, finds⟩ := Option.isSome_iff_exists.1 some_
  have fits := List.find?_some finds
  simp only [Bool.and_eq_true, beq_iff_eq] at fits
  rw [finds, List.inj_on_of_nodup_map distinct (List.mem_of_find?_eq_some finds) isMember fits.2]

/-! ## Tables of classes -/

namespace ClassTable

/-- The tables that classes lead to that are made one after another. -/
inductive IsMade : ClassTable → Prop
  | empty : IsMade []
  | declare {table extended : ClassTable} {text : ClassText} (made : IsMade table)
      (declares : table.declare? text = some extended) : IsMade extended

/-- A class that stands behind something behind a class stands behind that class itself. -/
structure Lawful (table : ClassTable) : Prop where
  closed : ∀ {level : Nat} {made : MadeClass}, table[level]? = some made →
    ∀ base ∈ made.behind, ∃ order, table.order? base = some order ∧ order ⊆ made.behind
  distinct : ∀ {level : Nat} {made : MadeClass}, table[level]? = some made →
    (made.own.map Member.name).Nodup
  gains : ∀ {level : Nat} {made : MadeClass}, table[level]? = some made →
    made.gained =
      if made.derives then
        variantsOf level (made.own.map Member.name ++ made.behind.flatMap table.names) made.own
      else []

variable {table extended : ClassTable} {added : MadeClass} {base : Base} {order : List Base}

/-! ### One class more -/

theorem order?_made {level : Nat} {made : MadeClass} (found : table[level]? = some made) :
    table.order? (.made level) = some (.made level :: made.behind) := by
  rw [order?, found, Option.map_some]

theorem self_mem_of_order? (found : table.order? base = some order) : base ∈ order := by
  cases base with
  | mixin =>
      obtain rfl := Option.some.inj found
      exact List.mem_cons_self
  | made level =>
      obtain ⟨made, -, rfl⟩ := Option.map_eq_some_iff.1 found
      exact List.mem_cons_self

theorem map_eq_of_mapM {α β : Type} {read : α → Option β} {items : List α} {results : List β}
    (reads : items.mapM read = some results) : items.map read = results.map some := by
  induction items generalizing results with
  | nil =>
      obtain rfl : [] = results := by simpa using reads
      rfl
  | cons item rest inductionHypothesis =>
      simp only [List.mapM_cons, Option.bind_eq_bind, Option.bind_eq_some_iff, Option.pure_def,
        Option.some.injEq] at reads
      obtain ⟨result, readsItem, others, readsRest, rfl⟩ := reads
      simp [readsItem, inductionHypothesis readsRest]

/-- What stands behind a new class is what its bases look up names in. -/
theorem declare?_eq_some {text : ClassText} (declares : table.declare? text = some extended) :
    ∃ behind, extended = table ++ [table.next text.written behind] ∧
      (∀ base ∈ text.bases, ∃ order, table.order? base = some order ∧ order ⊆ behind) ∧
      ∀ ancestor ∈ behind, ∃ base ∈ text.bases, ∃ order, table.order? base = some order ∧
        ancestor ∈ order := by
  simp only [declare?, Option.bind_eq_bind, Option.bind_eq_some_iff, Option.pure_def,
    Option.some.injEq] at declares
  obtain ⟨orders, found, behind, merged, rfl⟩ := declares
  have merges := merges_of_mergeOrders? merged
  have known := map_eq_of_mapM found
  have orderOf : ∀ base ∈ text.bases, ∃ order ∈ orders, table.order? base = some order := by
    intro base member
    have inMap : table.order? base ∈ orders.map some := known ▸ List.mem_map_of_mem member
    obtain ⟨order, isOrder, same⟩ := List.mem_map.1 inMap
    exact ⟨order, isOrder, same.symm⟩
  refine ⟨behind, rfl, fun base member => ?_, fun ancestor member => ?_⟩
  · obtain ⟨order, isOrder, same⟩ := orderOf base member
    exact ⟨order, same, (merges.sublist (List.mem_append_left _ isOrder)).subset⟩
  · obtain ⟨order, isOrder, inOrder⟩ := merges.exists_mem member
    rcases List.mem_append.1 isOrder with isOrder | isBases
    · have inMap : some order ∈ text.bases.map table.order? := known ▸ List.mem_map_of_mem isOrder
      obtain ⟨base, isBase, same⟩ := List.mem_map.1 inMap
      exact ⟨base, isBase, order, same, inOrder⟩
    · obtain rfl := List.mem_singleton.1 isBases
      obtain ⟨order, isOrder, same⟩ := orderOf ancestor inOrder
      exact ⟨ancestor, inOrder, order, same, self_mem_of_order? same⟩

theorem order?_append (found : table.order? base = some order) (added : MadeClass) :
    order? (table ++ [added]) base = some order := by
  cases base with
  | mixin => exact found
  | made level =>
      obtain ⟨made, atLevel, rfl⟩ := Option.map_eq_some_iff.1 found
      have within := (List.getElem?_eq_some_iff.1 atLevel).1
      simp [order?, List.getElem?_append_left within, atLevel]

theorem names_append (found : table.order? base = some order) (added : MadeClass) :
    names (table ++ [added]) base = names table base := by
  cases base with
  | mixin => rfl
  | made level =>
      obtain ⟨made, atLevel, -⟩ := Option.map_eq_some_iff.1 found
      have within := (List.getElem?_eq_some_iff.1 atLevel).1
      simp [names, classAt?, List.getElem?_append_left within]

/-- A class of a longer table is one of the table, or it is the one that was added. -/
theorem getElem?_append_cases {level : Nat} {made : MadeClass}
    (found : (table ++ [added])[level]? = some made) :
    table[level]? = some made ∨ level = table.length ∧ made = added := by
  rw [List.getElem?_append] at found
  split at found
  · exact Or.inl found
  · rw [List.getElem?_singleton] at found
    split at found
    · cases found
      exact Or.inr ⟨by omega, rfl⟩
    · cases found

theorem Lawful.order_closed (lawful : table.Lawful) (found : table.order? base = some order)
    {ancestor : Base} (member : ancestor ∈ order) :
    ∃ inner, table.order? ancestor = some inner ∧ inner ⊆ order := by
  cases base with
  | mixin =>
      obtain rfl := Option.some.inj found
      obtain rfl := List.mem_singleton.1 member
      exact ⟨_, rfl, List.Subset.refl _⟩
  | made level =>
      obtain ⟨made, atLevel, rfl⟩ := Option.map_eq_some_iff.1 found
      rcases List.mem_cons.1 member with rfl | behind
      · exact ⟨_, found, List.Subset.refl _⟩
      · obtain ⟨inner, foundInner, within⟩ := lawful.closed atLevel ancestor behind
        exact ⟨inner, foundInner, List.subset_cons_of_subset _ within⟩

/-- What a class gains depends only on the classes behind it. -/
theorem variants_append {behind : List Base}
    (known : ∀ base ∈ behind, ∃ order, table.order? base = some order ∧ order ⊆ behind) :
    behind.flatMap (names (table ++ [added])) = behind.flatMap table.names := by
  refine List.flatMap_congr fun base member => ?_
  obtain ⟨order, found, -⟩ := known base member
  exact names_append found added

theorem lawful_nil : Lawful [] where
  closed := by simp
  distinct := by simp
  gains := by simp

theorem Lawful.declare {text : ClassText} (lawful : table.Lawful)
    (declares : table.declare? text = some extended) : extended.Lawful := by
  obtain ⟨behind, rfl, includes, comesFrom⟩ := declare?_eq_some declares
  have known : ∀ base ∈ behind, ∃ order, table.order? base = some order ∧ order ⊆ behind := by
    intro ancestor member
    obtain ⟨base, isBase, order, found, inOrder⟩ := comesFrom ancestor member
    obtain ⟨other, same, within⟩ := includes base isBase
    obtain rfl := Option.some.inj (found.symm.trans same)
    obtain ⟨inner, foundInner, insideOrder⟩ := lawful.order_closed found inOrder
    exact ⟨inner, foundInner, List.Subset.trans insideOrder within⟩
  constructor
  · intro level made found base member
    rcases getElem?_append_cases found with old | ⟨-, rfl⟩
    · obtain ⟨order, foundOrder, within⟩ := lawful.closed old base member
      exact ⟨order, order?_append foundOrder _, within⟩
    · obtain ⟨order, foundOrder, within⟩ := known base member
      exact ⟨order, order?_append foundOrder _, within⟩
  · intro level made found
    rcases getElem?_append_cases found with old | ⟨-, rfl⟩
    · exact lawful.distinct old
    · exact nodup_names_definitions text.written
  · intro level made found
    rcases getElem?_append_cases found with old | ⟨rfl, rfl⟩
    · rw [variants_append (lawful.closed old)]
      exact lawful.gains old
    · rw [show (table.next text.written behind).behind = behind from rfl, variants_append known]
      rfl

theorem IsMade.lawful (made : table.IsMade) : table.Lawful := by
  induction made with
  | empty => exact lawful_nil
  | declare made declares inductionHypothesis => exact inductionHypothesis.declare declares

theorem IsMade.declareAll {texts : List ClassText} (made : table.IsMade)
    (declares : texts.foldlM declare? table = some extended) : extended.IsMade := by
  induction texts generalizing table with
  | nil =>
      cases declares
      exact made
  | cons text rest inductionHypothesis =>
      rw [List.foldlM_cons, Option.bind_eq_bind, Option.bind_eq_some_iff] at declares
      obtain ⟨longer, declaresText, declaresRest⟩ := declares
      exact inductionHypothesis (made.declare declaresText) declaresRest

theorem isMade_foldlM (texts : List ClassText) :
    ((texts.foldlM declare? []).getD []).IsMade := by
  cases declares : texts.foldlM declare? [] with
  | none => exact .empty
  | some table => exact IsMade.empty.declareAll declares

end ClassTable

/-! ## Chains -/

namespace ClassChain

theorem isMade_table (chain : ClassChain) : chain.table.IsMade :=
  ClassTable.isMade_foldlM chain.texts

/-- Where a class of a chain looks up names that it does not have itself. -/
def behindAt : Nat → List Base
  | 0 => [.mixin]
  | level + 1 => .made level :: behindAt level

theorem lt_of_mem_behindAt {level position : Nat} (member : .made position ∈ behindAt level) :
    position < level := by
  induction level with
  | zero => simp [behindAt] at member
  | succ level inductionHypothesis =>
      rcases List.mem_cons.1 member with isHead | behind
      · cases isHead
        exact Nat.lt_succ_self _
      · exact Nat.lt_succ_of_lt (inductionHypothesis behind)

theorem nodup_behindAt (level : Nat) : (behindAt level).Nodup := by
  induction level with
  | zero => simp [behindAt]
  | succ level inductionHypothesis =>
      exact List.nodup_cons.2
        ⟨fun member => Nat.lt_irrefl _ (lt_of_mem_behindAt member), inductionHypothesis⟩

theorem behindAt_eq_cons (level : Nat) : ∃ rest, behindAt level = baseAt level :: rest := by
  cases level <;> exact ⟨_, rfl⟩

/-- The classes of a chain, each behind the next. -/
def IsStacked (table : ClassTable) : Prop :=
  ∀ level made, table[level]? = some made → made.behind = behindAt level

theorem declare?_of_isStacked {table : ClassTable} (stacked : IsStacked table)
    (written : List Member) :
    ∃ extended, table.declare? ⟨[baseAt table.length], written⟩ = some extended ∧
      IsStacked extended ∧ extended.length = table.length + 1 := by
  have orderOf : table.order? (baseAt table.length) = some (behindAt table.length) := by
    cases size : table.length with
    | zero => rfl
    | succ level =>
        have within : level < table.length := by omega
        have found : table[level]? = some table[level] := List.getElem?_eq_getElem within
        rw [baseAt, ClassTable.order?_made found, stacked level _ found, behindAt]
  have merges : mergeOrders? [behindAt table.length, [baseAt table.length]] =
      some (behindAt table.length) := by
    obtain ⟨rest, isCons⟩ := behindAt_eq_cons table.length
    have distinct := nodup_behindAt table.length
    rw [isCons] at distinct ⊢
    exact mergeOrders?_singleton distinct
  refine ⟨table ++ [table.next written (behindAt table.length)], ?_, ?_, by simp⟩
  · simp [ClassTable.declare?, orderOf, merges]
  · intro level made found
    rcases ClassTable.getElem?_append_cases found with old | ⟨rfl, rfl⟩
    · exact stacked level made old
    · rfl

theorem foldlM_of_isStacked (chain : ClassChain) {table : ClassTable} (stacked : IsStacked table) :
    ∃ extended, ((chain.zipIdx table.length).map fun (written, level) =>
        (⟨[baseAt level], written⟩ : ClassText)).foldlM ClassTable.declare? table = some extended ∧
      extended.length = table.length + chain.length := by
  induction chain generalizing table with
  | nil => exact ⟨table, rfl, rfl⟩
  | cons written rest inductionHypothesis =>
      obtain ⟨longer, declares, stackedLonger, size⟩ := declare?_of_isStacked stacked written
      obtain ⟨extended, declaresRest, sizeRest⟩ := inductionHypothesis stackedLonger
      rw [size] at declaresRest sizeRest
      refine ⟨extended, ?_, by rw [sizeRest, List.length_cons]; omega⟩
      simp only [List.zipIdx_cons, List.map_cons, List.foldlM_cons, declares]
      exact declaresRest

/-- Classes that derive from one another can always be made. -/
theorem length_table (chain : ClassChain) : chain.table.length = chain.length := by
  have stacked : IsStacked [] := by simp [IsStacked]
  obtain ⟨table, declares, size⟩ := foldlM_of_isStacked chain stacked
  have made : chain.texts.foldlM ClassTable.declare? [] = some table := declares
  rw [ClassChain.table, made, Option.getD_some, size, List.length_nil, Nat.zero_add]

end ClassChain

/-! ## What a variant runs -/

/-- A class that derives from the mixin, with a public blocking method of the name. -/
def MadeClass.Offers (made : MadeClass) (name : String) : Prop :=
  made.derives = true ∧ ∃ member ∈ made.own, member.name = name ∧ member.isOffered = true

instance (made : MadeClass) (name : String) : Decidable (made.Offers name) := by
  unfold MadeClass.Offers
  infer_instance

namespace ClassTable

/-- A class behind that of the method offers a method of the same name. -/
def Overrides (table : ClassTable) (method : Callee) : Prop :=
  ∃ made ∈ table[method.level]?, ∃ base ∈ made.behind, ∃ ancestor ∈ table.classAt? base,
    ancestor.Offers method.member.name

instance (table : ClassTable) (method : Callee) : Decidable (table.Overrides method) := by
  unfold Overrides
  infer_instance

/-- No class writes a member of the name. -/
def LeavesFree (table : ClassTable) (name : String) : Prop :=
  ∀ made ∈ table, ∀ member ∈ made.own, member.name ≠ name

instance (table : ClassTable) (name : String) : Decidable (table.LeavesFree name) := by
  unfold LeavesFree
  infer_instance

section Lawful

variable {table : ClassTable} {level position : Nat} {made : MadeClass} {name : String}
  {member : Member} {callee method : Callee}

theorem Lawful.lookup_gained (lawful : table.Lawful) (found : table[level]? = some made)
    (free : table.LeavesFree (variantOf name)) (derives : made.derives = true) :
    made.gained.lookup (variantOf name) =
      if ∃ base ∈ made.behind, variantOf name ∈ table.names base then none
      else (made.own.find? fun member => member.isOffered && member.name == name).map
        fun member => ⟨level, member⟩ := by
  have unwritten : variantOf name ∉ made.own.map Member.name := by
    intro written
    obtain ⟨member, isOwn, same⟩ := List.mem_map.1 written
    exact free made (List.mem_of_getElem? found) member isOwn same
  rw [lawful.gains found, if_pos derives, lookup_variantsOf]
  simp [unwritten]

/-- A variant that a class gains runs a method that the class offers, and nothing behind the class
has a variant of the name. -/
theorem Lawful.of_lookup_gained (lawful : table.Lawful) (found : table[level]? = some made)
    (free : table.LeavesFree (variantOf name))
    (gained : made.gained.lookup (variantOf name) = some callee) :
    callee.level = level ∧ callee.member ∈ made.own ∧ callee.member.name = name ∧
      callee.member.isOffered = true ∧ made.derives = true ∧
      ∀ base ∈ made.behind, variantOf name ∉ table.names base := by
  have derives : made.derives = true := by
    by_contra apart
    rw [lawful.gains found, if_neg apart] at gained
    cases gained
  rw [lawful.lookup_gained found free derives] at gained
  split at gained
  · cases gained
  · rename_i unseen
    obtain ⟨member, finds, rfl⟩ := Option.map_eq_some_iff.1 gained
    have fits := List.find?_some finds
    simp only [Bool.and_eq_true, beq_iff_eq] at fits
    refine ⟨rfl, List.mem_of_find?_eq_some finds, fits.2, fits.1, derives, ?_⟩
    exact fun base isBehind seen => unseen ⟨base, isBehind, seen⟩

/-- A method that is offered gets a variant in its own class, if there is none behind the class. -/
theorem Lawful.lookup_gained_of_offered (lawful : table.Lawful) (found : table[level]? = some made)
    (free : table.LeavesFree (variantOf member.name)) (derives : made.derives = true)
    (isOwn : member ∈ made.own) (offered : member.isOffered = true)
    (unseen : ∀ base ∈ made.behind, variantOf member.name ∉ table.names base) :
    made.gained.lookup (variantOf member.name) = some ⟨level, member⟩ := by
  rw [lawful.lookup_gained found free derives, if_neg (by simpa using unseen),
    find?_of_offered (lawful.distinct found) isOwn offered, Option.map_some]

/-- Where the name of a variant is seen, a class has gained the variant. -/
theorem exists_of_mem_names (free : table.LeavesFree (variantOf name)) {base : Base}
    (seen : variantOf name ∈ table.names base) :
    ∃ level made callee, base = .made level ∧ table[level]? = some made ∧
      made.gained.lookup (variantOf name) = some callee := by
  cases base with
  | mixin => cases seen
  | made level =>
      cases found : table[level]? with
      | none => simp [names, classAt?, found] at seen
      | some made =>
          have inNames : variantOf name ∈ made.names := by
            simpa [names, classAt?, found] using seen
          rcases List.mem_append.1 inNames with written | gained
          · obtain ⟨member, isOwn, same⟩ := List.mem_map.1 written
            exact absurd same (free made (List.mem_of_getElem? found) member isOwn)
          · have isSome : (made.gained.lookup (variantOf name)).isSome = true := by
              simpa [List.lookup_isSome_iff] using gained
            obtain ⟨callee, finds⟩ := Option.isSome_iff_exists.1 isSome
            exact ⟨level, made, callee, rfl, found, finds⟩

theorem mem_names_of_lookup (found : table[level]? = some made)
    (gained : made.gained.lookup name = some callee) : name ∈ table.names (.made level) := by
  obtain ⟨before, after, split, -⟩ := List.lookup_eq_some_iff.1 gained
  simp [names, classAt?, found, MadeClass.names, split]

/-- Behind a class the name of a variant is seen exactly if a class there offers the method. -/
theorem Lawful.seen_iff (lawful : table.Lawful) (found : table[level]? = some made)
    (free : table.LeavesFree (variantOf name)) :
    (∃ base ∈ made.behind, variantOf name ∈ table.names base) ↔
      ∃ base ∈ made.behind, ∃ ancestor ∈ table.classAt? base, ancestor.Offers name := by
  constructor
  · rintro ⟨base, isBehind, seen⟩
    obtain ⟨other, ancestor, callee, rfl, atOther, gained⟩ := exists_of_mem_names free seen
    obtain ⟨-, isOwn, named, offered, derives, -⟩ := lawful.of_lookup_gained atOther free gained
    exact ⟨_, isBehind, ancestor, atOther, derives, callee.member, isOwn, named, offered⟩
  · rintro ⟨base, isBehind, ancestor, isAncestor, derives, member, isOwn, rfl, offered⟩
    cases base with
    | mixin => cases isAncestor
    | made other =>
        have atOther : table[other]? = some ancestor := isAncestor
        by_cases seen : ∃ base ∈ ancestor.behind, variantOf member.name ∈ table.names base
        · -- What stands behind the ancestor stands behind the class as well.
          obtain ⟨further, isFurther, seen⟩ := seen
          obtain ⟨order, orderOf, within⟩ := lawful.closed found _ isBehind
          obtain rfl := Option.some.inj ((order?_made atOther).symm.trans orderOf)
          exact ⟨further, within (List.mem_cons_of_mem _ isFurther), seen⟩
        · have unseen : ∀ further ∈ ancestor.behind, variantOf member.name ∉ table.names further :=
            fun further isFurther isSeen => seen ⟨further, isFurther, isSeen⟩
          have gained := lawful.lookup_gained_of_offered atOther free derives isOwn offered unseen
          exact ⟨_, isBehind, mem_names_of_lookup atOther gained⟩

/-- What a class has under the name of a variant is a variant of a method that it writes itself, and
that overrides none. -/
theorem Lawful.of_reachedAt? (lawful : table.Lawful) (free : table.LeavesFree (variantOf name))
    {base : Base} {reached : MadeClass.Reached}
    (reaches : table.reachedAt? (variantOf name) base = some reached) :
    ∃ variant made, reached = .variant variant ∧ base = .made variant.level ∧
      table[variant.level]? = some made ∧ variant.member ∈ made.own ∧
      variant.member.name = name ∧ ¬ table.Overrides variant := by
  cases base with
  | mixin => cases reaches
  | made level =>
      obtain ⟨made, found, has⟩ := Option.bind_eq_some_iff.1 reaches
      unfold MadeClass.reached? at has
      split at has
      · rename_i variant gained
        obtain ⟨rfl, isOwn, named, -, -, unseen⟩ := lawful.of_lookup_gained found free gained
        refine ⟨variant, made, (Option.some.inj has).symm, rfl, found, isOwn, named, ?_⟩
        rintro ⟨other, atLevel, overridden⟩
        obtain rfl := Option.some.inj (found.symm.trans atLevel)
        rw [named] at overridden
        obtain ⟨base, isBehind, seen⟩ := (lawful.seen_iff found free).2 overridden
        exact unseen base isBehind seen
      · obtain ⟨member, finds, -⟩ := Option.map_eq_some_iff.1 has
        have same := List.find?_some finds
        exact absurd (by simpa using same)
          (free made (List.mem_of_getElem? found) member (List.mem_of_find?_eq_some finds))

theorem reachedAt?_ne_none (found : table[level]? = some made) (isOwn : member ∈ made.own) :
    table.reachedAt? member.name (.made level) ≠ none := by
  have finds : (made.own.find? (·.name == member.name)).isSome = true :=
    List.find?_isSome.2 ⟨member, isOwn, by simp⟩
  obtain ⟨first, finds⟩ := Option.isSome_iff_exists.1 finds
  simp only [reachedAt?, found, Option.bind_some, MadeClass.reached?, finds, Option.map_some]
  split <;> simp

theorem reachedAt?_of_gained (found : table[level]? = some made)
    (gained : made.gained.lookup name = some callee) :
    table.reachedAt? name (.made level) = some (.variant callee) := by
  simp [reachedAt?, found, MadeClass.reached?, gained]

/-- An instance has the method that the first class writes of those that know the name. -/
theorem of_reached?_own (has : table.reached? position name = some (.own method)) :
    ∃ made before after,
      table.order? (.made position) = some (before ++ .made method.level :: after) ∧
      table[method.level]? = some made ∧ method.member ∈ made.own ∧ method.member.name = name ∧
      ∀ base ∈ before, table.reachedAt? name base = none := by
  obtain ⟨order, orderOf, finds⟩ := Option.bind_eq_some_iff.1 has
  obtain ⟨before, base, after, rfl, here, nowhere⟩ := List.findSome?_eq_some_iff.1 finds
  cases base with
  | mixin => cases here
  | made level =>
      obtain ⟨made, found, writes⟩ := Option.bind_eq_some_iff.1 here
      unfold MadeClass.reached? at writes
      split at writes
      · cases writes
      · obtain ⟨member, first, isMethod⟩ := Option.map_eq_some_iff.1 writes
        cases isMethod
        have same := List.find?_some first
        exact ⟨made, before, after, orderOf, found, List.mem_of_find?_eq_some first,
          by simpa using same, nowhere⟩

/-- A method that overrides none has the variant of its own class. -/
theorem Lawful.reachedAt?_of_original (lawful : table.Lawful)
    (free : table.LeavesFree (variantOf method.member.name))
    (found : table[method.level]? = some made) (derives : made.derives = true)
    (isOwn : method.member ∈ made.own) (offered : method.member.isOffered = true)
    (original : ¬ table.Overrides method) :
    table.reachedAt? (variantOf method.member.name) (.made method.level) =
      some (.variant method) := by
  refine reachedAt?_of_gained found
    (lawful.lookup_gained_of_offered found free derives isOwn offered fun base isBehind seen => ?_)
  exact original ⟨made, found, (lawful.seen_iff found free).1 ⟨base, isBehind, seen⟩⟩

/-- A method that overrides another has behind its class one that has a variant. -/
theorem Lawful.exists_reachedAt?_of_overrides (lawful : table.Lawful)
    (free : table.LeavesFree (variantOf method.member.name))
    (overrides : table.Overrides method) :
    ∃ made base reached, table[method.level]? = some made ∧ base ∈ made.behind ∧
      table.reachedAt? (variantOf method.member.name) base = some reached := by
  obtain ⟨made, found, overridden⟩ := overrides
  obtain ⟨base, isBehind, seen⟩ := (lawful.seen_iff found free).2 overridden
  obtain ⟨other, owner, callee, rfl, atOther, gained⟩ := exists_of_mem_names free seen
  exact ⟨made, .made other, .variant callee, found, isBehind, reachedAt?_of_gained atOther gained⟩

/-- Where nothing of the name is written there is no variant of it. -/
theorem Lawful.reachedAt?_eq_none (lawful : table.Lawful) (free : table.LeavesFree (variantOf name))
    {base : Base} (nowhere : table.reachedAt? name base = none) :
    table.reachedAt? (variantOf name) base = none := by
  by_contra some_
  obtain ⟨reached, reaches⟩ := Option.ne_none_iff_exists'.1 some_
  obtain ⟨variant, writer, -, rfl, found, writes, rfl, -⟩ := lawful.of_reachedAt? free reaches
  exact reachedAt?_ne_none found writes nowhere

/-- What is found first in an order that has a variant of a method somewhere. -/
theorem Lawful.exists_variant_of_mem (lawful : table.Lawful)
    (free : table.LeavesFree (variantOf name)) {order : List Base} {base : Base}
    {reached : MadeClass.Reached} (member : base ∈ order)
    (reaches : table.reachedAt? (variantOf name) base = some reached) :
    ∃ variant, order.findSome? (table.reachedAt? (variantOf name)) = some (.variant variant) ∧
      variant.member.name = name ∧ ¬ table.Overrides variant := by
  have finds : (order.findSome? (table.reachedAt? (variantOf name))).isSome = true :=
    List.findSome?_isSome_iff.2 ⟨base, member, Option.isSome_iff_exists.2 ⟨reached, reaches⟩⟩
  obtain ⟨first, isFirst⟩ := Option.isSome_iff_exists.1 finds
  obtain ⟨_, _, _, -, reachesFirst, -⟩ := List.findSome?_eq_some_iff.1 isFirst
  obtain ⟨variant, -, rfl, -, -, -, named, original⟩ := lawful.of_reachedAt? free reachesFirst
  exact ⟨variant, isFirst, named, original⟩

/-- Each method that is offered has a variant. It runs a method of the name that overrides none:
the method itself exactly if that overrides none. -/
theorem Lawful.reached?_variantOf (lawful : table.Lawful) (free : table.LeavesFree (variantOf name))
    (has : table.reached? position name = some (.own method))
    (offered : method.member.isOffered = true) (found : table[method.level]? = some made)
    (derives : made.derives = true) :
    ∃ variant, table.reached? position (variantOf name) = some (.variant variant) ∧
      variant.member.name = name ∧ ¬ table.Overrides variant ∧
      (variant = method ↔ ¬ table.Overrides method) := by
  obtain ⟨same, before, after, orderOf, foundSame, isOwn, rfl, nowhere⟩ := of_reached?_own has
  obtain rfl := Option.some.inj (found.symm.trans foundSame)
  have ofOrder : table.reached? position (variantOf method.member.name) =
      (before ++ .made method.level :: after).findSome?
        (table.reachedAt? (variantOf method.member.name)) := by
    rw [ClassTable.reached?, orderOf, Option.bind_some]
  by_cases overrides : table.Overrides method
  · obtain ⟨same, base, reached, foundSame, behind, reaches⟩ :=
      lawful.exists_reachedAt?_of_overrides free overrides
    obtain rfl := Option.some.inj (found.symm.trans foundSame)
    obtain ⟨inner, foundInner, within⟩ :=
      lawful.order_closed orderOf (List.mem_append_right before List.mem_cons_self)
    obtain rfl := Option.some.inj ((order?_made found).symm.trans foundInner)
    have inOrder := within (List.mem_cons_of_mem _ behind)
    obtain ⟨variant, isFirst, named, original⟩ := lawful.exists_variant_of_mem free inOrder reaches
    refine ⟨variant, ofOrder.trans isFirst, named, original, ?_⟩
    exact ⟨fun isMethod => isMethod ▸ original, fun originalMethod => absurd overrides originalMethod⟩
  · have here := lawful.reachedAt?_of_original free found derives isOwn offered overrides
    -- Before the class of the method no class writes the method, so none has a variant of it.
    have noneBefore := fun base member => lawful.reachedAt?_eq_none free (nowhere base member)
    have isFirst := List.findSome?_eq_some_iff.2 ⟨before, _, after, rfl, here, noneBefore⟩
    exact ⟨method, ofOrder.trans isFirst, rfl, overrides, iff_of_true rfl overrides⟩

end Lawful

end ClassTable

end RunnerCloud.Background
