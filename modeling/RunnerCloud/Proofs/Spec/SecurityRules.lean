import Mathlib.Data.List.Dedup
import Mathlib.Data.List.Sort
import Mathlib.Data.List.Nodup
import RunnerCloud.Spec.RunnerSpec

/-!
Contract: when the inbound rules of an instance are free of duplicates.

Owns:
- `OpenPorts.SpelledOnce`, by which no port is asked for under two spellings of one protocol;
- `security_rules_distinct_iff`: exactly then the rules differ from each other in their names, and
  exactly then in protocol and port;
- `security_rules_repeat`: overrides that are accepted, and the rules of which repeat.

Does not own: which ports the rules open.
-/

namespace RunnerCloud

/-- No port is asked for under two keys that spell the same protocol. -/
def OpenPorts.SpelledOnce (ports : OpenPorts) : Prop :=
  ports.Pairwise fun first second => ∀ protocol,
    Protocol.ofText? first.1 = some protocol → Protocol.ofText? second.1 = some protocol →
      first.2.Disjoint second.2

/-! ## Decimal texts -/

namespace Number

theorem decimal_injective : Function.Injective Nat.repr := by
  intro first second same
  rw [Nat.repr_eq_ofList_toDigits, Nat.repr_eq_ofList_toDigits] at same
  have digits := congrArg (fun text => Nat.ofDigitChars 10 text.toList 0) same
  simpa using digits

/-- Decimal texts tell integers apart. -/
theorem repr_injective : Function.Injective Int.repr := by
  have unsigned (number other : Nat) : Nat.repr number ≠ "-" ++ Nat.repr other := by
    intro same
    have sign : '-' ∈ Nat.toDigits 10 number := by
      have signed : '-' ∈ (Nat.repr number).toList := by simp [same]
      simpa [Nat.repr_eq_ofList_toDigits] using signed
    exact absurd (Nat.isDigit_of_mem_toDigits (by decide) (by decide) sign) (by decide)
  rintro (first | first) (second | second) same
  · rw [decimal_injective same]
  · exact absurd same (unsigned _ _)
  · exact absurd same.symm (unsigned _ _)
  · have digits : Nat.repr (first + 1) = Nat.repr (second + 1) := by
      have same : "-" ++ Nat.repr (first + 1) = "-" ++ Nat.repr (second + 1) := same
      simpa using same
    rw [Nat.succ.inj (decimal_injective digits)]

end Number

namespace SecurityRule

/-! ## Names -/

/-- What the name of a rule says: its protocol and its port. -/
def openingName (opening : Protocol × Int) : Text :=
  "inbound-" ++ opening.1.lowerName ++ "-" ++ opening.2.repr

theorem openingName_injective : Function.Injective openingName := by
  rintro ⟨first, firstPort⟩ ⟨second, secondPort⟩ same
  unfold openingName at same
  have protocols : first = second := by
    cases first <;> cases second <;> simp_all [Protocol.lowerName, String.ext_iff]
  subst protocols
  have ports : firstPort.repr = secondPort.repr := by
    cases first <;> simpa [Protocol.lowerName, String.ext_iff] using same
  rw [Number.repr_injective ports]

theorem cloudName_injective : Function.Injective Protocol.cloudName := by
  intro first second same
  cases first <;> cases second <;> simp_all [Protocol.cloudName]

/-! ## Openings -/

theorem openings_of_ofPorts (ports : OpenPorts) :
    (ofPorts ports).map (fun rule => (rule.protocol, rule.port)) = openings ports := by
  unfold ofPorts
  rw [List.map_map]
  exact List.zipIdx_map_fst 0 (openings ports)

theorem nodup_eraseDups (ports : List Int) : ports.eraseDups.Nodup := by
  -- The tail is filtered before it is worked off, so the induction is on the length.
  induction length : ports.length using Nat.strong_induction_on generalizing ports with
  | _ size inductionHypothesis =>
      cases ports with
      | nil => simp
      | cons port rest =>
          rw [List.eraseDups_cons, List.nodup_cons]
          constructor
          · simp
          · refine inductionHypothesis (rest.filter (! · == port)).length ?_ _ rfl
            have shorter := List.length_filter_le (! · == port) rest
            rw [List.length_cons] at length
            omega

theorem nodup_distinctPorts (ports : List Int) : (distinctPorts ports).Nodup :=
  (List.mergeSort_perm _ _).nodup_iff.2 (nodup_eraseDups ports)

theorem mem_distinctPorts {ports : List Int} {port : Int} :
    port ∈ distinctPorts ports ↔ port ∈ ports := by
  unfold distinctPorts
  rw [(List.mergeSort_perm _ _).mem_iff, List.mem_eraseDups]

/-- The openings that one key asks for. -/
def openingsOf (entry : Text × List Int) : List (Protocol × Int) :=
  match Protocol.ofText? entry.1 with
  | some protocol => (distinctPorts entry.2).map (protocol, ·)
  | none => []

theorem nodup_openingsOf (entry : Text × List Int) : (openingsOf entry).Nodup := by
  unfold openingsOf
  split
  · exact (nodup_distinctPorts entry.2).map (Prod.mk_right_injective _)
  · exact List.nodup_nil

theorem mem_openingsOf {entry : Text × List Int} {protocol : Protocol} {port : Int} :
    (protocol, port) ∈ openingsOf entry ↔
      Protocol.ofText? entry.1 = some protocol ∧ port ∈ entry.2 := by
  unfold openingsOf
  cases Protocol.ofText? entry.1 with
  | none => simp
  | some named => simp [mem_distinctPorts, and_comm]

theorem disjoint_openingsOf {first second : Text × List Int} :
    (openingsOf first).Disjoint (openingsOf second) ↔ ∀ protocol,
      Protocol.ofText? first.1 = some protocol → Protocol.ofText? second.1 = some protocol →
        first.2.Disjoint second.2 := by
  constructor
  · intro apart protocol firstNamed secondNamed port inFirst inSecond
    exact apart (mem_openingsOf.2 ⟨firstNamed, inFirst⟩) (mem_openingsOf.2 ⟨secondNamed, inSecond⟩)
  · rintro apart ⟨protocol, port⟩ inFirst inSecond
    rw [mem_openingsOf] at inFirst inSecond
    exact apart protocol inFirst.1 inSecond.1 inFirst.2 inSecond.2

theorem nodup_openings_iff (ports : OpenPorts) : (openings ports).Nodup ↔ ports.SpelledOnce := by
  calc (openings ports).Nodup
      ↔ (orderedPorts ports).Pairwise fun first second =>
          (openingsOf first).Disjoint (openingsOf second) := by
        show ((orderedPorts ports).flatMap openingsOf).Nodup ↔ _
        rw [List.nodup_flatMap]
        exact and_iff_right fun entry _ => nodup_openingsOf entry
    _ ↔ ports.Pairwise fun first second => (openingsOf first).Disjoint (openingsOf second) :=
        (List.mergeSort_perm ports _).pairwise_iff List.disjoint_symm
    _ ↔ ports.SpelledOnce := by
        simp only [disjoint_openingsOf]
        rfl

/-- Whatever tells openings apart tells the rules apart exactly when their openings differ. -/
theorem nodup_map_rules_iff {β : Type} {describe : Protocol × Int → β}
    (tellsApart : Function.Injective describe) (ports : OpenPorts) :
    ((ofPorts ports).map fun rule => describe (rule.protocol, rule.port)).Nodup ↔
      ports.SpelledOnce := by
  rw [← nodup_openings_iff, ← openings_of_ofPorts, ← List.nodup_map_iff tellsApart, List.map_map]
  rfl

/-! ## What the cloud is told -/

theorem text_injective : Function.Injective Value.text :=
  fun _ _ same => Value.text.inj same

theorem nodup_names_iff (ports : OpenPorts) :
    (((ofPorts ports).map toValue).map fun rule => rule.field "name").Nodup ↔
      ports.SpelledOnce := by
  have tellsApart : Function.Injective fun opening => Value.text (openingName opening) :=
    text_injective.comp openingName_injective
  rw [List.map_map]
  exact nodup_map_rules_iff tellsApart ports

theorem nodup_targets_iff (ports : OpenPorts) :
    (((ofPorts ports).map toValue).map fun rule =>
        (rule.field "protocol", rule.field "destination_port_range")).Nodup ↔
      ports.SpelledOnce := by
  have tellsApart : Function.Injective fun opening : Protocol × Int =>
      (Value.text opening.1.cloudName, Value.text opening.2.repr) :=
    (text_injective.comp cloudName_injective).prodMap
      (text_injective.comp (Function.Injective.comp (fun _ _ => Text.plain.inj) Number.repr_injective))
  rw [List.map_map]
  exact nodup_map_rules_iff tellsApart ports

/-- The rules of a spec, as they are sent to the cloud, differ from each other in their names, and in
protocol and destination port, exactly when no port is asked for under two spellings of one
protocol. -/
theorem security_rules_distinct_iff (spec : RunnerSpec) :
    let rules := spec.securityRules.map toValue
    ((rules.map fun rule => rule.field "name").Nodup ↔ spec.openInboundPorts.SpelledOnce) ∧
      ((rules.map fun rule =>
          (rule.field "protocol", rule.field "destination_port_range")).Nodup ↔
        spec.openInboundPorts.SpelledOnce) :=
  ⟨nodup_names_iff spec.openInboundPorts, nodup_targets_iff spec.openInboundPorts⟩

/-- Overrides that ask for one port under two spellings of its protocol. -/
def respelledPorts : Fields := [
  ("open_inbound_ports", .dict [("tcp", .list [.int 22]), ("TCP", .list [.int 22])])]

/-- They are accepted, and both spellings get a rule. -/
theorem security_rules_repeat :
    ∃ extra, ExtraSpecs.ofFields respelledPorts = .accepted extra ∧
      let rules := (ofPorts extra.openInboundPorts).map toValue
      ¬ (rules.map fun rule => rule.field "name").Nodup ∧
        ¬ (rules.map fun rule =>
          (rule.field "protocol", rule.field "destination_port_range")).Nodup := by
  have spelledTwice : ¬ OpenPorts.SpelledOnce [("tcp", [22]), ("TCP", [22])] := by
    intro once
    have apart := (List.pairwise_cons.1 once).1 ("TCP", [22]) (by simp) .tcp
      (by decide +kernel) (by decide +kernel)
    exact apart (List.mem_singleton_self 22) (List.mem_singleton_self 22)
  refine ⟨⟨false, false, [("tcp", [22]), ("TCP", [22])], none, none, [], [], none, none, none, none,
    none⟩, by decide +kernel, ?_, ?_⟩
  · exact fun distinct => spelledTwice ((nodup_names_iff _).1 distinct)
  · exact fun distinct => spelledTwice ((nodup_targets_iff _).1 distinct)

end SecurityRule

end RunnerCloud
