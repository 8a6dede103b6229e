import RunnerCloud.Proofs.Provision.Course
import RunnerCloud.Proofs.Spec.Overrides
import RunnerCloud.Proofs.Spec.SecurityRules

/-!
Contract: which ports the inbound rules of an instance open.

Owns:
- `OpenPorts.Refusable`, for documents with a key that names no protocol or with a number that is no
  port, and `ExtraSpecs.rejected_of_refusable`: overrides with such a document are rejected;
- `SecurityRule.Opens`, by which rules open the ports that were asked for and nothing else;
- `OpenPorts.AskAlike` and `SecurityRule.ofPorts_congr`: neither the order of the keys nor the order
  and the repetitions of the ports under a key make a difference to the rules;
- `security_rules_cover`, which puts this together for accepted overrides.

Does not own: whether two rules are alike; `SecurityRules` does.
-/

namespace RunnerCloud

open Validation

theorem Protocol.ofText?_eq_some_iff {written : Text} {protocol : Protocol} :
    ofText? written = some protocol ↔ written.toLower = protocol.lowerName := by
  unfold ofText?
  cases protocol with
  | tcp => by_cases tcp : written.toLower = "tcp" <;> simp [lowerName, tcp]
  | udp =>
      by_cases tcp : written.toLower = "tcp"
      · simp [lowerName, tcp]
      · by_cases udp : written.toLower = "udp" <;> simp [lowerName, udp, tcp]

/-! ## Documents that are rejected -/

namespace OpenPorts

/-- The numbers that a port can have. -/
def IsPort (number : Int) : Prop :=
  1 ≤ number ∧ number ≤ 65535

/-- A key of the document names no protocol, or one of its lists holds a number that is no port. -/
def Refusable (document : Fields) : Prop :=
  ∃ entry ∈ document, (∀ protocol : Protocol, entry.1.toLower ≠ protocol.lowerName) ∨
    ∃ items item number, entry.2 = .list items ∧ item ∈ items ∧
      Validation.int item = .accepted number ∧ ¬ IsPort number

theorem refusal?_eq_none_iff {entry : Text × List Int} :
    refusal? entry = none ↔
      (∃ protocol, Protocol.ofText? entry.1 = some protocol) ∧ ∀ port ∈ entry.2, IsPort port := by
  unfold refusal? IsPort
  cases Protocol.ofText? entry.1 with
  | none => simp
  | some protocol =>
      simp only [Option.map_eq_none_iff, List.find?_eq_none, Option.some.injEq, exists_eq', true_and]
      refine forall₂_congr fun port _ => ?_
      simp
      omega

/-- What an accepted document holds is not refusable. -/
theorem not_refusable_of_accepted {document : Fields} {ports : OpenPorts}
    (accepts : OpenPorts.ofValue (.dict document) = .accepted ports) : ¬ Refusable document := by
  obtain ⟨read, reads, checked⟩ := Checked.ensure_eq_accepted_iff.1 accepts
  have same : read = ports := by
    unfold check at checked
    split at checked
    · cases checked
    · exact Checked.accepted.inj checked
  obtain ⟨_, isDocument, entries⟩ := dict_eq_accepted_iff.1 reads
  cases isDocument
  rintro ⟨entry, member, fault⟩
  have taken : (entry.1, list Validation.int entry.2) ∈
      read.map fun taken => (taken.1, Checked.accepted taken.2) :=
    entries ▸ List.mem_map_of_mem member
  obtain ⟨⟨key, numbers⟩, inRead, pair⟩ := List.mem_map.1 taken
  obtain ⟨rfl, readsList⟩ := Prod.mk.inj pair
  obtain ⟨⟨protocol, named⟩, sound⟩ :=
    refusal?_eq_none_iff.1 (refusal?_of_accepted accepts _ (same ▸ inRead))
  rcases fault with unnamed | ⟨items, item, number, isList, inItems, isNumber, noPort⟩
  · exact unnamed protocol (Protocol.ofText?_eq_some_iff.1 named)
  · obtain ⟨_, isList', outcomes⟩ := list_eq_accepted_iff.1 readsList.symm
    rw [isList] at isList'
    cases isList'
    have counted : Checked.accepted number ∈ numbers.map Checked.accepted :=
      outcomes ▸ isNumber ▸ List.mem_map_of_mem inItems
    obtain ⟨_, inNumbers, is⟩ := List.mem_map.1 counted
    cases is
    exact noPort (sound number inNumbers)

end OpenPorts

theorem ExtraSpecs.rejected_of_refusable {fields document : Fields}
    (gives : fields.get? "open_inbound_ports" = some (.dict document))
    (refusable : OpenPorts.Refusable document) :
    ∃ issues, ofFields fields = .rejected issues := by
  cases outcome : ofFields fields with
  | rejected issues => exact ⟨issues, rfl⟩
  | accepted extra =>
      have reads := optional_of_given gives (restricted_of_accepted outcome).1
      exact absurd refusable (OpenPorts.not_refusable_of_accepted reads)

namespace SecurityRule

/-! ## Openings -/

theorem mem_openings {ports : OpenPorts} {protocol : Protocol} {port : Int} :
    (protocol, port) ∈ openings ports ↔
      ∃ entry ∈ ports, Protocol.ofText? entry.1 = some protocol ∧ port ∈ entry.2 := by
  show (protocol, port) ∈ (orderedPorts ports).flatMap openingsOf ↔ _
  simp only [List.mem_flatMap, mem_openingsOf]
  simp only [orderedPorts, List.mem_mergeSort]

/-- The openings, found with a look-up that fails on a key that names no protocol. -/
def lookedUp? (ports : OpenPorts) : Option (List (Protocol × Int)) :=
  ((orderedPorts ports).mapM fun entry =>
    (Protocol.ofText? entry.1).map fun protocol =>
      (distinctPorts entry.2).map (protocol, ·)).map List.flatten

/-- No look-up fails when every key names a protocol. -/
theorem lookedUp?_eq_some {ports : OpenPorts}
    (named : ∀ entry ∈ ports, ∃ protocol, Protocol.ofText? entry.1 = some protocol) :
    lookedUp? ports = some (openings ports) := by
  have all : ∀ entries : OpenPorts,
      (∀ entry ∈ entries, ∃ protocol, Protocol.ofText? entry.1 = some protocol) →
      (entries.mapM fun entry => (Protocol.ofText? entry.1).map fun protocol =>
        (distinctPorts entry.2).map (protocol, ·)) = some (entries.map openingsOf) := by
    intro entries named
    induction entries with
    | nil => rfl
    | cons entry rest inductionHypothesis =>
        obtain ⟨protocol, names⟩ := named entry List.mem_cons_self
        have following := inductionHypothesis fun other member =>
          named other (List.mem_cons_of_mem entry member)
        simp [List.mapM_cons, following, openingsOf, names]
  have ordered : ∀ entry ∈ orderedPorts ports,
      ∃ protocol, Protocol.ofText? entry.1 = some protocol :=
    fun entry member => named entry ((List.mergeSort_perm _ _).mem_iff.1 member)
  unfold lookedUp?
  rw [all _ ordered]
  rfl

/-! ## Rules that open what was asked for -/

/-- The rules, as they are sent to the cloud, open the ports that were asked for. -/
structure Opens (ports : OpenPorts) (rules : List Value) : Prop where
  /-- A protocol and a port have a rule exactly when a key that spells the protocol has the port. -/
  requested : ∀ (protocol : Protocol) (port : Int),
    (∃ rule ∈ rules, rule.field "protocol" = .text protocol.cloudName ∧
      rule.field "destination_port_range" = .text port.repr) ↔
      ∃ entry ∈ ports, entry.1.toLower = protocol.lowerName ∧ port ∈ entry.2
  targets : ∀ rule ∈ rules, ∃ (protocol : Protocol) (port : Nat), 1 ≤ port ∧ port ≤ 65535 ∧
    rule.field "protocol" = .text protocol.cloudName ∧
    rule.field "destination_port_range" = .text port.repr
  allowing : ∀ rule ∈ rules, rule.field "direction" = .text "Inbound" ∧
    rule.field "access" = .text "Allow"
  numbered : rules.map (·.field "priority") =
    (List.range rules.length).map fun (position : Nat) => .int (100 + position)

theorem exists_rule_iff {ports : OpenPorts} {protocol : Protocol} {port : Int} :
    (∃ rule ∈ ofPorts ports, rule.protocol = protocol ∧ rule.port = port) ↔
      (protocol, port) ∈ openings ports := by
  rw [← openings_of_ofPorts]
  simp

theorem priorities_eq (ports : OpenPorts) :
    (ofPorts ports).map priority =
      (List.range (ofPorts ports).length).map (firstPriority + ·) := by
  have positions : (openings ports).zipIdx.map Prod.snd = List.range (openings ports).length := by
    rw [List.zipIdx_map_snd, List.range_eq_range']
  have length : (ofPorts ports).length = (openings ports).length := by simp [ofPorts]
  rw [length, ← positions, List.map_map]
  unfold ofPorts
  rw [List.map_map]
  rfl

theorem opens_ofPorts {ports : OpenPorts}
    (sound : ∀ entry ∈ ports, OpenPorts.refusal? entry = none) :
    Opens ports ((ofPorts ports).map toValue) where
  requested := by
    intro protocol port
    simp only [List.mem_map, exists_exists_and_eq_and]
    calc (∃ rule ∈ ofPorts ports, rule.toValue.field "protocol" = .text protocol.cloudName ∧
            rule.toValue.field "destination_port_range" = .text port.repr)
        ↔ ∃ rule ∈ ofPorts ports, rule.protocol = protocol ∧ rule.port = port := by
          refine exists_congr fun rule => and_congr_right fun _ => and_congr ?_ ?_
          · exact (text_injective.comp cloudName_injective).eq_iff
          · exact ⟨fun same => Number.repr_injective (Text.plain.inj (text_injective same)),
              fun same => same ▸ rfl⟩
      _ ↔ (protocol, port) ∈ openings ports := exists_rule_iff
      _ ↔ ∃ entry ∈ ports, entry.1.toLower = protocol.lowerName ∧ port ∈ entry.2 := by
          simp only [mem_openings, Protocol.ofText?_eq_some_iff]
  targets := by
    intro sent member
    obtain ⟨rule, inRules, rfl⟩ := List.mem_map.1 member
    obtain ⟨entry, inPorts, _, inEntry⟩ :=
      mem_openings.1 (exists_rule_iff.1 ⟨rule, inRules, rfl, rfl⟩)
    obtain ⟨_, bounded⟩ := OpenPorts.refusal?_eq_none_iff.1 (sound entry inPorts)
    obtain ⟨least, most⟩ := bounded rule.port inEntry
    obtain ⟨port, is⟩ := Int.eq_ofNat_of_zero_le (a := rule.port) (by omega)
    refine ⟨rule.protocol, port, by omega, by omega, rfl, ?_⟩
    show Value.text rule.port.repr = _
    rw [is]
    rfl
  allowing := by
    intro sent member
    obtain ⟨rule, _, rfl⟩ := List.mem_map.1 member
    exact ⟨rfl, rfl⟩
  numbered := by
    have sent : ((ofPorts ports).map toValue).map (·.field "priority") =
        ((ofPorts ports).map priority).map fun number : Nat => Value.int number := by
      rw [List.map_map, List.map_map]
      rfl
    rw [sent, priorities_eq, List.length_map, List.map_map]
    refine List.map_congr_left fun position _ => ?_
    simp [firstPriority]

end SecurityRule

/-! ## Orders and repetitions -/

namespace OpenPorts

/-- The port is asked for under the key. -/
def AsksFor (ports : OpenPorts) (key : Text) (port : Int) : Prop :=
  ∃ entry ∈ ports, entry.1 = key ∧ port ∈ entry.2

/-- Two documents, each with every key once, that ask for the same ports under the same keys, in
whatever order the keys and the ports of a key stand and however often a port is repeated. -/
structure AskAlike (ports other : OpenPorts) : Prop where
  keysDiffer : (ports.map Prod.fst).Nodup
  otherKeysDiffer : (other.map Prod.fst).Nodup
  asks : ∀ key port, ports.AsksFor key port ↔ other.AsksFor key port

end OpenPorts

namespace SecurityRule

theorem sorted_distinctPorts (ports : List Int) : (distinctPorts ports).Pairwise (· ≤ ·) :=
  List.pairwise_mergeSort' (· ≤ ·) ports.eraseDups

theorem sorted_orderedPorts (ports : OpenPorts) :
    (orderedPorts ports).Pairwise fun earlier later => earlier.1 ≤ later.1 := by
  have total : Std.Total fun earlier later : Text × List Int => earlier.1 ≤ later.1 :=
    ⟨fun _ _ => Text.le_total _ _⟩
  have transitive : IsTrans (Text × List Int) fun earlier later => earlier.1 ≤ later.1 :=
    ⟨fun _ _ _ => Text.le_trans⟩
  exact List.pairwise_mergeSort' (fun earlier later => earlier.1 ≤ later.1) ports

/-- The openings with the keys instead of the protocols that they spell. -/
def keyedOpenings (ports : OpenPorts) : List (Text × Int) :=
  (orderedPorts ports).flatMap fun entry => (distinctPorts entry.2).map (entry.1, ·)

/-- The order of keyed openings, by key and then by port. -/
def Precedes (earlier later : Text × Int) : Prop :=
  earlier.1 ≤ later.1 ∧ (earlier.1 = later.1 → earlier.2 ≤ later.2)

theorem Precedes.antisymm {first second : Text × Int} (before : Precedes first second)
    (behind : Precedes second first) : first = second := by
  have keys : first.1 = second.1 := Text.le_antisymm before.1 behind.1
  exact Prod.ext keys (Int.le_antisymm (before.2 keys) (behind.2 keys.symm))

theorem mem_keyedOpenings {ports : OpenPorts} {key : Text} {port : Int} :
    (key, port) ∈ keyedOpenings ports ↔ ports.AsksFor key port := by
  simp [keyedOpenings, OpenPorts.AsksFor, orderedPorts, mem_distinctPorts]

/-- Where every key stands once, the keyed openings ascend and none is repeated. -/
theorem ascending_keyedOpenings {ports : OpenPorts} (keysDiffer : (ports.map Prod.fst).Nodup) :
    (keyedOpenings ports).Pairwise fun earlier later =>
      Precedes earlier later ∧ earlier ≠ later := by
  unfold keyedOpenings
  rw [List.pairwise_flatMap]
  constructor
  · intro entry _
    rw [List.pairwise_map]
    refine (sorted_distinctPorts entry.2).and (nodup_distinctPorts entry.2) |>.imp ?_
    rintro earlier later ⟨ascends, differ⟩
    exact ⟨⟨Text.le_refl _, fun _ => ascends⟩, fun same => differ (Prod.mk.inj same).2⟩
  · have ordered : ((orderedPorts ports).map Prod.fst).Nodup :=
      ((List.mergeSort_perm ports _).map Prod.fst).nodup_iff.2 keysDiffer
    refine (sorted_orderedPorts ports).and (List.pairwise_map.1 ordered) |>.imp ?_
    rintro first second ⟨ascends, differ⟩ earlier inFirst later inSecond
    obtain ⟨_, _, rfl⟩ := List.mem_map.1 inFirst
    obtain ⟨_, _, rfl⟩ := List.mem_map.1 inSecond
    exact ⟨⟨ascends, fun same => absurd same differ⟩, fun same => differ (Prod.mk.inj same).1⟩

/-- An ascending list is determined by its members. -/
theorem keyedOpenings_congr {ports other : OpenPorts} (alike : ports.AskAlike other) :
    keyedOpenings ports = keyedOpenings other := by
  have ascends := ascending_keyedOpenings alike.keysDiffer
  have otherAscends := ascending_keyedOpenings alike.otherKeysDiffer
  have permuted : (keyedOpenings ports).Perm (keyedOpenings other) := by
    refine (List.perm_ext_iff_of_nodup (ascends.imp And.right) (otherAscends.imp And.right)).2 ?_
    rintro ⟨key, port⟩
    rw [mem_keyedOpenings, mem_keyedOpenings]
    exact alike.asks key port
  exact List.Perm.eq_of_pairwise (fun _ _ _ _ => Precedes.antisymm) (ascends.imp And.left)
    (otherAscends.imp And.left) permuted

theorem openings_eq (ports : OpenPorts) :
    openings ports = (keyedOpenings ports).filterMap fun opening =>
      (Protocol.ofText? opening.1).map (·, opening.2) := by
  show (orderedPorts ports).flatMap openingsOf = _
  unfold keyedOpenings
  rw [List.filterMap_flatMap]
  refine List.flatMap_congr fun entry _ => ?_
  rw [List.filterMap_map]
  unfold openingsOf
  cases named : Protocol.ofText? entry.1 <;> simp [named]

theorem ofPorts_congr {ports other : OpenPorts} (alike : ports.AskAlike other) :
    ofPorts other = ofPorts ports := by
  unfold ofPorts
  rw [openings_eq, openings_eq, keyedOpenings_congr alike]

/-- The rules of accepted overrides are found without a failing look-up, open exactly the ports that
were asked for, inbound and with ascending priorities, and stay the same when keys and ports are
reordered and ports are repeated. Overrides with another key, or with a number that is no port, are
rejected. -/
theorem security_rules_cover (fields : Fields) :
    (∀ extra, ExtraSpecs.ofFields fields = .accepted extra →
      ∀ spec : RunnerSpec, spec.openInboundPorts = extra.openInboundPorts →
        lookedUp? extra.openInboundPorts = some (openings extra.openInboundPorts) ∧
        Opens extra.openInboundPorts (spec.securityRules.map toValue) ∧
        ∀ other : RunnerSpec, extra.openInboundPorts.AskAlike other.openInboundPorts →
          other.securityRules = spec.securityRules) ∧
    ∀ document, fields.get? "open_inbound_ports" = some (.dict document) →
      OpenPorts.Refusable document → ∃ issues, ExtraSpecs.ofFields fields = .rejected issues := by
  refine ⟨fun extra accepts spec asks => ?_, fun document gives refusable =>
    ExtraSpecs.rejected_of_refusable gives refusable⟩
  have sound := ExtraSpecs.ports_of_accepted accepts
  have named : ∀ entry ∈ extra.openInboundPorts,
      ∃ protocol, Protocol.ofText? entry.1 = some protocol :=
    fun entry member => OpenPorts.protocol_of_refusal?_eq_none (sound entry member)
  have rules : spec.securityRules = ofPorts extra.openInboundPorts := congrArg ofPorts asks
  rw [rules]
  exact ⟨lookedUp?_eq_some named, opens_ofPorts sound, fun other alike => ofPorts_congr alike⟩

/-- Overrides that ask for two ports of one protocol and for one of the other. -/
def askedPorts : Fields := [
  ("open_inbound_ports", .dict [
    ("udp", .list [.int 53]), ("TCP", .list [.int 443, .text "22"])])]

/-- The same with its keys the other way round, and with a port that is repeated. -/
def reorderedPorts : OpenPorts := [("TCP", [22, 443, 22]), ("udp", [53])]

open Provision in
/-- The sample request with other open ports. -/
def specWith (ports : OpenPorts) : RunnerSpec :=
  RunnerSpec.assemble sampleBootstrap "controller-1" sampleConfig
    ⟨false, false, ports, none, none, [], [], none, none, none, none, none⟩ sampleConfig.image
    ⟨"Canonical", "server", "22_04-lts", "latest"⟩ sampleConfig.virtualNetworkCidr ""

theorem security_rules_cover_of_reorderedPorts :
    ∃ extra, ExtraSpecs.ofFields askedPorts = .accepted extra ∧
      (specWith reorderedPorts).securityRules = (specWith extra.openInboundPorts).securityRules ∧
      (∃ rule ∈ (specWith reorderedPorts).securityRules.map toValue,
        rule.field "protocol" = .text "Tcp" ∧ rule.field "destination_port_range" = .text "22") ∧
      ∃ issues, ExtraSpecs.ofFields
        [("open_inbound_ports", .dict [("tcp", .list [.int 65536])])] = .rejected issues := by
  have accepts : ExtraSpecs.ofFields askedPorts = .accepted ⟨false, false,
      [("udp", [53]), ("TCP", [443, 22])], none, none, [], [], none, none, none, none, none⟩ := by
    decide +kernel
  obtain ⟨_, opens, alike⟩ := (security_rules_cover askedPorts).1 _ accepts
    (specWith [("udp", [53]), ("TCP", [443, 22])]) rfl
  have reordered : OpenPorts.AskAlike [("udp", [53]), ("TCP", [443, 22])] reorderedPorts :=
    { keysDiffer := by decide
      otherKeysDiffer := by decide
      asks := fun key port => by
        simp only [OpenPorts.AsksFor, reorderedPorts, List.mem_cons, List.not_mem_nil, or_false,
          exists_eq_or_imp, exists_eq_left]
        grind }
  have same := alike (specWith reorderedPorts) reordered
  refine ⟨_, accepts, same, ?_, ?_⟩
  · rw [same]
    exact (opens.requested .tcp 22).2 ⟨("TCP", [443, 22]), by simp, by decide +kernel, by simp⟩
  · refine (security_rules_cover _).2 _ rfl ⟨_, List.mem_cons_self, Or.inr ?_⟩
    exact ⟨_, _, 65536, rfl, List.mem_cons_self, rfl, by simp [OpenPorts.IsPort]⟩

end SecurityRule

end RunnerCloud
