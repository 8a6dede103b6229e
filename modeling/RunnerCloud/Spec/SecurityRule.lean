import RunnerCloud.ExtraSpecs

/-!
Contract: the inbound rules that open the ports a pool asks for.

Owns:
- `SecurityRule`, with its dump `toValue`;
- `SecurityRule.ofPorts`, one rule for each port under each protocol key, in the order of the keys
  and then of the ports, with ascending priorities.

Does not own: the acceptance of protocol keys and ports; `ExtraSpecs` does.
-/

namespace RunnerCloud

structure SecurityRule where
  protocol : Protocol
  port : Int
  priority : Nat
deriving DecidableEq, Repr

namespace SecurityRule

/-- The priority of the first rule. -/
def firstPriority : Nat := 100

def name (rule : SecurityRule) : Text :=
  "inbound-" ++ rule.protocol.lowerName ++ "-" ++ rule.port.repr

/-- Each port once, ascending. -/
def distinctPorts (ports : List Int) : List Int :=
  ports.eraseDups.mergeSort fun left right => decide (left ≤ right)

/-- The protocol keys with their ports, by key. -/
def orderedPorts (ports : OpenPorts) : OpenPorts :=
  ports.mergeSort fun left right => decide (left.1 ≤ right.1)

/-- The protocol and port of each rule, in order; a key that names no protocol has no rules. -/
def openings (ports : OpenPorts) : List (Protocol × Int) :=
  (orderedPorts ports).flatMap fun entry =>
    match Protocol.ofText? entry.1 with
    | some protocol => (distinctPorts entry.2).map (protocol, ·)
    | none => []

def ofPorts (ports : OpenPorts) : List SecurityRule :=
  (openings ports).zipIdx.map fun (opening, position) =>
    ⟨opening.1, opening.2, firstPriority + position⟩

def toValue (rule : SecurityRule) : Value :=
  .dict [
    ("name", .text rule.name),
    ("protocol", .text rule.protocol.cloudName),
    ("direction", .text "Inbound"),
    ("access", .text "Allow"),
    ("priority", .int rule.priority),
    ("source_address_prefix", .text "*"),
    ("source_port_range", .text "*"),
    ("destination_address_prefix", .text "*"),
    ("destination_port_range", .text rule.port.repr)]

end SecurityRule

end RunnerCloud
