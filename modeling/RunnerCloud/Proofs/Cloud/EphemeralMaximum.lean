import RunnerCloud.Proofs.Number.IntegerText
import RunnerCloud.Proofs.Provision.Preparation
import RunnerCloud.Proofs.Spec.Storage

/-!
Contract: how the largest ephemeral disk of a VM size follows from the catalogue.

Owns:
- `Streams`, the items that the next listing of the catalogue gives, and the fault that it ends in;
- `Sku.LastGives`, what the last of an entry's capabilities of a name gives;
- `Sku.offered`, what capabilities come to, with one lemma for each way in which it is decided;
- `Value.IsInteger`, the integers that a value stands for as a number or as a text;
- `ephemeral_maximum`: the first entry for the size decides alone, by its capabilities; and what
  becomes of a catalogue without one.

Does not own: which part of the maximum a disk gets.
-/

namespace RunnerCloud

open Operation Provision

/-! ## Entries -/

namespace Sku

variable {sku : Sku} {name : Text} {value : Value}

/-- The last capability of a name has this value. -/
def LastGives (capabilities : List Capability) (name : Text) (value : Value) : Prop :=
  ∃ before after, capabilities = before ++ ⟨some name, value⟩ :: after ∧
    ∀ other ∈ after, other.name ≠ some name

/-- The entry denies that ephemeral disks are supported. -/
def Denies (capabilities : List Capability) : Prop :=
  ∃ value, LastGives capabilities supportName value ∧ value.inMessage.toLower = "false"

theorem LastGives.mem {capabilities : List Capability} (gives : LastGives capabilities name value) :
    ⟨some name, value⟩ ∈ capabilities := by
  obtain ⟨before, after, rfl, _⟩ := gives
  exact List.mem_append_right _ List.mem_cons_self

theorem property_of_lastGives (gives : LastGives sku.capabilities name value) :
    sku.property name = value := by
  obtain ⟨before, after, shape, last⟩ := gives
  have behind : after.reverse.find? (fun other => other.name == some name) = none := by
    rw [List.find?_eq_none]
    intro other held
    simpa using last other (List.mem_reverse.1 held)
  unfold property capability?
  rw [shape, List.reverse_append, List.reverse_cons, List.append_assoc, List.find?_append, behind]
  simp

theorem property_of_missing (missing : ∀ other ∈ sku.capabilities, other.name ≠ some name) :
    sku.property name = .null := by
  have nothing : sku.capabilities.reverse.find? (fun other => other.name == some name) = none := by
    rw [List.find?_eq_none]
    intro other held
    simpa using missing other (List.mem_reverse.1 held)
  unfold property capability?
  rw [nothing]
  rfl

/-- Either there is no property of the name, or there is a last one. -/
theorem missing_or_lastGives (capabilities : List Capability) (name : Text) :
    (∀ other ∈ capabilities, other.name ≠ some name) ∨ ∃ value, LastGives capabilities name value := by
  induction capabilities with
  | nil => exact Or.inl (by simp)
  | cons first rest inductionHypothesis =>
      rcases inductionHypothesis with missing | ⟨value, before, after, rfl, last⟩
      · by_cases named : first.name = some name
        · exact Or.inr ⟨first.value, [], rest, by rw [← named]; rfl, missing⟩
        · exact Or.inl (by simpa [named] using missing)
      · exact Or.inr ⟨value, first :: before, after, rfl, last⟩

theorem supportsEphemeral_eq_false_iff :
    sku.supportsEphemeral = false ↔ Denies sku.capabilities := by
  unfold supportsEphemeral
  constructor
  · intro denied
    rcases missing_or_lastGives sku.capabilities supportName with missing | ⟨value, gives⟩
    · rw [property_of_missing missing] at denied
      have allowed : (Value.null.inMessage.toLower != "false") = true := by decide +kernel
      rw [allowed] at denied
      cases denied
    · rw [property_of_lastGives gives] at denied
      exact ⟨value, gives, by simpa using denied⟩
  · rintro ⟨value, gives, denied⟩
    rw [property_of_lastGives gives]
    simpa using denied

theorem supportsEphemeral_of_not_denies (allows : ¬ Denies sku.capabilities) :
    sku.supportsEphemeral = true := by
  rw [← supportsEphemeral_eq_false_iff] at allows
  exact Bool.eq_true_of_not_eq_false allows

theorem ephemeralGb_of_denies {vmSize : Text} (denies : Denies sku.capabilities) :
    sku.ephemeralGb vmSize = .error (.capacity (.ephemeralUnsupported vmSize)) := by
  unfold ephemeralGb
  rw [supportsEphemeral_eq_false_iff.2 denies]
  rfl

theorem ephemeralGb_of_unmeasured {vmSize : Text} (allows : ¬ Denies sku.capabilities)
    (empty : (sku.property storageName).isEmptyLike = true) :
    sku.ephemeralGb vmSize = .error (.capacity (.noLocalStorage vmSize)) := by
  unfold ephemeralGb storageMb?
  simp [supportsEphemeral_of_not_denies allows, empty]

end Sku

/-! ## Integers -/

/-- The value is an integer, or a text that writes it with no more digits than the limit. -/
inductive Value.IsInteger : Value → ℤ → Prop where
  | number (number : ℤ) : IsInteger (.int number) number
  | text {written : Text} {digits : List ℕ} {number : ℤ}
      (writes : Number.WritesInteger written.points digits number)
      (within : digits.length ≤ Number.mostDigits) : IsInteger (.text written) number

theorem Value.IsInteger.wholeOf? {value : Value} {number : ℤ} (denotes : value.IsInteger number) :
    Sku.wholeOf? value = .ok (some number) := by
  cases denotes with
  | number => rfl
  | text writes within =>
      have read := Number.readInteger_of_writes writes
      rw [if_neg (by omega)] at read
      simp only [Sku.wholeOf?, read]

/-! ## What capabilities offer -/

namespace Sku

variable {vmSize : Text} {capabilities : List Capability} {value : Value}

/-- What an entry with these capabilities offers to the ephemeral disks of a VM size. -/
def offered (vmSize : Text) (capabilities : List Capability) : Except Stop Int :=
  ((Sku.mk none none capabilities).ephemeralGb vmSize).mapError .failed

theorem offered_of_denies (denies : Denies capabilities) :
    offered vmSize capabilities = .error (.failed (.capacity (.ephemeralUnsupported vmSize))) := by
  have refused : (Sku.mk none none capabilities).ephemeralGb vmSize = _ :=
    ephemeralGb_of_denies denies
  unfold offered
  rw [refused]
  rfl

theorem offered_of_unmeasured (allows : ¬ Denies capabilities)
    (empty : ((Sku.mk none none capabilities).property storageName).isEmptyLike = true) :
    offered vmSize capabilities = .error (.failed (.capacity (.noLocalStorage vmSize))) := by
  unfold offered
  rw [ephemeralGb_of_unmeasured allows empty]
  rfl

theorem offered_of_missing (allows : ¬ Denies capabilities)
    (missing : ∀ other ∈ capabilities, other.name ≠ some storageName) :
    offered vmSize capabilities = .error (.failed (.capacity (.noLocalStorage vmSize))) := by
  apply offered_of_unmeasured allows
  rw [property_of_missing missing]
  rfl

theorem offered_of_empty (allows : ¬ Denies capabilities)
    (gives : LastGives capabilities storageName value) (empty : value.isEmptyLike = true) :
    offered vmSize capabilities = .error (.failed (.capacity (.noLocalStorage vmSize))) := by
  apply offered_of_unmeasured allows
  rw [property_of_lastGives gives]
  exact empty

theorem offered_of_integer {megabytes : ℤ} (allows : ¬ Denies capabilities)
    (gives : LastGives capabilities storageName value) (integer : value.IsInteger megabytes) :
    offered vmSize capabilities =
      if megabytes ≤ 0 then .error (.failed (.capacity (.noLocalStorage vmSize)))
      else .ok (megabytes / megabytesPerGigabyte) := by
  have givesMb : (Sku.mk none none capabilities).GivesMb megabytes := by
    unfold GivesMb
    rw [property_of_lastGives gives]
    exact integer.wholeOf?
  unfold offered
  rw [ephemeralGb_of_gives (supportsEphemeral_of_not_denies allows) givesMb]
  split <;> rfl

end Sku

/-! ## The catalogue -/

/-- The next listing of the catalogue gives these items, and ends in this fault, if in any. -/
structure Streams (session : Session) (items : List Value) (ending : Option Fault) : Prop where
  sound : (session.script.next .listSkus).fault = none
  items : (session.script.next .listSkus).items = items
  ending : (session.script.next .listSkus).itemsFault = ending

/-- The item of a listing is about VMs of a size. -/
def IsOffer (vmSize : Text) (item : Value) : Prop :=
  (Sku.ofValue item).isFor vmSize = true

/-- What a catalogue without the size comes to, by what it ends in. -/
def unlisted (location vmSize : Text) : Option Fault → Failure
  | some fault => Cloud.reported (.listSkus location) (.fault fault)
  | none => .cloud (.vmSizeMissing vmSize location)

section Catalogue

variable {location vmSize : Text} {session : Session} {items before after : List Value} {item : Value}
  {ending : Option Fault}

theorem listedFor?_of_first (streams : Streams session (before ++ item :: after) ending)
    (others : ∀ other ∈ before, ¬ IsOffer vmSize other) (offer : IsOffer vmSize item) :
    listedFor? session.script vmSize = some (Sku.ofValue item) := by
  have passed : (before.map Sku.ofValue).find? (·.isFor vmSize) = none := by
    rw [List.find?_eq_none]
    intro sku held
    obtain ⟨other, listed, rfl⟩ := List.mem_map.1 held
    exact others other listed
  unfold listedFor?
  rw [streams.items, List.map_append, List.map_cons, List.find?_append, passed, Option.none_or]
  exact List.find?_cons_of_pos offer

theorem listedFor?_of_none (streams : Streams session items ending)
    (others : ∀ other ∈ items, ¬ IsOffer vmSize other) :
    listedFor? session.script vmSize = none := by
  unfold listedFor?
  rw [streams.items, List.find?_eq_none]
  intro sku held
  obtain ⟨other, listed, rfl⟩ := List.mem_map.1 held
  exact others other listed

/-- The listing is read to its end, and what it ends in is met. -/
theorem maxEphemeralGb_of_none (streams : Streams session items ending)
    (others : ∀ other ∈ items, ¬ IsOffer vmSize other) :
    (Cloud.maxEphemeralGb location vmSize session).outcome =
      .error (.failed (unlisted location vmSize ending)) := by
  have listed : (list (.listSkus location) session).outcome = .ok ⟨items, ending⟩ := by
    rw [← streams.items, ← streams.ending]
    exact outcome_list_of_sound _ streams.sound
  have nothing := listedFor?_of_none streams others
  unfold listedFor? at nothing
  rw [streams.items] at nothing
  have finds : (Cloud.findSku location vmSize session).outcome =
      .error (.failed (unlisted location vmSize ending)) := by
    unfold Cloud.findSku
    cases ending with
    | none =>
        have reported : (Cloud.guarded (.listSkus location) (Cloud.listedSku location vmSize)
            session).outcome = .ok none := by
          rw [guarded_apply, Execution.renamed_ok_iff]
          unfold Cloud.listedSku
          rw [bind_apply_of_ok listed]
          simp only [nothing]
          rfl
        rw [bind_apply_of_ok reported]
        rfl
    | some fault =>
        have reported : (Cloud.guarded (.listSkus location) (Cloud.listedSku location vmSize)
            session).outcome =
              .error (.failed (Cloud.reported (.listSkus location) (.fault fault))) := by
          rw [guarded_apply, Execution.renamed_failed_iff]
          refine ⟨.fault fault, ?_, rfl⟩
          unfold Cloud.listedSku
          rw [bind_apply_of_ok listed]
          simp only [nothing]
          rfl
        rw [bind_apply_of_error reported]
        rfl
  unfold Cloud.maxEphemeralGb
  rw [bind_apply_of_error finds]

end Catalogue

/-- The largest ephemeral disk of a VM size is decided by the capabilities of the first entry for the
size alone: whatever is listed before it and behind it, and whatever the listing ends in, makes no
difference. The last capability of a name counts. An entry that denies ephemeral disks, in any letter
case, or that gives no local storage or none above zero, has no capacity for them; one that gives a
positive integer of megabytes offers the whole gigabytes of it. Without an entry for the size, the
error of a service that the listing ends in is reported, any other fault is met as it is, and without
a fault the size is missing. -/
theorem ephemeral_maximum (vmSize : Text) : ∃ offered : List Capability → Except Stop Int,
    (∀ location session before item after ending,
      Streams session (before ++ item :: after) ending →
      (∀ other ∈ before, ¬ IsOffer vmSize other) → IsOffer vmSize item →
      (Cloud.maxEphemeralGb location vmSize session).outcome =
        offered (Sku.ofValue item).capabilities) ∧
    (∀ capabilities, Sku.Denies capabilities →
      offered capabilities = .error (.failed (.capacity (.ephemeralUnsupported vmSize)))) ∧
    (∀ capabilities, ¬ Sku.Denies capabilities →
      ((∀ other ∈ capabilities, other.name ≠ some Sku.storageName) →
        offered capabilities = .error (.failed (.capacity (.noLocalStorage vmSize)))) ∧
      ∀ value, Sku.LastGives capabilities Sku.storageName value →
        (value.isEmptyLike = true →
          offered capabilities = .error (.failed (.capacity (.noLocalStorage vmSize)))) ∧
        ∀ megabytes, value.IsInteger megabytes →
          (megabytes ≤ 0 →
            offered capabilities = .error (.failed (.capacity (.noLocalStorage vmSize)))) ∧
          (0 < megabytes → ∃ gigabytes, offered capabilities = .ok gigabytes ∧
            1024 * gigabytes ≤ megabytes ∧ megabytes < 1024 * (gigabytes + 1))) ∧
    ∀ location session items ending, Streams session items ending →
      (∀ other ∈ items, ¬ IsOffer vmSize other) →
      let outcome := (Cloud.maxEphemeralGb location vmSize session).outcome
      (∀ kind message, ending = some (.service kind message) →
        outcome = .error (.failed (.cloud (.failed (.listSkus location) kind message)))) ∧
      (∀ fault, ending = some fault → (∀ kind message, fault ≠ .service kind message) →
        outcome = .error (.failed (.fault fault))) ∧
      (ending = none → outcome = .error (.failed (.cloud (.vmSizeMissing vmSize location)))) := by
  refine ⟨Sku.offered vmSize, ?first, fun _ => Sku.offered_of_denies, ?measured, ?unlisted⟩
  case first =>
    intro location session before item after ending streams others offer
    rw [maxEphemeralGb_of_listed streams.sound (listedFor?_of_first streams others offer)]
    rfl
  case measured =>
    intro capabilities allows
    refine ⟨Sku.offered_of_missing allows, fun value gives => ⟨Sku.offered_of_empty allows gives, ?_⟩⟩
    intro megabytes integer
    have offers : Sku.offered vmSize capabilities = _ :=
      Sku.offered_of_integer allows gives integer
    constructor
    · intro nothing
      rw [offers, if_pos nothing]
    · intro positive
      rw [if_neg (by omega)] at offers
      refine ⟨_, offers, ?_, ?_⟩
      · unfold Sku.megabytesPerGigabyte
        omega
      · unfold Sku.megabytesPerGigabyte
        omega
  case unlisted =>
    intro location session items ending streams others outcome
    have ends : outcome = .error (.failed (unlisted location vmSize ending)) :=
      maxEphemeralGb_of_none streams others
    refine ⟨?_, ?_, ?_⟩
    · rintro kind message rfl
      exact ends
    · rintro fault rfl other
      rw [ends]
      cases fault with
      | service kind message => exact absurd rfl (other kind message)
      | _ => rfl
    · rintro rfl
      exact ends

/-! ## Endings and numbers that leave no answer -/

namespace Sku

/-- A text with too many digits is no measure, though it writes an integer. -/
theorem not_ephemeralGb_of_oversized {sku : Sku} {vmSize written : Text} {digits : List ℕ}
    {number : ℤ} (property : sku.property storageName = .text written)
    (writes : Number.WritesInteger written.points digits number)
    (tooMany : Number.mostDigits < digits.length) (gigabytes : ℤ) :
    sku.ephemeralGb vmSize ≠ .ok gigabytes := by
  intro offers
  obtain ⟨megabytes, gives, _⟩ := gives_of_ephemeralGb offers
  have read := Number.readInteger_of_writes writes
  rw [if_pos tooMany] at read
  unfold GivesMb at gives
  simp only [property, wholeOf?, read] at gives
  cases gives

end Sku

/-- A catalogue without items that ends in a fault of no service. -/
def brokenCatalogue : CloudScript := fun method =>
  match method with
  | .listSkus => [{ itemsFault := some (.runtime "refused") }]
  | _ => []

/-- An entry that gives its local storage as a text. -/
def entryStating (written : Text) : Value :=
  .dict [
    ("name", .text "Standard_D4ds_v5"),
    ("resource_type", .text "virtualMachines"),
    ("capabilities", .list [.dict [("name", .text Sku.storageName), ("value", .text written)]])]

/-- A catalogue with one entry. -/
def catalogueStating (written : Text) : CloudScript := fun method =>
  match method with
  | .listSkus => [{ items := [entryStating written] }]
  | _ => []

theorem separatedDigits_ones (more : ℕ) :
    Number.SeparatedDigits (List.replicate (more + 1) '1') (List.replicate (more + 1) 1) := by
  have one : Text.decimalDigit? '1' = some 1 := by decide
  induction more with
  | zero => exact .last one
  | succ more inductionHypothesis => exact .next one inductionHypothesis

/-- A run of ones that is longer than the limit. -/
theorem exists_oversized : ∃ (written : Text) (digits : List ℕ) (number : ℤ),
    Number.WritesInteger written.points digits number ∧ Number.mostDigits < digits.length ∧
      0 < number := by
  refine ⟨Text.ofPoints (List.replicate (Number.mostDigits + 1) '1'),
    List.replicate (Number.mostDigits + 1) 1,
    Number.valueOf (List.replicate (Number.mostDigits + 1) 1), ?writes, ?tooMany, ?positive⟩
  case writes =>
    rw [Text.points_ofPoints]
    exact (separatedDigits_ones _).writesInteger
  case tooMany =>
    rw [List.length_replicate]
    exact Nat.lt_succ_self _
  case positive =>
    unfold Number.valueOf
    rw [List.reverse_replicate, List.replicate_succ, Nat.ofDigits_cons]
    omega

/-- A listing that ends in a fault of no service does not tell that the size is missing, and a
positive integer of more digits than the limit does not give a maximum. -/
theorem not_all_catalogues_answer :
    (¬ ∀ location vmSize session items ending, Streams session items ending →
      (∀ other ∈ items, ¬ IsOffer vmSize other) →
      (∀ kind message, ending ≠ some (.service kind message)) →
      (Cloud.maxEphemeralGb location vmSize session).outcome =
        .error (.failed (.cloud (.vmSizeMissing vmSize location)))) ∧
    ¬ ∀ location vmSize session item ending written digits number, Streams session [item] ending →
      IsOffer vmSize item → ¬ Sku.Denies (Sku.ofValue item).capabilities →
      Sku.LastGives (Sku.ofValue item).capabilities Sku.storageName (.text written) →
      Number.WritesInteger written.points digits number → 0 < number →
      ∃ gigabytes, (Cloud.maxEphemeralGb location vmSize session).outcome = .ok gigabytes := by
  constructor
  · intro all
    let session : Session := .start brokenCatalogue 0 fun _ => 0
    have streams : Streams session [] (some (.runtime "refused")) := ⟨rfl, rfl, rfl⟩
    have missing := all "westeurope" "Standard_D4ds_v5" session [] _ streams (by simp) (by simp)
    cases missing.symm.trans (maxEphemeralGb_of_none streams (by simp))
  · intro all
    obtain ⟨written, digits, number, writes, tooMany, positive⟩ := exists_oversized
    let session : Session := .start (catalogueStating written) 0 fun _ => 0
    have streams : Streams session ([] ++ entryStating written :: []) none := ⟨rfl, rfl, rfl⟩
    have offer : IsOffer "Standard_D4ds_v5" (entryStating written) := rfl
    have capabilities : (Sku.ofValue (entryStating written)).capabilities =
        [⟨some Sku.storageName, .text written⟩] := rfl
    have gives : Sku.LastGives (Sku.ofValue (entryStating written)).capabilities Sku.storageName
        (.text written) := ⟨[], [], capabilities, by simp⟩
    have allows : ¬ Sku.Denies (Sku.ofValue (entryStating written)).capabilities := by
      rintro ⟨value, denial, _⟩
      have held := denial.mem
      rw [capabilities, List.mem_singleton, Capability.mk.injEq] at held
      exact absurd held.1 (by decide)
    obtain ⟨gigabytes, answer⟩ := all "westeurope" "Standard_D4ds_v5" session _ _ written _ _ streams
      offer allows gives writes positive
    obtain ⟨sku, listed, offers⟩ := maxEphemeralGb_of_ok answer
    rw [listedFor?_of_first streams (by simp) offer] at listed
    cases listed
    exact Sku.not_ephemeralGb_of_oversized (Sku.property_of_lastGives gives) writes tooMany _ offers

end RunnerCloud
