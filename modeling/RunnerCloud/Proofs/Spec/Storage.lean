import RunnerCloud.Cloud.Sku
import RunnerCloud.Failure
import RunnerCloud.Spec.DiskSize

/-!
Contract: what a catalogue entry and the demand for a disk come to.

Owns:
- `Sku.GivesMb`, the local storage that a catalogue entry gives, and `Sku.ephemeralGb_of_gives`: an
  entry that supports ephemeral disks offers the whole gigabytes of it;
- `DiskDemand.resolve_ok`, `DiskDemand.resolve_of_unusable` and `DiskDemand.resolve_of_tooMuch`: a
  demand is met inside of what is usable, and only there;
- `Failure.ofCapacity_of_small`, `Failure.ofCapacity_of_fits` and `Failure.ofCapacity_of_tooLong`:
  whether the message about a disk that does not fit can be written.

Does not own: which catalogue entry is meant.
-/

namespace RunnerCloud

namespace Sku

variable {sku : Sku} {vmSize : Text} {megabytes : Int}

/-- The entry gives its local storage as a whole number of megabytes. -/
def GivesMb (sku : Sku) (megabytes : Int) : Prop :=
  wholeOf? (sku.property storageName) = .ok (some megabytes)

/-- What counts as not given is no number but zero. -/
theorem wholeOf?_of_emptyLike {value : Value} (empty : value.isEmptyLike = true)
    (whole : wholeOf? value = .ok (some megabytes)) : megabytes = 0 := by
  cases value with
  | bool flag =>
      cases flag with
      | false => exact (Option.some.inj (Except.ok.inj whole)).symm
      | true => cases empty
  | int number =>
      have zero : number = 0 := by simpa [Value.isEmptyLike] using empty
      rw [← zero]
      exact (Option.some.inj (Except.ok.inj whole)).symm
  | float number =>
      cases number with
      | finite negative significand exponent =>
          have zero : significand = 0 := by
            simpa [Value.isEmptyLike, Number.Binary64.isZero] using empty
          simpa [wholeOf?, Number.Binary64.truncated?, zero, eq_comm] using whole
      | infinite negative => cases empty
      | notANumber => cases empty
  | text written =>
      have blank : written = "" := by simpa [Value.isEmptyLike] using empty
      subst blank
      have unreadable : Number.readInteger "" = .error .malformed := rfl
      simp [wholeOf?, unreadable] at whole
  | null => cases whole
  | moment written => cases empty
  | list items => cases whole
  | dict entries => cases whole

theorem ephemeralGb_of_gives (supports : sku.supportsEphemeral = true)
    (gives : sku.GivesMb megabytes) :
    sku.ephemeralGb vmSize =
      if megabytes ≤ 0 then .error (.capacity (.noLocalStorage vmSize))
      else .ok (megabytes / megabytesPerGigabyte) := by
  unfold ephemeralGb storageMb?
  rw [if_neg (by simp [supports])]
  by_cases empty : (sku.property storageName).isEmptyLike = true
  · have zero := wholeOf?_of_emptyLike empty gives
    simp [empty, zero]
  · have whole : wholeOf? (sku.property storageName) = .ok (some megabytes) := gives
    simp [empty, whole]

theorem gives_of_ephemeralGb {maximumGb : Int} (offers : sku.ephemeralGb vmSize = .ok maximumGb) :
    ∃ megabytes, sku.GivesMb megabytes ∧ maximumGb = megabytes / megabytesPerGigabyte := by
  unfold ephemeralGb at offers
  split at offers
  · cases offers
  · split at offers
    · cases offers
    · cases offers
    · rename_i megabytes measured
      split at offers
      · cases offers
      · refine ⟨megabytes, ?_, (Except.ok.inj offers).symm⟩
        simp only [storageMb?] at measured
        split at measured
        · cases measured
        · exact measured

end Sku

namespace DiskDemand

variable {demand : DiskDemand} {maximumGb sizeGb : Int}

/-- An ephemeral demand that is met: what was asked for, or everything when nothing was. -/
theorem resolve_ok (ephemeral : demand.ephemeral = true) (asked : 0 ≤ demand.requestedGb)
    (meets : demand.resolve maximumGb = .ok sizeGb) :
    1 ≤ sizeGb ∧ sizeGb ≤ demand.usableGb maximumGb ∧
      sizeGb = if demand.requestedGb = 0 then demand.usableGb maximumGb else demand.requestedGb := by
  unfold resolve at meets
  simp only [ephemeral, Bool.not_true, Bool.false_eq_true, if_false, beq_iff_eq] at meets
  split at meets
  · cases meets
  · split at meets
    · rename_i room nothing
      cases meets
      rw [if_pos nothing]
      omega
    · split at meets
      · cases meets
      · rename_i room something fits
        cases meets
        rw [if_neg something]
        omega

theorem resolve_of_unusable (ephemeral : demand.ephemeral = true)
    (unusable : demand.usableGb maximumGb < 1) :
    demand.resolve maximumGb =
      .error (.noUsableStorage demand.vmSize (demand.usableGb maximumGb)) := by
  unfold resolve
  simp only [ephemeral, Bool.not_true, Bool.false_eq_true, if_false]
  exact if_pos unusable

theorem resolve_of_tooMuch (ephemeral : demand.ephemeral = true)
    (usable : 1 ≤ demand.usableGb maximumGb)
    (tooMuch : demand.usableGb maximumGb < demand.requestedGb) :
    demand.resolve maximumGb =
      .error (.exceedsMaximum demand.vmSize (demand.usableGb maximumGb) demand.requestedGb) := by
  unfold resolve
  simp only [ephemeral, Bool.not_true, Bool.false_eq_true, if_false, beq_iff_eq]
  rw [if_neg (by omega), if_neg (by omega), if_pos tooMuch]

end DiskDemand

/-! ## Messages about disks that do not fit -/

namespace Number

theorem fits_of_le {number larger : Int} (le : number.natAbs ≤ larger.natAbs)
    (fits : fits larger = true) : Number.fits number = true := by
  unfold Number.fits at fits ⊢
  rw [decide_eq_true_iff] at fits ⊢
  exact Nat.lt_of_le_of_lt le fits

theorem fits_one : fits 1 = true := by
  decide +kernel

end Number

namespace Failure

variable {vmSize : Text} {usableGb requestedGb : Int}

/-- Hardly any usable storage is a short number. -/
theorem ofCapacity_of_small (least : -1 ≤ usableGb) (unusable : usableGb < 1) :
    ofCapacity (.noUsableStorage vmSize usableGb) =
      .capacity (.noUsableStorage vmSize usableGb) := by
  have fits : Number.fits usableGb = true :=
    Number.fits_of_le (by omega) Number.fits_one
  unfold ofCapacity CapacityProblem.numbers
  rw [if_pos (by simp [fits])]

theorem ofCapacity_of_fits (usable : 1 ≤ usableGb) (tooMuch : usableGb < requestedGb)
    (fits : Number.fits requestedGb = true) :
    ofCapacity (.exceedsMaximum vmSize usableGb requestedGb) =
      .capacity (.exceedsMaximum vmSize usableGb requestedGb) := by
  have fitsUsable : Number.fits usableGb = true := Number.fits_of_le (by omega) fits
  unfold ofCapacity CapacityProblem.numbers
  rw [if_pos (by simp [fits, fitsUsable])]

theorem ofCapacity_of_tooLong (tooLong : Number.fits requestedGb = false) :
    ofCapacity (.exceedsMaximum vmSize usableGb requestedGb) = .unwritableInteger := by
  unfold ofCapacity CapacityProblem.numbers
  rw [if_neg (by simp [tooLong])]

end Failure

end RunnerCloud
