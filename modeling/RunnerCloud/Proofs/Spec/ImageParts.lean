import RunnerCloud.Proofs.Spec.Admission
import RunnerCloud.Proofs.Text.Trimming

/-!
Contract: which texts name an image, and which image they name.

Owns:
- the parts of a text between its separators: how many there are, and that none holds a separator;
- `Text.Visible`, texts that are more than blanks, and what trimming does to them and to texts
  without blank ends;
- `ImageReference.ofUrn?_eq_some_iff`: the parts of a text that names an image are four, all of them
  visible, and the image has them trimmed;
- `ImageReference.Sound`, what the fields of a named image are like, and `ofUrn?_urn`: written
  again, they name the same image.

Does not own: where the text comes from.
-/

namespace RunnerCloud

/-! ## Parts between separators -/

section Parts

variable {α : Type} [DecidableEq α] {separator : α} {items part : List α}

theorem length_splitOn (separator : α) (items : List α) :
    (items.splitOn separator).length = items.count separator + 1 := by
  induction items with
  | nil => rfl
  | cons item rest inductionHypothesis =>
      rw [List.splitOn_cons_eq_if_modifyHead, List.count_cons]
      split
      · rw [List.length_cons, inductionHypothesis]
      · rw [List.length_modifyHead, inductionHypothesis]

theorem not_mem_of_mem_splitOn (member : part ∈ items.splitOn separator) : separator ∉ part := by
  induction items generalizing part with
  | nil =>
      rw [List.splitOn_nil, List.mem_singleton] at member
      simp [member]
  | cons item rest inductionHypothesis =>
      rw [List.splitOn_cons_eq_if_modifyHead] at member
      split at member
      · rcases List.mem_cons.1 member with rfl | later
        · simp
        · exact inductionHypothesis later
      · rename_i differs
        -- The item is put in front of the first part of the rest.
        cases parts : rest.splitOn separator with
        | nil => exact absurd parts (List.splitOn_ne_nil separator rest)
        | cons first others =>
            rw [parts] at inductionHypothesis member
            rcases List.mem_cons.1 member with rfl | later
            · rw [List.mem_cons, not_or]
              exact ⟨fun same => differs (by simp [same]), inductionHypothesis List.mem_cons_self⟩
            · exact inductionHypothesis (List.mem_cons_of_mem first later)

end Parts

/-! ## Trimmed texts -/

namespace Text

/-- Something in the text is not blank. -/
def Visible (chars : List CodePoint) : Prop :=
  ∃ c ∈ chars, isBlank c = false

/-- Neither the first nor the last character is blank. -/
structure Flush (chars : List CodePoint) : Prop where
  head : ∀ c, chars.head? = some c → isBlank c = false
  last : ∀ c, chars.getLast? = some c → isBlank c = false

theorem points_trimmed (text : Text) :
    (trimmed text).points = trimmedChars isBlank text.points :=
  points_ofPoints _

theorem flush_trimmed (text : Text) : Flush (trimmed text).points := by
  have trims := trimsTo_trimmedChars isBlank text.points
  rw [points_trimmed]
  exact ⟨trims.head, trims.last⟩

theorem mem_of_mem_trimmed {text : Text} {c : CodePoint} (member : c ∈ (trimmed text).points) :
    c ∈ text.points := by
  obtain ⟨before, after, whole, -, -⟩ := (trimsTo_trimmedChars isBlank text.points).parts
  rw [points_trimmed] at member
  rw [whole]
  exact List.mem_append_left _ (List.mem_append_right _ member)

theorem dropWhile_of_head {cut : CodePoint → Bool} {chars : List CodePoint}
    (head : ∀ c, chars.head? = some c → cut c = false) : chars.dropWhile cut = chars := by
  cases chars with
  | nil => rfl
  | cons c rest => rw [List.dropWhile_cons_of_neg (by simp [head c rfl])]

theorem trimmed_of_flush {text : Text} (flush : Flush text.points) : trimmed text = text := by
  have behind : ∀ c, text.points.reverse.head? = some c → isBlank c = false := by
    intro c starts
    rw [List.head?_reverse] at starts
    exact flush.last c starts
  unfold trimmed trimmedBy trimmedChars
  rw [dropWhile_of_head flush.head, dropWhile_of_head behind, List.reverse_reverse,
    Text.ofPoints_points]

theorem trimmed_ne_empty_iff {text : Text} : trimmed text ≠ "" ↔ Visible text.points := by
  rw [Visible, ← trimmed_isEmpty_eq_false_iff, ← Bool.not_eq_true, Ne, Text.isEmpty_iff]

/-- A text without blank ends is visible unless it is empty. -/
theorem Flush.visible {text : Text} (flush : Flush text.points) (given : text ≠ "") :
    Visible text.points := by
  rw [← trimmed_ne_empty_iff, trimmed_of_flush flush]
  exact given

end Text

/-! ## Images -/

namespace ImageReference

variable {urn : Text} {image : ImageReference}

def fields (image : ImageReference) : List Text :=
  [image.publisher, image.offer, image.sku, image.version]

/-- What the fields of an image are like that a text names. -/
structure Sound (image : ImageReference) : Prop where
  given : ∀ field ∈ image.fields, field ≠ ""
  whole : ∀ field ∈ image.fields, .char ':' ∉ field.points
  flush : ∀ field ∈ image.fields, Text.Flush field.points

/-- The text in which four parts stand with colons between them. -/
def joined (publisher offer sku version : Text) : Text :=
  publisher ++ ":" ++ offer ++ ":" ++ sku ++ ":" ++ version

theorem splitOn_joined {publisher offer sku version : Text}
    (whole : ∀ part ∈ [publisher, offer, sku, version], .char ':' ∉ part.points) :
    (joined publisher offer sku version).points.splitOn (.char ':') =
      [publisher.points, offer.points, sku.points, version.points] := by
  have split : ([CodePoint.char ':'].intercalate [publisher.points, offer.points, sku.points,
      version.points]).splitOn (.char ':') = _ :=
    List.splitOn_intercalate (CodePoint.char ':') (by simpa using whole) (by simp)
  rw [← split]
  simp [joined, List.intercalate]

theorem parts_joined {publisher offer sku version : Text}
    (whole : ∀ part ∈ [publisher, offer, sku, version], .char ':' ∉ part.points) :
    parts (joined publisher offer sku version) =
      [Text.trimmed publisher, Text.trimmed offer, Text.trimmed sku, Text.trimmed version] := by
  unfold parts
  rw [splitOn_joined whole]
  rfl

/-- A text with three colons consists of four parts without any. -/
theorem exists_joined (three : urn.points.count (.char ':') = 3) :
    ∃ publisher offer sku version, urn = joined publisher offer sku version ∧
      urn.points.splitOn (.char ':') = [publisher, offer, sku, version].map Text.points ∧
      ∀ part ∈ [publisher, offer, sku, version], .char ':' ∉ part.points := by
  have length := length_splitOn (CodePoint.char ':') urn.points
  have whole : [CodePoint.char ':'].intercalate (urn.points.splitOn (.char ':')) = urn.points :=
    List.intercalate_splitOn (CodePoint.char ':')
  have separate : ∀ part ∈ urn.points.splitOn (.char ':'), .char ':' ∉ part :=
    fun _ => not_mem_of_mem_splitOn
  rw [three] at length
  generalize urn.points.splitOn (.char ':') = split at length whole separate ⊢
  match split, length with
  | [publisher, offer, sku, version], _ =>
      refine ⟨.ofPoints publisher, .ofPoints offer, .ofPoints sku, .ofPoints version, ?_, by simp, ?_⟩
      · rw [← Text.points_inj, ← whole]
        simp [joined, List.intercalate]
      · simpa using separate

theorem count_of_ofUrn? (reads : ofUrn? urn = some image) : urn.points.count (.char ':') = 3 := by
  have length : (parts urn).length = 4 := by
    unfold ofUrn? at reads
    split at reads
    · rename_i split
      rw [split]
      rfl
    · cases reads
  unfold parts at length
  rw [List.length_map, length_splitOn] at length
  omega

theorem ofUrn?_joined {publisher offer sku version : Text}
    (whole : ∀ part ∈ [publisher, offer, sku, version], .char ':' ∉ part.points) :
    ofUrn? (joined publisher offer sku version) = some image ↔
      (∀ part ∈ [publisher, offer, sku, version], Text.Visible part.points) ∧
        image = ⟨Text.trimmed publisher, Text.trimmed offer, Text.trimmed sku,
          Text.trimmed version⟩ := by
  unfold ofUrn?
  simp only [parts_joined whole, List.forall_mem_cons, ← Text.trimmed_ne_empty_iff]
  simp only [List.all_cons, List.all_nil, Bool.and_true, Bool.and_eq_true, Bool.not_eq_true',
    Option.ite_none_right_eq_some, Option.some.injEq, eq_comm (a := image)]
  simp [and_assoc]

/-- The parts of a text that names an image are four, they are visible, and the image has them
trimmed. -/
theorem ofUrn?_eq_some_iff : ofUrn? urn = some image ↔
    ∃ publisher offer sku version, urn = joined publisher offer sku version ∧
      (∀ part ∈ [publisher, offer, sku, version],
        .char ':' ∉ part.points ∧ Text.Visible part.points) ∧
      image = ⟨Text.trimmed publisher, Text.trimmed offer, Text.trimmed sku,
        Text.trimmed version⟩ := by
  constructor
  · intro reads
    obtain ⟨publisher, offer, sku, version, rfl, -, whole⟩ := exists_joined (count_of_ofUrn? reads)
    obtain ⟨visible, rfl⟩ := (ofUrn?_joined whole).1 reads
    exact ⟨publisher, offer, sku, version, rfl,
      fun part member => ⟨whole part member, visible part member⟩, rfl⟩
  · rintro ⟨publisher, offer, sku, version, rfl, parts, rfl⟩
    rw [ofUrn?_joined fun part member => (parts part member).1]
    exact ⟨fun part member => (parts part member).2, rfl⟩

/-- Exactly the texts with three colons and four visible parts name an image. -/
theorem exists_ofUrn?_iff : (∃ image, ofUrn? urn = some image) ↔
    urn.points.count (.char ':') = 3 ∧ ∀ part ∈ urn.points.splitOn (.char ':'), Text.Visible part := by
  constructor
  · rintro ⟨image, reads⟩
    have three := count_of_ofUrn? reads
    obtain ⟨publisher, offer, sku, version, rfl, split, whole⟩ := exists_joined three
    refine ⟨three, ?_⟩
    rw [split, List.forall_mem_map]
    exact ((ofUrn?_joined whole).1 reads).1
  · rintro ⟨three, visible⟩
    obtain ⟨publisher, offer, sku, version, rfl, split, whole⟩ := exists_joined three
    rw [split, List.forall_mem_map] at visible
    exact ⟨_, (ofUrn?_joined whole).2 ⟨visible, rfl⟩⟩

theorem sound_of_ofUrn? (reads : ofUrn? urn = some image) : image.Sound := by
  obtain ⟨publisher, offer, sku, version, -, parts, rfl⟩ := ofUrn?_eq_some_iff.1 reads
  have fields : ImageReference.fields ⟨Text.trimmed publisher, Text.trimmed offer,
      Text.trimmed sku, Text.trimmed version⟩ =
        [publisher, offer, sku, version].map Text.trimmed := rfl
  refine ⟨?_, ?_, ?_⟩ <;> rw [fields, List.forall_mem_map] <;> intro part member
  · exact Text.trimmed_ne_empty_iff.2 (parts part member).2
  · exact fun colon => (parts part member).1 (Text.mem_of_mem_trimmed colon)
  · exact Text.flush_trimmed part

/-- The written form of an image that a text names is read as the same image. -/
theorem ofUrn?_urn (sound : image.Sound) : ofUrn? image.urn = some image := by
  have same : ∀ field ∈ image.fields, Text.trimmed field = field :=
    fun field member => Text.trimmed_of_flush (sound.flush field member)
  simp only [fields, List.forall_mem_cons] at same
  refine (ofUrn?_joined sound.whole).2 ⟨?_, ?_⟩
  · exact fun field member => (sound.flush field member).visible (sound.given field member)
  · rw [same.1, same.2.1, same.2.2.1, same.2.2.2.1]

end ImageReference

end RunnerCloud
