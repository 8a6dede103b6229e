import RunnerCloud.Payload.InstallScript

/-!
Contract: templates as they are written, with dollar signs, and their expansion in one pass.

Owns:
- `expand`, which reads a written template once: two dollar signs stand for one, a dollar sign and a
  name for the value of the name, and no value is read again;
- `Template.source`, a template as it is written, and `expand_source`: its expansion is the filled
  template, whatever the values are;
- the names of the slots of the install script.

Does not own: names in braces; no template has any.
-/

namespace RunnerCloud.Payload

/-! ## Expansion -/

def isNameStart : CodePoint → Bool
  | .char c => c.isAlpha || c == '_'
  | .half _ => false

def isNameChar (c : CodePoint) : Bool :=
  c.isAlphanum || c == '_'

/-- Where an expansion stands: in fixed text, behind a dollar sign, or in a name. -/
inductive Reading where
  | plain
  | dollar
  | name (letters : List CodePoint)

/-- Reads every character of a written template once. `none` when a dollar sign stands alone or a
name has no value. -/
def expandFrom (values : List CodePoint → Option Text) :
    Reading → List CodePoint → Option (List CodePoint)
  | .plain, [] => some []
  | .plain, c :: rest =>
    if c == '$' then expandFrom values .dollar rest
    else (expandFrom values .plain rest).map (c :: ·)
  | .dollar, [] => none
  | .dollar, c :: rest =>
    if c == '$' then (expandFrom values .plain rest).map (.char '$' :: ·)
    else if isNameStart c then expandFrom values (.name [c]) rest
    else none
  | .name letters, [] => (values letters).map Text.points
  | .name letters, c :: rest =>
    if isNameChar c then expandFrom values (.name (letters ++ [c])) rest
    else
      (values letters).bind fun value =>
        if c == '$' then (expandFrom values .dollar rest).map (value.points ++ ·)
        else (expandFrom values .plain rest).map (value.points ++ c :: ·)

def expand (values : List CodePoint → Option Text) (source : List CodePoint) :
    Option (List CodePoint) :=
  expandFrom values .plain source

/-- A text in front of which a name ends. -/
def EndsName (rest : List CodePoint) : Prop :=
  ∀ c ∈ rest.head?, isNameChar c = false

variable {values : List CodePoint → Option Text}

theorem expandFrom_dollar (rest : List CodePoint) :
    expandFrom values .plain (.char '$' :: rest) = expandFrom values .dollar rest := rfl

theorem expandFrom_dollars (rest : List CodePoint) :
    expandFrom values .plain (.char '$' :: .char '$' :: rest) =
      (expandFrom values .plain rest).map (.char '$' :: ·) := rfl

theorem expandFrom_letters {letters : List CodePoint} (named : letters.all isNameChar = true)
    (before rest : List CodePoint) :
    expandFrom values (.name before) (letters ++ rest) =
      expandFrom values (.name (before ++ letters)) rest := by
  induction letters generalizing before with
  | nil => rw [List.nil_append, List.append_nil]
  | cons c letters inductionHypothesis =>
      rw [List.all_cons, Bool.and_eq_true] at named
      rw [List.cons_append, expandFrom, if_pos named.1, inductionHypothesis named.2,
        List.append_assoc, List.cons_append, List.nil_append]

/-- Behind a name its value stands, and what follows is read on as text of the template. -/
theorem expandFrom_ends {letters rest : List CodePoint} {value : Text}
    (valued : values letters = some value) (ends : EndsName rest) :
    expandFrom values (.name letters) rest =
      (expandFrom values .plain rest).map (value.points ++ ·) := by
  cases rest with
  | nil => simp [expandFrom, valued]
  | cons c rest =>
      have noName : ¬ isNameChar c = true := by simp [ends c rfl]
      simp only [expandFrom, if_neg noName, valued, Option.bind_some]
      by_cases dollar : (c == '$') = true
      · rw [if_pos dollar, if_pos dollar]
      · rw [if_neg dollar, if_neg dollar, Option.map_map]
        rfl

theorem expandFrom_name {name rest : List CodePoint} {value : Text} {first : CodePoint}
    {others : List CodePoint} (spelled : name = first :: others) (starts : isNameStart first = true)
    (continues : others.all isNameChar = true) (valued : values name = some value)
    (ends : EndsName rest) :
    expandFrom values .plain (.char '$' :: (name ++ rest)) =
      (expandFrom values .plain rest).map (value.points ++ ·) := by
  have noDollar : ¬ (first == '$') = true := by
    intro isDollar
    rw [beq_iff_eq.1 isDollar] at starts
    cases starts
  subst spelled
  rw [expandFrom_dollar, List.cons_append, expandFrom, if_neg noDollar, if_pos starts,
    expandFrom_letters continues, List.cons_append, List.nil_append, expandFrom_ends valued ends]

/-! ## Written templates -/

/-- Fixed text as it is written, every dollar sign twice. -/
def doubled (fixed : List CodePoint) : List CodePoint :=
  fixed.flatMap fun (c : CodePoint) => if c == '$' then [.char '$', .char '$'] else [c]

theorem expandFrom_doubled (fixed rest : List CodePoint) :
    expandFrom values .plain (doubled fixed ++ rest) =
      (expandFrom values .plain rest).map (fixed ++ ·) := by
  induction fixed with
  | nil =>
      show expandFrom values .plain rest = (expandFrom values .plain rest).map id
      rw [Option.map_id, id]
  | cons c fixed inductionHypothesis =>
      by_cases dollar : (c == '$') = true
      · have written : doubled (c :: fixed) = .char '$' :: .char '$' :: doubled fixed := by
          rw [doubled, List.flatMap_cons, if_pos dollar]
          rfl
        rw [written, List.cons_append, List.cons_append, expandFrom_dollars, inductionHypothesis,
          Option.map_map, beq_iff_eq.1 dollar]
        rfl
      · have written : doubled (c :: fixed) = c :: doubled fixed := by
          rw [doubled, List.flatMap_cons, if_neg dollar]
          rfl
        rw [written, List.cons_append, expandFrom, if_neg dollar, inductionHypothesis,
          Option.map_map]
        rfl

namespace Template

variable {Slot : Type}

/-- A template as it is written, with a dollar sign and a name for every slot. -/
def source (nameOf : Slot → Text) : Template Slot → List CodePoint
  | [] => []
  | .text fixed :: rest => doubled fixed.points ++ source nameOf rest
  | .slot name :: rest => .char '$' :: ((nameOf name).points ++ source nameOf rest)

/-- Every name ends where its slot ends. -/
def separated (nameOf : Slot → Text) : Template Slot → Bool
  | [] => true
  | .text _ :: rest => separated nameOf rest
  | .slot _ :: rest =>
    (source nameOf rest).head?.all (fun c => !isNameChar c) && separated nameOf rest

/-- A name that can be written in a template. -/
def isName (name : Text) : Bool :=
  match name.points with
  | [] => false
  | first :: others => isNameStart first && others.all isNameChar

/-- Reading a written template once gives the filled template. The values are arbitrary: what they
hold is not read. -/
theorem expand_source {nameOf : Slot → Text} (named : ∀ slot, isName (nameOf slot) = true)
    {content : Slot → Text} (valued : ∀ slot, values (nameOf slot).points = some (content slot))
    {template : Template Slot} (apart : template.separated nameOf = true) :
    expand values (template.source nameOf) = some (template.fill content).points := by
  rw [expand]
  induction template with
  | nil => rfl
  | cons piece rest inductionHypothesis =>
      cases piece with
      | text fixed =>
          rw [source, expandFrom_doubled, inductionHypothesis apart, Option.map_some,
            fill, fillPiece, Text.points_append]
      | slot name =>
          rw [separated, Bool.and_eq_true] at apart
          have ends : EndsName (source nameOf rest) := by
            intro c isHead
            have noName := apart.1
            rw [Option.mem_def.1 isHead, Option.all_some] at noName
            simpa using noName
          have spelled := named name
          rw [isName] at spelled
          cases letters : (nameOf name).points with
          | nil => simp [letters] at spelled
          | cons first others =>
              rw [letters, Bool.and_eq_true] at spelled
              rw [source, expandFrom_name letters spelled.1 spelled.2 (valued name) ends,
                inductionHypothesis apart.2, Option.map_some, fill, fillPiece, Text.points_append]

example : expand (fun _ => some "$labels $$") (Text.points "$$x=$labels!") =
    some (Text.points "$x=$labels $$!") := by decide

end Template

/-! ## The install script -/

namespace InstallSlot

def placeholder : InstallSlot → Text
  | .callbackUrl => "callback_url"
  | .metadataUrl => "metadata_url"
  | .bearerToken => "bearer_token"
  | .runnerName => "runner_name"
  | .runnerHome => "runner_home"
  | .downloadUrl => "download_url"
  | .filename => "filename"
  | .tempToken => "temp_token"
  | .checksum => "checksum"
  | .configure => "configure"

def all : List InstallSlot :=
  [.callbackUrl, .metadataUrl, .bearerToken, .runnerName, .runnerHome, .downloadUrl, .filename,
    .tempToken, .checksum, .configure]

end InstallSlot

namespace TokenSlot

def placeholder : TokenSlot → Text
  | .repoUrl => "repo_url"
  | .labels => "labels"
  | .runnerGroup => "runner_group"

def all : List TokenSlot := [.repoUrl, .labels, .runnerGroup]

end TokenSlot

/-- The values by name of the slots of a template. -/
def valuesOf {Slot : Type} (slots : List Slot) (nameOf : Slot → Text) (content : Slot → Text)
    (letters : List CodePoint) : Option Text :=
  (slots.find? fun slot => (nameOf slot).points == letters).map content

theorem expand_installTemplate (content : InstallSlot → Text) :
    expand (valuesOf InstallSlot.all InstallSlot.placeholder content)
        (installTemplate.source InstallSlot.placeholder) =
      some (Template.fill installTemplate content).points := by
  refine Template.expand_source ?_ ?_ ?_
  · intro slot
    cases slot <;> decide
  · intro slot
    cases slot <;> rfl
  · decide +kernel

theorem expand_tokenTemplate (content : TokenSlot → Text) :
    expand (valuesOf TokenSlot.all TokenSlot.placeholder content)
        (tokenTemplate.source TokenSlot.placeholder) =
      some (Template.fill tokenTemplate content).points := by
  refine Template.expand_source ?_ ?_ ?_
  · intro slot
    cases slot <;> decide
  · intro slot
    cases slot <;> rfl
  · decide +kernel

end RunnerCloud.Payload
