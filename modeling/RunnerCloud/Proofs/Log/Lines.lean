import RunnerCloud.Log.Record
import RunnerCloud.Proofs.Json.Lines
import RunnerCloud.Proofs.Text.Joining

/-!
Contract: what can be read off a line of the log.

Owns:
- that no key occurs twice in a record, `LogRecord.shownEntries`, the entries that its line is read
  as, and `LogRecord.Tells`, what its context is about, by which each key shows its part;
- `Correlation.exists_identifier`: the identifier of a record is never empty;
- `LogRecord.line_decodes`: a record is one line of JSON, which stands for the document of the record
  with its texts joined and for nothing else.

Does not own: which records are written.
-/

namespace RunnerCloud

theorem Value.textualEntries_append (earlier later : Fields) :
    textualEntries (earlier ++ later) = (textualEntries earlier && textualEntries later) := by
  induction earlier with
  | nil => rfl
  | cons entry rest inductionHypothesis =>
      rw [List.cons_append, textualEntries, inductionHypothesis, textualEntries, Bool.and_assoc]

/-! ## Identifiers -/

namespace Correlation

theorem serialText_ne_empty (serial : Nat) : (serialText serial : Text) ≠ "" := by
  intro empty
  have chars := congrArg (fun text => text.points.length) empty
  simp only [serialText, Text.points_plain, List.length_map, String.toList_ofList,
    List.length_append, List.length_replicate, String.toList_empty, List.length_nil] at chars
  omega

/-- A record shows an identifier, and the one that is given unless that is empty. -/
theorem exists_identifier (requestId : Option Text) (serial : Nat) :
    ∃ identifier, (orGenerated (.ofText? requestId) serial).toValue = .text identifier ∧
      identifier ≠ "" ∧ ∀ given, requestId = some given → given ≠ "" → identifier = given := by
  have made : ∀ {identifier : Value}, identifier.isEmptyLike = true →
      (orGenerated identifier serial).toValue = .text (serialText serial) := by
    intro identifier empty
    rw [orGenerated, if_pos empty]
    rfl
  cases requestId with
  | none => exact ⟨_, made rfl, serialText_ne_empty serial, by simp⟩
  | some given =>
      by_cases empty : given = ""
      · refine ⟨_, made (by simp [Value.ofText?, Value.isEmptyLike, empty]),
          serialText_ne_empty serial, ?_⟩
        rintro other same present
        exact absurd empty (Option.some.inj same ▸ present)
      · refine ⟨given, ?_, empty, fun other same _ => Option.some.inj same⟩
        have present : ¬ (Value.ofText? (some given)).isEmptyLike = true := by
          simp [Value.ofText?, Value.isEmptyLike, empty]
        rw [orGenerated, if_neg present]
        rfl

end Correlation

/-! ## The document of a record -/

namespace LogRecord

/-- A part of the context is shown under its key unless it is missing. -/
theorem lookup_contextEntry (key other : Text) (part : Option Text) :
    (contextEntry key (.ofText? part)).lookup other =
      if other = key then part.map .text else none := by
  cases part with
  | none => simp [contextEntry, Value.ofText?]
  | some written =>
      show List.lookup other [(key, Value.text written)] = _
      rw [List.lookup_cons]
      by_cases same : other = key
      · rw [same, beq_self_eq_true, if_pos rfl]
        rfl
      · rw [beq_false_of_ne same, if_neg same]
        rfl

theorem keys_contextEntry (key : Text) (value : Value) :
    ((contextEntry key value).map Prod.fst).Sublist [key] := by
  cases value with
  | null => exact List.nil_sublist _
  | _ => exact List.Sublist.refl _

theorem textualEntries_contextEntry (key : Text) (value : Value) :
    Value.textualEntries (contextEntry key value) = value.isTextual := by
  cases value <;> simp [contextEntry, Value.textualEntries, Value.isTextual]

/-- The keys of records, in their order. -/
def keys : List Text := [
  "timestamp", "level", "logger", "message", "request_id", "instance", "step", "operation",
  "exception"]

theorem keys_sublist (record : LogRecord) (timestamp : Text) :
    ((record.toValue timestamp).entries.map Prod.fst).Sublist keys := by
  have context : (record.context.map Prod.fst).Sublist
      ["request_id", "instance", "step", "operation"] := by
    unfold context
    simp only [List.map_append]
    exact (((keys_contextEntry _ _).append (keys_contextEntry _ _)).append
      (keys_contextEntry _ _)).append (keys_contextEntry _ _)
  simp only [toValue, Value.entries, List.map_append]
  exact ((List.Sublist.refl (["timestamp", "level", "logger", "message"] : List Text)).append
    context).append (keys_contextEntry _ _)

theorem nodup_keys (record : LogRecord) (timestamp : Text) :
    ((record.toValue timestamp).entries.map Prod.fst).Nodup :=
  (by decide : keys.Nodup).sublist (keys_sublist record timestamp)

theorem areWhole_entries (record : LogRecord) (timestamp : Text) :
    Fields.areWhole (record.toValue timestamp).entries = true := by
  refine List.all_eq_true.2 fun entry member => ?_
  have known := (keys_sublist record timestamp).subset (List.mem_map_of_mem member)
  exact (by decide : ∀ key ∈ keys, key.isPlain = true) _ known

theorem isTextual_toValue {record : LogRecord}
    (correlation : record.correlation.toValue.isTextual = true)
    (instanceName : record.instanceName.isTextual = true) (step : record.step.isTextual = true)
    (operation : record.operation.isTextual = true) (timestamp : Text) :
    (record.toValue timestamp).isTextual = true := by
  have exception : (Value.ofText? record.exception).isTextual = true := by
    cases record.exception <;> rfl
  rw [toValue, Value.isTextual]
  simp only [Value.textualEntries_append, context, textualEntries_contextEntry, correlation,
    instanceName, step, operation, exception, Bool.and_true]
  rfl

/-- The document of a record as its line is read: under the same keys, with the texts joined. -/
theorem joined_toValue (record : LogRecord) (timestamp : Text) :
    (record.toValue timestamp).joined =
      .dict ((record.toValue timestamp).entries.map fun entry => (entry.1, entry.2.joined)) :=
  Value.joined_dict (areWhole_entries record timestamp) (nodup_keys record timestamp)

theorem isPlain_levelName (level : Int) : (LogLevel.name level).isPlain = true := by
  unfold LogLevel.name LogLevel.names
  simp only [List.lookup_cons]
  repeat' split
  all_goals rfl

/-! ## What a line is read as -/

/-- The entries that the line of a record is read as. -/
def shownEntries (record : LogRecord) (timestamp : Text) : Fields :=
  (record.toValue timestamp).entries.map fun entry => (entry.1, entry.2.joined)

/-- What the context of a record is about: each part is a text or missing. -/
structure Tells (record : LogRecord) (identifier : Text) (instanceName step operation : Option Text) :
    Prop where
  correlation : record.correlation.toValue = .ofText? (some identifier)
  instanceName : record.instanceName = .ofText? instanceName
  step : record.step = .ofText? step
  operation : record.operation = .ofText? operation

section Shown

variable {record : LogRecord} {identifier : Text} {instanceName step operation : Option Text}

/-- A line stands for the entries that are shown and for nothing else. -/
theorem isText_line_iff {timestamp : Text} (textual : (record.toValue timestamp).isTextual = true)
    (value : Value) :
    Json.IsText (Text.points (record.line timestamp)) value ↔
      value = .dict (record.shownEntries timestamp) := by
  rw [shownEntries, ← joined_toValue]
  constructor
  · exact Json.eq_of_isText_compact textual
  · rintro rfl
    exact Json.isText_compact textual

/-- The time, the severity, the logger and the message come first. -/
theorem get?_shown_of_head (timestamp : Text) {key written : Text}
    (listed : (key, written) ∈ ([("timestamp", timestamp), ("level", LogLevel.name record.level),
      ("logger", record.logger), ("message", record.message)] : List (Text × Text))) :
    (record.shownEntries timestamp).get? key = some (.text written.joined) := by
  have held : Fields.get? (record.toValue timestamp).entries key = some (.text written) := by
    simp only [List.mem_cons, Prod.mk.injEq, List.not_mem_nil, or_false] at listed
    rcases listed with ⟨rfl, rfl⟩ | ⟨rfl, rfl⟩ | ⟨rfl, rfl⟩ | ⟨rfl, rfl⟩ <;> rfl
  rw [shownEntries, Fields.get?_map_joined, held]
  rfl

namespace Tells

theorem isTextual_toValue (tells : record.Tells identifier instanceName step operation)
    (timestamp : Text) :
    (record.toValue timestamp).isTextual = true := by
  have textual (part : Option Text) : (Value.ofText? part).isTextual = true := by
    cases part <;> rfl
  refine LogRecord.isTextual_toValue ?_ ?_ ?_ ?_ timestamp
  · rw [tells.correlation, textual]
  · rw [tells.instanceName, textual]
  · rw [tells.step, textual]
  · rw [tells.operation, textual]

theorem get?_shown_of_context (tells : record.Tells identifier instanceName step operation)
    (timestamp : Text) {key : Text} {part : Option Text}
    (listed : (key, part) ∈ ([("request_id", some identifier), ("instance", instanceName),
      ("step", step), ("operation", operation)] : List (Text × Option Text))) :
    (record.shownEntries timestamp).get? key = part.map (.text ·.joined) := by
  have context : record.context = contextEntry "request_id" (.ofText? (some identifier)) ++
      contextEntry "instance" (.ofText? instanceName) ++ contextEntry "step" (.ofText? step) ++
      contextEntry "operation" (.ofText? operation) := by
    rw [LogRecord.context, tells.correlation, tells.instanceName, tells.step, tells.operation]
  have held : Fields.get? (record.toValue timestamp).entries key = part.map .text := by
    rw [Fields.get?, toValue, Value.entries, context]
    simp only [List.mem_cons, Prod.mk.injEq, List.not_mem_nil, or_false] at listed
    rcases listed with ⟨rfl, rfl⟩ | ⟨rfl, rfl⟩ | ⟨rfl, rfl⟩ | ⟨rfl, rfl⟩ <;>
      simp [List.lookup_append, lookup_contextEntry, List.lookup_cons]
  rw [shownEntries, Fields.get?_map_joined, held, Option.map_map]
  rfl

/-- The record of a logger tells what its caller says, under an identifier that is not empty. -/
theorem of_made {logger message : Text} {level : Int} {requestId handled : Option Text}
    {showsError : Bool} {serial : Nat}
    (made : LogContext.record?
      ⟨.ofText? requestId, .ofText? instanceName, .ofText? step, .ofText? operation, showsError⟩
      logger level message serial handled = some record) :
    (∃ identifier, record.Tells identifier instanceName step operation ∧ identifier ≠ "" ∧
      ∀ given, requestId = some given → given ≠ "" → identifier = given) ∧
    record.level = level ∧ record.logger = logger ∧ record.message = message := by
  obtain ⟨identifier, shown, present, kept⟩ := Correlation.exists_identifier requestId serial
  unfold LogContext.record? at made
  rw [Option.ite_none_right_eq_some] at made
  obtain rfl := Option.some.inj made.2
  exact ⟨⟨identifier, ⟨shown, rfl, rfl, rfl⟩, present, kept⟩, rfl, rfl, rfl⟩

end Tells

end Shown

/-- Whatever a record is about, its line is printable ASCII on one line, and JSON that stands for the
document of the record, its texts joined, and for nothing else. In it stand the message and, where
they are given, the instance, the step and the operation, and always an identifier that is not
empty, which is the given one unless that is empty. Each is letter for letter what was given, unless
a high half of a surrogate pair stands directly before a low one in it. -/
theorem line_decodes {logger message : Text} {level : Int}
    {requestId instanceName step operation handled : Option Text} {showsError : Bool} {serial : Nat}
    {record : LogRecord}
    (made : LogContext.record?
      ⟨.ofText? requestId, .ofText? instanceName, .ofText? step, .ofText? operation, showsError⟩
      logger level message serial handled = some record) (timestamp : Text) :
    let written := record.line timestamp
    Json.Printable written.toList ∧
    (∃ fields : Fields,
      (∀ value, Json.IsText (Text.points written) value ↔ value = .dict fields) ∧
      Json.parse written = .ok (.dict fields) ∧
      fields.get? "message" = some (.text message.joined) ∧
      fields.get? "level" = some (.text (LogLevel.name level)) ∧
      fields.get? "logger" = some (.text logger.joined) ∧
      fields.get? "instance" = instanceName.map (.text ·.joined) ∧
      fields.get? "step" = step.map (.text ·.joined) ∧
      fields.get? "operation" = operation.map (.text ·.joined) ∧
      ∃ identifier, fields.get? "request_id" = some (.text identifier) ∧ identifier ≠ "" ∧
        ∀ given, requestId = some given → given ≠ "" → identifier = given.joined) ∧
    ∀ text : Text, text.joined = text ↔ ¬ CodePoint.Paired text.points := by
  intro written
  obtain ⟨⟨identifier, tells, present, kept⟩, rfl, rfl, rfl⟩ := Tells.of_made made
  have textual := tells.isTextual_toValue timestamp
  have level : (record.shownEntries timestamp).get? "level" =
      some (.text (LogLevel.name record.level).joined) := get?_shown_of_head timestamp (by simp)
  have shown : (record.shownEntries timestamp).get? "request_id" =
      (some identifier).map (.text ·.joined) := tells.get?_shown_of_context timestamp (by simp)
  rw [Text.joined_of_isPlain (isPlain_levelName _)] at level
  refine ⟨Json.printable_compact textual, ⟨record.shownEntries timestamp, isText_line_iff textual,
    ?parsed, get?_shown_of_head timestamp (by simp), level, get?_shown_of_head timestamp (by simp),
    tells.get?_shown_of_context timestamp (by simp),
    tells.get?_shown_of_context timestamp (by simp),
    tells.get?_shown_of_context timestamp (by simp), identifier.joined, shown,
    fun empty => present (Text.joined_eq_empty_iff.1 empty),
    fun given same other => congrArg Text.joined (kept given same other)⟩,
    fun text => Text.joined_eq_self_iff⟩
  case parsed => exact Json.parse_of_isText ((isText_line_iff textual _).2 rfl)

/-- What a logger that is given nothing else makes of a message at the level of information. -/
theorem exists_made (context : LogContext) (message : Text) :
    ∃ record, context.record? providerLogger LogLevel.info message 0 none = some record := by
  have writable : Number.fits LogLevel.info = true := by decide +kernel
  unfold LogContext.record?
  rw [if_pos writable]
  exact ⟨_, rfl⟩

/-- A message with quotes, a line break, a control and characters outside the basic plane; the name of
the instance is empty, and so is the identifier. -/
theorem line_decodes_of_escapes :
    ∃ (record : LogRecord) (fields : Fields) (identifier : Text),
      LogContext.record? ⟨.ofText? (some ""), .ofText? (some ""), .ofText? none, .ofText? (some "%s"),
        false⟩ providerLogger LogLevel.info "\"100 %\"\n\u0001é😀" 0 none = some record ∧
      Json.parse (record.line "now") = .ok (.dict fields) ∧
      fields.get? "message" = some (.text "\"100 %\"\n\u0001é😀") ∧
      fields.get? "instance" = some (.text "") ∧ fields.get? "step" = none ∧
      fields.get? "request_id" = some (.text identifier) ∧ identifier ≠ "" := by
  obtain ⟨record, made⟩ := exists_made
    ⟨.ofText? (some ""), .ofText? (some ""), .ofText? none, .ofText? (some "%s"), false⟩
    "\"100 %\"\n\u0001é😀"
  obtain ⟨-, ⟨fields, -, reads, message, -, -, instanceName, step, -, identifier, shown, present, -⟩,
    -⟩ := line_decodes made "now"
  rw [Text.joined_plain] at message
  exact ⟨record, fields, identifier, made, reads, message, instanceName, step, shown, present⟩

/-- A message of the two halves of a character is read as the character, which is another text. -/
theorem halves_read_as_character :
    let message : Text := .broken "" 61 (.broken "" 1536 "")
    ∃ (record : LogRecord) (fields : Fields),
      LogContext.record? ⟨.null, .null, .null, .null, false⟩ providerLogger LogLevel.info message 0
        none = some record ∧
      Json.parse (record.line "now") = .ok (.dict fields) ∧
      fields.get? "message" = some (.text "😀") ∧ message ≠ "😀" := by
  intro message
  have writable : Number.fits LogLevel.info = true := by decide +kernel
  unfold LogContext.record?
  rw [if_pos writable]
  exact ⟨_, _, rfl, (Json.parse_compact (by decide)).trans (congrArg Except.ok (joined_toValue _ _)),
    by decide, by decide⟩

end LogRecord

end RunnerCloud
