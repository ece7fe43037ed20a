import SutraArbiter.Proofs.Payload
import SutraArbiter.Proofs.Schema

namespace SutraArbiter

namespace Entries

variable {entries : Entries} {name : String}

theorem get?_append (first second : Entries) (name : String) :
    get? (first ++ second) name = (first.get? name).or (second.get? name) := by
  unfold get? find?
  rw [List.find?_append, Option.map_or]

theorem get?_cons_text (key : String) (value : Datum) (rest : Entries) (name : String) :
    get? ((.text key, value) :: rest) name =
      if name = key then some value else rest.get? name := by
  unfold get? find?
  rw [List.find?_cons]
  by_cases hkey : key = name
  · simp [Datum.sameKey, hkey]
  · simp [Datum.sameKey, hkey, Ne.symm hkey]

theorem get?_nil (name : String) : get? [] name = none := rfl

end Entries

namespace Envelope

variable {envelope : Envelope} {name : String}

theorem get?_errorEntries (error : Option InputError) (name : String) :
    (errorEntries error).get? name =
      if name = "error" then error.map (fun error => .text error.code) else none := by
  cases error with
  | none => simp [errorEntries, Entries.get?_nil]
  | some error => simp [errorEntries, Entries.get?_cons_text, Entries.get?_nil]

/-- A payload takes none of the names that an envelope keeps. -/
theorem get?_payload_of_reserved (hfree : shadowed envelope.payload = [])
    (hname : name ∈ reservedNames) : envelope.payload.get? name = none := by
  have hnot := List.filter_eq_nil_iff.mp hfree name hname
  rw [Entries.has, Bool.not_eq_true, Option.isSome_eq_false_iff] at hnot
  exact Option.isNone_iff_eq_none.mp hnot

/-- An envelope answers under its own names, and under any other name by its payload. -/
theorem get?_toEntries (hname : name ∉ reservedNames) :
    envelope.toEntries.get? name = envelope.payload.get? name := by
  simp only [reservedNames, List.mem_cons, List.not_mem_nil, or_false, not_or] at hname
  simp [toEntries, Entries.get?_append, Entries.get?_cons_text, Entries.get?_nil,
    get?_errorEntries, hname]

theorem get?_toEntries_applied (envelope : Envelope) :
    envelope.toEntries.get? "applied" = some (.bool envelope.applied) := rfl

theorem get?_toEntries_sutra (envelope : Envelope) :
    envelope.toEntries.get? "sutra" = some (optionalText envelope.sutra) := rfl

theorem get?_toEntries_reason (envelope : Envelope) :
    envelope.toEntries.get? "reason" = some envelope.reason := rfl

theorem get?_toEntries_error (hfree : shadowed envelope.payload = []) :
    envelope.toEntries.get? "error" = envelope.error.map fun error => .text error.code := by
  have hpayload := get?_payload_of_reserved hfree (show "error" ∈ reservedNames by decide)
  simp [toEntries, Entries.get?_append, Entries.get?_cons_text, Entries.get?_nil,
    get?_errorEntries, hpayload]

end Envelope

namespace Schema

@[simp] theorem boolean_bool (b : Bool) : boolean (.bool b) = true := rfl

@[simp] theorem text_text (s : String) : text (.text s) = true := rfl

theorem share_float {x : Double} : share (.float x) = x.level.isShare := by
  simp [share, all, number, atLeast, atMost, Level.isShare]

theorem position_int {i : Int} : position (.int i) = true ↔ 0 ≤ i := by
  simp [position, all, integer, atLeast]

theorem tier_name (given : Tier) : tier (.text given.name) = true := by
  cases given <;> rfl

theorem trace_traceDatum {line : Trace} :
    trace (Envelope.traceDatum line) = true ↔
      line.confidence.level.isShare = true ∧ 1 ≤ line.rank := by
  have hrank : (1 : Int) ≤ line.rank ↔ 1 ≤ line.rank := by omega
  simp [trace, traceNames, Envelope.traceDatum, all, object, Datum.isMap, required, only, fields,
    Entries.has, Entries.keys, Entries.get?_cons_text, Datum.sameKey_text, text, Datum.isText,
    tier_name, position_int, share_float, integer, atLeast, hrank]

theorem diagnostic_diagnosticDatum (told : Diagnostic) :
    diagnostic (Envelope.diagnosticDatum told) = true := by
  cases told with
  | mk code ruleId message => cases code <;> rfl

theorem listOf_map {α : Type} {item : Schema} {tell : α → Datum} {given : List α} :
    listOf item (.list (given.map tell)) = true ↔ ∀ x ∈ given, item (tell x) = true := by
  simp [listOf]

theorem sutra_optionalText {sutra : Option String} :
    exactlyOne (all [text, numeral]) null (Envelope.optionalText sutra) = true ↔
      ∀ id, sutra = some id → isNumeral id = true := by
  cases sutra with
  | none => simp [Envelope.optionalText, exactlyOne, all, text, Datum.isText, null, Datum.isNull]
  | some id =>
      simp [Envelope.optionalText, exactlyOne, all, text, Datum.isText, null, Datum.isNull, numeral]

theorem tier_optionalText (given : Option Tier) :
    exactlyOne tier null (Envelope.optionalText (given.map Tier.name)) = true := by
  cases given with
  | none => rfl
  | some given => cases given <;> rfl

theorem script_optionalText (given : Option Script) :
    exactlyOne (oneOf ["Devanagari", "IAST", "Unknown"]) null
      (Envelope.optionalText (given.map Script.name)) = true := by
  cases given with
  | none => rfl
  | some given => cases given <;> rfl

theorem error_code (error : InputError) :
    oneOf ["TYPE_ERROR", "EMPTY_INPUT", "INVALID_SCRIPT", "INVALID_CONTEXT"]
      (.text error.code) = true := by
  cases error <;> rfl

theorem wording {d : Datum} :
    all [text, nonempty] d = true ↔ ∃ reason, d = .text reason ∧ reason ≠ "" := by
  cases d <;> simp [all, text, Datum.isText, nonempty]

theorem fields_append (first second : List (String × Schema)) (d : Datum) :
    fields (first ++ second) d = (fields first d && fields second d) := by
  cases d <;> simp [fields]

end Schema

namespace Envelope

variable {envelope : Envelope}

theorem fields_ownFields (hfree : shadowed envelope.payload = []) :
    Schema.fields Schema.ownFields envelope.toDatum = true ↔
      (∀ id, envelope.sutra = some id → Schema.isNumeral id = true)
        ∧ (∃ reason, envelope.reason = .text reason ∧ reason ≠ "")
        ∧ envelope.confidence.level.isShare = true
        ∧ ∀ line ∈ envelope.trace, line.confidence.level.isShare = true ∧ 1 ≤ line.rank := by
  have hreserved : ∀ name ∈ reservedNames, envelope.payload.get? name = none := fun name =>
    get?_payload_of_reserved hfree
  have herror : (envelope.error.map fun error => Datum.text error.code).all
      (Schema.oneOf ["TYPE_ERROR", "EMPTY_INPUT", "INVALID_SCRIPT", "INVALID_CONTEXT"]) =
        true := by
    cases envelope.error with
    | none => rfl
    | some error => exact Schema.error_code error
  simp only [reservedNames, List.forall_mem_cons] at hreserved
  simp [Schema.fields, Schema.ownFields, toDatum, toEntries, Entries.get?_append,
    Entries.get?_cons_text, Entries.get?_nil, get?_errorEntries, hreserved, herror,
    Schema.sutra_optionalText, Schema.wording, Schema.share_float, Schema.tier_optionalText,
    Schema.script_optionalText, Schema.listOf_map, Schema.trace_traceDatum,
    Schema.diagnostic_diagnosticDatum]

theorem fields_payloadFields (envelope : Envelope) :
    Schema.fields Schema.payloadFields envelope.toDatum =
      Schema.fields Schema.payloadFields (.map envelope.payload) := by
  have hfree : ∀ field ∈ Schema.payloadFields, field.1 ∉ reservedNames := by
    simp [Schema.payloadFields, reservedNames]
  unfold Schema.fields toDatum
  dsimp only
  rw [Bool.eq_iff_iff, List.all_eq_true, List.all_eq_true]
  refine forall₂_congr fun field hfield => ?_
  rw [get?_toEntries (hfree field hfield)]

theorem required_toDatum (envelope : Envelope) :
    Schema.required ["applied", "sutra", "mandatory", "reason", "confidence",
      "priority_class", "explanation", "script", "trace", "diagnostics"] envelope.toDatum =
        true := by
  simp [Schema.required, toDatum, toEntries, Entries.has, Entries.get?_append,
    Entries.get?_cons_text]

theorem appliedClause_toDatum :
    Schema.appliedClause envelope.toDatum = true ↔
      (envelope.applied = true → envelope.sutra.isSome = true
        ∧ Schema.required ["retained_indices", "dropped_indices"]
          (.map envelope.payload) = true) := by
  have happlied : Schema.fields [("applied", Schema.yes)] envelope.toDatum = envelope.applied := by
    simp [Schema.fields, toDatum, get?_toEntries_applied, Schema.yes]
  have hsutra : Schema.fields [("sutra", Schema.text)] envelope.toDatum =
      envelope.sutra.isSome := by
    cases hgiven : envelope.sutra <;>
      simp [Schema.fields, toDatum, get?_toEntries_sutra, hgiven, optionalText, Schema.text,
        Datum.isText]
  have hrequired : Schema.required ["retained_indices", "dropped_indices"] envelope.toDatum =
      Schema.required ["retained_indices", "dropped_indices"] (.map envelope.payload) := by
    simp [Schema.required, toDatum, Entries.has, get?_toEntries, reservedNames]
  have hclause : Schema.appliedClause envelope.toDatum =
      (!envelope.applied || envelope.sutra.isSome
        && Schema.required ["retained_indices", "dropped_indices"] (.map envelope.payload)) := by
    simp [Schema.appliedClause, Schema.whenever, Schema.all, happlied, hsutra, hrequired]
  rw [hclause]
  cases envelope.applied <;> simp

theorem invalidClause_toDatum (hfree : shadowed envelope.payload = []) :
    Schema.invalidClause envelope.toDatum = true ↔
      (envelope.reason = .text "invalid-input" → envelope.error.isSome = true) := by
  have hreason : Schema.fields [("reason", Schema.oneOf ["invalid-input"])] envelope.toDatum =
      true ↔ envelope.reason = .text "invalid-input" := by
    cases hgiven : envelope.reason <;>
      simp [Schema.fields, toDatum, get?_toEntries_reason, hgiven, Schema.oneOf]
  have herror : Schema.required ["error"] envelope.toDatum = envelope.error.isSome := by
    simp [Schema.required, toDatum, Entries.has, get?_toEntries_error hfree]
  unfold Schema.invalidClause Schema.whenever
  rw [Bool.or_eq_true, herror, Bool.not_eq_true', ← hreason]
  cases Schema.fields [("reason", Schema.oneOf ["invalid-input"])] envelope.toDatum <;> simp

theorem conforms_iff (hfree : shadowed envelope.payload = []) :
    Schema.resolution envelope.toDatum = true ↔
      (∀ id, envelope.sutra = some id → Schema.isNumeral id = true)
        ∧ (∃ reason, envelope.reason = .text reason ∧ reason ≠ "")
        ∧ envelope.confidence.level.isShare = true
        ∧ (∀ line ∈ envelope.trace, line.confidence.level.isShare = true ∧ 1 ≤ line.rank)
        ∧ Schema.fields Schema.payloadFields (.map envelope.payload) = true
        ∧ (envelope.applied = true → envelope.sutra.isSome = true
          ∧ Schema.required ["retained_indices", "dropped_indices"]
            (.map envelope.payload) = true)
        ∧ (envelope.reason = .text "invalid-input" → envelope.error.isSome = true) := by
  have hobject : Schema.object envelope.toDatum = true := rfl
  unfold Schema.resolution
  rw [Schema.all]
  simp only [List.all_cons, List.all_nil, hobject, required_toDatum, Schema.fields_append,
    Bool.and_eq_true, fields_ownFields hfree, fields_payloadFields, appliedClause_toDatum,
    invalidClause_toDatum hfree, true_and, and_true, and_assoc]

end Envelope

end SutraArbiter
