import SutraArbiter.Proofs.Arbitration
import SutraArbiter.Proofs.Strategy.Division
import SutraArbiter.Proofs.Strategy.Verdict

namespace SutraArbiter

theorem Entries.has_eq_true {entries : Entries} {name : String} :
    entries.has name = true ↔ ∃ entry ∈ entries, entry.1 = .text name := by
  unfold Entries.has Entries.get? Entries.find?
  rw [Option.isSome_map, List.find?_isSome]
  simp only [Datum.sameKey_text]

namespace Payload

variable {words : List Word} {selection : Selection} {settings : Entries}

/-- The names under which a payload tells positions and the words at them. -/
def placeNames : List String :=
  ["retained_indices", "retained_index", "dropped_indices", "retained_forms",
    "dropped_forms"]

/-- The payload with nothing told under the names of positions and words. -/
def unplaced (payload : Entries) : Entries :=
  payload.map fun entry =>
    if placeNames.any fun name => entry.1.sameKey (.text name) then (entry.1, .null)
    else entry

/-- The payload of a selection, with the words at its positions. -/
def ofForms (selection : Selection) (settings : Entries) (retained dropped : List Datum) :
    Entries :=
  [(.text "retained_indices", .list (selection.retain.map .int)),
    (.text "retained_index", (selection.retain.map Datum.int).getLast?.getD .null),
    (.text "dropped_indices", .list (selection.drop.map .int)),
    (.text "retained_forms", .list retained),
    (.text "dropped_forms", .list dropped),
    (.text "optional", .bool (settings.getD "optional" (.bool false)).holds)]
    ++ overrides settings

/-- The word at a position as it was given: its surface form or, without one, its headword. -/
def spellingOf (words : List Word) (i : Int) : Datum :=
  match words[i.toNat]? with
  | some word => .text (if word.surface = "" then word.headword else word.surface)
  | none => .null

theorem spellingAt?_eq_ok {i : Int} (h : 0 ≤ i ∧ i < words.length) :
    spellingAt? words (.int i) = .ok (spellingOf words i) := by
  have hplace : Datum.placeAt? .tuple words.length i = .ok i.toNat := by
    unfold Datum.placeAt?
    have hposition : (if i < 0 then i + (words.length : Int) else i) = i :=
      if_neg (by omega)
    simp only [hposition]
    rw [if_pos (by simpa using h)]
  have hword : i.toNat < words.length := by omega
  unfold spellingAt? spellingOf Datum.index?
  dsimp only
  rw [hplace, ok_bind, List.getElem?_eq_getElem hword]
  rfl

theorem spellings_eq_ok {places : List Int} (h : Selection.Within words.length places) :
    (places.map Datum.int).mapM (spellingAt? words) = .ok (places.map (spellingOf words)) := by
  rw [List.mapM_map]
  exact mapM_eq_ok fun i hi => spellingAt?_eq_ok (h i hi)

/-- The payload of a selection of the words. -/
def ofWords (words : List Word) (selection : Selection) (settings : Entries) : Entries :=
  ofForms selection settings (selection.retain.map (spellingOf words))
    (selection.drop.map (spellingOf words))

theorem ofSelection?_eq_ok (settings : Entries) (h : selection.Divides words.length) :
    ofSelection? words (.map selection.toEntries) (.map settings) =
      .ok (ofWords words selection settings) := by
  have hretain : side? (.map selection.toEntries) "retain" =
      .ok (selection.retain.map .int) := rfl
  have hdrop : side? (.map selection.toEntries) "drop" =
      .ok (selection.drop.map .int) := rfl
  unfold ofSelection?
  rw [hretain, ok_bind, hdrop, ok_bind, spellings_eq_ok h.kept_within, ok_bind,
    spellings_eq_ok h.dropped_within, ok_bind]
  rfl

theorem name_of_mem_overrides {entry : Datum × Datum} (h : entry ∈ overrides settings) :
    ∃ name ∈ overrideNames, entry.1 = .text name := by
  unfold overrides at h
  obtain ⟨name, hname, hentry⟩ := List.mem_filterMap.mp h
  obtain ⟨value, -, rfl⟩ := Option.map_eq_some_iff.mp hentry
  exact ⟨name, hname, rfl⟩

theorem name_of_mem_ofForms {retained dropped : List Datum} {entry : Datum × Datum}
    (h : entry ∈ ofForms selection settings retained dropped) :
    ∃ name ∈ "optional" :: placeNames ++ overrideNames, entry.1 = .text name := by
  rcases List.mem_append.mp h with h | h
  · simp only [List.mem_cons, List.not_mem_nil, or_false] at h
    rcases h with rfl | rfl | rfl | rfl | rfl | rfl <;> exact ⟨_, by decide, rfl⟩
  · obtain ⟨name, hname, hentry⟩ := name_of_mem_overrides h
    exact ⟨name, List.mem_append_right _ hname, hentry⟩

theorem shadowed_ofForms (retained dropped : List Datum) :
    shadowed (ofForms selection settings retained dropped) = [] := by
  apply List.filter_eq_nil_iff.mpr
  intro name hname hhas
  obtain ⟨entry, hentry, hkey⟩ := Entries.has_eq_true.mp hhas
  obtain ⟨other, hother, hsame⟩ := name_of_mem_ofForms hentry
  obtain rfl : name = other := Datum.text.inj (hkey.symm.trans hsame)
  have hdisjoint : ∀ reserved ∈ Envelope.reservedNames,
      reserved ∉ "optional" :: placeNames ++ overrideNames := by decide
  exact hdisjoint name hname hother

theorem unplaced_ofForms (retained dropped : List Datum) :
    unplaced (ofForms selection settings retained dropped) =
      unplaced (ofForms ⟨[], []⟩ settings [] []) := by
  unfold unplaced ofForms
  rw [List.map_append, List.map_append]
  rfl

end Payload

namespace Execution

variable {rule : Rule} {plan : Plan} {settings : Entries} {words : List Word}
  {context : Context} {reply : Match}

theorem perform_retainSelection (context : Context) {selection : Selection}
    (haction : rule.action = .retainSelection settings)
    (hextracted : reply.extracted = .map selection.toEntries)
    (hdivides : selection.Divides words.length) :
    rule.action.perform words context reply =
      .ok (.datum (.map (Payload.ofWords words selection settings))) := by
  rw [haction]
  simp only [Action.perform, hextracted, Payload.ofSelection?_eq_ok settings hdivides]
  rfl

theorem checkPayload_ofWords (words : List Word) (selection : Selection) (settings : Entries) :
    checkPayload (.map (Payload.ofWords words selection settings)) =
      .ok (Payload.ofWords words selection settings) := by
  simp [checkPayload, Payload.ofWords, Payload.shadowed_ofForms]

theorem outcome_retainSelection {selection : Selection}
    (haction : rule.action = .retainSelection settings)
    (hextracted : reply.extracted = .map selection.toEntries)
    (hdivides : selection.Divides words.length) :
    outcome? rule words context reply =
      .ok (.done (Payload.ofWords words selection settings)) := by
  unfold outcome?
  rw [perform_retainSelection context haction hextracted hdivides]
  simp only [Value.look_datum, Except.map, ofGiven, checkPayload_ofWords]

/-- A match by a plan is a selection, and the action reports it. -/
theorem outcome_of_verdict (hplan : rule.predicate = .plan plan)
    (haction : rule.action = .retainSelection settings) (hplaced : Placed words)
    (hreply : rule.verdict words context = .ok reply) (hmatched : reply.matched = true) :
    ∃ selection, plan.judge words context = .ok (.selected selection reply.confidence)
      ∧ outcome? rule words context reply =
        .ok (.done (Payload.ofWords words selection settings)) := by
  obtain ⟨selection, hjudged, hextracted⟩ := Rule.selected_of_verdict hplan hreply hmatched
  have hdivides := (Plan.divides_of_judge hplaced hjudged).1
  exact ⟨selection, hjudged, outcome_retainSelection haction hextracted hdivides⟩

end Execution

end SutraArbiter
