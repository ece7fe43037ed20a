import SutraArbiter.CommandLine.Run
import SutraArbiter.Proofs.Json.Writing
import SutraArbiter.Proofs.Pack.Solitary
import SutraArbiter.Proofs.Rule.Acceptance

namespace SutraArbiter

namespace Registry

variable {registry : Registry} {entry : Entry}

/-- Every definition has a canonical form, and every place has a text. -/
structure IsWritable (registry : Registry) : Prop where
  definitions : ∀ entry ∈ registry.entries, Json.IsWritable (.map entry.definition)
  places : registry.entries.length ≤ Nat.pow 10 Number.digitLimit

theorem isWritable_description :
    Json.IsWritable (description entry) ↔
      Number.hasOverlongText entry.index = false ∧ Json.IsWritable (.map entry.definition) := by
  have hkeys : Json.IsRecordKeys (Entries.keys [(.text "rule_id", .text entry.id),
      (.text "priority_class", .text entry.tier.name),
      (.text "scope_tags", .list (entry.tags.map .text)),
      (.text "declaration_index", .int entry.index),
      (.text "definition", if entry.definition.isEmpty then .text entry.predicate.name
        else .map entry.definition)]) :=
    .inl (by simp [Entries.keys, Datum.isText])
  have htags : Json.AreWritable (entry.tags.map .text) :=
    Json.areWritable_iff.mpr (List.forall_mem_map.mpr fun _ _ => trivial)
  have hdefinition : Json.IsWritable (if entry.definition.isEmpty then
      .text entry.predicate.name else .map entry.definition) ↔
        Json.IsWritable (.map entry.definition) := by
    split
    · rename_i hnone
      rw [List.isEmpty_iff.mp hnone]
      exact iff_of_true trivial ⟨.inl (List.forall_mem_nil _), trivial⟩
    · exact Iff.rfl
  rw [description, Json.IsWritable, and_iff_right hkeys]
  simp only [Json.EntriesWritable, Json.IsWritable, htags, hdefinition, true_and, and_true]

theorem hasText_places_iff (hsound : registry.Sound) :
    (∀ entry ∈ registry.entries, Number.hasOverlongText entry.index = false) ↔
      registry.entries.length ≤ Nat.pow 10 Number.digitLimit := by
  have hplaces : (∀ entry ∈ registry.entries, Number.hasOverlongText entry.index = false) ↔
      ∀ n ∈ registry.entries.map Entry.index, n < Nat.pow 10 Number.digitLimit := by
    rw [List.forall_mem_map]
    refine forall₂_congr fun entry _ => ?_
    rw [Number.hasOverlongText, Int.natAbs_natCast, decide_eq_false_iff_not, Nat.not_le]
  rw [hplaces, hsound.places]
  generalize Nat.pow 10 Number.digitLimit = limit
  constructor
  · intro h
    refine Nat.le_of_not_lt fun hmany => ?_
    exact Nat.lt_irrefl limit (h limit (List.mem_range.mpr hmany))
  · intro h n hn
    exact Nat.lt_of_lt_of_le (List.mem_range.mp hn) h

theorem exists_fingerprint?_iff (hsound : registry.Sound) :
    (∃ digest, registry.fingerprint? = .ok digest) ↔ registry.IsWritable := by
  have hdescribed : (∀ entry ∈ registry.entries, Json.IsWritable (description entry)) ↔
      registry.IsWritable := by
    simp only [isWritable_description, forall_and, hasText_places_iff hsound]
    exact ⟨fun h => ⟨h.2, h.1⟩, fun h => ⟨h.places, h.definitions⟩⟩
  rw [← hdescribed]
  unfold fingerprint? canonicalText?
  rw [exists_bind_pure_iff, Json.exists_canonical?_iff, Json.IsWritable, Json.areWritable_iff,
    List.forall_mem_map]

end Registry

theorem Request.exists_listRules_iff {files : Files} {request : Request} {engine : Engine}
    (h : (request.readEngine files).result = .ok engine) :
    (∃ output errors, request.listRules files = .done 0 output errors) ↔
      ∃ digest, engine.registry.fingerprint? = .ok digest := by
  unfold listRules
  dsimp only
  rw [h]
  dsimp only
  cases engine.registry.fingerprint? with
  | error fault => simp
  | ok digest => simp

namespace Pack

variable {files : Files} {source : Source} {choice : Choice} {registry : Registry}

/-- A pack that is loaded has a fingerprint, and its rules are listed, exactly if the
definitions of its rules have a canonical form. -/
theorem exists_fingerprint_of_load (h : (load files source choice).result = .ok registry) :
    ((∃ digest, registry.fingerprint? = .ok digest) ↔ registry.IsWritable)
      ∧ ∀ request engine, (Request.readEngine files request).result = .ok engine →
          engine.registry.entries = registry.entries →
          ((∃ output errors, request.listRules files = .done 0 output errors) ↔
            registry.IsWritable) := by
  have hwritable := Registry.exists_fingerprint?_iff (sound_of_load h)
  refine ⟨hwritable, fun request engine hengine hentries => ?_⟩
  rw [Request.exists_listRules_iff hengine, ← hwritable]
  unfold Registry.fingerprint? Registry.canonicalText?
  rw [hentries]

def gatedParts (gate : Entries) : Entries :=
  solitaryParts "1.2.64" "identical-forms"
    ++ [(.text "context", .map [(.text "require", .map gate)])]

def gatedFiles (gate : Entries) : Files :=
  ⟨"", [(["solitary.yaml"], .data (.map (gatedParts gate)))]⟩

/-- Whatever the gate, the pack is loaded. -/
theorem load_gated (gate : Entries) :
    ∃ registry, (load (gatedFiles gate) solitarySource .everything).result = .ok registry
      ∧ ∃ rule, registry.entries = [⟨rule, 0⟩] ∧ rule.definition = gatedParts gate := by
  have hcontext : Form.IsRecord Form.contextSlots (.map [(.text "require", .map gate)]) := by
    refine ⟨List.forall_mem_singleton.mpr ⟨_, List.mem_cons_self, rfl⟩, ?_⟩
    exact List.forall_mem_cons.mpr ⟨trivial, List.forall_mem_singleton.mpr rfl⟩
  have hsolitary : Form.Follows Form.ruleSlots (solitaryParts "1.2.64" "identical-forms") :=
    Rule.check_eq_ok.mp (Rule.check_of_read (Rule.read_solitary (by decide) (by decide)))
  have hslot : ⟨"context", false, Form.IsRecord Form.contextSlots⟩ ∈ Form.ruleSlots := by
    simp [Form.ruleSlots]
  have hrule : Form.IsRule (.map (gatedParts gate)) :=
    hsolitary.fill (by decide) hslot rfl hcontext
  obtain ⟨rule, hread⟩ := Rule.exists_read hrule "/solitary.yaml"
  obtain ⟨registry, hload, hentries⟩ := load_of_read hread
  exact ⟨registry, hload, rule, hentries, (Datum.map.inj (Rule.definition_of_read hread)).symm⟩

theorem hasOverlongText_one : Number.hasOverlongText 1 = false := by
  rw [Number.hasOverlongText, decide_eq_false_iff_not, Nat.not_le]
  have hlimit : Number.digitLimit ≠ 0 := by decide
  generalize Number.digitLimit = limit at hlimit
  exact Nat.one_lt_pow hlimit (by decide)

theorem isWritable_gated {gate : Entries} :
    Json.IsWritable (.map (gatedParts gate)) ↔ Json.IsWritable (.map gate) := by
  have hsolitary : ∀ entry ∈ solitaryParts "1.2.64" "identical-forms",
      Json.IsWritable entry.2 := by
    simp [solitaryParts, metadata, named, texts, retention, Json.IsWritable,
      Json.AreWritable, Json.EntriesWritable, Json.IsRecordKeys, Entries.keys, Datum.isText,
      hasOverlongText_one]
  have hkeys : Json.IsRecordKeys (Entries.keys (gatedParts gate)) :=
    .inl (by simp [gatedParts, solitaryParts, Entries.keys, Datum.isText])
  have hrequire : Json.IsRecordKeys (Entries.keys [(.text "require", .map gate)]) :=
    .inl (List.forall_mem_singleton.mpr rfl)
  rw [Json.IsWritable, and_iff_right hkeys, Json.entriesWritable_iff, gatedParts,
    List.forall_mem_append, and_iff_right hsolitary, List.forall_mem_singleton]
  rw [Json.IsWritable, and_iff_right hrequire, Json.EntriesWritable]
  exact and_iff_left trivial

theorem isWritable_of_gated {gate : Entries} {registry : Registry} {rule : Rule}
    (hentries : registry.entries = [⟨rule, 0⟩]) (hrule : rule.definition = gatedParts gate) :
    registry.IsWritable ↔ Json.IsWritable (.map gate) := by
  rw [← isWritable_gated, ← hrule]
  constructor
  · intro h
    exact h.definitions ⟨rule, 0⟩ (by rw [hentries]; exact List.mem_singleton_self _)
  · intro h
    refine ⟨fun entry hentry => ?_, ?_⟩
    · rw [hentries] at hentry
      rwa [List.mem_singleton.mp hentry]
    · rw [hentries]
      generalize Number.digitLimit = limit
      exact Nat.pow_pos (by decide)

theorem fingerprint_of_gate : ∃ registry,
    (load (gatedFiles [(.text "domain", .text "veda")]) solitarySource .everything).result =
        .ok registry
      ∧ ∃ digest, registry.fingerprint? = .ok digest := by
  obtain ⟨registry, hload, rule, hentries, hrule⟩ := load_gated [(.text "domain", .text "veda")]
  refine ⟨registry, hload, (exists_fingerprint_of_load hload).1.mpr ?_⟩
  refine (isWritable_of_gated hentries hrule).mpr ⟨.inl ?_, trivial, trivial⟩
  exact List.forall_mem_singleton.mpr rfl

/-- A gate with a text and a number among its keys, so that its members have no order. -/
theorem no_fingerprint_of_mixed_gate : ∃ registry,
    (load (gatedFiles [(.text "domain", .text "veda"), (.int 1, .bool true)]) solitarySource
        .everything).result = .ok registry
      ∧ ∀ digest, registry.fingerprint? ≠ .ok digest := by
  obtain ⟨registry, hload, rule, hentries, hrule⟩ :=
    load_gated [(.text "domain", .text "veda"), (.int 1, .bool true)]
  refine ⟨registry, hload, fun digest hdigest => ?_⟩
  have hwritable := (Registry.exists_fingerprint?_iff (sound_of_load hload)).mp ⟨digest, hdigest⟩
  obtain ⟨hkeys, -⟩ := (isWritable_of_gated hentries hrule).mp hwritable
  rcases hkeys with htexts | hnumbers | hnull
  · exact absurd (htexts (.int 1) (.tail _ (.head _))) (by decide)
  · exact hnumbers (.text "domain") (.head _)
  · cases hnull

end Pack

end SutraArbiter
