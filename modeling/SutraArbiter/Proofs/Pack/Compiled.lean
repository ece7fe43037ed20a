import SutraArbiter.Proofs.Pack.Choosing
import SutraArbiter.Proofs.Rule.Compilation
import SutraArbiter.Proofs.Registry.Removal
import SutraArbiter.Proofs.Strategy

namespace SutraArbiter

/-- The predicate and the action of the rule are read from its definition. -/
def Rule.IsCompiled (rule : Rule) : Prop :=
  ∃ source compiled, Rule.read source (.map rule.definition) = .ok compiled
    ∧ rule.predicate = compiled.predicate ∧ rule.action = compiled.action

theorem isCriteria_of_proper {entries : Entries} (h : (Datum.map entries).IsProper) :
    IsCriteria entries := fun _ hentry =>
  ⟨(h.of_mem hentry).1, (h.of_mem hentry).2.clear⟩

theorem isCriteria_nil : IsCriteria [] := fun _ hentry => nomatch hentry

theorem isCriteria_of_get? {entries criteria : Entries} (key : String)
    (hproper : (Datum.map entries).IsProper)
    (h : criteria = [] ∨ entries.get? key = some (.map criteria)) : IsCriteria criteria := by
  rcases h with rfl | h
  · exact isCriteria_nil
  · exact isCriteria_of_proper (hproper.of_mem (Entries.mem_of_get? h)).2

theorem Strategy.isCriteria {params : Entries} (hproper : (Datum.map params).IsProper)
    (key : String) : IsCriteria (Strategy.criteria params key) := by
  refine isCriteria_of_get? key hproper ?_
  unfold Strategy.criteria
  split
  · rename_i entries hentries
    exact .inr hentries
  · exact .inl rfl

theorem Datum.IsProper.without {entries : Entries} (h : (Datum.map entries).IsProper)
    (key : String) : (Datum.map (entries.without key)).IsProper where
  clear := Datum.isOverlong_map_eq_false.mpr fun _ hentry =>
    Datum.isOverlong_map_eq_false.mp h.clear _ (List.mem_filter.mp hentry).1
  keys := Datum.keysFit_map.mpr fun _ hentry =>
    Datum.keysFit_map.mp h.keys _ (List.mem_filter.mp hentry).1

theorem Rule.IsCompiled.exists_settings {rule : Rule} (h : rule.IsCompiled) :
    ∃ plan settings, rule.predicate = .plan plan ∧ rule.action = .retainSelection settings := by
  obtain ⟨source, compiled, hread, hpredicate, haction⟩ := h
  obtain ⟨entries, parts, -, -, -, rfl⟩ := Rule.read_eq_ok.mp hread
  exact ⟨_, _, hpredicate, haction⟩

/-- What the gate of a rule asks for stands in its context. -/
theorem Rule.Parts.gate_eq (parts : Rule.Parts) (key : String) :
    parts.gate key = [] ∨ parts.context.get? key = some (.map (parts.gate key)) := by
  unfold gate
  split
  · rename_i flags hflags
    exact .inr hflags
  · exact .inl rfl

theorem Rule.IsMadeOf.isProper {entries : Entries} {parts : Rule.Parts}
    (h : Rule.IsMadeOf entries parts) (hproper : (Datum.map entries).IsProper) :
    parts.plan.IsProper := by
  have hpart : ∀ {key : String} {part : Entries}, entries.get? key = some (.map part) →
      (Datum.map part).IsProper := fun hpart => (hproper.of_mem (Entries.mem_of_get? hpart)).2
  have hgiven := (hpart h.matching).without "strategy"
  have hcontext : (Datum.map parts.context).IsProper := by
    have hgate := h.context
    cases hget : entries.get? "context" with
    | none =>
        rw [Entries.getD_of_get?_eq_none hget] at hgate
        rw [← hgate]
        exact ⟨rfl, rfl⟩
    | some context =>
        rw [Entries.getD_of_get?_eq_some hget] at hgate
        rw [hgate] at hget
        exact hpart hget
  exact ⟨Rule.admits_of_matches h.matched, h.share, Strategy.isCriteria hgiven "retain",
    Strategy.isCriteria hgiven "against", isCriteria_of_get? "require" hcontext
      (parts.gate_eq "require"), isCriteria_of_get? "forbid" hcontext (parts.gate_eq "forbid")⟩

/-- A compiled rule judges by a proper plan and reports its selection. -/
theorem Rule.IsCompiled.exists_plan {rule : Rule} (h : rule.IsCompiled)
    (hproper : (Datum.map rule.definition).IsProper) :
    ∃ plan settings, rule.predicate = .plan plan ∧ rule.action = .retainSelection settings
      ∧ plan.IsProper := by
  obtain ⟨source, compiled, hread, hpredicate, haction⟩ := h
  obtain ⟨entries, parts, hentries, -, hparts, rfl⟩ := Rule.read_eq_ok.mp hread
  rw [hentries] at hproper
  exact ⟨_, _, hpredicate, haction, hparts.isProper hproper⟩

namespace Pack

variable {choice : Choice}

theorem registerAll_result (registry : Registry) (rules : List Rule) :
    (registerAll registry rules).result =
      registry.ofSubmissions (rules.map fun rule => .draft rule.draft) := by
  induction rules generalizing registry with
  | nil => rfl
  | cons rule rest ih =>
      simp only [registerAll, Logged.result_bind, Logged.result_ofExcept, Logged.result_note,
        ok_bind, List.map_cons]
      rw [Registry.ofSubmissions_cons]
      cases registry.register (.draft rule.draft) with
      | error failure => rfl
      | ok entered => exact ih entered.1

/-- What a load registers: the compiled rules in order. -/
theorem ofSubmissions_of_load {files : Files} {source : Source} {registry : Registry}
    (h : (load files source choice).result = .ok registry) :
    ∃ sources rules, source.collect files = .ok sources
      ∧ (compileAll choice [] sources).result = .ok rules
      ∧ Registry.empty.ofSubmissions
        ((inOrder rules).map fun rule => .draft rule.draft) = .ok registry := by
  simp only [load, Logged.result_bind, Logged.result_ofExcept] at h
  obtain ⟨sources, hsources, h⟩ := bind_eq_ok.mp h
  obtain ⟨rules, hrules, h⟩ := bind_eq_ok.mp h
  obtain ⟨⟨⟩, -, h⟩ := bind_eq_ok.mp h
  rw [registerAll_result] at h
  exact ⟨sources, rules, hsources, hrules, h⟩

theorem sound_of_load {files : Files} {source : Source} {registry : Registry}
    (h : (load files source choice).result = .ok registry) : registry.Sound := by
  obtain ⟨_, _, _, _, hregistered⟩ := ofSubmissions_of_load h
  exact Registry.sound_empty.ofSubmissions hregistered

/-- Every entry of a loaded registry comes of a rule that one of the files bears. -/
theorem exists_file_of_load {files : Files} {source : Source} {registry : Registry}
    (h : (load files source choice).result = .ok registry) :
    ∃ sources, source.collect files = .ok sources ∧ ∀ entry ∈ registry.entries,
      ∃ file ∈ sources, ∃ rule, file.Bears rule ∧ rule.draft.toRule = .ok entry.toRule := by
  obtain ⟨sources, rules, hsources, hrules, h⟩ := ofSubmissions_of_load h
  obtain ⟨entered, hentered, hentries⟩ := Registry.entries_ofSubmissions h
  refine ⟨sources, hsources, fun entry hentry => ?_⟩
  have hmem : entry.toRule ∈ entered := by
    have hentry : entry ∈ Registry.numbered 0 entered := by
      rwa [hentries] at hentry
    exact Registry.toRule_mem_of_mem_numbered hentry
  obtain ⟨submission, hsubmission, hrule⟩ := mem_mapM hentered hmem
  obtain ⟨rule, hordered, rfl⟩ := List.mem_map.mp hsubmission
  have hloaded : rule ∈ rules := (List.mergeSort_perm _ _).mem_iff.mp hordered
  obtain ⟨file, hfile, hbears⟩ := exists_bears_of_compileAll hrules hloaded
  exact ⟨file, hfile, rule, hbears, hrule⟩

theorem isCompiled_of_load {files : Files} {source : Source} {registry : Registry}
    (h : (load files source choice).result = .ok registry) :
    ∀ entry ∈ registry.entries, entry.toRule.IsCompiled := by
  obtain ⟨_, _, hborne⟩ := exists_file_of_load h
  intro entry hentry
  obtain ⟨file, -, rule, ⟨entries, -, hread⟩, hrule⟩ := hborne entry hentry
  obtain ⟨-, -, -, hpredicate, haction, hdefinition⟩ := Draft.toRule_eq_ok hrule
  have hself : Datum.map entries = .map rule.definition := Rule.definition_of_read hread
  replace hdefinition : rule.definition = entry.definition := hdefinition
  refine ⟨file.path, rule, ?_, (Callback.callable.inj hpredicate).symm,
    (Callback.callable.inj haction).symm⟩
  rw [← hdefinition, ← hself]
  exact hread

end Pack

end SutraArbiter
