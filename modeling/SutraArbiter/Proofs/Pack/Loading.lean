import SutraArbiter.Proofs.Pack.Compiled
import SutraArbiter.Proofs.Text.Trim

namespace SutraArbiter

/-! What a load comes to: nothing that was read is refused when it is entered.  In a
load of everything each file bears a rule, and no two rules share an id. -/

/-- A rule for each of the files, with ids that are distinct and not taken before. -/
structure Pack.Yields (taken : List String) (given : List RuleFile) (rules : List Rule) :
    Prop where
  bears : List.Forall₂ RuleFile.Bears given rules
  ids : (rules.map Rule.id).Nodup
  fresh : taken.Disjoint (rules.map Rule.id)

namespace Rule

variable {rule : Rule} {source : String} {d : Datum}

theorem tag?_of_isWording {wording : String} (h : Form.IsWording (.text wording)) :
    Draft.tag? (.text (Text.trimString wording)) = some (Text.trimString wording) := by
  refine Draft.tag?_text ?_ (Text.trimString_trimString wording)
  rw [Text.isBlankString_trimString]
  simpa [isWording] using isWording_iff.mpr h

theorem toRule_draft_of_read (h : read source d = .ok rule) : rule.draft.toRule = .ok rule := by
  obtain ⟨entries, parts, -, -, hparts, rfl⟩ := read_eq_ok.mp h
  obtain ⟨hsome, hworded⟩ := hparts.tagged
  refine Draft.toRule_draft hparts.numeral ?_ ?_ (Tags.sorted_sorted _)
  · obtain ⟨_, htag⟩ := List.exists_mem_of_ne_nil _ hsome
    obtain ⟨tag, htag, -⟩ := List.mem_map.mp htag
    exact List.ne_nil_of_mem (Tags.mem_sorted.mpr (List.mem_map_of_mem htag))
  · intro tag htag
    obtain ⟨wording, hwording, rfl⟩ := List.mem_map.mp (Tags.mem_sorted.mp htag)
    exact tag?_of_isWording (hworded _ (List.mem_map_of_mem hwording))

end Rule

namespace Pack

variable {taken : List String} {file : RuleFile} {given rest : List RuleFile}
  {rules all : List Rule} {choice : Choice} {failure : Failure} {files : Files}
  {source : Source} {registry : Registry}

theorem yields_nil : Yields taken [] rules ↔ rules = [] := by
  constructor
  · rintro ⟨⟨⟩, -, -⟩
    rfl
  · rintro rfl
    exact ⟨.nil, List.nodup_nil, List.disjoint_nil_right taken⟩

theorem yields_cons :
    Yields taken (file :: rest) all ↔
      ∃ rule rules, file.Bears rule ∧ rule.id ∉ taken
        ∧ Yields (taken ++ [rule.id]) rest rules ∧ all = rule :: rules := by
  constructor
  · rintro ⟨hbears, hids, hfresh⟩
    obtain ⟨rule, rules, hrule, hrules, rfl⟩ := List.forall₂_cons_left_iff.mp hbears
    obtain ⟨hnew, hids⟩ := List.nodup_cons.mp hids
    obtain ⟨hrulefresh, hfresh⟩ := List.disjoint_cons_right.mp hfresh
    refine ⟨rule, rules, hrule, hrulefresh, ⟨hrules, hids, ?_⟩, rfl⟩
    exact List.disjoint_append_left.mpr ⟨hfresh, List.singleton_disjoint.mpr hnew⟩
  · rintro ⟨rule, rules, hrule, hrulefresh, ⟨hrules, hids, hfresh⟩, rfl⟩
    obtain ⟨hfresh, hnew⟩ := List.disjoint_append_left.mp hfresh
    exact ⟨.cons hrule hrules, List.nodup_cons.mpr ⟨List.singleton_disjoint.mp hnew, hids⟩,
      List.disjoint_cons_right.mpr ⟨hrulefresh, hfresh⟩⟩

/-- Every entry of a loaded registry is a rule that one of the files bears. -/
theorem bears_of_load
    (h : (load files source choice).result = .ok registry) :
    ∃ given, source.collect files = .ok given
      ∧ ∀ entry ∈ registry.entries, ∃ file ∈ given, file.Bears entry.toRule := by
  obtain ⟨given, hgiven, hborne⟩ := exists_file_of_load h
  refine ⟨given, hgiven, fun entry hentry => ?_⟩
  obtain ⟨file, hfile, rule, ⟨entries, hdocument, hread⟩, hrule⟩ := hborne entry hentry
  obtain rfl := Except.ok.inj ((Rule.toRule_draft_of_read hread).symm.trans hrule)
  exact ⟨file, hfile, entries, hdocument, hread⟩

theorem exists_registerAll (hdrafts : ∀ rule ∈ rules, rule.draft.toRule = .ok rule)
    (hids : (rules.map Rule.id).Nodup) :
    ∃ registry, (registerAll .empty rules).result = .ok registry
      ∧ registry.entries = Registry.numbered 0 rules := by
  have hrules : (rules.map fun rule => Submission.draft rule.draft).mapM Submission.toRule =
      .ok rules := by
    rw [mapM_eq_ok_iff, List.forall₂_map_left_iff, List.forall₂_same]
    exact hdrafts
  have hdistinct : (Registry.numbered 0 rules).Pairwise fun x y => x.id ≠ y.id := by
    have hpairs : rules.Pairwise fun x y => x.id ≠ y.id := by
      rwa [List.Nodup, List.pairwise_map] at hids
    rw [← Registry.map_toRule_numbered 0 rules, List.pairwise_map] at hpairs
    exact hpairs
  have hopen : Registry.empty.frozen = false := rfl
  rw [registerAll_result]
  obtain ⟨registry, hregistry⟩ := Registry.exists_ofSubmissions hopen hrules hdistinct
  obtain ⟨entered, hentered, hentries⟩ := Registry.entries_ofSubmissions hregistry
  obtain rfl : rules = entered := Except.ok.inj (hrules.symm.trans hentered)
  exact ⟨registry, hregistry, hentries⟩

/-- Rules that are granted are entered, in the order of their numerals. -/
theorem Grants.exists_registry {granted : List (Option Rule)}
    (h : Grants choice [] given granted) :
    ∃ registry, (registerAll .empty (inOrder granted.reduceOption)).result = .ok registry
      ∧ registry.entries = Registry.numbered 0 (inOrder granted.reduceOption) := by
  have hperm : (inOrder granted.reduceOption).Perm granted.reduceOption := List.mergeSort_perm _ _
  refine exists_registerAll (fun rule hrule => ?_) ((hperm.map Rule.id).nodup_iff.mpr h.ids)
  have hfound : some rule ∈ granted := List.reduceOption_mem_iff.mp (hperm.mem_iff.mp hrule)
  obtain ⟨file, -, hfile⟩ := mem_mapM h.files hfound
  obtain ⟨_, -, hread⟩ := grant?_eq_some hfile
  exact Rule.toRule_draft_of_read hread

theorem load_eq_ok_iff :
    (load files source choice).result = .ok registry ↔
      ∃ given granted, source.collect files = .ok given ∧ Grants choice [] given granted
        ∧ (registerAll .empty (inOrder granted.reduceOption)).result = .ok registry := by
  simp only [load, Logged.result_bind, Logged.result_ofExcept, bind_eq_ok, compileAll_eq_ok_iff]
  constructor
  · rintro ⟨given, hgiven, compiled, ⟨granted, hgranted, hcompiled⟩, -, -, h⟩
    obtain rfl : compiled = granted.reduceOption := hcompiled
    exact ⟨given, granted, hgiven, hgranted, h⟩
  · rintro ⟨given, granted, hgiven, hgranted, h⟩
    exact ⟨given, hgiven, _, ⟨granted, hgranted, rfl⟩, (), rfl, h⟩

theorem load_eq_error_iff :
    (load files source choice).result = .error failure ↔
      source.collect files = .error failure
        ∨ ∃ given, source.collect files = .ok given
          ∧ (compileAll choice [] given).result = .error failure := by
  simp only [load, Logged.result_bind, Logged.result_ofExcept, bind_eq_error]
  refine or_congr_right (exists_congr fun given => and_congr_right fun _ => ?_)
  constructor
  · rintro (h | ⟨compiled, hcompiled, ⟨⟨⟩⟩ | ⟨-, -, h⟩⟩)
    · exact h
    · obtain ⟨granted, hgranted, rfl⟩ := compileAll_eq_ok_iff.mp hcompiled
      obtain ⟨registry, hregistry, -⟩ := hgranted.exists_registry
      rw [List.nil_append, hregistry] at h
      cases h
  · exact .inl

theorem verdict?_everything (d : Datum) :
    Choice.everything.verdict? d = d.fitKey >>= fun _ => .ok .wanted := by
  cases d <;> rfl

theorem grant?_everything {granted : Option Rule} :
    grant? .everything file = .ok granted ↔ ∃ rule, file.Bears rule ∧ granted = some rule := by
  simp only [grant?, bind_eq_ok, mapError_eq_ok, readFile_eq_ok, verdict?_everything]
  constructor
  · rintro ⟨entries, hdocument, _, ⟨_, -, ⟨⟩⟩, h⟩
    obtain ⟨rule, hread, h⟩ := bind_eq_ok.mp h
    cases h
    exact ⟨rule, ⟨entries, hdocument, hread⟩, rfl⟩
  · rintro ⟨rule, ⟨entries, hdocument, hread⟩, rfl⟩
    refine ⟨entries, hdocument, .wanted, ⟨(), ?_, rfl⟩, ?_⟩
    · rw [Entries.getD_of_get?_eq_some (Rule.get?_id_of_read hread)]
      rfl
    · exact bind_eq_ok.mpr ⟨rule, hread, rfl⟩

theorem reduceOption_map_some (rules : List Rule) : (rules.map some).reduceOption = rules := by
  simp [List.reduceOption]

theorem grants_everything {granted : List (Option Rule)} :
    Grants .everything taken given granted ↔
      ∃ rules, Yields taken given rules ∧ granted = rules.map some := by
  constructor
  · rintro ⟨hfiles, hids, hfresh⟩
    obtain ⟨rules, hrules, rfl⟩ :
        ∃ rules, List.Forall₂ RuleFile.Bears given rules ∧ granted = rules.map some := by
      rw [mapM_eq_ok_iff] at hfiles
      clear hids hfresh
      induction hfiles with
      | nil => exact ⟨[], .nil, rfl⟩
      | cons hfile _ ih =>
          obtain ⟨rule, hrule, rfl⟩ := grant?_everything.mp hfile
          obtain ⟨rules, hrules, rfl⟩ := ih
          exact ⟨rule :: rules, .cons hrule hrules, rfl⟩
    rw [reduceOption_map_some] at hids hfresh
    exact ⟨rules, ⟨hrules, hids, hfresh⟩, rfl⟩
  · rintro ⟨rules, ⟨hbears, hids, hfresh⟩, rfl⟩
    rw [← reduceOption_map_some rules] at hids hfresh
    refine ⟨?_, hids, hfresh⟩
    rw [mapM_eq_ok_iff, List.forall₂_map_right_iff]
    exact hbears.imp fun _ rule hrule => grant?_everything.mpr ⟨rule, hrule, rfl⟩

theorem Yields.exists_registry (h : Yields [] given rules) :
    ∃ registry, (registerAll .empty (inOrder rules)).result = .ok registry
      ∧ registry.entries = Registry.numbered 0 (inOrder rules) := by
  simpa only [reduceOption_map_some] using (grants_everything.mpr ⟨rules, h, rfl⟩).exists_registry

theorem load_eq_ok :
    (load files source .everything).result = .ok registry ↔
      ∃ given rules, source.collect files = .ok given ∧ Yields [] given rules
        ∧ (registerAll .empty (inOrder rules)).result = .ok registry := by
  rw [load_eq_ok_iff]
  constructor
  · rintro ⟨given, _, hgiven, hgranted, h⟩
    obtain ⟨rules, hrules, rfl⟩ := grants_everything.mp hgranted
    rw [reduceOption_map_some] at h
    exact ⟨given, rules, hgiven, hrules, h⟩
  · rintro ⟨given, rules, hgiven, hrules, h⟩
    refine ⟨given, _, hgiven, grants_everything.mpr ⟨rules, hrules, rfl⟩, ?_⟩
    rwa [reduceOption_map_some]

end Pack

end SutraArbiter
