import SutraArbiter.Pack.Loading
import SutraArbiter.Proofs.Steps
import Mathlib.Data.List.ReduceOption

namespace SutraArbiter

/-! What a load comes to under a choice of rules: every file is parsed and its id
looked up, but only the rules that are wanted are read, and only they may repeat
an id. -/

/-- The file holds a mapping from which the rule is read. -/
def RuleFile.Bears (file : RuleFile) (rule : Rule) : Prop :=
  ∃ entries, file.document = .data (.map entries)
    ∧ Rule.read file.path (.map entries) = .ok rule

/-- An id that can be looked up is given a verdict. -/
theorem Choice.verdict?_eq (choice : Choice) (id : Datum) :
    ∃ verdict, choice.verdict? id = id.fitKey >>= fun _ => .ok verdict := by
  unfold verdict?
  cases id.fitKey with
  | error fault => exact ⟨.wanted, rfl⟩
  | ok fit =>
      simp only [ok_bind]
      repeat' split
      all_goals exact ⟨_, rfl⟩

namespace Pack

variable {choice : Choice} {file : RuleFile} {given rest : List RuleFile}
  {loaded all : List Rule} {failure : Failure}

/-- The rule that a file adds, if it is wanted. -/
def grant? (choice : Choice) (file : RuleFile) : Except Failure (Option Rule) := do
  let entries ← (readFile file).mapError Failure.config
  let verdict ← (choice.verdict? (entries.getD "rule_id" .null)).mapError .fault
  match verdict with
  | .wanted => do
      let rule ← Rule.read file.path (.map entries)
      pure (some rule)
  | _ => pure none

/-- Two rules of one id are not loaded. -/
def refuseTaken (loaded : List Rule) (file : RuleFile) (rule : Rule) : Except Failure Unit :=
  match loaded.find? fun other => other.id = rule.id with
  | some other => .error (.config (.duplicateRule rule.id other.source file.path))
  | none => .ok ()

/-- The rule that a file adds to the rules before it. -/
def addition? (choice : Choice) (loaded : List Rule) (file : RuleFile) :
    Except Failure (Option Rule) := do
  let granted ← grant? choice file
  match granted with
  | none => pure none
  | some rule => do
      refuseTaken loaded file rule
      pure (some rule)

/-- What the files add, with ids that are distinct and not taken before. -/
structure Grants (choice : Choice) (taken : List String) (given : List RuleFile)
    (granted : List (Option Rule)) : Prop where
  files : given.mapM (grant? choice) = .ok granted
  ids : (granted.reduceOption.map Rule.id).Nodup
  fresh : taken.Disjoint (granted.reduceOption.map Rule.id)

theorem readFile_eq_ok {entries : Entries} :
    readFile file = .ok entries ↔ file.document = .data (.map entries) := by
  unfold readFile
  split <;> simp_all

theorem compile_result (loaded : List Rule) (file : RuleFile) (entries : Entries) :
    (compile loaded file entries).result =
      Rule.read file.path (.map entries) >>=
        fun rule => refuseTaken loaded file rule >>= fun _ => .ok rule := by
  have hnote (rule : Rule) : (noteCompiled rule).result = .ok () := by
    unfold noteCompiled
    split <;> rfl
  simp only [compile, Logged.result_bind, Logged.result_ofExcept, hnote, ok_bind]
  congr 1
  funext rule
  unfold refuseTaken
  cases loaded.find? fun other => other.id = rule.id <;> rfl

theorem compileAll_cons_result :
    (compileAll choice loaded (file :: rest)).result =
      addition? choice loaded file >>= fun granted =>
        (compileAll choice (loaded ++ granted.toList) rest).result := by
  simp only [compileAll, addition?, grant?, Logged.result_bind, Logged.result_ofExcept,
    Logged.result_ofFault]
  cases (readFile file).mapError Failure.config with
  | error failure => rfl
  | ok entries =>
      simp only [ok_bind]
      cases (choice.verdict? (entries.getD "rule_id" .null)).mapError Failure.fault with
      | error failure => rfl
      | ok verdict =>
          simp only [ok_bind]
          cases verdict with
          | skipped => simp
          | disabled id => simp
          | wanted =>
              simp only [Logged.result_bind, compile_result]
              cases Rule.read file.path (.map entries) with
              | error failure => rfl
              | ok rule => cases hfresh : refuseTaken loaded file rule <;> simp [hfresh]

theorem refuseTaken_eq_ok {rule : Rule} :
    refuseTaken loaded file rule = .ok () ↔ rule.id ∉ loaded.map Rule.id := by
  unfold refuseTaken
  cases hfound : loaded.find? fun other => other.id = rule.id with
  | none => simpa [List.find?_eq_none] using hfound
  | some other =>
      have hsame : other.id = rule.id := by simpa using List.find?_some hfound
      simp only [reduceCtorEq, false_iff, not_not]
      exact List.mem_map.mpr ⟨other, List.mem_of_find?_eq_some hfound, hsame⟩

theorem addition?_eq_ok {granted : Option Rule} :
    addition? choice loaded file = .ok granted ↔
      grant? choice file = .ok granted ∧ ∀ rule ∈ granted, rule.id ∉ loaded.map Rule.id := by
  unfold addition?
  rw [bind_eq_ok]
  constructor
  · rintro ⟨found, hfound, h⟩
    cases found with
    | none =>
        cases h
        exact ⟨hfound, nofun⟩
    | some rule =>
        obtain ⟨⟨⟩, hfresh, h⟩ := bind_eq_ok.mp h
        cases h
        exact ⟨hfound, by simpa using refuseTaken_eq_ok.mp hfresh⟩
  · rintro ⟨hgranted, hfresh⟩
    refine ⟨granted, hgranted, ?_⟩
    cases granted with
    | none => rfl
    | some rule => exact bind_eq_ok.mpr ⟨(), refuseTaken_eq_ok.mpr (hfresh rule rfl), rfl⟩

theorem grants_cons {taken : List String} {granted : List (Option Rule)} :
    Grants choice taken (file :: rest) granted ↔
      ∃ first others, grant? choice file = .ok first ∧ (∀ rule ∈ first, rule.id ∉ taken)
        ∧ Grants choice (taken ++ first.toList.map Rule.id) rest others
        ∧ granted = first :: others := by
  -- The ids are told apart at the first file as they are told apart altogether.
  have hdistinct (first : Option Rule) (others : List (Option Rule)) :
      ((first :: others).reduceOption.map Rule.id).Nodup
          ∧ taken.Disjoint ((first :: others).reduceOption.map Rule.id) ↔
        (∀ rule ∈ first, rule.id ∉ taken) ∧ (others.reduceOption.map Rule.id).Nodup
          ∧ (taken ++ first.toList.map Rule.id).Disjoint (others.reduceOption.map Rule.id) := by
    cases first with
    | none => simp
    | some rule =>
        simp only [List.reduceOption_cons_of_some, List.map_cons, List.nodup_cons,
          List.disjoint_cons_right, Option.mem_some_iff, forall_eq', Option.toList_some,
          List.map_nil, List.disjoint_append_left, List.singleton_disjoint]
        tauto
  constructor
  · rintro ⟨hfiles, hids, hfresh⟩
    rw [List.mapM_cons] at hfiles
    obtain ⟨first, hfirst, hfiles⟩ := bind_eq_ok.mp hfiles
    obtain ⟨others, hothers, hfiles⟩ := bind_eq_ok.mp hfiles
    cases hfiles
    obtain ⟨hnew, hids, hfresh⟩ := (hdistinct first others).mp ⟨hids, hfresh⟩
    exact ⟨first, others, hfirst, hnew, ⟨hothers, hids, hfresh⟩, rfl⟩
  · rintro ⟨first, others, hfirst, hnew, ⟨hothers, hids, hfresh⟩, rfl⟩
    obtain ⟨hids, hfresh⟩ := (hdistinct first others).mpr ⟨hnew, hids, hfresh⟩
    exact ⟨by rw [List.mapM_cons, hfirst, hothers]; rfl, hids, hfresh⟩

theorem compileAll_eq_ok_iff :
    (compileAll choice loaded given).result = .ok all ↔
      ∃ granted, Grants choice (loaded.map Rule.id) given granted
        ∧ all = loaded ++ granted.reduceOption := by
  induction given generalizing loaded with
  | nil =>
      constructor
      · intro h
        cases h
        exact ⟨[], ⟨rfl, List.nodup_nil, List.disjoint_nil_right _⟩, by simp⟩
      · rintro ⟨granted, ⟨hgranted, -, -⟩, rfl⟩
        cases hgranted
        simp [compileAll]
  | cons file rest ih =>
      have hall (first : Option Rule) (others : List (Option Rule)) :
          loaded ++ first.toList ++ others.reduceOption =
            loaded ++ (first :: others).reduceOption := by
        cases first <;> simp
      simp only [compileAll_cons_result, bind_eq_ok, addition?_eq_ok, ih, grants_cons,
        List.map_append]
      constructor
      · rintro ⟨first, ⟨hfirst, hfresh⟩, others, hothers, rfl⟩
        exact ⟨_, ⟨first, others, hfirst, hfresh, hothers, rfl⟩, hall first others⟩
      · rintro ⟨_, ⟨first, others, hfirst, hfresh, hothers, rfl⟩, rfl⟩
        exact ⟨first, ⟨hfirst, hfresh⟩, others, hothers, (hall first others).symm⟩

theorem grant?_eq_some {rule : Rule} (h : grant? choice file = .ok (some rule)) :
    file.Bears rule := by
  obtain ⟨entries, hentries, h⟩ := bind_eq_ok.mp h
  obtain ⟨verdict, -, h⟩ := bind_eq_ok.mp h
  cases verdict with
  | skipped => cases h
  | disabled id => cases h
  | wanted =>
      obtain ⟨read, hread, h⟩ := bind_eq_ok.mp h
      cases h
      exact ⟨entries, readFile_eq_ok.mp (mapError_eq_ok.mp hentries), hread⟩

/-- What is compiled, the files bear. -/
theorem exists_bears_of_compileAll (h : (compileAll choice [] given).result = .ok all)
    {rule : Rule} (hrule : rule ∈ all) : ∃ file ∈ given, file.Bears rule := by
  obtain ⟨granted, hgranted, rfl⟩ := compileAll_eq_ok_iff.mp h
  have hfound : some rule ∈ granted := List.reduceOption_mem_iff.mp hrule
  obtain ⟨file, hfile, hgrant⟩ := mem_mapM hgranted.files hfound
  exact ⟨file, hfile, grant?_eq_some hgrant⟩

theorem compileAll_eq_error_iff :
    (compileAll choice loaded given).result = .error failure ↔
      ∃ before file after admitted, given = before ++ file :: after
        ∧ (compileAll choice loaded before).result = .ok admitted
        ∧ addition? choice admitted file = .error failure := by
  induction given generalizing loaded with
  | nil => simp [compileAll]
  | cons first rest ih =>
      rw [compileAll_cons_result, bind_eq_error]
      constructor
      · rintro (h | ⟨granted, hgranted, h⟩)
        · exact ⟨[], first, rest, loaded, rfl, rfl, h⟩
        · obtain ⟨before, file, after, admitted, rfl, hbefore, h⟩ := ih.mp h
          refine ⟨first :: before, file, after, admitted, rfl, ?_, h⟩
          rw [compileAll_cons_result, hgranted]
          exact hbefore
      · rintro ⟨before, file, after, admitted, hgiven, hbefore, h⟩
        cases before with
        | nil =>
            obtain ⟨rfl, rfl⟩ := List.cons.inj hgiven
            cases hbefore
            exact .inl h
        | cons other before =>
            obtain ⟨rfl, rfl⟩ := List.cons.inj hgiven
            rw [compileAll_cons_result] at hbefore
            obtain ⟨granted, hgranted, hbefore⟩ := bind_eq_ok.mp hbefore
            exact .inr ⟨granted, hgranted, ih.mpr ⟨before, file, after, admitted, rfl, hbefore, h⟩⟩

end Pack

end SutraArbiter
