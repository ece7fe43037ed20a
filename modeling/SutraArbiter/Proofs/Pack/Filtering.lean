import SutraArbiter.Proofs.Pack.Order

namespace SutraArbiter

/-- A list parts in one way only into items of which something does not hold and items of
which it does. -/
theorem append_inj_of_parted {α : Type} {holds : α → Bool} {xs ys xs' ys' : List α}
    (hxs : ∀ x ∈ xs, holds x = false) (hys : ∀ x ∈ ys, holds x = true)
    (hxs' : ∀ x ∈ xs', holds x = false) (hys' : ∀ x ∈ ys', holds x = true)
    (h : xs ++ ys = xs' ++ ys') : xs = xs' ∧ ys = ys' := by
  have hfilter (xs ys : List α) (hxs : ∀ x ∈ xs, holds x = false)
      (hys : ∀ x ∈ ys, holds x = true) : (xs ++ ys).filter holds = ys := by
    rw [List.filter_append, List.filter_eq_self.mpr hys,
      List.filter_eq_nil_iff.mpr fun x hx => by simp [hxs x hx], List.nil_append]
  have hbehind : ys = ys' := by
    rw [← hfilter xs ys hxs hys, h, hfilter xs' ys' hxs' hys']
  rw [hbehind] at h
  exact ⟨List.append_cancel_right h, hbehind⟩

/-- A stable sort leaves the items that are kept in the order that they have among all. -/
theorem mergeSort_filter {α : Type} {le : α → α → Bool}
    (htrans : ∀ x y z, le x y = true → le y z = true → le x z = true)
    (htotal : ∀ x y, (le x y || le y x) = true) (keep : α → Bool) (items : List α) :
    (items.filter keep).mergeSort le = (items.mergeSort le).filter keep := by
  -- An item comes before the first of those behind which it need not stand.
  have hplace (item : α) (rest : List α) : ∃ before behind,
      (item :: rest).mergeSort le = before ++ item :: behind
        ∧ rest.mergeSort le = before ++ behind
        ∧ (∀ x ∈ before, le item x = false) ∧ ∀ x ∈ behind, le item x = true := by
    obtain ⟨before, behind, hall, hrest, hbefore⟩ := List.mergeSort_cons htrans htotal item rest
    have hsorted := List.pairwise_mergeSort htrans htotal (item :: rest)
    rw [hall] at hsorted
    refine ⟨before, behind, hall, hrest, fun x hx => by simpa using hbefore x hx, ?_⟩
    intro x hx
    exact List.rel_of_pairwise_cons (List.pairwise_append.mp hsorted).2.1 hx
  induction items with
  | nil => simp
  | cons item rest ih =>
      obtain ⟨before, behind, hall, hrest, hbefore, hbehind⟩ := hplace item rest
      rw [hrest, List.filter_append] at ih
      rw [hall, List.filter_append]
      cases hkeep : keep item with
      | false =>
          rw [List.filter_cons_of_neg (by simp [hkeep]), List.filter_cons_of_neg (by simp [hkeep]),
            ih]
      | true =>
          obtain ⟨before', behind', hall', hrest', hbefore', hbehind'⟩ :=
            hplace item (rest.filter keep)
          obtain ⟨rfl, rfl⟩ := append_inj_of_parted hbefore' hbehind'
            (fun x hx => hbefore x (List.mem_of_mem_filter hx))
            (fun x hx => hbehind x (List.mem_of_mem_filter hx)) (hrest'.symm.trans ih)
          rw [List.filter_cons_of_pos hkeep, List.filter_cons_of_pos hkeep, hall']

namespace Choice

variable {choice : Choice} {id : String}

/-- The ids that a choice leaves: those that it names, if it names any, but for those that
it disables. -/
def wants (choice : Choice) (id : String) : Bool :=
  (choice.only.all fun ids => ids.contains id) && !choice.disabled.contains id

theorem verdict?_text (choice : Choice) (id : String) :
    ∃ verdict, choice.verdict? (.text id) = .ok verdict
      ∧ (verdict = .wanted ↔ choice.wants id = true) := by
  have hfit : (Datum.text id).fitKey = .ok () := rfl
  have hdisabled : ∃ verdict,
      (if choice.disabled.contains id then pure (.disabled id) else pure .wanted) =
          (.ok verdict : Except Fault Verdict)
        ∧ (verdict = .wanted ↔ choice.disabled.contains id = false) := by
    cases choice.disabled.contains id with
    | true => exact ⟨.disabled id, rfl, by simp⟩
    | false => exact ⟨.wanted, rfl, by simp⟩
  unfold verdict? wants
  rw [hfit, ok_bind]
  cases choice.only with
  | none => simpa using hdisabled
  | some ids =>
      by_cases hnamed : id ∈ ids
      · simpa [names, hnamed] using hdisabled
      · exact ⟨.skipped, by simp [names, hnamed, pure, Except.pure], by simp [hnamed]⟩

end Choice

/-- The file holds a mapping whose id is a text that the choice does not leave. -/
def RuleFile.isPassedOver (choice : Choice) (file : RuleFile) : Bool :=
  match file.document with
  | .data (.map entries) =>
      match Entries.getD entries "rule_id" .null with
      | .text id => !choice.wants id
      | _ => false
  | _ => false

namespace Pack

variable {choice : Choice} {files : Files} {source : Source} {file : RuleFile}
  {given : List RuleFile} {rules loaded : List Rule} {registry : Registry}

theorem inOrder_filter (keep : Rule → Bool) (rules : List Rule) :
    inOrder (rules.filter keep) = (inOrder rules).filter keep :=
  @mergeSort_filter Rule (fun x y => Numeral.le x.id y.id)
    (fun x y z => Numeral.trans_le x.id y.id z.id) (fun x y => Numeral.total_le x.id y.id) keep
    rules

theorem grant?_of_wants {rule : Rule} (hbears : file.Bears rule)
    (hwants : choice.wants rule.id = true) : grant? choice file = .ok (some rule) := by
  obtain ⟨entries, hdocument, hread⟩ := hbears
  obtain ⟨verdict, hverdict, hwanted⟩ := choice.verdict?_text rule.id
  obtain rfl := hwanted.mpr hwants
  simp only [grant?, readFile_eq_ok.mpr hdocument, mapError_ok, ok_bind,
    Rule.getD_id_of_read hread, hverdict, hread]
  rfl

theorem grant?_of_unwanted {entries : Entries} {id : String}
    (hdocument : file.document = .data (.map entries))
    (hid : entries.getD "rule_id" .null = .text id) (hunwanted : choice.wants id = false) :
    grant? choice file = .ok none := by
  obtain ⟨verdict, hverdict, hwanted⟩ := choice.verdict?_text id
  rw [hunwanted] at hwanted
  simp only [grant?, readFile_eq_ok.mpr hdocument, mapError_ok, ok_bind, hid, hverdict]
  cases verdict with
  | wanted => simp at hwanted
  | skipped => rfl
  | disabled id => rfl

theorem grant?_of_isPassedOver (h : file.isPassedOver choice = true) :
    grant? choice file = .ok none := by
  unfold RuleFile.isPassedOver at h
  split at h
  · rename_i entries hdocument
    split at h
    · rename_i id hid
      exact grant?_of_unwanted hdocument hid (by simpa using h)
    · cases h
  · cases h

theorem grant?_of_bears {rule : Rule} (hbears : file.Bears rule) :
    grant? choice file = .ok (if choice.wants rule.id then some rule else none) := by
  cases hwants : choice.wants rule.id with
  | true => exact grant?_of_wants hbears hwants
  | false =>
      obtain ⟨entries, hdocument, hread⟩ := hbears
      exact grant?_of_unwanted hdocument (Rule.getD_id_of_read hread) hwants

theorem reduceOption_map_ite (keep : Rule → Bool) (rules : List Rule) :
    (rules.map fun rule => if keep rule then some rule else none).reduceOption =
      rules.filter keep := by
  induction rules with
  | nil => rfl
  | cons rule rest ih => cases hkeep : keep rule <;> simp [hkeep, ih]

theorem Yields.grants (h : Yields [] given rules) (choice : Choice) :
    ∃ granted, Grants choice [] given granted
      ∧ granted.reduceOption = rules.filter fun rule => choice.wants rule.id := by
  have hgranted := reduceOption_map_ite (fun rule => choice.wants rule.id) rules
  refine ⟨_, ⟨?_, ?_, List.disjoint_nil_left _⟩, hgranted⟩
  · rw [mapM_eq_ok_iff, List.forall₂_map_right_iff]
    exact h.bears.imp fun _ _ hbears => grant?_of_bears hbears
  · rw [hgranted]
    exact h.ids.sublist (List.filter_sublist.map Rule.id)

/-- A source that loads as a whole loads under any choice, and what is loaded is what the
choice leaves of the whole. -/
theorem exists_load_filtered (h : (load files source .everything).result = .ok registry)
    (choice : Choice) :
    ∃ filtered, (load files source choice).result = .ok filtered
      ∧ filtered.entries.map Entry.toRule =
        (registry.entries.map Entry.toRule).filter fun rule => choice.wants rule.id := by
  obtain ⟨given, rules, hgiven, hyields, hregistered⟩ := load_eq_ok.mp h
  obtain ⟨granted, hgranted, hkept⟩ := hyields.grants choice
  obtain ⟨filtered, hfiltered, -⟩ := hgranted.exists_registry
  obtain ⟨entered, hentered, hentries⟩ := hyields.exists_registry
  obtain rfl := Except.ok.inj (hregistered.symm.trans hentered)
  refine ⟨filtered, load_eq_ok_iff.mpr ⟨given, granted, hgiven, hgranted, hfiltered⟩, ?_⟩
  rw [hgranted.entries_eq hfiltered, hkept, inOrder_filter, hentries,
    Registry.map_toRule_numbered]

theorem compileAll_filter (choice : Choice) (loaded : List Rule) (given : List RuleFile) :
    (compileAll choice loaded given).result =
      (compileAll choice loaded (given.filter fun file => !file.isPassedOver choice)).result := by
  induction given generalizing loaded with
  | nil => rfl
  | cons file rest ih =>
      cases hpassed : file.isPassedOver choice with
      | false =>
          rw [List.filter_cons_of_pos (by simp [hpassed]), compileAll_cons_result,
            compileAll_cons_result]
          congr 1
          funext granted
          exact ih _
      | true =>
          have hadmitted : addition? choice loaded file = .ok none := by
            rw [addition?, grant?_of_isPassedOver hpassed]
            rfl
          rw [List.filter_cons_of_neg (by simp [hpassed]), compileAll_cons_result, hadmitted]
          simpa using ih loaded

/-- What comes of files that were found. -/
def loadGiven (choice : Choice) (given : List RuleFile) : Except Failure Registry := do
  let rules ← (compileAll choice [] given).result
  (registerAll .empty (inOrder rules)).result

theorem load_result (files : Files) (source : Source) (choice : Choice) :
    (load files source choice).result = source.collect files >>= loadGiven choice := by
  simp only [load, Logged.result_bind, Logged.result_ofExcept]
  rfl

/-- A choice commutes with loading: of a source that loads as a whole it leaves the rules that
it wants, in their order and numbered anew.  A file whose id is a text that it does not want
has no part in the load, whatever else the file holds. -/
theorem load_filtered (files : Files) (source : Source) (choice : Choice) :
    (∀ registry, (load files source .everything).result = .ok registry →
        ∃ filtered, (load files source choice).result = .ok filtered
          ∧ filtered.ids = registry.ids.filter choice.wants
          ∧ filtered.entries.map Entry.toRule =
            (registry.entries.map Entry.toRule).filter (fun rule => choice.wants rule.id)
          ∧ filtered.entries.map Entry.index = List.range filtered.entries.length)
      ∧ ∀ given, source.collect files = .ok given →
        (load files source choice).result =
          loadGiven choice (given.filter fun file => !file.isPassedOver choice) := by
  constructor
  · intro registry hload
    obtain ⟨filtered, hfiltered, hrules⟩ := exists_load_filtered hload choice
    refine ⟨filtered, hfiltered, ?_, hrules, (sound_of_load hfiltered).places⟩
    rw [Registry.ids_eq_map, Registry.ids_eq_map, hrules]
    simp only [List.filter_map]
    rfl
  · intro given hgiven
    rw [load_result, hgiven, ok_bind, loadGiven, loadGiven, compileAll_filter]

/-- One of two rules is left. -/
theorem load_filtered_pair : ∃ registry filtered,
    (load (pairFiles "1.2.9" "1.2.10") ⟨none, some pairPaths⟩ .everything).result = .ok registry
      ∧ registry.ids = ["1.2.9", "1.2.10"]
      ∧ (load (pairFiles "1.2.9" "1.2.10") ⟨none, some pairPaths⟩ ⟨none, ["1.2.9"]⟩).result =
        .ok filtered
      ∧ filtered.ids = ["1.2.10"] := by
  have hplaces : Numeral.place "1.2.9" < Numeral.place "1.2.10" := by decide
  obtain ⟨registry, hload, hids⟩ :=
    load_pair (show Numeral.isDotted "1.2.9".toList = true by decide)
      (show Numeral.isDotted "1.2.10".toList = true by decide) (by decide) hplaces.le
  obtain ⟨filtered, hfiltered, hkept, -, -⟩ :=
    (load_filtered (pairFiles "1.2.9" "1.2.10") ⟨none, some pairPaths⟩ ⟨none, ["1.2.9"]⟩).1
      registry hload
  refine ⟨registry, filtered, hload, hids, hfiltered, ?_⟩
  rw [hkept, hids]
  decide

end Pack

end SutraArbiter
