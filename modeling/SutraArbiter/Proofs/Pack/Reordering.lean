import SutraArbiter.Proofs.Pack.Loading
import SutraArbiter.Proofs.Registry.CanonicalText

namespace SutraArbiter

/-! Files in which members change places: what is loaded from them stands in the same places,
and its fingerprint stays. -/

variable {P : Double → Prop}

/-- The first file holds a value, if it holds any data, and the other the same but for the order
of members. -/
def RuleFile.Reorders (P : Double → Prop) (file other : RuleFile) : Prop :=
  ∀ d, file.document = .data d →
    Json.IsValue P d ∧ ∃ e, other.document = .data e ∧ Datum.Reorders d e

/-- The first rule is defined by a value, and the other by the same but for the order of members;
all else that places them is the same. -/
structure Rule.Agrees (P : Double → Prop) (rule other : Rule) : Prop where
  id : rule.id = other.id
  tier : rule.tier = other.tier
  tags : rule.tags = other.tags
  value : Json.IsValue P (.map rule.definition)
  definition : Datum.Reorders (.map rule.definition) (.map other.definition)

/-- Items that are compared alike are put in the same order. -/
theorem forall₂_mergeSort {α β : Type} {R : α → β → Prop} {le : α → α → Bool}
    {otherLe : β → β → Bool}
    (hle : ∀ {x y x' y'}, R x y → R x' y' → le x x' = otherLe y y')
    {items : List α} {others : List β} (h : List.Forall₂ R items others) :
    List.Forall₂ R (items.mergeSort le) (others.mergeSort otherLe) := by
  obtain ⟨hlength, hpairs⟩ := List.forall₂_iff_zip.mp h
  have hfirst := List.map_mergeSort (r := fun p q : α × β => le p.1 q.1) (s := le) (f := Prod.fst)
    (l := items.zip others) fun _ _ _ _ => rfl
  have hsecond := List.map_mergeSort (r := fun p q : α × β => le p.1 q.1) (s := otherLe)
    (f := Prod.snd) (l := items.zip others) fun p hp q hq => hle (hpairs hp) (hpairs hq)
  rw [List.map_fst_zip hlength.le] at hfirst
  rw [List.map_snd_zip hlength.ge] at hsecond
  rw [← hfirst, ← hsecond, List.forall₂_map_left_iff, List.forall₂_map_right_iff,
    List.forall₂_same]
  exact fun p hp => hpairs ((List.mergeSort_perm _ _).mem_iff.mp hp)

theorem Registry.isCompiled_of_load {files : Files} {source : Source} {choice : Choice}
    {registry : Registry} (h : (Pack.load files source choice).result = .ok registry)
    (hvalues : ∀ entry ∈ registry.entries, Json.IsValue P (.map entry.definition)) :
    registry.IsCompiled P where
  sound := Pack.sound_of_load h
  entries entry hentry := by
    obtain ⟨_, _, hborne⟩ := Pack.bears_of_load h
    obtain ⟨file, -, entries, -, hread⟩ := hborne entry hentry
    obtain rfl := Datum.map.inj (Rule.definition_of_read hread)
    exact ⟨⟨file.path, hread⟩, hvalues entry hentry⟩

namespace Pack

variable {choice : Choice} {file other : RuleFile} {given others : List RuleFile}
  {rules otherRules : List Rule} {files otherFiles : Files} {source otherSource : Source}
  {registry reordered : Registry}

theorem eq_of_fitKey {d e : Datum} (horder : Datum.Reorders d e) (hvalue : Json.IsValue P d)
    (hfit : d.fitKey = .ok ()) : e = d := by
  rw [Datum.fitKey_eq_ok] at hfit
  cases hvalue with
  | scalar hscalar => exact horder.eq_of_isLeaf hscalar.isLeaf
  | text _ => exact horder.eq_of_text
  | list _ => cases hfit
  | map _ _ _ => cases hfit

/-- Ids that are the same but for the order of members are given one verdict. -/
theorem verdict?_of_reorders {d e : Datum} {verdict : Choice.Verdict}
    (horder : Datum.Reorders d e) (hvalue : Json.IsValue P d)
    (h : choice.verdict? d = .ok verdict) : choice.verdict? e = .ok verdict := by
  obtain ⟨given, hgiven⟩ := choice.verdict?_eq d
  rw [hgiven] at h
  obtain ⟨⟨⟩, hfit, -⟩ := bind_eq_ok.mp h
  rw [eq_of_fitKey horder hvalue hfit, hgiven, h]

theorem grant?_of_reorders {granted : Option Rule} (hfile : file.Reorders P other)
    (h : grant? choice file = .ok granted) :
    ∃ reordered, grant? choice other = .ok reordered
      ∧ Option.Rel (Rule.Agrees P) granted reordered := by
  obtain ⟨entries, hentries, h⟩ := bind_eq_ok.mp h
  obtain ⟨verdict, hverdict, h⟩ := bind_eq_ok.mp h
  obtain ⟨hvalue, e, hother, horder⟩ := hfile _ (readFile_eq_ok.mp (mapError_eq_ok.mp hentries))
  obtain ⟨ys, -, rfl, -⟩ := Datum.reorders_map_iff.mp horder
  have hid := horder.getD (Json.isValue_map_iff.mp (hvalue.of_reorders horder)).1 "rule_id" .null
  have hsame := verdict?_of_reorders hid (hvalue.getD "rule_id") (mapError_eq_ok.mp hverdict)
  unfold grant?
  rw [readFile_eq_ok.mpr hother]
  simp only [mapError_ok, ok_bind, hsame]
  cases verdict with
  | skipped =>
      cases h
      exact ⟨none, rfl, .none⟩
  | disabled id =>
      cases h
      exact ⟨none, rfl, .none⟩
  | wanted =>
      obtain ⟨rule, hread, h⟩ := bind_eq_ok.mp h
      cases h
      obtain rfl := Datum.map.inj (Rule.definition_of_read hread)
      obtain ⟨reordered, hreordered, hdefinition, hid, htier, htags⟩ :=
        Rule.exists_read_of_reorders hread hvalue horder other.path
      rw [hdefinition] at horder
      refine ⟨some reordered, ?_, .some ⟨hid, htier, htags, hvalue, horder⟩⟩
      rw [hreordered]
      rfl

theorem map_id_of_agrees (h : List.Forall₂ (Rule.Agrees P) rules otherRules) :
    rules.map Rule.id = otherRules.map Rule.id := by
  induction h with
  | nil => rfl
  | cons hsame _ ih => rw [List.map_cons, List.map_cons, hsame.id, ih]

theorem grants_of_reorders (hfiles : List.Forall₂ (RuleFile.Reorders P) given others)
    {granted : List (Option Rule)} (h : Grants choice [] given granted) :
    ∃ reordered, Grants choice [] others reordered
      ∧ List.Forall₂ (Rule.Agrees P) granted.reduceOption reordered.reduceOption := by
  obtain ⟨reordered, hreordered, hall⟩ := mapM_of_related hfiles h.files grant?_of_reorders
  have hrules : List.Forall₂ (Rule.Agrees P) granted.reduceOption reordered.reduceOption :=
    List.rel_filterMap (fun _ _ hsame => hsame) hall
  refine ⟨reordered, ⟨hreordered, ?_, List.disjoint_nil_left _⟩, hrules⟩
  rw [← map_id_of_agrees hrules]
  exact h.ids

theorem inOrder_agrees (h : List.Forall₂ (Rule.Agrees P) rules otherRules) :
    List.Forall₂ (Rule.Agrees P) (inOrder rules) (inOrder otherRules) :=
  forall₂_mergeSort (fun hone hother => by rw [hone.id, hother.id]) h

theorem numbered_agrees (h : List.Forall₂ (Rule.Agrees P) rules otherRules) (start : Nat) :
    List.Forall₂ Entry.Agrees (Registry.numbered start rules)
      (Registry.numbered start otherRules) := by
  induction h generalizing start with
  | nil => exact .nil
  | cons hsame _ ih =>
      refine .cons ⟨hsame.id, hsame.tier, fun tag => ?_, hsame.definition⟩ (ih (start + 1))
      exact iff_of_eq (congrArg (tag ∈ ·) hsame.tags)

/-- What is loaded is the rules that are granted, in order. -/
theorem exists_entries_of_load (h : (load files source choice).result = .ok registry)
    (hgiven : source.collect files = .ok given) : ∃ granted, Grants choice [] given granted
      ∧ registry.entries = Registry.numbered 0 (inOrder granted.reduceOption) := by
  obtain ⟨_, granted, hcollected, hgranted, h⟩ := load_eq_ok_iff.mp h
  rw [hgiven, Except.ok.injEq] at hcollected
  subst hcollected
  obtain ⟨entered, hentered, hentries⟩ := hgranted.exists_registry
  rw [hentered, Except.ok.injEq] at h
  subst h
  exact ⟨granted, hgranted, hentries⟩

/-- Files in which members change places are loaded, to rules that agree one by one. -/
theorem exists_load_of_reorders (h : (load files source choice).result = .ok registry)
    (hgiven : source.collect files = .ok given)
    (hothers : otherSource.collect otherFiles = .ok others)
    (hfiles : List.Forall₂ (RuleFile.Reorders P) given others) :
    ∃ reordered, (load otherFiles otherSource choice).result = .ok reordered
      ∧ registry.IsCompiled P ∧ reordered.IsCompiled P
      ∧ List.Forall₂ Entry.Agrees registry.entries reordered.entries := by
  obtain ⟨granted, hgranted, hentries⟩ := exists_entries_of_load h hgiven
  obtain ⟨otherGranted, hotherGranted, hrules⟩ := grants_of_reorders hfiles hgranted
  obtain ⟨reordered, hreordered, hotherEntries⟩ := hotherGranted.exists_registry
  have hload := load_eq_ok_iff.mpr ⟨others, otherGranted, hothers, hotherGranted, hreordered⟩
  have hagrees := inOrder_agrees hrules
  refine ⟨reordered, hload, Registry.isCompiled_of_load h ?_,
    Registry.isCompiled_of_load hload ?_, ?_⟩
  · intro entry hentry
    rw [hentries] at hentry
    obtain ⟨other, -, hsame⟩ :=
      exists_of_forall₂ hagrees _ (Registry.toRule_mem_of_mem_numbered hentry)
    exact hsame.value
  · intro entry hentry
    rw [hotherEntries] at hentry
    obtain ⟨rule, -, hsame⟩ :=
      exists_of_forall₂ hagrees.flip _ (Registry.toRule_mem_of_mem_numbered hentry)
    exact hsame.value.of_reorders hsame.definition
  · rw [hentries, hotherEntries]
    exact numbered_agrees hagrees 0

/-- The fingerprint of a pack stays when members change places in its files. -/
theorem fingerprint?_of_reorders (h : (load files source choice).result = .ok registry)
    (hgiven : source.collect files = .ok given)
    (hothers : otherSource.collect otherFiles = .ok others)
    (hfiles : List.Forall₂ (RuleFile.Reorders P) given others) {digest : String}
    (hdigest : registry.fingerprint? = .ok digest) :
    ∃ reordered, (load otherFiles otherSource choice).result = .ok reordered
      ∧ reordered.canonicalText? = registry.canonicalText?
      ∧ reordered.fingerprint? = .ok digest := by
  obtain ⟨reordered, hload, hcompiled, hotherCompiled, hagrees⟩ :=
    exists_load_of_reorders h hgiven hothers hfiles
  exact ⟨reordered, hload,
    Registry.fingerprint?_of_agrees hcompiled hotherCompiled hagrees hdigest⟩

end Pack

end SutraArbiter
