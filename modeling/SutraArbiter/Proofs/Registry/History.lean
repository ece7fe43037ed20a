import SutraArbiter.Proofs.Registry.Candidates
import SutraArbiter.Proofs.Registry.Steady
import SutraArbiter.Proofs.Text.Trim

namespace SutraArbiter

structure Entry.IsFormal (given : List Submission) (entry : Entry) : Prop where
  submitted : ∃ submission ∈ given, submission.toRule = .ok entry.toRule
  id : Numeral.isDotted entry.id.toList = true
  tier : entry.tier ∈ Tier.all
  some_tag : entry.tags ≠ []
  distinct_tags : entry.tags.Nodup
  trimmed_tags : ∀ tag ∈ entry.tags, tag ≠ "" ∧ Text.trimString tag = tag

theorem Tier.mem_all (tier : Tier) : tier ∈ all := by
  cases tier <;> decide

namespace Draft

variable {draft : Draft} {rule : Rule} {given : Datum} {tag : String}

theorem tag?_eq_some (h : tag? given = some tag) :
    tag ≠ "" ∧ Text.trimString tag = tag := by
  unfold tag? at h
  split at h
  · rename_i text
    split at h
    · cases h
    · rename_i hblank
      cases h
      refine ⟨fun hempty => hblank ?_, Text.trimString_trimString text⟩
      exact Text.isBlankString_eq_true.mpr hempty
  · cases h

theorem readId_eq_ok {id : String} (h : draft.readId = .ok id) :
    draft.id = .text id ∧ Numeral.isDotted id.toList = true := by
  unfold readId at h
  split at h
  · rename_i hid
    split at h
    · rename_i hdotted
      cases h
      exact ⟨hid, hdotted⟩
    · exact absurd h (malformed_ne_ok _ _)
  · exact absurd h (malformed_ne_ok _ _)

theorem tags_of_toRule (h : draft.toRule = .ok rule) :
    rule.tags ≠ [] ∧ rule.tags.Nodup
      ∧ ∀ tag ∈ rule.tags, tag ≠ "" ∧ Text.trimString tag = tag := by
  obtain ⟨items, -, hsome, hnamed, hsorted⟩ := readTags_eq_ok (toRule_eq_ok h).2.2.1
  rw [hsorted]
  refine ⟨fun hnone => ?_, Tags.nodup_sorted _, fun tag htag => ?_⟩
  · obtain ⟨item, hitem⟩ := List.exists_mem_of_ne_nil items hsome
    obtain ⟨tag, htag⟩ := Option.isSome_iff_exists.mp (hnamed item hitem)
    have hmem : tag ∈ Tags.sorted (items.filterMap tag?) :=
      Tags.mem_sorted.mpr (List.mem_filterMap.mpr ⟨item, hitem, htag⟩)
    simp [hnone] at hmem
  · obtain ⟨item, -, htag⟩ := List.mem_filterMap.mp (Tags.mem_sorted.mp htag)
    exact tag?_eq_some htag

end Draft

theorem Entry.isFormal_of_toRule {given : List Submission} {submission : Submission}
    {entry : Entry} (hgiven : submission ∈ given)
    (h : submission.toRule = .ok entry.toRule) : entry.IsFormal given := by
  cases submission with
  | draft draft =>
      obtain ⟨hsome, hdistinct, htrimmed⟩ := Draft.tags_of_toRule h
      have hid := (Draft.readId_eq_ok (Draft.toRule_eq_ok h).1).2
      exact ⟨⟨_, hgiven, h⟩, hid, Tier.mem_all _, hsome, hdistinct, htrimmed⟩
  | other datum => cases h

namespace Registry

variable {registry next : Registry} {submission : Submission} {entry : Entry}
  {given : List Submission}

theorem run_shelve (entry : Entry) (tags : List String) (registry : Registry) :
    (tags.forM (shelve entry)).run registry =
      .ok () { registry with shelves := tags.foldl (place entry) registry.shelves } := by
  induction tags generalizing registry with
  | nil => rfl
  | cons tag rest ih =>
      exact ih { registry with shelves := place entry registry.shelves tag }

theorem run_liftExcept {α : Type} (answer : Except Failure α) (registry : Registry) :
    (liftExcept answer : EStateM Failure Registry α).run registry =
      match answer with
      | .ok value => .ok value registry
      | .error failure => .error failure registry := by
  cases answer <;> rfl

theorem run_enroll (submission : Submission) (registry : Registry) :
    (enroll submission).run registry =
      match registry.register submission with
      | .ok (next, entry) => .ok entry next
      | .error failure => .error failure registry := by
  simp only [enroll, register, EStateM.run_bind, EStateM.run_get]
  by_cases hfrozen : registry.frozen = true
  · rw [if_pos hfrozen, if_pos hfrozen]
    cases submission.shownId? with
    | error fault => rfl
    | ok id => rfl
  · rw [if_neg hfrozen, if_neg hfrozen]
    cases submission.toRule with
    | error failure => rfl
    | ok rule =>
        simp only [EStateM.run_bind, run_liftExcept, ok_bind]
        by_cases hfound : (registry.find? rule.id).isSome = true
        · rw [if_pos hfound, if_pos hfound]
          rfl
        · rw [if_neg hfound, if_neg hfound]
          simp only [EStateM.run_bind, EStateM.run_set, run_shelve]
          rfl

inductive Operation
  | register (submission : Submission)
  | freeze

def Operation.submission? : Operation → Option Submission
  | .register submission => some submission
  | .freeze => none

def after (registry : Registry) : Operation → Registry
  | .register submission =>
      match (enroll submission).run registry with
      | .ok _ next => next
      | .error _ left => left
  | .freeze => registry.freeze

def afterAll (registry : Registry) (operations : List Operation) : Registry :=
  operations.foldl after registry

theorem run_enroll_eq_ok :
    (enroll submission).run registry = .ok entry next ↔
      registry.register submission = .ok (next, entry) := by
  rw [run_enroll]
  cases registry.register submission <;> simp [and_comm, Prod.ext_iff]

theorem eq_of_run_enroll_eq_error {failure : Failure} {left : Registry}
    (h : (enroll submission).run registry = .error failure left) : left = registry := by
  rw [run_enroll] at h
  split at h
  · cases h
  · cases h
    rfl

theorem after_of_register (h : registry.register submission = .ok (next, entry)) :
    registry.after (.register submission) = next := by
  simp only [after, run_enroll_eq_ok.mpr h]

theorem after_of_refused {failure : Failure}
    (h : registry.register submission = .error failure) :
    registry.after (.register submission) = registry := by
  simp only [after, run_enroll, h]

theorem afterAll_of_ofSubmissions {submissions : List Submission}
    (h : registry.ofSubmissions submissions = .ok next) :
    registry.afterAll (submissions.map .register) = next := by
  induction submissions generalizing registry with
  | nil =>
      cases h
      rfl
  | cons submission rest ih =>
      rw [ofSubmissions_cons] at h
      obtain ⟨⟨entered, entry⟩, hregister, hrest⟩ := bind_eq_ok.mp h
      rw [List.map_cons, afterAll, List.foldl_cons, after_of_register hregister]
      exact ih hrest

theorem afterAll_append (registry : Registry) (operations others : List Operation) :
    registry.afterAll (operations ++ others) = (registry.afterAll operations).afterAll others :=
  List.foldl_append

/-- What a registry keeps of the submissions it has been given. -/
structure Keeps (given : List Submission) (registry : Registry) : Prop where
  sound : registry.Sound
  formal : ∀ entry ∈ registry.entries, entry.IsFormal given

theorem keeps_empty (given : List Submission) : Keeps given empty where
  sound := sound_empty
  formal := by simp [empty]

theorem Keeps.register (hkeeps : registry.Keeps given) (hgiven : submission ∈ given)
    (h : registry.register submission = .ok (next, entry)) : next.Keeps given where
  sound := hkeeps.sound.register h
  formal := by
    obtain ⟨-, rule, hrule, -, henter⟩ := register_eq_ok.mp h
    cases henter
    intro other hother
    rcases List.mem_append.mp hother with hother | hother
    · exact hkeeps.formal other hother
    · obtain rfl := List.mem_singleton.mp hother
      exact Entry.isFormal_of_toRule hgiven hrule

theorem Keeps.after (hkeeps : registry.Keeps given) {operation : Operation}
    (hgiven : ∀ submission ∈ operation.submission?, submission ∈ given) :
    (registry.after operation).Keeps given := by
  cases operation with
  | register submission =>
      cases hregister : registry.register submission with
      | ok entered =>
          rw [after_of_register hregister]
          exact hkeeps.register (hgiven submission rfl) hregister
      | error failure => rwa [after_of_refused hregister]
  | freeze => exact ⟨hkeeps.sound.freeze, hkeeps.formal⟩

theorem Keeps.afterAll (hkeeps : registry.Keeps given) {operations : List Operation}
    (hgiven : ∀ operation ∈ operations, ∀ submission ∈ operation.submission?,
      submission ∈ given) : (registry.afterAll operations).Keeps given := by
  induction operations generalizing registry with
  | nil => exact hkeeps
  | cons operation rest ih =>
      have hafter := hkeeps.after (hgiven operation List.mem_cons_self)
      exact ih hafter fun other hother => hgiven other (List.mem_cons_of_mem _ hother)

theorem sound_afterAll (operations : List Operation) : (empty.afterAll operations).Sound :=
  ((keeps_empty (operations.filterMap Operation.submission?)).afterAll
    fun operation hoperation _ hsubmission =>
      List.mem_filterMap.mpr ⟨operation, hoperation, hsubmission⟩).sound

theorem register_of_frozen (hfrozen : registry.frozen = true) (submission : Submission) :
    ∃ failure, registry.register submission = .error failure := by
  cases hregister : registry.register submission with
  | error failure => exact ⟨failure, rfl⟩
  | ok entered =>
      have hopen := (register_eq_ok.mp hregister).1
      simp [hfrozen] at hopen

theorem after_of_frozen (hfrozen : registry.frozen = true) (operation : Operation) :
    registry.after operation = registry := by
  cases operation with
  | register submission =>
      obtain ⟨failure, hregister⟩ := register_of_frozen hfrozen submission
      exact after_of_refused hregister
  | freeze =>
      obtain ⟨entries, shelves, frozen⟩ := registry
      cases hfrozen
      rfl

theorem afterAll_of_frozen (hfrozen : registry.frozen = true) (operations : List Operation) :
    registry.afterAll operations = registry := by
  induction operations with
  | nil => rfl
  | cons operation rest ih =>
      rw [afterAll, List.foldl_cons, after_of_frozen hfrozen]
      exact ih

/-- Whatever is done to a registry, ids stay distinct, places are indices, what is
stored is in form, and the shelves list the entries by their tags.  What is turned
away leaves no trace, what is frozen stays, and so the candidates of any scope are
the entries that share a tag with it, once each and in order. -/
theorem afterAll_invariant {submissions : List Submission} {built : Registry}
    (hbuilt : empty.ofSubmissions submissions = .ok built) (operations : List Operation) :
    let registry := built.afterAll operations
    let given := submissions ++ operations.filterMap Operation.submission?
    (registry.entries.Pairwise fun x y => x.id ≠ y.id)
      ∧ registry.entries.map Entry.index = List.range registry.entries.length
      ∧ (∀ entry ∈ registry.entries, entry.IsFormal given)
      ∧ (∀ tag, shelf registry.shelves tag =
          registry.entries.filter fun entry => entry.tags.contains tag)
      ∧ (∀ submission failure left,
          (enroll submission).run registry = .error failure left → left = registry)
      ∧ (∀ submission entry next,
          (enroll submission).run registry = .ok entry next →
            registry.frozen = false ∧ submission.toRule = .ok entry.toRule
              ∧ next.entries = registry.entries ++ [entry])
      ∧ (registry.frozen = true → ∀ others, registry.afterAll others = registry)
      ∧ ∀ tags, (registry.candidates tags).Pairwise Entry.Before
          ∧ ∀ entry, entry ∈ registry.candidates tags ↔
            entry ∈ registry.entries ∧ ∃ tag ∈ tags, tag ∈ entry.tags := by
  intro registry given
  have hkeeps : registry.Keeps given := by
    have hrun : empty.afterAll (submissions.map .register ++ operations) = registry := by
      rw [afterAll_append, afterAll_of_ofSubmissions hbuilt]
    rw [← hrun]
    refine (keeps_empty given).afterAll fun operation hoperation submission hsubmission => ?_
    rcases List.mem_append.mp hoperation with hoperation | hoperation
    · obtain ⟨other, hother, rfl⟩ := List.mem_map.mp hoperation
      cases hsubmission
      exact List.mem_append_left _ hother
    · exact List.mem_append_right _ (List.mem_filterMap.mpr ⟨operation, hoperation, hsubmission⟩)
  obtain ⟨hsound, hformal⟩ := hkeeps
  refine ⟨hsound.ids, hsound.places, hformal, hsound.shelves, ?_, ?_, ?_, ?_⟩
  · intro submission failure left hrun
    exact eq_of_run_enroll_eq_error hrun
  · intro submission entry next hrun
    obtain ⟨hopen, rule, hrule, -, henter⟩ := register_eq_ok.mp (run_enroll_eq_ok.mp hrun)
    cases henter
    exact ⟨hopen, hrule, rfl⟩
  · intro hfrozen others
    exact afterAll_of_frozen hfrozen others
  · intro tags
    refine ⟨hsound.candidates_before tags, fun entry => ?_⟩
    rw [hsound.mem_candidates, mem_sharing]

theorem afterAll_invariant_steady :
    empty.ofSubmissions steadySubmissions = .ok steady
      ∧ let operations := [.register (.draft (Rule.steady "1.1.1" .one).draft), .freeze,
          .register (.draft (Rule.steady "1.1.3" .one).draft)]
        steady.afterAll operations = steady.freeze
          ∧ (∀ others, steady.freeze.afterAll others = steady.freeze)
          ∧ ∀ entry, entry ∈ steady.freeze.candidates ["pronoun", Tags.family, Tags.family] ↔
            entry ∈ steady.entries := by
  refine ⟨ofSubmissions_steady, ?_⟩
  intro operations
  have hrefused : steady.register (.draft (Rule.steady "1.1.1" .one).draft) =
      .error (.duplicateId "1.1.1") := by
    have hrule := Rule.toRule_steady "1.1.1" (by decide) .one
    simp [register, steady, Submission.toRule, hrule, find?]
    rfl
  have hrun : steady.afterAll operations = steady.freeze := by
    have hafter : steady.afterAll operations = steady.freeze.after operations[2] := by
      simp only [operations, afterAll, List.foldl_cons, after_of_refused hrefused]
      rfl
    rw [hafter, after_of_frozen rfl]
  obtain ⟨-, -, -, -, -, -, hfrozen, hcandidates⟩ :=
    afterAll_invariant ofSubmissions_steady operations
  rw [hrun] at hfrozen hcandidates
  refine ⟨hrun, hfrozen rfl, fun entry => ?_⟩
  rw [(hcandidates _).2 entry]
  refine ⟨And.left, fun hentry => ⟨hentry, Tags.family, by simp, ?_⟩⟩
  rcases List.mem_cons.mp hentry with rfl | hentry
  · exact List.mem_cons_self
  · rw [List.mem_singleton.mp hentry]
    exact List.mem_cons_self

end Registry

end SutraArbiter
