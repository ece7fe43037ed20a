import SutraArbiter.Proofs.Pack.Compiled
import SutraArbiter.Proofs.Resolution

namespace SutraArbiter

/-- The flag that a key names; only a text names one. -/
def Datum.flagName? : Datum → Option String
  | .text name => some name
  | _ => none

def Entries.flagNames (entries : Entries) : List String :=
  entries.keys.filterMap Datum.flagName?

def Strategy.flagsRead (params : Entries) : Strategy → List String
  | .identicalForms =>
      (params.getD "case_check_flag" (.text "force_case_check")).flagName?.toList
  | _ => []

/-- The flags of the gate and of the strategy. -/
def Plan.flagsRead (plan : Plan) : List String :=
  plan.require.flagNames ++ plan.forbid.flagNames ++ plan.strategy.flagsRead plan.params

/-- What the tags of a rule are looked up under; the tag of the family is not. -/
def Tags.flagsRead (tags : List String) : List String :=
  (tags.filter fun tag => tag != Tags.family).flatMap Tags.names

/-- Nothing is known of what a predicate of the caller's own reads. -/
def Predicate.flagsRead : Predicate → List String
  | .plan own => own.flagsRead
  | .custom .. => []

def Rule.flagsRead (rule : Rule) : List String :=
  rule.predicate.flagsRead ++ Tags.flagsRead rule.tags

def Registry.flagsRead (registry : Registry) : List String :=
  registry.entries.flatMap fun entry => entry.toRule.flagsRead

/-- Contexts that give each of the flags the same value. -/
def Context.Agree (names : List String) (context other : Context) : Prop :=
  ∀ name ∈ names, context.value name = other.value name

theorem allOf?_congr {α : Type} {p q : α → Except Fault Bool} {items : List α}
    (h : ∀ x ∈ items, p x = q x) : allOf? p items = allOf? q items := by
  induction items with
  | nil => rfl
  | cons x rest ih =>
      obtain ⟨hx, hrest⟩ := List.forall_mem_cons.mp h
      rw [allOf?, allOf?, hx, ih hrest]

theorem anyOf?_congr {α : Type} {p q : α → Except Fault Bool} {items : List α}
    (h : ∀ x ∈ items, p x = q x) : anyOf? p items = anyOf? q items := by
  induction items with
  | nil => rfl
  | cons x rest ih =>
      obtain ⟨hx, hrest⟩ := List.forall_mem_cons.mp h
      rw [anyOf?, anyOf?, hx, ih hrest]

namespace Context.Agree

variable {names others : List String} {context other : Context} {words : List Word}

theorem mono (h : Context.Agree names context other) (hsubset : ∀ name ∈ others, name ∈ names) :
    Context.Agree others context other :=
  fun name hname => h name (hsubset name hname)

theorem append (h : Context.Agree (names ++ others) context other) :
    Context.Agree names context other ∧ Context.Agree others context other :=
  ⟨h.mono fun _ => List.mem_append_left others, h.mono fun _ => List.mem_append_right names⟩

theorem lookup? {key : Datum} (h : Context.Agree key.flagName?.toList context other) :
    context.lookup? key = other.lookup? key := by
  cases key with
  | text name =>
      have hvalue : context.value name = other.value name :=
        h name (by simp [Datum.flagName?])
      simp [Context.lookup?, hvalue]
  | _ => rfl

theorem matches? {entries : Entries} (h : Context.Agree entries.flagNames context other)
    {entry : Datum × Datum} (hentry : entry ∈ entries) :
    context.matches? entry = other.matches? entry := by
  have hkey : Context.Agree entry.1.flagName?.toList context other := by
    refine h.mono fun name hname => List.mem_filterMap.mpr ⟨entry.1, ?_, ?_⟩
    · exact List.mem_map_of_mem hentry
    · simpa using hname
  unfold Context.matches?
  rw [hkey.lookup?]

theorem satisfies? {require forbid : Entries}
    (hrequire : Context.Agree require.flagNames context other)
    (hforbid : Context.Agree forbid.flagNames context other) :
    context.satisfies? (.map require) (.map forbid) =
      other.satisfies? (.map require) (.map forbid) := by
  have hgranted : allOf? context.matches? require = allOf? other.matches? require :=
    allOf?_congr fun _ hentry => hrequire.matches? hentry
  have hbanned : anyOf? context.matches? forbid = anyOf? other.matches? forbid :=
    anyOf?_congr fun _ hentry => hforbid.matches? hentry
  simp only [Context.satisfies?, Datum.entriesFor?, ok_bind, hgranted, hbanned]

theorem judge {strategy : Strategy} {params : Entries}
    (h : Context.Agree (strategy.flagsRead params) context other) :
    strategy.judge words context (.map params) = strategy.judge words other (.map params) := by
  cases strategy with
  | identicalForms =>
      -- for any key, as the check looks up whatever stands under the parameter
      have hlookup : ∀ key : Datum, params.getD "case_check_flag" (.text "force_case_check") =
          key → context.lookup? key = other.lookup? key := by
        rintro key rfl
        exact Context.Agree.lookup? h
      have hstrict : Strategy.checksCase? context (.map params) =
          Strategy.checksCase? other (.map params) := by
        simp only [Strategy.checksCase?, Datum.getD?, Datum.entriesFor?, ok_bind, pure,
          Except.pure, hlookup _ rfl]
      change Strategy.judgeIdenticalForms words context (.map params) =
        Strategy.judgeIdenticalForms words other (.map params)
      unfold Strategy.judgeIdenticalForms
      rw [hstrict]
  | lexicalRetention => rfl
  | seriesRetention => rfl
  | attributePairing => rfl
  | attributeSelection => rfl

theorem judge_plan {plan : Plan} (h : Context.Agree plan.flagsRead context other) :
    plan.judge words context = plan.judge words other := by
  obtain ⟨hgate, hstrategy⟩ := h.append
  obtain ⟨hrequire, hforbid⟩ := hgate.append
  unfold Plan.judge
  rw [satisfies? hrequire hforbid, judge hstrategy]

theorem isActive {tags : List String} (h : Context.Agree (Tags.flagsRead tags) context other)
    {tag : String} (htag : tag ∈ tags) :
    Tags.isActive words context tag = Tags.isActive words other tag := by
  by_cases hfamily : tag = Tags.family
  · simp [Tags.isActive, hfamily]
  · have hset : ∀ name ∈ Tags.names tag, context.isSet name = other.isSet name := by
      intro name hname
      unfold Context.isSet
      rw [h name (List.mem_flatMap.mpr ⟨tag, by simp [htag, hfamily], hname⟩)]
    have hany : (Tags.names tag).any context.isSet = (Tags.names tag).any other.isSet := by
      rw [Bool.eq_iff_iff, List.any_eq_true, List.any_eq_true]
      exact exists_congr fun name => and_congr_right fun hname => by rw [hset name hname]
    unfold Tags.isActive
    rw [hany]

end Context.Agree

/-- The rule judges by a plan, reports its selection, and reads nothing in which the
contexts differ. -/
structure Rule.Overlooks (rule : Rule) (context other : Context) : Prop where
  planned : ∃ plan settings, rule.predicate = .plan plan
    ∧ rule.action = .retainSelection settings
  agree : Context.Agree rule.flagsRead context other

section

variable {context other : Context} {words : List Word} {entries : List Entry}

theorem Rule.Overlooks.answer {rule : Rule} (h : rule.Overlooks context other) :
    rule.predicate.answer words context = rule.predicate.answer words other := by
  obtain ⟨⟨plan, settings, hplan, -⟩, hagree⟩ := h
  have hread : Context.Agree plan.flagsRead context other := by
    have hpredicate := hagree.append.1
    rwa [hplan] at hpredicate
  rw [hplan]
  simp only [Predicate.answer, hread.judge_plan]

theorem Rule.Overlooks.outcome? {rule : Rule} (h : rule.Overlooks context other)
    (reply : Match) :
    Execution.outcome? rule words context reply =
      Execution.outcome? rule words other reply := by
  obtain ⟨⟨plan, settings, -, haction⟩, -⟩ := h
  unfold Execution.outcome?
  rw [haction]
  rfl

theorem Rule.Overlooks.standing? {entry : Entry} (h : entry.toRule.Overlooks context other) :
    entry.standing? words context = entry.standing? words other := by
  have hverdict : entry.toRule.verdict words context = entry.toRule.verdict words other := by
    unfold Rule.verdict Rule.asked?
    rw [h.answer]
  have hsatisfied : entry.satisfied words context = entry.satisfied words other := by
    unfold Entry.satisfied
    rw [List.filter_congr fun tag htag => h.agree.append.2.isActive htag]
  unfold Entry.standing?
  rw [hverdict, hsatisfied]

theorem Ruling.standings_of_overlooks
    (h : ∀ entry ∈ entries, entry.toRule.Overlooks context other) :
    entries.filterMap (Entry.standing? words context) =
      entries.filterMap (Entry.standing? words other) :=
  List.filterMap_congr fun entry hentry => (h entry hentry).standing?

theorem Evaluation.ofRules_of_overlooks {rules : List Rule}
    (h : ∀ rule ∈ rules, rule.Overlooks context other) :
    ofRules words context rules = ofRules words other rules := by
  induction rules with
  | nil => rfl
  | cons rule rest ih =>
      obtain ⟨hrule, hrest⟩ := List.forall_mem_cons.mp h
      rw [ofRules, ofRules, hrule.answer, ih hrest]

theorem Evaluation.ofCandidates_of_overlooks {limit : Nat} {rules : List Rule}
    (h : ∀ rule ∈ rules, rule.Overlooks context other) :
    ofCandidates limit rules words context = ofCandidates limit rules words other := by
  unfold ofCandidates
  rw [ofRules_of_overlooks h]

end

namespace Engine

variable {engine : Engine} {context other : Context} {group : WordGroup} {tags : List String}

/-- Contexts in which no candidate sees a difference are arbitrated alike. -/
theorem arbitrate_of_overlooks (hsound : engine.registry.Sound)
    (h : ∀ entry ∈ engine.registry.candidates tags, entry.toRule.Overlooks context other) :
    (engine.arbitrate group context tags).result =
      (engine.arbitrate group other tags).result := by
  have hevaluation : Evaluation.ofCandidates engine.limit
      ((engine.registry.candidates tags).map Entry.toRule) group.words context =
        Evaluation.ofCandidates engine.limit
          ((engine.registry.candidates tags).map Entry.toRule) group.words other :=
    Evaluation.ofCandidates_of_overlooks (List.forall_mem_map.mpr h)
  cases hasked : (Evaluation.ofCandidates engine.limit
      ((engine.registry.candidates tags).map Entry.toRule) group.words context).result with
  | error failure =>
      rw [arbitrate_result_of_error hasked, arbitrate_result_of_error (hevaluation ▸ hasked)]
  | ok evaluation =>
      rw [arbitrate_result hsound hasked, arbitrate_result hsound (hevaluation ▸ hasked),
        Ruling.standings_of_overlooks h]
      apply bind_congr_of_ok
      intro ruling hruling
      unfold answer
      split
      · rfl
      · rename_i governing hgoverning
        obtain ⟨entry, hentry, hstanding⟩ :=
          List.mem_filterMap.mp (Ruling.mem_of_governing hruling hgoverning)
        unfold applied?
        rw [Entry.entry_of_standing? hstanding, (h entry hentry).outcome?]

end Engine

end SutraArbiter
