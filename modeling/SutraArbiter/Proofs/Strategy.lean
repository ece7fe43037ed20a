import SutraArbiter.Proofs.Criteria
import SutraArbiter.Strategy

namespace SutraArbiter.Strategy

variable {strategy : Strategy} {params : Entries} {words : List Word} {context : Context}

def enough (params : Entries) (words : List Word) : Bool :=
  granted (hasMinimum? words (.map params))

theorem hasMinimum?_eq_ok (hadmits : strategy.Admits params) (words : List Word) :
    hasMinimum? words (.map params) = .ok (enough params words) := by
  obtain ⟨count, -, hcount⟩ := hadmits.minimum
  refine eq_granted ?_
  simp only [hasMinimum?, Datum.getD?, Datum.entriesFor?, ok_bind, hcount]
  exact ⟨_, rfl⟩

theorem ne_nil_of_enough (hadmits : strategy.Admits params)
    (henough : enough params words = true) : words ≠ [] := by
  obtain ⟨count, hpositive, hcount⟩ := hadmits.minimum
  rintro rfl
  simp only [enough, hasMinimum?, Datum.getD?, Datum.entriesFor?, ok_bind, pure, Except.pure,
    hcount, Datum.toInt?, granted_ok, List.length_nil, decide_eq_true_eq] at henough
  omega

/-- Whether the call asks for one case throughout. -/
def isStrict (params : Entries) (context : Context) : Bool :=
  granted (checksCase? context (.map params))

/-- Whether all words have one form, and have any. -/
def sharesForm (words : List Word) : Bool :=
  match words.map Word.form with
  | [] => false
  | form :: rest => form ≠ "" && rest.all (· = form)

def keepLast (words : List Word) : Finding :=
  .ofPositions [((words.length - 1 : Nat) : Int)]
    ((List.range (words.length - 1)).map fun (i : Nat) => (i : Int))

def identicalFormsFinding (params : Entries) (words : List Word) (context : Context) :
    Finding :=
  if enough params words then
    if isStrict params context && !casesAgree words then .passed "case-mismatch" true
    else if sharesForm words then keepLast words
    else .passed "form-mismatch" false
  else .tooFewWords

theorem judgeForms?_eq_ok (hsome : words ≠ []) :
    judgeForms? words =
      .ok (if sharesForm words then keepLast words else .passed "form-mismatch" false) := by
  obtain ⟨word, rest, rfl⟩ := List.exists_cons_of_ne_nil hsome
  have hlength : (word :: rest).length - 1 = (rest.map Word.form).length := by
    rw [List.length_map, List.length_cons, Nat.add_sub_cancel]
  unfold judgeForms? sharesForm keepLast
  rw [List.map_cons, hlength]
  generalize word.form = form
  generalize rest.map Word.form = forms
  dsimp only
  by_cases hform : form = ""
  · rw [if_pos (by simp [hform]), if_neg (by simp [hform])]
  · by_cases hrest : forms.all (· = form) = true
    · rw [if_neg (by simp [hform, hrest]), if_pos (by simp [hform, hrest])]
    · rw [if_pos (by simp [hrest]), if_neg (by simp [hrest])]

theorem judgeIdenticalForms_eq_ok (hadmits : strategy.Admits params) (words : List Word)
    (context : Context) :
    judgeIdenticalForms words context (.map params) =
      .ok (identicalFormsFinding params words context) := by
  have hstrict : checksCase? context (.map params) = .ok (isStrict params context) := by
    obtain ⟨name, hname⟩ := hadmits.caseFlag
    refine eq_granted ?_
    simp only [checksCase?, Datum.getD?, Datum.entriesFor?, ok_bind, pure, Except.pure, hname,
      Context.lookup?_text]
    exact ⟨_, rfl⟩
  unfold judgeIdenticalForms identicalFormsFinding
  rw [hasMinimum?_eq_ok hadmits, ok_bind]
  cases henough : enough params words with
  | false => rfl
  | true =>
      simp only [if_true, hstrict, ok_bind]
      rw [judgeForms?_eq_ok (ne_nil_of_enough hadmits henough)]
      split <;> rfl

def isOnSide (pair : Datum) (side : String) (word : Word) : Bool :=
  granted (do
    let table ← pair.require? side
    Lexicon.contains? table word)

theorem listedOn?_retain {pair : Datum} {retain drop : Entries} (hpair : IsPair pair retain drop)
    (words : List Word) :
    listedOn? pair "retain" words = .ok (words.filter (isOnSide pair "retain")) := by
  refine select?_eq_ok fun word _ => eq_granted ?_
  rw [hpair.keeps, ok_bind, Lexicon.contains?_eq_ok hpair.retain]
  exact ⟨_, rfl⟩

theorem listedOn?_drop {pair : Datum} {retain drop : Entries} (hpair : IsPair pair retain drop)
    (words : List Word) :
    listedOn? pair "drop" words = .ok (words.filter (isOnSide pair "drop")) := by
  refine select?_eq_ok fun word _ => eq_granted ?_
  rw [hpair.drops, ok_bind, Lexicon.contains?_eq_ok hpair.drop]
  exact ⟨_, rfl⟩

def pairSides (words : List Word) (pair : Datum) : List Int × List Int :=
  match (words.filter (isOnSide pair "retain")).getLast? with
  | some keeper =>
      if (words.filter (isOnSide pair "drop")).isEmpty then ([], [])
      else ([keeper.position], positions (words.filter (isOnSide pair "drop")))
  | none => ([], [])

theorem judgePairs?_eq_ok {pairs : List Datum}
    (hpairs : ∀ pair ∈ pairs, ∃ retain drop, IsPair pair retain drop) (words : List Word) :
    judgePairs? words pairs =
      .ok (pairs.flatMap fun pair => (pairSides words pair).1,
        pairs.flatMap fun pair => (pairSides words pair).2) := by
  induction pairs with
  | nil => rfl
  | cons pair rest ih =>
      obtain ⟨⟨retain, drop, hpair⟩, hrest⟩ := List.forall_mem_cons.mp hpairs
      have hjudged : judgePair? words pair = .ok (pairSides words pair) := by
        unfold judgePair? pairSides
        rw [listedOn?_retain hpair, ok_bind, listedOn?_drop hpair, ok_bind]
        cases (words.filter (isOnSide pair "retain")).getLast? with
        | none => rfl
        | some keeper =>
            dsimp only
            split <;> rfl
      rw [judgePairs?, hjudged, ok_bind, ih hrest]
      rfl

/-- The last word that carries the flag, if no word has a form. -/
def flagFinding (params : Entries) (words : List Word) : Finding :=
  match params.getD "flag" .null with
  | .text name =>
      if (Datum.text name).holds && words.all fun word => word.forms.isEmpty then
        match (words.filter fun word => word.has name).getLast? with
        | some keeper =>
            match (params.getD "flag_confidence" (.float .one)).toDouble? with
            | .ok confidence =>
                .selected (.ofPositions [keeper.position] (positions words)) confidence
            | .error _ => .none
        | none => .none
      else .none
  | _ => .none

theorem judgeFlag?_eq_ok (hadmits : strategy.Admits params) (words : List Word) :
    judgeFlag? words (.map params) = .ok (flagFinding params words) := by
  unfold judgeFlag? flagFinding
  simp only [Datum.getD?, Datum.entriesFor?, ok_bind, pure, Except.pure]
  rcases hadmits.flag with hnone | ⟨name, hsome⟩
  · rw [Entries.getD_of_get?_eq_none hnone]
    rfl
  · obtain ⟨confidence, hconfidence, -⟩ := hadmits.flagConfidence
    rw [Entries.getD_of_get?_eq_some hsome, hconfidence]
    have hflagged : select? (fun word => word.hasAt? (.text name)) words =
        .ok (words.filter fun word => word.has name) :=
      select?_eq_ok fun word _ => Word.hasAt?_text word name
    rw [hflagged]
    simp only [ok_bind]
    split
    · cases (words.filter fun word => word.has name).getLast? <;> rfl
    · rfl

def listedPairs (params : Entries) : List Datum :=
  match (params.getD "pairs" (.tuple [])).items? with
  | .ok pairs => pairs
  | .error _ => []

def lexicalFinding (params : Entries) (words : List Word) : Finding :=
  if enough params words then
    let retain := (listedPairs params).flatMap fun pair => (pairSides words pair).1
    let drop := (listedPairs params).flatMap fun pair => (pairSides words pair).2
    if retain.isEmpty then flagFinding params words else .ofPositions retain drop
  else .tooFewWords

theorem judgeLexicalRetention_eq_ok (hadmits : strategy.Admits params) (words : List Word)
    (context : Context) :
    judgeLexicalRetention words context (.map params) = .ok (lexicalFinding params words) := by
  obtain ⟨pairs, hitems, hpairs⟩ := hadmits.pairs
  have hlisted : listedPairs params = pairs := by
    unfold listedPairs
    rw [hitems]
  unfold judgeLexicalRetention lexicalFinding
  rw [hasMinimum?_eq_ok hadmits, ok_bind, hlisted]
  simp only [Datum.getD?, Datum.entriesFor?, ok_bind, pure, Except.pure, hitems]
  rw [judgePairs?_eq_ok hpairs, ok_bind, judgeFlag?_eq_ok hadmits]
  split
  · dsimp only
    split <;> rfl
  · rfl

def seriesTable (params : Entries) : Entries :=
  match params.getD "series" (.map []) with
  | .map table => table
  | _ => []

/-- Whether a word belongs to the series, by its form or by its flag. -/
def isSeriesMember (params : Entries) (word : Word) : Bool :=
  Lexicon.lists (seriesTable params) word
    || match params.getD "flag" .null with
      | .text name => word.has name
      | _ => false

def seriesFinding (params : Entries) (words : List Word) : Finding :=
  if enough params words then
    let members := words.filter (isSeriesMember params)
    if members.isEmpty then .none else .ofPositions (positions members) (positions words)
  else .tooFewWords

theorem judgeSeriesRetention_eq_ok (hadmits : strategy.Admits params) (words : List Word)
    (context : Context) :
    judgeSeriesRetention words context (.map params) = .ok (seriesFinding params words) := by
  obtain ⟨table, htable, hproper⟩ := hadmits.series
  have hseries : seriesTable params = table := by
    unfold seriesTable
    rw [htable]
  have hmember : ∀ word ∈ words, isMember? (.map table) (params.getD "flag" .null) word =
      .ok (isSeriesMember params word) := by
    intro word _
    unfold isMember? isSeriesMember
    rw [hseries, Lexicon.contains?_eq_ok hproper, ok_bind]
    cases Lexicon.lists table word with
    | true => rfl
    | false =>
        rcases hadmits.flag with hnone | ⟨name, hsome⟩
        · rw [Entries.getD_of_get?_eq_none hnone]
          rfl
        · rw [Entries.getD_of_get?_eq_some hsome]
          rfl
  unfold judgeSeriesRetention seriesFinding
  rw [hasMinimum?_eq_ok hadmits, ok_bind]
  simp only [Datum.getD?, Datum.entriesFor?, ok_bind, pure, Except.pure, htable]
  rw [select?_eq_ok hmember, ok_bind]
  split
  · split <;> rfl
  · rfl

def criteria (params : Entries) (key : String) : Entries :=
  match params.get? key with
  | some (.map entries) => entries
  | _ => []

theorem require?_criteria {key : String}
    (h : ∃ entries, params.get? key = some (.map entries)) :
    (Datum.map params).require? key = .ok (.map (criteria params key)) := by
  obtain ⟨entries, hentries⟩ := h
  simp [Datum.require?, criteria, hentries]

theorem select?_meetsAll {wanted : Entries} (hwanted : IsCriteria wanted)
    (hclear : ∀ word ∈ words, word.IsClear) :
    select? (fun word => word.meetsAll? (.map wanted)) words =
      .ok (words.filter (Word.meets wanted)) :=
  select?_eq_ok fun word hword => Word.meetsAll?_eq_ok (hclear word hword) hwanted

def selectionFinding (params : Entries) (words : List Word) : Finding :=
  if enough params words then
    match (words.filter (Word.meets (criteria params "retain"))).getLast? with
    | some keeper => .ofPositions [keeper.position] (positions words)
    | none => .none
  else .tooFewWords

theorem judgeAttributeSelection_eq_ok (hadmits : strategy.Admits params)
    (hstrategy : strategy = .attributeSelection)
    (hretain : IsCriteria (criteria params "retain"))
    (hclear : ∀ word ∈ words, word.IsClear) (context : Context) :
    judgeAttributeSelection words context (.map params) =
      .ok (selectionFinding params words) := by
  unfold judgeAttributeSelection selectionFinding
  rw [hasMinimum?_eq_ok hadmits, ok_bind, require?_criteria (hadmits.retain (.inr hstrategy))]
  simp only [ok_bind, select?_meetsAll hretain hclear]
  split
  · cases (words.filter (Word.meets (criteria params "retain"))).getLast? <;> rfl
  · rfl

/-- The words of a group, those to keep left out. -/
def counterparts (retain : Entries) (group : List Word) : List Word :=
  group.filter fun word =>
    !(positions (group.filter (Word.meets retain))).contains word.position

def groupSides (retain against : Entries) (group : List Word) : List Int × List Int :=
  match (group.filter (Word.meets retain)).getLast? with
  | some keeper =>
      if ((counterparts retain group).filter (Word.meets against)).isEmpty then ([], [])
      else ([keeper.position], (positions group).filter fun i => i != keeper.position)
  | none => ([], [])

theorem judgeGroup?_eq_ok {retain against : Entries} (hretain : IsCriteria retain)
    (hagainst : IsCriteria against) {group : List Word}
    (hclear : ∀ word ∈ group, word.IsClear) :
    judgeGroup? (.map retain) (.map against) group = .ok (groupSides retain against group) := by
  have hothers : ∀ word ∈ counterparts retain group, word.IsClear :=
    fun word hword => hclear word (List.mem_filter.mp hword).1
  unfold judgeGroup? groupSides
  rw [select?_meetsAll hretain hclear, ok_bind]
  dsimp only
  rw [← counterparts, select?_meetsAll hagainst hothers, ok_bind]
  cases (group.filter (Word.meets retain)).getLast? with
  | none => rfl
  | some keeper =>
      dsimp only
      split <;> rfl

theorem judgeGroups?_eq_ok {retain against : Entries} (hretain : IsCriteria retain)
    (hagainst : IsCriteria against) {groups : List (List Word)}
    (hclear : ∀ group ∈ groups, ∀ word ∈ group, word.IsClear) :
    judgeGroups? (.map retain) (.map against) groups =
      .ok (groups.flatMap fun group => (groupSides retain against group).1,
        groups.flatMap fun group => (groupSides retain against group).2) := by
  induction groups with
  | nil => rfl
  | cons group rest ih =>
      obtain ⟨hgroup, hrest⟩ := List.forall_mem_cons.mp hclear
      rw [judgeGroups?, judgeGroup?_eq_ok hretain hagainst hgroup, ok_bind, ih hrest]
      rfl

theorem mem_groupsOf {group : List Word} (h : group ∈ groupsOf words) :
    ∃ key, group = words.filter fun word => word.groupKey = key := by
  unfold groupsOf at h
  obtain ⟨key, -, rfl⟩ := List.mem_map.mp h
  refine ⟨key, ?_⟩
  rw [List.filter_map, List.map_map]
  exact List.map_id _

def pairingFinding (params : Entries) (words : List Word) : Finding :=
  if enough params words then
    let sides := groupSides (criteria params "retain") (criteria params "against")
    let kept := (groupsOf words).flatMap fun group => (sides group).1
    let dropped := (groupsOf words).flatMap fun group => (sides group).2
    if kept.isEmpty then .none else .ofPositions kept dropped
  else .tooFewWords

theorem judgeAttributePairing_eq_ok (hadmits : strategy.Admits params)
    (hstrategy : strategy = .attributePairing)
    (hretain : IsCriteria (criteria params "retain"))
    (hagainst : IsCriteria (criteria params "against"))
    (hclear : ∀ word ∈ words, word.IsClear) (context : Context) :
    judgeAttributePairing words context (.map params) =
      .ok (pairingFinding params words) := by
  have hgroups : ∀ group ∈ groupsOf words, ∀ word ∈ group, word.IsClear := by
    intro group hgroup word hword
    obtain ⟨key, rfl⟩ := mem_groupsOf hgroup
    exact hclear word (List.mem_filter.mp hword).1
  unfold judgeAttributePairing pairingFinding
  rw [hasMinimum?_eq_ok hadmits, ok_bind, require?_criteria (hadmits.retain (.inl hstrategy)),
    require?_criteria (hadmits.against hstrategy)]
  simp only [ok_bind, judgeGroups?_eq_ok hretain hagainst hgroups]
  split
  · split <;> rfl
  · rfl

def finding : Strategy → Entries → List Word → Context → Finding
  | .identicalForms, params, words, context => identicalFormsFinding params words context
  | .lexicalRetention, params, words, _ => lexicalFinding params words
  | .seriesRetention, params, words, _ => seriesFinding params words
  | .attributePairing, params, words, _ => pairingFinding params words
  | .attributeSelection, params, words, _ => selectionFinding params words

theorem judge_eq_ok (hadmits : strategy.Admits params)
    (hretain : IsCriteria (criteria params "retain"))
    (hagainst : IsCriteria (criteria params "against"))
    (hclear : ∀ word ∈ words, word.IsClear) (context : Context) :
    strategy.judge words context (.map params) =
      .ok (strategy.finding params words context) := by
  cases strategy with
  | identicalForms => exact judgeIdenticalForms_eq_ok hadmits words context
  | lexicalRetention => exact judgeLexicalRetention_eq_ok hadmits words context
  | seriesRetention => exact judgeSeriesRetention_eq_ok hadmits words context
  | attributePairing =>
      exact judgeAttributePairing_eq_ok hadmits rfl hretain hagainst hclear context
  | attributeSelection =>
      exact judgeAttributeSelection_eq_ok hadmits rfl hretain hclear context

end SutraArbiter.Strategy

namespace SutraArbiter.Plan

/-- A plan that never fails on data that can be written out. -/
structure IsProper (plan : Plan) : Prop where
  admits : plan.strategy.Admits plan.params
  share : plan.confidence.level.isShare = true
  retain : IsCriteria (Strategy.criteria plan.params "retain")
  against : IsCriteria (Strategy.criteria plan.params "against")
  require : IsCriteria plan.require
  forbid : IsCriteria plan.forbid

def finding (plan : Plan) (words : List Word) (context : Context) : Finding :=
  if context.passes plan.require plan.forbid then
    plan.weigh (plan.strategy.finding plan.params words context)
  else .passed "context-gate" false

theorem judge_eq_ok {plan : Plan} {words : List Word} {context : Context}
    (hproper : plan.IsProper) (hclear : ∀ word ∈ words, word.IsClear)
    (hcontext : context.IsClear) :
    plan.judge words context = .ok (plan.finding words context) := by
  unfold judge finding
  rw [Context.satisfies?_eq_ok hcontext hproper.require hproper.forbid, ok_bind,
    Strategy.judge_eq_ok hproper.admits hproper.retain hproper.against hclear]
  split <;> rfl

end SutraArbiter.Plan
