import SutraArbiter.Proofs.Diagnostics

namespace SutraArbiter

/-! Rules that fail, or answer out of form, are told of and count as unmatched, and the
others are asked as before.  What fails while it is looked into, or while its failure is told,
ends the asking, and so does a confidence that no floating-point number is near. -/

namespace Datum

/-- A number that some floating-point number is near; what is no number by its own account
is none. -/
def isConfidence : Datum → Bool
  | int i => (Double.ofInt? i).isSome
  | float x => !x.isNaN
  | _ => false

def isShare (given : Datum) : Bool :=
  (given.level?.getD .undefined).isShare

-- The integers are kept apart, as no reduction may look into their rounding.
theorem isConfidence_int (i : Int) : (int i).isConfidence = (Double.ofInt? i).isSome := by
  rw [isConfidence]

end Datum

theorem readConfidence?_int (i : Int) :
    readConfidence? (.int i) = (Datum.inRange? (Double.ofInt? i)).map some := by
  rw [readConfidence?]

theorem readConfidence?_eq_error {given : Datum} {fault : Fault} :
    readConfidence? given = .error fault ↔
      fault = .integerTooLarge ∧ ∃ i, given = .int i ∧ Double.ofInt? i = none := by
  cases given with
  | int i =>
      rw [readConfidence?_int]
      constructor
      · intro h
        cases hread : Double.ofInt? i with
        | none =>
            rw [hread] at h
            cases h
            exact ⟨rfl, i, rfl, hread⟩
        | some x =>
            rw [hread] at h
            cases h
      · rintro ⟨rfl, j, hj, hread⟩
        rw [Datum.int.inj hj, hread]
        rfl
  | _ => simp [readConfidence?]

theorem isSome_of_readConfidence? {given : Datum} {read : Option Double}
    (h : readConfidence? given = .ok read) : read.isSome = given.isConfidence := by
  cases given with
  | int i =>
      rw [readConfidence?_int] at h
      rw [Datum.isConfidence_int]
      cases hread : Double.ofInt? i with
      | none =>
          rw [hread] at h
          cases h
      | some x =>
          rw [hread] at h
          cases h
          rfl
  | float x =>
      cases hnan : x.isNaN <;> simp only [readConfidence?, hnan] at h <;> cases h <;>
        simp [Datum.isConfidence, hnan]
  | _ =>
      cases h
      rfl

theorem exists_readConfidence? {given : Datum} (h : given.isConfidence = true) :
    ∃ read, readConfidence? given = .ok read := by
  cases hread : readConfidence? given with
  | ok read => exact ⟨read, rfl⟩
  | error fault =>
      obtain ⟨-, i, rfl, hfar⟩ := readConfidence?_eq_error.mp hread
      rw [Datum.isConfidence_int, hfar] at h
      cases h

namespace Report

variable {report : Report} {fault : Fault}

/-- A truth value beside a number, which is a share of one if the rule matches. -/
def isFormed (report : Report) : Bool :=
  match report.matched, report.confidence with
  | .datum (.bool matched), .datum given => given.isConfidence && (!matched || given.isShare)
  | _, _ => false

def tellsMatch (report : Report) : Bool :=
  match report.matched with
  | .datum (.bool matched) => matched
  | _ => false

/-- The fault that breaks off the reading of a report, which is looked at from the front. -/
inductive Breaks (report : Report) : Fault → Prop
  | matched {fault : Fault} (brittle : report.matched = .brittle fault) : Breaks report fault
  | confidence {matched : Bool} {fault : Fault}
      (told : report.matched = .datum (.bool matched))
      (brittle : report.confidence = .brittle fault) : Breaks report fault
  | tooLarge {matched : Bool} {i : Int} (told : report.matched = .datum (.bool matched))
      (given : report.confidence = .datum (.int i)) (far : Double.ofInt? i = none) :
      Breaks report .integerTooLarge
  | nearMiss {fault : Fault} (formed : report.isFormed = true)
      (brittle : report.nearMiss = .brittle fault) : Breaks report fault

/-- A report with a truth value and a confidence is taken for what these are. -/
theorem toMatch?_of_read {matched : Bool} {given : Datum} {read : Option Double}
    (hmatched : report.matched = .datum (.bool matched))
    (hconfidence : report.confidence = .datum given)
    (hread : readConfidence? given = .ok read) (id : String) :
    (report.isFormed = true ∧ ∃ confidence, report.toMatch? id =
        report.nearMiss.look.map fun nearMiss =>
          .ok ⟨id, matched, confidence, report.extracted, report.reason,
            nearMissOf matched nearMiss⟩)
      ∨ (report.isFormed = false ∧ ∃ problem, report.toMatch? id = .ok (.error problem)) := by
  have hformed : report.isFormed = (read.isSome && (!matched || given.isShare)) := by
    rw [isSome_of_readConfidence? hread]
    simp only [isFormed, hmatched, hconfidence]
  unfold Datum.isShare at hformed
  unfold toMatch?
  rw [hformed, hmatched, hconfidence]
  simp only [Value.look_datum, ok_bind, hread]
  cases read with
  | none => exact .inr ⟨rfl, _, rfl⟩
  | some confidence =>
      cases matched with
      | false =>
          refine .inl ⟨rfl, .zero, ?_⟩
          cases report.nearMiss.look <;> rfl
      | true =>
          cases (given.level?.getD .undefined).isShare with
          | false => exact .inr ⟨rfl, _, rfl⟩
          | true =>
              refine .inl ⟨rfl, confidence, ?_⟩
              cases report.nearMiss.look <;> rfl

/-- What the confidence fails with, the report fails with. -/
theorem toMatch?_of_unread {matched : Bool} {given : Datum}
    (hmatched : report.matched = .datum (.bool matched))
    (hconfidence : report.confidence = .datum given)
    (hread : readConfidence? given = .error fault) (id : String) :
    report.toMatch? id = .error fault := by
  unfold toMatch?
  rw [hmatched, hconfidence]
  simp only [Value.look_datum, ok_bind, hread, error_bind]

theorem exists_of_isFormed (h : report.isFormed = true) :
    ∃ matched given, report.matched = .datum (.bool matched)
      ∧ report.confidence = .datum given ∧ given.isConfidence = true := by
  unfold isFormed at h
  split at h
  · rename_i matched given hmatched hconfidence
    exact ⟨matched, given, hmatched, hconfidence, (Bool.and_eq_true_iff.mp h).1⟩
  · cases h

theorem Breaks.toMatch? (h : report.Breaks fault) (id : String) :
    report.toMatch? id = .error fault := by
  cases h with
  | matched brittle => simp [Report.toMatch?, brittle]
  | confidence told brittle => simp [Report.toMatch?, told, brittle]
  | tooLarge told given far =>
      exact toMatch?_of_unread told given (readConfidence?_eq_error.mpr ⟨rfl, _, rfl, far⟩) id
  | nearMiss formed brittle =>
      obtain ⟨matched, given, hmatched, hconfidence, hnumber⟩ := exists_of_isFormed formed
      obtain ⟨read, hread⟩ := exists_readConfidence? hnumber
      rcases toMatch?_of_read hmatched hconfidence hread id with
        ⟨-, confidence, hsteps⟩ | ⟨hunformed, -⟩
      · rw [hsteps, brittle]
        rfl
      · rw [formed] at hunformed
        cases hunformed

/-- A report that does not break off is accepted as it stands if it is in form, and is a
problem if it is not. -/
theorem toMatch?_cases (report : Report) (id : String) :
    (∃ fault, report.Breaks fault)
      ∨ (report.isFormed = true ∧ ∃ accepted, report.toMatch? id = .ok (.ok accepted)
        ∧ accepted.matched = report.tellsMatch)
      ∨ (report.isFormed = false ∧ ∃ problem, report.toMatch? id = .ok (.error problem)) := by
  cases hmatched : report.matched with
  | brittle fault => exact .inl ⟨fault, .matched hmatched⟩
  | datum told =>
      cases told with
      | bool matched =>
          cases hconfidence : report.confidence with
          | brittle fault => exact .inl ⟨fault, .confidence hmatched hconfidence⟩
          | datum given =>
              cases hread : readConfidence? given with
              | error fault =>
                  obtain ⟨-, i, hi, hfar⟩ := readConfidence?_eq_error.mp hread
                  exact .inl ⟨_, .tooLarge hmatched (hi ▸ hconfidence) hfar⟩
              | ok read =>
                  rcases toMatch?_of_read hmatched hconfidence hread id with
                    ⟨hformed, confidence, hsteps⟩ | hproblem
                  · cases hmiss : report.nearMiss with
                    | brittle fault => exact .inl ⟨fault, .nearMiss hformed hmiss⟩
                    | datum nearMiss =>
                        rw [hmiss] at hsteps
                        refine .inr (.inl ⟨hformed, _, hsteps, ?_⟩)
                        simp only [tellsMatch, hmatched]
                  · exact .inr (.inr hproblem)
      | _ =>
          refine .inr (.inr ⟨?_, .matchedNotBoolean, ?_⟩)
          · simp only [isFormed, hmatched]
          · simp only [toMatch?, hmatched, Value.look_datum, ok_bind]
            rfl

theorem toMatch?_eq_error {id : String} :
    report.toMatch? id = .error fault ↔ report.Breaks fault := by
  constructor
  · intro h
    rcases toMatch?_cases report id with ⟨cause, hbreaks⟩ | ⟨-, accepted, hok, -⟩ |
      ⟨-, problem, hok⟩
    · rw [hbreaks.toMatch? id] at h
      cases h
      exact hbreaks
    · rw [hok] at h
      cases h
    · rw [hok] at h
      cases h
  · intro h
    exact h.toMatch? id

/-- A reading tells of a report in form what it says, and of any other that it is not. -/
theorem formed_of_toMatch? {id : String} {reading : Except ReplyProblem Match}
    (h : report.toMatch? id = .ok reading) :
    (report.isFormed = true ∧ ∃ accepted, reading = .ok accepted
        ∧ accepted.matched = report.tellsMatch)
      ∨ (report.isFormed = false ∧ ∃ problem, reading = .error problem) := by
  rcases toMatch?_cases report id with ⟨cause, hbreaks⟩ | ⟨hformed, accepted, hok, hmatched⟩ |
    ⟨hformed, problem, hok⟩
  · rw [hbreaks.toMatch? id] at h
    cases h
  · obtain rfl := Except.ok.inj (hok.symm.trans h)
    exact .inl ⟨hformed, accepted, rfl, hmatched⟩
  · obtain rfl := Except.ok.inj (hok.symm.trans h)
    exact .inr ⟨hformed, problem, rfl⟩

end Report

namespace Rule

variable {words : List Word} {context : Context} {rule : Rule}

/-- The report that a rule gives, if it gives one. -/
def told? (words : List Word) (context : Context) (rule : Rule) : Option Report :=
  match rule.predicate.answer words context with
  | .ok (.report report) => some report
  | _ => none

/-- The rule fails, or gives anything but a report in form. -/
def misbehaves (words : List Word) (context : Context) (rule : Rule) : Bool :=
  !(rule.told? words context).any Report.isFormed

def reportsMatch (words : List Word) (context : Context) (rule : Rule) : Bool :=
  (rule.told? words context).any fun report => report.isFormed && report.tellsMatch

/-- The fault that breaks off the asking of a rule: its failure cannot be told, or what it
gives fails while it is looked into. -/
inductive Breaks (words : List Word) (context : Context) (rule : Rule) : Fault → Prop
  | untold {cause : Fault}
      (failed : rule.predicate.answer words context = .error (.untold cause)) :
      Breaks words context rule cause
  | stray {fault : Fault}
      (given : rule.predicate.answer words context = .ok (.other (.brittle fault))) :
      Breaks words context rule fault
  | report {report : Report} {fault : Fault}
      (given : rule.predicate.answer words context = .ok (.report report))
      (breaks : report.Breaks fault) : Breaks words context rule fault

theorem asked?_of_told {fault : Fault}
    (h : rule.predicate.answer words context = .error (.told fault)) :
    rule.asked? words context = .ok (.error fault.line) := by
  unfold asked?
  rw [h]
  rfl

theorem asked?_of_untold {cause : Fault}
    (h : rule.predicate.answer words context = .error (.untold cause)) :
    rule.asked? words context = .error cause := by
  unfold asked?
  rw [h]
  rfl

theorem asked?_of_brittle {fault : Fault}
    (h : rule.predicate.answer words context = .ok (.other (.brittle fault))) :
    rule.asked? words context = .error fault := by
  unfold asked?
  rw [h]
  rfl

theorem asked?_of_report {report : Report}
    (h : rule.predicate.answer words context = .ok (.report report)) :
    rule.asked? words context =
      (report.toMatch? rule.id).map fun reading => reading.mapError ReplyProblem.message := by
  unfold asked?
  rw [h]
  rfl

theorem asked?_eq_error {fault : Fault} :
    rule.asked? words context = .error fault ↔ rule.Breaks words context fault := by
  constructor
  · intro h
    cases hanswer : rule.predicate.answer words context with
    | error raised =>
        cases raised with
        | told cause =>
            rw [asked?_of_told hanswer] at h
            cases h
        | untold cause =>
            rw [asked?_of_untold hanswer] at h
            cases h
            exact .untold hanswer
    | ok reply =>
        cases reply with
        | other given =>
            cases given with
            | datum d =>
                rw [asked?_of_reply hanswer rfl] at h
                cases h
            | brittle cause =>
                rw [asked?_of_brittle hanswer] at h
                cases h
                exact .stray hanswer
        | report report =>
            rw [asked?_of_report hanswer] at h
            cases hreading : report.toMatch? rule.id with
            | ok reading =>
                rw [hreading] at h
                cases h
            | error cause =>
                rw [hreading] at h
                cases h
                exact .report hanswer (Report.toMatch?_eq_error.mp hreading)
  · intro h
    cases h with
    | untold failed => exact asked?_of_untold failed
    | stray given => exact asked?_of_brittle given
    | report given breaks =>
        rw [asked?_of_report given, breaks.toMatch? rule.id]
        rfl

/-- A rule is asked to the end unless something breaks it off. -/
theorem isReadable_iff :
    rule.IsReadable words context ↔ ∀ fault, ¬ rule.Breaks words context fault := by
  constructor
  · rintro ⟨verdict, hverdict⟩ fault hbreaks
    rw [asked?_eq_error.mpr hbreaks] at hverdict
    cases hverdict
  · intro h
    cases hasked : rule.asked? words context with
    | ok verdict => exact ⟨verdict, hasked⟩
    | error fault => exact absurd (asked?_eq_error.mp hasked) (h fault)

/-- A rule is held to what it reports, or its failure is. -/
theorem verdict_of_readable (h : rule.IsReadable words context) :
    (rule.misbehaves words context = false ∧ ∃ accepted,
        rule.verdict words context = .ok accepted
          ∧ accepted.matched = rule.reportsMatch words context)
      ∨ (rule.misbehaves words context = true ∧ rule.reportsMatch words context = false
        ∧ ∃ line, rule.verdict words context = .error line) := by
  obtain ⟨verdict, hasked⟩ := h
  rw [verdict_of_asked? hasked]
  unfold misbehaves reportsMatch told?
  cases hanswer : rule.predicate.answer words context with
  | error raised =>
      cases raised with
      | told fault =>
          rw [asked?_of_told hanswer] at hasked
          exact .inr ⟨rfl, rfl, _, (Except.ok.inj hasked).symm⟩
      | untold cause =>
          rw [asked?_of_untold hanswer] at hasked
          cases hasked
  | ok reply =>
      cases reply with
      | other given =>
          cases given with
          | datum d =>
              rw [asked?_of_reply hanswer rfl] at hasked
              exact .inr ⟨rfl, rfl, _, (Except.ok.inj hasked).symm⟩
          | brittle cause =>
              rw [asked?_of_brittle hanswer] at hasked
              cases hasked
      | report report =>
          rw [asked?_of_report hanswer] at hasked
          cases hreading : report.toMatch? rule.id with
          | error fault =>
              rw [hreading] at hasked
              cases hasked
          | ok reading =>
              rw [hreading] at hasked
              obtain rfl := Except.ok.inj hasked
              simp only [Option.any_some]
              rcases Report.formed_of_toMatch? hreading with
                ⟨hformed, accepted, rfl, hmatched⟩ | ⟨hformed, problem, rfl⟩
              · rw [hformed]
                exact .inl ⟨rfl, accepted, rfl, hmatched⟩
              · rw [hformed]
                exact .inr ⟨rfl, rfl, _, rfl⟩

theorem failure?_of_readable (h : rule.IsReadable words context) :
    (rule.failure? words context).map Diagnostic.ruleId =
      if rule.misbehaves words context then some rule.id else none := by
  unfold failure?
  rcases verdict_of_readable h with ⟨hmisbehaves, accepted, hverdict, -⟩ |
    ⟨hmisbehaves, -, line, hverdict⟩
  · rw [hverdict, hmisbehaves]
    rfl
  · rw [hverdict, hmisbehaves]
    rfl

theorem code_of_failure? {diagnostic : Diagnostic}
    (h : rule.failure? words context = some diagnostic) :
    diagnostic.code = .predicateFailure := by
  unfold failure? at h
  split at h
  · cases h
  · cases h
    rfl

theorem held_of_readable (h : rule.IsReadable words context) :
    (rule.held words context).ruleId = rule.id
      ∧ (rule.held words context).matched = rule.reportsMatch words context := by
  unfold held
  rcases verdict_of_readable h with ⟨-, accepted, hverdict, hmatched⟩ |
    ⟨-, hunmatched, line, hverdict⟩
  · rw [hverdict]
    exact ⟨(verdict_eq_ok hverdict).1, hmatched⟩
  · rw [hverdict, hunmatched]
    exact ⟨rfl, rfl⟩

end Rule

theorem Entry.isSome_standing? {words : List Word} {context : Context} {entry : Entry}
    (h : entry.toRule.IsReadable words context) :
    (entry.standing? words context).isSome = entry.toRule.reportsMatch words context := by
  unfold standing?
  rcases Rule.verdict_of_readable h with ⟨-, accepted, hverdict, hmatched⟩ |
    ⟨-, hunmatched, line, hverdict⟩
  · rw [hverdict, ← hmatched]
    cases hreply : accepted.matched <;> simp [hreply]
  · rw [hverdict, hunmatched]
    rfl

namespace Evaluation

variable {words : List Word} {context : Context} {rules : List Rule} {failure : Failure}

/-- The first rule that cannot be asked to the end ends the evaluation; nothing else does. -/
theorem ofRules_eq_error :
    (ofRules words context rules).result = .error failure ↔
      ∃ earlier rule later fault, rules = earlier ++ rule :: later
        ∧ (∀ other ∈ earlier, other.IsReadable words context)
        ∧ rule.Breaks words context fault ∧ failure = .fault fault := by
  induction rules with
  | nil => simp [ofRules, pure]
  | cons first rest ih =>
      rw [ofRules_cons]
      constructor
      · intro h
        rcases bind_eq_error.mp h with hfirst | ⟨verdict, hverdict, h⟩
        · obtain ⟨fault, hasked, rfl⟩ := mapError_eq_error.mp hfirst
          exact ⟨[], first, rest, fault, rfl, by simp, Rule.asked?_eq_error.mp hasked, rfl⟩
        · rcases bind_eq_error.mp h with hrest | ⟨others, -, h⟩
          · obtain ⟨earlier, rule, later, fault, rfl, hearlier, hbreaks, rfl⟩ := ih.mp hrest
            exact ⟨first :: earlier, rule, later, fault, rfl,
              List.forall_mem_cons.mpr ⟨⟨verdict, mapError_eq_ok.mp hverdict⟩, hearlier⟩,
              hbreaks, rfl⟩
          · cases h
      · rintro ⟨earlier, rule, later, fault, hrules, hearlier, hbreaks, rfl⟩
        cases earlier with
        | nil =>
            obtain ⟨rfl, rfl⟩ := List.cons.inj hrules
            rw [Rule.asked?_eq_error.mpr hbreaks]
            rfl
        | cons other earlier =>
            obtain ⟨rfl, rfl⟩ := List.cons.inj hrules
            obtain ⟨⟨verdict, hverdict⟩, hearlier⟩ := List.forall_mem_cons.mp hearlier
            have hrest := ih.mpr ⟨earlier, rule, later, fault, rfl, hearlier, hbreaks, rfl⟩
            rw [hverdict, hrest]
            rfl

/-- Each failure is told of once, where its rule stands among the others. -/
theorem map_ruleId_diagnostics_gathered
    (h : ∀ rule ∈ rules, rule.IsReadable words context) :
    (gathered words context rules).diagnostics.map Diagnostic.ruleId =
      (rules.filter (Rule.misbehaves words context)).map Rule.id := by
  unfold gathered
  induction rules with
  | nil => rfl
  | cons rule rest ih =>
      obtain ⟨hrule, hrest⟩ := List.forall_mem_cons.mp h
      have htold := Rule.failure?_of_readable hrule
      simp only [List.filterMap_cons, List.filter_cons]
      cases hmisbehaves : rule.misbehaves words context with
      | true =>
          rw [hmisbehaves, if_pos rfl] at htold
          obtain ⟨diagnostic, hdiagnostic, hid⟩ := Option.map_eq_some_iff.mp htold
          simp [hdiagnostic, hid, ih hrest]
      | false =>
          rw [hmisbehaves, if_neg Bool.false_ne_true] at htold
          simp [Option.map_eq_none_iff.mp htold, ih hrest]

theorem code_of_mem_gathered {diagnostic : Diagnostic}
    (h : diagnostic ∈ (gathered words context rules).diagnostics) :
    diagnostic.code = .predicateFailure := by
  obtain ⟨rule, -, hfailure⟩ := List.mem_filterMap.mp h
  exact Rule.code_of_failure? hfailure

/-- Every rule has its reply, and what failed counts as unmatched. -/
theorem replies_gathered (h : ∀ rule ∈ rules, rule.IsReadable words context) :
    (gathered words context rules).replies.map (fun reply => (reply.ruleId, reply.matched)) =
      rules.map fun rule => (rule.id, rule.reportsMatch words context) := by
  unfold gathered
  rw [List.map_map]
  apply List.map_congr_left
  intro rule hrule
  obtain ⟨hid, hmatched⟩ := Rule.held_of_readable (h rule hrule)
  exact Prod.ext hid hmatched

end Evaluation

/-- The fault with which a value fails that is to be told as a text. -/
inductive Value.LacksText : Value → Fault → Prop
  | brittle {fault : Fault} : LacksText (.brittle fault) fault
  | overlong {given : Datum} (overlong : given.isOverlong = true) :
      LacksText (.datum given) .overlongInteger

theorem Envelope.ofEvaluation?_eq_error {evaluation : Evaluation} {script : Option Script}
    {fault : Fault} :
    ofEvaluation? evaluation script = .error fault ↔
      ∃ miss, evaluation.firstNearMiss? = some miss ∧ miss.reason.LacksText fault := by
  unfold ofEvaluation?
  cases evaluation.firstNearMiss? with
  | none => simp
  | some miss =>
      simp only [Option.some.injEq, exists_eq_left']
      cases hreason : miss.reason with
      | brittle cause =>
          simp only [Value.look_brittle, error_bind, Except.error.injEq]
          constructor
          · intro h
            exact h ▸ .brittle
          · intro h
            cases h
            rfl
      | datum given =>
          have hlacks : (Value.datum given).LacksText fault ↔
              fault = .overlongInteger ∧ given.isOverlong = true := by
            constructor
            · intro h
              cases h with
              | overlong hlong => exact ⟨rfl, hlong⟩
            · rintro ⟨rfl, hlong⟩
              exact .overlong hlong
          rw [hlacks, Value.look_datum, ok_bind]
          cases hholds : given.holds with
          | false =>
              have hclear : given.isOverlong = false := by
                by_contra hlong
                rw [Datum.holds_of_isOverlong (Bool.eq_true_of_not_eq_false hlong)] at hholds
                cases hholds
              simp [hclear, pure, Except.pure]
          | true => simp [bind_eq_error, Datum.plain?_eq_error, pure, Except.pure]

theorem Ruling.map_ruleId_traceOf (ranking : List Standing) :
    (traceOf ranking).map Trace.ruleId = ranking.map fun standing => standing.entry.id := by
  unfold traceOf
  rw [List.map_map]
  have hline : Trace.ruleId ∘ (fun place : Standing × Nat => traceLine place.1 place.2) =
      (fun standing : Standing => standing.entry.id) ∘ Prod.fst := rfl
  rw [hline, ← List.map_map, List.zipIdx_map_fst]

namespace Registry

variable {registry : Registry} {tags : List String} {words : List Word} {context : Context}

theorem matching_eq_nil_iff
    (h : ∀ entry ∈ registry.sharing tags, entry.toRule.IsReadable words context) :
    registry.matching tags words context = [] ↔
      ∀ entry ∈ registry.sharing tags, entry.toRule.reportsMatch words context = false := by
  unfold matching
  rw [List.filterMap_eq_nil_iff]
  refine forall₂_congr fun entry hentry => ?_
  rw [← Entry.isSome_standing? (h entry hentry), ← Option.isNone_iff_eq_none]
  cases entry.standing? words context <;> simp

theorem map_id_filterMap_standing? {entries : List Entry}
    (h : ∀ entry ∈ entries, entry.toRule.IsReadable words context) :
    (entries.filterMap (Entry.standing? words context)).map (fun standing => standing.entry.id) =
      (entries.filter fun entry => entry.toRule.reportsMatch words context).map
        fun entry => entry.id := by
  induction entries with
  | nil => rfl
  | cons entry rest ih =>
      obtain ⟨hentry, hrest⟩ := List.forall_mem_cons.mp h
      have hsome := Entry.isSome_standing? hentry
      rw [List.filterMap_cons, List.filter_cons, ← hsome]
      cases hstanding : entry.standing? words context with
      | none => simpa using ih hrest
      | some standing => simp [Entry.entry_of_standing? hstanding, ih hrest]

end Registry

end SutraArbiter
