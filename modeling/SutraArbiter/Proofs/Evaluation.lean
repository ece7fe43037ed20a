import SutraArbiter.Proofs.Steps
import SutraArbiter.Evaluation

namespace SutraArbiter

theorem Value.look_eq_ok {value : Value} {d : Datum} : value.look = .ok d ↔ value = .datum d := by
  cases value <;> simp [look]

namespace Rule

variable {words : List Word} {context : Context} {rule : Rule} {accepted : Match}

/-- What comes of asking a rule: the reply it is held to, or the line under which its failure
is reported, unless the asking is broken off. -/
def asked? (words : List Word) (context : Context) (rule : Rule) :
    Except Fault (Except String Match) :=
  match rule.predicate.answer words context with
  | .error raised => raised.line?.map .error
  | .ok reply =>
      (reply.toMatch? rule.id).map fun reading => reading.mapError ReplyProblem.message

def verdict (words : List Word) (context : Context) (rule : Rule) : Except String Match :=
  match rule.asked? words context with
  | .ok verdict => verdict
  | .error fault => .error fault.line

/-- Asking the rule does not break off the evaluation as a whole. -/
def IsReadable (words : List Word) (context : Context) (rule : Rule) : Prop :=
  ∃ verdict, rule.asked? words context = .ok verdict

/-- The reply of a rule; one that failed counts as unmatched. -/
def held (words : List Word) (context : Context) (rule : Rule) : Match :=
  match rule.verdict words context with
  | .ok accepted => accepted
  | .error _ => .failed rule.id

def failure? (words : List Word) (context : Context) (rule : Rule) : Option Diagnostic :=
  match rule.verdict words context with
  | .ok _ => none
  | .error line => some ⟨.predicateFailure, rule.id, line⟩

end Rule

theorem Double.finite?_level {x y : Double} (h : x.finite? = some y) :
    y.level ≠ .undefined := by
  cases x with
  | nan => cases h
  | infinite negative => cases h
  | finite negative units =>
      cases h
      cases negative <;> simp [Double.level]

theorem Double.ofInt?_level {i : Int} {x : Double} (h : Double.ofInt? i = some x) :
    x.level ≠ .undefined :=
  Double.finite?_level h

theorem Double.level_ne_undefined {x : Double} (h : x.isNaN = false) :
    x.level ≠ .undefined := by
  match x, h with
  | .infinite true, _ | .infinite false, _ => simp [Double.level]
  | .finite true units, _ | .finite false units, _ => simp [Double.level]

theorem map_inRange?_eq_ok {read : Option Double} {confidence : Double}
    (h : (Datum.inRange? read).map some = .ok (some confidence)) :
    read = some confidence := by
  cases read with
  | none => cases h
  | some x =>
      cases h
      rfl

theorem readConfidence?_level {given : Datum} {confidence : Double}
    (h : readConfidence? given = .ok (some confidence)) :
    confidence.level ≠ .undefined := by
  unfold readConfidence? at h
  split at h
  · rename_i x
    cases hnan : x.isNaN with
    | true => simp [hnan] at h
    | false =>
        simp only [hnan, Bool.false_eq_true, if_false, Except.ok.injEq,
          Option.some.injEq] at h
        exact h ▸ Double.level_ne_undefined hnan
  · exact Double.ofInt?_level (map_inRange?_eq_ok h)
  · simp at h

theorem Report.toMatch?_eq_ok {report : Report} {id : String} {accepted : Match}
    (h : report.toMatch? id = .ok (.ok accepted)) :
    accepted.ruleId = id ∧ accepted.confidence.level ≠ .undefined := by
  obtain ⟨matched, -, h⟩ := bind_eq_ok.mp h
  split at h
  · rename_i matched
    obtain ⟨given, -, h⟩ := bind_eq_ok.mp h
    obtain ⟨read, hread, h⟩ := bind_eq_ok.mp h
    cases read with
    | none => cases h
    | some confidence =>
        dsimp only at h
        split at h
        · cases h
        · obtain ⟨nearMiss, -, h⟩ := bind_eq_ok.mp h
          cases h
          refine ⟨rfl, ?_⟩
          cases matched with
          | true => exact readConfidence?_level hread
          | false => simp [Double.zero, Double.level]
  · cases h

namespace Rule

variable {words : List Word} {context : Context} {rule : Rule} {accepted : Match}

theorem verdict_of_asked? {verdict : Except String Match}
    (h : rule.asked? words context = .ok verdict) : rule.verdict words context = verdict := by
  unfold Rule.verdict
  rw [h]

theorem asked?_of_reply {reply : Reply} {reading : Except ReplyProblem Match}
    (hanswer : rule.predicate.answer words context = .ok reply)
    (hreading : reply.toMatch? rule.id = .ok reading) :
    rule.asked? words context = .ok (reading.mapError ReplyProblem.message) := by
  unfold asked?
  rw [hanswer]
  dsimp only
  rw [hreading]
  rfl

theorem verdict_eq_ok (h : rule.verdict words context = .ok accepted) :
    accepted.ruleId = rule.id ∧ accepted.confidence.level ≠ .undefined := by
  unfold verdict asked? at h
  cases hanswer : rule.predicate.answer words context with
  | error raised => cases raised <;> simp [hanswer, Raised.line?, Except.map] at h
  | ok reply =>
      rw [hanswer] at h
      dsimp only at h
      cases hreading : reply.toMatch? rule.id with
      | error fault => simp [hreading, Except.map] at h
      | ok reading =>
          rw [hreading] at h
          obtain rfl := mapError_eq_ok.mp h
          cases reply with
          | report report => exact Report.toMatch?_eq_ok hreading
          | other given => cases given <;> cases hreading

end Rule

namespace Evaluation

variable {words : List Word} {context : Context} {rules : List Rule}
  {evaluation : Evaluation}

/-- The evaluation that rules come to, when none of them breaks it off. -/
def gathered (words : List Word) (context : Context) (rules : List Rule) : Evaluation where
  replies := rules.map (Rule.held words context)
  diagnostics := rules.filterMap (Rule.failure? words context)

/-- A rule is asked before the others, and what it comes to stands before theirs. -/
theorem ofRules_cons (rule : Rule) (rest : List Rule) :
    (ofRules words context (rule :: rest)).result =
      (rule.asked? words context).mapError .fault >>= fun _ =>
        (ofRules words context rest).result >>= fun others =>
          .ok ⟨rule.held words context :: others.replies,
            (rule.failure? words context).toList ++ others.diagnostics⟩ := by
  rw [ofRules]
  unfold Rule.held Rule.failure? Rule.verdict Rule.asked?
  cases rule.predicate.answer words context with
  | error raised => cases raised <;> simp [Raised.line?, Except.map, consFailure]
  | ok reply =>
      dsimp only
      cases reply.toMatch? rule.id with
      | error fault => simp [Except.map]
      | ok reading => cases reading <;> simp [Except.map, consFailure, cons]

theorem gathered_cons (words : List Word) (context : Context) (rule : Rule)
    (rest : List Rule) :
    gathered words context (rule :: rest) =
      ⟨rule.held words context :: (gathered words context rest).replies,
        (rule.failure? words context).toList ++ (gathered words context rest).diagnostics⟩ := by
  unfold gathered
  cases hfailure : rule.failure? words context <;> simp [hfailure]

theorem ofRules_eq_ok :
    (ofRules words context rules).result = .ok evaluation ↔
      (∀ rule ∈ rules, rule.IsReadable words context)
        ∧ evaluation = gathered words context rules := by
  induction rules generalizing evaluation with
  | nil => simp [ofRules, gathered, empty, eq_comm]
  | cons rule rest ih =>
      rw [List.forall_mem_cons, gathered_cons, ofRules_cons]
      constructor
      · intro h
        obtain ⟨verdict, hverdict, h⟩ := bind_eq_ok.mp h
        obtain ⟨others, hothers, h⟩ := bind_eq_ok.mp h
        obtain ⟨hrest, rfl⟩ := ih.mp hothers
        cases h
        exact ⟨⟨⟨verdict, mapError_eq_ok.mp hverdict⟩, hrest⟩, rfl⟩
      · rintro ⟨⟨⟨verdict, hverdict⟩, hrest⟩, rfl⟩
        rw [hverdict, ih.mpr ⟨hrest, rfl⟩]
        rfl

theorem ofCandidates_eq_ok {limit : Nat} :
    (ofCandidates limit rules words context).result = .ok evaluation ↔
      rules.length ≤ limit ∧ (∀ rule ∈ rules, rule.IsReadable words context)
        ∧ evaluation = gathered words context rules := by
  unfold ofCandidates
  split
  · simp
    omega
  · rw [ofRules_eq_ok]
    grind

end Evaluation

end SutraArbiter
