import SutraArbiter.Proofs.Standing

namespace SutraArbiter

theorem checkPayload_eq_ok {d : Datum} {payload : Entries} :
    checkPayload d = .ok payload ↔ d = .map payload ∧ shadowed payload = [] := by
  cases d with
  | map given =>
      by_cases hnone : shadowed given = []
      · simp only [checkPayload, hnone, List.isEmpty_nil, if_true, Except.ok.injEq,
          Datum.map.injEq]
        constructor
        · rintro rfl
          exact ⟨rfl, hnone⟩
        · exact And.left
      · have hsome : (shadowed given).isEmpty = false := by simpa using hnone
        simp only [checkPayload, hsome, Bool.false_eq_true, if_false, reduceCtorEq,
          Datum.map.injEq, false_iff, not_and]
        rintro rfl
        exact hnone
  | _ => simp [checkPayload]

namespace Execution

variable {words : List Word} {context : Context}

/-- What an action gave, as a payload if it is one. -/
def ofGiven (ruleId : String) (given : Datum) : Execution :=
  match checkPayload given with
  | .error problem => .failed ⟨.actionFailure, ruleId, problem.message⟩
  | .ok payload => .done payload

/-- What running the action of a rule comes to, unless it breaks off. -/
def outcome? (rule : Rule) (words : List Word) (context : Context) (reply : Match) :
    Except Fault Execution :=
  match rule.action.perform words context reply with
  | .error raised => raised.line?.map fun line => .failed ⟨.actionFailure, rule.id, line⟩
  | .ok given => given.look.map (ofGiven rule.id)

theorem ofRule_result (rule : Rule) (words : List Word) (context : Context)
    (reply : Match) :
    (ofRule rule words context reply).result =
      (outcome? rule words context reply).mapError .fault := by
  unfold ofRule outcome?
  cases rule.action.perform words context reply with
  | error raised => cases raised <;> rfl
  | ok given =>
      cases given with
      | brittle fault => rfl
      | datum d =>
          simp only [Logged.result_bind, Logged.result_ofFault, Value.look_datum, mapError_ok,
            ok_bind, Except.map, ofGiven]
          cases checkPayload d <;> rfl

end Execution

/-- What the action of a rule gives: what one of the caller's own does, or the payload of the
selection that was reported. -/
inductive Action.Gives (words : List Word) (context : Context) (reply : Match) :
    Action → Except Raised Value → Prop
  | custom {act : List Word → Context → Match → Except Raised Value} :
      Gives words context reply (.custom act) (act words context reply)
  | selection {settings payload : Entries}
      (told : Payload.ofSelection? words reply.extracted (.map settings) = .ok payload) :
      Gives words context reply (.retainSelection settings) (.ok (.datum (.map payload)))
  | failure {settings : Entries} {fault : Fault}
      (failed : Payload.ofSelection? words reply.extracted (.map settings) = .error fault) :
      Gives words context reply (.retainSelection settings) (.error (.told fault))

theorem Action.gives_perform (action : Action) (words : List Word) (context : Context)
    (reply : Match) : action.Gives words context reply (action.perform words context reply) := by
  cases action with
  | custom act => exact .custom
  | retainSelection settings =>
      cases hpayload : Payload.ofSelection? words reply.extracted (.map settings) with
      | error fault =>
          rw [perform, hpayload]
          exact .failure hpayload
      | ok payload =>
          rw [perform, hpayload]
          exact .selection hpayload

theorem Action.Gives.eq_perform {action : Action} {words : List Word} {context : Context}
    {reply : Match} {given : Except Raised Value} (h : action.Gives words context reply given) :
    given = action.perform words context reply := by
  cases h with
  | custom => rfl
  | selection told =>
      rw [perform, told]
      rfl
  | failure failed =>
      rw [perform, failed]
      rfl

/-- What is answered for the rule that governs, by what its action gave. -/
inductive Standing.Concludes (governing : Standing) (trace : List Trace)
    (diagnostics : List Diagnostic) (script : Option Script) :
    Except Raised Value → Except Failure Envelope → Prop
  | applied {payload : Entries} {reason : Datum} (free : shadowed payload = [])
      (told : governing.reply.reason = .datum reason) :
      Concludes governing trace diagnostics script (.ok (.datum (.map payload)))
        (.ok (.ofPayload governing
          (if reason.holds then reason else .text governing.entry.reason) payload trace
          diagnostics script))
  | unreasoned {payload : Entries} {fault : Fault} (free : shadowed payload = [])
      (brittle : governing.reply.reason = .brittle fault) :
      Concludes governing trace diagnostics script (.ok (.datum (.map payload)))
        (.error (.fault fault))
  | refused {given : Datum} {problem : ActionProblem}
      (refused : checkPayload given = .error problem) :
      Concludes governing trace diagnostics script (.ok (.datum given))
        (.ok (.ofFailedAction governing trace
          (diagnostics ++ [⟨.actionFailure, governing.entry.id, problem.message⟩]) script))
  | failed {fault : Fault} :
      Concludes governing trace diagnostics script (.error (.told fault))
        (.ok (.ofFailedAction governing trace
          (diagnostics ++ [⟨.actionFailure, governing.entry.id, fault.line⟩]) script))
  | untold {cause : Fault} :
      Concludes governing trace diagnostics script (.error (.untold cause))
        (.error (.fault cause))
  | brittle {fault : Fault} :
      Concludes governing trace diagnostics script (.ok (.brittle fault))
        (.error (.fault fault))

/-- A standing above every other one. -/
structure Standing.Governs (policy : TieBreak) (standings : List Standing)
    (governing : Standing) : Prop where
  member : governing ∈ standings
  outranks : ∀ other ∈ standings, other ≠ governing →
    Standing.Outranks policy governing other

theorem Standing.Governs.unique {policy : TieBreak} {standings : List Standing}
    {x y : Standing} (hx : Standing.Governs policy standings x)
    (hy : Standing.Governs policy standings y) : x = y := by
  by_contra hne
  have hxy := hx.outranks y hy.member (Ne.symm hne)
  exact hxy.asymm (hy.outranks x hx.member hne)

namespace Ruling

variable {policy : TieBreak} {standings others : List Standing} {governing : Standing}

theorem governs_of_ranked (hdistinct : Distinct standings)
    (h : ranked policy standings = governing :: others) :
    Standing.Governs policy standings governing where
  member := (ranked_perm policy standings).mem_iff.mp (h ▸ List.mem_cons_self)
  outranks := by
    intro other hother hne
    have hbelow := h ▸ ranked_outranks policy hdistinct
    have hranked := h ▸ (ranked_perm policy standings).mem_iff.mpr hother
    rcases List.mem_cons.mp hranked with hsame | hothers
    · exact absurd hsame hne
    · exact List.rel_of_pairwise_cons hbelow hothers

theorem result_ofStandings_of_mandatory (h : 2 ≤ (mandatory standings).length) :
    (ofStandings policy standings).result =
      .error (.ambiguous ((mandatory standings).map fun standing => standing.entry.id)) := by
  simp [ofStandings, h]

theorem result_ofStandings (h : (mandatory standings).length < 2) :
    (ofStandings policy standings).result =
      .ok ⟨(ranked policy standings).head?, traceOf (ranked policy standings)⟩ := by
  unfold ofStandings
  rw [if_neg (Nat.not_le.mpr h)]
  cases ranked policy standings with
  | nil => rfl
  | cons first others => rfl

/-- Only a rule that matches governs. -/
theorem mem_of_governing {ruling : Ruling}
    (h : (ofStandings policy standings).result = .ok ruling)
    (hgoverning : ruling.governing = some governing) : governing ∈ standings := by
  by_cases hmandatory : (mandatory standings).length < 2
  · rw [result_ofStandings hmandatory] at h
    cases h
    exact (ranked_perm policy standings).mem_iff.mp (List.mem_of_mem_head? hgoverning)
  · rw [result_ofStandings_of_mandatory (Nat.le_of_not_lt hmandatory)] at h
    cases h

theorem Distinct.of_perm (hdistinct : Distinct standings) {arrived : List Standing}
    (hperm : arrived.Perm standings) : Distinct arrived where
  numbered := fun x hx => hdistinct.numbered x (hperm.mem_iff.mp hx)
  places := (hperm.pairwise_iff fun h => h.symm).mpr hdistinct.places

/-- The order in which standings come has no part in the ruling. -/
theorem ranked_of_perm (hdistinct : Distinct standings) {arrived : List Standing}
    (hperm : arrived.Perm standings) :
    ranked policy arrived = ranked policy standings :=
  eq_ranked hdistinct ((ranked_perm policy arrived).trans hperm)
    (ranked_outranks policy (hdistinct.of_perm hperm))

theorem length_mandatory_of_perm {arrived : List Standing}
    (hperm : arrived.Perm standings) :
    (mandatory arrived).length = (mandatory standings).length :=
  (hperm.filter _).length_eq

end Ruling

namespace Entry

def nearMiss? (words : List Word) (context : Context) (entry : Entry) : Option Match :=
  match entry.toRule.verdict words context with
  | .ok reply => if !reply.matched && reply.nearMiss.holds then some reply else none
  | .error _ => none

end Entry

/-- A near miss before which no other rule of the scope missed by little. -/
structure Registry.FirstMiss (registry : Registry) (tags : List String)
    (words : List Word) (context : Context) (entry : Entry) (reply : Match) : Prop where
  shared : entry ∈ registry.sharing tags
  missed : entry.nearMiss? words context = some reply
  first : ∀ other ∈ registry.sharing tags, other.Before entry →
    other.nearMiss? words context = none

theorem Registry.firstMiss_freeze {registry : Registry} {tags : List String}
    {words : List Word} {context : Context} {entry : Entry} {reply : Match} :
    registry.freeze.FirstMiss tags words context entry reply ↔
      registry.FirstMiss tags words context entry reply :=
  ⟨fun h => ⟨h.shared, h.missed, h.first⟩, fun h => ⟨h.shared, h.missed, h.first⟩⟩

theorem Evaluation.firstNearMiss?_gathered (words : List Word) (context : Context)
    (entries : List Entry) :
    (gathered words context (entries.map Entry.toRule)).firstNearMiss? =
      entries.findSome? (Entry.nearMiss? words context) := by
  unfold firstNearMiss? gathered
  induction entries with
  | nil => rfl
  | cons entry rest ih =>
      simp only [List.map_cons, List.find?_cons, List.findSome?_cons] at ih ⊢
      unfold Entry.nearMiss? Rule.held at ih ⊢
      cases hverdict : entry.toRule.verdict words context with
      | error line => simpa [Match.failed, Datum.holds] using ih
      | ok reply =>
          cases hmiss : (!reply.matched && reply.nearMiss.holds) with
          | true => simp [hmiss]
          | false => simpa [hmiss] using ih

namespace Registry

variable {registry : Registry} {tags : List String} {words : List Word}
  {context : Context} {entry : Entry} {reply : Match}

/-- The candidates are asked in such an order that the first near miss among them is
the first one of all. -/
theorem Sound.findSome?_nearMiss (hsound : registry.Sound) :
    (registry.candidates tags).findSome? (Entry.nearMiss? words context) = some reply ↔
      ∃ entry, registry.FirstMiss tags words context entry reply := by
  rw [List.findSome?_eq_some_iff]
  constructor
  · rintro ⟨earlier, entry, later, hcandidates, hmissed, hearlier⟩
    have hbefore := hcandidates ▸ hsound.candidates_before tags
    have hlater := (List.pairwise_append.mp hbefore).2.1
    have hmem : ∀ other, other ∈ registry.sharing tags ↔
        other ∈ earlier ++ entry :: later :=
      fun other => by rw [← hsound.mem_candidates, hcandidates]
    refine ⟨entry, (hmem entry).mpr (by simp), hmissed, fun other hother hprior => ?_⟩
    rcases List.mem_append.mp ((hmem other).mp hother) with hother | hother
    · exact hearlier other hother
    · rcases List.mem_cons.mp hother with rfl | hother
      · exact absurd hprior hprior.asymm
      · exact absurd hprior (List.rel_of_pairwise_cons hlater hother).asymm
  · rintro ⟨entry, hshared, hmissed, hfirst⟩
    obtain ⟨earlier, later, hcandidates⟩ :=
      List.append_of_mem (hsound.mem_candidates.mpr hshared)
    refine ⟨earlier, entry, later, hcandidates, hmissed, fun other hother => ?_⟩
    have hbefore := hcandidates ▸ hsound.candidates_before tags
    have hmem : other ∈ registry.candidates tags := by
      rw [hcandidates]
      exact List.mem_append_left _ hother
    exact hfirst other (hsound.mem_candidates.mp hmem)
      ((List.pairwise_append.mp hbefore).2.2 other hother entry List.mem_cons_self)

end Registry

end SutraArbiter
