import SutraArbiter.Proofs.Registry.Invariant

namespace SutraArbiter

/-! Rules that match whatever is asked, each with a confidence of its own, and rules that
answer as they are told to. -/

namespace Rule

def steady (id : String) (confidence : Double) : Rule where
  id
  tier := .general
  tags := [Tags.family]
  title := ""
  description := ""
  reason := usualReason
  source := ""
  definition := []
  predicate := .custom "steady" fun _ _ =>
    .ok (.report ⟨.datum (.bool true), .datum (.float confidence), .map [], .datum .null,
      .datum (.bool false)⟩)
  action := .custom fun _ _ _ => .ok (.datum (.map []))

theorem toRule_steady (id : String) (hid : Numeral.isDotted id.toList = true)
    (confidence : Double) :
    (steady id confidence).draft.toRule = .ok (steady id confidence) := by
  refine Draft.toRule_draft hid (List.cons_ne_nil _ _) ?_ ?_
  · intro tag htag
    obtain rfl := List.mem_singleton.mp htag
    exact Draft.tag?_text (by decide) (by decide)
  · simp [steady, Tags.sorted, List.eraseDups_cons]

def answering (id : String) (answer : Except Raised Reply) : Rule :=
  { steady id .one with predicate := .custom "answering" fun _ _ => answer }

theorem toRule_answering (id : String) (hid : Numeral.isDotted id.toList = true)
    (answer : Except Raised Reply) :
    (answering id answer).draft.toRule = .ok (answering id answer) := by
  refine Draft.toRule_draft hid (List.cons_ne_nil _ _) ?_ ?_
  · intro tag htag
    obtain rfl := List.mem_singleton.mp htag
    exact Draft.tag?_text (by decide) (by decide)
  · simp [answering, steady, Tags.sorted, List.eraseDups_cons]

end Rule

namespace Registry

def steady : Registry where
  entries := [⟨.steady "1.1.1" .zero, 0⟩, ⟨.steady "1.1.2" .one, 1⟩]
  shelves := [(Tags.family, [⟨.steady "1.1.1" .zero, 0⟩, ⟨.steady "1.1.2" .one, 1⟩])]
  frozen := false

def steadySubmissions : List Submission :=
  [.draft (Rule.steady "1.1.1" .zero).draft, .draft (Rule.steady "1.1.2" .one).draft]

theorem ofSubmissions_steady : empty.ofSubmissions steadySubmissions = .ok steady := by
  have hzero := Rule.toRule_steady "1.1.1" (by decide) .zero
  have hone := Rule.toRule_steady "1.1.2" (by decide) .one
  have hfirst : empty.register (.draft (Rule.steady "1.1.1" .zero).draft) =
      .ok (empty.enter (.steady "1.1.1" .zero)) :=
    register_eq_ok.mpr ⟨rfl, _, hzero, rfl, rfl⟩
  have hsecond : (empty.enter (.steady "1.1.1" .zero)).1.register
      (.draft (Rule.steady "1.1.2" .one).draft) =
        .ok ((empty.enter (.steady "1.1.1" .zero)).1.enter (.steady "1.1.2" .one)) :=
    register_eq_ok.mpr ⟨rfl, _, hone, rfl, rfl⟩
  rw [steadySubmissions, ofSubmissions_cons, hfirst, ok_bind, ofSubmissions_cons, hsecond]
  rfl

end Registry

end SutraArbiter
