import SutraArbiter.Engine
import SutraArbiter.Proofs.Evaluation
import SutraArbiter.Proofs.Ranking
import SutraArbiter.Proofs.Registry.Candidates

namespace SutraArbiter

namespace Entry

variable {words : List Word} {context : Context} {entry : Entry} {standing : Standing}

def satisfied (words : List Word) (context : Context) (entry : Entry) : Nat :=
  (entry.tags.filter (Tags.isActive words context)).length

def standing? (words : List Word) (context : Context) (entry : Entry) : Option Standing :=
  match entry.toRule.verdict words context with
  | .ok reply =>
      if reply.matched then some ⟨entry, reply, entry.satisfied words context⟩ else none
  | .error _ => none

theorem standing?_eq_some :
    entry.standing? words context = some standing ↔
      entry.toRule.verdict words context = .ok standing.reply
        ∧ standing.reply.matched = true
        ∧ standing = ⟨entry, standing.reply, entry.satisfied words context⟩ := by
  unfold standing?
  cases hverdict : entry.toRule.verdict words context with
  | error line => simp
  | ok reply =>
      cases hmatched : reply.matched with
      | false =>
          simp only [hmatched, Bool.false_eq_true, if_false, reduceCtorEq, false_iff]
          rintro ⟨hreply, hmatched', -⟩
          rw [Except.ok.inj hreply, hmatched'] at hmatched
          exact absurd hmatched (by decide)
      | true =>
          simp only [hmatched, if_true, Option.some.injEq]
          constructor
          · rintro rfl
            exact ⟨rfl, hmatched, rfl⟩
          · rintro ⟨hreply, -, hstanding⟩
            rw [hstanding, Except.ok.inj hreply]

theorem entry_of_standing? (h : entry.standing? words context = some standing) :
    standing.entry = entry := by
  obtain ⟨-, -, hstanding⟩ := standing?_eq_some.mp h
  rw [hstanding]

end Entry

namespace Registry

variable {registry : Registry}

/-- The standings of the rules that share a tag with the scope and match. -/
def matching (registry : Registry) (tags : List String) (words : List Word)
    (context : Context) : List Standing :=
  (registry.sharing tags).filterMap (Entry.standing? words context)

theorem Sound.distinct_matching (hsound : registry.Sound) (tags : List String)
    (words : List Word) (context : Context) :
    Ruling.Distinct (registry.matching tags words context) where
  numbered := by
    intro standing hstanding
    obtain ⟨entry, -, hentry⟩ := List.mem_filterMap.mp hstanding
    obtain ⟨hverdict, -, -⟩ := Entry.standing?_eq_some.mp hentry
    exact (Rule.verdict_eq_ok hverdict).2
  places := by
    refine List.pairwise_filterMap.mpr ((hsound.pairwise_index.filter _).imp ?_)
    intro x y hplace s hs t ht
    rw [Entry.entry_of_standing? hs, Entry.entry_of_standing? ht]
    exact Nat.ne_of_lt hplace

theorem Sound.standings_perm (hsound : registry.Sound) (tags : List String)
    (words : List Word) (context : Context) :
    ((registry.candidates tags).filterMap (Entry.standing? words context)).Perm
      (registry.matching tags words context) :=
  (hsound.candidates_perm tags).filterMap _

end Registry

namespace Ruling

variable {words : List Word} {context : Context} {candidates : List Entry}

/-- Only the tags of a rule itself decide how many of them are active. -/
theorem specificity_active {entry : Entry} (hentry : entry ∈ candidates) :
    Tags.specificity entry.tags
        (Tags.active words context (Engine.candidateTags candidates)) =
      entry.satisfied words context := by
  unfold Tags.specificity Entry.satisfied
  congr 1
  apply List.filter_congr
  intro tag htag
  have hcandidate : tag ∈ Engine.candidateTags candidates := by
    unfold Engine.candidateTags
    rw [List.mem_eraseDups, List.mem_flatMap]
    exact ⟨entry, hentry, htag⟩
  rw [Bool.eq_iff_iff, List.contains_iff_mem, Tags.active, List.mem_filter]
  exact and_iff_right hcandidate

theorem standings?_held (words : List Word) (context : Context) (candidates : List Entry)
    {active : List String}
    (hfind : ∀ entry ∈ candidates,
      (candidates.find? fun other => other.id = entry.id) = some entry)
    (hactive : ∀ entry ∈ candidates,
      Tags.specificity entry.tags active = entry.satisfied words context)
    {entries : List Entry} (hentries : ∀ entry ∈ entries, entry ∈ candidates) :
    standings? candidates active
        (entries.map fun entry => entry.toRule.held words context) =
      .ok (entries.filterMap (Entry.standing? words context)) := by
  unfold standings?
  induction entries with
  | nil => rfl
  | cons entry rest ih =>
      have hentry := hentries entry List.mem_cons_self
      have hrest := ih fun other hother => hentries other (List.mem_cons_of_mem _ hother)
      rw [List.map_cons, List.filter_cons, List.filterMap_cons]
      cases hverdict : entry.toRule.verdict words context with
      | error line =>
          have hheld : entry.toRule.held words context = .failed entry.id := by
            simp [Rule.held, hverdict]
          have hnone : entry.standing? words context = none := by
            simp [Entry.standing?, hverdict]
          rw [hheld, hnone]
          exact hrest
      | ok reply =>
          have hheld : entry.toRule.held words context = reply := by
            simp [Rule.held, hverdict]
          rw [hheld]
          cases hmatched : reply.matched with
          | false =>
              have hnone : entry.standing? words context = none := by
                simp [Entry.standing?, hverdict, hmatched]
              rw [hnone]
              exact hrest
          | true =>
              have hsome : entry.standing? words context =
                  some ⟨entry, reply, entry.satisfied words context⟩ := by
                simp [Entry.standing?, hverdict, hmatched]
              have hstanding : standing? candidates active reply =
                  .ok ⟨entry, reply, entry.satisfied words context⟩ := by
                unfold standing?
                rw [(Rule.verdict_eq_ok hverdict).1, hfind entry hentry]
                simp only [hactive entry hentry]
              rw [hsome, if_pos rfl, List.mapM_cons, hstanding, hrest]
              rfl

end Ruling

end SutraArbiter
