import SutraArbiter.Proofs.Answer
import SutraArbiter.Proofs.Pack.Answer

namespace SutraArbiter

/-- The payload that tells a selection of the words. -/
structure Payload.Tells (payload : Entries) (words : List Word) (selection : Selection) :
    Prop where
  retained_indices : payload.get? "retained_indices" =
    some (.list (selection.retain.map .int))
  retained_index : ∃ last, payload.get? "retained_index" = some (.int last)
    ∧ selection.retain.getLast? = some last ∧ ∀ i ∈ selection.retain, i ≤ last
  dropped_indices : payload.get? "dropped_indices" = some (.list (selection.drop.map .int))
  retained_forms : payload.get? "retained_forms" =
    some (.list (selection.retain.map (spellingOf words)))
  dropped_forms : payload.get? "dropped_forms" =
    some (.list (selection.drop.map (spellingOf words)))

theorem Payload.tells_ofWords {words : List Word} {selection : Selection}
    (h : selection.Divides words.length) (settings : Entries) :
    Payload.Tells (ofWords words selection settings) words selection where
  retained_indices := rfl
  retained_index := by
    obtain ⟨last, hlast, hle⟩ := h.exists_last
    refine ⟨last, ?_, hlast, hle⟩
    have hmapped : (selection.retain.map Datum.int).getLast? = some (.int last) := by
      rw [List.getLast?_map, hlast]
      rfl
    have htold : (ofWords words selection settings).get? "retained_index" =
        some ((selection.retain.map Datum.int).getLast?.getD .null) := rfl
    rw [htold, hmapped]
    rfl
  dropped_indices := rfl
  retained_forms := rfl
  dropped_forms := rfl

namespace Engine

/-- An answer that applies a rule of a loaded pack divides the words that were read:
positions are kept and dropped in order, none twice, and the payload spells out the
words at them.  Unless the strategy of the rule leaves words out, none is. -/
theorem resolve_divides {files : Files} {source : Source} {choice : Choice}
    {registry : Registry} {limit tieBreak words flags scope : Datum}
    {defaultScope : List String} {engine : Engine} {envelope : Envelope}
    (hload : (Pack.load files source choice).result = .ok registry)
    (hengine : ofSettings registry limit tieBreak defaultScope = .ok engine)
    (hresult : (engine.resolve words flags scope).result = .ok envelope)
    (happlied : envelope.applied = true) :
    ∃ group entry plan selection,
      WordGroup.read words = .ok group
        ∧ entry ∈ registry.entries ∧ envelope.sutra = some entry.id
        ∧ entry.predicate = .plan plan
        ∧ selection.Divides group.words.length
        ∧ (plan.strategy.LeavesNone group.words (.map plan.params) →
          selection.Covers group.words.length)
        ∧ Payload.Tells envelope.payload group.words selection := by
  have hregistry := registry_of_settings hengine
  have hsound : engine.registry.Sound := by
    rw [hregistry]
    exact (Pack.sound_of_load hload).freeze
  obtain ⟨group, context, tags, hcall⟩ := hears_of_applied hresult happlied
  rw [hcall.resolve_result] at hresult
  obtain ⟨evaluation, governing, others, payload, reason, -, -, hranked, houtcome, -, rfl⟩ :=
    arbitrate_applied hsound hresult happlied
  obtain ⟨hentry, hverdict, hmatched⟩ := Registry.exists_of_ranked hranked
  rw [hregistry] at hentry
  obtain ⟨plan, settings, hplan, haction⟩ :=
    (Pack.isCompiled_of_load hload _ hentry).exists_settings
  have hplaced := WordGroup.placed_of_read hcall.words
  obtain ⟨selection, hjudged, hdone⟩ :=
    Execution.outcome_of_verdict hplan haction hplaced hverdict hmatched
  obtain ⟨hdivides, hcovers⟩ := Plan.divides_of_judge hplaced hjudged
  obtain rfl : payload = Payload.ofWords group.words selection settings := by
    rw [houtcome] at hdone
    exact Execution.done.inj (Except.ok.inj hdone)
  exact ⟨group, governing.entry, plan, selection, hcall.words, hentry, rfl, hplan, hdivides,
    hcovers, Payload.tells_ofWords hdivides settings⟩

/-- A pronoun and a noun are divided by the bundled pack, and no word is left out. -/
theorem resolve_divides_pronoun : ∃ registry envelope selection,
    (Pack.load ⟨"", []⟩ .bundled .everything).result = .ok registry
      ∧ ofSettings registry (.int 64) (.text "confidence-first") [Tags.family] =
        .ok (Pack.usualEngine registry.freeze)
      ∧ ((Pack.usualEngine registry.freeze).resolve (Datum.ofStrings ["tat", "rama"])
          (.map []) .null).result = .ok envelope
      ∧ envelope.applied = true
      ∧ selection.Divides 2 ∧ selection.Covers 2
      ∧ Payload.Tells envelope.payload Pack.pronounAndNoun.words selection := by
  obtain ⟨registry, envelope, hload, hbundled, hengine, hresult, happlied, hsutra⟩ :=
    Pack.exists_pronounAndNoun
  obtain ⟨group, entry, plan, selection, hgroup, hentry, hid, hplan, hdivides, hcovers, htells⟩ :=
    resolve_divides hload hengine hresult happlied
  obtain rfl := Except.ok.inj (Pack.read_pronounAndNoun.symm.trans hgroup)
  have hseries : plan = Profile.pronouns.plan := by
    obtain ⟨place, hplace, htakes⟩ := hbundled.placed entry hentry
    have hplace := Pack.eq_pronouns hplace
      (htakes.1.id.symm.trans (Option.some.inj (hid.symm.trans hsutra)))
    rw [hplace] at htakes
    exact Predicate.plan.inj (hplan.symm.trans htakes.1.predicate)
  exact ⟨registry, envelope, selection, hload, hengine, hresult, happlied, hdivides,
    hcovers (hseries ▸ trivial), htells⟩

end Engine

end SutraArbiter
