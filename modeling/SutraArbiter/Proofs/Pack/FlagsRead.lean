import SutraArbiter.Proofs.FlagsRead
import SutraArbiter.Proofs.Pack.Answer

namespace SutraArbiter

theorem Context.Agree.read {names : List String} {flags others read reread : Flags}
    {entries : Entries} (h : Context.Agree names ⟨flags⟩ ⟨others⟩)
    (hread : Flags.read flags entries = .ok read)
    (hreread : Flags.read others entries = .ok reread) :
    Context.Agree names ⟨read⟩ ⟨reread⟩ := by
  induction entries generalizing flags others with
  | nil =>
      cases hread
      cases hreread
      exact h
  | cons entry rest ih =>
      obtain ⟨key, datum⟩ := entry
      obtain ⟨name, hname, hread⟩ := bind_eq_ok.mp hread
      obtain ⟨rename, hrename, hreread⟩ := bind_eq_ok.mp hreread
      obtain rfl := Except.ok.inj (hname.symm.trans hrename)
      refine ih (fun other hother => ?_) hread hreread
      have hvalue : flags.value other = others.value other := h other hother
      simp only [Context.value, Flags.value_put, hvalue]

/-- One more entry, under a name that is not asked for, changes neither whether the
flags are read nor what is read. -/
theorem Context.read_insert {names : List String} {name : String} {key value : Datum}
    (hkey : key.plain? = .ok name) (hforeign : Text.snakeCase name ∉ names)
    (before after : Entries) :
    (∃ fault, Context.read (.map (before ++ (key, value) :: after)) = .error fault
        ∧ Context.read (.map (before ++ after)) = .error fault)
      ∨ ∃ context other, Context.read (.map (before ++ (key, value) :: after)) = .ok context
        ∧ Context.read (.map (before ++ after)) = .ok other
        ∧ Context.Agree names context other := by
  have hinserted : ∀ flags : Flags, Flags.read flags ((key, value) :: after) =
      Flags.read (flags.put (Text.snakeCase name) value) after := by
    intro flags
    rw [Flags.read, hkey]
    rfl
  simp only [Context.read_map, Flags.read_append]
  cases Flags.read [] before with
  | error fault => exact .inl ⟨fault, rfl, rfl⟩
  | ok flags =>
      simp only [ok_bind, hinserted]
      -- a later key without a text ends both readings, whatever was read before it
      by_cases hoverlong : ∃ entry ∈ after, entry.1.isOverlong = true
      · have hrefused : ∀ given, Flags.read given after = .error .overlongInteger :=
          fun given => Flags.read_eq_error.mpr ⟨rfl, hoverlong⟩
        rw [hrefused, hrefused]
        exact .inl ⟨_, rfl, rfl⟩
      · have hkeys : ∀ entry ∈ after, entry.1.isOverlong = false := by
          simpa using hoverlong
        obtain ⟨read, hread⟩ := Flags.exists_read hkeys (flags.put (Text.snakeCase name) value)
        obtain ⟨reread, hreread⟩ := Flags.exists_read hkeys flags
        have hput : Context.Agree names ⟨flags.put (Text.snakeCase name) value⟩ ⟨flags⟩ := by
          intro other hother
          have hne : other ≠ Text.snakeCase name := fun h => hforeign (h ▸ hother)
          simp only [Context.value, Flags.value_put, if_neg hne]
        refine .inr ⟨⟨read⟩, ⟨reread⟩, ?_, ?_, hput.read hread hreread⟩
        · rw [hread]
          rfl
        · rw [hreread]
          rfl

namespace Engine

variable {engine : Engine} {flags others : Entries} {context other : Context}

theorem resolve_of_agree (hsound : engine.registry.Sound)
    (hcompiled : ∀ entry ∈ engine.registry.entries, entry.toRule.IsCompiled)
    (hflags : Context.read (.map flags) = .ok context)
    (hothers : Context.read (.map others) = .ok other)
    (h : Context.Agree engine.registry.flagsRead context other) (words scope : Datum) :
    (engine.resolve words (.map flags) scope).result =
      (engine.resolve words (.map others) scope).result := by
  cases hwords : WordGroup.read words with
  | error unusable =>
      rw [resolve_result_of_unreadable hwords, resolve_result_of_unreadable hwords]
  | ok group =>
      rw [resolve_result_of_read hwords (readContext_map hflags),
        resolve_result_of_read hwords (readContext_map hothers)]
      apply bind_congr_of_ok
      intro tags _
      refine arbitrate_of_overlooks hsound fun entry hentry => ?_
      have hmem := (Registry.mem_sharing.mp (hsound.mem_candidates.mp hentry)).1
      refine ⟨(hcompiled entry hmem).exists_settings, h.mono fun name hname => ?_⟩
      exact List.mem_flatMap.mpr ⟨entry, hmem, hname⟩

theorem resolve_of_refused {fault : Fault} (hflags : Context.read (.map flags) = .error fault)
    (hothers : Context.read (.map others) = .error fault) (words scope : Datum) :
    (engine.resolve words (.map flags) scope).result =
      (engine.resolve words (.map others) scope).result := by
  cases hwords : WordGroup.read words with
  | error unusable =>
      rw [resolve_result_of_unreadable hwords, resolve_result_of_unreadable hwords]
  | ok group =>
      have hrefused : ∀ entries, Context.read (.map entries) = .error fault →
          readContext group.script (.map entries) = .error (.fault fault) := by
        intro entries hentries
        simp [readContext, hentries]
      rw [resolve_result_of_unusable hwords (hrefused _ hflags),
        resolve_result_of_unusable hwords (hrefused _ hothers)]

end Engine

def Profile.flagsRead (profile : Profile) : List String :=
  profile.plan.flagsRead ++ Tags.flagsRead profile.tags

theorem Profile.known_of_bundled : ∀ profile ∈ Profile.bundled, ∀ name ∈ profile.flagsRead,
    name ∈ Context.knownFlags := by
  decide

theorem Rule.Fits.flagsRead {rule : Rule} {profile : Profile} (h : rule.Fits profile) :
    rule.flagsRead = profile.flagsRead := by
  unfold Rule.flagsRead Profile.flagsRead
  rw [h.predicate, h.tags]
  rfl

namespace Pack

variable {files : Files} {choice : Choice} {registry : Registry}

/-- Whatever is chosen of the bundled pack, each rule is one of the bundled ones. -/
theorem fits_of_load_bundled (h : (load files .bundled choice).result = .ok registry) :
    ∀ entry ∈ registry.entries, ∃ profile ∈ Profile.bundled, entry.toRule.Fits profile := by
  obtain ⟨given, hgiven, hborne⟩ := bears_of_load h
  obtain rfl : Source.bundledFiles = given := Except.ok.inj hgiven
  intro entry hentry
  obtain ⟨file, hfile, entries, hdocument, hread⟩ := hborne entry hentry
  obtain ⟨named, hnamed, rfl⟩ := List.mem_map.mp hfile
  obtain ⟨profile, hprofile, rule, hrule, hfits⟩ :=
    exists_of_forall₂ reads_bundled named hnamed
  obtain rfl : rule = entry.toRule := by
    rw [Document.data.inj hdocument] at hrule
    exact Except.ok.inj (hrule.symm.trans hread)
  exact ⟨profile, hprofile, hfits⟩

theorem known_of_load_bundled (h : (load files .bundled choice).result = .ok registry) :
    ∀ name ∈ registry.flagsRead, name ∈ Context.knownFlags := by
  intro name hname
  obtain ⟨entry, hentry, hname⟩ := List.mem_flatMap.mp hname
  obtain ⟨profile, hprofile, hfits⟩ := fits_of_load_bundled h entry hentry
  rw [hfits.flagsRead] at hname
  exact Profile.known_of_bundled profile hprofile name hname

end Pack

namespace Engine

/-- Contexts that agree on the flags read by the rules of a pack get the same answer.
The bundled rules read known flags only, so that an entry under any other name has no
part in the answer. -/
theorem resolve_overlooks {files : Files} {source : Source} {choice : Choice}
    {registry : Registry} {limit tieBreak : Datum} {defaultScope : List String}
    {engine : Engine} (hload : (Pack.load files source choice).result = .ok registry)
    (hengine : ofSettings registry limit tieBreak defaultScope = .ok engine) :
    (∀ (words scope : Datum) (flags others : Entries) (context other : Context),
        Context.read (.map flags) = .ok context → Context.read (.map others) = .ok other →
        Context.Agree registry.flagsRead context other →
        (engine.resolve words (.map flags) scope).result =
          (engine.resolve words (.map others) scope).result)
      ∧ (source = .bundled →
        (∀ name ∈ registry.flagsRead, name ∈ Context.knownFlags)
          ∧ ∀ (words scope key value : Datum) (before after : Entries) (name : String),
            key.plain? = .ok name → Text.snakeCase name ∉ Context.knownFlags →
            (engine.resolve words (.map (before ++ (key, value) :: after)) scope).result =
              (engine.resolve words (.map (before ++ after)) scope).result) := by
  have hregistry := registry_of_settings hengine
  have hsound : engine.registry.Sound := by
    rw [hregistry]
    exact (Pack.sound_of_load hload).freeze
  have hcompiled : ∀ entry ∈ engine.registry.entries, entry.toRule.IsCompiled := by
    rw [hregistry]
    exact fun entry hentry => Pack.isCompiled_of_load hload entry hentry
  have hflagsRead : engine.registry.flagsRead = registry.flagsRead := by
    rw [hregistry]
    rfl
  have halike : ∀ (words scope : Datum) (flags others : Entries) (context other : Context),
      Context.read (.map flags) = .ok context → Context.read (.map others) = .ok other →
      Context.Agree registry.flagsRead context other →
      (engine.resolve words (.map flags) scope).result =
        (engine.resolve words (.map others) scope).result := by
    intro words scope flags others context other hflags hothers hagree
    rw [← hflagsRead] at hagree
    exact resolve_of_agree hsound hcompiled hflags hothers hagree words scope
  refine ⟨halike, ?_⟩
  rintro rfl
  have hknown := Pack.known_of_load_bundled hload
  refine ⟨hknown, ?_⟩
  intro words scope key value before after name hkey hforeign
  rcases Context.read_insert hkey hforeign before after with
    ⟨fault, hflags, hothers⟩ | ⟨context, other, hflags, hothers, hagree⟩
  · exact resolve_of_refused hflags hothers words scope
  · exact halike words scope _ _ context other hflags hothers (hagree.mono hknown)

/-- A pronoun and a noun are answered alike under two flags that no bundled rule
reads. -/
theorem resolve_overlooks_remarks : ∃ registry envelope,
    (Pack.load ⟨"", []⟩ .bundled .everything).result = .ok registry
      ∧ ofSettings registry (.int 64) (.text "confidence-first") [Tags.family] =
        .ok (Pack.usualEngine registry.freeze)
      ∧ ((Pack.usualEngine registry.freeze).resolve (Datum.ofStrings ["tat", "rama"])
          (.map [(.text "note", .int 1)]) .null).result = .ok envelope
      ∧ ((Pack.usualEngine registry.freeze).resolve (Datum.ofStrings ["tat", "rama"])
          (.map [(.text "remark", .bool true)]) .null).result = .ok envelope
      ∧ envelope.applied = true := by
  obtain ⟨registry, envelope, hload, -, hengine, hresult, happlied, -⟩ :=
    Pack.exists_pronounAndNoun
  obtain ⟨halike, hbundled⟩ := resolve_overlooks hload hengine
  obtain ⟨hknown, hinserted⟩ := hbundled rfl
  have hnote : ((Pack.usualEngine registry.freeze).resolve (Datum.ofStrings ["tat", "rama"])
      (.map [(.text "note", .int 1)]) .null).result = .ok envelope :=
    (hinserted _ .null (.text "note") (.int 1) [] [] "note" rfl (by decide)).trans hresult
  have hunasked : ∀ name ∈ Context.knownFlags,
      Context.value ⟨[("note", .int 1)]⟩ name = Context.value ⟨[("remark", .bool true)]⟩ name := by
    have hnull : ∀ name ∈ Context.knownFlags, name ≠ "note" ∧ name ≠ "remark" := by decide
    intro name hname
    simp [Context.value, Flags.value, Flags.get?_cons, hnull name hname]
  have hremark := halike (Datum.ofStrings ["tat", "rama"]) .null [(.text "note", .int 1)]
    [(.text "remark", .bool true)] _ _ rfl rfl fun name hname => hunasked name (hknown name hname)
  exact ⟨registry, envelope, hload, hengine, hnote, hremark ▸ hnote, happlied⟩

end Engine

end SutraArbiter
