import SutraArbiter.Proofs.Pack.Reordering

namespace SutraArbiter

namespace Registry

variable {P : Double → Prop} {registry other : Registry}

/-- The canonical text is there unless there are too many rules, it tells the rules one by one,
and the order of members in their definitions is all that it does not tell.  Where the rules were
loaded from files, members that change places in these leave text and fingerprint as they are. -/
theorem canonicalText?_tells (hfloats : Double.AreToldApart P) (h : registry.IsCompiled P)
    (hother : other.IsCompiled P) :
    ((∃ text, registry.canonicalText? = .ok text) ↔
        registry.entries.length ≤ Nat.pow 10 Number.digitLimit)
      ∧ (∀ text otherText, registry.canonicalText? = .ok text →
          other.canonicalText? = .ok otherText →
          (text = otherText ↔ List.Forall₂ Entry.Agrees registry.entries other.entries))
      ∧ (∀ digest, registry.fingerprint? = .ok digest →
          List.Forall₂ (fun x y => Datum.Reorders (.map x.definition) (.map y.definition))
            registry.entries other.entries →
          other.canonicalText? = registry.canonicalText? ∧ other.fingerprint? = .ok digest)
      ∧ ∀ files source choice given digest,
          (Pack.load files source choice).result = .ok registry →
          source.collect files = .ok given → registry.fingerprint? = .ok digest →
          ∀ otherFiles otherSource others, otherSource.collect otherFiles = .ok others →
            List.Forall₂ (RuleFile.Reorders P) given others →
            ∃ reordered, (Pack.load otherFiles otherSource choice).result = .ok reordered
              ∧ reordered.canonicalText? = registry.canonicalText?
              ∧ reordered.fingerprint? = .ok digest := by
  refine ⟨exists_canonicalText?_iff h, fun text otherText => text_eq_iff_agrees hfloats h hother,
    fun digest hdigest hreorders => ?_, ?_⟩
  · exact fingerprint?_of_agrees h hother
      (forall₂_agrees_of_reorders h.entries hother.entries hreorders) hdigest
  · intro files source choice given digest hload hgiven hdigest otherFiles otherSource others
      hothers hfiles
    exact Pack.fingerprint?_of_reorders hload hgiven hothers hfiles hdigest

end Registry

namespace Pack

variable {P : Double → Prop}

theorem isValue_named {entries : List (String × Datum)}
    (hdistinct : (entries.map Prod.fst).Nodup)
    (hvalues : ∀ entry ∈ entries, Json.IsValue P entry.2) : Json.IsValue P (named entries) := by
  refine .map ?_ (List.forall_mem_map.mpr fun _ _ => rfl) (List.forall_mem_map.mpr hvalues)
  have hkeys : Entries.keys (entries.map fun entry => (.text entry.1, entry.2)) =
      (entries.map Prod.fst).map .text := by
    rw [Entries.keys, List.map_map, List.map_map]
    rfl
  rw [hkeys]
  exact hdistinct.map fun _ _ => Datum.text.inj

theorem isValue_gated {gate : Entries} (hgate : Json.IsValue P (.map gate)) :
    Json.IsValue P (.map (gatedParts gate)) := by
  have hone : Json.IsValue P (.int 1) := .scalar hasOverlongText_one
  have hmetadata : Json.IsValue P (metadata "one form" "one form"
      "The last of identical forms remains" "identical-forms" (.int 1)) := by
    refine isValue_named (by decide) ?_
    simp only [List.forall_mem_cons]
    exact ⟨.text _, .text _, .text _, hone, .text _, List.forall_mem_nil _⟩
  have hsingle : ∀ {name : String} {value : Datum}, Json.IsValue P value →
      Json.IsValue P (named [(name, value)]) := fun hvalue =>
    isValue_named (List.nodup_singleton _) (List.forall_mem_singleton.mpr hvalue)
  refine .map (by simp [gatedParts, solitaryParts, Entries.keys]) ?_ ?_
  · simp only [gatedParts, solitaryParts, List.cons_append, List.nil_append, List.forall_mem_cons]
    decide
  · simp only [gatedParts, solitaryParts, List.cons_append, List.nil_append, List.forall_mem_cons]
    exact ⟨.text _, hone, .text _, .list (List.forall_mem_singleton.mpr (.text _)), hmetadata,
      hsingle (.text _), hsingle (.text _), hsingle hgate, List.forall_mem_nil _⟩

theorem exists_compiled_gated {gate : Entries} (hgate : Json.IsValue P (.map gate)) :
    ∃ registry, (load (gatedFiles gate) solitarySource .everything).result = .ok registry
      ∧ registry.IsCompiled P ∧ ∃ entry, registry.entries = [entry]
        ∧ entry.definition = gatedParts gate := by
  obtain ⟨registry, hload, rule, hentries, hrule⟩ := load_gated gate
  refine ⟨registry, hload, Registry.isCompiled_of_load hload ?_, ⟨rule, 0⟩, hentries, hrule⟩
  rw [hentries, List.forall_mem_singleton, hrule]
  exact isValue_gated hgate

/-- What one rule asks of the flags, in one order or the other. -/
theorem reorders_gated_iff {gate other : Entries} :
    Datum.Reorders (.map (gatedParts gate)) (.map (gatedParts other)) ↔
      Datum.Reorders (.map gate) (.map other) := by
  constructor
  · intro h
    have hcontext : Datum.Reorders (.map [(.text "require", .map gate)])
        (.map [(.text "require", .map other)]) :=
      h.getD (by simp [gatedParts, solitaryParts, Entries.keys]) "context" .null
    exact hcontext.getD (List.nodup_singleton _) "require" .null
  · intro h
    have hcontext : Datum.Reorders (.map [(.text "require", .map gate)])
        (.map [(.text "require", .map other)]) := .of_members (.cons ⟨rfl, h⟩ .nil)
    refine .of_members (List.rel_append ?_ (.cons ⟨rfl, hcontext⟩ .nil))
    exact List.forall₂_same.mpr fun member _ => .refl member

def gatedFile (gate : Entries) : RuleFile :=
  ⟨"/solitary.yaml", "solitary.yaml", .data (.map (gatedParts gate))⟩

theorem collect_gatedFiles (gate : Entries) :
    solitarySource.collect (gatedFiles gate) = .ok [gatedFile gate] := rfl

theorem gatedFile_reorders {gate other : Entries} (hgate : Json.IsValue P (.map gate))
    (h : Datum.Reorders (.map gate) (.map other)) :
    (gatedFile gate).Reorders P (gatedFile other) := by
  rintro _ ⟨⟩
  exact ⟨isValue_gated hgate, _, rfl, reorders_gated_iff.mpr h⟩

def half : Double := .finite false (Nat.pow 2 1073)

theorem areToldApart_half_one : Double.AreToldApart fun x => x = half ∨ x = .one := by
  have hother : half.written ≠ Double.one.written := by decide +kernel
  rintro m n u v (hx | hx) (hy | hy) hwritten
  · rw [hx, hy]
  · rw [hx, hy] at hwritten
    exact absurd hwritten hother
  · rw [hx, hy] at hwritten
    exact absurd hwritten.symm hother
  · rw [hx, hy]

def shareGate (share : Double) : Entries :=
  [(.text "domain", .text "veda"), (.text "share", .float share)]

theorem isValue_shareGate {share : Double} (hshare : P share) :
    Json.IsValue P (.map (shareGate share)) := by
  refine .map (by simp [shareGate, Entries.keys]) ?_ ?_
  · simp only [shareGate, List.forall_mem_cons]
    decide
  · simp only [shareGate, List.forall_mem_cons]
    exact ⟨.text _, .scalar hshare, List.forall_mem_nil _⟩

/-- A gate given in the other order keeps the text and the fingerprint; another number in it
changes the text. -/
theorem canonicalText?_tells_gates : ∃ registry reordered edited : Registry,
    (load (gatedFiles (shareGate half)) solitarySource .everything).result = .ok registry
      ∧ (load (gatedFiles (shareGate half).reverse) solitarySource .everything).result =
          .ok reordered
      ∧ (load (gatedFiles (shareGate .one)) solitarySource .everything).result = .ok edited
      ∧ (∃ digest, registry.fingerprint? = .ok digest ∧ reordered.fingerprint? = .ok digest)
      ∧ ∃ text otherText, registry.canonicalText? = .ok text
        ∧ reordered.canonicalText? = .ok text ∧ edited.canonicalText? = .ok otherText
        ∧ text ≠ otherText := by
  have hhalf : Json.IsValue (fun x => x = half ∨ x = .one) (.map (shareGate half)) :=
    isValue_shareGate (.inl rfl)
  have hone : Json.IsValue (fun x => x = half ∨ x = .one) (.map (shareGate .one)) :=
    isValue_shareGate (.inr rfl)
  obtain ⟨registry, hload, h, first, hfirst, hfirstGate⟩ := exists_compiled_gated hhalf
  obtain ⟨edited, heditedLoad, hedited, second, hsecond, hsecondGate⟩ :=
    exists_compiled_gated hone
  have hplaces : ∀ {length : Nat}, length = 1 → length ≤ Nat.pow 10 Number.digitLimit := by
    rintro _ rfl
    generalize Number.digitLimit = limit
    exact Nat.pow_pos (by decide)
  obtain ⟨hwritten, htells, -, hfiles⟩ :=
    Registry.canonicalText?_tells areToldApart_half_one h hedited
  obtain ⟨text, htext⟩ := hwritten.mpr (hplaces (by rw [hfirst]; rfl))
  obtain ⟨otherText, hotherText⟩ :=
    (Registry.exists_canonicalText?_iff hedited).mpr (hplaces (by rw [hsecond]; rfl))
  obtain ⟨digest, hdigest⟩ : ∃ digest, registry.fingerprint? = .ok digest :=
    exists_bind_pure_iff.mpr ⟨text, htext⟩
  obtain ⟨reordered, hreordered, hsame, hkept⟩ :=
    hfiles _ _ _ _ digest hload (collect_gatedFiles _) hdigest _ _ _ (collect_gatedFiles _)
      (.cons (gatedFile_reorders hhalf (.of_perm (List.reverse_perm _).symm)) .nil)
  refine ⟨registry, reordered, edited, hload, hreordered, heditedLoad,
    ⟨digest, hdigest, hkept⟩, text, otherText, htext, hsame.trans htext, hotherText, ?_⟩
  intro htexts
  have hagrees := (htells text otherText htext hotherText).mp htexts
  rw [hfirst, hsecond, List.forall₂_cons] at hagrees
  have hgates := hagrees.1.definition
  rw [hfirstGate, hsecondGate, reorders_gated_iff] at hgates
  have hshare : Datum.Reorders (.float half) (.float .one) :=
    hgates.getD (by simp [shareGate, Entries.keys]) "share" .null
  have hdiffer : half ≠ Double.one := by decide +kernel
  exact hdiffer (Datum.float.inj hshare.eq_of_float).symm

end Pack

end SutraArbiter
