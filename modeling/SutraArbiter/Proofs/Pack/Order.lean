import SutraArbiter.Proofs.Numeral
import SutraArbiter.Proofs.Pack.Solitary

namespace SutraArbiter

/-! The order in which rules are declared: that of the places of their numerals, and
among equal places that of the files. -/

/-- No two of the rules have one place. -/
def Rule.PlacesApart (rules : List Rule) : Prop :=
  rules.Pairwise fun x y => Numeral.place x.id ≠ Numeral.place y.id

def Registry.PlacesApart (registry : Registry) : Prop :=
  registry.entries.Pairwise fun x y => Numeral.place x.id ≠ Numeral.place y.id

theorem Registry.placesApart_iff_ids {registry : Registry} :
    registry.PlacesApart ↔
      registry.ids.Pairwise fun s t => Numeral.place s ≠ Numeral.place t := by
  rw [PlacesApart, ids, List.pairwise_map]

theorem Registry.ids_eq_map (registry : Registry) :
    registry.ids = (registry.entries.map Entry.toRule).map Rule.id := by
  rw [ids, List.map_map]
  rfl

/-- The place of its file is only noted in a rule. -/
theorem Rule.read_of_source {source : String} {d : Datum} {rule : Rule}
    (h : read source d = .ok rule) (other : String) :
    read other d = .ok { rule with source := other } := by
  obtain ⟨entries, parts, rfl, hrule, hparts, rfl⟩ := read_eq_ok.mp h
  exact read_eq_ok.mpr ⟨entries, parts, rfl, hrule, hparts, rfl⟩

namespace Pack

variable {files : Files} {choice : Choice} {given others : List RuleFile}
  {granted : List (Option Rule)} {rules reordered : List Rule} {registry : Registry}

theorem inOrder_perm (rules : List Rule) : (inOrder rules).Perm rules :=
  List.mergeSort_perm _ _

theorem pairwise_inOrder (rules : List Rule) :
    (inOrder rules).Pairwise fun x y => Numeral.place x.id ≤ Numeral.place y.id := by
  have hsorted := @List.pairwise_mergeSort Rule (fun x y => Numeral.le x.id y.id)
    (fun r s t => Numeral.trans_le r.id s.id t.id) (fun s t => Numeral.total_le s.id t.id) rules
  exact hsorted.imp fun h => Numeral.le_iff.mp h

/-- Where no two places agree, the order of the rules does not depend on how they were
given. -/
theorem inOrder_eq_of_perm (hapart : Rule.PlacesApart rules) (hperm : reordered.Perm rules) :
    inOrder reordered = inOrder rules := by
  have hsame : (inOrder reordered).Perm (inOrder rules) :=
    (inOrder_perm reordered).trans (hperm.trans (inOrder_perm rules).symm)
  refine hsame.eq_of_pairwise ?_ (pairwise_inOrder reordered) (pairwise_inOrder rules)
  intro x y hx hy hxy hyx
  have hx : x ∈ rules := hperm.mem_iff.mp ((inOrder_perm reordered).mem_iff.mp hx)
  have hy : y ∈ rules := (inOrder_perm rules).mem_iff.mp hy
  by_contra hne
  have : Std.Symm fun x y : Rule => Numeral.place x.id ≠ Numeral.place y.id :=
    ⟨fun _ _ h => h.symm⟩
  exact List.Pairwise.forall hapart hx hy hne (le_antisymm hxy hyx)

/-- Where two places agree, the rules stand as they were given. -/
theorem sublist_inOrder {x y : Rule} (hplace : Numeral.place x.id = Numeral.place y.id)
    (h : [x, y].Sublist rules) : [x, y].Sublist (inOrder rules) :=
  @List.pair_sublist_mergeSort Rule (fun x y => Numeral.le x.id y.id) x y rules
    (fun r s t => Numeral.trans_le r.id s.id t.id) (fun s t => Numeral.total_le s.id t.id)
    (Numeral.le_iff.mpr hplace.le) h

/-- Without repetition no two items stand both ways. -/
theorem not_sublist_swap {α : Type} {items : List α} {x y : α} (hnodup : items.Nodup)
    (h : [x, y].Sublist items) : ¬ [y, x].Sublist items := by
  induction items with
  | nil => simp at h
  | cons item rest ih => grind

theorem inOrder_reverse_ne {x y : Rule} (hplace : Numeral.place x.id = Numeral.place y.id)
    (h : [x, y].Sublist rules) (hids : (rules.map Rule.id).Nodup) :
    (inOrder rules.reverse).map Rule.id ≠ (inOrder rules).map Rule.id := by
  intro hsame
  have hforth : [x.id, y.id].Sublist ((inOrder rules).map Rule.id) :=
    (sublist_inOrder hplace h).map Rule.id
  have hback : [y.id, x.id].Sublist ((inOrder rules).map Rule.id) := by
    rw [← hsame]
    exact (sublist_inOrder hplace.symm h.reverse).map Rule.id
  have hnodup : ((inOrder rules).map Rule.id).Nodup :=
    ((inOrder_perm rules).map Rule.id).nodup_iff.mpr hids
  exact not_sublist_swap hnodup hforth hback

theorem Grants.perm (h : Grants choice [] given granted) (hperm : given.Perm others) :
    ∃ regranted, Grants choice [] others regranted
      ∧ regranted.reduceOption.Perm granted.reduceOption := by
  obtain ⟨regranted, hfiles, hsame⟩ := mapM_perm hperm h.files
  have hrules : regranted.reduceOption.Perm granted.reduceOption := (hsame.filterMap id).symm
  exact ⟨regranted, ⟨hfiles, (hrules.map Rule.id).nodup_iff.mpr h.ids, List.disjoint_nil_left _⟩,
    hrules⟩

theorem Grants.reverse (h : Grants choice [] given granted) :
    Grants choice [] given.reverse granted.reverse
      ∧ granted.reverse.reduceOption = granted.reduceOption.reverse := by
  have hrules : granted.reverse.reduceOption = granted.reduceOption.reverse :=
    List.filterMap_reverse
  refine ⟨⟨?_, ?_, List.disjoint_nil_left _⟩, hrules⟩
  · rw [mapM_eq_ok_iff, List.forall₂_reverse_iff]
    exact mapM_eq_ok_iff.mp h.files
  · rw [hrules, List.map_reverse, List.nodup_reverse]
    exact h.ids

/-- What a load of files comes to: the rules that are granted, in order. -/
theorem load_files_eq_ok {paths : List Path} :
    (load files ⟨none, some paths⟩ choice).result = .ok registry ↔
      ∃ given granted, paths.mapM (Source.explicitFile files) = .ok given
        ∧ Grants choice [] given granted
        ∧ (registerAll .empty (inOrder granted.reduceOption)).result = .ok registry :=
  load_eq_ok_iff

theorem Grants.entries_eq (h : Grants choice [] given granted)
    (hregistered : (registerAll .empty (inOrder granted.reduceOption)).result = .ok registry) :
    registry.entries.map Entry.toRule = inOrder granted.reduceOption := by
  obtain ⟨entered, hentered, hentries⟩ := h.exists_registry
  obtain rfl : registry = entered := Except.ok.inj (hregistered.symm.trans hentered)
  rw [hentries, Registry.map_toRule_numbered]

theorem Grants.placesApart_iff (h : Grants choice [] given granted)
    (hregistered : (registerAll .empty (inOrder granted.reduceOption)).result = .ok registry) :
    registry.PlacesApart ↔ Rule.PlacesApart granted.reduceOption := by
  have hentries : registry.PlacesApart ↔
      Rule.PlacesApart (registry.entries.map Entry.toRule) := by
    rw [Registry.PlacesApart, Rule.PlacesApart, List.pairwise_map]
  rw [hentries, h.entries_eq hregistered]
  exact (inOrder_perm _).pairwise_iff fun h => h.symm

/-- Files that load come to the same rules in any order. -/
theorem exists_load_perm {paths others : List Path}
    (h : (load files ⟨none, some paths⟩ choice).result = .ok registry)
    (hperm : others.Perm paths) :
    ∃ reordered, (load files ⟨none, some others⟩ choice).result = .ok reordered
      ∧ (reordered.entries.map Entry.toRule).Perm (registry.entries.map Entry.toRule)
      ∧ (registry.PlacesApart → reordered = registry) := by
  obtain ⟨given, granted, hgiven, hgranted, hregistered⟩ := load_files_eq_ok.mp h
  obtain ⟨regiven, hregiven, hfiles⟩ := mapM_perm hperm.symm hgiven
  obtain ⟨regranted, hregranted, hrules⟩ := hgranted.perm hfiles
  obtain ⟨reordered, hreordered, -⟩ := hregranted.exists_registry
  refine ⟨reordered, load_files_eq_ok.mpr ⟨regiven, regranted, hregiven, hregranted, hreordered⟩,
    ?_, fun hapart => ?_⟩
  · rw [hregranted.entries_eq hreordered, hgranted.entries_eq hregistered]
    exact (inOrder_perm _).trans (hrules.trans (inOrder_perm _).symm)
  · rw [inOrder_eq_of_perm ((hgranted.placesApart_iff hregistered).mp hapart) hrules] at hreordered
    exact Except.ok.inj (hreordered.symm.trans hregistered)

/-- Files turned round come to another order where two rules share a place. -/
theorem load_reverse_ne {paths : List Path}
    (h : (load files ⟨none, some paths⟩ choice).result = .ok registry)
    (hshared : ¬ registry.PlacesApart) :
    ∃ reordered, (load files ⟨none, some paths.reverse⟩ choice).result = .ok reordered
      ∧ reordered.ids ≠ registry.ids := by
  obtain ⟨given, granted, hgiven, hgranted, hregistered⟩ := load_files_eq_ok.mp h
  obtain ⟨hreversed, hrules⟩ := hgranted.reverse
  obtain ⟨reordered, hreordered, -⟩ := hreversed.exists_registry
  have hregiven : paths.reverse.mapM (Source.explicitFile files) = .ok given.reverse := by
    rw [mapM_eq_ok_iff, List.forall₂_reverse_iff]
    exact mapM_eq_ok_iff.mp hgiven
  refine ⟨reordered, load_files_eq_ok.mpr ⟨_, _, hregiven, hreversed, hreordered⟩, ?_⟩
  rw [hgranted.placesApart_iff hregistered, Rule.PlacesApart, List.pairwise_iff_forall_sublist]
    at hshared
  push Not at hshared
  obtain ⟨x, y, hpair, hplace⟩ := hshared
  rw [Registry.ids_eq_map, Registry.ids_eq_map, hreversed.entries_eq hreordered,
    hgranted.entries_eq hregistered, hrules]
  exact inOrder_reverse_ne hplace hpair hgranted.ids

theorem isDotted_of_load {source : Source}
    (h : (load files source choice).result = .ok registry) :
    ∀ entry ∈ registry.entries, Numeral.isDotted entry.id.toList = true := by
  obtain ⟨_, -, hborne⟩ := bears_of_load h
  intro entry hentry
  obtain ⟨file, -, entries, -, hread⟩ := hborne entry hentry
  exact Rule.isDotted_of_read hread

theorem pairwise_place_of_load {source : Source}
    (h : (load files source choice).result = .ok registry) :
    registry.entries.Pairwise fun x y => Numeral.place x.id ≤ Numeral.place y.id := by
  obtain ⟨given, granted, -, hgranted, hregistered⟩ := load_eq_ok_iff.mp h
  have hordered := pairwise_inOrder granted.reduceOption
  rw [← hgranted.entries_eq hregistered, List.pairwise_map] at hordered
  exact hordered

/-- Rules are declared in the order of the places of their numerals: by value, and last
where a component has too many digits to be read.  The same files come to the same rules
in any order, and to the same registry in every order just when no two rules share a
place. -/
theorem load_ordered {paths : List Path}
    (h : (load files ⟨none, some paths⟩ choice).result = .ok registry) :
    (registry.entries.Pairwise fun x y => Numeral.place x.id ≤ Numeral.place y.id)
      ∧ (∀ entry ∈ registry.entries,
          Numeral.place entry.id = if Numeral.IsShort entry.id
            then (Numeral.value entry.id).map Int.ofNat else Numeral.lastPlace)
      ∧ ((∀ entry ∈ registry.entries, Numeral.IsShort entry.id) →
          registry.entries.Pairwise fun x y => Numeral.value x.id ≤ Numeral.value y.id)
      ∧ (∀ others, others.Perm paths →
          ∃ reordered, (load files ⟨none, some others⟩ choice).result = .ok reordered
            ∧ (reordered.entries.map Entry.toRule).Perm (registry.entries.map Entry.toRule)
            ∧ (registry.PlacesApart → reordered = registry))
      ∧ (¬ registry.PlacesApart →
          ∃ others reordered, others.Perm paths
            ∧ (load files ⟨none, some others⟩ choice).result = .ok reordered
            ∧ reordered.ids ≠ registry.ids) := by
  have hdotted := isDotted_of_load h
  have hplaces := pairwise_place_of_load h
  refine ⟨hplaces, fun entry hentry => ?_, fun hshort => ?_,
    fun others => exists_load_perm h, fun hshared => ?_⟩
  · split
    · rename_i hshort
      exact Numeral.place_of_isShort (hdotted entry hentry) hshort
    · rename_i hlong
      exact Numeral.place_of_not_isShort (hdotted entry hentry) hlong
  · apply hplaces.imp_of_mem
    intro x y hx hy hplace
    exact (Numeral.place_le_iff (hdotted x hx) (hshort x hx) (hdotted y hy) (hshort y hy)).mp
      hplace
  · obtain ⟨reordered, hreordered, hids⟩ := load_reverse_ne h hshared
    exact ⟨paths.reverse, reordered, List.reverse_perm paths, hreordered, hids⟩

def pairFiles (first second : String) : Files :=
  ⟨"", [(["a.yaml"], .data (.map (solitaryParts first "identical-forms"))),
    (["b.yaml"], .data (.map (solitaryParts second "identical-forms")))]⟩

def pairPaths : List Path := [⟨.root, ["a.yaml"]⟩, ⟨.root, ["b.yaml"]⟩]

theorem load_pair {first second : String} (hfirst : Numeral.isDotted first.toList = true)
    (hsecond : Numeral.isDotted second.toList = true) (hne : first ≠ second)
    (hplace : Numeral.place first ≤ Numeral.place second) :
    ∃ registry, (load (pairFiles first second) ⟨none, some pairPaths⟩ .everything).result =
        .ok registry ∧ registry.ids = [first, second] := by
  have hcollected : Source.collect (pairFiles first second) ⟨none, some pairPaths⟩ =
      .ok [⟨"/a.yaml", "a.yaml", .data (.map (solitaryParts first "identical-forms"))⟩,
        ⟨"/b.yaml", "b.yaml", .data (.map (solitaryParts second "identical-forms"))⟩] := rfl
  have hreason : Text.isBlankString "identical-forms" = false := by decide
  have hyields : Yields []
      [⟨"/a.yaml", "a.yaml", .data (.map (solitaryParts first "identical-forms"))⟩,
        ⟨"/b.yaml", "b.yaml", .data (.map (solitaryParts second "identical-forms"))⟩]
      [{ Rule.solitary first "identical-forms" with source := "/a.yaml" },
        { Rule.solitary second "identical-forms" with source := "/b.yaml" }] := by
    refine ⟨.cons ⟨_, rfl, ?_⟩ (.cons ⟨_, rfl, ?_⟩ .nil), ?_, List.disjoint_nil_left _⟩
    · exact Rule.read_of_source (Rule.read_solitary hfirst hreason) "/a.yaml"
    · exact Rule.read_of_source (Rule.read_solitary hsecond hreason) "/b.yaml"
    · simpa [Rule.solitary] using hne
  obtain ⟨registry, hregistry, hentries⟩ := hyields.exists_registry
  refine ⟨registry, load_eq_ok.mpr ⟨_, _, hcollected, hyields, hregistry⟩, ?_⟩
  have horder : inOrder [{ Rule.solitary first "identical-forms" with source := "/a.yaml" },
      { Rule.solitary second "identical-forms" with source := "/b.yaml" }] =
        [{ Rule.solitary first "identical-forms" with source := "/a.yaml" },
          { Rule.solitary second "identical-forms" with source := "/b.yaml" }] := by
    refine List.mergeSort_of_pairwise ?_
    simpa [Rule.solitary] using Numeral.le_iff.mpr hplace
  rw [Registry.ids, hentries, horder]
  rfl

/-- Two rules are declared by number in either order of their files. -/
theorem load_ordered_pair : ∃ registry,
    (load (pairFiles "1.2.9" "1.2.10") ⟨none, some pairPaths⟩ .everything).result = .ok registry
      ∧ registry.ids = ["1.2.9", "1.2.10"]
      ∧ (load (pairFiles "1.2.9" "1.2.10") ⟨none, some pairPaths.reverse⟩ .everything).result =
        .ok registry := by
  have hplaces : Numeral.place "1.2.9" < Numeral.place "1.2.10" := by decide
  obtain ⟨registry, hload, hids⟩ :=
    load_pair (show Numeral.isDotted "1.2.9".toList = true by decide)
      (show Numeral.isDotted "1.2.10".toList = true by decide) (by decide) hplaces.le
  obtain ⟨-, -, -, hperm, -⟩ := load_ordered hload
  obtain ⟨reordered, hreordered, -, hsame⟩ :=
    hperm pairPaths.reverse (List.reverse_perm pairPaths)
  have hapart : registry.PlacesApart := by
    rw [Registry.placesApart_iff_ids, hids]
    simpa using hplaces.ne
  obtain rfl := hsame hapart
  exact ⟨reordered, hload, hids, hreordered⟩

/-- One more digit than an integer may have. -/
def overlongId : String :=
  String.ofList ('1' :: '.' :: List.replicate (Number.digitLimit + 1) '1')

theorem components_overlongId :
    Numeral.components (Numeral.withoutLineEnd overlongId.toList) =
      [['1'], List.replicate (Number.digitLimit + 1) '1'] := by
  have hwhole : Numeral.withoutLineEnd overlongId.toList =
      ['.'].intercalate [['1'], List.replicate (Number.digitLimit + 1) '1'] := by
    have hlast : overlongId.toList.getLast? = some '1' := by
      simp [overlongId, List.getLast?_cons, List.getLast?_replicate]
    rw [Numeral.withoutLineEnd, hlast, if_neg (by decide)]
    simp [overlongId, List.intercalate]
  rw [hwhole]
  refine List.splitOn_intercalate '.' (fun group hgroup => ?_) (by simp)
  rcases List.mem_pair.mp hgroup with rfl | rfl
  · decide
  · exact fun hmem => absurd (List.eq_of_mem_replicate hmem) (by decide)

theorem isDotted_overlongId : Numeral.isDotted overlongId.toList = true := by
  have hones (n : Nat) : Numeral.IsGroup (List.replicate (n + 1) '1') := by
    refine ⟨by simp, fun c hc => ?_⟩
    rw [List.eq_of_mem_replicate hc]
    decide
  rw [Numeral.isDotted_iff, components_overlongId]
  refine ⟨by simp, fun group hgroup => ?_⟩
  rcases List.mem_pair.mp hgroup with rfl | rfl
  · exact hones 0
  · exact hones Number.digitLimit

theorem place_overlongId : Numeral.place overlongId = Numeral.lastPlace := by
  refine Numeral.place_of_not_isShort isDotted_overlongId fun hshort => ?_
  rw [Numeral.IsShort, components_overlongId] at hshort
  have hlength := hshort _ (List.mem_cons_of_mem _ List.mem_cons_self)
  rw [List.length_replicate] at hlength
  omega

/-- Two rules that share a place are declared as their files are given, and a rule whose
numeral is not read stands behind one of higher value. -/
theorem load_disordered :
    (∃ registry reordered,
        (load (pairFiles "1.2" "01.2") ⟨none, some pairPaths⟩ .everything).result = .ok registry
          ∧ (load (pairFiles "1.2" "01.2") ⟨none, some pairPaths.reverse⟩ .everything).result =
            .ok reordered
          ∧ reordered.ids ≠ registry.ids)
      ∧ ∃ registry,
        (load (pairFiles "2.1" overlongId) ⟨none, some pairPaths⟩ .everything).result =
            .ok registry
          ∧ registry.ids = ["2.1", overlongId]
          ∧ Numeral.value overlongId < Numeral.value "2.1" := by
  constructor
  · have hplaces : Numeral.place "1.2" = Numeral.place "01.2" := by decide
    obtain ⟨registry, hload, hids⟩ :=
      load_pair (show Numeral.isDotted "1.2".toList = true by decide)
        (show Numeral.isDotted "01.2".toList = true by decide) (by decide) hplaces.le
    have hshared : ¬ registry.PlacesApart := by
      rw [Registry.placesApart_iff_ids, hids]
      simpa using hplaces
    obtain ⟨reordered, hreordered, hids⟩ := load_reverse_ne hload hshared
    exact ⟨registry, reordered, hload, hreordered, hids⟩
  · have hlast : Numeral.place "2.1" ≤ Numeral.place overlongId := by
      rw [place_overlongId]
      decide
    have hne : "2.1" ≠ overlongId := fun hsame => by
      have hplace := congrArg Numeral.place hsame
      rw [place_overlongId] at hplace
      exact absurd hplace (by decide)
    obtain ⟨registry, hload, hids⟩ :=
      load_pair (show Numeral.isDotted "2.1".toList = true by decide) isDotted_overlongId hne hlast
    refine ⟨registry, hload, hids, ?_⟩
    have hvalue : Numeral.value "2.1" = [2, 1] := by decide
    rw [hvalue, Numeral.value, components_overlongId]
    exact List.cons_lt_cons_iff.mpr (.inl (by decide))

end Pack

end SutraArbiter
