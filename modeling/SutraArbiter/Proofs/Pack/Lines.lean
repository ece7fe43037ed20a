import SutraArbiter.Proofs.Pack.Order
import SutraArbiter.Proofs.Pack.Problem
import SutraArbiter.Proofs.Pack.Reporting

namespace SutraArbiter

open Text

/-! The report of an inspection, line by line.  Paths, and the ids of rules that are read, are
repeated as they are; an id may end in a line end. -/

def Path.IsUnbroken (path : Path) : Prop :=
  ∀ part ∈ path.parts, Text.IsUnbroken part.toList

/-- No path of the tree has a line end. -/
structure Files.IsUnbroken (files : Files) : Prop where
  root : Text.IsUnbroken files.rootName.toList
  parts : ∀ document ∈ files.documents, ∀ part ∈ document.1, Text.IsUnbroken part.toList

/-- No path that is given has a line end. -/
structure Source.IsUnbroken (source : Source) : Prop where
  directory : ∀ path ∈ source.directory, path.IsUnbroken
  files : ∀ paths ∈ source.files, ∀ path ∈ paths, path.IsUnbroken

namespace Path

variable {path : Path} {anchor : Anchor} {done parts : List String} {text : String}

theorem mem_resolveFrom {part : String} (h : part ∈ (resolveFrom anchor done parts).parts) :
    part ∈ done ∨ part ∈ parts := by
  induction parts generalizing anchor done with
  | nil => exact .inl h
  | cons piece rest ih =>
      unfold resolveFrom at h
      split at h
      · rcases ih h with hdone | hrest
        · rcases List.mem_append.mp hdone with hdone | hpiece
          · exact .inl hdone
          · exact .inr (by simp [List.mem_singleton.mp hpiece])
        · exact .inr (List.mem_cons_of_mem _ hrest)
      · split at h
        · rcases ih h with hnone | hrest
          · cases hnone
          · exact .inr (List.mem_cons_of_mem _ hrest)
        · rcases ih h with hdone | hrest
          · exact .inl ((List.dropLast_sublist done).subset hdone)
          · exact .inr (List.mem_cons_of_mem _ hrest)

theorem IsUnbroken.resolve (h : path.IsUnbroken) : path.resolve.IsUnbroken := fun part hpart =>
  h part ((mem_resolveFrom hpart).resolve_left nofun)

theorem IsUnbroken.name (h : path.IsUnbroken) : Text.IsUnbroken path.name.toList := by
  unfold Path.name
  cases hlast : path.parts.getLast? with
  | none => exact isUnbroken_nil
  | some part => exact h part (List.mem_of_getLast? hlast)

theorem isUnbroken_pieces (h : Text.IsUnbroken text.toList) :
    ∀ piece ∈ pieces text, Text.IsUnbroken piece.toList := by
  intro piece hpiece
  obtain ⟨split, hsplit, rfl⟩ := List.mem_map.mp (List.mem_filter.mp hpiece).1
  have hwhole : Text.IsUnbroken (['/'].intercalate (text.toList.splitOn '/')) := by
    rwa [List.intercalate_splitOn]
  rw [String.toList_ofList]
  exact (isUnbroken_intercalate (by decide)).mp hwhole split hsplit

theorem IsUnbroken.join (h : path.IsUnbroken) (htext : Text.IsUnbroken text.toList) :
    (path.join text).IsUnbroken := by
  unfold Path.join
  split
  · exact isUnbroken_pieces htext
  · intro part hpart
    exact (List.mem_append.mp hpart).elim (h part) (isUnbroken_pieces htext part)

theorem isUnbroken_texts {rootName : String} (hroot : Text.IsUnbroken rootName.toList) :
    ∀ part ∈ anchor.texts rootName, Text.IsUnbroken part.toList := by
  cases anchor with
  | root => simpa [Anchor.texts] using hroot
  | above steps =>
      simp only [Anchor.texts, List.forall_mem_cons]
      refine ⟨hroot, fun part hpart => ?_⟩
      rw [List.eq_of_mem_replicate hpart]
      decide
  | top | doubleTop => simp [Anchor.texts]

end Path

namespace Files

variable {files : Files} {path place : Path}

theorem isUnbroken_shown (h : files.IsUnbroken) (hpath : path.IsUnbroken) :
    Text.IsUnbroken (files.shown path).toList := by
  have hslash : Text.IsUnbroken "/".toList := by decide
  unfold shown Path.text
  rw [String.toList_intercalate, isUnbroken_intercalate hslash, List.forall_mem_map]
  intro part hpart
  rcases List.mem_append.mp hpart with hanchor | hpart
  · exact Path.isUnbroken_texts h.root part hanchor
  · split at hpart
    · rw [List.mem_singleton.mp hpart]
      decide
    · exact hpath part hpart

theorem eq_resolve_of_locate? (h : files.locate? path = .ok place) : place = path.resolve := by
  obtain ⟨resolved, hresolved, h⟩ := bind_eq_ok.mp h
  unfold seek? at h
  unfold Path.resolve? at hresolved
  split at h <;> cases h
  split at hresolved <;> cases hresolved
  rfl

theorem isUnbroken_of_document? {document : Document} (h : files.IsUnbroken)
    (hdocument : files.document? path = some document) : path.IsUnbroken := by
  unfold document? at hdocument
  split at hdocument
  · obtain ⟨before, after, hdocuments, -⟩ := List.lookup_eq_some_iff.mp hdocument
    exact h.parts (path.parts, document) (by simp [hdocuments])
  · cases hdocument

/-- What is there lies on a path of the tree. -/
theorem isUnbroken_of_isFile (h : files.IsUnbroken) (hfile : files.isFile path = true) :
    path.IsUnbroken := by
  unfold isFile at hfile
  split at hfile
  · cases hfile
  · rename_i hdocument
    exact isUnbroken_of_document? h hdocument
  · cases hfile

theorem isUnbroken_of_isDirectory (h : files.IsUnbroken)
    (hdirectory : files.isDirectory path = true) : path.IsUnbroken := by
  unfold isDirectory at hdirectory
  split at hdirectory
  · rename_i hdocument
    exact isUnbroken_of_document? h hdocument
  · cases hdirectory
  · simp only [Bool.or_eq_true, Bool.and_eq_true, List.isEmpty_iff, List.any_eq_true] at hdirectory
    rcases hdirectory with hnone | ⟨-, document, hdocument, hbelow⟩
    · intro part hpart
      rw [hnone] at hpart
      cases hpart
    · have hfirst := List.isPrefixOf_iff_prefix.mp (Bool.and_eq_true_iff.mp hbelow).2
      exact fun part hpart => h.parts document hdocument part (hfirst.subset hpart)

theorem isUnbroken_names (h : files.IsUnbroken) (path : Path) :
    ∀ name ∈ files.names path, Text.IsUnbroken name.toList := by
  intro name hname
  unfold names at hname
  rw [List.mem_mergeSort, List.mem_eraseDups, List.mem_filterMap] at hname
  obtain ⟨document, hdocument, hpart⟩ := hname
  refine h.parts document ?_ name (List.mem_of_getElem? hpart)
  split at hdocument
  · exact (List.mem_filter.mp hdocument).1
  · cases hdocument

end Files

/-- The id of a rule that is read keeps to its line up to the one line end that may follow it. -/
theorem Numeral.exists_isUnbroken {chars : List Char} (h : isDotted chars = true) :
    ∃ numeral, IsUnbroken numeral ∧ (chars = numeral ∨ chars = numeral ++ ['\n']) := by
  obtain ⟨groups, tail, rfl, -, hgroups, htail⟩ := isDotted_iff_exists.mp h
  refine ⟨['.'].intercalate groups, ?_, ?_⟩
  · rw [isUnbroken_intercalate (by decide)]
    intro group hgroup c hc
    rw [← Bool.not_eq_true]
    intro hends
    have hdigit := isDigit_eq_false_of_isBlank (isBlank_of_endsLine hends)
    rw [(hgroups group hgroup).digits c hc] at hdigit
    cases hdigit
  · exact htail.imp (fun htail => by rw [htail, List.append_nil]) fun htail => by rw [htail]

namespace Problem

/-- The id that the problem repeats has a line end behind it. -/
def RepeatsLineEnd (problem : Problem) : Prop :=
  ∃ path id first, problem = .duplicate path id first ∧ id.toList.getLast? = some '\n'

/-- The path under which nothing was found has a line end in it. -/
def MissesLineEnd (problem : Problem) : Prop :=
  ∃ path, ¬ Text.IsUnbroken path.toList
    ∧ (problem = .missingFile path ∨ problem = .missingDirectory path)

/-- A problem is told on one line, but for a path that was not found and for an id that is
repeated. -/
inductive IsTold : Problem → Prop
  | line {problem : Problem} (unbroken : Text.IsUnbroken problem.line.toList) : IsTold problem
  | missing {problem : Problem} (misses : problem.MissesLineEnd) : IsTold problem
  | duplicate {path id first : String} {numeral : List Char}
      (path_unbroken : Text.IsUnbroken path.toList) (first_unbroken : Text.IsUnbroken first.toList)
      (numeral_unbroken : Text.IsUnbroken numeral) (ends : id.toList = numeral ++ ['\n']) :
      IsTold (.duplicate path id first)

variable {problem : Problem} {problems : List Problem} {path id first : String}

theorem isTold_missingFile (path : String) : IsTold (.missingFile path) := by
  by_cases hpath : Text.IsUnbroken path.toList
  · exact .line (isUnbroken_missingFile.mpr hpath)
  · exact .missing ⟨path, hpath, .inl rfl⟩

theorem isTold_missingDirectory (path : String) : IsTold (.missingDirectory path) := by
  by_cases hpath : Text.IsUnbroken path.toList
  · exact .line (isUnbroken_missingDirectory.mpr hpath)
  · exact .missing ⟨path, hpath, .inr rfl⟩

theorem isTold_duplicate (hpath : Text.IsUnbroken path.toList)
    (hfirst : Text.IsUnbroken first.toList) (hid : Numeral.isDotted id.toList = true) :
    IsTold (.duplicate path id first) := by
  obtain ⟨numeral, hnumeral, hwhole | hends⟩ := Numeral.exists_isUnbroken hid
  · exact .line ((isUnbroken_duplicate hpath hfirst).mpr (by rwa [hwhole]))
  · exact .duplicate hpath hfirst hnumeral hends

theorem isBroken_of_repeatsLineEnd (h : problem.RepeatsLineEnd) : problem.isBroken = true := by
  obtain ⟨path, id, first, rfl, hid⟩ := h
  rw [← Bool.not_eq_false, isBroken_eq_false, isUnbroken_line]
  rintro ⟨-, -, -, hmessage, -⟩
  simp only [Problem.duplicate, toString, String.toList_append, isUnbroken_append] at hmessage
  exact absurd (hmessage.1.1.1.2 '\n' (List.mem_of_getLast? hid)) (by decide)

theorem isBroken_of_missesLineEnd (h : problem.MissesLineEnd) : problem.isBroken = true := by
  obtain ⟨path, hpath, rfl | rfl⟩ := h
  · rwa [← Bool.not_eq_false, isBroken_eq_false, isUnbroken_missingFile]
  · rwa [← Bool.not_eq_false, isBroken_eq_false, isUnbroken_missingDirectory]

theorem not_missesLineEnd (h : Text.IsUnbroken problem.line.toList) :
    ¬ problem.MissesLineEnd := by
  intro hmisses
  have hbroken := isBroken_of_missesLineEnd hmisses
  rw [isBroken_eq_false.mpr h] at hbroken
  cases hbroken

theorem not_missesLineEnd_duplicate : ¬ (Problem.duplicate path id first).MissesLineEnd := by
  rintro ⟨other, -, hother | hother⟩
  · exact absurd (congrArg Problem.code hother) (by simp [Problem.duplicate, missingFile])
  · exact absurd (congrArg Problem.code hother) (by simp [Problem.duplicate, missingDirectory])

theorem IsTold.isBroken_iff (h : problem.IsTold) :
    problem.isBroken = true ↔ problem.RepeatsLineEnd ∨ problem.MissesLineEnd := by
  refine ⟨fun hbroken => ?_, fun h => h.elim isBroken_of_repeatsLineEnd isBroken_of_missesLineEnd⟩
  cases h with
  | line unbroken =>
      rw [isBroken_eq_false.mpr unbroken] at hbroken
      cases hbroken
  | missing misses => exact .inr misses
  | duplicate _ _ _ ends => exact .inl ⟨_, _, _, rfl, by rw [ends, List.getLast?_concat]⟩

/-- Nothing but a path that was not found sets a problem on more than two lines. -/
theorem IsTold.lines (h : problem.IsTold) (hfound : ¬ problem.MissesLineEnd) :
    IsEnded problem.line.toList
      ∧ (problem.isBroken = true → (linesFrom [] problem.line.toList).length = 2) := by
  cases h with
  | line unbroken =>
      refine ⟨isEnded_of_isUnbroken unbroken line_ne_nil, fun hbroken => ?_⟩
      rw [isBroken_eq_false.mpr unbroken] at hbroken
      cases hbroken
  | missing misses => exact absurd misses hfound
  | duplicate path_unbroken first_unbroken numeral_unbroken ends =>
      obtain ⟨start, rest, hline, hstart, hsome, hrest, hmore⟩ :=
        exists_line_duplicate path_unbroken first_unbroken numeral_unbroken ends
      rw [hline]
      refine ⟨isEnded_newline hrest hmore, fun _ => ?_⟩
      rw [linesFrom_pair hstart hsome hrest hmore]
      rfl

end Problem

namespace Pack

variable {files : Files} {source : Source} {own problems : List Problem} {given : List RuleFile}

theorem isUnbroken_listed (hfiles : files.IsUnbroken) {directory : Path}
    (hdirectory : directory.IsUnbroken) :
    ∀ file ∈ Source.listed files directory, Text.IsUnbroken file.path.toList := by
  intro file hfile
  obtain ⟨name, hname, rfl⟩ := List.mem_map.mp hfile
  have hshown := files.isUnbroken_names hfiles directory name (List.mem_filter.mp hname).1
  exact Files.isUnbroken_shown hfiles (hdirectory.join hshown)

theorem isUnbroken_bundledFiles :
    ∀ file ∈ Source.bundledFiles, Text.IsUnbroken file.path.toList := by
  have hnames : ∀ file ∈ Pack.bundled, Text.IsUnbroken file.1.toList := by decide
  exact List.forall_mem_map.mpr hnames

theorem mem_problems {results : List (Except Problem RuleFile)} {problem : Problem} :
    problem ∈ Pack.problems results ↔ .error problem ∈ results := by
  rw [Pack.problems, List.mem_filterMap]
  constructor
  · rintro ⟨result, hresult, h⟩
    split at h <;> cases h
    exact hresult
  · exact fun h => ⟨_, h, rfl⟩

theorem mem_readable {results : List (Except Problem RuleFile)} {file : RuleFile} :
    file ∈ readable results ↔ .ok file ∈ results := by
  rw [readable, List.mem_filterMap]
  constructor
  · rintro ⟨result, hresult, h⟩
    cases result <;> cases h
    exact hresult
  · exact fun h => ⟨_, h, rfl⟩

theorem exists_finds {paths : List Path} {results : List (Except Problem RuleFile)}
    (h : List.Forall₂ (Source.Finds files) paths results) {result : Except Problem RuleFile}
    (hresult : result ∈ results) : ∃ path ∈ paths, Source.Finds files path result := by
  induction h with
  | nil => cases hresult
  | cons hfirst _ ih =>
      rcases List.mem_cons.mp hresult with rfl | hrest
      · exact ⟨_, List.mem_cons_self, hfirst⟩
      · obtain ⟨path, hpath, hfinds⟩ := ih hrest
        exact ⟨path, List.mem_cons_of_mem _ hpath, hfinds⟩

theorem isTold_of_finds (hfiles : files.IsUnbroken) {path : Path} {problem : Problem}
    (h : Source.Finds files path (.error problem)) :
    problem.IsTold ∧ (path.IsUnbroken → Text.IsUnbroken problem.line.toList) := by
  cases h with
  | missing placed absent =>
      refine ⟨Problem.isTold_missingFile _, fun hpath => Problem.isUnbroken_missingFile.mpr ?_⟩
      rw [Files.eq_resolve_of_locate? placed]
      exact Files.isUnbroken_shown hfiles hpath.resolve
  | extension placed present named =>
      have hplace := Files.isUnbroken_of_isFile hfiles present
      have hline := Problem.isUnbroken_extension (Files.isUnbroken_shown hfiles hplace) hplace.name
      exact ⟨.line hline, fun _ => hline⟩

theorem isUnbroken_of_finds (hfiles : files.IsUnbroken) {path : Path} {file : RuleFile}
    (h : Source.Finds files path (.ok file)) : Text.IsUnbroken file.path.toList := by
  cases h with
  | file placed present named =>
      exact Files.isUnbroken_shown hfiles (Files.isUnbroken_of_isFile hfiles present)

/-- What is wrong with the source itself is told as it should be, and the files that are read
have no line end in their paths. -/
theorem isTold_of_opens (hfiles : files.IsUnbroken) (h : source.Opens files own given) :
    (∀ problem ∈ own, problem.IsTold
        ∧ (source.IsUnbroken → Text.IsUnbroken problem.line.toList))
      ∧ ∀ file ∈ given, Text.IsUnbroken file.path.toList := by
  cases h with
  | conflict =>
      refine ⟨fun problem hproblem => ?_, nofun⟩
      rw [List.mem_singleton.mp hproblem]
      exact ⟨.line Problem.isUnbroken_conflict, fun _ => Problem.isUnbroken_conflict⟩
  | missing placed absent =>
      refine ⟨fun problem hproblem => ?_, nofun⟩
      rw [List.mem_singleton.mp hproblem]
      refine ⟨Problem.isTold_missingDirectory _, fun hsource =>
        Problem.isUnbroken_missingDirectory.mpr ?_⟩
      rw [Files.eq_resolve_of_locate? placed]
      exact Files.isUnbroken_shown hfiles (hsource.directory _ rfl).resolve
  | directory placed present =>
      exact ⟨nofun, isUnbroken_listed hfiles (Files.isUnbroken_of_isDirectory hfiles present)⟩
  | @files paths results found =>
      constructor
      · intro problem hproblem
        obtain ⟨path, hpath, hfinds⟩ := exists_finds found (mem_problems.mp hproblem)
        obtain ⟨htold, hline⟩ := isTold_of_finds hfiles hfinds
        exact ⟨htold, fun hsource => hline (hsource.files paths rfl path hpath)⟩
      · intro file hfile
        obtain ⟨path, -, hfinds⟩ := exists_finds found (mem_readable.mp hfile)
        exact isUnbroken_of_finds hfiles hfinds
  | bundled => exact ⟨nofun, isUnbroken_bundledFiles⟩

theorem isTold_of_faces {file : RuleFile} {before : List RuleFile} {problem : Problem}
    (hfile : Text.IsUnbroken file.path.toList)
    (hbefore : ∀ other ∈ before, Text.IsUnbroken other.path.toList)
    (h : file.Faces before (some problem)) :
    problem.IsTold ∧ ¬ problem.MissesLineEnd := by
  have hline {problem : Problem} (h : Text.IsUnbroken problem.line.toList) :
      problem.IsTold ∧ ¬ problem.MissesLineEnd := ⟨.line h, Problem.not_missesLineEnd h⟩
  cases h with
  | unreadable holds => exact hline (Problem.isUnbroken_unreadable hfile)
  | unparsable holds => exact hline (Problem.isUnbroken_unparsable hfile _)
  | notMapping holds other => exact hline (Problem.isUnbroken_notMapping hfile _)
  | violation holds violates =>
      exact hline (Problem.isUnbroken_violation hfile (Rule.check_onOneLine _ _ violates))
  | duplicate bears first =>
      obtain ⟨rule, ⟨entries, hdocument, hread⟩, rfl⟩ := bears
      obtain ⟨-, earlier, later, rfl, -⟩ := first
      exact ⟨Problem.isTold_duplicate hfile (hbefore _ (by simp)) (Rule.isDotted_of_read hread),
        Problem.not_missesLineEnd_duplicate⟩

theorem isTold_of_inspect (hfiles : files.IsUnbroken) (h : inspect files source = .ok problems) :
    ∀ problem ∈ problems, problem.IsTold ∧ (source.IsUnbroken → ¬ problem.MissesLineEnd) := by
  rw [inspect_eq] at h
  obtain ⟨⟨own, given⟩, hopens, h⟩ := bind_eq_ok.mp h
  obtain ⟨told, htold, h⟩ := bind_eq_ok.mp h
  cases h
  obtain ⟨outcomes, rfl, -, hfaces⟩ := inspectFiles_eq_ok owned_nil htold
  obtain ⟨hown, hgiven⟩ := isTold_of_opens hfiles (survey?_eq_ok.mp hopens)
  intro problem hproblem
  rcases List.mem_append.mp hproblem with hproblem | hproblem
  · obtain ⟨hproblem, hline⟩ := hown problem hproblem
    exact ⟨hproblem, fun hsource => Problem.not_missesLineEnd (hline hsource)⟩
  · obtain ⟨i, hi⟩ := List.mem_iff_getElem?.mp (List.reduceOption_mem_iff.mp hproblem)
    obtain ⟨file, hfile, hfaced⟩ := hfaces i _ hi
    have hbefore : ∀ other ∈ [] ++ given.take i, Text.IsUnbroken other.path.toList :=
      fun other hother => hgiven other (List.mem_of_mem_take hother)
    obtain ⟨hproblem, hfound⟩ :=
      isTold_of_faces (hgiven file (List.mem_of_getElem? hfile)) hbefore hfaced
    exact ⟨hproblem, fun _ => hfound⟩

/-- The report gives the problems of an inspection by code, path and field, those that agree in
these as they were found.  Each has a line of its own exactly if no repeated id has a line end
behind it, which sets the rest of its line on another, and no path that was not found has one
in it. -/
theorem inspect_report_lines (hfiles : files.IsUnbroken)
    (h : inspect files source = .ok problems) :
    (Problem.sorted problems).Perm problems
      ∧ (Problem.sorted problems).Pairwise (fun x y => x.key ≤ y.key)
      ∧ (∀ key, (Problem.sorted problems).filter (·.key = key) =
          problems.filter (·.key = key))
      ∧ (Text.lines (Problem.report problems) = (Problem.sorted problems).map Problem.line ↔
          ∀ problem ∈ problems, ¬ problem.RepeatsLineEnd ∧ ¬ problem.MissesLineEnd)
      ∧ ((∀ problem ∈ problems, ¬ problem.MissesLineEnd) →
          (Text.lines (Problem.report problems)).length =
              problems.length + problems.countP Problem.isBroken
            ∧ (∀ problem ∈ problems, problem.isBroken = true ↔ problem.RepeatsLineEnd)
            ∧ ((Text.lines (Problem.report problems)).length = problems.length ↔
              ∀ problem ∈ problems, ¬ problem.RepeatsLineEnd))
      ∧ (source.IsUnbroken → ∀ problem ∈ problems, ¬ problem.MissesLineEnd) := by
  have htold := isTold_of_inspect hfiles h
  refine ⟨Problem.perm_sorted _, Problem.pairwise_sorted _,
    fun key => Problem.filter_sorted key _, ?_, fun hfound => ?_,
    fun hsource problem hproblem => (htold problem hproblem).2 hsource⟩
  · rw [Problem.lines_report_eq_iff]
    refine forall₂_congr fun problem hproblem => ?_
    rw [← Bool.not_eq_true, (htold problem hproblem).1.isBroken_iff, not_or]
  · have hlines := fun problem hproblem =>
      (htold problem hproblem).1.lines (hfound problem hproblem)
    have hcount : (Text.lines (Problem.report problems)).length =
        problems.length + problems.countP Problem.isBroken :=
      Problem.length_lines_report (fun problem hproblem => (hlines problem hproblem).1)
        fun problem hproblem => (hlines problem hproblem).2
    have hbroken : ∀ problem ∈ problems, problem.isBroken = true ↔ problem.RepeatsLineEnd := by
      intro problem hproblem
      rw [(htold problem hproblem).1.isBroken_iff, or_iff_left (hfound problem hproblem)]
    refine ⟨hcount, hbroken, ?_⟩
    rw [hcount, Nat.add_eq_left, List.countP_eq_zero]
    exact forall₂_congr fun problem hproblem => not_congr (hbroken problem hproblem)

theorem inspect_pair_same {id : String} (hid : Numeral.isDotted id.toList = true) :
    inspect (pairFiles id id) ⟨none, some pairPaths⟩ =
      .ok [.duplicate "/b.yaml" id "/a.yaml"] := by
  have hreason : Text.isBlankString "identical-forms" = false := by decide
  have hread (source : String) := Rule.read_of_source (Rule.read_solitary hid hreason) source
  have hsurvey : survey? (pairFiles id id) ⟨none, some pairPaths⟩ =
      .ok ([], [⟨"/a.yaml", "a.yaml", .data (.map (solitaryParts id "identical-forms"))⟩,
        ⟨"/b.yaml", "b.yaml", .data (.map (solitaryParts id "identical-forms"))⟩]) := rfl
  have hfirst : inspectFile []
      ⟨"/a.yaml", "a.yaml", .data (.map (solitaryParts id "identical-forms"))⟩ = .ok (.ok id) :=
    inspectFile_eq_ok.mpr ⟨_, ⟨_, rfl, hread "/a.yaml"⟩, rfl, nofun⟩
  have hsecond : inspectFile [(id, "/a.yaml")]
      ⟨"/b.yaml", "b.yaml", .data (.map (solitaryParts id "identical-forms"))⟩ =
        .ok (.error (.duplicate "/b.yaml" id "/a.yaml")) := by
    have hborne : List.lookup id [(id, "/a.yaml")] = some "/a.yaml" := List.lookup_cons_self
    have hid := Rule.getD_id_of_read (hread "/b.yaml")
    simp only [inspectFile, Rule.check_of_read (hread "/b.yaml"), hid, Datum.plain_text,
      Rule.solitary, hborne]
  rw [inspect_eq, hsurvey, ok_bind, inspectFiles, hfirst, ok_bind]
  simp only [List.nil_append, inspectFiles, hsecond, ok_bind]
  rfl

theorem isUnbroken_pairNames : ∀ name ∈ ["a.yaml", "b.yaml"], Text.IsUnbroken name.toList := by
  decide

theorem isUnbroken_pairFiles (first second : String) : (pairFiles first second).IsUnbroken where
  root := isUnbroken_nil
  parts := by simpa [pairFiles] using isUnbroken_pairNames

theorem isUnbroken_pairPaths : Source.IsUnbroken ⟨none, some pairPaths⟩ where
  directory := nofun
  files := by
    rintro paths ⟨⟩
    simpa [pairPaths, Path.IsUnbroken] using isUnbroken_pairNames

/-- Two files with one id have one problem, which has one line. -/
theorem inspect_report_lines_pair :
    (pairFiles "1.2.64" "1.2.64").IsUnbroken
      ∧ inspect (pairFiles "1.2.64" "1.2.64") ⟨none, some pairPaths⟩ =
          .ok [.duplicate "/b.yaml" "1.2.64" "/a.yaml"]
      ∧ (Text.lines (Problem.report [.duplicate "/b.yaml" "1.2.64" "/a.yaml"])).length = 1 := by
  have hfiles := isUnbroken_pairFiles "1.2.64" "1.2.64"
  have hinspect : inspect (pairFiles "1.2.64" "1.2.64") ⟨none, some pairPaths⟩ =
      .ok [.duplicate "/b.yaml" "1.2.64" "/a.yaml"] := inspect_pair_same (by decide)
  have hbroken : Problem.isBroken (.duplicate "/b.yaml" "1.2.64" "/a.yaml") = false := by
    decide +kernel
  obtain ⟨-, -, -, -, hlines, hfound⟩ := inspect_report_lines hfiles hinspect
  obtain ⟨-, -, hone⟩ := hlines (hfound isUnbroken_pairPaths)
  refine ⟨hfiles, hinspect, hone.mpr (List.forall_mem_singleton.mpr fun hends => ?_)⟩
  rw [Problem.isBroken_of_repeatsLineEnd hends] at hbroken
  cases hbroken

/-- With a line end behind the id, the one problem takes two lines. -/
theorem inspect_report_brokenLine :
    (pairFiles "1.2.64\n" "1.2.64\n").IsUnbroken
      ∧ ∃ problems, inspect (pairFiles "1.2.64\n" "1.2.64\n") ⟨none, some pairPaths⟩ =
          .ok problems
        ∧ problems.length = 1 ∧ (Text.lines (Problem.report problems)).length = 2 := by
  refine ⟨isUnbroken_pairFiles _ _, _, inspect_pair_same (by decide), rfl, ?_⟩
  decide +kernel

end Pack

end SutraArbiter
