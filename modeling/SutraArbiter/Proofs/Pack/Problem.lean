import SutraArbiter.Pack.Inspection
import SutraArbiter.Proofs.Numeral
import SutraArbiter.Proofs.Rule.Message
import Mathlib.Data.List.Lex
import Mathlib.Data.String.Basic

namespace SutraArbiter

open Text

/-! How problems are reported: in order, each in a line of its own unless something that the
line repeats as it is has a line end. -/

namespace Problem

variable {problem : Problem} {problems : List Problem} {path id first name : String}

theorem perm_sorted (problems : List Problem) : (sorted problems).Perm problems :=
  List.mergeSort_perm _ _

theorem mem_sorted : problem ∈ sorted problems ↔ problem ∈ problems :=
  (perm_sorted problems).mem_iff

theorem le_iff {x y : Problem} : (!decide (y.key < x.key)) = true ↔ x.key ≤ y.key := by
  rw [Bool.not_eq_true', decide_eq_false_iff_not, not_lt]

theorem trans_le (x y z : Problem) (hxy : (!decide (y.key < x.key)) = true)
    (hyz : (!decide (z.key < y.key)) = true) : (!decide (z.key < x.key)) = true :=
  le_iff.mpr ((le_iff.mp hxy).trans (le_iff.mp hyz))

theorem total_le (x y : Problem) :
    ((!decide (y.key < x.key)) || !decide (x.key < y.key)) = true := by
  rw [Bool.or_eq_true, le_iff, le_iff]
  exact le_total _ _

theorem pairwise_sorted (problems : List Problem) :
    (sorted problems).Pairwise fun x y => x.key ≤ y.key :=
  (List.pairwise_mergeSort trans_le total_le problems).imp le_iff.mp

/-- Problems that share a key are reported as they were found. -/
theorem filter_sorted (key : List String) (problems : List Problem) :
    (sorted problems).filter (·.key = key) = problems.filter (·.key = key) := by
  have hkept : (problems.filter (·.key = key)).Sublist (sorted problems) := by
    refine List.sublist_mergeSort trans_le total_le ?_ List.filter_sublist
    refine List.pairwise_of_forall_mem_list fun x hx y hy => le_iff.mpr ?_
    rw [of_decide_eq_true (List.mem_filter.mp hx).2, of_decide_eq_true (List.mem_filter.mp hy).2]
  have hsame := (hkept.filter (·.key = key)).eq_of_length (by
    rw [List.filter_filter]
    simpa using ((perm_sorted problems).filter _).length_eq.symm)
  rw [← hsame, List.filter_filter]
  simp

/-- What a line says before the message. -/
def lead (problem : Problem) : String :=
  s!"[{problem.code}]" ++ " " ++ (if problem.path = "" then "<rules>" else problem.path) ++ " "
    ++ (if problem.field = "" then "" else s!"{problem.field}:" ++ " ")

/-- What a line says behind the message. -/
def trail (problem : Problem) : String :=
  if problem.hint = "" then "" else " " ++ s!"({problem.hint})"

theorem line_eq : problem.line = problem.lead ++ problem.message ++ problem.trail := by
  unfold line parts lead trail
  by_cases hfield : problem.field = "" <;> by_cases hhint : problem.hint = "" <;>
    simp [hfield, hhint, String.append_assoc]

theorem line_ne_nil : problem.line.toList ≠ [] := by
  simp [line_eq, lead, toString]

theorem isUnbroken_lead :
    IsUnbroken problem.lead.toList ↔
      IsUnbroken problem.code.toList ∧ IsUnbroken problem.path.toList
        ∧ IsUnbroken problem.field.toList := by
  have hmarks : IsUnbroken ['[', ']', ' ', ':'] := by decide
  simp only [isUnbroken_cons] at hmarks
  have hpath : IsUnbroken (if problem.path = "" then "<rules>" else problem.path).toList ↔
      IsUnbroken problem.path.toList := by
    split
    · rename_i hnone
      rw [hnone]
      decide
    · rfl
  have hfield :
      IsUnbroken (if problem.field = "" then "" else s!"{problem.field}:" ++ " ").toList ↔
        IsUnbroken problem.field.toList := by
    split
    · rename_i hnone
      rw [hnone]
    · simp only [toString, String.toList_append, isUnbroken_append]
      simp [hmarks]
  simp only [lead, toString, String.toList_append, isUnbroken_append] at hfield ⊢
  rw [hpath, hfield]
  simp [hmarks, and_assoc]

theorem isUnbroken_trail :
    IsUnbroken problem.trail.toList ↔ IsUnbroken problem.hint.toList := by
  have hmarks : IsUnbroken [' ', '(', ')'] := by decide
  simp only [isUnbroken_cons] at hmarks
  unfold trail
  split
  · rename_i hnone
    rw [hnone]
  · simp only [toString, String.toList_append, isUnbroken_append]
    simp [hmarks]

/-- A line ends within the line of the problem. -/
def isBroken (problem : Problem) : Bool :=
  problem.line.toList.any endsLine

theorem isBroken_eq_false : problem.isBroken = false ↔ IsUnbroken problem.line.toList := by
  simp [isBroken, IsUnbroken]

theorem isUnbroken_line :
    IsUnbroken problem.line.toList ↔
      IsUnbroken problem.code.toList ∧ IsUnbroken problem.path.toList
        ∧ IsUnbroken problem.field.toList ∧ IsUnbroken problem.message.toList
        ∧ IsUnbroken problem.hint.toList := by
  simp only [line_eq, String.toList_append, isUnbroken_append, isUnbroken_lead, isUnbroken_trail,
    and_assoc]

/-- Of a problem of a fixed kind only the path and the message can break the line. -/
theorem isUnbroken_line_mk {code field hint : List Char} {message : String}
    (hkind : IsUnbroken (code ++ field ++ hint)) :
    IsUnbroken (Problem.mk (String.ofList code) path (String.ofList field) message
        (String.ofList hint)).line.toList ↔
      IsUnbroken path.toList ∧ IsUnbroken message.toList := by
  simp only [isUnbroken_append] at hkind
  obtain ⟨⟨hcode, hfield⟩, hhint⟩ := hkind
  rw [isUnbroken_line]
  exact ⟨fun h => ⟨h.2.1, h.2.2.2.1⟩, fun h => ⟨isUnbroken_ofList hcode, h.1,
    isUnbroken_ofList hfield, h.2, isUnbroken_ofList hhint⟩⟩

theorem isUnbroken_conflict : IsUnbroken conflict.line.toList :=
  (isUnbroken_line_mk (by decide)).mpr ⟨isUnbroken_nil, isUnbroken_ofList (by decide)⟩

theorem isUnbroken_missingFile :
    IsUnbroken (missingFile path).line.toList ↔ IsUnbroken path.toList := by
  refine (isUnbroken_line_mk (by decide)).trans ⟨And.left, fun hpath => ⟨hpath, ?_⟩⟩
  simp only [toString, String.toList_append, isUnbroken_append]
  exact ⟨isUnbroken_ofList (by decide), hpath⟩

theorem isUnbroken_missingDirectory :
    IsUnbroken (missingDirectory path).line.toList ↔ IsUnbroken path.toList := by
  refine (isUnbroken_line_mk (by decide)).trans ⟨And.left, fun hpath => ⟨hpath, ?_⟩⟩
  simp only [toString, String.toList_append, isUnbroken_append]
  exact ⟨isUnbroken_ofList (by decide), hpath⟩

theorem isUnbroken_extension (hpath : IsUnbroken path.toList) (hname : IsUnbroken name.toList) :
    IsUnbroken (extension path name).line.toList := by
  refine (isUnbroken_line_mk (by decide)).mpr ⟨hpath, ?_⟩
  simp only [toString, String.toList_append, isUnbroken_append]
  exact ⟨isUnbroken_ofList (by decide), hname⟩

theorem isUnbroken_unreadable (hpath : IsUnbroken path.toList) :
    IsUnbroken (unreadable path).line.toList := by
  have hquoted : IsUnbroken (quoteString path).toList := by
    rw [quoteString, String.toList_ofList]
    exact isUnbroken_quote _
  have hreading : IsUnbroken (directoryReading path).toList := by
    show IsUnbroken ("[Errno 21] Is a directory: " ++ quoteString path).toList
    rw [String.toList_append, isUnbroken_append]
    exact ⟨isUnbroken_ofList (by decide), hquoted⟩
  refine (isUnbroken_line_mk (by decide)).mpr ⟨hpath, ?_⟩
  simp only [toString, String.toList_append, isUnbroken_append]
  exact ⟨isUnbroken_ofList (by decide), hreading⟩

/-- Whatever the parser tells. -/
theorem isUnbroken_unparsable (hpath : IsUnbroken path.toList) (told : String) :
    IsUnbroken (unparsable path told).line.toList := by
  refine (isUnbroken_line_mk (by decide)).mpr ⟨hpath, ?_⟩
  simp only [toString, String.toList_append, isUnbroken_append]
  exact ⟨isUnbroken_ofList (by decide), isUnbroken_ofList (isUnbroken_collapse told.toList)⟩

theorem isUnbroken_notMapping (hpath : IsUnbroken path.toList) (kind : Kind) :
    IsUnbroken (notMapping path kind).line.toList := by
  refine (isUnbroken_line_mk (by decide)).mpr ⟨hpath, ?_⟩
  simp only [toString, String.toList_append, isUnbroken_append]
  exact ⟨isUnbroken_ofList (by decide), Violation.isUnbroken_kind kind⟩

theorem isUnbroken_violation (hpath : IsUnbroken path.toList) {violation : Violation}
    (hmessage : IsUnbroken violation.message.toList) :
    IsUnbroken (Problem.violation path violation).line.toList :=
  (isUnbroken_line_mk (by decide)).mpr ⟨hpath, hmessage⟩

theorem isUnbroken_duplicate (hpath : IsUnbroken path.toList) (hfirst : IsUnbroken first.toList) :
    IsUnbroken (duplicate path id first).line.toList ↔ IsUnbroken id.toList := by
  refine (isUnbroken_line_mk (by decide)).trans ?_
  simp only [toString, String.toList_append, isUnbroken_append]
  exact ⟨fun h => h.2.1.1.1.2, fun hid =>
    ⟨hpath, ⟨⟨⟨isUnbroken_ofList (by decide), hid⟩, isUnbroken_ofList (by decide)⟩, hfirst⟩,
      isUnbroken_ofList (by decide)⟩⟩

/-- An id with a line end behind it sets the rest of the message on a line of its own. -/
theorem exists_line_duplicate (hpath : IsUnbroken path.toList) (hfirst : IsUnbroken first.toList)
    {numeral : List Char} (hnumeral : IsUnbroken numeral) (hid : id.toList = numeral ++ ['\n']) :
    ∃ start rest, (duplicate path id first).line.toList = start ++ '\n' :: rest
      ∧ IsUnbroken start ∧ start ≠ [] ∧ IsUnbroken rest ∧ rest ≠ [] := by
  have hlead : IsUnbroken (duplicate path id first).lead.toList := by
    rw [isUnbroken_lead]
    simp only [duplicate]
    exact ⟨isUnbroken_ofList (by decide), hpath, isUnbroken_ofList (by decide)⟩
  have htrail : IsUnbroken (duplicate path id first).trail.toList := by
    rw [isUnbroken_trail]
    simp only [duplicate]
    exact isUnbroken_ofList (by decide)
  refine ⟨(duplicate path id first).lead.toList ++ "duplicate rule_id \x60".toList ++ numeral,
    "\x60 (first defined in ".toList ++ first.toList ++ ")".toList
      ++ (duplicate path id first).trail.toList, ?_, ?_, ?_, ?_, ?_⟩
  · rw [line_eq]
    simp [duplicate, toString, hid]
  · rw [isUnbroken_append, isUnbroken_append]
    exact ⟨⟨hlead, isUnbroken_ofList (by decide)⟩, hnumeral⟩
  · simp
  · rw [isUnbroken_append, isUnbroken_append, isUnbroken_append]
    exact ⟨⟨⟨isUnbroken_ofList (by decide), hfirst⟩, isUnbroken_ofList (by decide)⟩, htrail⟩
  · simp

theorem lines_report (problems : List Problem) :
    lines (report problems) =
      (linesFrom [] (['\n'].intercalate ((sorted problems).map (·.line.toList)))).map
        String.ofList := by
  rw [lines, report, String.toList_intercalate, List.map_map]
  rfl

/-- A report has the lines of its problems, in their order, exactly if none of them is broken. -/
theorem lines_report_eq_iff (problems : List Problem) :
    lines (report problems) = (sorted problems).map line ↔
      ∀ problem ∈ problems, problem.isBroken = false := by
  have hsome : ∀ piece ∈ (sorted problems).map (·.line.toList), piece ≠ [] :=
    List.forall_mem_map.mpr fun _ _ => line_ne_nil
  have hlines : (sorted problems).map line =
      ((sorted problems).map (·.line.toList)).map String.ofList := by
    simp
  rw [lines_report, hlines, List.map_inj_right fun _ _ => String.ofList_injective,
    linesFrom_intercalate_eq_iff hsome, List.forall_mem_map]
  simp only [mem_sorted, isBroken_eq_false]

/-- Where each broken problem takes two lines, the report has one line more for each. -/
theorem length_lines_report (hended : ∀ problem ∈ problems, IsEnded problem.line.toList)
    (hbroken : ∀ problem ∈ problems, problem.isBroken = true →
      (linesFrom [] problem.line.toList).length = 2) :
    (lines (report problems)).length = problems.length + problems.countP isBroken := by
  have hcount : ∀ told : List Problem, (∀ problem ∈ told, problem ∈ problems) →
      (told.flatMap fun problem => linesFrom [] problem.line.toList).length =
        told.length + told.countP isBroken := by
    intro told htold
    induction told with
    | nil => rfl
    | cons problem rest ih =>
        obtain ⟨hmem, hrest⟩ := List.forall_mem_cons.mp htold
        rw [List.flatMap_cons, List.length_append, ih hrest, List.length_cons]
        cases hproblem : problem.isBroken with
        | true =>
            rw [hbroken problem hmem hproblem, List.countP_cons_of_pos hproblem]
            omega
        | false =>
            rw [linesFrom_of_isUnbroken (isBroken_eq_false.mp hproblem) line_ne_nil,
              List.countP_cons_of_neg (by simp [hproblem]), List.length_singleton]
            omega
  have hpieces : ∀ piece ∈ (sorted problems).map (·.line.toList), IsEnded piece :=
    List.forall_mem_map.mpr fun problem hproblem => hended problem (mem_sorted.mp hproblem)
  rw [lines_report, linesFrom_intercalate hpieces, List.flatMap_map, List.length_map,
    hcount _ fun problem hproblem => mem_sorted.mp hproblem, (perm_sorted problems).length_eq,
    (perm_sorted problems).countP_eq]

end Problem

end SutraArbiter
