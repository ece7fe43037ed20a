import SutraArbiter.Json.Canonical
import SutraArbiter.Proofs.Json.Token
import SutraArbiter.Proofs.Number.Written

namespace SutraArbiter

/-- No two finite values that satisfy `P` have one text. -/
def Double.AreToldApart (P : Double → Prop) : Prop :=
  ∀ {m n : Bool} {u v : Nat}, P (.finite m u) → P (.finite n v) →
    (Double.finite m u).written = (Double.finite n v).written →
    Double.finite m u = Double.finite n v

namespace Json

open Text

variable {P : Double → Prop} {d e : Datum} {word : List Char}

/-- A scalar that is written as a word; `P` holds of its floating-point values. -/
def IsScalar (P : Double → Prop) : Datum → Prop
  | .null | .bool _ => True
  | .int value => Number.hasOverlongText value = false
  | .float value => P value
  | _ => False

/-- The kind of scalar that a word stands for. -/
def wordKind (word : List Char) : Kind :=
  if word = "null".toList then .null
  else if word = "true".toList ∨ word = "false".toList then .bool
  else if word.all isNumeric ∧ ¬hasPoint word then .int
  else .float

theorem isPlain_of_isNumeric {c : Char} (h : isNumeric c = true) : Token.IsPlain c := by
  have hno : ∀ d ∈ [' ', '\t', '\n', '\r', '[', ']', '\x7b', '\x7d', ',', ':', quotationMark],
      c ≠ d := by
    intro d hd
    have hother : [' ', '\t', '\n', '\r', '[', ']', '\x7b', '\x7d', ',', ':',
        quotationMark].any isNumeric = false := by decide
    rintro rfl
    exact List.any_eq_false.mp hother c hd h
  simp [Token.IsPlain, Token.isBlank, Token.isMark, hno]

theorem wordKind_of_numeric (h : ∀ c ∈ word, isNumeric c = true) :
    wordKind word = if hasPoint word then .float else .int := by
  have hother : ∀ {name : List Char}, name.all isNumeric = false → word ≠ name := by
    rintro name hname rfl
    rw [List.all_eq_true.mpr h] at hname
    cases hname
  have hnull : word ≠ "null".toList := hother (by decide)
  have hbool : ¬(word = "true".toList ∨ word = "false".toList) := by
    rintro (htrue | hfalse)
    · exact hother (by decide) htrue
    · exact hother (by decide) hfalse
  rw [wordKind, if_neg hnull, if_neg hbool]
  cases hasPoint word with
  | true => rw [if_neg fun hint => hint.2 rfl, if_pos rfl]
  | false => rw [if_pos ⟨List.all_eq_true.mpr h, Bool.false_ne_true⟩, if_neg Bool.false_ne_true]

theorem double_finite (negative : Bool) (units : Nat) :
    double (.finite negative units) = (Double.finite negative units).written.toList := rfl

/-- A word that is not empty and goes on to its end, and that stands for a scalar of a kind. -/
structure IsWordOf (word : List Char) (kind : Kind) : Prop where
  ne_nil : word ≠ []
  plain : ∀ c ∈ word, Token.IsPlain c
  wordKind : wordKind word = kind

theorem isWordOf_of_all {kind : Kind} (hne : word ≠ [])
    (hplain : word.all (fun c => decide (Token.IsPlain c)) = true)
    (hkind : wordKind word = kind) : IsWordOf word kind where
  ne_nil := hne
  plain c hc := of_decide_eq_true (List.all_eq_true.mp hplain c hc)
  wordKind := hkind

theorem isWordOf_decimalInt (i : Int) : IsWordOf (decimalInt i) .int where
  ne_nil := decimalInt_ne_nil i
  plain _ hc := isPlain_of_isNumeric (isNumeric_of_mem_decimalInt hc)
  wordKind := by
    rw [wordKind_of_numeric fun _ => isNumeric_of_mem_decimalInt, hasPoint_decimalInt]
    rfl

theorem isWordOf_finite (negative : Bool) (units : Nat) :
    IsWordOf (double (.finite negative units)) .float := by
  obtain ⟨hnumeric, hpoint⟩ := Double.written_finite negative units
  rw [double_finite]
  refine ⟨?_, fun c hc => isPlain_of_isNumeric (hnumeric c hc), ?_⟩
  · intro hnil
    rw [hnil] at hpoint
    cases hpoint
  · rw [wordKind_of_numeric hnumeric, if_pos hpoint]

theorem isWordOf_double (x : Double) : IsWordOf (double x) .float := by
  cases x with
  | nan => exact isWordOf_of_all (by decide) (by decide) (by decide)
  | infinite negative =>
      cases negative <;> exact isWordOf_of_all (by decide) (by decide) (by decide)
  | finite negative units => exact isWordOf_finite negative units

theorem integer?_eq_ok {i : Int} (h : integer? i = .ok word) : word = decimalInt i := by
  unfold integer? at h
  split at h
  · cases h
  · cases h
    rfl

theorem isWordOf_scalar (hd : IsScalar P d) (h : canonical? d = .ok word) :
    IsWordOf word d.kind := by
  cases d with
  | null =>
      cases h
      exact isWordOf_of_all (by decide) (by decide) (by decide)
  | bool value =>
      cases h
      cases value <;> exact isWordOf_of_all (by decide) (by decide) (by decide)
  | int value =>
      rw [integer?_eq_ok h]
      exact isWordOf_decimalInt value
  | float value =>
      cases h
      exact isWordOf_double value
  | text _ | bytes _ | buffer _ | list _ | tuple _ | map _ => exact hd.elim

theorem double_injective (hfloats : Double.AreToldApart P) {x y : Double} (hx : P x) (hy : P y)
    (h : double x = double y) : x = y := by
  have hother : ∀ {name : List Char} {negative units}, name.all isNumeric = false →
      double (.finite negative units) ≠ name := by
    intro name negative units hname hsame
    rw [← hsame, double_finite, List.all_eq_true.mpr (Double.written_finite negative units).1]
      at hname
    cases hname
  cases x with
  | finite m u =>
      cases y with
      | finite n v => exact hfloats hx hy (String.toList_inj.mp h)
      | nan => exact absurd h (hother (by decide))
      | infinite negative => exact absurd h (hother (by cases negative <;> decide))
  | nan =>
      cases y with
      | finite n v => exact absurd h.symm (hother (by decide))
      | nan => rfl
      | infinite negative => cases negative <;> exact absurd h (by decide)
  | infinite negative =>
      cases y with
      | finite n v => exact absurd h.symm (hother (by cases negative <;> decide))
      | nan => cases negative <;> exact absurd h (by decide)
      | infinite other =>
          cases negative <;> cases other <;> first | rfl | exact absurd h (by decide)

/-- Scalars with one word are the same. -/
theorem scalar_injective (hfloats : Double.AreToldApart P) (hd : IsScalar P d) (he : IsScalar P e)
    (hdword : canonical? d = .ok word) (heword : canonical? e = .ok word) : d = e := by
  have hkind : d.kind = e.kind :=
    (isWordOf_scalar hd hdword).wordKind.symm.trans (isWordOf_scalar he heword).wordKind
  cases d with
  | null =>
      cases e with
      | null => rfl
      | _ => cases hkind
  | bool value =>
      cases e with
      | bool other =>
          have hsame := hdword.trans heword.symm
          cases value <;> cases other <;> first | rfl | exact absurd hsame (by decide)
      | _ => cases hkind
  | int value =>
      cases e with
      | int other =>
          rw [decimalInt_injective ((integer?_eq_ok hdword).symm.trans (integer?_eq_ok heword))]
      | _ => cases hkind
  | float value =>
      cases e with
      | float other =>
          have hsame := Except.ok.inj (hdword.trans heword.symm)
          rw [double_injective hfloats hd he hsame]
      | _ => cases hkind
  | text _ | bytes _ | buffer _ | list _ | tuple _ | map _ => exact hd.elim

end Json

end SutraArbiter
