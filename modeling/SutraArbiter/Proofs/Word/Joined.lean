import SutraArbiter.Engine
import SutraArbiter.Proofs.Steps
import SutraArbiter.Proofs.Text.Tokens

namespace SutraArbiter

variable {words : List String} {lead text trail : String}

theorem WordGroup.items_text (raw : String) :
    WordGroup.items (.text raw) =
      .ok ((Text.cut raw.toList).map fun token => .text (String.ofList token)) := by
  rw [WordGroup.items, Text.tokens_eq_cut]

theorem WordGroup.items_joined (hwords : ∀ word ∈ words, Text.IsToken word)
    (hjoined : Text.Joins words text) (hlead : Text.IsMargin lead) (htrail : Text.IsMargin trail) :
    WordGroup.items (.text (lead ++ text ++ trail)) =
      WordGroup.items (Datum.ofStrings words) := by
  have hmargin : ∀ c ∈ lead.toList, Text.isSeparator c = true :=
    fun c hc => Text.isSeparator_eq_true.mpr (hlead c hc)
  have hcut : Text.cut (lead ++ text ++ trail).toList = words.map String.toList := by
    rw [String.append_assoc, String.toList_append, Text.cut_margin_append hmargin,
      hjoined.cut_append hwords htrail]
  rw [items_text, hcut, List.map_map]
  simp [Datum.ofStrings, WordGroup.items, Function.comp_def]

/-- Words that are joined by separators, with separators before and behind them or not,
are read as the list of them is, and every engine gives both the same answer. -/
theorem Engine.resolve_joined (hwords : ∀ word ∈ words, Text.IsToken word)
    (hjoined : Text.Joins words text) (hlead : Text.IsMargin lead) (htrail : Text.IsMargin trail) :
    WordGroup.read (.text (lead ++ text ++ trail)) = WordGroup.read (Datum.ofStrings words)
      ∧ ∀ (engine : Engine) (context scope : Datum),
          engine.resolve (.text (lead ++ text ++ trail)) context scope =
            engine.resolve (Datum.ofStrings words) context scope := by
  have hread : WordGroup.read (.text (lead ++ text ++ trail)) =
      WordGroup.read (Datum.ofStrings words) := by
    unfold WordGroup.read
    rw [WordGroup.items_joined hwords hjoined hlead htrail]
  refine ⟨hread, fun engine context scope => ?_⟩
  unfold Engine.resolve
  rw [hread]

theorem Engine.resolve_joined_elephants :
    (∀ word ∈ ["gajaḥ", "gaja7", "aśvaḥ"], Text.IsToken word)
      ∧ Text.Joins ["gajaḥ", "gaja7", "aśvaḥ"] ("gajaḥ" ++ " + " ++ ("gaja7" ++ "\u3000" ++ "aśvaḥ"))
      ∧ WordGroup.read (.text "\tgajaḥ + gaja7\u3000aśvaḥ++") =
          WordGroup.read (Datum.ofStrings ["gajaḥ", "gaja7", "aśvaḥ"])
      ∧ Engine.resolve ⟨.empty, 64, .confidenceFirst, ["ekasesha"]⟩
            (.text "\tgajaḥ + gaja7\u3000aśvaḥ++") .null .null =
          Engine.resolve ⟨.empty, 64, .confidenceFirst, ["ekasesha"]⟩
            (Datum.ofStrings ["gajaḥ", "gaja7", "aśvaḥ"]) .null .null := by
  have hwords : ∀ word ∈ ["gajaḥ", "gaja7", "aśvaḥ"], Text.IsToken word := by decide
  have hjoined : Text.Joins ["gajaḥ", "gaja7", "aśvaḥ"]
      ("gajaḥ" ++ " + " ++ ("gaja7" ++ "\u3000" ++ "aśvaḥ")) :=
    .next "gajaḥ" (by decide) (by decide) (.next "gaja7" (by decide) (by decide) (.last "aśvaḥ"))
  have hlead : Text.IsMargin "\t" := by decide
  have htrail : Text.IsMargin "++" := by decide
  obtain ⟨hread, hresolve⟩ := Engine.resolve_joined hwords hjoined hlead htrail
  exact ⟨hwords, hjoined, hread, hresolve _ .null .null⟩

end SutraArbiter
