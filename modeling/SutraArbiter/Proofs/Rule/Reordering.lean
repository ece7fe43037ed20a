import SutraArbiter.Proofs.Json.Value
import SutraArbiter.Proofs.Rule.Compilation

namespace SutraArbiter

namespace Form

open Datum Json

variable {P : Double → Prop} {d e : Datum} {slots : List Slot} {xs ys : Entries}

/-- Data of this form keep it when members change places. -/
def IsOrderFree (P : Double → Prop) (Holds : Datum → Prop) : Prop :=
  ∀ {d e : Datum}, Holds d → Reorders d e → IsValue P e → Holds e

theorem isOrderFree_of_eq {Holds : Datum → Prop}
    (h : ∀ {d e : Datum}, Holds d → Reorders d e → e = d) : IsOrderFree P Holds := by
  intro d e hd horder _
  rwa [h hd horder]

theorem isOrderFree_of_isLeaf {Holds : Datum → Prop} (h : ∀ {d : Datum}, Holds d → d.IsLeaf) :
    IsOrderFree P Holds :=
  isOrderFree_of_eq fun hd horder => horder.eq_of_isLeaf (h hd)

theorem isOrderFree_isWording : IsOrderFree P IsWording :=
  isOrderFree_of_isLeaf fun {d} hd => by cases d <;> trivial

theorem isOrderFree_isBoolean : IsOrderFree P IsBoolean :=
  isOrderFree_of_isLeaf fun {d} hd => by cases d <;> trivial

theorem isOrderFree_isPositive : IsOrderFree P IsPositive :=
  isOrderFree_of_isLeaf fun {d} hd => by cases d <;> trivial

theorem isOrderFree_isShare : IsOrderFree P IsShare :=
  isOrderFree_of_isLeaf fun {d} hd => by cases d <;> trivial

theorem isOrderFree_isNumeral : IsOrderFree P IsNumeral :=
  isOrderFree_of_isLeaf fun {d} hd => by cases d <;> trivial

theorem IsTier.isLeaf (h : IsTier d) : d.IsLeaf := by
  cases d <;> trivial

theorem isOrderFree_is (value : Datum) (hvalue : value.IsLeaf) :
    IsOrderFree P fun given => given = value := by
  rintro _ e rfl horder -
  exact horder.eq_of_isLeaf hvalue

theorem eq_of_wordings {items : List Datum} (hwordings : ∀ item ∈ items, IsWording item)
    (h : Reorders (.list items) e) : e = .list items := by
  refine h.eq_of_texts fun item hitem => ?_
  obtain ⟨wording, rfl⟩ := (hwordings item hitem).exists_text
  rfl

theorem IsTags.eq_of_reorders (h : IsTags d) (horder : Reorders d e) : e = d := by
  cases d with
  | list tags => exact eq_of_wordings h.2 horder
  | _ => exact h.elim

theorem IsWords.eq_of_reorders (h : IsWords d) (horder : Reorders d e) : e = d := by
  cases d with
  | list words => exact eq_of_wordings h horder
  | _ => exact h.elim

/-- Under each key of the other mapping there is such a value of this one. -/
theorem exists_value (h : Reorders (.map xs) (.map ys)) {y : Datum × Datum} (hy : y ∈ ys) :
    ∃ value, (y.1, value) ∈ xs ∧ Reorders value y.2 := by
  obtain ⟨⟨key, value⟩, hx, rfl, hvalue⟩ := h.exists_member hy
  exact ⟨value, hx, hvalue⟩

theorem isOrderFree_isMap : IsOrderFree P IsMap := by
  intro d e hd horder _
  cases d with
  | map entries =>
      obtain ⟨ys, zs, rfl, -⟩ := reorders_map_iff.mp horder
      trivial
  | _ => exact hd.elim

theorem isOrderFree_isFilters : IsOrderFree P IsFilters := by
  intro d e hd horder _
  cases d with
  | map filters =>
      obtain ⟨ys, zs, rfl, -⟩ := reorders_map_iff.mp horder
      exact horder.ne_nil hd
  | _ => exact hd.elim

theorem isOrderFree_isLexicon : IsOrderFree P IsLexicon := by
  intro d e hd horder _
  cases d with
  | map table =>
      obtain ⟨ys, zs, rfl, -⟩ := reorders_map_iff.mp horder
      refine ⟨horder.ne_nil hd.1, fun entry hentry => ?_⟩
      obtain ⟨value, hvalue, hsame⟩ := exists_value horder hentry
      obtain ⟨hshelf, hwords⟩ := hd.2 _ hvalue
      rw [hwords.eq_of_reorders hsame]
      exact ⟨hshelf, hwords⟩
  | _ => exact hd.elim

theorem isOrderFree_isPairing : IsOrderFree P IsPairing := by
  intro d e hd horder he
  cases d with
  | map sides =>
      obtain ⟨retain, drop, hsides, hretain, hdrop⟩ := hd
      obtain ⟨ys, zs, rfl, hmembers, hplaces⟩ := reorders_map_iff.mp horder
      obtain ⟨others, hothers, hperm⟩ := List.perm_comp_forall₂ hsides.symm hmembers
      have hys := (isValue_map_iff.mp he).2.2
      -- The two sides, in the order in which a pairing is written down.
      match others, hothers with
      | [(_, first), (_, second)],
          .cons ⟨rfl, hfirst⟩ (.cons ⟨rfl, hsecond⟩ .nil) =>
          have hplaces := (hperm.trans hplaces).symm
          have hvalues := fun entry hentry => hys entry (hplaces.mem_iff.mpr hentry)
          exact ⟨first, second, hplaces,
            isOrderFree_isLexicon hretain hfirst (hvalues _ List.mem_cons_self),
            isOrderFree_isLexicon hdrop hsecond (hvalues _ (.tail _ (.head _)))⟩
  | _ => exact hd.elim

theorem isOrderFree_isPairs : IsOrderFree P IsPairs := by
  intro d e hd horder he
  cases d with
  | list pairs =>
      obtain ⟨others, rfl, hpairs⟩ := reorders_list_iff.mp horder
      have hvalues := isValue_list_iff.mp he
      obtain ⟨hsome, hproper⟩ := hd
      refine ⟨fun hnone => hsome ?_, fun other hother => ?_⟩
      · rw [hnone] at hpairs
        exact List.forall₂_nil_right_iff.mp hpairs
      · obtain ⟨pair, hpair, hsame⟩ := exists_of_forall₂ hpairs.flip other hother
        exact isOrderFree_isPairing (hproper pair hpair) hsame (hvalues other hother)
  | _ => exact hd.elim

/-- A mapping is read by its keys alone. -/
theorem Follows.of_reorders (hslots : ∀ slot ∈ slots, IsOrderFree P slot.Holds)
    (h : Follows slots xs) (horder : Reorders (.map xs) (.map ys)) (hys : IsValue P (.map ys)) :
    Follows slots ys where
  known := fun key hkey => h.known key (horder.keys_perm.mem_iff.mpr hkey)
  fits := fun slot hslot => by
    obtain ⟨hdistinct, -, hvalues⟩ := isValue_map_iff.mp hys
    have hget := horder.get? hdistinct slot.name
    have hfits := h.fits slot hslot
    unfold Slot.Fits at hfits ⊢
    generalize hfound : ys.get? slot.name = found at hget ⊢
    generalize xs.get? slot.name = given at hget hfits
    cases hget with
    | none => exact hfits
    | some hvalue =>
        exact hslots slot hslot hfits hvalue (hvalues _ (Entries.mem_of_get? hfound))

theorem isOrderFree_isRecord (hslots : ∀ slot ∈ slots, IsOrderFree P slot.Holds) :
    IsOrderFree P (IsRecord slots) := by
  intro d e hd horder he
  cases d with
  | map entries =>
      obtain ⟨ys, zs, rfl, -⟩ := reorders_map_iff.mp horder
      exact hd.of_reorders hslots horder he
  | _ => exact hd.elim

theorem isOrderFree_metadataSlots : ∀ slot ∈ metadataSlots, IsOrderFree P slot.Holds := by
  simp only [metadataSlots, List.forall_mem_cons]
  exact ⟨isOrderFree_isWording, isOrderFree_isWording, isOrderFree_isWording,
    isOrderFree_isWording, isOrderFree_isShare, List.forall_mem_nil _⟩

theorem isOrderFree_contextSlots : ∀ slot ∈ contextSlots, IsOrderFree P slot.Holds := by
  simp only [contextSlots, List.forall_mem_cons]
  exact ⟨isOrderFree_isMap, isOrderFree_isMap, List.forall_mem_nil _⟩

theorem isOrderFree_ownSlots (strategy : Strategy) :
    ∀ slot ∈ ownSlots strategy, IsOrderFree P slot.Holds := by
  cases strategy <;> simp only [ownSlots, List.forall_mem_cons]
  case identicalForms => exact ⟨isOrderFree_isWording, List.forall_mem_nil _⟩
  case lexicalRetention =>
    exact ⟨isOrderFree_isPairs, isOrderFree_isWording, isOrderFree_isShare,
      List.forall_mem_nil _⟩
  case seriesRetention =>
    exact ⟨isOrderFree_isLexicon, isOrderFree_isWording, List.forall_mem_nil _⟩
  case attributePairing =>
    exact ⟨isOrderFree_isFilters, isOrderFree_isFilters, List.forall_mem_nil _⟩
  case attributeSelection => exact ⟨isOrderFree_isFilters, List.forall_mem_nil _⟩

theorem isOrderFree_isMatch : IsOrderFree P IsMatch := by
  intro d e hd horder he
  cases d with
  | map entries =>
      obtain ⟨ys, zs, rfl, -⟩ := reorders_map_iff.mp horder
      obtain ⟨strategy, hmatches⟩ := hd
      have hslots : ∀ slot ∈ matchSlots strategy, IsOrderFree P slot.Holds :=
        List.forall_mem_cons.mpr ⟨isOrderFree_is (.text _) trivial, List.forall_mem_cons.mpr
          ⟨isOrderFree_isPositive, isOrderFree_ownSlots strategy⟩⟩
      have hhas := horder.has_eq (isValue_map_iff.mp he).1
      refine ⟨strategy, hmatches.slots.of_reorders hslots horder he, ?_, ?_⟩
      · rw [← hhas, ← hhas]
        exact hmatches.seriesOrFlag
      · rw [← hhas, ← hhas]
        exact hmatches.flagged
  | _ => exact hd.elim

theorem isOrderFree_actionSlots : ∀ slot ∈ actionSlots, IsOrderFree P slot.Holds := by
  simp only [actionSlots, List.forall_mem_cons]
  exact ⟨isOrderFree_is (.text _) trivial, isOrderFree_isBoolean, isOrderFree_isWording,
    isOrderFree_isWording, isOrderFree_isWording, List.forall_mem_nil _⟩

/-- A rule may have its members in any order, at every depth. -/
theorem isOrderFree_isRule : IsOrderFree P IsRule := by
  refine isOrderFree_isRecord ?_
  simp only [ruleSlots, List.forall_mem_cons]
  exact ⟨isOrderFree_isNumeral, isOrderFree_is (.int 1) trivial,
    isOrderFree_of_isLeaf IsTier.isLeaf, isOrderFree_of_eq IsTags.eq_of_reorders,
    isOrderFree_isRecord isOrderFree_metadataSlots,
    isOrderFree_isRecord isOrderFree_contextSlots, isOrderFree_isMatch,
    isOrderFree_isRecord isOrderFree_actionSlots, List.forall_mem_nil _⟩

end Form

namespace Rule

variable {P : Double → Prop} {d e : Datum} {source otherSource : String} {rule other : Rule}

/-- Definitions that differ in the order of members alone have the same parts in one place. -/
theorem IsMadeOf.eq_of_reorders {entries others : Entries} {parts otherParts : Parts}
    (hparts : IsMadeOf entries parts) (hother : IsMadeOf others otherParts)
    (hdistinct : others.keys.Nodup) (h : Datum.Reorders (.map entries) (.map others)) :
    parts.id = otherParts.id ∧ parts.tier = otherParts.tier ∧ parts.tags = otherParts.tags := by
  have hsame : ∀ {name : String} {value other : Datum}, entries.get? name = some value →
      others.get? name = some other → Datum.Reorders value other := by
    intro name value other hvalue hother
    have hget := h.get? hdistinct name
    rw [hvalue, hother] at hget
    cases hget with
    | some horder => exact horder
  obtain ⟨spelling, hspelling, htier⟩ := hparts.tier
  obtain ⟨otherSpelling, hotherSpelling, hotherTier⟩ := hother.tier
  have hid := (hsame hparts.id hother.id).eq_of_text
  have hspelled := (hsame hspelling hotherSpelling).eq_of_text
  have htags := hparts.tagged.eq_of_reorders (hsame hparts.tags hother.tags)
  refine ⟨(Datum.text.inj hid).symm, ?_, ?_⟩
  · rw [Datum.text.inj hspelled, htier] at hotherTier
    have hname := Tier.ofName?_name parts.tier
    rw [hotherTier, Tier.ofName?_name] at hname
    exact (Option.some.inj hname).symm
  · have htexts := Datum.list.inj htags
    exact (List.map_injective_iff.mpr (fun _ _ => Datum.text.inj) htexts).symm

/-- Rules whose definitions differ in the order of members alone stand in one place. -/
theorem eq_of_reorders (hread : read source (.map rule.definition) = .ok rule)
    (hother : read otherSource (.map other.definition) = .ok other)
    (hdistinct : (Entries.keys other.definition).Nodup)
    (h : Datum.Reorders (.map rule.definition) (.map other.definition)) :
    rule.id = other.id ∧ rule.tier = other.tier ∧ rule.tags = other.tags := by
  obtain ⟨entries, parts, hentries, -, hparts, hrule⟩ := read_eq_ok.mp hread
  obtain ⟨others, otherParts, hothers, -, hotherParts, hotherRule⟩ := read_eq_ok.mp hother
  rw [hentries, hothers] at h
  rw [Datum.map.inj hothers] at hdistinct
  obtain ⟨hid, htier, htags⟩ := hparts.eq_of_reorders hotherParts hdistinct h
  rw [hrule, hotherRule]
  exact ⟨hid, htier, by simp only [Parts.rule, htags]⟩

/-- A definition whose members change places is still read, and as a rule in the same place. -/
theorem exists_read_of_reorders (hread : read source (.map rule.definition) = .ok rule)
    (hvalue : Json.IsValue P (.map rule.definition))
    (h : Datum.Reorders (.map rule.definition) e) (otherSource : String) :
    ∃ other, read otherSource e = .ok other ∧ e = .map other.definition
      ∧ rule.id = other.id ∧ rule.tier = other.tier ∧ rule.tags = other.tags := by
  have he := hvalue.of_reorders h
  obtain ⟨entries, parts, hentries, hform, -⟩ := read_eq_ok.mp hread
  have hrule : Form.IsRule e := Form.isOrderFree_isRule (hentries ▸ hform) h he
  obtain ⟨other, hother⟩ := exists_read hrule otherSource
  obtain rfl := definition_of_read hother
  exact ⟨other, hother, rfl, eq_of_reorders hread hother (Json.isValue_map_iff.mp he).1 h⟩

end Rule

end SutraArbiter
