import SutraArbiter.Proofs.Json.Canonical
import SutraArbiter.Proofs.Pack.Fingerprint
import SutraArbiter.Proofs.Registry.History
import SutraArbiter.Proofs.Rule.Reordering

namespace SutraArbiter

/-- Lists in order that hold the same tags are the same. -/
theorem Tags.sorted_eq_sorted {given others : List String}
    (h : ∀ tag, tag ∈ sorted given ↔ tag ∈ sorted others) : sorted given = sorted others :=
  List.Perm.eq_of_pairwise (fun _ _ _ _ hst hts => absurd hts (String.lt_asymm hst))
    (pairwise_sorted given) (pairwise_sorted others)
    ((List.perm_ext_iff_of_nodup (nodup_sorted given) (nodup_sorted others)).mpr h)

/-- The two rules have one id, one tier and the same tags, and their definitions are the same
but for the order of members. -/
structure Entry.Agrees (x y : Entry) : Prop where
  id : x.id = y.id
  tier : x.tier = y.tier
  tags : ∀ tag, tag ∈ x.tags ↔ tag ∈ y.tags
  definition : Datum.Reorders (.map x.definition) (.map y.definition)

/-- The rule was read from its definition, which is a value. -/
structure Entry.IsCompiled (P : Double → Prop) (entry : Entry) : Prop where
  read : ∃ source, Rule.read source (.map entry.definition) = .ok entry.toRule
  value : Json.IsValue P (.map entry.definition)

namespace Entry

open Registry

variable {P : Double → Prop} {entry x y : Entry}

theorem IsCompiled.description_eq (h : entry.IsCompiled P) : description entry = .map [
    (.text "rule_id", .text entry.id),
    (.text "priority_class", .text entry.tier.name),
    (.text "scope_tags", .list (entry.tags.map .text)),
    (.text "declaration_index", .int entry.index),
    (.text "definition", .map entry.definition)] := by
  have hsome : entry.definition.isEmpty = false := by
    obtain ⟨source, hread⟩ := h.read
    have hid := Rule.getD_id_of_read hread
    rw [← Bool.not_eq_true, List.isEmpty_iff]
    intro hnil
    rw [hnil] at hid
    cases hid
  rw [description, hsome]
  rfl

theorem IsCompiled.exists_given (h : entry.IsCompiled P) :
    ∃ given, entry.tags = Tags.sorted given := by
  obtain ⟨source, hread⟩ := h.read
  obtain ⟨_, parts, -, -, -, hrule⟩ := Rule.read_eq_ok.mp hread
  exact ⟨parts.tags.map Text.trimString, congrArg Rule.tags hrule⟩

theorem IsCompiled.isValue_description (h : entry.IsCompiled P)
    (hplace : Number.hasOverlongText entry.index = false) :
    Json.IsValue P (description entry) := by
  rw [h.description_eq]
  refine .map (by simp [Entries.keys]) ?_ ?_
  · simp only [List.forall_mem_cons]
    decide
  · simp only [List.forall_mem_cons]
    exact ⟨.text _, .text _, .list (List.forall_mem_map.mpr fun tag _ => .text tag),
      .scalar hplace, h.value, List.forall_mem_nil _⟩

theorem reorders_description_iff (hx : x.IsCompiled P) (hy : y.IsCompiled P)
    (hplace : x.index = y.index) :
    Datum.Reorders (description x) (description y) ↔ x.Agrees y := by
  obtain ⟨given, htags⟩ := hx.exists_given
  obtain ⟨otherGiven, hotherTags⟩ := hy.exists_given
  rw [hx.description_eq, hy.description_eq]
  constructor
  · intro h
    have hgetD := fun name => h.getD (by simp [Entries.keys]) name .null
    have hid : Datum.Reorders (.text x.id) (.text y.id) := hgetD "rule_id"
    have htier : Datum.Reorders (.text x.tier.name) (.text y.tier.name) := hgetD "priority_class"
    have hscope : Datum.Reorders (.list (x.tags.map .text)) (.list (y.tags.map .text)) :=
      hgetD "scope_tags"
    have hname : y.tier.name = x.tier.name := Datum.text.inj htier.eq_of_text
    have hsame : y.tags.map Datum.text = x.tags.map Datum.text :=
      Datum.list.inj (hscope.eq_of_texts (List.forall_mem_map.mpr fun _ _ => rfl))
    refine ⟨(Datum.text.inj hid.eq_of_text).symm, ?_, fun tag => ?_, hgetD "definition"⟩
    · have hread := Tier.ofName?_name y.tier
      rw [hname, Tier.ofName?_name] at hread
      exact Option.some.inj hread
    · rw [List.map_injective_iff.mpr (fun _ _ => Datum.text.inj) hsame]
  · rintro ⟨hid, htier, hmem, hdefinition⟩
    have hsame : x.tags = y.tags := by
      rw [htags, hotherTags] at hmem ⊢
      exact Tags.sorted_eq_sorted hmem
    rw [hid, htier, hsame, hplace]
    exact .of_members (.cons (.refl _) (.cons (.refl _) (.cons (.refl _) (.cons (.refl _)
      (.cons ⟨rfl, hdefinition⟩ .nil)))))

end Entry

namespace Registry

variable {P : Double → Prop} {registry other : Registry} {text otherText : List Char}

/-- Rules that were read from their definitions, in the places in which they were entered. -/
structure IsCompiled (P : Double → Prop) (registry : Registry) : Prop where
  sound : registry.Sound
  entries : ∀ entry ∈ registry.entries, entry.IsCompiled P

/-- Rules that are entered as they were read stay as they were read. -/
theorem isCompiled_afterAll {operations : List Operation}
    (h : ∀ submission ∈ operations.filterMap Operation.submission?, ∃ source d rule,
      Rule.read source d = .ok rule ∧ Json.IsValue P d ∧ submission = .draft rule.draft) :
    (empty.afterAll operations).IsCompiled P where
  sound := sound_afterAll operations
  entries entry hentry := by
    have hkeeps := (keeps_empty (operations.filterMap Operation.submission?)).afterAll
      fun operation hoperation submission hsubmission =>
        List.mem_filterMap.mpr ⟨operation, hoperation, hsubmission⟩
    obtain ⟨submission, hsubmission, hrule⟩ := (hkeeps.formal entry hentry).submitted
    obtain ⟨source, d, rule, hread, hvalue, rfl⟩ := h submission hsubmission
    have hself : rule = entry.toRule :=
      Except.ok.inj ((Rule.toRule_draft_of_read hread).symm.trans hrule)
    obtain rfl := Rule.definition_of_read hread
    rw [hself] at hread hvalue
    exact ⟨⟨source, hread⟩, hvalue⟩

/-- A canonical text is only missing where there are more rules than places with a text. -/
theorem exists_canonicalText?_iff (h : registry.IsCompiled P) :
    (∃ text, registry.canonicalText? = .ok text) ↔
      registry.entries.length ≤ Nat.pow 10 Number.digitLimit := by
  have hdigest : (∃ text, registry.canonicalText? = .ok text) ↔
      ∃ digest, registry.fingerprint? = .ok digest := exists_bind_pure_iff.symm
  rw [hdigest, exists_fingerprint?_iff h.sound]
  exact ⟨fun hwritable => hwritable.places,
    fun hplaces => ⟨fun entry hentry => (h.entries entry hentry).value.isWritable, hplaces⟩⟩

theorem isValue_descriptions (h : registry.IsCompiled P)
    (hplaces : registry.entries.length ≤ Nat.pow 10 Number.digitLimit) :
    Json.IsValue P (.list (registry.entries.map description)) := by
  have htexts := (hasText_places_iff h.sound).mpr hplaces
  exact .list (List.forall_mem_map.mpr fun entry hentry =>
    (h.entries entry hentry).isValue_description (htexts entry hentry))

theorem isTextOf_canonicalText? (h : registry.IsCompiled P)
    (htext : registry.canonicalText? = .ok text) :
    Json.IsTextOf P (.list (registry.entries.map description)) text where
  value := isValue_descriptions h ((exists_canonicalText?_iff h).mp ⟨_, htext⟩)
  text := htext

/-- Entries in the same places have descriptions that agree exactly if they agree
themselves. -/
theorem forall₂_description_iff {xs ys : List Entry} (hxs : ∀ x ∈ xs, x.IsCompiled P)
    (hys : ∀ y ∈ ys, y.IsCompiled P) (hplaces : xs.map Entry.index = ys.map Entry.index) :
    List.Forall₂ (fun x y => Datum.Reorders (description x) (description y)) xs ys ↔
      List.Forall₂ Entry.Agrees xs ys := by
  induction xs generalizing ys with
  | nil => simp
  | cons x xs ih =>
      cases ys with
      | nil => simp
      | cons y ys =>
          obtain ⟨hx, hxs⟩ := List.forall_mem_cons.mp hxs
          obtain ⟨hy, hys⟩ := List.forall_mem_cons.mp hys
          obtain ⟨hplace, hplaces⟩ := List.cons.inj hplaces
          rw [List.forall₂_cons, List.forall₂_cons, ih hxs hys hplaces,
            Entry.reorders_description_iff hx hy hplace]

theorem reorders_descriptions_iff (h : registry.IsCompiled P) (hother : other.IsCompiled P) :
    Datum.Reorders (.list (registry.entries.map description))
        (.list (other.entries.map description)) ↔
      List.Forall₂ Entry.Agrees registry.entries other.entries := by
  have hplaces : registry.entries.length = other.entries.length →
      registry.entries.map Entry.index = other.entries.map Entry.index := by
    intro hlength
    rw [h.sound.places, hother.sound.places, hlength]
  rw [Datum.reorders_lists_iff, List.forall₂_map_left_iff, List.forall₂_map_right_iff]
  constructor
  · intro hall
    exact (forall₂_description_iff h.entries hother.entries (hplaces hall.length_eq)).mp hall
  · intro hall
    exact (forall₂_description_iff h.entries hother.entries (hplaces hall.length_eq)).mpr hall

/-- Two registries have one canonical text exactly if they hold as many rules and the rules
agree one by one. -/
theorem text_eq_iff_agrees (hfloats : Double.AreToldApart P) (h : registry.IsCompiled P)
    (hother : other.IsCompiled P) (htext : registry.canonicalText? = .ok text)
    (hotherText : other.canonicalText? = .ok otherText) :
    text = otherText ↔ List.Forall₂ Entry.Agrees registry.entries other.entries := by
  rw [← reorders_descriptions_iff h hother]
  exact Json.text_eq_iff_reorders hfloats (isTextOf_canonicalText? h htext)
    (isTextOf_canonicalText? hother hotherText)

theorem fingerprint?_of_agrees (h : registry.IsCompiled P) (hother : other.IsCompiled P)
    (hagrees : List.Forall₂ Entry.Agrees registry.entries other.entries) {digest : String}
    (hdigest : registry.fingerprint? = .ok digest) :
    other.canonicalText? = registry.canonicalText? ∧ other.fingerprint? = .ok digest := by
  obtain ⟨text, htext, -⟩ := bind_eq_ok.mp hdigest
  have hplaces := (exists_canonicalText?_iff h).mp ⟨text, htext⟩
  have hvalue := isValue_descriptions h hplaces
  rw [hagrees.length_eq] at hplaces
  have hsame : other.canonicalText? = registry.canonicalText? :=
    (Json.keepsText_of_isValue hvalue (isValue_descriptions hother hplaces)
      ((reorders_descriptions_iff h hother).mpr hagrees)).symm
  refine ⟨hsame, ?_⟩
  rw [fingerprint?, hsame]
  exact hdigest

theorem forall₂_agrees_of_reorders {xs ys : List Entry} (hxs : ∀ x ∈ xs, x.IsCompiled P)
    (hys : ∀ y ∈ ys, y.IsCompiled P) (h : List.Forall₂
      (fun x y => Datum.Reorders (.map x.definition) (.map y.definition)) xs ys) :
    List.Forall₂ Entry.Agrees xs ys := by
  induction h with
  | nil => exact .nil
  | cons hxy _ ih =>
      obtain ⟨hx, hxs⟩ := List.forall_mem_cons.mp hxs
      obtain ⟨hy, hys⟩ := List.forall_mem_cons.mp hys
      obtain ⟨source, hread⟩ := hx.read
      obtain ⟨otherSource, hother⟩ := hy.read
      obtain ⟨hid, htier, htags⟩ :=
        Rule.eq_of_reorders hread hother (Json.isValue_map_iff.mp hy.value).1 hxy
      exact .cons ⟨hid, htier, fun tag => by rw [htags], hxy⟩ (ih hxs hys)

end Registry

end SutraArbiter
