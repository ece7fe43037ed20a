import SutraArbiter.Proofs.Arrangement.Certain
import SutraArbiter.Proofs.Datum
import SutraArbiter.Proofs.Json.Word
import SutraArbiter.Proofs.Json.Writing
import Mathlib.Data.List.Nodup

namespace SutraArbiter

/-- The two are the same but for the order in which the members of maps stand, at every
depth. -/
inductive Datum.Reorders : Datum → Datum → Prop
  | refl (d : Datum) : Reorders d d
  | list {xs ys : List Datum} (items : List.Forall₂ Reorders xs ys) :
      Reorders (.list xs) (.list ys)
  | tuple {xs ys : List Datum} (items : List.Forall₂ Reorders xs ys) :
      Reorders (.tuple xs) (.tuple ys)
  | map {xs zs ys : Entries} (keys : Entries.keys xs = Entries.keys zs)
      (values : List.Forall₂ Reorders (List.map Prod.snd xs) (List.map Prod.snd zs))
      (order : zs.Perm ys) : Reorders (.map xs) (.map ys)

namespace Datum

variable {d e : Datum} {xs ys zs : Entries} {items others : List Datum}

/-- Members of one key whose values are the same in this sense. -/
def MembersReorder (x y : Datum × Datum) : Prop :=
  x.1 = y.1 ∧ Reorders x.2 y.2

theorem MembersReorder.refl (member : Datum × Datum) : MembersReorder member member :=
  ⟨rfl, .refl member.2⟩

theorem forall₂_membersReorder_iff :
    List.Forall₂ MembersReorder xs zs ↔ Entries.keys xs = Entries.keys zs
      ∧ List.Forall₂ Reorders (List.map Prod.snd xs) (List.map Prod.snd zs) := by
  constructor
  · intro h
    induction h with
    | nil => exact ⟨rfl, .nil⟩
    | cons hxz _ ih => exact ⟨congrArg₂ List.cons hxz.1 ih.1, .cons hxz.2 ih.2⟩
  · rintro ⟨hkeys, hvalues⟩
    induction xs generalizing zs with
    | nil =>
        cases zs with
        | nil => exact .nil
        | cons z zs => cases hkeys
    | cons x xs ih =>
        cases zs with
        | nil => cases hkeys
        | cons z zs =>
            obtain ⟨hkey, hkeys⟩ := List.cons.inj hkeys
            cases hvalues with
            | cons hvalue hvalues => exact .cons ⟨hkey, hvalue⟩ (ih hkeys hvalues)

theorem reorders_list_iff : Reorders (.list items) e ↔
    ∃ others, e = .list others ∧ List.Forall₂ Reorders items others := by
  constructor
  · intro h
    cases h with
    | refl => exact ⟨items, rfl, List.forall₂_same.mpr fun item _ => .refl item⟩
    | list hitems => exact ⟨_, rfl, hitems⟩
  · rintro ⟨others, rfl, hitems⟩
    exact .list hitems

theorem reorders_lists_iff :
    Reorders (.list items) (.list others) ↔ List.Forall₂ Reorders items others := by
  rw [reorders_list_iff]
  constructor
  · rintro ⟨_, ⟨⟩, hitems⟩
    exact hitems
  · exact fun hitems => ⟨others, rfl, hitems⟩

theorem reorders_map_iff : Reorders (.map xs) e ↔
    ∃ ys zs, e = .map ys ∧ List.Forall₂ MembersReorder xs zs ∧ zs.Perm ys := by
  constructor
  · intro h
    cases h with
    | refl => exact ⟨xs, xs, rfl, List.forall₂_same.mpr fun x _ => .refl x, .refl xs⟩
    | map hkeys hvalues horder =>
        exact ⟨_, _, rfl, forall₂_membersReorder_iff.mpr ⟨hkeys, hvalues⟩, horder⟩
  · rintro ⟨ys, zs, rfl, hmembers, horder⟩
    obtain ⟨hkeys, hvalues⟩ := forall₂_membersReorder_iff.mp hmembers
    exact .map hkeys hvalues horder

theorem Reorders.of_members (h : List.Forall₂ MembersReorder xs ys) :
    Reorders (.map xs) (.map ys) :=
  reorders_map_iff.mpr ⟨ys, ys, rfl, h, .refl ys⟩

theorem Reorders.of_perm (h : xs.Perm ys) : Reorders (.map xs) (.map ys) :=
  reorders_map_iff.mpr ⟨ys, xs, rfl, List.forall₂_same.mpr fun x _ => .refl x, h⟩

theorem get?_of_membersReorder (h : List.Forall₂ MembersReorder xs zs) (name : String) :
    Option.Rel Reorders (xs.get? name) (zs.get? name) := by
  induction h with
  | nil => exact .none
  | @cons x z xs zs hxz _ ih =>
      unfold Entries.get? Entries.find? at ih ⊢
      rw [List.find?_cons, List.find?_cons, hxz.1]
      cases z.1.sameKey (.text name) with
      | true => exact .some hxz.2
      | false => exact ih

/-- What stands under a name is the same in this sense. -/
theorem Reorders.get? (h : Reorders (.map xs) (.map ys)) (hdistinct : ys.keys.Nodup)
    (name : String) : Option.Rel Reorders (xs.get? name) (ys.get? name) := by
  obtain ⟨_, zs, hys, hmembers, horder⟩ := reorders_map_iff.mp h
  cases hys
  rw [← Entries.get?_of_perm hdistinct horder]
  exact get?_of_membersReorder hmembers name

theorem Reorders.getD (h : Reorders (.map xs) (.map ys)) (hdistinct : ys.keys.Nodup)
    (name : String) (default : Datum) :
    Reorders (xs.getD name default) (ys.getD name default) := by
  have hget := h.get? hdistinct name
  unfold Entries.getD
  generalize xs.get? name = given, ys.get? name = found at hget ⊢
  cases hget with
  | none => exact .refl default
  | some hvalue => exact hvalue

theorem Reorders.has_eq (h : Reorders (.map xs) (.map ys)) (hdistinct : ys.keys.Nodup)
    (name : String) : xs.has name = ys.has name := by
  have hget := h.get? hdistinct name
  unfold Entries.has
  generalize xs.get? name = given, ys.get? name = found at hget ⊢
  cases hget with
  | none => rfl
  | some _ => rfl

theorem Reorders.keys_perm (h : Reorders (.map xs) (.map ys)) : xs.keys.Perm ys.keys := by
  obtain ⟨_, zs, hys, hmembers, horder⟩ := reorders_map_iff.mp h
  cases hys
  rw [(forall₂_membersReorder_iff.mp hmembers).1]
  exact horder.map Prod.fst

theorem Reorders.ne_nil (h : Reorders (.map xs) (.map ys)) (hsome : xs ≠ []) : ys ≠ [] := by
  rintro rfl
  exact hsome (List.map_eq_nil_iff.mp h.keys_perm.eq_nil)

theorem Reorders.exists_member (h : Reorders (.map xs) (.map ys)) {y : Datum × Datum}
    (hy : y ∈ ys) : ∃ x ∈ xs, MembersReorder x y := by
  obtain ⟨_, zs, hys, hmembers, horder⟩ := reorders_map_iff.mp h
  cases hys
  exact exists_of_forall₂ hmembers.flip y (horder.mem_iff.mpr hy)

/-- A datum that holds no others. -/
def IsLeaf : Datum → Prop
  | .list _ | .tuple _ | .map _ => False
  | _ => True

theorem Reorders.eq_of_isLeaf (h : Reorders d e) (hd : d.IsLeaf) : e = d := by
  cases h with
  | refl => rfl
  | _ => exact hd.elim

theorem Reorders.eq_of_text {s : String} (h : Reorders (.text s) e) : e = .text s :=
  h.eq_of_isLeaf trivial

theorem Reorders.eq_of_float {x : Double} (h : Reorders (.float x) e) : e = .float x :=
  h.eq_of_isLeaf trivial

theorem Reorders.eq_of_texts (htexts : ∀ item ∈ items, item.isText = true)
    (h : Reorders (.list items) e) : e = .list items := by
  obtain ⟨others, rfl, hitems⟩ := reorders_list_iff.mp h
  clear h
  induction hitems with
  | nil => rfl
  | cons hxy _ ih =>
      obtain ⟨hx, hrest⟩ := List.forall_mem_cons.mp htexts
      obtain ⟨s, rfl⟩ := isText_iff.mp hx
      rw [hxy.eq_of_text, list.inj (ih hrest)]

end Datum

namespace Json

open Text

variable {P : Double → Prop} {d e : Datum} {entries : Entries}

/-- Nothing, truth values, numbers and texts, lists of values, and maps with different texts
for keys and values behind them.  `P` holds of the floating-point values. -/
inductive IsValue (P : Double → Prop) : Datum → Prop
  | scalar {d : Datum} (hscalar : IsScalar P d) : IsValue P d
  | text (s : String) : IsValue P (.text s)
  | list {items : List Datum} (hitems : ∀ item ∈ items, IsValue P item) :
      IsValue P (.list items)
  | map {entries : Entries} (hdistinct : entries.keys.Nodup)
      (hnames : ∀ entry ∈ entries, entry.1.isText = true)
      (hvalues : ∀ entry ∈ entries, IsValue P entry.2) : IsValue P (.map entries)

theorem isValue_list_iff {items : List Datum} :
    IsValue P (.list items) ↔ ∀ item ∈ items, IsValue P item := by
  refine ⟨fun h => ?_, .list⟩
  cases h with
  | scalar hscalar => exact hscalar.elim
  | list hitems => exact hitems

theorem isValue_map_iff : IsValue P (.map entries) ↔ entries.keys.Nodup
    ∧ (∀ entry ∈ entries, entry.1.isText = true) ∧ ∀ entry ∈ entries, IsValue P entry.2 := by
  refine ⟨fun h => ?_, fun ⟨hdistinct, hnames, hvalues⟩ => .map hdistinct hnames hvalues⟩
  cases h with
  | scalar hscalar => exact hscalar.elim
  | map hdistinct hnames hvalues => exact ⟨hdistinct, hnames, hvalues⟩

theorem IsValue.getD (h : IsValue P (.map entries)) (name : String) :
    IsValue P (entries.getD name .null) := by
  cases hget : entries.get? name with
  | none =>
      rw [Entries.getD_of_get?_eq_none hget]
      exact .scalar trivial
  | some value =>
      rw [Entries.getD_of_get?_eq_some hget]
      exact (isValue_map_iff.mp h).2.2 _ (Entries.mem_of_get? hget)

theorem IsScalar.isLeaf (h : IsScalar P d) : d.IsLeaf := by
  cases d with
  | list _ | tuple _ | map _ => exact h.elim
  | _ => trivial

/-- Values stay values when members change places. -/
theorem IsValue.of_reorders (h : IsValue P d) (horder : Datum.Reorders d e) : IsValue P e := by
  induction h generalizing e with
  | scalar hscalar =>
      rw [horder.eq_of_isLeaf hscalar.isLeaf]
      exact .scalar hscalar
  | text s =>
      rw [horder.eq_of_text]
      exact .text s
  | list _ ih =>
      obtain ⟨others, rfl, hothers⟩ := Datum.reorders_list_iff.mp horder
      refine .list fun other hother => ?_
      obtain ⟨item, hitem, hsame⟩ := exists_of_forall₂ hothers.flip other hother
      exact ih item hitem hsame
  | map hdistinct hnames _ ih =>
      obtain ⟨ys, zs, rfl, -⟩ := Datum.reorders_map_iff.mp horder
      refine .map (horder.keys_perm.nodup_iff.mp hdistinct) ?_ ?_
      · intro entry hentry
        obtain ⟨member, hmember, hkey, -⟩ := horder.exists_member hentry
        rw [← hkey]
        exact hnames member hmember
      · intro entry hentry
        obtain ⟨member, hmember, -, hvalue⟩ := horder.exists_member hentry
        exact ih member hmember hvalue

theorem IsScalar.isWritable (h : IsScalar P d) : IsWritable d := by
  cases d with
  | null | bool _ | float _ => trivial
  | int value => exact h
  | text _ | bytes _ | buffer _ | list _ | tuple _ | map _ => exact h.elim

/-- A value has a canonical form. -/
theorem IsValue.isWritable (h : IsValue P d) : IsWritable d := by
  induction h with
  | scalar hscalar => exact hscalar.isWritable
  | text _ => trivial
  | list _ ih => exact areWritable_iff.mpr ih
  | map _ hnames _ ih =>
      refine ⟨.inl fun key hkey => ?_, entriesWritable_iff.mpr ih⟩
      obtain ⟨entry, hentry, rfl⟩ := List.mem_map.mp hkey
      exact hnames entry hentry

/-- The order of the texts that are keys. -/
def keyPrecedes : Datum → Datum → Bool
  | .text s, .text t => s < t
  | _, _ => false

/-- Members stand in the order of their keys. -/
def InKeyOrder (entries : Entries) : Prop :=
  Arrangement.InOrder (fun x y => keyPrecedes x.1 y.1) entries

theorem inKeyOrder_iff :
    InKeyOrder entries ↔ entries.keys.Pairwise fun x y => keyPrecedes y x = false := by
  rw [Entries.keys, List.pairwise_map]
  rfl

def memberOf (entry : Datum × Datum) : Member :=
  (entry.1, canonical? entry.2)

theorem canonicalMembers_eq_map (entries : Entries) :
    canonicalMembers entries = entries.map memberOf := by
  induction entries with
  | nil => rfl
  | cons entry rest ih => rw [canonicalMembers, ih, List.map_cons, memberOf]

theorem ordersOn_keyPrecedes :
    Arrangement.OrdersOn (fun member : Member => ∃ name, member.1 = .text name)
      fun x y => keyPrecedes x.1 y.1 where
  asymm := by
    rintro x y ⟨s, hs⟩ ⟨t, ht⟩ h
    rw [hs, ht, keyPrecedes, decide_eq_true_eq] at h
    rw [hs, ht, keyPrecedes, decide_eq_false_iff_not]
    exact String.lt_asymm h
  trans := by
    rintro x y z ⟨s, hs⟩ ⟨t, ht⟩ ⟨r, hr⟩ hyx hzy
    rw [hs, ht, keyPrecedes, decide_eq_false_iff_not, String.not_lt] at hyx
    rw [ht, hr, keyPrecedes, decide_eq_false_iff_not, String.not_lt] at hzy
    rw [hs, hr, keyPrecedes, decide_eq_false_iff_not, String.not_lt]
    exact String.le_trans hyx hzy

/-- The members can be put in the order of their keys. -/
theorem exists_sorted_members (hnames : ∀ entry ∈ entries, entry.1.isText = true) :
    ∃ sorted : Entries, sorted.Perm entries ∧ InKeyOrder sorted
      ∧ sortMembers? (canonicalMembers entries) = .ok (sorted.map memberOf) := by
  have hmembers : ∀ member ∈ entries.map memberOf, ∃ name, member.1 = .text name :=
    List.forall_mem_map.mpr fun entry hentry => Datum.isText_iff.mp (hnames entry hentry)
  have hdecides : Arrangement.Decides (fun x y : Member => x.1.precedes? y.1)
      (fun x y => keyPrecedes x.1 y.1) (entries.map memberOf) := by
    intro x hx y hy
    obtain ⟨s, hs⟩ := hmembers x hx
    obtain ⟨t, ht⟩ := hmembers y hy
    dsimp only
    rw [hs, ht]
    rfl
  have hperm := Arrangement.sorted_perm (fun x y : Member => keyPrecedes x.1 y.1)
    (entries.map memberOf)
  have horder := Arrangement.sorted_inOrder ordersOn_keyPrecedes hmembers
  -- The members in order are those of the entries in order.
  have hmembersOf : List.Forall₂ (fun member entry => member = memberOf entry)
      (entries.map memberOf) entries :=
    List.forall₂_map_left_iff.mpr (List.forall₂_same.mpr fun _ _ => rfl)
  obtain ⟨sorted, hsorted, hentries⟩ := List.perm_comp_forall₂ hperm hmembersOf
  have hmap := List.forall₂_eq_eq_eq ▸ List.forall₂_map_right_iff.mpr hsorted
  refine ⟨sorted, hentries, ?_, ?_⟩
  · rw [hmap] at horder
    exact List.pairwise_map.mp horder
  · rw [canonicalMembers_eq_map, sortMembers?, Arrangement.arrange_of_decides hdecides, hmap]

/-- There is one order of members with different keys. -/
theorem InKeyOrder.unique {xs ys : Entries} (hdistinct : entries.keys.Nodup)
    (hnames : ∀ entry ∈ entries, entry.1.isText = true) (hxs : xs.Perm entries) (hys : ys.Perm entries)
    (hxorder : InKeyOrder xs) (hyorder : InKeyOrder ys) : xs = ys := by
  refine (hxs.trans hys.symm).eq_of_pairwise (fun x y hx hy hxy hyx => ?_) hxorder hyorder
  dsimp only at hxy hyx
  have hx := hxs.mem_iff.mp hx
  have hy := hys.mem_iff.mp hy
  obtain ⟨s, hs⟩ := Datum.isText_iff.mp (hnames x hx)
  obtain ⟨t, ht⟩ := Datum.isText_iff.mp (hnames y hy)
  rw [hs, ht, keyPrecedes, decide_eq_false_iff_not, String.not_lt] at hxy
  rw [hs, ht, keyPrecedes, decide_eq_false_iff_not, String.not_lt] at hyx
  have hsame : x.1 = y.1 := by rw [hs, ht, String.le_antisymm hxy hyx]
  exact List.inj_on_of_nodup_map hdistinct hx hy hsame

end Json

end SutraArbiter
