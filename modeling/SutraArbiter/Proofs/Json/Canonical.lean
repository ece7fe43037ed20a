import SutraArbiter.Proofs.Json.Value

namespace SutraArbiter.Json

open Text Token

variable {P : Double → Prop} {d e : Datum} {text : List Char} {items : List Datum}
  {entries : Entries}

/-- The text of a member whose value has a canonical text. -/
def IsMemberText (entry : Datum × Datum) (piece : List Char) : Prop :=
  ∃ name text, entry.1 = .text name ∧ canonical? entry.2 = .ok text
    ∧ piece = string .ascii name.toList ++ ':' :: text

theorem canonicalItems?_eq_mapM (items : List Datum) :
    canonicalItems? items = items.mapM canonical? := by
  induction items with
  | nil => rfl
  | cons item rest ih => rw [canonicalItems?, ih, List.mapM_cons]

theorem canonical?_list_eq_ok : canonical? (.list items) = .ok text ↔
    ∃ texts, List.Forall₂ (fun item text => canonical? item = .ok text) items texts
      ∧ text = array texts := by
  rw [canonical?, bind_eq_ok, canonicalItems?_eq_mapM]
  refine exists_congr fun texts => and_congr mapM_eq_ok_iff ?_
  exact ⟨fun h => (Except.ok.inj h).symm, fun h => congrArg Except.ok h.symm⟩

theorem member?_memberOf {entry : Datum × Datum} (hname : entry.1.isText = true)
    {piece : List Char} : member? (memberOf entry) = .ok piece ↔ IsMemberText entry piece := by
  obtain ⟨name, hkey⟩ := Datum.isText_iff.mp hname
  unfold member? memberOf IsMemberText
  rw [hkey, key?, ok_bind, bind_eq_ok]
  constructor
  · rintro ⟨text, htext, hpiece⟩
    cases hpiece
    exact ⟨name, text, rfl, htext, rfl⟩
  · rintro ⟨other, text, hother, htext, rfl⟩
    cases hother
    exact ⟨text, htext, rfl⟩

/-- The members stand in the order of their keys, however they were given. -/
theorem canonical?_map_eq_ok (hdistinct : entries.keys.Nodup)
    (hnames : ∀ entry ∈ entries, entry.1.isText = true) :
    canonical? (.map entries) = .ok text ↔
      ∃ sorted pieces, sorted.Perm entries ∧ InKeyOrder sorted
        ∧ List.Forall₂ IsMemberText sorted pieces
        ∧ text = '\x7b' :: Datum.joinWith [','] pieces ++ ['\x7d'] := by
  obtain ⟨sorted, hperm, horder, hsorted⟩ := exists_sorted_members hnames
  have hpieces : ∀ {pieces}, (sorted.map memberOf).mapM member? = .ok pieces ↔
      List.Forall₂ IsMemberText sorted pieces := by
    intro pieces
    have hsame : (fun (entry : Datum × Datum) piece =>
        entry.1.isText = true ∧ member? (memberOf entry) = .ok piece) =
        fun entry piece => entry.1.isText = true ∧ IsMemberText entry piece := by
      funext entry piece
      exact propext (and_congr_right fun hname => member?_memberOf hname)
    have hsortedNames : ∀ entry ∈ sorted, entry.1.isText = true :=
      fun entry hentry => hnames entry (hperm.mem_iff.mp hentry)
    rw [mapM_eq_ok_iff, List.forall₂_map_left_iff]
    refine (and_iff_right hsortedNames).symm.trans (Iff.trans ?_ (and_iff_right hsortedNames))
    rw [← List.forall₂_and_left, hsame, List.forall₂_and_left]
  rw [canonical?, object?, hsorted, ok_bind, bind_eq_ok]
  constructor
  · rintro ⟨pieces, hwritten, htext⟩
    cases htext
    exact ⟨sorted, pieces, hperm, horder, hpieces.mp hwritten, rfl⟩
  · rintro ⟨others, pieces, hothers, hotherOrder, hwritten, rfl⟩
    rw [InKeyOrder.unique hdistinct hnames hothers hperm hotherOrder horder] at hwritten
    exact ⟨pieces, hpieces.mpr hwritten, rfl⟩

/-- Pieces behind a first one, each behind its comma. -/
def furtherPieces (pieces : List (List Char)) : List Char :=
  pieces.flatMap fun piece => ',' :: piece

theorem joinWith_cons (piece : List Char) (pieces : List (List Char)) :
    Datum.joinWith [','] (piece :: pieces) = piece ++ furtherPieces pieces := by
  induction pieces generalizing piece with
  | nil => rw [Datum.joinWith, furtherPieces, List.flatMap_nil, List.append_nil]
  | cons next rest ih =>
      rw [Datum.joinWith, ih next, furtherPieces, furtherPieces, List.flatMap_cons,
        List.append_assoc]
      · rfl
      · exact nofun

section Pieces

variable {α : Type} {Writes : α → List Char → Prop} {Same : α → α → Prop} {closing : Char}
  {xs ys : List α} {pieces others : List (List Char)} {u v : List Char}

/-- What is written for `x` tells `x`, and where the text of `x` ends. -/
def Tells (Writes : α → List Char → Prop) (Same : α → α → Prop) (x : α) : Prop :=
  ∀ {y : α} {s t u v : List Char}, Writes x s → Writes y t → Ends u → Ends v →
    row (s ++ u) = row (t ++ v) → Same x y ∧ row u = row v

theorem ends_furtherPieces (hclosing : isMark closing = true) (pieces : List (List Char))
    (u : List Char) : Ends (furtherPieces pieces ++ closing :: u) := by
  cases pieces with
  | nil => exact ends_cons hclosing u
  | cons piece rest => exact ends_cons (by decide) _

theorem row_furtherPieces_cons (piece : List Char) (u : List Char) :
    row (furtherPieces (piece :: pieces) ++ closing :: u) =
      mark ',' :: row (piece ++ (furtherPieces pieces ++ closing :: u)) := by
  rw [furtherPieces, List.flatMap_cons, List.append_assoc, List.cons_append,
    row_mark (by decide)]
  rfl

theorem tell_furtherPieces (hclosing : isMark closing = true) (hcomma : closing ≠ ',')
    (hpieces : List.Forall₂ Writes xs pieces) (hothers : List.Forall₂ Writes ys others)
    (htells : ∀ x ∈ xs, Tells Writes Same x)
    (h : row (furtherPieces pieces ++ closing :: u) =
      row (furtherPieces others ++ closing :: v)) :
    List.Forall₂ Same xs ys ∧ row u = row v := by
  have hend : ∀ rest, row (furtherPieces [] ++ closing :: rest) = mark closing :: row rest :=
    row_mark hclosing
  induction hpieces generalizing ys others with
  | nil =>
      cases hothers with
      | nil =>
          rw [hend, hend] at h
          exact ⟨.nil, (List.cons.inj h).2⟩
      | cons _ _ =>
          rw [hend, row_furtherPieces_cons] at h
          exact absurd (mark.inj (List.cons.inj h).1) hcomma
  | cons hx hpieces ih =>
      cases hothers with
      | nil =>
          rw [hend, row_furtherPieces_cons] at h
          exact absurd (mark.inj (List.cons.inj h).1) hcomma.symm
      | cons hy hothers =>
          obtain ⟨hfirst, hrest⟩ := List.forall_mem_cons.mp htells
          rw [row_furtherPieces_cons, row_furtherPieces_cons] at h
          obtain ⟨hsame, h⟩ := hfirst hx hy (ends_furtherPieces hclosing _ _)
            (ends_furtherPieces hclosing _ _) (List.cons.inj h).2
          obtain ⟨hothersSame, hend⟩ := ih hothers hrest h
          exact ⟨.cons hsame hothersSame, hend⟩

/-- Pieces with commas between them tell what they were written for, if no piece begins with
the closing mark. -/
theorem tell_joined (hclosing : isMark closing = true) (hcomma : closing ≠ ',')
    (hpieces : List.Forall₂ Writes xs pieces) (hothers : List.Forall₂ Writes ys others)
    (htells : ∀ x ∈ xs, Tells Writes Same x)
    (hstart : ∀ {x : α} {s u : List Char}, Writes x s → Ends u →
      (row (s ++ u)).head? ≠ some (mark closing))
    (h : row (Datum.joinWith [','] pieces ++ closing :: u) =
      row (Datum.joinWith [','] others ++ closing :: v)) :
    List.Forall₂ Same xs ys ∧ row u = row v := by
  have hend : ∀ rest, row (Datum.joinWith [','] [] ++ closing :: rest) =
      mark closing :: row rest := row_mark hclosing
  cases hpieces with
  | nil =>
      cases hothers with
      | nil =>
          rw [hend, hend] at h
          exact ⟨.nil, (List.cons.inj h).2⟩
      | cons hy _ =>
          rw [hend, joinWith_cons, List.append_assoc] at h
          exact absurd (congrArg List.head? h.symm)
            (hstart hy (ends_furtherPieces hclosing _ _))
  | cons hx hpieces =>
      cases hothers with
      | nil =>
          rw [hend, joinWith_cons, List.append_assoc] at h
          exact absurd (congrArg List.head? h) (hstart hx (ends_furtherPieces hclosing _ _))
      | cons hy hothers =>
          obtain ⟨hfirst, hrest⟩ := List.forall_mem_cons.mp htells
          rw [joinWith_cons, joinWith_cons, List.append_assoc, List.append_assoc] at h
          obtain ⟨hsame, h⟩ := hfirst hx hy (ends_furtherPieces hclosing _ _)
            (ends_furtherPieces hclosing _ _) h
          obtain ⟨hothersSame, hend⟩ := tell_furtherPieces hclosing hcomma hpieces hothers hrest h
          exact ⟨.cons hsame hothersSame, hend⟩

end Pieces

/-- The canonical text of a value. -/
structure IsTextOf (P : Double → Prop) (d : Datum) (text : List Char) : Prop where
  value : IsValue P d
  text : canonical? d = .ok text

/-- The canonical text of a member. -/
structure IsTextOfMember (P : Double → Prop) (entry : Datum × Datum) (piece : List Char) :
    Prop where
  value : IsValue P entry.2
  text : IsMemberText entry piece

/-- The kind of the value that a token begins. -/
def Token.kind? : Token → Option Kind
  | .string _ => some .text
  | .word content => some (wordKind content)
  | .mark c => if c = '[' then some .list else if c = '\x7b' then some .map else none
  | .broken => none

variable {s t u v : List Char}

theorem row_array (texts : List (List Char)) (u : List Char) :
    row (array texts ++ u) = mark '[' :: row (Datum.joinWith [','] texts ++ ']' :: u) := by
  rw [array, List.append_assoc, List.cons_append, row_mark (by decide)]
  rfl

theorem row_record (pieces : List (List Char)) (u : List Char) :
    row ('\x7b' :: Datum.joinWith [','] pieces ++ ['\x7d'] ++ u) =
      mark '\x7b' :: row (Datum.joinWith [','] pieces ++ '\x7d' :: u) := by
  rw [List.append_assoc, List.cons_append, row_mark (by decide)]
  rfl

theorem row_scalar (hscalar : IsScalar P d) (h : canonical? d = .ok s) (hu : Ends u) :
    row (s ++ u) = word s :: row u := by
  have hword := isWordOf_scalar hscalar h
  exact row_word hword.ne_nil hword.plain hu

theorem row_memberText {entry : Datum × Datum} (h : IsMemberText entry s) (u : List Char) :
    ∃ name text, entry.1 = .text name ∧ canonical? entry.2 = .ok text
      ∧ row (s ++ u) = Token.string name.toList :: mark ':' :: row (text ++ u) := by
  obtain ⟨name, text, hkey, htext, rfl⟩ := h
  refine ⟨name, text, hkey, htext, ?_⟩
  rw [List.append_assoc, row_string, List.cons_append, row_mark (by decide)]

/-- The first token tells the kind. -/
theorem head?_row (h : IsTextOf P d s) (hu : Ends u) :
    (row (s ++ u)).head?.bind Token.kind? = some d.kind := by
  obtain ⟨hvalue, htext⟩ := h
  cases hvalue with
  | scalar hscalar =>
      rw [row_scalar hscalar htext hu]
      exact congrArg some (isWordOf_scalar hscalar htext).wordKind
  | text s =>
      cases htext
      rw [row_string]
      rfl
  | list hitems =>
      obtain ⟨texts, -, rfl⟩ := canonical?_list_eq_ok.mp htext
      rw [row_array]
      rfl
  | map hdistinct hnames hvalues =>
      obtain ⟨sorted, pieces, -, -, -, rfl⟩ := (canonical?_map_eq_ok hdistinct hnames).mp htext
      rw [row_record]
      rfl

theorem kind_eq_of_row (hd : IsTextOf P d s) (he : IsTextOf P e t) (hu : Ends u) (hv : Ends v)
    (h : row (s ++ u) = row (t ++ v)) : d.kind = e.kind := by
  have hkind := head?_row hd hu
  rw [h, head?_row he hv] at hkind
  exact (Option.some.inj hkind).symm

theorem tells_scalar (hfloats : Double.AreToldApart P) (hscalar : IsScalar P d) :
    Tells (IsTextOf P) Datum.Reorders d := by
  intro e s t u v hs ht hu hv h
  have hkind := kind_eq_of_row hs ht hu hv h
  have hother : IsScalar P e := by
    cases ht.value with
    | scalar hother => exact hother
    | _ => cases d <;> first | exact hscalar.elim | cases hkind
  rw [row_scalar hscalar hs.text hu, row_scalar hother ht.text hv] at h
  obtain ⟨hword, h⟩ := List.cons.inj h
  have htext := ht.text
  rw [← word.inj hword] at htext
  rw [scalar_injective hfloats hscalar hother hs.text htext]
  exact ⟨.refl e, h⟩

theorem tells_text (x : String) : Tells (IsTextOf P) Datum.Reorders (.text x) := by
  intro e s t u v hs ht hu hv h
  have hkind := kind_eq_of_row hs ht hu hv h
  have htext := ht.text
  cases e with
  | text y =>
      cases hs.text
      cases htext
      rw [row_string, row_string] at h
      obtain ⟨hcontent, h⟩ := List.cons.inj h
      rw [String.toList_inj.mp (Token.string.inj hcontent)]
      exact ⟨.refl _, h⟩
  | _ => cases hkind

theorem tells_list {items : List Datum}
    (htells : ∀ item ∈ items, Tells (IsTextOf P) Datum.Reorders item) :
    Tells (IsTextOf P) Datum.Reorders (.list items) := by
  have htexts : ∀ {items : List Datum} {s : List Char}, IsTextOf P (.list items) s →
      ∃ texts, List.Forall₂ (IsTextOf P) items texts ∧ s = array texts := by
    rintro items s ⟨hvalue, htext⟩
    obtain ⟨texts, htexts, rfl⟩ := canonical?_list_eq_ok.mp htext
    exact ⟨texts, ((List.forall₂_and_left _ _).mpr ⟨isValue_list_iff.mp hvalue, htexts⟩).imp
      fun _ _ h => ⟨h.1, h.2⟩, rfl⟩
  have hstart : ∀ {d : Datum} {s u : List Char}, IsTextOf P d s → Ends u →
      (row (s ++ u)).head? ≠ some (mark ']') := by
    intro d s u hd hu hhead
    have hkind := head?_row hd hu
    rw [hhead] at hkind
    cases hkind
  intro e s t u v hs ht hu hv h
  have hkind := kind_eq_of_row hs ht hu hv h
  cases e with
  | list others =>
      obtain ⟨texts, hitems, rfl⟩ := htexts hs
      obtain ⟨otherTexts, hothers, rfl⟩ := htexts ht
      rw [row_array, row_array] at h
      obtain ⟨hsame, h⟩ := tell_joined (by decide) (by decide) hitems hothers htells hstart
        (List.cons.inj h).2
      exact ⟨.list hsame, h⟩
  | _ => cases hkind

theorem tells_member {entry : Datum × Datum}
    (htells : Tells (IsTextOf P) Datum.Reorders entry.2) :
    Tells (IsTextOfMember P) Datum.MembersReorder entry := by
  intro other s t u v hs ht hu hv h
  obtain ⟨name, text, hkey, htext, hrow⟩ := row_memberText hs.text u
  obtain ⟨otherName, otherText, hotherKey, hotherText, hotherRow⟩ :=
    row_memberText ht.text v
  rw [hrow, hotherRow] at h
  obtain ⟨hname, h⟩ := List.cons.inj h
  obtain ⟨hvalue, h⟩ := htells ⟨hs.value, htext⟩ ⟨ht.value, hotherText⟩ hu hv
    (List.cons.inj h).2
  refine ⟨⟨?_, hvalue⟩, h⟩
  rw [hkey, hotherKey, String.toList_inj.mp (Token.string.inj hname)]

theorem tells_map {entries : Entries}
    (htells : ∀ entry ∈ entries, Tells (IsTextOf P) Datum.Reorders entry.2) :
    Tells (IsTextOf P) Datum.Reorders (.map entries) := by
  have htexts : ∀ {entries : Entries} {s : List Char}, IsTextOf P (.map entries) s →
      ∃ sorted pieces, sorted.Perm entries ∧ List.Forall₂ (IsTextOfMember P) sorted pieces
        ∧ s = '\x7b' :: Datum.joinWith [','] pieces ++ ['\x7d'] := by
    rintro entries s ⟨hvalue, htext⟩
    obtain ⟨hdistinct, hnames, hvalues⟩ := isValue_map_iff.mp hvalue
    obtain ⟨sorted, pieces, hperm, -, hpieces, rfl⟩ :=
      (canonical?_map_eq_ok hdistinct hnames).mp htext
    have hmembers : ∀ entry ∈ sorted, IsValue P entry.2 :=
      fun entry hentry => hvalues entry (hperm.mem_iff.mp hentry)
    exact ⟨sorted, pieces, hperm, ((List.forall₂_and_left _ _).mpr ⟨hmembers, hpieces⟩).imp
      fun _ _ h => ⟨h.1, h.2⟩, rfl⟩
  have hstart : ∀ {entry : Datum × Datum} {s u : List Char}, IsTextOfMember P entry s → Ends u →
      (row (s ++ u)).head? ≠ some (mark '\x7d') := by
    intro entry s u h _ hhead
    obtain ⟨name, text, -, -, hrow⟩ := row_memberText h.text u
    rw [hrow] at hhead
    cases hhead
  intro e s t u v hs ht hu hv h
  have hkind := kind_eq_of_row hs ht hu hv h
  cases e with
  | map others =>
      obtain ⟨sorted, pieces, hperm, hpieces, rfl⟩ := htexts hs
      obtain ⟨otherSorted, otherPieces, hotherPerm, hotherPieces, rfl⟩ := htexts ht
      rw [row_record, row_record] at h
      obtain ⟨hsame, h⟩ := tell_joined (by decide) (by decide) hpieces hotherPieces
        (fun entry hentry => tells_member (htells entry (hperm.mem_iff.mp hentry))) hstart
        (List.cons.inj h).2
      obtain ⟨members, hmembers, horder⟩ := List.perm_comp_forall₂ hperm.symm hsame
      exact ⟨Datum.reorders_map_iff.mpr ⟨others, members, rfl, hmembers,
        horder.trans hotherPerm⟩, h⟩
  | _ => cases hkind

theorem tells_of_isValue (hfloats : Double.AreToldApart P) (hd : IsValue P d) :
    Tells (IsTextOf P) Datum.Reorders d := by
  induction hd with
  | scalar hscalar => exact tells_scalar hfloats hscalar
  | text x => exact tells_text x
  | list _ ih => exact tells_list ih
  | map _ _ _ ih => exact tells_map ih

/-- The one has the canonical text of every value that it differs from in order alone. -/
def KeepsText (P : Double → Prop) (d : Datum) : Prop :=
  ∀ {e : Datum}, IsValue P e → Datum.Reorders d e → canonical? d = canonical? e

theorem keepsText_list (hkeeps : ∀ item ∈ items, KeepsText P item) : KeepsText P (.list items) := by
  intro e he h
  obtain ⟨others, rfl, hothers⟩ := Datum.reorders_list_iff.mp h
  have hsame : items.mapM canonical? = others.mapM canonical? := by
    have hvalues := isValue_list_iff.mp he
    clear he h
    induction hothers with
    | nil => rfl
    | cons hxy _ ih =>
        obtain ⟨hitem, hkeeps⟩ := List.forall_mem_cons.mp hkeeps
        obtain ⟨hvalue, hvalues⟩ := List.forall_mem_cons.mp hvalues
        rw [List.mapM_cons, List.mapM_cons, hitem hvalue hxy, ih hkeeps hvalues]
  rw [canonical?, canonical?, canonicalItems?_eq_mapM, canonicalItems?_eq_mapM, hsame]

theorem forall₂_isMemberText {xs ys : Entries} {pieces : List (List Char)}
    (hmembers : List.Forall₂ Datum.MembersReorder xs ys)
    (hkeeps : ∀ x ∈ xs, KeepsText P x.2) (hvalues : ∀ y ∈ ys, IsValue P y.2)
    (h : List.Forall₂ IsMemberText xs pieces) : List.Forall₂ IsMemberText ys pieces := by
  induction hmembers generalizing pieces with
  | nil => exact h
  | cons hxy _ ih =>
      obtain ⟨hfirst, hkeeps⟩ := List.forall_mem_cons.mp hkeeps
      obtain ⟨hvalue, hvalues⟩ := List.forall_mem_cons.mp hvalues
      cases h with
      | cons hpiece hpieces =>
          obtain ⟨name, text, hkey, htext, rfl⟩ := hpiece
          refine .cons ⟨name, text, ?_, ?_, rfl⟩ (ih hkeeps hvalues hpieces)
          · rw [← hxy.1, hkey]
          · rw [← hfirst hvalue hxy.2, htext]

theorem keepsText_map (hmap : IsValue P (.map entries))
    (hkeeps : ∀ entry ∈ entries, KeepsText P entry.2) : KeepsText P (.map entries) := by
  intro e he h
  obtain ⟨ys, zs, rfl, hmembers, horder⟩ := Datum.reorders_map_iff.mp h
  obtain ⟨hdistinct, hnames, hvalues⟩ := isValue_map_iff.mp hmap
  obtain ⟨hotherDistinct, hotherNames, hotherValues⟩ := isValue_map_iff.mp he
  obtain ⟨text, htext⟩ := (exists_canonical?_iff _).mpr hmap.isWritable
  obtain ⟨sorted, pieces, hperm, hsorted, hpieces, rfl⟩ :=
    (canonical?_map_eq_ok hdistinct hnames).mp htext
  -- The other members, in the order in which these stand once they are sorted.
  obtain ⟨others, hothers, hothersPerm⟩ := List.perm_comp_forall₂ hperm hmembers
  have hotherPerm : others.Perm ys := hothersPerm.trans horder
  have hotherSorted : InKeyOrder others := by
    rw [inKeyOrder_iff] at hsorted ⊢
    rwa [← (Datum.forall₂_membersReorder_iff.mp hothers).1]
  have hotherPieces : List.Forall₂ IsMemberText others pieces :=
    forall₂_isMemberText hothers (fun entry hentry => hkeeps entry (hperm.mem_iff.mp hentry))
      (fun entry hentry => hotherValues entry (hotherPerm.mem_iff.mp hentry)) hpieces
  rw [htext, eq_comm, canonical?_map_eq_ok hotherDistinct hotherNames]
  exact ⟨others, pieces, hotherPerm, hotherSorted, hotherPieces, rfl⟩

/-- The canonical text is kept when members change places. -/
theorem keepsText_of_isValue (hd : IsValue P d) : KeepsText P d := by
  induction hd with
  | scalar hscalar =>
      intro e _ h
      cases h with
      | refl => rfl
      | _ => exact hscalar.elim
  | text _ =>
      intro e _ h
      cases h with
      | refl => rfl
  | list _ ih => exact keepsText_list ih
  | map hdistinct hnames hvalues ih => exact keepsText_map (.map hdistinct hnames hvalues) ih

/-- Two values have one canonical text exactly if they are the same but for the order of
members. -/
theorem text_eq_iff_reorders (hfloats : Double.AreToldApart P) (hd : IsTextOf P d s)
    (he : IsTextOf P e t) : s = t ↔ Datum.Reorders d e := by
  constructor
  · rintro rfl
    exact (tells_of_isValue hfloats hd.value hd he ends_nil ends_nil rfl).1
  · intro h
    have hsame := keepsText_of_isValue hd.value he.value h
    rw [hd.text, he.text] at hsame
    exact Except.ok.inj hsame

end SutraArbiter.Json
