import WorkflowAudit.Proofs.Equality
import WorkflowAudit.Proofs.JsonValues
import WorkflowAudit.Proofs.WrittenScalars

/-! # Written values

The encoding of a JSON value is read back as the value (`read_encoded`), provided that no integer in
it is too long, and that no mapping in it has a key twice: the reader would keep only the last of
the two.  Lists and mappings are read item by item; each item ends where a comma or a bracket
follows, which no number goes on with.

The only semicolons of an encoding are those of the texts of its value (`isPlain_encoded`,
`semicolon_mem_of_holds`).
-/
namespace WorkflowAudit
namespace Json

/-! ## Texts that are read back -/

namespace Cursor

variable {c : Char} {rest : List Char} (p : Nat)

theorem skipSpace_cons (h : isSpace c = false) : skipSpace ⟨p, c :: rest⟩ = ⟨p, c :: rest⟩ := by
  rw [skipSpace, List.takeWhile_cons_of_neg (by rw [h]; exact Bool.false_ne_true)]
  rfl

theorem skipSpace_blank (h : isSpace c = false) :
    skipSpace ⟨p, ' ' :: c :: rest⟩ = ⟨p + 1, c :: rest⟩ := by
  rw [skipSpace, List.takeWhile_cons_of_pos rfl,
    List.takeWhile_cons_of_neg (by rw [h]; exact Bool.false_ne_true)]
  rfl

end Cursor

/-- A text begins neither with white space, nor with the bracket that ends a list, nor with a
semicolon. -/
def Begins (text : List Char) : Prop :=
  ∃ c more, text = c :: more ∧ Cursor.isSpace c = false ∧ c ≠ ']' ∧ c ≠ ';'

/-- A text is read back as a value, up to something that does not go on with a number. -/
structure ReadsBack (v : Value) (text : List Char) : Prop where
  begins : Begins text
  read : ∀ {fuel : Nat} (p : Nat) {rest : List Char}, text.length ≤ fuel → EndsNumber rest →
    readValue fuel ⟨p, text ++ rest⟩ = .ok (v, ⟨p + text.length, rest⟩)

theorem ReadsBack.of_cons {v : Value} {c : Char} {more : List Char}
    (hspace : Cursor.isSpace c = false)
    (hc : c ≠ ']' ∧ c ≠ ';')
    (h : ∀ (fuel p : Nat) (rest : List Char), more.length ≤ fuel → EndsNumber rest →
      readValue (fuel + 1) ⟨p, c :: (more ++ rest)⟩ = .ok (v, ⟨p + (more.length + 1), rest⟩)) :
    ReadsBack v (c :: more) := by
  refine ⟨⟨c, more, rfl, hspace, hc⟩, fun {fuel} p {rest} hfuel hrest => ?_⟩
  rw [List.length_cons] at hfuel ⊢
  obtain ⟨fuel, rfl⟩ : ∃ k, fuel = k + 1 := ⟨fuel - 1, by omega⟩
  exact h fuel p rest (Nat.le_of_succ_le_succ hfuel) hrest

theorem begins_numeral {n : Numeral} (hn : n.Proper) : Begins n.text := by
  obtain ⟨c, more, hwhole, hc⟩ := hn.exists_whole
  have hne : ∀ other, Text.isAsciiDigit other = false → c ≠ other :=
    fun _ => Numeral.ne_of_isAsciiDigit hc
  unfold Numeral.text
  rw [hwhole]
  cases n.negative with
  | true => exact ⟨'-', _, rfl, rfl, by decide⟩
  | false =>
    refine ⟨c, _, rfl, ?_, hne ']' rfl, hne ';' rfl⟩
    simp [Cursor.isSpace, hne ' ' rfl, hne '\t' rfl, hne '\n' rfl, hne '\r' rfl]

theorem begins_word {word : String} {v : Value} (h : (word, v) ∈ words) : Begins word.toList := by
  simp only [words, List.mem_cons, Prod.mk.injEq, List.not_mem_nil, or_false] at h
  rcases h with ⟨rfl, -⟩ | ⟨rfl, -⟩ | ⟨rfl, -⟩ | ⟨rfl, -⟩ | ⟨rfl, -⟩ | ⟨rfl, -⟩ <;>
    simp [Begins, Cursor.isSpace]

theorem ScalarText.begins {v : Value} {text : List Char} (h : ScalarText v text) : Begins text := by
  cases h with
  | word h => exact begins_word h
  | numeral hn _ => exact begins_numeral hn
  | quoted s => exact ⟨_, _, rfl, rfl, by decide⟩

theorem readsBack_numeral {n : Numeral} (hn : n.Proper) (hshort : n.isLong = false) :
    ReadsBack n.value n.text := by
  obtain ⟨c, more, htext, hspace, hc⟩ := begins_numeral hn
  have hread := fun fuel p rest (hrest : EndsNumber rest) => hn.readValue_text hrest fuel p
  simp only [Numeral.outcome, hshort, Bool.false_eq_true, if_false] at hread
  rw [htext] at hread ⊢
  exact .of_cons hspace hc fun fuel p rest _ hrest => hread fuel p rest hrest

theorem readsBack_word {word : String} {v : Value} (h : (word, v) ∈ words) :
    ReadsBack v word.toList := by
  obtain ⟨c, more, htext, hspace, hc⟩ := begins_word h
  have hread := readValue_word h
  rw [htext] at hread ⊢
  exact .of_cons hspace hc fun fuel p rest _ _ => hread fuel p rest

theorem readsBack_quoted (s : String) : ReadsBack (.text s) (writtenText s.toList) := by
  refine .of_cons rfl (by decide) fun fuel p rest _ _ => ?_
  obtain ⟨behind, hbehind, hread⟩ := readText_quoted s.toList rest p
  show readValue (fuel + 1) ⟨p, writtenText s.toList ++ rest⟩ = _
  rw [hbehind]
  simp only [readValue, hread, bind, Except.bind, Value.ofChars, String.ofList_toList]
  rfl

theorem ScalarText.readsBack {v : Value} {text : List Char} (h : ScalarText v text)
    (hshown : v.isShowable = true) : ReadsBack v text := by
  cases h with
  | word h => exact readsBack_word h
  | numeral hn hlong => exact readsBack_numeral hn (by rw [hlong, hshown, Bool.not_true])
  | quoted s => exact readsBack_quoted s

/-! ## Lists -/

/-- Texts with commas between them begin as the first one. -/
theorem exists_commaSeparated (c : Char) (more : List Char) (texts : List (List Char)) :
    ∃ others, Value.commaSeparated ((c :: more) :: texts) = c :: others := by
  cases texts with
  | nil => exact ⟨more, rfl⟩
  | cons text texts => exact ⟨_, rfl⟩

theorem commaSeparated_cons_cons (first second : List Char) (texts : List (List Char)) :
    Value.commaSeparated (first :: second :: texts) =
      first ++ ',' :: ' ' :: Value.commaSeparated (second :: texts) := rfl

section Items

variable {fuel p : Nat} {rest : List Char} {item : Value} {cursor : Cursor}

theorem readItems_last (h : readValue fuel cursor = .ok (item, ⟨p, ']' :: rest⟩)) :
    readItems (fuel + 1) cursor = .ok ([item], ⟨p + 1, rest⟩) := by
  have hbracket : Cursor.skipSpace ⟨p, ']' :: rest⟩ = ⟨p, ']' :: rest⟩ :=
      Cursor.skipSpace_cons p rfl
  simp [readItems, h, hbracket, bind, Except.bind, pure, Except.pure]

theorem readItems_more {c : Char} (hc : Cursor.isSpace c = false)
    (h : readValue fuel cursor = .ok (item, ⟨p, ',' :: ' ' :: c :: rest⟩)) :
    readItems (fuel + 1) cursor = (do
      let found ← readItems fuel ⟨p + 2, c :: rest⟩
      return (item :: found.1, found.2)) := by
  have hcomma : Cursor.skipSpace ⟨p, ',' :: ' ' :: c :: rest⟩ = ⟨p, ',' :: ' ' :: c :: rest⟩ :=
    Cursor.skipSpace_cons p rfl
  have hnext : Cursor.skipSpace ⟨p + 1, ' ' :: c :: rest⟩ = ⟨p + 2, c :: rest⟩ :=
    Cursor.skipSpace_blank _ hc
  simp [readItems, h, hcomma, hnext, bind, Except.bind]

/-- The items of a list are read back. -/
theorem readItems_commaSeparated {items : List Value} {texts : List (List Char)}
    (h : List.Forall₂ ReadsBack items texts) (hsome : items ≠ [])
    (hfuel : (Value.commaSeparated texts).length < fuel) (p : Nat) (rest : List Char) :
    readItems fuel ⟨p, Value.commaSeparated texts ++ ']' :: rest⟩ =
      .ok (items, ⟨p + (Value.commaSeparated texts).length + 1, rest⟩) := by
  induction h generalizing fuel p with
  | nil => exact absurd rfl hsome
  | @cons item text items texts hfirst hmore ih =>
    obtain ⟨fuel, rfl⟩ : ∃ k, fuel = k + 1 := ⟨fuel - 1, by omega⟩
    cases hmore with
    | nil =>
      have hread := hfirst.read p (Nat.le_of_lt_succ hfuel) (endsNumber_cons ']' rest (by decide))
      exact readItems_last hread
    | @cons next nextText items texts hnext hmore =>
      obtain ⟨c, more, rfl, hc, -⟩ := hnext.begins
      obtain ⟨others, hothers⟩ := exists_commaSeparated c more texts
      rw [commaSeparated_cons_cons, hothers] at hfuel ⊢
      rw [hothers] at ih
      simp only [List.length_append, List.length_cons] at hfuel
      rw [List.append_assoc, List.cons_append, List.cons_append, List.cons_append,
        readItems_more hc (hfirst.read p (by omega) (endsNumber_cons ',' _ (by decide))),
        ← List.cons_append, ih (List.cons_ne_nil _ _) (by rw [List.length_cons]; omega)]
      simp [bind, Except.bind, pure, Except.pure]
      omega

end Items

theorem readsBack_list {items : List Value} {texts : List (List Char)}
    (h : List.Forall₂ ReadsBack items texts) :
    ReadsBack (.list .plain items) ('[' :: Value.commaSeparated texts ++ [']']) := by
  rw [List.cons_append]
  refine .of_cons rfl (by decide) fun fuel p rest hfuel _ => ?_
  rw [List.length_append, List.length_singleton] at hfuel ⊢
  rw [List.append_assoc, List.singleton_append]
  cases h with
  | nil =>
    have hclosed : Cursor.skipSpace ⟨p + 1, ']' :: rest⟩ = ⟨p + 1, ']' :: rest⟩ :=
      Cursor.skipSpace_cons _ rfl
    simp only [readValue, Value.commaSeparated, List.nil_append, hclosed]
    rfl
  | @cons first text items texts hfirst hmore =>
    have hread := readItems_commaSeparated (.cons hfirst hmore) (List.cons_ne_nil _ _) hfuel
        (p + 1) rest
    obtain ⟨c, more, rfl, hc, hbracket, -⟩ := hfirst.begins
    obtain ⟨others, hothers⟩ := exists_commaSeparated c more texts
    rw [hothers, List.cons_append] at hread
    rw [hothers, List.cons_append]
    have hinside : Cursor.skipSpace ⟨p + 1, c :: (others ++ ']' :: rest)⟩ =
        ⟨p + 1, c :: (others ++ ']' :: rest)⟩ := Cursor.skipSpace_cons _ hc
    simp [readValue, hinside, hbracket, hread, bind, Except.bind, pure, Except.pure]
    omega

/-! ## Mappings -/

section Members

variable {entries before : Entries} {fuel p q r : Nat} {behind after rest name : List Char}
  {v : Value} {c : Char}

theorem readMembers_last
    (hname : readText p (behind.length + 1) ⟨p + 1, behind⟩ =
      .ok (name, ⟨q, ':' :: ' ' :: c :: after⟩))
    (hc : Cursor.isSpace c = false)
    (hvalue : readValue fuel ⟨q + 2, c :: after⟩ = .ok (v, ⟨r, '}' :: rest⟩)) :
    readMembers (fuel + 1) ⟨p, '"' :: behind⟩ before =
      .ok (Entries.insert (.ofChars name) v before, ⟨r + 1, rest⟩) := by
  have hcolon : Cursor.skipSpace ⟨q, ':' :: ' ' :: c :: after⟩ = ⟨q, ':' :: ' ' :: c :: after⟩ :=
    Cursor.skipSpace_cons q rfl
  have hblank : Cursor.skipSpace ⟨q + 1, ' ' :: c :: after⟩ = ⟨q + 2, c :: after⟩ :=
    Cursor.skipSpace_blank _ hc
  have hbrace : Cursor.skipSpace ⟨r, '}' :: rest⟩ = ⟨r, '}' :: rest⟩ := Cursor.skipSpace_cons r rfl
  simp [readMembers, hname, hcolon, hblank, hvalue, hbrace, bind, Except.bind, pure, Except.pure]

theorem readMembers_more {d : Char}
    (hname : readText p (behind.length + 1) ⟨p + 1, behind⟩ =
      .ok (name, ⟨q, ':' :: ' ' :: c :: after⟩))
    (hc : Cursor.isSpace c = false)
    (hvalue : readValue fuel ⟨q + 2, c :: after⟩ = .ok (v, ⟨r, ',' :: ' ' :: d :: rest⟩))
    (hd : Cursor.isSpace d = false) :
    readMembers (fuel + 1) ⟨p, '"' :: behind⟩ before =
      readMembers fuel ⟨r + 2, d :: rest⟩ (Entries.insert (.ofChars name) v before) := by
  have hcolon : Cursor.skipSpace ⟨q, ':' :: ' ' :: c :: after⟩ = ⟨q, ':' :: ' ' :: c :: after⟩ :=
    Cursor.skipSpace_cons q rfl
  have hblank : Cursor.skipSpace ⟨q + 1, ' ' :: c :: after⟩ = ⟨q + 2, c :: after⟩ :=
    Cursor.skipSpace_blank _ hc
  have hcomma : Cursor.skipSpace ⟨r, ',' :: ' ' :: d :: rest⟩ = ⟨r, ',' :: ' ' :: d :: rest⟩ :=
    Cursor.skipSpace_cons r rfl
  have hnext : Cursor.skipSpace ⟨r + 1, ' ' :: d :: rest⟩ = ⟨r + 2, d :: rest⟩ :=
    Cursor.skipSpace_blank _ hd
  simp [readMembers, hname, hcolon, hblank, hvalue, hcomma, hnext, bind, Except.bind]

/-- What is written for a member: its name, a colon, and a text that is read back as its value. -/
inductive MemberText : Value × Value → List Char → Prop where
  | mk (name : String) {v : Value} {text : List Char} (h : ReadsBack v text) :
    MemberText (.text name, v) (writtenText name.toList ++ ':' :: ' ' :: text)

theorem MemberText.exists_cons {entry : Value × Value} {text : List Char}
    (h : MemberText entry text) :
    ∃ more, text = '"' :: more := by
  cases h
  exact ⟨_, rfl⟩

/-- The name and the value of a member are read back. -/
theorem exists_member (name : String) {text : List Char} (h : ReadsBack v text)
    (hfuel : text.length ≤ fuel) (hrest : EndsNumber rest) (p : Nat) :
    ∃ behind q c after, writtenText name.toList ++ ':' :: ' ' :: text ++ rest = '"' :: behind ∧
      readText p (behind.length + 1) ⟨p + 1, behind⟩ =
        .ok (name.toList, ⟨q, ':' :: ' ' :: c :: after⟩) ∧
      Cursor.isSpace c = false ∧
      readValue fuel ⟨q + 2, c :: after⟩ =
        .ok (v, ⟨p + (writtenText name.toList ++ ':' :: ' ' :: text).length, rest⟩) := by
  obtain ⟨c, more, rfl, hc, -⟩ := h.begins
  obtain ⟨behind, hbehind, hname⟩ :=
    readText_quoted name.toList (':' :: ' ' :: c :: (more ++ rest)) p
  refine ⟨behind, _, c, more ++ rest, ?_, hname, hc, ?_⟩
  · rw [← hbehind, List.append_assoc]
    rfl
  · have hposition : p + (writtenText name.toList ++ ':' :: ' ' :: c :: more).length =
        p + (writtenText name.toList).length + 2 + (c :: more).length := by
      simp only [List.length_append, List.length_cons]
      omega
    rw [hposition, ← List.cons_append, h.read _ hfuel hrest]

theorem fresh_of_distinct {key : Value} (h : Entries.Distinct (before ++ (key, v) :: entries)) :
    Entries.Fresh key before := by
  unfold Entries.Distinct Entries.keys at h
  rw [List.map_append, List.pairwise_append] at h
  exact fun k hk => h.2.2 k hk key List.mem_cons_self

/-- The members of a mapping are read back and put behind those that were read before. -/
theorem readMembers_commaSeparated {texts : List (List Char)}
    (h : List.Forall₂ MemberText entries texts)
    (hsome : entries ≠ []) (hdistinct : Entries.Distinct (before ++ entries))
    (hfuel : (Value.commaSeparated texts).length < fuel) (p : Nat) (rest : List Char) :
    readMembers fuel ⟨p, Value.commaSeparated texts ++ '}' :: rest⟩ before =
      .ok (before ++ entries, ⟨p + (Value.commaSeparated texts).length + 1, rest⟩) := by
  induction h generalizing fuel p before with
  | nil => exact absurd rfl hsome
  | @cons entry memberText entries texts hfirst hmore ih =>
    obtain ⟨fuel, rfl⟩ : ∃ k, fuel = k + 1 := ⟨fuel - 1, by omega⟩
    obtain @⟨name, v, text, hv⟩ := hfirst
    have hinsert : Entries.insert (.ofChars name.toList) v before = before ++
        [(.text name, v)] := by
      rw [Value.ofChars, String.ofList_toList]
      exact Entries.insert_of_fresh v (fresh_of_distinct hdistinct)
    cases hmore with
    | nil =>
      have hshort : text.length ≤ fuel := by
        simp only [Value.commaSeparated, List.length_append, List.length_cons] at hfuel
        omega
      obtain ⟨behind, q, c, after, hbehind, hname, hc, hvalue⟩ :=
        exists_member name hv hshort (endsNumber_cons '}' rest (by decide)) p
      rw [Value.commaSeparated, hbehind, readMembers_last hname hc hvalue, hinsert]
    | @cons next nextText entries texts hnext hmore =>
      obtain ⟨more, rfl⟩ := hnext.exists_cons
      obtain ⟨others, hothers⟩ := exists_commaSeparated '"' more texts
      rw [commaSeparated_cons_cons, hothers] at hfuel ⊢
      rw [hothers] at ih
      simp only [List.length_append, List.length_cons] at hfuel
      have hshort : text.length ≤ fuel := by omega
      obtain ⟨behind, q, c, after, hbehind, hname, hc, hvalue⟩ := exists_member name hv hshort
        (endsNumber_cons ',' (' ' :: '"' :: (others ++ '}' :: rest)) (by decide)) p
      rw [List.append_assoc, List.cons_append, List.cons_append, List.cons_append, hbehind,
        readMembers_more hname hc hvalue rfl, ← List.cons_append, hinsert,
        ih (List.cons_ne_nil _ _) (by rw [List.append_assoc]; exact hdistinct)
          (by rw [List.length_cons]; omega), List.append_assoc]
      simp only [List.length_append, List.length_cons]
      congr 3
      omega

end Members

theorem readsBack_map {entries : Entries} {texts : List (List Char)}
    (h : List.Forall₂ MemberText entries texts) (hdistinct : Entries.Distinct entries) :
    ReadsBack (.map .plain entries) ('{' :: Value.commaSeparated texts ++ ['}']) := by
  rw [List.cons_append]
  refine .of_cons rfl (by decide) fun fuel p rest hfuel _ => ?_
  rw [List.length_append, List.length_singleton] at hfuel ⊢
  rw [List.append_assoc, List.singleton_append]
  cases h with
  | nil =>
    have hclosed : Cursor.skipSpace ⟨p + 1, '}' :: rest⟩ = ⟨p + 1, '}' :: rest⟩ :=
      Cursor.skipSpace_cons _ rfl
    simp only [readValue, Value.commaSeparated, List.nil_append, hclosed]
    rfl
  | @cons first text entries texts hfirst hmore =>
    have hread := readMembers_commaSeparated (.cons hfirst hmore) (List.cons_ne_nil _ _)
      (show Entries.Distinct ([] ++ first :: entries) from hdistinct) hfuel (p + 1) rest
    obtain ⟨more, rfl⟩ := hfirst.exists_cons
    obtain ⟨others, hothers⟩ := exists_commaSeparated '"' more texts
    rw [hothers, List.cons_append] at hread
    rw [hothers, List.cons_append]
    have hinside : Cursor.skipSpace ⟨p + 1, '"' :: (others ++ '}' :: rest)⟩ =
        ⟨p + 1, '"' :: (others ++ '}' :: rest)⟩ := Cursor.skipSpace_cons _ rfl
    simp [readValue, hinside, hread, bind, Except.bind, pure, Except.pure]
    omega

/-! ## What is encoded -/

theorem scalarText_encoded {v : Value} (hjson : v.IsJson) (hlist : ∀ items, v ≠ .list .plain items)
    (hmap : ∀ entries, v ≠ .map .plain entries) : ScalarText v (encoded v) := by
  cases hjson with
  | list _ => exact absurd rfl (hlist _)
  | map _ _ => exact absurd rfl (hmap _)
  | null => exact .word (by simp [words])
  | bool b => exact scalarText_bool b
  | int i => exact scalarText_integerText i
  | float x => exact scalarText_writtenFloat x
  | text s => exact .quoted s

theorem begins_encoded {v : Value} (hjson : v.IsJson) : Begins (encoded v) := by
  cases hjson with
  | list _ =>
    rw [encoded_list]
    exact ⟨_, _, rfl, rfl, by decide⟩
  | map _ _ =>
    rw [encoded_map]
    exact ⟨_, _, rfl, rfl, by decide⟩
  | _ => exact (scalarText_encoded (by simp) (by simp) (by simp)).begins

/-! ## Reading back -/

theorem wellFormed_of_mem_items {items : List Value} (h : Value.itemsWellFormed items = true) :
    ∀ item ∈ items, item.wellFormed = true := by
  induction items with
  | nil => simp
  | cons item rest ih =>
    simp only [Value.itemsWellFormed, Bool.and_eq_true] at h
    exact List.forall_mem_cons.mpr ⟨h.1, ih h.2⟩

theorem wellFormed_of_mem_entries {entries : Entries} (h : Value.entriesWellFormed entries = true) :
    ∀ entry ∈ entries, entry.2.wellFormed = true := by
  induction entries with
  | nil => simp
  | cons entry rest ih =>
    simp only [Value.entriesWellFormed, Bool.and_eq_true] at h
    exact List.forall_mem_cons.mpr ⟨h.1.1.2, ih h.1.2⟩

theorem readsBack_encoded {v : Value} (hjson : v.IsJson) (hformed : v.wellFormed = true)
    (hshown : v.isShowable = true) : ReadsBack v (encoded v) := by
  induction hjson with
  | list hitems ih =>
    have hformed := wellFormed_of_mem_items hformed
    have hshown := Value.areShowable_iff.mp hshown
    rw [encoded_list]
    refine readsBack_list (List.forall₂_map_right_iff.mpr (List.forall₂_same.mpr ?_))
    exact fun item hitem => ih item hitem (hformed item hitem) (hshown item hitem)
  | map hnames hvalues ih =>
    have hshown := Value.areShowableEntries_iff.mp hshown
    rw [encoded_map]
    refine readsBack_map (List.forall₂_map_right_iff.mpr (List.forall₂_same.mpr ?_))
      (Value.distinct_of_wellFormed hformed)
    rintro ⟨key, v⟩ hentry
    obtain ⟨name, rfl⟩ := hnames _ hentry
    exact ⟨name, ih _ hentry (wellFormed_of_mem_entries hformed _ hentry) (hshown _ hentry).2⟩
  | _ => exact (scalarText_encoded (by simp) (by simp) (by simp)).readsBack hshown

/-! ## The characters of an encoding -/

/-- A text stands in a value, at whatever depth, as a key or not. -/
inductive Holds (s : String) : Value → Prop where
  | text : Holds s (.text s)
  | item {kind : ListKind} {items : List Value} {item : Value} (hitem : item ∈ items)
    (h : Holds s item) : Holds s (.list kind items)
  | key {kind : MapKind} {entries : Entries} {v : Value} (h : (.text s, v) ∈ entries) :
    Holds s (.map kind entries)
  | value {kind : MapKind} {entries : Entries} {entry : Value × Value} (hentry : entry ∈ entries)
    (h : Holds s entry.2) : Holds s (.map kind entries)

section Characters

variable {texts : List (List Char)} {text : List Char} {c : Char} {v : Value}

theorem mem_commaSeparated (h : c ∈ Value.commaSeparated texts) :
    IsPlain c ∨ ∃ text ∈ texts, c ∈ text := by
  fun_induction Value.commaSeparated texts with
  | case1 => cases h
  | case2 text => exact .inr ⟨text, List.mem_cons_self, h⟩
  | case3 text rest _ ih =>
    simp only [List.mem_append, List.mem_cons] at h
    rcases h with h | rfl | rfl | h
    · exact .inr ⟨text, List.mem_cons_self, h⟩
    · exact .inl (by decide)
    · exact .inl (by decide)
    · rcases ih h with h | ⟨text, htext, h⟩
      · exact .inl h
      · exact .inr ⟨text, List.mem_cons_of_mem _ htext, h⟩

theorem subset_commaSeparated (h : text ∈ texts) : text ⊆ Value.commaSeparated texts := by
  fun_induction Value.commaSeparated texts with
  | case1 => cases h
  | case2 other =>
    obtain rfl := List.mem_singleton.mp h
    exact fun _ => id
  | case3 other rest _ ih =>
    intro c hc
    rcases List.mem_cons.mp h with rfl | h
    · exact List.mem_append_left _ hc
    · exact List.mem_append_right _ (List.mem_cons_of_mem _ (List.mem_cons_of_mem _ (ih h hc)))

/-- Brackets and commas are plain, so a semicolon can only come from the texts between them. -/
theorem isPlain_of_mem_bracketed {P : Prop} {first last : Char} (hfirst : IsPlain first)
    (hlast : IsPlain last) (htexts : ∀ text ∈ texts, c ∈ text → IsPlain c ∨ c = ';' ∧ P)
    (hc : c ∈ first :: Value.commaSeparated texts ++ [last]) : IsPlain c ∨ c = ';' ∧ P := by
  simp only [List.cons_append, List.mem_cons, List.mem_append, List.not_mem_nil, or_false] at hc
  rcases hc with rfl | hc | rfl
  · exact .inl hfirst
  · rcases mem_commaSeparated hc with hc | ⟨text, htext, hc⟩
    · exact .inl hc
    · exact htexts text htext hc
  · exact .inl hlast

theorem mem_bracketed (first last : Char) (htext : text ∈ texts) (hc : c ∈ text) :
    c ∈ first :: Value.commaSeparated texts ++ [last] :=
  List.mem_append_left _ (List.mem_cons_of_mem _ (subset_commaSeparated htext hc))

/-- An encoding is plain, but for the semicolons of the texts of its value. -/
theorem isPlain_encoded (hjson : v.IsJson) (hc : c ∈ encoded v) :
    IsPlain c ∨ c = ';' ∧ ∃ s, Holds s v ∧ ';' ∈ s.toList := by
  induction hjson with
  | list hitems ih =>
    rw [encoded_list] at hc
    refine isPlain_of_mem_bracketed (by decide) (by decide) (fun text htext hc => ?_) hc
    obtain ⟨item, hitem, rfl⟩ := List.mem_map.mp htext
    refine (ih item hitem hc).imp_right ?_
    rintro ⟨hsemicolon, s, hs, hmem⟩
    exact ⟨hsemicolon, s, .item hitem hs, hmem⟩
  | map hnames hvalues ih =>
    rw [encoded_map] at hc
    refine isPlain_of_mem_bracketed (by decide) (by decide) (fun text htext hc => ?_) hc
    obtain ⟨⟨key, v⟩, hentry, rfl⟩ := List.mem_map.mp htext
    obtain ⟨name, rfl⟩ := hnames _ hentry
    simp only [encodedMember, encodedKey, List.mem_append, List.mem_cons] at hc
    rcases hc with hc | rfl | rfl | hc
    · exact (isPlain_writtenText hc).imp_right fun h => ⟨h.1, name, .key hentry, h.2⟩
    · exact .inl (by decide)
    · exact .inl (by decide)
    · refine (ih _ hentry hc).imp_right ?_
      rintro ⟨hsemicolon, s, hs, hmem⟩
      exact ⟨hsemicolon, s, .value hentry hs, hmem⟩
  | _ =>
    refine ((scalarText_encoded (by simp) (by simp) (by simp)).isPlain hc).imp_right ?_
    rintro ⟨hsemicolon, s, hs, hmem⟩
    exact ⟨hsemicolon, s, hs ▸ .text, hmem⟩

/-- A semicolon in a text of a value is seen in the encoding of the value. -/
theorem semicolon_mem_of_holds {s : String} (hs : Holds s v) (hmem : ';' ∈ s.toList) :
    ';' ∈ encoded v := by
  induction hs with
  | text => exact semicolon_mem_writtenText hmem
  | item hitem _ ih =>
    rw [encoded_list]
    exact mem_bracketed _ _ (List.mem_map_of_mem hitem) ih
  | key hentry =>
    rw [encoded_map]
    exact mem_bracketed _ _ (List.mem_map_of_mem hentry)
      (List.mem_append_left _ (semicolon_mem_writtenText hmem))
  | value hentry _ ih =>
    rw [encoded_map]
    exact mem_bracketed _ _ (List.mem_map_of_mem hentry)
      (List.mem_append_right _ (List.mem_cons_of_mem _ (List.mem_cons_of_mem _ ih)))

end Characters

/-- The encoding of a JSON value without repeated keys and without too long integers is read back as
the value. -/
theorem read_encoded {v : Value} (hjson : v.IsJson) (hformed : v.wellFormed = true)
    (hshown : v.isShowable = true) : read (encoded v) = .ok v := by
  have hback := readsBack_encoded hjson hformed hshown
  have hplain : ∀ c ∈ encoded v, IsPlain c ∨ c = ';' :=
    fun c hc => (isPlain_encoded hjson hc).imp_right And.left
  generalize encoded v = text at hback hplain
  have hread : readValue (2 * text.length + 2) ⟨0, text ++ []⟩ = .ok (v, ⟨0 + text.length, []⟩) :=
    hback.read 0 (by omega) endsNumber_nil
  obtain ⟨c, more, rfl, hc, -⟩ := hback.begins
  have hmark : c ≠ Char.ofNat 0xFEFF := by
    rintro rfl
    rcases hplain _ List.mem_cons_self with hplain | hsemicolon
    · exact absurd hplain (by decide)
    · exact absurd hsemicolon (by decide)
  have hstart : Cursor.skipSpace ⟨0, c :: more⟩ = ⟨0, c :: more⟩ := Cursor.skipSpace_cons _ hc
  rw [List.append_nil] at hread
  rw [read, readWhole, if_neg (by simpa using hmark), hstart, hread]
  rfl

end Json
end WorkflowAudit
