import Mathlib.Data.List.TakeWhile
import WorkflowAudit.Proofs.WrittenValues

/-! # Encodings cut at a semicolon

A value is readable if no text in it has a semicolon and no integer in it is too long.  The encoding
of a readable value has no semicolon and is read back.  Of any other value nothing is left that
could be read: what stands before the next semicolon is refused, either inside of a text that has no
closing quote, or at a number that is too long, whichever comes first (`readWhole_cut`).  The
refusal tells which of the two it was (`Stops`).
-/
namespace WorkflowAudit
namespace Json

/-- What comes before the first semicolon of a text. -/
def cut (text : List Char) : List Char :=
  text.takeWhile (· != ';')

section Cut

variable {text rest before after : List Char}

theorem cut_append (h : ';' ∉ text) : cut (text ++ rest) = text ++ cut rest := by
  refine List.takeWhile_append_of_pos fun c hc => bne_iff_ne.mpr ?_
  rintro rfl
  exact h hc

theorem cut_append_cons (h : ';' ∉ before) : cut (before ++ ';' :: after) = before := by
  rw [cut_append h]
  exact List.append_nil before

theorem cut_cons {c : Char} (h : c ≠ ';') : cut (c :: rest) = c :: cut rest :=
  List.takeWhile_cons_of_pos (bne_iff_ne.mpr h)

theorem cut_comma : cut (',' :: ' ' :: rest) = ',' :: ' ' :: cut rest := by
  rw [cut_cons (by decide), cut_cons (by decide)]

theorem EndsNumber.cut (h : EndsNumber rest) : EndsNumber (cut rest) := by
  cases rest with
  | nil => exact endsNumber_nil
  | cons c rest =>
    by_cases hc : c = ';'
    · subst hc
      exact endsNumber_nil
    · rw [cut_cons hc]
      exact endsNumber_cons c _ (h c rfl)

end Cut

/-! ## Readable values -/

/-- No text in a value has a semicolon. -/
def Separable (v : Value) : Prop :=
  ∀ s, Holds s v → ';' ∉ s.toList

/-- A value without a semicolon in its texts and without a too long integer. -/
structure Readable (v : Value) : Prop where
  separable : Separable v
  isShowable : v.isShowable = true

/-- Why reading what is left of a value stops: at a text that was cut at its semicolon, or at a
number with too many digits. -/
inductive Stops (v : Value) : Refusal → Prop where
  | semicolon (h : ¬ Separable v) (problem : JsonProblem) (position : Nat) :
    Stops v (.malformed problem position)
  | digits (h : v.isShowable = false) (count : Nat) : Stops v (.longNumeral count)

section Readable

variable {v : Value} {items : List Value} {entries : Entries} {refusal : Refusal}

theorem separable_text {s : String} : Separable (.text s) ↔ ';' ∉ s.toList := by
  constructor
  · intro h
    exact h s .text
  · intro h s' hs
    cases hs
    exact h

/-- An encoding has a semicolon exactly when a text of its value has one. -/
theorem semicolon_mem_encoded (hjson : v.IsJson) : ';' ∈ encoded v ↔ ¬ Separable v := by
  constructor
  · intro hmem hseparable
    rcases isPlain_encoded hjson hmem with hplain | ⟨-, s, hs, hsemicolon⟩
    · exact hplain.2.2 rfl
    · exact hseparable s hs hsemicolon
  · intro hnot
    by_contra hmem
    exact hnot fun s hs hsemicolon => hmem (semicolon_mem_of_holds hs hsemicolon)

theorem Readable.semicolon_notMem (h : Readable v) (hjson : v.IsJson) : ';' ∉ encoded v :=
  fun hmem => (semicolon_mem_encoded hjson).mp hmem h.separable

theorem readable_list (h : ∀ item ∈ items, Readable item) : Readable (.list .plain items) where
  separable s hs := by
    cases hs with
    | item hitem hs => exact (h _ hitem).separable s hs
  isShowable := Value.areShowable_iff.mpr fun item hitem => (h item hitem).isShowable

theorem readable_map (h : ∀ entry ∈ entries, Readable entry.1 ∧ Readable entry.2) :
    Readable (.map .plain entries) where
  separable s hs := by
    cases hs with
    | key hentry => exact separable_text.mp (h _ hentry).1.separable
    | value hentry hs => exact (h _ hentry).2.separable s hs
  isShowable := Value.areShowableEntries_iff.mpr fun entry hentry =>
    ⟨(h entry hentry).1.isShowable, (h entry hentry).2.isShowable⟩

/-- Where an item stops, its list does. -/
theorem Stops.list {item : Value} (h : Stops item refusal) (hitem : item ∈ items) :
    Stops (.list .plain items) refusal := by
  cases h with
  | semicolon h =>
    exact .semicolon (fun hall => h fun s hs => hall s (.item hitem hs)) _ _
  | digits h =>
    refine .digits (Bool.eq_false_iff.mpr fun hall => ?_) _
    rw [Value.areShowable_iff.mp hall item hitem] at h
    cases h

/-- Where a name or a value stops, its mapping does. -/
theorem Stops.map {entry : Value × Value} {name : String} (hname : entry.1 = .text name)
    (h : Stops entry.1 refusal ∨ Stops entry.2 refusal) (hentry : entry ∈ entries) :
    Stops (.map .plain entries) refusal := by
  obtain ⟨key, v⟩ := entry
  obtain rfl : key = .text name := hname
  rcases h with h | h
  · cases h with
    | semicolon h =>
      exact .semicolon (fun hall => h (separable_text.mpr (hall name (.key hentry)))) _ _
    | digits h => cases h
  · cases h with
    | semicolon h =>
      exact .semicolon (fun hall => h fun s hs => hall s (.value hentry hs)) _ _
    | digits h =>
      refine .digits (Bool.eq_false_iff.mpr fun hall => ?_) _
      rw [(Value.areShowableEntries_iff.mp hall _ hentry).2] at h
      cases h

end Readable

/-! ## Texts without a closing quote -/

theorem readCodeEscape_short {digits : List Char} (h : digits.length ≤ 4) (p : Nat) :
    readCodeEscape ⟨p, digits⟩ = .error (.malformed .badCodeEscape (p - 1)) := by
  unfold readCodeEscape
  rw [if_pos h]
  rfl

/-- An escape at the very end is refused. -/
theorem readText_unitEscape (n : Nat) (hn : n < 0x10000) (start fuel p : Nat) :
    ∃ problem position, readText start (fuel + 1) ⟨p, unitEscape n⟩ =
      .error (.malformed problem position) := by
  have hshort := readCodeEscape_short (Nat.le_of_eq (length_hexDigits hn)) (p + 2)
  refine ⟨.badCodeEscape, p + 2 - 1, ?_⟩
  simp only [unitEscape, readText, hshort]
  rfl

/-- Half of a pair that the text ends behind is read on its own. -/
theorem readCodeEscape_half (high low : Nat) (hhigh : high < 0x10000) (hlow : low < 0x10000)
    (p : Nat) :
    ∃ c, readCodeEscape ⟨p, Text.hexDigits 4 high ++ unitEscape low⟩ =
      .ok (c, ⟨p + 4, unitEscape low⟩) := by
  have hlength := length_hexDigits hhigh
  have hbehind : (Text.hexDigits 4 high ++ unitEscape low).drop 4 = unitEscape low := by
    exact List.drop_left' hlength
  have hlong : ¬ (Text.hexDigits 4 high ++ unitEscape low).length ≤ 4 := by
    rw [List.length_append, hlength, length_unitEscape hlow]
    omega
  have hdigits : ¬ (Text.hexDigits 4 low).length > 4 := by
    rw [length_hexDigits hlow]
    omega
  refine ⟨readCodeEscape.charOf high, ?_⟩
  unfold readCodeEscape
  simp only [if_neg hlong, fourHex?_hexDigits hhigh, Cursor.advance, hbehind]
  simp only [unitEscape, hdigits, decide_false, Bool.and_false, Bool.false_eq_true, if_false]
  rfl

/-- A text without its closing quote is refused. -/
theorem readText_unfinished (text : List Char) (start fuel p : Nat) :
    ∃ problem position, readText start fuel ⟨p, text.flatMap writtenChar⟩ =
      .error (.malformed problem position) := by
  induction text generalizing fuel p with
  | nil => cases fuel <;> exact ⟨_, _, rfl⟩
  | cons c text ih =>
    cases fuel with
    | zero => exact ⟨_, _, rfl⟩
    | succ fuel =>
      rw [List.flatMap_cons]
      have hwritten := writtenAs_writtenChar c
      cases text with
      | cons next text =>
        -- the text goes on, so the character is read
        have hmore : (next :: text).flatMap writtenChar ≠ [] := by
          rw [List.flatMap_cons]
          exact List.append_ne_nil_of_left_ne_nil (writtenAs_writtenChar next).ne_nil _
        obtain ⟨problem, position, hrest⟩ := ih fuel (p + (writtenChar c).length)
        refine ⟨problem, position, ?_⟩
        rw [hwritten.readText_eq hmore, hrest]
        rfl
      | nil =>
        rw [List.flatMap_nil, List.append_nil]
        have hend : ∀ p, ∃ problem position, readText start fuel ⟨p, []⟩ =
            .error (.malformed problem position) := fun p => ih fuel p
        have hvalid : c.toNat < 0xD800 ∨ (0xDFFF < c.toNat ∧ c.toNat < 0x110000) := c.valid
        generalize writtenChar c = last at hwritten
        cases hwritten with
        | letter h hletter =>
          obtain ⟨problem, position, hrest⟩ := hend (p + 2)
          exact ⟨problem, position, by rw [readText_letter hletter h, hrest]; rfl⟩
        | plain hquote hbackslash h =>
          obtain ⟨problem, position, hrest⟩ := hend (p + 1)
          exact ⟨problem, position, by rw [readText_plain hquote hbackslash h.1, hrest]; rfl⟩
        | unit hshort => exact readText_unitEscape _ hshort start fuel p
        | pair hlong =>
          -- the second half stands at the end, and is refused there
          obtain ⟨half, hhalf⟩ := readCodeEscape_half (0xD800 + (c.toNat - 0x10000) / 0x400)
            (0xDC00 + (c.toNat - 0x10000) % 0x400) (by omega) (by omega) (p + 2)
          rw [unitEscape, List.cons_append, List.cons_append, readText_code hhalf]
          cases fuel with
          | zero => exact ⟨_, _, rfl⟩
          | succ fuel =>
            obtain ⟨problem, position, hrest⟩ := readText_unitEscape
              (0xDC00 + (c.toNat - 0x10000) % 0x400) (by omega) start fuel (p + 2 + 4)
            exact ⟨problem, position, by rw [hrest]; rfl⟩

/-- A text with a semicolon is cut inside of its quotes. -/
theorem exists_cut_writtenText {text : List Char} (h : ';' ∈ text) (rest : List Char) :
    ∃ before : List Char, cut (writtenText text ++ rest) = '"' :: before.flatMap writtenChar := by
  obtain ⟨before, after, rfl, hbefore⟩ := List.eq_append_cons_of_mem h
  have hnone : ';' ∉ '"' :: before.flatMap writtenChar := by
    intro hmem
    rcases isPlain_writtenText (List.mem_append_left ['"'] hmem) with hplain | ⟨-, hmem⟩
    · exact hplain.2.2 rfl
    · exact hbefore hmem
  have hsplit : writtenText (before ++ ';' :: after) ++ rest =
      ('"' :: before.flatMap writtenChar) ++ ';' :: (after.flatMap writtenChar ++ '"' :: rest) := by
    have hself : writtenChar ';' = [';'] := by decide
    simp [writtenText, List.flatMap_append, List.flatMap_cons, hself]
  exact ⟨before, by rw [hsplit, cut_append_cons hnone]⟩

/-! ## Lists -/

/-- What is left of a value is refused, for a reason that lies in the value. -/
def IsRefused (v : Value) : Prop :=
  ∀ (fuel p : Nat) (rest : List Char), 2 * (cut (encoded v ++ rest)).length ≤ fuel →
    EndsNumber rest →
    ∃ refusal, readValue fuel ⟨p, cut (encoded v ++ rest)⟩ = .error refusal ∧ Stops v refusal

/-- Behind the first of some texts comes a comma or the end. -/
theorem exists_behind (first : List Char) (texts : List (List Char)) {last : Char}
    {rest : List Char}
    (hlast : EndsNumber (last :: rest)) :
    ∃ behind, Value.commaSeparated (first :: texts) ++ last :: rest = first ++ behind ∧
      EndsNumber behind := by
  cases texts with
  | nil => exact ⟨last :: rest, rfl, hlast⟩
  | cons next texts =>
    refine ⟨',' :: ' ' :: Value.commaSeparated (next :: texts) ++ last :: rest, ?_,
      endsNumber_cons ',' _ (by decide)⟩
    rw [commaSeparated_cons_cons, List.append_assoc]

/-- A readable item with others behind it is read, and the others are left. -/
theorem readItems_cut_of_readable {item next : Value} {items : List Value} {fuel : Nat}
    (hitem : item.IsJson) (hformed : item.wellFormed = true) (hgood : Readable item)
    (hnext : next.IsJson) (p : Nat) (rest : List Char)
    (hfuel : 2 * (cut (Value.commaSeparated ((item :: next :: items).map encoded) ++
      ']' :: rest)).length < fuel + 1) :
    ∃ q, 2 * (cut (Value.commaSeparated ((next :: items).map encoded) ++ ']' :: rest)).length <
        fuel ∧
      ∀ refusal, readItems fuel
          ⟨q, cut (Value.commaSeparated ((next :: items).map encoded) ++ ']' :: rest)⟩ =
            .error refusal →
        readItems (fuel + 1)
          ⟨p, cut (Value.commaSeparated ((item :: next :: items).map encoded) ++ ']' :: rest)⟩ =
            .error refusal := by
  obtain ⟨c, more, hbegins, hspace, -, hsemicolon⟩ := begins_encoded hnext
  obtain ⟨others, htexts⟩ := exists_commaSeparated c more (items.map encoded)
  rw [← hbegins, ← List.map_cons] at htexts
  have hcut : cut (Value.commaSeparated ((item :: next :: items).map encoded) ++ ']' :: rest) =
      encoded item ++ ',' :: ' ' :: c :: cut (others ++ ']' :: rest) := by
    rw [List.map_cons, List.map_cons, commaSeparated_cons_cons, ← List.map_cons, htexts,
      List.append_assoc, cut_append (hgood.semicolon_notMem hitem), List.cons_append,
      List.cons_append, cut_comma, List.cons_append, cut_cons hsemicolon]
  rw [hcut] at hfuel ⊢
  rw [htexts, List.cons_append, cut_cons hsemicolon]
  simp only [List.length_append, List.length_cons] at hfuel
  have hlong : (encoded item).length ≤ fuel := by omega
  have hback := (readsBack_encoded hitem hformed hgood.isShowable).read p hlong
    (endsNumber_cons ',' (' ' :: c :: cut (others ++ ']' :: rest)) (by decide))
  refine ⟨p + (encoded item).length + 2, ?_, fun refusal hrest => ?_⟩
  · rw [List.length_cons]
    omega
  · rw [readItems_more hspace hback, hrest]
    rfl

/-- The items of a list are read up to the first that is refused. -/
theorem readItems_cut {items : List Value} {fuel : Nat}
    (hjson : ∀ item ∈ items, item.IsJson ∧ item.wellFormed = true)
    (hrefused : ∀ item ∈ items, ¬ Readable item → IsRefused item)
    (hbad : ∃ item ∈ items, ¬ Readable item) (p : Nat) (rest : List Char)
    (hfuel : 2 * (cut (Value.commaSeparated (items.map encoded) ++ ']' :: rest)).length < fuel) :
    ∃ refusal, readItems fuel ⟨p, cut (Value.commaSeparated (items.map encoded) ++ ']' :: rest)⟩ =
      .error refusal ∧ ∃ item ∈ items, Stops item refusal := by
  induction items generalizing fuel p with
  | nil =>
    obtain ⟨item, hitem, -⟩ := hbad
    cases hitem
  | cons item items ih =>
    obtain ⟨fuel, rfl⟩ : ∃ k, fuel = k + 1 := ⟨fuel - 1, by omega⟩
    obtain ⟨⟨hitem, hformed⟩, hitems⟩ := List.forall_mem_cons.mp hjson
    obtain ⟨hfirst, hothers⟩ := List.forall_mem_cons.mp hrefused
    by_cases hgood : Readable item
    · -- the item is read, and one behind it is refused
      have hbad : ∃ item ∈ items, ¬ Readable item :=
        ((List.exists_mem_cons_iff _ item items).mp hbad).resolve_left (not_not_intro hgood)
      cases items with
      | nil =>
        obtain ⟨other, hother, -⟩ := hbad
        cases hother
      | cons next items =>
        obtain ⟨q, hless, hpasses⟩ := readItems_cut_of_readable hitem hformed hgood
          (hitems next List.mem_cons_self).1 p rest hfuel
        obtain ⟨refusal, hread, stopped, hmem, hstops⟩ := ih hitems hothers hbad q hless
        exact ⟨refusal, hpasses refusal hread, stopped, List.mem_cons_of_mem _ hmem, hstops⟩
    · obtain ⟨behind, hbehind, hends⟩ := exists_behind (encoded item) (items.map encoded)
        (endsNumber_cons ']' rest (by decide))
      rw [List.map_cons, hbehind] at hfuel ⊢
      obtain ⟨refusal, hread, hstops⟩ := hfirst hgood fuel p behind (Nat.le_of_lt_succ hfuel) hends
      refine ⟨refusal, ?_, item, List.mem_cons_self, hstops⟩
      rw [readItems, hread]
      rfl

/-! ## Mappings -/

section Members

variable {entries before : Entries} {fuel p q : Nat} {behind after name : List Char} {c : Char}
  {refusal : Refusal}

theorem readMembers_of_name
    (hname : readText p (behind.length + 1) ⟨p + 1, behind⟩ = .error refusal) :
    readMembers (fuel + 1) ⟨p, '"' :: behind⟩ before = .error refusal := by
  simp [readMembers, hname, bind, Except.bind]

theorem readMembers_of_value
    (hname : readText p (behind.length + 1) ⟨p + 1, behind⟩ =
      .ok (name, ⟨q, ':' :: ' ' :: c :: after⟩))
    (hc : Cursor.isSpace c = false)
    (hvalue : readValue fuel ⟨q + 2, c :: after⟩ = .error refusal) :
    readMembers (fuel + 1) ⟨p, '"' :: behind⟩ before = .error refusal := by
  have hcolon : Cursor.skipSpace ⟨q, ':' :: ' ' :: c :: after⟩ = ⟨q, ':' :: ' ' :: c :: after⟩ :=
    Cursor.skipSpace_cons q rfl
  have hblank : Cursor.skipSpace ⟨q + 1, ' ' :: c :: after⟩ = ⟨q + 2, c :: after⟩ :=
    Cursor.skipSpace_blank _ hc
  simp [readMembers, hname, hcolon, hblank, hvalue, bind, Except.bind]

/-- A name without a semicolon is read from what is left of its member. -/
theorem exists_name {text : String} {v : Value} (hname : ';' ∉ text.toList) (hjson : v.IsJson)
    (tail : List Char) (p : Nat) :
    ∃ behind q c after, cut (encodedMember (.text text, v) ++ tail) = '"' :: behind ∧
      readText p (behind.length + 1) ⟨p + 1, behind⟩ =
        .ok (text.toList, ⟨q, ':' :: ' ' :: c :: after⟩) ∧
      Cursor.isSpace c = false ∧ c :: after = cut (encoded v ++ tail) ∧
      (cut (encoded v ++ tail)).length ≤ behind.length := by
  obtain ⟨c, more, hbegins, hspace, -, hsemicolon⟩ := begins_encoded hjson
  have hquoted : ';' ∉ writtenText text.toList := by
    intro hmem
    rcases isPlain_writtenText hmem with hplain | ⟨-, hmem⟩
    · exact hplain.2.2 rfl
    · exact hname hmem
  have hvalue : c :: cut (more ++ tail) = cut (encoded v ++ tail) := by
    rw [hbegins, List.cons_append, cut_cons hsemicolon]
  have hmember : cut (encodedMember (.text text, v) ++ tail) =
      writtenText text.toList ++ ':' :: ' ' :: cut (encoded v ++ tail) := by
    rw [encodedMember, encodedKey, List.append_assoc, cut_append hquoted, List.cons_append,
      cut_cons (by decide), List.cons_append, cut_cons (by decide)]
  obtain ⟨behind, hbehind, hread⟩ :=
    readText_quoted text.toList (':' :: ' ' :: c :: cut (more ++ tail)) p
  refine ⟨behind, _, c, _, ?_, hread, hspace, hvalue, ?_⟩
  · rw [hmember, ← hvalue, hbehind]
  · have hlength := congrArg List.length hbehind
    simp only [List.length_append, List.length_cons] at hlength
    rw [← hvalue, List.length_cons]
    omega

/-- A readable member with others behind it is read, and the others are left. -/
theorem readMembers_cut_of_readable {text : String} {v : Value} {next : Value × Value}
    (hname : ';' ∉ text.toList) (hvalue : v.IsJson) (hformed : v.wellFormed = true)
    (hgood : Readable v) (p : Nat) (rest : List Char) (before : Entries)
    (hfuel : 2 * (cut (Value.commaSeparated (((.text text, v) :: next :: entries).map
      encodedMember) ++ '}' :: rest)).length < fuel + 1) :
    ∃ q before', 2 * (cut (Value.commaSeparated ((next :: entries).map encodedMember) ++
        '}' :: rest)).length < fuel ∧
      readMembers (fuel + 1) ⟨p, cut (Value.commaSeparated (((.text text, v) :: next ::
        entries).map encodedMember) ++ '}' :: rest)⟩ before =
      readMembers fuel
        ⟨q, cut (Value.commaSeparated ((next :: entries).map encodedMember) ++ '}' :: rest)⟩
        before' := by
  obtain ⟨others, htexts⟩ : ∃ others, Value.commaSeparated
      ((next :: entries).map encodedMember) = '"' :: others :=
    exists_commaSeparated '"' _ (entries.map encodedMember)
  have hjoined :
      Value.commaSeparated (((.text text, v) :: next :: entries).map encodedMember) ++ '}' :: rest =
        encodedMember (.text text, v) ++ ',' :: ' ' :: '"' :: (others ++ '}' :: rest) := by
    rw [List.map_cons, List.map_cons, commaSeparated_cons_cons, ← List.map_cons, htexts,
      List.append_assoc]
    rfl
  rw [hjoined] at hfuel ⊢
  rw [htexts, List.cons_append, cut_cons (by decide)]
  obtain ⟨behind, q, c, after, hbehind, hread, hspace, hafter, hshorter⟩ :=
    exists_name hname hvalue (',' :: ' ' :: '"' :: (others ++ '}' :: rest)) p
  rw [cut_append (hgood.semicolon_notMem hvalue), cut_comma, cut_cons (by decide)]
    at hafter hshorter
  rw [hbehind, List.length_cons] at hfuel
  simp only [List.length_append, List.length_cons] at hshorter
  have hlong : (encoded v).length ≤ fuel := by omega
  have hback := (readsBack_encoded hvalue hformed hgood.isShowable).read (q + 2) hlong
    (endsNumber_cons ',' (' ' :: '"' :: cut (others ++ '}' :: rest)) (by decide))
  rw [← hafter] at hback
  refine ⟨q + 2 + (encoded v).length + 2, Entries.insert (.ofChars text.toList) v before, ?_, ?_⟩
  · rw [List.length_cons]
    omega
  · rw [hbehind]
    exact readMembers_more hread hspace hback rfl

/-- The members of a mapping are read up to the first with a part that is refused. -/
theorem readMembers_cut
    (hjson : ∀ entry ∈ entries, (∃ name, entry.1 = .text name) ∧ entry.2.IsJson ∧
      entry.2.wellFormed = true)
    (hrefused : ∀ entry ∈ entries, ¬ Readable entry.2 → IsRefused entry.2)
    (hbad : ∃ entry ∈ entries, ¬ (Readable entry.1 ∧ Readable entry.2)) (p : Nat) (rest : List Char)
    (before : Entries)
    (hfuel : 2 * (cut (Value.commaSeparated (entries.map encodedMember) ++ '}' :: rest)).length <
      fuel) :
    ∃ refusal, readMembers fuel
      ⟨p, cut (Value.commaSeparated (entries.map encodedMember) ++ '}' :: rest)⟩ before =
        .error refusal ∧ ∃ entry ∈ entries, Stops entry.1 refusal ∨ Stops entry.2 refusal := by
  induction entries generalizing fuel p before with
  | nil =>
    obtain ⟨entry, hentry, -⟩ := hbad
    cases hentry
  | cons entry entries ih =>
    obtain ⟨fuel, rfl⟩ : ∃ k, fuel = k + 1 := ⟨fuel - 1, by omega⟩
    obtain ⟨⟨⟨text, hkey⟩, hvalue, hformed⟩, hothers⟩ := List.forall_mem_cons.mp hjson
    obtain ⟨hfirst, hmore⟩ := List.forall_mem_cons.mp hrefused
    obtain ⟨key, v⟩ := entry
    obtain rfl : key = .text text := hkey
    by_cases hgood : ';' ∉ text.toList ∧ Readable v
    · -- the member is read, and one behind it is refused
      have hreadable : Readable (.text text) ∧ Readable v :=
        ⟨⟨separable_text.mpr hgood.1, rfl⟩, hgood.2⟩
      have hbad : ∃ entry ∈ entries, ¬ (Readable entry.1 ∧ Readable entry.2) :=
        ((List.exists_mem_cons_iff _ (.text text, v) entries).mp hbad).resolve_left
          (not_not_intro hreadable)
      cases entries with
      | nil =>
        obtain ⟨other, hother, -⟩ := hbad
        cases hother
      | cons next entries =>
        obtain ⟨q, before', hless, hpasses⟩ := readMembers_cut_of_readable hgood.1 hvalue hformed
          hgood.2 p rest before hfuel
        obtain ⟨refusal, hrest, stopped, hmem, hstops⟩ := ih hothers hmore hbad q before' hless
        exact ⟨refusal, hpasses.trans hrest, stopped, List.mem_cons_of_mem _ hmem, hstops⟩
    · obtain ⟨tail, htail, hends⟩ := exists_behind (encodedMember (.text text, v))
        (entries.map encodedMember) (endsNumber_cons '}' rest (by decide))
      rw [List.map_cons, htail] at hfuel ⊢
      by_cases hname : ';' ∈ text.toList
      · -- the name is cut
        obtain ⟨start, hcut⟩ := exists_cut_writtenText hname (':' :: ' ' :: encoded v ++ tail)
        obtain ⟨problem, position, hread⟩ :=
          readText_unfinished start p ((start.flatMap writtenChar).length + 1) (p + 1)
        refine ⟨_, ?_, _, List.mem_cons_self,
          .inl (.semicolon (fun h => separable_text.mp h hname) problem position)⟩
        rw [encodedMember, encodedKey, List.append_assoc, hcut]
        exact readMembers_of_name hread
      · -- the name is read, and the value is refused
        obtain ⟨behind, q, c, after, hbehind, hread, hspace, hafter, hshorter⟩ :=
          exists_name hname hvalue tail p
        rw [hbehind, List.length_cons] at hfuel
        obtain ⟨refusal, hstopped, hstops⟩ := hfirst (fun h => hgood ⟨hname, h⟩) fuel (q + 2) tail
          (by omega) hends
        refine ⟨refusal, ?_, _, List.mem_cons_self, .inr hstops⟩
        rw [hbehind]
        exact readMembers_of_value hread hspace (by rw [hafter]; exact hstopped)

end Members

/-! ## Values -/

theorem isRefused_text {s : String} (h : ';' ∈ s.toList) : IsRefused (.text s) := by
  intro fuel p rest hfuel _
  obtain ⟨before, hcut⟩ := exists_cut_writtenText h rest
  change 2 * (cut (writtenText s.toList ++ rest)).length ≤ fuel at hfuel
  change ∃ refusal, readValue fuel ⟨p, cut (writtenText s.toList ++ rest)⟩ = _ ∧ _
  rw [hcut, List.length_cons] at hfuel
  rw [hcut]
  obtain ⟨fuel, rfl⟩ : ∃ k, fuel = k + 1 := ⟨fuel - 1, by omega⟩
  obtain ⟨problem, position, hread⟩ :=
    readText_unfinished before p ((before.flatMap writtenChar).length + 1) (p + 1)
  refine ⟨_, ?_, .semicolon (fun hall => separable_text.mp hall h) problem position⟩
  simp only [readValue, hread, bind, Except.bind]

theorem isRefused_int {i : Int} (h : (Value.int i).isShowable = false) : IsRefused (.int i) := by
  intro fuel p rest hfuel hrest
  obtain ⟨n, hn, htext, -, hlong⟩ := exists_numeral_integerText i
  have hnone : ';' ∉ n.text := fun hmem => (hn.isPlain hmem).2.2 rfl
  have hisLong : n.isLong = true := by
    rw [hlong]
    simpa [Value.isShowable] using h
  change 2 * (cut (Text.integerText i ++ rest)).length ≤ fuel at hfuel
  change ∃ refusal, readValue fuel ⟨p, cut (Text.integerText i ++ rest)⟩ = _ ∧ _
  obtain ⟨c, more, hbegins, -⟩ := begins_numeral hn
  rw [← htext, cut_append hnone] at hfuel ⊢
  obtain ⟨fuel, rfl⟩ : ∃ k, fuel = k + 1 := by
    refine ⟨fuel - 1, ?_⟩
    rw [hbegins, List.cons_append, List.length_cons] at hfuel
    omega
  refine ⟨_, ?_, .digits h n.whole.length⟩
  rw [hn.readValue_text hrest.cut, Numeral.outcome, if_pos hisLong]

theorem isRefused_list {items : List Value}
    (hjson : ∀ item ∈ items, item.IsJson ∧ item.wellFormed = true)
    (hrefused : ∀ item ∈ items, ¬ Readable item → IsRefused item)
    (hbad : ∃ item ∈ items, ¬ Readable item) : IsRefused (.list .plain items) := by
  intro fuel p rest hfuel _
  rw [encoded_list, List.cons_append, List.cons_append, cut_cons (by decide), List.append_assoc,
    List.singleton_append] at hfuel ⊢
  rw [List.length_cons] at hfuel
  obtain ⟨fuel, rfl⟩ : ∃ k, fuel = k + 1 := ⟨fuel - 1, by omega⟩
  obtain ⟨refusal, hread, item, hitem, hstops⟩ :=
    readItems_cut hjson hrefused hbad (p + 1) rest (show _ < fuel by omega)
  refine ⟨refusal, ?_, hstops.list hitem⟩
  cases items with
  | nil => cases hitem
  | cons first items =>
    obtain ⟨c, more, hfirst, hspace, hbracket, hsemicolon⟩ :=
      begins_encoded (hjson first List.mem_cons_self).1
    obtain ⟨others, htexts⟩ := exists_commaSeparated c more (items.map encoded)
    rw [← hfirst, ← List.map_cons] at htexts
    rw [htexts, List.cons_append, cut_cons hsemicolon] at hread ⊢
    have hinside : Cursor.skipSpace ⟨p + 1, c :: cut (others ++ ']' :: rest)⟩ =
        ⟨p + 1, c :: cut (others ++ ']' :: rest)⟩ := Cursor.skipSpace_cons _ hspace
    simp [readValue, hinside, hbracket, hread, bind, Except.bind]

theorem isRefused_map {entries : Entries}
    (hjson : ∀ entry ∈ entries, (∃ name, entry.1 = .text name) ∧ entry.2.IsJson ∧
      entry.2.wellFormed = true)
    (hrefused : ∀ entry ∈ entries, ¬ Readable entry.2 → IsRefused entry.2)
    (hbad : ∃ entry ∈ entries, ¬ (Readable entry.1 ∧ Readable entry.2)) :
    IsRefused (.map .plain entries) := by
  intro fuel p rest hfuel _
  rw [encoded_map, List.cons_append, List.cons_append, cut_cons (by decide), List.append_assoc,
    List.singleton_append] at hfuel ⊢
  rw [List.length_cons] at hfuel
  obtain ⟨fuel, rfl⟩ : ∃ k, fuel = k + 1 := ⟨fuel - 1, by omega⟩
  obtain ⟨refusal, hread, entry, hentry, hstops⟩ :=
    readMembers_cut hjson hrefused hbad (p + 1) rest [] (show _ < fuel by omega)
  obtain ⟨⟨name, hname⟩, -⟩ := hjson entry hentry
  refine ⟨refusal, ?_, .map hname hstops hentry⟩
  cases entries with
  | nil => cases hentry
  | cons first entries =>
    obtain ⟨others, htexts⟩ : ∃ others, Value.commaSeparated
        ((first :: entries).map encodedMember) = '"' :: others :=
      exists_commaSeparated '"' _ (entries.map encodedMember)
    rw [htexts, List.cons_append, cut_cons (by decide)] at hread ⊢
    have hinside : Cursor.skipSpace ⟨p + 1, '"' :: cut (others ++ '}' :: rest)⟩ =
        ⟨p + 1, '"' :: cut (others ++ '}' :: rest)⟩ := Cursor.skipSpace_cons _ rfl
    simp [readValue, hinside, hread, bind, Except.bind]

/-- What is left of a value that is not readable is refused, for a reason that lies in the value. -/
theorem isRefused_of_not_readable {v : Value} (hjson : v.IsJson) (hformed : v.wellFormed = true)
    (h : ¬ Readable v) : IsRefused v := by
  induction hjson with
  | text s =>
    exact isRefused_text (Classical.not_not.mp fun hnone => h ⟨separable_text.mpr hnone, rfl⟩)
  | int i =>
    exact isRefused_int (Bool.eq_false_iff.mpr fun hshown => h ⟨fun s hs => (by cases hs), hshown⟩)
  | @list items hitems ih =>
    have hformed := wellFormed_of_mem_items hformed
    have hbad : ∃ item ∈ items, ¬ Readable item := by
      by_contra hnone
      exact h (readable_list fun item hitem => by_contra fun hnot => hnone ⟨item, hitem, hnot⟩)
    exact isRefused_list (fun item hitem => ⟨hitems item hitem, hformed item hitem⟩)
      (fun item hitem => ih item hitem (hformed item hitem)) hbad
  | @map entries hnames hvalues ih =>
    have hformed := wellFormed_of_mem_entries hformed
    have hbad : ∃ entry ∈ entries, ¬ (Readable entry.1 ∧ Readable entry.2) := by
      by_contra hnone
      exact h (readable_map fun entry hentry => by_contra fun hnot => hnone ⟨entry, hentry, hnot⟩)
    exact isRefused_map
      (fun entry hentry => ⟨hnames entry hentry, hvalues entry hentry, hformed entry hentry⟩)
      (fun entry hentry => ih entry hentry (hformed entry hentry)) hbad
  | _ => exact absurd ⟨fun s hs => (by cases hs), rfl⟩ h

/-- What comes before the first semicolon is refused, if the value before it is not readable. -/
theorem readWhole_cut {v : Value} (hjson : v.IsJson) (hformed : v.wellFormed = true)
    (h : ¬ Readable v) (rest : List Char) :
    ∃ refusal, readWhole (cut (encoded v ++ ';' :: rest)) = .error refusal ∧ Stops v refusal := by
  have hends : EndsNumber (';' :: rest) := endsNumber_cons ';' rest (by decide)
  obtain ⟨c, more, hbegins, hspace, -, hsemicolon⟩ := begins_encoded hjson
  have hplain := isPlain_encoded hjson (hbegins ▸ List.mem_cons_self : c ∈ encoded v)
  have hmark : c ≠ Char.ofNat 0xFEFF := by
    rintro rfl
    rcases hplain with hplain | ⟨hsemicolon, -⟩
    · exact absurd hplain (by decide)
    · exact absurd hsemicolon (by decide)
  obtain ⟨refusal, hread, hstops⟩ := isRefused_of_not_readable hjson hformed h _ 0 _
    (Nat.le_add_right (2 * (cut (encoded v ++ ';' :: rest)).length) 2) hends
  refine ⟨refusal, ?_, hstops⟩
  rw [hbegins, List.cons_append, cut_cons hsemicolon] at hread ⊢
  have hstart : Cursor.skipSpace ⟨0, c :: cut (more ++ ';' :: rest)⟩ =
      ⟨0, c :: cut (more ++ ';' :: rest)⟩ := Cursor.skipSpace_cons _ hspace
  rw [readWhole, if_neg (by simpa using hmark), hstart, hread]
  rfl

end Json
end WorkflowAudit
