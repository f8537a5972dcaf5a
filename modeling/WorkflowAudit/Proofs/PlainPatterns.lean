import WorkflowAudit.Pattern.Reader

/-! # Patterns without marks

A text whose characters have no special meaning in patterns is read as a row of single characters:
a dot is any character but a newline, and every other character is itself.  Such a pattern matches
exactly when the subject starts with the text, dots standing for any character
(`textMatches_of_plain`).  Names of versions, branches and commits are texts of this kind.
-/
namespace WorkflowAudit.Pattern

/-- Whether a character is a mark of the pattern language.  A dot is a pattern by itself. -/
def isMark (c : Char) : Bool :=
  ['\\', '|', '(', ')', '[', '^', '$', '?', '*', '+', '{'].contains c

/-- A text without marks. -/
def Plain (text : List Char) : Prop :=
  ∀ c ∈ text, isMark c = false

theorem plain_cons {c : Char} {text : List Char} :
    Plain (c :: text) ↔ isMark c = false ∧ Plain text :=
  List.forall_mem_cons

theorem ne_backslash_of_plain {text : List Char} (h : Plain text) : text ≠ ['\\'] := by
  rintro rfl
  exact absurd (h '\\' List.mem_cons_self) (by decide)

/-- The pattern of a character that is no mark. -/
def plainPart (c : Char) : Pattern :=
  if c = '.' then .any {} else Read.literal {} c.toNat

/-- Whether a character that is no mark stands for a character: a dot stands for all but a
newline. -/
def standsFor (c d : Char) : Bool :=
  if c = '.' then d ≠ '\n' else c = d

/-- Whether a subject starts with what the characters of a text stand for. -/
def startsLike : (text subject : List Char) → Bool
  | [], _ => true
  | _ :: _, [] => false
  | c :: text, d :: subject => standsFor c d && startsLike text subject

/-! ## Reading -/

namespace Read

variable {fuel : Nat} {first : Bool} {soFar : List Pattern} {reader reader' : Reader}

/-- A step after another one starts where the first has ended. -/
theorem bind_of_ok {α β : Type} {step : Read α} {next : α → Read β} {reader' : Reader} {a : α}
    (h : step reader = .ok (a, reader')) : (step >>= next) reader = next a reader' := by
  show (step reader >>= fun (a, reader') => next a reader') = _
  rw [h]
  rfl

theorem peek_apply (reader : Reader) : peek reader = .ok (reader.rest.head?, reader) := rfl

theorem get_apply (reader : Reader) : (get : Read Reader) reader = .ok (reader, reader) := rfl

theorem goOn_apply {rest : List Char} (hrest : rest ≠ ['\\']) (reader : Reader) :
    goOn rest reader = .ok ((), { reader with rest := rest }) := by
  rw [goOn, if_neg hrest]
  rfl

/-- The next piece is a single character, unless it is a backslash. -/
theorem next_apply {c : Char} {rest : List Char} (hc : c ≠ '\\') (hrest : rest ≠ ['\\'])
    (h : reader.rest = c :: rest) :
    next reader = .ok (some [c], { reader with rest := rest }) := by
  have hpiece : piece? reader.rest = some ([c], rest) := by
    rw [h]
    simp [piece?, hc]
  unfold next
  rw [bind_of_ok (get_apply reader), hpiece]
  exact bind_of_ok (goOn_apply hrest reader)

theorem accept_of_ne {c : Char} (h : reader.rest.head? ≠ some c) :
    accept c reader = .ok (false, reader) := by
  unfold accept
  rw [bind_of_ok (get_apply reader)]
  cases hrest : reader.rest with
  | nil => rfl
  | cons d rest =>
    have hne : c ≠ d := by
      rintro rfl
      exact h (by rw [hrest]; rfl)
    dsimp only
    rw [if_neg hne]
    rfl

theorem parts_end (h : reader.rest = []) :
    parts (fuel + 1) {} first soFar reader = .ok (.sequence soFar, reader) := by
  rw [parts, bind_of_ok (peek_apply reader), h]
  rfl

/-- A row with no bar behind it is the only alternative. -/
theorem alternatives_single {top : Bool} {pattern : Pattern}
    (hparts : parts fuel {} (top && true) [] reader = .ok (pattern, reader'))
    (h : reader'.rest.head? ≠ some '|') :
    alternatives (fuel + 1) {} top true reader = .ok (pattern, reader') := by
  rw [alternatives, bind_of_ok hparts, bind_of_ok (accept_of_ne h)]
  rfl

/-- A pattern is whole when nothing is left of its text, and it has no flags or conditions to
check. -/
theorem whole_of_alternatives {text : List Char} {pattern : Pattern} (htext : text ≠ ['\\'])
    (h : alternatives fuel {} true true { rest := text } = .ok (pattern, reader'))
    (hrest : reader'.rest = []) (hascii : reader'.asksAscii = false)
    (hconditions : reader'.conditionGroups = []) (hbehind : reader'.hasLooseLookbehind = false)
    (htemplate : reader'.asksTemplate = false) :
    whole fuel { rest := text } = .ok (pattern, reader') := by
  unfold whole
  rw [bind_of_ok (get_apply _), bind_of_ok (goOn_apply htext _), bind_of_ok h,
    bind_of_ok (get_apply reader'), hrest, hascii, hconditions, hbehind, htemplate]
  rfl

/-- A character that is no mark adds its pattern to the row. -/
theorem parts_plain {c : Char} {rest : List Char} (hc : isMark c = false)
    (hrest : rest ≠ ['\\']) (h : reader.rest = c :: rest) :
    parts (fuel + 1) {} first soFar reader =
      parts fuel {} first (soFar ++ [plainPart c]) { reader with rest := rest } := by
  simp only [isMark, List.contains_eq_mem, List.mem_cons, List.not_mem_nil, or_false,
    decide_eq_false_iff_not, not_or] at hc
  obtain ⟨hescape, hbar, hopen, hclose, hset, hstart, hend, hoption, hstar, hplus, hbrace⟩ := hc
  rw [parts, bind_of_ok (peek_apply reader), h]
  simp only [List.head?_cons, hbar, hclose, decide_false, Bool.or_false,
    Bool.false_eq_true, if_false]
  rw [bind_of_ok (next_apply hescape hrest h)]
  -- every test for a mark fails; the one for a dot is left
  simp only [Bool.false_and, Bool.false_eq_true, if_false, hset, hstart, hend, hoption, hstar,
    hplus, hbrace, hopen]
  unfold plainPart
  split
  · rfl
  · rfl

/-- A plain text is read to its end, as the row of the patterns of its characters. -/
theorem parts_of_plain {text : List Char} (hplain : Plain text) (hfuel : text.length < fuel)
    (h : reader.rest = text) :
    parts fuel {} first soFar reader =
      .ok (.sequence (soFar ++ text.map plainPart), { reader with rest := [] }) := by
  induction text generalizing fuel soFar reader with
  | nil =>
    -- finding the end takes the last unit of fuel
    obtain ⟨fuel, rfl⟩ := Nat.exists_eq_add_one_of_ne_zero (Nat.ne_of_gt hfuel)
    have hsame : { reader with rest := [] } = reader := by rw [← h]
    rw [parts_end h, hsame, List.map_nil, List.append_nil]
  | cons c rest ih =>
    obtain ⟨hc, hrest⟩ := plain_cons.mp hplain
    obtain ⟨fuel, rfl⟩ := Nat.exists_eq_add_one_of_ne_zero (Nat.ne_of_gt (Nat.zero_lt_of_lt hfuel))
    rw [parts_plain hc (ne_backslash_of_plain hrest) h, ih hrest (by simpa using hfuel) rfl,
      List.map_cons, List.append_assoc, List.singleton_append]

/-- A plain text has no alternatives. -/
theorem alternatives_of_plain {text : List Char} (hplain : Plain text)
    (hfuel : text.length < fuel) (h : reader.rest = text) :
    alternatives (fuel + 1) {} true true reader =
      .ok (.sequence (text.map plainPart), { reader with rest := [] }) :=
  alternatives_single (parts_of_plain hplain hfuel h) nofun

/-- A plain text is a whole pattern. -/
theorem whole_of_plain {text : List Char} (hplain : Plain text) (hfuel : text.length < fuel) :
    whole (fuel + 1) { rest := text } = .ok (.sequence (text.map plainPart), { rest := [] }) :=
  whole_of_alternatives (ne_backslash_of_plain hplain) (alternatives_of_plain hplain hfuel rfl)
    rfl rfl rfl rfl rfl

end Read

theorem ofText_of_plain {text : List Char} (h : Plain text) :
    ofText text = .ok (.sequence (text.map plainPart)) := by
  have hfuel : text.length < 8 * text.length + 15 := by omega
  unfold ofText
  rw [StateT.run'_eq, StateT.run, Read.whole_of_plain h hfuel]
  rfl

/-! ## Matching -/

theorem setHas_single (c d : Char) : setHas {} [.range c.toNat c.toNat] d = decide (c = d) := by
  simp only [setHas, List.any_cons, List.any_nil, memberHas, Bool.or_false, Bool.false_and]
  by_cases h : c = d
  · subst h
    simp
  · -- a set is a range of code points, here of a single one
    have hne : c.toNat ≠ d.toNat := fun he => h (Char.toNat_inj.mp he)
    simp only [h, decide_false, Bool.and_eq_false_iff, decide_eq_false_iff_not]
    omega

theorem run_literal (subject : Array Char) (c : Char) :
    run subject (Read.literal {} c.toNat) = matchChar subject fun d => decide (c = d) := by
  rw [Read.literal, run]
  congr 1
  funext d
  simp [setHas_single]

/-- The pattern of a character that is no mark matches what the character stands for. -/
theorem run_plainPart (subject : Array Char) (c : Char) :
    run subject (plainPart c) = matchChar subject (standsFor c) := by
  unfold plainPart
  by_cases h : c = '.'
  · rw [if_pos h, run]
    congr 1
    funext d
    simp [standsFor, h]
  · rw [if_neg h, run_literal]
    congr 1
    funext d
    simp [standsFor, h]

theorem isSome_runAll_plain (text subject : List Char) (start : Progress) :
    (runAll subject.toArray (text.map plainPart) some start).isSome =
      startsLike text (subject.drop start.position) := by
  induction text generalizing start with
  | nil => rfl
  | cons c text ih =>
    rw [List.map_cons, runAll, run_plainPart]
    simp only [matchChar, List.getElem?_toArray]
    cases hd : subject[start.position]? with
    | none =>
      rw [List.drop_eq_nil_of_le (List.getElem?_eq_none_iff.mp hd)]
      rfl
    | some d =>
      obtain ⟨hlt, rfl⟩ := List.getElem?_eq_some_iff.mp hd
      rw [List.drop_eq_getElem_cons hlt, startsLike]
      by_cases hfits : standsFor c subject[start.position] = true
      · simp only [hfits, if_true, Bool.true_and]
        exact ih _
      · simp only [hfits, Bool.false_and]
        rfl

/-- **A plain text matches what starts like it.** -/
theorem textMatches_of_plain {text : List Char} (h : Plain text) (subject : List Char) :
    textMatches text subject = .ok (startsLike text subject) := by
  unfold textMatches matchesStart
  rw [ofText_of_plain h]
  show Except.ok (run subject.toArray (.sequence (text.map plainPart)) some ⟨0, []⟩).isSome = _
  rw [run, isSome_runAll_plain]
  rfl

end WorkflowAudit.Pattern
