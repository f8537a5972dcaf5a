import Mathlib.Computability.Language
import Mathlib.Data.List.TakeWhile
import WorkflowAudit.Proofs.PlainPatterns
import WorkflowAudit.Script

/-! # Lines that expose the triggering event

What a line has to contain to be flagged can be said in three ways: as a search through the line
(`Script.isExposed`), as a text that the line is put together of (`Script.Exposes`), and as a
pattern that the line matches (`Script.exposurePattern`).  All three come to the same:
`isExposed_iff` and `textMatches_exposurePattern`.

Matching is by backtracking, and a matcher is told what is to follow it.  For a matcher to take the
words of a language (`Pattern.Takes`) means: wherever what follows depends on the rest of the
subject only, the matcher succeeds exactly when a word of the language lies ahead behind which what
follows succeeds.  Matchers in a row then take the products of their languages, and a repeated
character takes all words over its class, since all numbers of rounds are tried.
-/
namespace WorkflowAudit

/-! ## Searching a line -/

namespace Text

theorem after?_eq_some {lead text rest : List Char} :
    after? lead text = some rest ↔ text = lead ++ rest := by
  induction lead generalizing text with
  | nil => rw [after?, Option.some.injEq, List.nil_append]
  | cons c lead ih =>
    cases text with
    | nil => simp [after?]
    | cons d text =>
      by_cases h : c = d
      · rw [after?, if_pos h, ih, h, List.cons_append, List.cons.injEq]
        exact (and_iff_right rfl).symm
      · rw [after?, if_neg h]
        exact ⟨fun heq => (by cases heq), fun heq => absurd (List.cons.inj heq).1.symm h⟩

theorem startsWith_iff {lead text : List Char} :
    startsWith lead text = true ↔ ∃ rest, text = lead ++ rest := by
  rw [startsWith, Option.isSome_iff_exists]
  exact exists_congr fun rest => after?_eq_some

end Text

namespace Script

/-- A line exposes something of the triggering event: somewhere in it stands what opens an
expression, then white space or nothing, and then what refers to the event. -/
def Exposes (line : List Char) : Prop :=
  ∃ before blank after, line = before ++ expressionStart ++ blank ++ eventStart ++ after ∧
    ∀ c ∈ blank, Text.isBlank c = true

/-- White space before a text that does not start with any can be dropped. -/
theorem dropWhile_isBlank {rest : List Char} :
    Text.startsWith eventStart (rest.dropWhile Text.isBlank) = true ↔
      ∃ blank after, rest = blank ++ eventStart ++ after ∧ ∀ c ∈ blank, Text.isBlank c = true := by
  rw [Text.startsWith_iff]
  constructor
  · rintro ⟨after, hafter⟩
    refine ⟨rest.takeWhile Text.isBlank, after, ?_, fun c hc => List.mem_takeWhile_imp hc⟩
    rw [List.append_assoc, ← hafter, List.takeWhile_append_dropWhile]
  · rintro ⟨blank, after, rfl, hblank⟩
    refine ⟨after, ?_⟩
    rw [List.append_assoc, List.dropWhile_append_of_pos hblank]
    rfl

theorem startsExposure_iff {text : List Char} :
    startsExposure text = true ↔
      ∃ blank after, text = expressionStart ++ blank ++ eventStart ++ after ∧
        ∀ c ∈ blank, Text.isBlank c = true := by
  unfold startsExposure
  cases hrest : Text.after? expressionStart text with
  | none =>
    refine ⟨fun h => (by cases h), ?_⟩
    rintro ⟨blank, after, rfl, -⟩
    have hsome : Text.after? expressionStart (expressionStart ++ blank ++ eventStart ++ after) =
        some (blank ++ eventStart ++ after) := by
      rw [Text.after?_eq_some, List.append_assoc, List.append_assoc, List.append_assoc]
    rw [hsome] at hrest
    cases hrest
  | some rest =>
    obtain rfl := Text.after?_eq_some.mp hrest
    rw [dropWhile_isBlank]
    simp only [List.append_assoc, List.append_cancel_left_eq]

/-- The search finds what a line exposes. -/
theorem isExposed_iff {line : List Char} : isExposed line = true ↔ Exposes line := by
  induction line with
  | nil =>
    refine ⟨fun h => (by cases h), ?_⟩
    rintro ⟨before, blank, after, hline, -⟩
    simp [expressionStart] at hline
  | cons c rest ih =>
    rw [isExposed, Bool.or_eq_true, startsExposure_iff, ih]
    constructor
    · rintro (⟨blank, after, hline, hblank⟩ | ⟨before, blank, after, hrest, hblank⟩)
      · exact ⟨[], blank, after, hline, hblank⟩
      · exact ⟨c :: before, blank, after, congrArg (c :: ·) hrest, hblank⟩
    · rintro ⟨before, blank, after, hline, hblank⟩
      cases before with
      | nil => exact .inl ⟨blank, after, hline, hblank⟩
      | cons d before => exact .inr ⟨before, blank, after, (List.cons.inj hline).2, hblank⟩

instance : DecidablePred Exposes := fun line =>
    decidable_of_iff (isExposed line = true) isExposed_iff

end Script

/-! ## What matchers take -/

namespace Pattern

variable {subject : List Char} {matcher matcher' : Matcher} {taken taken' : Language Char}

/-- What is to follow is decided by the rest of the subject. -/
def Decides (subject : List Char) (follow : Continuation) (ok : List Char → Prop) : Prop :=
  ∀ p, (follow p).isSome = true ↔ ok (subject.drop p.position)

/-- A matcher takes the words of a language. -/
def Takes (subject : List Char) (matcher : Matcher) (words : Language Char) : Prop :=
  ∀ (follow : Continuation) (ok : List Char → Prop), Decides subject follow ok →
    Decides subject (matcher follow) fun rest => ∃ word ∈ words, ∃ left,
      rest = word ++ left ∧ ok left

/-- The words of one character that passes a test. -/
def letter (test : Char → Bool) : Language Char :=
  {word | ∃ c, word = [c] ∧ test c = true}

/-- The words all of whose characters pass a test. -/
def wordsOver (test : Char → Bool) : Language Char :=
  {word | ∀ c ∈ word, test c = true}

theorem takes_matchChar (subject : List Char) (test : Char → Bool) :
    Takes subject (matchChar subject.toArray test) (letter test) := by
  intro follow ok hfollow p
  simp only [matchChar, List.getElem?_toArray]
  cases hc : subject[p.position]? with
  | none =>
    rw [List.drop_eq_nil_of_le (List.getElem?_eq_none_iff.mp hc)]
    refine ⟨fun h => (by cases h), ?_⟩
    rintro ⟨word, ⟨c, rfl, -⟩, left, hnil, -⟩
    cases hnil
  | some c =>
    obtain ⟨hlt, rfl⟩ := List.getElem?_eq_some_iff.mp hc
    rw [List.drop_eq_getElem_cons hlt]
    dsimp only
    by_cases htest : test subject[p.position] = true
    · rw [if_pos htest, hfollow]
      constructor
      · intro hok
        exact ⟨_, ⟨_, rfl, htest⟩, _, rfl, hok⟩
      · rintro ⟨word, ⟨d, rfl, -⟩, left, hleft, hok⟩
        obtain ⟨-, rfl⟩ := List.cons.inj hleft
        exact hok
    · rw [if_neg htest]
      refine ⟨fun h => (by cases h), ?_⟩
      rintro ⟨word, ⟨d, rfl, hd⟩, left, hleft, -⟩
      obtain ⟨rfl, -⟩ := List.cons.inj hleft
      exact absurd hd htest

theorem takes_nothing (subject : List Char) : Takes subject (runAll subject.toArray []) 1 := by
  intro follow ok hfollow p
  rw [runAll, hfollow]
  constructor
  · intro hok
    exact ⟨[], rfl, _, rfl, hok⟩
  · rintro ⟨word, rfl, left, hleft, hok⟩
    rw [hleft]
    exact hok

/-- A matcher that hands another one what is to follow takes the words of the product. -/
theorem Takes.mul (h : Takes subject matcher taken) (h' : Takes subject matcher' taken') :
    Takes subject (fun follow p => matcher (fun q => matcher' follow q) p) (taken * taken') := by
  intro follow ok hfollow p
  refine (h _ _ (h' follow ok hfollow) p).trans ?_
  constructor
  · rintro ⟨word, hword, rest, hrest, word', hword', left, rfl, hok⟩
    exact ⟨word ++ word', Language.append_mem_mul hword hword', left,
      hrest.trans (List.append_assoc ..).symm, hok⟩
  · rintro ⟨_, hmul, left, hrest, hok⟩
    obtain ⟨word, hword, word', hword', rfl⟩ := Language.mem_mul.mp hmul
    exact ⟨word, hword, word' ++ left, hrest.trans (List.append_assoc ..), word', hword',
      left, rfl, hok⟩

theorem Takes.cons {part : Pattern} {parts : List Pattern}
    (h : Takes subject (run subject.toArray part) taken)
    (h' : Takes subject (runAll subject.toArray parts) taken') :
    Takes subject (runAll subject.toArray (part :: parts)) (taken * taken') := by
  rw [runAll]
  exact h.mul h'

theorem Takes.group {number : Nat} {body : Pattern}
    (h : Takes subject (run subject.toArray body) taken) :
    Takes subject (run subject.toArray (.group number body)) taken := by
  intro follow ok hfollow p
  rw [run]
  have hclosed : Decides subject (fun q => follow
      { q with groups := (number, p.position, q.position) :: q.groups }) ok := fun q => hfollow _
  exact h _ ok hclosed p

theorem Takes.sequence {parts : List Pattern}
    (h : Takes subject (runAll subject.toArray parts) taken) :
    Takes subject (run subject.toArray (.sequence parts)) taken := by
  rw [run]
  exact h

/-- A row of characters takes itself, and then what follows it in the row. -/
theorem Takes.literals {parts : List Pattern}
    (h : Takes subject (runAll subject.toArray parts) taken) (text : List Char) :
    Takes subject (runAll subject.toArray (text.map (fun c => Read.literal {} c.toNat) ++ parts))
      ({text} * taken) := by
  induction text with
  | nil =>
    show Takes subject _ (1 * taken)
    rw [one_mul]
    exact h
  | cons c text ih =>
    have hchar : Takes subject (run subject.toArray (Read.literal {} c.toNat)) {[c]} := by
      have hletter : letter (fun d => decide (c = d)) = {[c]} := by
        ext word
        constructor
        · rintro ⟨d, rfl, hd⟩
          exact congrArg (fun c => [c]) (of_decide_eq_true hd).symm
        · rintro rfl
          exact ⟨c, rfl, decide_eq_true rfl⟩
      rw [run_literal, ← hletter]
      exact takes_matchChar subject _
    have hword : ({c :: text} : Language Char) = {[c]} * {text} := by
      exact (Set.image2_singleton (f := (· ++ ·)) (a := [c]) (b := text)).symm
    rw [hword, mul_assoc]
    exact hchar.cons ih

/-! ### Repetition -/

variable {test : Char → Bool} {ok : List Char → Prop}

theorem exists_word_nil :
    (∃ word ∈ wordsOver test, ∃ left, [] = word ++ left ∧ ok left) ↔ ok [] := by
  constructor
  · rintro ⟨word, -, left, hnil, hok⟩
    obtain ⟨-, rfl⟩ := List.append_eq_nil_iff.mp hnil.symm
    exact hok
  · intro hok
    exact ⟨[], List.forall_mem_nil _, [], rfl, hok⟩

/-- A word over a class ends at once, or it takes the next character if that is in the class. -/
theorem exists_word_cons {c : Char} {rest : List Char} :
    (∃ word ∈ wordsOver test, ∃ left, c :: rest = word ++ left ∧ ok left) ↔
      (test c = true ∧ ∃ word ∈ wordsOver test, ∃ left, rest = word ++ left ∧ ok left) ∨
        ok (c :: rest) := by
  constructor
  · rintro ⟨word, hword, left, hrest, hok⟩
    cases word with
    | nil =>
      rw [hrest]
      exact .inr hok
    | cons d word =>
      obtain ⟨rfl, rfl⟩ := List.cons.inj hrest
      obtain ⟨hd, hword⟩ := List.forall_mem_cons.mp hword
      exact .inl ⟨hd, word, hword, left, rfl, hok⟩
  · rintro (⟨hc, word, hword, left, rfl, hok⟩ | hok)
    · exact ⟨c :: word, List.forall_mem_cons.mpr ⟨hc, hword⟩, left, rfl, hok⟩
    · exact ⟨[], List.forall_mem_nil _, c :: rest, rfl, hok⟩

/-- Rounds over a class of characters try all words over it, the longest first.  Each round starts
behind the one before it, so there are enough of them for what is left of the subject. -/
theorem isSome_rounds {follow : Continuation} (hfollow : Decides subject follow ok)
    {fuel done : Nat}
    {last : Option Nat} {p : Progress} (hfuel : (subject.drop p.position).length < fuel)
    (hlast : last ≠ some p.position) :
    (rounds .greedy (matchChar subject.toArray test) 0 none fuel done last follow p).isSome = true ↔
      ∃ word ∈ wordsOver test, ∃ left, subject.drop p.position = word ++ left ∧ ok left := by
  induction fuel generalizing done last p with
  | zero => exact absurd hfuel (Nat.not_lt_zero _)
  | succ fuel ih =>
    simp only [rounds, Nat.not_lt_zero, if_false, Option.all_none, Bool.true_and, hlast, ne_eq,
      not_false_eq_true, decide_true, if_true, Option.isSome_or, Bool.or_eq_true, hfollow p,
      matchChar, List.getElem?_toArray]
    cases hc : subject[p.position]? with
    | none =>
      rw [List.drop_eq_nil_of_le (List.getElem?_eq_none_iff.mp hc), exists_word_nil]
      simp
    | some c =>
      obtain ⟨hlt, rfl⟩ := List.getElem?_eq_some_iff.mp hc
      rw [List.drop_eq_getElem_cons hlt] at hfuel ⊢
      rw [exists_word_cons]
      refine or_congr_left ?_
      by_cases htest : test subject[p.position] = true
      · have hnext := @ih (done + 1) (some p.position) { p with position := p.position + 1 }
          (Nat.lt_of_succ_lt_succ hfuel) (by simp)
        simp only [htest, if_true, true_and]
        exact hnext
      · simp only [htest]
        exact ⟨fun h => (by cases h), fun h => (by cases h.1)⟩

theorem Takes.star {body : Pattern}
    (h : run subject.toArray body = matchChar subject.toArray test) :
    Takes subject (run subject.toArray (.repetition .greedy 0 none body)) (wordsOver test) := by
  intro follow ok hfollow p
  rw [run, h, Nat.zero_min]
  refine isSome_rounds hfollow ?_ (Option.some_ne_none _).symm
  rw [List.length_drop, List.size_toArray]
  omega

/-! ## Reading marks -/

namespace Read

variable {fuel : Nat} {first : Bool} {soFar : List Pattern} {reader reader' : Reader}
  {rest : List Char}

theorem accept_self {c : Char} (h : reader.rest = c :: rest) (hrest : rest ≠ ['\\']) :
    accept c reader = .ok (true, { reader with rest := rest }) := by
  unfold accept
  rw [bind_of_ok (get_apply reader), h]
  dsimp only
  rw [if_pos rfl]
  exact bind_of_ok (goOn_apply hrest reader)

/-- A backslash with a character behind it is one piece. -/
theorem next_escape {c : Char} (hrest : rest ≠ ['\\']) (h : reader.rest = '\\' :: c :: rest) :
    next reader = .ok (some ['\\', c], { reader with rest := rest }) := by
  unfold next
  rw [bind_of_ok (get_apply reader), h]
  exact bind_of_ok (goOn_apply hrest reader)

/-- An escape adds its pattern to the row. -/
theorem parts_escape {c : Char} {part : Pattern} (hrest : rest ≠ ['\\'])
    (h : reader.rest = '\\' :: c :: rest)
    (hescape : escape {} c { reader with rest := rest } =
      .ok (part, { reader with rest := rest })) :
    parts (fuel + 1) {} first soFar reader =
      parts fuel {} first (soFar ++ [part]) { reader with rest := rest } := by
  rw [parts, bind_of_ok (peek_apply reader), h]
  simp only [List.head?_cons]
  rw [if_neg (by decide), bind_of_ok (next_escape hrest h)]
  exact bind_of_ok hescape

theorem repeatMode_greedy (hlazy : reader.rest.head? ≠ some '?')
    (hpossessive : reader.rest.head? ≠ some '+') : repeatMode reader = .ok (.greedy, reader) := by
  unfold repeatMode
  rw [bind_of_ok (accept_of_ne hlazy)]
  exact bind_of_ok (accept_of_ne hpossessive)

/-- A star repeats the last part, as often as possible where no other mark follows. -/
theorem parts_star (soFar : List Pattern) {part : Pattern} (hpart : isRepeatable part = true)
    (h : reader.rest = '*' :: rest) (hrest : rest ≠ ['\\']) (hlazy : rest.head? ≠ some '?')
    (hpossessive : rest.head? ≠ some '+') :
    parts (fuel + 1) {} first (soFar ++ [part]) reader =
      parts fuel {} first (soFar ++ [.repetition .greedy 0 none part])
        { reader with rest := rest } := by
  have hrepeat : repeatLast (soFar ++ [part]) ⟨0, none⟩ { reader with rest := rest } =
      .ok (soFar ++ [.repetition .greedy 0 none part], { reader with rest := rest }) := by
    unfold repeatLast
    rw [List.getLast?_concat, List.dropLast_concat]
    dsimp only
    rw [if_pos hpart, bind_of_ok (repeatMode_greedy hlazy hpossessive)]
    rfl
  rw [parts, bind_of_ok (peek_apply reader), h]
  simp only [List.head?_cons]
  rw [if_neg (by decide), bind_of_ok (next_apply (by decide) hrest h)]
  exact bind_of_ok hrepeat

theorem takeUpTo_of_not {c : Char} {test : Char → Bool} (count : Nat) (h : reader.rest = c :: rest)
    (hrest : c :: rest ≠ ['\\']) (hc : test c = false) :
    takeUpTo count test reader = .ok ([], reader) := by
  have htaken : (reader.rest.take count).takeWhile test = [] := by
    rw [h]
    cases count with
    | zero => rfl
    | succ count => rw [List.take_succ_cons, List.takeWhile_cons_of_neg (Bool.eq_false_iff.mp hc)]
  unfold takeUpTo
  rw [bind_of_ok (get_apply reader), htaken]
  exact bind_of_ok (goOn_apply (h ▸ hrest) reader)

/-- Numbers of rounds start with a digit or a comma. -/
theorem bracedRounds_of_ne {c : Char} (h : reader.rest = c :: rest) (hrest : c :: rest ≠ ['\\'])
    (hdigit : c.isDigit = false) (hcomma : c ≠ ',') (hclose : c ≠ '}') :
    bracedRounds reader = .ok (none, reader) := by
  have hnoComma : accept ',' reader = .ok (false, reader) := accept_of_ne (by simp [h, hcomma])
  have hnoClose : accept '}' reader = .ok (false, reader) := accept_of_ne (by simp [h, hclose])
  unfold bracedRounds
  rw [bind_of_ok (get_apply reader)]
  simp only [h, List.cons.injEq, hclose, false_and, imp_self, implies_true]
  rw [bind_of_ok (takeUpTo_of_not _ h hrest hdigit), bind_of_ok hnoComma, if_neg (by decide),
    pure_bind, bind_of_ok hnoClose]
  rfl

/-- An opening brace without numbers behind it stands for itself. -/
theorem parts_brace {c : Char} (h : reader.rest = '{' :: c :: rest) (hrest : c :: rest ≠ ['\\'])
    (hdigit : c.isDigit = false) (hcomma : c ≠ ',') (hclose : c ≠ '}') :
    parts (fuel + 1) {} first soFar reader =
      parts fuel {} first (soFar ++ [literal {} '{'.toNat]) { reader with rest := c :: rest } := by
  have hrounds : bracedRounds { reader with rest := c :: rest } =
      .ok (none, { reader with rest := c :: rest }) :=
    bracedRounds_of_ne rfl hrest hdigit hcomma hclose
  rw [parts, bind_of_ok (peek_apply reader), h]
  simp only [List.head?_cons]
  rw [if_neg (by decide), bind_of_ok (next_apply (by decide) hrest h)]
  exact bind_of_ok hrounds

/-- A row ends at a closing parenthesis. -/
theorem parts_close (h : reader.rest = ')' :: rest) :
    parts (fuel + 1) {} first soFar reader = .ok (.sequence soFar, reader) := by
  rw [parts, bind_of_ok (peek_apply reader), h]
  rfl

/-- A group is read up to its closing parenthesis, and gets the next number. -/
theorem parts_group {body : Pattern} (h : reader.rest = '(' :: rest) (hrest : rest ≠ ['\\'])
    (hplain : rest.head? ≠ some '?') {left : List Char} (hleft : left ≠ ['\\'])
    (hbody : parts fuel {} false []
      { reader with rest := rest, widths := reader.widths ++ [none] } =
      .ok (body, { reader with rest := ')' :: left, widths := reader.widths ++ [none] })) :
    parts (fuel + 3) {} first soFar reader =
      parts (fuel + 2) {} first (soFar ++ [.group (reader.widths.length + 1) body])
        { reader with
          rest := left
          widths := (reader.widths ++ [none]).set reader.widths.length (some body.width) } := by
  have hopen : openGroup none { reader with rest := rest } =
      .ok (reader.widths.length + 1,
        { reader with rest := rest, widths := reader.widths ++ [none] }) := rfl
  have hclose : closeParenthesis
      { reader with rest := ')' :: left, widths := reader.widths ++ [none] } =
      .ok ((), { reader with rest := left, widths := reader.widths ++ [none] }) :=
    bind_of_ok (accept_self rfl hleft)
  have hgroup : numberedGroup (fuel + 2) {} none { reader with rest := rest } =
      .ok (.group (reader.widths.length + 1) body, { reader with
        rest := left
        widths := (reader.widths ++ [none]).set reader.widths.length (some body.width) }) := by
    rw [numberedGroup, bind_of_ok hopen, bind_of_ok (alternatives_single hbody (by simp)),
      bind_of_ok hclose]
    rfl
  rw [parts, bind_of_ok (peek_apply reader), h]
  simp only [List.head?_cons]
  rw [if_neg (by decide), bind_of_ok (next_apply (by decide) hrest h)]
  exact (bind_of_ok (accept_of_ne hplain)).trans (bind_of_ok hgroup)

end Read

/-! ## The pattern of exposures -/

end Pattern

namespace Script

open Pattern

/-- The pattern of a line that exposes something of the triggering event. -/
def exposurePattern : List Char :=
  ".*(\\$\x7b\x7b\\s*github\\.).*".toList

/-- Any characters but a newline. -/
def anything : Pattern := .repetition .greedy 0 none (.any {})

/-- White space, if any. -/
def blanks : Pattern := .repetition .greedy 0 none (.oneOf {} false [.ofClass .space false])

/-- What the pattern has between its parentheses. -/
def exposureParts : List Pattern :=
  expressionStart.map (fun c => Read.literal {} c.toNat) ++
    blanks :: (eventStart.map (fun c => Read.literal {} c.toNat) ++ [])

open Read in
theorem parts_exposure {fuel : Nat} {reader : Reader} {left : List Char}
    (h : reader.rest = '\\' :: '$' :: '{' :: '{' :: '\\' :: 's' :: '*' :: 'g' :: 'i' ::
      't' :: 'h' :: 'u' :: 'b' :: '\\' :: '.' :: ')' :: left) :
    parts (fuel + 13) {} false [] reader =
      .ok (.sequence exposureParts, { reader with rest := ')' :: left }) := by
  refine .trans (parts_escape (by simp) h rfl) ?_
  refine .trans (parts_brace rfl (by simp) rfl (by decide) (by decide)) ?_
  refine .trans (parts_brace rfl (by simp) rfl (by decide) (by decide)) ?_
  refine .trans (parts_escape (by simp) rfl rfl) ?_
  refine .trans (parts_star _ rfl rfl (by simp) (by simp) (by simp)) ?_
  -- the letters of the name
  refine .trans (parts_plain rfl (by simp) rfl) ?_
  refine .trans (parts_plain rfl (by simp) rfl) ?_
  refine .trans (parts_plain rfl (by simp) rfl) ?_
  refine .trans (parts_plain rfl (by simp) rfl) ?_
  refine .trans (parts_plain rfl (by simp) rfl) ?_
  refine .trans (parts_plain rfl (by simp) rfl) ?_
  refine .trans (parts_escape (by simp) rfl rfl) ?_
  exact parts_close rfl

/-- The pattern, character by character. -/
theorem exposurePattern_eq :
    exposurePattern = ['.', '*', '(', '\\', '$', '{', '{', '\\', 's', '*', 'g', 'i', 't',
      'h', 'u', 'b', '\\', '.', ')', '.', '*'] :=
  String.toList_ofList

open Read in
theorem parts_exposurePattern (fuel : Nat) :
    parts (fuel + 20) {} true [] { rest := exposurePattern } =
      .ok (.sequence [anything, .group 1 (.sequence exposureParts), anything],
        { rest := [], widths := [some (sequence exposureParts).width] }) := by
  rw [exposurePattern_eq]
  refine .trans (parts_plain rfl (by simp) rfl) ?_
  refine .trans (parts_star [] rfl rfl (by simp) (by simp) (by simp)) ?_
  refine .trans (parts_group rfl (by simp) (by simp) (by simp) (parts_exposure rfl)) ?_
  refine .trans (parts_plain rfl (by simp) rfl) ?_
  refine .trans (parts_star [anything, _] rfl rfl (by simp) (by simp) (by simp)) ?_
  exact parts_end rfl

theorem ofText_exposurePattern :
    ofText exposurePattern =
      .ok (.sequence [anything, .group 1 (.sequence exposureParts), anything]) := by
  have hfuel : 8 * exposurePattern.length + 16 = 163 + 20 + 1 := by
    rw [exposurePattern_eq]
    rfl
  have hwhole := Read.whole_of_alternatives (by rw [exposurePattern_eq]; decide)
    (Read.alternatives_single (parts_exposurePattern 163) (by simp)) rfl rfl rfl rfl rfl
  unfold ofText
  rw [hfuel, StateT.run'_eq, StateT.run, hwhole]
  rfl

/-- The words that the pattern takes. -/
def exposureWords : Language Char :=
  wordsOver (· ≠ '\n') *
    ({expressionStart} * (wordsOver Text.isBlank * ({eventStart} * 1)) *
      (wordsOver (· ≠ '\n') * 1))

theorem takes_exposurePattern (line : List Char) :
    Takes line (run line.toArray
      (.sequence [anything, .group 1 (.sequence exposureParts), anything]))
      exposureWords := by
  have hanything : Takes line (run line.toArray anything) (wordsOver (· ≠ '\n')) :=
    .star (by rw [run]; rfl)
  have hblanks : Takes line (run line.toArray blanks) (wordsOver Text.isBlank) := by
    refine .star ?_
    rw [run]
    congr 1
    funext c
    simp [setHas, memberHas, CharClass.has]
  have hparts :=
      ((hblanks.cons ((takes_nothing line).literals eventStart)).literals expressionStart)
  exact (hanything.cons (hparts.sequence.group.cons (hanything.cons (takes_nothing line)))).sequence

/-- A line without newlines exposes something exactly when it starts with a word of the pattern,
which may as well be the whole line. -/
theorem exists_exposureWord {line : List Char} (hline : '\n' ∉ line) :
    (∃ word ∈ exposureWords, ∃ left, line = word ++ left ∧ True) ↔ Exposes line := by
  constructor
  · rintro ⟨_, hword, left, hleft, -⟩
    obtain ⟨before, -, _, hrest, rfl⟩ := Language.mem_mul.mp hword
    obtain ⟨_, hgroup, _, hend, rfl⟩ := Language.mem_mul.mp hrest
    obtain ⟨_, rfl, _, hopened, rfl⟩ := Language.mem_mul.mp hgroup
    obtain ⟨blank, hblank, _, hevent, rfl⟩ := Language.mem_mul.mp hopened
    obtain ⟨_, rfl, _, rfl, rfl⟩ := Language.mem_mul.mp hevent
    obtain ⟨after, -, _, rfl, rfl⟩ := Language.mem_mul.mp hend
    refine ⟨before, blank, after ++ left, ?_, hblank⟩
    simpa only [List.append_assoc, List.append_nil] using hleft
  · rintro ⟨before, blank, after, rfl, hblank⟩
    have hover : ∀ part ⊆ before ++ expressionStart ++ blank ++ eventStart ++ after,
        part ∈ wordsOver (· ≠ '\n') := by
      intro part hpart c hc
      exact decide_eq_true fun he => hline (he ▸ hpart hc)
    refine ⟨_, Language.append_mem_mul (hover before (by simp))
      (Language.append_mem_mul (Language.append_mem_mul rfl (Language.append_mem_mul hblank
        (Language.append_mem_mul rfl rfl)))
          (Language.append_mem_mul (hover after (List.subset_append_right _ _)) rfl)),
      [], ?_, trivial⟩
    simp only [List.append_assoc, List.append_nil]

/-- **A line matches the pattern exactly when it exposes something.** -/
theorem textMatches_exposurePattern {line : List Char} (hline : '\n' ∉ line) :
    textMatches exposurePattern line = .ok (decide (Exposes line)) := by
  have htaken := takes_exposurePattern line some (fun _ => True) (fun _ => iff_of_true rfl trivial)
    ⟨0, []⟩
  have hmatches : matchesStart
      (.sequence [anything, .group 1 (.sequence exposureParts), anything]) line =
      decide (Exposes line) := by
    rw [Bool.eq_iff_iff, decide_eq_true_iff, ← exists_exposureWord hline]
    exact htaken
  unfold textMatches
  rw [ofText_exposurePattern]
  exact congrArg Except.ok hmatches

end Script

end WorkflowAudit
