import WorkflowAudit.Yaml.Token.Stream

/-! # Faults of tokens

Reading a document text can go wrong at every step, and what becomes of a text depends on what went
wrong: a text whose characters form no tokens counts as no document, while other faults are
failures. This module says which faults reading tokens can end in.  There are three (`IsLexical`).
Two of them are failures, though they lie in the characters: an escape in double quotes that stands
for no character, and one whose number is too large to be looked at.

`Raises` says of a step which faults it can end in.  Its rules follow the ways in which steps are
put together, and there is one lemma for each function that reads a part of a token.
-/
namespace WorkflowAudit.Yaml

variable {ε α β : Type}

/-! ## What a step can end in -/

/-- Whatever fault a step ends in has the property `P`. -/
def Raises (P : ε → Prop) (step : Except ε α) : Prop :=
  ∀ fault, step = .error fault → P fault

namespace Raises

variable {P Q : ε → Prop} {step : Except ε α}

theorem pure (a : α) : Raises P (Pure.pure a : Except ε α) := by
  intro fault h
  cases h

theorem throw {fault : ε} (h : P fault) : Raises P (MonadExcept.throw fault : Except ε α) := by
  intro fault' h'
  cases h'
  exact h

theorem bind {next : α → Except ε β} (h : Raises P step) (hnext : ∀ a, Raises P (next a)) :
    Raises P (step >>= next) := by
  intro fault hfault
  cases step with
  | error found =>
    cases hfault
    exact h fault rfl
  | ok a => exact hnext a fault hfault

/-- What would follow a fault does not matter. -/
theorem throw_bind {fault : ε} {next : α → Except ε β} (h : P fault) :
    Raises P ((MonadExcept.throw fault : Except ε α) >>= next) := by
  intro fault' h'
  cases h'
  exact h

theorem ite {c : Prop} [Decidable c] {other : Except ε α} (h : Raises P step)
    (h' : Raises P other) :
    Raises P (if c then step else other) := by
  split
  · exact h
  · exact h'

theorem mono (h : Raises P step) (himp : ∀ fault, P fault → Q fault) : Raises Q step :=
  fun fault hfault => himp fault (h fault hfault)

theorem mapM {visit : α → Except ε β} (h : ∀ a, Raises P (visit a)) (items : List α) :
    Raises P (items.mapM visit) := by
  induction items with
  | nil => exact .pure _
  | cons a rest ih =>
    rw [List.mapM_cons]
    exact .bind (h a) fun _ => .bind ih fun _ => .pure _

end Raises

/-- The faults that reading tokens can end in. -/
inductive IsLexical : Fault → Prop where
  /-- The characters form no tokens. -/
  | lexical : IsLexical .lexical
  /-- No character has the code of an escape. -/
  | badCodePoint : IsLexical (.failure .badCodePoint)
  /-- The code of an escape is too large to be looked up. -/
  | overflow : IsLexical (.failure .overflow)

/-- What is read has to end before white space. -/
theorem raises_beforeSpace (read : α × Cursor) :
    Raises IsLexical
      (if isBreakOrSpace read.2.peek then (Pure.pure read : Except Fault _) else throw .lexical) :=
  .ite (.pure _) (.throw .lexical)

/-! ## Anchors, tags and directives -/

theorem raises_readAnchorName (cursor : Cursor) : Raises IsLexical (readAnchorName cursor) := by
  unfold readAnchorName
  exact .ite (.throw .lexical) (.ite (.pure _) (.throw .lexical))

theorem raises_readPercentBytes (fuel : Nat) (cursor : Cursor) :
    Raises IsLexical (readPercentBytes fuel cursor) := by
  induction fuel generalizing cursor with
  | zero => exact .pure _
  | succ fuel ih =>
    unfold readPercentBytes
    refine .ite ?_ (.pure _)
    split
    · exact .bind (ih _) fun _ => .pure _
    · exact .throw .lexical

theorem raises_readTagChars (version : Version) (fuel : Nat) (cursor : Cursor) :
    Raises IsLexical (readTagChars version fuel cursor) := by
  induction fuel generalizing cursor with
  | zero => exact .pure _
  | succ fuel ih =>
    unfold readTagChars
    refine .ite (.bind (raises_readPercentBytes _ _) fun read => ?_)
      (.ite (.bind (ih _) fun _ => .pure _) (.pure _))
    dsimp only
    split
    · exact .throw .lexical
    · exact .bind (ih _) fun _ => .pure _

theorem raises_readTagSuffix (version : Version) (cursor : Cursor) :
    Raises IsLexical (readTagSuffix version cursor) :=
  .ite (raises_readTagChars _ _ _) (.throw .lexical)

theorem raises_readHandle (cursor : Cursor) : Raises IsLexical (readHandle cursor) := by
  unfold readHandle
  exact .ite (.throw .lexical) (.ite (.pure _) (.ite (.pure _) (.throw .lexical)))

theorem raises_readTag (version : Version) (cursor : Cursor) :
    Raises IsLexical (readTag version cursor) := by
  have hclosed := raises_beforeSpace (α := Token)
  have hsuffix := raises_readTagSuffix version
  unfold readTag
  refine .ite ?_ (.ite ?_ (.ite ?_ ?_))
  · exact .bind (hsuffix _) fun _ => .ite (.bind (.pure _) hclosed) (.throw_bind .lexical)
  · exact .bind (.pure _) hclosed
  · exact .bind (raises_readHandle _) fun _ => .bind (hsuffix _) fun _ => .bind (.pure _) hclosed
  · exact .bind (.pure _) fun _ => .bind (hsuffix _) fun _ => .bind (.pure _) hclosed

theorem raises_readVersionNumber (cursor : Cursor) :
    Raises IsLexical (readVersionNumber cursor) := by
  unfold readVersionNumber
  exact .ite (.throw .lexical) (.pure _)

theorem raises_readVersion (cursor : Cursor) : Raises IsLexical (readVersion cursor) := by
  unfold readVersion
  refine .bind (raises_readVersionNumber _) fun _ => .ite (.throw_bind .lexical) ?_
  exact .bind (raises_readVersionNumber _) fun _ => .ite (.pure _) (.throw .lexical)

theorem raises_readTagDirective (version : Version) (cursor : Cursor) :
    Raises IsLexical (readTagDirective version cursor) := by
  unfold readTagDirective
  refine .bind (raises_readHandle _) fun _ => .ite (.throw_bind .lexical) ?_
  exact .bind (raises_readTagSuffix _ _) fun _ => .ite (.pure _) (.throw .lexical)

theorem raises_skipIgnoredLine (cursor : Cursor) : Raises IsLexical (skipIgnoredLine cursor) := by
  unfold skipIgnoredLine
  exact .ite (.pure _) (.throw .lexical)

theorem raises_readDirective (version : Version) (cursor : Cursor) :
    Raises IsLexical (readDirective version cursor) := by
  have hline : ∀ read : Directive × Cursor, Raises IsLexical
      (skipIgnoredLine read.2 >>= fun behind => Pure.pure (read.1, behind)) :=
    fun _ => .bind (raises_skipIgnoredLine _) fun _ => .pure _
  unfold readDirective
  refine .ite (.throw_bind .lexical) (.ite ?_ (.ite ?_ ?_))
  · exact .bind (raises_readVersion _) fun _ => .bind (.pure _) hline
  · exact .bind (raises_readTagDirective _ _) hline
  · exact .bind (.pure _) hline

/-! ## Block scalars -/

theorem raises_increment? (c : Char) : Raises IsLexical (increment? c) := by
  unfold increment?
  exact .ite (.throw .lexical) (.ite (.pure _) (.pure _))

theorem raises_readIndicators (cursor : Cursor) : Raises IsLexical (readIndicators cursor) := by
  have hclosed := raises_beforeSpace (α := BlockHeader)
  unfold readIndicators
  dsimp only
  split
  · refine .bind (raises_increment? _) fun increment => ?_
    split <;> exact .bind (.pure _) hclosed
  · refine .bind (raises_increment? _) fun increment => ?_
    split
    · split <;> exact .bind (.pure _) hclosed
    · exact .bind (.pure _) hclosed

theorem raises_readBlock (folded : Bool) (indent : Int) (cursor : Cursor) :
    Raises IsLexical (readBlock folded indent cursor) := by
  unfold readBlock
  exact .bind (raises_readIndicators _) fun _ => .bind (raises_skipIgnoredLine _) fun _ => .pure _

/-! ## Quoted scalars -/

theorem raises_codeChar (code : Nat) : Raises IsLexical (codeChar code) := by
  unfold codeChar
  exact .ite (.pure _) (.ite (.throw .badCodePoint) (.throw .overflow))

theorem raises_readCode (cursor : Cursor) (width : Nat) :
    Raises IsLexical (readCode cursor width) := by
  unfold readCode
  refine .ite (.throw .lexical) ?_
  split
  · exact .throw .lexical
  · exact .bind (raises_codeChar _) fun _ => .pure _

theorem raises_quotedBreaks (fuel : Nat) (cursor : Cursor) :
    Raises IsLexical (quotedBreaks fuel cursor) := by
  induction fuel generalizing cursor with
  | zero => exact .pure _
  | succ fuel ih =>
    unfold quotedBreaks
    exact .ite (.throw .lexical) (.ite (.bind (ih _) fun _ => .pure _) (.pure _))

theorem raises_quotedSpaces (cursor : Cursor) : Raises IsLexical (quotedSpaces cursor) := by
  unfold quotedSpaces
  exact .ite (.throw .lexical) (.ite (.bind (raises_quotedBreaks _ _) fun _ => .pure _) (.pure _))

theorem raises_quotedWord (style : QuoteStyle) (fuel : Nat) (cursor : Cursor) :
    Raises IsLexical (quotedWord style fuel cursor) := by
  induction fuel generalizing cursor with
  | zero => exact .pure _
  | succ fuel ih =>
    have hmore : ∀ (behind : Cursor) (f : List Char × Cursor → List Char × Cursor),
        Raises IsLexical (quotedWord style fuel behind >>= fun more => Pure.pure (f more)) :=
      fun _ _ => .bind (ih _) fun _ => .pure _
    unfold quotedWord
    refine .ite (hmore _ _) (.ite (hmore _ _) (.ite ?_ (.pure _)))
    dsimp only
    split
    · exact hmore _ _
    · exact .bind (raises_readCode _ _) fun _ => hmore _ _
    · exact .ite (.bind (raises_quotedBreaks _ _) fun _ => hmore _ _) (.throw .lexical)

theorem raises_quotedRest (style : QuoteStyle) (fuel : Nat) (cursor : Cursor) :
    Raises IsLexical (quotedRest style fuel cursor) := by
  induction fuel generalizing cursor with
  | zero => exact .throw .lexical
  | succ fuel ih =>
    unfold quotedRest
    exact .ite (.pure _) (.bind (raises_quotedSpaces _) fun _ =>
      .bind (raises_quotedWord _ _ _) fun _ =>
      .bind (ih _) fun _ => .pure _)

theorem raises_readQuoted (style : QuoteStyle) (cursor : Cursor) :
    Raises IsLexical (readQuoted style cursor) := by
  unfold readQuoted
  exact .bind (raises_quotedWord _ _ _) fun _ => .bind (raises_quotedRest _ _ _) fun _ => .pure _

/-! ## The stream -/

namespace Stream

theorem raises_dropStale (s : Stream) : Raises IsLexical s.dropStale := by
  unfold dropStale
  exact .ite (.throw .lexical) (.pure _)

theorem raises_dropPending (s : Stream) : Raises IsLexical s.dropPending := by
  unfold dropPending
  split
  · exact .pure _
  · exact .ite (.throw .lexical) (.pure _)

theorem raises_notePending (s : Stream) : Raises IsLexical s.notePending := by
  unfold notePending
  exact .ite (.bind (raises_dropPending _) fun _ => .pure _) (.pure _)

/-- Most tokens give up the pending key before them. -/
theorem raises_dropPending_bind (s : Stream) (add : Stream → Stream) :
    Raises IsLexical (s.dropPending >>= fun s => pure (add s)) :=
  .bind (raises_dropPending s) fun _ => .pure _

/-- Other tokens may become keys themselves. -/
theorem raises_notePending_bind (s : Stream) (add : Stream → Stream) :
    Raises IsLexical (s.notePending >>= fun s => pure (add s)) :=
  .bind (raises_notePending s) fun _ => .pure _

/-- Where no key is allowed, only a bracket lets a dash, a question mark or a colon pass. -/
theorem raises_openBlock {inFlow keyAllowed : Prop} [Decidable inFlow] [Decidable keyAllowed]
    {s opened : Stream} {rest : Stream → Except Fault Stream}
    (hrest : ∀ s, Raises IsLexical (rest s)) :
    Raises IsLexical (if inFlow then pure s >>= rest
      else if keyAllowed then pure opened >>= rest else throw .lexical >>= rest) :=
  .ite (.bind (.pure _) hrest) (.ite (.bind (.pure _) hrest) (.throw_bind .lexical))

theorem raises_readDirectiveToken (s : Stream) : Raises IsLexical s.readDirectiveToken :=
  .bind (raises_dropPending _) fun _ => .bind (raises_readDirective _ _) fun _ => .pure _

theorem raises_readBlockEntry (s : Stream) : Raises IsLexical s.readBlockEntry := by
  unfold readBlockEntry
  exact raises_openBlock fun _ => raises_dropPending_bind _ _

theorem raises_readKey (s : Stream) : Raises IsLexical s.readKey := by
  unfold readKey
  exact raises_openBlock fun _ => raises_dropPending_bind _ _

theorem raises_readValue (s : Stream) : Raises IsLexical s.readValue := by
  unfold readValue
  split
  · exact .pure _
  · exact raises_openBlock fun _ => raises_dropPending_bind _ _

theorem raises_readName (s : Stream) (token : List Char → Token) :
    Raises IsLexical (s.readName token) :=
  .bind (raises_notePending s) fun _ => .bind (raises_readAnchorName _) fun _ => .pure _

theorem raises_readTagToken (s : Stream) : Raises IsLexical s.readTagToken :=
  .bind (raises_notePending s) fun _ => .bind (raises_readTag _ _) fun _ => .pure _

theorem raises_readQuotedToken (s : Stream) (style : QuoteStyle) :
    Raises IsLexical (s.readQuotedToken style) :=
  .bind (raises_notePending s) fun _ => .bind (raises_readQuoted _ _) fun _ => .pure _

theorem raises_readBlockToken (s : Stream) (folded : Bool) :
    Raises IsLexical (s.readBlockToken folded) :=
  .bind (raises_dropPending _) fun _ => .bind (raises_readBlock _ _ _) fun _ => .pure _

theorem raises_readToken (s : Stream) : Raises IsLexical s.readToken := by
  have hdrop := raises_dropPending_bind
  have hnote := raises_notePending_bind
  unfold readToken
  -- the end, directives and document indicators
  refine .ite (hdrop _ _) (.ite s.raises_readDirectiveToken
    (.ite (hdrop _ _) (.ite (hdrop _ _) ?_)))
  -- brackets and commas
  refine .ite (hnote _ _) (.ite (hnote _ _)
    (.ite (hdrop _ _) (.ite (hdrop _ _) (.ite (hdrop _ _) ?_))))
  -- block structure
  refine .ite s.raises_readBlockEntry (.ite s.raises_readKey (.ite s.raises_readValue ?_))
  -- marks
  refine .ite (s.raises_readName _) (.ite (s.raises_readName _) (.ite s.raises_readTagToken ?_))
  -- scalars
  refine .ite (s.raises_readBlockToken _) (.ite (s.raises_readBlockToken _) ?_)
  refine .ite (s.raises_readQuotedToken _) (.ite (s.raises_readQuotedToken _) ?_)
  exact .ite (hnote _ _) (.throw .lexical)

theorem raises_readMore (s : Stream) : Raises IsLexical s.readMore := by
  unfold readMore
  split
  · exact .pure _
  · exact .bind (raises_dropStale _) fun _ => raises_readToken _

theorem raises_needsMore (s : Stream) : Raises IsLexical s.needsMore := by
  unfold needsMore
  exact .ite (.pure _) (.ite (.pure _) (.bind (raises_dropStale _) fun _ => .pure _))

theorem raises_fill (fuel : Nat) (s : Stream) : Raises IsLexical (fill fuel s) := by
  induction fuel generalizing s with
  | zero => exact .pure _
  | succ fuel ih =>
    unfold fill
    exact .bind (raises_needsMore _) fun _ =>
      .ite (.bind (raises_readMore _) fun _ => ih _) (.pure _)

theorem raises_fillPastComments (fuel : Nat) (s : Stream) :
    Raises IsLexical (fillPastComments fuel s) := by
  induction fuel generalizing s with
  | zero => exact .pure _
  | succ fuel ih =>
    unfold fillPastComments
    exact .bind (raises_needsMore _) fun _ =>
      .ite (.bind (raises_readMore _) fun _ => ih _) (.pure _)

theorem raises_prepare (s : Stream) : Raises IsLexical s.prepare := by
  unfold prepare
  exact .bind (raises_fill _ _) fun _ => .bind (raises_fillPastComments _ _) fun _ =>
    .ite (raises_readMore _) (.pure _)

theorem raises_dropFollowingComments (fuel : Nat) (s : Stream) :
    Raises IsLexical (dropFollowingComments fuel s) := by
  induction fuel generalizing s with
  | zero => exact .pure _
  | succ fuel ih =>
    unfold dropFollowingComments
    split
    · exact .bind (raises_readMore _) fun _ => ih _
    · exact .pure _

theorem raises_dropOwnComment (s : Stream) : Raises IsLexical s.dropOwnComment := by
  unfold dropOwnComment
  split
  · dsimp only
    split
    · exact .ite (.pure _) (raises_dropFollowingComments _ _)
    · exact .ite (.pure _) (.pure _)
    · exact .ite (.pure _) (.pure _)
    · exact .ite (.pure _) (.pure _)
    · exact .pure _
  · exact .pure _

theorem raises_peek (s : Stream) : Raises IsLexical s.peek :=
  .bind (raises_prepare _) fun _ => .pure _

theorem raises_next (s : Stream) : Raises IsLexical s.next :=
  .bind (raises_prepare _) fun _ => .bind (raises_dropOwnComment _) fun _ => .pure _

end Stream

end WorkflowAudit.Yaml
