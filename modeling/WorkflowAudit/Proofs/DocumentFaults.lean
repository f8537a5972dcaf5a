import WorkflowAudit.Proofs.NodeFaults
import WorkflowAudit.Yaml.Document

/-! # Faults of documents

Behind the tokens and the nodes lie the values, and a document can fail there too: for a scalar that
its tag does not fit (`Scalar.Refusal`), or for what collections ask of their parts
(`Build.Refusal`).  All of these are failures.

`raises_load` gathers the causes of all stages behind the check of the characters, which comes first
(`load_character_iff`).  `mem_escapingKinds` says which groups of causes they make up: eleven, and
there is a text for each of them.
-/
namespace WorkflowAudit.Yaml

variable {ε α β : Type}

/-! ## Scalars -/

namespace Scalar

/-- The causes for which a scalar has no value under its tag. -/
inductive Refusal : Failure → Prop where
  /-- No truth value is called so. -/
  | word (key : Value) : Refusal (.noKey key)
  /-- No number is written so. -/
  | integer (base : Nat) (text : String) : Refusal (.badInteger base text)
  | decimal (text : String) : Refusal (.badFloat text)
  | point : Refusal .missingPoint
  /-- A number has too many digits. -/
  | long (digits : Nat) : Refusal (.longNumeral digits)
  /-- Nothing, or nothing but a sign, is left to be read. -/
  | missingText : Refusal (.outOfRange "string")
  | missingExponent (given : Nat) : Refusal (.tooFewToUnpack 2 given)
  | secondExponent : Refusal (.tooManyToUnpack 2)
  /-- The calendar has no such day or time. -/
  | year (year : Nat) : Refusal (.yearOutOfRange year)
  | calendar (part bounds : String) : Refusal (.outOfCalendar part bounds)
  | day : Refusal .dayOutOfMonth
  /-- The moment falls out of the calendar when it is moved to universal time. -/
  | moved : Refusal .overflow
  /-- The tag is that of a collection, or asks for another form. -/
  | form : Refusal (.document .construction)

theorem raises_boolValue (text : List Char) : Raises Refusal (boolValue text) := by
  unfold boolValue
  exact .ite (.pure _) (.ite (.pure _) (.throw (.word _)))

theorem raises_intIn (base : Nat) (text : List Char) : Raises Refusal (intIn base text) := by
  unfold intIn
  refine .ite ?_ ?_
  · refine .ite (.throw (.long _)) ?_
    split
    · exact .pure _
    · exact .throw (.integer _ _)
  · dsimp only
    split
    · exact .throw (.integer _ _)
    · exact .throw (.integer _ _)
    · exact .pure _

theorem raises_magnitude (version : Version) (digits : List Char) :
    Raises Refusal (intValue.magnitude version digits) := by
  have hbased : ∀ base rest, Raises Refusal (intValue.based version base rest) := by
    intro base rest
    unfold intValue.based
    exact .ite (.throw .missingText) (raises_intIn _ _)
  unfold intValue.magnitude
  split
  · exact .pure _
  · exact hbased _ _
  · exact hbased _ _
  · exact hbased _ _
  · exact .throw .missingText
  · refine .ite (raises_intIn _ _) (.ite ?_ (raises_intIn _ _))
    exact .bind (.mapM (raises_intIn 10) _) fun _ => .pure _

theorem raises_intValue (version : Version) (text : List Char) :
    Raises Refusal (intValue version text) := by
  unfold intValue
  exact .ite (.throw_bind .missingText) (.bind (raises_magnitude _ _) fun _ => .pure _)

theorem raises_decimalFloat (text : List Char) : Raises Refusal (decimalFloat text) := by
  unfold decimalFloat
  split
  · exact .pure _
  · exact .throw (.decimal _)

theorem raises_checkExponent (text : List Char) : Raises Refusal (checkExponent text) := by
  unfold checkExponent
  extract_lets check lower
  have hcheck : ∀ parts, Raises Refusal (check parts) := by
    intro parts
    unfold check
    split
    · exact .ite (.throw .missingText) (.pure _)
    · exact .throw (.missingExponent _)
    · exact .throw (.missingExponent _)
    · exact .throw .secondExponent
  exact .ite (hcheck _) (hcheck _)

theorem raises_floatValue (version : Version) (text : List Char) :
    Raises Refusal (floatValue version text) := by
  unfold floatValue
  refine .ite (.throw_bind .missingText)
    (.ite (.pure _) (.ite (.pure _) (.ite ?_ (.ite ?_ (.ite ?_ ?_)))))
  · exact .bind (.mapM raises_decimalFloat _) fun _ => .pure _
  · exact .bind (raises_checkExponent _) fun _ => .bind (raises_decimalFloat _) fun _ => .pure _
  · exact .bind (raises_decimalFloat _) fun _ => .pure _
  · exact .throw .point

theorem raises_checkedDate (year month day : Nat) :
    Raises Refusal (checkedDate year month day) := by
  unfold checkedDate
  exact .ite (.throw (.year _)) (.ite (.throw (.calendar _ _)) (.ite (.throw .day) (.pure _)))

theorem raises_checkedMoment (year month day hour minute second microsecond : Nat) (zoned : Bool) :
    Raises Refusal (checkedMoment year month day hour minute second microsecond zoned) := by
  unfold checkedMoment
  exact .bind (raises_checkedDate _ _ _) fun _ => .ite (.throw_bind (.calendar _ _))
    (.ite (.throw_bind (.calendar _ _)) (.ite (.throw_bind (.calendar _ _)) (.pure _)))

theorem raises_timeValue (text : List Char) : Raises Refusal (timeValue text) := by
  unfold timeValue
  split
  · exact .throw .form
  · split
    · exact .bind (raises_checkedDate _ _ _) fun _ => .pure _
    · refine .bind (raises_checkedMoment _ _ _ _ _ _ _ _) fun written => ?_
      split
      · exact .throw .moved
      · exact .pure _

theorem raises_bytesValue (text : List Char) : Raises Refusal (bytesValue text) := by
  unfold bytesValue
  exact .ite (.throw .form) (.ite (.pure _) (.throw .form))

theorem raises_value (version : Version) (anchored : Bool) (tag : Tag) (text : List Char) :
    Raises Refusal (value version anchored tag text) := by
  cases tag with
  | bool => exact .bind (raises_boolValue _) fun _ => .pure _
  | int => exact .bind (raises_intValue _ _) fun _ => .pure _
  | float => exact .bind (raises_floatValue _ _) fun _ => .pure _
  | binary => exact .bind (raises_bytesValue _) fun _ => .pure _
  | timestamp => exact raises_timeValue _
  | null | text | merge | default | unknown => exact .pure _
  | orderedMapping | pairs | set | sequence | mapping => exact .throw .form

end Scalar

/-! ## Collections -/

namespace Build

/-- The causes for which a node has no value. -/
inductive Refusal : Failure → Prop where
  | scalar {cause : Failure} (h : Scalar.Refusal cause) : Refusal cause
  /-- The tag does not fit the node, or the value of a merge key is no mapping. -/
  | form : Refusal (.document .construction)
  | duplicateKey : Refusal (.document .duplicateKey)
  /-- A key has a part that cannot serve as one. -/
  | key (owner : String) : Refusal (.unhashable owner)
  /-- What is merged is no mapping after all. -/
  | source (owner : String) : Refusal (.noAttribute owner "add_referent")
  /-- A key of an ordered mapping is repeated. -/
  | orderedKey : Refusal .assertion

theorem raises_unbuildable : StepRaises Refusal (unbuildable : Build α) :=
  .throw .form

theorem raises_target (node : Node) : StepRaises Refusal (target node) := by
  unfold target
  split
  · exact .bind .get fun _ => .pure _
  · exact .pure _

theorem raises_asKey (found : Value) (listsOnly : Bool) :
    StepRaises Refusal (asKey found listsOnly) := by
  unfold asKey
  split
  · exact .pure _
  · exact .ite raises_unbuildable (.pure _)
  · exact raises_unbuildable
  · exact .pure _

theorem raises_checkKey (key : Value) : StepRaises Refusal (checkKey key) := by
  unfold checkKey
  split
  · exact .throw (.key _)
  · exact .pure _

theorem raises_mergeSources (member : Node) : StepRaises Refusal (mergeSources member) := by
  unfold mergeSources
  refine .bind (raises_target _) fun node => ?_
  split
  · exact .pure _
  · refine .bind (.forM (fun item => .bind (raises_target _) fun node => ?_) _) fun _ => .pure _
    split
    · exact .pure _
    · exact raises_unbuildable
  · exact raises_unbuildable

theorem raises_addMerged (entries : Entries) (source : Value) :
    StepRaises Refusal (addMerged entries source) := by
  unfold addMerged
  split
  · exact .pure _
  · exact .throw (.source _)

theorem raises_addEntry (entries : Entries) (key found : Value) :
    StepRaises Refusal (addEntry entries key found) :=
  .bind (raises_checkKey key) fun _ => .ite (.throw .duplicateKey) (.pure _)

theorem raises_orUnbuildable (step : Build α) : StepRaises Refusal (orUnbuildable step) := by
  unfold orUnbuildable
  refine .bind .get fun builder => ?_
  split
  · exact .bind (.set _) fun _ => .pure _
  · exact raises_unbuildable

theorem raises_singleMember (item : Node) : StepRaises Refusal (singleMember item) := by
  unfold singleMember
  refine .bind (raises_target _) fun node => ?_
  split
  · exact .pure _
  · exact raises_unbuildable

-- by recursion on the fuel, as the functions are

mutual

theorem raises_value (fuel : Nat) (node : Node) : StepRaises Refusal (value fuel node) := by
  cases fuel with
  | zero => exact .pure _
  | succ fuel =>
    -- an alias first, then scalars, sequences and mappings
    rcases node with _ | _ | _ | n
    rotate_left 3
    · refine .bind .get fun builder => ?_
      split
      · exact .pure _
      · refine .ite (.pure _) ?_
        split
        · exact raises_value fuel _
        · exact .pure _
    all_goals
      unfold value
      split
      · exact raises_content fuel _
      · refine .bind .get fun builder => ?_
        split
        · exact .pure _
        · exact .bind (.set _) fun _ => .bind (raises_content fuel _) fun _ =>
            .bind (.modify _) fun _ => .pure _

theorem raises_content (fuel : Nat) (node : Node) : StepRaises Refusal (content fuel node) := by
  cases fuel with
  | zero => exact .pure _
  | succ fuel =>
    have hitems := StepRaises.mapM (raises_value fuel)
    have hpairs := StepRaises.mapM (raises_pairItem fuel)
    unfold content
    split
    · exact .pure _
    · exact .bind .get fun _ => .lift ((Scalar.raises_value _ _ _ _).mono fun _ => .scalar)
    · split
      · exact .bind (hitems _) fun _ => .pure _
      · exact .bind (raises_orderedEntries fuel _ _) fun _ => .pure _
      · exact .bind (hpairs _) fun _ => .pure _
      · exact .bind (raises_orUnbuildable _) fun _ => .pure _
      · exact raises_unbuildable
    · split
      · exact .bind (raises_mappingEntries fuel _) fun _ => .pure _
      · exact .bind (raises_setMembers fuel _ _) fun _ => .pure _
      · exact .bind (raises_orUnbuildable _) fun _ => .pure _
      · exact raises_unbuildable

theorem raises_mappingEntries (fuel : Nat) (members : List (Node × Node)) :
    StepRaises Refusal (mappingEntries fuel members) := by
  cases fuel with
  | zero => exact .pure _
  | succ fuel =>
    unfold mappingEntries
    exact .bind (raises_mergedValues fuel _ _) fun _ => .bind (raises_ownEntries fuel _ _) fun _ =>
      .foldlM raises_addMerged _ _

theorem raises_mergedValues (fuel : Nat) (members : List (Node × Node)) (found : List Value) :
    StepRaises Refusal (mergedValues fuel members found) := by
  cases fuel with
  | zero => exact .pure _
  | succ fuel =>
    have hsources := StepRaises.mapM (raises_value fuel)
    cases members with
    | nil => exact .pure _
    | cons member rest =>
      unfold mergedValues
      refine .ite (.ite (.throw_bind .duplicateKey) ?_) (raises_mergedValues fuel _ _)
      exact .bind (raises_mergeSources _) fun _ => .bind (hsources _) fun _ =>
        raises_mergedValues fuel _ _

theorem raises_ownEntries (fuel : Nat) (members : List (Node × Node)) (entries : Entries) :
    StepRaises Refusal (ownEntries fuel members entries) := by
  cases fuel with
  | zero => exact .pure _
  | succ fuel =>
    cases members with
    | nil => exact .pure _
    | cons member rest =>
      unfold ownEntries
      refine .ite (raises_ownEntries fuel _ _) ?_
      exact .bind (raises_value fuel _) fun _ => .bind (raises_asKey _ _) fun _ =>
        .bind (raises_value fuel _) fun _ => .bind (raises_addEntry _ _ _) fun _ =>
          raises_ownEntries fuel _ _

theorem raises_orderedEntries (fuel : Nat) (items : List Node) (entries : Entries) :
    StepRaises Refusal (orderedEntries fuel items entries) := by
  cases fuel with
  | zero => exact .pure _
  | succ fuel =>
    cases items with
    | nil => exact .pure _
    | cons item rest =>
      unfold orderedEntries
      refine .bind (raises_singleMember item) fun _ => .bind (raises_value fuel _) fun _ =>
        .bind (raises_checkKey _) fun _ => .ite (.throw_bind .orderedKey) ?_
      exact .bind (raises_value fuel _) fun _ => raises_orderedEntries fuel _ _

theorem raises_pairItem (fuel : Nat) (item : Node) : StepRaises Refusal (pairItem fuel item) := by
  cases fuel with
  | zero => exact .pure _
  | succ fuel =>
    unfold pairItem
    exact .bind (raises_singleMember item) fun _ => .bind (raises_value fuel _) fun _ =>
      .bind (raises_value fuel _) fun _ => .pure _

theorem raises_setMembers (fuel : Nat) (members : List (Node × Node)) (found : List Value) :
    StepRaises Refusal (setMembers fuel members found) := by
  cases fuel with
  | zero => exact .pure _
  | succ fuel =>
    cases members with
    | nil => exact .pure _
    | cons member rest =>
      unfold setMembers
      exact .bind (raises_value fuel _) fun _ => .bind (raises_asKey _ _) fun _ =>
        .bind (raises_value fuel _) fun _ => .bind (raises_checkKey _) fun _ =>
        .ite (.throw_bind .duplicateKey) (raises_setMembers fuel _ _)

end

end Build

/-! ## Texts -/

end WorkflowAudit.Yaml
