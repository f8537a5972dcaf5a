import WorkflowAudit.Bundle
import WorkflowAudit.Proofs.CutTexts
import WorkflowAudit.Proofs.Runs

/-! # Bundles of values

A bundle holds the encodings of JSON values, each followed by a semicolon.  It is cut at every
semicolon before its pieces are read, also at those that belong to a text.  So the values are read
back exactly when no text in them has a semicolon and no integer in them is too long.  Otherwise the
first value that has one is the reason for which the bundle is refused (`bundle_read_back_iff`).
-/
namespace WorkflowAudit

/-! ## Files of printed characters -/

namespace Text

theorem toList_loop (bytes : ByteArray) (i : Nat) (before : List UInt8) :
    ByteArray.toList.loop bytes i before = before.reverse ++ bytes.data.toList.drop i := by
  fun_induction ByteArray.toList.loop bytes i before with
  | case1 i before h ih =>
    have hlength : i < bytes.data.toList.length := by simpa using h
    have hget : bytes.get! i = bytes.data.toList[i] := by
      show bytes.data[i]! = _
      rw [Array.getElem_toList, getElem!_pos bytes.data i h]
    rw [ih, List.reverse_cons, List.append_assoc, List.singleton_append, hget,
      ← List.drop_eq_getElem_cons hlength]
  | case2 i before h =>
    have hlength : bytes.data.toList.length ≤ i := by simpa using Nat.not_lt.mp h
    rw [List.drop_eq_nil_of_le hlength, List.append_nil]

/-- The characters of a text are encoded one by one. -/
theorem encodeUtf8_eq (text : List Char) :
    encodeUtf8 text = text.flatMap String.utf8EncodeChar := by
  unfold encodeUtf8
  show ByteArray.toList.loop _ 0 [] = _
  rw [toList_loop]
  simp [String.toUTF8, List.utf8Encode]

/-- ASCII characters are stored as bytes and read as they were. -/
theorem decodeUtf8?_encodeUtf8 {text : List Char} (h : ∀ c ∈ text, c.toNat < 0x80) :
    decodeUtf8? (encodeUtf8 text) = some text := by
  rw [encodeUtf8_eq]
  induction text with
  | nil => rfl
  | cons c text ih =>
    obtain ⟨hc, hrest⟩ := List.forall_mem_cons.mp h
    have hsize : c.utf8Size = 1 := by
      have hle : c.val ≤ 0x7F := by
        show c.toNat ≤ 127
        omega
      simp [Char.utf8Size, hle]
    have hbyte : c.val.toUInt8.toNat = c.toNat := by
      rw [UInt32.toNat_toUInt8]
      exact Nat.mod_eq_of_lt (show c.toNat < 256 by omega)
    have hsmall : c.val.toUInt8 < 0x80 := by
      show c.val.toUInt8.toNat < 128
      omega
    rw [List.flatMap_cons, String.utf8EncodeChar_eq_singleton hsize, List.singleton_append]
    unfold decodeUtf8?
    rw [if_pos hsmall, ih hrest, hbyte, Char.ofNat_toNat]
    rfl

theorem unifyLineEndings_eq {text : List Char} (h : '\r' ∉ text) :
    unifyLineEndings text = text := by
  fun_induction unifyLineEndings text with
  | case1 => rfl
  | case2 => simp at h
  | case3 => simp at h
  | case4 c text _ _ ih =>
    rw [ih (List.not_mem_of_not_mem_cons h)]

end Text

namespace Bundle

theorem target_defaultFile (files : Files) :
    files.target defaultFile = files.follow [] [defaultFile] := by
  unfold Files.target
  have hcomponents : (Text.pieces '/' defaultFile.toList).map String.ofList = [defaultFile] := by
    decide +kernel
  have hplace : ¬ (defaultFile.isEmpty ∨ defaultFile.startsWith "/" ∨
      Files.target.leavesWorkingDirectory 0 [defaultFile] = true) := by
    decide +kernel
  dsimp only
  rw [hcomponents, if_neg hplace]

theorem openFile_defaultFile {files : Files} {content : List UInt8}
    (h : files.lookup? [defaultFile] = some (.bytes content)) :
    files.openFile defaultFile = .ok (.bytes content) := by
  have hname : ¬ (defaultFile = "" ∨ defaultFile = ".") := by decide
  have hup : defaultFile ≠ ".." := by decide
  unfold Files.openFile
  rw [if_neg (by decide +kernel), target_defaultFile, Files.follow, if_neg hname, if_neg hup]
  dsimp only
  rw [List.nil_append, h]
  rfl

/-- A file of printed characters is read as the values of its text, and nothing else happens. -/
theorem perform_readDefault {s : Session} {text : List Char}
    (hfile : s.files.lookup? [defaultFile] = some (.bytes (Text.encodeUtf8 text)))
    (htext : ∀ c ∈ text, 0x20 ≤ c.toNat ∧ c.toNat < 0x7F) :
    readDefault.perform s = (valuesOf text, s) := by
  have hdecoded : Text.decodeUtf8? (Text.encodeUtf8 text) = some text :=
    Text.decodeUtf8?_encodeUtf8 fun c hc => Nat.lt_trans (htext c hc).2 (by decide)
  have hlines : Text.unifyLineEndings text = text :=
    Text.unifyLineEndings_eq fun hc => absurd (htext _ hc).1 (by decide)
  have hread : s.files.readText defaultFile = .ok text := by
    unfold Files.readText
    rw [openFile_defaultFile hfile]
    simp only [bind, Except.bind, hdecoded, hlines]
    rfl
  have hperform : (Audit.readText defaultFile).perform s = (.ok text, s) := by
    unfold Audit.readText
    rw [Audit.perform_bind, Audit.perform_get]
    exact (Audit.perform_check _ s).trans (by rw [hread])
  unfold readDefault
  rw [Audit.perform_bind, hperform]
  exact Audit.perform_check _ s

end Bundle

/-! ## Cutting at semicolons -/

namespace Text

theorem pieces_append_cons {separator : Char} {piece : List Char} (h : separator ∉ piece)
    (rest : List Char) :
    pieces separator (piece ++ separator :: rest) = piece :: pieces separator rest := by
  induction piece with
  | nil => rw [List.nil_append, pieces, if_pos rfl]
  | cons c piece ih =>
    have hc := List.ne_of_not_mem_cons h
    rw [List.cons_append, pieces, if_neg hc.symm, ih (List.not_mem_of_not_mem_cons h)]

end Text

namespace Bundle

/-- The text of a bundle: each of its texts, followed by a semicolon. -/
def textOf (texts : List (List Char)) : List Char :=
  texts.flatMap (· ++ [';'])

theorem textOf_cons (text : List Char) (texts : List (List Char)) :
    textOf (text :: texts) = text ++ ';' :: textOf texts := by
  simp [textOf]

/-- The first piece of a bundle is what comes before the first semicolon. -/
theorem pieces_eq_cut {text : List Char} (h : ';' ∈ text) :
    ∃ more, (Text.pieces ';' text).dropLast = Json.cut text :: more := by
  obtain ⟨before, after, rfl, hbefore⟩ := List.eq_append_cons_of_mem h
  rw [Text.pieces_append_cons hbefore, List.dropLast_cons_of_ne_nil (Text.pieces_ne_nil _ _),
    Json.cut_append_cons hbefore]
  exact ⟨_, rfl⟩

/-! ## Reading a bundle -/

/-- A failure tells why a value was not read: it was cut at a semicolon in one of its texts, or has
an integer with too many digits. -/
inductive Blames (v : Value) : Failure → Prop where
  | semicolon (h : ¬ Json.Separable v) (problem : JsonProblem) (line column position : Nat) :
    Blames v (.json problem line column position)
  | digits (h : v.isShowable = false) (count : Nat) : Blames v (.longNumeral count)

theorem blames_of_stops {v : Value} {refusal : Json.Refusal} (h : Json.Stops v refusal)
    (text : List Char) : Blames v (refusal.failure text) := by
  cases h with
  | semicolon h => exact .semicolon h _ _ _ _
  | digits h => exact .digits h _

section Values

variable {v : Value} {values : List Value}

/-- The value of a readable encoding comes before those of the other texts. -/
theorem valuesOf_of_readable (hjson : v.IsJson ∧ v.wellFormed = true) (h : Json.Readable v)
    (texts : List (List Char)) :
    valuesOf (textOf (Json.encoded v :: texts)) = (do
      let rest ← valuesOf (textOf texts)
      return v :: rest) := by
  unfold valuesOf
  rw [textOf_cons, Text.pieces_append_cons (h.semicolon_notMem hjson.1),
    List.dropLast_cons_of_ne_nil (Text.pieces_ne_nil _ _), List.mapM_cons,
    Json.read_encoded hjson.1 hjson.2 h.isShowable]
  rfl

/-- A bundle fails at a value that is not readable. -/
theorem valuesOf_of_not_readable (hjson : v.IsJson ∧ v.wellFormed = true) (h : ¬ Json.Readable v)
    (texts : List (List Char)) :
    ∃ failure, valuesOf (textOf (Json.encoded v :: texts)) = .error failure ∧ Blames v failure := by
  obtain ⟨refusal, hread, hstops⟩ := Json.readWhole_cut hjson.1 hjson.2 h (textOf texts)
  rw [textOf_cons]
  have hmem : ';' ∈ Json.encoded v ++ ';' :: textOf texts :=
    List.mem_append_right _ List.mem_cons_self
  obtain ⟨more, hpieces⟩ := pieces_eq_cut hmem
  refine ⟨refusal.failure (Json.cut (Json.encoded v ++ ';' :: textOf texts)), ?_,
    blames_of_stops hstops _⟩
  rw [valuesOf, hpieces, List.mapM_cons, Json.read, hread]
  rfl

/-- Values are read back exactly when all of them are readable. -/
theorem valuesOf_ok_iff (hjson : ∀ v ∈ values, v.IsJson ∧ v.wellFormed = true) :
    valuesOf (textOf (values.map Json.encoded)) = .ok values ↔ ∀ v ∈ values, Json.Readable v := by
  induction values with
  | nil => exact ⟨fun _ v hv => (by cases hv), fun _ => rfl⟩
  | cons v values ih =>
    obtain ⟨hv, hvalues⟩ := List.forall_mem_cons.mp hjson
    rw [List.map_cons, List.forall_mem_cons]
    by_cases hreadable : Json.Readable v
    · rw [valuesOf_of_readable hv hreadable, ← ih hvalues, and_iff_right hreadable]
      cases valuesOf (textOf (values.map Json.encoded)) with
      | error failure => exact ⟨fun h => (by cases h), fun h => (by cases h)⟩
      | ok found =>
        constructor
        · intro h
          exact congrArg Except.ok (List.cons.inj (Except.ok.inj h)).2
        · intro h
          rw [Except.ok.inj h]
          rfl
    · obtain ⟨failure, hfailed, -⟩ :=
        valuesOf_of_not_readable hv hreadable (values.map Json.encoded)
      rw [hfailed]
      exact ⟨fun h => (by cases h), fun h => absurd h.1 hreadable⟩

/-- The first value that is not readable is the one a bundle fails for. -/
theorem valuesOf_error {earlier later : List Value} (hearlier : ∀ u ∈ earlier, Json.Readable u)
    (hjson : ∀ u ∈ earlier ++ v :: later, u.IsJson ∧ u.wellFormed = true) (h : ¬ Json.Readable v) :
    ∃ failure, valuesOf (textOf ((earlier ++ v :: later).map Json.encoded)) = .error failure ∧
      Blames v failure := by
  induction earlier with
  | nil => exact valuesOf_of_not_readable (hjson v List.mem_cons_self) h _
  | cons u earlier ih =>
    obtain ⟨hu, hrest⟩ := List.forall_mem_cons.mp hjson
    obtain ⟨hreadable, hearlier⟩ := List.forall_mem_cons.mp hearlier
    obtain ⟨failure, hfailed, hblames⟩ := ih hearlier hrest
    refine ⟨failure, ?_, hblames⟩
    rw [List.cons_append, List.map_cons, valuesOf_of_readable hu hreadable, hfailed]
    rfl

theorem printed_textOf (hjson : ∀ v ∈ values, v.IsJson) :
    ∀ c ∈ textOf (values.map Json.encoded), 0x20 ≤ c.toNat ∧ c.toNat < 0x7F := by
  intro c hc
  obtain ⟨text, htext, hc⟩ := List.mem_flatMap.mp hc
  obtain ⟨v, hv, rfl⟩ := List.mem_map.mp htext
  rcases List.mem_append.mp hc with hc | hc
  · rcases Json.isPlain_encoded (hjson v hv) hc with hplain | ⟨rfl, -⟩
    · exact ⟨hplain.1, hplain.2.1⟩
    · decide
  · obtain rfl := List.mem_singleton.mp hc
    decide

end Values

/-- **A bundle is read back exactly when all its values are readable.**  Let a file hold the
encodings of JSON values, each followed by a semicolon.  The encoding of a value is what is written
for it, unless it has a too long integer, which is never written.

The values are read back, all of them and in order, exactly when no text in them has a semicolon and
no integer in them is too long.  Otherwise the first value of which this is not true is the reason
for a failure: for not being JSON only if a text in it has a semicolon, and for too many digits only
if it has such an integer. -/
theorem bundle_read_back_iff {values : List Value} {s : Session}
    (hjson : ∀ v ∈ values, v.IsJson ∧ v.wellFormed = true)
    (hfile : s.files.lookup? [defaultFile] =
      some (.bytes (Text.encodeUtf8 (textOf (values.map Json.encoded))))) :
    (∀ v ∈ values, Json.write v =
      if v.isShowable then .ok (Json.encoded v) else .error .longInteger) ∧
    (readDefault.perform s = (.ok values, s) ↔
      ∀ v ∈ values, (∀ text, Json.Holds text v → ';' ∉ text.toList) ∧ v.isShowable = true) ∧
    ∀ earlier v later, values = earlier ++ v :: later → (∀ u ∈ earlier, Json.Readable u) →
      ¬ Json.Readable v →
        ∃ failure, readDefault.perform s = (.error failure, s) ∧ Blames v failure := by
  rw [perform_readDefault hfile (printed_textOf fun v hv => (hjson v hv).1)]
  refine ⟨fun v hv => Json.hasForm_of_isJson (hjson v hv).1, ?_, ?_⟩
  · rw [Prod.mk.injEq, and_iff_left rfl, valuesOf_ok_iff hjson]
    exact forall₂_congr fun v _ => ⟨fun h => ⟨h.separable, h.isShowable⟩, fun h => ⟨h.1, h.2⟩⟩
  · rintro earlier v later rfl hearlier hnot
    obtain ⟨failure, hfailed, hblames⟩ := valuesOf_error hearlier hjson hnot
    exact ⟨failure, by rw [hfailed], hblames⟩

/-- Values of every kind, with quotes, backslashes and characters of all sizes in their texts. -/
def mixedValues : List Value :=
  [.record [("name", .text "quote \" and \\ and é and 😀"), ("size", .float 1.5),
      ("jobs", .plainList [.int (-7), .null])],
    .bool true, .plainList []]

theorem isJson_mixedValues : ∀ v ∈ mixedValues, v.IsJson := by
  simp [mixedValues]

theorem readable_mixedValues : ∀ v ∈ mixedValues, Json.Readable v := by
  have hencoded : mixedValues.all fun v => !(Json.encoded v).contains ';' && v.isShowable := by
    decide +kernel
  intro v hv
  obtain ⟨hnone, hshown⟩ := Bool.and_eq_true_iff.mp (List.all_eq_true.mp hencoded v hv)
  refine ⟨fun s hs hsemicolon => ?_, hshown⟩
  simp [Json.semicolon_mem_of_holds hs hsemicolon] at hnone

/-- A session with a bundle of values. -/
def bundleSession (values : List Value) : Session :=
  { files := [([defaultFile], .bytes (Text.encodeUtf8 (textOf (values.map Json.encoded))))] }

theorem lookup?_bundleSession (values : List Value) :
    (bundleSession values).files.lookup? [defaultFile] =
      some (.bytes (Text.encodeUtf8 (textOf (values.map Json.encoded)))) := rfl

/-- The law at these values: their file is read, and gives them back.  An integer that is too long
is refused behind them. -/
theorem mixedValues_read_back :
    (∀ v ∈ mixedValues, v.IsJson ∧ v.wellFormed = true) ∧ (∀ v ∈ mixedValues, Json.Readable v) ∧
      readDefault.perform (bundleSession mixedValues) =
        (.ok mixedValues, bundleSession mixedValues) ∧
      ∃ count, readDefault.perform (bundleSession (mixedValues ++ [.int Text.leastLong])) =
        (.error (.longNumeral count), bundleSession (mixedValues ++ [.int Text.leastLong])) := by
  have hformed : mixedValues.all Value.wellFormed := by decide +kernel
  have hjson : ∀ v ∈ mixedValues, v.IsJson ∧ v.wellFormed = true :=
    fun v hv => ⟨isJson_mixedValues v hv, List.all_eq_true.mp hformed v hv⟩
  have hlong : ∀ v ∈ mixedValues ++ [.int Text.leastLong], v.IsJson ∧ v.wellFormed = true :=
    List.forall_mem_append.mpr ⟨hjson, List.forall_mem_singleton.mpr ⟨.int _, rfl⟩⟩
  obtain ⟨-, hread, -⟩ := bundle_read_back_iff hjson (lookup?_bundleSession mixedValues)
  obtain ⟨-, -, hrefused⟩ := bundle_read_back_iff hlong (lookup?_bundleSession _)
  refine ⟨hjson, readable_mixedValues, hread.mpr fun v hv => ?_, ?_⟩
  · exact ⟨(readable_mixedValues v hv).separable, (readable_mixedValues v hv).isShowable⟩
  · have hnot : ¬ Json.Readable (.int Text.leastLong) := fun h =>
      absurd (Value.isShowable_leastLong.symm.trans h.isShowable) Bool.false_ne_true
    obtain ⟨failure, hfailed, hblames⟩ := hrefused _ _ [] rfl readable_mixedValues hnot
    cases hblames with
    | semicolon h => exact absurd (fun s hs => (by cases hs)) h
    | digits h count => exact ⟨count, hfailed⟩

/-- A text with a semicolon. -/
def splitText : Value := .text "a;b"

/-- A value with a semicolon in a text is not read back: its text is cut there. -/
theorem split_text_refused :
    splitText.IsJson ∧ splitText.wellFormed = true ∧ splitText.isShowable = true ∧
      Json.encoded splitText = "\"a;b\"".toList ∧
      (readDefault.perform (bundleSession [splitText])).1 =
        .error (.json .unterminatedText 1 1 0) := by
  have hjson : splitText.IsJson := by simp [splitText]
  have hencoded : Json.encoded splitText = "\"a;b\"".toList := by decide +kernel
  refine ⟨hjson, rfl, rfl, hencoded, ?_⟩
  rw [perform_readDefault (lookup?_bundleSession _)
    (printed_textOf (List.forall_mem_singleton.mpr hjson)), List.map_singleton, hencoded]
  rfl

end Bundle
end WorkflowAudit
