import WorkflowAudit.Json.Writer
import WorkflowAudit.Proofs.Keys
import WorkflowAudit.Proofs.Runs
import WorkflowAudit.Proofs.Showable

/-! # JSON values

A value is made of JSON if its parts are null, truth values, numbers, texts, lists, and mappings
with texts as keys (`Value.IsJson`).  Such a value has an encoding, however long its integers are
(`Json.encoded`).  It is what writing gives, unless an integer in the value is too long; writing
fails for no other reason (`Json.hasForm_of_isJson`).
-/
namespace WorkflowAudit

/-! ## JSON values -/

namespace Value

/-- A value made of JSON. -/
inductive IsJson : Value → Prop where
  | null : IsJson .null
  | bool (b : Bool) : IsJson (.bool b)
  | int (n : Int) : IsJson (.int n)
  | float (x : Float) : IsJson (.float x)
  | text (s : String) : IsJson (.text s)
  | list {items : List Value} (h : ∀ item ∈ items, IsJson item) : IsJson (.list .plain items)
  | map {entries : Entries} (hnames : ∀ entry ∈ entries, ∃ name, entry.1 = .text name)
    (hvalues : ∀ entry ∈ entries, IsJson entry.2) : IsJson (.map .plain entries)

attribute [simp] IsJson.null IsJson.bool IsJson.int IsJson.float IsJson.text

variable {v w : Value}

@[simp] theorem isJson_plainList {items : List Value} :
    (plainList items).IsJson ↔ ∀ item ∈ items, item.IsJson := by
  constructor
  · intro h
    cases h with
    | list h => exact h
  · exact .list

@[simp] theorem isJson_record {fields : List (String × Value)} :
    (record fields).IsJson ↔ ∀ field ∈ fields, field.2.IsJson := by
  constructor
  · intro h field hfield
    cases h with
    | map _ hvalues => exact hvalues _ (List.mem_map_of_mem hfield)
  · intro h
    refine .map (fun entry hentry => ?_) fun entry hentry => ?_
    · obtain ⟨field, -, rfl⟩ := List.mem_map.mp hentry
      exact ⟨field.1, rfl⟩
    · obtain ⟨field, hfield, rfl⟩ := List.mem_map.mp hentry
      exact h field hfield

/-- What stands under a key of a JSON mapping is JSON. -/
theorem isJson_of_lookup? {entries : Entries} {key : Value}
    (hvalues : ∀ entry ∈ entries, IsJson entry.2) (h : Entries.lookup? key entries = some w) :
    w.IsJson := by
  obtain ⟨k, hmem⟩ := Entries.mem_of_lookup? h
  exact hvalues _ hmem

theorem IsJson.field {name : String} (hv : v.IsJson) (h : v.field name = .ok w) : w.IsJson := by
  obtain ⟨found, hfound, h⟩ := bind_ok.mp h
  obtain ⟨entries, hentries, hfound⟩ := bind_ok.mp hfound
  obtain rfl := pure_ok.mp hfound
  obtain rfl := pure_ok.mp h
  cases hv with
  | map hnames hvalues =>
    obtain rfl := pure_ok.mp hentries
    cases hlookup : Entries.field? name _ with
    | none => exact .null
    | some found => exact isJson_of_lookup? hvalues hlookup
  | _ => cases hentries

theorem IsJson.itemNamed {name : String} (hv : v.IsJson) (h : v.itemNamed name = .ok w) :
    w.IsJson := by
  cases hv with
  | map hnames hvalues =>
    obtain ⟨⟨⟩, -, h⟩ := bind_ok.mp h
    split at h
    · obtain rfl := pure_ok.mp h
      exact isJson_of_lookup? hvalues ‹_›
    · cases h
  | _ => cases h

/-- The items of a JSON value are JSON. -/
theorem IsJson.items {items : List Value} (hv : v.IsJson) (h : v.items = .ok items) :
    ∀ item ∈ items, item.IsJson := by
  cases hv with
  | text s =>
    obtain rfl := pure_ok.mp h
    intro item hitem
    obtain ⟨c, -, rfl⟩ := List.mem_map.mp hitem
    exact .text _
  | list hitems =>
    obtain rfl := pure_ok.mp h
    exact hitems
  | map hnames hvalues =>
    obtain rfl := pure_ok.mp h
    intro item hitem
    obtain ⟨entry, hentry, rfl⟩ := List.mem_map.mp hitem
    obtain ⟨name, hname⟩ := hnames entry hentry
    rw [hname]
    exact .text name
  | _ => cases h

/-- The indices that a JSON value is gone through by are JSON. -/
theorem IsJson.indexed {found : List (Value × Except Failure Value)} (hv : v.IsJson)
    (h : v.indexed = .ok found) : ∀ entry ∈ found, entry.1.IsJson := by
  unfold Value.indexed at h
  split at h
  · obtain rfl := pure_ok.mp h
    intro entry hentry
    obtain ⟨source, hsource, rfl⟩ := List.mem_map.mp hentry
    exact hv.items rfl source.1 (List.mem_map_of_mem hsource)
  · obtain ⟨items, hitems, h⟩ := bind_ok.mp h
    obtain rfl := pure_ok.mp h
    intro entry hentry
    obtain ⟨index, hindex, rfl⟩ := List.mem_map.mp hentry
    exact hv.items hitems index hindex

end Value

/-! ## Encodings -/

namespace Json

/-- The text of a key in an encoding. -/
def encodedKey : Value → List Char
  | .text s => s.toList
  | .null => "null".toList
  | .bool b => if b then "true".toList else "false".toList
  | .int n => Text.integerText n
  | .float x => writtenFloat x
  | _ => []

mutual

/-- The JSON text of a value, with all digits of its integers. -/
def encoded : Value → List Char
  | .null => "null".toList
  | .bool b => if b then "true".toList else "false".toList
  | .int n => Text.integerText n
  | .float x => writtenFloat x
  | .text s => writtenText s.toList
  | .list _ items => '[' :: Value.commaSeparated (encodedItems items) ++ [']']
  | .map _ entries => '{' :: Value.commaSeparated (encodedMembers entries) ++ ['}']
  | _ => []

/-- The JSON texts of items. -/
def encodedItems : List Value → List (List Char)
  | [] => []
  | v :: rest => encoded v :: encodedItems rest

/-- The JSON texts of members. -/
def encodedMembers : Entries → List (List Char)
  | [] => []
  | (k, v) :: rest => (writtenText (encodedKey k) ++ ':' :: ' ' :: encoded v) :: encodedMembers rest

end

/-- The JSON text of one member. -/
def encodedMember (entry : Value × Value) : List Char :=
  writtenText (encodedKey entry.1) ++ ':' :: ' ' :: encoded entry.2

theorem encodedItems_eq (items : List Value) : encodedItems items = items.map encoded := by
  induction items with
  | nil => rfl
  | cons v rest ih => rw [encodedItems, ih, List.map_cons]

theorem encodedMembers_eq (entries : Entries) :
    encodedMembers entries = entries.map encodedMember := by
  induction entries with
  | nil => rfl
  | cons entry rest ih =>
    obtain ⟨k, v⟩ := entry
    rw [encodedMembers, ih, List.map_cons]
    rfl

theorem encoded_list (kind : ListKind) (items : List Value) :
    encoded (.list kind items) = '[' :: Value.commaSeparated (items.map encoded) ++ [']'] := by
  rw [encoded, encodedItems_eq]

theorem encoded_map (kind : MapKind) (entries : Entries) :
    encoded (.map kind entries) =
      '{' :: Value.commaSeparated (entries.map encodedMember) ++ ['}'] := by
  rw [encoded, encodedMembers_eq]

/-! ## What is written -/

/-- Writing a value gives its encoding, unless an integer in it is too long. -/
def HasForm (v : Value) : Prop :=
  write v = if v.isShowable then .ok (encoded v) else .error .longInteger

/-- A value is written as a key, unless it is too long an integer. -/
def IsKey (v : Value) : Prop :=
  writeKey v = if v.isShowable then .ok (encodedKey v) else .error .longInteger

theorem HasForm.write_ok {v : Value} {text : List Char} (h : HasForm v) :
    write v = .ok text ↔ v.isShowable = true ∧ encoded v = text := by
  rw [h]
  cases v.isShowable <;> simp

theorem writtenInteger_eq (n : Int) :
    writtenInteger n =
      if (Value.int n).isShowable then .ok (Text.integerText n) else .error .longInteger := by
  unfold writtenInteger Value.isShowable
  cases Text.isLong n <;> rfl

/-- Items are written one by one, up to the first that is too long. -/
theorem writeItems_eq {items : List Value} (h : ∀ item ∈ items, HasForm item) :
    writeItems items = if Value.areShowable items then .ok (items.map encoded)
      else .error .longInteger := by
  induction items with
  | nil => rfl
  | cons v rest ih =>
    obtain ⟨hv, hrest⟩ := List.forall_mem_cons.mp h
    rw [writeItems, hv, ih hrest, Value.areShowable]
    cases v.isShowable with
    | false => rfl
    | true => cases Value.areShowable rest <;> rfl

theorem hasForm_list {kind : ListKind} {items : List Value} (h : ∀ item ∈ items, HasForm item) :
    HasForm (.list kind items) := by
  rw [HasForm, write, writeItems_eq h, encoded_list, Value.isShowable]
  cases Value.areShowable items <;> rfl

/-- Members are written one by one, up to the first with a part that is too long. -/
theorem writeMembers_eq {entries : Entries}
    (h : ∀ entry ∈ entries, IsKey entry.1 ∧ HasForm entry.2) :
    writeMembers entries = if Value.areShowableEntries entries then .ok (entries.map encodedMember)
      else .error .longInteger := by
  induction entries with
  | nil => rfl
  | cons entry rest ih =>
    obtain ⟨k, v⟩ := entry
    obtain ⟨⟨hkey, hv⟩, hrest⟩ := List.forall_mem_cons.mp h
    rw [writeMembers, hkey, hv, ih hrest, Value.areShowableEntries]
    cases k.isShowable with
    | false => rfl
    | true =>
      cases v.isShowable with
      | false => rfl
      | true => cases Value.areShowableEntries rest <;> rfl

theorem hasForm_map {entries : Entries} (h : ∀ entry ∈ entries, IsKey entry.1 ∧ HasForm entry.2) :
    HasForm (.map .plain entries) := by
  have hwritten : write (.map .plain entries) = (do
      let members ← writeMembers entries
      return '{' :: Value.commaSeparated members ++ ['}']) := by
    simp only [write]
  rw [HasForm, hwritten, writeMembers_eq h, encoded_map, Value.isShowable]
  cases Value.areShowableEntries entries <;> rfl

theorem isKey_text (s : String) : IsKey (.text s) := rfl

/-- Writing a JSON value gives its encoding, unless an integer in it is too long. -/
theorem hasForm_of_isJson {v : Value} (h : v.IsJson) : HasForm v := by
  induction h with
  | list _ ih => exact hasForm_list ih
  | map hnames _ ih =>
    refine hasForm_map fun entry hentry => ⟨?_, ih entry hentry⟩
    obtain ⟨name, hname⟩ := hnames entry hentry
    rw [hname]
    exact isKey_text name
  | int n => exact writtenInteger_eq n
  | _ => rfl

/-- JSON that can serve as a key is a scalar. -/
theorem isKey_of_isJson {v : Value} (h : v.IsJson) (hkey : v.checkKey = .ok ()) : IsKey v := by
  cases h with
  | list _ => cases hkey
  | map _ _ => cases hkey
  | int n => exact writtenInteger_eq n
  | _ => rfl

end Json

end WorkflowAudit
