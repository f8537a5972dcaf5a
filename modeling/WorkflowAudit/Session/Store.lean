import WorkflowAudit.Value.Basic

/-! # The document store

Collections of documents under names such as `ghast.cache`.  A collection only ever grows: a
document is found by the value of one of its fields, the first match winning, and a new one goes to
the end.
-/

namespace WorkflowAudit

/-- Collections by name, each with its documents in order of insertion. -/
abbrev Store := List (String × List Value)

namespace Store

/-- The documents of a collection; a collection that was never filled is empty. -/
def documents (store : Store) (collection : String) : List Value :=
  (store.lookup collection).getD []

/-- Whether a document has a field with a value equal to the one given. -/
def matchesField (name : String) (value document : Value) : Bool :=
  match document with
  | .map _ entries => ((Entries.field? name entries).map fun found => found.equal value).getD false
  | _ => false

/-- The first document of a collection whose field has the value given. -/
def findOne? (store : Store) (collection name : String) (value : Value) : Option Value :=
  (store.documents collection).find? (matchesField name value)

/-- Puts a document at the end of a collection. -/
def insert : (store : Store) → (collection : String) → (document : Value) → Store
  | [], collection, document => [(collection, [document])]
  | (name, documents) :: rest, collection, document =>
    if collection == name then (name, documents ++ [document]) :: rest
    else (name, documents) :: insert rest collection document

/-- A document put into a collection is found at its end. -/
theorem documents_insert_self (store : Store) (collection : String) (document : Value) :
    (store.insert collection document).documents collection =
      store.documents collection ++ [document] := by
  induction store with
  | nil => simp [insert, documents]
  | cons entry rest ih =>
    obtain ⟨name, found⟩ := entry
    by_cases h : collection == name
    · simp [insert, documents, List.lookup_cons, h]
    · have ih' : ((insert rest collection document).lookup collection).getD [] =
          (rest.lookup collection).getD [] ++ [document] := ih
      simp [insert, documents, List.lookup_cons, h, ih']

/-- The other collections stay as they are. -/
theorem documents_insert_of_ne (store : Store) {collection other : String} (document : Value)
    (h : other ≠ collection) :
    (store.insert collection document).documents other = store.documents other := by
  induction store with
  | nil =>
    have hne : (other == collection) = false := by simpa using h
    simp [insert, documents, List.lookup_cons, hne]
  | cons entry rest ih =>
    obtain ⟨name, found⟩ := entry
    by_cases hc : collection == name
    · have hname : collection = name := by simpa using hc
      have hne : (other == name) = false := by simpa [← hname] using h
      simp [insert, documents, List.lookup_cons, hc, hne]
    · have ih' : ((insert rest collection document).lookup other).getD [] =
          (rest.lookup other).getD [] := ih
      by_cases ho : other == name
      · simp [insert, documents, List.lookup_cons, hc, ho]
      · simp [insert, documents, List.lookup_cons, hc, ho, ih']

end Store

end WorkflowAudit
