import Mathlib.Data.List.Forall2
import WorkflowAudit.Value.Access

/-! # Keys and entries

Mappings find their keys by `Value.equal`, which compares meanings: it is reflexive
(`Value.equal_refl`), and that is all that looking up a key that was just put in needs.  The
statements about `Entries.insert` and `Entries.lookup?` below say what an insertion changes: under
its own key it is found (`lookup?_insert_self`), a second one replaces the first
(`insert_insert`), and a key that is equal to none of those present goes to the end
(`insert_of_fresh`), where it disturbs no other (`lookup?_insert_of_apart`).
-/
namespace WorkflowAudit

/-! ## Every value equals itself -/

theorem Decimal.Binary.equal_refl (b : Decimal.Binary) : b.equal b = true := by
  cases b with
  | finite negative mantissa exponent =>
    rw [Decimal.Binary.equal]
    by_cases h : mantissa == 0
    · rw [if_pos h]
      exact h
    · rw [if_neg h]
      simp
  | infinite negative => simp [Decimal.Binary.equal]
  | notANumber => rfl

theorem Date.beq_self (d : Date) : (d == d) = true := by
  simp [BEq.beq, instBEqDate.beq]

theorem Moment.beq_self (m : Moment) : (m == m) = true := by
  have hdate := m.date.beq_self
  simp only [BEq.beq] at hdate
  simp [BEq.beq, instBEqMoment.beq, hdate]

namespace Value

mutual

/-- Every value equals itself; the induction is that of `equal`. -/
theorem equal_refl : ∀ v : Value, v.equal v = true
  | .null => rfl
  | .bool b => by cases b <;> rfl
  | .int n => by simp [equal, scalarEqual, number?, Number.equal]
  | .float x => by simp [equal, scalarEqual, number?, Number.equal, Decimal.Binary.equal_refl]
  | .text s => by simp [equal, scalarEqual]
  | .bytes bs => by simp [equal, scalarEqual]
  | .date d => by simp [equal, scalarEqual, Date.beq_self]
  | .moment m => by simp [equal, scalarEqual, Moment.beq_self]
  | .tagged tag content => by simp [equal, scalarEqual]
  | .list kind items => by
    rw [equal, equalItems_refl items]
    simp
  | .map kind entries => by
    -- entries are compared without their order: each is looked for among all of them
    rw [equal, entriesWithin_of_subset entries entries fun _ h => h]
    simp
  | .set members => by
    rw [equal, membersWithin_of_subset members members fun _ h => h]
    simp

theorem equalItems_refl : ∀ items : List Value, equalItems items items = true
  | [] => rfl
  | v :: rest => by rw [equalItems, equal_refl v, equalItems_refl rest]; rfl

theorem entriesWithin_of_subset : ∀ entries others : Entries,
    (∀ entry ∈ entries, entry ∈ others) → entriesWithin entries others = true
  | [], _, _ => rfl
  | (k, v) :: rest, others, h => by
    have hfirst : (others.any fun (k', v') => equal k k' && equal v v') = true :=
      List.any_eq_true.mpr ⟨(k, v), h (k, v) List.mem_cons_self,
        by simp [equal_refl k, equal_refl v]⟩
    rw [entriesWithin, hfirst, entriesWithin_of_subset rest others fun e he =>
      h e (List.mem_cons_of_mem _ he)]
    rfl

theorem membersWithin_of_subset : ∀ members others : List Value,
    (∀ member ∈ members, member ∈ others) → membersWithin members others = true
  | [], _, _ => rfl
  | v :: rest, others, h => by
    have hfirst : others.any (equal v) = true :=
      List.any_eq_true.mpr ⟨v, h v List.mem_cons_self, equal_refl v⟩
    rw [membersWithin, hfirst, membersWithin_of_subset rest others fun e he =>
      h e (List.mem_cons_of_mem _ he)]
    rfl

end

end Value

/-! ## Looking up and putting in -/

namespace Entries

variable {α : Type} {key : Value} {entries more : List (Value × α)}

/-- No key present is equal to a key. -/
def Fresh (key : Value) (entries : List (Value × α)) : Prop :=
  ∀ k ∈ keys entries, k.equal key = false

theorem fresh_cons {k : Value} {value : α} :
    Fresh key ((k, value) :: entries) ↔ k.equal key = false ∧ Fresh key entries :=
  List.forall_mem_cons

theorem fresh_append : Fresh key (entries ++ more) ↔ Fresh key entries ∧ Fresh key more := by
  unfold Fresh keys
  rw [List.map_append, List.forall_mem_append]

/-- What was put under a key is found there. -/
@[simp] theorem lookup?_insert_self (key : Value) (value : α) (entries : List (Value × α)) :
    lookup? key (insert key value entries) = some value := by
  induction entries with
  | nil => rw [insert, lookup?, Value.equal_refl, if_pos rfl]
  | cons entry rest ih =>
    obtain ⟨k, old⟩ := entry
    by_cases hk : k.equal key
    · rw [insert, if_pos hk, lookup?, if_pos hk]
    · rw [insert, if_neg hk, lookup?, if_neg hk]
      exact ih

/-- The second of two things put under a key takes the place of the first. -/
@[simp] theorem insert_insert (key : Value) (first second : α) (entries : List (Value × α)) :
    insert key second (insert key first entries) = insert key second entries := by
  induction entries with
  | nil => rw [insert, insert, insert, Value.equal_refl, if_pos rfl]
  | cons entry rest ih =>
    obtain ⟨k, old⟩ := entry
    by_cases hk : k.equal key
    · rw [insert, if_pos hk, insert, if_pos hk, insert, if_pos hk]
    · rw [insert, if_neg hk, insert, if_neg hk, insert, if_neg hk, ih]

/-- A key that is equal to none of those present goes to the end. -/
theorem insert_of_fresh (value : α) (h : Fresh key entries) :
    insert key value entries = entries ++ [(key, value)] := by
  induction entries with
  | nil => rfl
  | cons entry rest ih =>
    obtain ⟨k, old⟩ := entry
    obtain ⟨hk, hrest⟩ := fresh_cons.mp h
    rw [insert, hk, List.cons_append, ← ih hrest]
    rfl

/-- Entries that come before and have other keys are passed over. -/
theorem insert_append_of_fresh (value : α) (h : Fresh key entries) :
    insert key value (entries ++ more) = entries ++ insert key value more := by
  induction entries with
  | nil => rfl
  | cons entry rest ih =>
    obtain ⟨k, old⟩ := entry
    obtain ⟨hk, hrest⟩ := fresh_cons.mp h
    rw [List.cons_append, insert, hk, List.cons_append, ← ih hrest]
    rfl

theorem lookup?_append_of_fresh (h : Fresh key entries) :
    lookup? key (entries ++ more) = lookup? key more := by
  induction entries with
  | nil => rfl
  | cons entry rest ih =>
    obtain ⟨k, old⟩ := entry
    obtain ⟨hk, hrest⟩ := fresh_cons.mp h
    rw [List.cons_append, lookup?, hk, ← ih hrest]
    rfl

/-- A key goes to the end of others, unless one of them is equal to it. -/
def addKey (key : Value) (others : List Value) : List Value :=
  if others.any (·.equal key) then others else others ++ [key]

theorem keys_insert (key : Value) (value : α) (entries : List (Value × α)) :
    keys (insert key value entries) = addKey key (keys entries) := by
  induction entries with
  | nil => rfl
  | cons entry rest ih =>
    obtain ⟨k, old⟩ := entry
    rw [insert]
    show _ = addKey key (k :: keys rest)
    unfold addKey at ih ⊢
    rw [List.any_cons]
    by_cases hk : k.equal key = true
    · rw [if_pos hk, hk, Bool.true_or, if_pos rfl]
      rfl
    · have hk' : k.equal key = false := by simpa using hk
      rw [if_neg hk, hk', Bool.false_or]
      show k :: keys (insert key value rest) = _
      rw [ih]
      split
      · rfl
      · rfl

/-- An insertion brings no key but its own. -/
theorem mem_keys_insert {k : Value} {value : α} (h : k ∈ keys (insert key value entries)) :
    k ∈ keys entries ∨ k = key := by
  rw [keys_insert, addKey] at h
  split at h
  · exact .inl h
  · rcases List.mem_append.mp h with h | h
    · exact .inl h
    · exact .inr (List.mem_singleton.mp h)

theorem addKey_of_lookup? {value : α} (h : lookup? key entries = some value) :
    addKey key (keys entries) = keys entries := by
  have hany : (keys entries).any (·.equal key) = true := by
    induction entries with
    | nil => cases h
    | cons entry rest ih =>
      obtain ⟨k, found⟩ := entry
      rw [lookup?] at h
      show (k :: keys rest).any (·.equal key) = true
      rw [List.any_cons]
      by_cases hk : k.equal key = true
      · rw [hk, Bool.true_or]
      · rw [if_neg hk] at h
        rw [ih h, Bool.or_true]
  rw [addKey, if_pos hany]

/-- Values can be changed before or after they are put in. -/
theorem map_insert {β : Type} (f : α → β) (key : Value) (value : α) (entries : List (Value × α)) :
    (insert key value entries).map (fun e => (e.1, f e.2)) =
      insert key (f value) (entries.map fun e => (e.1, f e.2)) := by
  induction entries with
  | nil => rfl
  | cons entry rest ih =>
    obtain ⟨k, old⟩ := entry
    rw [insert, List.map_cons, insert]
    by_cases hk : k.equal key = true
    · rw [if_pos hk, if_pos hk, List.map_cons]
    · rw [if_neg hk, if_neg hk, List.map_cons, ih]

theorem lookup?_map {β : Type} (f : α → β) (key : Value) (entries : List (Value × α)) :
    lookup? key (entries.map fun e => (e.1, f e.2)) = (lookup? key entries).map f := by
  induction entries with
  | nil => rfl
  | cons entry rest ih =>
    obtain ⟨k, old⟩ := entry
    rw [List.map_cons, lookup?, lookup?]
    by_cases hk : k.equal key = true
    · rw [if_pos hk, if_pos hk]
      rfl
    · rw [if_neg hk, if_neg hk, ih]

/-- An insertion under one key leaves what is found under another, if no key present stands for
both. -/
theorem lookup?_insert_of_apart {other : Value} (value : α) (hother : key.equal other = false)
    (h : ∀ k ∈ keys entries, k.equal other = true → k.equal key = false) :
    lookup? other (insert key value entries) = lookup? other entries := by
  induction entries with
  | nil => rw [insert, lookup?, lookup?, hother]; rfl
  | cons entry rest ih =>
    obtain ⟨k, old⟩ := entry
    obtain ⟨hfirst, hrest⟩ := List.forall_mem_cons.mp h
    rw [insert]
    by_cases hk : k.equal key
    · -- the entry that is replaced has the one key, so it does not have the other
      have hne : ¬ k.equal other = true := fun hk' => by rw [hfirst hk'] at hk; cases hk
      rw [if_pos hk, lookup?, lookup?, if_neg hne, if_neg hne]
    · rw [if_neg hk, lookup?, lookup?, ih hrest]

/-- What is found under a key stands in an entry. -/
theorem mem_of_lookup? {value : α} (h : lookup? key entries = some value) :
    ∃ k, (k, value) ∈ entries := by
  induction entries with
  | nil => cases h
  | cons entry rest ih =>
    obtain ⟨k, found⟩ := entry
    rw [lookup?] at h
    by_cases hk : k.equal key
    · rw [if_pos hk] at h
      cases h
      exact ⟨k, List.mem_cons_self⟩
    · rw [if_neg hk] at h
      obtain ⟨k', hmem⟩ := ih h
      exact ⟨k', List.mem_cons_of_mem _ hmem⟩

/-- What holds of all keys and of all values still does after an insertion of such a pair. -/
theorem forall_mem_insert {P : Value → Prop} {Q : α → Prop} {value : α}
    (h : ∀ entry ∈ entries, P entry.1 ∧ Q entry.2) (hkey : P key) (hvalue : Q value) :
    ∀ entry ∈ insert key value entries, P entry.1 ∧ Q entry.2 := by
  induction entries with
  | nil =>
    rw [insert]
    exact List.forall_mem_singleton.mpr ⟨hkey, hvalue⟩
  | cons entry rest ih =>
    obtain ⟨k, found⟩ := entry
    obtain ⟨hfirst, hrest⟩ := List.forall_mem_cons.mp h
    rw [insert]
    by_cases hk : k.equal key
    · rw [if_pos hk]
      exact List.forall_mem_cons.mpr ⟨⟨hfirst.1, hvalue⟩, hrest⟩
    · rw [if_neg hk]
      exact List.forall_mem_cons.mpr ⟨hfirst, ih hrest⟩

/-- No key is equal to an earlier one, as in every mapping that was put together by `insert`. -/
def Distinct (entries : List (Value × α)) : Prop :=
  (keys entries).Pairwise fun k k' => k.equal k' = false

theorem distinct_cons {k : Value} {value : α} :
    Distinct ((k, value) :: entries) ↔
      (∀ k' ∈ keys entries, k.equal k' = false) ∧ Distinct entries :=
  List.pairwise_cons

theorem distinct_singleton (k : Value) (value : α) : Distinct [(k, value)] :=
  List.pairwise_singleton _ k

theorem distinct_insert {value : α} (h : Distinct entries) :
    Distinct (insert key value entries) := by
  induction entries with
  | nil => exact distinct_singleton key value
  | cons entry rest ih =>
    obtain ⟨k, old⟩ := entry
    obtain ⟨hk, hrest⟩ := distinct_cons.mp h
    rw [insert]
    by_cases hkey : k.equal key
    · rw [if_pos hkey]
      exact h
    · rw [if_neg hkey]
      refine distinct_cons.mpr ⟨fun k' hk' => ?_, ih hrest⟩
      rcases mem_keys_insert hk' with hk' | rfl
      · exact hk k' hk'
      · simpa using hkey

/-- Among distinct keys each one leads to its own entry. -/
theorem lookup?_of_mem {value : α} (hdistinct : Distinct entries) (h : (key, value) ∈ entries) :
    lookup? key entries = some value := by
  induction entries with
  | nil => cases h
  | cons entry rest ih =>
    obtain ⟨k, found⟩ := entry
    obtain ⟨hk, hrest⟩ := distinct_cons.mp hdistinct
    rw [lookup?]
    rcases List.mem_cons.mp h with he | h
    · obtain ⟨rfl, rfl⟩ := Prod.mk.inj he
      rw [if_pos (Value.equal_refl _)]
    · -- the key stands further on, so the first entry has a different one
      have hkey : key ∈ keys rest := List.mem_map_of_mem h
      rw [hk key hkey]
      exact ih hrest h

theorem lookup?_singleton (k : Value) (value : α) : lookup? k [(k, value)] = some value :=
  lookup?_of_mem (distinct_singleton k value) List.mem_cons_self

/-! ## Entries put in one after the other -/

section Entered

variable {β : Type} {R : β → Value × α → Prop} {items done todo : List β} {b : β}

/-- Each item of a list puts in an entry that stands for it. -/
inductive Entered (R : β → Value × α → Prop) :
    List (Value × α) → List β → List (Value × α) → Prop where
  | nil (entries : List (Value × α)) : Entered R entries [] entries
  | cons {entries entries' : List (Value × α)} {b : β} {rest : List β} {key : Value} {value : α}
    (h : R b (key, value)) (hrest : Entered R (insert key value entries) rest entries') :
    Entered R entries (b :: rest) entries'

/-- Items whose entries have different keys. -/
def KeysDiffer (R : β → Value × α → Prop) (items : List β) : Prop :=
  items.Pairwise fun b b' => ∀ entry entry', R b entry → R b' entry' →
    entry.1.equal entry'.1 = false

/-- Entries that stand for those of a mapping under the same keys have different keys. -/
theorem Distinct.keysDiffer {R : Value × β → Value × α → Prop} {sources : List (Value × β)}
    (h : Distinct sources) (hR : ∀ source found, R source found → found.1 = source.1) :
    KeysDiffer R sources := by
  refine List.Pairwise.imp ?_ (List.pairwise_map.mp h)
  intro source source' hne found found' hfound hfound'
  rw [hR source found hfound, hR source' found' hfound']
  exact hne

theorem exists_mem_of_forall₂ {γ : Type} {R : β → γ → Prop} {others : List γ}
    (h : List.Forall₂ R items others) (hb : b ∈ items) : ∃ c ∈ others, R b c := by
  induction h with
  | nil => cases hb
  | cons hfirst _ ih =>
    rcases List.mem_cons.mp hb with rfl | hb
    · exact ⟨_, List.mem_cons_self, hfirst⟩
    · obtain ⟨c, hc, hR⟩ := ih hb
      exact ⟨c, List.mem_cons_of_mem _ hc, hR⟩

/-- Entries with different keys stand in the order of their items. -/
theorem Entered.forall₂ (h : Entered R entries todo more) (hdone : List.Forall₂ R done entries)
    (hkeys : KeysDiffer R (done ++ todo)) : List.Forall₂ R (done ++ todo) more := by
  induction h generalizing done with
  | nil entries =>
    rw [List.append_nil]
    exact hdone
  | @cons entries entries' b rest key value hb _ ih =>
    -- every entry stands for an earlier item, whose key differs, so this one goes to the end
    have hfresh : Fresh key entries := by
      intro k hk
      obtain ⟨entry, hentry, rfl⟩ := List.mem_map.mp hk
      obtain ⟨b', hb', hR⟩ := exists_mem_of_forall₂ hdone.flip hentry
      exact (List.pairwise_append.mp hkeys).2.2 b' hb' b List.mem_cons_self _ _ hR hb
    rw [insert_of_fresh _ hfresh] at ih
    rw [List.append_cons] at hkeys ⊢
    exact ih (List.rel_append hdone (.cons hb .nil)) hkeys

theorem distinct_of_forall₂ (h : List.Forall₂ R items entries) (hkeys : KeysDiffer R items) :
    Distinct entries := by
  induction h with
  | nil => exact .nil
  | @cons b entry items entries hb hrest ih =>
    obtain ⟨hfirst, hkeys⟩ := List.pairwise_cons.mp hkeys
    refine distinct_cons.mpr ⟨fun k hk => ?_, ih hkeys⟩
    obtain ⟨entry', hentry', rfl⟩ := List.mem_map.mp hk
    obtain ⟨b', hb', hR⟩ := exists_mem_of_forall₂ hrest.flip hentry'
    exact hfirst b' hb' _ _ hb hR

/-- Among items whose entries have different keys, each one leads to its own entry. -/
theorem Entered.exists_lookup? (h : Entered R [] items entries) (hkeys : KeysDiffer R items)
    (hb : b ∈ items) : ∃ key value, R b (key, value) ∧ lookup? key entries = some value := by
  have hall : List.Forall₂ R items entries := h.forall₂ .nil hkeys
  obtain ⟨⟨key, value⟩, hentry, hR⟩ := exists_mem_of_forall₂ hall hb
  exact ⟨key, value, hR, lookup?_of_mem (distinct_of_forall₂ hall hkeys) hentry⟩

end Entered

end Entries

end WorkflowAudit
