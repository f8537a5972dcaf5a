import Mathlib.Data.List.Forall2
import WorkflowAudit.Session.Basic

/-! # Runs of tasks

A task is a function from a session to an outcome and the session after it.  This module says what
`Audit.perform` makes of each way of putting tasks together, so that a run of a long task can be
taken apart step by step without opening the monad: `perform_bind_ok` and `foldlM_cons_ok` give the
steps of a run that succeeds, and `bind_ok` and `foldlM_ok_cons` do the same for checks of values,
which have no session.
-/
namespace WorkflowAudit

/-! ## Checks -/

section Checks

variable {α β : Type}

/-- A check in two steps succeeds exactly when both steps do. -/
theorem bind_ok {check : Except Failure α} {next : α → Except Failure β} {b : β} :
    check >>= next = .ok b ↔ ∃ a, check = .ok a ∧ next a = .ok b := by
  cases check with
  | error failure =>
    constructor
    · intro h
      cases h
    · rintro ⟨a, ha, -⟩
      cases ha
  | ok a =>
    constructor
    · intro h
      exact ⟨a, rfl, h⟩
    · rintro ⟨a', ha, h⟩
      cases ha
      exact h

@[simp] theorem pure_ok {a b : α} : (pure a : Except Failure α) = .ok b ↔ a = b := by
  constructor
  · intro h
    cases h
    rfl
  · rintro rfl
    rfl

/-- A check whose result passes another one has a result. -/
theorem exists_ok_of_any {ε : Type} {check : Except ε α} {passes : α → Bool}
    (h : check.toOption.any passes = true) : ∃ a, check = .ok a ∧ passes a = true := by
  cases check with
  | error failure => cases h
  | ok a => exact ⟨a, rfl, h⟩

/-- The first step of a fold of checks that succeeds. -/
theorem foldlM_ok_cons {visit : β → α → Except Failure β} {start b : β} {a : α} {items : List α} :
    (a :: items).foldlM visit start = .ok b ↔
      ∃ mid, visit start a = .ok mid ∧ items.foldlM visit mid = .ok b := by
  rw [List.foldlM_cons, bind_ok]

/-- A fold of checks keeps what each of its steps keeps. -/
theorem foldlM_ok_induct {visit : β → α → Except Failure β} {P : β → Prop} {items : List α}
    (hstep : ∀ found a found', a ∈ items → visit found a = .ok found' → P found → P found')
    {start b : β} (h : items.foldlM visit start = .ok b) (hstart : P start) : P b := by
  induction items generalizing start with
  | nil =>
    rw [List.foldlM_nil, pure_ok] at h
    exact h ▸ hstart
  | cons a items ih =>
    obtain ⟨mid, hmid, hrest⟩ := foldlM_ok_cons.mp h
    have hP : P mid := hstep start a mid List.mem_cons_self hmid hstart
    exact ih (fun found a' found' ha' =>
      hstep found a' found' (List.mem_cons_of_mem a ha')) hrest hP

/-- A fold of checks that succeeds has visited every item with success. -/
theorem exists_visit_of_foldlM {visit : β → α → Except Failure β} {items : List α} {start b : β}
    (h : items.foldlM visit start = .ok b) {a : α} (ha : a ∈ items) :
    ∃ found found', visit found a = .ok found' := by
  induction items generalizing start with
  | nil => cases ha
  | cons first items ih =>
    obtain ⟨mid, hmid, hrest⟩ := foldlM_ok_cons.mp h
    rcases List.mem_cons.mp ha with rfl | ha
    · exact ⟨start, mid, hmid⟩
    · exact ih hrest ha

/-- A check of every item that succeeds gives one result for each, in order. -/
theorem mapM_ok {visit : α → Except Failure β} {items : List α} {found : List β} :
    items.mapM visit = .ok found ↔ List.Forall₂ (fun a b => visit a = .ok b) items found := by
  induction items generalizing found with
  | nil =>
    rw [List.mapM_nil, pure_ok]
    constructor
    · rintro rfl
      exact .nil
    · intro h
      cases h
      rfl
  | cons a items ih =>
    rw [List.mapM_cons, bind_ok]
    constructor
    · rintro ⟨b, hb, h⟩
      obtain ⟨rest, hrest, h⟩ := bind_ok.mp h
      obtain rfl := pure_ok.mp h
      exact .cons hb (ih.mp hrest)
    · intro h
      cases h with
      | cons hb hrest => exact ⟨_, hb, bind_ok.mpr ⟨_, ih.mpr hrest, rfl⟩⟩

end Checks

namespace Session

/-! ## What a step makes of a session -/

/-- The session in which a text has been printed. -/
def printed (text : List Char) (s : Session) : Session :=
  { s with log := { s.log with printed := s.log.printed ++ text } }

/-- The session in which a request has been noted. -/
def asked (path authorization : String) (s : Session) : Session :=
  { s with log := { s.log with requests := s.log.requests ++ [(service ++ path, authorization)] } }

/-- The session in which a document has been put into a collection. -/
def inserted (collection : String) (document : Value) (s : Session) : Session :=
  { s with
    store := s.store.insert collection document
    log := { s.log with inserts := s.log.inserts ++ [(collection, document)] } }

@[simp] theorem store_printed (text : List Char) (s : Session) :
    (s.printed text).store = s.store := rfl

@[simp] theorem store_inserted (collection : String) (document : Value) (s : Session) :
    (s.inserted collection document).store = s.store.insert collection document := rfl

theorem printed_printed (text more : List Char) (s : Session) :
    (s.printed text).printed more = s.printed (text ++ more) := by
  simp only [printed, List.append_assoc]

theorem printed_nil (s : Session) : s.printed [] = s := by
  simp only [printed, List.append_nil]

/-! ## Answers -/

/-- The next answer for a path is taken from those left for it, and no other path loses one. -/
theorem exists_takeAnswer? {path : String} {answers : List (String × List Answer)} {answer : Answer}
    {left : List Answer} (h : (answers.lookup path).getD [] = answer :: left) :
    ∃ rest, takeAnswer? path answers = some (answer, rest) ∧ (rest.lookup path).getD [] = left ∧
      ∀ other, other ≠ path → rest.lookup other = answers.lookup other := by
  induction answers with
  | nil => cases h
  | cons entry more ih =>
    obtain ⟨name, found⟩ := entry
    by_cases hname : path = name
    · subst hname
      simp only [List.lookup_cons_self, Option.getD_some] at h
      subst h
      refine ⟨(path, left) :: more, by simp [takeAnswer?], by simp, fun other hother => ?_⟩
      have hne : (other == path) = false := beq_eq_false_iff_ne.mpr hother
      simp [List.lookup_cons, hne]
    · have hne : (path == name) = false := beq_eq_false_iff_ne.mpr hname
      obtain ⟨rest, htake, hleft, hothers⟩ := ih (by simpa [List.lookup_cons, hne] using h)
      refine ⟨(name, found) :: rest, by simp [takeAnswer?, hne, htake], ?_, fun other hother => ?_⟩
      · simpa [List.lookup_cons, hne] using hleft
      · rw [List.lookup_cons, List.lookup_cons, hothers other hother]

theorem takeAnswer?_of_nil {path : String} {answers : List (String × List Answer)}
    (h : (answers.lookup path).getD [] = []) : takeAnswer? path answers = none := by
  induction answers with
  | nil => rfl
  | cons entry more ih =>
    obtain ⟨name, found⟩ := entry
    by_cases hname : path = name
    · subst hname
      simp only [List.lookup_cons_self, Option.getD_some] at h
      subst h
      simp [takeAnswer?]
    · have hne : (path == name) = false := beq_eq_false_iff_ne.mpr hname
      simp [takeAnswer?, hne, ih (by simpa [List.lookup_cons, hne] using h)]

/-- An answer that was taken was the next one for its path. -/
theorem lookup_takeAnswer? {path : String} {answers left : List (String × List Answer)}
    {answer : Answer} (h : takeAnswer? path answers = some (answer, left)) :
    (answers.lookup path).getD [] = answer :: (left.lookup path).getD [] ∧
      ∀ other, other ≠ path → left.lookup other = answers.lookup other := by
  cases hnext : (answers.lookup path).getD [] with
  | nil =>
    rw [takeAnswer?_of_nil hnext] at h
    cases h
  | cons first more =>
    obtain ⟨rest, htaken, rfl, hothers⟩ := exists_takeAnswer? hnext
    obtain ⟨rfl, rfl⟩ := Prod.mk.inj (Option.some.inj (htaken.symm.trans h))
    exact ⟨rfl, hothers⟩

end Session

namespace Audit

variable {α β : Type} {s s' : Session}

/-! ## Single steps -/

theorem perform_bind (task : Audit α) (next : α → Audit β) (s : Session) :
    (task >>= next).perform s =
      match task.perform s with
      | (.ok a, s₁) => (next a).perform s₁
      | (.error failure, s₁) => (.error failure, s₁) := by
  rcases h : task.perform s with ⟨outcome, s₁⟩
  have hrun : task s = (outcome, s₁) := h
  -- the layers are opened here once, and by no later proof
  change (task s >>= fun p => ExceptT.bindCont next p.1 p.2) = _
  rw [hrun]
  cases outcome with
  | ok a => rfl
  | error failure => rfl

@[simp] theorem perform_pure (a : α) (s : Session) :
    (pure a : Audit α).perform s = (.ok a, s) := rfl

@[simp] theorem perform_throw (failure : Failure) (s : Session) :
    (throw failure : Audit α).perform s = (.error failure, s) := rfl

@[simp] theorem perform_get (s : Session) : (get : Audit Session).perform s = (.ok s, s) := rfl

@[simp] theorem perform_set (s' s : Session) : (set s' : Audit Unit).perform s = (.ok (), s') := rfl

@[simp] theorem perform_modify (f : Session → Session) (s : Session) :
    (modify f : Audit Unit).perform s = (.ok (), f s) := rfl

@[simp] theorem perform_check (result : Except Failure α) (s : Session) :
    (check result).perform s = (result, s) := by
  cases result <;> rfl

@[simp] theorem check_pure (a : α) : check (pure a) = (pure a : Audit α) := rfl

/-- A check in two steps is a task in two steps. -/
theorem check_bind (result : Except Failure α) (next : α → Except Failure β) :
    check (result >>= next) = check result >>= fun a => check (next a) := by
  cases result <;> rfl

/-- A failed task hands the session it has reached to the task that takes its place. -/
theorem perform_tryCatch (task : Audit α) (rescue : Failure → Audit α) (s : Session) :
    (tryCatch task rescue).perform s =
      match task.perform s with
      | (.ok a, s₁) => (.ok a, s₁)
      | (.error failure, s₁) => (rescue failure).perform s₁ := by
  rcases h : task.perform s with ⟨outcome, s₁⟩
  have hrun : task s = (outcome, s₁) := h
  simp only [perform, ExceptT.run, tryCatch, tryCatchThe, MonadExceptOf.tryCatch, ExceptT.tryCatch,
    ExceptT.mk, bind, StateT.bind, hrun]
  cases outcome with
  | ok a => rfl
  | error failure => rfl

@[simp] theorem perform_say (line : List Char) (s : Session) :
    (say line).perform s = (.ok (), s.printed (line ++ ['\n'])) := rfl

@[simp] theorem perform_findOne (collection name : String) (value : Value) (s : Session) :
    (findOne collection name value).perform s = (.ok (s.store.findOne? collection name value), s) :=
  rfl

@[simp] theorem perform_insert (collection : String) (document : Value) (s : Session) :
    (insert collection document).perform s = (.ok (), s.inserted collection document) := rfl

@[simp] theorem perform_nextToken (s : Session) :
    nextToken.perform s = (.ok s.tokens.next, { s with tokens := s.tokens.rotated }) := rfl

/-- A request is noted first, and then answered or not. -/
theorem perform_request (path authorization : String) (s : Session) :
    (request path authorization).perform s =
      match Session.takeAnswer? path s.answers with
      | some (answer, left) => (.ok answer, { s.asked path authorization with answers := left })
      | none => (.error .noAnswer, s.asked path authorization) := by
  have hnote : request path authorization = (do
      set ((← get).asked path authorization)
      let session ← get
      match Session.takeAnswer? path session.answers with
      | some (answer, left) =>
        set { session with answers := left }
        return answer
      | none => throw .noAnswer) := rfl
  -- the note is in the log, so the answers are those there were before it
  have hanswers : (s.asked path authorization).answers = s.answers := rfl
  rw [hnote]
  simp only [perform_bind, perform_get, perform_set, hanswers]
  cases Session.takeAnswer? path s.answers with
  | none => rfl
  | some taken => rfl

/-! ## Runs that succeed -/

/-- A run whose outcome is no failure gives a result. -/
theorem exists_of_isOk {run : Except Failure α × Session} (h : run.1.isOk = true) :
    ∃ a s', run = (.ok a, s') := by
  obtain ⟨outcome, s'⟩ := run
  cases outcome with
  | error failure => cases h
  | ok a => exact ⟨a, s', rfl⟩

/-- A run whose result passes a check has one. -/
theorem exists_of_any {run : Except Failure α × Session} {passes : α → Bool}
    (h : run.1.toOption.any passes = true) : ∃ a s', run = (.ok a, s') ∧ passes a = true := by
  obtain ⟨a, hok, ha⟩ := exists_ok_of_any h
  exact ⟨a, run.2, Prod.ext hok rfl, ha⟩

/-- A run of two tasks in a row succeeds exactly when both do, the second where the first ended. -/
theorem perform_bind_ok {task : Audit α} {next : α → Audit β} {b : β} :
    (task >>= next).perform s = (.ok b, s') ↔
      ∃ a s₁, task.perform s = (.ok a, s₁) ∧ (next a).perform s₁ = (.ok b, s') := by
  rw [perform_bind]
  rcases task.perform s with ⟨outcome, s₁⟩
  cases outcome with
  | error failure =>
    constructor
    · intro h
      cases h
    · rintro ⟨a, s₂, h, -⟩
      cases h
  | ok a =>
    constructor
    · intro h
      exact ⟨a, s₁, rfl, h⟩
    · rintro ⟨a', s₂, h, hnext⟩
      cases h
      exact hnext

theorem perform_check_ok {result : Except Failure α} {a : α} :
    (check result).perform s = (.ok a, s') ↔ result = .ok a ∧ s = s' := by
  rw [perform_check, Prod.mk.injEq]

theorem perform_pure_ok {a b : α} :
    (pure a : Audit α).perform s = (.ok b, s') ↔ a = b ∧ s = s' := by
  rw [perform_pure, Prod.mk.injEq, Except.ok.injEq]

/-- A check followed by a task: nothing has happened yet when the check fails. -/
theorem perform_check_bind (result : Except Failure α) (next : α → Audit β) (s : Session) :
    (check result >>= next).perform s =
      match result with
      | .ok a => (next a).perform s
      | .error failure => (.error failure, s) := by
  rw [perform_bind, perform_check]
  cases result <;> rfl

/-- The first step of a fold of tasks that succeeds. -/
theorem foldlM_cons_ok {visit : β → α → Audit β} {start b : β} {a : α} {items : List α} :
    ((a :: items).foldlM visit start).perform s = (.ok b, s') ↔
      ∃ mid s₁, (visit start a).perform s = (.ok mid, s₁) ∧
        (items.foldlM visit mid).perform s₁ = (.ok b, s') := by
  rw [List.foldlM_cons, perform_bind_ok]

/-- The first of some tasks in a row that all succeed. -/
theorem forM_cons_ok {visit : α → Audit Unit} {a : α} {items : List α} :
    ((a :: items).forM visit).perform s = (.ok (), s') ↔
      ∃ s₁, (visit a).perform s = (.ok (), s₁) ∧ (items.forM visit).perform s₁ = (.ok (), s') := by
  rw [show (a :: items).forM visit = visit a >>= fun _ => items.forM visit from rfl,
    perform_bind_ok]
  constructor
  · rintro ⟨⟨⟩, s₁, h, hrest⟩
    exact ⟨s₁, h, hrest⟩
  · rintro ⟨s₁, h, hrest⟩
    exact ⟨(), s₁, h, hrest⟩

/-! ## Runs that only print -/

/-- In a session a task gives a result, and all it does is print. -/
def Says (task : Audit α) (s : Session) (a : α) : Prop :=
  ∃ said, task.perform s = (.ok a, s.printed said)

namespace Says

theorem pure (a : α) : (Pure.pure a : Audit α).Says s a :=
  ⟨[], by rw [perform_pure, Session.printed_nil]⟩

theorem say (line : List Char) : (Audit.say line).Says s () := ⟨_, perform_say line s⟩

theorem check {result : Except Failure α} {a : α} (h : result = .ok a) : (check result).Says s a :=
  ⟨[], by rw [perform_check, h, Session.printed_nil]⟩

/-- The second of two tasks is run where the first has printed something. -/
theorem bind {task : Audit α} {next : α → Audit β} {a : α} {b : β} (h : task.Says s a)
    (hnext : ∀ said, (next a).Says (s.printed said) b) : (task >>= next).Says s b := by
  obtain ⟨said, hrun⟩ := h
  obtain ⟨more, hmore⟩ := hnext said
  exact ⟨said ++ more, perform_bind_ok.mpr ⟨a, _, hrun,
    Session.printed_printed said more s ▸ hmore⟩⟩

theorem map (f : α → β) {task : Audit α} {a : α} (h : task.Says s a) :
    (f <$> task).Says s (f a) := by
  rw [map_eq_pure_bind]
  exact h.bind fun _ => .pure (f a)

/-- A task that succeeds needs no rescue. -/
theorem tryCatch {task : Audit α} {rescue : Failure → Audit α} {a : α} (h : task.Says s a) :
    (MonadExcept.tryCatch task rescue).Says s a := by
  obtain ⟨said, hrun⟩ := h
  refine ⟨said, ?_⟩
  rw [perform_tryCatch, hrun]

/-- Tasks in a row that only print. -/
theorem forIn {γ : Type} {visit : γ → PUnit → Audit (ForInStep PUnit)} {items : List γ}
    (hvisit : ∀ a ∈ items, ∀ s, (visit a ⟨⟩).Says s (.yield ⟨⟩)) (s : Session) :
    (ForIn.forIn items ⟨⟩ visit).Says s ⟨⟩ := by
  induction items generalizing s with
  | nil => exact .pure _
  | cons a items ih =>
    obtain ⟨ha, hitems⟩ := List.forall_mem_cons.mp hvisit
    rw [List.forIn_cons]
    exact (ha s).bind fun said => ih hitems _

end Says

/-- In a session a task fails, and all it has done is print. -/
def Stops (task : Audit α) (s : Session) (failure : Failure) : Prop :=
  ∃ said, task.perform s = (.error failure, s.printed said)

namespace Stops

variable {failure : Failure}

theorem check {result : Except Failure α} (h : result = .error failure) :
    (check result).Stops s failure :=
  ⟨[], by rw [perform_check, h, Session.printed_nil]⟩

theorem bind {task : Audit α} {next : α → Audit β} (h : task.Stops s failure) :
    (task >>= next).Stops s failure := by
  obtain ⟨said, hrun⟩ := h
  exact ⟨said, by rw [perform_bind, hrun]⟩

/-- The second of two tasks fails where the first has printed something. -/
theorem bind_next {task : Audit α} {next : α → Audit β} {a : α} (h : task.Says s a)
    (hnext : ∀ said, (next a).Stops (s.printed said) failure) :
    (task >>= next).Stops s failure := by
  obtain ⟨said, hrun⟩ := h
  obtain ⟨more, hmore⟩ := hnext said
  refine ⟨said ++ more, ?_⟩
  rw [perform_bind, hrun]
  exact Session.printed_printed said more s ▸ hmore

/-- Of tasks in a row the first that does not pass is the last. -/
theorem forIn {γ : Type} {visit : γ → PUnit → Audit (ForInStep PUnit)} {items : List γ}
    {passes : γ → Prop} (hpasses : ∀ a ∈ items, passes a → ∀ s, (visit a ⟨⟩).Says s (.yield ⟨⟩))
    (hstops : ∀ a ∈ items, ¬ passes a → ∀ s, (visit a ⟨⟩).Stops s failure)
    (hnot : ¬ ∀ a ∈ items, passes a) (s : Session) :
    (ForIn.forIn items ⟨⟩ visit).Stops s failure := by
  induction items generalizing s with
  | nil => exact absurd (List.forall_mem_nil _) hnot
  | cons a items ih =>
    obtain ⟨hpass, hpasses⟩ := List.forall_mem_cons.mp hpasses
    obtain ⟨hstop, hstops⟩ := List.forall_mem_cons.mp hstops
    rw [List.forIn_cons]
    by_cases ha : passes a
    · refine .bind_next (hpass ha s) fun said => ih hpasses hstops (fun hall => hnot ?_) _
      exact List.forall_mem_cons.mpr ⟨ha, hall⟩
    · exact (hstop ha s).bind

end Stops

end Audit

end WorkflowAudit
