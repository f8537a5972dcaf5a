import Mathlib.Tactic.Linarith
import WorkflowAudit.Proofs.Attempts
import WorkflowAudit.Proofs.Equality

/-! # Waiting for a reset

A client that was refused waits until the service sets back the number of requests it has left: that
is the intent, and `reset_awaited_iff_below_zero` says how far it goes.  The limit is told in whole
numbers and the clock may show a fraction of a second, so what the clock shows is counted in units
(`Release.Shows`), and the whole seconds that are taken of it are never a second ahead
(`Release.wholeSeconds_of_shows`).  The ten seconds that are added to each wait make up for that.

There is a wait only for a number below zero.  A service that has no requests left says zero, and
then the client goes on at once (`used_up_limit_not_awaited`).  And there is one only for a number
of seconds that a client can wait for (`Release.Endurable`).
-/
namespace WorkflowAudit

/-! ## Whole seconds -/

namespace Decimal.Binary

/-- The integer part of a finite double, but for its sign: the double lies between it and the next
natural. -/
theorem exists_truncated {mantissa : Nat} {exponent : Int} (negative : Bool)
    (h : -(leastExponent : Int) ≤ exponent) :
    ∃ whole : Nat, (finite negative mantissa exponent).truncated? = some (signed negative whole) ∧
      whole * unitsInOne ≤ units mantissa exponent ∧
      units mantissa exponent < (whole + 1) * unitsInOne := by
  have hunits := @scaledPair_units mantissa exponent h
  have hpos := scaledPair_pos mantissa exponent
  refine ⟨(scaledPair mantissa 1 exponent).1 / (scaledPair mantissa 1 exponent).2, rfl, ?_⟩
  generalize (scaledPair mantissa 1 exponent).1 = m at *
  generalize (scaledPair mantissa 1 exponent).2 = d at *
  constructor
  · refine Nat.le_of_mul_le_mul_right ?_ hpos
    calc m / d * unitsInOne * d = m / d * d * unitsInOne := mul_right_comm _ _ _
      _ ≤ m * unitsInOne := Nat.mul_le_mul_right _ (Nat.div_mul_le_self m d)
      _ = units mantissa exponent * d := hunits
  · refine Nat.lt_of_mul_lt_mul_right (a := d) ?_
    calc units mantissa exponent * d = m * unitsInOne := hunits.symm
      _ < d * (m / d + 1) * unitsInOne :=
        Nat.mul_lt_mul_of_pos_right (Nat.lt_mul_div_succ m hpos)
          (Nat.pos_of_ne_zero unitsInOne_ne_zero)
      _ = (m / d + 1) * unitsInOne * d := by ring

/-- The integer part of a double is less than one above it. -/
theorem truncated?_lt {b : Binary} {time : Int} (h : b.Normal)
    (hmeaning : b.meaning = .finite time) :
    ∃ whole, b.truncated? = some whole ∧ whole * unitsInOne < time + unitsInOne := by
  cases b with
  | infinite negative => cases hmeaning
  | notANumber => cases hmeaning
  | finite negative mantissa exponent =>
    obtain rfl := Meaning.finite.inj hmeaning
    obtain ⟨whole, hwhole, hbelow, habove⟩ := @exists_truncated mantissa exponent negative h.2.1
    refine ⟨_, hwhole, ?_⟩
    zify at hbelow habove
    -- cut toward zero, a negative double grows, by less than one, and another one shrinks
    cases negative with
    | true =>
      show -(whole : Int) * unitsInOne < -(units mantissa exponent : Int) + unitsInOne
      linarith
    | false =>
      show (whole : Int) * unitsInOne < (units mantissa exponent : Int) + unitsInOne
      exact lt_add_of_le_of_pos hbelow unitsInOne_pos

end Decimal.Binary

namespace Release

open Audit Session Decimal

/-- A clock shows a time, counted in units. -/
def Shows (clock : Value) (time : Int) : Prop :=
  ∃ n, clock.number? = some n ∧ n.meaning = .finite time

theorem wholeSeconds_of_shows {clock : Value} {time : Int} (h : Shows clock time) :
    ∃ whole, wholeSeconds clock = .ok whole ∧ whole * unitsInOne < time + unitsInOne := by
  obtain ⟨n, hn, hmeaning⟩ := h
  unfold wholeSeconds
  rw [hn]
  cases n with
  | int n =>
    obtain rfl := Meaning.finite.inj hmeaning
    exact ⟨n, rfl, lt_add_of_pos_right _ unitsInOne_pos⟩
  | float x =>
    obtain ⟨whole, htruncated, hwhole⟩ := Binary.truncated?_lt (Binary.normal_ofFloat x) hmeaning
    refine ⟨whole, ?_, hwhole⟩
    dsimp only
    generalize Binary.ofFloat x = b at *
    cases b with
    | infinite negative => cases htruncated
    | notANumber => cases htruncated
    | finite negative mantissa exponent =>
      show Except.ok ((Binary.finite negative mantissa exponent).truncated?.getD 0) = _
      rw [htruncated]
      rfl

/-! ## Limits that are told in integers -/

/-- The value of a field, if there is one. -/
def entry? (v : Value) (name : String) : Option Value :=
  (v.field? name).toOption.join

theorem field?_of_entry? {v w : Value} {name : String} (h : entry? v name = some w) :
    v.field? name = .ok (some w) := by
  unfold entry? at h
  cases hfield : v.field? name with
  | error failure =>
    rw [hfield] at h
    cases h
  | ok found =>
    rw [hfield] at h
    exact congrArg Except.ok h

/-- The requests left and the time of the reset that the body of an answer tells, if both are
integers. -/
def integerLimit? (body : Value) : Option (Int × Int) := do
  let resources ← entry? body "resources"
  let core ← entry? resources "core"
  match entry? core "remaining", entry? core "reset" with
  | some (.int remaining), some (.int reset) => some (remaining, reset)
  | _, _ => none

theorem told_of_integerLimit {answer : Answer} {body : Value} {remaining reset : Int}
    (hbody : Json.read answer.body.toList = .ok body)
    (h : integerLimit? body = some (remaining, reset)) :
    told answer = (.int remaining, .int reset) := by
  obtain ⟨resources, hresources, h⟩ := Option.bind_eq_some_iff.mp h
  obtain ⟨core, hcore, h⟩ := Option.bind_eq_some_iff.mp h
  have hlimit : limitOf answer.body.toList = .ok (.int remaining, .int reset) := by
    refine bind_ok.mpr ⟨body, hbody, bind_ok.mpr ⟨_, field?_of_entry? hresources, ?_⟩⟩
    refine bind_ok.mpr ⟨_, field?_of_entry? hcore, ?_⟩
    -- the defaults of the fields do not come in, since all four are there
    split at h
    case h_2 => cases h
    case h_1 hremaining hreset =>
      obtain ⟨rfl, rfl⟩ := Prod.mk.inj (Option.some.inj h)
      refine bind_ok.mpr ⟨_, field?_of_entry? hremaining, ?_⟩
      exact bind_ok.mpr ⟨_, field?_of_entry? hreset, rfl⟩
  unfold told
  rw [hlimit]

theorem pause_of_negative {remaining reset whole : Int} {now : Value} (h : remaining < 0)
    (hwhole : wholeSeconds now = .ok whole) :
    pause (.int remaining, .int reset) now = .ok (some (.int (reset - whole + 10))) :=
  bind_ok.mpr ⟨true, congrArg Except.ok (decide_eq_true h),
    bind_ok.mpr ⟨whole, hwhole, rfl⟩⟩

theorem pause_of_nonneg {remaining : Int} (reset now : Value) (h : 0 ≤ remaining) :
    pause (.int remaining, reset) now = .ok none :=
  bind_ok.mpr ⟨false, congrArg Except.ok (decide_eq_false (not_lt.mpr h)), rfl⟩

/-- The body of an answer cannot be read, and so tells nothing: a limit is taken for it that asks
for no wait. -/
theorem told_of_unread {answer : Answer} {failure : Failure}
    (h : Json.read answer.body.toList = .error failure) : told answer = unknownLimit := by
  have hlimit : limitOf answer.body.toList = .error failure := by
    unfold limitOf
    rw [h]
    rfl
  unfold told
  rw [hlimit]

/-! ## Waits for an integer -/

/-- A number of seconds that a client can wait for.  A wait that is really made must be one whose
nanoseconds can be counted; for one that is only noted it is enough that it can be said. -/
def Endurable (client : Client) : Waiting → Int → Prop
  | .asleep, n => 0 ≤ n ∧ n * 1000000000 ≤ Waiting.longest
  | .noted, n => 0 ≤ n ∧ (client = .auditor → n < 10 ^ Text.digitLimit)

theorem isCountable_int_of_nonneg {n : Int} (h : 0 ≤ n) :
    Waiting.isCountable (.int n) = true ↔ n * 1000000000 ≤ Waiting.longest := by
  have hbelow : -Waiting.longest - 1 ≤ n * 1000000000 := by
    rw [Waiting.longest]
    omega
  rw [Waiting.isCountable, Bool.and_eq_true, decide_eq_true_iff, decide_eq_true_iff]
  exact and_iff_right hbelow

theorem isShowable_int_of_nonneg {n : Int} (h : 0 ≤ n) :
    (Value.int n).isShowable = true ↔ n < 10 ^ Text.digitLimit := by
  rw [Value.isShowable, Bool.not_eq_true', Text.isLong_eq_false_iff]
  zify
  rw [abs_of_nonneg h]

theorem obstacle?_int {client : Client} {waiting : Waiting} {n : Int} :
    obstacle? client waiting (.int n) = none ↔ Endurable client waiting n := by
  have hnegative : Waiting.isNegative (.int n) = false ↔ 0 ≤ n := by simp [Waiting.isNegative]
  have hdefined : Waiting.isUndefined (.int n) = false := rfl
  rw [obstacle?_eq_none, Waiting.problem?_eq_none, hnegative, hdefined]
  by_cases hn : 0 ≤ n
  · cases waiting with
    | noted => simp [Endurable, hn, isShowable_int_of_nonneg]
    | asleep =>
      -- a number of seconds that can be counted is far from being too long
      have hshort : n * 1000000000 ≤ Waiting.longest → n < 10 ^ Text.digitLimit := by
        intro hcounted
        have hgreat : (10 : Int) ^ 20 ≤ 10 ^ Text.digitLimit :=
          pow_le_pow_right₀ (by decide) (by decide)
        rw [Waiting.longest] at hcounted
        omega
      rw [isShowable_int_of_nonneg hn, isCountable_int_of_nonneg hn]
      simp only [Endurable, true_implies, hn, true_and, and_true]
      exact ⟨fun h => h.2, fun h => ⟨fun _ => hshort h, h⟩⟩
  · have hnot : ¬ Endurable client waiting n := by
      cases waiting <;> exact fun h => hn h.1
    exact iff_of_false (fun h => hn h.2.2) hnot

/-- A wait was made, once, and it lasts at least until the reset. -/
def AwaitsReset (client : Client) (s : Session) (reset time : Int) : Prop :=
  ((awaitLimit client).perform s).1 = .ok () ∧
    ∃ seconds : Int, ((awaitLimit client).perform s).2.log.waits = s.log.waits ++ [.int seconds] ∧
      reset * unitsInOne ≤ time + seconds * unitsInOne

section Integers

variable {client : Client} {s : Session} {answer : Answer} {left : List (String × List Answer)}
  {remaining reset : Int}

/-- With an integer limit a client comes back unless the number is below zero and the wait until ten
seconds behind the reset is not one that it can make. -/
theorem awaitLimit_ok_iff_of_integers (h : takeAnswer? limitPath s.answers = some (answer, left))
    (htold : told answer = (.int remaining, .int reset)) {whole : Int}
    (hwhole : wholeSeconds s.now = .ok whole) :
    ((awaitLimit client).perform s).1 = .ok () ↔
      0 ≤ remaining ∨ Endurable client s.waiting (reset - whole + 10) := by
  rw [awaitLimit_ok_iff h, manageable_iff, htold, ← obstacle?_int]
  by_cases hremaining : remaining < 0
  · rw [pause_of_negative hremaining hwhole]
    constructor
    · rintro ⟨wanted, hwanted, hwait⟩
      obtain rfl := Except.ok.inj hwanted
      exact .inr (hwait _ rfl)
    · rintro (hnonneg | hnone)
      · exact absurd hnonneg (not_le.mpr hremaining)
      · refine ⟨_, rfl, fun seconds hmem => ?_⟩
        obtain rfl := Option.mem_some.mp hmem
        exact hnone
  · rw [pause_of_nonneg _ _ (not_lt.mp hremaining)]
    exact iff_of_true ⟨none, rfl, fun _ hmem => (by cases hmem)⟩ (.inl (not_lt.mp hremaining))

theorem waits_of_nonneg (h : takeAnswer? limitPath s.answers = some (answer, left))
    (htold : told answer = (.int remaining, .int reset)) (hremaining : 0 ≤ remaining) :
    ((awaitLimit client).perform s).1 = .ok () ∧
      ((awaitLimit client).perform s).2.log.waits = s.log.waits := by
  have hpause := pause_of_nonneg (.int reset) s.now hremaining
  rw [← htold] at hpause
  obtain ⟨hok, hwaits⟩ := @perform_awaitLimit_of_pause client _ _ _ _ h hpause fun _ hmem =>
    (by cases hmem)
  exact ⟨hok, hwaits.trans (List.append_nil _)⟩

theorem awaitsReset_of_negative (h : takeAnswer? limitPath s.answers = some (answer, left))
    (htold : told answer = (.int remaining, .int reset)) (hremaining : remaining < 0)
    {whole time : Int} (hwhole : wholeSeconds s.now = .ok whole)
    (hbehind : whole * unitsInOne < time + unitsInOne)
    (hwait : Endurable client s.waiting (reset - whole + 10)) :
    AwaitsReset client s reset time := by
  have hpause := @pause_of_negative remaining reset whole s.now hremaining hwhole
  rw [← htold] at hpause
  have hnone : ∀ seconds ∈ some (Value.int (reset - whole + 10)),
      obstacle? client s.waiting seconds = none := by
    intro seconds hmem
    obtain rfl := Option.mem_some.mp hmem
    exact obstacle?_int.mpr hwait
  obtain ⟨hok, hwaits⟩ := perform_awaitLimit_of_pause h hpause hnone
  refine ⟨hok, _, hwaits, ?_⟩
  -- of the ten seconds that are added, one makes up for the fraction that was cut off
  have hone := unitsInOne_pos
  linarith

/-- Until the reset of a limit that is used up there is a wait exactly when the number left is below
zero and the wait is one that can be made. -/
theorem awaitsReset_iff (h : takeAnswer? limitPath s.answers = some (answer, left))
    (htold : told answer = (.int remaining, .int reset)) {whole time : Int}
    (hwhole : wholeSeconds s.now = .ok whole) (hbehind : whole * unitsInOne < time + unitsInOne) :
    AwaitsReset client s reset time ↔
      remaining < 0 ∧ Endurable client s.waiting (reset - whole + 10) := by
  refine ⟨?_, fun hboth => awaitsReset_of_negative h htold hboth.1 hwhole hbehind hboth.2⟩
  rintro ⟨hok, seconds, hwaits, -⟩
  -- a wait was noted, and there is none for a number that is not below zero
  have hremaining : remaining < 0 := by
    by_contra hremaining
    rw [(waits_of_nonneg h htold (not_lt.mp hremaining)).2] at hwaits
    exact absurd hwaits (by simp)
  refine ⟨hremaining, ?_⟩
  rcases (awaitLimit_ok_iff_of_integers h htold hwhole).mp hok with hnonneg | hwait
  · exact absurd hnonneg (not_le.mpr hremaining)
  · exact hwait

end Integers

/-- **There is a wait for the reset when the number left is below zero, and only then.**  Let the
service answer a client that asks for its limit.

* The client comes back if it can act on the limit, and fails otherwise (`Manageable`): what remains
must be a number, and if it is below zero, the reset a number for which the wait can be made.
* An answer that cannot be read, for instance for an integer with too many digits, is taken for one
that asks for no wait.
* For a limit told in integers the client comes back if the number is not below zero, or the wait
until ten seconds behind the reset is one that can be made (`Endurable`).
* Until the reset of that limit the client waits, once and long enough, exactly when the number left
is below zero and the wait can be made; when it is zero, there is no wait at all.
* A lookup that was refused goes on from the session that this leaves. -/
theorem reset_awaited_iff_below_zero {client : Client} {s : Session} {answer : Answer}
    {left : List (String × List Answer)}
    (hanswer : takeAnswer? limitPath s.answers = some (answer, left)) :
    (((awaitLimit client).perform s).1 = .ok () ↔
      Manageable client s.waiting s.now (told answer)) ∧
    (∀ failure, Json.read answer.body.toList = .error failure →
      ((awaitLimit client).perform s).1 = .ok () ∧
        ((awaitLimit client).perform s).2.log.waits = s.log.waits) ∧
    (∀ body remaining reset, Json.read answer.body.toList = .ok body →
      integerLimit? body = some (remaining, reset) →
      (∀ whole, wholeSeconds s.now = .ok whole →
        (((awaitLimit client).perform s).1 = .ok () ↔
          0 ≤ remaining ∨ Endurable client s.waiting (reset - whole + 10))) ∧
      (∀ time, Shows s.now time → ∃ whole, wholeSeconds s.now = .ok whole ∧
        (AwaitsReset client s reset time ↔
          remaining < 0 ∧ Endurable client s.waiting (reset - whole + 10))) ∧
      (remaining = 0 → ((awaitLimit client).perform s).1 = .ok () ∧
        ((awaitLimit client).perform s).2.log.waits = s.log.waits)) ∧
    (((awaitLimit client).perform s).1 = .ok () → ∀ start,
      (∀ action, (releaseQuery client action).Refused start s →
        (latest client action).perform start =
          (latest client action).perform ((awaitLimit client).perform s).2) ∧
      (∀ repository, client = .extractor → (tagsQuery repository).Refused start s →
        (tags repository).perform start =
          (tags repository).perform ((awaitLimit client).perform s).2)) := by
  refine ⟨awaitLimit_ok_iff hanswer, fun failure hunread => ?_,
    fun body remaining reset hbody hlimit => ?_, fun hok start => ⟨?_, ?_⟩⟩
  · exact waits_of_nonneg hanswer (told_of_unread hunread) le_rfl
  · have htold := told_of_integerLimit hbody hlimit
    refine ⟨fun whole hwhole => ?_, fun time hnow => ?_, fun hzero => ?_⟩
    · exact awaitLimit_ok_iff_of_integers hanswer htold hwhole
    · obtain ⟨whole, hwhole, hbehind⟩ := wholeSeconds_of_shows hnow
      exact ⟨whole, hwhole, awaitsReset_iff hanswer htold hwhole hbehind⟩
    · exact waits_of_nonneg hanswer htold hzero.ge
  · intro action hrefused
    rw [latest_eq]
    exact Query.Repeats.perform_run (.intro hrefused (Prod.ext hok rfl))
  · rintro repository rfl hrefused
    rw [tags_eq]
    exact Query.Repeats.perform_run (.intro hrefused (Prod.ext hok rfl))

/-- A session in which a lookup is refused once, the limit is told with a given number of requests
left and a reset in a hundred seconds, and the lookup is answered then. -/
def refusedSession (remaining : String) : Session where
  answers := [
    (releasePath "own/act", [⟨403, "limit"⟩, ⟨200, "\x7b\"tag_name\": \"v2\"\x7d"⟩]),
    (limitPath, [⟨200, "\x7b\"resources\": \x7b\"core\": \x7b\"remaining\": " ++ remaining ++
      ", \"reset\": 100\x7d\x7d\x7d"⟩])]

/-- The law at a limit that is overdrawn by one. -/
theorem overdrawn_limit_awaited : ∃ answer left body,
    takeAnswer? limitPath (refusedSession "-1").answers = some (answer, left) ∧
      Json.read answer.body.toList = .ok body ∧ integerLimit? body = some (-1, 100) ∧
      AwaitsReset .auditor (refusedSession "-1") 100 0 := by
  obtain ⟨⟨answer, left⟩, htaken, hread⟩ : ∃ taken,
      takeAnswer? limitPath (refusedSession "-1").answers = some taken ∧
        (Json.read taken.1.body.toList).toOption.any
          (fun body => integerLimit? body == some (-1, 100)) = true :=
    ⟨_, rfl, by decide +kernel⟩
  obtain ⟨body, hread, hlimit⟩ := exists_ok_of_any hread
  replace hlimit := beq_iff_eq.mp hlimit
  have hnow : Shows (refusedSession "-1").now 0 :=
      ⟨.int 0, rfl, congrArg Meaning.finite (zero_mul _)⟩
  have hlaw := (@reset_awaited_iff_below_zero .auditor _ _ _ htaken).2.2.1 _ _ _ hread hlimit
  obtain ⟨whole, hwhole, hawaits⟩ := hlaw.2.1 0 hnow
  obtain rfl : 0 = whole := Except.ok.inj hwhole
  exact ⟨answer, left, body, htaken, hread, hlimit, hawaits.mpr ⟨by decide, by decide, by decide⟩⟩

/-- A limit that is used up and whose reset is to come: the lookup is sent again at once. -/
theorem used_up_limit_not_awaited :
    ((awaitLimit .auditor).perform (refusedSession "0")).1.isOk = true ∧
      ((awaitLimit .auditor).perform (refusedSession "0")).2.log.waits.isEmpty = true ∧
      ((latest .auditor (.text "own/act")).perform (refusedSession "0")).2.log.requests.map (·.1) =
        [service ++ releasePath "own/act", service ++ limitPath, service ++ releasePath "own/act"] ∧
      ((latest .auditor (.text "own/act")).perform (refusedSession "0")).2.log.waits.isEmpty =
        true := by
  decide +kernel

end Release

end WorkflowAudit
