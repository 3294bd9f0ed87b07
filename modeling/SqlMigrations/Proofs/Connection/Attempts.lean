import Mathlib.Data.List.Basic
import Mathlib.Data.Nat.Find
import SqlMigrations.Connection.Retry

/-!
The number of attempts to connect. Attempts are numbered from one. The course ends with the first
attempt that succeeds, fails for good or is the last one allowed, and pauses before every attempt
but the first; no policy allows attempts without any bound.
-/

namespace SqlMigrations

variable {α : Type} {policy : RetryPolicy} {outcome : Nat → Except ConnectionError α}
  {made count last : Nat}

/-- Whether the attempt of a number is the last one: it succeeds, its error cannot be cured by
another attempt, or it exhausts the cap. -/
def RetryPolicy.EndsAt (policy : RetryPolicy) (outcome : Nat → Except ConnectionError α)
    (number : Nat) : Prop :=
  (∃ value, outcome number = .ok value) ∨
    (∃ problem, outcome number = .error problem ∧ problem.isRetryable = false) ∨
      0 < policy.retries ∧ number = policy.retries

/-- Whether a course ends with the attempt of a number, as the first that is a last one. -/
structure RetryPolicy.EndsWith (policy : RetryPolicy)
    (outcome : Nat → Except ConnectionError α) (last : Nat) : Prop where
  numbered : 0 < last
  ends : policy.EndsAt outcome last
  goesOn : ∀ earlier, 0 < earlier → earlier < last → ¬ policy.EndsAt outcome earlier

/-- The outcomes of the `count` attempts that follow the first `made` ones. -/
def outcomesAfter (outcome : Nat → Except ConnectionError α) (made count : Nat) :
    List (Except ConnectionError α) :=
  (List.range' (made + 1) count).map outcome

theorem outcomesAfter_succ (outcome : Nat → Except ConnectionError α) (made count : Nat) :
    outcomesAfter outcome made (count + 1) =
      outcome (made + 1) :: outcomesAfter outcome (made + 1) count := by
  rw [outcomesAfter, List.range'_succ, List.map_cons]
  rfl

theorem attemptLoop_ends (ends : policy.EndsAt outcome (made + 1))
    (rest : List (Except ConnectionError α)) :
    attemptLoop policy made (outcome (made + 1) :: rest) =
      ⟨some (outcome (made + 1)), 1, []⟩ := by
  cases ended : outcome (made + 1) with
  | ok value => rfl
  | error problem =>
    rw [attemptLoop, if_pos]
    rcases ends with ⟨value, succeeded⟩ | ⟨other, failed, forGood⟩ | ⟨capped, exhausted⟩
    · exact nomatch ended.symm.trans succeeded
    · obtain rfl := Except.error.inj (ended.symm.trans failed)
      simp [RetryPolicy.stopsAt, forGood]
    · simp [RetryPolicy.stopsAt, capped, exhausted]

theorem attemptLoop_goesOn (goesOn : ¬ policy.EndsAt outcome (made + 1))
    (allowed : 0 < policy.retries → made < policy.retries)
    (rest : List (Except ConnectionError α)) :
    attemptLoop policy made (outcome (made + 1) :: rest) =
      ⟨(attemptLoop policy (made + 1) rest).outcome,
        (attemptLoop policy (made + 1) rest).attempts + 1,
        policy.delay :: (attemptLoop policy (made + 1) rest).pauses⟩ := by
  simp only [RetryPolicy.EndsAt, not_or, not_exists, not_and] at goesOn
  obtain ⟨fails, curable, below⟩ := goesOn
  cases ended : outcome (made + 1) with
  | ok value => exact absurd ended (fails value)
  | error problem =>
    have retryable : problem.isRetryable = true := by simpa using curable problem ended
    have notCapped : ¬ (0 < policy.retries ∧ policy.retries ≤ made + 1) := fun ⟨capped, reached⟩ =>
      below capped (Nat.le_antisymm (allowed capped) reached)
    rw [attemptLoop, if_neg]
    simpa [RetryPolicy.stopsAt, retryable] using notCapped

theorem allowed_succ (goesOn : ¬ policy.EndsAt outcome (made + 1))
    (allowed : 0 < policy.retries → made < policy.retries) :
    0 < policy.retries → made + 1 < policy.retries := by
  intro capped
  refine Nat.lt_of_le_of_ne (allowed capped) fun exhausted => ?_
  exact goesOn (.inr (.inr ⟨capped, exhausted⟩))

/-- After attempts of which none is the last, the course goes on with as many pauses behind it. -/
theorem attemptLoop_append (made count more : Nat)
    (goesOn : ∀ number, made < number → number ≤ made + count → ¬ policy.EndsAt outcome number)
    (allowed : 0 < policy.retries → made < policy.retries) :
    attemptLoop policy made (outcomesAfter outcome made (count + more)) =
      ⟨(attemptLoop policy (made + count) (outcomesAfter outcome (made + count) more)).outcome,
        (attemptLoop policy (made + count) (outcomesAfter outcome (made + count) more)).attempts +
          count,
        List.replicate count policy.delay ++
          (attemptLoop policy (made + count)
            (outcomesAfter outcome (made + count) more)).pauses⟩ := by
  induction count generalizing made with
  | zero => simp
  | succ count induction =>
    have first := goesOn (made + 1) (by omega) (by omega)
    have later := induction (made + 1) (fun number above within =>
      goesOn number (by omega) (by omega)) (allowed_succ first allowed)
    have regroup : made + 1 + count = made + (count + 1) := by omega
    rw [regroup] at later
    rw [Nat.add_right_comm, outcomesAfter_succ, attemptLoop_goesOn first allowed, later]
    rfl

theorem attemptLoop_of_endsWith (endsWith : policy.EndsWith outcome last) (enough : last ≤ count) :
    attemptLoop policy 0 (outcomesAfter outcome 0 count) =
      ⟨some (outcome last), last, List.replicate (last - 1) policy.delay⟩ := by
  obtain ⟨before, rfl⟩ := Nat.exists_eq_add_one.mpr endsWith.numbered
  obtain ⟨more, rfl⟩ := Nat.exists_eq_add_of_le enough
  have passed := attemptLoop_append 0 before (more + 1)
    (fun number above within => endsWith.goesOn number above (by omega)) id
  have regroup : before + 1 + more = before + (more + 1) := by omega
  rw [regroup, passed, Nat.zero_add, outcomesAfter_succ, attemptLoop_ends endsWith.ends]
  simp [Nat.add_comm]

theorem attemptLoop_of_goesOn
    (goesOn : ∀ number, 0 < number → number ≤ count → ¬ policy.EndsAt outcome number) :
    attemptLoop policy 0 (outcomesAfter outcome 0 count) =
      ⟨none, count, List.replicate count policy.delay⟩ := by
  have passed := attemptLoop_append 0 count 0
    (fun number above within => goesOn number above (by omega)) id
  rw [Nat.add_zero] at passed
  rw [passed]
  simp [outcomesAfter, attemptLoop]

theorem exists_endsWith (capped : 0 < policy.retries)
    (outcome : Nat → Except ConnectionError α) :
    ∃ last, last ≤ policy.retries ∧ policy.EndsWith outcome last := by
  classical
  have reached : ∃ number, 0 < number ∧ policy.EndsAt outcome number :=
    ⟨policy.retries, capped, .inr (.inr ⟨capped, rfl⟩)⟩
  refine ⟨Nat.find reached, Nat.find_min' reached ⟨capped, .inr (.inr ⟨capped, rfl⟩)⟩,
    (Nat.find_spec reached).1, (Nat.find_spec reached).2, fun earlier numbered before ends => ?_⟩
  exact Nat.find_min reached before ⟨numbered, ends⟩

theorem attempts_le (capped : 0 < policy.retries) (below : made < policy.retries)
    (outcomes : List (Except ConnectionError α)) :
    made + (attemptLoop policy made outcomes).attempts ≤ policy.retries := by
  induction outcomes generalizing made with
  | nil => exact Nat.le_of_lt below
  | cons outcome rest induction =>
    cases outcome with
    | ok value => exact below
    | error problem =>
      rw [attemptLoop]
      split_ifs with stops
      · exact below
      · have notLast : ¬ policy.retries ≤ made + 1 := fun reached =>
          stops (by simp [RetryPolicy.stopsAt, capped, reached])
        have later := induction (Nat.lt_of_not_le notLast)
        dsimp only
        omega

theorem Duration.toNanos_pos {duration : Duration} (nonzero : duration.isZero = false) :
    0 < duration.toNanos := by
  have some : ¬ (duration.seconds = 0 ∧ duration.nanos = 0) := by
    simpa [Duration.isZero] using nonzero
  rw [Duration.toNanos]
  omega

theorem ConnectOptions.retryPolicy_bounded (options : ConnectOptions) :
    0 < options.retryPolicy.retries ∨
      ∃ timeout, options.retryPolicy.timeout = some timeout ∧ 0 < timeout.toNanos := by
  rw [retryPolicy]
  split_ifs with neither zero
  · exact .inr ⟨_, rfl, by decide⟩
  · exact .inl (Nat.pos_of_ne_zero fun uncapped => neither ⟨uncapped, zero⟩)
  · exact .inr ⟨_, rfl, Duration.toNanos_pos (by simpa using zero)⟩

theorem ConnectOptions.retryPolicy_retries (options : ConnectOptions) :
    options.retryPolicy.retries = options.retries := by
  rw [retryPolicy]
  split_ifs with neither zero
  · exact neither.1.symm
  all_goals rfl

theorem connectWithRetry_of_blank {options : ConnectOptions}
    (blank : Text.trim options.dsn.toList = []) (cancelAfter : Option Duration) (span : Duration)
    (outcomes : List (Except ConnectionError α)) :
    connectWithRetry options cancelAfter span outcomes = ⟨some (.error .emptyDsn), 0, []⟩ := by
  rw [connectWithRetry, blank]
  rfl

theorem startedBefore_zero (span attempts : Nat) (pauses : List Duration) :
    startedBefore span 0 attempts pauses = (0, []) := by
  cases attempts <;> rfl

/-- A cancellation before the first attempt comes before every deadline. -/
theorem connectWithRetry_of_cancelled {options : ConnectOptions} {after : Duration}
    (text : Text.trim options.dsn.toList ≠ []) (already : after.toNanos = 0) (span : Duration)
    (outcomes : List (Except ConnectionError α)) :
    connectWithRetry options (some after) span outcomes = ⟨some (.error .cancelled), 0, []⟩ := by
  have first : interruption? (some after) options.retryPolicy.timeout = some (0, .cancelled) := by
    cases options.retryPolicy.timeout <;> simp [interruption?, already]
  have notBlank : ¬ (Text.trim options.dsn.toList).isEmpty = true := by simpa using text
  simp only [connectWithRetry, if_neg notBlank, first, Course.interruptedAt, Nat.not_lt_zero,
    and_false, if_false, startedBefore_zero]

/-- Without a cancellation, a course that ends before the deadline is that of the attempts. -/
theorem connectWithRetry_of_in_time {options : ConnectOptions} {span : Duration}
    {outcomes : List (Except ConnectionError α)} (text : Text.trim options.dsn.toList ≠ [])
    (ended : (attemptLoop options.retryPolicy 0 outcomes).outcome.isSome = true)
    (inTime : ∀ timeout, options.retryPolicy.timeout = some timeout →
      (attemptLoop options.retryPolicy 0 outcomes).elapsed span.toNanos < timeout.toNanos) :
    connectWithRetry options none span outcomes =
      attemptLoop options.retryPolicy 0 outcomes := by
  have notBlank : ¬ (Text.trim options.dsn.toList).isEmpty = true := by simpa using text
  simp only [connectWithRetry, if_neg notBlank]
  cases timeout : options.retryPolicy.timeout with
  | none => rfl
  | some deadline =>
    simp only [interruption?, Course.interruptedAt, ended, inTime deadline timeout, and_self,
      if_true]

theorem interruptedAt_isSome (course : Course α) (span moment : Nat) (problem : ConnectionError) :
    (course.interruptedAt span moment problem).outcome.isSome = true := by
  rw [Course.interruptedAt]
  split_ifs with inTime
  · exact inTime.1
  · rfl

/-- Connecting ends by the deadline or by the cap, if not before. -/
theorem connectWithRetry_ends (options : ConnectOptions) (cancelAfter : Option Duration)
    (span : Duration) (outcome : Nat → Except ConnectionError α)
    (enough : options.retries ≤ count) :
    (connectWithRetry options cancelAfter span (outcomesAfter outcome 0 count)).outcome.isSome =
      true := by
  rw [connectWithRetry]
  split_ifs with blank
  · rfl
  · dsimp only
    cases interruption : interruption? cancelAfter options.retryPolicy.timeout with
    | some given => exact interruptedAt_isSome _ _ _ _
    | none =>
      -- a deadline would interrupt the course, so the policy has a cap instead
      have capped : 0 < options.retryPolicy.retries := by
        refine options.retryPolicy_bounded.resolve_right ?_
        rintro ⟨timeout, set, -⟩
        cases cancelAfter <;> simp [interruption?, set] at interruption
        split_ifs at interruption
      obtain ⟨last, within, endsWith⟩ := exists_endsWith capped outcome
      rw [options.retryPolicy_retries] at within
      dsimp only
      rw [attemptLoop_of_endsWith endsWith (Nat.le_trans within enough)]
      rfl

/-- The attempts of connecting. They end with the first one that succeeds, fails for good or
exhausts the cap, with its outcome and one pause between every two; until then they go on. There are
never more than the cap allows, so that a counter of 32 bits holds their number. Each policy has a
cap or a deadline, so every course ends. Without a connection string, or when cancelled before,
nothing is attempted. -/
theorem connecting_attempts (options : ConnectOptions) :
    (∀ (outcome : Nat → Except ConnectionError α) last,
      options.retryPolicy.EndsWith outcome last → ∀ count, last ≤ count →
        attemptLoop options.retryPolicy 0 (outcomesAfter outcome 0 count) =
          ⟨some (outcome last), last, List.replicate (last - 1) options.retryPolicy.delay⟩) ∧
    (∀ (outcome : Nat → Except ConnectionError α) count,
      (∀ number, 0 < number → number ≤ count → ¬ options.retryPolicy.EndsAt outcome number) →
        attemptLoop options.retryPolicy 0 (outcomesAfter outcome 0 count) =
          ⟨none, count, List.replicate count options.retryPolicy.delay⟩) ∧
    (0 < options.retries → ∀ outcomes : List (Except ConnectionError α),
      (attemptLoop options.retryPolicy 0 outcomes).attempts ≤ options.retries ∧
        (options.retries < UInt32.size →
          (attemptLoop options.retryPolicy 0 outcomes).attempts < UInt32.size)) ∧
    (0 < options.retryPolicy.retries ∨
      ∃ timeout, options.retryPolicy.timeout = some timeout ∧ 0 < timeout.toNanos) ∧
    (∀ cancelAfter span (outcome : Nat → Except ConnectionError α) count,
      options.retries ≤ count →
        (connectWithRetry options cancelAfter span
          (outcomesAfter outcome 0 count)).outcome.isSome = true) ∧
    (Text.trim options.dsn.toList = [] →
      ∀ cancelAfter span (outcomes : List (Except ConnectionError α)),
        connectWithRetry options cancelAfter span outcomes = ⟨some (.error .emptyDsn), 0, []⟩) ∧
    (Text.trim options.dsn.toList ≠ [] →
      (∀ after : Duration, after.toNanos = 0 →
        ∀ span (outcomes : List (Except ConnectionError α)),
          connectWithRetry options (some after) span outcomes =
            ⟨some (.error .cancelled), 0, []⟩) ∧
      ∀ span (outcomes : List (Except ConnectionError α)),
        (attemptLoop options.retryPolicy 0 outcomes).outcome.isSome = true →
        (∀ timeout, options.retryPolicy.timeout = some timeout →
          (attemptLoop options.retryPolicy 0 outcomes).elapsed span.toNanos < timeout.toNanos) →
        connectWithRetry options none span outcomes =
          attemptLoop options.retryPolicy 0 outcomes) := by
  refine ⟨fun outcome last endsWith count enough => attemptLoop_of_endsWith endsWith enough,
    fun outcome count goesOn => attemptLoop_of_goesOn goesOn, fun capped outcomes => ?_,
    options.retryPolicy_bounded,
    fun cancelAfter span outcome count enough =>
      connectWithRetry_ends options cancelAfter span outcome enough,
    connectWithRetry_of_blank, fun text => ⟨fun after already =>
      connectWithRetry_of_cancelled text already, fun span outcomes =>
        connectWithRetry_of_in_time text⟩⟩
  rw [← options.retryPolicy_retries] at capped ⊢
  have within := attempts_le capped capped outcomes
  rw [Nat.zero_add] at within
  exact ⟨within, Nat.lt_of_le_of_lt within⟩

def threeTries : ConnectOptions :=
  { ConnectOptions.ofDsn "root@tcp(db)/app" with retries := 3, retryDelay := .ofMillis 10 }

/-- Attempts of which only the fourth would succeed. -/
def latePool (number : Nat) : Except ConnectionError Unit :=
  if number = 1 then .error (.driver .poolTimedOut)
  else if number < 4 then .error (.driver (.network "connection refused"))
  else .ok ()

/-- The third attempt is the last one; a cancellation before the first one leaves none. -/
theorem threeTries_attempts :
    threeTries.retryPolicy.EndsWith latePool 3 ∧
      attemptLoop threeTries.retryPolicy 0 (outcomesAfter latePool 0 5) =
        ⟨some (.error (.driver (.network "connection refused"))), 3,
          [.ofMillis 10, .ofMillis 10]⟩ ∧
      connectWithRetry threeTries (some (.ofMillis 0)) (.ofMillis 1)
        (outcomesAfter latePool 0 5) = ⟨some (.error .cancelled), 0, []⟩ := by
  have text : Text.trim threeTries.dsn.toList ≠ [] := by decide +kernel
  have endsWith : threeTries.retryPolicy.EndsWith latePool 3 := by
    refine ⟨by decide, .inr (.inr ⟨by decide, rfl⟩), fun earlier numbered before ends => ?_⟩
    have one_or_two : earlier = 1 ∨ earlier = 2 := by omega
    rcases one_or_two with rfl | rfl <;>
      simp [RetryPolicy.EndsAt, latePool, ConnectionError.isRetryable, threeTries,
        ConnectOptions.retryPolicy_retries] at ends
  obtain ⟨ofEnd, -, -, -, -, -, ofText⟩ := connecting_attempts (α := Unit) threeTries
  exact ⟨endsWith, ofEnd latePool 3 endsWith 5 (by decide), (ofText text).1 _ rfl _ _⟩

end SqlMigrations
