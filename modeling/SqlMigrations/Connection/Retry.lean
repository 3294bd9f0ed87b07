import SqlMigrations.Connection.Options
import SqlMigrations.Error
import SqlMigrations.Text.Blank

/-!
Connecting with retries. Attempts are spaced by a fixed pause, up to the first success, an error
that another attempt cannot cure, or the cap. A cancellation and the deadline of the policy end the
course early; of two things that happen at one time the cancellation comes first. Every attempt of a
course takes the same time.
-/

namespace SqlMigrations

/-- A course of attempts: what it ends with, unless it goes on, the number of attempts and the
pauses between them. -/
structure Course (α : Type) where
  outcome : Option (Except ConnectionError α)
  attempts : Nat
  pauses : List Duration

variable {α : Type}

/-- Whether an attempt that failed is the last one; `made` attempts went before it. -/
def RetryPolicy.stopsAt (policy : RetryPolicy) (made : Nat) (problem : ConnectionError) : Bool :=
  !problem.isRetryable || (decide (0 < policy.retries) && decide (policy.retries ≤ made + 1))

/-- The course of attempts with the given outcomes; `made` attempts went before them. -/
def attemptLoop (policy : RetryPolicy) (made : Nat) :
    List (Except ConnectionError α) → Course α
  | [] => ⟨none, 0, []⟩
  | .ok value :: _ => ⟨some (.ok value), 1, []⟩
  | .error problem :: rest =>
    if policy.stopsAt made problem then ⟨some (.error problem), 1, []⟩
    else
      let later := attemptLoop policy (made + 1) rest
      ⟨later.outcome, later.attempts + 1, policy.delay :: later.pauses⟩

/-- The nanoseconds that a course takes, with attempts of `span` nanoseconds each. -/
def Course.elapsed (span : Nat) (course : Course α) : Nat :=
  course.pauses.foldl (fun total pause => total + pause.toNanos) (course.attempts * span)

def startedBefore (span moment : Nat) :
    (attempts : Nat) → (pauses : List Duration) → Nat × List Duration
  | 0, _ => (0, [])
  | attempts + 1, pauses =>
    if moment = 0 then (0, [])
    else
      match pauses with
      | [] => (1, [])
      | pause :: later =>
        if moment ≤ span then (1, [])
        else
          let started := startedBefore span (moment - span - pause.toNanos) attempts later
          (started.1 + 1, pause :: started.2)

/-- The course with an error at a moment, in nanoseconds, unless it ends before. -/
def Course.interruptedAt (course : Course α) (span moment : Nat) (problem : ConnectionError) :
    Course α :=
  if course.outcome.isSome ∧ course.elapsed span < moment then course
  else
    let started := startedBefore span moment course.attempts course.pauses
    ⟨some (.error problem), started.1, started.2⟩

/-- The error of a deadline, which counts whole milliseconds in 64 bits. -/
def deadlineError (timeout : Duration) : ConnectionError :=
  .timedOut (timeout.toMillis % UInt64.size)

/-- The moment at which attempts are given up, and why: the cancellation or the deadline, whichever
comes first. -/
def interruption? (cancelAfter timeout : Option Duration) : Option (Nat × ConnectionError) :=
  match cancelAfter, timeout with
  | none, none => none
  | some after, none => some (after.toNanos, .cancelled)
  | none, some timeout => some (timeout.toNanos, deadlineError timeout)
  | some after, some timeout =>
    if after.toNanos ≤ timeout.toNanos then some (after.toNanos, .cancelled)
    else some (timeout.toNanos, deadlineError timeout)

/-- Connects with the options, given the outcomes of the attempts, the time that each of them takes
and the time of a cancellation. -/
def connectWithRetry (options : ConnectOptions) (cancelAfter : Option Duration) (span : Duration)
    (outcomes : List (Except ConnectionError α)) : Course α :=
  if (Text.trim options.dsn.toList).isEmpty then ⟨some (.error .emptyDsn), 0, []⟩
  else
    let policy := options.retryPolicy
    match interruption? cancelAfter policy.timeout with
    | none => attemptLoop policy 0 outcomes
    | some (moment, problem) =>
      (attemptLoop policy 0 outcomes).interruptedAt span.toNanos moment problem

end SqlMigrations
