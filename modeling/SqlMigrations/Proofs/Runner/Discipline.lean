import SqlMigrations.Proofs.Checkpoint.Rows
import SqlMigrations.Proofs.Runner.Exchanges
import SqlMigrations.Proofs.Runner.File
import SqlMigrations.Proofs.Runner.Sending

/-!
What is sent for one file. A transaction is opened on a connection, worked in under the lock of the
file, and closed: by a commit if the work went well, else by a rollback. The lock is released last.
After a failing statement nothing but the checkpoint is still sent.
-/

namespace SqlMigrations

/-- Whether a command is one of those sent inside the transaction of a file, for that file. -/
def Command.WorksOn (project filename : String) : Command → Prop
  | .lock key => key = Runner.lockKey project filename
  | .load owner name => owner = project ∧ name = filename
  | .save checkpoint => checkpoint.project = project ∧ checkpoint.filename = filename
  | .statement _ | .savepoint _ => True
  | _ => False

/-- Whether a command changes data or the checkpoint table inside a transaction. -/
def Command.alters : Command → Bool
  | .statement _ | .savepoint _ | .save _ => true
  | _ => false

theorem Command.worksOn_of_isMigration {command : Command} (migration : command.isMigration = true)
    (project filename : String) : command.WorksOn project filename := by
  cases command <;> trivial

theorem Command.ne_lock_of_isMigration {command : Command} (migration : command.isMigration = true)
    (key : String) : command ≠ .lock key := by
  cases command with
  | lock => contradiction
  | _ => nofun

namespace Runner

variable {σ α : Type} {dialect : Dialect} {project filename : String}

/-- After a failing command for a statement nothing follows but what undoes it and the saving of the
checkpoint. -/
def StopsAtFailure (dialect : Dialect) (work : List Exchange) : Prop :=
  ∀ failed later, failed :: later <:+ work → failed.command.isMigration = true →
    failed.failed dialect = true → ∃ undoing checkpoint answer,
      later = undoing ++ [⟨.save checkpoint, answer⟩] ∧ Undoes dialect failed undoing

/-- Where there is a lock it is taken first, and without it nothing follows. -/
def Guarded (dialect : Dialect) (key : String) (work : List Exchange) : Prop :=
  match dialect with
  | .sqlite => ∀ exchange ∈ work, ∀ other, exchange.command ≠ .lock other
  | .postgres | .mysql => ∃ answer rest, work = ⟨.lock key, answer⟩ :: rest ∧
      (Exchange.failed dialect ⟨.lock key, answer⟩ = true → rest = []) ∧
      ∀ exchange ∈ rest, ∀ other, exchange.command ≠ .lock other

theorem guarded_of_locked {key : String} {answer : Except DriverFailure (Option Int)}
    {rest : List Exchange} (locks : dialect ≠ .sqlite)
    (held : Exchange.failed dialect ⟨.lock key, answer⟩ = true → rest = [])
    (once : ∀ exchange ∈ rest, ∀ other, exchange.command ≠ .lock other) :
    Guarded dialect key (⟨.lock key, answer⟩ :: rest) := by
  cases dialect with
  | sqlite => contradiction
  | postgres | mysql => exact ⟨answer, rest, rfl, held, once⟩

/-- A transaction is committed if the last command in it did its work, else rolled back; and so it
is if it cannot be committed. -/
inductive Closes (dialect : Dialect) (work : List Exchange) : List Exchange → Prop where
  | committed {last : Exchange} (final : work.getLast? = some last)
      (done : last.failed dialect = false) : Closes dialect work [⟨.commit, .ok ()⟩]
  | uncommitted {last : Exchange} (final : work.getLast? = some last)
      (done : last.failed dialect = false) (failure : DriverFailure)
      (answer : Except DriverFailure Unit) :
      Closes dialect work [⟨.commit, .error failure⟩, ⟨.rollback, answer⟩]
  | abandoned {last : Exchange} (final : work.getLast? = some last)
      (undone : last.failed dialect = true) (answer : Except DriverFailure Unit) :
      Closes dialect work [⟨.rollback, answer⟩]

theorem Closes.quiet {work ending : List Exchange} (closes : Closes dialect work ending) :
    ∀ exchange ∈ ending, exchange.command.alters = false := by
  cases closes <;> simp [Command.alters]

theorem Closes.cons {first : Exchange} {work ending : List Exchange}
    (closes : Closes dialect work ending) (some : work ≠ []) :
    Closes dialect (first :: work) ending := by
  have same : (first :: work).getLast? = work.getLast? := List.getLast?_cons_of_ne_nil some
  cases closes with
  | committed final done => exact .committed (same.trans final) done
  | uncommitted final done failure answer =>
    exact .uncommitted (same.trans final) done failure answer
  | abandoned final undone answer => exact .abandoned (same.trans final) undone answer

theorem stopsAtFailure_nil : StopsAtFailure dialect [] :=
  fun _ _ suffix => by simp at suffix

theorem StopsAtFailure.cons {first : Exchange} {work : List Exchange}
    (stops : StopsAtFailure dialect work)
    (other : first.command.isMigration = false) :
    StopsAtFailure dialect (first :: work) := by
  intro failed later suffix migration fails
  rcases List.suffix_cons_iff.mp suffix with same | inside
  · obtain ⟨rfl, _⟩ := List.cons.inj same
    simp [other] at migration
  · exact stops failed later inside migration fails

/-- MySQL releases the lock by a command; a connection that cannot release it is closed. -/
inductive Releases (key : String) : Dialect → List Exchange → Prop where
  | unneeded {dialect : Dialect} (other : dialect ≠ .mysql) : Releases key dialect []
  | unlocked : Releases key .mysql [⟨.unlock key, .ok ()⟩]
  | closed (failure : DriverFailure) (answer : Except DriverFailure Unit) :
      Releases key .mysql [⟨.unlock key, .error failure⟩, ⟨.close, answer⟩]

theorem Releases.quiet {key : String} {release : List Exchange}
    (released : Releases key dialect release) :
    ∀ exchange ∈ release, exchange.command.alters = false := by
  cases released <;> simp [Command.alters]

theorem Releases.smooth_eq {key : String} {release : List Exchange}
    (released : Releases key dialect release) : smooth dialect release = true := by
  cases released <;> rfl

/-- The exchanges for one file: without a connection or a transaction there is no work. -/
inductive Disciplined (dialect : Dialect) (project filename : String) : List Exchange → Prop where
  | unconnected (failure : DriverFailure) :
      Disciplined dialect project filename [⟨.connect, .error failure⟩]
  | unopened (failure : DriverFailure) {release : List Exchange}
      (released : Releases (lockKey project filename) dialect release) :
      Disciplined dialect project filename
        (⟨.connect, .ok ()⟩ :: ⟨.begin, .error failure⟩ :: release)
  | opened {work ending release : List Exchange}
      (within : ∀ exchange ∈ work, exchange.command.WorksOn project filename)
      (guarded : Guarded dialect (lockKey project filename) work)
      (stops : StopsAtFailure dialect work) (closes : Closes dialect work ending)
      (released : Releases (lockKey project filename) dialect release) :
      Disciplined dialect project filename
        (⟨.connect, .ok ()⟩ :: ⟨.begin, .ok ()⟩ :: (work ++ ending ++ release))

/-- The exchanges of a transaction once the lock is taken, or none is needed. -/
structure Worked (dialect : Dialect) (project filename : String) (work : List Exchange) : Prop where
  within : ∀ exchange ∈ work, exchange.command.WorksOn project filename
  unlocked : ∀ exchange ∈ work, ∀ key, exchange.command ≠ .lock key
  stops : StopsAtFailure dialect work

theorem worked_load (answer : Except DriverFailure (Option (Int × String))) :
    Worked dialect project filename [⟨.load project filename, answer⟩] := by
  refine ⟨by simp [Command.WorksOn], by simp, ?_⟩
  intro failed later suffix migration
  obtain ⟨rfl, rfl⟩ : failed = ⟨.load project filename, answer⟩ ∧ later = [] := by
    simpa [List.suffix_cons_iff] using suffix
  contradiction

theorem worked_attempt {complete : Bool} {exchanges : List Exchange} (row : Option (Int × String))
    (progress : Progress dialect complete exchanges) (index : Int) (status : String)
    (answer : Except DriverFailure Unit) :
    Worked dialect project filename
      (⟨.load project filename, .ok row⟩ ::
        (exchanges ++ [⟨.save ⟨project, filename, index, status⟩, answer⟩])) := by
  have migration := progress.isMigration
  refine ⟨?_, ?_, ?_⟩
  · simp only [List.forall_mem_cons, List.forall_mem_append]
    exact ⟨⟨rfl, rfl⟩, fun exchange member =>
      Command.worksOn_of_isMigration (migration exchange member) _ _, ⟨rfl, rfl⟩,
      List.forall_mem_nil _⟩
  · simp only [List.forall_mem_cons, List.forall_mem_append]
    exact ⟨nofun, fun exchange member =>
      Command.ne_lock_of_isMigration (migration exchange member), nofun, List.forall_mem_nil _⟩
  · intro failed later suffix isMigration fails
    rcases List.suffix_cons_iff.mp suffix with same | inside
    · obtain ⟨rfl, _⟩ := List.cons.inj same
      contradiction
    · rcases cons_suffix_append inside with saved | ⟨undoing, before, rfl⟩
      · obtain ⟨rfl, _⟩ :
            failed = ⟨.save ⟨project, filename, index, status⟩, answer⟩ ∧ later = [] := by
          simpa [List.suffix_cons_iff] using saved
        contradiction
      · exact ⟨undoing, _, answer, rfl, progress.undoes before fails⟩

/-- How a transaction in which `work` was done is closed, and what the run then returns. -/
def ClosedAs (log : σ → List Exchange) (dialect : Dialect) (base work : List Exchange)
    (run : Run σ α) : Prop :=
  ∃ ending, log run.state = base ++ (work ++ ending) ∧ Closes dialect work ending ∧
    run.result.isOk = smooth dialect (work ++ ending)

theorem lockResult_of_failed {key : String} {reply : Except DriverFailure (Option Int)}
    (failed : Exchange.failed dialect ⟨.lock key, reply⟩ = true) :
    ∃ problem, lockResult dialect reply = .error problem := by
  cases reply with
  | error failure => exact ⟨_, rfl⟩
  | ok granted => exact ⟨_, if_pos (by simpa [Exchange.failed] using failed)⟩

theorem lockResult_of_granted {key : String} {reply : Except DriverFailure (Option Int)}
    (granted : Exchange.failed dialect ⟨.lock key, reply⟩ = false) :
    lockResult dialect reply = .ok () := by
  cases reply with
  | error failure => cases granted
  | ok returned => exact if_neg (by simpa [Exchange.failed] using granted)

section
variable {log : σ → List Exchange} {base work : List Exchange}

/-- What is sent between the connection and the release of the lock, whatever the release is. -/
def Transacts (log : σ → List Exchange) (dialect : Dialect) (project filename : String)
    (base : List Exchange) (attempt : Option (Attempt σ)) (run : Run σ FileOutcome) : Prop :=
  ∃ exchanges, log run.state = base ++ exchanges ∧
    (∀ {release}, Releases (lockKey project filename) dialect release →
      Disciplined dialect project filename (⟨.connect, .ok ()⟩ :: (exchanges ++ release))) ∧
    run.result.isOk = smooth dialect exchanges ∧
    (attempt = none → ∀ exchange ∈ exchanges, exchange.command.alters = false)

theorem ClosedAs.transacts {run : Run σ FileOutcome} {attempt : Option (Attempt σ)}
    (closed : ClosedAs log dialect (base ++ [⟨.begin, .ok ()⟩]) work run)
    (within : ∀ exchange ∈ work, exchange.command.WorksOn project filename)
    (guarded : Guarded dialect (lockKey project filename) work)
    (stops : StopsAtFailure dialect work)
    (quiet : attempt = none → ∀ exchange ∈ work, exchange.command.alters = false) :
    Transacts log dialect project filename base attempt run := by
  obtain ⟨ending, logged, closes, result⟩ := closed
  refine ⟨⟨.begin, .ok ()⟩ :: (work ++ ending), by rw [logged, List.append_assoc]; rfl,
    fun released => .opened within guarded stops closes released, result, fun unattempted => ?_⟩
  simp only [List.forall_mem_cons, List.forall_mem_append]
  exact ⟨rfl, quiet unattempted, closes.quiet⟩

theorem ClosedAs.cons {first : Exchange} {run : Run σ α}
    (closed : ClosedAs log dialect (base ++ [first]) work run)
    (fine : first.failed dialect = false) (some : work ≠ []) :
    ClosedAs log dialect base (first :: work) run := by
  obtain ⟨ending, logged, closes, result⟩ := closed
  refine ⟨ending, by rw [logged, List.append_assoc]; rfl, closes.cons some, ?_⟩
  rw [result, List.cons_append, smooth, smooth, List.all_cons, fine]
  simp

end

section
variable {database : Database σ} {log : σ → List Exchange} (faithful : database.Logs log)
  {base work : List Exchange} {last : Exchange} {state : σ}
include faithful

section
variable (logged : log state = base ++ work)
include logged

theorem abandon_closedAs (problem : MigrationError) (lines : List String)
    (final : work.getLast? = some last) (undone : last.failed dialect = true)
    (rough : smooth dialect work = false) :
    ClosedAs log dialect base work (abandon database problem lines state : Run σ α) := by
  have rolledBack := faithful .rollback state
  rw [logged, List.append_assoc] at rolledBack
  refine ⟨_, rolledBack, .abandoned final undone _, ?_⟩
  rw [smooth_append, rough]
  rfl

theorem commit_closedAs (result : Except MigrationError α) (lines : List String)
    (final : work.getLast? = some last) (done : last.failed dialect = false)
    (agrees : result.isOk = smooth dialect work) :
    ClosedAs log dialect base work (commit database result lines state) := by
  cases committing : database.send .commit state with
  | mk answer after =>
    have committed := faithful.sent committing
    rw [logged, List.append_assoc] at committed
    simp only [commit, commitTransaction, committing]
    cases answer with
    | ok _ =>
      refine ⟨_, committed, .committed final done, ?_⟩
      rw [smooth_append, ← agrees]
      exact (Bool.and_true _).symm
    | error failure =>
      have rolledBack := faithful .rollback after
      rw [committed, List.append_assoc, List.append_assoc] at rolledBack
      refine ⟨_, rolledBack, .uncommitted final done failure _, ?_⟩
      rw [smooth_append]
      exact (Bool.and_false _).symm

theorem conclude_closedAs {attempt : Attempt σ} (reached : attempt.state = state)
    (outcome : attempt.failure.isNone = smooth dialect work) :
    ∃ answer, ClosedAs log dialect base (work ++ [⟨.save attempt.checkpoint, answer⟩])
      (conclude database attempt) := by
  subst reached
  cases saving : database.send (.save attempt.checkpoint) attempt.state with
  | mk answer after =>
    have saved := faithful.sent saving
    rw [logged, List.append_assoc] at saved
    refine ⟨answer, ?_⟩
    simp only [conclude, saveCheckpoint, saving]
    cases answer with
    | error failure =>
      refine abandon_closedAs faithful saved _ _ List.getLast?_concat rfl ?_
      rw [smooth_append]
      exact Bool.and_false _
    | ok _ =>
      refine commit_closedAs faithful saved _ _ List.getLast?_concat rfl ?_
      have result : attempt.outcome.isOk = attempt.failure.isNone := by
        cases failure : attempt.failure <;> simp only [Attempt.outcome, failure] <;> rfl
      rw [result, outcome, smooth_append]
      exact (Bool.and_true _).symm

end

/-- What is sent under the lock. Without an attempt nothing of it alters anything. -/
theorem applyUnderLock_exchanges (dialect : Dialect) (verbose : Bool) (project : String)
    (file : Store.PlannedFile) (logged : log state = base) :
    ∃ work, Worked dialect project file.name work ∧ work ≠ [] ∧
      ClosedAs log dialect base work
        (applyUnderLock database dialect verbose project file state) ∧
      (attemptUnderLock? database dialect verbose project file state = none →
        ∀ exchange ∈ work, exchange.command.alters = false) := by
  cases loading : database.send (.load project file.name) state with
  | mk answer loaded =>
    have read := faithful.sent loading
    rw [logged] at read
    have quiet : ∀ exchange ∈ [Exchange.mk (.load project file.name) answer],
        exchange.command.alters = false := by
      simp [Command.alters]
    simp only [applyUnderLock, attemptUnderLock?, loadCheckpoint, loading]
    cases answer with
    | error failure =>
      exact ⟨_, worked_load _, List.cons_ne_nil _ _,
        abandon_closedAs faithful read _ _ rfl rfl rfl, fun _ => quiet⟩
    | ok row =>
      by_cases complete : (checkpointOfRow project file.name row).isComplete = true
      · simp only [if_pos complete]
        exact ⟨_, worked_load _, List.cons_ne_nil _ _,
          commit_closedAs faithful read _ _ rfl rfl rfl, fun _ => quiet⟩
      · simp only [if_neg complete]
        obtain ⟨exchanges, executed, progress⟩ := applyStatements_exchanges faithful dialect verbose
          file.statements 0 (checkpointOfRow project file.name row) loaded
        obtain ⟨reached, status, written⟩ := applyStatements_key database dialect verbose
          file.statements 0 (checkpointOfRow project file.name row) loaded
        rw [checkpointOfRow_project, checkpointOfRow_filename] at written
        rw [read, List.append_assoc] at executed
        obtain ⟨answer, closed⟩ := conclude_closedAs faithful executed rfl progress.smooth_eq.symm
        rw [written] at closed
        exact ⟨_, worked_attempt row progress reached status answer, List.cons_ne_nil _ _, closed,
          fun unattempted => by cases unattempted⟩

theorem applyInTransaction_exchanges (dialect : Dialect) (verbose : Bool) (project : String)
    (file : Store.PlannedFile) (logged : log state = base) :
    Transacts log dialect project file.name base
      (attemptInTransaction? database dialect verbose project file state)
      (applyInTransaction database dialect verbose project file state) := by
  cases beginning : database.send .begin state with
  | mk answer opened =>
    have begun := faithful.sent beginning
    rw [logged] at begun
    simp only [applyInTransaction, attemptInTransaction?, openTransaction, beginning]
    cases answer with
    | error failure =>
      exact ⟨_, begun, fun released => .unopened failure released, rfl,
        fun _ => by simp [Command.alters]⟩
    | ok _ =>
      by_cases locks : dialect = .sqlite
      · subst locks
        obtain ⟨work, worked, _, closed, quiet⟩ :=
          applyUnderLock_exchanges faithful .sqlite verbose project file begun
        exact closed.transacts worked.within worked.unlocked worked.stops quiet
      · simp only
        rw [acquire_eq database opened locks]
        cases locking : database.send (.lock (lockKey project file.name)) opened with
        | mk reply locked =>
          have taken := faithful.sent locking
          rw [begun] at taken
          cases refused : Exchange.failed dialect ⟨.lock (lockKey project file.name), reply⟩ with
          | true =>
            obtain ⟨problem, result⟩ := lockResult_of_failed refused
            simp only [result]
            have closed :
                ClosedAs log dialect _ _ (abandon database _ _ locked : Run σ FileOutcome) :=
              abandon_closedAs faithful taken (.connection problem) [] rfl refused
                (by simp [smooth, refused, Command.isRelease])
            exact closed.transacts (by simp [Command.WorksOn])
              (guarded_of_locked locks (fun _ => rfl) (List.forall_mem_nil _))
              (stopsAtFailure_nil.cons rfl) fun _ => by simp [Command.alters]
          | false =>
            rw [lockResult_of_granted refused]
            obtain ⟨work, worked, some, closed, quiet⟩ :=
              applyUnderLock_exchanges faithful dialect verbose project file taken
            refine (closed.cons refused some).transacts ?_
              (guarded_of_locked locks (by simp [refused]) worked.unlocked)
              (worked.stops.cons rfl) fun unattempted => ?_
            · exact List.forall_mem_cons.mpr ⟨rfl, worked.within⟩
            · exact List.forall_mem_cons.mpr ⟨rfl, quiet unattempted⟩

theorem releaseLock_exchanges (dialect : Dialect) (key : String) (logged : log state = base) :
    ∃ release, log (releaseLock database dialect key state) = base ++ release ∧
      Releases key dialect release := by
  by_cases releases : dialect = .mysql
  · subst releases
    cases unlocking : database.send (.unlock key) state with
    | mk answer unlocked =>
      have unlock := faithful.sent unlocking
      rw [logged] at unlock
      simp only [releaseLock, Lock.release, unlocking]
      cases answer with
      | ok _ => exact ⟨_, unlock, .unlocked⟩
      | error failure =>
        have close := faithful .close unlocked
        rw [unlock, List.append_assoc] at close
        exact ⟨_, close, .closed failure _⟩
  · rw [releaseLock_of_not_mysql _ _ releases]
    exact ⟨[], by rw [logged, List.append_nil], .unneeded releases⟩

/-- Everything sent for a file. Its application succeeds if every command did what it is for. -/
theorem applyFile_exchanges (dialect : Dialect) (verbose : Bool) (project : String)
    (file : Store.PlannedFile) (logged : log state = base) :
    ∃ exchanges,
      log (applyFile database dialect verbose project file state).state = base ++ exchanges ∧
        Disciplined dialect project file.name exchanges ∧
        (applyFile database dialect verbose project file state).result.isOk =
          smooth dialect exchanges ∧
        (attempt? database dialect verbose project file state = none →
          ∀ exchange ∈ exchanges, exchange.command.alters = false) := by
  cases connecting : database.send .connect state with
  | mk answer connected =>
    have connection := faithful.sent connecting
    rw [logged] at connection
    simp only [applyFile, attempt?, connecting]
    cases answer with
    | error failure =>
      exact ⟨_, connection, .unconnected failure, rfl, fun _ => by simp [Command.alters]⟩
    | ok _ =>
      obtain ⟨exchanges, sent, disciplined, result, quiet⟩ :=
        applyInTransaction_exchanges faithful dialect verbose project file connection
      obtain ⟨release, final, released⟩ :=
        releaseLock_exchanges faithful dialect (lockKey project file.name) sent
      rw [List.append_assoc, List.append_assoc] at final
      refine ⟨_, final, disciplined released, ?_, fun unattempted => ?_⟩
      · rw [result, smooth_append, smooth_append, released.smooth_eq, Bool.and_true]
        rfl
      · simp only [List.forall_mem_append, List.forall_mem_singleton]
        exact ⟨rfl, quiet unattempted, released.quiet⟩

end

end Runner

end SqlMigrations
