import SqlMigrations.Proofs.Database.Steady
import SqlMigrations.Proofs.Runner.Sent

/-!
Runs on a steady database. What a run returns, sends and leaves for good follows from the contents
before it and from the texts of the statements that are refused.
-/

namespace SqlMigrations.Runner

open Session

/-- The statements that are accepted, and the first other one with the text of its refusal. -/
structure Judgement where
  accepted : List String
  refused : Option (String × String)

def Judgement.tried (judgement : Judgement) : List String :=
  judgement.accepted ++ (judgement.refused.map Prod.fst).toList

def judge (refusal? : String → Option String) : List String → Judgement
  | [] => ⟨[], none⟩
  | sql :: rest =>
    match refusal? sql with
    | some text => ⟨[], some (sql, text)⟩
    | none => { judge refusal? rest with accepted := sql :: (judge refusal? rest).accepted }

/-- What is returned, left for good and sent. -/
structure Ruling (keys : Collation) (α : Type) where
  result : Except MigrationError α
  contents : Contents keys
  sent : List String

variable {σ α : Type} {dialect : Dialect} {keys : Collation} {database : Database σ}
  {view : σ → Session keys} {refusal? : String → Option String} {sent : σ → List String} {state : σ}
  {durable data before : Contents keys} {owner : Option (String × String)} {sql text : String}

def fileRuling (dialect : Dialect) (refusal? : String → Option String) (project : String)
    (file : Store.PlannedFile) (before : Contents keys) : Ruling keys FileOutcome :=
  let checkpoint := before.checkpoint project file.name
  let judgement := judge refusal? (pending before project file)
  let index := checkpoint.reached checkpoint.covered judgement.accepted.length
  if checkpoint.isComplete then
    ⟨.ok ⟨file.name, 0, true, checkpoint.index, checkpoint.status⟩, before, []⟩
  else
    match judgement.refused with
    | none =>
      ⟨.ok ⟨file.name, judgement.accepted.length, false, index, statusOk⟩,
        before.advance dialect project file.name judgement.accepted index statusOk, judgement.tried⟩
    | some (_, text) =>
      ⟨.error (.statement file.name (checkpoint.covered + judgement.accepted.length) text),
        before.advance dialect project file.name judgement.accepted index text, judgement.tried⟩

def planRuling (dialect : Dialect) (refusal? : String → Option String) (project : String) :
    List Store.PlannedFile → Contents keys → Ruling keys (List FileOutcome)
  | [], before => ⟨.ok [], before, []⟩
  | file :: rest, before =>
    let first := fileRuling dialect refusal? project file before
    match first.result with
    | .error problem => ⟨.error problem, first.contents, first.sent⟩
    | .ok outcome =>
      let later := planRuling dialect refusal? project rest first.contents
      ⟨later.result.map (outcome :: ·), later.contents, first.sent ++ later.sent⟩

def Call.ruling (refusal? : String → Option String) (dialect : Dialect) (call : Call)
    (before : Contents keys) : Ruling keys RunReport :=
  match call.projects.find call.project with
  | .error problem => ⟨.error problem, before, []⟩
  | .ok files =>
    let applied := planRuling dialect refusal? call.project (call.plan files)
      (before.perform none (bootstrapStatements dialect))
    ⟨applied.result.map fun files => ⟨call.project, files⟩, applied.contents,
      bootstrapStatements dialect ++ applied.sent⟩

section
variable (steady : database.Steady dialect view refusal?)
include steady

theorem execute_accepted (healthy : (view state).isAborted = false)
    (accepted : refusal? sql = none) :
    ∃ count after, execute database sql state = (.ok count, after) ∧
      view after = (view state).perform sql := by
  obtain ⟨count, answered⟩ := steady.accepts healthy accepted
  have done : execute database sql state =
      (.ok count, (database.send (.statement sql) state).2) := by
    rw [execute_eq, answered]
    rfl
  exact ⟨count, _, done, execute_ok steady.rules done⟩

theorem execute_refused (healthy : (view state).isAborted = false)
    (refused : refusal? sql = some text) :
    ∃ problem after, execute database sql state = (.error problem, after) ∧
      problem.serverMessage = text ∧ view after = (view state).failed dialect := by
  obtain ⟨failure, answered, said⟩ := steady.refuses healthy refused
  have done : execute database sql state =
      (.error (.driver failure), (database.send (.statement sql) state).2) := by
    rw [execute_eq, answered]
    rfl
  have failed := execute_error steady.rules done
  exact ⟨.driver failure, _, done, said, by simpa using failed⟩

theorem answered_of_taken (command : Command) (other : command.statement? = none)
    (taken : ((view state).answer? dialect command).isSome = true) :
    ∃ answer, (database.send command state).1 = .ok answer := by
  have fine := steady.succeeds (command.ne_statement other) taken
  cases reply : (database.send command state).1 with
  | ok answer => exact ⟨answer, rfl⟩
  | error failure =>
    rw [reply] at fine
    cases command <;> cases fine

theorem moveSavepoint_taken (move : SavepointMove) {opened moved : OpenTransaction keys}
    (during : (view state).transaction = some opened) (moves : opened.move move = some moved) :
    ∃ after, moveSavepoint database move state = (.ok (), after) ∧
      view after = { view state with transaction := some moved } := by
  have taken : ((view state).answer? dialect (.savepoint move)).isSome = true := by
    simp [answer?, during, moves]
  obtain ⟨_, answered⟩ := answered_of_taken steady (.savepoint move) rfl taken
  have done : moveSavepoint database move state =
      (.ok (), (database.send (.savepoint move) state).2) := by
    rw [moveSavepoint_eq, answered]
    rfl
  obtain ⟨other, same, final⟩ := moveSavepoint_ok steady.rules during done
  obtain rfl := Option.some.inj (moves.symm.trans same)
  exact ⟨_, done, final⟩

theorem openTransaction_steady (idle : (view state).transaction = none) :
    ∃ after, openTransaction database state = (.ok (), after) := by
  have taken : ((view state).answer? dialect .begin).isSome = true := by
    simp [answer?, idle]
  obtain ⟨_, answered⟩ := answered_of_taken steady .begin rfl taken
  exact ⟨_, by rw [openTransaction_eq, answered]; rfl⟩

theorem acquire_steady (key : String) (healthy : (view state).isAborted = false) :
    ∃ after, Lock.acquire database dialect key state = (.ok (), after) := by
  by_cases locks : dialect = .sqlite
  · subst locks
    exact ⟨state, rfl⟩
  · have taken : ((view state).answer? dialect (.lock key)).isSome = true := by
      simp [answer?, healthy]
    have fine : Exchange.failed dialect ⟨.lock key, (database.send (.lock key) state).1⟩ = false :=
      steady.succeeds (Command.ne_statement (.lock key) rfl) taken
    have granted := lockResult_of_granted fine
    exact ⟨_, by rw [acquire_eq _ _ locks, granted]⟩

theorem loadCheckpoint_steady (project filename : String)
    (healthy : (view state).isAborted = false) :
    ∃ checkpoint after,
      loadCheckpoint database project filename state = (.ok checkpoint, after) := by
  have taken : ((view state).answer? dialect (.load project filename)).isSome = true := by
    simp [answer?, healthy]
  obtain ⟨_, answered⟩ := answered_of_taken steady (.load project filename) rfl taken
  exact ⟨_, _, by rw [loadCheckpoint_eq, answered]; rfl⟩

theorem saveCheckpoint_steady (checkpoint : Checkpoint) (healthy : (view state).isAborted = false) :
    ∃ after, saveCheckpoint database checkpoint state = (.ok (), after) := by
  have taken : ((view state).answer? dialect (.save checkpoint)).isSome = true := by
    simp [answer?, healthy]
  obtain ⟨_, answered⟩ := answered_of_taken steady (.save checkpoint) rfl taken
  exact ⟨_, by rw [saveCheckpoint_eq, answered]; rfl⟩

theorem commitTransaction_steady (state : σ) :
    ∃ after, commitTransaction database state = (.ok (), after) := by
  have taken : ((view state).answer? dialect .commit).isSome = true := rfl
  obtain ⟨_, answered⟩ := answered_of_taken steady .commit rfl taken
  exact ⟨_, by rw [commitTransaction_eq, answered]; rfl⟩

theorem savepoint_set (holds : (view state).Holds durable data owner) :
    ∃ savepoints opened, moveSavepoint database .set state = (.ok (), opened) ∧
      view opened = ⟨durable, some ⟨data, owner, data :: savepoints, false⟩⟩ := by
  obtain ⟨rfl, savepoints, during⟩ := holds
  obtain ⟨opened, setting, set⟩ := moveSavepoint_taken steady .set during rfl
  exact ⟨savepoints, opened, setting, set⟩

theorem executeInSavepoint_accepted (holds : (view state).Holds durable data owner)
    (accepted : refusal? sql = none) :
    ∃ after, executeInSavepoint database sql state = (.ok (), after) := by
  obtain ⟨savepoints, opened, setting, set⟩ := savepoint_set steady holds
  have healthy : (view opened).isAborted = false := by
    simp [set, isAborted]
  obtain ⟨count, performed, executing, performing⟩ := execute_accepted steady healthy accepted
  have during : (view performed).transaction =
      some ⟨data.perform owner [sql], owner, data :: savepoints, false⟩ := by
    simp [performing, set, perform]
  obtain ⟨released, releasing, _⟩ := moveSavepoint_taken steady .release during rfl
  exact ⟨released, by simp only [executeInSavepoint, setting, executing, releasing]⟩

theorem executeMigration_accepted (holds : (view state).Holds durable data owner)
    (accepted : refusal? sql = none) :
    ∃ after, executeMigration database dialect sql state = (.ok (), after) := by
  cases dialect with
  | postgres => exact executeInSavepoint_accepted steady holds accepted
  | mysql | sqlite =>
    obtain ⟨count, after, executing, _⟩ := execute_accepted steady holds.isAborted accepted
    exact ⟨after, by simp only [executeMigration, ignoreCount, executing, Except.map]⟩

end

/-- A refused statement was sent, and the transaction is as it was. -/
structure Spared (view : σ → Session keys) (sent : σ → List String) (durable data : Contents keys)
    (owner : Option (String × String)) (state : σ) (sql text : String) (problem : ConnectionError)
    (after : σ) : Prop where
  said : problem.serverMessage = text
  holds : (view after).Holds durable data owner
  sent : sent after = sent state ++ [sql]

section
variable (steady : database.Steady dialect view refusal?) (collects : database.Collects sent)
include steady collects

theorem executeInSavepoint_refused (holds : (view state).Holds durable data owner)
    (refused : refusal? sql = some text) :
    ∃ problem after, executeInSavepoint database sql state = (.error problem, after) ∧
      Spared view sent durable data owner state sql text problem after := by
  obtain ⟨savepoints, opened, setting, set⟩ := savepoint_set steady holds
  have healthy : (view opened).isAborted = false := by
    simp [set, isAborted]
  obtain ⟨problem, performed, executing, said, failing⟩ := execute_refused steady healthy refused
  obtain ⟨aborted, during⟩ : ∃ aborted,
      view performed = ⟨durable, some ⟨data, owner, data :: savepoints, aborted⟩⟩ := by
    rw [failing, set]
    cases dialect <;> exact ⟨_, rfl⟩
  obtain ⟨undone, undoing, restored⟩ :=
    moveSavepoint_taken steady .rollBack (congrArg Session.transaction during) rfl
  have marked := moveSavepoint_sent collects .set state
  have executed := execute_sent collects sql opened
  have returned := moveSavepoint_sent collects .rollBack performed
  rw [setting] at marked
  rw [executing, marked] at executed
  rw [undoing] at returned
  have spared : (view undone).Holds durable data owner := by
    rw [restored, during]
    exact ⟨rfl, _, rfl⟩
  exact ⟨problem, undone, by simp only [executeInSavepoint, setting, executing, undoing],
    said, spared, returned.trans executed⟩

theorem executeMigration_refused (holds : (view state).Holds durable data owner)
    (refused : refusal? sql = some text) :
    ∃ problem after, executeMigration database dialect sql state = (.error problem, after) ∧
      Spared view sent durable data owner state sql text problem after := by
  cases dialect with
  | postgres => exact executeInSavepoint_refused steady collects holds refused
  | mysql | sqlite =>
    obtain ⟨problem, after, executing, said, failing⟩ :=
      execute_refused steady holds.isAborted refused
    have unharmed : view after = view state := failing
    have executed := execute_sent collects sql state
    rw [executing] at executed
    exact ⟨problem, after, by simp only [executeMigration, ignoreCount, executing, Except.map],
      said,
      unharmed ▸ holds, executed⟩

end

/-- What an attempt that starts at the position `start` comes to, by the judgement of the statements
to do. -/
structure Judged (view : σ → Session keys) (sent : σ → List String) (durable data : Contents keys)
    (owner : Option (String × String)) (checkpoint : Checkpoint) (start : Nat)
    (judgement : Judgement) (base : List String) (attempt : Attempt σ) : Prop where
  applied : attempt.applied = judgement.accepted.length
  failure : attempt.failure = judgement.refused.map fun refusal =>
    .statement checkpoint.filename (start + judgement.accepted.length) refusal.2
  written : attempt.checkpoint =
    { checkpoint with
      index := checkpoint.reached start judgement.accepted.length
      status := (judgement.refused.map Prod.snd).getD statusOk }
  holds : (view attempt.state).Holds durable (data.perform owner judgement.accepted) owner
  sent : sent attempt.state = base ++ judgement.tried

/-- One more accepted statement before an attempt. -/
theorem Judged.cons {checkpoint : Checkpoint} {start : Nat} {judgement : Judgement}
    {base lines : List String} {attempt : Attempt σ}
    (judged : Judged view sent durable (data.perform owner [sql]) owner
      { checkpoint with index := Int.ofNat start } (start + 1) judgement (base ++ [sql]) attempt) :
    Judged view sent durable data owner checkpoint start
      { judgement with accepted := sql :: judgement.accepted } base
      { attempt with applied := attempt.applied + 1, lines := lines } := by
  obtain ⟨applied, failure, written, holds, sent⟩ := judged
  have index : ({ checkpoint with index := Int.ofNat start } : Checkpoint).reached (start + 1)
      judgement.accepted.length = checkpoint.reached start (judgement.accepted.length + 1) := by
    simp only [Checkpoint.reached, Int.ofNat_eq_natCast, Nat.succ_ne_zero, if_false]
    split <;> omega
  have position : start + 1 + judgement.accepted.length =
      start + (judgement.accepted.length + 1) := by omega
  refine ⟨congrArg (· + 1) applied, ?_, ?_, ?_, ?_⟩
  · rw [failure, position]
    rfl
  · rw [written, index]
    rfl
  · rw [← Contents.perform_append] at holds
    exact holds
  · rw [sent, Judgement.tried, Judgement.tried, List.append_assoc]
    rfl

theorem applyStatements_judged (steady : database.Steady dialect view refusal?)
    (collects : database.Collects sent) (verbose : Bool) (statements : List String) :
    ∀ (index : Nat) (checkpoint : Checkpoint) {data : Contents keys} {state : σ},
      (view state).Holds durable data owner →
      Judged view sent durable data owner checkpoint (max index checkpoint.covered)
        (judge refusal? (statements.drop (checkpoint.covered - index))) (sent state)
        (applyStatements database dialect verbose index statements checkpoint state) := by
  induction statements with
  | nil =>
    intro index checkpoint data state holds
    refine ⟨by simp [applyStatements, judge], by simp [applyStatements, judge], ?_, ?_, ?_⟩
    · simp [applyStatements, judge, Checkpoint.reached]
    · simpa [applyStatements, judge] using holds
    · simp [applyStatements, judge, Judgement.tried]
  | cons sql rest induction =>
    intro index checkpoint data state holds
    simp only [applyStatements]
    by_cases covered : checkpoint.isApplied index = true
    · have before := (checkpoint.isApplied_iff index).mp covered
      have position : max index checkpoint.covered = max (index + 1) checkpoint.covered := by omega
      rw [if_pos covered, Checkpoint.drop_of_isApplied covered, position]
      obtain ⟨applied, failure, written, holds, sent⟩ := induction (index + 1) checkpoint holds
      exact ⟨applied, failure, written, holds, sent⟩
    · have reached := Checkpoint.covered_le_of_not_isApplied covered
      have position : max index checkpoint.covered = index := by omega
      rw [if_neg covered, position, Nat.sub_eq_zero_of_le reached, List.drop_zero, judge]
      cases refused : refusal? sql with
      | some text =>
        obtain ⟨problem, after, executing, said, kept, executed⟩ :=
          executeMigration_refused steady collects holds refused
        simp only [executing]
        refine ⟨rfl, ?_, ?_, by simpa using kept, executed⟩
        · simp [said]
        · simp [Checkpoint.reached, said]
      | none =>
        obtain ⟨performed, executing⟩ := executeMigration_accepted steady holds refused
        have later := induction (index + 1) { checkpoint with index := Int.ofNat index }
          (executeMigration_ok steady.rules holds executing)
        have behind := checkpoint.covered_at_le index
        rw [Nat.max_eq_left behind, Nat.sub_eq_zero_of_le behind, List.drop_zero,
          executeMigration_sent collects executing] at later
        simp only [executing]
        exact later.cons

/-- A run does what a ruling says. -/
structure Obeys (view : σ → Session keys) (sent : σ → List String) (base : List String)
    (run : Run σ α)
    (ruling : Ruling keys α) : Prop where
  result : run.result = ruling.result
  contents : view run.state = ⟨ruling.contents, none⟩
  sent : sent run.state = base ++ ruling.sent

section
variable (steady : database.Steady dialect view refusal?) (collects : database.Collects sent)
include steady collects

theorem commit_obeys (result : Except MigrationError α) (lines : List String)
    (holds : (view state).Holds durable data owner) :
    Obeys view sent (sent state) (commit database result lines state) ⟨result, data, []⟩ := by
  obtain ⟨after, committing⟩ := commitTransaction_steady steady state
  have final := (commitTransaction_ok steady.rules committing).trans holds.committed
  have quiet : sent (commit database result lines state).state = sent state :=
    commit_sent collects result lines
  rw [commit, committing] at quiet ⊢
  exact ⟨rfl, final, by simpa using quiet⟩

theorem conclude_obeys {attempt : Attempt σ}
    (holds : (view attempt.state).Holds durable data owner) :
    Obeys view sent (sent attempt.state) (conclude database attempt)
      ⟨attempt.outcome, data.save dialect attempt.checkpoint, []⟩ := by
  obtain ⟨after, saving⟩ := saveCheckpoint_steady steady attempt.checkpoint holds.isAborted
  have saved : (view after).Holds durable (data.save dialect attempt.checkpoint) owner := by
    rw [(saveCheckpoint_ok steady.rules saving).2]
    exact holds.save dialect attempt.checkpoint
  have quiet := saveCheckpoint_sent collects attempt.checkpoint attempt.state
  rw [saving] at quiet
  have committed := commit_obeys steady collects attempt.outcome attempt.lines saved
  rw [quiet] at committed
  simpa only [conclude, saving] using committed

theorem applyUnderLock_obeys (verbose : Bool) (project : String) (file : Store.PlannedFile)
    (holds : (view state).Holds before before owner) :
    Obeys view sent (sent state) (applyUnderLock database dialect verbose project file state)
      (fileRuling dialect refusal? project file before) := by
  obtain ⟨checkpoint, loaded, loading⟩ :=
    loadCheckpoint_steady steady project file.name holds.isAborted
  obtain ⟨found, reading⟩ := loadCheckpoint_ok steady.rules holds loading
  change checkpoint = before.checkpoint project file.name at found
  have quiet := loadCheckpoint_sent collects project file.name state
  rw [loading] at quiet
  simp only [applyUnderLock, loading, found, fileRuling]
  rw [← quiet]
  by_cases complete : (before.checkpoint project file.name).isComplete = true
  · rw [if_pos complete, if_pos complete]
    exact commit_obeys steady collects _ _ reading
  · rw [if_neg complete, if_neg complete]
    have judged := applyStatements_judged steady collects verbose file.statements 0
      (before.checkpoint project file.name) reading
    rw [Nat.zero_max, Nat.sub_zero] at judged
    obtain ⟨applied, failure, written, kept, executed⟩ := judged
    obtain ⟨result, contents, ended⟩ := conclude_obeys steady collects kept
    rw [executed, List.append_nil] at ended
    rw [written] at contents
    simp only [pending]
    cases refused : (judge refusal?
        (file.statements.drop (before.checkpoint project file.name).covered)).refused with
    | none =>
      refine ⟨?_, ?_, ended⟩
      · rw [result]
        simp [Attempt.outcome, failure, refused, applied, written]
      · rw [contents]
        simp [Contents.advance, refused]
    | some refusal =>
      refine ⟨?_, ?_, ended⟩
      · rw [result]
        simp [Attempt.outcome, failure, refused]
      · rw [contents]
        simp [Contents.advance, refused]

theorem applyInTransaction_obeys (verbose : Bool) (project : String) (file : Store.PlannedFile)
    (idle : view state = ⟨before, none⟩) :
    Obeys view sent (sent state) (applyInTransaction database dialect verbose project file state)
      (fileRuling dialect refusal? project file before) := by
  have closed : (view state).transaction = none := by rw [idle]
  obtain ⟨opened, opening⟩ := openTransaction_steady steady closed
  have holds := openTransaction_ok steady.rules closed opening
  rw [idle] at holds
  obtain ⟨locked, locking⟩ := acquire_steady steady (lockKey project file.name) holds.isAborted
  rw [← acquire_ok steady.rules locking] at holds
  have begun := openTransaction_sent collects state
  have taken := acquire_sent collects dialect (lockKey project file.name) opened
  rw [opening] at begun
  rw [locking] at taken
  have obeys := applyUnderLock_obeys steady collects verbose project file holds
  rw [taken, begun] at obeys
  simpa only [applyInTransaction, opening, locking] using obeys

theorem applyFile_obeys (verbose : Bool) (project : String) (file : Store.PlannedFile)
    (idle : view state = ⟨before, none⟩) :
    Obeys view sent (sent state) (applyFile database dialect verbose project file state)
      (fileRuling dialect refusal? project file before) := by
  have taken : ((view state).answer? dialect .connect).isSome = true := rfl
  obtain ⟨_, answered⟩ := answered_of_taken steady .connect rfl taken
  have connected := silent collects .connect state rfl
  cases connecting : database.send .connect state with
  | mk answer after =>
    rw [connecting] at answered connected
    obtain rfl := answered
    have unchanged : view after = view state := steady.rules.answers connecting
    obtain ⟨result, contents, ended⟩ := applyInTransaction_obeys steady collects verbose project
      file (unchanged.trans idle)
    have closed : (view (applyInTransaction database dialect verbose project file
        after).state).transaction = none := by rw [contents]
    simp only [applyFile, connecting]
    refine ⟨result, (releaseLock_kept steady.rules closed).trans contents, ?_⟩
    rw [releaseLock_sent collects, ended, connected]

theorem applyFiles_obeys (verbose : Bool) (project : String) (plan : List Store.PlannedFile) :
    ∀ {state : σ} {before : Contents keys}, view state = ⟨before, none⟩ →
      Obeys view sent (sent state) (applyFiles database dialect verbose project plan state)
        (planRuling dialect refusal? project plan before) := by
  induction plan with
  | nil => exact fun idle => ⟨rfl, idle, (List.append_nil _).symm⟩
  | cons file rest induction =>
    intro state before idle
    obtain ⟨result, contents, ended⟩ := applyFile_obeys steady collects verbose project file idle
    simp only [applyFiles, planRuling, result]
    cases (fileRuling dialect refusal? project file before).result with
    | error problem => exact ⟨rfl, contents, ended⟩
    | ok outcome =>
      obtain ⟨results, final, sends⟩ := induction contents
      refine ⟨by simp only [results], final, ?_⟩
      rw [sends, ended, List.append_assoc]

theorem bootstrap_obeys (verbose : Bool) (idle : view state = ⟨before, none⟩) :
    Obeys view sent (sent state) (bootstrap database dialect verbose state)
      ⟨.ok (), before.perform none (bootstrapStatements dialect), bootstrapStatements dialect⟩ := by
  obtain ⟨sql, only⟩ := List.length_eq_one_iff.mp (bootstrapStatements_length dialect)
  have healthy : (view state).isAborted = false := by
    rw [idle]
    rfl
  have accepted := steady.prepares sql (only ▸ List.mem_singleton_self sql)
  obtain ⟨count, after, executing, performed⟩ := execute_accepted steady healthy accepted
  have executed := execute_sent collects sql state
  rw [executing] at executed
  rw [idle] at performed
  simp only [bootstrap, only, sendAll, executing]
  exact ⟨rfl, performed, executed⟩

theorem Call.run_obeys (call : Call) (idle : view state = ⟨before, none⟩) :
    Obeys view sent (sent state) (call.run database dialect state)
      (call.ruling refusal? dialect before) := by
  cases found : call.projects.find call.project with
  | error problem =>
    simp only [Call.run, Runner.run, Call.ruling, found]
    exact ⟨rfl, idle, (List.append_nil _).symm⟩
  | ok files =>
    obtain ⟨prepared, contents, ended⟩ := bootstrap_obeys steady collects call.verbose idle
    obtain ⟨result, final, sends⟩ := applyFiles_obeys steady collects call.verbose call.project
      (call.plan files) contents
    simp only [Call.run, Runner.run, runPlan, Call.ruling, found, prepared]
    refine ⟨congrArg (Except.map _) result, final, ?_⟩
    rw [Call.plan] at sends
    rw [sends, ended, List.append_assoc]
    rfl

end

/-- What a call returns, leaves and sends on a steady database. -/
theorem Call.run_ruling (steady : database.Steady dialect view refusal?) (call : Call)
    (idle : view state = ⟨before, none⟩) :
    (call.run database dialect state).result = (call.ruling refusal? dialect before).result ∧
      view (call.run database dialect state).state =
        ⟨(call.ruling refusal? dialect before).contents, none⟩ ∧
      statementsOf (call.transcript database dialect state) =
        (call.ruling refusal? dialect before).sent := by
  have recorded : (view ∘ Prod.fst) (state, ([] : List Exchange)) = ⟨before, none⟩ := idle
  obtain ⟨result, contents, sent⟩ :=
    Call.run_obeys steady.transcribing database.transcribing_collects call recorded
  obtain ⟨same, reached⟩ := run_mirrors database.transcribing_mirrors dialect call.projects
    call.verbose call.verbose call.supply call.next call.project (Eq.refl (state, []).1)
  exact ⟨same.symm.trans result, reached ▸ contents, sent⟩

end SqlMigrations.Runner
