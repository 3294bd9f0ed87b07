import SqlMigrations.Proofs.Runner.Transcripts

namespace SqlMigrations

def Command.statement? : Command → Option String
  | .statement sql => some sql
  | _ => none

theorem Command.ne_statement (command : Command) (other : command.statement? = none)
    (sql : String) : command ≠ .statement sql := by
  rintro rfl
  cases other

def statementsOf (exchanges : List Exchange) : List String :=
  exchanges.filterMap fun exchange => exchange.command.statement?

variable {σ : Type}

/-- Whether a part of the state lists the statements that the database was sent. -/
def Database.Collects (database : Database σ) (sent : σ → List String) : Prop :=
  ∀ command state,
    sent (database.send command state).2 = sent state ++ command.statement?.toList

theorem Database.transcribing_collects (database : Database σ) :
    database.transcribing.Collects fun state => statementsOf state.2 := by
  intro command state
  have last (answer : Except DriverFailure command.Answer) :
      statementsOf [⟨command, answer⟩] = command.statement?.toList := by
    cases command <;> rfl
  simp only [Database.transcribing, statementsOf, List.filterMap_append]
  exact congrArg _ (last _)

namespace Runner

variable {dialect : Dialect} {database : Database σ} {sent : σ → List String} {state after : σ}
  {project : String} {file : Store.PlannedFile} {outcome : FileOutcome}

def Block.statements (block : Block) : List String :=
  statementsOf block.exchanges

section
variable (collects : database.Collects sent)
include collects

theorem silent (command : Command) (state : σ) (other : command.statement? = none) :
    sent (database.send command state).2 = sent state := by
  rw [collects command state, other, Option.toList_none, List.append_nil]

theorem execute_sent (sql : String) (state : σ) :
    sent (execute database sql state).2 = sent state ++ [sql] := by
  rw [execute_eq]
  exact collects (.statement sql) state

theorem moveSavepoint_sent (move : SavepointMove) (state : σ) :
    sent (moveSavepoint database move state).2 = sent state := by
  rw [moveSavepoint_eq]
  exact silent collects (.savepoint move) state rfl

theorem openTransaction_sent (state : σ) :
    sent (openTransaction database state).2 = sent state := by
  rw [openTransaction_eq]
  exact silent collects .begin state rfl

theorem acquire_sent (dialect : Dialect) (key : String) (state : σ) :
    sent (Lock.acquire database dialect key state).2 = sent state := by
  by_cases locks : dialect = .sqlite
  · subst locks
    rfl
  · rw [acquire_eq _ _ locks]
    exact silent collects (.lock key) state rfl

theorem loadCheckpoint_sent (project filename : String) (state : σ) :
    sent (loadCheckpoint database project filename state).2 = sent state := by
  rw [loadCheckpoint_eq]
  exact silent collects (.load project filename) state rfl

theorem saveCheckpoint_sent (checkpoint : Checkpoint) (state : σ) :
    sent (saveCheckpoint database checkpoint state).2 = sent state := by
  rw [saveCheckpoint_eq]
  exact silent collects (.save checkpoint) state rfl

theorem executeInSavepoint_sent {sql : String}
    (done : executeInSavepoint database sql state = (.ok (), after)) :
    sent after = sent state ++ [sql] := by
  have set := moveSavepoint_sent collects .set state
  cases setting : moveSavepoint database .set state with
  | mk answer opened =>
    rw [setting] at set
    cases answer with
    | error problem => simp [executeInSavepoint, setting] at done
    | ok _ =>
      have executed := execute_sent collects sql opened
      cases executing : execute database sql opened with
      | mk answer performed =>
        rw [executing] at executed
        cases answer with
        | error problem =>
          cases undoing : moveSavepoint database .rollBack performed with
          | mk answer undone =>
            cases answer <;> simp [executeInSavepoint, setting, executing, undoing] at done
        | ok count =>
          have released := moveSavepoint_sent collects .release performed
          simp only [executeInSavepoint, setting, executing] at done
          rw [done] at released
          rw [released, executed, set]

theorem executeMigration_sent {sql : String}
    (done : executeMigration database dialect sql state = (.ok (), after)) :
    sent after = sent state ++ [sql] := by
  cases dialect with
  | postgres => exact executeInSavepoint_sent collects done
  | mysql | sqlite =>
    obtain rfl : (execute database sql state).2 = after := congrArg Prod.snd done
    exact execute_sent collects sql state

theorem applyStatements_sent (verbose : Bool) (statements : List String) :
    ∀ (index : Nat) (checkpoint : Checkpoint) (state : σ),
      (applyStatements database dialect verbose index statements checkpoint state).failure = none →
      sent (applyStatements database dialect verbose index statements checkpoint state).state =
          sent state ++ statements.drop (checkpoint.covered - index) ∧
        (applyStatements database dialect verbose index statements checkpoint state).applied =
          (statements.drop (checkpoint.covered - index)).length := by
  induction statements with
  | nil =>
    intro index checkpoint state _
    simp [applyStatements]
  | cons sql rest induction =>
    intro index checkpoint state
    simp only [applyStatements]
    by_cases covered : checkpoint.isApplied index = true
    · rw [if_pos covered, Checkpoint.drop_of_isApplied covered]
      exact induction (index + 1) checkpoint state
    · have reached := Checkpoint.covered_le_of_not_isApplied covered
      rw [if_neg covered, Nat.sub_eq_zero_of_le reached, List.drop_zero]
      cases executing : executeMigration database dialect sql state with
      | mk answer performed =>
        cases answer with
        | error problem =>
          intro finished
          cases finished
        | ok _ =>
          intro finished
          have behind := checkpoint.covered_at_le index
          obtain ⟨later, count⟩ := induction (index + 1)
            { checkpoint with index := Int.ofNat index } performed finished
          rw [Nat.sub_eq_zero_of_le behind, List.drop_zero] at later count
          have first := executeMigration_sent collects executing
          refine ⟨?_, congrArg (· + 1) count⟩
          change sent (applyStatements _ _ _ _ _ _ _).state = _
          rw [later, first, List.append_assoc, List.singleton_append]

end

/-- What a file that is finished without failure was sent. -/
structure Sends (file : Store.PlannedFile) (outcome : FileOutcome) (statements : List String) :
    Prop where
  last : statements <:+ file.statements
  counted : outcome.applied = statements.length

section
variable (collects : database.Collects sent) (verbose : Bool)
include collects

theorem commit_sent {α : Type} (result : Except MigrationError α) (lines : List String) :
    sent (commit database result lines state).state = sent state := by
  have committed := silent collects .commit state rfl
  have rolledBack := silent collects .rollback (database.send .commit state).2 rfl
  have ended : sent (commitTransaction database state).2 = sent state := by
    rw [commitTransaction_eq]
    simp only
    split
    · exact committed
    · exact rolledBack.trans committed
  rw [← ended, commit]
  rcases commitTransaction database state with ⟨_ | _, final⟩ <;> rfl

theorem conclude_sent {attempt : Attempt σ}
    (finished : (conclude database attempt).result = .ok outcome) :
    sent (conclude database attempt).state = sent attempt.state ∧
      attempt.failure = none ∧ outcome.applied = attempt.applied := by
  have saved := silent collects (.save attempt.checkpoint) attempt.state rfl
  revert finished
  rw [conclude, saveCheckpoint_eq]
  cases answer : (database.send (.save attempt.checkpoint) attempt.state).1 with
  | error failure =>
    intro finished
    cases finished
  | ok _ =>
    intro finished
    refine ⟨(commit_sent collects _ _).trans saved, ?_⟩
    have outcomes : attempt.outcome = .ok outcome := by
      revert finished
      simp only [Except.mapError, commit]
      rcases commitTransaction database _ with ⟨_ | _, final⟩
      · intro finished
        cases finished
      · exact id
    revert outcomes
    rw [Attempt.outcome]
    cases attempt.failure with
    | some problem =>
      intro outcomes
      cases outcomes
    | none =>
      intro outcomes
      rw [← Except.ok.inj outcomes]
      exact ⟨rfl, rfl⟩

theorem applyUnderLock_sent
    (finished : (applyUnderLock database dialect verbose project file state).result =
      .ok outcome) :
    ∃ statements, Sends file outcome statements ∧
      sent (applyUnderLock database dialect verbose project file state).state =
        sent state ++ statements := by
  have loaded := silent collects (.load project file.name) state rfl
  revert finished
  rw [applyUnderLock, loadCheckpoint_eq]
  cases answer : (database.send (.load project file.name) state).1 with
  | error failure =>
    intro finished
    cases finished
  | ok row =>
    simp only [Except.map, Except.mapError]
    split
    · intro finished
      refine ⟨[], ⟨List.nil_suffix, ?_⟩, ?_⟩
      · revert finished
        rw [commit]
        rcases commitTransaction database _ with ⟨_ | _, final⟩
        · intro finished
          cases finished
        · intro finished
          rw [← Except.ok.inj finished]
          rfl
      · rw [commit_sent collects, loaded, List.append_nil]
    · intro finished
      obtain ⟨concluded, complete, count⟩ := conclude_sent collects finished
      obtain ⟨executed, applied⟩ :=
        applyStatements_sent collects verbose file.statements 0 _ _ complete
      refine ⟨_, ⟨List.drop_suffix _ _, count.trans applied⟩, ?_⟩
      rw [concluded, executed, loaded]

theorem applyInTransaction_sent
    (finished : (applyInTransaction database dialect verbose project file state).result =
      .ok outcome) :
    ∃ statements, Sends file outcome statements ∧
      sent (applyInTransaction database dialect verbose project file state).state =
        sent state ++ statements := by
  have begun := openTransaction_sent collects state
  revert finished
  rw [applyInTransaction]
  generalize openTransaction database state = opening at begun
  obtain ⟨_ | _, opened⟩ := opening
  · intro finished
    cases finished
  · simp only
    have locked := acquire_sent collects dialect (lockKey project file.name) opened
    revert locked
    rcases Lock.acquire database dialect (lockKey project file.name) opened with ⟨_ | _, held⟩
    · intro _ finished
      cases finished
    · intro locked finished
      obtain ⟨statements, sends, applied⟩ := applyUnderLock_sent collects verbose finished
      exact ⟨statements, sends, by rw [applied, locked, begun]⟩

theorem releaseLock_sent (key : String) :
    sent (releaseLock database dialect key state) = sent state := by
  by_cases releases : dialect = .mysql
  · subst releases
    have unlocked := silent collects (.unlock key) state rfl
    revert unlocked
    simp only [releaseLock, Lock.release]
    rcases database.send (.unlock key) state with ⟨_ | _, released⟩
    · exact fun unlocked => (silent collects .close released rfl).trans unlocked
    · exact id
  · rw [releaseLock_of_not_mysql _ _ releases]

theorem applyFile_sent
    (finished : (applyFile database dialect verbose project file state).result = .ok outcome) :
    ∃ statements, Sends file outcome statements ∧
      sent (applyFile database dialect verbose project file state).state =
        sent state ++ statements := by
  have connected := silent collects .connect state rfl
  revert finished
  rw [applyFile]
  generalize database.send .connect state = connecting at connected
  obtain ⟨_ | _, opened⟩ := connecting
  · intro finished
    cases finished
  · intro finished
    obtain ⟨statements, sends, applied⟩ := applyInTransaction_sent collects verbose finished
    exact ⟨statements, sends, by simp only [releaseLock_sent collects, applied, connected]⟩

end

theorem fileBlock_sends (verbose : Bool)
    (finished : (applyFile database dialect verbose project file state).result = .ok outcome) :
    Sends file outcome (fileBlock database dialect verbose project file state).statements := by
  rw [← applyFile_transcribing_result database dialect verbose project file state []] at finished
  obtain ⟨statements, sends, applied⟩ :=
    applyFile_sent database.transcribing_collects verbose finished
  have block : (fileBlock database dialect verbose project file state).statements = statements :=
    applied
  rwa [block]

/-- What the files of a plan were sent, each in a block of its own. -/
inductive SentAll : List Store.PlannedFile → List FileOutcome → List Block → Prop where
  | nil : SentAll [] [] []
  | cons {file : Store.PlannedFile} {outcome : FileOutcome} {block : Block}
      {rest : List Store.PlannedFile} {outcomes : List FileOutcome} {blocks : List Block}
      (named : block.filename = file.name) (first : Sends file outcome block.statements)
      (later : SentAll rest outcomes blocks) :
      SentAll (file :: rest) (outcome :: outcomes) (block :: blocks)

theorem applyFiles_sentAll (verbose : Bool) (plan : List Store.PlannedFile) :
    ∀ {state : σ} {outcomes : List FileOutcome},
      (applyFiles database dialect verbose project plan state).result = .ok outcomes →
        SentAll plan outcomes (planBlocks database dialect verbose project plan state) := by
  induction plan with
  | nil =>
    intro state outcomes finished
    rw [← Except.ok.inj finished]
    exact .nil
  | cons file rest induction =>
    intro state outcomes finished
    simp only [applyFiles] at finished
    simp only [planBlocks]
    cases first : (applyFile database dialect verbose project file state).result with
    | error problem => simp [first] at finished
    | ok outcome =>
      simp only [first] at finished
      cases later : (applyFiles database dialect verbose project rest
          (applyFile database dialect verbose project file state).state).result with
      | error problem => simp [later, Except.map] at finished
      | ok others =>
        rw [later] at finished
        rw [← Except.ok.inj finished]
        exact .cons rfl (fileBlock_sends verbose first) (induction later)

section
variable {plan : List Store.PlannedFile} {outcomes : List FileOutcome} {blocks : List Block}

theorem RunReport.applied_cons (project : String) (outcome : FileOutcome)
    (outcomes : List FileOutcome) :
    (RunReport.mk project (outcome :: outcomes)).applied =
      outcome.applied + (RunReport.mk project outcomes).applied := by
  have shift (files : List FileOutcome) (start : Nat) :
      files.foldl (fun total file => total + file.applied) start =
        start + files.foldl (fun total file => total + file.applied) 0 := by
    induction files generalizing start with
    | nil => rfl
    | cons file rest induction =>
      rw [List.foldl_cons, List.foldl_cons, induction, induction (0 + file.applied), Nat.zero_add,
        Nat.add_assoc]
  exact shift outcomes (0 + outcome.applied) |>.trans (by rw [Nat.zero_add]; rfl)

/-- A report counts the statements that were sent. -/
theorem SentAll.applied (all : SentAll plan outcomes blocks) (project : String) :
    (RunReport.mk project outcomes).applied = (blocks.flatMap Block.statements).length := by
  induction all with
  | nil => rfl
  | cons _ first _ induction =>
    rw [RunReport.applied_cons, induction, first.counted, List.flatMap_cons, List.length_append]

/-- Files whose outcomes count all their statements were sent all of them. -/
theorem SentAll.whole (all : SentAll plan outcomes blocks)
    (counts : List.Forall₂ (fun file outcome => outcome.applied = file.statements.length) plan
      outcomes) :
    blocks.map (fun block => Store.PlannedFile.mk block.filename block.statements) = plan := by
  induction all with
  | nil => rfl
  | cons named first _ induction =>
    obtain ⟨count, others⟩ := List.forall₂_cons.mp counts
    have whole := first.last.eq_of_length (first.counted.symm.trans count)
    rw [List.map_cons, induction others, named, whole]

end

theorem InOrder.smooth_eq {complete : Bool} {names : List String} {blocks : List Block}
    (inOrder : InOrder dialect project complete names blocks) :
    smooth dialect (blocks.flatMap Block.exchanges) = complete := by
  induction inOrder with
  | nil => rfl
  | failed rest _ failure => simpa using failure
  | cons _ success _ induction =>
    rw [List.flatMap_cons, smooth_append, success, induction]
    rfl

theorem answered_of_smooth {exchanges : List Exchange} (fine : smooth dialect exchanges = true)
    {sql : String} {answer : Except DriverFailure Nat}
    (member : ⟨.statement sql, answer⟩ ∈ exchanges) : ∃ count, answer = .ok count := by
  have released := List.all_eq_true.mp fine _ member
  cases answer with
  | error failure => simp [Command.isRelease, Exchange.failed] at released
  | ok count => exact ⟨count, rfl⟩

theorem Orderly.completed {call : Call} {complete : Bool} {blocks : List Block}
    {exchanges : List Exchange} (orderly : Orderly dialect call complete blocks exchanges)
    (all : complete = true) :
    (∃ sql count, bootstrapStatements dialect = [sql] ∧
      exchanges = ⟨.statement sql, .ok count⟩ :: blocks.flatMap Block.exchanges) ∧
    smooth dialect exchanges = true := by
  cases orderly with
  | unknown => cases all
  | unprepared => cases all
  | prepared _ _ sql only count _ inOrder =>
    exact ⟨⟨sql, count, only, rfl⟩, inOrder.smooth_eq.trans all⟩

/-- What a call that returns a report has sent. -/
structure Reported (database : Database σ) (dialect : Dialect) (call : Call) (state : σ)
    (report : RunReport) (files : Store.FileSet) : Prop where
  found : call.projects.find call.project = .ok files
  sent : SentAll (call.plan files) report.files (call.blocks database dialect state)
  transcript : ∃ sql count, bootstrapStatements dialect = [sql] ∧
    call.transcript database dialect state =
      ⟨.statement sql, .ok count⟩ ::
        (call.blocks database dialect state).flatMap Block.exchanges
  smooth : smooth dialect (call.transcript database dialect state) = true

theorem Call.run_reported {call : Call} {report : RunReport}
    (succeeded : (call.run database dialect state).result = .ok report) :
    ∃ files, Reported database dialect call state report files := by
  obtain ⟨files, found, sent⟩ : ∃ files, call.projects.find call.project = .ok files ∧
      SentAll (call.plan files) report.files (call.blocks database dialect state) := by
    cases found : call.projects.find call.project with
    | error problem => simp [Call.run, Runner.run, found] at succeeded
    | ok files =>
      simp only [Call.run, Runner.run, found, runPlan] at succeeded
      simp only [Call.blocks, found]
      cases prepared : (bootstrap database dialect call.verbose state).result with
      | error problem => simp [prepared] at succeeded
      | ok _ =>
        simp only [prepared] at succeeded
        cases applied : (applyFiles database dialect call.verbose call.project
            (files.plan call.supply call.next).1
            (bootstrap database dialect call.verbose state).state).result with
        | error problem => simp [applied, Except.map] at succeeded
        | ok outcomes =>
          rw [applied] at succeeded
          obtain rfl := Except.ok.inj succeeded
          exact ⟨files, rfl, applyFiles_sentAll call.verbose _ applied⟩
  have complete : (call.run database dialect state).result.isOk = true := by
    rw [succeeded]
    rfl
  obtain ⟨transcript, fine⟩ := (call_orderly database dialect call state).completed complete
  exact ⟨files, found, sent, transcript, fine⟩

end Runner

end SqlMigrations
