import SqlMigrations.Proofs.Runner.Discipline
import SqlMigrations.Proofs.Runner.History
import SqlMigrations.Proofs.Runner.Mirror
import SqlMigrations.Proofs.Store.Plan

/-!
The transcript of a call. The checkpoint table is created first; then there is a block of exchanges
for each file of the project, in order, up to the first file that fails.
-/

namespace SqlMigrations

variable {σ : Type} {dialect : Dialect} {keys : Collation}

theorem bootstrapSql_pieces (dialect : Dialect) :
    Statement.hasCall (bootstrapSql dialect).toList = false ∧
      (Statement.pieces (bootstrapSql dialect).toList).length = 1 := by
  cases dialect
  all_goals
    -- line by line, as evaluating the characters of a long string takes long
    unfold bootstrapSql
    dsimp only
    rw [String.toList_append, String.toList_append, String.toList_append, String.toList_append,
      String.toList_append, String.toList_append]
    decide +kernel

namespace Runner

theorem bootstrap_draws_nothing (dialect : Dialect) (supply : Statement.Supply) (next : Nat) :
    Statement.split supply next (bootstrapSql dialect) = (bootstrapStatements dialect, next) := by
  have free := Statement.callFree_of_no_call (bootstrapSql_pieces dialect).1
  rw [bootstrapStatements, free.split supply next, free.split noSupply 0]

theorem bootstrapStatements_length (dialect : Dialect) :
    (bootstrapStatements dialect).length = 1 := by
  have free := Statement.callFree_of_no_call (bootstrapSql_pieces dialect).1
  rw [bootstrapStatements, free.split noSupply 0, List.length_map, (bootstrapSql_pieces dialect).2]

end Runner

theorem Database.transcribing_mirrors (database : Database σ) :
    Database.Mirrors (fun _ => True) database.transcribing database (fun s t => s.1 = t) := by
  rintro command _ ⟨s, log⟩ t rfl
  exact ⟨rfl, rfl⟩

/-- What was sent before makes no difference. -/
theorem Database.transcribing_mirrors_self (database : Database σ) (base : List Exchange) :
    Database.Mirrors (fun _ => True) database.transcribing database.transcribing
      (fun s t => s.1 = t.1 ∧ s.2 = base ++ t.2) := by
  rintro command - ⟨s, all⟩ ⟨t, log⟩ ⟨same, logged⟩
  obtain rfl : s = t := same
  obtain rfl : all = base ++ log := logged
  exact ⟨rfl, rfl, List.append_assoc _ _ _⟩

theorem Database.recording_mirrors (database : Database σ) :
    Database.Mirrors (fun _ => True) database.recording database.transcribing
      (fun s t => s.1 = t.1 ∧ s.2 = t.2.map Exchange.command) := by
  rintro command - ⟨s, commands⟩ ⟨t, log⟩ ⟨same, recorded⟩
  obtain rfl : s = t := same
  obtain rfl : commands = log.map Exchange.command := recorded
  refine ⟨rfl, rfl, ?_⟩
  simp [Database.recording, Database.transcribing]

theorem Database.Follows.transcribing {discards : Bool} {database : Database σ}
    {view : σ → Session keys}
    (rules : database.Follows dialect discards view) :
    database.transcribing.Follows dialect discards (view ∘ Prod.fst) :=
  fun command state => rules command state.1

namespace Runner

/-- What is sent for one file. -/
structure Block where
  filename : String
  exchanges : List Exchange

def fileBlock (database : Database σ) (dialect : Dialect) (verbose : Bool) (project : String)
    (file : Store.PlannedFile) (state : σ) : Block :=
  ⟨file.name, (applyFile database.transcribing dialect verbose project file (state, [])).state.2⟩

def planBlocks (database : Database σ) (dialect : Dialect) (verbose : Bool) (project : String) :
    List Store.PlannedFile → σ → List Block
  | [], _ => []
  | file :: rest, state =>
    let first := applyFile database dialect verbose project file state
    fileBlock database dialect verbose project file state ::
      match first.result with
      | .error _ => []
      | .ok _ => planBlocks database dialect verbose project rest first.state

namespace Call

variable (call : Call) (database : Database σ) (dialect : Dialect) (state : σ)

def transcript : List Exchange :=
  (call.run database.transcribing dialect (state, [])).state.2

def blocks : List Block :=
  let prepared := bootstrap database dialect call.verbose state
  match call.projects.find call.project, prepared.result with
  | .ok files, .ok () =>
    planBlocks database dialect call.verbose call.project (call.plan files) prepared.state
  | _, _ => []

end Call

/-- Blocks for names in order. After a block with a command that failed there is none. -/
inductive InOrder (dialect : Dialect) (project : String) : Bool → List String → List Block → Prop
  where
  | nil : InOrder dialect project true [] []
  | failed {block : Block} (rest : List String)
      (disciplined : Disciplined dialect project block.filename block.exchanges)
      (failure : smooth dialect block.exchanges = false) :
      InOrder dialect project false (block.filename :: rest) [block]
  | cons {complete : Bool} {block : Block} {names : List String} {blocks : List Block}
      (disciplined : Disciplined dialect project block.filename block.exchanges)
      (success : smooth dialect block.exchanges = true)
      (later : InOrder dialect project complete names blocks) :
      InOrder dialect project complete (block.filename :: names) (block :: blocks)

/-- The exchanges of a call: the statement that creates the checkpoint table, then the blocks of the
files in ascending order. Nothing is sent for a project that is not there. -/
inductive Orderly (dialect : Dialect) (call : Call) : Bool → List Block → List Exchange → Prop where
  | unknown (problem : MigrationError) (absent : call.projects.find call.project = .error problem) :
      Orderly dialect call false [] []
  | unprepared (files : Store.FileSet) (found : call.projects.find call.project = .ok files)
      (sql : String) (only : bootstrapStatements dialect = [sql]) (failure : DriverFailure) :
      Orderly dialect call false [] [⟨.statement sql, .error failure⟩]
  | prepared {complete : Bool} {blocks : List Block} (files : Store.FileSet)
      (found : call.projects.find call.project = .ok files) (sql : String)
      (only : bootstrapStatements dialect = [sql]) (count : Nat)
      (ascending : files.migrations.Pairwise (· < ·))
      (inOrder : InOrder dialect call.project complete files.migrations blocks) :
      Orderly dialect call complete blocks
        (⟨.statement sql, .ok count⟩ :: blocks.flatMap Block.exchanges)

section
variable {project : String} {complete : Bool} {names : List String} {blocks : List Block}

theorem InOrder.disciplined (inOrder : InOrder dialect project complete names blocks) :
    ∀ block ∈ blocks, Disciplined dialect project block.filename block.exchanges := by
  induction inOrder with
  | nil => exact List.forall_mem_nil _
  | failed rest disciplined => exact List.forall_mem_singleton.mpr disciplined
  | cons disciplined _ _ induction => exact List.forall_mem_cons.mpr ⟨disciplined, induction⟩

theorem InOrder.filenames (inOrder : InOrder dialect project true names blocks) :
    blocks.map Block.filename = names := by
  generalize all : true = complete at inOrder
  induction inOrder with
  | nil => rfl
  | failed => cases all
  | @cons _ block _ _ _ _ _ induction => exact congrArg (block.filename :: ·) (induction all)

theorem InOrder.complete_of_smooth (inOrder : InOrder dialect project complete names blocks)
    (success : smooth dialect (blocks.flatMap Block.exchanges) = true) : complete = true := by
  induction inOrder with
  | nil => rfl
  | failed rest _ failure =>
    rw [List.flatMap_cons, smooth_append, failure] at success
    exact success
  | cons _ _ _ induction =>
    rw [List.flatMap_cons, smooth_append, Bool.and_eq_true] at success
    exact induction success.2

theorem Orderly.complete_of_smooth {call : Call} {exchanges : List Exchange} {files : Store.FileSet}
    (orderly : Orderly dialect call complete blocks exchanges)
    (found : call.projects.find call.project = .ok files)
    (success : smooth dialect exchanges = true) : complete = true := by
  cases orderly with
  | unknown problem absent => simp [found] at absent
  | unprepared => cases success
  | prepared _ _ _ _ _ _ inOrder => exact inOrder.complete_of_smooth success

end

theorem isOk_map {α β : Type} (result : Except MigrationError α) (build : α → β) :
    (result.map build).isOk = result.isOk := by
  cases result <;> rfl

section
variable (database : Database σ) (dialect : Dialect) (verbose : Bool) (project : String)

theorem applyFile_logged (file : Store.PlannedFile) (state : σ) (base : List Exchange) :
    (applyFile database.transcribing dialect verbose project file (state, base)).state =
      ((applyFile database dialect verbose project file state).state,
        base ++ (fileBlock database dialect verbose project file state).exchanges) := by
  obtain ⟨_, reached⟩ := applyFile_mirrors database.transcribing_mirrors dialect verbose verbose
    project file (Eq.refl (state, base).1)
  obtain ⟨_, _, logged⟩ := applyFile_mirrors (database.transcribing_mirrors_self base) dialect
    verbose verbose project file
    (⟨rfl, (List.append_nil base).symm⟩ : (state, base).1 = (state, []).1 ∧ base = base ++ [])
  exact Prod.ext reached logged

theorem applyFile_transcribing_result (file : Store.PlannedFile) (state : σ)
    (base : List Exchange) :
    (applyFile database.transcribing dialect verbose project file (state, base)).result =
      (applyFile database dialect verbose project file state).result :=
  (applyFile_mirrors database.transcribing_mirrors dialect verbose verbose project file
    (Eq.refl (state, base).1)).1

theorem fileBlock_disciplined (file : Store.PlannedFile) (state : σ) :
    Disciplined dialect project file.name
        (fileBlock database dialect verbose project file state).exchanges ∧
      (applyFile database dialect verbose project file state).result.isOk =
        smooth dialect (fileBlock database dialect verbose project file state).exchanges := by
  obtain ⟨exchanges, logged, disciplined, result, _⟩ := applyFile_exchanges
    database.transcribing_logs dialect verbose project file (Eq.refl (state, []).2)
  have block : (fileBlock database dialect verbose project file state).exchanges = exchanges :=
    logged
  rw [applyFile_transcribing_result] at result
  rw [block]
  exact ⟨disciplined, result⟩

theorem applyFiles_logged (plan : List Store.PlannedFile) :
    ∀ (state : σ) (base : List Exchange),
      (applyFiles database.transcribing dialect verbose project plan (state, base)).state =
        ((applyFiles database dialect verbose project plan state).state,
          base ++
            (planBlocks database dialect verbose project plan state).flatMap Block.exchanges) := by
  induction plan with
  | nil => exact fun state base => congrArg (state, ·) (List.append_nil base).symm
  | cons file rest induction =>
    intro state base
    simp only [applyFiles, planBlocks, applyFile_transcribing_result, applyFile_logged]
    cases (applyFile database dialect verbose project file state).result with
    | error problem => simp only [List.flatMap_cons, List.flatMap_nil, List.append_nil]
    | ok outcome => simp only [induction, List.flatMap_cons, List.append_assoc]

theorem planBlocks_inOrder (plan : List Store.PlannedFile) :
    ∀ state : σ, InOrder dialect project
      (applyFiles database dialect verbose project plan state).result.isOk
      (plan.map Store.PlannedFile.name)
      (planBlocks database dialect verbose project plan state) := by
  induction plan with
  | nil => exact fun _ => .nil
  | cons file rest induction =>
    intro state
    obtain ⟨disciplined, success⟩ :=
      fileBlock_disciplined database dialect verbose project file state
    simp only [applyFiles, planBlocks]
    cases result : (applyFile database dialect verbose project file state).result with
    | error problem =>
      rw [result] at success
      exact .failed _ disciplined success.symm
    | ok outcome =>
      rw [result] at success
      rw [isOk_map]
      exact .cons disciplined success.symm (induction _)

end

theorem bootstrap_logged (database : Database σ) (dialect : Dialect) (verbose : Bool) (state : σ) :
    ∃ sql, bootstrapStatements dialect = [sql] ∧
      (bootstrap database.transcribing dialect verbose (state, [])).result =
        (bootstrap database dialect verbose state).result ∧
      (bootstrap database.transcribing dialect verbose (state, [])).state =
        ((bootstrap database dialect verbose state).state,
          [⟨.statement sql, (database.send (.statement sql) state).1⟩]) ∧
      (bootstrap database dialect verbose state).result.isOk =
        (database.send (.statement sql) state).1.isOk := by
  obtain ⟨sql, only⟩ := List.length_eq_one_iff.mp (bootstrapStatements_length dialect)
  refine ⟨sql, only, ?_⟩
  simp only [bootstrap, only, sendAll, execute, Database.transcribing]
  rcases database.send (.statement sql) state with ⟨_ | _, after⟩ <;> exact ⟨rfl, rfl, rfl⟩

theorem call_orderly (database : Database σ) (dialect : Dialect) (call : Call) (state : σ) :
    Orderly dialect call (call.run database dialect state).result.isOk
      (call.blocks database dialect state) (call.transcript database dialect state) := by
  cases found : call.projects.find call.project with
  | error problem =>
    simp only [Call.run, Call.blocks, Call.transcript, run, found]
    exact .unknown problem found
  | ok files =>
    obtain ⟨sql, only, same, logged, sent⟩ :=
      bootstrap_logged database dialect call.verbose state
    simp only [Call.run, Call.blocks, Call.transcript, run, found, runPlan, same, logged]
    cases result : (bootstrap database dialect call.verbose state).result with
    | error problem =>
      rw [result] at sent
      cases answer : (database.send (.statement sql) state).1 with
      | error failure => exact .unprepared files found sql only failure
      | ok count => simp [answer, Except.isOk, Except.toBool] at sent
    | ok _ =>
      rw [result] at sent
      cases answer : (database.send (.statement sql) state).1 with
      | error failure => simp [answer, Except.isOk, Except.toBool] at sent
      | ok count =>
        rw [isOk_map]
        simp only [applyFiles_logged]
        refine .prepared files found sql only count (Store.FileSet.migrations_ascending files) ?_
        rw [← Store.FileSet.plan_names files call.supply call.next]
        exact planBlocks_inOrder database dialect call.verbose call.project (call.plan files) _

/-- Whatever the database answers, what a call sends is in order: lock and transaction of a file are
closed before the next file is begun. The commands are those that a recording database keeps. -/
theorem transcript_orderly (database : Database σ) (dialect : Dialect) (call : Call) (state : σ) :
    Orderly dialect call (call.run database dialect state).result.isOk
        (call.blocks database dialect state) (call.transcript database dialect state) ∧
      (call.run database.recording dialect (state, [])).state.2 =
        (call.transcript database dialect state).map Exchange.command := by
  refine ⟨call_orderly database dialect call state, ?_⟩
  exact (run_mirrors database.recording_mirrors dialect call.projects call.verbose call.verbose
    call.supply call.next call.project ⟨rfl, rfl⟩).2.2

end Runner

end SqlMigrations
