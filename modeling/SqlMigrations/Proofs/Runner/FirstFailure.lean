import SqlMigrations.Proofs.Checkpoint.Covered
import SqlMigrations.Proofs.Runner.Finality

namespace SqlMigrations

/-- Whether a command is about the lock or the checkpoint of a file. -/
def Command.Names (project filename : String) : Command → Prop
  | .lock key | .unlock key => key = Runner.lockKey project filename
  | .load owner name => owner = project ∧ name = filename
  | .save checkpoint => checkpoint.project = project ∧ checkpoint.filename = filename
  | _ => False

namespace Runner

variable {σ : Type} {dialect : Dialect} {keys : Collation} {discards : Bool} {database : Database σ}
  {view : σ → Session keys} {state : σ} {project filename other : String} {file : Store.PlannedFile}
  {before after : Contents keys} {problem : MigrationError}

theorem lockKey_inj (same : lockKey project filename = lockKey project other) : filename = other :=
  (String.append_right_inj _).mp same

theorem works_names {command : Command} (works : command.WorksOn project filename)
    (names : command.Names project other) : filename = other := by
  cases command with
  | lock key => exact lockKey_inj (Eq.trans (Eq.symm works) names)
  | load owner name => exact works.2.symm.trans names.2
  | save checkpoint => exact works.2.symm.trans names.2
  | unlock => exact works.elim
  | _ => exact names.elim

theorem Releases.names {release : List Exchange}
    (released : Releases (lockKey project filename) dialect release) :
    ∀ exchange ∈ release, exchange.command.Names project other → filename = other := by
  cases released with
  | unneeded => exact List.forall_mem_nil _
  | unlocked => exact List.forall_mem_singleton.mpr lockKey_inj
  | closed failure answer => exact List.forall_mem_cons.mpr ⟨lockKey_inj, by simp [Command.Names]⟩

/-- What is sent for a file is about no other file of its project. -/
theorem Disciplined.names {exchanges : List Exchange}
    (disciplined : Disciplined dialect project filename exchanges) :
    ∀ exchange ∈ exchanges, exchange.command.Names project other → filename = other := by
  cases disciplined with
  | unconnected => simp [Command.Names]
  | unopened failure released =>
    simp only [List.forall_mem_cons]
    exact ⟨False.elim, False.elim, released.names⟩
  | opened within _ _ closes released =>
    simp only [List.forall_mem_cons, List.forall_mem_append]
    refine ⟨False.elim, False.elim, ⟨fun exchange member names => ?_, ?_⟩, released.names⟩
    · exact works_names (within exchange member) names
    · cases closes <;> simp [Command.Names]

theorem error_of_map {α β : Type} {result : Except MigrationError α} {build : α → β}
    (failed : result.map build = .error problem) : result = .error problem := by
  cases result with
  | error reason => exact congrArg Except.error (Except.error.inj failed)
  | ok value => cases failed

/-- Where the application of files in order fails. -/
structure FailsAt (database : Database σ) (dialect : Dialect) (verbose : Bool) (project : String)
    (plan : List Store.PlannedFile) (state : σ) (problem : MigrationError)
    (earlier : List Store.PlannedFile) (file : Store.PlannedFile) : Prop where
  passed : (applyFiles database dialect verbose project earlier state).result.isOk = true
  failed : (applyFile database dialect verbose project file
    (applyFiles database dialect verbose project earlier state).state).result = .error problem
  final : (applyFiles database dialect verbose project plan state).state =
    (applyFile database dialect verbose project file
      (applyFiles database dialect verbose project earlier state).state).state
  blocks : planBlocks database dialect verbose project plan state =
    planBlocks database dialect verbose project earlier state ++
      [fileBlock database dialect verbose project file
        (applyFiles database dialect verbose project earlier state).state]

theorem applyFiles_error (database : Database σ) (dialect : Dialect) (verbose : Bool)
    (project : String) (plan : List Store.PlannedFile) :
    ∀ {state : σ}, (applyFiles database dialect verbose project plan state).result =
        .error problem →
      ∃ earlier file later, plan = earlier ++ file :: later ∧
        FailsAt database dialect verbose project plan state problem earlier file := by
  induction plan with
  | nil => exact nofun
  | cons head rest induction =>
    intro state failed
    cases result : (applyFile database dialect verbose project head state).result with
    | error reason =>
      simp only [applyFiles, result] at failed
      obtain rfl := Except.error.inj failed
      exact ⟨[], head, rest, rfl, rfl, result, by simp only [applyFiles, result],
        by simp only [planBlocks, applyFiles, result, List.nil_append]⟩
    | ok outcome =>
      simp only [applyFiles, result] at failed
      obtain ⟨earlier, file, later, rfl, fails⟩ := induction (error_of_map failed)
      refine ⟨head :: earlier, file, later, rfl, ?_, ?_, ?_, ?_⟩
      · simp only [applyFiles, result, isOk_map]
        exact fails.passed
      · simp only [applyFiles, result]
        exact fails.failed
      · simp only [applyFiles, result]
        exact fails.final
      · simp only [planBlocks, applyFiles, result, List.cons_append]
        exact congrArg _ fails.blocks

theorem Applied.other_row {result : Except MigrationError FileOutcome}
    (applied : Applied dialect (Discardable discards) project file before result after)
    (apart : ¬ keys.Same filename file.name) :
    after.row project filename = before.row project filename :=
  (applied.other fun same => apart same.2).row

theorem AppliedAll.other_row {plan : List Store.PlannedFile}
    {result : Except MigrationError (List FileOutcome)}
    (all : AppliedAll dialect discards project plan before result after)
    (apart : ∀ name ∈ plan.map Store.PlannedFile.name, ¬ keys.Same filename name) :
    after.row project filename = before.row project filename :=
  all.preserves (fun contents => contents.row project filename = before.row project filename)
    (fun _ member _ _ _ applied same =>
      (applied.other_row (apart _ (List.mem_map_of_mem member))).trans same) rfl

/-- Files that come to their turn incomplete are as they were before. -/
theorem AppliedAll.checkpoint_of_incomplete {plan : List Store.PlannedFile}
    {result : Except MigrationError (List FileOutcome)}
    (all : AppliedAll dialect discards project plan before result after)
    (success : result.isOk = true)
    (incomplete : (after.checkpoint project filename).isComplete = false) :
    after.checkpoint project filename = before.checkpoint project filename := by
  refine congrArg (checkpointOfRow project filename) (all.other_row fun name member same => ?_)
  obtain ⟨index, row⟩ := all.marked success name member
  have one : keys.SameKey (project, filename) (project, name) := ⟨rfl, same⟩
  have complete := Contents.isComplete_checkpoint_iff.mpr
    ⟨index, (Contents.row_congr one).trans row⟩
  simp [complete] at incomplete

/-- The index in an error about a statement is one more than that in the row. -/
theorem Applied.failing_row {index : Nat} {message : String}
    (applied : Applied dialect (Discardable false) project file before
      (.error (.statement filename index message)) after) :
    filename = file.name ∧ (before.checkpoint project file.name).isComplete = false ∧
      ((before.checkpoint project file.name).InRange →
        after.row project file.name = some ((index : Int) - 1, message)) := by
  cases applied with
  | undone _ failure => cases failure
  | stopped incomplete _ _ _ _ reached =>
    refine ⟨rfl, incomplete, fun range => ?_⟩
    rw [Contents.row_advance_same, reached, range.reached]
  | lost _ _ allowed => cases allowed

theorem Orderly.names {call : Call} {complete : Bool} {blocks : List Block}
    {exchanges : List Exchange} (orderly : Orderly dialect call complete blocks exchanges) :
    ∀ exchange ∈ exchanges, exchange.command.Names call.project other →
      other ∈ blocks.map Block.filename := by
  cases orderly with
  | unknown => exact List.forall_mem_nil _
  | unprepared => exact List.forall_mem_singleton.mpr False.elim
  | prepared files _ _ _ _ _ inOrder =>
    refine List.forall_mem_cons.mpr ⟨False.elim, fun exchange member names => ?_⟩
    obtain ⟨block, sent, inside⟩ := List.mem_flatMap.mp member
    exact (inOrder.disciplined block sent).names exchange inside names ▸ List.mem_map_of_mem sent

theorem Orderly.whole {call : Call} {complete : Bool} {blocks : List Block}
    {exchanges : List Exchange} (orderly : Orderly dialect call complete blocks exchanges)
    (some : blocks ≠ []) :
    ∃ sql answer, bootstrapStatements dialect = [sql] ∧
      exchanges = ⟨.statement sql, answer⟩ :: blocks.flatMap Block.exchanges := by
  cases orderly with
  | unknown | unprepared => contradiction
  | prepared _ _ sql only count => exact ⟨sql, .ok count, only, rfl⟩

/-- A run stopped at a file. The stored index of a file is at least -1 where a run wrote it. -/
structure StoppedAt (project : String) (before after : Contents keys) (problem : MigrationError)
    (blocks : List Block) (exchanges : List Exchange) (earlier : List String) (name : String)
    (later : List String) : Prop where
  sent : blocks.map Block.filename = earlier ++ [name]
  complete : ∀ other ∈ earlier, MarkedComplete project other after
  unnamed : ∀ other ∈ later, ∀ exchange ∈ exchanges, ¬ exchange.command.Names project other
  unchanged : ∀ other ∈ later, (∀ passed ∈ earlier ++ [name], ¬ keys.Same other passed) →
    after.row project other = before.row project other
  recorded : ∀ {filename : String} {index : Nat} {message : String},
    problem = .statement filename index message →
      filename = name ∧ ((before.checkpoint project name).InRange →
        after.row project name = some ((index : Int) - 1, message))

theorem StoppedAt.blocks_ne_nil {blocks : List Block} {exchanges : List Exchange}
    {earlier later : List String} {name : String}
    (stopped : StoppedAt project before after problem blocks exchanges earlier name later) :
    blocks ≠ [] := by
  rintro rfl
  exact List.append_ne_nil_of_right_ne_nil earlier (List.cons_ne_nil name []) stopped.sent.symm

/-- Where a call that returned an error stopped: before it sent anything, at the creation of the
checkpoint table, or at a file. -/
inductive Stopped (dialect : Dialect) (call : Call) (before after : Contents keys)
    (problem : MigrationError) (blocks : List Block) : List Exchange → Prop where
  | unknown (absent : call.projects.find call.project = .error problem)
      (unchanged : ∀ filename, after.row call.project filename = before.row call.project filename) :
      Stopped dialect call before after problem blocks []
  | unprepared (files : Store.FileSet) (found : call.projects.find call.project = .ok files)
      (sql : String) (only : bootstrapStatements dialect = [sql]) (failure : DriverFailure)
      (reported : problem.IsCommandFailure)
      (unchanged : ∀ filename, after.row call.project filename = before.row call.project filename) :
      Stopped dialect call before after problem blocks [⟨.statement sql, .error failure⟩]
  | atFile {exchanges : List Exchange} (files : Store.FileSet)
      (found : call.projects.find call.project = .ok files) (earlier : List String) (name : String)
      (later : List String) (order : files.migrations = earlier ++ name :: later)
      (whole : ∃ sql answer, bootstrapStatements dialect = [sql] ∧
        exchanges = ⟨.statement sql, answer⟩ :: blocks.flatMap Block.exchanges)
      (stopped : StoppedAt call.project before after problem blocks exchanges earlier name later) :
      Stopped dialect call before after problem blocks exchanges

theorem beyond_of_ascending {earlier later : List String} {name : String}
    (ascending : (earlier ++ name :: later).Pairwise (· < ·)) :
    ∀ other ∈ later, other ∉ earlier ++ [name] := by
  obtain ⟨_, behind, across⟩ := List.pairwise_append.mp ascending
  intro other member passed
  rcases List.mem_append.mp passed with before | same
  · exact String.lt_irrefl _ (across _ before _ (List.mem_cons_of_mem _ member))
  · obtain rfl := List.mem_singleton.mp same
    exact String.lt_irrefl _ ((List.pairwise_cons.mp behind).1 _ member)

theorem applyFiles_stopped (rules : database.Transactional dialect view) (verbose : Bool)
    {plan : List Store.PlannedFile} {exchanges : List Exchange}
    (ascending : (plan.map Store.PlannedFile.name).Pairwise (· < ·))
    (idle : view state = ⟨before, none⟩)
    (named : ∀ {other : String}, ∀ exchange ∈ exchanges, exchange.command.Names project other →
      other ∈ (planBlocks database dialect verbose project plan state).map Block.filename)
    (failed : (applyFiles database dialect verbose project plan state).result = .error problem) :
    ∃ after earlier name later,
      view (applyFiles database dialect verbose project plan state).state = ⟨after, none⟩ ∧
        plan.map Store.PlannedFile.name = earlier ++ name :: later ∧
        StoppedAt project before after problem
          (planBlocks database dialect verbose project plan state) exchanges earlier name
          later := by
  obtain ⟨earlier, file, later, rfl, fails⟩ :=
    applyFiles_error database dialect verbose project plan failed
  obtain ⟨between, all, reached⟩ := applyFiles_appliedAll rules verbose project earlier idle
  obtain ⟨after, leaving, final⟩ := applyFile_leaves rules verbose project file reached
  have applied : Applied dialect (Discardable false) project file between (.error problem) after :=
    fails.failed ▸ leaving.mono fun _ lost => lost.1
  have sent : (planBlocks database dialect verbose project (earlier ++ file :: later) state).map
      Block.filename = earlier.map Store.PlannedFile.name ++ [file.name] := by
    have inOrder := planBlocks_inOrder database dialect verbose project earlier state
    rw [fails.passed] at inOrder
    rw [fails.blocks, List.map_append, inOrder.filenames]
    rfl
  rw [List.map_append, List.map_cons] at ascending ⊢
  have beyond := beyond_of_ascending ascending
  rw [← fails.final] at final
  refine ⟨after, _, _, _, final, rfl, sent, fun other member => ?_,
    fun other member exchange inside names => ?_, fun other member apart => ?_, ?_⟩
  · exact (all.marked fails.passed other member).of_applied applied
  · exact beyond other member (sent ▸ named exchange inside names)
  · obtain ⟨passed, last⟩ := List.forall_mem_append.mp apart
    rw [applied.other_row (last file.name List.mem_cons_self), all.other_row passed]
  · rintro filename index message rfl
    obtain ⟨named, incomplete, row⟩ := applied.failing_row
    rw [all.checkpoint_of_incomplete fails.passed incomplete] at row
    exact ⟨named, row⟩

theorem transcript_of_unprepared {call : Call} {files : Store.FileSet}
    (found : call.projects.find call.project = .ok files)
    (failed : (bootstrap database dialect call.verbose state).result = .error problem) :
    ∃ sql failure, bootstrapStatements dialect = [sql] ∧
      call.transcript database dialect state = [⟨.statement sql, .error failure⟩] := by
  obtain ⟨sql, only, same, logged, sent⟩ := bootstrap_logged database dialect call.verbose state
  have transcript : call.transcript database dialect state =
      [⟨.statement sql, (database.send (.statement sql) state).1⟩] := by
    simp only [Call.transcript, Call.run, Runner.run, found, runPlan, same, failed, logged]
  rw [failed] at sent
  cases answer : (database.send (.statement sql) state).1 with
  | ok count => simp [answer, Except.isOk, Except.toBool] at sent
  | error failure => exact ⟨sql, failure, only, answer ▸ transcript⟩

/-- A call that returns an error has stopped there: the files before are complete for good, and
nothing of the files behind, or of another project, is touched. Only rows with a key that is another
one to the database can be other rows. -/
theorem failure_stops_there (rules : database.Transactional dialect view)
    (idle : view state = ⟨before, none⟩) (call : Call)
    (failed : (call.run database dialect state).result = .error problem) :
    ∃ after, view (call.run database dialect state).state = ⟨after, none⟩ ∧
      (∀ project, ¬ keys.Same project call.project → ∀ filename,
        after.row project filename = before.row project filename) ∧
      Stopped dialect call before after problem (call.blocks database dialect state)
        (call.transcript database dialect state) := by
  obtain ⟨after, called, final⟩ := call.run_called rules idle
  refine ⟨after, final, fun _ apart filename => (called.other apart filename).row, ?_⟩
  cases found : call.projects.find call.project with
  | error reason =>
    simp only [Call.run, Call.transcript, Runner.run, found] at failed final ⊢
    obtain rfl := Except.error.inj failed
    obtain rfl := congrArg Session.durable (final.symm.trans idle)
    exact .unknown found fun _ => rfl
  | ok files =>
    have orderly := call_orderly database dialect call state
    simp only [Call.run, Runner.run, found, runPlan] at failed final
    rcases bootstrap_performs rules call.verbose idle with
      ⟨result, prepared⟩ | ⟨done, _, reason, failure, result, ended⟩
    · have blocks : call.blocks database dialect state =
          planBlocks database dialect call.verbose call.project (call.plan files)
            (bootstrap database dialect call.verbose state).state := by
        simp only [Call.blocks, found, result]
      have names : (call.plan files).map Store.PlannedFile.name = files.migrations :=
        Store.FileSet.plan_names files call.supply call.next
      rw [result] at failed final
      rw [blocks] at orderly ⊢
      obtain ⟨_, earlier, name, later, reached, order, stopped⟩ := applyFiles_stopped rules
        call.verbose (names ▸ Store.FileSet.migrations_ascending files) prepared orderly.names
        (error_of_map failed)
      obtain rfl := congrArg Session.durable (final.symm.trans reached)
      exact .atFile files found earlier name later (names.symm.trans order)
        (orderly.whole stopped.blocks_ne_nil)
        ⟨stopped.sent, stopped.complete, stopped.unnamed, stopped.unchanged, stopped.recorded⟩
    · rw [result] at failed final
      obtain rfl := Except.error.inj failed
      obtain rfl := congrArg Session.durable (final.symm.trans ended)
      obtain ⟨sql, refusal, only, transcript⟩ := transcript_of_unprepared found result
      rw [transcript]
      exact .unprepared files found sql only refusal failure fun _ => rfl

def threeFiles : Call :=
  ⟨NameMap.empty.insert "p" (((NameMap.empty.insert "a.up.sql" "A;\n").insert "b.up.sql"
    "B;\nC;\n").insert "c.up.sql" "D;\n"), "p", false, noSupply, 0⟩

/-- Refuses `C` of the second file. -/
def secondRefused : Database (Session .exact × Nat) :=
  faultyDatabase .sqlite false fun
    | 11 => some ⟨.refused (.sqlite "1") "no such table", false⟩
    | _ => none

theorem threeFiles_stop_at_second :
    ∃ after, (threeFiles.run secondRefused .sqlite (Session.unused, 0)).state.1 = ⟨after, none⟩ ∧
      (∀ project, project ≠ "p" → ∀ filename, after.row project filename = none) ∧
      Stopped .sqlite threeFiles Session.unused.durable after
        (.statement "b.up.sql" 1 "no such table")
        (threeFiles.blocks secondRefused .sqlite (Session.unused, 0))
        (threeFiles.transcript secondRefused .sqlite (Session.unused, 0)) := by
  have rules : secondRefused.Transactional .sqlite Prod.fst :=
    faultyDatabase_follows .sqlite false _
  have failed : (threeFiles.run secondRefused .sqlite (Session.unused, 0)).result =
      .error (.statement "b.up.sql" 1 "no such table") := by
    decide +kernel
  exact failure_stops_there rules rfl threeFiles failed

end Runner

end SqlMigrations
