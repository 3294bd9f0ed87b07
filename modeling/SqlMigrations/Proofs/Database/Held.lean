import SqlMigrations.Proofs.Database.Session

namespace SqlMigrations.Session

variable {dialect : Dialect} {keys : Collation} {discards : Bool} {session : Session keys}
  {durable data : Contents keys}
  {file : Option (String × String)}

/-- A transaction that sees `data` is open on a database that holds `durable` for good. -/
def Holds (session : Session keys) (durable data : Contents keys)
    (file : Option (String × String)) : Prop :=
  session.durable = durable ∧
    ∃ savepoints, session.transaction = some ⟨data, file, savepoints, false⟩

inductive Aftermath (discards : Bool) (durable data : Contents keys)
    (file : Option (String × String))
    (session : Session keys) : Prop where
  | intact (holds : session.Holds durable data file)
  | aborted (opened : OpenTransaction keys) (kept : session.durable = durable)
      (remains : session.transaction = some opened) (dead : opened.aborted = true)
  | ended (allowed : discards = true) (bare : session = ⟨durable, none⟩)

theorem begun_holds (session : Session keys) :
    session.begun.Holds session.durable session.durable none :=
  ⟨rfl, [], rfl⟩

theorem Holds.isAborted (holds : session.Holds durable data file) : session.isAborted = false := by
  obtain ⟨_, savepoints, opened⟩ := holds
  simp [Session.isAborted, opened]

theorem Holds.contents (holds : session.Holds durable data file) : session.contents = data := by
  obtain ⟨_, savepoints, opened⟩ := holds
  simp [Session.contents, opened]

theorem Holds.reading (holds : session.Holds durable data file) (project filename : String) :
    (session.reading project filename).Holds durable data (some (project, filename)) := by
  obtain ⟨kept, savepoints, opened⟩ := holds
  exact ⟨kept, savepoints, by simp [Session.reading, opened]⟩

theorem Holds.save (holds : session.Holds durable data file) (dialect : Dialect)
    (checkpoint : Checkpoint) :
    (session.save dialect checkpoint).Holds durable (data.save dialect checkpoint) file := by
  obtain ⟨kept, savepoints, opened⟩ := holds
  simp only [Session.save, opened]
  exact ⟨kept, savepoints, rfl⟩

theorem Holds.perform (holds : session.Holds durable data file) (sql : String) :
    (session.perform sql).Holds durable (data.perform file [sql]) file := by
  obtain ⟨kept, savepoints, opened⟩ := holds
  simp only [Session.perform, opened]
  exact ⟨kept, savepoints, rfl⟩

theorem Holds.committed (holds : session.Holds durable data file) :
    session.committed = ⟨data, none⟩ := by
  obtain ⟨_, savepoints, opened⟩ := holds
  simp [Session.committed, opened]

theorem Holds.rolledBack (holds : session.Holds durable data file) :
    session.rolledBack = ⟨durable, none⟩ := by
  simp [Session.rolledBack, holds.1]

theorem Holds.failed (holds : session.Holds durable data file) (dialect : Dialect) :
    (session.failed dialect).Aftermath discards durable data file := by
  obtain ⟨kept, savepoints, opened⟩ := holds
  cases dialect with
  | postgres =>
    simp only [Session.failed, opened]
    exact .aborted _ kept rfl rfl
  | mysql => exact .intact ⟨kept, savepoints, opened⟩
  | sqlite => exact .intact ⟨kept, savepoints, opened⟩

theorem Aftermath.rolledBack (aftermath : session.Aftermath discards durable data file) :
    session.rolledBack = ⟨durable, none⟩ := by
  cases aftermath with
  | intact holds => exact holds.rolledBack
  | aborted opened kept => simp [Session.rolledBack, kept]
  | ended _ bare => simp [Session.rolledBack, bare]

theorem eq_of_idle (idle : session.transaction = none) : session = ⟨session.durable, none⟩ := by
  rw [← idle]

theorem rolledBack_of_idle (idle : session.transaction = none) : session.rolledBack = session := by
  rw [Session.rolledBack, ← idle]

/-- A further failure in an aborted transaction leaves it aborted. -/
theorem failed_of_aborted {opened : OpenTransaction keys} (kept : session.durable = durable)
    (remains : session.transaction = some opened) (dead : opened.aborted = true) :
    (session.failed dialect).Aftermath discards durable data file := by
  cases dialect with
  | postgres =>
    simp only [Session.failed, remains]
    exact .aborted _ kept rfl rfl
  | mysql => exact .aborted opened kept remains dead
  | sqlite => exact .aborted opened kept remains dead

end SqlMigrations.Session
