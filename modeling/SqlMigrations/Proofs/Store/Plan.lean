import SqlMigrations.Proofs.NameMap
import SqlMigrations.Proofs.Statement.Calls
import SqlMigrations.Store.FileSet

namespace SqlMigrations.Store

theorem mem_planFiles {supply : Statement.Supply} {entries : List (String × String)}
    {file : PlannedFile} :
    ∀ {next : Nat}, file ∈ (planFiles supply next entries).1 →
      ∃ contents, (file.name, contents) ∈ entries ∧
        List.Forall₂ Statement.Expands (Statement.pieces contents.toList) file.statements := by
  induction entries with
  | nil =>
    intro next member
    cases member
  | cons entry rest induction =>
    intro next member
    rcases List.mem_cons.mp member with rfl | later
    · exact ⟨entry.2, List.mem_cons_self, Statement.split_expands supply next entry.2⟩
    · obtain ⟨contents, inside, expands⟩ := induction later
      exact ⟨contents, List.mem_cons_of_mem entry inside, expands⟩

theorem FileSet.mem_plan {files : FileSet} {supply : Statement.Supply} {next : Nat}
    {file : PlannedFile} (member : file ∈ (files.plan supply next).1) :
    file.name ∈ files.migrations ∧ ∃ contents, files.get? file.name = some contents ∧
      List.Forall₂ Statement.Expands (Statement.pieces contents.toList) file.statements := by
  obtain ⟨contents, eligible, expands⟩ := mem_planFiles member
  have inside : (file.name, contents) ∈ files.entries := (List.mem_filter.mp eligible).1
  exact ⟨List.mem_map_of_mem eligible, contents, NameMap.get?_of_mem inside, expands⟩

theorem planFiles_names (supply : Statement.Supply) (next : Nat)
    (entries : List (String × String)) :
    (planFiles supply next entries).1.map PlannedFile.name = entries.map Prod.fst := by
  induction entries generalizing next with
  | nil => rfl
  | cons entry rest induction => exact congrArg (entry.1 :: ·) (induction _)

theorem FileSet.plan_names (files : FileSet) (supply : Statement.Supply) (next : Nat) :
    (files.plan supply next).1.map PlannedFile.name = files.migrations :=
  planFiles_names supply next files.eligible

theorem FileSet.migrations_ascending (files : FileSet) : files.migrations.Pairwise (· < ·) :=
  List.pairwise_map.mpr (files.ascend.filter _)

end SqlMigrations.Store
