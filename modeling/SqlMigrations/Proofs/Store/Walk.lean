import SqlMigrations.Proofs.NameMap
import SqlMigrations.Proofs.Text.Search
import SqlMigrations.Store.Tree

namespace SqlMigrations.Store

/-- Whether a name leads from a directory to an entry of it. -/
def IsName (name : String) : Prop :=
  name ∉ ["", ".", ".."] ∧ '/' ∉ name.toList

instance (name : String) : Decidable (IsName name) :=
  inferInstanceAs (Decidable (_ ∧ _))

/-- A tree in which the entries of each directory have distinct names. -/
inductive Node.WellNamed : Node → Prop
  | file {contents : List UInt8} : WellNamed (.file contents)
  | link {target : String} : WellNamed (.link target)
  | socket : WellNamed .socket
  | directory {entries : List (String × Node)} (distinct : (entries.map Prod.fst).Nodup)
      (names : ∀ name ∈ entries.map Prod.fst, IsName name)
      (below : ∀ node ∈ entries.map Prod.snd, node.WellNamed) : WellNamed (.directory entries)

theorem Node.WellNamed.distinct {entries : List (String × Node)}
    (named : (Node.directory entries).WellNamed) : (entries.map Prod.fst).Nodup := by
  cases named
  assumption

theorem Node.WellNamed.isName {entries : List (String × Node)}
    (named : (Node.directory entries).WellNamed) {name : String} {node : Node}
    (member : (name, node) ∈ entries) : IsName name := by
  cases named with
  | directory _ names _ => exact names name (List.mem_map_of_mem member)

theorem Node.entry?_eq_some_iff {entries : List (String × Node)}
    (distinct : (entries.map Prod.fst).Nodup) {name : String} {node : Node} :
    Node.entry? (.directory entries) name = some node ↔ (name, node) ∈ entries :=
  lookup_eq_some_iff distinct

theorem Node.at?_append (node : Node) (names : List String) (name : String) :
    node.at? (names ++ [name]) = (node.at? names).bind fun directory => directory.entry? name := by
  rw [Node.at?, List.foldl_append]
  rfl

theorem Node.WellNamed.at? {node found : Node} {names : List String} (named : node.WellNamed)
    (reached : node.at? names = some found) : found.WellNamed := by
  induction names using List.reverseRecOn generalizing found with
  | nil =>
    obtain rfl : node = found := Option.some.inj reached
    exact named
  | append_singleton names name induction =>
    rw [Node.at?_append] at reached
    obtain ⟨above, aboveReached, inside⟩ := Option.bind_eq_some_iff.mp reached
    cases induction aboveReached with
    | directory distinct _ below =>
      exact below found (List.mem_map_of_mem ((Node.entry?_eq_some_iff distinct).mp inside))
    | file | link | socket => cases inside

theorem Tree.walk_append (tree : Tree) (links : Nat) (here path : List String) :
    (∃ problem, ∀ further, tree.walk links here (path ++ further) = .error problem) ∨
      ∃ more names, ∀ further,
        tree.walk links here (path ++ further) = tree.walk more names further := by
  fun_induction Tree.walk tree links here path with
  | case1 links here => exact .inr ⟨links, here, fun _ => rfl⟩
  | case2 links here segment rest inside blank induction =>
    have step (further) : tree.walk links here (segment :: rest ++ further) =
        tree.walk links here (rest ++ further) := by
      rw [List.cons_append, Tree.walk, if_pos inside, if_pos blank]
    simpa only [step] using induction
  | case3 links here rest inside _ induction =>
    have step (further) : tree.walk links here (".." :: rest ++ further) =
        tree.walk links here.dropLast (rest ++ further) := by
      rw [List.cons_append, Tree.walk, if_pos inside, if_neg (by decide), if_pos rfl]
    simpa only [step] using induction
  | case7 here segment rest inside named notUp short target found more induction =>
    have step (further) : tree.walk more.succ here (segment :: rest ++ further) =
        tree.walk more (if isAbsolute target then [] else here)
          (segments target ++ rest ++ further) := by
      rw [List.cons_append, Tree.walk]
      simp [inside, named, notUp, short, found]
    simpa only [step, dite_eq_ite] using induction
  | case8 links here segment rest inside named notUp short node noLink found induction =>
    have step (further) : tree.walk links here (segment :: rest ++ further) =
        tree.walk links (here ++ [segment]) (rest ++ further) := by
      rw [List.cons_append, Tree.walk]
      cases node <;> simp_all
    simpa only [step] using induction
  | case4 =>
    refine .inl ⟨.nameTooLong, fun further => ?_⟩
    rw [List.cons_append, Tree.walk]
    simp [*]
  | case5 =>
    refine .inl ⟨.notFound, fun further => ?_⟩
    rw [List.cons_append, Tree.walk]
    simp [*]
  | case6 =>
    refine .inl ⟨.tooManyLinks, fun further => ?_⟩
    rw [List.cons_append, Tree.walk]
    simp [*]
  | case9 =>
    refine .inl ⟨.notDirectory, fun further => ?_⟩
    rw [List.cons_append, Tree.walk]
    simp [*]

theorem Node.hasDirectory_iff {node : Node} {names : List String} :
    node.hasDirectory names = true ↔ ∃ entries, node.at? names = some (.directory entries) := by
  rw [Node.hasDirectory]
  cases node.at? names with
  | none => simp
  | some found => cases found <;> simp

theorem Tree.walk_blank {tree : Tree} {links : Nat} {here names : List String}
    (walked : tree.walk links here [""] = .ok names) : names = here := by
  rw [Tree.walk] at walked
  by_cases inside : tree.root.hasDirectory here = true
  · rw [if_pos inside, if_pos (.inl rfl), Tree.walk] at walked
    exact (Except.ok.inj walked).symm
  · rw [if_neg inside] at walked
    cases walked

theorem Tree.walk_name {tree : Tree} {here : List String} {name : String} {node : Node}
    (isName : IsName name) (noLink : ∀ target, node ≠ .link target)
    (inside : tree.root.hasDirectory here = true)
    (entry : tree.root.at? (here ++ [name]) = some node) (links : Nat) (rest : List String) :
    tree.walk links here (name :: rest) =
      if isTooLong name then .error .nameTooLong else tree.walk links (here ++ [name]) rest := by
  obtain ⟨notEmpty, notSame, notUp⟩ : name ≠ "" ∧ name ≠ "." ∧ name ≠ ".." := by
    simpa [IsName] using isName.1
  rw [Tree.walk, if_pos inside, if_neg (not_or.mpr ⟨notEmpty, notSame⟩), if_neg notUp, entry]
  cases node with
  | link target => exact absurd rfl (noLink target)
  | file | directory | socket => rfl

theorem segments_append (front : List Char) (name : String) (isName : '/' ∉ name.toList) :
    segments (String.ofList (front ++ '/' :: name.toList)) =
      segments (String.ofList front) ++ [name] := by
  simp only [segments, String.toList_ofList, Text.splitAll_eq_splitOn,
    List.splitOn_append_cons_self, List.splitOn_eq_singleton isName, List.map_append,
    List.map_singleton, String.ofList_toList]

/-- The path of an entry is the directory's path, a slash and the name; the slash may end the
directory's path already. -/
theorem joinPath_cases {directory : String} (nonempty : directory ≠ "") (name : String) :
    ∃ front, joinPath directory name = String.ofList (front ++ '/' :: name.toList) ∧
      (directory = String.ofList front ∧ front ≠ [] ∨
        directory = String.ofList (front ++ ['/'])) := by
  have some : directory.toList ≠ [] := by simpa using nonempty
  obtain ⟨front, last, split⟩ := List.eq_nil_or_concat' directory.toList |>.resolve_left some
  have whole : directory = String.ofList (front ++ [last]) := by rw [← split, String.ofList_toList]
  have atEnd : directory.toList.getLast? = .some last := by rw [split, List.getLast?_concat]
  by_cases slash : last = '/'
  · subst slash
    refine ⟨front, ?_, .inr whole⟩
    rw [joinPath, atEnd, ← String.toList_inj]
    simp [split]
  · refine ⟨front ++ [last], ?_, .inl ⟨whole, by simp⟩⟩
    rw [joinPath, atEnd, ← String.toList_inj]
    simp [split]

/-- The path of an entry has the segments of the directory's path, without the blank one that a
slash at the end leaves there, and the name. -/
theorem segments_joinPath {directory name : String} (nonempty : directory ≠ "")
    (isName : '/' ∉ name.toList) :
    ∃ front, segments (joinPath directory name) = front ++ [name] ∧
      (segments directory = front ∨ segments directory = front ++ [""]) := by
  obtain ⟨front, joined, bare | slashed⟩ := joinPath_cases nonempty name
  all_goals refine ⟨segments (String.ofList front), joined ▸ segments_append front name isName, ?_⟩
  · exact .inl (by rw [bare.1])
  · exact .inr (slashed ▸ segments_append front "" (by simp))

theorem isAbsolute_joinPath {directory : String} (nonempty : directory ≠ "") (name : String) :
    isAbsolute (joinPath directory name) = isAbsolute directory := by
  obtain ⟨front, joined, ⟨bare, some⟩ | slashed⟩ := joinPath_cases nonempty name
  · obtain ⟨c, front, rfl⟩ := List.exists_cons_of_ne_nil some
    rw [isAbsolute, isAbsolute, joined, bare, String.toList_ofList, String.toList_ofList]
    rfl
  · rw [isAbsolute, isAbsolute, joined, slashed, String.toList_ofList, String.toList_ofList]
    cases front <;> rfl

/-- What resolving takes of a path is its segments; it fails for other reasons as well. -/
theorem Tree.resolve_eq_ok {tree : Tree} {path : String} {names : List String}
    (resolved : tree.resolve path = .ok names) :
    path ≠ "" ∧ tree.walk 40 (tree.start path) (segments path) = .ok names := by
  rw [Tree.resolve] at resolved
  split_ifs at resolved with zero empty long
  exact ⟨empty, resolved⟩

theorem Tree.find_eq_ok {tree : Tree} {path : String} {node : Node}
    (found : tree.find path = .ok node) :
    ∃ names, tree.resolve path = .ok names ∧ tree.root.at? names = some node := by
  rw [Tree.find] at found
  cases resolved : tree.resolve path with
  | error problem => simp [resolved] at found
  | ok names =>
    simp only [resolved] at found
    cases reached : tree.root.at? names with
    | none => simp [reached] at found
    | some other =>
      simp only [reached, Except.ok.injEq] at found
      exact ⟨names, rfl, found ▸ reached⟩

theorem Tree.wellNamed_of_find {tree : Tree} {path : String} {node : Node}
    (named : tree.root.WellNamed) (found : tree.find path = .ok node) : node.WellNamed := by
  obtain ⟨_, _, reached⟩ := Tree.find_eq_ok found
  exact named.at? reached

/-- At the path of an entry of a directory there is that entry, if anything is found there at all: a
name or a path may be too long. -/
theorem Tree.find_entry {tree : Tree} {directory name : String} {entries : List (String × Node)}
    {node found : Node} (named : tree.root.WellNamed)
    (listed : tree.find directory = .ok (.directory entries)) (member : (name, node) ∈ entries)
    (noLink : ∀ target, node ≠ .link target)
    (there : tree.find (joinPath directory name) = .ok found) : found = node := by
  obtain ⟨here, resolved, reached⟩ := Tree.find_eq_ok listed
  obtain ⟨nonempty, walked⟩ := Tree.resolve_eq_ok resolved
  obtain ⟨names, resolvedEntry, reachedEntry⟩ := Tree.find_eq_ok there
  obtain ⟨_, walkedEntry⟩ := Tree.resolve_eq_ok resolvedEntry
  have isName := (named.at? reached).isName member
  have entry : tree.root.at? (here ++ [name]) = some node := by
    rw [Node.at?_append, reached, Option.bind_some,
      (Node.entry?_eq_some_iff (named.at? reached).distinct).mpr member]
  obtain ⟨front, segmentsEntry, segmentsHere⟩ := segments_joinPath nonempty isName.2
  rw [Tree.start, isAbsolute_joinPath nonempty, ← Tree.start, segmentsEntry] at walkedEntry
  have atEnd : names = here ++ [name] := by
    rcases tree.walk_append 40 (tree.start directory) front with
      ⟨problem, failed⟩ | ⟨more, mid, led⟩
    · rw [failed] at walkedEntry
      cases walkedEntry
    · rw [led] at walkedEntry
      have same : mid = here := by
        rcases segmentsHere with bare | slashed
        · rw [bare, ← List.append_nil front, led, Tree.walk] at walked
          exact Except.ok.inj walked
        · rw [slashed, led] at walked
          exact (Tree.walk_blank walked).symm
      have inside := Node.hasDirectory_iff.mpr ⟨entries, reached⟩
      rw [same, Tree.walk_name isName noLink inside entry] at walkedEntry
      split_ifs at walkedEntry
      rw [Tree.walk] at walkedEntry
      exact (Except.ok.inj walkedEntry).symm
  subst atEnd
  exact Option.some.inj (reachedEntry.symm.trans entry)

end SqlMigrations.Store
