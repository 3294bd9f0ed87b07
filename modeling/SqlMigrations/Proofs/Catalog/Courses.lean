import Mathlib.Data.List.Forall2
import SqlMigrations.Catalog.Describer

namespace SqlMigrations.Catalog

variable {α β ρ : Type}

theorem reply_bind_eq_ok {first : Reply α} {next : α → Reply β} {value : β}
    (done : (first >>= next) = .ok value) :
    ∃ inner, first = .ok inner ∧ next inner = .ok value := by
  cases first with
  | error failure => cases done
  | ok inner => exact ⟨inner, rfl, done⟩

theorem mapM_eq_ok {read : α → Reply β} {items : List α} {values : List β}
    (done : items.mapM read = .ok values) :
    List.Forall₂ (fun item value => read item = .ok value) items values := by
  induction items generalizing values with
  | nil =>
    obtain rfl : [] = values := Except.ok.inj done
    exact .nil
  | cons item items induction =>
    rw [List.mapM_cons] at done
    obtain ⟨value, first, later⟩ := reply_bind_eq_ok done
    obtain ⟨others, rest, ended⟩ := reply_bind_eq_ok later
    obtain rfl : value :: others = values := Except.ok.inj ended
    exact .cons first (induction rest)

theorem readRows_eq_ok {reply : Reply (List ρ)} {read : ρ → Reply α} {values : List α}
    (done : (reply.bind fun rows => rows.mapM read) = .ok values) :
    ∃ rows, reply = .ok rows ∧
      List.Forall₂ (fun row value => read row = .ok value) rows values := by
  cases reply with
  | error failure => cases done
  | ok rows => exact ⟨rows, rfl, mapM_eq_ok done⟩

theorem requireText_eq_ok {column : Nat} {cell : Option String} {text : String}
    (done : requireText column cell = .ok text) : cell = some text := by
  cases cell with
  | none => cases done
  | some found => exact congrArg some (Except.ok.inj done)

theorem map_eq_map_of_forall₂ {γ : Type} {relation : α → β → Prop} {f : α → γ} {g : β → γ}
    {left : List α} {right : List β} (related : List.Forall₂ relation left right)
    (agree : ∀ a b, relation a b → f a = g b) : left.map f = right.map g := by
  induction related with
  | nil => rfl
  | cons head _ induction => rw [List.map_cons, List.map_cons, agree _ _ head, induction]

namespace Inspection

theorem bind_of_ok {first : Inspection α} {next : α → Inspection β} {value : α}
    (done : first.result = .ok value) :
    (first >>= next) = ⟨first.sendings ++ (next value).sendings, (next value).result⟩ := by
  change first.andThen next = _
  rw [andThen, done]

theorem bind_of_error {first : Inspection α} {next : α → Inspection β} {error : CatalogError}
    (failed : first.result = .error error) : (first >>= next) = ⟨first.sendings, .error error⟩ := by
  change first.andThen next = _
  rw [andThen, failed]

theorem bind_eq_ok {first : Inspection α} {next : α → Inspection β} {value : β}
    (done : (first >>= next).result = .ok value) :
    ∃ inner, first.result = .ok inner ∧ (next inner).result = .ok value := by
  change (first.andThen next).result = .ok value at done
  cases ended : first.result with
  | error error => simp [andThen, ended] at done
  | ok inner =>
    simp only [andThen, ended] at done
    exact ⟨inner, rfl, done⟩

theorem mapError_eq_ok {ε δ : Type} {result : Except ε α} {f : ε → δ} {value : α}
    (done : result.mapError f = .ok value) : result = .ok value := by
  cases result with
  | error error => cases done
  | ok found => exact congrArg Except.ok (Except.ok.inj done)

theorem ask_eq_ok {channel : Channel} {request : Request} {context : String} {reply : Reply α}
    {value : α} (done : (ask channel request context reply).result = .ok value) :
    reply = .ok value :=
  mapError_eq_ok done

theorem each_eq_ok {read : α → Inspection β} {items : List α} {values : List β}
    (done : (each read items).result = .ok values) :
    List.Forall₂ (fun item value => (read item).result = .ok value) items values := by
  induction items generalizing values with
  | nil =>
    obtain rfl : [] = values := Except.ok.inj done
    exact .nil
  | cons item items induction =>
    obtain ⟨value, first, later⟩ := bind_eq_ok done
    obtain ⟨others, rest, ended⟩ := bind_eq_ok later
    obtain rfl : value :: others = values := Except.ok.inj ended
    exact .cons first (induction rest)

end Inspection

section
variable {describer : Dialect} {connection : Connection}

/-- A reading is that of the dialect which describer and connection share, or fails. -/
theorem readWith_induction {motive : Connection → Inspection α → Prop}
    {postgres : Postgres.Replies → Inspection α} {mysql : MySql.Replies → Inspection α}
    {sqlite : Sqlite.Replies → Inspection α}
    (ofPostgres : ∀ replies, motive (.postgres replies) (postgres replies))
    (ofMysql : ∀ replies, motive (.mysql replies) (mysql replies))
    (ofSqlite : ∀ replies, motive (.sqlite replies) (sqlite replies))
    (failed : ∀ connection error, motive connection (Inspection.fail error)) :
    motive connection (readWith describer connection postgres mysql sqlite) := by
  unfold readWith
  split
  · exact ofPostgres _
  · exact ofMysql _
  · exact ofSqlite _
  · exact failed _ _

theorem describeQuery_of_blank {stamp : Nat} {query : String}
    (blank : (Text.trimmed query).isEmpty = true) :
    describeQuery describer connection stamp query = Inspection.fail .emptyQuery :=
  if_pos blank

theorem describeQuery_of_text {stamp : Nat} {query : String}
    (text : ¬ (Text.trimmed query).isEmpty = true) :
    describeQuery describer connection stamp query = readWith describer connection
      (fun replies =>
        Postgres.describeQuery replies (temporaryName describer stamp) (Text.trimmed query))
      (fun replies =>
        MySql.describeQuery replies (temporaryName describer stamp) (Text.trimmed query))
      (fun replies =>
        Sqlite.describeQuery replies (temporaryName describer stamp) (Text.trimmed query)) :=
  if_neg text

end

end SqlMigrations.Catalog
