import Mathlib.Data.List.Forall2
import Mathlib.Data.List.Nodup
import SqlMigrations.Schema.Json

namespace SqlMigrations.Schema

/-- Objects with the same fields: the second one has those of the first one in any order, each
value as `alike` allows for its name, and besides them only fields that the record does not know. -/
inductive Json.Rearranged (known : List String) (alike : String → Json → Json → Prop) :
    Json → Json → Prop where
  | object {written changed foreign arranged : Json.Fields}
      (each : List.Forall₂ (fun before after => before.1 = after.1 ∧
        alike before.1 before.2 after.2) written changed)
      (unknown : ∀ field ∈ foreign, field.1 ∉ known)
      (order : arranged.Perm (changed ++ foreign)) :
      Rearranged known alike (.object written) (.object arranged)

/-- Arrays of the same length whose items are alike in pairs. -/
inductive Json.Itemwise (alike : Json → Json → Prop) : Json → Json → Prop where
  | array {written arranged : List Json} (each : List.Forall₂ alike written arranged) :
      Itemwise alike (.array written) (.array arranged)

def Column.Rearranged : Json → Json → Prop :=
  Json.Rearranged Column.fieldNames fun _ => Eq

def Index.Rearranged : Json → Json → Prop :=
  Json.Rearranged Index.fieldNames fun _ => Eq

/-- Objects of a table, of which the second one is rearranged, and so are the objects of its columns
and of its indexes. -/
def Table.Rearranged : Json → Json → Prop :=
  Json.Rearranged Table.fieldNames fun
    | "columns" => Json.Itemwise Column.Rearranged
    | "indexes" => Json.Itemwise Index.Rearranged
    | _ => Eq

namespace Json.Fields

variable {fields : Json.Fields} {name : String} {value : Json}

@[simp] theorem get?_append (front back : Json.Fields) (name : String) :
    Fields.get? (front ++ back) name = (Fields.get? front name).or (Fields.get? back name) := by
  simp only [get?, List.find?_append, Option.map_or]

@[simp] theorem get?_cons (field : String × Json) (rest : Json.Fields) (name : String) :
    Fields.get? (field :: rest) name =
      if field.1 = name then some field.2 else Fields.get? rest name := by
  by_cases same : field.1 = name <;> simp [get?, same]

@[simp] theorem get?_nil (name : String) : Fields.get? [] name = none :=
  rfl

@[simp] theorem get?_fieldUnless (omitted : Bool) (own : String) (value : Json) (name : String) :
    Fields.get? (fieldUnless omitted own value) name =
      if own = name then (if omitted then none else some value) else none := by
  cases omitted <;> simp [fieldUnless]

theorem get?_eq_some_iff
    (single : ∀ one other, (name, one) ∈ fields → (name, other) ∈ fields → one = other) :
    fields.get? name = some value ↔ (name, value) ∈ fields := by
  have member {found : Json} (there : fields.get? name = some found) : (name, found) ∈ fields := by
    obtain ⟨field, found?, rfl⟩ := Option.map_eq_some_iff.mp there
    have same : field.1 = name := by simpa using List.find?_some found?
    exact same ▸ List.mem_of_find?_eq_some found?
  refine ⟨member, fun inside => ?_⟩
  cases there : fields.get? name with
  | none =>
    have absent := List.find?_eq_none.mp (Option.map_eq_none_iff.mp there) _ inside
    simp at absent
  | some found => exact congrArg some (single found value (member there) inside)

end Json.Fields

section
variable {known : List String} {alike : String → Json → Json → Prop} {written : Json.Fields}
  {json : Json}

open Json.Fields (get?_eq_some_iff get?_cons)

/-- A field of the record is found in the rearranged object exactly where it was written. -/
theorem Json.Rearranged.get? (rearranged : Json.Rearranged known alike (.object written) json)
    (distinct : (written.map Prod.fst).Nodup) :
    ∃ arranged : Json.Fields, json = .object arranged ∧
      ∀ name ∈ known, Option.Rel (alike name) (written.get? name) (arranged.get? name) := by
  obtain @⟨_, changed, foreign, arranged, each, unknown, order⟩ := rearranged
  refine ⟨arranged, rfl, fun name isKnown => ?_⟩
  have names : written.map Prod.fst = changed.map Prod.fst :=
    List.forall₂_eq_eq_eq ▸ List.forall₂_map_left_iff.mpr
      (List.forall₂_map_right_iff.mpr (each.imp fun _ _ both => both.1))
  have inside {found : Json} : (name, found) ∈ arranged ↔ (name, found) ∈ changed := by
    rw [order.mem_iff, List.mem_append, or_iff_left]
    exact fun member => unknown _ member isKnown
  -- A name stands for one value, so the first match is the only one and the order has no effect.
  have single (one other : Json) (first : (name, one) ∈ changed)
      (second : (name, other) ∈ changed) : one = other :=
    (Prod.mk.inj (List.inj_on_of_nodup_map (names ▸ distinct) first second rfl)).2
  have same : Json.Fields.get? arranged name = Json.Fields.get? changed name := by
    refine Option.ext fun found => ?_
    rw [get?_eq_some_iff single, ← inside, get?_eq_some_iff]
    exact fun one other first second => single one other (inside.mp first) (inside.mp second)
  rw [same]
  clear distinct names order inside single same
  induction each with
  | nil => exact .none
  | @cons before after _ _ both _ induction =>
    obtain ⟨sameName, values⟩ := both
    rw [get?_cons, get?_cons, ← sameName]
    split_ifs with isThis
    · exact .some (isThis ▸ values)
    · exact induction

theorem eq_of_rel_eq {before after : Option Json} (related : Option.Rel Eq before after) :
    before = after := by
  cases related with
  | none => rfl
  | some same => rw [same]

theorem Json.Rearranged.get?_eq
    (rearranged : Json.Rearranged known (fun _ => Eq) (.object written) json)
    (distinct : (written.map Prod.fst).Nodup) :
    ∃ arranged : Json.Fields, json = .object arranged ∧
      ∀ name ∈ known, arranged.get? name = written.get? name := by
  obtain ⟨arranged, isObject, related⟩ := rearranged.get? distinct
  refine ⟨arranged, isObject, fun name isKnown => ?_⟩
  exact (eq_of_rel_eq (related name isKnown)).symm

theorem Json.Rearranged.refl (each : ∀ field ∈ written, alike field.1 field.2 field.2) :
    Json.Rearranged known alike (.object written) (.object written) :=
  .object (List.forall₂_same.mpr fun field member => ⟨rfl, each field member⟩)
    (List.forall_mem_nil _) (by rw [List.append_nil])

end

namespace Json.Fields

variable {fields : Json.Fields} {name : String} {value : Json}

theorem required?_eq {α : Type} {read : Json → Option α} {content : α}
    (found : fields.get? name = some value) (reads : read value = some content) :
    fields.required? name read = some content := by
  rw [required?, found, Option.bind_some, reads]

theorem optional?_of_some {α : Type} {read : Json → Option α} {default content : α}
    (found : fields.get? name = some value) (reads : read value = some content) :
    fields.optional? name default read = some content := by
  rw [optional?, found]
  exact reads

/-- A field that is left out for its default reads as that. -/
theorem optional?_eq {α : Type} {read : Json → Option α} {default content : α} {omitted : Bool}
    (found : fields.get? name = if omitted then none else some value)
    (isDefault : omitted = true → content = default) (reads : read value = some content) :
    fields.optional? name default read = some content := by
  cases omitted with
  | true =>
    rw [if_pos rfl] at found
    rw [optional?, found, isDefault rfl]
  | false => exact optional?_of_some found reads

end Json.Fields

theorem list?_eq {α : Type} {read : Json → Option α} {contents : List α} {items : List Json}
    (each : List.Forall₂ (fun content item => read item = some content) contents items) :
    Json.list? read (.array items) = some contents := by
  induction each with
  | nil => rfl
  | @cons content item contents items head _ induction =>
    rw [Json.list?] at induction ⊢
    rw [List.mapM_cons, head, induction]
    rfl

theorem string?_string (value : String) : Json.string? (.string value) = some value :=
  rfl

theorem bool?_bool (value : Bool) : Json.bool? (.bool value) = some value :=
  rfl

theorem list?_stringsToJson (values : List String) :
    Json.list? Json.string? (stringsToJson values) = some values :=
  list?_eq (List.forall₂_map_right_iff.mpr (List.forall₂_same.mpr fun _ _ => rfl))

theorem size?_toNat (size : UInt32) : Json.size? (.integer size.toNat) = some size := by
  have bound : (size.toNat : Int) < UInt32.size := by exact_mod_cast size.toNat_lt_size
  rw [Json.size?, if_pos ⟨Int.natCast_nonneg _, bound⟩, Int.toNat_natCast, UInt32.ofNat_toNat]

theorem CanonicalType.ofJson?_name (type : CanonicalType) :
    CanonicalType.ofJson? (.string type.name) = some type := by
  cases type <;> rfl

theorem ColumnKey.ofJson?_name (key : ColumnKey) :
    ColumnKey.ofJson? (.string key.name) = some key := by
  cases key <;> rfl

section
variable {left right : Json.Fields}

theorem Column.ofFields?_congr
    (same : ∀ name ∈ Column.fieldNames, left.get? name = right.get? name) :
    Column.ofFields? left = Column.ofFields? right := by
  simp only [Column.fieldNames, List.forall_mem_cons] at same
  simp only [Column.ofFields?, Json.Fields.required?, Json.Fields.optional?, same]

theorem Index.ofFields?_congr
    (same : ∀ name ∈ Index.fieldNames, left.get? name = right.get? name) :
    Index.ofFields? left = Index.ofFields? right := by
  simp only [Index.fieldNames, List.forall_mem_cons] at same
  simp only [Index.ofFields?, Json.Fields.required?, Json.Fields.optional?, same]

end

open Json.Fields (required?_eq optional?_of_some optional?_eq)

theorem Column.ofFields?_toFields (column : Column) :
    Column.ofFields? column.toFields = some column := by
  have name : column.toFields.get? "name" = some (.string column.name) := by simp [toFields]
  have type : column.toFields.get? "type" = some (.string column.type) := by simp [toFields]
  have dataType : column.toFields.get? "datatype" = some (.string column.dataType) := by
    simp [toFields]
  have canonicalType : column.toFields.get? "normalized_type" =
      some (.string column.canonicalType.name) := by
    simp [toFields]
  have key : column.toFields.get? "key" =
      if column.key == .none then none else some (.string column.key.name) := by
    simp [toFields]
  have comment : column.toFields.get? "comment" = some (.string column.comment) := by
    simp [toFields]
  have size : column.toFields.get? "size" =
      if column.size == 0 then none else some (.integer column.size.toNat) := by
    simp [toFields]
  have values : column.toFields.get? "values" =
      if column.values.isEmpty then none else some (stringsToJson column.values) := by
    simp [toFields]
  rw [ofFields?, required?_eq name (string?_string _), required?_eq type (string?_string _),
    required?_eq dataType (string?_string _),
    optional?_of_some canonicalType (CanonicalType.ofJson?_name _),
    optional?_eq key (by simp) (ColumnKey.ofJson?_name _), required?_eq comment (string?_string _),
    optional?_eq size (by simp) (size?_toNat _),
    optional?_eq values (by simp) (list?_stringsToJson _)]
  rfl

theorem Index.ofFields?_toFields (index : Index) : Index.ofFields? index.toFields = some index := by
  have name : index.toFields.get? "name" = some (.string index.name) := by simp [toFields]
  have columns : index.toFields.get? "columns" = some (stringsToJson index.columns) := by
    simp [toFields]
  have primary : index.toFields.get? "primary" = some (.bool index.primary) := by simp [toFields]
  have unique : index.toFields.get? "unique" = some (.bool index.unique) := by simp [toFields]
  rw [ofFields?, optional?_of_some name (string?_string _),
    required?_eq columns (list?_stringsToJson _), optional?_of_some primary (bool?_bool _),
    optional?_of_some unique (bool?_bool _)]
  rfl

theorem Column.toFields_distinct (column : Column) : (column.toFields.map Prod.fst).Nodup := by
  unfold toFields fieldUnless
  split_ifs <;> simp

theorem Index.toFields_distinct (index : Index) : (index.toFields.map Prod.fst).Nodup := by
  simp [toFields]

theorem Table.toFields_distinct (table : Table) : (table.toFields.map Prod.fst).Nodup := by
  unfold toFields fieldUnless
  split_ifs <;> simp

theorem Column.ofJson?_rearranged {column : Column} {json : Json}
    (rearranged : Column.Rearranged column.toJson json) : Column.ofJson? json = some column := by
  obtain ⟨arranged, rfl, same⟩ := rearranged.get?_eq column.toFields_distinct
  rw [← column.ofFields?_toFields]
  exact Column.ofFields?_congr same

theorem Index.ofJson?_rearranged {index : Index} {json : Json}
    (rearranged : Index.Rearranged index.toJson json) : Index.ofJson? json = some index := by
  obtain ⟨arranged, rfl, same⟩ := rearranged.get?_eq index.toFields_distinct
  rw [← index.ofFields?_toFields]
  exact Index.ofFields?_congr same

theorem list?_itemwise {α : Type} {write : α → Json} {read : Json → Option α}
    {alike : Json → Json → Prop} (reads : ∀ content json, alike (write content) json →
      read json = some content) {contents : List α} {json : Json}
    (itemwise : Json.Itemwise alike (.array (contents.map write)) json) :
    Json.list? read json = some contents := by
  obtain ⟨each⟩ := itemwise
  exact list?_eq ((List.forall₂_map_left_iff.mp each).imp reads)

theorem Json.Fields.optional?_of_rel {α : Type} {alike : Json → Json → Prop}
    {read : Json → Option α} {fields : Json.Fields} {name : String} {value : Json}
    {default content : α} {omitted : Bool}
    (related : Option.Rel alike (if omitted then none else some value) (fields.get? name))
    (isDefault : omitted = true → content = default)
    (reads : ∀ other, alike value other → read other = some content) :
    fields.optional? name default read = some content := by
  unfold optional?
  generalize fields.get? name = found at related
  cases omitted with
  | true =>
    cases related
    exact congrArg some (isDefault rfl).symm
  | false =>
    cases related with
    | some values => exact reads _ values

theorem Table.ofJson?_rearranged {table : Table} {json : Json}
    (rearranged : Table.Rearranged table.toJson json) : Table.ofJson? json = some table := by
  obtain ⟨arranged, rfl, related⟩ := rearranged.get? table.toFields_distinct
  have name : table.toFields.get? "name" = some (.string table.name) := by simp [toFields]
  have comment : table.toFields.get? "comment" = some (.string table.comment) := by simp [toFields]
  -- The columns are written even where there are none; only the indexes can be left out.
  have columns : table.toFields.get? "columns" =
      if false then none else some (.array (table.columns.map Column.toJson)) := by
    simp [toFields]
  have indexes : table.toFields.get? "indexes" =
      if table.indexes.isEmpty then none else some (.array (table.indexes.map Index.toJson)) := by
    simp [toFields]
  simp only [fieldNames, List.forall_mem_cons] at related
  rw [name, comment, columns, indexes] at related
  obtain ⟨sameName, sameComment, alikeColumns, alikeIndexes, -⟩ := related
  change Table.ofFields? arranged = some table
  rw [ofFields?, required?_eq (eq_of_rel_eq sameName).symm (string?_string _),
    required?_eq (eq_of_rel_eq sameComment).symm (string?_string _),
    Json.Fields.optional?_of_rel alikeColumns (by simp)
      fun _ => list?_itemwise fun _ _ => Column.ofJson?_rearranged,
    Json.Fields.optional?_of_rel alikeIndexes (by simp)
      fun _ => list?_itemwise fun _ _ => Index.ofJson?_rearranged]
  rfl

theorem Json.Itemwise.refl {alike : Json → Json → Prop} {items : List Json}
    (each : ∀ item ∈ items, alike item item) : Json.Itemwise alike (.array items) (.array items) :=
  .array (List.forall₂_same.mpr each)

theorem Column.rearranged_refl (column : Column) :
    Column.Rearranged column.toJson column.toJson :=
  Json.Rearranged.refl fun _ _ => rfl

theorem Index.rearranged_refl (index : Index) : Index.Rearranged index.toJson index.toJson :=
  Json.Rearranged.refl fun _ _ => rfl

theorem mem_fieldUnless {omitted : Bool} {name : String} {value : Json} {field : String × Json} :
    field ∈ fieldUnless omitted name value ↔ omitted = false ∧ field = (name, value) := by
  cases omitted <;> simp [fieldUnless]

theorem Table.rearranged_refl (table : Table) : Table.Rearranged table.toJson table.toJson := by
  refine Json.Rearranged.refl fun field member => ?_
  rw [toFields, List.mem_append, mem_fieldUnless] at member
  simp only [List.mem_cons, List.not_mem_nil, or_false] at member
  obtain (rfl | rfl | rfl) | ⟨-, rfl⟩ := member
  · rfl
  · rfl
  · exact Json.Itemwise.refl (List.forall_mem_map.mpr fun column _ => column.rearranged_refl)
  · exact Json.Itemwise.refl (List.forall_mem_map.mpr fun index _ => index.rearranged_refl)

/-- What is written for a table reads as the table, also after the fields of the object, of its
columns and of its indexes were permuted and foreign ones were added. -/
theorem table_reads_back (table : Table) :
    Table.ofJson? table.toJson = some table ∧
      ∀ json, Table.Rearranged table.toJson json → Table.ofJson? json = some table :=
  ⟨Table.ofJson?_rearranged table.rearranged_refl, fun _ => Table.ofJson?_rearranged⟩

/-- An enumeration column, which leaves out its key and its size. -/
def mood : Column :=
  ⟨"mood", "enum('sad')", "enum", .enum, .none, "", 0, ["sad"]⟩

/-- The object of that column, from its last field to its first one, and a foreign field. -/
def moodReversed : Json :=
  .object (List.reverse (mood.toFields ++ [("nullable", .bool true)]))

/-- The object of a table of that column, rearranged in the same way inside and out. -/
def moodsReversed : Json :=
  .object (List.reverse ([("name", .string "moods"), ("comment", .string ""),
    ("columns", .array [moodReversed])] ++ [("owner", .null)]))

theorem moods_read_back :
    Table.Rearranged (Table.toJson ⟨"moods", "", [mood], []⟩) moodsReversed ∧
      Table.ofJson? moodsReversed = some ⟨"moods", "", [mood], []⟩ := by
  have column : Column.Rearranged mood.toJson moodReversed :=
    .object (List.forall₂_same.mpr fun _ _ => ⟨rfl, rfl⟩) (by simp [Column.fieldNames])
      (List.reverse_perm (mood.toFields ++ [("nullable", .bool true)]))
  have columns : Json.Itemwise Column.Rearranged (.array [mood.toJson]) (.array [moodReversed]) :=
    .array (.cons column .nil)
  have table : Table.Rearranged (Table.toJson ⟨"moods", "", [mood], []⟩) moodsReversed :=
    @Json.Rearranged.object _ _ _
      [("name", .string "moods"), ("comment", .string ""), ("columns", .array [moodReversed])]
      [("owner", .null)] _ (.cons ⟨rfl, rfl⟩ (.cons ⟨rfl, rfl⟩ (.cons ⟨rfl, columns⟩ .nil)))
      (by simp [Table.fieldNames]) (List.reverse_perm (_ ++ _))
  exact ⟨table, (table_reads_back _).2 _ table⟩

end SqlMigrations.Schema
