import Mathlib.Data.List.Basic
import Mathlib.Logic.Function.Basic

namespace SChatCore.Data.Evolution

/-! Tables that change under statements: what a statement does to the schema is
kept apart from what it does to the rows. -/

inductive Value
  | null
  | integer (value : Int)
  | real (bits : UInt64)
  | text (value : String)
  | blob (bytes : List UInt8)
  deriving DecidableEq

/-- `oneOf` is a check that the value is in a list. -/
structure Column where
  name : String
  notNull : Bool
  default : Value
  oneOf : Option (List Value)
  deriving DecidableEq

structure TableSchema where
  columns : List Column
  key : List String
  deriving DecidableEq

structure Index where
  name : String
  table : String
  columns : List String
  deriving DecidableEq

structure Schema where
  tables : List (String × TableSchema)
  indexes : List Index
  deriving DecidableEq

abbrev Row := String → Value

abbrev Content := String → List Row

structure Database where
  schema : Schema
  content : Content
  version : Nat

inductive SqlError
  | nameTaken (name : String)
  | noSuchTable (name : String)
  | noSuchColumn (name : String)
  | duplicateColumn (name : String)
  | nullDefault (name : String)
  | columnInUse (name : String)
  | notNull (table : String)
  | check (table : String)
  | unique (table : String)
  deriving DecidableEq

namespace TableSchema

def has (table : TableSchema) (column : String) : Bool :=
  table.columns.any fun other => other.name = column

def filled (table : TableSchema) (row : Row) : Bool :=
  table.columns.all fun column => !column.notNull || row column.name ≠ .null

/-- A check of a missing value passes. -/
def checked (table : TableSchema) (row : Row) : Bool :=
  table.columns.all fun column => column.oneOf.all fun values =>
    row column.name = .null || values.contains (row column.name)

/-- Two rows have the same key; a missing value equals no other. -/
def conflicts (table : TableSchema) (first second : Row) : Bool :=
  !table.key.isEmpty && table.key.all fun column =>
    first column ≠ .null && first column = second column

def accepts (table : TableSchema) : List Row → Bool
  | [] => true
  | row :: rest =>
    table.filled row && table.checked row && rest.all (fun other => !table.conflicts row other) &&
      table.accepts rest

theorem filled_of_accepts {table : TableSchema}
    (accepted : table.accepts rows = true) (mem : row ∈ rows) :
    table.filled row = true := by
  induction rows with
  | nil => cases mem
  | cons first rest ih =>
    simp only [accepts, Bool.and_eq_true] at accepted
    rcases List.mem_cons.mp mem with rfl | mem
    · exact accepted.1.1.1
    · exact ih accepted.2 mem

end TableSchema

namespace Schema

def empty : Schema := ⟨[], []⟩

def table (schema : Schema) (name : String) : Option TableSchema :=
  (schema.tables.find? fun entry => entry.1 = name).map Prod.snd

def taken (schema : Schema) (name : String) : Bool :=
  schema.tables.any (fun entry => entry.1 = name) ||
    schema.indexes.any fun index => index.name = name

def modify (schema : Schema) (name : String) (change : TableSchema → TableSchema) : Schema :=
  { schema with tables := schema.tables.map fun entry =>
      if entry.1 = name then (entry.1, change entry.2) else entry }

end Schema

def Database.valid (db : Database) : Bool :=
  db.schema.tables.all fun entry => entry.2.accepts (db.content entry.1)

inductive Change
  | createTable (name : String) (table : TableSchema)
  | addColumn (table : String) (column : Column)
  | dropColumn (table column : String)
  | createIndex (index : Index)
  deriving DecidableEq

namespace Change

def schema (schema : Schema) : Change → Except SqlError Schema
  | createTable name table =>
    if schema.taken name then .error (.nameTaken name)
    else .ok { schema with tables := schema.tables ++ [(name, table)] }
  | addColumn name column =>
    match schema.table name with
    | none => .error (.noSuchTable name)
    | some table =>
      if table.has column.name then .error (.duplicateColumn column.name)
      else if column.notNull ∧ column.default = .null then
        .error (.nullDefault column.name)
      else .ok (schema.modify name fun table =>
        { table with columns := table.columns ++ [column] })
  | dropColumn name column =>
    match schema.table name with
    | none => .error (.noSuchTable name)
    | some table =>
      if ¬ table.has column then .error (.noSuchColumn column)
      else if table.key.contains column ∨ schema.indexes.any (fun index =>
          index.table = name && index.columns.contains column) then
        .error (.columnInUse column)
      else .ok (schema.modify name fun table => { table with
        columns := table.columns.filter fun other => other.name ≠ column })
  | createIndex index =>
    if schema.taken index.name then .error (.nameTaken index.name)
    else
      match schema.table index.table with
      | none => .error (.noSuchTable index.table)
      | some table =>
        if index.columns.all table.has then
          .ok { schema with indexes := schema.indexes ++ [index] }
        else .error (.noSuchColumn index.name)

/-- A new column of old rows has its default. -/
def content (content : Content) : Change → Content
  | createTable name _ => Function.update content name []
  | addColumn name column => Function.update content name
      ((content name).map fun row =>
        Function.update row column.name column.default)
  | dropColumn _ _ => content
  | createIndex _ => content

def runSchema : List Change → Schema → Except SqlError Schema
  | [], schema => .ok schema
  | change :: rest, schema => do
    let schema ← change.schema schema
    runSchema rest schema

def runContent (changes : List Change) (start : Content) : Content :=
  changes.foldl Change.content start

def creates (name : String) : Change → Bool
  | createTable other _ => other = name
  | _ => false

def added (name : String) (changes : List Change) : List Column :=
  changes.filterMap fun
    | addColumn table column => if table = name then some column else none
    | _ => none

def patch (columns : List Column) (row : Row) : Row :=
  columns.foldl (fun row column =>
    Function.update row column.name column.default) row

theorem patch_of_fresh (fresh : ∀ column ∈ columns, column.name ≠ name) (row : Row) :
    patch columns row name = row name := by
  induction columns generalizing row with
  | nil => rfl
  | cons column rest ih =>
    refine (ih (fun other mem =>
      fresh other (List.mem_cons_of_mem _ mem)) _).trans ?_
    exact Function.update_of_ne (fresh column List.mem_cons_self).symm _ _

variable {changes : List Change} {name : String} {start : Content}

/-- Rows stay, with the new columns, in a table that is not made anew. -/
theorem runContent_of_kept (kept : changes.any (creates name) = false) :
    runContent changes start name = (start name).map (patch (added name changes)) := by
  induction changes generalizing start with
  | nil => exact (List.map_id _).symm
  | cons change rest ih =>
    rw [List.any_cons, Bool.or_eq_false_iff] at kept
    refine (ih kept.2).trans ?_
    cases change with
    | createTable other table =>
      have apart : name ≠ other := by
        rintro rfl
        exact absurd kept.1 (by simp [creates])
      rw [content, Function.update_of_ne apart]
      rfl
    | addColumn other column =>
      by_cases same : other = name
      · subst same
        have first : added other (.addColumn other column :: rest) =
            column :: added other rest := by
          simp [added]
        rw [content, Function.update_self, List.map_map, first]
        rfl
      · have skip : added name (.addColumn other column :: rest) =
            added name rest := by
          simp [added, same]
        rw [content, Function.update_of_ne (Ne.symm same), skip]
    | dropColumn other column => rfl
    | createIndex index => rfl

theorem runContent_of_untouched (kept : changes.any (creates name) = false)
    (same : added name changes = []) :
    runContent changes start name = start name := by
  rw [runContent_of_kept kept, same]
  exact List.map_id _

theorem runContent_of_empty (empty : start name = []) : runContent changes start name = [] := by
  induction changes generalizing start with
  | nil => exact empty
  | cons change rest ih =>
    refine ih ?_
    cases change with
    | createTable other table =>
      by_cases same : name = other
      · subst same
        exact Function.update_self _ _ _
      · rw [content, Function.update_of_ne same, empty]
    | addColumn other column =>
      by_cases same : name = other
      · subst same
        rw [content, Function.update_self, empty]
        rfl
      · rw [content, Function.update_of_ne same, empty]
    | dropColumn other column => exact empty
    | createIndex index => exact empty

theorem runContent_of_created (made : changes.any (creates name) = true) :
    runContent changes start name = [] := by
  induction changes generalizing start with
  | nil => cases made
  | cons change rest ih =>
    rw [List.any_cons, Bool.or_eq_true] at made
    rcases made with first | later
    · show runContent rest (change.content start) name = []
      refine runContent_of_empty ?_
      cases change with
      | createTable other table =>
        have same : other = name := of_decide_eq_true first
        rw [content, same, Function.update_self]
      | addColumn other column => cases first
      | dropColumn other column => cases first
      | createIndex index => cases first
    · exact ih later

end Change

/-- The source's columns of the rows whose `column` is `value`, as the target's
columns. -/
structure Copy where
  target : String
  columns : List (String × String)
  source : String
  column : String
  value : Value
  deriving DecidableEq

namespace TableSchema

def insertAll (table : TableSchema) (name : String) (rows : List Row) :
    List Row → Except SqlError (List Row)
  | [] => .ok rows
  | row :: rest =>
    if ¬ table.filled row then .error (.notNull name)
    else if ¬ table.checked row then .error (.check name)
    else if rows.any (fun other => table.conflicts other row) then
      .error (.unique name)
    else insertAll table name (rows ++ [row]) rest

theorem insertAll_ok_iff {table : TableSchema} :
    table.insertAll name rows new = .ok out ↔ out = rows ++ new ∧
        (∀ row ∈ new, table.filled row = true ∧ table.checked row = true) ∧
        (∀ row ∈ rows, ∀ other ∈ new, table.conflicts row other = false) ∧
        new.Pairwise fun first second => table.conflicts first second = false := by
  induction new generalizing rows with
  | nil =>
    rw [insertAll, List.append_nil, Except.ok.injEq]
    constructor
    · rintro rfl
      exact ⟨rfl, nofun, nofun, .nil⟩
    · rintro ⟨rfl, -⟩
      rfl
  | cons row rest ih =>
    rw [insertAll]
    split
    · rename_i unfilled
      refine ⟨nofun, fun right => ?_⟩
      exact absurd (right.2.1 row List.mem_cons_self).1 unfilled
    split
    · rename_i unchecked
      refine ⟨nofun, fun right => ?_⟩
      exact absurd (right.2.1 row List.mem_cons_self).2 unchecked
    split
    · rename_i clash
      refine ⟨nofun, fun right => ?_⟩
      obtain ⟨other, mem, conflict⟩ := List.any_eq_true.mp clash
      have apart := right.2.2.1 other mem row List.mem_cons_self
      rw [conflict] at apart
      cases apart
    rename_i filled checked apart
    rw [Bool.not_eq_true, List.any_eq_false] at apart
    rw [ih, List.append_assoc, List.singleton_append, List.pairwise_cons]
    refine and_congr_right fun _ => ?_
    constructor
    · rintro ⟨sound, cross, pairwise⟩
      refine ⟨?_, ?_, ?_, pairwise⟩
      · rintro other mem
        rcases List.mem_cons.mp mem with rfl | mem
        · exact ⟨not_not.mp filled, not_not.mp checked⟩
        · exact sound other mem
      · intro old mem other new
        rcases List.mem_cons.mp new with rfl | new
        · exact Bool.eq_false_iff.mpr (apart old mem)
        · exact cross old (List.mem_append_left _ mem) other new
      · intro other mem
        exact cross row (List.mem_append_right _ List.mem_cons_self) other mem
    · rintro ⟨sound, cross, first, pairwise⟩
      refine ⟨fun other mem =>
        sound other (List.mem_cons_of_mem _ mem), ?_, pairwise⟩
      intro old mem other new
      rcases List.mem_append.mp mem with mem | mem
      · exact cross old mem other (List.mem_cons_of_mem _ new)
      · rw [List.mem_singleton.mp mem]
        exact first other new

/-- The value a new row gets where none is given. -/
def defaultOf (table : TableSchema) (column : String) : Value :=
  ((table.columns.find? fun other => other.name = column).map Column.default).getD .null

end TableSchema

namespace Copy

def chosen (copy : Copy) (row : Row) : Bool := copy.value ≠ .null && row copy.column = copy.value

def written (copy : Copy) (table : TableSchema) (row : Row) : Row :=
  fun column => match copy.columns.lookup column with
    | some source => row source
    | none => table.defaultOf column

def selected (copy : Copy) (table : TableSchema) (content : Content) :
    List Row :=
  ((content copy.source).filter copy.chosen).map (copy.written table)

/-- The tables and columns that a copy names have to exist. -/
def resolve (copy : Copy) (schema : Schema) : Except SqlError TableSchema :=
  match schema.table copy.target, schema.table copy.source with
  | none, _ => .error (.noSuchTable copy.target)
  | _, none => .error (.noSuchTable copy.source)
  | some target, some source =>
    if copy.columns.all fun (into, from_) =>
        target.has into && source.has from_ then
      if source.has copy.column then .ok target
      else .error (.noSuchColumn copy.column)
    else .error (.noSuchColumn copy.target)

def exec (copy : Copy) (db : Database) : Except SqlError Database := do
  let table ← copy.resolve db.schema
  let rows ← table.insertAll copy.target (db.content copy.target) (copy.selected table db.content)
  return { db with content := Function.update db.content copy.target rows }

end Copy

inductive Statement
  | change (step : Change)
  | copy (step : Copy)
  deriving DecidableEq

def Statement.exec (db : Database) : Statement → Except SqlError Database
  | .change step => do
    let schema ← step.schema db.schema
    return { db with schema, content := step.content db.content }
  | .copy step => step.exec db

def run : List Statement → Database → Except SqlError Database
  | [], db => .ok db
  | statement :: rest, db => do
    let db ← statement.exec db
    run rest db

theorem run_append (first second : List Statement) (db : Database) :
    run (first ++ second) db = (run first db >>= run second) := by
  induction first generalizing db with
  | nil => rfl
  | cons statement rest ih =>
    show (statement.exec db >>= run (rest ++ second)) =
      ((statement.exec db >>= run rest) >>= run second)
    rw [bind_assoc]
    exact congrArg (statement.exec db >>= ·) (funext ih)

/-- A script that only changes the schema succeeds or fails by the schema
alone. -/
theorem run_changes (changed : Change.runSchema changes db.schema = .ok schema) :
    run (changes.map .change) db =
      .ok { db with schema, content := Change.runContent changes db.content } := by
  induction changes generalizing db with
  | nil =>
    cases changed
    rfl
  | cons change rest ih =>
    cases first : change.schema db.schema with
    | error failure =>
      rw [Change.runSchema, first] at changed
      cases changed
    | ok middle =>
      rw [Change.runSchema, first] at changed
      rw [List.map_cons, run, Statement.exec, first]
      exact @ih { db with
        schema := middle, content := change.content db.content } changed

theorem run_changes_copy (changed : Change.runSchema changes db.schema = .ok schema)
    (resolved : copy.resolve schema = .ok table) :
    run (changes.map .change ++ [.copy copy]) db = (table.insertAll copy.target
        (Change.runContent changes db.content copy.target)
        (copy.selected table (Change.runContent changes db.content))).map fun rows => { db with
            schema
            content := Function.update (Change.runContent changes db.content)
              copy.target rows } := by
  rw [run_append, run_changes changed]
  show (copy.exec _ >>= run []) = _
  unfold Copy.exec
  rw [resolved]
  simp only [bind, Except.bind]
  generalize Change.runContent changes db.content = content
  cases table.insertAll copy.target (content copy.target) (copy.selected table content) with
  | error failure => rfl
  | ok rows => rfl

end SChatCore.Data.Evolution
