import Mathlib.Data.List.Sort
import MultiAgents.Containers.OrderedMap

/-!
# Relational tables

A table has columns and rows, and its key is the column `id`.  A statement that
names a column the table does not have is rejected and changes nothing, and so is
an insertion that leaves out a column which may not be null, repeats a key or
refers to a row that does not exist.
-/

namespace Relational

open Containers

variable {α : Type}

/-- What a statement writes: a value, null among them, or the time at which it is executed. -/
inductive Term (α : Type) where
  | value (content : Option α)
  | now
  deriving DecidableEq

def Term.eval (time : α) : Term α → Option α
  | .value content => content
  | .now => some time

structure Column (α : Type) where
  name : String
  notNull : Bool := false
  fallback : Term α := .value none
  -- The table whose key the column refers to.
  references : Option String := none
  deriving DecidableEq

abbrev Row (α : Type) := String → Option α

structure Table (α : Type) where
  columns : List (Column α)
  rows : List (Row α) := []

abbrev Database (α : Type) := OrderedMap String (Table α)

inductive Statement (α : Type) where
  | insert (table : String) (values : List (String × Term α))
  | update (table : String) (changes : List (String × Term α)) (column : String)
    (value : Option α)
  | select (table : String) (column : String) (value : α) (order : List String)

namespace Statement

def table : Statement α → String
  | .insert table _ | .update table _ _ _ | .select table _ _ _ => table

def columns : Statement α → List String
  | .insert _ values => values.map Prod.fst
  | .update _ changes column _ => changes.map Prod.fst ++ [column]
  | .select _ column _ order => column :: order

end Statement

namespace Table

variable (table : Table α)

def column? (name : String) : Option (Column α) := table.columns.find? fun column =>
  column.name == name

def newRow (time : α) (values : List (String × Term α)) : Row α := fun name =>
  match values.lookup name with
  | some term => term.eval time
  | none => (table.column? name).bind fun column => column.fallback.eval time

/-- A column without the value it needs. -/
def lacks (row : Row α) : Bool :=
  table.columns.any fun column => column.notNull && (row column.name).isNone

end Table

def Row.change (time : α) (changes : List (String × Term α)) (row : Row α) : Row α := fun name =>
  match changes.lookup name with
  | some term => term.eval time
  | none => row name

theorem Table.newRow_given (table : Table α) {time : α} {values : List (String × Term α)}
    {column : String} {content : Option α} (given : values.lookup column = some (.value content)) :
    table.newRow time values column = content := by
  unfold Table.newRow
  rw [given]
  rfl

theorem Row.change_of_lookup {time : α} {changes : List (String × Term α)} {column : String}
    (unchanged : changes.lookup column = none) (row : Row α) :
    row.change time changes column = row column := by
  unfold Row.change
  rw [unchanged]

variable [DecidableEq α]

def Table.hasKey (table : Table α) (key : Option α) : Bool :=
  table.rows.any fun row => row "id" == key

/-- A reference to a row that does not exist. -/
def Database.dangles (database : Database α) (table : Table α) (row : Row α) : Bool :=
  table.columns.any fun column =>
    match column.references, row column.name with
    | some target, some value =>
        !(database.get? target).any fun table => table.hasKey (some value)
    | _, _ => false

/-- Rows in the order of their columns; a row without a value comes last. -/
def inOrder (le : α → α → Bool) : List String → Row α → Row α → Bool
  | [], _, _ => true
  | name :: rest, first, second =>
      match first name, second name with
      | some left, some right =>
          if left = right then inOrder le rest first second else le left right
      | none, some _ => false
      | some _, none => true
      | none, none => inOrder le rest first second

section Execute

-- The order of the values, and the time of the execution.
variable (le : α → α → Bool) (time : α) (database : Database α)

def apply (table : Table α) : Statement α → Except String (List (Row α)) × Database α
  | .insert name values =>
      let row := table.newRow time values
      if table.lacks row then (.error "null value violates not-null constraint", database)
      else if table.hasKey (row "id") then
        (.error "duplicate key value violates unique constraint", database)
      else if database.dangles table row then
        (.error "insert violates foreign key constraint", database)
      else (.ok [], database.set name { table with rows := table.rows ++ [row] })
  | .update name changes column value =>
      (.ok [], database.set name
        { table with
          rows := table.rows.map fun row =>
            if value.isSome ∧ row column = value then row.change time changes else row })
  | .select _ column value order =>
      (.ok ((table.rows.filter fun row => row column = some value).mergeSort
        (inOrder le order)), database)

def execute (statement : Statement α) : Except String (List (Row α)) × Database α :=
  match database.get? statement.table with
  | none => (.error s!"relation {statement.table} does not exist", database)
  | some table =>
      match statement.columns.find? fun name => (table.column? name).isNone with
      | some name =>
          (.error s!"column {name} of relation {statement.table} does not exist", database)
      | none => apply le time database table statement

end Execute

section Rejected

variable {le : α → α → Bool} {time : α} {database : Database α} {statement : Statement α}
  {table : Table α}

/-- A statement that names an unknown column is rejected and changes nothing. -/
theorem execute_unknown_column (found : database.get? statement.table = some table)
    {name : String} (named : name ∈ statement.columns) (unknown : table.column? name = none) :
    ∃ error, execute le time database statement = (.error error, database) := by
  unfold execute
  rw [found]
  dsimp only
  cases missing : statement.columns.find? fun name => (table.column? name).isNone with
  | some other => exact ⟨_, rfl⟩
  | none =>
      have known := List.find?_eq_none.mp missing name named
      simp [unknown] at known

/-- What a statement can do: be rejected, read, add a row with a new key, or change rows. -/
theorem execute_cases (le : α → α → Bool) (time : α) (database : Database α)
    (statement : Statement α) :
    (∃ error, execute le time database statement = (.error error, database)) ∨
    (∃ name column value order rows, statement = .select name column value order ∧
      (∀ row ∈ rows, row column = some value) ∧
      execute le time database statement = (.ok rows, database)) ∨
    (∃ name values table, statement = .insert name values ∧ database.get? name = some table ∧
      table.hasKey (table.newRow time values "id") = false ∧
      (execute le time database statement).2 =
        database.set name { table with rows := table.rows ++ [table.newRow time values] }) ∨
    ∃ name changes column value table, statement = .update name changes column value ∧
      database.get? name = some table ∧
      (execute le time database statement).2 = database.set name
        { table with
          rows := table.rows.map fun row =>
            if value.isSome ∧ row column = value then row.change time changes else row } := by
  unfold execute
  cases found : database.get? statement.table with
  | none => exact .inl ⟨_, rfl⟩
  | some table =>
      dsimp only
      split
      · exact .inl ⟨_, rfl⟩
      · cases statement with
        | select name column value order =>
            refine .inr (.inl ⟨name, column, value, order, _, rfl, ?_, rfl⟩)
            intro row membership
            simpa using (List.mem_filter.mp (List.mem_mergeSort.mp membership)).2
        | update name changes column value =>
            exact .inr (.inr (.inr ⟨name, changes, column, value, table, rfl, found, rfl⟩))
        | insert name values =>
            unfold apply
            dsimp only
            by_cases lacking : table.lacks (table.newRow time values) = true
            · exact .inl ⟨_, if_pos lacking⟩
            · rw [if_neg lacking]
              by_cases repeated : table.hasKey (table.newRow time values "id") = true
              · exact .inl ⟨_, if_pos repeated⟩
              · rw [if_neg repeated]
                by_cases dangling : database.dangles table (table.newRow time values) = true
                · exact .inl ⟨_, if_pos dangling⟩
                · refine .inr (.inr (.inl ⟨name, values, table, rfl, found, ?_, ?_⟩))
                  · simpa using repeated
                  · rw [if_neg dangling]

end Rejected

/-- The columns of a table stay what they are. -/
theorem execute_columns (le : α → α → Bool) (time : α) (database : Database α)
    (statement : Statement α) (name : String) :
    ((execute le time database statement).2.get? name).map Table.columns =
      (database.get? name).map Table.columns := by
  rcases execute_cases le time database statement with ⟨error, same⟩ |
    ⟨_, _, _, _, rows, _, _, same⟩ | ⟨target, values, table, _, found, _, same⟩ |
    ⟨target, changes, column, value, table, _, found, same⟩
  · rw [same]
  · rw [same]
  · rw [same, OrderedMap.get?_set]
    split
    · rename_i here
      rw [here, found]
      rfl
    · rfl
  · rw [same, OrderedMap.get?_set]
    split
    · rename_i here
      rw [here, found]
      rfl
    · rfl

/-- The row with the key is there and belongs to the owner, whom the column `tag` names. -/
def Database.Owned (database : Database α) (tag : String) (owner : α) (name : String) (key : α) :
    Prop :=
  ∃ table, database.get? name = some table ∧ table.hasKey (some key) ∧
    ∀ row ∈ table.rows, row "id" = some key → row tag = some owner

def Database.rowsOf (database : Database α) (tag : String) (owner : α) (name : String) :
    List (Row α) :=
  ((database.get? name).elim [] Table.rows).filter fun row => row tag = some owner

/-- No row gets another key or another owner. -/
def Statement.Keeps (tag : String) : Statement α → Prop
  | .update _ changes _ _ => changes.lookup "id" = none ∧ changes.lookup tag = none
  | _ => True

def Statement.Within (database : Database α) (tag : String) (owner : α) : Statement α → Prop
  | .insert _ values => values.lookup tag = some (.value (some owner))
  | .update name changes column value =>
      column = "id" ∧ changes.lookup tag = none ∧
        ∀ key, value = some key → database.Owned tag owner name key
  | .select _ _ _ _ => True

section Owned

variable {le : α → α → Bool} {time : α} {database : Database α} {statement : Statement α}
  {tag : String} {owner other key : α} {name : String}

/-- A change that leaves what is looked for alone leaves the search alone. -/
theorem filter_map_of_fixed {β : Type} {items : List β} {change : β → β} {test : β → Bool}
    (same : ∀ item ∈ items, test (change item) = test item)
    (fixed : ∀ item ∈ items, test item = true → change item = item) :
    (items.map change).filter test = items.filter test := by
  induction items with
  | nil => rfl
  | cons item rest ih =>
      have first := same item List.mem_cons_self
      have unchanged := fixed item List.mem_cons_self
      rw [List.map_cons, List.filter_cons, List.filter_cons, first,
        ih (fun item membership => same item (List.mem_cons_of_mem _ membership))
          fun item membership => fixed item (List.mem_cons_of_mem _ membership)]
      split
      · rename_i found
        rw [unchanged found]
      · rfl

theorem Table.hasKey_iff {table : Table α} {key : Option α} :
    table.hasKey key = true ↔ ∃ row ∈ table.rows, row "id" = key := by
  unfold Table.hasKey
  simp

theorem Database.Owned.execute (owned : database.Owned tag owner name key)
    (keeps : statement.Keeps tag) :
    (execute le time database statement).2.Owned tag owner name key := by
  obtain ⟨held, heldFound, present, right⟩ := owned
  have stays : database.Owned tag owner name key := ⟨held, heldFound, present, right⟩
  rcases execute_cases le time database statement with ⟨error, same⟩ |
    ⟨_, _, _, _, rows, _, _, same⟩ | ⟨target, values, table, rfl, found, new, same⟩ |
    ⟨target, changes, column, value, table, rfl, found, same⟩
  · rw [same]
    exact stays
  · rw [same]
    exact stays
  · rw [same]
    by_cases here : name = target
    · subst here
      obtain rfl : table = held := Option.some.inj (found.symm.trans heldFound)
      refine ⟨_, by rw [OrderedMap.get?_set, if_pos rfl], ?_, fun row membership identified => ?_⟩
      · rw [Table.hasKey_iff] at present ⊢
        obtain ⟨row, membership, identified⟩ := present
        exact ⟨row, List.mem_append_left _ membership, identified⟩
      · rcases List.mem_append.mp membership with before | added
        · exact right row before identified
        · obtain rfl := List.mem_singleton.mp added
          rw [identified, present] at new
          cases new
    · exact ⟨held, by rw [OrderedMap.get?_set, if_neg here]; exact heldFound, present, right⟩
  · rw [same]
    by_cases here : name = target
    · subst here
      obtain rfl : table = held := Option.some.inj (found.symm.trans heldFound)
      have kept (row : Row α) (column' : String) (unchanged : changes.lookup column' = none) :
          (if value.isSome ∧ row column = value then row.change time changes else row) column' =
            row column' := by
        split
        · exact Row.change_of_lookup unchanged row
        · rfl
      refine ⟨_, by rw [OrderedMap.get?_set, if_pos rfl], ?_, fun row membership identified => ?_⟩
      · rw [Table.hasKey_iff] at present ⊢
        obtain ⟨row, membership, identified⟩ := present
        exact ⟨_, List.mem_map_of_mem membership, (kept row "id" keeps.1).trans identified⟩
      · obtain ⟨source, before, rfl⟩ := List.mem_map.mp membership
        rw [kept source "id" keeps.1] at identified
        rw [kept source tag keeps.2]
        exact right source before identified
    · exact ⟨held, by rw [OrderedMap.get?_set, if_neg here]; exact heldFound, present, right⟩

/-- A row that was inserted for an owner is owned. -/
theorem execute_insert_owned {values : List (String × Term α)} {rows : List (Row α)}
    (identified : values.lookup "id" = some (.value (some key)))
    (tagged : values.lookup tag = some (.value (some owner)))
    (accepted : (execute le time database (.insert name values)).1 = .ok rows) :
    (execute le time database (.insert name values)).2.Owned tag owner name key := by
  rcases execute_cases le time database (.insert name values) with ⟨error, same⟩ |
    ⟨_, _, _, _, _, same, _⟩ | ⟨_, _, table, same, found, new, after⟩ |
    ⟨_, _, _, _, _, same, _⟩
  · rw [same] at accepted
    cases accepted
  · cases same
  · cases same
    rw [Table.newRow_given table identified] at new
    rw [after]
    refine ⟨_, by rw [OrderedMap.get?_set, if_pos rfl], ?_, fun row membership named => ?_⟩
    · rw [Table.hasKey_iff]
      exact ⟨_, List.mem_append_right _ (List.mem_singleton.mpr rfl),
        Table.newRow_given table identified⟩
    · rcases List.mem_append.mp membership with before | added
      · rw [Table.hasKey_iff.mpr ⟨row, before, named⟩] at new
        cases new
      · obtain rfl := List.mem_singleton.mp added
        exact Table.newRow_given table tagged
  · cases same

/-- The rows of another owner stay as they are. -/
theorem rowsOf_execute (within : statement.Within database tag owner) (different : other ≠ owner)
    (name : String) :
    (execute le time database statement).2.rowsOf tag other name =
      database.rowsOf tag other name := by
  rcases execute_cases le time database statement with ⟨error, same⟩ |
    ⟨_, _, _, _, rows, _, _, same⟩ | ⟨target, values, table, rfl, found, new, same⟩ |
    ⟨target, changes, column, value, table, rfl, found, same⟩
  · rw [same]
  · rw [same]
  · rw [same]
    unfold Database.rowsOf
    rw [OrderedMap.get?_set]
    split
    · rename_i here
      rw [here, found]
      have absent : table.newRow time values tag ≠ some other := by
        rw [Table.newRow_given table within]
        simpa using different.symm
      simp [List.filter_append, absent]
    · rfl
  · rw [same]
    obtain ⟨rfl, unchanged, owned⟩ := within
    unfold Database.rowsOf
    rw [OrderedMap.get?_set]
    split
    · rename_i here
      rw [here, found]
      refine filter_map_of_fixed (fun row _ => ?_) fun row membership ofOther => ?_
      · split
        · rw [Row.change_of_lookup unchanged]
        · rfl
      · rw [if_neg]
        rintro ⟨given, identified⟩
        obtain ⟨key, rfl⟩ := Option.isSome_iff_exists.mp given
        obtain ⟨held, heldFound, _, right⟩ := owned key rfl
        obtain rfl : table = held := Option.some.inj (found.symm.trans heldFound)
        rw [right row membership identified] at ofOther
        exact different (by simpa using (of_decide_eq_true ofOther).symm)
    · rfl

end Owned

end Relational
