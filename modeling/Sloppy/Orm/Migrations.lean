import Mathlib.Data.List.Sort
import Mathlib.Order.WellFoundedSet

/-! # Migrations

The statements `migrationScript` and `migrationDiff` make of tables, and the order in which
`orderMigrationTables` puts them. Names `N` are ordered as `localeCompare` orders them. A column
keeps what it references; `D` is what else defines it. Index statements are left out.
-/

namespace Sloppy.Orm

open List Relation

inductive Provider
  | sqlite
  | postgres
  | sqlserver
  deriving DecidableEq

structure Column (N D : Type) where
  name : N
  definition : D
  reference : Option (N × N)
  deriving DecidableEq

structure Table (N D : Type) where
  name : N
  columns : List (Column N D)
  deriving DecidableEq

inductive Statement (N D : Type)
  | createTable (table : Table N D) (inlineReferences : Bool)
  | addForeignKey (table : N) (column : Column N D)
  | addColumn (table : N) (column : Column N D)

inductive Change (N : Type)
  | dropTable (table : N)
  | dropColumn (table column : N)
  | alterColumn (table column : N)

variable {N D : Type}

def Column.foreignTable (column : Column N D) : Option N := column.reference.map Prod.fst

def Statement.creates : Statement N D → Set N
  | .createTable table _ => {table.name}
  | _ => ∅

def Statement.references : Statement N D → List N
  | .createTable table inlineReferences => if inlineReferences then table.columns.filterMap Column.foreignTable else []
  | .addForeignKey _ column | .addColumn _ column => column.foreignTable.toList

/-- Each foreign key names a table that exists when its statement is reached. -/
def Resolves (existing : Set N) : List (Statement N D) → Prop
  | [] => True
  | statement :: rest =>
    (∀ name ∈ statement.references, name ∈ existing) ∧ Resolves (existing ∪ statement.creates) rest

def deferredForeignKeySql (table : Table N D) : List (Statement N D) :=
  (table.columns.filter (·.reference.isSome)).map (.addForeignKey table.name)

variable {existing : Set N} {first rest : List (Statement N D)}

lemma resolves_alter (hCreates : ∀ statement ∈ first, statement.creates = ∅) : Resolves existing (first ++ rest) ↔
    (∀ statement ∈ first, ∀ name ∈ statement.references, name ∈ existing) ∧ Resolves existing rest := by
  induction first with
  | nil => simp
  | cons statement first ih =>
    obtain ⟨hNone, hFirst⟩ := forall_mem_cons.mp hCreates
    rw [cons_append, Resolves, hNone, Set.union_empty, ih hFirst, forall_mem_cons, and_assoc]

lemma resolves_create (tables : List (Table N D)) : Resolves existing (tables.map (.createTable · false) ++ rest) ↔
    Resolves (existing ∪ {name | name ∈ tables.map Table.name}) rest := by
  induction tables generalizing existing with
  | nil => simp
  | cons table tables ih =>
    rw [map_cons, cons_append, Resolves, and_iff_right (fun _ h => (by cases h)), ih, Set.union_assoc, map_cons]
    simp only [mem_cons]
    rfl

variable [LinearOrder N]

def tableDependsOn (table : Table N D) (target : N) : Bool :=
  (table.columns.filterMap Column.foreignTable).any fun foreignTable =>
    foreignTable == target && table.name != target

/-- A table never depends on its own name, so it need not be left out here. -/
def blocked (remaining : List (Table N D)) (candidate : Table N D) : Bool :=
  remaining.any fun other => tableDependsOn candidate other.name

def DependsIn (tables : List (Table N D)) (table target : Table N D) : Prop :=
  table ∈ tables ∧ target ∈ tables ∧ tableDependsOn table target.name = true

variable {tables remaining : List (Table N D)}

lemma exists_unblocked (hAcyclic : ∀ table, ¬ TransGen (DependsIn tables) table table) (hSub : remaining ⊆ tables)
    (hSome : remaining ≠ []) : ∃ candidate ∈ remaining, blocked remaining candidate = false := by
  have : IsStrictOrder (Table N D) (Function.swap (TransGen (DependsIn tables))) :=
    { irrefl := hAcyclic, trans := fun _ _ _ hLeft hRight => hRight.trans hLeft }
  have hFounded := (finite_toSet remaining).wellFoundedOn (r := Function.swap (TransGen (DependsIn tables)))
  obtain ⟨first, hFirst⟩ := exists_mem_of_ne_nil _ hSome
  obtain ⟨⟨candidate, hMem⟩, -, hLeast⟩ := hFounded.has_min Set.univ ⟨⟨first, hFirst⟩, trivial⟩
  refine ⟨candidate, hMem, any_eq_false.mpr fun other hOther hDepends => ?_⟩
  exact hLeast ⟨other, hOther⟩ trivial (.single ⟨hSub hMem, hSub hOther, hDepends⟩)

/-- The entry of a snapshot's map with a name; a later entry replaces an earlier one. -/
def lastNamed {α : Type} (nameOf : α → N) (entries : List α) (name : N) : Option α :=
  entries.reverse.find? fun entry => nameOf entry == name

/-- A snapshot's map made from the entries, which a snapshot sorts by name. -/
def byName {α : Type} (nameOf : α → N) (entries : List α) : List α :=
  ((entries.map nameOf).dedup.insertionSort (· ≤ ·)).filterMap (lastNamed nameOf entries)

section Maps

variable {α : Type} {nameOf : α → N} {entries : List α} {entry : α} {name : N}

lemma lastNamed_mem (h : lastNamed nameOf entries name = some entry) : entry ∈ entries ∧ nameOf entry = name :=
  ⟨mem_reverse.mp (mem_of_find?_eq_some h), by simpa using find?_some h⟩

lemma lastNamed_of_mem (hNames : (entries.map nameOf).Nodup) (h : entry ∈ entries) :
    lastNamed nameOf entries (nameOf entry) = some entry := by
  cases hFound : lastNamed nameOf entries (nameOf entry) with
  | none => simpa using find?_eq_none.mp hFound entry (mem_reverse.mpr h)
  | some found => rw [inj_on_of_nodup_map hNames (lastNamed_mem hFound).1 h (lastNamed_mem hFound).2]

lemma byName_subset : byName nameOf entries ⊆ entries := by
  intro entry h
  obtain ⟨name, -, hFound⟩ := mem_filterMap.mp h
  exact (lastNamed_mem hFound).1

lemma mem_byName (hNames : (entries.map nameOf).Nodup) : entry ∈ byName nameOf entries ↔ entry ∈ entries := by
  refine ⟨fun h => byName_subset h, fun h => ?_⟩
  refine mem_filterMap.mpr ⟨nameOf entry, ?_, lastNamed_of_mem hNames h⟩
  rw [mem_insertionSort, mem_dedup]
  exact mem_map_of_mem h

lemma byName_sorted : (byName nameOf entries).Pairwise (nameOf · < nameOf ·) := by
  have hNodup := (perm_insertionSort (· ≤ ·) _).nodup_iff.mpr (nodup_dedup (entries.map nameOf))
  have hSorted := (pairwise_insertionSort (· ≤ ·) (entries.map nameOf).dedup).and hNodup
  refine pairwise_filterMap.mpr (hSorted.imp fun {left right} h found hFound other hOther => ?_)
  rw [(lastNamed_mem hFound).2, (lastNamed_mem hOther).2]
  exact lt_of_le_of_ne h.1 h.2

end Maps

def snapshotTable (snapshot : List (Table N D)) (name : N) : Option (Table N D) := lastNamed Table.name snapshot name

def addedColumns (old table : Table N D) : List (Column N D) :=
  (byName Column.name table.columns).filter fun column => !old.columns.any fun other => other.name == column.name

/-- The columns a diff adds for a table. -/
def newColumns (previous : List (Table N D)) (table : Table N D) : List (Column N D) :=
  (snapshotTable previous table.name).elim table.columns (addedColumns · table)

lemma newColumns_subset (previous : List (Table N D)) (table : Table N D) :
    newColumns previous table ⊆ table.columns := by
  rw [newColumns]
  cases snapshotTable previous table.name with
  | none => exact Subset.refl _
  | some old =>
    intro column hColumn
    exact byName_subset (mem_of_mem_filter hColumn)

variable [DecidableEq D]

def orderLoop : Nat → List (Table N D) → List (Table N D)
  | 0, remaining => remaining
  | fuel + 1, remaining =>
    match remaining.find? fun candidate => !blocked remaining candidate with
    | none => remaining
    | some candidate => candidate :: orderLoop fuel (remaining.erase candidate)

def orderMigrationTables (tables : List (Table N D)) : List (Table N D) := orderLoop tables.length tables

lemma orderLoop_perm (fuel : Nat) (remaining : List (Table N D)) : (orderLoop fuel remaining).Perm remaining := by
  induction fuel generalizing remaining with
  | zero => exact .refl _
  | succ fuel ih =>
    rw [orderLoop]
    split
    · exact .refl _
    next candidate hFind =>
      exact ((ih _).cons candidate).trans (perm_cons_erase (mem_of_find?_eq_some hFind)).symm

lemma orderLoop_pairwise (hAcyclic : ∀ table, ¬ TransGen (DependsIn tables) table table) (fuel : Nat)
    (hSub : remaining ⊆ tables) (hFuel : remaining.length ≤ fuel) :
    (orderLoop fuel remaining).Pairwise fun earlier later => tableDependsOn earlier later.name = false := by
  induction fuel generalizing remaining with
  | zero =>
    obtain rfl := length_eq_zero_iff.mp (Nat.le_zero.mp hFuel)
    exact .nil
  | succ fuel ih =>
    rw [orderLoop]
    split
    next hNone =>
      by_cases hSome : remaining = []
      · subst hSome
        exact .nil
      · obtain ⟨candidate, hMem, hFree⟩ := exists_unblocked hAcyclic hSub hSome
        simpa [hFree] using find?_eq_none.mp hNone candidate hMem
    next candidate hFind =>
      have hMem := mem_of_find?_eq_some hFind
      refine .cons (fun later hLater => ?_) (ih (fun _ hLater => hSub (mem_of_mem_erase hLater)) ?_)
      · have hFree : blocked remaining candidate = false := by simpa using find?_some hFind
        rw [blocked, any_eq_false] at hFree
        simpa using hFree later (mem_of_mem_erase ((orderLoop_perm _ _).mem_iff.mp hLater))
      · rw [length_erase_of_mem hMem]
        omega

def migrationScript (provider : Provider) (tables : List (Table N D)) : List (Statement N D) :=
  let tableList := orderMigrationTables tables
  let inlineReferences := provider == .sqlite
  tableList.map (.createTable · inlineReferences) ++
    if inlineReferences then [] else tableList.flatMap deferredForeignKeySql

def tableStatements (provider : Provider) (previous : List (Table N D)) (table : Table N D) : List (Statement N D) :=
  (snapshotTable previous table.name).elim (migrationScript provider [table]) fun old =>
    (addedColumns old table).map (.addColumn table.name)

def columnChange (old table : Table N D) (name : N) : Option (Change N) :=
  (lastNamed Column.name table.columns name).elim (some (.dropColumn table.name name)) fun column =>
    if lastNamed Column.name old.columns name = some column then none else some (.alterColumn table.name name)

def destructiveChanges (previous tables : List (Table N D)) : List (Change N) :=
  ((previous.map Table.name).eraseDups.filter fun name => !tables.any fun table => table.name == name).map .dropTable ++
    tables.flatMap fun table => (snapshotTable previous table.name).elim [] fun old =>
      (old.columns.map Column.name).eraseDups.filterMap (columnChange old table)

def migrationDiff (provider : Provider) (previous tables : List (Table N D)) (allowDestructive : Bool) :
    Except (List (Change N)) (List (Statement N D)) :=
  let next := byName Table.name tables
  let changes := destructiveChanges previous next
  if !changes.isEmpty && !allowDestructive then .error changes
  else .ok (next.flatMap (tableStatements provider previous))

section

variable {provider : Provider} (hProvider : provider ≠ .sqlite)
include hProvider

lemma script_resolves (tables : List (Table N D)) : Resolves existing (migrationScript provider tables ++ rest) ↔
    (∀ table ∈ tables, ∀ column ∈ table.columns, ∀ name ∈ column.foreignTable,
        name ∈ existing ∪ {name | name ∈ tables.map Table.name}) ∧
      Resolves (existing ∪ {name | name ∈ tables.map Table.name}) rest := by
  have hPerm := orderLoop_perm tables.length tables
  rw [migrationScript, beq_false_of_ne hProvider, if_neg Bool.false_ne_true, append_assoc, resolves_create,
    resolves_alter, orderMigrationTables]
  · simp only [forall_mem_flatMap, deferredForeignKeySql, forall_mem_map, mem_filter, hPerm.mem_iff,
      (hPerm.map _).mem_iff, Statement.references, and_imp, Option.mem_toList]
    refine and_congr_left fun _ => forall₄_congr fun table _ column _ =>
      ⟨fun h name hName => h ?_ name hName, fun h _ => h⟩
    obtain ⟨target, hTarget, -⟩ := Option.map_eq_some_iff.mp hName
    rw [hTarget, Option.isSome_some]
  · simp only [forall_mem_flatMap, deferredForeignKeySql, forall_mem_map, Statement.creates, implies_true]

variable {previous : List (Table N D)} {table : Table N D}

lemma tableStatements_resolves (hKnown : ∀ old ∈ previous, old.name ∈ existing) :
    Resolves existing (tableStatements provider previous table ++ rest) ↔
      (∀ column ∈ newColumns previous table, ∀ name ∈ column.foreignTable, name ∈ existing ∪ {table.name}) ∧
        Resolves (existing ∪ {table.name}) rest := by
  rw [tableStatements, newColumns]
  cases hOld : snapshotTable previous table.name with
  | none => simp [script_resolves hProvider]
  | some old =>
    obtain ⟨hIn, hSame⟩ := lastNamed_mem hOld
    have hName : table.name ∈ existing := hSame ▸ hKnown old hIn
    rw [Set.union_singleton, Set.insert_eq_of_mem hName, Option.elim_some, resolves_alter]
    · simp [Statement.references]
    · simp [Statement.creates]

lemma tables_resolve (previous done rest : List (Table N D)) (hSorted : (done ++ rest).Pairwise (·.name < ·.name))
    (hRefs : ∀ table ∈ rest, ∀ column ∈ newColumns previous table, ∀ name ∈ column.foreignTable,
      name ∈ (done ++ rest).map Table.name) :
    Resolves {name | name ∈ (previous ++ done).map Table.name} (rest.flatMap (tableStatements provider previous)) ↔
      ∀ table ∈ rest, ∀ column ∈ newColumns previous table, ∀ name ∈ column.foreignTable,
        name ∈ previous.map Table.name ∨ name ≤ table.name := by
  induction rest generalizing done with
  | nil => simp [Resolves]
  | cons table rest ih =>
    have hNext : {name | name ∈ (previous ++ done).map Table.name} ∪ {table.name} =
        {name | name ∈ (previous ++ (done ++ [table])).map Table.name} := by
      ext name
      simp [or_comm, or_left_comm]
    obtain ⟨hFirst, hRest⟩ := forall_mem_cons.mp hRefs
    rw [append_cons] at hSorted hFirst hRest
    rw [flatMap_cons, tableStatements_resolves hProvider, hNext, ih _ hSorted hRest, forall_mem_cons]
    · refine and_congr_left fun _ => forall₄_congr fun column hColumn name hName => ?_
      rw [map_append, Set.mem_ofPred_eq, mem_append]
      obtain ⟨hBefore, -, hAfter⟩ := pairwise_append.mp hSorted
      refine or_congr_right ⟨fun hDone => ?_, fun hLe => ?_⟩
      · obtain ⟨earlier, hEarlier, rfl⟩ := mem_map.mp hDone
        rcases mem_append.mp hEarlier with hIn | hLast
        · exact ((pairwise_append.mp hBefore).2.2 earlier hIn table (mem_singleton.mpr rfl)).le
        · rw [mem_singleton.mp hLast]
      · obtain ⟨other, hOther, rfl⟩ := mem_map.mp (hFirst column hColumn name hName)
        rcases mem_append.mp hOther with hIn | hLater
        · exact mem_map_of_mem hIn
        · exact absurd (hAfter table (mem_append_right _ (mem_singleton.mpr rfl)) other hLater) hLe.not_gt
    · exact fun old hOld => mem_map_of_mem (mem_append_left _ hOld)

theorem migrations_resolve_iff {previous tables : List (Table N D)} (hNames : (tables.map Table.name).Nodup)
    (hRefs : ∀ table ∈ tables, ∀ column ∈ table.columns, ∀ name ∈ column.foreignTable, name ∈ tables.map Table.name) :
    ((orderMigrationTables tables).Perm tables ∧
      ((∀ table, ¬ TransGen (DependsIn tables) table table) → (orderMigrationTables tables).Pairwise
        fun earlier later => tableDependsOn earlier later.name = false)) ∧
    Resolves ∅ (migrationScript provider tables) ∧
    ∀ allowDestructive statements, migrationDiff provider previous tables allowDestructive = .ok statements →
      (Resolves {name | name ∈ previous.map Table.name} statements ↔
        ∀ table ∈ tables, ∀ column ∈ newColumns previous table, ∀ name ∈ column.foreignTable,
          name ∈ previous.map Table.name ∨ name ≤ table.name) := by
  refine ⟨⟨orderLoop_perm _ _, fun hAcyclic => orderLoop_pairwise hAcyclic _ (Subset.refl _) (Nat.le_refl _)⟩, ?_, ?_⟩
  · rw [← append_nil (migrationScript _ _), script_resolves hProvider]
    simpa [Resolves] using hRefs
  · intro allowDestructive statements h
    simp only [migrationDiff] at h
    split at h
    · cases h
    obtain rfl := Except.ok.inj h
    have hIff := tables_resolve hProvider previous [] (byName Table.name tables) byName_sorted ?_
    · simpa [mem_byName hNames] using hIff
    · intro table hTable column hColumn name hName
      have hMem := newColumns_subset previous table hColumn
      obtain ⟨target, hTarget, hSame⟩ := mem_map.mp (hRefs table (byName_subset hTable) column hMem name hName)
      exact mem_map.mpr ⟨target, (mem_byName hNames).mpr hTarget, hSame⟩

end

/-- The first table references the second, which is created later. -/
def crossing : List (Table Nat Unit) := [⟨0, [⟨0, (), some (1, 0)⟩]⟩, ⟨1, [⟨0, (), none⟩]⟩]

theorem migrations_resolve_iff_crossing : Resolves ∅ (migrationScript .postgres crossing) ∧
    ∃ statements, migrationDiff .postgres [⟨1, [⟨0, (), none⟩]⟩] crossing false = .ok statements ∧
      Resolves {name | name ∈ [(⟨1, [⟨0, (), none⟩]⟩ : Table Nat Unit)].map Table.name} statements := by
  have hProvider : Provider.postgres ≠ .sqlite := by decide
  have hRefs : ∀ table ∈ crossing, ∀ column ∈ table.columns, ∀ name ∈ column.foreignTable,
      name ∈ crossing.map Table.name := by
    simp [crossing, Column.foreignTable]
  obtain ⟨-, hScript, hDiff⟩ :=
    @migrations_resolve_iff Nat Unit _ _ _ hProvider [⟨1, [⟨0, (), none⟩]⟩] crossing (by decide) hRefs
  refine ⟨hScript, _, rfl, (hDiff false _ rfl).mpr ?_⟩
  decide

/-- Without the second table in the snapshot, the diff adds the foreign key before it creates that table. -/
theorem migrationDiff_unresolved : ∃ statements, migrationDiff .postgres [] crossing false = .ok statements ∧
    ¬Resolves {name | name ∈ ([] : List (Table Nat Unit)).map Table.name} statements := by
  refine ⟨_, rfl, ?_⟩
  rintro ⟨-, hKey, -⟩
  have hMissing := hKey 1 (mem_singleton.mpr rfl)
  simp [Statement.creates] at hMissing

section Parts

/-- A table by its name, or a column with its table. -/
abbrev Part (N D : Type) := N × Option (Column N D)

def Table.Has (table : Table N D) (part : Part N D) : Prop :=
  part.1 = table.name ∧ ∀ column ∈ part.2, column ∈ table.columns

/-- A column whose foreign key is added later is complete with its key only. -/
def Statement.Completes (part : Part N D) : Statement N D → Prop
  | .createTable table inlineReferences =>
    table.Has part ∧ ∀ column ∈ part.2, inlineReferences = true ∨ column.reference = none
  | .addForeignKey table column | .addColumn table column => part = (table, some column)

variable {provider : Provider} {previous : List (Table N D)} {table old : Table N D} {part : Part N D}

lemma script_completes :
    (∃ statement ∈ migrationScript provider [table], statement.Completes part) ↔ table.Has part := by
  have hOrder : orderMigrationTables [table] = [table] := perm_singleton.mp (orderLoop_perm _ _)
  rw [migrationScript, hOrder]
  by_cases hInline : provider = .sqlite
  · simp [hInline, Statement.Completes]
  · obtain ⟨name, _ | column⟩ := part
    · simp [hInline, Table.Has, Statement.Completes, deferredForeignKeySql]
    · cases hReference : column.reference <;>
        simp [hInline, Table.Has, Statement.Completes, deferredForeignKeySql, hReference, and_comm]

/-- No column that the snapshot has of the table is dropped or altered. -/
def Kept (previous : List (Table N D)) (table : Table N D) : Prop :=
  (snapshotTable previous table.name).elim [] (fun old =>
    (old.columns.map Column.name).eraseDups.filterMap (columnChange old table)) = []

lemma Kept.mem (hKept : Kept previous table) (hOld : snapshotTable previous table.name = some old)
    (hNames : (old.columns.map Column.name).Nodup) {column : Column N D} (hColumn : column ∈ old.columns) :
    column ∈ table.columns := by
  rw [Kept, hOld] at hKept
  have hChange := filterMap_eq_nil_iff.mp hKept column.name (mem_eraseDups.mpr (mem_map_of_mem hColumn))
  rw [columnChange, lastNamed_of_mem hNames hColumn] at hChange
  cases hNew : lastNamed Column.name table.columns column.name with
  | none => simp [hNew] at hChange
  | some found =>
    obtain rfl : column = found := by simpa [hNew] using hChange
    exact (lastNamed_mem hNew).1

variable (hPrevious : (previous.map Table.name).Nodup) (hOlder : ∀ old ∈ previous, (old.columns.map Column.name).Nodup)
include hPrevious hOlder

lemma statements_complete (hColumns : (table.columns.map Column.name).Nodup) (hKept : Kept previous table) :
    (∃ statement ∈ tableStatements provider previous table, statement.Completes part) ↔
      table.Has part ∧ ¬∃ old ∈ previous, old.Has part := by
  rw [tableStatements]
  cases hOld : snapshotTable previous table.name with
  | none =>
    rw [Option.elim_none, script_completes, iff_self_and]
    rintro ⟨hName, -⟩ ⟨old, hIn, hSame, -⟩
    rw [snapshotTable, ← hName, hSame, lastNamed_of_mem hPrevious hIn] at hOld
    cases hOld
  | some old =>
    obtain ⟨hIn, hName⟩ := lastNamed_mem hOld
    obtain ⟨name, _ | column⟩ := part
    · have hTable : name = table.name → ∃ old ∈ previous, name = old.name := fun h => ⟨old, hIn, h.trans hName.symm⟩
      simpa [Table.Has, Statement.Completes] using hTable
    · have hAdded : (column ∈ table.columns ∧ ∀ other ∈ old.columns, other.name ≠ column.name) ∧ name = table.name ↔
          (name = table.name ∧ column ∈ table.columns) ∧
            ∀ other ∈ previous, name = other.name → column ∉ other.columns := by
        constructor
        · rintro ⟨⟨hColumn, hNew⟩, rfl⟩
          refine ⟨⟨rfl, hColumn⟩, fun other hOther hSame hHas => ?_⟩
          obtain rfl := inj_on_of_nodup_map hPrevious hOther hIn (hSame.symm.trans hName.symm)
          exact hNew column hHas rfl
        · rintro ⟨⟨rfl, hColumn⟩, hNone⟩
          refine ⟨⟨hColumn, fun other hOther hSame => hNone old hIn hName.symm ?_⟩, rfl⟩
          exact inj_on_of_nodup_map hColumns (hKept.mem hOld (hOlder old hIn) hOther) hColumn hSame ▸ hOther
      simpa [Table.Has, Statement.Completes, addedColumns, mem_byName hColumns] using hAdded

/-- Where no name is repeated, a diff without destructive changes keeps what the snapshot has, and its statements
complete exactly what the tables have and the snapshot has not. -/
theorem migrationDiff_completes (hTables : (tables.map Table.name).Nodup)
    (hColumns : ∀ table ∈ tables, (table.columns.map Column.name).Nodup) {statements : List (Statement N D)}
    (h : migrationDiff provider previous tables false = .ok statements) (part : Part N D) :
    ((∃ old ∈ previous, old.Has part) → ∃ table ∈ tables, table.Has part) ∧
      ((∃ statement ∈ statements, statement.Completes part) ↔
        (∃ table ∈ tables, table.Has part) ∧ ¬∃ old ∈ previous, old.Has part) := by
  simp only [migrationDiff] at h
  split at h
  · cases h
  next hNone =>
    obtain rfl := Except.ok.inj h
    obtain ⟨hStay, hKept⟩ : (∀ old ∈ previous, ∃ table ∈ tables, table.name = old.name) ∧
        ∀ table ∈ tables, Kept previous table := by
      simpa [destructiveChanges, Kept, mem_byName hTables] using hNone
    constructor
    · rintro ⟨old, hOld, hName, hPart⟩
      obtain ⟨table, hTable, hSame⟩ := hStay old hOld
      have hFound : snapshotTable previous table.name = some old := hSame ▸ lastNamed_of_mem hPrevious hOld
      exact ⟨table, hTable, hName.trans hSame.symm, fun column hColumn =>
        (hKept table hTable).mem hFound (hOlder old hOld) (hPart column hColumn)⟩
    · simp only [mem_flatMap, mem_byName hTables, ← exists_and_right, and_assoc]
      rw [exists_comm]
      simp only [exists_and_left]
      exact exists_congr fun table => and_congr_right fun hTable =>
        statements_complete hPrevious hOlder (hColumns table hTable) (hKept table hTable)

end Parts

theorem migrationDiff_completes_crossing : ∃ statements,
    migrationDiff .postgres [⟨1, [⟨0, (), none⟩]⟩] crossing false = .ok statements ∧
      ∃ statement ∈ statements, statement.Completes (0, some ⟨0, (), some (1, 0)⟩) := by
  have hDiff : migrationDiff .postgres [⟨1, [⟨0, (), none⟩]⟩] crossing false = .ok _ := rfl
  refine ⟨_, hDiff, (migrationDiff_completes (by decide) (by decide) (by decide) (by decide) hDiff _).2.mpr ?_⟩
  simp [crossing, Table.Has]

end Sloppy.Orm
