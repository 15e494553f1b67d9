import LotusReport.Encoding.Runtime
import LotusReport.Fallible.Checks
import LotusReport.StateMachine.Run
import Mathlib.Data.List.MinMax
import Mathlib.Data.String.Basic

/-!
# Schema migrations

Deployments migrate one database, each with the files of its own revision. A
run applies the files that the ledger does not record yet, in the order of
their names, and records them; it is one transaction. The guard against files
that come too late compares the pending files with the recorded names that the
deployment has as files, not with all recorded names.
-/

namespace LotusReport.Persistence

open Encoding Fallible StateMachine

/-- What a deployment brings to a run: the names of its migration files, and how the database
answers the compatibility check and the statements of each file. -/
structure Deployment where
  files : List String
  /-- A directory has one file of a name. -/
  distinct : files.Nodup
  /-- `validate_supported_report_schema` accepts the schema. -/
  supported : Bool
  /-- The SQL state of a file whose statements fail. -/
  sqlstate : String → Option String

/-- The rows of `report_schema_migration`, in the order in which they were recorded. -/
structure Database where
  recorded : List String
deriving DecidableEq, Repr

/-- Why a run is refused. -/
inductive MigrationError where
  | unsupported
  | outOfOrder (pending : List String) (newestRecorded : String)
  | failed (migration sqlstate : String)
deriving DecidableEq, Repr

/-- `CURRENT_SCHEMA_VERSION`. -/
def currentSchemaVersion : String := "report-ledger-v1"

/-- The text of a refusal of the runner; the compatibility check has its own texts. -/
def MigrationError.message : MigrationError → Option String
  | .unsupported => none
  | .outOfOrder pending newestRecorded => some ("report_schema_migration_out_of_order:pending=" ++
      ",".intercalate pending ++ ":applied_through=" ++ newestRecorded ++ ":target=" ++
      currentSchemaVersion)
  | .failed migration sqlstate => some ("report_schema_migration_failed:migration=" ++ migration ++
      ":sqlstate=" ++ sqlstate ++ ":target=" ++ currentSchemaVersion)

section Run

variable (db : Database) (d : Deployment)

/-- `migration_paths`. -/
def Deployment.migrationPaths : List String := sortedTexts d.files

/-- `pending`. -/
def pending : List String := d.migrationPaths.filter fun name => !db.recorded.contains name

/-- `recorded_known`. -/
def recordedKnown : List String := d.migrationPaths.filter fun name => db.recorded.contains name

/-- The guard against files that come too late. -/
def requireOrder : Except MigrationError Unit :=
  match (recordedKnown db d).max? with
  | none => .ok ()
  | some newestRecorded =>
      match sortedTexts ((pending db d).filter (· < newestRecorded)) with
      | [] => .ok ()
      | outOfOrder => .error (.outOfOrder outOfOrder newestRecorded)

/-- The statements of the pending files and their ledger rows. -/
def applyPending : Database → List String → Except MigrationError Database
  | db, [] => .ok db
  | db, name :: names =>
      match d.sqlstate name with
      | some sqlstate => .error (.failed name sqlstate)
      | none =>
          -- the name is the primary key of the ledger
          if db.recorded.contains name then .error (.failed name "23505")
          else applyPending { db with recorded := db.recorded ++ [name] } names

/-- `apply_report_schema_migrations`: the names applied by this run, and the database. -/
def applyReportSchemaMigrations : Except MigrationError (List String × Database) := do
  if !d.supported then .error .unsupported
  else
    requireOrder db d
    let migrated ← applyPending d db (pending db d)
    return (pending db d, migrated)

/-- One run in its transaction: a failed run is rolled back. -/
def migrate : Database :=
  match applyReportSchemaMigrations db d with
  | .ok (_, migrated) => migrated
  | .error _ => db

/-- A pending file sorts before a recorded name. -/
def ComesLate : Prop := ∃ file ∈ pending db d, ∃ name ∈ db.recorded, file < name

/-- The run stops before or while it applies the pending files. -/
def Stops : Prop := d.supported = false ∨ ∃ file ∈ pending db d, (d.sqlstate file).isSome

/-- If a pending file sorts before a recorded name, one sorts before a recorded name that the
deployment has as a file. -/
def SeesOrder : Prop :=
  Stops db d ∨ (ComesLate db d → ∃ file ∈ pending db d, ∃ name ∈ recordedKnown db d, file < name)

end Run

section Step

variable {db : Database} {d : Deployment}

theorem mem_pending {file : String} :
    file ∈ pending db d ↔ file ∈ d.files ∧ file ∉ db.recorded := by
  simp [pending, Deployment.migrationPaths, sortedTexts]

/-- Pending files are applied in the order of their names. -/
theorem pairwise_pending : (pending db d).Pairwise (· < ·) := by
  have hsorted : d.migrationPaths.Pairwise (· ≤ ·) := List.pairwise_insertionSort _ _
  have hnodup : d.migrationPaths.Nodup :=
    (List.perm_insertionSort _ d.files).nodup_iff.mpr d.distinct
  have hstrict : d.migrationPaths.Pairwise (· < ·) :=
    (hsorted.and hnodup).imp fun h => lt_of_le_of_ne h.1 h.2
  exact hstrict.filter _

/-- The guard passes exactly when no pending file sorts before a known recorded name. -/
theorem requireOrder_eq_ok : requireOrder db d = .ok () ↔
    ¬∃ file ∈ pending db d, ∃ name ∈ recordedKnown db d, file < name := by
  unfold requireOrder
  cases hnewest : (recordedKnown db d).max? with
  | none =>
      rw [List.max?_eq_none_iff] at hnewest
      simp [hnewest]
  | some newest =>
      obtain ⟨hmem, hmax⟩ := List.max?_eq_some_iff.mp hnewest
      have hempty : sortedTexts ((pending db d).filter (· < newest)) = [] ↔
          ∀ file ∈ pending db d, ¬file < newest := by
        rw [sortedTexts, ← List.length_eq_zero_iff, List.length_insertionSort,
          List.length_eq_zero_iff, List.filter_eq_nil_iff]
        simp
      have hlate : (∃ file ∈ pending db d, ∃ name ∈ recordedKnown db d, file < name) ↔
          ∃ file ∈ pending db d, file < newest := by
        constructor
        · rintro ⟨file, hfile, name, hname, hlt⟩
          exact ⟨file, hfile, lt_of_lt_of_le hlt (hmax name hname)⟩
        · rintro ⟨file, hfile, hlt⟩
          exact ⟨file, hfile, newest, hmem, hlt⟩
      rw [hlate]
      dsimp only
      split
      · rename_i hnil
        simpa using hempty.mp hnil
      · rename_i hne
        have hnot := mt hempty.mpr hne
        simpa using hnot

/-- The pending files are applied unless the statements of one of them fail. -/
theorem applyPending_eq_ok {names : List String} {migrated : Database}
    (hnodup : names.Nodup) (hfresh : ∀ name ∈ names, name ∉ db.recorded) :
    applyPending d db names = .ok migrated ↔
      (∀ name ∈ names, d.sqlstate name = none) ∧ migrated.recorded = db.recorded ++ names := by
  induction names generalizing db with
  | nil =>
      obtain ⟨recorded⟩ := migrated
      cases db
      simp [applyPending, eq_comm]
  | cons name names ih =>
      rw [List.nodup_cons] at hnodup
      rw [List.forall_mem_cons] at hfresh
      cases hstate : d.sqlstate name with
      | some sqlstate => simp [applyPending, hstate]
      | none =>
          have hrest : ∀ other ∈ names, other ∉ db.recorded ++ [name] := by
            intro other hother hmem
            rcases List.mem_append.mp hmem with hold | hnew
            · exact hfresh.2 other hother hold
            · exact hnodup.1 (List.mem_singleton.mp hnew ▸ hother)
          have hcontains : db.recorded.contains name = false := by simpa using hfresh.1
          simp only [applyPending, hstate, hcontains, Bool.false_eq_true, if_false]
          rw [ih hnodup.2 hrest]
          simp [hstate]

/-- A run applies the pending files unless it stops or its guard refuses. -/
theorem applyReportSchemaMigrations_eq_ok {names : List String} {migrated : Database} :
    applyReportSchemaMigrations db d = .ok (names, migrated) ↔
      ¬Stops db d ∧ (¬∃ file ∈ pending db d, ∃ name ∈ recordedKnown db d, file < name) ∧
        names = pending db d ∧ migrated.recorded = db.recorded ++ pending db d := by
  have hstates : (∀ name ∈ pending db d, d.sqlstate name = none) ↔
      ¬∃ file ∈ pending db d, (d.sqlstate file).isSome := by
    simp only [not_exists, not_and, Bool.not_eq_true, Option.isSome_eq_false_iff,
      Option.isNone_iff_eq_none]
  unfold applyReportSchemaMigrations Stops
  cases hsupported : d.supported with
  | false => simp
  | true =>
      simp only [Bool.not_true, Bool.false_eq_true, if_false, bind_eq_ok, pure, Except.pure,
        Except.ok.injEq, Prod.mk.injEq, Bool.true_eq_false, false_or]
      rw [← hstates]
      constructor
      · rintro ⟨⟨⟩, horder, state, happlied, rfl, rfl⟩
        obtain ⟨hnone, hrecorded⟩ := (applyPending_eq_ok
          (pairwise_pending.imp fun h => h.ne) fun name hname => (mem_pending.mp hname).2).mp happlied
        exact ⟨hnone, requireOrder_eq_ok.mp horder, rfl, hrecorded⟩
      · rintro ⟨hnone, horder, rfl, hrecorded⟩
        refine ⟨(), requireOrder_eq_ok.mpr horder, migrated, ?_, rfl, rfl⟩
        exact (applyPending_eq_ok (pairwise_pending.imp fun h => h.ne)
          fun name hname => (mem_pending.mp hname).2).mpr ⟨hnone, hrecorded⟩

theorem migrate_cases (db : Database) (d : Deployment) :
    (∃ e, applyReportSchemaMigrations db d = .error e ∧ migrate db d = db ∧
      (Stops db d ∨ ∃ file ∈ pending db d, ∃ name ∈ recordedKnown db d, file < name)) ∨
    (¬Stops db d ∧ (¬∃ file ∈ pending db d, ∃ name ∈ recordedKnown db d, file < name) ∧
      (migrate db d).recorded = db.recorded ++ pending db d) := by
  unfold migrate
  cases happly : applyReportSchemaMigrations db d with
  | ok result =>
      obtain ⟨names, migrated⟩ := result
      obtain ⟨hstops, horder, -, hrecorded⟩ := applyReportSchemaMigrations_eq_ok.mp happly
      exact .inr ⟨hstops, horder, hrecorded⟩
  | error e =>
      refine .inl ⟨e, rfl, rfl, ?_⟩
      by_contra hnone
      rw [not_or] at hnone
      have hok := applyReportSchemaMigrations_eq_ok.mpr
        ⟨hnone.1, hnone.2, rfl, (rfl : (Database.mk (db.recorded ++ pending db d)).recorded = _)⟩
      rw [happly] at hok
      cases hok

/-- No file is applied twice. -/
theorem nodup_migrate (h : db.recorded.Nodup) : (migrate db d).recorded.Nodup := by
  rcases migrate_cases db d with ⟨e, -, hsame, -⟩ | ⟨-, -, hrecorded⟩
  · rw [hsame]
    exact h
  · rw [hrecorded, List.nodup_append]
    refine ⟨h, pairwise_pending.imp fun hlt => hlt.ne, ?_⟩
    rintro name hname file hfile rfl
    exact (mem_pending.mp hfile).2 hname

/-- A run keeps the order of application exactly when it sees the order. -/
theorem pairwise_migrate_iff (h : db.recorded.Pairwise (· < ·)) :
    (migrate db d).recorded.Pairwise (· < ·) ↔ SeesOrder db d := by
  rcases migrate_cases db d with ⟨e, -, hsame, hwhy⟩ | ⟨hstops, horder, hrecorded⟩
  · rw [hsame]
    refine iff_of_true h ?_
    rcases hwhy with hstops | hlate
    · exact .inl hstops
    · exact .inr fun _ => hlate
  · rw [hrecorded, List.pairwise_append]
    constructor
    · rintro ⟨-, -, hbefore⟩
      refine .inr fun hlate => ?_
      obtain ⟨file, hfile, name, hname, hlt⟩ := hlate
      exact absurd hlt (hbefore name hname file hfile).asymm
    · intro hsees
      refine ⟨h, pairwise_pending, fun name hname file hfile => ?_⟩
      rcases lt_trichotomy name file with hlt | heq | hgt
      · exact hlt
      · exact absurd (heq ▸ hname) (mem_pending.mp hfile).2
      · exact absurd (hsees.resolve_left hstops ⟨file, hfile, name, hname, hgt⟩) horder

theorem migrate_of_comesLate (hsees : SeesOrder db d) (hlate : ComesLate db d) :
    (∃ e, applyReportSchemaMigrations db d = .error e) ∧ migrate db d = db := by
  rcases migrate_cases db d with ⟨e, herror, hsame, -⟩ | ⟨hstops, horder, -⟩
  · exact ⟨⟨e, herror⟩, hsame⟩
  · exact absurd (hsees.resolve_left hstops hlate) horder

end Step

section Runs

/-- A database without a migration ledger. -/
def Database.empty : Database := ⟨[]⟩

/-- Every file name is applied at most once, the names are applied in increasing order, and a run
with a pending file before a recorded name is refused. -/
structure RunsInOrder (runs : List Deployment) : Prop where
  once : ∀ n, (run migrate Database.empty (runs.take n)).recorded.Nodup
  increasing : ∀ n, (run migrate Database.empty (runs.take n)).recorded.Pairwise (· < ·)
  refuses : ∀ before d after, runs = before ++ d :: after →
    ComesLate (run migrate Database.empty before) d →
      (∃ e, applyReportSchemaMigrations (run migrate Database.empty before) d = .error e) ∧
        migrate (run migrate Database.empty before) d = run migrate Database.empty before

/-- A newer deployment, then one that lacks its file and has an older one. -/
def mixedDeployments : List Deployment :=
  [ ⟨["002_status.sql"], by decide, true, fun _ => none⟩,
    ⟨["001_ledger.sql"], by decide, true, fun _ => none⟩ ]

end Runs

end LotusReport.Persistence
