import PostgresqlK8s.Extensions.EnableDisable

/-!
# Extensions.Audit

What an update of the extensions leaves of the pgAudit settings, wherever a
statement of it fails.

The settings are reset before the first database is updated and set again
after the last one.  Nothing rolls the reset back, so a statement that fails in
between leaves the logging off although it is requested; an update without a
failure leaves it as requested (`audit_iff`).
-/

namespace PostgresqlK8s.Extensions

/-- The pgAudit settings of the server, written by `ALTER SYSTEM` and in effect
once the configuration is reloaded; nothing stands for a setting that is
reset. -/
@[ext]
structure AuditSettings where
  configured : PgauditParameter → Option String
  inEffect : PgauditParameter → Option String

namespace AuditSettings

/-- The values that `_configure_pgaudit` sets. -/
def wanted (p : PgauditParameter) : Option String := some p.value

/-- Logging is on. -/
def LoggingOn (s : AuditSettings) : Prop := s.configured = wanted ∧ s.inEffect = wanted

/-- What a statement makes of the settings. -/
def exec (s : AuditSettings) : Statement → AuditSettings
  | .alterSystemSet p => { s with configured := Function.update s.configured p (some p.value) }
  | .alterSystemReset p => { s with configured := Function.update s.configured p none }
  | .reloadConf => { s with inEffect := s.configured }
  | .connect _ | .selectDatabases | .createExtension _ | .dropExtension _ => s

end AuditSettings

open AuditSettings

/-- Execute the statements, of which the one after `k` others fails if
`failure` is `some (k, e)`. -/
def execute : Option (Nat × PgError) → List Statement → AuditSettings →
    AuditSettings × Option PgError
  | _, [], s => (s, none)
  | some (0, e), _ :: _, s => (s, some e)
  | some (k + 1, e), statement :: statements, s => execute (some (k, e)) statements (s.exec statement)
  | none, statement :: statements, s => execute none statements (s.exec statement)

/-- `enable_disable_extensions`, on the settings. -/
def enableDisableExtensions (order : List String) (extensions : Dict String Bool)
    (database : Option String) (found : List String) (failure : Option (Nat × PgError))
    (before : AuditSettings) : AuditSettings × EnableDisableOutcome :=
  let result := execute failure (enableDisableStatements order extensions database found) before
  (result.1, handleError result.2)

/-! ## how far the statements get -/

theorem execute_none (statements : List Statement) (s : AuditSettings) :
    execute none statements s = (statements.foldl exec s, none) := by
  induction statements generalizing s with
  | nil => rfl
  | cons statement statements ih => exact ih (s.exec statement)

/-- The statements before the failing one are executed. -/
theorem execute_some (k : Nat) (e : PgError) (statements : List Statement) (s : AuditSettings) :
    execute (some (k, e)) statements s =
      ((statements.take k).foldl exec s, if k < statements.length then some e else none) := by
  induction statements generalizing k s with
  | nil => simp [execute]
  | cons statement statements ih =>
      cases k with
      | zero => simp [execute]
      | succ k =>
          rw [execute, ih]
          simp

/-! ## the phases -/

/-- The statements that do not touch the settings. -/
def Neutral (statements : List Statement) : Prop :=
  ∀ s : AuditSettings, ∀ statement ∈ statements, s.exec statement = s

/-- Statements that concern no setting change none. -/
theorem foldl_neutral {statements : List Statement} (h : Neutral statements) (s : AuditSettings) :
    statements.foldl exec s = s := by
  induction statements with
  | nil => rfl
  | cons statement statements ih =>
      rw [List.foldl_cons, h s statement (by simp)]
      exact ih fun s st hst => h s st (List.mem_cons_of_mem _ hst)

theorem Neutral.take {statements : List Statement} (h : Neutral statements) (n : Nat) :
    Neutral (statements.take n) :=
  fun s statement hmem => h s statement (List.mem_of_mem_take hmem)

/-- Listing the databases concerns none. -/
theorem neutral_listingStatements (database : Option String) :
    Neutral (listingStatements database) := by
  intro s statement hmem
  cases database with
  | some database => simp [listingStatements] at hmem
  | none =>
      simp only [listingStatements, List.mem_cons, List.not_mem_nil, or_false] at hmem
      rcases hmem with rfl | rfl <;> rfl

/-- Updating the extensions concerns none. -/
theorem neutral_updateStatements (order : List String) (extensions : Dict String Bool)
    (databases : List String) : Neutral (updateStatements order extensions databases) := by
  intro s statement hmem
  simp only [updateStatements, databaseStatements, List.mem_flatMap, List.mem_cons,
    List.mem_map] at hmem
  obtain ⟨database, -, rfl | ⟨change, -, rfl⟩⟩ := hmem
  · rfl
  · unfold extensionStatement
    split <;> rfl

/-- The first `n` settings, of those that are set and reset in order. -/
def InFirst (n : Nat) (p : PgauditParameter) : Prop := p ∈ PgauditParameter.all.take n

instance (n : Nat) (p : PgauditParameter) : Decidable (InFirst n p) :=
  inferInstanceAs (Decidable (_ ∈ _))

/-- The settings when the first `n` have been reset. -/
def resetFirst (n : Nat) (s : AuditSettings) : AuditSettings :=
  { s with configured := fun p => if InFirst n p then none else s.configured p }

/-- The settings when all have been reset and the first `n` are set again. -/
def restoredFirst (n : Nat) : AuditSettings :=
  ⟨fun p => if InFirst n p then some p.value else none, fun _ => none⟩

/-- Resetting, up to the reload. -/
theorem foldl_take_reset {k : Nat} (h : k ≤ 4) (s : AuditSettings) :
    ((configurePgaudit false).take k).foldl exec s = resetFirst (k - 1) s := by
  have hcases : k = 0 ∨ k = 1 ∨ k = 2 ∨ k = 3 ∨ k = 4 := by omega
  rcases hcases with rfl | rfl | rfl | rfl | rfl <;>
    (apply AuditSettings.ext
     · funext p
       cases p <;> rfl
     · rfl)

/-- After the first `_configure_pgaudit` all settings are reset. -/
theorem foldl_reset (s : AuditSettings) :
    (configurePgaudit false).foldl exec s = restoredFirst 0 := by
  apply AuditSettings.ext
  · funext p
    cases p <;> rfl
  · funext p
    cases p <;> rfl

/-- Setting again, up to the reload. -/
theorem foldl_take_set {k : Nat} (h : k ≤ 4) :
    ((configurePgaudit true).take k).foldl exec (restoredFirst 0) = restoredFirst (k - 1) := by
  have hcases : k = 0 ∨ k = 1 ∨ k = 2 ∨ k = 3 ∨ k = 4 := by omega
  rcases hcases with rfl | rfl | rfl | rfl | rfl <;>
    (apply AuditSettings.ext
     · funext p
       cases p <;> rfl
     · rfl)

/-- The last one sets all of them again. -/
theorem foldl_set : (configurePgaudit true).foldl exec (restoredFirst 0) = ⟨wanted, wanted⟩ := by
  apply AuditSettings.ext
  · funext p
    cases p <;> rfl
  · funext p
    cases p <;> rfl

/-- Resetting again changes nothing. -/
theorem foldl_take_reset_again (k : Nat) :
    ((configurePgaudit false).take k).foldl exec (restoredFirst 0) = restoredFirst 0 := by
  by_cases hk : k ≤ 4
  · rw [foldl_take_reset hk]
    apply AuditSettings.ext
    · funext p
      cases p <;> simp [resetFirst, restoredFirst, InFirst]
    · rfl
  · rw [List.take_of_length_le (by simp [configurePgaudit, PgauditParameter.all]; omega),
      foldl_reset]

/-! ## where logging is off -/

/-- With one setting reset, logging is not on. -/
theorem not_loggingOn_resetFirst {n : Nat} (h : n ≠ 0) (s : AuditSettings) :
    ¬ (resetFirst n s).LoggingOn := by
  intro hon
  have hlog : InFirst n .log := by
    cases n with
    | zero => contradiction
    | succ n => simp [InFirst, PgauditParameter.all]
  have hvalue := congrFun hon.1 .log
  simp [resetFirst, hlog, wanted] at hvalue

/-- Before the reload it is not on either. -/
theorem not_loggingOn_restoredFirst (n : Nat) : ¬ (restoredFirst n).LoggingOn := by
  intro hon
  have hvalue := congrFun hon.2 .log
  simp [restoredFirst, wanted] at hvalue

theorem resetFirst_zero (s : AuditSettings) : resetFirst 0 s = s := by
  apply AuditSettings.ext
  · funext p
    simp [resetFirst, InFirst]
  · rfl

/-- Resetting the first settings changes nothing exactly where none of them was set. -/
theorem resetFirst_eq_self_iff (n : Nat) (s : AuditSettings) :
    resetFirst n s = s ↔ ∀ p, InFirst n p → s.configured p = none := by
  constructor
  · intro h p hp
    have hvalue := congrFun (congrArg configured h) p
    simp only [resetFirst, if_pos hp] at hvalue
    exact hvalue.symm
  · intro h
    apply AuditSettings.ext
    · funext p
      by_cases hp : InFirst n p
      · simp [resetFirst, hp, h p hp]
      · simp [resetFirst, hp]
    · rfl

/-- When setting the first ones again gives the settings of before. -/
theorem restoredFirst_eq_iff (n : Nat) (s : AuditSettings) :
    restoredFirst n = s ↔
      (∀ p, s.configured p = if InFirst n p then some p.value else none) ∧
        ∀ p, s.inEffect p = none := by
  constructor
  · rintro rfl
    exact ⟨fun _ => rfl, fun _ => rfl⟩
  · intro ⟨hconfigured, hinEffect⟩
    apply AuditSettings.ext
    · funext p
      exact (hconfigured p).symm
    · funext p
      exact (hinEffect p).symm

/-! ## the whole update -/

section Update

variable (order : List String) (extensions : Dict String Bool) (database : Option String)
  (found : List String)

/-- The number of statements before the reset. -/
def listed : Nat := (listingStatements database).length

/-- The number of statements between the reset and the end. -/
def updated : Nat := (updateStatements order extensions (targetDatabases database found)).length

/-- The statements, counted. -/
theorem length_enableDisableStatements :
    (enableDisableStatements order extensions database found).length =
      listed database + 5 + updated order extensions database found + 5 := by
  have hlength (b : Bool) : (configurePgaudit b).length = 5 := by cases b <;> rfl
  simp only [enableDisableStatements, List.length_append, hlength, listed, updated]

/-- The settings when the reset has gone through and `k` statements after the
update have. -/
theorem foldl_enableDisableStatements (before : AuditSettings) (k : Nat) :
    ((enableDisableStatements order extensions database found).take k).foldl exec before =
      if k ≤ listed database + 4 then resetFirst (k - listed database - 1) before
      else ((configurePgaudit
          (((orderedExtensions order extensions).get? "pgaudit").getD false)).take
            (k - (listed database + 5 + updated order extensions database found))).foldl exec
          (restoredFirst 0) := by
  have hlisting := neutral_listingStatements database
  have hupdate := neutral_updateStatements order extensions (targetDatabases database found)
  have hlisted : (listingStatements database).length = listed database := rfl
  have hreset : (configurePgaudit false).length = 5 := rfl
  have hupdated : (updateStatements order extensions (targetDatabases database found)).length =
      updated order extensions database found := rfl
  simp only [enableDisableStatements, List.take_append, List.foldl_append, List.length_append,
    hlisted, hreset, hupdated]
  rw [foldl_neutral (hlisting.take _)]
  by_cases hk : k ≤ listed database + 4
  · have hfront : k - listed database ≤ 4 := by omega
    have hrest : k - (listed database + 5) = 0 := by omega
    have hend : k - (listed database + 5 + updated order extensions database found) = 0 := by
      omega
    rw [if_pos hk, foldl_take_reset hfront, hrest, hend]
    rfl
  · have hwhole : (configurePgaudit false).take (k - listed database) =
        configurePgaudit false := List.take_of_length_le (by rw [hreset]; omega)
    rw [if_neg hk, hwhole, foldl_reset, foldl_neutral (hupdate.take _)]

/-- The failing statement, after `k` others, leaves the settings as they were:
what has been reset was not set before, and what was set again was set like
that, without being in effect. -/
def LeavesSettings (before : AuditSettings) (k : Nat) : Prop :=
  if k ≤ listed database + 4 then
    ∀ p, InFirst (k - listed database - 1) p → before.configured p = none
  else
    (∀ p, before.configured p =
      if InFirst (k - (listed database + 5 + updated order extensions database found) - 1) p then
        some p.value
      else none) ∧
    ∀ p, before.inEffect p = none

/-- Logging is on exactly as requested, or a statement failed and the settings
are as they were. -/
def AuditKept (failure : Option (Nat × PgError)) (before : AuditSettings) : Prop :=
  ((enableDisableExtensions order extensions database found failure before).1.LoggingOn ↔
      extensions.get? "pgaudit" = some true) ∨
    ((∃ k e, failure = some (k, e) ∧
        k < (enableDisableStatements order extensions database found).length) ∧
      (enableDisableExtensions order extensions database found failure before).1 = before)

variable {order}

omit order extensions database found in
theorem getD_eq_false {value : Option Bool} (h : value ≠ some true) : value.getD false = false := by
  cases value with
  | none => rfl
  | some b =>
      cases b with
      | true => exact absurd rfl h
      | false => rfl

/-- Without a failure the settings are as requested. -/
theorem loggingOn_of_complete (hnodup : order.Nodup) (before : AuditSettings) :
    ((enableDisableStatements order extensions database found).foldl exec before).LoggingOn ↔
      extensions.get? "pgaudit" = some true := by
  have hlength := length_enableDisableStatements order extensions database found
  have hall := foldl_enableDisableStatements order extensions database found before
    (listed database + 5 + updated order extensions database found + 5)
  have hrest : listed database + 5 + updated order extensions database found + 5 -
      (listed database + 5 + updated order extensions database found) = 5 := by omega
  rw [← hlength, List.take_length, if_neg (by omega), hlength, hrest,
    orderedExtensions_get?_getD extensions hnodup] at hall
  rw [hall]
  by_cases hrequested : extensions.get? "pgaudit" = some true
  · have hset : ((configurePgaudit true).take 5).foldl exec (restoredFirst 0) =
        ⟨wanted, wanted⟩ := foldl_set
    rw [hrequested, Option.getD_some, hset]
    exact ⟨fun _ => rfl, fun _ => ⟨rfl, rfl⟩⟩
  · rw [getD_eq_false hrequested, foldl_take_reset_again]
    constructor
    · intro hon
      exact absurd hon (not_loggingOn_restoredFirst 0)
    · intro hcontra
      exact absurd hcontra hrequested

/-- With a failure the settings are as requested or as they were exactly when
logging is not requested or the failing statement leaves them alone. -/
theorem auditKept_failing (hnodup : order.Nodup) {k : Nat} {e : PgError}
    {before : AuditSettings}
    (hk : k < (enableDisableStatements order extensions database found).length) :
    AuditKept order extensions database found (some (k, e)) before ↔
      (extensions.get? "pgaudit" = some true →
        LeavesSettings order extensions database found before k) := by
  have hlength := length_enableDisableStatements order extensions database found
  have hfails : ∃ k' e', some (k, e) = some (k', e') ∧
      k' < (enableDisableStatements order extensions database found).length := ⟨k, e, rfl, hk⟩
  have hfinal := foldl_enableDisableStatements order extensions database found before k
  rw [orderedExtensions_get?_getD extensions hnodup] at hfinal
  rw [AuditKept, enableDisableExtensions, execute_some, hfinal, LeavesSettings]
  by_cases hreset : k ≤ listed database + 4
  · -- the reset fails
    simp only [if_pos hreset, hfails, true_and, ← resetFirst_eq_self_iff]
    by_cases hfirst : k - listed database - 1 = 0
    · simp [hfirst, resetFirst_zero]
    · have hoff := not_loggingOn_resetFirst hfirst before
      simp only [hoff, false_iff]
      exact imp_iff_not_or.symm
  · -- a database, or setting again
    simp only [if_neg hreset, hfails, true_and, ← restoredFirst_eq_iff]
    have hset : k - (listed database + 5 + updated order extensions database found) ≤ 4 := by
      omega
    by_cases hrequested : extensions.get? "pgaudit" = some true
    · have hoff := not_loggingOn_restoredFirst
        (k - (listed database + 5 + updated order extensions database found) - 1)
      rw [hrequested, Option.getD_some, foldl_take_set hset]
      simp only [hoff, false_iff, not_true, false_or, true_imp_iff]
    · have hfalse := getD_eq_false hrequested
      rw [hfalse, foldl_take_reset_again]
      simp only [hrequested, not_loggingOn_restoredFirst, true_or, false_imp_iff]

/-- **What an update leaves of audit logging.**  For every requested map, every
database or list of databases, every state of the settings and every failing
statement: logging is on exactly as requested, or the settings are as they
were after a failure, if and only if logging is not requested, or no statement
fails, or the one that fails leaves the settings as they were. -/
theorem audit_iff (hnodup : order.Nodup) (failure : Option (Nat × PgError))
    (before : AuditSettings) :
    AuditKept order extensions database found failure before ↔
      (extensions.get? "pgaudit" = some true → ∀ k e, failure = some (k, e) →
        k < (enableDisableStatements order extensions database found).length →
          LeavesSettings order extensions database found before k) := by
  have hlength := length_enableDisableStatements order extensions database found
  cases failure with
  | none =>
      have hkept : AuditKept order extensions database found none before := by
        left
        rw [enableDisableExtensions, execute_none]
        exact loggingOn_of_complete extensions database found hnodup before
      refine ⟨fun _ _ k e hfailure => ?_, fun _ => hkept⟩
      cases hfailure
  | some failing =>
      obtain ⟨k, e⟩ := failing
      by_cases hk : k < (enableDisableStatements order extensions database found).length
      · rw [auditKept_failing extensions database found hnodup hk]
        constructor
        · intro h hrequested k' e' heq _
          cases heq
          exact h hrequested
        · intro h hrequested
          exact h hrequested k e rfl hk
      · have hkept : AuditKept order extensions database found (some (k, e)) before := by
          left
          rw [enableDisableExtensions, execute_some, List.take_of_length_le (by omega)]
          exact loggingOn_of_complete extensions database found hnodup before
        refine ⟨fun _ _ k' e' heq hk' => ?_, fun _ => hkept⟩
        cases heq
        contradiction

end Update

/-- `pgaudit` is enabled and `hstore` is disabled. -/
def auditWithoutHstore : Dict String Bool :=
  (∅ : Dict String Bool).update [("pgaudit", true), ("hstore", false)]

/-- Logging is kept by an update that does not fail. -/
theorem audit_iff_complete :
    AuditKept dependencyPlugins auditWithoutHstore none ["app"] none ⟨wanted, wanted⟩ :=
  (audit_iff auditWithoutHstore none ["app"] nodup_dependencyPlugins none ⟨wanted, wanted⟩).mpr
    fun _ k e h => by cases h

/-- Logging is on and requested, and dropping `hstore` fails because objects
depend on it: logging is off. -/
theorem audit_lost :
    ¬ AuditKept dependencyPlugins auditWithoutHstore none ["app"]
      (some (12, .dependentObjectsStillExist)) ⟨wanted, wanted⟩ := by
  rw [auditKept_failing auditWithoutHstore none ["app"] nodup_dependencyPlugins (by decide)]
  intro h
  have hleaves := h (by decide)
  rw [LeavesSettings, if_neg (by decide)] at hleaves
  cases hleaves.2 .log

end PostgresqlK8s.Extensions
