import DocumentStore.Error

/-!
# Errors and their wrappers

An error is its cause, put into wrappers on its way out: into those of the rules that it passed
through, and into those of the transactions that gave up over it. The wrappers can be taken off and
put back on. The cause lies behind all of them, while a retry looks through those of rules alone.
-/
namespace DocumentStore

/-! ## Wrappers -/

/-- What an error is put into on its way out. -/
inductive Wrapper where
  /-- The validator that raised it. -/
  | validation (rule : String)
  /-- The rule that denied a deletion. -/
  | denial (rule : String)
  /-- The rule that failed before or after a deletion. -/
  | deletion (rule : String)
  /-- The transaction that gave up over it. -/
  | abort (attempts : Nat)
  deriving DecidableEq, Repr

def Wrapper.isRule : Wrapper → Bool
  | .validation _ | .denial _ | .deletion _ => true
  | .abort _ => false

def Wrapper.wrap : Wrapper → ServiceError → ServiceError
  | .validation rule, e => .validationFailed rule e
  | .denial rule, e => .deleteDenied rule e
  | .deletion rule, e => .deleteRuleFailed rule e
  | .abort attempts, e => .transactionAborted attempts e

namespace ServiceError

/-- An error in wrappers, the outermost first. -/
def wrapIn (e : ServiceError) (wrappers : List Wrapper) : ServiceError :=
  wrappers.foldr Wrapper.wrap e

/-- The wrappers around the cause of an error, the outermost first. -/
def wrappers : ServiceError → List Wrapper
  | .validationFailed rule source => .validation rule :: source.wrappers
  | .deleteDenied rule source => .denial rule :: source.wrappers
  | .deleteRuleFailed rule source => .deletion rule :: source.wrappers
  | .transactionAborted attempts source => .abort attempts :: source.wrappers
  | _ => []

variable (w : Wrapper) (ws : List Wrapper) (e source : ServiceError)

/-! ## Errors in wrappers -/

theorem wrappers_wrap : (w.wrap e).wrappers = w :: e.wrappers := by
  cases w <;> rfl

theorem rootCause_wrap : (w.wrap e).rootCause = e.rootCause := by
  cases w <;> rfl

theorem isTransient_wrap : (w.wrap e).isTransient = (w.isRule && e.isTransient) := by
  cases w <;> rfl

/-- The cause lies behind all wrappers. -/
theorem rootCause_wrapIn : (e.wrapIn ws).rootCause = e.rootCause := by
  induction ws with
  | nil => rfl
  | cons w rest ih => exact (rootCause_wrap w _).trans ih

/-- A retry looks through wrappers of rules and through no others. -/
theorem isTransient_wrapIn :
    (e.wrapIn ws).isTransient = (ws.all Wrapper.isRule && e.isTransient) := by
  induction ws with
  | nil => rfl
  | cons w rest ih =>
    have hfirst : (e.wrapIn (w :: rest)).isTransient
        = (w.isRule && (e.wrapIn rest).isTransient) := isTransient_wrap w _
    rw [hfirst, ih, List.all_cons, Bool.and_assoc]

/-! ## Wrappers taken off -/

/-- An error is its cause in its wrappers. -/
theorem wrapIn_wrappers : e.rootCause.wrapIn e.wrappers = e := by
  induction e with
  | validationFailed rule source ih => exact congrArg (validationFailed rule) ih
  | deleteDenied rule source ih => exact congrArg (deleteDenied rule) ih
  | deleteRuleFailed rule source ih => exact congrArg (deleteRuleFailed rule) ih
  | transactionAborted attempts source ih => exact congrArg (transactionAborted attempts) ih
  | _ => rfl

/-- A cause is in no wrapper. -/
theorem wrappers_rootCause : e.rootCause.wrappers = [] := by
  induction e with
  | validationFailed _ _ ih | deleteDenied _ _ ih | deleteRuleFailed _ _ ih => exact ih
  | transactionAborted _ _ ih => exact ih
  | _ => rfl

theorem rootCause_ne_wrap : e.rootCause ≠ w.wrap source := by
  intro h
  have hnone := wrappers_rootCause e
  rw [h, wrappers_wrap] at hnone
  cases hnone

/-- Among causes, only a transient fault is worth a retry. -/
theorem isTransient_rootCause :
    e.rootCause.isTransient = true ↔ ∃ fault, e.rootCause = .transientTransaction fault := by
  have hnone := wrappers_rootCause e
  cases h : e.rootCause with
  | validationFailed | deleteDenied | deleteRuleFailed | transactionAborted =>
    rw [h] at hnone
    cases hnone
  | transientTransaction fault => exact iff_of_true rfl ⟨fault, rfl⟩
  | _ => exact iff_of_false nofun nofun

theorem all_isRule : ws.all Wrapper.isRule = true ↔ ∀ attempts, .abort attempts ∉ ws := by
  rw [List.all_eq_true]
  constructor
  · intro h attempts hmem
    cases h _ hmem
  · intro h w hmem
    cases w with
    | abort attempts => exact absurd hmem (h attempts)
    | _ => rfl

/-- Whether a retry may help is decided by the cause of an error and by the wrappers around it: the
cause must be a transient fault, and no transaction may have given up over it. The cause is in no
wrapper itself, and put back into its wrappers it is the error again. Further wrappers of rules
change neither of the two answers. -/
theorem classified_by_wrappers (e : ServiceError) :
    (e.isTransient = true ↔ (∃ fault, e.rootCause = .transientTransaction fault) ∧
      ∀ attempts, .abort attempts ∉ e.wrappers) ∧
    ((∀ w source, e.rootCause ≠ Wrapper.wrap w source) ∧ e.rootCause.wrapIn e.wrappers = e) ∧
    ∀ ws : List Wrapper, (∀ w ∈ ws, w.isRule = true) →
      (e.wrapIn ws).isTransient = e.isTransient ∧ (e.wrapIn ws).rootCause = e.rootCause := by
  refine ⟨?_, ⟨fun w source => ?_, wrapIn_wrappers e⟩, fun ws hrules => ⟨?_, rootCause_wrapIn ws e⟩⟩
  · have hsplit : e.isTransient = (e.wrappers.all Wrapper.isRule && e.rootCause.isTransient) := by
      rw [← isTransient_wrapIn, wrapIn_wrappers]
    rw [hsplit, Bool.and_eq_true, isTransient_rootCause, all_isRule, and_comm]
  · exact rootCause_ne_wrap w e source
  · rw [isTransient_wrapIn, List.all_eq_true.mpr hrules, Bool.true_and]

/-- A conflict in a cascade under three rules is retried. Once a transaction has given up over it,
the same rules around it do not make it worth a retry again. -/
theorem classified_by_wrappers_cascade :
    let conflict : ServiceError := .transientTransaction (.conflict 3 4)
    let cascade : List Wrapper := [.deletion "subtree", .deletion "subtree", .validation "parent"]
    (∀ w ∈ cascade, w.isRule = true) ∧ (conflict.wrapIn cascade).isTransient = true ∧
      (conflict.wrapIn cascade).rootCause = conflict ∧
      ((conflict.wrapIn [.abort 4]).wrapIn cascade).isTransient ≠ true := by
  intro conflict cascade
  have hrules : ∀ w ∈ cascade, w.isRule = true := by decide
  obtain ⟨-, -, hwrapped⟩ := classified_by_wrappers conflict
  obtain ⟨hretried, -, -⟩ := classified_by_wrappers ((conflict.wrapIn [.abort 4]).wrapIn cascade)
  refine ⟨hrules, (hwrapped cascade hrules).1, (hwrapped cascade hrules).2, fun htransient => ?_⟩
  exact (hretried.mp htransient).2 4 (by decide)

end ServiceError

end DocumentStore
