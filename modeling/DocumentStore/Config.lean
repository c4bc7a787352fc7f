/-!
# Configuration

How often a transaction is retried and how long each retry waits, and the settings of a
service. Settings are read from a tree of named values; a name that is missing keeps its
default and a name that is unknown is ignored.
-/
namespace DocumentStore

/-- When a transaction that failed is run again. Times are in milliseconds. -/
structure RetryPolicy where
  maxRetries : UInt64 := 3
  backoff : UInt64 := 10
  backoffCap : UInt64 := 100
  deriving DecidableEq, Repr

/-- The largest number of sixty-four bits. -/
def maxWord : Nat := 0xffffffffffffffff

namespace RetryPolicy

/-- The default waiting times without any retry. -/
def never : RetryPolicy := { maxRetries := 0 }

/-- The wait before a retry, counted from one: the backoff, doubled for every retry before it,
up to the cap. The number of doublings, the factor and the product all stop at the largest
number of their width. -/
def waitBefore (policy : RetryPolicy) (retry : Nat) : Nat :=
  let doublings := min (retry - 1) 0xffffffff
  let factor := if doublings < 64 then Nat.pow 2 doublings else maxWord
  min (min (policy.backoff.toNat * factor) maxWord) policy.backoffCap.toNat

end RetryPolicy

/-- The settings of a service. -/
structure ServiceConfig where
  /-- Whether inserts leave out fields that are null. -/
  excludeNullOnInsert : Bool := false
  /-- How many deletes that rules issue may be nested. -/
  maxCascadeDepth : UInt64 := 32
  retry : RetryPolicy := {}
  deriving DecidableEq, Repr

/-! ## Reading settings -/

/-- A tree of settings. -/
inductive Setting where
  | flag (on : Bool)
  | natural (n : Nat)
  | list (items : List Setting)
  | table (entries : List (String × Setting))
  | other
  deriving Repr

namespace Setting

/-- Reads a flag. -/
def toFlag? : Setting → Option Bool
  | .flag on => some on
  | _ => none

/-- Reads a number of sixty-four bits. -/
def toWord? : Setting → Option UInt64
  | .natural n => if n ≤ maxWord then some (.ofNat n) else none
  | _ => none

/-- The setting of a name, or at a place of a list that gives the settings in order. -/
def entry? (setting : Setting) (name : String) (place : Nat) : Option Setting :=
  match setting with
  | .table entries => entries.lookup name
  | .list items => items[place]?
  | _ => none

/-- Whether the tree can hold a number of settings. -/
def holds (setting : Setting) (count : Nat) : Bool :=
  match setting with
  | .table _ => true
  | .list items => items.length ≤ count
  | _ => false

/-- Reads a setting, or takes the default where it is missing. -/
def readOr {α : Type} (setting : Setting) (name : String) (place : Nat)
    (read : Setting → Option α) (default : α) : Option α :=
  match setting.entry? name place with
  | some entry => read entry
  | none => some default

end Setting

def RetryPolicy.ofSetting? (setting : Setting) : Option RetryPolicy := do
  guard (setting.holds 3)
  let base : RetryPolicy := {}
  return {
    maxRetries := ← setting.readOr "max_retries" 0 Setting.toWord? base.maxRetries
    backoff := ← setting.readOr "backoff_ms" 1 Setting.toWord? base.backoff
    backoffCap := ← setting.readOr "backoff_cap_ms" 2 Setting.toWord? base.backoffCap }

def ServiceConfig.ofSetting? (setting : Setting) : Option ServiceConfig := do
  guard (setting.holds 3)
  let base : ServiceConfig := {}
  return {
    excludeNullOnInsert :=
      ← setting.readOr "exclude_null_on_insert" 0 Setting.toFlag? base.excludeNullOnInsert
    maxCascadeDepth :=
      ← setting.readOr "max_cascade_depth" 1 Setting.toWord? base.maxCascadeDepth
    retry := ← setting.readOr "retry" 2 RetryPolicy.ofSetting? base.retry }

/-! ## Text -/

def RetryPolicy.text (policy : RetryPolicy) : String :=
  "RetryConfig \x7b max_retries: " ++ toString policy.maxRetries.toNat
    ++ ", backoff_ms: " ++ toString policy.backoff.toNat
    ++ ", backoff_cap_ms: " ++ toString policy.backoffCap.toNat ++ " \x7d"

/-- The text of the settings in the description of a service. -/
def ServiceConfig.text (config : ServiceConfig) : String :=
  "ServiceConfig \x7b exclude_null_on_insert: "
    ++ (if config.excludeNullOnInsert then "true" else "false")
    ++ ", max_cascade_depth: " ++ toString config.maxCascadeDepth.toNat
    ++ ", retry: " ++ config.retry.text ++ " \x7d"

end DocumentStore
