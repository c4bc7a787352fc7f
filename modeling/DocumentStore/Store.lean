import DocumentStore.Store.Collections
import DocumentStore.Store.Registry

/-!
# The store

A store holds the committed documents and the sessions that are open on it. A transaction works
on a private copy of all collections, taken when it starts. Its commit publishes the copy if
nothing else was written in between: every write outside of transactions and every commit moves
the version of the store on, and a transaction remembers the version that it started from.

Calls that name a session without a transaction, or none at all, see and write the committed
documents.
-/
namespace DocumentStore

/-! ## State -/

/-- What a transaction works on. -/
structure Snapshot where
  /-- The version of the store that the copy was taken from. -/
  base : Nat
  collections : Collections

/-- A session, with its transaction if one is open. -/
structure Session where
  id : Nat
  transaction : Option Snapshot := none

/-- The number of a session. -/
abbrev SessionId := Nat

/-- Where no session was opened yet, the next one gets the first number. -/
theorem numbered_nil : (([] : List Session).map Session.id ++ [0 + 1]).Pairwise (· < ·) :=
  List.pairwise_singleton _ _

/-- Documents, indexes and sessions. -/
structure Store where
  collections : Collections := []
  indexes : Registry := []
  /-- How often the committed documents were written. -/
  version : Nat := 0
  /-- Whether transactions are supported. -/
  transactional : Bool := true
  /-- The sessions that were opened and not dropped. -/
  sessions : List Session := []
  /-- How many sessions were ever opened. -/
  opened : Nat := 0
  committed : Nat := 0
  aborted : Nat := 0
  /-- How many of the next starts are made to fail. -/
  failingStarts : Nat := 0
  /-- How many of the next commits are made to fail. -/
  failingCommits : Nat := 0
  /-- Sessions are numbered in the order in which they were opened. -/
  numbered : (sessions.map (·.id) ++ [opened + 1]).Pairwise (· < ·) := by exact numbered_nil

namespace Store

/-! ## Sessions -/

/-- The next number is above those that were given before. -/
theorem numbered_append {sessions : List Session} {opened : Nat}
    (h : (sessions.map (·.id) ++ [opened + 1]).Pairwise (· < ·)) :
    ((sessions ++ [Session.mk (opened + 1) none]).map (·.id) ++ [opened + 1 + 1]).Pairwise
      (· < ·) := by
  have hlt : ∀ id ∈ sessions.map (·.id) ++ [opened + 1], id < opened + 1 + 1 := by
    intro id hid
    rcases List.mem_append.mp hid with hid | hid
    · exact Nat.lt_succ_of_lt ((List.pairwise_append.mp h).2.2 id hid _ (by simp))
    · simp_all
  rw [List.map_append]
  exact List.pairwise_append.mpr ⟨h, by simp, fun id hid _ hnext => by
    rw [List.mem_singleton.mp hnext]; exact hlt id hid⟩

/-- Opens a session and answers its number. -/
def openSession (s : Store) : SessionId × Store :=
  let id := s.opened + 1
  (id, { s with
    sessions := s.sessions ++ [⟨id, none⟩]
    opened := id
    numbered := numbered_append s.numbered })

def transaction? (s : Store) (id : SessionId) : Option Snapshot :=
  (s.sessions.find? (·.id == id)).bind (·.transaction)

def inTransaction (s : Store) (id : SessionId) : Bool := (s.transaction? id).isSome

/-- A session with a transaction put on it if it is the one of a number. -/
def withTransaction (id : SessionId) (transaction : Option Snapshot) (session : Session) :
    Session :=
  if session.id = id then { session with transaction } else session

@[simp] theorem withTransaction_id (id : SessionId) (transaction : Option Snapshot)
    (session : Session) : (withTransaction id transaction session).id = session.id := by
  unfold withTransaction; split <;> rfl

/-- Puts a transaction on a session, or none. -/
def setTransaction (s : Store) (id : SessionId) (transaction : Option Snapshot) : Store :=
  { s with
    sessions := s.sessions.map (withTransaction id transaction)
    numbered := by simpa [Function.comp_def] using s.numbered }

/-! ## Reading and writing documents -/

/-- The documents that a call on a session works on. -/
def view (s : Store) (session : Option SessionId) : Collections :=
  match session.bind s.transaction? with
  | some snapshot => snapshot.collections
  | none => s.collections

/-- Writes the documents that a call on a session works on. A write to the committed documents
moves the version on if it succeeds. -/
def write {α : Type} (s : Store) (session : Option SessionId)
    (f : Collections → Result α × Collections) : Result α × Store :=
  match session.bind fun id => (s.transaction? id).map (id, ·) with
  | some (id, snapshot) =>
    let (result, collections) := f snapshot.collections
    (result, s.setTransaction id (some { snapshot with collections }))
  | none =>
    let (result, collections) := f s.collections
    match result with
    | .ok value => (.ok value, { s with collections, version := s.version + 1 })
    | .error e => (.error e, { s with collections })

/-! ## Transactions -/

def start (s : Store) (id : SessionId) : Result Unit × Store :=
  if s.inTransaction id then (.error (.backend (.transactionOpen id)), s)
  else if !s.transactional then (.error (.backend .transactionsUnsupported), s)
  else if s.failingStarts > 0 then
    (.error (.transientTransaction .injectedStart),
      { s with failingStarts := s.failingStarts - 1 })
  else (.ok (), s.setTransaction id (some ⟨s.version, s.collections⟩))

/-- Closes the transaction of a session without publishing it. -/
def abort (s : Store) (id : SessionId) : Store :=
  if s.inTransaction id then { s.setTransaction id none with aborted := s.aborted + 1 } else s

/-- Publishes the transaction of a session. If it cannot be published it is closed as well. -/
def commit (s : Store) (id : SessionId) : Result Unit × Store :=
  match s.transaction? id with
  | none => (.error (.backend (.noTransaction id)), s)
  | some snapshot =>
    if s.failingCommits > 0 then
      (.error (.transientTransaction .injectedCommit),
        { s.abort id with failingCommits := s.failingCommits - 1 })
    else if s.version ≠ snapshot.base then
      (.error (.transientTransaction (.conflict snapshot.base s.version)), s.abort id)
    else
      (.ok (), { s.setTransaction id none with
        collections := snapshot.collections
        version := s.version + 1
        committed := s.committed + 1 })

/-- Drops a session and whatever transaction is open on it. -/
def dropSession (s : Store) (id : SessionId) : Store :=
  let aborted := s.abort id
  { aborted with
    sessions := aborted.sessions.filter (·.id != id)
    numbered := aborted.numbered.sublist
      ((List.filter_sublist.map _).append (List.Sublist.refl _)) }

/-! ## Injected failures -/

/-- Makes the next starts fail. -/
def failStarts (s : Store) (count : Nat) : Store := { s with failingStarts := count }

/-- Makes the next commits fail. -/
def failCommits (s : Store) (count : Nat) : Store := { s with failingCommits := count }

/-! ## Building -/

/-- Checks that the documents of each collection have different identifiers. -/
def checkSeed : Collections → Result Unit
  | [] => .ok ()
  | (name, ds) :: rest => do
    Collections.checkNew name [] ds
    checkSeed rest

/-- The store that begins with some documents, given one list after the other. -/
def build (transactional : Bool) (seed : List (String × List Document)) : Result Store := do
  let collections : Collections := seed.foldl
    (fun cs entry => Collections.put cs entry.1 (Collections.documents cs entry.1 ++ entry.2)) []
  checkSeed collections
  return { collections, transactional }

end Store

end DocumentStore
