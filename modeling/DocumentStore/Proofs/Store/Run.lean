import DocumentStore.Proofs.Store.Effects

/-!
# Runs of a store

What can happen to a store, in any order: sessions are opened and dropped, transactions start and
end, failures are injected, and calls are made on sessions or without one.
-/
namespace DocumentStore.Store

/-- A call with the identifiers that were made up for it. -/
structure IssuedCall where
  fresh : Nat → ObjectId
  call : Call

/-- What can happen to a store. -/
inductive Event where
  | openSession
  | dropSession (id : SessionId)
  | start (id : SessionId)
  | commit (id : SessionId)
  /-- A transaction is aborted or discarded. -/
  | abort (id : SessionId)
  | failStarts (count : Nat)
  | failCommits (count : Nat)
  | call (session : Option SessionId) (issued : IssuedCall)

def step (s : Store) : Event → Store
  | .openSession => s.openSession.2
  | .dropSession id => s.dropSession id
  | .start id => (s.start id).2
  | .commit id => (s.commit id).2
  | .abort id => s.abort id
  | .failStarts count => s.failStarts count
  | .failCommits count => s.failCommits count
  | .call session issued => (s.answer session issued.fresh issued.call).2

/-- The store after events in order. -/
def run (s : Store) (events : List Event) : Store := events.foldl step s

end DocumentStore.Store
