import DocumentStore.Pipeline.Stage
import DocumentStore.Proofs.Store.Effects

/-!
# Searches as pipelines

A search selects documents, sorts them, leaves some out, cuts off the rest and projects what is
left. A pipeline has a stage for each of these steps, so a search can be written as one. The two
go through the documents in loops of their own: a search finds positions and takes the documents
there, while a stage keeps the documents. They also differ in how they take their numbers: the
options of a search are numbers already, and a limit of zero stands for none, while a stage reads
its number from a value and takes zero as it is.
-/
namespace DocumentStore

/-! ## The stages of a search -/

namespace Pipeline

variable [Pattern.Engine] {operand : Value} (rest ds : List Document)

/-- A pipeline begins with its first stage if the operator of that is known. -/
theorem run_stage (kind : StageKind) (op : Operator) (operand : Value)
    (h : Operator.ofName? kind.operator = some op) :
    run (kind.stage operand :: rest) ds
      = (do run rest (← runStage op kind.operator operand ds)) := by
  simp only [StageKind.stage, Document.single, run, h]

theorem run_match (filter : Document) :
    run (StageKind.match.stage (.document filter) :: rest) ds
      = (do run rest (← keepMatching filter ds)) :=
  run_stage rest ds .match .match _ (by decide)

theorem run_sort (sort : Document) :
    run (StageKind.sort.stage (.document sort) :: rest) ds = run rest (Sort.documents sort ds) :=
  run_stage rest ds .sort .sort _ (by decide)

omit [Pattern.Engine] in
/-- The number of a stage that cuts a list is the integer that its operand is read as. -/
theorem count_of_integer {name : String} {n : Int} (h : operand.integer name = .ok n) :
    count name operand = .ok n.toNat := by
  simp only [count, h]
  rfl

theorem run_skip {n : Int} (h : operand.integer StageKind.skip.operator = .ok n) :
    run (StageKind.skip.stage operand :: rest) ds = run rest (ds.drop n.toNat) := by
  rw [run_stage rest ds .skip .skip operand (by decide)]
  simp only [runStage, count_of_integer h]
  rfl

theorem run_limit {n : Int} (h : operand.integer StageKind.limit.operator = .ok n) :
    run (StageKind.limit.stage operand :: rest) ds = run rest (ds.take n.toNat) := by
  rw [run_stage rest ds .limit .limit operand (by decide)]
  simp only [runStage, count_of_integer h]
  rfl

theorem run_project (projection : Document) :
    run (StageKind.project.stage (.document projection) :: rest) ds
      = run rest (ds.map (Projection.apply projection)) :=
  run_stage rest ds .project .project _ (by decide)

end Pipeline

/-! ## The search and its pipeline -/

namespace Collections

/-- The sign of a limit matters to a stage only, which keeps nothing where it is negative. -/
theorem takeLimit_of_pos {n : Int} (h : 0 < n) (ds : List Document) :
    takeLimit (some n) ds = ds.take n.toNat := by
  have habs : n.natAbs = n.toNat := by omega
  rw [takeLimit, if_neg (by omega), habs]

section

variable [Pattern.Engine] {filter sort projection : Document} {skipped limited : Value}
  {skip : Nat} {limit : Int}

/-- The pipeline of a search arranges what its first stage keeps, as the search does. -/
theorem run_search (hskip : skipped.integer StageKind.skip.operator = .ok skip)
    (hlimit : limited.integer StageKind.limit.operator = .ok limit) (hpos : 0 < limit)
    (ds : List Document) :
    Pipeline.run [StageKind.match.stage (.document filter), StageKind.sort.stage (.document sort),
        StageKind.skip.stage skipped, StageKind.limit.stage limited,
        StageKind.project.stage (.document projection)] ds
      = (do
          let found ← Pipeline.keepMatching filter ds
          return arrange ⟨some sort, some skip, some limit, some projection⟩ found) := by
  rw [Pipeline.run_match]
  cases Pipeline.keepMatching filter ds with
  | error e => rfl
  | ok found =>
    calc Pipeline.run _ found
        = Pipeline.run _ ((Sort.documents sort found).drop skip) := by
          rw [Pipeline.run_sort, Pipeline.run_skip _ _ hskip, Int.toNat_natCast]
      _ = .ok (((Sort.documents sort found).drop skip).take limit.toNat |>.map
            (Projection.apply projection)) := by
          rw [Pipeline.run_limit _ _ hlimit, Pipeline.run_project, Pipeline.run]
      _ = .ok (arrange ⟨some sort, some skip, some limit, some projection⟩ found) := by
          simp only [arrange, takeLimit_of_pos hpos, Option.getD_some]

end

end Collections

namespace Store

/-- A search of a collection that is there is the pipeline of its steps: both bring the same
documents in the same order, or fail with the same error. The numbers of the stages may be written
as values of any type that is read as an integer, and the limit must be positive. -/
theorem find_eq_aggregate [Pattern.Engine] {s : Store} {session : Option SessionId} {name : String}
    {ds : List Document} (h : (s.view session).get? name = some ds)
    (filter sort projection : Document) {skipped limited : Value} {skip : Nat} {limit : Int}
    (hskip : skipped.integer StageKind.skip.operator = .ok skip)
    (hlimit : limited.integer StageKind.limit.operator = .ok limit) (hpos : 0 < limit)
    (fresh : Nat → ObjectId) :
    s.answer session fresh
        (.find name filter ⟨some sort, some skip, some limit, some projection⟩)
      = s.answer session fresh
          (.aggregate name [StageKind.match.stage (.document filter),
            StageKind.sort.stage (.document sort), StageKind.skip.stage skipped,
            StageKind.limit.stage limited, StageKind.project.stage (.document projection)]) := by
  simp only [answer, Collections.find, Collections.aggregate, Collections.select_of_get? h,
    Collections.documents_of_get? h, Collections.run_search hskip hlimit hpos]

/-- The second of two documents in descending order, found in either way. -/
theorem find_eq_aggregate_second :
    let s : Store := { collections := [("c", [[("a", .int32 1)], [("a", .int32 2)]])] }
    s.answer none ObjectId.generated
        (.find "c" [] ⟨some [("a", .int32 (-1))], some 1, some 1, some []⟩)
      = s.answer none ObjectId.generated
          (.aggregate "c" [StageKind.match.stage (.document []),
            StageKind.sort.stage (.document [("a", .int32 (-1))]),
            Stage.skip 1, Stage.limit 1, StageKind.project.stage (.document [])]) ∧
      (s.answer none ObjectId.generated
        (.find "c" [] ⟨some [("a", .int32 (-1))], some 1, some 1, some []⟩)).1
          = .ok [[("a", .int32 1)]] :=
  ⟨find_eq_aggregate rfl [] [("a", .int32 (-1))] [] rfl rfl (by decide) _, by rfl⟩

end Store

end DocumentStore
