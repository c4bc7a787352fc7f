import DocumentStore.Query

/-!
# Stages of aggregation

An aggregation is a list of stages, each a document with one operator. Here are the operators
that a stage may be built from, whether or not a store can run them.
-/
namespace DocumentStore

/-- The operator of a stage. -/
inductive StageKind where
  | addFields | bucket | bucketAuto | changeStream | changeStreamSplitLargeEvent | collStats |
  count | currentOp | densify | documents | facet | fill | geoNear | graphLookup | group |
  indexStats | limit | listLocalSessions | listSampledQueries | listSearchIndexes |
  listSessions | lookup | match | merge | out | planCacheStats | project | querySettings |
  redact | replaceRoot | replaceWith | sample | search | searchMeta | set | setWindowFields |
  shardedDataDistribution | skip | sort | sortByCount | unionWith | unset | unwind |
  vectorSearch
  deriving DecidableEq, Repr

namespace StageKind

/-- The word of an operator. -/
def word : StageKind → String
  | .addFields => "addFields"
  | .bucket => "bucket"
  | .bucketAuto => "bucketAuto"
  | .changeStream => "changeStream"
  | .changeStreamSplitLargeEvent => "changeStreamSplitLargeEvent"
  | .collStats => "collStats"
  | .count => "count"
  | .currentOp => "currentOp"
  | .densify => "densify"
  | .documents => "documents"
  | .facet => "facet"
  | .fill => "fill"
  | .geoNear => "geoNear"
  | .graphLookup => "graphLookup"
  | .group => "group"
  | .indexStats => "indexStats"
  | .limit => "limit"
  | .listLocalSessions => "listLocalSessions"
  | .listSampledQueries => "listSampledQueries"
  | .listSearchIndexes => "listSearchIndexes"
  | .listSessions => "listSessions"
  | .lookup => "lookup"
  | .match => "match"
  | .merge => "merge"
  | .out => "out"
  | .planCacheStats => "planCacheStats"
  | .project => "project"
  | .querySettings => "querySettings"
  | .redact => "redact"
  | .replaceRoot => "replaceRoot"
  | .replaceWith => "replaceWith"
  | .sample => "sample"
  | .search => "search"
  | .searchMeta => "searchMeta"
  | .set => "set"
  | .setWindowFields => "setWindowFields"
  | .shardedDataDistribution => "shardedDataDistribution"
  | .skip => "skip"
  | .sort => "sort"
  | .sortByCount => "sortByCount"
  | .unionWith => "unionWith"
  | .unset => "unset"
  | .unwind => "unwind"
  | .vectorSearch => "vectorSearch"

def operator (kind : StageKind) : String := "$" ++ kind.word

/-- Every operator. -/
def list : List StageKind :=
  [.addFields, .bucket, .bucketAuto, .changeStream, .changeStreamSplitLargeEvent, .collStats,
   .count, .currentOp, .densify, .documents, .facet, .fill, .geoNear, .graphLookup, .group,
   .indexStats, .limit, .listLocalSessions, .listSampledQueries, .listSearchIndexes,
   .listSessions, .lookup, .match, .merge, .out, .planCacheStats, .project, .querySettings,
   .redact, .replaceRoot, .replaceWith, .sample, .search, .searchMeta, .set, .setWindowFields,
   .shardedDataDistribution, .skip, .sort, .sortByCount, .unionWith, .unset, .unwind,
   .vectorSearch]

/-- Reads the name of an operator, which begins with a capital letter. -/
def ofName? (name : String) : Option StageKind :=
  list.find? fun kind => kind.word.capitalize == name

def stage (kind : StageKind) (operand : Value) : Document :=
  Document.single kind.operator operand

end StageKind

/-! ## Building stages -/

namespace Stage

/-- Keeps the documents that meet a clause. -/
def filter (clause : Clause) : Document := StageKind.match.stage (.document clause.compile)

def sort (path : String) (direction : Direction) : Document :=
  StageKind.sort.stage (.document (Document.single path direction.value))

/-- Leaves out a number of documents. -/
def skip (count : Int64) : Document := StageKind.skip.stage (.int64 count)

/-- Keeps at most a number of documents. -/
def limit (count : Int64) : Document := StageKind.limit.stage (.int64 count)

end Stage

end DocumentStore
