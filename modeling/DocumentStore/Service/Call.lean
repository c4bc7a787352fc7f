import DocumentStore.Key
import DocumentStore.Query
import DocumentStore.Record
import DocumentStore.Index
import DocumentStore.Service.Rule
import DocumentStore.Update

/-!
# Calls to a service

The requests that a service answers, as data, each with the type of its answer. Identifiers and
documents are given in their stored form and read by the service that is called.
-/
namespace DocumentStore

/-- What a service tells about itself. -/
structure ServiceInfo where
  collection : String
  rules : RuleSet Unit Unit
  config : ServiceConfig
  /-- How many delete rules the service was handed down through. -/
  depth : Nat

def ServiceInfo.text (info : ServiceInfo) : String :=
  "Service \x7b collection: " ++ RuleSet.quoted info.collection ++ ", rules: "
    ++ info.rules.text ++ ", config: " ++ info.config.text ++ " \x7d"

namespace Service

/-- A request to a service. -/
inductive Call where
  | find (query : Query)
  | findDocuments (query : Query)
  | findOne (filter : Document)
  | get (id : Value)
  | findIds (filter : Document)
  | count (filter : Document)
  | contains (id : Value)
  | insert (data : Document)
  | insertMany (data : List Document)
  | create (data : Document)
  | updateMany (filter changes : Document)
  | updateOne (filter changes : Document)
  | updateById (id : Value) (changes : Document)
  | update (id : Value) (changes : Document)
  | deleteMany (filter : Document)
  | deleteOne (filter : Document)
  | delete (id : Value)
  | aggregate (stages : List Document)
  | aggregateAs (record : Record) (stages : List Document)
  | createIndexes
  | createIndex (name : String) (index : Index)
  | dropIndex (name : String)
  | dropIndexes
  | listIndexes
  | supportsTransactions
  | rules
  | info

@[reducible] def Call.Answer : Call → Type
  | .find _ => List Document
  | .findDocuments _ => List Document
  | .findOne _ => Option Document
  | .get _ => Option Document
  | .findIds _ => List Key
  | .count _ => Nat
  | .contains _ => Bool
  | .insert _ => Key
  | .insertMany _ => List Key
  | .create _ => Document
  | .updateMany _ _ => Update.Outcome
  | .updateOne _ _ => Update.Outcome
  | .updateById _ _ => Update.Outcome
  | .update _ _ => Document
  | .deleteMany _ => Nat
  | .deleteOne _ => Nat
  | .delete _ => Nat
  | .aggregate _ => List Document
  | .aggregateAs _ _ => List Document
  | .createIndexes => List String
  | .createIndex _ _ => String
  | .dropIndex _ => Unit
  | .dropIndexes => Unit
  | .listIndexes => List String
  | .supportsTransactions => Bool
  | .rules => ServiceInfo
  | .info => ServiceInfo

end Service

end DocumentStore
