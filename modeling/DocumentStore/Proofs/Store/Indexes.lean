import DocumentStore.Proofs.Service.Registration
import DocumentStore.Proofs.Store.LeftOver

/-!
# Declared indexes

What the indexes of a collection are after any run of a store can be read off the run itself. A
name is declared if it was created and not dropped since, alone or with all others, its place is
that of its first creation since, and its declaration is the last one. The name of the index on the
identifier is listed in front of them. It is not kept from being declared as well, and then it is
listed twice and can be dropped.
-/
namespace DocumentStore

/-- The name that an index is created under: the one that it is given, or else its default name. -/
def Index.givenName (index : Index) (name : String) : String :=
  if name.isEmpty then index.defaultName else name

namespace IndexTable

/-! ## Changes -/

/-- A change to the declared indexes of a collection. -/
inductive Change where
  | declare (name : String) (index : Index)
  | drop (name : String)
  | dropAll

namespace Change

/-- Makes a change. -/
def apply (table : IndexTable) : Change → IndexTable
  | .declare name index => table.declare name index
  | .drop name => table.drop name
  | .dropAll => []

def declared? : Change → Option (String × Index)
  | .declare name index => some (name, index)
  | .drop _ | .dropAll => none

def drops (name : String) : Change → Bool
  | .declare _ _ => false
  | .drop other => other == name
  | .dropAll => true

end Change

/-- The declarations of a history whose name was not dropped afterwards, in order. -/
def standing : List Change → IndexTable
  | [] => []
  | change :: later =>
    match change.declared? with
    | some entry =>
      if later.any (·.drops entry.1) then standing later else entry :: standing later
    | none => standing later

theorem standing_concat (changes : List Change) (change : Change) :
    standing (changes ++ [change])
      = (standing changes).filter (fun entry => !change.drops entry.1)
        ++ change.declared?.toList := by
  induction changes with
  | nil => cases change <;> rfl
  | cons first later ih =>
    rw [List.cons_append, standing, standing, ih]
    cases first.declared? with
    | none => rfl
    | some entry =>
      simp only [List.any_append, List.any_cons, List.any_nil, Bool.or_false]
      cases later.any (·.drops entry.1) <;> cases hlast : change.drops entry.1 <;> simp [hlast]

/-! ## Tables as lists of rules -/

/-- An index with its name. Tables of indexes change as lists of rules do. -/
def rule (entry : String × Index) : Rule Unit Index := ⟨entry.1, (), entry.2⟩

theorem map_rule_declare (table : IndexTable) (name : String) (index : Index) :
    (table.declare name index).map rule = Rule.register (table.map rule) (rule (name, index)) := by
  induction table with
  | nil => rfl
  | cons entry rest ih =>
    rw [declare, List.map_cons, Rule.register]
    by_cases hname : entry.1 = name
    · rw [if_pos hname, if_pos (show (rule entry).name = (rule (name, index)).name from hname)]
      rfl
    · rw [if_neg hname, if_neg (show (rule entry).name ≠ (rule (name, index)).name from hname),
        List.map_cons, ih]

theorem map_rule_drop (table : IndexTable) (name : String) :
    (table.drop name).map rule = Rule.remove (table.map rule) name := by
  rw [drop, Rule.remove, List.filter_map]
  rfl

theorem rule_injective : Function.Injective rule := fun entry other h => by
  obtain ⟨name, index⟩ := entry
  obtain ⟨name', index'⟩ := other
  cases h
  rfl

/-- After any history, the declared indexes are the latest of the declarations that stand. -/
theorem latest_of_changes (changes : List Change) :
    Rule.Latest ((standing changes).map rule) ((changes.foldl Change.apply []).map rule) := by
  induction changes using List.reverseRecOn with
  | nil => exact ⟨rfl, nofun⟩
  | append_singleton changes change ih =>
    rw [List.foldl_append, List.foldl_cons, List.foldl_nil, standing_concat]
    cases change with
    | declare name index =>
      -- a declaration drops nothing that stands, also not one of its own name
      have hall : (standing changes).filter
          (fun entry => !(Change.declare name index).drops entry.1) = standing changes :=
        List.filter_eq_self.mpr fun _ _ => rfl
      rw [hall, List.map_append, Change.apply, map_rule_declare]
      exact ih.register (rule (name, index))
    | drop name =>
      have hkept : ((standing changes).filter
          fun entry => !(Change.drop name).drops entry.1).map rule
            = ((standing changes).map rule).filter (·.name != name) := by
        rw [List.filter_map]
        refine congrArg _ (List.filter_congr fun entry _ => ?_)
        exact congrArg _ (BEq.comm (a := name) (b := entry.1))
      rw [Change.declared?, Option.toList_none, List.append_nil, hkept, Change.apply, map_rule_drop]
      exact ih.remove name
    | dropAll =>
      have hnone : (standing changes).filter (fun entry => !Change.dropAll.drops entry.1) = [] :=
        List.filter_eq_nil_iff.mpr fun _ _ => by simp [Change.drops]
      rw [hnone]
      exact ⟨rfl, nofun⟩

theorem map_fst_of_changes (changes : List Change) :
    (changes.foldl Change.apply []).map (·.1) = ((standing changes).map (·.1)).eraseDups := by
  have hnames := (latest_of_changes changes).names
  rwa [List.map_map, List.map_map] at hnames

/-- What a history leaves under a name is the last of its declarations that stand. -/
theorem getLast?_of_changes (changes : List Change) {entry : String × Index}
    (h : entry ∈ changes.foldl Change.apply []) :
    ((standing changes).filter (·.1 == entry.1)).getLast? = some entry := by
  have hlast := (latest_of_changes changes).last (rule entry) (List.mem_map_of_mem h)
  rw [List.filter_map, List.getLast?_map] at hlast
  obtain ⟨last, hstands, heq⟩ := Option.map_eq_some_iff.mp hlast
  exact rule_injective heq ▸ hstands

/-! ## One change -/

section Table

variable {table : IndexTable} {name : String}

/-- A new name goes to the end. -/
theorem declare_of_new (index : Index) (h : name ∉ table.map (·.1)) :
    table.declare name index = table ++ [(name, index)] := by
  refine List.map_injective_iff.mpr rule_injective ?_
  rw [map_rule_declare, List.map_append, Rule.register_of_new (by rwa [List.map_map])]
  rfl

/-- A name that is declared keeps its place. -/
theorem declare_of_declared (index : Index) (hnodup : (table.map (·.1)).Nodup)
    (h : name ∈ table.map (·.1)) :
    table.declare name index
      = table.map fun entry => if entry.1 = name then (name, index) else entry := by
  refine List.map_injective_iff.mpr rule_injective ?_
  rw [map_rule_declare,
    Rule.register_of_taken (rule (name, index)) (by rwa [List.map_map]) (by rwa [List.map_map]),
    List.map_map, List.map_map]
  exact List.map_congr_left fun entry _ => (apply_ite rule ..).symm

theorem drop_of_unknown (h : name ∉ table.map (·.1)) : table.drop name = table :=
  List.filter_eq_self.mpr fun _ hentry => bne_iff_ne.mpr fun heq =>
    h (heq ▸ List.mem_map_of_mem hentry)

theorem length_drop_eq_iff : (table.drop name).length = table.length ↔ name ∉ table.map (·.1) := by
  rw [drop, List.length_filter_eq_length_iff]
  grind

end Table

end IndexTable

namespace Registry

theorem table_cons (key collection : String) (old : IndexTable) (rest : Registry) :
    table ((key, old) :: rest) collection
      = if collection = key then old else rest.table collection := by
  rw [table, List.lookup_cons]
  by_cases h : collection = key
  · rw [if_pos h, beq_iff_eq.mpr h]
    rfl
  · rw [if_neg h, beq_eq_false_iff_ne.mpr h]
    rfl

theorem table_put (registry : Registry) (collection other : String) (table : IndexTable) :
    (registry.put collection table).table other
      = if other = collection then table else registry.table other := by
  induction registry with
  | nil => exact table_cons collection other table []
  | cons entry rest ih =>
    obtain ⟨key, old⟩ := entry
    rw [put]
    split
    · next hkey =>
      rw [table_cons, table_cons, hkey]
      split <;> rfl
    · next hkey =>
      rw [table_cons, table_cons, ih]
      grind

end Registry

namespace Store

open IndexTable

/-! ## Indexes in a run -/

/-- The change that a call makes to the declared indexes of its collection. An index without keys is
refused. -/
def Call.indexChange? : Call → Option Change
  | .createIndex _ name index =>
    if index.keys.isEmpty then none else some (.declare (index.givenName name) index)
  | .dropIndex _ name => some (.drop name)
  | .dropIndexes _ => some .dropAll
  | _ => none

/-- The change that an event makes to the declared indexes of a collection. -/
def Event.indexChange? (collection : String) : Event → Option Change
  | .call _ issued => if issued.call.collection = collection then issued.call.indexChange? else none
  | _ => none

/-- Replaces the declared indexes of a collection. -/
def withTable (s : Store) (collection : String) (table : IndexTable) : Store :=
  { s with indexes := s.indexes.put collection table }

@[simp] theorem table_withTable (s : Store) (collection other : String) (table : IndexTable) :
    (s.withTable collection table).indexes.table other
      = if other = collection then table else s.indexes.table other :=
  Registry.table_put s.indexes collection other table

section Step

variable (s : Store) (session : Option SessionId) (fresh : Nat → ObjectId) (collection : String)

theorem createIndex_ok (name : String) {index : Index} (h : index.keys ≠ []) :
    s.answer session fresh (.createIndex collection name index)
      = (.ok (index.givenName name), s.withTable collection
          ((s.indexes.table collection).declare (index.givenName name) index)) := by
  simp only [answer, writeIndexes, Registry.create, List.isEmpty_iff, h, if_false]
  rfl

theorem createIndex_without_keys (name : String) {index : Index} (h : index.keys = []) :
    s.answer session fresh (.createIndex collection name index)
      = (.error (.invalidQuery .emptyIndex), s) := by
  simp [answer, writeIndexes, Registry.create, h]

theorem dropIndex_ok {name : String} (h : name ∈ (s.indexes.table collection).map (·.1)) :
    s.answer session fresh (.dropIndex collection name)
      = (.ok (), s.withTable collection ((s.indexes.table collection).drop name)) := by
  have hlength := mt length_drop_eq_iff.mp (not_not.mpr h)
  simp only [answer, writeIndexes, Registry.drop, if_neg hlength]
  rfl

theorem dropIndex_unknown {name : String} (h : name ∉ (s.indexes.table collection).map (·.1)) :
    s.answer session fresh (.dropIndex collection name)
      = (.error (.backend (.unknownIndex name collection)), s) := by
  simp only [answer, writeIndexes, Registry.drop, if_pos (length_drop_eq_iff.mpr h)]
  rfl

/-- A call changes the declared indexes of its collection and of no other. -/
theorem table_answer (call : Call) :
    (s.answer session fresh call).2.indexes.table collection
      = if collection = call.collection then
          call.indexChange?.toList.foldl Change.apply (s.indexes.table call.collection)
        else s.indexes.table collection := by
  -- what a call does that changes no indexes, in its own collection and in others
  have hsame {t : Store} (h : t.indexes = s.indexes) (target : String) :
      t.indexes.table collection
        = if collection = target then s.indexes.table target else s.indexes.table collection := by
    rw [h]
    split
    · next heq => rw [heq]
    · rfl
  cases call with
  | createIndex target name index =>
    by_cases hkeys : index.keys = []
    · rw [createIndex_without_keys s session fresh target name hkeys]
      simpa [Call.indexChange?, Call.collection, hkeys] using hsame rfl target
    · rw [createIndex_ok s session fresh target name hkeys, table_withTable]
      simp [Call.indexChange?, Call.collection, Change.apply, hkeys]
  | dropIndex target name =>
    by_cases hname : name ∈ (s.indexes.table target).map (·.1)
    · rw [dropIndex_ok s session fresh target hname, table_withTable]
      rfl
    · rw [dropIndex_unknown s session fresh target hname]
      simpa [Call.indexChange?, Call.collection, Change.apply, drop_of_unknown hname]
        using hsame rfl target
  | dropIndexes target => exact s.table_withTable target collection []
  | update target filter changes many =>
    -- an update that is malformed does not get as far as a write
    refine hsame ?_ target
    cases hcheck : Update.check changes <;> simp only [answer, hcheck, write_indexes]
  | insert target | insertMany target | delete target =>
    exact hsame (by simp only [answer, insertAll, write_indexes]) target
  | find target | findOne target | count target | aggregate target | listIndexes target =>
    exact hsame rfl target

end Step

section Sessions

variable (s : Store) (id : SessionId)

theorem indexes_abort : (s.abort id).indexes = s.indexes := by
  unfold abort
  split <;> rfl

theorem indexes_start : (s.start id).2.indexes = s.indexes := by
  unfold start
  split_ifs <;> rfl

theorem indexes_commit : (s.commit id).2.indexes = s.indexes := by
  unfold commit
  split
  · rfl
  · split_ifs
    · exact indexes_abort s id
    · exact indexes_abort s id
    · rfl

end Sessions

/-- An event changes the declared indexes of a collection as its change says. -/
theorem table_step (s : Store) (collection : String) (event : Event) :
    (s.step event).indexes.table collection
      = (event.indexChange? collection).toList.foldl Change.apply (s.indexes.table collection) := by
  cases event with
  | call session issued =>
    refine (s.table_answer session issued.fresh collection issued.call).trans ?_
    rw [Event.indexChange?]
    by_cases h : issued.call.collection = collection
    · rw [if_pos h, if_pos h.symm, h]
    · rw [if_neg h, if_neg (Ne.symm h)]
      rfl
  | start id => exact congrArg (Registry.table · collection) (s.indexes_start id)
  | commit id => exact congrArg (Registry.table · collection) (s.indexes_commit id)
  | abort id => exact congrArg (Registry.table · collection) (s.indexes_abort id)
  | dropSession id => exact congrArg (Registry.table · collection) (s.indexes_abort id)
  | openSession | failStarts | failCommits => rfl

/-- A run makes the changes of its events, in order. -/
theorem table_run (s : Store) (collection : String) (events : List Event) :
    (s.run events).indexes.table collection
      = (events.filterMap (Event.indexChange? collection)).foldl Change.apply
          (s.indexes.table collection) := by
  induction events generalizing s with
  | nil => rfl
  | cons event rest ih =>
    rw [run, List.foldl_cons, ← run, ih, table_step]
    cases hchange : event.indexChange? collection <;> simp [hchange]

/-! ## What is listed -/

/-- The declared indexes of a collection are an ordered map by name. After any run, their names are
those that were created and not dropped since, once each, in the order of their first creation, with
what was declared last. Creating an index answers its name, replaces a declaration of that name
where it is, and puts a new name last. An index is dropped exactly if its name is declared. The
names are listed after that of the index on the identifier. No name is listed twice, and all listed
names but that one can be dropped, exactly if it is not declared as well. -/
theorem indexes_listed (collections : Collections) (transactional : Bool) (events : List Event)
    (session : Option SessionId) (fresh : Nat → ObjectId) (collection : String) :
    let s := run { collections, transactional } events
    let table := s.indexes.table collection
    let standing := IndexTable.standing (events.filterMap (Event.indexChange? collection))
    let declared := (standing.map (·.1)).eraseDups
    let listed := Registry.idIndex :: declared
    let drops (name : String) : Prop :=
      (s.answer session fresh (.dropIndex collection name)).1 = .ok ()
    (s.answer session fresh (.listIndexes collection)).1 = .ok listed ∧
    table.map (·.1) = declared ∧ declared.Nodup ∧
    (∀ entry ∈ table, (standing.filter (·.1 == entry.1)).getLast? = some entry) ∧
    (∀ name index, index.keys ≠ [] →
      let given := index.givenName name
      let created := s.answer session fresh (.createIndex collection name index)
      created.1 = .ok given ∧
      created.2.indexes.table collection =
        if given ∈ declared then
          table.map fun entry => if entry.1 = given then (given, index) else entry
        else table ++ [(given, index)]) ∧
    (∀ name, drops name ↔ name ∈ declared) ∧
    (Registry.idIndex ∉ declared ↔
      listed.Nodup ∧ ∀ name, drops name ↔ name ∈ listed ∧ name ≠ Registry.idIndex) := by
  intro s table standing declared listed drops
  have htable : table = (events.filterMap (Event.indexChange? collection)).foldl Change.apply [] :=
    table_run { collections, transactional } collection events
  have hnames : table.map (·.1) = declared := htable ▸ map_fst_of_changes _
  have hnodup : declared.Nodup := nodup_eraseDups _
  have hdrops (name : String) : drops name ↔ name ∈ declared := by
    rw [← hnames]
    by_cases hname : name ∈ table.map (·.1)
    · exact iff_of_true (congrArg Prod.fst (s.dropIndex_ok session fresh collection hname)) hname
    · have herror := congrArg Prod.fst (s.dropIndex_unknown session fresh collection hname)
      exact iff_of_false (fun hok => nomatch herror.symm.trans hok) hname
  refine ⟨?_, hnames, hnodup, ?_, ?_, hdrops, ?_⟩
  · exact congrArg (fun names => Except.ok (Registry.idIndex :: names)) hnames
  · rw [htable]
    exact fun entry hentry => getLast?_of_changes _ hentry
  · intro name index hkeys given created
    have hcreated : created = (.ok given, s.withTable collection (table.declare given index)) :=
      s.createIndex_ok session fresh collection name hkeys
    refine ⟨congrArg Prod.fst hcreated, ?_⟩
    rw [hcreated, table_withTable, if_pos rfl]
    split
    · next hgiven => exact declare_of_declared index (hnames ▸ hnodup) (hnames ▸ hgiven)
    · next hgiven => exact declare_of_new index (hnames ▸ hgiven)
  · constructor
    · -- the names other than the reserved one are then the declared ones
      intro hreserved
      refine ⟨List.nodup_cons.mpr ⟨hreserved, hnodup⟩, fun name => (hdrops name).trans ?_⟩
      have hother (h : name ∈ declared) : name ≠ Registry.idIndex := fun heq => hreserved (heq ▸ h)
      exact ⟨fun h => ⟨List.mem_cons_of_mem _ h, hother h⟩,
        fun h => (List.mem_cons.mp h.1).resolve_left h.2⟩
    · exact fun h => (List.nodup_cons.mp h.1).1

/-- Four calls on the indexes of the people. The one on the name is declared twice. -/
def peopleIndexes : List Event :=
  [.createIndex "people" "" { keys := [("name", .int32 1)] },
    .createIndex "people" "age" { keys := [("age", .int32 1)] },
    .createIndex "people" "" { keys := [("name", .int32 1)], unique := true },
    .dropIndex "people" "city"].map fun call => .call none ⟨ObjectId.generated, call⟩

/-- The index on the name keeps its place when it is declared again, and so does the one on the age
when a descending one is created under its name. -/
theorem indexes_listed_people :
    let s := run {} peopleIndexes
    let age : Index := { keys := [("age", .int32 (-1))] }
    let created := s.answer none ObjectId.generated (.createIndex "people" "age" age)
    (s.answer none ObjectId.generated (.listIndexes "people")).1 = .ok ["_id_", "name_1", "age"] ∧
      age.keys ≠ [] ∧ created.1 = .ok "age" ∧
      created.2.indexes.table "people"
        = [("name_1", { keys := [("name", .int32 1)], unique := true }), ("age", age)] := by
  intro s age created
  obtain ⟨hlisted, -, -, -, hcreates, -⟩ :=
    indexes_listed [] true peopleIndexes none ObjectId.generated "people"
  have hkeys : age.keys ≠ [] := nofun
  obtain ⟨hanswer, htable⟩ := hcreates "age" age hkeys
  exact ⟨hlisted, hkeys, hanswer, htable⟩

/-- The index on the identifier is listed twice, and dropped, if its name is declared. -/
theorem reserved_index_listed_twice :
    let index : Index := { keys := [("a", .int32 1)] }
    let created := ({} : Store).answer none ObjectId.generated (.createIndex "c" "_id_" index)
    index.keys ≠ [] ∧ created.1 = .ok "_id_" ∧
      (created.2.answer none ObjectId.generated (.listIndexes "c")).1 = .ok ["_id_", "_id_"] ∧
      (created.2.answer none ObjectId.generated (.dropIndex "c" "_id_")).1 = .ok () :=
  ⟨nofun, rfl, rfl, rfl⟩

end Store

end DocumentStore
