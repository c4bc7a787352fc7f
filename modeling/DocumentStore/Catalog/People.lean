import DocumentStore.Character.Space
import DocumentStore.Filter.Clause
import DocumentStore.Service

/-!
# People

People have a name that is not blank and an age of at least eighteen, or of twenty-one in the
strict service. Deleting people writes an archive entry for each of them, is refused for those
whose name says that they are locked, and checks that they are gone.
-/
namespace DocumentStore.Catalog.People

/-! ## Records -/

def personName : Field := ⟨"name", .string, false⟩

def age : Field := ⟨"age", .number, false⟩

/-- The fields of a person beside the identifier. -/
def details : Record :=
  [.required "name" .string, .required "age" .int32, .nullable "nickname" .string,
    { name := "tags", shape := .list .string, default := some (.array []) }]

/-- A stored person. -/
def person : Record := .required idField .objectId :: details

def newPerson : Record :=
  { RecordField.nullable idField .objectId with leftOut := true } :: details

def personChanges : Record := [.nullable "name" .string, .nullable "age" .int32]

/-- A stored entry of the archive. -/
def entry : Record := [.required "person" .objectId]

/-- The data of a new entry of the archive. -/
def newEntry : Record :=
  { RecordField.nullable idField .objectId with leftOut := true } :: entry

/-- What an aggregation tells about the ages of people. -/
def ageSummary : Record := [.required "total" .int32, .required "oldest" .int32]

/-! ## Validators -/

def nameNotBlank (v : Validation) : Program Unit :=
  match Document.get? v.payload.document "name" with
  | some (.string name) =>
    if Character.isBlank name then Program.fail (.rejected "name must not be blank")
    else return ()
  | _ => return ()

/-- New people must have an age. -/
def atLeast (least : Int32) (reason : String) (v : Validation) : Program Unit :=
  match v.payload with
  | .insert data => match Document.get? data "age" with
    | some (.int32 n) => if n < least then Program.fail (.rejected reason) else return ()
    | _ => return ()
  | .update _ => return ()

/-- The rules of a service of people. -/
def validators : Rules :=
  (({} : Rules)
    |>.validator "name_not_blank" .insertUpdate nameNotBlank)
    |>.validator "adult" .insert (atLeast 18 "must be at least 18")

/-! ## Delete rules -/

/-- Writes an archive entry for everyone who is deleted. -/
def archive (archive : String) (d : Deletion) : Program Unit :=
  d.ids.forM fun key => do
    let _ ← Program.call archive (.insert (Document.single "person" key.toValue))

/-- Locked people cannot be deleted. -/
def notLocked (self : String) (d : Deletion) : Program Unit := do
  let clause := Clause.and
    [← Field.id.isIn (Key.toValues d.ids), ← personName.eq (.string "locked")]
  if (← Program.call self (.count clause.compile)) > 0 then
    Program.fail (.rejected "locked people cannot be deleted")
  else return ()

/-- Deleted people must be gone. -/
def gone (self : String) (d : Deletion) : Program Unit := do
  let clause ← Field.id.isIn (Key.toValues d.ids)
  let left ← Program.call self (.count clause.compile)
  if left > 0 then
    Program.fail (.rejected (toString left ++ " people survived their deletion"))
  else return ()

/-! ## Services -/

/-- A service of people. -/
def service (name collection : String) (rules : Rules) : Service where
  name
  collection
  key := .objectId
  readInsert := newPerson.read
  readUpdate := personChanges.read
  readModel := person.read
  mapping := .ok
  rules

def people : Service :=
  let self := "PersonService"
  { service self "people"
      (((validators
        |>.deleteRule "archive" .pre (archive "ArchiveService"))
        |>.deleteRule "not_locked" .pre (notLocked self))
        |>.deleteRule "gone" .post (gone self)) with
    config := { excludeNullOnInsert := true }
    indexes := [("name_unique", { Index.on personName .ascending with unique := true }),
      ("age_desc", Index.on age .descending)] }

/-- The service of people of a higher age. -/
def strict : Service :=
  service "StrictPersonService" "strict_people"
    (validators.validator "adult" .insert (atLeast 21 "must be at least 21"))

def archived : Service where
  name := "ArchiveService"
  collection := "archive"
  key := .objectId
  readInsert := newEntry.read
  readModel := entry.read

end DocumentStore.Catalog.People
