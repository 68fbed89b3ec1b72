import SmartResidence.Billing.Schema
import SmartResidence.Foundation.Services

/-!
# The callers of `access-code.ts`

Visitors, recurring passes and permits have their codes in three tables, each with its own unique index. Of a call the model
starts where its other checks have passed.
-/

namespace SmartResidence.Visitors

open Foundation Billing

inductive PassKind
  | visitor | recurringPass | formSubmission
  deriving DecidableEq

structure PassRow where
  id : Id
  condoId : Id
  accessCode : Option String
  deriving DecidableEq

structure CodeDb where
  nextId : Nat
  table : PassKind → List PassRow

namespace CodeDb

variable (db : CodeDb)

def taken (kind : PassKind) (except : Option Id) (condoId : Id) (accessCode : String) : Bool :=
  (db.table kind).any fun row => decide (some row.id ≠ except ∧ row.condoId = condoId ∧ row.accessCode = some accessCode)

def accessCodeFree (condoId : Id) (accessCode : String) : Bool :=
  ! db.taken .visitor none condoId accessCode && ! db.taken .recurringPass none condoId accessCode &&
    ! db.taken .formSubmission none condoId accessCode

def setTable (kind : PassKind) (rows : List PassRow) : CodeDb := { db with table := Function.update db.table kind rows }

def hold (kind : PassKind) (target : Option Id) (condoId : Id) (accessCode : String) : CodeDb :=
  match target with
  | none => { db.setTable kind (db.table kind ++ [⟨db.nextId, condoId, some accessCode⟩]) with nextId := db.nextId + 1 }
  | some id => db.setTable kind (updateBy PassRow.id id (fun row => { row with accessCode := some accessCode }) (db.table kind))

end CodeDb

inductive CodeNote
  | issued (kind : PassKind) (condoId : Id) (accessCode : String)
  | retried (conflicts : Nat)
  | failed (conflicts : Nat)
  deriving DecidableEq

def accessCodeAllocationAttempts : Nat := 8

def serializableTxAttempts : Nat := 5

inductive CodeRequest
  | createVisitor (condoId : Id)
  | createOvernight (condoId : Id)
  | createRecurringPass (condoId : Id)
  | approveOvernight (visitorId : Id)
  | approveSubmission (submissionId : Id)

structure CodeCall where
  kind : PassKind
  condoId : Id
  target : Option Id

structure Draw where
  accessCode : String
  serializationFailure : Bool

inductive CodeFlight
  | checking (call : CodeCall) (conflicts : Nat)
  | writing (call : CodeCall) (conflicts : Nat) (accessCode : String)
  | opening (condoId : Id) (runs : Nat)
  | reading (condoId : Id) (runs : Nat) (seen : CodeDb) (aborted : Bool) (conflicts : Nat)
  | inserting (condoId : Id) (runs : Nat) (seen : CodeDb) (conflicts : Nat) (accessCode : String)

abbrev CodeOutcome : Type := Outcome CodeDb CodeFlight CodeNote

/-- `withUniqueAccessCodeRetry` on a conflict, which is the next one in a row. -/
def onConflict (db : CodeDb) (conflicts : Nat) (again : Nat → CodeFlight) : CodeOutcome :=
  if conflicts + 1 < accessCodeAllocationAttempts then ⟨db, [again (conflicts + 1)], [.retried (conflicts + 1)]⟩
  else ⟨db, [], [.failed (conflicts + 1)]⟩

def onAbort (db : CodeDb) (condoId : Id) (runs : Nat) : CodeOutcome :=
  if runs + 1 < serializableTxAttempts then .reads db [.opening condoId (runs + 1)] else .ended db

def beginRow (db : CodeDb) (kind : PassKind) (id : Id) : CodeOutcome :=
  match findBy PassRow.id id (db.table kind) with
  | some row => .reads db [.checking ⟨kind, row.condoId, some row.id⟩ 0]
  | none => .ended db

def beginCode (_ : Draw) (request : CodeRequest) (db : CodeDb) : CodeOutcome :=
  match request with
  | .createVisitor condoId => .reads db [.checking ⟨.visitor, condoId, none⟩ 0]
  | .createOvernight condoId => .reads db [.opening condoId 0]
  | .createRecurringPass condoId => .reads db [.checking ⟨.recurringPass, condoId, none⟩ 0]
  | .approveOvernight visitorId => beginRow db .visitor visitorId
  | .approveSubmission submissionId => beginRow db .formSubmission submissionId

/-- `allocatePermitFields` only checks inside of the retries; the update of the submission comes after them. -/
def writeConflict (db : CodeDb) (call : CodeCall) (conflicts : Nat) : CodeOutcome :=
  if call.kind = .formSubmission then ⟨db, [], [.failed (conflicts + 1)]⟩ else onConflict db conflicts (.checking call)

def proceedCode (draw : Draw) (flight : CodeFlight) (db : CodeDb) : CodeOutcome :=
  match flight with
  | .checking call conflicts =>
      if db.accessCodeFree call.condoId draw.accessCode then .reads db [.writing call conflicts draw.accessCode]
      else onConflict db conflicts (.checking call)
  | .writing call conflicts accessCode =>
      if db.taken call.kind call.target call.condoId accessCode then writeConflict db call conflicts
      else ⟨db.hold call.kind call.target call.condoId accessCode, [], [.issued call.kind call.condoId accessCode]⟩
  | .opening condoId runs => .reads db [.reading condoId runs db false 0]
  | .reading condoId runs seen aborted conflicts =>
      -- in an aborted transaction the check fails with an error that is no conflict
      if aborted then ⟨db, [], [.failed conflicts]⟩
      else if draw.serializationFailure then onAbort db condoId runs
      else if seen.accessCodeFree condoId draw.accessCode then .reads db [.inserting condoId runs seen conflicts draw.accessCode]
      else onConflict db conflicts (.reading condoId runs seen false)
  | .inserting condoId runs seen conflicts accessCode =>
      if draw.serializationFailure then onAbort db condoId runs
      else if db.taken .visitor none condoId accessCode then onConflict db conflicts (.reading condoId runs seen true)
      else ⟨db.hold .visitor none condoId accessCode, [], [.issued .visitor condoId accessCode]⟩

def codeService : Service Draw CodeDb CodeRequest CodeFlight CodeNote := ⟨beginCode, proceedCode⟩

end SmartResidence.Visitors
