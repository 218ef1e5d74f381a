import EscrowLedger.Escrow.Transport
import EscrowLedger.Job.Basic
import EscrowLedger.Json.Printer

/-!
# Jobs as JSON

A job travels as an object of seven fields. Unlike the flat record this form has a place for
everything, the times included, which travel as timestamps. A text in which the last change lies
before the creation is refused.

## Main definitions

* `Instant.format` — how timestamps are read.
* `Job.format` — how jobs are read.
* `Job.toJson` — how jobs are written.
-/

namespace EscrowLedger

open Json (Format Layout Fault)

def Instant.format : Format Instant :=
  .ofText "an RFC 3339 formatted date and time string" fun s =>
    match Instant.ofText? s with
    | some i => .ok i
    | none => .error .notTimestamp

def Instant.toJson (i : Instant) : Json := .string i.toText

namespace Job

/-- What has been read of a job. -/
structure Parts where
  state : Option JobState
  exportService : Option String
  importService : Option String
  dataType : Option String
  created : Option Instant
  lastUpdate : Option Instant
  authorization : Option Authorization

def Parts.blank : Parts := ⟨none, none, none, none, none, none, none⟩

/-- A job whose times have not been compared. -/
structure Unordered where
  state : JobState
  services : Services
  created : Instant
  lastUpdate : Instant
  authorization : Authorization
deriving DecidableEq

/-- Puts a job together; all parts must have been read. -/
def Parts.assemble (absent : String → Fault) (p : Parts) : Except Fault Unordered := do
  let state ← Json.need absent "state" p.state
  let exportService ← Json.need absent "exportService" p.exportService
  let importService ← Json.need absent "importService" p.importService
  let dataType ← Json.need absent "transferDataType" p.dataType
  let created ← Json.need absent "createdTimestamp" p.created
  let lastUpdate ← Json.need absent "lastUpdateTimestamp" p.lastUpdate
  let authorization ← Json.need absent "jobAuthorization" p.authorization
  pure ⟨state, ⟨exportService, importService, dataType⟩, created, lastUpdate, authorization⟩

def layout : Layout Parts Unordered where
  title := "JobFields"
  fields := [
    .of "state" JobState.format (·.state) (fun p v => { p with state := some v }),
    .of "exportService" .text (·.exportService) (fun p v => { p with exportService := some v }),
    .of "importService" .text (·.importService) (fun p v => { p with importService := some v }),
    .of "transferDataType" .text (·.dataType) (fun p v => { p with dataType := some v }),
    .of "createdTimestamp" Instant.format (·.created) (fun p v => { p with created := some v }),
    .of "lastUpdateTimestamp" Instant.format (·.lastUpdate)
      (fun p v => { p with lastUpdate := some v }),
    .of "jobAuthorization" Authorization.format (·.authorization)
      (fun p v => { p with authorization := some v })]
  blank := .blank
  assemble := Parts.assemble

def ofUnordered (u : Unordered) : Except JobError Job :=
  if h : u.created ≤ u.lastUpdate then
    .ok ⟨u.state, u.services, u.created, u.lastUpdate, u.authorization, h⟩
  else .error (.timestampOrder u.created u.lastUpdate)

def format : Format Job :=
  layout.format.refine fun u =>
    match ofUnordered u with
    | .ok j => .ok j
    | .error e => .error (.rejected e.message)

def toJson (j : Job) : Json :=
  .object [("state", j.state.toJson), ("exportService", .string j.services.exportService),
    ("importService", .string j.services.importService),
    ("transferDataType", .string j.services.dataType),
    ("createdTimestamp", j.created.toJson), ("lastUpdateTimestamp", j.lastUpdate.toJson),
    ("jobAuthorization", j.authorization.toJson)]

def toText (j : Job) : String := j.toJson.compact

def ofText (s : String) : Except Fault Job := format.readText s

end Job

end EscrowLedger
