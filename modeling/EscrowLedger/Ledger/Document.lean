import EscrowLedger.Job.Record
import EscrowLedger.Json.Format
import EscrowLedger.Json.Printer

/-!
# Ledger documents

A ledger on disk is one JSON object that gives every id, as a text, its record. The object is
written over several lines with its names in increasing order, so equal contents are equal texts. A
blank text stands for a ledger without jobs.

## Main definitions

* `Document` — the records by the text of their ids.
* `Document.toText` and `Document.ofText` — the written form and its reader.
-/

namespace EscrowLedger

open Json (Format Fault)

def Record.format : Format Record := .mapOf .text

def Record.toJson (r : Record) : Json := .object (r.entries.map fun e => (e.1, .string e.2))

/-- The records by the text of their ids. Keys that are no ids may occur too, and are kept. -/
abbrev Document := Table String Record

namespace Document

def format : Format Document := .mapOf Record.format

def toJson (d : Document) : Json := .object (d.entries.map fun e => (e.1, Record.toJson e.2))

def toText (d : Document) : String := (toJson d).pretty

def ofText (s : String) : Except Fault Document :=
  if Text.isBlank s then .ok ∅ else format.readText s

end Document

end EscrowLedger
