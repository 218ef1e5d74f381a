import EscrowLedger.Json.Format

/-!
# Job states and policies

A job starts as new and ends as complete or in error; a final state is never left. A policy says
whether the stages of successive authorizations may go back.

## Main definitions

* `JobState`, with `JobState.mayBecome` — the states and the moves between them.
* `Policy` — how a submitted authorization relates to the one it replaces.
-/

namespace EscrowLedger

open Json (Format)

/-- The state of a job as a whole. -/
inductive JobState where
  | new
  | complete
  | error
deriving DecidableEq, Inhabited

namespace JobState

def all : List JobState := [.new, .complete, .error]

def name : JobState → String
  | .new => "NEW"
  | .complete => "COMPLETE"
  | .error => "ERROR"

def isFinal : JobState → Bool
  | .new => false
  | .complete => true
  | .error => true

/-- Whether a job may move from one state to another; staying is always allowed. -/
def mayBecome (old next : JobState) : Bool := old = next || old = .new

def format : Format JobState := .choice (all.map fun s => (s.name, s))

def toJson (s : JobState) : Json := .string s.name

end JobState

/-- Which stages may follow each other. -/
inductive Policy where
  /-- Any stage may follow any other. -/
  | lenient
  /-- A stage may not be followed by one that comes before it. -/
  | forwardOnly
deriving DecidableEq, Inhabited

namespace Policy

def all : List Policy := [.lenient, .forwardOnly]

def name : Policy → String
  | .lenient => "lenient"
  | .forwardOnly => "forward_only"

def format : Format Policy := .choice (all.map fun p => (p.name, p))

def toJson (p : Policy) : Json := .string p.name

end Policy

end EscrowLedger
