/-
Asking the user for access to a device.

A prompt has two ends. Whoever shows it holds the grant and may answer it
once, with yes or no; whoever waits holds the request. The answer travels
through a slot from which it can be taken once; the request remembers it,
so that asking again gives the same answer. A grant that is dropped without
an answer counts as a refusal.
-/

namespace ReceiptPrinter

/-- Where a request stands. -/
inductive PermissionState where
  | pending
  | granted
  | denied
  deriving DecidableEq, Repr

/-- The state that an answer puts a request in. -/
def PermissionState.ofAnswer (granted : Bool) : PermissionState :=
  if granted then .granted else .denied

namespace Permission

/-- A slot for one answer. -/
inductive Slot where
  /-- The grant is still held. -/
  | waiting
  /-- An answer that has not been taken yet. -/
  | answered (granted : Bool)
  /-- The grant was dropped, or the answer has been taken. -/
  | closed
  deriving DecidableEq, Repr

/-- What taking from a slot gives, and the slot afterwards. The outer option
is empty while no answer can be had yet; a closed slot gives no answer. -/
def Slot.take : Slot → Option (Option Bool) × Slot
  | waiting => (none, waiting)
  | answered granted => (some (some granted), closed)
  | closed => (some none, closed)

/-- The answer that a request remembers after looking into its slot. -/
def settle (settled : Option Bool) (slot : Slot) : Option Bool × Slot :=
  match settled with
  | some granted => (some granted, slot)
  | none =>
    match slot.take with
    | (none, slot) => (none, slot)
    | (some answer, slot) => (some (answer.getD false), slot)

/-- The state of a request that remembers an answer, or none. -/
def stateOf : Option Bool → PermissionState
  | none => .pending
  | some granted => .ofAnswer granted

/-- Both ends of a prompt and the slot between them. -/
structure Exchange where
  slot : Slot
  grantHeld : Bool
  /-- What the request remembers; empty once the request is gone. -/
  request : Option (Option Bool)
  deriving DecidableEq, Repr

namespace Exchange

/-- A prompt that has just been shown. -/
def fresh : Exchange := ⟨.waiting, true, some none⟩

/-- Answers the prompt; false if it has been answered already or the grant
was dropped. -/
def resolve (x : Exchange) (granted : Bool) : Bool × Exchange :=
  if x.grantHeld then (true, { x with slot := .answered granted, grantHeld := false })
  else (false, x)

/-- Drops the grant; false if it was not held any more. -/
def dropGrant (x : Exchange) : Bool × Exchange :=
  if x.grantHeld then (true, { x with slot := .closed, grantHeld := false })
  else (false, x)

/-- Drops the request; false if it was gone. -/
def dropRequest (x : Exchange) : Bool × Exchange :=
  (x.request.isSome, { x with request := none })

/-- Where the request stands; none if it is gone. -/
def poll (x : Exchange) : Option PermissionState × Exchange :=
  match x.request with
  | none => (none, x)
  | some settled =>
    let (settled, slot) := settle settled x.slot
    (some (stateOf settled), { x with slot := slot, request := some settled })

/-- What waiting for the answer gives, once there is one. It uses up the
request. -/
def wait (x : Exchange) : Option Bool × Exchange :=
  match x.request with
  | none => (none, x)
  | some settled =>
    let (settled, slot) := settle settled x.slot
    (settled, { x with slot := slot, request := none })

end Exchange

/-- The prompt of a transport on which nobody can be asked: it is refused
from the start. -/
def Exchange.refused : Exchange := (Exchange.fresh.resolve false).2

-- ============================================================= the course

/-- Something that is done at one of the ends of a prompt. -/
inductive Move where
  | poll
  /-- Somebody who waits for the answer looks whether it is there. -/
  | look
  | resolve (granted : Bool)
  | dropGrant
  | dropRequest
  deriving DecidableEq, Repr

/-- The answer that is given by a move. -/
def Move.answer? : Move → Option Bool
  | resolve granted => some granted
  | dropGrant => some false
  | poll | look | dropRequest => none

namespace Exchange

/-- One look of somebody who waits: he gets the answer, which uses up the
request, or there is none yet and he goes on waiting. -/
def look (x : Exchange) : Option Bool × Exchange :=
  match x.wait with
  | (some granted, x') => (some granted, x')
  | (none, _) => (none, x)

def move (x : Exchange) : Move → Exchange
  | .poll => x.poll.2
  | .look => x.look.2
  | .resolve granted => (x.resolve granted).2
  | .dropGrant => x.dropGrant.2
  | .dropRequest => x.dropRequest.2

/-- A prompt after a row of moves, made at either end in any order. -/
def after (moves : List Move) : Exchange := moves.foldl move fresh

end Exchange

/-- The answer of a prompt: the first one that is given. -/
def answer? (moves : List Move) : Option Bool := moves.findSome? Move.answer?

/-- Whether a move is the first one in a row that gives an answer. -/
def Decides (move : Move) (moves : List Move) : Prop :=
  ∃ earlier, earlier ++ [move] <+: moves ∧ ∀ other ∈ earlier, other.answer? = none

/-- Whether the request is still there: it has not been dropped, and nobody has
looked for the answer when it was there. -/
def Lasts (moves : List Move) : Prop :=
  .dropRequest ∉ moves ∧ ∀ earlier, earlier ++ [.look] <+: moves → answer? earlier = none

end Permission

end ReceiptPrinter
