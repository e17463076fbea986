import MediaIntake.Intake.Delivery
/-! # Endpoints

An endpoint is the last node of a capture graph.  It owns one channel, negotiates the format
that a source delivers, and turns each delivered sample into a buffer for its consumer.

* The **requested** descriptor is what the consumer would like; it is set while the graph is
  stopped and steers what is advertised.
* The **actual** descriptor is what the source connected with; an accepted proposal sets it,
  and a new request clears it.

Every call holds the endpoint's lock from beginning to end.  A call that unwinds leaves the
lock poisoned, and the next call that takes it records that and goes on.  A call is a value
(`Call`), and so is what can be seen of it (`Outcome`); `step` makes one call and `run` a
sequence of calls.
-/
namespace MediaIntake

/-- What an endpoint has counted since it was made.  No counter is larger than that of the
deliveries, so words of 64 bits hold all of them until `2 ^ 64` samples have been delivered
(`wordCounters_of_lt`). -/
structure Counters where
  /-- Deliveries, whatever became of them. -/
  delivered : Nat := 0
  /-- Buffers that the consumer accepted. -/
  dispatched : Nat := 0
  /-- Buffers on which the consumer failed or panicked. -/
  consumerFailures : Nat := 0
  /-- Samples that did not reach the consumer. -/
  rejected : Nat := 0
  deriving DecidableEq, Repr

/-- How counters are stored. -/
def Counters.write (c : Counters) : String :=
  Json.Schema.object [("delivered", c.delivered), ("dispatched", c.dispatched),
    ("callback_failures", c.consumerFailures), ("rejected", c.rejected)]

/-- Counts a consumer's reaction. -/
def Counters.count (c : Counters) : Reaction → Counters
  | .accepts => { c with dispatched := c.dispatched + 1 }
  | .fails _ => { c with consumerFailures := c.consumerFailures + 1 }
  | .panics _ => { c with consumerFailures := c.consumerFailures + 1 }

/-- An input channel. -/
structure Channel where
  name : String
  index : Nat
  major : Guid
  deriving DecidableEq, Repr

/-- The state behind an endpoint's lock, and the lock's. -/
structure Endpoint (k : Kind) where
  requested : k.Descriptor
  actual : k.Descriptor
  slot : Slot k
  counters : Counters
  poisoned : Bool

/-- The calls that an endpoint takes. -/
inductive Call (k : Kind) where
  /-- Asks for the actual descriptor. -/
  | actual
  /-- Asks for the requested descriptor. -/
  | requested
  | counters
  /-- Replaces the requested descriptor. -/
  | configure (state : GraphState) (descriptor : k.Descriptor)
  /-- Replaces the requested descriptor by the one that a text holds. -/
  | configureText (state : GraphState) (text : String)
  | channel (index : Nat)
  /-- Asks for the media type advertised at an index. -/
  | enumerate (index : Nat)
  | propose (mediaType : MediaType)
  | deliver (delivery : Delivery)
  deriving DecidableEq

/-- What a call gives its caller. -/
inductive Result (k : Kind) where
  /-- The call is done and has nothing to tell. -/
  | done
  | descriptor (d : k.Descriptor)
  | counters (c : Counters)
  | channel (c : Option Channel)
  | mediaType (t : Option MediaType)
  | failed (error : EndpointError)
  /-- A delivered sample did not reach the consumer. -/
  | dropped (error : DeliveryError)
  /-- The call unwound. -/
  | unwound
  deriving DecidableEq

/-- All that can be seen of a call. -/
structure Outcome (k : Kind) where
  result : Result k
  /-- The questions that a delivered sample was asked, in order. -/
  queries : List Query := []
  events : List (Event k) := []
  /-- The buffer that the consumer was handed. -/
  received : Option (Buffer k) := none
  deriving DecidableEq

namespace Endpoint
variable {k : Kind}

/-- A new endpoint. -/
def init (k : Kind) : Endpoint k := ⟨k.empty, k.empty, .empty k, {}, false⟩

/-! ## Single calls, with the lock held -/

def configure (e : Endpoint k) (state : GraphState) (d : k.Descriptor) : Outcome k × Endpoint k :=
  if state.allowsReconfiguration then
    ({ result := .done, events := [.requested d] }, { e with requested := d, actual := k.empty })
  else
    ({ result := .failed (.notStopped state), events := [.reconfigurationRefused state] }, e)

/-- The only channel has index zero. -/
def channel? (k : Kind) (index : Nat) : Option Channel :=
  if index = 0 then some ⟨k.channelName, index, k.major⟩ else none

def enumerate (e : Endpoint k) (index : Nat) : Outcome k :=
  { result := .mediaType (k.advertised? index e.requested),
    events := k.advertisingEvents index e.requested }

/-- An accepted proposal becomes the actual descriptor; a rejected one changes nothing. -/
def propose (e : Endpoint k) (t : MediaType) : Outcome k × Endpoint k :=
  match k.negotiate t with
  | .ok d => ({ result := .done, events := [.negotiated d] }, { e with actual := d })
  | .error reason =>
    ({ result := .failed (.rejected reason), events := [.proposalRejected t reason] }, e)

/-- A packaged sample goes to the consumer, and the delivery is done whatever the consumer makes
of it, unless the consumer unwinds the delivery; a sample that fails is counted.  What unwinds, be
it the sample or the consumer, leaves the lock poisoned. -/
def deliver (e : Endpoint k) (d : Delivery) : Outcome k × Endpoint k :=
  let p := e.slot.package e.actual d
  let counters := { e.counters with delivered := e.counters.delivered + 1 }
  match p.verdict with
  | .packaged =>
    let buffer := p.slot.buffer
    -- the reaction is counted and recorded before a panic of it can escape
    ({ result := if d.reaction.escapes then .unwound else .done, queries := p.queries,
       events := p.events ++ .bufferFilled buffer :: d.reaction.events, received := some buffer },
      { e with
        slot := p.slot
        counters := counters.count d.reaction
        poisoned := e.poisoned || d.reaction.escapes })
  | .failed error =>
    ({ result := .dropped error, queries := p.queries, events := p.events },
      { e with slot := p.slot, counters := { counters with rejected := counters.rejected + 1 } })
  | .unwound =>
    ({ result := .unwound, queries := p.queries, events := p.events },
      { e with slot := p.slot, counters, poisoned := true })

/-! ## Calls -/

/-- Makes a call with the lock held: a poisoned lock is recovered first. -/
def locked (e : Endpoint k) (call : Endpoint k → Outcome k × Endpoint k) :
    Outcome k × Endpoint k :=
  if e.poisoned then
    let (outcome, e) := call { e with poisoned := false }
    ({ outcome with events := .lockRecovered :: outcome.events }, e)
  else call e

/-- Makes one call. A configuration text that cannot be read never gets to the lock. -/
def step (e : Endpoint k) : Call k → Outcome k × Endpoint k
  | .actual => e.locked fun e => ({ result := .descriptor e.actual }, e)
  | .requested => e.locked fun e => ({ result := .descriptor e.requested }, e)
  | .counters => e.locked fun e => ({ result := .counters e.counters }, e)
  | .configure state d => e.locked (·.configure state d)
  | .configureText state text =>
    match k.schema.read text with
    | .ok d => e.locked (·.configure state d)
    | .error error => ({ result := .failed (.configuration error) }, e)
  | .channel index => e.locked fun e => ({ result := .channel (channel? k index) }, e)
  | .enumerate index => e.locked fun e => (e.enumerate index, e)
  | .propose t => e.locked (·.propose t)
  | .deliver d => e.locked (·.deliver d)

/-- Makes calls one after the other. -/
def run (e : Endpoint k) : List (Call k) → List (Outcome k) × Endpoint k
  | [] => ([], e)
  | call :: calls =>
    let (outcome, e) := e.step call
    let (outcomes, e) := e.run calls
    (outcome :: outcomes, e)

/-- Proposes what is advertised at an index, if something is. -/
def proposeAdvertised (e : Endpoint k) (index : Nat) : Outcome k × Endpoint k :=
  let (offer, e) := e.step (.enumerate index)
  match offer.result with
  | .mediaType (some t) =>
    let (outcome, e) := e.step (.propose t)
    ({ outcome with events := offer.events ++ outcome.events }, e)
  | _ => (offer, e)

/-! ## Runs -/

theorem run_nil (e : Endpoint k) : e.run [] = ([], e) := rfl

theorem run_cons (e : Endpoint k) (call : Call k) (calls : List (Call k)) :
    e.run (call :: calls) =
      ((e.step call).1 :: ((e.step call).2.run calls).1, ((e.step call).2.run calls).2) := rfl

theorem run_append (e : Endpoint k) (before after : List (Call k)) :
    e.run (before ++ after) =
      ((e.run before).1 ++ ((e.run before).2.run after).1, ((e.run before).2.run after).2) := by
  induction before generalizing e with
  | nil => simp [run_nil]
  | cons call calls ih => simp [run_cons, ih]

end Endpoint
end MediaIntake
