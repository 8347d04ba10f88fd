import BranchingStory.Event

/-!
# Event channels

A channel delivers events to subscribed handlers, in the order of their subscriptions.  Handlers
share a world that they may change; the channel does not look into it.  A handler that fails or
crashes is reported, and delivery continues with the next one.
-/

namespace BranchingStory

/-- How the run of a handler on an event ended. -/
inductive HandlerResult where
  | handled
  /-- The handler gave back an error, which comes with its text already written out.  Writing it out
  is no part of delivery, and an error for which that fails is outside the model. -/
  | failed (reason : String)
  | crashed (message : Option String)
deriving DecidableEq

/-- The reason that is reported for a run that did not succeed. -/
def HandlerResult.reason? : HandlerResult → Option String
  | handled => none
  | failed reason => some reason
  | crashed (some message) => some ("handler panicked: " ++ message)
  | crashed none => some "handler panicked"

/-- What a handler does with an event in a world. -/
abbrev Handler (World : Type) := Event → World → HandlerResult × World

structure Subscription (World : Type) where
  id : Nat
  /-- The kind that is received; without one every event is. -/
  filter : Option EventKind
  /-- Whether the subscription ends with the first event it receives. -/
  once : Bool
  handler : Handler World

def Subscription.receives {World : Type} (subscription : Subscription World) (kind : EventKind) :
    Bool :=
  match subscription.filter with
  | none => true
  | some wanted => wanted = kind

/-- A run of a handler that did not succeed. -/
structure HandlerFailure where
  subscription : Nat
  event : EventKind
  reason : String
deriving DecidableEq

/-- What came of delivering one event. -/
structure Report where
  /-- How many handlers succeeded. -/
  delivered : Nat := 0
  failures : List HandlerFailure := []
deriving DecidableEq

def Report.isClean (report : Report) : Bool := report.failures.isEmpty

/-- The subscriptions in their order, and the id of the next one. -/
structure Channel (World : Type) where
  subscriptions : List (Subscription World) := []
  nextId : Nat := 0

namespace Channel

variable {World : Type}

def add (channel : Channel World) (filter : Option EventKind) (once : Bool)
    (handler : Handler World) : Nat × Channel World :=
  let subscription : Subscription World := { id := channel.nextId, filter, once, handler }
  (channel.nextId,
    { subscriptions := channel.subscriptions ++ [subscription], nextId := channel.nextId + 1 })

/-- Receives the events of one kind. -/
def subscribe (channel : Channel World) (kind : EventKind) (handler : Handler World) :
    Nat × Channel World :=
  channel.add (some kind) false handler

/-- Receives every event. -/
def subscribeAll (channel : Channel World) (handler : Handler World) : Nat × Channel World :=
  channel.add none false handler

/-- Receives the next event of one kind. -/
def once (channel : Channel World) (kind : EventKind) (handler : Handler World) :
    Nat × Channel World :=
  channel.add (some kind) true handler

/-- Ends a subscription; tells whether it was still there. -/
def unsubscribe (channel : Channel World) (id : Nat) : Bool × Channel World :=
  (channel.subscriptions.any fun subscription => subscription.id = id,
    { channel with
      subscriptions := channel.subscriptions.filter fun subscription => subscription.id ≠ id })

/-- Ends the subscriptions to one kind, or all of them.  Subscriptions to every event end only in
the second case. -/
def clear (channel : Channel World) (kind : Option EventKind) : Channel World :=
  match kind with
  | some kind =>
      { channel with
        subscriptions :=
          channel.subscriptions.filter fun subscription => subscription.filter ≠ some kind }
  | none => { channel with subscriptions := [] }

/-- How many handlers receive events of a kind, or how many there are. -/
def listenerCount (channel : Channel World) (kind : Option EventKind) : Nat :=
  match kind with
  | some kind => channel.subscriptions.countP fun subscription => subscription.receives kind
  | none => channel.subscriptions.length

/-- The text by which a channel is shown to its developers: how many subscriptions it has. -/
def debugText (channel : Channel World) : String :=
  "EventChannel \x7b subscriptions: " ++ toString (channel.listenerCount none) ++ " \x7d"

/-- Runs the handlers that receive an event, in order. -/
def notify (event : Event) : List (Subscription World) → World → Report × World
  | [], world => ({}, world)
  | subscription :: rest, world =>
      if subscription.receives event.kind then
        let (result, world) := subscription.handler event world
        let (report, world) := notify event rest world
        match result.reason? with
        | none => ({ report with delivered := report.delivered + 1 }, world)
        | some reason =>
            let failure : HandlerFailure :=
              { subscription := subscription.id, event := event.kind, reason }
            ({ report with failures := failure :: report.failures }, world)
      else notify event rest world

/-- Delivers an event.  Subscriptions for one event that received it end. -/
def emit (channel : Channel World) (event : Event) (world : World) :
    Report × Channel World × World :=
  let (report, world) := notify event channel.subscriptions world
  let kept := channel.subscriptions.filter fun subscription =>
    !(subscription.once && subscription.receives event.kind)
  (report, { channel with subscriptions := kept }, world)

/-- Subscribes a handler that writes every event into the world. -/
def record (channel : Channel World) (write : Event → World → World) : Channel World :=
  (channel.subscribeAll fun event world => (.handled, write event world)).2

end Channel

/-- The events that a recorder has received. -/
abbrev Recording := List Event

namespace Recording

def names (recording : Recording) : List String := List.map Event.name recording

def count (recording : Recording) (kind : EventKind) : Nat :=
  List.countP (fun event => event.kind = kind) recording

end Recording

/-- A channel and the failures of its handlers that were not taken yet. -/
structure Audience (World : Type) where
  channel : Channel World := {}
  failures : List HandlerFailure := []

namespace Audience

variable {World : Type}

/-- Delivers one event and keeps the failures. -/
def emit (audience : Audience World) (event : Event) (world : World) :
    Report × Audience World × World :=
  let (report, channel, world) := audience.channel.emit event world
  (report, { channel, failures := audience.failures ++ report.failures }, world)

/-- Delivers events one after the other. -/
def emitAll (audience : Audience World) : List Event → World → Audience World × World
  | [], world => (audience, world)
  | event :: rest, world =>
      let (_, audience, world) := audience.emit event world
      audience.emitAll rest world

def takeFailures (audience : Audience World) : List HandlerFailure × Audience World :=
  (audience.failures, { audience with failures := [] })

end Audience

end BranchingStory
