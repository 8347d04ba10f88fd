import BranchingStory.Proofs.Unfailing

/-!
# Reporting failures

A director keeps the failures of its handlers until they are taken.  What it emits, it emits inside
a call, which may fail at a gate or end the story halfway, and in between the host takes failures,
subscribes, ends subscriptions and emits events of its own.

An account of all this is written up deed by deed.  It holds every event that the director emitted,
with what had been asked of the channel before, the report on its delivery and the lists that the
host has taken.  The account balances: what was taken and what is still kept are the failures of
the reports since the last reset, in order.  Each report counts all handlers that the event was run
past, and which these are follows from what was asked of the channel.
-/

namespace BranchingStory

variable {World : Type}

/-! ## Deliveries -/

/-- An event that a director emitted, with what had been asked of its channel until then and the
report on the delivery. -/
structure Delivery (World : Type) where
  history : List (Channel.Request World)
  event : Event
  report : Report

namespace Delivery

/-- The delivery has its place in a longer history. -/
def PartOf (delivery : Delivery World) (history : List (Channel.Request World)) : Prop :=
  delivery.history ++ [.emit delivery.event] <+: history

/-- How the handlers of some subscriptions end on the event, each in the world that the one before
it left. -/
def runs (delivery : Delivery World) (start : World) (heard : List (Subscription World)) :
    List (Nat × HandlerResult) :=
  (Channel.runAll delivery.event heard (Channel.after delivery.history start).2).1

/-- The event was run past all who were subscribed to it, in the order of their subscriptions.  The
report has an entry for each run that did not succeed and counts the others. -/
structure Complete (delivery : Delivery World) (start : World)
    (heard : List (Subscription World)) : Prop where
  increasing : heard.Pairwise fun first second => first.id < second.id
  subscribed : ∀ subscription, subscription ∈ heard ↔
    Channel.Subscribed delivery.history subscription ∧
      (subscription.filter = none ∨ subscription.filter = some delivery.event.kind)
  failures : delivery.report.failures =
    (delivery.runs start heard).filterMap (Channel.failure? delivery.event.kind)
  delivered : delivery.report.delivered =
    (delivery.runs start heard).countP fun run => run.2 = .handled
  counted : delivery.report.delivered + delivery.report.failures.length = heard.length

end Delivery

/-- What a new channel emits after a history is delivered completely. -/
theorem Channel.complete_emit (history : List (Request World)) (start : World) (event : Event) :
    let reached := after history start
    ∃ heard, Delivery.Complete
      { history, event, report := (reached.1.emit event reached.2).1 } start heard := by
  intro reached
  obtain ⟨hsorted, -, hmem⟩ := after_subscriptions history start
  let heard := reached.1.subscriptions.filter fun subscription => subscription.receives event.kind
  have hreport : (reached.1.emit event reached.2).1 =
      reportOf event.kind (runAll event heard reached.2).1 :=
    congrArg Prod.fst (notify_eq event reached.1.subscriptions reached.2)
  refine ⟨heard, hsorted.increasing.filter _, fun subscription => ?_, ?_, ?_, ?_⟩
  · rw [List.mem_filter, hmem, receives_iff]
  · exact congrArg Report.failures hreport
  · exact congrArg Report.delivered hreport
  · rw [hreport, delivered_add_failures, length_runAll]

namespace Audience

/-- The deliveries of events that are emitted one after the other. -/
def deliveries (audience : Audience World) (history : List (Channel.Request World)) :
    List Event → World → List (Delivery World)
  | [], _ => []
  | event :: rest, world =>
      let told := audience.emit event world
      { history, event, report := told.1 } ::
        told.2.1.deliveries (history ++ [.emit event]) rest told.2.2

theorem event_deliveries (audience : Audience World) (history : List (Channel.Request World))
    (events : List Event) (world : World) :
    (audience.deliveries history events world).map Delivery.event = events := by
  induction events generalizing audience history world with
  | nil => rfl
  | cons event rest ih => exact congrArg (event :: ·) (ih _ _ _)

/-- The audience keeps the failures of every delivery. -/
theorem failures_emitAll (audience : Audience World) (history : List (Channel.Request World))
    (events : List Event) (world : World) :
    (audience.emitAll events world).1.failures =
      audience.failures ++
        (audience.deliveries history events world).flatMap fun delivery =>
          delivery.report.failures := by
  induction events generalizing audience history world with
  | nil => exact (List.append_nil _).symm
  | cons event rest ih =>
      -- The audience that hears the rest has kept the failures of the first event.
      let told := audience.emit event world
      have hkept : told.2.1.failures = audience.failures ++ told.1.failures := rfl
      rw [emitAll, ih told.2.1 (history ++ [.emit event]) told.2.2, hkept, List.append_assoc]
      rfl

variable {start : World}

/-- The channel and the world of an audience are those that a new channel reaches from `start` by
what was asked of it. -/
def Follows (audience : Audience World) (start : World) (history : List (Channel.Request World))
    (world : World) : Prop :=
  Channel.after history start = (audience.channel, world)

/-- An event of the director goes on the history like one that the host emits. -/
theorem Follows.emit {audience : Audience World} {history : List (Channel.Request World)}
    {world : World} (hfollows : audience.Follows start history world) (event : Event) :
    (audience.emit event world).2.1.Follows start (history ++ [.emit event])
      (audience.emit event world).2.2 := by
  rw [Follows, Channel.after_concat, hfollows]
  rfl

theorem Follows.emitAll {audience : Audience World} {history : List (Channel.Request World)}
    {world : World} (hfollows : audience.Follows start history world) (events : List Event) :
    (audience.emitAll events world).1.Follows start (history ++ events.map .emit)
      (audience.emitAll events world).2 := by
  induction events generalizing audience history world with
  | nil => rwa [List.map_nil, List.append_nil]
  | cons event rest ih =>
      rw [List.map_cons, List.append_cons]
      exact ih (hfollows.emit event)

/-- Each event is delivered completely, at its place in the history. -/
theorem Follows.complete {audience : Audience World} {history : List (Channel.Request World)}
    {world : World} (hfollows : audience.Follows start history world) {events : List Event} :
    ∀ delivery ∈ audience.deliveries history events world,
      delivery.PartOf (history ++ events.map .emit) ∧ ∃ heard, delivery.Complete start heard := by
  induction events generalizing audience history world with
  | nil => exact List.forall_mem_nil _
  | cons event rest ih =>
      have hcomplete := Channel.complete_emit history start event
      rw [hfollows] at hcomplete
      rw [List.map_cons, List.append_cons]
      exact List.forall_mem_cons.mpr
        ⟨⟨List.prefix_append _ _, hcomplete⟩, ih (hfollows.emit event)⟩

end Audience

/-! ## Accounts -/

/-- A visit with all that happened on the channel.  The deliveries up to the last reset stand apart,
since a reset forgets their failures. -/
structure Account (World : Type) where
  visit : Visit World
  /-- What was asked of the channel so far, by the host and by the director. -/
  history : List (Channel.Request World)
  lapsed : List (Delivery World) := []
  deliveries : List (Delivery World) := []
  /-- The lists that the host has taken since the last reset. -/
  taken : List (List HandlerFailure) := []

namespace Account

def act (account : Account World) (deed : Deed World) : Account World :=
  let visit := account.visit.act deed.action
  let audience := account.visit.director.audience
  match deed with
  | .call call =>
      let events := account.visit.director.emitted call
      let told := audience.deliveries account.history events account.visit.world
      { account with
        visit
        history := account.history ++ events.map .emit
        deliveries := account.deliveries ++ told }
  | .reset _ =>
      { account with
        visit
        lapsed := account.lapsed ++ account.deliveries
        deliveries := []
        taken := [] }
  | .takeFailures =>
      { account with visit, taken := account.taken ++ [audience.takeFailures.1] }
  | .request request => { account with visit, history := account.history ++ [request] }

def actAll (account : Account World) (deeds : List (Deed World)) : Account World :=
  deeds.foldl act account

/-- Every event was delivered, with all of its handlers counted, and no failure was lost since the
last reset. -/
structure Balanced (account : Account World) (start : World) : Prop where
  events : (account.lapsed ++ account.deliveries).map Delivery.event = account.visit.events
  failures : account.taken.flatten ++ account.visit.director.audience.failures =
    account.deliveries.flatMap fun delivery => delivery.report.failures
  complete : ∀ delivery ∈ account.lapsed ++ account.deliveries,
    delivery.PartOf account.history ∧ ∃ heard, delivery.Complete start heard
  follows : account.visit.director.audience.Follows start account.history account.visit.world

variable {account : Account World} {start : World}

theorem visit_act (account : Account World) (deed : Deed World) :
    (account.act deed).visit = account.visit.act deed.action := by
  cases deed <;> rfl

theorem visit_actAll (account : Account World) (deeds : List (Deed World)) :
    (account.actAll deeds).visit = account.visit.actAll (deeds.map Deed.action) := by
  induction deeds generalizing account with
  | nil => rfl
  | cons deed rest ih =>
      rw [actAll, List.foldl_cons, ← actAll, ih, visit_act]
      rfl

/-- A call that is refused or ends the story has its events told like any other. -/
theorem Balanced.call (hbalanced : account.Balanced start) (call : Call) :
    (account.act (.call call)).Balanced start := by
  obtain ⟨hevents, hfailures, hcomplete, hfollows⟩ := hbalanced
  let director := account.visit.director
  let told := director.audience.deliveries account.history (director.emitted call)
    account.visit.world
  have htold := director.told_ask call account.visit.world
  constructor
  · calc (account.lapsed ++ (account.deliveries ++ told)).map Delivery.event
      _ = (account.lapsed ++ account.deliveries).map Delivery.event ++
          told.map Delivery.event := by rw [← List.append_assoc, List.map_append]
      _ = account.visit.events ++ director.emitted call := by
          rw [hevents, Audience.event_deliveries]
  · have hkept : (director.ask call account.visit.world).2.1.audience.failures =
        director.audience.failures ++ told.flatMap fun delivery => delivery.report.failures := by
      have haudience : (director.ask call account.visit.world).2.1.audience =
          (director.audience.emitAll (director.emitted call) account.visit.world).1 :=
        congrArg Prod.fst htold
      rw [haudience]
      exact director.audience.failures_emitAll account.history _ _
    calc account.taken.flatten ++ (director.ask call account.visit.world).2.1.audience.failures
      _ = (account.taken.flatten ++ director.audience.failures) ++
          told.flatMap fun delivery => delivery.report.failures := by
            rw [hkept, List.append_assoc]
      _ = (account.deliveries ++ told).flatMap fun delivery => delivery.report.failures := by
            rw [hfailures, List.flatMap_append]
  · intro delivery hmem
    rcases List.mem_append.mp (List.append_assoc _ _ told ▸ hmem) with hearlier | hlatest
    · obtain ⟨hplace, hheard⟩ := hcomplete delivery hearlier
      exact ⟨hplace.trans (List.prefix_append _ _), hheard⟩
    · exact hfollows.complete delivery hlatest
  · have hreached := hfollows.emitAll (director.emitted call)
    rw [← htold] at hreached
    exact hreached

theorem Balanced.act (hbalanced : account.Balanced start) (deed : Deed World) :
    (account.act deed).Balanced start := by
  cases deed with
  | call call => exact hbalanced.call call
  | reset unseeded =>
      obtain ⟨hevents, -, hcomplete, hfollows⟩ := hbalanced
      -- The deliveries that lapse were told and complete before.
      have hnone : account.lapsed ++ account.deliveries ++ [] =
          account.lapsed ++ account.deliveries := List.append_nil _
      rw [← hnone] at hevents hcomplete
      exact ⟨hevents, rfl, hcomplete, hfollows⟩
  | takeFailures =>
      obtain ⟨hevents, hfailures, hcomplete, hfollows⟩ := hbalanced
      -- What is taken goes from the kept failures to the end of the taken ones.
      have htaken : (account.taken ++ [account.visit.director.audience.failures]).flatten ++ [] =
          account.taken.flatten ++ account.visit.director.audience.failures := by
        rw [List.append_nil, List.flatten_concat]
      exact ⟨hevents, htaken.trans hfailures, hcomplete, hfollows⟩
  | request request =>
      obtain ⟨hevents, hfailures, hcomplete, hfollows⟩ := hbalanced
      refine ⟨hevents, hfailures, fun delivery hmem => ?_, ?_⟩
      · obtain ⟨hplace, hheard⟩ := hcomplete delivery hmem
        exact ⟨hplace.trans (List.prefix_append _ _), hheard⟩
      · change Channel.after (account.history ++ [request]) start = _
        rw [Channel.after_concat, hfollows]
        rfl

theorem Balanced.actAll (hbalanced : account.Balanced start) (deeds : List (Deed World)) :
    (account.actAll deeds).Balanced start := by
  induction deeds generalizing account with
  | nil => exact hbalanced
  | cons deed rest ih => exact ih (hbalanced.act deed)

end Account

/-! ## Every failure is reported -/

namespace Director

/-- No failure of a handler is lost, and none is reported twice.  Whatever a host does with a
director and its channel, the account of it balances: the lists that were taken since the last reset
and the failures that are kept now are together those of the reports on the events since then, in
order; each event that a call has emitted has such a report, also where the call fails at a gate or
the story ends; and each report counts the handlers that received the event, with an entry for each
one that failed or crashed. -/
theorem failures_kept_until_taken {story : Story} {settings : Settings} {seed : Option UInt64}
    {store : List (String × Binary64)} {requests : List (Channel.Request World)} {start : World}
    {unseeded : Generator} {director : Director World}
    (hbuilt : build story settings seed store (Channel.after requests start).1 unseeded =
      .ok director) (deeds : List (Deed World)) :
    let opened : Visit World := { director, world := (Channel.after requests start).2 }
    let account := Account.actAll { visit := opened, history := requests } deeds
    account.visit = opened.actAll (deeds.map Deed.action) ∧ account.Balanced start := by
  intro opened account
  obtain ⟨-, rfl⟩ := made_of_build hbuilt
  have hopened : Account.Balanced { visit := opened, history := requests } start :=
    ⟨rfl, rfl, List.forall_mem_nil _, rfl⟩
  exact ⟨Account.visit_actAll _ deeds, hopened.actAll deeds⟩

/-- How the audience of the guard took its seats. -/
def seating : List (Channel.Request (List Event)) :=
  [.once .dialogueShow fun _ heard => (.failed "too early", heard),
    .subscribe .dialogueShow crashing,
    .subscribeAll fun event heard => (.handled, heard ++ [event])]

/-- A bribe, with a look at the failures before it and one more handler that crashes at it. -/
def bribingReported : List (Deed (List Event)) :=
  [.call .start, .takeFailures, .request (.subscribe .variablesUpdated crashing),
    .call (.choose { seconds := 0, nanoseconds := 0 } 0)]

/-- The bribe fails at the gate, and what crashed on the way is kept for the next look. -/
theorem hired_failures_kept :
    let account := Account.actAll
      { visit := { director := hired, world := [] }, history := seating } bribingReported
    account.Balanced [] ∧ account.visit.answers.getLast?.any (fun answer => !answer.isOk) = true ∧
      account.taken =
        [[{ subscription := 0, event := .dialogueShow, reason := "too early" },
          { subscription := 1, event := .dialogueShow,
            reason := "handler panicked: out of cheese" }]] ∧
      account.visit.director.audience.failures =
        [{ subscription := 3, event := .variablesUpdated,
           reason := "handler panicked: out of cheese" }] := by
  have hbuilt : build guardStory kindly (some 7) [("Courage", 4)]
      (Channel.after seating []).1 (Generator.ofSeed 1) = .ok hired :=
    build_eq_made (by decide +kernel)
  refine ⟨(failures_kept_until_taken hbuilt bribingReported).2, ?_, ?_, ?_⟩ <;> decide +kernel

end Director

end BranchingStory
