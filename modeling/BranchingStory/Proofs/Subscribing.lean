import Mathlib.Data.List.Basic
import Mathlib.Data.List.Induction
import BranchingStory.Channel

/-!
# Subscribing

Whoever holds a channel subscribes handlers, ends subscriptions and emits events in any order.  A
rule about this history alone says who is subscribed at its end: a subscription was opened by one of
the requests, its id is the number of subscriptions opened before it, and no later request ended it.
What the handlers do with an event, whether they succeed, fail or crash, has no part in the rule.

The list that a channel keeps holds the subscriptions of the rule and no others, with increasing
ids.  Each request adds at most one subscription behind the others and takes away those that it
ends, so this goes from every request to the next.
-/

namespace BranchingStory

namespace Channel

variable {World : Type}

/-! ## Histories -/

/-- What is asked of a channel.  Between two requests the world of the handlers may change. -/
inductive Request (World : Type) where
  | subscribe (kind : EventKind) (handler : Handler World)
  | subscribeAll (handler : Handler World)
  | once (kind : EventKind) (handler : Handler World)
  | unsubscribe (id : Nat)
  | clear (kind : Option EventKind)
  | emit (event : Event)
  | elapse (change : World → World)

def serve (channel : Channel World) (world : World) : Request World → Channel World × World
  | .subscribe kind handler => ((channel.subscribe kind handler).2, world)
  | .subscribeAll handler => ((channel.subscribeAll handler).2, world)
  | .once kind handler => ((channel.once kind handler).2, world)
  | .unsubscribe id => ((channel.unsubscribe id).2, world)
  | .clear kind => (channel.clear kind, world)
  | .emit event => (channel.emit event world).2
  | .elapse change => (channel, change world)

/-- A new channel and the world of its handlers after a history of requests. -/
def after (requests : List (Request World)) (world : World) : Channel World × World :=
  requests.foldl (fun reached request => reached.1.serve reached.2 request) ({}, world)

theorem after_concat (requests : List (Request World)) (request : Request World) (world : World) :
    after (requests ++ [request]) world =
      (after requests world).1.serve (after requests world).2 request := by
  rw [after, List.foldl_concat]
  rfl

/-! ## The rule -/

/-- The subscription that a request opens if `id` is the next one. -/
def Request.opened? (id : Nat) : Request World → Option (Subscription World)
  | subscribe kind handler => some { id, filter := some kind, once := false, handler }
  | subscribeAll handler => some { id, filter := none, once := false, handler }
  | once kind handler => some { id, filter := some kind, once := true, handler }
  | unsubscribe _ | clear _ | emit _ | elapse _ => none

/-- Whether a request ends a subscription. -/
def Request.Ends (subscription : Subscription World) : Request World → Prop
  | unsubscribe id => id = subscription.id
  | clear none => True
  | clear (some kind) => subscription.filter = some kind
  | emit event => subscription.once = true ∧ subscription.filter = some event.kind
  | subscribe .. | subscribeAll _ | once .. | elapse _ => False

def Request.opens : Request World → Bool
  | subscribe .. | subscribeAll _ | once .. => true
  | unsubscribe _ | clear _ | emit _ | elapse _ => false

/-- How many subscriptions a history opens. -/
def issued (requests : List (Request World)) : Nat :=
  requests.countP Request.opens

/-- The subscription was opened in the history, with the number of those opened before it as its
id, and nothing that was asked later ended it. -/
def Subscribed (requests : List (Request World)) (subscription : Subscription World) : Prop :=
  ∃ earlier request later, requests = earlier ++ request :: later ∧
    request.opened? (issued earlier) = some subscription ∧
      ∀ ending ∈ later, ¬ ending.Ends subscription

theorem Request.id_of_opened? {request : Request World} {id : Nat}
    {subscription : Subscription World} (hopened : request.opened? id = some subscription) :
    subscription.id = id ∧ (subscription.once = true → subscription.filter ≠ none) := by
  cases request <;> cases hopened <;> simp

theorem Request.isSome_opened? (request : Request World) (id : Nat) :
    (request.opened? id).isSome = request.opens := by
  cases request <;> rfl

theorem issued_concat (requests : List (Request World)) (request : Request World) :
    issued (requests ++ [request]) = issued requests + if request.opens then 1 else 0 := by
  rw [issued, List.countP_append, List.countP_singleton]
  rfl

/-- The id of a subscription is smaller than the number of those opened up to it and after it. -/
theorem id_lt_issued {earlier later : List (Request World)} {request : Request World}
    {subscription : Subscription World}
    (hopened : request.opened? (issued earlier) = some subscription) :
    subscription.id < issued (earlier ++ request :: later) := by
  have hopens : request.opens = true := by
    rw [← request.isSome_opened? (issued earlier), hopened]
    rfl
  have hcount : issued (earlier ++ request :: later) =
      issued earlier + (issued later + 1) := by
    rw [issued, List.countP_append, List.countP_cons_of_pos hopens]
    rfl
  rw [(Request.id_of_opened? hopened).1, hcount]
  omega

theorem not_subscribed_nil (subscription : Subscription World) : ¬ Subscribed [] subscription := by
  rintro ⟨earlier, request, later, hsplit, -⟩
  simp at hsplit

/-- One more request opens a subscription or leaves those that it does not end. -/
theorem subscribed_concat (requests : List (Request World)) (request : Request World)
    (subscription : Subscription World) :
    Subscribed (requests ++ [request]) subscription ↔
      request.opened? (issued requests) = some subscription ∨
        Subscribed requests subscription ∧ ¬ request.Ends subscription := by
  constructor
  · rintro ⟨earlier, opening, later, hsplit, hopened, hkept⟩
    rcases List.eq_nil_or_concat later with rfl | ⟨front, last, rfl⟩
    · obtain ⟨rfl, hlast⟩ := List.append_inj' hsplit rfl
      obtain rfl := List.singleton_inj.mp hlast
      exact .inl hopened
    · rw [List.concat_eq_append] at hsplit hkept
      rw [← List.cons_append, ← List.append_assoc] at hsplit
      obtain ⟨rfl, hlast⟩ := List.append_inj' hsplit rfl
      obtain rfl := List.singleton_inj.mp hlast
      exact .inr ⟨⟨earlier, opening, front, rfl, hopened,
        fun ending hmem => hkept ending (List.mem_append_left _ hmem)⟩,
        hkept request (List.mem_append_right _ (List.mem_singleton_self request))⟩
  · rintro (hopened | ⟨⟨earlier, opening, later, rfl, hopened, hkept⟩, hspared⟩)
    · exact ⟨requests, request, [], rfl, hopened, List.forall_mem_nil _⟩
    · refine ⟨earlier, opening, later ++ [request], by simp, hopened, fun ending hmem => ?_⟩
      rcases List.mem_append.mp hmem with hlater | hlast
      · exact hkept ending hlater
      · rwa [List.mem_singleton.mp hlast]

/-! ## The list that is kept -/

/-- What the list of subscriptions keeps to: the ids grow and are used up, and a subscription for
one event is to one kind. -/
structure Sorted (channel : Channel World) : Prop where
  increasing : channel.subscriptions.Pairwise fun first second => first.id < second.id
  used : ∀ subscription ∈ channel.subscriptions, subscription.id < channel.nextId
  specific : ∀ subscription ∈ channel.subscriptions,
    subscription.once = true → subscription.filter ≠ none

theorem receives_iff {subscription : Subscription World} {kind : EventKind} :
    subscription.receives kind = true ↔
      subscription.filter = none ∨ subscription.filter = some kind := by
  rw [Subscription.receives]
  cases subscription.filter <;> simp

/-- Ends some subscriptions. -/
theorem Sorted.filter {channel : Channel World} (hsorted : channel.Sorted)
    (keep : Subscription World → Bool) :
    ({ channel with subscriptions := channel.subscriptions.filter keep } : Channel World).Sorted where
  increasing := hsorted.increasing.filter keep
  used subscription hmem := hsorted.used subscription (List.mem_of_mem_filter hmem)
  specific subscription hmem := hsorted.specific subscription (List.mem_of_mem_filter hmem)

theorem Sorted.add {channel : Channel World} (hsorted : channel.Sorted)
    (filter : Option EventKind) (once : Bool) (handler : Handler World)
    (hspecific : once = true → filter ≠ none) : (channel.add filter once handler).2.Sorted where
  increasing := by
    refine List.pairwise_append.mpr ⟨hsorted.increasing, List.pairwise_singleton _ _, ?_⟩
    intro earlier hearlier added hadded
    rw [List.mem_singleton.mp hadded]
    exact hsorted.used earlier hearlier
  used subscription hmem := by
    rcases List.mem_append.mp hmem with hearlier | hadded
    · exact Nat.lt_succ_of_lt (hsorted.used subscription hearlier)
    · rw [List.mem_singleton.mp hadded]
      exact Nat.lt_succ_self _
  specific subscription hmem := by
    rcases List.mem_append.mp hmem with hearlier | hadded
    · exact hsorted.specific subscription hearlier
    · rw [List.mem_singleton.mp hadded]
      exact hspecific

theorem Sorted.serve {channel : Channel World} (hsorted : channel.Sorted) (world : World)
    (request : Request World) : (channel.serve world request).1.Sorted := by
  cases request with
  | subscribe kind handler => exact hsorted.add _ _ _ (by simp)
  | subscribeAll handler => exact hsorted.add _ _ _ (by simp)
  | once kind handler => exact hsorted.add _ _ _ (by simp)
  | unsubscribe id => exact hsorted.filter _
  | clear kind =>
      cases kind with
      | some kind => exact hsorted.filter _
      | none =>
          exact ⟨List.Pairwise.nil, List.forall_mem_nil _, List.forall_mem_nil _⟩
  | emit event => exact hsorted.filter _
  | elapse change => exact hsorted

theorem nextId_serve (channel : Channel World) (world : World) (request : Request World) :
    (channel.serve world request).1.nextId =
      channel.nextId + if request.opens then 1 else 0 := by
  cases request with
  | clear kind => cases kind <;> rfl
  | subscribe | subscribeAll | once | unsubscribe | emit | elapse => rfl

theorem mem_add {channel : Channel World} {filter : Option EventKind} {once : Bool}
    {handler : Handler World} {subscription : Subscription World} :
    subscription ∈ (channel.add filter once handler).2.subscriptions ↔
      some { id := channel.nextId, filter, once, handler } = some subscription ∨
        subscription ∈ channel.subscriptions := by
  rw [add, List.mem_append, List.mem_singleton, Option.some_inj, or_comm, eq_comm]

/-- A request keeps the subscriptions that it does not end, and adds the one that it opens. -/
theorem mem_serve {channel : Channel World} (hsorted : channel.Sorted) (world : World)
    (request : Request World) (subscription : Subscription World) :
    subscription ∈ (channel.serve world request).1.subscriptions ↔
      request.opened? channel.nextId = some subscription ∨
        subscription ∈ channel.subscriptions ∧ ¬ request.Ends subscription := by
  cases request with
  | subscribe kind handler =>
      simp only [Request.Ends, not_false_eq_true, and_true]
      exact mem_add
  | subscribeAll handler =>
      simp only [Request.Ends, not_false_eq_true, and_true]
      exact mem_add
  | once kind handler =>
      simp only [Request.Ends, not_false_eq_true, and_true]
      exact mem_add
  | unsubscribe id =>
      simp only [Channel.serve, unsubscribe, List.mem_filter, decide_eq_true_eq, Request.opened?,
        reduceCtorEq, false_or, Request.Ends, ne_comm, ne_eq]
  | clear kind =>
      cases kind <;>
        simp [Channel.serve, clear, Request.opened?, Request.Ends]
  | emit event =>
      simp only [Channel.serve, emit, List.mem_filter, Request.opened?, reduceCtorEq, false_or,
        Request.Ends, Bool.not_eq_true', Bool.and_eq_false_iff]
      refine and_congr_right fun hmem => ?_
      have hspecific := hsorted.specific subscription hmem
      cases honce : subscription.once with
      | false => simp
      | true => simp [← Bool.not_eq_true, receives_iff, hspecific honce]
  | elapse change =>
      simp only [Channel.serve, Request.opened?, Request.Ends, reduceCtorEq, false_or,
        not_false_eq_true, and_true]

/-- After any history the list keeps the subscriptions of the rule, and the ids that were issued
are used up. -/
theorem after_subscriptions (requests : List (Request World)) (world : World) :
    let channel := (after requests world).1
    channel.Sorted ∧ channel.nextId = issued requests ∧
      ∀ subscription, subscription ∈ channel.subscriptions ↔ Subscribed requests subscription := by
  induction requests using List.reverseRecOn with
  | nil =>
      refine ⟨⟨List.Pairwise.nil, List.forall_mem_nil _, List.forall_mem_nil _⟩, rfl, ?_⟩
      intro subscription
      exact iff_of_false List.not_mem_nil (not_subscribed_nil subscription)
  | append_singleton requests request ih =>
      obtain ⟨hsorted, hissued, hmem⟩ := ih
      rw [after_concat]
      refine ⟨hsorted.serve _ request, ?_, fun subscription => ?_⟩
      · rw [nextId_serve, issued_concat, hissued]
      · rw [mem_serve hsorted, subscribed_concat, hissued, hmem]

/-! ## Delivery -/

/-- Runs handlers on an event one after the other, each in the world that the one before it left.
The results stand with the ids of the subscriptions. -/
def runAll (event : Event) :
    List (Subscription World) → World → List (Nat × HandlerResult) × World
  | [], world => ([], world)
  | subscription :: rest, world =>
      let (result, world) := subscription.handler event world
      let (results, world) := runAll event rest world
      ((subscription.id, result) :: results, world)

theorem length_runAll (event : Event) (heard : List (Subscription World)) (world : World) :
    (runAll event heard world).1.length = heard.length := by
  induction heard generalizing world with
  | nil => rfl
  | cons subscription rest ih => exact congrArg (· + 1) (ih _)

/-- The failure that the result of a handler is reported as. -/
def failure? (kind : EventKind) (run : Nat × HandlerResult) : Option HandlerFailure :=
  run.2.reason?.map fun reason => { subscription := run.1, event := kind, reason }

/-- How many runs succeeded, and the failures of the others. -/
def reportOf (kind : EventKind) (runs : List (Nat × HandlerResult)) : Report where
  delivered := runs.countP fun run => run.2 = .handled
  failures := runs.filterMap (failure? kind)

theorem reportOf_cons (kind : EventKind) (run : Nat × HandlerResult)
    (rest : List (Nat × HandlerResult)) :
    reportOf kind (run :: rest) =
      match run.2.reason? with
      | none => { reportOf kind rest with delivered := (reportOf kind rest).delivered + 1 }
      | some reason =>
          let failure : HandlerFailure := { subscription := run.1, event := kind, reason }
          { reportOf kind rest with failures := failure :: (reportOf kind rest).failures } := by
  obtain ⟨id, result⟩ := run
  cases result with
  | handled => simp [reportOf, failure?, HandlerResult.reason?, List.filterMap_cons]
  | failed reason => simp [reportOf, failure?, HandlerResult.reason?]
  | crashed message => cases message <;> simp [reportOf, failure?, HandlerResult.reason?]

/-- Every run counts as a delivery or as a failure. -/
theorem delivered_add_failures (kind : EventKind) (runs : List (Nat × HandlerResult)) :
    (reportOf kind runs).delivered + (reportOf kind runs).failures.length = runs.length := by
  induction runs with
  | nil => rfl
  | cons run rest ih =>
      rw [reportOf_cons, List.length_cons, ← ih]
      cases run.2.reason? with
      | none => exact Nat.add_right_comm _ 1 _
      | some reason => rfl

/-- Delivery runs the handlers of the subscriptions that receive the event, and reports on all of
them. -/
theorem notify_eq (event : Event) (subscriptions : List (Subscription World)) (world : World) :
    notify event subscriptions world =
      let heard := subscriptions.filter fun subscription => subscription.receives event.kind
      (reportOf event.kind (runAll event heard world).1, (runAll event heard world).2) := by
  induction subscriptions generalizing world with
  | nil => rfl
  | cons subscription rest ih =>
      cases hreceives : subscription.receives event.kind with
      | false => simp only [notify, hreceives, Bool.false_eq_true, if_false, ih,
          List.filter_cons_of_neg, not_false_eq_true]
      | true =>
          simp only [notify, hreceives, if_true, ih, List.filter_cons_of_pos, runAll, reportOf_cons]
          cases (subscription.handler event world).1.reason? <;> rfl

/-- The channel after any history of requests follows the rule.  An event is run past the handlers
of the subscriptions that the rule names and that receive its kind, each once, in the order of their
ids and whatever the others do with it; the report counts them all.  A subscription can be ended as
long as the rule names it, and the next one gets an id that was not issued before. -/
theorem after_follows_rule (requests : List (Request World)) (world : World) :
    let channel := (after requests world).1
    let current := (after requests world).2
    (∀ event : Event, ∃ heard : List (Subscription World),
      heard.Pairwise (fun first second => first.id < second.id) ∧
      (∀ subscription, subscription ∈ heard ↔ Subscribed requests subscription ∧
        (subscription.filter = none ∨ subscription.filter = some event.kind)) ∧
      (channel.emit event current).1 = reportOf event.kind (runAll event heard current).1 ∧
      (channel.emit event current).2.2 = (runAll event heard current).2 ∧
      channel.listenerCount (some event.kind) =
        (channel.emit event current).1.delivered +
          (channel.emit event current).1.failures.length) ∧
    (∀ id, (channel.unsubscribe id).1 = true ↔
      ∃ subscription, Subscribed requests subscription ∧ subscription.id = id) ∧
    (∀ filter once handler, (channel.add filter once handler).1 = issued requests) ∧
    ∀ earlier request later subscription, requests = earlier ++ request :: later →
      request.opened? (issued earlier) = some subscription →
        subscription.id = issued earlier ∧ subscription.id < issued requests := by
  intro channel current
  obtain ⟨hsorted, hissued, hmem⟩ := after_subscriptions requests world
  refine ⟨fun event => ?_, fun id => ?_, fun _ _ _ => hissued, ?_⟩
  · let heard := channel.subscriptions.filter fun subscription => subscription.receives event.kind
    have hnotify := notify_eq event channel.subscriptions current
    have hreport : (channel.emit event current).1 =
        reportOf event.kind (runAll event heard current).1 := congrArg Prod.fst hnotify
    refine ⟨heard, hsorted.increasing.filter _, fun subscription => ?_, hreport,
      congrArg Prod.snd hnotify, ?_⟩
    · rw [List.mem_filter, hmem, receives_iff]
    · rw [hreport, delivered_add_failures, length_runAll, ← List.countP_eq_length_filter]
      rfl
  · simp only [unsubscribe, List.any_eq_true, decide_eq_true_eq]
    exact exists_congr fun subscription => and_congr_left fun _ => hmem subscription
  · rintro earlier request later subscription rfl hopened
    exact ⟨(Request.id_of_opened? hopened).1, id_lt_issued hopened⟩

end Channel

end BranchingStory
