import Mathlib.Data.List.Induction
import Playground.Proofs.Outfits

/-!
# Events are delivered exactly

Listeners subscribe and unsubscribe, and an event is published. While they are called they may
alter the data, change the subscriptions, those that are being served included, and fail; every
listener that was subscribed when its turn was planned is called all the same, and no other, unless
a failure has no wording: that one cannot be logged, and breaks the publication off.

* `Registration`, `listenersAfter`, `allAfter` — changes of subscriptions, and the listeners that a
  history of them leaves.
* `reactionTo`, `takeReaction_eq` — what a listener does about each of its calls.
* `Delivery`, `effectsOf`, `logAfter` — one call of a listener, and what is noted and logged of
  calls.
* `Round`, `Round.trans` — calls one after the other, and what they leave of the session.
* `callListener_eq`, `round_callListeners`, `round_publish` — one call, the calls of one round, and
  the two rounds of an event.
* `brokenBy`, `Serves` — how far the calls of a round come.
* `Publication`, `events_delivered` — the calls of one event, after any history of subscriptions.
* `mute_failure_breaks_off` — a listener is left out after a failure without a wording.
-/

namespace Playground

/-! ### Subscriptions -/

inductive Registration where
  | subscribe (event listener : String)
  | unsubscribe (event listener : String)
  | subscribeAll (listener : String)
  | clear
  deriving DecidableEq

def Action.registration? : Action → Option Registration
  | .subscribe event listener => some (.subscribe event listener)
  | .unsubscribe event listener => some (.unsubscribe event listener)
  | .subscribeAll listener => some (.subscribeAll listener)
  | .clearListeners => some .clear
  | _ => none

namespace EventBus

def register (b : EventBus) : Registration → EventBus
  | .subscribe event listener => b.subscribe event listener
  | .unsubscribe event listener => b.unsubscribe event listener
  | .subscribeAll listener => b.subscribeAll listener
  | .clear => b.clear

def registerAll (b : EventBus) (changes : List Registration) : EventBus := changes.foldl register b

end EventBus

namespace Registration

/-- The listeners of one event after a change; of several subscriptions of a listener the first is
taken back. -/
def onEvent (event : String) (listeners : List String) : Registration → List String
  | subscribe e l => if e = event then listeners ++ [l] else listeners
  | unsubscribe e l => if e = event then listeners.erase l else listeners
  | subscribeAll _ => listeners
  | clear => []

/-- The listeners of all events after a change. -/
def onAll (listeners : List String) : Registration → List String
  | subscribeAll l => listeners ++ [l]
  | clear => []
  | _ => listeners

end Registration

def listenersAfter (event : String) (history : List Registration) : List String :=
  history.foldl (Registration.onEvent event) []

/-- The listeners of all events that a history of changes leaves. -/
def allAfter (history : List Registration) : List String := history.foldl Registration.onAll []

namespace EventBus

theorem listenersOf_unsubscribe (b : EventBus) (event e l : String) :
    (b.unsubscribe e l).listenersOf event =
      if e = event then (b.listenersOf event).erase l else b.listenersOf event := by
  unfold unsubscribe listenersOf
  dsimp only
  induction b.named with
  | nil => simp
  | cons s rest ih =>
    obtain ⟨e', l'⟩ := s
    rw [List.erase_cons]
    by_cases same : (e', l') = (e, l)
    · cases same
      by_cases here : e = event
      · simp [here]
      · simp [here]
    · rw [if_neg (by simpa using same)]
      by_cases there : e' = event
      · by_cases here : e = event
        · have other : l' ≠ l := by
            rintro rfl
            exact same (by rw [there, here])
          rw [if_pos here] at ih ⊢
          simp only [List.filter_cons, there, decide_true, if_true, List.map_cons, ih,
            List.erase_cons, beq_iff_eq, other, if_false]
        · simp only [List.filter_cons, there, decide_true, if_true, List.map_cons, ih, here,
            if_false]
      · simp only [List.filter_cons, there, decide_false, Bool.false_eq_true, if_false, ih]

theorem listenersOf_register (b : EventBus) (event : String) (r : Registration) :
    (b.register r).listenersOf event = r.onEvent event (b.listenersOf event) := by
  cases r with
  | subscribe e l =>
    by_cases here : e = event <;> simp [register, subscribe, listenersOf, Registration.onEvent,
        here]
  | unsubscribe e l => exact listenersOf_unsubscribe b event e l
  | subscribeAll l => rfl
  | clear => rfl

theorem all_register (b : EventBus) (r : Registration) :
    (b.register r).all = r.onAll b.all := by
  cases r <;> rfl

/-- The bus knows the listeners of an event that its history leaves. -/
theorem listenersOf_registerAll (event : String) (history : List Registration) :
    (registerAll {} history).listenersOf event = listenersAfter event history := by
  induction history using List.reverseRecOn with
  | nil => rfl
  | append_singleton history r ih =>
    simp only [registerAll, listenersAfter, List.foldl_append, List.foldl_cons, List.foldl_nil]
    rw [listenersOf_register]
    exact congrArg (r.onEvent event) ih

theorem all_registerAll (history : List Registration) :
    (registerAll {} history).all = allAfter history := by
  induction history using List.reverseRecOn with
  | nil => rfl
  | append_singleton history r ih =>
    simp only [registerAll, allAfter, List.foldl_append, List.foldl_cons, List.foldl_nil]
    rw [all_register]
    exact congrArg r.onAll ih

end EventBus

/-! ### Reactions -/

/-- What the listener of a name does about a call that comes after `k` others. -/
def reactionTo (listeners : List (String × Listener Action)) (name : String) (k : Nat)
    (event : String) (data : Payload) : Option (Reaction Action) :=
  ((listeners.find? fun l => l.1 = name).map (·.2)).bind fun l => l.respond (l.calls + k) event data

/-- After one more call of a listener, the others are where they were. -/
def CountsCall (listeners after : List (String × Listener Action)) (name : String) : Prop :=
  ∀ other k event data, reactionTo after other k event data =
    reactionTo listeners other (if other = name then k + 1 else k) event data

namespace Session

/-- Taking a reaction counts the call, and changes nothing but the listeners. -/
theorem takeReaction_eq (s : Session Action) (event name : String) (data : Payload) :
    ∃ listeners, s.takeReaction event name data =
        ({ s with listeners }, reactionTo s.listeners name 0 event data) ∧
      CountsCall s.listeners listeners name := by
  unfold takeReaction
  split
  next missing =>
    refine ⟨s.listeners, by simp [reactionTo, missing], fun other k event data => ?_⟩
    split
    next here => simp [reactionTo, here, missing]
    next => rfl
  next l found =>
    refine ⟨assign name { l with calls := l.calls + 1 } s.listeners, by simp [reactionTo, found],
      fun other k event data => ?_⟩
    unfold reactionTo
    rw [find?_assign]
    by_cases here : other = name
    · simp only [here, if_true, found, Option.bind_some, Nat.add_right_comm l.calls 1 k,
        Nat.add_assoc]
    · simp only [here, if_false]

/-- The listeners do nothing but change subscriptions, alter the data and fail. -/
def Registering (s : Session Action) : Prop :=
  ∀ name k event data r, reactionTo s.listeners name k event data = some r →
    ∀ a ∈ r.actions, a.registration?.isSome

theorem registering_of_forall {s : Session Action}
    (all : ∀ l ∈ s.listeners, l.2.Admits fun a => a.registration?.isSome = true) :
    s.Registering := by
  intro name k event data r reacts a among
  obtain ⟨l, named, reacts⟩ := Option.bind_eq_some_iff.1 reacts
  obtain ⟨entry, found, rfl⟩ := Option.map_eq_some_iff.1 named
  exact all entry (List.mem_of_find?_eq_some found) _ _ _ r reacts a among

theorem act_registration (react : React Action) {a : Action} {r : Registration}
    (changes : a.registration? = some r) (s : Session Action) :
    act react a s = ({ s with bus := s.bus.register r }, .ok .nothing) := by
  cases a <;> cases changes <;> rfl

theorem actAll_registrations (react : React Action) (actions : List Action)
    (changes : ∀ a ∈ actions, a.registration?.isSome) (s : Session Action) :
    actAll react actions s =
      ({ s with bus := s.bus.registerAll (actions.filterMap Action.registration?) }, none) := by
  induction actions generalizing s with
  | nil => rfl
  | cons a rest ih =>
    obtain ⟨r, change⟩ := Option.isSome_iff_exists.1 (changes a List.mem_cons_self)
    rw [actAll, act_registration react change, List.filterMap_cons_some change]
    exact ih (fun a among => changes a (List.mem_cons_of_mem _ among)) _

/-- At a named level errors are delivered. -/
theorem write_error {s : Session Action} {n : Fin 4} (named : s.log.verbosity = .level n)
    (logger message : String) :
    s.write .error logger message =
      { s with
        log := (s.log.emit .error logger message).1
        journal := (s.log.sinks.map fun k =>
          Effect.logged k (Log.record .error logger message)).reverse ++ s.journal } := by
  simp [write, Log.Board.emit, named, Verbosity.hides, Log.Level.rank]

end Session

namespace Log.Board

theorem verbosity_callSink (r : Record) (b : Board) (name : String) :
    (b.callSink r name).verbosity = b.verbosity := by
  unfold callSink removeSink
  by_cases removes : (b.mood b.calls name r).removesItself <;>
    by_cases fails : (b.mood b.calls name r).fault.isSome <;> simp [removes, fails]

/-- Messages leave the verbosity as it is. -/
theorem verbosity_emit (b : Board) (level : Level) (logger message : String) :
    (b.emit level logger message).1.verbosity = b.verbosity := by
  have called (r : Record) (sinks : List String) :
      (sinks.foldl (callSink r) b).verbosity = b.verbosity := by
    induction sinks using List.reverseRecOn with
    | nil => rfl
    | append_singleton sinks k ih => simp [verbosity_callSink, ih]
  unfold emit print
  by_cases hidden : b.verbosity.hides level.rank
  · rw [if_pos hidden]
  · rw [if_neg hidden]
    by_cases isError : level = .error <;> simp [isError, called]

end Log.Board

/-! ### Calls of listeners -/

structure Delivery where
  listener : String
  /-- Is it called as a listener of all events? -/
  toAll : Bool
  /-- The data that it is handed. -/
  data : Payload
  /-- What it does, if it does anything. -/
  reaction : Option (Reaction Action)

namespace Delivery

def alter (d : Delivery) : Payload → Payload := (d.reaction.map (·.alter)).getD id

def registrations (d : Delivery) : List Registration :=
  ((d.reaction.map (·.actions)).getD []).filterMap Action.registration?

/-- What is to be logged of the listener's failure, if it fails and the failure has a wording. -/
def complaint? (event : String) (d : Delivery) : Option String :=
  (d.reaction.bind (·.fault)).bind fun f =>
    (Session.listenerFailure event d.listener d.toAll f).toOption

/-- The fault with which the publication breaks off, if the listener fails without a wording. -/
def broken? (d : Delivery) : Option Fault :=
  (d.reaction.bind (·.fault)).bind fun f => Session.failureOf f.wording

/-- The effects of a call: the listener hears of the event, and if its failure is logged, every sink
that is registered then gets one record. -/
def effects (event : String) (b : Log.Board) (d : Delivery) : List Effect :=
  .heard d.listener event d.data d.toAll d.reaction.isSome ::
    match d.complaint? event with
    | none => []
    | some message => b.sinks.map fun k => .logged k (Log.record .error Session.eventLogger message)

variable (event : String) {d : Delivery} {f : Fault}

/-- A listener that does not fail has nothing logged. -/
theorem quiet_of_sound (sound : d.reaction.bind (·.fault) = none) :
    d.complaint? event = none ∧ d.broken? = none := by
  simp [complaint?, broken?, sound]

theorem quiet_of_mute {why : Fault} (fails : d.reaction.bind (·.fault) = some f)
    (mute : f.wording = .error why) : d.complaint? event = none ∧ d.broken? = some why := by
  simp [complaint?, broken?, fails, Session.listenerFailure_of_mute mute, mute, Except.toOption,
    Session.failureOf]

theorem complains_of_wording {text message : String}
    (fails : d.reaction.bind (·.fault) = some f) (worded : f.wording = .ok text)
    (words : Session.listenerFailure event d.listener d.toAll f = .ok message) :
    d.complaint? event = some message ∧ d.broken? = none := by
  simp [complaint?, broken?, fails, words, worded, Except.toOption, Session.failureOf]

end Delivery

def dataAfter (data : Payload) (ds : List Delivery) : Payload :=
  ds.foldl (fun data d => d.alter data) data

/-- The log that calls leave: one error is written to it for each call that failed. -/
def logAfter (event : String) (b : Log.Board) (ds : List Delivery) : Log.Board :=
  (ds.filterMap (Delivery.complaint? event)).foldl
    (fun b message => (b.emit .error Session.eventLogger message).1) b

def effectsOf (event : String) : Log.Board → List Delivery → List Effect
  | _, [] => []
  | b, d :: ds => d.effects event b ++ effectsOf event (logAfter event b [d]) ds

theorem logAfter_quiet (event : String) (b : Log.Board) {d : Delivery}
    (quiet : d.complaint? event = none) : logAfter event b [d] = b := by
  simp [logAfter, quiet]

theorem logAfter_complaint (event : String) (b : Log.Board) {d : Delivery} {message : String}
    (complains : d.complaint? event = some message) :
    logAfter event b [d] = (b.emit .error Session.eventLogger message).1 := by
  simp [logAfter, complains]

theorem dataAfter_append (data : Payload) (ds es : List Delivery) :
    dataAfter data (ds ++ es) = dataAfter (dataAfter data ds) es := List.foldl_append

theorem logAfter_append (event : String) (b : Log.Board) (ds es : List Delivery) :
    logAfter event b (ds ++ es) = logAfter event (logAfter event b ds) es := by
  simp only [logAfter, List.filterMap_append, List.foldl_append]

theorem effectsOf_append (event : String) (b : Log.Board) (ds es : List Delivery) :
    effectsOf event b (ds ++ es) =
      effectsOf event b ds ++ effectsOf event (logAfter event b ds) es := by
  induction ds generalizing b with
  | nil => rfl
  | cons d ds ih =>
    rw [List.cons_append, effectsOf, effectsOf, ih, ← logAfter_append, List.append_assoc,
      List.singleton_append]

theorem verbosity_logAfter (event : String) (b : Log.Board) (ds : List Delivery) :
    (logAfter event b ds).verbosity = b.verbosity := by
  unfold logAfter
  induction ds.filterMap (Delivery.complaint? event) generalizing b with
  | nil => rfl
  | cons message messages ih => rw [List.foldl_cons, ih, Log.Board.verbosity_emit]

/-- What is due to a call that comes after others: the data as they left it; and it does what its
listener does after the calls that the listener has had. -/
structure Delivery.Due (event : String) (listeners : List (String × Listener Action))
    (data : Payload) (earlier : List Delivery) (d : Delivery) : Prop where
  data : d.data = dataAfter data earlier
  reaction : d.reaction = reactionTo listeners d.listener
    ((earlier.map (·.listener)).count d.listener) event d.data

/-- Listeners are called one after the other, and the session changes by what they do and by the
notes of their calls alone. -/
structure Round (event : String) (s : Session Action) (data : Payload) (ds : List Delivery)
    (t : Session Action) : Prop where
  due : ∀ earlier d later, ds = earlier ++ d :: later → d.Due event s.listeners data earlier
  listeners : ∀ name k, reactionTo t.listeners name k =
    reactionTo s.listeners name ((ds.map (·.listener)).count name + k)
  bus : t.bus = s.bus.registerAll (ds.flatMap (·.registrations))
  log : t.log = logAfter event s.log ds
  journal : t.journal = (effectsOf event s.log ds).reverse ++ s.journal
  rest : t = { s with
    bus := t.bus, listeners := t.listeners, log := t.log, journal := t.journal }

namespace Round

variable {event : String} {s t u : Session Action} {data : Payload} {ds es : List Delivery}

theorem nil : Round event s data [] s where
  due earlier d later parts := absurd parts (by simp)
  listeners name k := by simp
  bus := rfl
  log := rfl
  journal := rfl
  rest := rfl

/-- Rounds follow each other. -/
theorem trans (first : Round event s data ds t) (second : Round event t (dataAfter data ds) es u) :
    Round event s data (ds ++ es) u where
  due earlier d later parts := by
    have behind {more : List Delivery} (here : es = more ++ d :: later) :
        d.Due event s.listeners data (ds ++ more) := by
      have due := second.due more d later here
      refine ⟨by rw [due.data, dataAfter_append], ?_⟩
      rw [due.reaction, first.listeners, List.map_append, List.count_append]
    rcases List.append_eq_append_iff.1 parts with ⟨more, rfl, here⟩ | ⟨more, split, here⟩
    · exact behind here
    · cases more with
      | nil => simpa [split] using @behind [] here.symm
      | cons d' more =>
        cases here
        exact first.due earlier d more split
  listeners name k := by
    rw [second.listeners, first.listeners, List.map_append, List.count_append, Nat.add_assoc]
  bus := by
    rw [second.bus, first.bus, List.flatMap_append]
    exact List.foldl_append.symm
  log := by rw [second.log, first.log, logAfter_append]
  journal := by
    rw [second.journal, first.journal, first.log, effectsOf_append, List.reverse_append,
      List.append_assoc]
  rest := by
    rw [second.rest, first.rest]

theorem registering (round : Round event s data ds t) (registering : s.Registering) :
    t.Registering := by
  intro name k event' data' r reacts
  rw [round.listeners] at reacts
  exact registering name _ event' data' r reacts

theorem verbosity (round : Round event s data ds t) : t.log.verbosity = s.log.verbosity := by
  rw [round.log, verbosity_logAfter]

end Round

namespace Session

variable (event : String) {s : Session Action} {n : Fin 4}

/-- The session after a call: the subscriptions change as the listener has it, and the call and its
failure are noted. -/
def called (s : Session Action) (event : String) (listeners : List (String × Listener Action))
    (d : Delivery) : Session Action :=
  { s with
    bus := s.bus.registerAll d.registrations
    listeners
    log := logAfter event s.log [d]
    journal := (d.effects event s.log).reverse ++ s.journal }

theorem round_called {data : Payload} {d : Delivery} {listeners : List (String × Listener Action)}
    (due : d.Due event s.listeners data [])
    (counts : CountsCall s.listeners listeners d.listener) :
    Round event s data [d] (s.called event listeners d) where
  due earlier d' later parts := by
    cases earlier with
    | nil =>
      cases parts
      exact due
    | cons e earlier => simp at parts
  listeners other k := by
    have counted : reactionTo (s.called event listeners d).listeners other k =
        reactionTo s.listeners other (if other = d.listener then k + 1 else k) :=
      funext fun e => funext fun data' => counts other k e data'
    rw [counted]
    by_cases here : other = d.listener
    · simp [here, Nat.add_comm]
    · simp [here, Ne.symm here]
  bus := by rw [called, List.flatMap_singleton]
  log := rfl
  journal := by rw [called, effectsOf, effectsOf, List.append_nil]
  rest := rfl

/-- The session after a call of which nothing is logged. -/
theorem called_quiet (listeners : List (String × Listener Action)) {d : Delivery}
    (quiet : d.complaint? event = none) :
    s.called event listeners d = { s with
      bus := s.bus.registerAll d.registrations
      listeners
      journal := .heard d.listener event d.data d.toAll d.reaction.isSome :: s.journal } := by
  simp [called, logAfter_quiet event s.log quiet, Delivery.effects, quiet]

/-- **One call of a listener**: it comes to its end, unless the listener fails without a wording. -/
theorem callListener_eq (registering : s.Registering) (named : s.log.verbosity = .level n)
    (toAll : Bool) (name : String) (data : Payload) :
    ∃ listeners, CountsCall s.listeners listeners name ∧
      let d : Delivery := ⟨name, toAll, data, reactionTo s.listeners name 0 event data⟩
      callListener react event toAll name s data =
        (s.called event listeners d, d.alter data, d.broken?) := by
  obtain ⟨listeners, takes, counts⟩ := s.takeReaction_eq event name data
  refine ⟨listeners, counts, ?_⟩
  cases reacts : reactionTo s.listeners name 0 event data with
  | none =>
    rw [callListener, takes, reacts]
    rfl
  | some r =>
    have reacted (s : Session Action) : react r.actions s =
        ({ s with bus := s.bus.registerAll (r.actions.filterMap Action.registration?) }, none) :=
      actAll_registrations (reactTo 239) r.actions (registering name 0 event data r reacts) s
    intro d
    rw [callListener, takes, reacts]
    dsimp only
    rw [reacted, Option.none_or]
    cases fails : r.fault with
    | none =>
      obtain ⟨quiet, whole⟩ := d.quiet_of_sound event fails
      rw [called_quiet event listeners quiet, whole]
      rfl
    | some f =>
      dsimp only
      cases hw : f.wording with
      | error why =>
        obtain ⟨quiet, broken⟩ := d.quiet_of_mute event fails hw
        rw [called_quiet event listeners quiet, broken, listenerFailure_of_mute hw]
        rfl
      | ok text =>
        obtain ⟨message, words⟩ : ∃ message, listenerFailure event name toAll f = .ok message :=
          listenerFailure_of_wording hw
        obtain ⟨complains, whole⟩ := d.complains_of_wording event fails hw words
        have effects : d.effects event s.log = .heard name event data toAll true ::
            s.log.sinks.map fun k => .logged k (Log.record .error eventLogger message) := by
          simp [Delivery.effects, complains, d]
        -- the session in which the failure is written
        let noted : Session Action := { s with
          bus := s.bus.registerAll d.registrations
          listeners
          journal := .heard name event data toAll true :: s.journal }
        have written := write_error (s := noted) named eventLogger message
        rw [called, logAfter_complaint event s.log complains, effects, whole, List.reverse_cons,
          List.append_assoc, List.singleton_append, words]
        exact congrArg (·, d.alter data, none) written

theorem round_callListener (registering : s.Registering) (named : s.log.verbosity = .level n)
    (toAll : Bool) (name : String) (data : Payload) :
    ∃ d t, callListener react event toAll name s data = (t, dataAfter data [d], d.broken?) ∧
      d.listener = name ∧ d.toAll = toAll ∧ Round event s data [d] t := by
  obtain ⟨listeners, counts, calls⟩ := callListener_eq event registering named toAll name data
  exact ⟨_, _, calls, rfl, rfl, round_called event ⟨rfl, rfl⟩ counts⟩

end Session

/-- The fault with which a publication breaks off, if one of its calls does. -/
def brokenBy (ds : List Delivery) : Option Fault := ds.findSome? (·.broken?)

/-- Listeners are called in their order: all of them, or those up to the first whose failure has no
wording. -/
structure Serves (names : List String) (ds : List Delivery) : Prop where
  calls : ds.map (·.listener) <+: names
  whole : brokenBy ds = none → ds.map (·.listener) = names
  last : ∀ earlier d later, ds = earlier ++ d :: later → d.broken? ≠ none → later = []

namespace Serves

theorem nil : Serves [] [] := ⟨List.prefix_refl _, fun _ => rfl, by simp⟩

/-- A call that ends well is followed by the others. -/
theorem cons {d : Delivery} {names : List String} {ds : List Delivery} (ends : d.broken? = none)
    (rest : Serves names ds) : Serves (d.listener :: names) (d :: ds) where
  calls := List.cons_prefix_cons.2 ⟨rfl, rest.calls⟩
  whole unbroken := by
    rw [brokenBy, List.findSome?_cons, ends] at unbroken
    exact congrArg (d.listener :: ·) (rest.whole unbroken)
  last earlier d' later parts fails := by
    cases earlier with
    | nil =>
      cases parts
      exact absurd ends fails
    | cons e earlier =>
      cases parts
      exact rest.last earlier d' later rfl fails

/-- A call that fails without a wording is the last. -/
theorem single {d : Delivery} {f : Fault} (fails : d.broken? = some f) (names : List String) :
    Serves (d.listener :: names) [d] where
  calls := List.cons_prefix_cons.2 ⟨rfl, List.nil_prefix⟩
  whole unbroken := by
    rw [brokenBy, List.findSome?_cons, fails] at unbroken
    cases unbroken
  last earlier d' later parts _ := by
    cases earlier with
    | nil => exact (List.cons_eq_cons.1 parts).2.symm
    | cons e earlier => simp at parts

end Serves

namespace Session

variable (event : String) {s : Session Action} {n : Fin 4}

/-- **Calls of listeners**: all of them are called, whatever the first ones do, unless one fails
without a wording. -/
theorem round_callListeners (registering : s.Registering) (named : s.log.verbosity = .level n)
    (toAll : Bool) (names : List String) (data : Payload) :
    ∃ ds t, callListeners react event toAll names s data = (t, dataAfter data ds, brokenBy ds) ∧
      Serves names ds ∧ (∀ d ∈ ds, d.toAll = toAll) ∧ Round event s data ds t := by
  induction names generalizing s data with
  | nil => exact ⟨[], s, rfl, .nil, by simp, .nil⟩
  | cons name names ih =>
    obtain ⟨d, t, calls, rfl, kind, first⟩ :=
      round_callListener event registering named toAll name data
    cases fails : d.broken? with
    | some f =>
      refine ⟨[d], t, ?_, .single fails names, by simpa using kind, first⟩
      rw [callListeners, calls, brokenBy, List.findSome?_cons, fails]
    | none =>
      obtain ⟨ds, u, callsRest, serves, kinds, rest⟩ :=
        ih (first.registering registering) (first.verbosity.trans named) (dataAfter data [d])
      refine ⟨d :: ds, u, ?_, serves.cons fails, List.forall_mem_cons.2 ⟨kind, kinds⟩,
        first.trans rest⟩
      rw [callListeners, calls, fails, brokenBy, List.findSome?_cons, fails]
      exact callsRest

/-- What the publication of an event does after a history of subscriptions. -/
structure Publication (event : String) (data : Payload) (history : List Registration)
    (s t : Session Action) (first second : List Delivery) : Prop where
  /-- At first those listeners of the event are called that were subscribed when it was published,
  once for each subscription and in order. -/
  listeners : Serves (listenersAfter event history) first
  notAll : ∀ d ∈ first, d.toAll = false
  /-- Then those listeners of all events are called that are subscribed after the first calls. -/
  listenersOfAll : brokenBy first = none →
    Serves (allAfter (history ++ first.flatMap (·.registrations))) second
  toAll : ∀ d ∈ second, d.toAll = true
  silent : brokenBy first ≠ none → second = []
  /-- The calls follow one another with the same data, those that fail are logged once, and nothing
  else happens. -/
  round : Round event s data (first ++ second) t

/-- The two rounds of an event. -/
theorem round_publish {history : List Registration}
    (subscribed : s.bus = EventBus.registerAll {} history) (registering : s.Registering)
    (named : s.log.verbosity = .level n) (data : Payload) :
    ∃ t first second, s.publish react event data = (t, brokenBy (first ++ second)) ∧
      Publication event data history s t first second := by
  obtain ⟨first, t, calls, serves, kinds, round⟩ :=
    round_callListeners event registering named false (s.bus.listenersOf event) data
  rw [subscribed, EventBus.listenersOf_registerAll] at serves
  cases broken : brokenBy first with
  | some f =>
    refine ⟨t, first, [], ?_, serves, kinds, ?_, by simp, fun _ => rfl, ?_⟩
    · rw [publish, calls, List.append_nil, broken]
    · rw [broken]
      exact fun unbroken => nomatch unbroken
    · rwa [List.append_nil]
  | none =>
    obtain ⟨second, u, callsRest, servesAll, kindsOfAll, roundOfAll⟩ :=
      round_callListeners event (round.registering registering) (round.verbosity.trans named) true
        t.bus.all (dataAfter data first)
    have subscribedAll : t.bus = EventBus.registerAll {}
        (history ++ first.flatMap (·.registrations)) := by
      rw [round.bus, subscribed]
      exact List.foldl_append.symm
    rw [subscribedAll, EventBus.all_registerAll] at servesAll
    refine ⟨u, first, second, ?_, serves, kinds, fun _ => servesAll, kindsOfAll,
      fun fails => absurd broken fails, round.trans roundOfAll⟩
    have later : brokenBy (first ++ second) = brokenBy second := by
      rw [brokenBy, List.findSome?_append, show first.findSome? (·.broken?) = none from broken]
      rfl
    rw [publish, calls, broken, later]
    dsimp only
    rw [callsRest]

/-- **Events are delivered exactly**, after any history of subscriptions and whatever the listeners
do, as long as they publish nothing themselves: to everyone, unless a failure has no wording. -/
theorem events_delivered (history : List Registration) (s : Session Action) (n : Fin 4)
    (event : String) (data : Payload)
    (subscribed : s.bus = EventBus.registerAll {} history) (named : s.log.verbosity = .level n)
    (registering : ∀ l ∈ s.listeners, l.2.Admits fun a => a.registration?.isSome = true) :
    ∃ t first second,
      s.perform (.publish event data) =
        (t, (brokenBy (first ++ second)).elim (.ok .nothing) .error) ∧
      Publication event data history s t first second ∧
      ((∀ d ∈ first ++ second, d.broken? = none) → brokenBy (first ++ second) = none ∧
        first.map (·.listener) = listenersAfter event history ∧
        second.map (·.listener) = allAfter (history ++ first.flatMap (·.registrations))) := by
  obtain ⟨t, first, second, publishes, publication⟩ :=
    round_publish event subscribed (registering_of_forall registering) named data
  have performs : s.perform (.publish event data) =
      (t, (brokenBy (first ++ second)).elim (.ok .nothing) .error) := by
    rw [perform, act, publishes]
    cases brokenBy (first ++ second) <;> rfl
  refine ⟨t, first, second, performs, publication, fun whole => ?_⟩
  have unbroken : brokenBy (first ++ second) = none := List.findSome?_eq_none_iff.2 whole
  have parts := unbroken
  rw [brokenBy, List.findSome?_append, Option.or_eq_none_iff] at parts
  exact ⟨unbroken, publication.listeners.whole parts.1,
    (publication.listenersOfAll parts.1).whole parts.2⟩

/-- A listener that is subscribed twice takes one subscription back whenever it is called and fails,
and another one subscribes to all events: all of them are called, the last as a listener of all
events too, and every failure is logged once. -/
theorem events_delivered_edited :
    let history : List Registration := [.subscribe "saved" "leaving", .subscribe "saved" "joining",
      .subscribe "saved" "leaving", .subscribe "closed" "joining"]
    let leaving : Listener Action :=
      { respond := fun _ _ _ => some
          { actions := [.unsubscribe "saved" "leaving"], fault := some .noArtifact } }
    let joining : Listener Action :=
      { respond := fun _ _ _ => some
          { alter := fun d => d.set "seen" (.bool true), actions := [.subscribeAll "joining"] } }
    let s : Session Action := { Session.new {} "" .imports [] with
      bus := EventBus.registerAll {} history
      listeners := [("leaving", leaving), ("joining", joining)]
      log := { verbosity := .quiet, sinks := ["page"] } }
    ∃ t first second,
      s.perform (.publish "saved" []) =
        (t, (brokenBy (first ++ second)).elim (.ok .nothing) .error) ∧
      Publication "saved" [] history s t first second ∧
      brokenBy (first ++ second) = none ∧
      first.map (·.listener) = ["leaving", "joining", "leaving"] ∧
      t.journal.length = 6 ∧
      t.bus = ⟨[("saved", "joining"), ("closed", "joining")], ["joining", "joining"]⟩ := by
  intro history leaving joining s
  have registering : ∀ l ∈ s.listeners, l.2.Admits fun a => a.registration?.isSome = true := by
    intro l among n event data r responds a ha
    rcases List.mem_cons.1 among with rfl | among
    · cases responds
      rw [List.mem_singleton.1 ha]
      rfl
    · rw [List.mem_singleton.1 among] at responds
      cases responds
      rw [List.mem_singleton.1 ha]
      rfl
  obtain ⟨t, first, second, performs, publication, -⟩ :=
    events_delivered history s 0 "saved" [] rfl rfl registering
  have after : t = (s.perform (.publish "saved" [])).1 := by rw [performs]
  have returns : (s.perform (.publish "saved" [])).2.isOk = true := by decide +kernel
  have unbroken : brokenBy (first ++ second) = none := by
    rw [performs] at returns
    cases broken : brokenBy (first ++ second) with
    | none => rfl
    | some f =>
      rw [broken] at returns
      cases returns
  have parts := unbroken
  rw [brokenBy, List.findSome?_append, Option.or_eq_none_iff] at parts
  refine ⟨t, first, second, performs, publication, unbroken,
    publication.listeners.whole parts.1, ?_, ?_⟩
  · rw [after]
    decide +kernel
  · rw [after]
    decide +kernel

/-- **A failure without a wording breaks a publication off**: of two listeners the second one is not
called, nothing is logged, and the caller gets the fault of the wording. -/
theorem mute_failure_breaks_off :
    let mumbler : Listener Action :=
      { respond := fun _ _ _ =>
          some { fault := some (.mute .noArtifact "TypeError" "no wording") } }
    let s : Session Action := { Session.new {} "" .imports [] with
      bus := EventBus.registerAll {} [.subscribe "saved" "mumbler", .subscribe "saved" "page"]
      listeners := [("mumbler", mumbler)]
      log := { verbosity := .quiet, sinks := ["page"] } }
    failureOf (s.perform (.publish "saved" [])).2 = some (.foreign "TypeError" "no wording") ∧
      (s.perform (.publish "saved" [])).1.journal = [.heard "mumbler" "saved" [] false true] := by
  intro mumbler s
  exact ⟨by decide +kernel, rfl⟩

end Session

end Playground
