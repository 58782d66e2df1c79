import Playground.Config.Resolver
import Playground.Yaml.Load

/-!
# Configuration is looked up by priority

A resolver reads its files when a lookup first comes to them, and keeps what it read. Over a whole
course of lookups, with the environment and the files changed in between, its answers are those of
a plain search: the sources in order, each file with the content that it had when it could first be
loaded.

* `Config.firstOf` — the first value of sources in order, unless one of them fails before.
* `Config.resolve_eq` — what one lookup answers, and which files it loads.
* `Config.Resolver.userKept`, `systemKept` — the contents that a course of events leaves loaded.
* `Config.Resolver.after_eq` — the invariant: a resolver keeps these contents and nothing else.
* `Config.Resolver.resolves_by_priority` — the answers of a resolver.
* `Config.Resolver.long_name_not_empty` — a file that is not there, and yet is no empty one.
-/

namespace Playground.Config

/-! ### Files as they lie -/

namespace File

/-- The mapping that lies in a file, or why it cannot be loaded. -/
def plain (f : File) : Except Fault Value := f.content.mapError f.fault

/-- The mapping that lies in a file, unless nobody can find out whether there is a file. -/
def present (f : File) : Except Fault Value :=
  match f.denied with
  | some problem => .error (problem.fault f.path)
  | none => f.plain

/-- The mapping that was kept of a file, or else the one that `look` finds in it. -/
def held (look : File → Except Fault Value) (kept : Option Value) (f : File) :
    Except Fault Value :=
  match kept with
  | some v => .ok v
  | none => look f

/-- Only a file of which nothing was kept can fail. -/
theorem held_eq_error {look : File → Except Fault Value} {kept : Option Value} {f : File}
    {fault : Fault} : f.held look kept = .error fault ↔ kept = none ∧ look f = .error fault := by
  cases kept <;> simp [held]

/-- The first mapping that can be loaded is kept. -/
theorem load_eq (f : File) :
    f.load =
      ({ f with loaded := (f.held present f.loaded).toOption }, f.held present f.loaded) := by
  rcases f with ⟨path, read, stored, _ | problem, _ | v⟩ <;>
    simp [load, held, present, plain, Except.toOption]
  cases content { path, read, stored } <;> rfl

theorem plain_eq_of_reachable {f : File} (h : f.denied = none) : f.present = f.plain := by
  simp [present, h]

/-- A file that cannot be loaded is a matter of configuration. -/
theorem config_of_plain {f : File} {fault : Fault} (h : f.plain = .error fault) :
    ∃ reason, fault = f.fault reason := by
  unfold plain at h
  cases content : f.content with
  | ok v =>
    rw [content] at h
    cases h
  | error reason =>
    rw [content] at h
    exact ⟨reason, (Except.error.inj h).symm⟩

end File

/-! ### The first value -/

/-- What a source says about a key: nothing, a value, or that it cannot be asked. -/
abbrev Candidate := Source × Except Fault (Option Value)

def notFound (key : String) : Fault :=
  .config ("Config key '" ++ key ++ "' not found in any source") none

/-- The first value that a source gives; a source that cannot be asked ends the search. -/
def firstOf (key : String) : List Candidate → Except Fault (Value × Source)
  | [] => .error (notFound key)
  | (_, .error fault) :: _ => .error fault
  | (source, .ok (some v)) :: _ => .ok (v, source)
  | (_, .ok none) :: rest => firstOf key rest

/-- A problem with a file is not worded like a key that is not found. -/
theorem fault_ne_notFound (f : File) (reason key : String) : f.fault reason ≠ notFound key := by
  intro h
  have worded := congrArg String.toList (Fault.config.inj h).1
  simp [String.toList_append] at worded

theorem present_ne_notFound {f : File} {fault : Fault} (key : String)
    (h : f.present = .error fault) : fault ≠ notFound key := by
  unfold File.present at h
  cases denied : f.denied with
  | some problem =>
    simp only [denied, Except.error.injEq] at h
    simp [← h, DiskProblem.fault, notFound]
  | none =>
    simp only [denied] at h
    obtain ⟨reason, rfl⟩ := File.config_of_plain h
    exact fault_ne_notFound f reason key

/-! ### One lookup -/

def environment? (vars : List (String × String)) (key : String) : Option String :=
  (vars.find? fun e => e.1 = variableName key).map (·.2)

namespace Resolver

/-- Does a lookup come to the user's file? -/
def asksUser (r : Resolver) (key : String) : Bool :=
  (commandLine? r.commandLine key).isNone && (environment? r.environment key).isNone

/-- Does a lookup come to the system's file, where this is the user's? -/
def asksSystem (r : Resolver) (user : Except Fault Value) (key : String) : Bool :=
  r.asksUser key &&
    match user with
    | .ok v => (nested? v key).isNone
    | .error _ => false

/-- What the sources say about a key, in order, where these are the files. -/
def candidates (r : Resolver) (user system : Except Fault Value) (key : String) :
    List Candidate :=
  [(.commandLine, .ok (commandLine? r.commandLine key)),
    (.environment, .ok ((environment? r.environment key).map .str)),
    (.userFile, user.map (nested? · key)),
    (.systemFile, system.map (nested? · key)),
    (.defaults, .ok (nested? (.dict r.defaults) key))]

end Resolver

namespace Lookup

variable {α β : Type} (r : Resolver)

theorem pure_apply (a : α) : (pure a : Lookup α) r = (.ok a, r) := rfl

theorem throw_apply (fault : Fault) : (throw fault : Lookup α) r = (.error fault, r) := rfl

theorem get_apply : (get : Lookup Resolver) r = (.ok r, r) := rfl

/-- A look goes on with what the one before it found, unless that one failed. -/
theorem bind_apply (l : Lookup α) (next : α → Lookup β) :
    (l >>= next) r =
      match l r with
      | (.ok a, r) => next a r
      | (.error fault, r) => (.error fault, r) := by
  rw [bind, Monad.toBind, ExceptT.instMonad]
  change ExceptT.bindCont next (l r).1 (l r).2 = _
  rcases l r with ⟨_ | _, _⟩ <;> rfl

end Lookup

theorem loadUser_apply (r : Resolver) :
    loadUser r = (r.user.load.2, { r with user := r.user.load.1 }) := rfl

theorem loadSystem_apply (r : Resolver) :
    loadSystem r = (r.system.load.2, { r with system := r.system.load.1 }) := rfl

/-- A lookup answers with the first value, and loads the files that it comes to. -/
theorem resolve_eq (key : String) (r : Resolver) :
    resolve key r =
      (firstOf key (r.candidates r.user.load.2 r.system.load.2 key),
        { r with
          user := if r.asksUser key then r.user.load.1 else r.user
          system := if r.asksSystem r.user.load.2 key then r.system.load.1 else r.system }) := by
  have environment : r.variable? (variableName key) = environment? r.environment key := rfl
  simp only [resolve, Lookup.bind_apply, Lookup.get_apply, Resolver.candidates,
    Resolver.asksSystem, Resolver.asksUser, environment]
  -- source after source: the one that knows the key ends the search
  rcases Option.eq_none_or_eq_some (commandLine? r.commandLine key) with given | ⟨v, given⟩ <;>
    simp only [given]
  case inr => simp [firstOf, Lookup.pure_apply]
  rcases Option.eq_none_or_eq_some (environment? r.environment key) with set | ⟨v, set⟩ <;>
    simp only [set]
  case inr => simp [firstOf, Lookup.pure_apply]
  simp only [Lookup.bind_apply, loadUser_apply]
  rcases r.user.load with ⟨user, fault | v⟩
  · simp [firstOf, Except.map]
  rcases Option.eq_none_or_eq_some (nested? v key) with own | ⟨w, own⟩ <;> simp only [own]
  case inr => simp [firstOf, Except.map, Lookup.pure_apply, own]
  simp only [Lookup.bind_apply, loadSystem_apply]
  rcases r.system.load with ⟨system, fault | w⟩
  · simp [firstOf, Except.map, own]
  rcases Option.eq_none_or_eq_some (nested? w key) with common | ⟨x, common⟩ <;>
    simp only [common]
  case inr => simp [firstOf, Except.map, Lookup.pure_apply, own, common]
  rcases Option.eq_none_or_eq_some (nested? (.dict r.defaults) key) with preset | ⟨x, preset⟩ <;>
    simp [firstOf, Except.map, Lookup.pure_apply, Lookup.throw_apply, own, common, preset,
      notFound]

/-! ### Courses of events -/

/-- What happens to a resolver: a key is looked up, the environment is changed, or a file is written
anew, which may also change whether one can find out about it. -/
inductive Event where
  | resolve (key : String)
  | environment (vars : List (String × String))
  | userFile (stored : Stored) (denied : Option DiskProblem)
  | systemFile (stored : Stored) (denied : Option DiskProblem)
  deriving Repr

/-- What happened to a resolver, the latest first. -/
abbrev History := List Event

namespace Resolver

/-- The sources after an event, as they are to be found from outside: lookups do not change them. -/
def change (r : Resolver) : Event → Resolver
  | .resolve _ => r
  | .environment vars => { r with environment := vars }
  | .userFile stored denied => { r with user := { r.user with stored, denied } }
  | .systemFile stored denied => { r with system := { r.system with stored, denied } }

def answer (r : Resolver) (key : String) : Except Fault (Value × Source) := (resolve key r).1

def undergo (r : Resolver) : Event → Resolver
  | .resolve key => (resolve key r).2
  | e => r.change e

variable (r : Resolver)

def after : History → Resolver
  | [] => r
  | e :: past => (after past).undergo e

/-- The sources after a history, as they are to be found from outside. -/
def found : History → Resolver
  | [] => r
  | e :: past => (found past).change e

-- how a file is looked at that is not loaded
variable (look : File → Except Fault Value)

/-- The first mapping of the user's file that a lookup could load. -/
def userKept : History → Option Value
  | [] => r.user.loaded
  | .resolve key :: past =>
    if (r.found past).asksUser key then
      ((r.found past).user.held look (userKept past)).toOption
    else userKept past
  | _ :: past => userKept past

/-- The user's file for a lookup after a history: what was kept of it, or else as it lies. -/
def userHeld (past : History) : Except Fault Value :=
  (r.found past).user.held look (r.userKept look past)

/-- The first mapping of the system's file that a lookup could load. -/
def systemKept : History → Option Value
  | [] => r.system.loaded
  | .resolve key :: past =>
    if (r.found past).asksSystem (r.userHeld look past) key then
      ((r.found past).system.held look (systemKept past)).toOption
    else systemKept past
  | _ :: past => systemKept past

/-- The system's file for a lookup after a history. -/
def systemHeld (past : History) : Except Fault Value :=
  (r.found past).system.held look (r.systemKept look past)

/-- The answer that a plain search gives for a key after a history. -/
def expected (past : History) (key : String) : Except Fault (Value × Source) :=
  firstOf key ((r.found past).candidates (r.userHeld look past) (r.systemHeld look past) key)

variable {r look}

/-- The sources with these mappings kept of the files. -/
def keep (r : Resolver) (user system : Option Value) : Resolver :=
  { r with
    user := { r.user with loaded := user }
    system := { r.system with loaded := system } }

/-- A lookup answers from what is kept and what lies there. -/
theorem answer_keep (key : String) (user system : Option Value) :
    (r.keep user system).answer key =
      firstOf key (r.candidates (r.user.held File.present user)
        (r.system.held File.present system) key) := by
  rw [answer, resolve_eq, File.load_eq, File.load_eq]
  rfl

/-- A lookup keeps what it loads. -/
theorem resolve_keep (key : String) (user system : Option Value) :
    (resolve key (r.keep user system)).2 =
      r.keep (if r.asksUser key then (r.user.held File.present user).toOption else user)
        (if r.asksSystem (r.user.held File.present user) key then
          (r.system.held File.present system).toOption else system) := by
  have asksUser : (r.keep user system).asksUser key = r.asksUser key := rfl
  have asksSystem (content : Except Fault Value) :
      (r.keep user system).asksSystem content key = r.asksSystem content key := rfl
  have heldUser : (r.keep user system).user.load.2 = r.user.held File.present user := by
    rw [File.load_eq]
    rfl
  rw [resolve_eq, asksUser, asksSystem, heldUser, File.load_eq, File.load_eq]
  cases r.asksUser key <;> cases r.asksSystem (r.user.held File.present user) key <;> rfl

/-- **What a resolver keeps**: the sources are those that are to be found, and of each file the
first mapping that a lookup could load is kept. -/
theorem after_eq (r : Resolver) (past : History) :
    r.after past =
      (r.found past).keep (r.userKept File.present past) (r.systemKept File.present past) := by
  induction past with
  | nil => rfl
  | cons e past ih =>
    rw [after, ih]
    cases e with
    | resolve key => exact resolve_keep key _ _
    | environment | userFile | systemFile => rfl

/-- The answer to a lookup is the one that a plain search gives. -/
theorem answer_after (r : Resolver) (past : History) (key : String) :
    (r.after past).answer key = r.expected File.present past key := by
  rw [after_eq, answer_keep]
  rfl

/-! ### Files that nobody can find out about -/

variable (r) in
/-- Does a lookup after a history come to a file that was not loaded before, and of which nobody can
find out whether it is there? -/
def barred (past : History) (key : String) : Bool :=
  (r.found past).asksUser key && (r.userKept File.plain past).isNone &&
      (r.found past).user.denied.isSome ||
    (r.found past).asksSystem (r.userHeld File.plain past) key &&
      (r.systemKept File.plain past).isNone && (r.found past).system.denied.isSome

variable (r) in
/-- Did no lookup come to such a file? -/
def clear : History → Bool
  | [] => true
  | .resolve key :: past => clear past && !r.barred past key
  | _ :: past => clear past

/-- A search fails exactly if it comes to a file that cannot be loaded, or no source has a value. -/
theorem firstOf_eq_error {key : String} {user system : Except Fault Value} {fault : Fault} :
    firstOf key (r.candidates user system key) = .error fault ↔
      r.asksUser key = true ∧ user = .error fault ∨
        r.asksSystem user key = true ∧ system = .error fault ∨
        fault = notFound key ∧ ∀ c ∈ r.candidates user system key, c.2 = .ok none := by
  simp only [candidates, asksSystem, asksUser]
  rcases commandLine? r.commandLine key with _ | v <;> simp [firstOf]
  rcases environment? r.environment key with _ | v <;> simp [firstOf]
  rcases user with fault' | v <;> simp [firstOf, Except.map]
  rcases nested? v key with _ | w <;> simp [firstOf]
  rcases system with fault' | w <;> simp [firstOf]
  rcases nested? w key with _ | x <;> simp [firstOf]
  rcases nested? (.dict r.defaults) key with _ | y <;> simp [firstOf, eq_comm]

/-- Files that a search does not come to do not matter. -/
theorem firstOf_congr {key : String} {user user' system system' : Except Fault Value}
    (same : r.asksUser key = true → user = user')
    (same' : r.asksSystem user key = true → system = system') :
    firstOf key (r.candidates user system key) = firstOf key (r.candidates user' system' key) := by
  simp only [asksSystem, asksUser, Bool.and_eq_true, Option.isNone_iff_eq_none] at same same'
  simp only [candidates]
  rcases given : commandLine? r.commandLine key with _ | v <;> simp only [firstOf]
  rcases set : environment? r.environment key with _ | v <;>
    simp only [firstOf, Option.map_none, Option.map_some]
  obtain rfl := same ⟨given, set⟩
  rcases user with fault | v <;> simp only [firstOf, Except.map]
  rcases own : nested? v key with _ | w <;> simp only [firstOf]
  obtain rfl := same' ⟨⟨given, set⟩, by simp [own]⟩
  rfl

/-! ### Files that can be found out about -/

/-- Where a file is kept, or one can find out about it, there is nothing in its way. -/
theorem held_plain {f : File} {kept : Option Value}
    (h : (kept.isNone && f.denied.isSome) = false) :
    f.held File.present kept = f.held File.plain kept := by
  cases kept with
  | some v => rfl
  | none => exact File.plain_eq_of_reachable (by simpa using h)

variable {past : History} {key : String}

/-- The same is found in the files that a lookup comes to, where the same was kept of them. -/
theorem held_of_unbarred (user : r.userKept File.present past = r.userKept File.plain past)
    (system : r.systemKept File.present past = r.systemKept File.plain past)
    (unbarred : r.barred past key = false) :
    ((r.found past).asksUser key = true →
        r.userHeld File.present past = r.userHeld File.plain past) ∧
      ((r.found past).asksSystem (r.userHeld File.present past) key = true →
        r.systemHeld File.present past = r.systemHeld File.plain past) := by
  obtain ⟨free, free'⟩ := Bool.or_eq_false_iff.1 unbarred
  have own (asks : (r.found past).asksUser key = true) :
      r.userHeld File.present past = r.userHeld File.plain past := by
    rw [userHeld, userHeld, user]
    exact held_plain (by simpa [asks] using free)
  refine ⟨own, fun asks => ?_⟩
  rw [own (Bool.and_eq_true_iff.1 asks).1] at asks
  rw [systemHeld, systemHeld, system]
  exact held_plain (by simpa [asks] using free')

/-- As long as no lookup came to a file that nobody can find out about, the same is kept. -/
theorem kept_plain (h : r.clear past = true) :
    r.userKept File.present past = r.userKept File.plain past ∧
      r.systemKept File.present past = r.systemKept File.plain past := by
  induction past with
  | nil => exact ⟨rfl, rfl⟩
  | cons e past ih =>
    cases e with
    | resolve key =>
      obtain ⟨before, unbarred⟩ := Bool.and_eq_true_iff.1 h
      obtain ⟨user, system⟩ := ih before
      obtain ⟨own, common⟩ := held_of_unbarred user system (by simpa using unbarred)
      have same : (r.found past).asksSystem (r.userHeld File.present past) key =
          (r.found past).asksSystem (r.userHeld File.plain past) key := by
        by_cases asks : (r.found past).asksUser key = true
        · rw [own asks]
        · simp [asksSystem, asks]
      refine ⟨?_, ?_⟩
      · rw [userKept, userKept]
        split
        next asks => exact congrArg Except.toOption (own asks)
        next => exact user
      · rw [systemKept, systemKept, ← same]
        split
        next asks => exact congrArg Except.toOption (common asks)
        next => exact system
    | environment | userFile | systemFile => exact ih h

/-- The answer is that of a plain search, unless the lookup comes to such a file. -/
theorem expected_plain (h : r.clear past = true) (unbarred : r.barred past key = false) :
    r.expected File.present past key = r.expected File.plain past key := by
  obtain ⟨user, system⟩ := kept_plain h
  obtain ⟨own, common⟩ := held_of_unbarred user system unbarred
  exact firstOf_congr own common

/-- A lookup that comes to a file which nobody can find out about ends there. -/
theorem expected_barred (h : r.clear past = true) (barred : r.barred past key = true) :
    ∃ (problem : DiskProblem) (path : Path),
      r.expected File.present past key = .error (problem.fault path) := by
  obtain ⟨user, system⟩ := kept_plain h
  have ends {f : File} {kept kept' : Option Value} (same : kept = kept')
      (h : (kept'.isNone && f.denied.isSome) = true) :
      ∃ (problem : DiskProblem), f.held File.present kept = .error (problem.fault f.path) := by
    obtain ⟨none, denied⟩ := Bool.and_eq_true_iff.1 h
    obtain ⟨problem, some⟩ := Option.isSome_iff_exists.1 denied
    refine ⟨problem, ?_⟩
    rw [same, Option.isNone_iff_eq_none.1 none]
    simp [File.held, File.present, some]
  by_cases early : ((r.found past).asksUser key && (r.userKept File.plain past).isNone &&
      (r.found past).user.denied.isSome) = true
  · rw [Bool.and_assoc] at early
    obtain ⟨asks, stopped⟩ := Bool.and_eq_true_iff.1 early
    obtain ⟨problem, failed⟩ := ends user stopped
    exact ⟨problem, _, firstOf_eq_error.2 (.inl ⟨asks, failed⟩)⟩
  · have late := (Bool.or_eq_true_iff.1 barred).resolve_left early
    rw [Bool.and_assoc] at late
    obtain ⟨asks, stopped⟩ := Bool.and_eq_true_iff.1 late
    obtain ⟨problem, failed⟩ := ends system stopped
    have own : r.userHeld File.present past = r.userHeld File.plain past := by
      rw [userHeld, userHeld, user]
      exact held_plain (by simpa [(Bool.and_eq_true_iff.1 asks).1] using early)
    exact ⟨problem, _, firstOf_eq_error.2 (.inr (.inl ⟨own ▸ asks, failed⟩))⟩

/-- A plain search has no problem with the disk. -/
theorem expected_ne_fault (problem : DiskProblem) (path : Path) :
    r.expected File.plain past key ≠ .error (problem.fault path) := by
  have config {f : File} {kept : Option Value} :
      f.held File.plain kept ≠ .error (problem.fault path) := by
    intro h
    obtain ⟨reason, eq⟩ := File.config_of_plain (File.held_eq_error.1 h).2
    cases eq
  intro h
  rcases firstOf_eq_error.1 h with ⟨-, user⟩ | ⟨-, system⟩ | ⟨eq, -⟩
  · exact config user
  · exact config system
  · cases eq

/-! ### Sources below -/

/-- The sources down to one of them, and those of another resolver below. -/
def withBelow (r other : Resolver) : Source → Resolver
  | .commandLine => { other with commandLine := r.commandLine }
  | .environment =>
    { other with commandLine := r.commandLine, environment := r.environment }
  | .userFile => { r with system := other.system, defaults := other.defaults }
  | .systemFile => { r with defaults := other.defaults }
  | .defaults => r

/-- Sources below the one that an answer comes from do not matter. -/
theorem answer_withBelow {v : Value} {source : Source} (other : Resolver)
    (h : r.answer key = .ok (v, source)) :
    (r.withBelow other source).answer key = .ok (v, source) := by
  simp only [answer, resolve_eq, candidates] at h ⊢
  rcases given : commandLine? r.commandLine key with _ | w <;> rw [given] at h
  case some => cases h; simp only [withBelow, given, firstOf]
  rcases set : environment? r.environment key with _ | w <;> rw [set] at h
  case some => cases h; simp only [withBelow, given, set, firstOf, Option.map_some]
  rcases user : r.user.load.2 with fault | w <;> rw [user] at h
  case error => cases h
  rcases own : nested? w key with _ | x <;> simp only [Except.map, own] at h
  case some =>
    cases h
    simp only [withBelow, given, set, user, own, firstOf, Except.map, Option.map_none]
  rcases system : r.system.load.2 with fault | w' <;> rw [system] at h
  case error => cases h
  rcases common : nested? w' key with _ | x <;> simp only [common] at h
  case some =>
    cases h
    simp only [withBelow, given, set, user, own, system, common, firstOf, Except.map,
      Option.map_none]
  rcases preset : nested? (.dict r.defaults) key with _ | x <;> rw [preset] at h
  case none => cases h
  cases h
  simp only [withBelow, given, set, user, own, system, common, preset, firstOf, Except.map,
    Option.map_none]

/-- **A resolver answers like a plain search through its sources.** The first value counts, in the
order of the sources, each file with the content that it had when a lookup could first load it. A
key is not found exactly if no source has a value; another fault comes exactly from a file that the
lookup comes to, of which nothing was loaded before and which cannot be loaded. A file of which one
cannot find out whether it is there is such a file too, and does not count as empty: the answer is
that of a search which does without finding out, as long as no lookup comes to one, and no longer.
Sources below the one that an answer comes from never matter. -/
theorem resolves_by_priority (r : Resolver) (past : History) (key : String) :
    (r.after past).answer key = r.expected File.present past key ∧
      (r.clear past = true →
        ((r.after past).answer key = r.expected File.plain past key ↔
          r.barred past key = false)) ∧
      ((r.after past).answer key = .error (notFound key) ↔
        ∀ c ∈ (r.found past).candidates (r.userHeld File.present past)
          (r.systemHeld File.present past) key, c.2 = .ok none) ∧
      (∀ fault, fault ≠ notFound key →
        ((r.after past).answer key = .error fault ↔
          (r.found past).asksUser key = true ∧ r.userKept File.present past = none ∧
              (r.found past).user.present = .error fault ∨
            (r.found past).asksSystem (r.userHeld File.present past) key = true ∧
              r.systemKept File.present past = none ∧
              (r.found past).system.present = .error fault)) ∧
      ∀ v source, (r.after past).answer key = .ok (v, source) → ∀ other,
        ((r.after past).withBelow other source).answer key = .ok (v, source) := by
  refine ⟨answer_after r past key, fun clear => ?_, ?_, fun fault ne => ?_,
    fun v source h other => answer_withBelow other h⟩
  · rw [answer_after]
    refine ⟨fun same => ?_, expected_plain clear⟩
    refine Bool.eq_false_iff.2 fun barred => ?_
    obtain ⟨problem, path, ends⟩ := expected_barred clear barred
    exact expected_ne_fault problem path (same.symm.trans ends)
  · rw [answer_after, expected, firstOf_eq_error]
    have worded {f : File} {kept : Option Value} :
        f.held File.present kept ≠ .error (notFound key) :=
      fun h => present_ne_notFound key (File.held_eq_error.1 h).2 rfl
    simp only [userHeld, systemHeld, worded, and_false, false_or, true_and]
  · rw [answer_after, expected, firstOf_eq_error]
    simp only [ne, false_and, or_false, userHeld, systemHeld, File.held_eq_error]

def freshResolver : Resolver where
  user := { path := { names := ["own.yaml"] }, read := Yaml.load }
  system := { path := { names := ["all.yaml"] }, read := Yaml.load }
  room := 995

/-- The user's file is looked at, is then spoilt, and the environment is changed. -/
def spoilt : History :=
  [.environment [("COMPILEPAD_WEB_PORT", "80")], .userFile (.file [0x7b]) none, .resolve "compiler",
    .userFile (.file "compiler: A\n".toUTF8.toList) none]

theorem resolves_by_priority_rewritten :
    (freshResolver.after spoilt).answer "compiler" =
        freshResolver.expected File.plain spoilt "compiler" ∧
      ((freshResolver.after spoilt).answer "compiler").toOption.map (·.2) = some .userFile :=
  ⟨((resolves_by_priority freshResolver spoilt "compiler").2.1 (by decide +kernel)).2
    (by decide +kernel), by decide +kernel⟩

def longPath : Path := { names := [String.ofList (List.replicate 256 'a')] }

theorem locate_longPath : ({} : Disk).locate longPath = .error .longName := by
  have text (name : String) : Path.text { names := [name] } = name := by simp [Path.text]
  have noNull : longPath.text.contains '\x00' = false := by
    rw [longPath, text, String.contains_char_eq, String.toList_ofList]
    decide
  have short : ¬ Disk.longestPath < longPath.text.utf8ByteSize := by
    rw [longPath, text]
    decide +kernel
  have top : ({} : Disk).stored {} = .folder := by decide +kernel
  have long : Disk.longestName < (Text.utf8Encode (List.replicate 256 'a')).length := by
    decide +kernel
  rw [Disk.locate, noNull, if_neg Bool.false_ne_true, if_neg short]
  simp only [longPath, Disk.locateFrom, top, String.toList_ofList, if_pos long]

/-- **A file that cannot be there does not count as empty.** On a disk without files nothing lies
under the path, but finding that out fails, and with it every lookup that comes to the file. -/
theorem long_name_not_empty :
    let disk : Disk := {}
    let file : File :=
      { path := longPath
        read := Yaml.load
        stored := disk.look longPath
        denied := disk.denial? longPath }
    let r : Resolver := { freshResolver with user := file }
    file.stored = .missing ∧
      (r.expected File.plain [] "compiler").toOption.map (·.2) = some .defaults ∧
      r.answer "compiler" =
        .error (.foreign "OSError" (DiskProblem.longName.message longPath)) := by
  simp only [Disk.look, Disk.denial?, locate_longPath]
  refine ⟨trivial, by decide +kernel, (answer_after _ [] _).trans ?_⟩
  exact firstOf_eq_error.2 (.inl ⟨by decide +kernel, rfl⟩)

end Resolver

end Playground.Config
