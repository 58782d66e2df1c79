import Playground.Compile.Module
import Playground.Proofs.Exchanges

/-!
# The life of a compiled module

A module is validated, optimized, emitted and disposed in any order. The first disposal ends its
use: from then on every call is refused. Until then only a successful optimization changes what the
module holds, and every other call works on the code object of the latest one.

* `Module.serve` — one call.
* `Moment`, `life` — a call with what it meets, and the moments of a sequence of calls.
* `currentCode` — the code object of the latest successful optimization.
* `Refused` — a call of a module that has been disposed.
* `InUse` — a call of a module that has not.
* `Stands.serve` — what one call preserves; `stands_of_life` — where a module stands at every call.
* `module_lifecycle` — every call of a life, by what came before it.
-/

namespace Playground.Bytecode

open Playground.Decimal

/-! ### Calls and lives -/

inductive Yield where
  | done
  | text (listing : String)
  | binary (bytes : List UInt8)
  deriving DecidableEq

/-- A reply of the interpreter where nobody makes a diagnostic of a syntax error. -/
def Reply.toExcept {α : Type} : Reply α → Except Fault α
  | .ok value => .ok value
  | .syntaxFault s => .error s.toFault
  | .fault f => .error f

/-- One call: the interpreter and the module after it, and what it gives. -/
def Module.serve (m : Module) (i : Interpreter) :
    ModuleCall → Interpreter × Module × Except Fault Yield
  | .validate => ((m.validate i).1, m, (m.validate i).2.map fun _ => .done)
  | .optimize => ((m.optimize i).1, (m.optimize i).2.1, (m.optimize i).2.2.map fun _ => .done)
  | .emitText => ((m.emitText i).1, m, (m.emitText i).2.map .text)
  | .emitBinary => ((m.emitBinary i).1, m, (m.emitBinary i).2.map .binary)
  | .dispose => (i, m.dispose.1, m.dispose.2.map fun _ => .done)

/-- A call with the interpreter and the module that it meets. -/
abbrev Moment := Exchange (Interpreter × Module) ModuleCall

namespace Moment

variable (x : Moment)

def interpreter : Interpreter := x.state.1

def module : Module := x.state.2

def interpreterAfter : Interpreter := (x.module.serve x.interpreter x.call).1

def moduleAfter : Module := (x.module.serve x.interpreter x.call).2.1

def answer : Except Fault Yield := (x.module.serve x.interpreter x.call).2.2

def optimizes : Bool :=
  match x.call, x.answer with
  | .optimize, .ok _ => true
  | _, _ => false

/-- The code object that the call puts in place of the one before. -/
def recompiled? : Option Code :=
  if x.optimizes then (x.interpreter.compile 2).2.toExcept.toOption else none

end Moment

def life (m : Module) (i : Interpreter) (calls : List ModuleCall) : List Moment :=
  exchanges (fun s c => ((s.2.serve s.1 c).1, (s.2.serve s.1 c).2.1)) (i, m) calls

/-- The code object after the calls of `past`: that of the latest successful optimization, or the
first one. -/
def currentCode (code : Code) (past : List Moment) : Code :=
  (past.reverse.findSome? Moment.recompiled?).getD code

/-- Has no call of `past` disposed the module? -/
def Undisposed (past : List Moment) : Prop := ∀ y ∈ past, y.call ≠ .dispose

/-! ### What the calls are to give -/

/-- The check of a code object: the first unit that cannot be written or read is a fault, and units
that come back different are reported together. -/
def validation (code : Code) : Except Fault Yield :=
  match code.walk.findSome? fun u => u.dumpFault.or u.loadFault with
  | some f => .error f
  | none =>
    match (code.walk.filter fun u => u.restored ≠ u.body).map Module.unstableUnit with
    | [] => .ok .done
    | d :: ds => .error (.rejected (d :: ds) none)

/-- The first lines of a listing, with what they say of optimization. -/
def listingHead (tag : String) (size : Nat) (flag : String) : String :=
  "; module " ++ sourceName ++ "\n; target: " ++ tag ++ " uintptr=" ++ naturalText size ++
    " optimized=" ++ flag ++ "\n"

/-- What the first lines of a listing say of optimization after the calls of `past`. -/
def optimizedFlag (past : List Moment) : String :=
  if past.any Moment.optimizes then "yes" else "no"

def listing (head : String) (code : Code) : Except Fault Yield :=
  match code.root.listingFault with
  | some f => .error f
  | none => .ok (.text (head ++ code.root.listing))

def binary (header : List UInt8) (code : Code) : Except Fault Yield :=
  match code.root.dumpFault with
  | some f => .error f
  | none => .ok (.binary (header ++ code.root.dump))

/-- The call is refused: neither the interpreter nor the module takes part. -/
def Refused (x : Moment) : Prop :=
  (∃ f, x.answer = .error f ∧ f.kind = "ArtifactDisposedError") ∧
    x.interpreterAfter = x.interpreter ∧ x.moduleAfter = x.module

section

variable (text : String) (options : Options) (tree : List Node) (code : Code) (i : Interpreter)

/-- The module while it is in use: only its code object and whether it is optimized ever change. -/
def moduleAt (past : List Moment) : Module :=
  { Backend.newModule text options tree (currentCode code past) with
    optimized := past.any Moment.optimizes }

/-- The call of a module that was made of the text and is still in use after the calls of `past`. -/
structure InUse (past : List Moment) (x : Moment) : Prop where
  /-- The module holds the tree and the current code object, and knows whether it is optimized. -/
  module : x.module = moduleAt text options tree code past
  /-- Only a disposal and a successful optimization change the module. -/
  keeps : x.call ≠ .dispose → x.optimizes = false → x.moduleAfter = x.module
  /-- A disposal succeeds, and nothing is held any more. -/
  disposes : x.call = .dispose → x.answer = .ok .done ∧ x.moduleAfter.held = none
  /-- An optimization succeeds if the interpreter compiles the tree anew, and passes its fault on
  if not. -/
  optimizes : x.call = .optimize →
    x.answer = (x.interpreter.compile 2).2.toExcept.map fun _ => .done
  /-- A successful optimization puts the new code object in place. -/
  recompiles : x.optimizes = true → ∃ new, (x.interpreter.compile 2).2.toExcept = .ok new ∧
    x.moduleAfter = { x.module with held := some ⟨tree, new⟩, optimized := true }
  /-- The current code object is checked. -/
  validates : x.call = .validate → x.answer = validation (currentCode code past)
  /-- The current code object is listed. -/
  emitsText : x.call = .emitText → x.answer =
    listing (listingHead i.cacheTag options.pointerSize (optimizedFlag past))
      (currentCode code past)
  /-- The first lines of a listing say that the module is optimized if it once was. -/
  opens : ∀ shown, x.call = .emitText → x.answer = .ok (.text shown) →
    ((listingHead i.cacheTag options.pointerSize "yes").toList <+: shown.toList ↔
      ∃ y ∈ past, y.optimizes = true)
  /-- The current code object is written out. -/
  emitsBinary : x.call = .emitBinary → x.answer =
    binary ((Backend.newModule text options tree code).binaryHeader i) (currentCode code past)
  /-- The same emission gives the same until the next successful optimization. -/
  repeats : ∀ before y between, past = before ++ y :: between → y.call = x.call →
    x.call = .emitText ∨ x.call = .emitBinary → (∀ z ∈ between, z.optimizes = false) →
      y.answer = x.answer

end

/-! ### One call -/

/-- A unit comes back unless it cannot be written or cannot be read. -/
theorem roundTrip_eq (i : Interpreter) (u : CodeUnit) :
    (i.roundTrip u).2 =
      match u.dumpFault.or u.loadFault with
      | some f => .error f
      | none => .ok u.restored := by
  unfold Interpreter.roundTrip
  cases u.dumpFault with
  | some f => rfl
  | none => cases u.loadFault <;> rfl

/-- Writing units out and reading them in gives the first fault, or the units that come back
different. -/
theorem roundTrips_eq (units : List CodeUnit) (i : Interpreter) :
    (Module.roundTrips i units).2 =
      match units.findSome? fun u => u.dumpFault.or u.loadFault with
      | some f => .error f
      | none => .ok ((units.filter fun u => u.restored ≠ u.body).map Module.unstableUnit) := by
  induction units generalizing i with
  | nil => rfl
  | cons u rest ih =>
    have first := roundTrip_eq i u
    rw [Module.roundTrips, List.findSome?_cons]
    rcases tripped : i.roundTrip u with ⟨j, result⟩
    rw [tripped] at first
    obtain rfl : result = _ := first
    cases u.dumpFault.or u.loadFault with
    | some f => rfl
    | none =>
      have later := ih j
      dsimp only
      rw [later]
      cases rest.findSome? fun u => u.dumpFault.or u.loadFault with
      | some f => rfl
      | none =>
        by_cases same : u.restored = u.body
        · simp [Except.map, same]
        · simp [Except.map, same]

/-- The first lines of a listing, as they are to be. -/
theorem listingHeader_eq (m : Module) (i : Interpreter) :
    m.listingHeader i =
      listingHead i.cacheTag m.pointerSize (if m.optimized then "yes" else "no") := by
  delta Module.listingHeader listingHead
  rfl

/-- Two states of one interpreter, which names and marks what it compiles alike. -/
def SameBuild (i j : Interpreter) : Prop := j.cacheTag = i.cacheTag ∧ j.magic = i.magic

theorem SameBuild.trans {i j k : Interpreter} (first : SameBuild i j) (second : SameBuild j k) :
    SameBuild i k :=
  ⟨second.1.trans first.1, second.2.trans first.2⟩

theorem sameBuild_roundTrip (i : Interpreter) (u : CodeUnit) : SameBuild i (i.roundTrip u).1 := by
  unfold Interpreter.roundTrip
  cases u.dumpFault <;> exact ⟨rfl, rfl⟩

theorem sameBuild_roundTrips (units : List CodeUnit) (i : Interpreter) :
    SameBuild i (Module.roundTrips i units).1 := by
  induction units generalizing i with
  | nil => exact ⟨rfl, rfl⟩
  | cons u rest ih =>
    have first := sameBuild_roundTrip i u
    rw [Module.roundTrips]
    rcases tripped : i.roundTrip u with ⟨j, f | restored⟩
    · rw [tripped] at first
      exact first
    · rw [tripped] at first
      exact first.trans (ih j)

namespace Module

variable (m : Module) (i : Interpreter)

/-- A module that holds nothing refuses every call. -/
theorem serve_of_released (released : m.held = none) (c : ModuleCall) :
    ∃ f, m.serve i c = (i, m, .error f) ∧ f.kind = "ArtifactDisposedError" := by
  cases c with
  | validate => exact ⟨usedAfterDispose, by simp [serve, validate, released, Except.map], rfl⟩
  | optimize => exact ⟨usedAfterDispose, by simp [serve, optimize, released, Except.map], rfl⟩
  | emitText => exact ⟨usedAfterDispose, by simp [serve, emitText, released, Except.map], rfl⟩
  | emitBinary => exact ⟨usedAfterDispose, by simp [serve, emitBinary, released, Except.map], rfl⟩
  | dispose => exact ⟨disposedTwice, by simp [serve, dispose, released, Except.map], rfl⟩

variable {m} {held : Held} (holding : m.held = some held)

include holding

theorem validate_eq :
    (m.validate i).2.map (fun _ => Yield.done) = validation held.code ∧
      SameBuild i (m.validate i).1 := by
  have answers := roundTrips_eq held.code.walk i
  have build := sameBuild_roundTrips held.code.walk i
  unfold validate validation
  rw [holding]
  dsimp only
  cases tripped : roundTrips i held.code.walk with
  | mk later result =>
    rw [tripped] at answers build
    dsimp only at answers build
    rw [answers]
    cases held.code.walk.findSome? fun u => u.dumpFault.or u.loadFault with
    | some f => exact ⟨rfl, build⟩
    | none =>
      dsimp only
      cases (held.code.walk.filter fun u => u.restored ≠ u.body).map unstableUnit with
      | nil => exact ⟨rfl, build⟩
      | cons d ds => exact ⟨rfl, build⟩

theorem emitText_eq :
    m.serve i .emitText =
      (i.note (.dis held.code.root.name), m, listing (m.listingHeader i) held.code) := by
  simp only [serve, emitText, holding, listing]
  cases held.code.root.listingFault <;> rfl

theorem emitBinary_eq :
    m.serve i .emitBinary =
      (i.note (.dumps held.code.root.name), m, binary (m.binaryHeader i) held.code) := by
  simp only [serve, emitBinary, holding, binary]
  cases held.code.root.dumpFault <;> rfl

theorem dispose_eq : m.serve i .dispose = (i, { m with held := none }, .ok .done) := by
  simp only [serve, dispose, holding, Except.map]

theorem optimize_eq :
    m.serve i .optimize = ((i.compile 2).1,
      match (i.compile 2).2.toExcept with
      | .ok new => { m with held := some { held with code := new }, optimized := true }
      | .error _ => m,
      (i.compile 2).2.toExcept.map fun _ => .done) := by
  simp only [serve, optimize, holding]
  rcases i.compile 2 with ⟨j, reply⟩
  cases reply <;> rfl

omit holding in
/-- No call changes what the interpreter is. -/
theorem sameBuild_serve (m : Module) (c : ModuleCall) : SameBuild i (m.serve i c).1 := by
  cases holding : m.held with
  | none =>
    obtain ⟨f, served, -⟩ := m.serve_of_released i holding c
    rw [served]
    exact ⟨rfl, rfl⟩
  | some held =>
    cases c with
    | validate => exact (validate_eq i holding).2
    | optimize =>
      rw [optimize_eq i holding]
      exact ⟨rfl, rfl⟩
    | emitText =>
      rw [emitText_eq i holding]
      exact ⟨rfl, rfl⟩
    | emitBinary =>
      rw [emitBinary_eq i holding]
      exact ⟨rfl, rfl⟩
    | dispose =>
      rw [dispose_eq i holding]
      exact ⟨rfl, rfl⟩

end Module

namespace Moment

variable {x : Moment}

theorem call_of_optimizes (optimized : x.optimizes = true) : x.call = .optimize := by
  cases called : x.call with
  | optimize => rfl
  | _ => simp [optimizes, called] at optimized

theorem optimizes_of_call (other : x.call ≠ .optimize) : x.optimizes = false := by
  cases optimized : x.optimizes with
  | false => rfl
  | true => exact absurd (call_of_optimizes optimized) other

theorem recompiled?_of_not (unchanged : x.optimizes = false) : x.recompiled? = none := by
  simp only [recompiled?, unchanged, Bool.false_eq_true, if_false]

/-- A call of a module in use leaves it as it is, unless it is a disposal or the interpreter
compiles the tree anew. -/
theorem keeps_or_recompiles {held : Held} (holding : x.module.held = some held)
    (undisposed : x.call ≠ .dispose) :
    (x.optimizes = false ∧ x.moduleAfter = x.module) ∨
      ∃ new, x.optimizes = true ∧ (x.interpreter.compile 2).2.toExcept = .ok new ∧
        x.moduleAfter =
          { x.module with held := some { held with code := new }, optimized := true } := by
  by_cases called : x.call = .optimize
  · have served := Module.optimize_eq x.interpreter holding
    simp only [optimizes, answer, moduleAfter, called, served]
    cases (x.interpreter.compile 2).2.toExcept with
    | ok new => exact Or.inr ⟨new, rfl, rfl, rfl⟩
    | error f => exact Or.inl ⟨rfl, rfl⟩
  · refine Or.inl ⟨optimizes_of_call called, ?_⟩
    unfold moduleAfter
    cases other : x.call with
    | optimize => exact absurd other called
    | dispose => exact absurd other undisposed
    | validate => rfl
    | emitText => rfl
    | emitBinary => rfl

end Moment

/-! ### A sequence of calls -/

theorem undisposed_concat {past : List Moment} {x : Moment} :
    Undisposed (past ++ [x]) ↔ Undisposed past ∧ x.call ≠ .dispose := by
  simp only [Undisposed, List.forall_mem_append, List.forall_mem_singleton]

theorem currentCode_concat (code : Code) (past : List Moment) (x : Moment) :
    currentCode code (past ++ [x]) = x.recompiled?.getD (currentCode code past) := by
  simp only [currentCode, List.reverse_append, List.reverse_singleton, List.singleton_append,
    List.findSome?_cons]
  cases x.recompiled? <;> rfl

/-- Calls that do not optimize the module leave the code object in place. -/
theorem currentCode_append (code : Code) (past between : List Moment)
    (unchanged : ∀ z ∈ between, z.optimizes = false) :
    currentCode code (past ++ between) = currentCode code past := by
  have silent : between.reverse.findSome? Moment.recompiled? = none := by
    rw [List.findSome?_eq_none_iff]
    intro z among
    exact Moment.recompiled?_of_not (unchanged z (List.mem_reverse.1 among))
  simp only [currentCode, List.reverse_append, List.findSome?_append, silent, Option.none_or]

section

variable (text : String) (options : Options) (tree : List Node) (code : Code) (i : Interpreter)

/-- Where a module that was made of the text stands after the calls of `past`. -/
structure Stands (past : List Moment) (j : Interpreter) (m : Module) : Prop where
  build : SameBuild i j
  inUse : Undisposed past → m = moduleAt text options tree code past
  released : ¬ Undisposed past → m.held = none

variable {text options tree code i}

/-- A module in use holds the tree and the current code object. -/
theorem Stands.holding {past : List Moment} {j : Interpreter} {m : Module}
    (stands : Stands text options tree code i past j m) (undisposed : Undisposed past) :
    m.held = some ⟨tree, currentCode code past⟩ := by
  rw [stands.inUse undisposed]
  rfl

theorem stands_newModule :
    Stands text options tree code i [] i (Backend.newModule text options tree code) where
  build := ⟨rfl, rfl⟩
  inUse _ := rfl
  released disposed := absurd (List.forall_mem_nil _) disposed

/-- What one call preserves. -/
theorem Stands.serve {past : List Moment} {x : Moment}
    (stands : Stands text options tree code i past x.interpreter x.module) :
    Stands text options tree code i (past ++ [x]) x.interpreterAfter x.moduleAfter := by
  refine ⟨stands.build.trans (Module.sameBuild_serve _ x.module x.call), ?_, ?_⟩
  · intro undisposed
    obtain ⟨before, other⟩ := undisposed_concat.1 undisposed
    rcases Moment.keeps_or_recompiles (stands.holding before) other with
      ⟨unchanged, kept⟩ | ⟨new, optimized, compiled, changed⟩
    · rw [kept, stands.inUse before, moduleAt, moduleAt, currentCode_concat,
        Moment.recompiled?_of_not unchanged, List.any_append]
      simp only [List.any_cons, List.any_nil, unchanged, Bool.or_false, Option.getD_none]
    · have recompiled : x.recompiled? = some new := by
        simp only [Moment.recompiled?, optimized, if_true, compiled, Except.toOption]
      rw [changed, stands.inUse before, moduleAt, moduleAt, currentCode_concat, recompiled,
        List.any_append]
      simp only [List.any_cons, List.any_nil, optimized, Bool.true_or, Bool.or_true,
        Option.getD_some]
      rfl
  · intro disposed
    by_cases before : Undisposed past
    · have last : x.call = .dispose :=
        Decidable.of_not_not fun other => disposed (undisposed_concat.2 ⟨before, other⟩)
      simp only [Moment.moduleAfter, last, Module.dispose_eq _ (stands.holding before)]
    · obtain ⟨f, served, -⟩ :=
        x.module.serve_of_released x.interpreter (stands.released before) x.call
      simp only [Moment.moduleAfter, served]
      exact stands.released before

/-- What holds at first and is preserved by one call holds at every call. -/
theorem stands_of_life {earlier later : List Moment} {x : Moment} {calls : List ModuleCall}
    (split : life (Backend.newModule text options tree code) i calls = earlier ++ x :: later) :
    Stands text options tree code i earlier x.interpreter x.module :=
  exchanges_invariant
    (P := fun past s => Stands text options tree code i past s.1 s.2)
    (fun _ _ stands => stands.serve) stands_newModule split

theorem refused_of_released {x : Moment} (released : x.module.held = none) : Refused x := by
  obtain ⟨f, served, kind⟩ := x.module.serve_of_released x.interpreter released x.call
  refine ⟨⟨f, ?_, kind⟩, ?_, ?_⟩
  · simp only [Moment.answer, served]
  · simp only [Moment.interpreterAfter, served]
  · simp only [Moment.moduleAfter, served]

/-- What a module in use gives when it is listed. -/
theorem Stands.listed {past : List Moment} {x : Moment}
    (stands : Stands text options tree code i past x.interpreter x.module)
    (undisposed : Undisposed past) (called : x.call = .emitText) :
    x.answer = listing (listingHead i.cacheTag options.pointerSize (optimizedFlag past))
      (currentCode code past) := by
  have holding := stands.holding undisposed
  simp only [Moment.answer, called, Module.emitText_eq _ holding]
  rw [stands.inUse undisposed, listingHeader_eq, stands.build.1]
  rfl

/-- What a module in use gives when it is written out. -/
theorem Stands.written {past : List Moment} {x : Moment}
    (stands : Stands text options tree code i past x.interpreter x.module)
    (undisposed : Undisposed past) (called : x.call = .emitBinary) :
    x.answer = binary ((Backend.newModule text options tree code).binaryHeader i)
      (currentCode code past) := by
  have holding := stands.holding undisposed
  simp only [Moment.answer, called, Module.emitBinary_eq _ holding]
  rw [stands.inUse undisposed, Module.binaryHeader, stands.build.2]
  rfl

/-- Listings of modules that are optimized and of those that are not open differently. -/
theorem head_prefix_iff (tag : String) (size : Nat) (past : List Moment) (rest : String) :
    (listingHead tag size "yes").toList <+:
        (listingHead tag size (optimizedFlag past) ++ rest).toList ↔
      ∃ y ∈ past, y.optimizes = true := by
  rw [← List.any_eq_true]
  cases optimized : past.any Moment.optimizes with
  | true => simp [optimizedFlag, optimized]
  | false =>
    delta listingHead
    simp [optimizedFlag, optimized]

/-- A call of a module in use. -/
theorem Stands.moment {past : List Moment} {x : Moment}
    (stands : Stands text options tree code i past x.interpreter x.module)
    (undisposed : Undisposed past)
    (since : ∀ before y between, past = before ++ y :: between →
      Stands text options tree code i before y.interpreter y.module) :
    InUse text options tree code i past x := by
  have holding := stands.holding undisposed
  constructor
  case module => exact stands.inUse undisposed
  case keeps =>
    intro other unchanged
    rcases Moment.keeps_or_recompiles holding other with ⟨-, kept⟩ | ⟨new, optimized, -⟩
    · exact kept
    · rw [unchanged] at optimized
      cases optimized
  case disposes =>
    intro called
    simp only [Moment.answer, Moment.moduleAfter, called, Module.dispose_eq _ holding, and_self]
  case optimizes =>
    intro called
    simp only [Moment.answer, called, Module.optimize_eq _ holding]
  case recompiles =>
    intro optimized
    have other : x.call ≠ .dispose := by
      rw [Moment.call_of_optimizes optimized]
      decide
    rcases Moment.keeps_or_recompiles holding other with
      ⟨unchanged, -⟩ | ⟨new, -, compiled, changed⟩
    · rw [unchanged] at optimized
      cases optimized
    · exact ⟨new, compiled, changed⟩
  case validates =>
    intro called
    simp only [Moment.answer, called, Module.serve, (Module.validate_eq _ holding).1]
  case emitsText => exact stands.listed undisposed
  case opens =>
    intro shown called answered
    have listed := stands.listed undisposed called
    rw [answered, listing] at listed
    cases fault : (currentCode code past).root.listingFault with
    | some f =>
      rw [fault] at listed
      cases listed
    | none =>
      rw [fault] at listed
      cases listed
      exact head_prefix_iff _ _ past _
  case emitsBinary => exact stands.written undisposed
  case repeats =>
    intro before y between split same emits unchanged
    have earlier := since before y between split
    have undisposedBefore : Undisposed before := by
      intro z among
      exact undisposed z (by rw [split]; exact List.mem_append_left _ among)
    have still : ∀ z ∈ y :: between, z.optimizes = false := by
      intro z among
      rcases List.mem_cons.1 among with rfl | later
      · apply Moment.optimizes_of_call
        rw [same]
        rcases emits with called | called <;> simp [called]
      · exact unchanged z later
    have sameCode : currentCode code past = currentCode code before := by
      rw [split, currentCode_append code before _ still]
    have sameFlag : optimizedFlag past = optimizedFlag before := by
      have silent : (y :: between).any Moment.optimizes = false := by
        rw [List.any_eq_false]
        intro z among
        simp [still z among]
      rw [split, optimizedFlag, optimizedFlag, List.any_append, silent, Bool.or_false]
    rcases emits with called | called
    · rw [stands.listed undisposed called, earlier.listed undisposedBefore (same.trans called),
        sameCode, sameFlag]
    · rw [stands.written undisposed called, earlier.written undisposedBefore (same.trans called),
        sameCode]

end

/-- **The life of a module.** In every sequence of calls a disposal succeeds exactly if it is the
first, every later call is refused, and every earlier one is a call of a module in use. -/
theorem module_lifecycle (text : String) (options : Options) (tree : List Node) (code : Code)
    (i : Interpreter) (calls : List ModuleCall) (earlier : List Moment) (x : Moment)
    (later : List Moment)
    (split : life (Backend.newModule text options tree code) i calls = earlier ++ x :: later) :
    (x.call = .dispose → (x.answer = .ok .done ↔ Undisposed earlier)) ∧
      (¬ Undisposed earlier → Refused x) ∧
      (Undisposed earlier → InUse text options tree code i earlier x) := by
  have stands : Stands text options tree code i earlier x.interpreter x.module :=
    stands_of_life split
  have refused : ¬ Undisposed earlier → Refused x := by
    intro disposed
    exact refused_of_released (stands.released disposed)
  have inUse : Undisposed earlier → InUse text options tree code i earlier x := by
    intro undisposed
    apply stands.moment undisposed
    intro before y between split'
    rw [split', List.append_assoc, List.cons_append] at split
    exact stands_of_life split
  refine ⟨?_, refused, inUse⟩
  intro called
  refine ⟨?_, fun undisposed => ((inUse undisposed).disposes called).1⟩
  intro succeeded
  by_cases undisposed : Undisposed earlier
  · exact undisposed
  · obtain ⟨⟨f, failed, -⟩, -⟩ := refused undisposed
    rw [failed] at succeeded
    cases succeeded

/-- An optimization fails, the next one succeeds, and after the disposal nothing is emitted. -/
theorem module_lifecycle_reoptimized :
    let first : Code := .mk { listing := "first" } []
    let second : Code := .mk { listing := "second" } [.code (.mk { name := "f" } [])]
    let i : Interpreter := { compiles := ⟨.fault (.foreign "ValueError" "odd"), [.ok second]⟩ }
    let calls : List ModuleCall :=
      [.optimize, .emitText, .optimize, .validate, .emitText, .dispose, .emitText]
    let all := life (Backend.newModule "x = 1" {} [] first) i calls
    ∃ earlier x y, all = earlier ++ x :: [y, ⟨(y.interpreterAfter, y.moduleAfter), .emitText⟩] ∧
      x.answer = .ok (.text (listingHead "cpython-311" 4 "yes" ++ "second")) ∧
      y.answer = .ok .done ∧ Refused ⟨(y.interpreterAfter, y.moduleAfter), .emitText⟩ := by
  intro first second i calls all
  refine ⟨all.take 4, _, _, rfl, ?_, ?_, ?_⟩
  · have undisposed : Undisposed (all.take 4) := by
      unfold Undisposed
      decide
    have inUse :=
      (module_lifecycle "x = 1" {} [] first i calls (all.take 4) _ _ rfl).2.2 undisposed
    exact inUse.emitsText rfl
  · have undisposed : Undisposed (all.take 5) := by
      unfold Undisposed
      decide
    exact ((module_lifecycle "x = 1" {} [] first i calls (all.take 5) _ _ rfl).1 rfl).2 undisposed
  · refine (module_lifecycle "x = 1" {} [] first i calls (all.take 6) _ [] rfl).2.1 ?_
    intro undisposed
    exact undisposed _ (List.mem_of_getElem? (i := 5) rfl) rfl

end Playground.Bytecode
