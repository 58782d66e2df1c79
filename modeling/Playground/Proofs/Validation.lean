import Playground.Proofs.Lifecycle

/-!
# Validation covers the whole tree of units

A unit is found at its address: the positions, among the constants of each unit on the way, that
lead from the root to it. In the order of the addresses a unit comes before those that are nested
in it, and these come in the order of the constants.

* `Code.unitAt?` — the unit at an address.
* `Code.Lists` — all units with their addresses, each once and in order.
* `lists_occurrences` — such a list, by recursion over the tree.
* `roundTrips_of_sound` — what the round trips of units ask of the interpreter.
* `validation_covers` — every unit makes one round trip, and those that come back different are
  reported in order.
-/

namespace Playground.Bytecode

namespace Code

/-! ### Addresses -/

def unitAt? : Code → List Nat → Option CodeUnit
  | mk u _, [] => some u
  | mk _ constants, n :: address =>
    match constants[n]? with
    | some (.code c) => c.unitAt? address
    | _ => none

/-- The list holds every unit of the tree with its address, and nothing else; a unit stands before
those nested in it, and these stand in the order of the constants. -/
structure Lists (c : Code) (occurrences : List (List Nat × CodeUnit)) : Prop where
  exact : ∀ address u, (address, u) ∈ occurrences ↔ c.unitAt? address = some u
  /-- Addresses are compared position by position, and one that goes on comes later. -/
  ordered : (occurrences.map (·.1)).Pairwise (· < ·)

mutual

/-- The units of a tree with their addresses. -/
def occurrences : Code → List (List Nat × CodeUnit)
  | mk u constants => ([], u) :: occurrencesFrom 0 constants

/-- The units in a list of constants, the first of which is at position `n`. -/
def occurrencesFrom : Nat → List Constant → List (List Nat × CodeUnit)
  | _, [] => []
  | n, .code c :: rest =>
    (c.occurrences.map fun o => (n :: o.1, o.2)) ++ occurrencesFrom (n + 1) rest
  | n, .plain :: rest => occurrencesFrom (n + 1) rest

end

mutual

/-- The walk over a tree meets its units in this order. -/
theorem walk_eq : (c : Code) → c.walk = c.occurrences.map (·.2)
  | mk u constants => by
    rw [walk, occurrences, List.map_cons, walkConstants_eq 0 constants]

theorem walkConstants_eq : (n : Nat) → (constants : List Constant) →
    walkConstants constants = (occurrencesFrom n constants).map (·.2)
  | _, [] => rfl
  | n, .code c :: rest => by
    rw [walkConstants, occurrencesFrom, List.map_append, List.map_map, walk_eq c,
      walkConstants_eq (n + 1) rest]
    rfl
  | n, .plain :: rest => by
    rw [walkConstants, occurrencesFrom, walkConstants_eq (n + 1) rest]

end

mutual

theorem mem_occurrences : (c : Code) → (address : List Nat) → (u : CodeUnit) →
    ((address, u) ∈ c.occurrences ↔ c.unitAt? address = some u)
  | mk root constants, [], u => by
    have nested : ([], u) ∉ occurrencesFrom 0 constants := by
      rw [mem_occurrencesFrom 0 constants]
      rintro ⟨k, a, c, split, -⟩
      cases split
    simp [occurrences, unitAt?, nested, eq_comm]
  | mk root constants, n :: address, u => by
    have nested := mem_occurrencesFrom 0 constants (n :: address) u
    simp only [occurrences, unitAt?, List.mem_cons, Prod.mk.injEq, reduceCtorEq, false_and,
      false_or, nested, Nat.zero_add]
    constructor
    · rintro ⟨k, a, c, split, there, found⟩
      cases split
      rw [there]
      exact found
    · intro found
      split at found
      next c there => exact ⟨n, address, c, rfl, there, found⟩
      next => cases found

/-- What is listed of constants is nested in one of them, and its address begins with the position
of this one. -/
theorem mem_occurrencesFrom : (n : Nat) → (constants : List Constant) → (address : List Nat) →
    (u : CodeUnit) → ((address, u) ∈ occurrencesFrom n constants ↔
      ∃ k a c, address = (n + k) :: a ∧ constants[k]? = some (.code c) ∧ c.unitAt? a = some u)
  | _, [], address, u => by simp [occurrencesFrom]
  | n, constant :: rest, address, u => by
    have later := mem_occurrencesFrom (n + 1) rest address u
    -- a position behind the first one, counted from the constant after it
    have shifted (k : Nat) : n + 1 + k = n + (k + 1) := by omega
    cases constant with
    | plain =>
      rw [occurrencesFrom, later]
      constructor
      · rintro ⟨k, a, c, split, there, found⟩
        exact ⟨k + 1, a, c, shifted k ▸ split, there, found⟩
      · rintro ⟨k, a, c, split, there, found⟩
        cases k with
        | zero => cases there
        | succ k => exact ⟨k, a, c, (shifted k).symm ▸ split, there, found⟩
    | code d =>
      rw [occurrencesFrom, List.mem_append, later, List.mem_map]
      constructor
      · rintro (⟨⟨a, v⟩, listed, same⟩ | ⟨k, a, c, split, there, found⟩)
        · cases same
          exact ⟨0, a, d, rfl, rfl, (mem_occurrences d a v).1 listed⟩
        · exact ⟨k + 1, a, c, shifted k ▸ split, there, found⟩
      · rintro ⟨k, a, c, split, there, found⟩
        cases k with
        | zero =>
          cases there
          exact Or.inl ⟨(a, u), (mem_occurrences d a u).2 found, by rw [split]; rfl⟩
        | succ k => exact Or.inr ⟨k, a, c, (shifted k).symm ▸ split, there, found⟩

end

mutual

theorem ordered_occurrences : (c : Code) → (c.occurrences.map (·.1)).Pairwise (· < ·)
  | mk u constants => by
    rw [occurrences, List.map_cons, List.pairwise_cons]
    refine ⟨?_, ordered_occurrencesFrom 0 constants⟩
    intro address listed
    obtain ⟨⟨address, v⟩, nested, rfl⟩ := List.mem_map.1 listed
    obtain ⟨k, a, c, rfl, -⟩ := (mem_occurrencesFrom 0 constants address v).1 nested
    exact List.nil_lt_cons _ _

theorem ordered_occurrencesFrom : (n : Nat) → (constants : List Constant) →
    ((occurrencesFrom n constants).map (·.1)).Pairwise (· < ·)
  | _, [] => List.Pairwise.nil
  | n, .plain :: rest => ordered_occurrencesFrom (n + 1) rest
  | n, .code c :: rest => by
    rw [occurrencesFrom, List.map_append, List.pairwise_append]
    refine ⟨?_, ordered_occurrencesFrom (n + 1) rest, ?_⟩
    · have inside := ordered_occurrences c
      rw [List.pairwise_map] at inside ⊢
      rw [List.pairwise_map]
      exact inside.imp fun earlier => List.cons_lt_cons_iff.2 (Or.inr ⟨rfl, earlier⟩)
    · intro before first after later
      obtain ⟨o, nested, rfl⟩ := List.mem_map.1 first
      obtain ⟨p, -, rfl⟩ := List.mem_map.1 nested
      obtain ⟨⟨address, v⟩, behind, rfl⟩ := List.mem_map.1 later
      obtain ⟨k, a, d, rfl, -⟩ := (mem_occurrencesFrom (n + 1) rest address v).1 behind
      exact List.cons_lt_cons_iff.2 (Or.inl (by omega))

end

/-- The recursion over the tree lists its units. -/
theorem lists_occurrences (c : Code) : c.Lists c.occurrences where
  exact := mem_occurrences c
  ordered := ordered_occurrences c

end Code

/-! ### Round trips -/

/-- Does the unit come back with other instructions? -/
def CodeUnit.differs (u : CodeUnit) : Bool := u.restored ≠ u.body

/-- The unit can be written out and read in again. -/
def CodeUnit.Sound (u : CodeUnit) : Prop := u.dumpFault = none ∧ u.loadFault = none

instance (u : CodeUnit) : Decidable u.Sound :=
  inferInstanceAs (Decidable (u.dumpFault = none ∧ u.loadFault = none))

theorem roundTrip_of_sound (i : Interpreter) {u : CodeUnit} (sound : u.Sound) :
    i.roundTrip u =
      ({ i with calls := i.calls ++ [.dumps u.name], readings := i.readings ++ [u.name] },
        .ok u.restored) := by
  simp only [Interpreter.roundTrip, Interpreter.note, sound.1, sound.2]

/-- **Every unit is written out once and read in once**, in the order of the list. -/
theorem roundTrips_of_sound (units : List CodeUnit) (sound : ∀ u ∈ units, u.Sound)
    (i : Interpreter) :
    Module.roundTrips i units =
      ({ i with
          calls := i.calls ++ units.map fun u => .dumps u.name
          readings := i.readings ++ units.map (·.name) },
        .ok ((units.filter CodeUnit.differs).map Module.unstableUnit)) := by
  induction units generalizing i with
  | nil => simp [Module.roundTrips]
  | cons u rest ih =>
    obtain ⟨first, others⟩ := List.forall_mem_cons.1 sound
    rw [Module.roundTrips, roundTrip_of_sound i first]
    dsimp only
    rw [ih others]
    by_cases same : u.restored = u.body <;> simp [CodeUnit.differs, same, Except.map]

def verdict : List String → Except Fault Unit
  | [] => .ok ()
  | d :: ds => .error (.rejected (d :: ds) none)

theorem verdict_eq_error {ds : List String} {f : Fault} :
    verdict ds = .error f ↔ ds ≠ [] ∧ f = .rejected ds none := by
  cases ds with
  | nil => simp [verdict]
  | cons d ds => simp [verdict, eq_comm]

/-- A check makes one round trip for every unit that the walk meets. -/
theorem validate_of_sound {m : Module} {held : Held} (holding : m.held = some held)
    (sound : ∀ u ∈ held.code.walk, u.Sound) (i : Interpreter) :
    m.validate i =
      ({ i with
          calls := i.calls ++ held.code.walk.map fun u => .dumps u.name
          readings := i.readings ++ held.code.walk.map (·.name) },
        verdict ((held.code.walk.filter CodeUnit.differs).map Module.unstableUnit)) := by
  unfold Module.validate
  rw [holding]
  dsimp only
  rw [roundTrips_of_sound _ sound]
  cases (held.code.walk.filter CodeUnit.differs).map Module.unstableUnit <;> rfl

/-- **Validation covers the whole tree.** A module that is in use is checked, and every unit of its
code object can be written out and read in again. Then the check fails exactly if some unit comes
back with other instructions; it reports each occurrence of such a unit once, a unit before those
nested in it; and every occurrence is written out once and read in once. -/
theorem validation_covers (m : Module) (held : Held) (i : Interpreter)
    (holding : m.held = some held)
    (sound : ∀ address u, held.code.unitAt? address = some u → u.Sound) :
    ((∃ f, (m.validate i).2 = .error f ∧ f.kind = "CompileFailure") ↔
        ∃ address u, held.code.unitAt? address = some u ∧ u.restored ≠ u.body) ∧
      ∃ occurrences, held.code.Lists occurrences ∧
        (∀ f, (m.validate i).2 = .error f → f.diagnostics? = some
          ((occurrences.filter fun o => o.2.restored ≠ o.2.body).map fun o =>
            Module.unstableUnit o.2)) ∧
        (m.validate i).1.calls = i.calls ++ occurrences.map (fun o => .dumps o.2.name) ∧
        (m.validate i).1.readings = i.readings ++ occurrences.map fun o => o.2.name := by
  have lists := held.code.lists_occurrences
  have met : ∀ u ∈ held.code.walk, u.Sound := by
    intro u walked
    rw [Code.walk_eq, List.mem_map] at walked
    obtain ⟨⟨address, u⟩, listed, rfl⟩ := walked
    exact sound address u ((lists.exact address u).1 listed)
  have reported : (held.code.walk.filter CodeUnit.differs).map Module.unstableUnit =
      (held.code.occurrences.filter fun o => o.2.restored ≠ o.2.body).map fun o =>
        Module.unstableUnit o.2 := by
    rw [Code.walk_eq, List.filter_map, List.map_map]
    rfl
  rw [validate_of_sound holding met i, reported, Code.walk_eq, List.map_map, List.map_map]
  refine ⟨?_, held.code.occurrences, lists, ?_, rfl, rfl⟩
  · constructor
    · rintro ⟨f, failed, -⟩
      obtain ⟨some_differ, -⟩ := verdict_eq_error.1 failed
      obtain ⟨d, among⟩ := List.exists_mem_of_ne_nil _ some_differ
      obtain ⟨⟨address, u⟩, kept, -⟩ := List.mem_map.1 among
      obtain ⟨listed, differs⟩ := List.mem_filter.1 kept
      exact ⟨address, u, (lists.exact address u).1 listed, of_decide_eq_true differs⟩
    · rintro ⟨address, u, there, differs⟩
      refine ⟨_, verdict_eq_error.2 ⟨?_, rfl⟩, rfl⟩
      have listed := (lists.exact address u).2 there
      exact List.ne_nil_of_mem
        (List.mem_map_of_mem (List.mem_filter.2 ⟨listed, decide_eq_true differs⟩))
  · intro f failed
    obtain ⟨-, rfl⟩ := verdict_eq_error.1 failed
    rfl

/-- A unit that comes back different, and holds another one, stands twice among the constants. -/
theorem validation_covers_nested :
    let inner : Code := .mk { name := "g", body := "01", restored := "02" } []
    let outer : Code := .mk { name := "f", line := 2, body := "03" } [.plain, .code inner]
    let code : Code := .mk {} [.code outer, .plain, .code outer]
    let m := Backend.newModule "" {} [] code
    (∀ address u, code.unitAt? address = some u → u.Sound) ∧
      code.unitAt? [2, 1] = some { name := "g", body := "01", restored := "02" } ∧
      (∃ f, (m.validate {}).2 = .error f ∧ f.kind = "CompileFailure") ∧
      ∃ occurrences, code.Lists occurrences ∧
        (m.validate {}).1.readings = occurrences.map fun o => o.2.name := by
  intro inner outer code m
  have sound : ∀ address u, code.unitAt? address = some u → u.Sound := by
    intro address u there
    have all : ∀ o ∈ code.occurrences, o.2.Sound := by decide
    exact all (address, u) ((code.mem_occurrences address u).2 there)
  obtain ⟨fails, occurrences, lists, -, -, readings⟩ :=
    validation_covers m ⟨[], code⟩ {} rfl sound
  exact ⟨sound, rfl, fails.2 ⟨[2, 1], _, rfl, by decide⟩, occurrences, lists, readings⟩

end Playground.Bytecode
