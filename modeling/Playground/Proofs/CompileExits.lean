import Playground.Bytecode.Backend

/-!
# The exits of a compile call

A call of the bytecode compiler can end in its parsing, in the check for forbidden imports, in its
compiling or with a module. The diagnostics that are kept after it depend on the exit alone.

* `Exit` — the ways out of a call of a compiler that is ready.
* `exit_of_compileSource` — every call takes one of them.
* `Exit.explains_iff` — something is kept exactly if the text was rejected.
-/

namespace Playground.Bytecode

/-- The ways out of a call of a compiler that is ready: the interpreter after it, the diagnostics
that are kept and what is returned. -/
inductive Exit (i : Interpreter) (text : String) (options : Options) :
    Interpreter → List String → Except Fault (Option Module) → Prop where
  /-- The text has a syntax error. -/
  | unparsed {s : SyntaxFault} (parsed : (i.parse text).2 = .syntaxFault s) :
      Exit i text options (i.parse text).1 [syntaxDiagnostic s] (.ok none)
  /-- The interpreter fails to parse. -/
  | unread {f : Fault} (parsed : (i.parse text).2 = .fault f) :
      Exit i text options (i.parse text).1 [] (.error f)
  /-- The text imports what is not there. -/
  | forbidden {tree : List Node} (parsed : (i.parse text).2 = .ok tree)
      (without : options.stdlib = false) (found : forbiddenImports tree ≠ []) :
      Exit i text options (i.parse text).1 (forbiddenImports tree) (.ok none)
  /-- The tree has a syntax error. -/
  | uncompiled {tree : List Node} {s : SyntaxFault} (parsed : (i.parse text).2 = .ok tree)
      (allowed : options.stdlib = true ∨ forbiddenImports tree = [])
      (compiled : ((i.parse text).1.compile (-1)).2 = .syntaxFault s) :
      Exit i text options ((i.parse text).1.compile (-1)).1 [syntaxDiagnostic s] (.ok none)
  /-- The interpreter fails to compile. -/
  | failed {tree : List Node} {f : Fault} (parsed : (i.parse text).2 = .ok tree)
      (allowed : options.stdlib = true ∨ forbiddenImports tree = [])
      (compiled : ((i.parse text).1.compile (-1)).2 = .fault f) :
      Exit i text options ((i.parse text).1.compile (-1)).1 [] (.error f)
  /-- The text is compiled. -/
  | produced {tree : List Node} {code : Code} (parsed : (i.parse text).2 = .ok tree)
      (allowed : options.stdlib = true ∨ forbiddenImports tree = [])
      (compiled : ((i.parse text).1.compile (-1)).2 = .ok code) :
      Exit i text options ((i.parse text).1.compile (-1)).1 []
        (.ok (some (Backend.newModule text options tree code)))

/-- Something is kept exactly if the text was rejected. -/
theorem Exit.explains_iff {i j : Interpreter} {text : String} {options : Options}
    {ds : List String} {result : Except Fault (Option Module)}
    (exit : Exit i text options j ds result) : ds ≠ [] ↔ result = .ok none := by
  cases exit with
  | unparsed => exact iff_of_true (List.cons_ne_nil _ _) rfl
  | forbidden _ _ found => exact iff_of_true found rfl
  | uncompiled => exact iff_of_true (List.cons_ne_nil _ _) rfl
  | unread => exact iff_of_false (fun found => found rfl) nofun
  | failed => exact iff_of_false (fun found => found rfl) nofun
  | produced => exact iff_of_false (fun found => found rfl) nofun

namespace Backend

variable (b : Backend) (i : Interpreter) (text : String) (options : Options)

/-- A compiler that is not ready does nothing. -/
theorem compileSource_of_unready (unready : b.isLoaded = false) :
    b.compileSource i text options = (i, b, .error notLoaded) := by
  simp only [compileSource, unready, Bool.false_eq_true, if_false]

/-- **Every call takes one of the exits**, and changes nothing but the diagnostics that are kept. -/
theorem exit_of_compileSource (ready : b.isLoaded = true) : ∃ j ds result,
    b.compileSource i text options = (j, { b with diagnostics := ds }, result) ∧
      Exit i text options j ds result := by
  unfold compileSource
  rw [if_pos ready]
  rcases reads : i.parse text with ⟨j, reply⟩
  have after : (i.parse text).1 = j := congrArg Prod.fst reads
  have parsed : (i.parse text).2 = reply := congrArg Prod.snd reads
  cases reply with
  | syntaxFault s => exact ⟨_, _, _, rfl, after ▸ .unparsed parsed⟩
  | fault f => exact ⟨_, _, _, rfl, after ▸ .unread parsed⟩
  | ok tree =>
    dsimp only
    by_cases found : options.stdlib = false ∧ forbiddenImports tree ≠ []
    · obtain ⟨without, found⟩ := found
      rw [without, if_neg (by simp [found])]
      exact ⟨_, _, _, rfl, after ▸ .forbidden parsed without found⟩
    · have allowed : options.stdlib = true ∨ forbiddenImports tree = [] := by
        cases stdlib : options.stdlib with
        | true => exact Or.inl rfl
        | false => exact Or.inr (Decidable.of_not_not fun some => found ⟨stdlib, some⟩)
      rw [if_pos (by rcases allowed with stdlib | silent <;> simp [*])]
      rcases compiles : j.compile (-1) with ⟨k, reply⟩
      have last : ((i.parse text).1.compile (-1)).1 = k := by rw [after, compiles]
      have compiled : ((i.parse text).1.compile (-1)).2 = reply := by rw [after, compiles]
      cases reply with
      | syntaxFault s => exact ⟨_, _, _, rfl, last ▸ .uncompiled parsed allowed compiled⟩
      | fault f => exact ⟨_, _, _, rfl, last ▸ .failed parsed allowed compiled⟩
      | ok code => exact ⟨_, _, _, rfl, last ▸ .produced parsed allowed compiled⟩

end Backend

end Playground.Bytecode
