import Mathlib.Data.List.Basic
import Playground.Proofs.CompileExits

/-!
# Forbidden imports

Without the standard library every import of one of its modules is reported. A statement is met in
the walk once, level by level, and the statements are then sorted by place; the reports are those
that a plain recursive reading of the tree gives, in another order.

* `breadthFirst` — the walk as a queue of statements, with `walk_eq_breadthFirst`.
* `Node.forbidden` — the reports of a plain recursive reading.
* `ByPlace` — a list of statements sorted by place, statements of one place as they were met.
* `reports_perm_forbiddens` — the walk reports what the plain reading reports.
* `byPlace_importsByPlace` — the sorting keeps every statement, and the order within one place.
* `forbidden_in_order` — the reports of a tree, and the rejection of a text because of them.
-/

namespace Playground.Bytecode

open Playground.Text

/-! ### The plain reading -/

namespace Node

mutual

/-- One report for every alias, or for the module of an absolute import, that leads into the
standard library, in the order in which a tree is read. -/
def forbidden : Node → List String
  | plainImport names place =>
    (names.filter fun path => firstComponent path ∈ Imports.standardModules).map
      fun path => missingModule path place
  | fromImport (some path) level place =>
    if level = 0 ∧ path ≠ "" ∧ firstComponent path ∈ Imports.standardModules then
      [missingModule path place]
    else []
  | fromImport none _ _ => []
  | block body orElse => forbiddens body ++ forbiddens orElse
  | other => []

def forbiddens : List Node → List String
  | [] => []
  | n :: ns => n.forbidden ++ forbiddens ns

end

mutual

def size : Node → Nat
  | block body orElse => sizes body + sizes orElse + 1
  | _ => 1

def sizes : List Node → Nat
  | [] => 0
  | n :: ns => n.size + sizes ns

end

theorem forbiddens_append (front back : List Node) :
    forbiddens (front ++ back) = forbiddens front ++ forbiddens back := by
  induction front with
  | nil => rfl
  | cons n front ih => simp only [List.cons_append, forbiddens, ih, List.append_assoc]

theorem sizes_append (front back : List Node) :
    sizes (front ++ back) = sizes front + sizes back := by
  induction front with
  | nil => simp only [List.nil_append, sizes, Nat.zero_add]
  | cons n front ih => simp only [List.cons_append, sizes, ih, Nat.add_assoc]

theorem size_eq (n : Node) : n.size = sizes n.children + 1 := by
  cases n <;> simp only [size, children, sizes, sizes_append]

theorem heights_append (front back : List Node) :
    heights (front ++ back) = max (heights front) (heights back) := by
  induction front with
  | nil => simp only [List.nil_append, heights, Nat.zero_max]
  | cons n front ih => simp only [List.cons_append, heights, ih, Nat.max_assoc]

theorem height_eq (n : Node) : n.height = heights n.children + 1 := by
  cases n <;> simp only [height, children, heights, heights_append]

/-- The next level of a forest is less high by one. -/
theorem heights_children (nodes : List Node) (depth : Nat) (enough : heights nodes ≤ depth + 1) :
    heights (nodes.flatMap children) ≤ depth := by
  induction nodes with
  | nil => simp only [List.flatMap_nil, heights, Nat.zero_le]
  | cons n nodes ih =>
    simp only [heights, height_eq] at enough
    have rest : heights (nodes.flatMap children) ≤ depth := ih (by omega)
    simp only [List.flatMap_cons, heights_append]
    omega

theorem eq_nil_of_heights {nodes : List Node} (flat : heights nodes ≤ 0) : nodes = [] := by
  cases nodes with
  | nil => rfl
  | cons n nodes =>
    simp only [heights, height_eq] at flat
    omega

end Node

/-! ### The walk as a queue -/

/-- The statements that a queue gives up: the first one leaves it, and the statements directly
inside it join at the end. -/
def breadthFirst : List Node → List Node
  | [] => []
  | n :: queue => n :: breadthFirst (queue ++ n.children)
termination_by queue => Node.sizes queue
decreasing_by
  simp only [Node.sizes_append, Node.sizes, Node.size_eq]
  omega

/-- What stands in front leaves the queue first. -/
theorem breadthFirst_append (front back : List Node) :
    breadthFirst (front ++ back) =
      front ++ breadthFirst (back ++ front.flatMap Node.children) := by
  induction front generalizing back with
  | nil => simp only [List.nil_append, List.flatMap_nil, List.append_nil]
  | cons n front ih =>
    rw [List.cons_append, breadthFirst, List.append_assoc, ih, List.flatMap_cons,
      List.append_assoc, List.cons_append]

/-- As many levels as the forest is high are the whole queue. -/
theorem walkLevels_eq_breadthFirst (depth : Nat) (nodes : List Node)
    (enough : Node.heights nodes ≤ depth) : walkLevels depth nodes = breadthFirst nodes := by
  induction depth generalizing nodes with
  | zero =>
    rw [Node.eq_nil_of_heights enough, walkLevels, breadthFirst]
  | succ depth ih =>
    have next := ih (nodes.flatMap Node.children) (Node.heights_children nodes depth enough)
    have level := breadthFirst_append nodes []
    rw [List.append_nil, List.nil_append] at level
    rw [walkLevels, next, level]

theorem walk_eq_breadthFirst (nodes : List Node) : walk nodes = breadthFirst nodes :=
  walkLevels_eq_breadthFirst _ nodes (Nat.le_refl _)

/-! ### Every report once -/

def importsAmong (nodes : List Node) : List (Place × Node) :=
  nodes.filterMap fun n => n.importPlace?.map fun place => (place, n)

/-- The reports of one statement, those of the statements inside it left out. -/
def Node.reports (n : Node) : List String :=
  n.importPlace?.elim [] fun place => forbiddenIn place n

theorem reports_of_importPlace? {n : Node} {place : Place}
    (standing : n.importPlace? = some place) :
    forbiddenIn place n = n.forbidden := by
  cases n with
  | plainImport names own =>
    cases standing
    simp only [forbiddenIn, Node.importedPaths, Node.forbidden, Imports.isStandard,
      List.contains_eq_mem]
  | fromImport module? level own =>
    cases standing
    cases module? with
    | none => simp only [forbiddenIn, Node.importedPaths, Node.forbidden, List.filter_nil,
        List.map_nil]
    | some path =>
      by_cases absolute : level = 0 ∧ path ≠ ""
      · by_cases standard : firstComponent path ∈ Imports.standardModules
        · simp [forbiddenIn, Node.importedPaths, Node.forbidden, Imports.isStandard, absolute,
            standard]
        · simp [forbiddenIn, Node.importedPaths, Node.forbidden, Imports.isStandard, absolute,
            standard]
      · have relative : ¬ (level = 0 ∧ path ≠ "" ∧ firstComponent path ∈ Imports.standardModules) :=
          fun all => absolute ⟨all.1, all.2.1⟩
        simp only [forbiddenIn, Node.importedPaths, Node.forbidden, if_neg relative]
        simp [absolute]
  | block body orElse => cases standing
  | other => cases standing

/-- A statement is read before the statements inside it. -/
theorem forbidden_eq (n : Node) : n.forbidden = n.reports ++ Node.forbiddens n.children := by
  cases n with
  | plainImport names place =>
    simp only [Node.reports, Node.importPlace?, Option.elim_some, Node.children, Node.forbiddens,
      List.append_nil]
    rw [reports_of_importPlace? rfl]
  | fromImport module? level place =>
    simp only [Node.reports, Node.importPlace?, Option.elim_some, Node.children, Node.forbiddens,
      List.append_nil]
    rw [reports_of_importPlace? rfl]
  | block body orElse =>
    simp only [Node.reports, Node.importPlace?, Option.elim_none, Node.children, Node.forbidden,
      Node.forbiddens_append, List.nil_append]
  | other =>
    simp only [Node.reports, Node.importPlace?, Option.elim_none, Node.children, Node.forbidden,
      Node.forbiddens, List.append_nil]

/-- The queue reports what the plain reading reports: the statements inside the first one are only
read later. -/
theorem reports_perm_forbiddens (queue : List Node) :
    ((breadthFirst queue).flatMap Node.reports).Perm (Node.forbiddens queue) := by
  induction queue using breadthFirst.induct with
  | case1 => simp only [breadthFirst, List.flatMap_nil, Node.forbiddens, List.Perm.refl]
  | case2 n queue ih =>
    rw [Node.forbiddens_append] at ih
    rw [breadthFirst, List.flatMap_cons, Node.forbiddens, forbidden_eq, List.append_assoc]
    exact (ih.trans List.perm_append_comm).append_left n.reports

theorem reports_of_importsAmong (nodes : List Node) :
    ((importsAmong nodes).flatMap fun s => forbiddenIn s.1 s.2) = nodes.flatMap Node.reports := by
  induction nodes with
  | nil => rfl
  | cons n nodes ih =>
    rw [List.flatMap_cons, ← ih, importsAmong, importsAmong, List.filterMap_cons, Node.reports]
    cases n.importPlace? with
    | none => simp only [Option.map_none, Option.elim_none, List.nil_append]
    | some place => simp only [Option.map_some, Option.elim_some, List.flatMap_cons]

/-! ### The order of the reports -/

/-- Does the first place come no later than the second, by line and then by column? -/
def Place.NoLater (a b : Place) : Prop :=
  a.line < b.line ∨ a.line = b.line ∧ a.column ≤ b.column

theorem Place.le_iff (a b : Place) : a.le b = true ↔ a.NoLater b := by
  simp only [Place.le, Place.NoLater, Bool.or_eq_true, Bool.and_eq_true, decide_eq_true_eq]

theorem Place.NoLater.trans {a b c : Place} (first : a.NoLater b) (second : b.NoLater c) :
    a.NoLater c := by
  simp only [Place.NoLater] at *
  omega

theorem Place.NoLater.antisymm {a b : Place} (first : a.NoLater b) (second : b.NoLater a) :
    a = b := by
  simp only [Place.NoLater] at *
  have sameLine : a.line = b.line := by omega
  have sameColumn : a.column = b.column := by omega
  cases a
  cases b
  simp_all only

theorem Place.noLater_or (a b : Place) : a.NoLater b ∨ b.NoLater a := by
  simp only [Place.NoLater]
  omega

/-- The statements of `met` by place, those of one place in the order in which they were met. -/
structure ByPlace (met sorted : List (Place × Node)) : Prop where
  ordered : sorted.Pairwise fun a b => a.1.NoLater b.1
  stable : ∀ place, (sorted.filter fun s => s.1 = place) = met.filter fun s => s.1 = place

/-- A sorted list opens with the statement that no other comes before. -/
theorem ByPlace.head_eq {met s t : List (Place × Node)} {a b : Place × Node}
    (first : ByPlace met (a :: s)) (second : ByPlace met (b :: t)) : a = b := by
  have noLater : ∀ {a b : Place × Node} {s t}, ByPlace met (a :: s) → ByPlace met (b :: t) →
      a.1.NoLater b.1 := by
    intro a b s t first second
    have among : b ∈ (a :: s).filter fun x => x.1 = b.1 := by
      rw [first.stable b.1, ← second.stable b.1]
      simp
    rcases List.mem_cons.1 (List.mem_filter.1 among).1 with rfl | later
    · exact Or.inr ⟨rfl, Int.le_refl _⟩
    · exact List.rel_of_pairwise_cons first.ordered later
  have samePlace : b.1 = a.1 := (noLater second first).antisymm (noLater first second)
  have sameStatements := (first.stable a.1).trans (second.stable a.1).symm
  simp only [List.filter_cons, samePlace, decide_true, if_true] at sameStatements
  exact (List.cons.inj sameStatements).1

/-- The sorted list is determined by the order and by the statements of each place. -/
theorem ByPlace.unique {met s t : List (Place × Node)} (first : ByPlace met s)
    (second : ByPlace met t) : s = t := by
  induction s generalizing met t with
  | nil =>
    cases t with
    | nil => rfl
    | cons b t =>
      have sameStatements := (first.stable b.1).trans (second.stable b.1).symm
      simp at sameStatements
  | cons a s ih =>
    cases t with
    | nil =>
      have sameStatements := (first.stable a.1).trans (second.stable a.1).symm
      simp at sameStatements
    | cons b t =>
      obtain rfl : a = b := first.head_eq second
      have tails : ByPlace s t := by
        refine ⟨second.ordered.of_cons, ?_⟩
        intro place
        have sameStatements := (first.stable place).trans (second.stable place).symm
        by_cases here : a.1 = place
        · simp only [List.filter_cons, here, decide_true, if_true] at sameStatements
          exact (List.cons.inj sameStatements).2.symm
        · simpa only [List.filter_cons, here, decide_false, Bool.false_eq_true, if_false] using
            sameStatements.symm
      rw [ih ⟨first.ordered.of_cons, fun _ => rfl⟩ tails]

theorem byPlace_mergeSort (met : List (Place × Node)) :
    ByPlace met (met.mergeSort fun a b => a.1.le b.1) := by
  have transitive : ∀ a b c : Place × Node, a.1.le b.1 = true → b.1.le c.1 = true →
      a.1.le c.1 = true := by
    intro a b c first second
    rw [Place.le_iff] at *
    exact first.trans second
  have total : ∀ a b : Place × Node, (a.1.le b.1 || b.1.le a.1) = true := by
    intro a b
    rw [Bool.or_eq_true, Place.le_iff, Place.le_iff]
    exact Place.noLater_or a.1 b.1
  refine ⟨?_, ?_⟩
  · simpa only [Place.le_iff] using List.pairwise_mergeSort transitive total met
  · intro place
    -- The statements of one place are in order as they are, so the sorting keeps them as they are.
    have level : (met.filter fun s => s.1 = place).Pairwise fun a b => a.1.le b.1 = true := by
      apply List.pairwise_of_forall_mem_list
      intro a memA b memB
      have atA : a.1 = place := by simpa using (List.mem_filter.1 memA).2
      have atB : b.1 = place := by simpa using (List.mem_filter.1 memB).2
      rw [atA, atB, Place.le_iff]
      exact Or.inr ⟨rfl, Int.le_refl _⟩
    have kept := (List.sublist_mergeSort transitive total level List.filter_sublist).filter
      fun s => decide (s.1 = place)
    rw [List.filter_filter] at kept
    simp only [Bool.and_self] at kept
    have sameLength := ((List.mergeSort_perm met fun a b => a.1.le b.1).filter
      fun s => decide (s.1 = place)).length_eq
    exact (kept.eq_of_length sameLength.symm).symm

theorem byPlace_importsByPlace (nodes : List Node) :
    ByPlace (importsAmong (breadthFirst nodes)) (importsByPlace nodes) := by
  rw [importsByPlace, walk_eq_breadthFirst]
  exact byPlace_mergeSort _

/-- Every import statement of a sorted list reports as it does in the plain reading. -/
theorem forbiddenImports_eq (nodes : List Node) :
    forbiddenImports nodes = (importsByPlace nodes).flatMap fun s => s.2.forbidden := by
  refine List.flatMap_congr ?_
  intro s mem
  have among : s ∈ importsAmong (walk nodes) :=
    (List.mergeSort_perm (importsAmong (walk nodes)) fun a b => a.1.le b.1).mem_iff.1 mem
  simp only [importsAmong, List.mem_filterMap, Option.map_eq_some_iff] at among
  obtain ⟨n, -, place, standing, rfl⟩ := among
  exact reports_of_importPlace? standing

theorem forbiddenImports_perm (nodes : List Node) :
    (forbiddenImports nodes).Perm (Node.forbiddens nodes) := by
  have sorted : (importsByPlace nodes).Perm (importsAmong (walk nodes)) :=
    List.mergeSort_perm _ _
  have sameReports := sorted.flatMap_right fun s => forbiddenIn s.1 s.2
  rw [reports_of_importsAmong, walk_eq_breadthFirst] at sameReports
  exact sameReports.trans (reports_perm_forbiddens nodes)

/-! ### A rejected text -/

/-- Without the standard library a tree with reports leaves one exit, and one without never takes
it. -/
theorem compileSource_forbidden_iff {b : Backend} {i : Interpreter} {text : String}
    {options : Options} {nodes : List Node} (ready : b.isLoaded = true)
    (without : options.stdlib = false) (parsed : (i.parse text).2 = .ok nodes) :
    b.compileSource i text options =
        ((i.parse text).1, { b with diagnostics := forbiddenImports nodes }, .ok none) ↔
      forbiddenImports nodes ≠ [] := by
  obtain ⟨j, ds, result, answers, exit⟩ := b.exit_of_compileSource i text options ready
  rw [answers]
  refine ⟨?_, ?_⟩
  · intro same empty
    have silent : ds = [] := by
      rw [← empty]
      exact congrArg (fun r : Interpreter × Backend × _ => r.2.1.diagnostics) same
    have rejected : result = .ok none := congrArg (fun r => r.2.2) same
    exact exit.explains_iff.2 rejected silent
  · intro found
    have closed (tree : List Node) (parsed' : (i.parse text).2 = .ok tree) :
        ¬ (options.stdlib = true ∨ forbiddenImports tree = []) := by
      rw [parsed] at parsed'
      cases parsed'
      simp [without, found]
    cases exit with
    | forbidden parsed' =>
      rw [parsed] at parsed'
      cases parsed'
      rfl
    | unparsed parsed' =>
      rw [parsed] at parsed'
      cases parsed'
    | unread parsed' =>
      rw [parsed] at parsed'
      cases parsed'
    | uncompiled parsed' allowed => exact absurd allowed (closed _ parsed')
    | failed parsed' allowed => exact absurd allowed (closed _ parsed')
    | produced parsed' allowed => exact absurd allowed (closed _ parsed')

/-- **Forbidden imports in order.** The reports of a tree are those of the plain reading. They
follow the statements by place, statements of one place as the queue gives them up and the aliases
of a statement as they are written. Without the standard library a text is rejected because of its
reports, and is then not compiled, exactly if there are any. -/
theorem forbidden_in_order (nodes : List Node) :
    (forbiddenImports nodes).Perm (Node.forbiddens nodes) ∧
      (∃! statements, ByPlace (importsAmong (breadthFirst nodes)) statements) ∧
      (∀ statements, ByPlace (importsAmong (breadthFirst nodes)) statements →
        forbiddenImports nodes = statements.flatMap fun s => s.2.forbidden) ∧
      ∀ (b : Backend) (i : Interpreter) (text : String) (options : Options),
        b.isLoaded = true → options.stdlib = false → (i.parse text).2 = .ok nodes →
          (b.compileSource i text options =
              ((i.parse text).1, { b with diagnostics := forbiddenImports nodes }, .ok none) ↔
            forbiddenImports nodes ≠ []) := by
  have sorted := byPlace_importsByPlace nodes
  refine ⟨forbiddenImports_perm nodes, ⟨_, sorted, ?_⟩, ?_, ?_⟩
  · intro statements other
    exact other.unique sorted
  · intro statements other
    rw [other.unique sorted, forbiddenImports_eq]
  · intro b i text options ready without parsed
    exact compileSource_forbidden_iff ready without parsed

/-- Three statements of one place at different depths, and one that stands before them. -/
theorem forbidden_in_order_nested :
    let nodes : List Node :=
      [.block [.block [.fromImport (some "os.path") 0 ⟨2, 4⟩] []]
          [.plainImport ["re", "sys"] ⟨2, 4⟩],
        .fromImport (some "sys") 1 ⟨3, 0⟩, .plainImport ["numpy", "json.decoder"] ⟨1, 0⟩]
    let i : Interpreter := { parses := ⟨.ok nodes, []⟩ }
    Backend.compileSource { isLoaded := true } i "…" { stdlib := false } =
      ((i.parse "…").1, { isLoaded := true, diagnostics := forbiddenImports nodes }, .ok none) := by
  intro nodes i
  have reported : forbiddenImports nodes ≠ [] := by
    intro empty
    have silent := (forbiddenImports_perm nodes).symm
    rw [empty] at silent
    exact absurd silent.eq_nil (by decide +kernel)
  exact ((forbidden_in_order nodes).2.2.2 { isLoaded := true } i "…" { stdlib := false } rfl rfl
    rfl).2 reported

end Playground.Bytecode
