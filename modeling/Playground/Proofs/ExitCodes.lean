import Playground.Proofs.Saving
import Playground.Proofs.SingleCompile

/-!
# What an exit code says

A program that is asked to compile a file reads it, compiles the text once, reports the outcome and
saves the binary. Its exit code is 2 where it cannot do so, 0 for a success and else 1.

* `World.sourceText?`, `World.outcome?` — what the file holds, and what comes of it.
* `Clear` — nothing goes wrong that the program does not handle.
* `Truthful` — the exit code, what is printed and what is saved are those of the outcome.
* `conclude_cases` — an outcome is reported and its binary saved, or the program ends with a fault.
* `tells_compileFile` — the compile of a file is clear and truthful, or ends with a fault.
* `exitCode_tells` — **exit codes tell the truth.**
* `undecodable_not_told` — a file that holds no text ends the program with a fault.
-/

namespace Playground.CommandLine

open Playground.Console Playground.Config

variable {w : World} {c : CompileArguments} {settings : Settings} {i : Bytecode.Interpreter}
  {source : String} {d : Desk} {t : Session Action}

/-- The settings of a compile that is asked for once. -/
def onceOnly (settings : Settings) : Settings := { settings with compileMode := .manual }

def unavailableMessage (name : String) : String :=
  "[red]Compiler '" ++ name ++ "' is not available[/red]"

/-- What is done when a session shows an outcome: it is reported, and the binary is saved where that
is asked for. -/
def conclude (p : Printer) (c : CompileArguments) (t : Session Action) : Act Nat :=
  print (findings p t c.output.value?) >>= fun _ =>
  printMarkup p (statusMarkup t) >>= fun _ =>
  if c.download ≠ .absent && t.canDownload then
    save p t c.download.value? >>= fun _ => pure (if t.busyState = .success then 0 else 1)
  else pure (if t.busyState = .success then 0 else 1)

/-- A text is compiled once; what follows depends on whether there was a compiler. -/
theorem compileText_of_once (probe : w.probe = .imports)
    (compilers : w.compilers = [(Bytecode.compilerName, .bytecode i)]) {r : Except Fault Bool}
    (once : compileOnce (textSession (onceOnly settings) source i d.board) = (t, r)) :
    compileText w c settings source d =
      (ofResult r >>= fun started =>
        if !started then
          printMarkup w.printer (unavailableMessage settings.compiler) >>= fun _ => pure 2
        else conclude w.printer c t : Act Nat) { d with board := t.log, journal := t.journal } := by
  unfold compileText
  dsimp only
  rw [Act.bind_ok (show (get : Act Desk) d = (.ok d, d) from rfl), probe, compilers,
    show ({ Session.new { settings with compileMode := .manual } source .imports
      [(Bytecode.compilerName, .bytecode i)] with log := d.board } : Session Action) =
        textSession (onceOnly settings) source i d.board from rfl, once]
  rfl

/-! ### What is shown of an outcome -/

/-- The output that is printed for an outcome: that of a success, in the way that was asked for. -/
def shownOutput (p : Printer) (o : Outcome) (output : Option OutputType) : String :=
  match o.artifact?, output with
  | some artifact, some type => p.plain (artifact.render type)
  | _, _ => ""

def exportOf (binary : List UInt8) : BinaryExport :=
  { filename := Session.exportName Bytecode.compilerName, payload := binary }

/-- The session shows the outcome of its only run. -/
def Shows (settings : Settings) (o : Outcome) (t : Session Action) : Prop :=
  ∃ st : State, st.ready = true ∧ st.compiler = settings.compiler ∧
    t.state = st.after settings.maxPrintingErrors o

section

variable {o : Outcome} (h : Shows settings o t)
include h

theorem busyState_of_shows :
    t.busyState = if o.artifact?.isSome then .success else .failure := by
  obtain ⟨st, ready, -, shows⟩ := h
  unfold Session.busyState
  rw [shows, show (st.after settings.maxPrintingErrors o).ready = true from ready]
  cases o <;> rfl

theorem canDownload_of_shows :
    t.canDownload = o.artifact?.elim false fun artifact => !artifact.binary.isEmpty := by
  obtain ⟨st, ready, -, shows⟩ := h
  unfold Session.canDownload
  rw [shows, show (st.after settings.maxPrintingErrors o).ready = true from ready]
  cases o <;> rfl

/-- What is saved is the binary of a success. -/
theorem saves_iff_of_shows : (c.download ≠ .absent && t.canDownload) = true ↔
    c.download ≠ .absent ∧ ∃ text binary, o = .success text binary ∧ binary ≠ [] := by
  rw [canDownload_of_shows h, Bool.and_eq_true, decide_eq_true_iff]
  refine and_congr_right fun _ => ?_
  cases o <;> simp [Outcome.artifact?]

theorem outputText_of_shows (p : Printer) (output : Option OutputType) :
    outputText p t output = shownOutput p o output := by
  have state := busyState_of_shows h
  obtain ⟨st, -, -, shows⟩ := h
  unfold outputText shownOutput
  rw [state]
  cases o with
  | success text binary =>
    cases output with
    | none => rfl
    | some type =>
      rw [shows]
      rfl
  | _ => cases output <;> rfl

theorem export?_of_shows (known : settings.compiler = Bytecode.compilerName) {text : String}
    {binary : List UInt8} (ends : o = .success text binary) (nonempty : binary ≠ []) :
    t.export? = .ok (exportOf binary) := by
  have can := canDownload_of_shows h
  obtain ⟨st, -, compiler, shows⟩ := h
  subst ends
  unfold Session.export?
  rw [if_pos (can.trans (by simpa [Outcome.artifact?] using nonempty)), shows,
    show (st.after settings.maxPrintingErrors (.success text binary)).compiler = _ from
      compiler.trans known]
  rfl

end

/-! ### What is left of an outcome -/

/-- What an outcome leaves on the disk, and what is said of it: the binary of a success is saved
where that is asked for, and else nothing is. -/
inductive Leaves (p : Printer) (c : CompileArguments) (o : Outcome) (disk : Disk) :
    Disk → String → Prop where
  | nothing (h : c.download = .absent ∨ ∀ text binary, o = .success text binary → binary = []) :
      Leaves p c o disk disk ""
  | file {folder : Path} {text : String} {binary : List UInt8} {disk' : Disk} {said : String}
      (asked : c.download = .value folder) (ends : o = .success text binary)
      (nonempty : binary ≠ []) (saves : Saves p disk folder (exportOf binary) disk' said) :
      Leaves p c o disk disk' said

theorem Leaves.same {p : Printer} {o : Outcome} {disk disk' : Disk} {said : String}
    (left : Leaves p c o disk disk' said)
    (h : c.download = .absent ∨ ∀ text binary, o = .success text binary → binary = []) :
    disk' = disk := by
  cases left with
  | nothing => rfl
  | file asked ends nonempty =>
    rcases h with absent | empty
    · cases asked.symm.trans absent
    · exact absurd (empty _ _ ends) nonempty

theorem Leaves.saved {p : Printer} {o : Outcome} {disk disk' : Disk} {said text : String}
    {binary : List UInt8} (left : Leaves p c o disk disk' said)
    (ends : o = .success text binary) (nonempty : binary ≠ []) (given : c.download ≠ .absent) :
    ∃ folder, c.download = .value folder ∧
      disk'.read (exportFile folder (exportOf binary)) = .ok binary := by
  cases left with
  | nothing h =>
    rcases h with absent | empty
    · exact absurd absent given
    · exact absurd (empty text binary ends) nonempty
  | file asked ends' _ saves =>
    cases ends.symm.trans ends'
    exact ⟨_, asked, saves.read⟩

/-- **An outcome is reported**, and leaves what it should, or the program ends with a fault. -/
theorem conclude_cases {p : Printer} (quotes : p.Quotes) {o : Outcome}
    (shows : Shows settings o t) (known : settings.compiler = Bytecode.compilerName) (d : Desk) :
    ∃ status, p.markup (statusMarkup t) = .ok status ∧
      ((∃ disk said, Leaves p c o d.disk disk said ∧ conclude p c t d =
        (.ok (if o.artifact?.isSome then 0 else 1), { d with
          disk, board := { d.board with
            out := d.board.out ++ findings p t c.output.value? ++ status ++ said } })) ∨
      (∀ disk said, ¬ Leaves p c o d.disk disk said) ∧
        ∃ f d', conclude p c t d = (.error f, d') ∧ f.isOwn = false) := by
  have code : (if t.busyState = .success then 0 else 1) = if o.artifact?.isSome then 0 else 1 := by
    rw [busyState_of_shows shows]
    cases o.artifact?.isSome <;> rfl
  obtain ⟨status, prints⟩ := statusMarkup_shown quotes t
  refine ⟨status, prints, ?_⟩
  let d₁ : Desk := { d with
    board := { d.board with out := d.board.out ++ findings p t c.output.value? } }
  let d₂ : Desk := { d with
    board := { d.board with out := d.board.out ++ findings p t c.output.value? ++ status } }
  unfold conclude
  rw [Act.bind_ok (show print (findings p t c.output.value?) d = (.ok (), d₁) from rfl),
    Act.bind_ok (show printMarkup p (statusMarkup t) d₁ = (.ok (), d₂) from
      printMarkup_apply prints d₁), code]
  by_cases wanted : c.download ≠ .absent ∧ ∃ text binary, o = .success text binary ∧ binary ≠ []
  · rw [if_pos ((saves_iff_of_shows shows).2 wanted)]
    obtain ⟨given, text, binary, rfl, nonempty⟩ := wanted
    have exports := export?_of_shows shows known rfl nonempty
    rcases save_cases quotes exports c.download.value? d₂ with
      ⟨q, disk, said, folder, saves, saved⟩ | ⟨never, f, d', fails, unowned⟩
    · have asked : c.download = .value q := by
        cases download : c.download <;> rw [download] at folder <;> cases folder
        rfl
      rw [Act.bind_ok saved]
      exact .inl ⟨disk, said, .file asked rfl nonempty saves, rfl⟩
    · rw [Act.bind_error fails]
      refine .inr ⟨fun disk said left => ?_, f, d', rfl, unowned⟩
      cases left with
      | nothing h =>
        rcases h with absent | empty
        · exact given absent
        · exact nonempty (empty text binary rfl)
      | file asked ends _ saves =>
        cases ends
        exact never _ disk said (by rw [asked]; rfl) saves
  · rw [if_neg (mt (saves_iff_of_shows shows).1 wanted)]
    refine .inl ⟨d.disk, "", .nothing (or_iff_not_imp_left.2 fun given text binary ends => ?_), ?_⟩
    · exact by_contra fun nonempty => wanted ⟨given, text, binary, ends, nonempty⟩
    · rw [String.append_empty]
      rfl

/-! ### The exit code -/

/-- The text of the file, if it can be read. -/
def World.sourceText? (w : World) (c : CompileArguments) : Option String :=
  ((w.disk.read c.file).toOption.bind fun bytes => (textOfBytes bytes).toOption).map String.ofList

/-- The outcome of the compile, if it comes to one. -/
def World.outcome? (w : World) (c : CompileArguments) (settings : Settings)
    (i : Bytecode.Interpreter) : Option Outcome :=
  if settings.compiler = Bytecode.compilerName then
    (w.sourceText? c).bind fun source => (i.ending settings source).toOption
  else none

/-- Nothing goes wrong that the program does not handle. -/
structure Clear (w : World) (c : CompileArguments) (settings : Settings)
    (i : Bytecode.Interpreter) : Prop where
  /-- The path of the file holds no null character. -/
  named : w.disk.read c.file ≠ .error .nullCharacter
  /-- A file that can be opened holds a text. -/
  decodes : ∀ bytes, w.disk.read c.file = .ok bytes → ∃ text, textOfBytes bytes = .ok text
  /-- A compiler that there is none of has a name that markup shows. -/
  tells : ∀ source, w.sourceText? c = some source → settings.compiler ≠ Bytecode.compilerName →
    ∃ shown, w.printer.markup (unavailableMessage settings.compiler) = .ok shown
  /-- How the compile ends can be reported. -/
  reports : ∀ source, w.sourceText? c = some source →
    settings.compiler = Bytecode.compilerName → ∃ o, i.ending settings source = .ok o
  /-- A binary that is asked for can be saved and told. -/
  leaves : ∀ o, w.outcome? c settings i = some o →
    ∃ disk said, Leaves w.printer c o w.disk disk said

/-- The exit code, what is printed and what lies on the disk tell the truth about the compile of a
file that began with a board. -/
structure Truthful (w : World) (c : CompileArguments) (settings : Settings)
    (i : Bytecode.Interpreter) (board : Log.Board) (code : Nat) (d : Desk) : Prop where
  /-- The code is 2 exactly if the file cannot be read or there is no such compiler, -/
  refused : code = 2 ↔ w.sourceText? c = none ∨ settings.compiler ≠ Bytecode.compilerName
  /-- 0 exactly if the compile succeeds, -/
  succeeded : code = 0 ↔ ∃ text binary, w.outcome? c settings i = some (.success text binary)
  /-- and else 1. -/
  otherwise : code ≠ 2 → code ≠ 0 → code = 1
  /-- A file that cannot be read is told, -/
  unread : w.sourceText? c = none → ∃ problem shown, w.disk.read c.file = .error problem ∧
    w.printer.markup (unreadableMessage w.printer c.file problem) = .ok shown ∧
    d.board.out = board.out ++ shown
  /-- and so is a compiler that there is none of. -/
  unavailable : ∀ source, w.sourceText? c = some source →
    settings.compiler ≠ Bytecode.compilerName →
    ∃ shown, w.printer.markup (unavailableMessage settings.compiler) = .ok shown ∧ d.board.out =
      (compileOnce (textSession (onceOnly settings) source i board)).1.log.out ++ shown
  /-- An outcome is reported by the session that shows it; the output is printed only for a
  success. What is left of the outcome is told last. -/
  reported : ∀ source o, w.sourceText? c = some source → w.outcome? c settings i = some o →
    ∃ said status, Leaves w.printer c o w.disk d.disk said ∧
      let t := (compileOnce (textSession (onceOnly settings) source i board)).1
      t.state.outcome = some o ∧ w.printer.markup (statusMarkup t) = .ok status ∧
      d.board.out = t.log.out ++ (notificationText w.printer t ++ annotationText w.printer t ++
        shownOutput w.printer o c.output.value?) ++ status ++ said
  /-- A file is written only for a success with a binary that is to be downloaded, -/
  unsaved : (c.download = .absent ∨
      ¬ ∃ text binary, w.outcome? c settings i = some (.success text binary) ∧ binary ≠ []) →
    d.disk = w.disk
  /-- and then it holds just this binary. -/
  saved : ∀ text binary, w.outcome? c settings i = some (.success text binary) → binary ≠ [] →
    c.download ≠ .absent → ∃ folder, c.download = .value folder ∧
      d.disk.read (exportFile folder (exportOf binary)) = .ok binary

/-- The program tells the truth exactly if nothing goes wrong that it does not handle; otherwise it
ends with a fault that is none of its own. -/
def Tells (w : World) (c : CompileArguments) (settings : Settings) (i : Bytecode.Interpreter)
    (board : Log.Board) (r : Except Fault Nat × Desk) : Prop :=
  (Clear w c settings i ∧ ∃ code d, r = (.ok code, d) ∧ Truthful w c settings i board code d) ∨
    ¬ Clear w c settings i ∧ ∃ f d, r = (.error f, d) ∧ f.isOwn = false

theorem outcome?_of_refused
    (h : w.sourceText? c = none ∨ settings.compiler ≠ Bytecode.compilerName) :
    w.outcome? c settings i = none := by
  unfold World.outcome?
  rcases h with unread | unknown
  · rw [unread]
    split <;> rfl
  · rw [if_neg unknown]

/-- A compile that does not come to an outcome has the code 2. -/
theorem truthful_of_refused {board : Log.Board}
    (h : w.sourceText? c = none ∨ settings.compiler ≠ Bytecode.compilerName)
    (unread : w.sourceText? c = none → ∃ problem shown, w.disk.read c.file = .error problem ∧
      w.printer.markup (unreadableMessage w.printer c.file problem) = .ok shown ∧
      d.board.out = board.out ++ shown)
    (unavailable : ∀ source, w.sourceText? c = some source →
      settings.compiler ≠ Bytecode.compilerName →
      ∃ shown, w.printer.markup (unavailableMessage settings.compiler) = .ok shown ∧ d.board.out =
        (compileOnce (textSession (onceOnly settings) source i board)).1.log.out ++ shown)
    (same : d.disk = w.disk) : Truthful w c settings i board 2 d := by
  have nothing : w.outcome? c settings i = none := outcome?_of_refused h
  have never {o : Outcome} : w.outcome? c settings i ≠ some o := by
    rw [nothing]
    exact nofun
  exact ⟨iff_of_true rfl h, ⟨nofun, fun ⟨_, _, ends⟩ => absurd ends never⟩,
    fun other => absurd rfl other, unread, unavailable, fun _ _ _ ends => absurd ends never,
    fun _ => same, fun _ _ ends => absurd ends never⟩

theorem sourceText?_of_error {problem : DiskProblem} (read : w.disk.read c.file = .error problem) :
    w.sourceText? c = none := by
  unfold World.sourceText?
  rw [read]
  rfl

theorem sourceText?_of_bytes {bytes : List UInt8} (read : w.disk.read c.file = .ok bytes) :
    w.sourceText? c = (textOfBytes bytes).toOption.map String.ofList := by
  unfold World.sourceText?
  rw [read]
  rfl

theorem read_of_sourceText? (h : w.sourceText? c = some source) :
    ∃ bytes text, w.disk.read c.file = .ok bytes ∧ textOfBytes bytes = .ok text ∧
      String.ofList text = source := by
  cases read : w.disk.read c.file with
  | error problem => cases (sourceText?_of_error read).symm.trans h
  | ok bytes =>
    rw [sourceText?_of_bytes read] at h
    cases decoded : textOfBytes bytes with
    | error problem =>
      rw [decoded] at h
      cases h
    | ok text =>
      rw [decoded] at h
      exact ⟨bytes, text, rfl, decoded, Option.some.inj h⟩

/-- For a file that can be read, only the compile can go wrong. -/
theorem clear_of_sourceText? (h : w.sourceText? c = some source)
    (tells : settings.compiler ≠ Bytecode.compilerName →
      ∃ shown, w.printer.markup (unavailableMessage settings.compiler) = .ok shown)
    (reports : settings.compiler = Bytecode.compilerName → ∃ o, i.ending settings source = .ok o)
    (leaves : ∀ o, w.outcome? c settings i = some o →
      ∃ disk said, Leaves w.printer c o w.disk disk said) :
    Clear w c settings i := by
  obtain ⟨bytes, text, read, decoded, -⟩ := read_of_sourceText? h
  have sole {source' : String} (h' : w.sourceText? c = some source') : source = source' :=
    Option.some.inj (h.symm.trans h')
  refine ⟨?_, fun bytes' read' => ?_, fun _ _ => tells, fun source' h' => sole h' ▸ reports, leaves⟩
  · rw [read]
    exact nofun
  · cases read.symm.trans read'
    exact ⟨text, decoded⟩

/-- A file that cannot be opened is told, unless its path holds a null character. -/
theorem tells_unread (quotes : w.printer.Quotes) {problem : DiskProblem}
    (read : w.disk.read c.file = .error problem) (same : d.disk = w.disk) :
    Tells w c settings i d.board (compileFile w c settings d) := by
  have unread := sourceText?_of_error read
  have opened : d.disk.read c.file = .error problem := same ▸ read
  unfold compileFile
  rw [Act.bind_ok (show (get : Act Desk) d = (.ok d, d) from rfl), opened]
  by_cases null : problem = .nullCharacter
  · subst null
    exact .inr ⟨fun clear => clear.named read, _, d, rfl, rfl⟩
  · obtain ⟨text, shown⟩ := unreadableMessage_shown quotes c.file null
    have clear : Clear w c settings i := by
      refine ⟨?_, ?_, ?_, ?_, ?_⟩
      · rw [read]
        exact fun same => null (Except.error.inj same)
      · rw [read]
        exact nofun
      · rw [unread]
        exact nofun
      · rw [unread]
        exact nofun
      · rw [outcome?_of_refused (.inl unread)]
        exact nofun
    have told : (printMarkup w.printer (unreadableMessage w.printer c.file problem) >>= fun _ =>
        pure 2 : Act Nat) d =
          (.ok 2, { d with board := { d.board with out := d.board.out ++ text } }) := by
      rw [Act.bind_ok (printMarkup_apply shown d)]
      rfl
    refine .inl ⟨clear, 2, { d with board := { d.board with out := d.board.out ++ text } }, ?_,
      truthful_of_refused (.inl unread) (fun _ => ⟨problem, text, read, shown, rfl⟩) ?_ same⟩
    · cases problem <;> first | exact absurd rfl null | exact told
    · rw [unread]
      exact nofun

/-- The program handles no file that holds no text. -/
theorem compileFile_of_undecoded {bytes : List UInt8} {problem : Text.Utf8Fault}
    (read : d.disk.read c.file = .ok bytes) (undecoded : textOfBytes bytes = .error problem) :
    compileFile w c settings d = (.error (.foreign "UnicodeDecodeError" problem.message), d) := by
  unfold compileFile
  rw [Act.bind_ok (show (get : Act Desk) d = (.ok d, d) from rfl), read]
  dsimp only
  rw [undecoded]
  rfl

theorem tells_undecoded {bytes : List UInt8} {problem : Text.Utf8Fault}
    (read : w.disk.read c.file = .ok bytes) (undecoded : textOfBytes bytes = .error problem)
    (same : d.disk = w.disk) : Tells w c settings i d.board (compileFile w c settings d) := by
  refine .inr ⟨fun clear => ?_, _, d, compileFile_of_undecoded (same ▸ read) undecoded, rfl⟩
  obtain ⟨text, decoded⟩ := clear.decodes bytes read
  cases undecoded.symm.trans decoded

theorem tells_unavailable (quotes : w.printer.Quotes) (read : w.sourceText? c = some source)
    (unknown : settings.compiler ≠ Bytecode.compilerName) (probe : w.probe = .imports)
    (compilers : w.compilers = [(Bytecode.compilerName, .bytecode i)]) (same : d.disk = w.disk) :
    Tells w c settings i d.board (compileText w c settings source d) := by
  have unlisted : (onceOnly settings).compiler ≠ Bytecode.compilerName := unknown
  obtain ⟨t, once⟩ := compileOnce_of_unknown unlisted
  rw [compileText_of_once probe compilers once, Act.bind_ok (by rfl)]
  cases tells : w.printer.markup (unavailableMessage settings.compiler) with
  | error f =>
    refine .inr ⟨fun clear => ?_, f, _, Act.bind_error (printMarkup_of_error tells _),
      (quotes.unowned _ f tells).1⟩
    obtain ⟨text, told⟩ := clear.tells source read unknown
    cases tells.symm.trans told
  | ok text =>
    have clear : Clear w c settings i := by
      refine clear_of_sourceText? read (fun _ => ⟨text, tells⟩)
        (fun known => absurd known unknown) ?_
      rw [outcome?_of_refused (.inr unknown)]
      exact nofun
    refine .inl ⟨clear, 2, _, Act.bind_ok (printMarkup_apply tells _), ?_⟩
    refine truthful_of_refused (.inr unknown) ?_ (fun source' read' _ => ⟨text, tells, ?_⟩) same
    · rw [read]
      exact nofun
    · cases read.symm.trans read'
      rw [once]

theorem unowned_internal (compiler : String) (cause : Fault) :
    Unowned (Outcome.internal compiler cause) := by
  unfold Outcome.internal
  cases cause with
  | mute => rintro _ ⟨⟩; exact ⟨rfl, rfl⟩
  | _ => exact nofun

/-- A compile whose outcome cannot be had ends with the fault of a wording. -/
theorem unowned_outcome (compiler : String) (c : Conduct) : Unowned (c.outcome compiler) := by
  have refused (f : Fault) : Unowned (Outcome.ofRefusal compiler f) := by
    unfold Outcome.ofRefusal
    split
    · exact unowned_pure _
    · exact unowned_internal compiler _
  cases c with
  | fails f => exact refused f
  | rejects diagnostics =>
    cases diagnostics with
    | error f => exact refused f
    | ok diagnostics => exact unowned_pure _
  | produces module =>
    show Unowned (module.outcome compiler)
    unfold ModuleConduct.outcome
    split
    · split
      · exact unowned_pure _
      · exact unowned_internal compiler _
    · exact unowned_internal compiler _
    · exact unowned_internal compiler _
    · exact unowned_internal compiler _
    · exact unowned_pure _

theorem unowned_report (maxErrors : Int) (o : Outcome) : Unowned (o.report maxErrors) := by
  intro f h
  obtain ⟨diagnostics, -, limits⟩ := Outcome.report_eq_error h
  exact unowned_limitDiagnostics _ _ f limits

theorem unowned_ending (i : Bytecode.Interpreter) (settings : Settings) (source : String) :
    Unowned (i.ending settings source) := by
  obtain ⟨final, finalized⟩ := finalize_imports
    ⟨source, Bytecode.compilerName, settings.options, false⟩
  unfold Bytecode.Interpreter.ending
  rw [finalized]
  show Unowned (Conduct.ending _ _ _)
  unfold Conduct.ending
  split
  · split
    · exact unowned_pure _
    · exact unowned_internal _ _
  · exact unowned_bind (unowned_outcome _ _) fun o => unowned_report _ o

/-- A compile that was reported has told the truth. -/
theorem truthful_of_concluded {o : Outcome} {board : Log.Board} {said status : String}
    (read : w.sourceText? c = some source) (known : settings.compiler = Bytecode.compilerName)
    (ends : w.outcome? c settings i = some o) (shows : Shows settings o t)
    (leaves : Leaves w.printer c o w.disk d.disk said)
    (once : (compileOnce (textSession (onceOnly settings) source i board)).1 = t)
    (prints : w.printer.markup (statusMarkup t) = .ok status)
    (printed : d.board.out = t.log.out ++ findings w.printer t c.output.value? ++ status ++ said) :
    Truthful w c settings i board (if o.artifact?.isSome then 0 else 1) d where
  refused := by
    refine iff_of_false (by cases o <;> simp [Outcome.artifact?]) ?_
    rintro (unread | unknown)
    · cases read.symm.trans unread
    · exact unknown known
  succeeded := by
    rw [ends]
    cases o with
    | success text binary => exact iff_of_true rfl ⟨text, binary, rfl⟩
    | _ => exact iff_of_false (by simp [Outcome.artifact?]) nofun
  otherwise := by cases o <;> simp [Outcome.artifact?]
  unread unread := by cases read.symm.trans unread
  unavailable _ _ unknown := absurd known unknown
  reported source' o' read' ends' := by
    cases read.symm.trans read'
    cases ends.symm.trans ends'
    refine ⟨said, status, leaves, ?_⟩
    dsimp only
    rw [once, ← outputText_of_shows shows]
    obtain ⟨st, -, -, state⟩ := shows
    exact ⟨congrArg State.outcome state, prints, printed⟩
  unsaved h := leaves.same <| h.imp_right fun never text binary success =>
    by_contra fun nonempty => never ⟨text, binary, ends.trans (congrArg some success), nonempty⟩
  saved text binary success nonempty given :=
    leaves.saved (Option.some.inj (ends.symm.trans success)) nonempty given

theorem tells_compiled (quotes : w.printer.Quotes) (read : w.sourceText? c = some source)
    (known : settings.compiler = Bytecode.compilerName) (probe : w.probe = .imports)
    (compilers : w.compilers = [(Bytecode.compilerName, .bytecode i)]) (same : d.disk = w.disk) :
    Tells w c settings i d.board (compileText w c settings source d) := by
  have listed : (onceOnly settings).compiler = Bytecode.compilerName := known
  obtain ⟨t, once, shows⟩ := compileOnce_of_known listed
  have ending : i.ending (onceOnly settings) source = i.ending settings source := rfl
  rw [ending] at once shows
  have outcome : w.outcome? c settings i = (i.ending settings source).toOption := by
    unfold World.outcome?
    rw [if_pos known, read]
    rfl
  rw [compileText_of_once probe compilers once]
  cases ends : i.ending settings source with
  | error f =>
    refine .inr ⟨fun clear => ?_, f, _, rfl, (unowned_ending i settings source f ends).1⟩
    obtain ⟨o, reported⟩ := clear.reports source read known
    cases ends.symm.trans reported
  | ok o =>
    rw [ends] at outcome
    have shown : Shows settings o t := ⟨_, rfl, rfl, shows o ends⟩
    rw [Act.bind_ok (by rfl)]
    obtain ⟨status, prints, ⟨disk, said, leaves, concludes⟩ | ⟨never, f, d', fails, unowned⟩⟩ :=
      conclude_cases quotes shown known { d with board := t.log, journal := t.journal }
    · have leaves : Leaves w.printer c o w.disk disk said := same ▸ leaves
      have clear : Clear w c settings i := by
        refine clear_of_sourceText? read (fun unknown => absurd known unknown)
          (fun _ => ⟨o, ends⟩) fun o' ends' => ?_
        cases outcome.symm.trans ends'
        exact ⟨disk, said, leaves⟩
      exact .inl ⟨clear, _, _, concludes, truthful_of_concluded read known outcome shown leaves
        (congrArg Prod.fst once) prints rfl⟩
    · refine .inr ⟨fun clear => ?_, f, d', fails, unowned⟩
      obtain ⟨disk, said, leaves⟩ := clear.leaves o outcome
      exact never disk said (same ▸ leaves)

/-- **The compile of a file tells the truth**, or nobody handles what goes wrong. -/
theorem tells_compileFile (quotes : w.printer.Quotes) (probe : w.probe = .imports)
    (compilers : w.compilers = [(Bytecode.compilerName, .bytecode i)]) (same : d.disk = w.disk) :
    Tells w c settings i d.board (compileFile w c settings d) := by
  cases read : w.disk.read c.file with
  | error problem => exact tells_unread quotes read same
  | ok bytes =>
    cases decoded : textOfBytes bytes with
    | error problem => exact tells_undecoded read decoded same
    | ok text =>
      have found : w.sourceText? c = some (String.ofList text) := by
        rw [sourceText?_of_bytes read, decoded]
        rfl
      have opened : d.disk.read c.file = .ok bytes := same ▸ read
      unfold compileFile
      rw [Act.bind_ok (show (get : Act Desk) d = (.ok d, d) from rfl), opened]
      dsimp only
      rw [decoded]
      by_cases known : settings.compiler = Bytecode.compilerName
      · exact tells_compiled quotes found known probe compilers same
      · exact tells_unavailable quotes found known probe compilers same

/-- What a command is not to blame for is not reported. -/
theorem tells_reported {board : Log.Board} {act : Act Nat}
    (h : Tells w c settings i board (act d)) :
    Tells w c settings i board (reported w.printer act d) := by
  unfold reported
  rw [Act.tryCatch_apply]
  rcases h with ⟨clear, code, d', ends, truthful⟩ | ⟨unclear, f, d', fails, unowned⟩
  · rw [ends]
    exact .inl ⟨clear, code, d', rfl, truthful⟩
  · rw [fails]
    refine .inr ⟨unclear, f, d', ?_, unowned⟩
    simp only [unowned, Bool.false_eq_true, if_false]
    rfl

/-- The compile of a file, once the program is configured. -/
theorem run_of_configured {args : List String} {a : Arguments} {r : Resolver}
    (given : Arguments.ofStrings args = .ok a) (asked : a.command = .compile c)
    (sources : w.resolver a = .ok r) (configured : (configuration a r).1 = .ok settings) :
    ∃ verbosity colours, run w args = reported w.printer (compileFile w c settings)
      { disk := w.disk, resolver := (configuration a r).2, board := { verbosity, colours } } := by
  have more : a.command ≠ .compilers := by
    rw [asked]
    exact nofun
  obtain ⟨command, runs, compiles⟩ := run_of_arguments given more w
  obtain rfl := compiles c asked
  obtain ⟨verbosity, colours, performs⟩ :=
    perform_apply sources (compileFile w c) { disk := w.disk }
  rw [configured] at performs
  exact ⟨verbosity, colours, runs.trans performs⟩

/-- **Exit codes tell the truth.** A program that is asked to compile a file, with any options,
whose configuration is valid and whose compiler is an interpreter with any answers, returns exactly
if nothing goes wrong that it does not handle; its exit code, what it prints and what it saves then
tell what came of the file. -/
theorem exitCode_tells {args : List String} {a : Arguments} {r : Resolver}
    (given : Arguments.ofStrings args = .ok a) (asked : a.command = .compile c)
    (sources : w.resolver a = .ok r) (configured : (configuration a r).1 = .ok settings)
    (probe : w.probe = .imports)
    (compilers : w.compilers = [(Bytecode.compilerName, .bytecode i)]) (quotes : w.printer.Quotes) :
    ((∃ code, (run w args).1 = .ok code) ↔ Clear w c settings i) ∧
      ∀ code, (run w args).1 = .ok code → ∃ verbosity colours,
        Truthful w c settings i { verbosity, colours } code (run w args).2 := by
  obtain ⟨verbosity, colours, runs⟩ := run_of_configured given asked sources configured
  have tells : Tells w c settings i { verbosity, colours } (run w args) :=
    runs ▸ tells_reported (tells_compileFile quotes probe compilers rfl)
  rcases tells with ⟨clear, code, d, ends, truthful⟩ | ⟨unclear, f, d, fails, -⟩
  · rw [ends]
    refine ⟨iff_of_true ⟨code, rfl⟩ clear, fun code' eq => ⟨verbosity, colours, ?_⟩⟩
    exact Except.ok.inj eq ▸ truthful
  · rw [fails]
    exact ⟨iff_of_false (by rintro ⟨_, ⟨⟩⟩) unclear, nofun⟩

/-- A folder with a text, and with a file that holds none. -/
def twoFiles : World :=
  { World.installed with
    disk.entries := [(Path.ofString "a.py", .file [0x78]), (Path.ofString "b.py", .file [0xff])] }

def bareResolver (a : Arguments) : Resolver where
  commandLine := a.entries
  user := { path := Path.ofString ".config/compilepad/config.yaml", read := Yaml.load }
  system := { path := World.systemFile, read := Yaml.load }
  room := 995

theorem configFile_of_missing {p : Path} (plain : '\x00' ∉ p.text.toList)
    (short : p.text.utf8ByteSize ≤ Disk.longestPath)
    (missing : w.disk.locateFrom { root := p.root } p.names = .error .missing) :
    w.configFile p = { path := p, read := w.reader } := by
  unfold World.configFile Disk.look Disk.denial?
  rw [Disk.locate_of_plain _ plain short, missing]

theorem resolver_twoFiles {a : Arguments} (h : a.config = .absent) :
    twoFiles.resolver a = .ok (bareResolver a) := by
  have user : twoFiles.configFile (Path.ofString ".config/compilepad/config.yaml") =
      { path := Path.ofString ".config/compilepad/config.yaml", read := Yaml.load } :=
    configFile_of_missing (by decide +kernel) (by decide +kernel) (by decide +kernel)
  have system : twoFiles.configFile World.systemFile =
      { path := World.systemFile, read := Yaml.load } :=
    configFile_of_missing (by decide +kernel) (by decide +kernel) (by decide +kernel)
  have home : twoFiles.userFolder.map (fun folder =>
      folder.join (Path.ofString ".config/compilepad/config.yaml")) =
        .ok (Path.ofString ".config/compilepad/config.yaml") := by decide +kernel
  unfold World.resolver World.userFile
  rw [h]
  dsimp only
  rw [home]
  show Except.ok _ = _
  rw [system, user]
  rfl

def savingCompile : CompileArguments :=
  { file := Path.ofString "a.py", download := .value (Path.ofString "out") }

/-- What a fresh interpreter makes of any text, in the two forms of its output. -/
def freshText : String := "; module input.py\n; target: cpython-311 uintptr=4 optimized=yes\n"

def freshBinary : List UInt8 := [167, 13, 13, 10, 0, 0, 0, 0, 0, 0, 0, 0, 1, 0, 0, 0]

/-- The binary can be saved beside the two files. -/
theorem saves_freshBinary : ∃ disk,
    Saves twoFiles.printer twoFiles.disk (Path.ofString "out") (exportOf freshBinary) disk
      "Saved out/cpython.module.wasm\n" := by
  have makes : twoFiles.disk.makeFolders (Path.ofString "out") =
      .ok (twoFiles.disk.put (Path.ofString "out") .folder) := by
    unfold Disk.makeFolders Disk.makeFoldersTo Disk.makeFoldersTo.once Disk.makeFolder
    rw [Disk.locate_of_plain _ (by decide +kernel) (by decide +kernel)]
    decide +kernel
  have writes : (twoFiles.disk.put (Path.ofString "out") .folder).write
      (exportFile (Path.ofString "out") (exportOf freshBinary)) freshBinary =
        .ok ((twoFiles.disk.put (Path.ofString "out") .folder).put
          (exportFile (Path.ofString "out") (exportOf freshBinary)) (.file freshBinary)) := by
    unfold Disk.write
    rw [Disk.locate_of_plain _ (by decide +kernel) (by decide +kernel)]
    decide +kernel
  exact ⟨_, ⟨_, makes, writes⟩, by decide +kernel⟩

theorem exitCode_tells_saved : ∃ r d,
    Arguments.ofStrings ["compile", "a.py", "--download", "out"] =
      .ok { command := .compile savingCompile } ∧
    twoFiles.resolver { command := .compile savingCompile } = .ok r ∧
    (configuration { command := .compile savingCompile } r).1 = .ok {} ∧
    run twoFiles ["compile", "a.py", "--download", "out"] = (.ok 0, d) ∧
    d.disk.read (Path.ofString "out/cpython.module.wasm") = .ok freshBinary := by
  have given : Arguments.ofStrings ["compile", "a.py", "--download", "out"] =
      .ok { command := .compile savingCompile } := by decide +kernel
  have sources := resolver_twoFiles (a := { command := .compile savingCompile }) rfl
  have configured : (configuration { command := .compile savingCompile }
      (bareResolver { command := .compile savingCompile })).1 = .ok {} := by decide +kernel
  have bytes : twoFiles.disk.read savingCompile.file = .ok [0x78] := by
    unfold Disk.read
    rw [Disk.locate_of_plain _ (by decide +kernel) (by decide +kernel)]
    decide +kernel
  have read : twoFiles.sourceText? savingCompile = some "x" := by
    rw [sourceText?_of_bytes bytes]
    decide +kernel
  have ends : ({} : Bytecode.Interpreter).ending {} "x" = .ok (.success freshText freshBinary) := by
    decide +kernel
  have known : ({} : Settings).compiler = Bytecode.compilerName := rfl
  have outcome : twoFiles.outcome? savingCompile {} {} = some (.success freshText freshBinary) := by
    unfold World.outcome?
    rw [if_pos known, read]
    exact congrArg Except.toOption ends
  have clear : Clear twoFiles savingCompile {} {} := by
    refine clear_of_sourceText? read (fun unknown => absurd known unknown) (fun _ => ⟨_, ends⟩)
      fun o ends' => ?_
    cases outcome.symm.trans ends'
    obtain ⟨disk, saves⟩ := saves_freshBinary
    exact ⟨disk, _, .file rfl rfl (by decide) saves⟩
  obtain ⟨returns, tells⟩ := exitCode_tells given rfl sources configured rfl rfl printer_quotes
  obtain ⟨code, ends⟩ := returns.2 clear
  obtain ⟨_, _, truthful⟩ := tells code ends
  obtain rfl : code = 0 := truthful.succeeded.2 ⟨_, _, outcome⟩
  obtain ⟨folder, asked, saved⟩ := truthful.saved _ _ outcome (by decide) nofun
  cases asked
  have file : exportFile (Path.ofString "out") (exportOf freshBinary) =
      Path.ofString "out/cpython.module.wasm" := by decide +kernel
  exact ⟨_, _, given, sources, configured, Prod.ext ends rfl, file ▸ saved⟩

/-- The file that holds no text is to be compiled. -/
def strayCompile : CompileArguments := { file := Path.ofString "b.py" }

/-- **A file that holds no text is not told.** It cannot be read, but the program ends with the
fault of its decoding. -/
theorem undecodable_not_told :
    twoFiles.sourceText? strayCompile = none ∧
    (run twoFiles ["compile", "b.py"]).1 = .error (.foreign "UnicodeDecodeError"
      "'utf-8' codec can't decode byte 0xff in position 0: invalid start byte") := by
  have bytes : twoFiles.disk.read strayCompile.file = .ok [0xff] := by
    unfold Disk.read
    rw [Disk.locate_of_plain _ (by decide +kernel) (by decide +kernel)]
    decide +kernel
  have undecoded : textOfBytes [0xff] = .error (.invalidStart 0 0xff) := by decide +kernel
  have message : (Text.Utf8Fault.invalidStart 0 0xff).message =
      "'utf-8' codec can't decode byte 0xff in position 0: invalid start byte" := by decide +kernel
  have given : Arguments.ofStrings ["compile", "b.py"] =
      .ok { command := .compile strayCompile } := by decide +kernel
  have configured : (configuration { command := .compile strayCompile }
      (bareResolver { command := .compile strayCompile })).1 = .ok {} := by decide +kernel
  obtain ⟨verbosity, colours, runs⟩ :=
    run_of_configured given rfl (resolver_twoFiles rfl) configured
  constructor
  · rw [sourceText?_of_bytes bytes, undecoded]
    rfl
  · rw [runs]
    unfold reported
    rw [Act.tryCatch_apply, compileFile_of_undecoded bytes undecoded, message]
    rfl

end Playground.CommandLine
