import Playground.CommandLine.Installed
import Playground.Proofs.Coercions
import Playground.Proofs.Escaping

/-!
# A program that cannot be configured

Before it carries out a command, the program looks up how much the log shows, whether it has
colours, and the settings. What comes of this is what comes of the lookups in a row.

* `configuration` — these lookups; `readings` — what they want.
* `configure_apply`, `perform_apply` — a program configures itself by them.
* `badConfiguration_told` — which bad configuration is told, with the exit code 2.
-/

namespace Playground.CommandLine

open Playground.Config Playground.Console

/-! ### Parts of the program -/

namespace Act

variable {β γ : Type} (d : Desk)

/-- A part goes on with what the one before it came to, unless that one failed. -/
theorem bind_apply (act : Act β) (next : β → Act γ) :
    (act >>= next) d =
      match act d with
      | (.ok b, d) => next b d
      | (.error f, d) => (.error f, d) := by
  rw [bind, Monad.toBind, ExceptT.instMonad]
  change ExceptT.bindCont next (act d).1 (act d).2 = _
  rcases act d with ⟨_ | _, _⟩ <;> rfl

/-- A part of the program that cannot fail. -/
theorem bind_ok {act : Act β} {next : β → Act γ} {d d' : Desk} {b : β} (h : act d = (.ok b, d')) :
    (act >>= next) d = next b d' := by
  rw [bind_apply, h]

theorem bind_error {act : Act β} {next : β → Act γ} {d d' : Desk} {f : Fault}
    (h : act d = (.error f, d')) : (act >>= next) d = (.error f, d') := by
  rw [bind_apply, h]

theorem ofResult_bind (b : β) (next : β → Act γ) : ofResult (.ok b) >>= next = next b := rfl

/-- A fault is handled where it was left. -/
theorem tryCatch_apply (act : Act β) (handle : Fault → Act β) :
    (tryCatch act handle) d =
      match act d with
      | (.ok b, d) => (.ok b, d)
      | (.error f, d) => handle f d := by
  simp only [tryCatch, tryCatchThe, MonadExceptOf.tryCatch, ExceptT.tryCatch, ExceptT.mk, bind,
    StateT.bind]
  rcases act d with ⟨_ | _, _⟩ <;> rfl

end Act

theorem look_apply {β : Type} (l : Lookup β) (d : Desk) :
    look l d = ((l d.resolver).1, { d with resolver := (l d.resolver).2 }) := by
  change ((set { d with resolver := (l d.resolver).2 } : Act PUnit) >>= fun _ =>
    ofResult (l d.resolver).1) d = _
  rw [Act.bind_apply]
  rcases l d.resolver with ⟨f | b, resolver⟩ <;> rfl

theorem printMarkup_apply {p : Printer} {s text : String} (h : p.markup s = .ok text) (d : Desk) :
    printMarkup p s d =
      (.ok (), { d with board := { d.board with out := d.board.out ++ text } }) := by
  unfold printMarkup
  rw [h]
  rfl

/-! ### The configuration -/

def verbosityOf (a : Arguments) : Lookup Verbosity :=
  if a.quiet then pure .quiet
  else
    match a.verbose with
    | 0 => resolveLevel
    | 1 => pure .verbose
    | _ => pure .debug

/-- The settings, and what is looked up before them. -/
def configuration (a : Arguments) : Lookup Settings :=
  verbosityOf a >>= fun _ => resolveBool "logging.color" >>= fun _ => resolveSettings

/-- What is wanted to configure the program, in the order in which it is read. -/
def readings (a : Arguments) : List (String × Wanted) :=
  (if a.quiet || 0 < a.verbose then [] else [(levelKey, .level)]) ++
    ("logging.color", .truth) :: settingsReadings

theorem reads_verbosity (a : Arguments) :
    Reads (if a.quiet || 0 < a.verbose then [] else [(levelKey, .level)]) (fun _ => True)
      (verbosityOf a) := by
  unfold verbosityOf
  cases a.quiet with
  | true => exact .pure _ trivial
  | false =>
    cases a.verbose with
    | zero => exact reads_level
    | succ n => cases n <;> exact .pure _ trivial

theorem reads_configuration (a : Arguments) :
    Reads (readings a) (fun s : Settings => 1 ≤ s.maxPrintingErrors) (configuration a) :=
  (reads_verbosity a).bind fun _ _ => (reads_truth _).bind fun _ _ => reads_settings

/-! ### The program configures itself -/

theorem chooseVerbosity_eq (a : Arguments) :
    chooseVerbosity a =
      look (verbosityOf a) >>= fun verbosity =>
      modify (fun d => { d with board := { d.board with verbosity } }) >>= fun _ =>
      look (resolveBool "logging.color") >>= fun colours =>
      modify fun d => { d with board := { d.board with colours } } := by
  unfold chooseVerbosity verbosityOf
  cases a.quiet with
  | true => rfl
  | false =>
    cases a.verbose with
    | zero => rfl
    | succ n => cases n <;> rfl

/-- **The program is configured** by the lookups in a row; but for what it looked up, only the
verbosity and the colours change. -/
theorem configure_apply (a : Arguments) (d : Desk) :
    ∃ verbosity colours, configure a d =
      ((configuration a d.resolver).1,
        { d with
          resolver := (configuration a d.resolver).2
          board := { d.board with verbosity, colours } }) := by
  unfold configure configuration
  rw [chooseVerbosity_eq]
  simp only [bind_assoc]
  rw [Act.bind_apply, look_apply, Lookup.bind_apply]
  rcases verbosityOf a d.resolver with ⟨f | verbosity, r⟩
  · exact ⟨d.board.verbosity, d.board.colours, rfl⟩
  · dsimp only
    rw [Act.bind_ok (by rfl), Act.bind_apply, look_apply, Lookup.bind_apply]
    dsimp only
    rcases resolveBool "logging.color" r with ⟨f | colours, r⟩
    · exact ⟨verbosity, d.board.colours, rfl⟩
    · dsimp only
      rw [Act.bind_ok (by rfl), look_apply]
      exact ⟨verbosity, colours, rfl⟩

/-- A command whose own faults are reported. -/
def reported (p : Printer) (act : Act Nat) : Act Nat :=
  tryCatch act fun f =>
    if f.isOwn then do
      let text ← ofResult f.wording
      printMarkup p ("[red]" ++ p.escape text ++ "[/red]")
      return 1
    else throw f

def tellConfiguration {β : Type} (p : Printer) (f : Fault) (told : β) : Act β :=
  if isConfigFault f then do
    let text ← ofResult f.wording
    printMarkup p (configurationError p text)
    return told
  else throw f

/-- A program configures itself, and carries out its command if that succeeds. -/
theorem perform_eq (w : World) (command : Settings → Act Nat) (a : Arguments) :
    perform w command a =
      ofResult (w.resolver a) >>= fun resolver =>
      modify (fun d => { d with resolver }) >>= fun _ =>
      tryCatch (configure a >>= fun settings => pure (some settings))
        (fun f => tellConfiguration w.printer f none) >>= fun settings =>
      match settings with
      | none => pure 2
      | some settings => reported w.printer (command settings) := by
  unfold perform
  congr 1
  funext resolver
  congr 1
  funext _
  congr 1
  funext settings
  cases settings with
  | none => rfl
  | some settings =>
    funext d
    dsimp only
    unfold reported
    rw [Act.tryCatch_apply, Act.bind_apply, Act.tryCatch_apply, Act.bind_apply]
    rcases command settings d with ⟨f | code, d'⟩
    · cases own : f.isOwn with
      | true =>
        simp only [own, if_true]
        cases f.wording with
        | error why => rfl
        | ok text =>
          rw [Act.ofResult_bind, Act.ofResult_bind, Act.bind_apply, Act.bind_apply]
          rcases printMarkup w.printer ("[red]" ++ w.printer.escape text ++ "[/red]") d' with
            ⟨_ | _, _⟩ <;> rfl
      | false =>
        simp only [own, Bool.false_eq_true, if_false]
        rfl
    · rfl

/-- **A program that is configured carries out its command**; one that is not says so with the exit
code 2, or ends with the fault of its lookup. -/
theorem perform_apply {w : World} {a : Arguments} {r : Resolver} (h : w.resolver a = .ok r)
    (command : Settings → Act Nat) (d : Desk) :
    ∃ verbosity colours, perform w command a d =
      (match (configuration a r).1 with
        | .ok settings => reported w.printer (command settings)
        | .error f => tellConfiguration w.printer f 2 : Act Nat)
        { d with
          resolver := (configuration a r).2
          board := { d.board with verbosity, colours } } := by
  obtain ⟨verbosity, colours, runs⟩ := configure_apply a { d with resolver := r }
  refine ⟨verbosity, colours, ?_⟩
  rw [perform_eq, h, Act.bind_ok (show ofResult (.ok r) d = (.ok r, d) from rfl),
    Act.bind_ok (show (modify _ : Act Unit) d = (.ok (), { d with resolver := r }) from rfl),
    Act.bind_apply, Act.tryCatch_apply, Act.bind_apply, runs]
  cases (configuration a r).1 with
  | ok settings => rfl
  | error f =>
    dsimp only
    unfold tellConfiguration
    cases isConfigFault f with
    | true =>
      simp only [if_true]
      cases f.wording with
      | error why => rfl
      | ok text =>
        rw [Act.ofResult_bind, Act.ofResult_bind, Act.bind_apply, Act.bind_apply]
        rcases printMarkup w.printer (configurationError w.printer text) _ with ⟨_ | _, _⟩ <;> rfl
    | false => rfl

/-- What a program does whose arguments can be read and ask for more than the compilers. -/
theorem run_of_arguments {args : List String} {a : Arguments}
    (given : Arguments.ofStrings args = .ok a) (more : a.command ≠ .compilers) (w : World) :
    ∃ command, run w args = perform w command a { disk := w.disk } ∧
      ∀ c, a.command = .compile c → command = compileFile w c := by
  unfold run
  rw [given]
  show ∃ command, obey w a { disk := w.disk } = _ ∧ _
  unfold obey
  cases asked : a.command with
  | compilers => exact absurd asked more
  | compile c =>
    refine ⟨compileFile w c, rfl, fun c' same => ?_⟩
    rw [Command.compile.inj same]
  | serve _ =>
    refine ⟨serve w, rfl, fun c same => ?_⟩
    cases same

/-- **Which bad configuration is told.** The settings can be had, with room for a diagnostic, or are
refused with a fault of the configuration, exactly if the first value that cannot be used does not
baffle. The program then answers with the fault and the exit code 2, and has done nothing; otherwise
it ends with the fault. What reads the files, how deep a value may be that is shown and what prints
the answer are not to be known for that. -/
theorem badConfiguration_told (r : Resolver) :
    (((∃ s, (resolveSettings r).1 = .ok s ∧ 1 ≤ s.maxPrintingErrors) ∨
        ∃ message suggestion, (resolveSettings r).1 = .error (.config message suggestion)) ↔
      ∀ key wanted, r.firstMiss settingsReadings = some (key, wanted) →
        ¬ wanted.Baffled r.room (r.answer key)) ∧
    ∀ (w : World), w.printer.Quotes →
      ∀ (args : List String) (a : Arguments), Arguments.ofStrings args = .ok a →
      a.command ≠ .compilers → w.resolver a = .ok r →
      ∀ f, (configuration a r).1 = .error f →
        ∃ key wanted, r.firstMiss (readings a) = some (key, wanted) ∧
          (wanted.Baffled r.room (r.answer key) → (run w args).1 = .error f) ∧
          (¬ wanted.Baffled r.room (r.answer key) →
            ∃ text shown, f.wording = .ok text ∧
              w.printer.markup (configurationError w.printer text) = .ok shown ∧
              (run w args).1 = .ok 2 ∧ (run w args).2.board.out = shown ∧
              (run w args).2.disk = w.disk) := by
  refine ⟨reads_settings.heeded_iff r, fun w quotes args a given more sources f failed => ?_⟩
  obtain ⟨command, runs, -⟩ := run_of_arguments given more w
  obtain ⟨verbosity, colours, performs⟩ := perform_apply sources command { disk := w.disk }
  rw [runs, performs, failed]
  dsimp only
  cases first : r.firstMiss (readings a) with
  | none =>
    obtain ⟨s, found, -⟩ := (reads_configuration a).found r first
    rw [failed] at found
    cases found
  | some miss =>
    obtain ⟨key, wanted⟩ := miss
    obtain ⟨f', missed, tells⟩ := (reads_configuration a).missed r key wanted first
    obtain rfl : f' = f := Except.error.inj (missed.symm.trans failed)
    refine ⟨key, wanted, rfl, fun baffled => ?_, fun clear => ?_⟩
    · obtain clear | ⟨-, notConfig, notMissing⟩ := tells
      · exact absurd baffled clear
      · have other : isConfigFault f' = false := by
          cases f' with
          | config m s => exact absurd rfl (notConfig m s)
          | missingKey k => exact absurd rfl (notMissing k)
          | _ => rfl
        unfold tellConfiguration
        rw [if_neg (Bool.eq_false_iff.1 other)]
        rfl
    · obtain ⟨-, m, s⟩ | baffles := tells
      · obtain ⟨text, worded⟩ : ∃ text, (Fault.config m s).wording = .ok text := ⟨_, rfl⟩
        obtain ⟨shown, prints⟩ := configurationError_shown quotes text
        refine ⟨text, shown, worded, prints, ?_⟩
        unfold tellConfiguration
        rw [if_pos (show isConfigFault (.config m s) = true from rfl), worded,
          Act.bind_ok (show ofResult (.ok text) _ = (.ok text, _) from rfl),
          Act.bind_ok (printMarkup_apply prints _)]
        exact ⟨rfl, String.empty_append, rfl⟩
      · exact absurd baffles clear

/-- A user who wants a mode that does not exist. -/
def whimsicalWorld : World :=
  { World.installed with
    environment :=
      [("COMPILEPAD_LOGGING_COLOR", "on"), ("COMPILEPAD_COMPILE_MODE", "sometimes")] }

def quietCompile : Arguments :=
  { quiet := true, command := .compile { file := Path.ofString "a.py" } }

theorem badConfiguration_told_whimsical :
    ∃ r f, Arguments.ofStrings ["-q", "compile", "a.py"] = .ok quietCompile ∧
      quietCompile.command ≠ .compilers ∧ whimsicalWorld.resolver quietCompile = .ok r ∧
      whimsicalWorld.printer.Quotes ∧ (configuration quietCompile r).1 = .error f ∧
      ∃ key wanted, r.firstMiss (readings quietCompile) = some (key, wanted) ∧
        (wanted.Baffled r.room (r.answer key) →
          (run whimsicalWorld ["-q", "compile", "a.py"]).1 = .error f) ∧
        (¬ wanted.Baffled r.room (r.answer key) →
          ∃ text shown, f.wording = .ok text ∧
            whimsicalWorld.printer.markup (configurationError whimsicalWorld.printer text) =
              .ok shown ∧
            (run whimsicalWorld ["-q", "compile", "a.py"]).1 = .ok 2 ∧
            (run whimsicalWorld ["-q", "compile", "a.py"]).2.board.out = shown ∧
            (run whimsicalWorld ["-q", "compile", "a.py"]).2.disk = whimsicalWorld.disk) := by
  have given : Arguments.ofStrings ["-q", "compile", "a.py"] = .ok quietCompile := by
    decide +kernel
  have failed : (configuration quietCompile
      ((whimsicalWorld.resolver quietCompile).toOption.getD default)).1 =
      .error (.config ("Invalid 'compile_mode': 'sometimes'. Allowed values: " ++
        ", ".intercalate (CompileMode.all.map CompileMode.name)) none) := by
    decide +kernel
  exact ⟨_, _, given, by decide, rfl, printer_quotes, failed,
    (badConfiguration_told _).2 whimsicalWorld printer_quotes _ _ given (by decide) rfl _ failed⟩

/-- **Bad configuration is not always told.** A superscript two is taken for a number, and is none.
-/
theorem superscript_not_told :
    (resolveSettings
        { environment := [("COMPILEPAD_AUTO_COMPILE_DELAY_MS", "²")]
          user := { path := {}, read := Yaml.load }
          system := { path := {}, read := Yaml.load }
          room := 995 }).1 =
      .error (.notAnInteger "²") := by
  decide +kernel

end Playground.CommandLine
