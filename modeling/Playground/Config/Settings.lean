import Playground.Config.Typed
import Playground.Session.Basic

/-!
# The settings of a session

* `Config.keys` — the keys that are looked up.
* `Config.resolveSettings` — the settings that the configuration holds.
-/

namespace Playground.Config

open Playground.Text

def keys : List String :=
  ["compiler", "compile_mode", "auto_compile_delay_ms", "max_printing_errors",
    "notification_dismiss_ms"] ++ Options.keys.map ("options." ++ ·) ++
    ["logging.level", "logging.color", "web.host", "web.port"]

/-- The compile mode, in any letter case. -/
def resolveMode : Lookup CompileMode := do
  let name := toLower (← resolveText "compile_mode")
  match CompileMode.ofName? name with
  | some mode => pure mode
  | none =>
    throw (.config ("Invalid 'compile_mode': " ++ quote name ++ ". Allowed values: " ++
      ", ".intercalate (CompileMode.all.map CompileMode.name)) none)

def resolveOptions : Lookup Options := do
  let stdlib ← resolveBool "options.stdlib"
  let validate ← resolveBool "options.validate"
  let optimize ← resolveBool "options.optimize"
  let wideAddressMode ← resolveBool "options.wide_address_mode"
  pure { stdlib, validate, optimize, wideAddressMode }

/-- The settings of a session; at least one diagnostic must be shown. -/
def resolveSettings : Lookup Settings := do
  let compileMode ← resolveMode
  let autoCompileDelayMs ← resolveInt "auto_compile_delay_ms"
  let maxPrintingErrors ← resolveInt "max_printing_errors"
  if maxPrintingErrors < 1 then
    throw (.config "Config key 'max_printing_errors' must be at least 1" none)
  let options ← resolveOptions
  let compiler ← resolveText "compiler"
  let notificationDismissMs ← resolveInt "notification_dismiss_ms"
  pure { compiler, compileMode, autoCompileDelayMs, maxPrintingErrors, notificationDismissMs,
         options }

end Playground.Config
