import Playground.CommandLine.Run
import Playground.Proofs.Commitments
import Playground.Proofs.Pieces

/-!
# What can be printed

The program hands markup to a printer that is chosen from outside. It quotes texts that may hold
anything, escaped, between texts of its own that hold no markup.

* `IsBare` — texts that hold no markup.
* `Printer.Quotes` — what the program relies on: its messages can be printed whatever they quote.
* `configurationError`, `unreadableMessage` — messages with quoted texts.
* `statusMarkup_shown` — the status of a session can be printed.
-/

namespace Playground

/-- A text without anything that could be read as markup. -/
def IsBare (text : String) : Prop := ∀ c ∈ text.toList, c ≠ '\\' ∧ c ≠ '['

instance : DecidablePred IsBare := fun text =>
  List.decidableBAll (fun c => c ≠ '\\' ∧ c ≠ '[') text.toList

/-! ### Bare texts -/

namespace IsBare

theorem append {s t : String} (first : IsBare s) (second : IsBare t) : IsBare (s ++ t) := by
  intro c mem
  rw [String.toList_append] at mem
  exact (List.mem_append.1 mem).elim (first c) (second c)

theorem naturalText (n : Nat) : IsBare (Decimal.naturalText n) := by
  intro c mem
  rw [Decimal.naturalText, String.toList_ofList] at mem
  have digit := Decimal.decimal_digits n c mem
  constructor <;> rintro rfl <;> exact absurd digit (by decide)

theorem integerText (i : Int) : IsBare (Decimal.integerText i) := by
  intro c mem
  rw [Decimal.integerText, String.toList_ofList, Decimal.integerChars] at mem
  have natural (mem : c ∈ Decimal.digits i.natAbs) : c ≠ '\\' ∧ c ≠ '[' :=
    naturalText i.natAbs c (by rwa [Decimal.naturalText, String.toList_ofList])
  split at mem
  · rcases List.mem_cons.1 mem with rfl | mem
    · decide
    · exact natural mem
  · exact natural mem

theorem oneDecimal (num den : Nat) : IsBare (Format.oneDecimal num den) :=
  ((naturalText _).append (by decide)).append (naturalText _)

theorem inUnits (num den : Nat) {units : List String} (bare : ∀ u ∈ units, IsBare u) :
    IsBare (Format.inUnits num den units) := by
  induction units generalizing den with
  | nil => exact oneDecimal num den
  | cons unit rest ih =>
    have whole : IsBare (Format.oneDecimal num (den * 1024) ++ " " ++ unit) :=
      ((oneDecimal num _).append (by decide)).append (bare unit List.mem_cons_self)
    cases rest with
    | nil => exact whole
    | cons next rest =>
      show IsBare (if num < den * 1024 * 1024 then _ else Format.inUnits num (den * 1024) _)
      split
      · exact whole
      · exact ih _ fun u mem => bare u (List.mem_cons_of_mem _ mem)

theorem formatSize {size : Int} {text : String} (h : Format.formatSize size = .ok text) :
    IsBare text := by
  unfold Format.formatSize at h
  split at h
  · cases h
    exact (integerText size).append (by decide)
  · dsimp only at h
    split at h
    · cases h
      exact inUnits _ _ (by decide)
    · cases h

end IsBare

namespace Console

/-- **What the program relies on of a printer.** A text that is escaped can be quoted in a message:
behind a title in red, or in red text, where a second one may follow unless its first bracket would
close one of the first. Text without markup can be printed in a style, and dimmed. What cannot be
printed is none of the playground's own faults. -/
structure Printer.Quotes (p : Printer) : Prop where
  titled : ∀ title t, IsBare title →
    ∃ shown, p.markup ("[red]" ++ title ++ "[/red] " ++ p.escape t) = .ok shown
  quoted : ∀ title s t, IsBare title →
    t.toList.find? (fun c => c = '[' || c = ']') ≠ some ']' →
    ∃ shown, p.markup ("[red]" ++ title ++ p.escape s ++ ": " ++ p.escape t ++ "[/red]") = .ok shown
  styled : ∀ style ∈ ["yellow", "green", "bold red"], ∀ text, IsBare text →
    ∃ shown, p.markup ("[" ++ style ++ "]" ++ text ++ "[/]") = .ok shown
  dimmed : ∀ style ∈ ["yellow", "green", "bold red"], ∀ text size, IsBare text → IsBare size →
    ∃ shown, p.markup ("[" ++ style ++ "]" ++ text ++ "[/]" ++ "  [dim]" ++ size ++ "[/dim]") =
      .ok shown
  unowned : ∀ s, Unowned (p.markup s)

end Console

namespace CommandLine

open Console

variable {p : Printer} (quotes : p.Quotes)

/-! ### Messages -/

/-- What is printed about a configuration that cannot be used. -/
def configurationError (p : Printer) (text : String) : String :=
  "[red]Configuration error:[/red] " ++ p.escape text

/-- What is printed about a file that cannot be read. -/
def unreadableMessage (p : Printer) (file : Path) (problem : DiskProblem) : String :=
  "[red]Cannot read " ++ p.escape file.text ++ ": " ++ p.escape (problem.message file) ++ "[/red]"

include quotes

theorem configurationError_shown (text : String) :
    ∃ shown, p.markup (configurationError p text) = .ok shown :=
  quotes.titled "Configuration error:" text (by decide)

/-- What is said of a file quotes it behind a bracket that opens. -/
theorem unreadableMessage_shown (file : Path) {problem : DiskProblem}
    (other : problem ≠ .nullCharacter) :
    ∃ shown, p.markup (unreadableMessage p file problem) = .ok shown := by
  refine quotes.quoted "Cannot read " file.text _ (by decide) ?_
  cases problem with
  | nullCharacter => exact absurd rfl other
  | _ => simp [DiskProblem.message, DiskProblem.reason]

omit quotes in
theorem bare_statusText (s : Session Action) : IsBare s.statusText := by
  unfold Session.statusText statusMessage
  cases s.busyState with
  | failure =>
    refine ((IsBare.append (by decide) (.integerText _)).append ?_).append ?_
    · decide
    · split <;> decide
  | success => exact (by decide : IsBare "Compiled successfully")
  | busy => exact (by decide : IsBare "Processing...")

omit quotes in
theorem bare_binarySize (s : Session Action) : IsBare s.binarySize := by
  unfold Session.binarySize
  split
  · decide
  · split
    next size => exact .formatSize size
    next => decide

/-- **The status of a session can be printed.** -/
theorem statusMarkup_shown (s : Session Action) :
    ∃ shown, p.markup (statusMarkup s) = .ok shown := by
  have own : styleOf s.busyState ∈ ["yellow", "green", "bold red"] := by
    cases s.busyState <;> decide
  unfold statusMarkup
  split
  · have dimmed := quotes.dimmed _ own _ _ (bare_statusText s) (bare_binarySize s)
    simpa only [String.append_assoc] using dimmed
  · have styled := quotes.styled _ own _ (bare_statusText s)
    simpa only [String.append_empty] using styled

end CommandLine

end Playground
