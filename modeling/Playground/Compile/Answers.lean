/-!
# Answers in turn

What lies outside the playground is known by the answers it gives.

* `Answers` — the answers of one source, one for every question; the last one repeats.
-/

namespace Playground

/-- Answers to be given in turn; the last one repeats. -/
structure Answers (α : Type) where
  first : α
  later : List α := []
  deriving Repr

namespace Answers

variable {α : Type}

/-- The next answer, and those that follow it. -/
def take (a : Answers α) : α × Answers α :=
  match a.later with
  | [] => (a.first, a)
  | b :: rest => (a.first, ⟨b, rest⟩)

/-- The answers of a list; without any, the same default for every question. -/
def ofList (default : α) : List α → Answers α
  | [] => ⟨default, []⟩
  | a :: rest => ⟨a, rest⟩

/-- The answers to the next `n` questions. -/
def takeList (a : Answers α) : Nat → List α
  | 0 => []
  | n + 1 => a.take.1 :: a.take.2.takeList n

instance [Inhabited α] : Inhabited (Answers α) := ⟨⟨default, []⟩⟩

end Answers

end Playground
