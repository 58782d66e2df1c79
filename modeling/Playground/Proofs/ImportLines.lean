import Mathlib.Data.Bool.AllAny
import Playground.Imports.Standard
import Playground.Proofs.Pieces

/-!
# Which imports are found in a text

The scan for imports looks at each line by itself. Of import statements it finds the first names of
all paths, in order, however the statements are indented and spaced and whatever other lines stand
between them. Only an alias can hide something: a name that is not made of word characters, as the
names of many scripts are not, hides what follows it in its statement.

* `importedModules_append` — a text is scanned line by line.
* `Path`, `Entry`, `Line` — import statements as they are written.
* `Line.seen` — the paths of a line that the scan comes to.
* `Line.isClear` — does no alias of a line hide a path?
* `importedInLine_chars` — what is found in one line.
* `imports_scanned` — what is found in a text.
-/

namespace Playground.Imports

open Playground.Text

/-- The scan looks at each line by itself. -/
theorem importedModules_append (a b : String) :
    importedModules (a ++ "\n" ++ b) = importedModules a ++ importedModules b := by
  have ended : (a ++ "\n" ++ b).toList = a.toList ++ '\n' :: b.toList := by simp
  unfold importedModules
  rw [ended, splitOn_append, List.flatMap_append]

/-! ### Import statements as they are written -/

/-- Spaces and tabs. -/
structure Blanks where
  chars : List Char
  blank : ∀ c ∈ chars, isSpaceOrTab c = true

/-- At least one space or tab. -/
structure Gap extends Blanks where
  wide : chars ≠ []

/-- A dotted path: names of word characters, the first of which opens with a letter of the alphabet
or an underscore. -/
structure Path where
  first : List Char
  others : List (List Char)
  opens : opensName first = true
  word : ∀ c ∈ first, isWordChar c = true
  named : ∀ name ∈ others, name ≠ [] ∧ ∀ c ∈ name, isWordChar c = true

/-- The name that a module is imported under. It is one piece, of any script. -/
structure Alias where
  before : Gap
  after : Gap
  name : List Char
  filled : name ≠ []
  whole : ∀ c ∈ name, c ≠ ',' ∧ c ≠ '.' ∧ c ≠ '\n' ∧ isSpaceOrTab c = false

/-- One entry of the list of a plain import, with the blanks around it. -/
structure Entry where
  before : Blanks
  path : Path
  alias? : Option Alias
  after : Blanks

/-- What follows on the same line and does not go on with a character of `within`. -/
structure Rest (within : Char → Bool) where
  chars : List Char
  apart : ∀ c ∈ chars.head?, within c = false
  inLine : '\n' ∉ chars

/-- After blanks the text opens with the keyword and a blank. -/
def Opens (keyword cs : List Char) : Prop :=
  ∃ (indent : Blanks) (gap : Gap) (rest : List Char),
    cs = indent.chars ++ (keyword ++ (gap.chars ++ rest))

/-- A line that does not open like an import statement. -/
structure Other where
  chars : List Char
  inLine : '\n' ∉ chars
  plain : ¬ Opens "import".toList chars
  source : ¬ Opens "from".toList chars

/-- A line: an import of paths, an import from a path, or none. -/
inductive Line where
  | plain (indent : Blanks) (gap : Gap) (first : Entry) (others : List Entry)
      (rest : Rest isImportListChar)
  | source (indent : Blanks) (gap : Gap) (path : Path) (gap' : Gap) (rest : Rest isWordChar)
  | other (line : Other)

def Path.chars (p : Path) : List Char := p.first ++ p.others.flatMap ('.' :: ·)

/-- The module that a path leads into first. -/
def Path.root (p : Path) : String := String.ofList p.first

def Alias.chars (a : Alias) : List Char :=
  a.before.chars ++ ("as".toList ++ (a.after.chars ++ a.name))

/-- What is written after the path of an entry. -/
def Entry.tail (e : Entry) : List Char := (e.alias?.elim [] Alias.chars) ++ e.after.chars

def Entry.chars (e : Entry) : List Char := e.before.chars ++ (e.path.chars ++ e.tail)

def writtenList (entries : List Entry) : List Char := joinWith [','] (entries.map Entry.chars)

def Line.chars : Line → List Char
  | plain indent gap first others rest =>
    indent.chars ++ ("import".toList ++
      (gap.chars ++ (writtenList (first :: others) ++ rest.chars)))
  | source indent gap path gap' rest =>
    indent.chars ++ ("from".toList ++
      (gap.chars ++ (path.chars ++ (gap'.chars ++ ("import".toList ++ rest.chars)))))
  | other line => line.chars

def sourceText (lines : List Line) : String :=
  String.ofList (joinWith ['\n'] (lines.map Line.chars))

/-! ### What there is to find -/

def Line.paths : Line → List Path
  | plain _ _ first others _ => (first :: others).map (·.path)
  | source _ _ path _ _ => [path]
  | other _ => []

/-- Is there no alias, or one of word characters? -/
def Entry.isClear (e : Entry) : Bool := e.alias?.all fun a => a.name.all isWordChar

/-- The paths of a list up to the first entry whose alias is not of word characters. -/
def Entry.seen : List Entry → List Path
  | [] => []
  | e :: entries => e.path :: if e.isClear then seen entries else []

/-- The paths of a line that the scan comes to. -/
def Line.seen : Line → List Path
  | plain _ _ first others _ => Entry.seen (first :: others)
  | source _ _ path _ _ => [path]
  | other _ => []

/-- Does no alias of the line hide a path that follows it? -/
def Line.isClear : Line → Bool
  | plain _ _ first others _ => (first :: others).dropLast.all Entry.isClear
  | _ => true

theorem Entry.seen_of_clear {entries : List Entry}
    (clear : ∀ e ∈ entries.dropLast, e.isClear = true) :
    Entry.seen entries = entries.map (·.path) := by
  induction entries with
  | nil => rfl
  | cons e entries ih =>
    cases entries with
    | nil => simp [seen]
    | cons next entries =>
      have first : e.isClear = true := clear e (by simp)
      have others := ih fun d hd => clear d (by simp [hd])
      rw [seen, if_pos first, others]
      rfl

/-- Where no alias hides anything, the scan comes to all paths. -/
theorem Line.seen_of_clear {l : Line} (clear : l.isClear = true) : l.seen = l.paths := by
  cases l with
  | plain indent gap first others rest => exact Entry.seen_of_clear (List.all_eq_true.1 clear)
  | source => rfl
  | other => rfl

/-! ### Reading one entry -/

theorem isImportListChar_of_isWordChar {c : Char} (h : isWordChar c = true) :
    isImportListChar c = true := by simp [isImportListChar, h]

theorem isImportListChar_of_isSpaceOrTab {c : Char} (h : isSpaceOrTab c = true) :
    isImportListChar c = true := by simp [isImportListChar, h]

namespace Path

variable (p : Path)

theorem first_ne_nil : p.first ≠ [] := by
  intro none
  have opens := p.opens
  rw [none] at opens
  cases opens

theorem chars_ne_nil : p.chars ≠ [] := by
  unfold chars
  simp [p.first_ne_nil]

/-- A path is made of word characters and dots. -/
theorem word_or_dot {c : Char} (h : c ∈ p.chars) : isWordChar c = true ∨ c = '.' := by
  rcases List.mem_append.1 h with h | h
  · exact .inl (p.word c h)
  · obtain ⟨name, mem, h⟩ := List.mem_flatMap.1 h
    rcases List.mem_cons.1 h with rfl | h
    · exact .inr rfl
    · exact .inl ((p.named name mem).2 c h)

theorem isImportListChar_of_mem {c : Char} (h : c ∈ p.chars) : isImportListChar c = true := by
  rcases p.word_or_dot h with word | rfl
  · exact isImportListChar_of_isWordChar word
  · rfl

theorem not_isBlank_of_mem {c : Char} (h : c ∈ p.chars) : isBlank c = false := by
  rcases p.word_or_dot h with word | rfl
  · exact not_isBlank_of_isWordChar word
  · decide

theorem not_isSpaceOrTab_of_head (rest : List Char) :
    ∀ c ∈ (p.chars ++ rest).head?, isSpaceOrTab c = false := by
  intro c hc
  rw [List.head?_append_of_ne_nil _ p.chars_ne_nil] at hc
  refine Bool.eq_false_iff.2 fun space => ?_
  have blank := p.not_isBlank_of_mem (List.mem_of_head? hc)
  exact Bool.noConfusion (blank.symm.trans (isBlank_of_isSpaceOrTab space))

/-- The first name of a path ends before what is no part of it. -/
theorem takeWhile_first {within : Char → Bool} (word : ∀ c ∈ p.first, within c = true)
    (dot : within '.' = false) {rest : List Char} (ends : ∀ c ∈ rest.head?, within c = false) :
    (p.chars ++ rest).takeWhile within = p.first := by
  have stop : (p.others.flatMap ('.' :: ·) ++ rest).takeWhile within = [] := by
    cases others : p.others with
    | nil => exact takeWhile_eq_nil_of_head ends
    | cons name others => simp [dot]
  rw [chars, List.append_assoc, List.takeWhile_append_of_pos word, stop, List.append_nil]

end Path

namespace Entry

variable (e : Entry)

/-- What follows the path starts with a blank. -/
theorem isSpaceOrTab_of_tail_head : ∀ c ∈ e.tail.head?, isSpaceOrTab c = true := by
  intro c hc
  unfold tail at hc
  cases named : e.alias? with
  | none =>
    rw [named] at hc
    exact e.after.blank c (List.mem_of_head? hc)
  | some a =>
    rw [named] at hc
    have front : (a.chars ++ e.after.chars).head? = a.before.chars.head? := by
      rw [Alias.chars, List.append_assoc, List.head?_append_of_ne_nil _ a.before.wide]
    exact a.before.blank c (List.mem_of_head? (front.symm.trans hc))

/-- What follows the path is blank, or the keyword before the alias, or the alias. -/
theorem mem_tail {c : Char} (h : c ∈ e.tail) :
    isSpaceOrTab c = true ∨ c = 'a' ∨ c = 's' ∨ ∃ a ∈ e.alias?, c ∈ a.name := by
  unfold tail at h
  rcases List.mem_append.1 h with h | h
  · cases named : e.alias? with
    | none =>
      rw [named] at h
      cases h
    | some a =>
      rw [named] at h
      change c ∈ a.before.chars ++ (['a', 's'] ++ (a.after.chars ++ a.name)) at h
      simp only [List.mem_append, List.mem_cons, List.not_mem_nil, or_false] at h
      rcases h with h | (h | h) | h | h
      · exact .inl (a.before.blank c h)
      · exact .inr (.inl h)
      · exact .inr (.inr (.inl h))
      · exact .inl (a.after.blank c h)
      · exact .inr (.inr (.inr ⟨a, rfl, h⟩))
  · exact .inl (e.after.blank c h)

/-- Neither a comma nor a line end follows the path. -/
theorem tail_bare {c : Char} (h : c ∈ e.tail) : c ≠ ',' ∧ c ≠ '\n' := by
  rcases e.mem_tail h with space | rfl | rfl | ⟨a, -, mem⟩
  · obtain rfl | rfl := eq_of_isSpaceOrTab space <;> decide
  · decide
  · decide
  · exact ⟨(a.whole c mem).1, (a.whole c mem).2.2.1⟩

theorem path_bare {c : Char} (h : c ∈ e.path.chars) : c ≠ ',' ∧ c ≠ '\n' := by
  rcases e.path.word_or_dot h with word | rfl
  · constructor <;> rintro rfl <;> revert word <;> decide
  · decide

theorem chars_bare {c : Char} (h : c ∈ e.chars) : c ≠ ',' ∧ c ≠ '\n' := by
  rcases List.mem_append.1 h with h | h
  · obtain rfl | rfl := eq_of_isSpaceOrTab (e.before.blank c h) <;> decide
  · rcases List.mem_append.1 h with h | h
    · exact e.path_bare h
    · exact e.tail_bare h

/-- An entry is read to its end when its alias is of word characters. -/
theorem isImportListChar_of_clear (clear : e.isClear = true) {c : Char} (h : c ∈ e.tail) :
    isImportListChar c = true := by
  rcases e.mem_tail h with space | rfl | rfl | ⟨a, named, mem⟩
  · exact isImportListChar_of_isSpaceOrTab space
  · rfl
  · rfl
  · rw [isClear, named] at clear
    exact isImportListChar_of_isWordChar (List.all_eq_true.1 clear c mem)

/-- Any other alias stops the reading. -/
theorem exists_of_not_clear (clear : e.isClear = false) :
    ∃ c ∈ e.tail, isImportListChar c = false := by
  cases named : e.alias? with
  | none => simp [isClear, named] at clear
  | some a =>
    rw [isClear, named] at clear
    obtain ⟨c, mem, other⟩ := List.all_eq_false.1 clear
    obtain ⟨comma, dot, -, space⟩ := a.whole c mem
    refine ⟨c, ?_, by simp [isImportListChar, other, comma, dot, space]⟩
    simp [tail, named, Alias.chars, mem]

/-- Of an entry, and of what is left of it when the reading stops after its path, the first name
of the path is found. -/
theorem listedModules_entry {shown : List Char} (spaced : ∀ c ∈ shown.head?, isSpaceOrTab c = true)
    (bare : ∀ c ∈ shown, c ≠ ',') :
    listedModules (e.before.chars ++ (e.path.chars ++ shown)) = [e.path.root] := by
  have one : splitOn ',' (e.before.chars ++ (e.path.chars ++ shown)) =
      [e.before.chars ++ (e.path.chars ++ shown)] := by
    refine Decimal.splitOn_of_forall_ne fun c hc => ?_
    simp only [List.mem_append] at hc
    rcases hc with hc | hc | hc
    · obtain rfl | rfl := eq_of_isSpaceOrTab (e.before.blank c hc) <;> decide
    · exact (e.path_bare hc).1
    · exact bare c hc
  have read : words (e.before.chars ++ (e.path.chars ++ shown)) = e.path.chars :: words shown := by
    refine (piecesBy_skip _ fun c hc => isBlank_of_isSpaceOrTab (e.before.blank c hc)).trans ?_
    refine piecesBy_piece e.path.chars_ne_nil (fun c hc => e.path.not_isBlank_of_mem hc) ?_
    exact fun c hc => isBlank_of_isSpaceOrTab (spaced c hc)
  have solid : ∀ c ∈ e.path.first, decide (c ≠ '.') = true := by
    intro c hc
    refine decide_eq_true fun dot => ?_
    have word := e.path.word c hc
    rw [dot] at word
    revert word
    decide
  have first : (e.path.chars ++ []).takeWhile (· ≠ '.') = e.path.first :=
    e.path.takeWhile_first solid (by decide) (by simp)
  rw [List.append_nil] at first
  rw [listedModules, one, List.filterMap_cons, read]
  simp only [first, List.filterMap_nil, Path.root]

end Entry

/-! ### Reading a list -/

theorem listedModules_append (xs ys : List Char) :
    listedModules (xs ++ ',' :: ys) = listedModules xs ++ listedModules ys := by
  unfold listedModules
  rw [splitOn_append, List.filterMap_append]

/-- What is read of an entry and of what follows it. -/
theorem takeWhile_entry (e : Entry) (cs : List Char) :
    (e.chars ++ cs).takeWhile isImportListChar =
      if e.isClear then e.chars ++ cs.takeWhile isImportListChar
      else e.before.chars ++ (e.path.chars ++ e.tail.takeWhile isImportListChar) := by
  have blank : ∀ c ∈ e.before.chars, isImportListChar c = true :=
    fun c hc => isImportListChar_of_isSpaceOrTab (e.before.blank c hc)
  have path : ∀ c ∈ e.path.chars, isImportListChar c = true :=
    fun c hc => e.path.isImportListChar_of_mem hc
  unfold Entry.chars
  rw [List.append_assoc, List.append_assoc, List.takeWhile_append_of_pos blank,
    List.takeWhile_append_of_pos path]
  cases clear : e.isClear with
  | true =>
    have tail : ∀ c ∈ e.tail, isImportListChar c = true :=
      fun c hc => e.isImportListChar_of_clear clear hc
    rw [List.takeWhile_append_of_pos tail]
    simp
  | false =>
    obtain ⟨c, mem, stop⟩ := e.exists_of_not_clear clear
    have short : (e.tail.takeWhile isImportListChar).length ≠ e.tail.length := by
      intro same
      have all := List.all_takeWhile (p := isImportListChar) (l := e.tail)
      rw [List.IsPrefix.eq_of_length (List.takeWhile_prefix _) same] at all
      exact Bool.noConfusion (stop.symm.trans (List.all_eq_true.1 all c mem))
    rw [List.takeWhile_append, if_neg short]
    rfl

/-- **What is found in the list of a plain import.** The reading stops after the path of the first
entry whose alias is not of word characters. -/
theorem listedModules_writtenList (e : Entry) (entries : List Entry)
    (rest : Rest isImportListChar) :
    listedModules ((writtenList (e :: entries) ++ rest.chars).takeWhile isImportListChar) =
      (Entry.seen (e :: entries)).map Path.root := by
  -- an entry that is read to its end, and one at which the reading stops
  have whole (e : Entry) : listedModules e.chars = [e.path.root] :=
    e.listedModules_entry e.isSpaceOrTab_of_tail_head fun c hc => (e.tail_bare hc).1
  have cut (e : Entry) :
      listedModules (e.before.chars ++ (e.path.chars ++ e.tail.takeWhile isImportListChar)) =
        [e.path.root] := by
    apply e.listedModules_entry
    · intro c hc
      rw [List.head?_takeWhile] at hc
      exact e.isSpaceOrTab_of_tail_head c (Option.mem_filter_iff.1 hc).1
    · exact fun c hc => (e.tail_bare (List.takeWhile_subset _ hc)).1
  induction entries generalizing e with
  | nil =>
    show listedModules ((e.chars ++ rest.chars).takeWhile isImportListChar) = _
    rw [takeWhile_entry, takeWhile_eq_nil_of_head rest.apart, List.append_nil]
    by_cases clear : e.isClear = true
    · rw [if_pos clear, whole, Entry.seen, if_pos clear]
      rfl
    · rw [if_neg clear, cut, Entry.seen, if_neg clear]
      rfl
  | cons next entries ih =>
    have joined : writtenList (e :: next :: entries) ++ rest.chars =
        e.chars ++ (',' :: (writtenList (next :: entries) ++ rest.chars)) := by
      simp [writtenList, joinWith]
    rw [joined, takeWhile_entry, List.takeWhile_cons_of_pos (by rfl), Entry.seen]
    by_cases clear : e.isClear = true
    · rw [if_pos clear, if_pos clear, listedModules_append, whole, ih]
      rfl
    · rw [if_neg clear, if_neg clear, cut]
      rfl

/-! ### Reading a line -/

theorem afterGap_append (gap : Gap) (rest : List Char) :
    afterGap (gap.chars ++ rest) = some (rest.dropWhile isSpaceOrTab) := by
  obtain ⟨c, cs, eq⟩ := List.exists_cons_of_ne_nil gap.wide
  have blank := gap.blank
  rw [eq] at blank ⊢
  have first : isSpaceOrTab c = true := blank c List.mem_cons_self
  have others : ∀ d ∈ cs, isSpaceOrTab d = true := fun d hd => blank d (List.mem_cons_of_mem _ hd)
  simp [afterGap, first, List.dropWhile_append_of_pos others]

theorem afterKeyword_append (keyword : List Char) (gap : Gap) (rest : List Char) :
    afterKeyword keyword (keyword ++ (gap.chars ++ rest)) =
      some (rest.dropWhile isSpaceOrTab) := by
  rw [afterKeyword, dropStart?_append, Option.bind_some, afterGap_append]

/-- The scan of a line starts behind its indentation. -/
theorem dropWhile_indent (indent : Blanks) {cs : List Char}
    (other : ∀ c ∈ cs.head?, isSpaceOrTab c = false) :
    (indent.chars ++ cs).dropWhile isSpaceOrTab = cs := by
  rw [List.dropWhile_append_of_pos indent.blank]
  exact dropWhile_eq_self_of_head other

/-- A keyword is found where the text opens with it and a blank. -/
theorem opens_iff {k : Char} {keyword cs : List Char} (solid : isSpaceOrTab k = false) :
    Opens (k :: keyword) cs ↔
      (afterKeyword (k :: keyword) (cs.dropWhile isSpaceOrTab)).isSome = true := by
  constructor
  · rintro ⟨indent, gap, rest, rfl⟩
    rw [dropWhile_indent indent (by rintro c ⟨⟩; exact solid), afterKeyword_append]
    rfl
  · intro found
    obtain ⟨rest, found⟩ := Option.isSome_iff_exists.1 found
    obtain ⟨cs', drops, gap⟩ := Option.bind_eq_some_iff.1 found
    have split := eq_append_of_dropStart? drops
    cases cs' with
    | nil => cases gap
    | cons c cs' =>
      rw [afterGap] at gap
      obtain ⟨blank, -⟩ := Option.ite_none_right_eq_some.1 gap
      refine ⟨⟨cs.takeWhile isSpaceOrTab, List.all_eq_true.1 (List.all_takeWhile ..)⟩,
        ⟨⟨[c], by simp [blank]⟩, by simp⟩, cs', ?_⟩
      show cs = cs.takeWhile isSpaceOrTab ++ (k :: keyword ++ c :: cs')
      rw [← split, List.takeWhile_append_dropWhile]

/-- No blank goes on with a word character or a dot. -/
theorem Gap.not_word_or_dot (gap : Gap) (rest : List Char) :
    ∀ c ∈ (gap.chars ++ rest).head?, (isWordChar c || c = '.') = false := by
  intro c hc
  rw [List.head?_append_of_ne_nil _ gap.wide] at hc
  obtain rfl | rfl := eq_of_isSpaceOrTab (gap.blank c (List.mem_of_head? hc)) <;> decide

theorem Path.opensName_append (p : Path) (rest : List Char) :
    opensName (p.chars ++ rest) = true := by
  obtain ⟨c, cs, eq⟩ := List.exists_cons_of_ne_nil p.first_ne_nil
  have opens := p.opens
  rw [eq] at opens
  rw [Path.chars, eq]
  exact opens

/-- A from-import leads into the first name of its path. -/
theorem fromImport_written (gap : Gap) (path : Path) (gap' : Gap) (rest : Rest isWordChar) :
    fromImport ("from".toList ++
      (gap.chars ++ (path.chars ++ (gap'.chars ++ ("import".toList ++ rest.chars))))) =
      some path.first := by
  have start := dropWhile_eq_self_of_head
    (path.not_isSpaceOrTab_of_head (gap'.chars ++ ("import".toList ++ rest.chars)))
  have inPath : ∀ c ∈ path.chars, (isWordChar c || decide (c = '.')) = true := by
    intro c hc
    rcases path.word_or_dot hc with word | dot
    · simp [word]
    · simp [dot]
  have behind : (path.chars ++ (gap'.chars ++ ("import".toList ++ rest.chars))).dropWhile
      (fun c => isWordChar c || decide (c = '.')) =
      gap'.chars ++ ("import".toList ++ rest.chars) := by
    rw [List.dropWhile_append_of_pos inPath]
    exact dropWhile_eq_self_of_head (gap'.not_word_or_dot _)
  have keyword : opensWord "import".toList ("import".toList ++ rest.chars) = true := by
    rw [opensWord, dropStart?_append]
    cases chars : rest.chars with
    | nil => rfl
    | cons c cs =>
      have other : isWordChar c = false := rest.apart c (by rw [chars]; rfl)
      simp [other]
  have first : (path.chars ++ (gap'.chars ++ ("import".toList ++ rest.chars))).takeWhile
      isWordChar = path.first := by
    apply path.takeWhile_first path.word (by decide)
    intro c hc
    exact (Bool.or_eq_false_iff.1 (gap'.not_word_or_dot _ c hc)).1
  unfold fromImport
  rw [afterKeyword_append, start]
  show (if opensName _ = true then _ else none) = _
  rw [if_pos (path.opensName_append _), behind, afterGap_append, first]
  exact if_pos keyword

/-- A plain import is no from-import, and its list is read. -/
theorem plainImport_written (gap : Gap) (e : Entry) (entries : List Entry)
    (rest : Rest isImportListChar) :
    fromImport ("import".toList ++ (gap.chars ++ (writtenList (e :: entries) ++ rest.chars))) =
        none ∧
      plainImport ("import".toList ++ (gap.chars ++ (writtenList (e :: entries) ++ rest.chars))) =
        some ((Entry.seen (e :: entries)).map Path.root) := by
  refine ⟨rfl, ?_⟩
  -- the blanks before the first path are read with the gap
  let e' : Entry := { e with before := ⟨[], List.forall_mem_nil _⟩ }
  have moved : writtenList (e :: entries) = e.before.chars ++ writtenList (e' :: entries) :=
    joinWith_append_cons _ _ _ _
  have opened : writtenList (e' :: entries) =
      e.path.chars ++ joinWith [','] (e.tail :: entries.map Entry.chars) := by
    show joinWith [','] ((e.path.chars ++ e.tail) :: entries.map Entry.chars) = _
    exact joinWith_append_cons _ _ _ _
  have start : (writtenList (e :: entries) ++ rest.chars).dropWhile isSpaceOrTab =
      writtenList (e' :: entries) ++ rest.chars := by
    rw [moved, List.append_assoc, List.dropWhile_append_of_pos e.before.blank, opened,
      List.append_assoc]
    exact dropWhile_eq_self_of_head (e.path.not_isSpaceOrTab_of_head _)
  have opens : opensName (writtenList (e' :: entries) ++ rest.chars) = true := by
    rw [opened, List.append_assoc]
    exact e.path.opensName_append _
  unfold plainImport
  rw [afterKeyword_append, start]
  show (if opensName _ = true then _ else none) = _
  rw [if_pos opens, listedModules_writtenList e' entries rest]
  rfl

/-- **What is found in one line**: the first names of the paths that the scan comes to. -/
theorem importedInLine_chars (l : Line) : importedInLine l.chars = l.seen.map Path.root := by
  cases l with
  | plain indent gap first others rest =>
    obtain ⟨other, plain⟩ := plainImport_written gap first others rest
    show importedInLine (indent.chars ++ _) = _
    rw [importedInLine, dropWhile_indent indent (by rintro c ⟨⟩; decide)]
    simp only [other, plain, Option.getD_some]
    rfl
  | source indent gap path gap' rest =>
    have found := fromImport_written gap path gap' rest
    show importedInLine (indent.chars ++ _) = _
    rw [importedInLine, dropWhile_indent indent (by rintro c ⟨⟩; decide)]
    simp only [found]
    rfl
  | other line =>
    have source : afterKeyword "from".toList (line.chars.dropWhile isSpaceOrTab) = none :=
      Option.not_isSome_iff_eq_none.1 fun found => line.source ((opens_iff (by decide)).2 found)
    have plain : afterKeyword "import".toList (line.chars.dropWhile isSpaceOrTab) = none :=
      Option.not_isSome_iff_eq_none.1 fun found => line.plain ((opens_iff (by decide)).2 found)
    have source : fromImport (line.chars.dropWhile isSpaceOrTab) = none := by
      rw [fromImport, source]
      rfl
    have plain : plainImport (line.chars.dropWhile isSpaceOrTab) = none := by
      rw [plainImport, plain]
      rfl
    show importedInLine line.chars = []
    rw [importedInLine]
    simp only [source, plain, Option.getD_none]

/-! ### Reading a text -/

theorem Blanks.inLine (b : Blanks) : '\n' ∉ b.chars :=
  fun mem => Bool.noConfusion (b.blank _ mem)

theorem writtenList_inLine (entries : List Entry) : '\n' ∉ writtenList entries := by
  induction entries with
  | nil => exact List.not_mem_nil
  | cons e entries ih =>
    have first : '\n' ∉ e.chars := fun mem => (e.chars_bare mem).2 rfl
    cases entries with
    | nil => exact first
    | cons next entries =>
      show '\n' ∉ e.chars ++ [','] ++ writtenList (next :: entries)
      simp only [List.mem_append, List.mem_singleton, not_or]
      exact ⟨⟨first, by decide⟩, ih⟩

/-- No line goes on behind a line end. -/
theorem Line.inLine (l : Line) : '\n' ∉ l.chars := by
  cases l with
  | plain indent gap first others rest =>
    simp only [chars, List.mem_append, not_or]
    exact ⟨indent.inLine, by decide, gap.inLine, writtenList_inLine _, rest.inLine⟩
  | source indent gap path gap' rest =>
    have path : '\n' ∉ path.chars := by
      intro mem
      have listed := path.isImportListChar_of_mem mem
      revert listed
      decide
    simp only [chars, List.mem_append, not_or]
    exact ⟨indent.inLine, by decide, gap.inLine, path, gap'.inLine, by decide, rest.inLine⟩
  | other line => exact line.inLine

/-- **What is found in a text**: the first names of the paths that the scan comes to, line by
line. -/
theorem importedModules_sourceText (lines : List Line) :
    importedModules (sourceText lines) = (lines.flatMap Line.seen).map Path.root := by
  have found : (lines.map Line.chars).flatMap importedInLine =
      (lines.flatMap Line.seen).map Path.root := by
    simp only [List.flatMap_map, importedInLine_chars, List.map_flatMap]
  unfold importedModules sourceText
  rw [String.toList_ofList]
  by_cases none : lines = []
  · subst none
    rfl
  · rw [splitOn_joinWith (by simpa using none), found]
    intro piece mem c hc ends
    obtain ⟨l, -, rfl⟩ := List.mem_map.1 mem
    exact l.inLine (ends ▸ hc)

/-- **Imports are found line by line, and exactly where no alias hides any.** -/
theorem imports_scanned :
    (∀ a b : String, importedModules (a ++ "\n" ++ b) = importedModules a ++ importedModules b) ∧
    (∀ lines : List Line,
      importedModules (sourceText lines) = (lines.flatMap Line.seen).map Path.root) ∧
    ∀ lines : List Line, (∀ l ∈ lines, l.isClear = true) →
      importedModules (sourceText lines) = (lines.flatMap Line.paths).map Path.root ∧
      (requiresStdlib (sourceText lines) = true ↔
        ∃ p ∈ lines.flatMap Line.paths, p.root ∈ standardModules) := by
  refine ⟨importedModules_append, importedModules_sourceText, fun lines clear => ?_⟩
  have all : lines.flatMap Line.seen = lines.flatMap Line.paths :=
    List.flatMap_congr fun l mem => Line.seen_of_clear (clear l mem)
  have found := importedModules_sourceText lines
  rw [all] at found
  refine ⟨found, ?_⟩
  rw [requiresStdlib, found, List.any_map, List.any_eq_true]
  simp only [Function.comp_apply, isStandard, List.contains_iff_mem]

/-! ### Two texts -/

def noBlanks : Blanks := ⟨[], List.forall_mem_nil _⟩

def oneSpace : Gap := ⟨⟨[' '], List.all_eq_true.1 (by decide)⟩, by decide⟩

def numpyPath : Path where
  first := "numpy".toList
  others := []
  opens := by decide
  word := List.all_eq_true.1 (by decide)
  named := List.forall_mem_nil _

def osPath : Path where
  first := "os".toList
  others := ["path".toList]
  opens := by decide
  word := List.all_eq_true.1 (by decide)
  named := List.forall_mem_singleton.2 ⟨by decide, List.all_eq_true.1 (by decide)⟩

def shortAlias : Alias where
  before := oneSpace
  after := oneSpace
  name := ['p']
  filled := by decide
  whole := List.all_iff_forall_prop.1 (by decide)

/-- The vowels of this name are no word characters. -/
def markedAlias : Alias where
  before := oneSpace
  after := oneSpace
  name := "डेटा".toList
  filled := by decide
  whole := List.all_iff_forall_prop.1 (by decide)

/-- Imports in several forms; the marked alias has nothing behind it. -/
def clearLines : List Line := [
  .plain ⟨['\t'], List.all_eq_true.1 (by decide)⟩ oneSpace
    ⟨noBlanks, osPath, some shortAlias, oneSpace.toBlanks⟩
    [⟨oneSpace.toBlanks, numpyPath, some markedAlias, oneSpace.toBlanks⟩]
    ⟨"# a, b".toList, by rintro c ⟨⟩; decide, by decide⟩,
  .other ⟨"importlib = os".toList, by decide, mt (opens_iff (by decide)).1 (by decide),
    mt (opens_iff (by decide)).1 (by decide)⟩,
  .source noBlanks oneSpace osPath oneSpace
    ⟨"(join)".toList, by rintro c ⟨⟩; decide, by decide⟩]

theorem imports_scanned_clear :
    (∀ l ∈ clearLines, l.isClear = true) ∧
    sourceText clearLines =
      "\timport os.path as p , numpy as डेटा # a, b\nimportlib = os\nfrom os.path import(join)" ∧
    importedModules (sourceText clearLines) = ["os", "numpy", "os"] ∧
    requiresStdlib (sourceText clearLines) = true := by
  have clear : ∀ l ∈ clearLines, l.isClear = true := by decide
  obtain ⟨found, needed⟩ := imports_scanned.2.2 clearLines clear
  refine ⟨clear, by decide +kernel, found.trans (by decide +kernel), needed.2 ?_⟩
  exact ⟨osPath, by simp [clearLines, Line.paths], by decide +kernel⟩

/-- The vowels of an alias hide what is imported after it. -/
theorem marked_alias_hides :
    let l : Line := .plain noBlanks oneSpace ⟨noBlanks, numpyPath, some markedAlias, noBlanks⟩
      [⟨oneSpace.toBlanks, osPath, none, noBlanks⟩] ⟨[], by simp, List.not_mem_nil⟩
    sourceText [l] = "import numpy as डेटा, os.path" ∧
      importedModules (sourceText [l]) ≠ ([l].flatMap Line.paths).map Path.root ∧
      ¬ (requiresStdlib (sourceText [l]) = true ↔
        ∃ p ∈ [l].flatMap Line.paths, p.root ∈ standardModules) := by
  intro l
  refine ⟨by decide +kernel, by decide +kernel, fun same => ?_⟩
  have needed : ∃ p ∈ [l].flatMap Line.paths, p.root ∈ standardModules :=
    ⟨osPath, by simp [l, Line.paths], by decide +kernel⟩
  have missed : requiresStdlib (sourceText [l]) = false := by decide +kernel
  exact Bool.noConfusion (missed.symm.trans (same.2 needed))

end Playground.Imports
