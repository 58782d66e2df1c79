import Playground.Console.Print
import Playground.Proofs.Printing

/-!
# Escaped text in markup

A text that is escaped can stand anywhere in markup: whatever it holds, none of its tags has any
power left. So messages that quote such texts can always be printed.

* `Layout`, `layout` — every text is made of runs of backslashes, each before a tag, before another
  character or at the end.
* `pieces_tag`, `pieces_plain` — the pieces of a text along its layout.
* `disarmed` — an escaped text but for its end.
* `pieces_escape_append` — what may follow an escaped text keeps its pieces.
* `Tame`, `EndsRed` — pieces without power, and pieces that do nothing but end red text.
* `markupText_title`, `markupText_red_two` — messages in red can be printed whatever they quote.
* `markupText_styled`, `markupText_dimmed` — text without markup can be printed in a style.
* `printer_quotes` — the console is a printer that the program can rely on.
-/

namespace Playground.Console.Markup

open Playground.Text

/-! ### Tags -/

def isBracket (c : Char) : Bool := c = '[' || c = ']'

/-- Can a character stand in the body of a tag? -/
def isInner (c : Char) : Bool := !isBracket c

theorem isInner_eq : isInner = fun c => c ≠ '[' && c ≠ ']' := by
  funext c
  simp [isInner, isBracket]

theorem drop_takeWhile {α : Type} (p : α → Bool) (xs : List α) :
    xs.drop (xs.takeWhile p).length = xs.dropWhile p :=
  calc xs.drop (xs.takeWhile p).length
      = (xs.takeWhile p ++ xs.dropWhile p).drop (xs.takeWhile p).length := by
        rw [List.takeWhile_append_dropWhile]
    _ = xs.dropWhile p := List.drop_left

/-- A tag is what stands before the next bracket, if that one closes it. -/
theorem tag?_bracket (c : Char) (rest : List Char) :
    tag? ('[' :: c :: rest) = match rest.dropWhile isInner with
      | ']' :: behind =>
        if opensBody c then some (c :: rest.takeWhile isInner, behind) else none
      | _ => none := by
  rw [isInner_eq, ← drop_takeWhile]
  rfl

theorem tag?_other {c : Char} (h : c ≠ '[') (rest : List Char) : tag? (c :: rest) = none := by
  unfold tag?
  split
  next eq => exact absurd (List.cons.inj eq).1 h
  next => rfl

/-- A tag as it is written is read as that tag. -/
theorem tag?_written {c : Char} {body : List Char} (opens : opensBody c = true)
    (inner : ∀ d ∈ body, isInner d = true) (rest : List Char) :
    tag? (written (c :: body) ++ rest) = some (c :: body, rest) := by
  have whole : written (c :: body) ++ rest = '[' :: c :: (body ++ ']' :: rest) := by
    simp [written]
  have before : (body ++ ']' :: rest).takeWhile isInner = body := by
    rw [List.takeWhile_append_of_pos inner, List.takeWhile_cons_of_neg (by decide),
      List.append_nil]
  have behind : (body ++ ']' :: rest).dropWhile isInner = ']' :: rest := by
    rw [List.dropWhile_append_of_pos inner, List.dropWhile_cons_of_neg (by decide)]
  rw [whole, tag?_bracket, before, behind]
  exact if_pos opens

/-- What is read as a tag was written as one. -/
theorem written_of_tag? {cs body rest : List Char} (h : tag? cs = some (body, rest)) :
    cs = written body ++ rest ∧ ∃ c inner, body = c :: inner ∧ opensBody c = true ∧
      ∀ d ∈ inner, isInner d = true := by
  obtain ⟨c, rest', rfl⟩ : ∃ c rest', cs = '[' :: c :: rest' := by
    unfold tag? at h
    split at h
    next c rest' => exact ⟨c, rest', rfl⟩
    next => cases h
  rw [tag?_bracket] at h
  split at h
  next behind left =>
    split at h
    next opens =>
      cases h
      have whole : rest'.takeWhile isInner ++ rest'.dropWhile isInner = rest' :=
        List.takeWhile_append_dropWhile
      rw [left] at whole
      refine ⟨?_, c, _, rfl, opens, fun d mem => ?_⟩
      · simp only [written, List.cons_append, List.append_assoc, List.nil_append, whole]
      · exact List.all_eq_true.1 List.all_takeWhile d mem
    next => cases h
  next => cases h

/-- A text that opens with a tag holds nothing but its body before the next bracket. -/
theorem find?_of_tag? {c : Char} {rest : List Char} {tagged : List Char × List Char}
    (h : tag? (c :: rest) = some tagged) :
    c = '[' ∧ ∃ d inner, rest = d :: inner ∧ opensBody d = true ∧
      inner.find? isBracket = some ']' := by
  obtain ⟨whole, d, inner, body, opens, plain⟩ := written_of_tag? h
  rw [body] at whole
  simp only [written, List.cons_append, List.cons.injEq, List.append_assoc, List.nil_append]
    at whole
  refine ⟨whole.1, d, _, whole.2, opens, ?_⟩
  rw [List.find?_append, List.find?_eq_none.2 (fun d mem => by simpa [isInner] using plain d mem)]
  rfl

/-- A bracket with a body behind it opens a tag when the next bracket closes it. -/
theorem tag?_of_find? {d : Char} {inner : List Char} (opens : opensBody d = true)
    (closes : inner.find? isBracket = some ']') : tag? ('[' :: d :: inner) ≠ none := by
  obtain ⟨-, before, behind, rfl, plain⟩ := List.find?_eq_some_iff_append.1 closes
  have inner : ∀ e ∈ before, isInner e = true := fun e mem => by simpa [isInner] using plain e mem
  have tagged := tag?_written opens inner behind
  simp only [written, List.cons_append, List.append_assoc, List.nil_append] at tagged
  rw [tagged]
  exact Option.some_ne_none _

/-! ### Layouts -/

/-- How a text is made of runs of backslashes, each before a tag, before another character or at
the end. -/
inductive Layout : List Char → Prop
  | slashes (n : Nat) : Layout (List.replicate n '\\')
  | tag (n : Nat) {c : Char} {body rest : List Char} (opens : opensBody c = true)
      (inner : ∀ d ∈ body, isInner d = true) (h : Layout rest) :
      Layout (List.replicate n '\\' ++ (written (c :: body) ++ rest))
  | plain (n : Nat) {c : Char} {rest : List Char} (other : c ≠ '\\')
      (untagged : tag? (c :: rest) = none) (h : Layout rest) :
      Layout (List.replicate n '\\' ++ c :: rest)

/-- Every text starts with a run of backslashes. -/
theorem run_of_slashes (cs : List Char) : ∃ n rest, cs = List.replicate n '\\' ++ rest ∧
    rest.head? ≠ some '\\' := by
  induction cs with
  | nil => exact ⟨0, [], rfl, nofun⟩
  | cons c cs ih =>
    by_cases h : c = '\\'
    · obtain ⟨n, rest, rfl, head⟩ := ih
      exact ⟨n + 1, rest, by rw [h]; rfl, head⟩
    · exact ⟨0, c :: cs, rfl, by simpa using h⟩

theorem layout (cs : List Char) : Layout cs := by
  obtain ⟨n, rest, runs, head⟩ := run_of_slashes cs
  rw [runs]
  match rest, runs, head with
  | [], _, _ => exact (List.append_nil (List.replicate n '\\')).symm ▸ Layout.slashes n
  | c :: rest, runs, head =>
    cases h : tag? (c :: rest) with
    | none => exact .plain n (by simpa using head) h (layout rest)
    | some tagged =>
      obtain ⟨body, behind⟩ := tagged
      obtain ⟨whole, d, inner, rfl, opens, plain⟩ := written_of_tag? h
      have shorter : behind.length < (c :: rest).length := by
        rw [whole]
        simp [written]
        omega
      rw [whole]
      exact .tag n opens plain (layout behind)
termination_by cs.length
decreasing_by
  all_goals
    rw [runs, List.length_append]
    simp only [List.length_cons] at *
    omega

/-! ### Pieces along a layout -/

/-- Puts a text in front of the pieces. -/
def consAll (text : List Char) (ps : List Piece) : List Piece := text.foldr cons ps

/-- Fuel that is enough is enough. -/
theorem cut_enough {fuel fuel' : Nat} {cs : List Char} (h : cs.length < fuel)
    (h' : cs.length < fuel') : cut fuel cs = cut fuel' cs := by
  induction fuel generalizing fuel' cs with
  | zero => omega
  | succ fuel ih =>
    obtain ⟨fuel', rfl⟩ : ∃ n, fuel' = n + 1 := ⟨fuel' - 1, by omega⟩
    cases cs with
    | nil => rfl
    | cons c cs =>
      simp only [List.length_cons] at h h'
      unfold cut
      dsimp only
      cases tagged : tag? ((c :: cs).drop ((c :: cs).takeWhile (· = '\\')).length) with
      | none => exact congrArg (cons c) (ih (by omega) (by omega))
      | some tag =>
        obtain ⟨body, rest⟩ := tag
        have shorter := congrArg List.length (written_of_tag? tagged).1
        simp only [written, List.length_drop, List.length_cons, List.length_append,
          List.length_nil] at shorter
        exact congrArg _ (ih (by omega) (by omega))

/-- The pieces of a text, by its first character. -/
theorem pieces_cons (c : Char) (cs : List Char) :
    pieces (c :: cs) =
      match tag? ((c :: cs).drop ((c :: cs).takeWhile (· = '\\')).length) with
      | some (body, rest) =>
        .tag ((c :: cs).takeWhile (· = '\\')).length body :: pieces rest
      | none => cons c (pieces cs) := by
  unfold pieces
  rw [show cut ((c :: cs).length + 1) (c :: cs) = _ from by unfold cut; rfl]
  dsimp only
  cases tagged : tag? ((c :: cs).drop ((c :: cs).takeWhile (· = '\\')).length) with
  | none => rfl
  | some tag =>
    obtain ⟨body, rest⟩ := tag
    have shorter := congrArg List.length (written_of_tag? tagged).1
    simp only [written, List.length_drop, List.length_cons, List.length_append,
      List.length_nil] at shorter
    exact congrArg _ (cut_enough (by simp only [List.length_cons]; omega) (Nat.lt_succ_self _))

theorem takeWhile_slashes (n : Nat) {rest : List Char} (head : rest.head? ≠ some '\\') :
    (List.replicate n '\\' ++ rest).takeWhile (· = '\\') = List.replicate n '\\' := by
  rw [List.takeWhile_append_of_pos (fun c mem => by simpa using (List.mem_replicate.1 mem).2)]
  cases rest with
  | nil => simp
  | cons c rest => rw [List.takeWhile_cons_of_neg (by simpa using head), List.append_nil]

/-- A run of backslashes in front of a tag counts for the tag. -/
theorem pieces_tag (n : Nat) {c : Char} {body : List Char} (opens : opensBody c = true)
    (inner : ∀ d ∈ body, isInner d = true) (rest : List Char) :
    pieces (List.replicate n '\\' ++ (written (c :: body) ++ rest)) =
      .tag n (c :: body) :: pieces rest := by
  have run : (List.replicate n '\\' ++ (written (c :: body) ++ rest)).takeWhile (· = '\\') =
      List.replicate n '\\' := takeWhile_slashes n (by simp [written])
  have tagged : tag? ((List.replicate n '\\' ++ (written (c :: body) ++ rest)).drop n) =
      some (c :: body, rest) := by
    rw [List.drop_left' List.length_replicate]
    exact tag?_written opens inner rest
  cases whole : List.replicate n '\\' ++ (written (c :: body) ++ rest) with
  | nil => simp [written] at whole
  | cons d ds =>
    rw [whole] at run tagged
    rw [pieces_cons, run, List.length_replicate, tagged]

/-- Backslashes that stand in front of no tag are plain text. -/
theorem pieces_slashes (n : Nat) {rest : List Char} (head : rest.head? ≠ some '\\')
    (untagged : tag? rest = none) :
    pieces (List.replicate n '\\' ++ rest) = consAll (List.replicate n '\\') (pieces rest) := by
  induction n with
  | zero => rfl
  | succ n ih =>
    have run := takeWhile_slashes (n + 1) head
    rw [List.replicate_succ, List.cons_append] at run ⊢
    rw [pieces_cons, run]
    have behind : ('\\' :: (List.replicate n '\\' ++ rest)).drop
        ('\\' :: List.replicate n '\\').length = rest := by
      rw [← List.cons_append, List.drop_left]
    rw [behind, untagged]
    exact congrArg (cons '\\') ih

/-- A character that opens no tag is plain text. -/
theorem pieces_other {c : Char} {rest : List Char} (other : c ≠ '\\')
    (untagged : tag? (c :: rest) = none) : pieces (c :: rest) = cons c (pieces rest) := by
  rw [pieces_cons, List.takeWhile_cons_of_neg (by simpa using other), List.length_nil,
    List.drop_zero, untagged]

theorem pieces_plain (n : Nat) {c : Char} {rest : List Char} (other : c ≠ '\\')
    (untagged : tag? (c :: rest) = none) :
    pieces (List.replicate n '\\' ++ c :: rest) =
      consAll (List.replicate n '\\') (cons c (pieces rest)) := by
  rw [pieces_slashes n (by simpa using other) untagged, pieces_other other untagged]

/-! ### Escaped texts -/

/-- The text with its tags made plain, whatever its end. -/
def disarmed (cs : List Char) : List Char := (pieces cs).flatMap Piece.escape

theorem disarmed_cons (c : Char) (ps : List Piece) :
    (cons c ps).flatMap Piece.escape = c :: ps.flatMap Piece.escape := by
  unfold cons
  split <;> rfl

theorem disarmed_consAll (text : List Char) (ps : List Piece) :
    (consAll text ps).flatMap Piece.escape = text ++ ps.flatMap Piece.escape := by
  induction text with
  | nil => rfl
  | cons c text ih => exact (disarmed_cons c _).trans (congrArg _ ih)

theorem disarmed_slashes (n : Nat) :
    disarmed (List.replicate n '\\') = List.replicate n '\\' := by
  have slashes : pieces (List.replicate n '\\' ++ []) = consAll (List.replicate n '\\') [] :=
    pieces_slashes n nofun rfl
  rw [List.append_nil] at slashes
  unfold disarmed
  rw [slashes, disarmed_consAll]
  exact List.append_nil _

theorem disarmed_tag (n : Nat) {c : Char} {body : List Char} (opens : opensBody c = true)
    (inner : ∀ d ∈ body, isInner d = true) (rest : List Char) :
    disarmed (List.replicate n '\\' ++ (written (c :: body) ++ rest)) =
      List.replicate (2 * n + 1) '\\' ++ (written (c :: body) ++ disarmed rest) := by
  unfold disarmed
  rw [pieces_tag n opens inner]
  exact List.append_assoc ..

theorem disarmed_plain (n : Nat) {c : Char} {rest : List Char} (other : c ≠ '\\')
    (untagged : tag? (c :: rest) = none) :
    disarmed (List.replicate n '\\' ++ c :: rest) =
      List.replicate n '\\' ++ c :: disarmed rest := by
  unfold disarmed
  rw [pieces_plain n other untagged, disarmed_consAll, disarmed_cons]

theorem find?_slashes (n : Nat) (rest : List Char) :
    (List.replicate n '\\' ++ rest).find? isBracket = rest.find? isBracket := by
  rw [List.find?_append, List.find?_eq_none.2]
  · rfl
  · intro c mem
    rw [(List.mem_replicate.1 mem).2]
    decide

/-- No bracket is lost or put in front of the first one. -/
theorem find?_disarmed (cs : List Char) :
    (disarmed cs).find? isBracket = cs.find? isBracket := by
  induction layout cs with
  | slashes n => rw [disarmed_slashes]
  | tag n opens inner h ih =>
    rw [disarmed_tag n opens inner, find?_slashes, find?_slashes]
    rfl
  | @plain n c rest other untagged h ih =>
    rw [disarmed_plain n other untagged, find?_slashes, find?_slashes]
    simp only [List.find?_cons, ih]

theorem isBracket_of_opensBody {c : Char} (opens : opensBody c = true) : isBracket c = false := by
  rw [Bool.eq_false_iff]
  intro bracket
  rcases (by simpa [isBracket] using bracket : c = '[' ∨ c = ']') with rfl | rfl <;>
    exact absurd opens (by decide)

/-- What follows may not close a bracket that the text has left open. -/
theorem tag?_disarmed {c : Char} {rest : List Char} (untagged : tag? (c :: rest) = none)
    {behind : List Char} (apart : behind.find? isBracket ≠ some ']') :
    tag? (c :: (disarmed rest ++ behind)) = none := by
  refine Option.eq_none_iff_forall_ne_some.2 fun tagged h => ?_
  obtain ⟨rfl, d, inner, starts, opens, closes⟩ := find?_of_tag? h
  -- no body starts with a backslash
  have slash (n : Nat) (tail : List Char) :
      List.replicate (n + 1) '\\' ++ tail ≠ d :: inner := by
    rw [List.replicate_succ, List.cons_append]
    rintro ⟨⟩
    exact absurd opens (by decide)
  have ahead : inner.find? isBracket ≠ behind.find? isBracket := closes ▸ apart.symm
  cases layout rest with
  | slashes n =>
    rw [disarmed_slashes] at starts
    cases n with
    | zero =>
      have : behind = d :: inner := starts
      rw [this, List.find?_cons_of_neg (by simp [isBracket_of_opensBody opens])] at ahead
      exact ahead rfl
    | succ n => exact slash n _ starts
  | tag n opens' inner' =>
    rw [disarmed_tag n opens' inner', List.append_assoc] at starts
    exact slash (2 * n) _ starts
  | @plain n c' rest' other untagged' =>
    rw [disarmed_plain n other untagged', List.append_assoc] at starts
    cases n with
    | succ n => exact slash n _ starts
    | zero =>
      obtain ⟨rfl, rfl⟩ : c' = d ∧ disarmed rest' ++ behind = inner := by simpa using starts
      rw [List.find?_append, find?_disarmed] at closes
      have within : rest'.find? isBracket = some ']' := by
        cases found : rest'.find? isBracket with
        | some b => rw [found] at closes; exact closes
        | none => rw [found] at closes; exact absurd closes apart
      exact tag?_of_find? opens within untagged

/-- What holds of pieces whatever text or powerless tag is put in front of them. -/
structure Closed (P : List Piece → Prop) : Prop where
  cons : ∀ c ps, P ps → P (Markup.cons c ps)
  tag : ∀ n body ps, P ps → P (.tag (2 * n + 1) body :: ps)

theorem Closed.consAll {P : List Piece → Prop} (closed : Closed P) (text : List Char)
    {ps : List Piece} (h : P ps) : P (Markup.consAll text ps) := by
  induction text with
  | nil => exact h
  | cons c text ih => exact closed.cons c _ ih

theorem pieces_disarmed_append {P : List Piece → Prop} (closed : Closed P) {behind : List Char}
    (apart : behind.find? isBracket ≠ some ']')
    (after : ∀ n, P (pieces (List.replicate n '\\' ++ behind))) (cs : List Char) :
    P (pieces (disarmed cs ++ behind)) := by
  induction layout cs with
  | slashes n =>
    rw [disarmed_slashes]
    exact after n
  | tag n opens inner h ih =>
    rw [disarmed_tag n opens inner, List.append_assoc, List.append_assoc,
      pieces_tag _ opens inner]
    exact closed.tag n _ _ ih
  | plain n other untagged h ih =>
    rw [disarmed_plain n other untagged, List.append_assoc, List.cons_append,
      pieces_plain n other (tag?_disarmed untagged apart)]
    exact closed.consAll _ (closed.cons _ _ ih)

/-- What holds of the pieces of all that may follow an escaped text holds of the escaped text with
it. -/
theorem pieces_escape_append {P : List Piece → Prop} (closed : Closed P) {behind : List Char}
    (apart : behind.find? isBracket ≠ some ']')
    (after : ∀ n, P (pieces (List.replicate n '\\' ++ behind))) (cs : List Char) :
    P (pieces (escape cs ++ behind)) := by
  unfold escape
  dsimp only
  split
  · rw [List.append_assoc]
    refine pieces_disarmed_append closed (find?_slashes 1 behind ▸ apart) (fun n => ?_) cs
    have more := after (n + 1)
    rw [List.replicate_succ', List.append_assoc] at more
    exact more
  · exact pieces_disarmed_append closed apart after cs

/-- To escape a text puts no bracket in front of its first one. -/
theorem find?_escape (cs : List Char) : (escape cs).find? isBracket = cs.find? isBracket := by
  unfold escape
  dsimp only
  split
  · show (disarmed cs ++ ['\\']).find? isBracket = _
    rw [List.find?_append, find?_disarmed]
    exact Option.or_none
  · exact find?_disarmed cs

/-! ### Reading -/

/-- No tag among the pieces has any power. -/
def Tame (ps : List Piece) : Prop :=
  ∀ p ∈ ps, match p with
    | .plain _ => True
    | .tag n _ => n % 2 = 1

theorem closed_tame : Closed Tame where
  cons c ps h := by
    unfold Markup.cons
    split
    · exact List.forall_mem_cons.2 ⟨trivial, (List.forall_mem_cons.1 h).2⟩
    · exact List.forall_mem_cons.2 ⟨trivial, h⟩
  tag n body ps h := List.forall_mem_cons.2 ⟨by show (2 * n + 1) % 2 = 1; omega, h⟩

/-- Pieces of which one closes what is written in red, and no other has any power. -/
def EndsRed (ps : List Piece) : Prop :=
  ∃ front n tail, ps = front ++ .tag n "/red".toList :: tail ∧ Tame front ∧ Tame tail

theorem closed_endsRed : Closed EndsRed where
  cons c ps := by
    rintro ⟨front, n, tail, rfl, tame, tame'⟩
    refine ⟨Markup.cons c front, n, tail, ?_, closed_tame.cons c front tame, tame'⟩
    cases front with
    | nil => rfl
    | cons p front => cases p <;> rfl
  tag n body ps := by
    rintro ⟨front, n', tail, rfl, tame, tame'⟩
    exact ⟨_ :: front, n', tail, rfl, closed_tame.tag n body front tame, tame'⟩

/-- Nothing is written in any style but red. -/
structure Reader.Red (r : Reader) : Prop where
  opened : ∀ o ∈ r.opened, o.style = "red" ∧ o.parameters = none
  spans : ∀ s ∈ r.spans, s.style = "red"

/-- Pieces without power open and close nothing. -/
theorem foldlM_tame {ps : List Piece} (tame : Tame ps) (r : Reader) :
    ∃ r', ps.foldlM Reader.step r = .ok r' ∧ r'.opened = r.opened ∧ r'.spans = r.spans := by
  induction ps generalizing r with
  | nil => exact ⟨r, rfl, rfl, rfl⟩
  | cons p ps ih =>
    obtain ⟨powerless, tame⟩ := List.forall_mem_cons.1 tame
    obtain ⟨u, step, opened, spans⟩ : ∃ u, r.step p = .ok u ∧ u.opened = r.opened ∧
        u.spans = r.spans := by
      cases p with
      | plain text => exact ⟨_, rfl, rfl, rfl⟩
      | tag n body =>
        unfold Reader.step
        simp only [if_pos (show n % 2 = 1 from powerless)]
        exact ⟨_, rfl, rfl, rfl⟩
    obtain ⟨r', reads, same⟩ := ih tame u
    refine ⟨r', ?_, same.1.trans opened, same.2.trans spans⟩
    rw [List.foldlM_cons, step]
    exact reads

def ownStyles : List String := ["red", "yellow", "green", "bold red", "dim"]

theorem parse?_own {style : String} (own : style ∈ ownStyles) :
    ∃ s, Style.parse? style = .ok s := by
  have known : ∀ style ∈ ownStyles, (Style.parse? style).toOption.isSome = true := by decide +kernel
  have parses := known style own
  cases h : Style.parse? style with
  | ok s => exact ⟨s, rfl⟩
  | error f =>
    rw [h] at parses
    cases parses

/-- The innermost tag that is open is closed, if it names one of these styles. -/
theorem close_own {r : Reader} {style : String} {start : Nat} {rest : List Opened}
    (own : style ∈ ownStyles) (opened : r.opened = ⟨style, none, start⟩ :: rest) :
    r.close ⟨style, none, start⟩ =
      .ok { r with opened := rest, spans := ⟨start, r.length, style⟩ :: r.spans } := by
  have left : r.opened.erase ⟨style, none, start⟩ = rest := by
    rw [opened, List.erase_cons_head]
  have quiet : Opened.isAction ⟨style, none, start⟩ = false := by
    have quiet : ∀ style ∈ ownStyles, decide (style.toList.head? = some '@') = false := by decide
    exact quiet style own
  unfold Reader.close
  simp only [Opened.wrong?, left, quiet]
  rfl

/-- The tag of red text opens it. -/
theorem step_red {r : Reader} (red : r.Red) :
    ∃ r', r.step (.tag 0 "red".toList) = .ok r' ∧ r'.Red ∧ r'.opened ≠ [] := by
  unfold Reader.step Reader.take
  simp only
  refine ⟨_, rfl, ⟨?_, red.spans⟩, List.cons_ne_nil _ _⟩
  exact List.forall_mem_cons.2 ⟨⟨rfl, rfl⟩, red.opened⟩

/-- The innermost red text that is open is closed by its tag. -/
theorem take_endRed {r : Reader} {start : Nat} {rest : List Opened}
    (opened : r.opened = ⟨"red", none, start⟩ :: rest) :
    r.take "/red".toList =
      .ok { r with opened := rest, spans := ⟨start, r.length, "red"⟩ :: r.spans } := by
  have closes : r.take "/red".toList = r.close ⟨"red", none, start⟩ := by
    cases r
    cases opened
    rfl
  exact closes.trans (close_own (by decide) opened)

/-- The tag that closes red text can be read where some is open. -/
theorem step_endRed {r : Reader} (red : r.Red) (n : Nat) (nonempty : r.opened ≠ []) :
    ∃ r', r.step (.tag n "/red".toList) = .ok r' ∧ r'.Red := by
  unfold Reader.step
  by_cases odd : n % 2 = 1
  · simp only [if_pos odd]
    exact ⟨_, rfl, red.opened, red.spans⟩
  · simp only [if_neg odd]
    obtain ⟨⟨style, parameters, start⟩, rest, opened⟩ := List.exists_cons_of_ne_nil nonempty
    obtain ⟨⟨rfl, rfl⟩, others⟩ := List.forall_mem_cons.1 (opened ▸ red.opened)
    rw [take_endRed (r := { r.put (List.replicate (n / 2) '\\') with position := r.position + n })
      opened]
    exact ⟨_, rfl, others, List.forall_mem_cons.2 ⟨rfl, red.spans⟩⟩

theorem foldlM_append {ps qs : List Piece} {r r' : Reader}
    (first : ps.foldlM Reader.step r = .ok r') :
    (ps ++ qs).foldlM Reader.step r = qs.foldlM Reader.step r' := by
  rw [List.foldlM_append, first]
  rfl

/-- Pieces that end red text can be read where some is open. -/
theorem foldlM_endsRed {ps : List Piece} (ends : EndsRed ps) {r : Reader} (red : r.Red)
    (nonempty : r.opened ≠ []) : ∃ r', ps.foldlM Reader.step r = .ok r' ∧ r'.Red := by
  obtain ⟨front, n, tail, rfl, tame, tame'⟩ := ends
  obtain ⟨u, reads, opened, spans⟩ := foldlM_tame tame r
  have red' : u.Red := ⟨opened ▸ red.opened, spans ▸ red.spans⟩
  obtain ⟨v, closes, red''⟩ := step_endRed red' n (opened ▸ nonempty)
  obtain ⟨r', reads', opened', spans'⟩ := foldlM_tame tame' v
  refine ⟨r', ?_, opened' ▸ red''.opened, spans' ▸ red''.spans⟩
  rw [foldlM_append reads, List.foldlM_cons, closes]
  exact reads'

/-! ### Messages -/

/-- Red text, which the pieces end. -/
theorem read_red {cs : List Char} (ends : EndsRed (pieces cs)) :
    ∃ shown, read ("[red]".toList ++ cs) = .ok shown ∧ ∀ s ∈ shown.spans, s.style = "red" := by
  have opens : pieces ("[red]".toList ++ cs) = .tag 0 "red".toList :: pieces cs :=
    @pieces_tag 0 'r' "ed".toList rfl (by simp; decide) cs
  have start : Reader.Red {} := ⟨nofun, nofun⟩
  obtain ⟨u, opened, red, nonempty⟩ := step_red start
  obtain ⟨r, reads, red⟩ := foldlM_endsRed ends red nonempty
  refine ⟨r.finish, ?_, ?_⟩
  · unfold read
    rw [opens, List.foldlM_cons, opened]
    show (do let r ← (pieces cs).foldlM Reader.step u; pure r.finish) = _
    rw [reads]
    rfl
  · intro s mem
    rcases List.mem_append.1 mem with mem | mem
    · obtain ⟨o, there, rfl⟩ := List.mem_map.1 (List.mem_reverse.1 mem)
      obtain ⟨style, parameters⟩ := red.opened o there
      unfold Opened.asked
      rw [parameters]
      exact style
    · exact red.spans s mem

theorem mapM_ok {α β : Type} {f : α → Except Fault β} {xs : List α}
    (h : ∀ x ∈ xs, ∃ y, f x = .ok y) : ∃ ys, xs.mapM f = .ok ys := by
  induction xs with
  | nil => exact ⟨[], rfl⟩
  | cons x xs ih =>
    obtain ⟨⟨y, first⟩, rest⟩ := List.forall_mem_cons.1 h
    obtain ⟨ys, others⟩ := ih rest
    refine ⟨y :: ys, ?_⟩
    rw [List.mapM_cons, first]
    show (do let ys ← xs.mapM f; pure (y :: ys)) = _
    rw [others]
    rfl

/-- What is read as text in these styles can be printed. -/
theorem markupText_of_read {s : String} {shown : Shown} (reads : read s.toList = .ok shown)
    (own : ∀ span ∈ shown.spans, span.style ∈ ownStyles) : ∃ text, markupText s = .ok text := by
  have known : ∀ style ∈ stylesInUse shown (wrap .fold consoleWidth shown.text),
      ∃ s, Style.parse? style = .ok s := by
    intro style mem
    unfold stylesInUse at mem
    obtain ⟨span, there, rfl⟩ := List.mem_map.1 mem
    exact parse?_own (own span (List.mem_mergeSort.1 (List.mem_filter.1 there).1))
  obtain ⟨styles, parsed⟩ := mapM_ok known
  unfold markupText
  rw [reads]
  show ∃ text, (do
    let _ ← (stylesInUse shown (wrap .fold consoleWidth shown.text)).mapM Style.parse?
    pure (linesText (wrap .fold consoleWidth shown.text))) = .ok text
  rw [parsed]
  exact ⟨_, rfl⟩

/-- A message in red can be printed. -/
theorem markupText_of_endsRed {s : String} {cs : List Char}
    (whole : s.toList = "[red]".toList ++ cs) (ends : EndsRed (pieces cs)) :
    ∃ text, markupText s = .ok text := by
  obtain ⟨shown, reads, red⟩ := read_red ends
  refine markupText_of_read (whole ▸ reads) fun span mem => ?_
  rw [red span mem]
  exact List.mem_cons_self

theorem pieces_text {text : List Char} (plain : ∀ c ∈ text, c ≠ '\\' ∧ c ≠ '[')
    (rest : List Char) : pieces (text ++ rest) = consAll text (pieces rest) := by
  induction text with
  | nil => rfl
  | cons c text ih =>
    obtain ⟨⟨slash, bracket⟩, plain⟩ := List.forall_mem_cons.1 plain
    rw [List.cons_append, pieces_other slash (tag?_other bracket _), ih plain]
    rfl

theorem pieces_endRed (n : Nat) (rest : List Char) :
    pieces (List.replicate n '\\' ++ ("[/red]".toList ++ rest)) =
      .tag n "/red".toList :: pieces rest :=
  @pieces_tag n '/' "red".toList rfl (by simp; decide) rest

/-- An escaped text has no power. -/
theorem tame_escape (cs : List Char) : Tame (pieces (escape cs)) := by
  have after (n : Nat) : Tame (pieces (List.replicate n '\\' ++ [])) := by
    rw [pieces_slashes n (by simp) rfl]
    exact closed_tame.consAll _ (show Tame (pieces []) by rintro _ ⟨⟩)
  have tame : Tame (pieces (escape cs ++ [])) :=
    pieces_escape_append closed_tame (by decide) after cs
  rwa [List.append_nil] at tame

/-- An escaped text in front of the end of red text leaves that end its power, or takes it away. -/
theorem endsRed_escape (cs : List Char) : EndsRed (pieces (escape cs ++ "[/red]".toList)) := by
  refine pieces_escape_append closed_endsRed (by decide) (fun n => ?_) cs
  have ends := pieces_endRed n []
  rw [List.append_nil] at ends
  exact ⟨[], n, [], ends, nofun, nofun⟩

/-! ### Styled texts -/

/-- The tag of a style opens it. -/
theorem step_own {style : String} (own : style ∈ ownStyles) (r : Reader) :
    ∃ r' start, r.step (.tag 0 style.toList) = .ok r' ∧
      r'.opened = ⟨style, none, start⟩ :: r.opened ∧ r'.spans = r.spans := by
  simp only [ownStyles, List.mem_cons, List.not_mem_nil, or_false] at own
  rcases own with rfl | rfl | rfl | rfl | rfl <;> exact ⟨_, _, rfl, rfl, rfl⟩

/-- What is open last is closed, by no name or its own. -/
theorem step_closes {r : Reader} {style : String} {start : Nat} {rest : List Opened}
    (own : style ∈ ownStyles) (opened : r.opened = ⟨style, none, start⟩ :: rest)
    {body : List Char} (names : body = "/".toList ∨ body = "/dim".toList ∧ style = "dim") :
    ∃ r' stop, r.step (.tag 0 body) = .ok r' ∧ r'.opened = rest ∧
      r'.spans = ⟨start, stop, style⟩ :: r.spans := by
  let u : Reader := { r.put [] with position := r.position + 0 }
  have closes : u.take body = u.close ⟨style, none, start⟩ := by
    rcases names with rfl | ⟨rfl, rfl⟩ <;> (cases r; cases opened; rfl)
  have step : r.step (.tag 0 body) = (u.take body).map fun after =>
      { after with position := u.position + body.length + 2 } := by
    show (u.take body >>= fun after => _) = _
    cases u.take body <;> rfl
  rw [step, closes, close_own (r := u) own opened]
  exact ⟨_, _, rfl, rfl, rfl⟩

/-- Plain text in front of a tag opens and closes nothing. -/
theorem foldlM_consAll (text : List Char) (n : Nat) (body : List Char) (ps : List Piece)
    (r : Reader) : ∃ r', (consAll text (.tag n body :: ps)).foldlM Reader.step r =
      (Piece.tag n body :: ps).foldlM Reader.step r' ∧
        r'.opened = r.opened ∧ r'.spans = r.spans := by
  obtain ⟨front, split, tame⟩ : ∃ front,
      consAll text (.tag n body :: ps) = front ++ .tag n body :: ps ∧ Tame front := by
    induction text with
    | nil => exact ⟨[], rfl, nofun⟩
    | cons c text ih =>
      obtain ⟨front, split, tame⟩ := ih
      refine ⟨Markup.cons c front, ?_, closed_tame.cons c front tame⟩
      show Markup.cons c (consAll text (.tag n body :: ps)) = _
      rw [split]
      cases front with
      | nil => rfl
      | cons p front => cases p <;> rfl
  obtain ⟨r', reads, opened, spans⟩ := foldlM_tame tame r
  exact ⟨r', by rw [split, foldlM_append reads], opened, spans⟩

/-- A bare text in a style, in front of others. -/
theorem foldlM_styled {style : String} (own : style ∈ ownStyles) (text : List Char)
    {body : List Char} (names : body = "/".toList ∨ body = "/dim".toList ∧ style = "dim")
    (ps : List Piece) (r : Reader) :
    ∃ r' span, (Piece.tag 0 style.toList :: consAll text (.tag 0 body :: ps)).foldlM
        Reader.step r = ps.foldlM Reader.step r' ∧
      r'.opened = r.opened ∧ r'.spans = span :: r.spans ∧ span.style = style := by
  obtain ⟨u, start, opens, opened, spans⟩ := step_own own r
  obtain ⟨v, reads, opened', spans'⟩ := foldlM_consAll text 0 body ps u
  obtain ⟨r', stop, closes, opened'', spans''⟩ :=
    step_closes own (opened'.trans opened) names
  refine ⟨r', ⟨start, stop, style⟩, ?_, opened'', ?_, rfl⟩
  · rw [List.foldlM_cons, opens]
    show (consAll text (.tag 0 body :: ps)).foldlM Reader.step u = _
    rw [reads, List.foldlM_cons, closes]
    rfl
  · rw [spans'', spans', spans]

theorem pieces_style {style : String} (own : style ∈ ownStyles) (rest : List Char) :
    pieces ("[".toList ++ style.toList ++ "]".toList ++ rest) =
      .tag 0 style.toList :: pieces rest := by
  simp only [ownStyles, List.mem_cons, List.not_mem_nil, or_false] at own
  rcases own with rfl | rfl | rfl | rfl | rfl <;>
    exact pieces_tag 0 (by decide) (List.all_eq_true.1 (by decide)) rest

theorem pieces_end (rest : List Char) :
    pieces ("[/]".toList ++ rest) = .tag 0 "/".toList :: pieces rest :=
  @pieces_tag 0 '/' [] rfl nofun rest

theorem pieces_endDim (rest : List Char) :
    pieces ("[/dim]".toList ++ rest) = .tag 0 "/dim".toList :: pieces rest :=
  @pieces_tag 0 '/' "dim".toList rfl (List.all_eq_true.1 (by decide)) rest

end Markup

open Markup

/-- **A title in red with a quoted text behind it can be printed**, whatever the text. -/
theorem markupText_title {title : String} (plain : ∀ c ∈ title.toList, c ≠ '\\' ∧ c ≠ '[')
    (s : String) : ∃ text, markupText ("[red]" ++ title ++ "[/red] " ++ escaped s) = .ok text := by
  have whole : ("[red]" ++ title ++ "[/red] " ++ escaped s).toList =
      "[red]".toList ++ (title.toList ++ ("[/red]".toList ++ ([' '] ++ escape s.toList))) := by
    simp [escaped]
  refine markupText_of_endsRed whole ?_
  rw [pieces_text plain, show "[/red]".toList ++ ([' '] ++ escape s.toList) =
    List.replicate 0 '\\' ++ ("[/red]".toList ++ ([' '] ++ escape s.toList)) from rfl,
    pieces_endRed,
    pieces_text (by simp)]
  exact closed_endsRed.consAll _ ⟨[], 0, _, rfl, nofun, closed_tame.cons _ _ (tame_escape _)⟩

/-- **Two quoted texts can be printed in red**, if the first bracket of the latter is an opening
one. -/
theorem markupText_red_two {title : String} (plain : ∀ c ∈ title.toList, c ≠ '\\' ∧ c ≠ '[')
    (s t : String) (apart : t.toList.find? isBracket ≠ some ']') :
    ∃ text, markupText ("[red]" ++ title ++ escaped s ++ ": " ++ escaped t ++ "[/red]") =
      .ok text := by
  have whole : ("[red]" ++ title ++ escaped s ++ ": " ++ escaped t ++ "[/red]").toList =
      "[red]".toList ++ (title.toList ++
        (escape s.toList ++ (":".toList ++ (" ".toList ++ (escape t.toList ++ "[/red]".toList)))))
      := by
    simp [escaped]
  have ends : EndsRed (pieces (" ".toList ++ (escape t.toList ++ "[/red]".toList))) := by
    rw [pieces_text (by simp)]
    exact closed_endsRed.consAll _ (endsRed_escape _)
  refine markupText_of_endsRed whole ?_
  rw [pieces_text plain]
  refine closed_endsRed.consAll _ (pieces_escape_append closed_endsRed ?_ (fun n => ?_) _)
  · show (escape t.toList ++ "[/red]".toList).find? isBracket ≠ some ']'
    rw [List.find?_append, find?_escape]
    cases first : t.toList.find? isBracket with
    | none => decide
    | some c => rwa [first] at apart
  · show EndsRed (pieces (List.replicate n '\\' ++ ':' :: _))
    rw [pieces_plain n (by decide) (tag?_other (by decide) _)]
    exact closed_endsRed.consAll _ (closed_endsRed.cons _ _ ends)

/-- **A bare text can be printed in a style.** -/
theorem markupText_styled {style text : String} (own : style ∈ ownStyles) (bare : IsBare text) :
    ∃ shown, markupText ("[" ++ style ++ "]" ++ text ++ "[/]") = .ok shown := by
  have whole : pieces ("[" ++ style ++ "]" ++ text ++ "[/]").toList =
      .tag 0 style.toList :: consAll text.toList [.tag 0 "/".toList] := by
    simp only [String.toList_append, List.append_assoc]
    rw [← List.append_assoc, ← List.append_assoc, pieces_style own, pieces_text bare]
    exact congrArg (fun ps => _ :: consAll _ ps) (pieces_end [])
  obtain ⟨r, span, reads, opened, spans, rfl⟩ :=
    foldlM_styled own text.toList (.inl rfl) [] {}
  refine markupText_of_read (show read _ = .ok r.finish from ?_) ?_
  · unfold Markup.read
    rw [whole, reads]
    rfl
  · intro s mem
    unfold Reader.finish at mem
    rw [opened, spans] at mem
    rw [List.mem_singleton.1 mem]
    exact own

/-- **And another one can be dimmed behind it.** -/
theorem markupText_dimmed {style text size : String} (own : style ∈ ownStyles)
    (bare : IsBare text) (bare' : IsBare size) :
    ∃ shown, markupText
      ("[" ++ style ++ "]" ++ text ++ "[/]" ++ "  [dim]" ++ size ++ "[/dim]") = .ok shown := by
  have whole : pieces
      ("[" ++ style ++ "]" ++ text ++ "[/]" ++ "  [dim]" ++ size ++ "[/dim]").toList =
        .tag 0 style.toList :: consAll text.toList (.tag 0 "/".toList ::
          consAll "  ".toList (.tag 0 "dim".toList ::
            consAll size.toList [.tag 0 "/dim".toList])) := by
    simp only [String.toList_append, List.append_assoc]
    rw [← List.append_assoc, ← List.append_assoc, pieces_style own, pieces_text bare, pieces_end]
    refine congrArg (fun ps => _ :: consAll _ (_ :: ps)) ?_
    show pieces ("  ".toList ++ ("[".toList ++ "dim".toList ++ "]".toList ++ _)) = _
    rw [pieces_text (by decide : IsBare "  "), pieces_style (by decide), pieces_text bare']
    exact congrArg (fun ps => consAll _ (_ :: consAll _ ps)) (pieces_endDim [])
  obtain ⟨u, span, reads, opened, spans, rfl⟩ := foldlM_styled own text.toList (.inl rfl)
    (consAll "  ".toList (.tag 0 "dim".toList :: consAll size.toList [.tag 0 "/dim".toList])) {}
  obtain ⟨v, skips, opened', spans'⟩ := foldlM_consAll "  ".toList 0 "dim".toList
    (consAll size.toList [.tag 0 "/dim".toList]) u
  obtain ⟨r, dim, reads', opened'', spans'', dims⟩ := foldlM_styled
    (show "dim" ∈ ownStyles by decide) size.toList (.inr ⟨rfl, rfl⟩) [] v
  refine markupText_of_read (show read _ = .ok r.finish from ?_) ?_
  · unfold Markup.read
    rw [whole, reads, skips, reads']
    rfl
  · intro s mem
    unfold Reader.finish at mem
    rw [opened'', opened', opened, spans'', spans', spans] at mem
    rcases List.mem_cons.1 mem with rfl | mem
    · rw [dims]
      decide
    · rw [List.mem_singleton.1 mem]
      exact own

/-! ### What markup fails with -/

section

variable {β γ : Type}

theorem unowned_error {f : Fault} (h : f.isOwn = false ∧ f.isWorded = true) :
    Unowned (.error f : Except Fault β) := by
  rintro g ⟨⟩
  exact h

theorem unowned_mapM {f : β → Except Fault γ} (h : ∀ b, Unowned (f b)) (bs : List β) :
    Unowned (bs.mapM f) := by
  induction bs with
  | nil => exact unowned_pure _
  | cons b bs ih =>
    rw [List.mapM_cons]
    exact unowned_bind (h b) fun _ => unowned_bind ih fun _ => unowned_pure _

theorem unowned_foldlM {f : γ → β → Except Fault γ} (h : ∀ c b, Unowned (f c b)) (bs : List β)
    (c : γ) : Unowned (bs.foldlM f c) := by
  induction bs generalizing c with
  | nil => exact unowned_pure _
  | cons b bs ih =>
    rw [List.foldlM_cons]
    exact unowned_bind (h c b) ih

end

theorem unowned_colourPart (ds : List Char) : Unowned (colourPart ds) := by
  unfold colourPart
  split
  · exact unowned_error ⟨rfl, rfl⟩
  · split
    · exact unowned_error ⟨rfl, rfl⟩
    · exact unowned_pure _

theorem unowned_isMixedColour (cs : List Char) : Unowned (isMixedColour cs) := by
  unfold isMixedColour
  split
  · dsimp only
    split
    · exact unowned_bind (unowned_mapM unowned_colourPart _) fun _ => unowned_pure _
    · exact unowned_pure _
  · exact unowned_pure _

theorem unowned_colourName? (word : String) : Unowned (colourName? word) := by
  unfold colourName?
  dsimp only
  split
  · exact unowned_pure _
  · exact unowned_bind (unowned_isMixedColour _) fun _ => unowned_pure _

theorem Style.unowned_ofWords? (s : Style) (words : List String) : Unowned (s.ofWords? words) := by
  fun_induction ofWords? s words with
  | case1 => exact unowned_pure _
  | case2 _ _ _ _ _ ih =>
    refine unowned_bind (unowned_colourName? _) fun name => ?_
    cases name with
    | none => exact unowned_pure _
    | some name => exact ih name
  | case3 _ _ _ _ _ _ _ ih => exact ih
  | case4 => exact unowned_pure _
  | case5 _ _ _ _ _ ih => exact ih
  | case6 _ _ _ _ _ _ _ _ ih => exact ih
  | case7 _ _ _ _ _ _ _ ih =>
    refine unowned_bind (unowned_colourName? _) fun name => ?_
    cases name with
    | none => exact unowned_pure _
    | some name => exact ih name

theorem Style.unowned_parse? (text : String) : Unowned (Style.parse? text) := by
  unfold Style.parse?
  split
  · exact unowned_pure _
  · exact unowned_ofWords? _ _

theorem unowned_normalStyle (text : String) : Unowned (normalStyle text) := by
  unfold normalStyle
  refine unowned_bind (Style.unowned_parse? text) fun parsed => ?_
  cases parsed <;> exact unowned_pure _

namespace Markup

theorem unowned_wrong {o : Opened} {f : Fault} (h : o.wrong? = some f) :
    f.isOwn = false ∧ f.isWorded = true := by
  unfold Opened.wrong? at h
  split at h
  · split at h
    · unfold Opened.wrongParameters? at h
      obtain ⟨text, -, wrong⟩ := Option.bind_eq_some_iff.1 h
      split at wrong <;> cases wrong <;> exact ⟨rfl, rfl⟩
    · cases h
  · cases h

theorem unowned_close (r : Reader) (o : Opened) : Unowned (r.close o) := by
  unfold Reader.close
  split
  next wrong => exact unowned_error (unowned_wrong wrong)
  next =>
    dsimp only
    split <;> exact unowned_pure _

theorem unowned_take (r : Reader) (body : List Char) : Unowned (r.take body) := by
  unfold Reader.take
  dsimp only
  split
  · split
    · split
      · exact unowned_close _ _
      · exact unowned_error ⟨rfl, rfl⟩
    · refine unowned_bind (unowned_normalStyle _) fun _ => ?_
      split
      · exact unowned_close _ _
      · exact unowned_error ⟨rfl, rfl⟩
  · exact unowned_bind (unowned_normalStyle _) fun _ => unowned_pure _

theorem unowned_step (r : Reader) (p : Piece) : Unowned (r.step p) := by
  cases p with
  | plain text => exact unowned_pure _
  | tag n body =>
    unfold Reader.step
    dsimp only
    split
    · exact unowned_bind (unowned_pure _) fun _ => unowned_pure _
    · exact unowned_bind (unowned_take _ _) fun _ => unowned_pure _

end Markup

/-- **Markup fails with faults that are none of the playground's own.** -/
theorem unowned_markupText (s : String) : Unowned (markupText s) := by
  unfold markupText Markup.read
  refine unowned_bind ?_ fun _ => unowned_bind (unowned_mapM Style.unowned_parse? _) fun _ =>
    unowned_pure _
  exact unowned_bind (unowned_foldlM Markup.unowned_step _ _) fun _ => unowned_pure _

/-- **The console can be relied on.** -/
theorem printer_quotes : printer.Quotes where
  titled _ t bare := markupText_title bare t
  quoted _ s t bare apart := markupText_red_two bare s t apart
  styled _ own _ bare :=
    markupText_styled (List.mem_cons_of_mem _ (List.mem_append_left ["dim"] own)) bare
  dimmed _ own _ _ bare bare' :=
    markupText_dimmed (List.mem_cons_of_mem _ (List.mem_append_left ["dim"] own)) bare bare'
  unowned := unowned_markupText

end Playground.Console
