import Mathlib.Data.List.TakeWhile
import Playground.Config.Settings
import Playground.Proofs.Precedence

/-!
# What becomes of bad configuration

The settings are read key after key, and the first value that cannot be used ends the reading. Its
fault is one of the configuration, but for three kinds of trouble: a file that nobody can find out
about, a text of digits that is no integer, and a value that has no written form.

* `Wanted` — what a value has to be; `Wanted.accepts` — which values are.
* `Wanted.baffles` — the values that are not what is wanted, and for which there are no words; how
  deep a value may be that has some is up to the resolver.
* `Resolver.firstMiss` — the first key, in the order of the reading, that has nothing to use.
* `Reads` — a reading ends at its first miss; `reads_bind` — readings in a row.
* `resolveSettings_heeded_iff` — when bad configuration is told as such.
-/

namespace Playground.Config

open Playground.Decimal Playground.Text

/-! ### What is wanted -/

/-- What is wanted under a key. -/
inductive Wanted where
  /-- How much the log shows; a key that cannot be resolved will do. -/
  | level
  | truth
  | integer
  /-- An integer that is at least one. -/
  | positive
  /-- A text that is not empty. -/
  | text
  | mode
  deriving DecidableEq, Repr

def integerIn? : Value → Option Int
  | .int i => some i
  | .str s =>
    let ds := strip s.toList
    if !ds.isEmpty && ds.all isDecimalDigit && ds.length ≤ maxDigits then some (ofDigits ds)
    else none
  | _ => none

namespace Wanted

def accepts (w : Wanted) (v : Value) : Bool :=
  match w, v with
  | level, v => (levelOf v).toOption.isSome
  | truth, v => (boolOf? v).isSome
  | integer, v => (integerIn? v).isSome
  | positive, v => (integerIn? v).any (1 ≤ ·)
  | text, .str s => trimmed s ≠ ""
  | mode, .str s => trimmed s ≠ "" && (CompileMode.ofName? (toLower (trimmed s))).isSome
  | _, _ => false

/-- Is a value that cannot be used shown by the fault that says so? -/
def shows (w : Wanted) : Bool := w = truth || w = integer || w = positive

/-- Are there no words for a value that cannot be used, where `room` collections may lie within one
another? A text of digits is taken for an integer before it is read as one, and a value is written
before the fault is. -/
def baffles (room : Nat) (w : Wanted) : Value → Bool
  | .str s =>
    let ds := strip s.toList
    (w = integer || w = positive) && !ds.isEmpty && ds.all isDigitLike &&
      (integerIn? (.str s)).isNone
  | .int _ => false
  | v => w.shows && (v.written room).toOption.isNone

def misses (w : Wanted) (answer : Except Fault (Value × Source)) : Bool :=
  match w, answer with
  | level, .error (.config _ _) => false
  | _, .error _ => true
  | w, .ok (v, _) => !w.accepts v

/-- An answer with nothing to use that is not told as bad configuration: a file is in the way that
nobody can find out about, or there are no words for the value. -/
def Baffled (room : Nat) (w : Wanted) (answer : Except Fault (Value × Source)) : Prop :=
  match answer with
  | .error f => ∃ (problem : DiskProblem) (path : Path), f = problem.fault path
  | .ok (v, _) => w.baffles room v = true

end Wanted

/-- A fault is one of the configuration, unless something baffles; then it is none of those that
count as configuration. -/
inductive Tells (baffled : Prop) : Fault → Prop
  | told (clear : ¬ baffled) (message : String) (suggestion : Option String) :
    Tells baffled (.config message suggestion)
  | astray {f : Fault} (baffles : baffled) (notConfig : ∀ m s, f ≠ .config m s)
    (notMissing : ∀ k, f ≠ .missingKey k) : Tells baffled f

theorem Tells.congr {p q : Prop} {f : Fault} (h : Tells p f) (same : p ↔ q) : Tells q f :=
  propext same ▸ h

/-- The first key that has nothing to use. -/
def Resolver.firstMiss (r : Resolver) (readings : List (String × Wanted)) :
    Option (String × Wanted) :=
  readings.find? fun e => e.2.misses (r.answer e.1)

/-! ### Lookups leave the answers as they are -/

namespace Resolver

variable {r : Resolver} {key : String}

theorem held_toOption (look : File → Except Fault Value) (kept : Option Value) (f : File) :
    f.held look (f.held look kept).toOption = f.held look kept := by
  cases kept with
  | some v => rfl
  | none =>
    show f.held look (look f).toOption = look f
    cases h : look f with
    | ok v => rfl
    | error fault => exact h

/-- What a lookup loads was there to be found before. -/
theorem answer_resolve (r : Resolver) (key key' : String) :
    (resolve key' r).2.answer key = r.answer key := by
  have same : r = r.keep r.user.loaded r.system.loaded := rfl
  rw [same, resolve_keep, answer_keep, answer_keep]
  split <;> split <;> simp only [held_toOption]

/-- A lookup that finds nothing to answer is a matter of configuration, or of a file that nobody can
find out about. -/
theorem answer_error {f : Fault} (h : r.answer key = .error f) :
    (∃ m s, f = .config m s) ∨ ∃ (problem : DiskProblem) (path : Path), f = problem.fault path := by
  have present {file : File} {f : Fault} (h : file.held File.present file.loaded = .error f) :
      (∃ m s, f = .config m s) ∨
        ∃ (problem : DiskProblem) (path : Path), f = problem.fault path := by
    have failed := (File.held_eq_error.1 h).2
    unfold File.present at failed
    split at failed
    next problem denied => exact .inr ⟨problem, _, (Except.error.inj failed).symm⟩
    next =>
      obtain ⟨reason, rfl⟩ := File.config_of_plain failed
      exact .inl ⟨_, _, rfl⟩
  have same : r = r.keep r.user.loaded r.system.loaded := rfl
  rw [same, answer_keep] at h
  rcases firstOf_eq_error.1 h with ⟨-, user⟩ | ⟨-, system⟩ | ⟨rfl, -⟩
  · exact present user
  · exact present system
  · exact .inl ⟨_, _, rfl⟩

theorem tells_error (room : Nat) (w : Wanted) {f : Fault} (h : r.answer key = .error f) :
    Tells (w.Baffled room (.error f)) f := by
  rcases answer_error h with ⟨m, s, rfl⟩ | ⟨problem, path, rfl⟩
  · refine .told ?_ m s
    rintro ⟨problem, path, eq⟩
    cases eq
  · exact .astray ⟨problem, path, rfl⟩ (fun _ _ eq => by cases eq) fun _ eq => by cases eq

end Resolver

/-! ### Readings -/

/-- A reading looks the keys up in this order, and ends at the first that has nothing to use; its
fault is one of the configuration unless the answer is baffling. -/
structure Reads {β : Type} (readings : List (String × Wanted)) (Q : β → Prop) (l : Lookup β) :
    Prop where
  keeps : ∀ r key, (l r).2.answer key = r.answer key
  room : ∀ r, (l r).2.room = r.room
  found : ∀ r, r.firstMiss readings = none → ∃ b, (l r).1 = .ok b ∧ Q b
  missed : ∀ r key w, r.firstMiss readings = some (key, w) →
    ∃ f, (l r).1 = .error f ∧ Tells (w.Baffled r.room (r.answer key)) f

section

variable {β γ : Type} {readings readings' : List (String × Wanted)} {Q : β → Prop} {Q' : γ → Prop}

theorem Reads.pure (b : β) (h : Q b) : Reads [] Q (pure b : Lookup β) where
  keeps _ _ := rfl
  room _ := rfl
  found _ _ := ⟨b, rfl, h⟩
  missed _ _ _ := nofun

theorem firstMiss_congr {r r' : Resolver} (same : ∀ key, r'.answer key = r.answer key) :
    r'.firstMiss readings = r.firstMiss readings := by
  unfold Resolver.firstMiss
  simp only [same]

/-- **Readings in a row**: the latter begins where the former had all that it wanted. -/
theorem Reads.bind {l : Lookup β} {next : β → Lookup γ} (h : Reads readings Q l)
    (h' : ∀ b, Q b → Reads readings' Q' (next b)) :
    Reads (readings ++ readings') Q' (l >>= next) := by
  have onward (r : Resolver) (none : r.firstMiss readings = none) :
      ∃ b, Q b ∧ (l >>= next) r = next b (l r).2 := by
    obtain ⟨b, found, q⟩ := h.found r none
    refine ⟨b, q, ?_⟩
    rw [Lookup.bind_apply, show l r = (.ok b, (l r).2) from Prod.ext found rfl]
  have stop (r : Resolver) {key : String} {w : Wanted}
      (some : r.firstMiss readings = some (key, w)) :
      ∃ f, (l >>= next) r = (.error f, (l r).2) ∧
        Tells (w.Baffled r.room (r.answer key)) f := by
    obtain ⟨f, missed, tells⟩ := h.missed r key w some
    refine ⟨f, ?_, tells⟩
    rw [Lookup.bind_apply, show l r = (.error f, (l r).2) from Prod.ext missed rfl]
  have split (r : Resolver) : r.firstMiss (readings ++ readings') =
      (r.firstMiss readings).or (r.firstMiss readings') := List.find?_append
  refine ⟨fun r key => ?_, fun r => ?_, fun r none => ?_, fun r key w some => ?_⟩
  · cases first : r.firstMiss readings with
    | none =>
      obtain ⟨b, q, eq⟩ := onward r first
      rw [eq, (h' b q).keeps, h.keeps]
    | some miss =>
      obtain ⟨f, eq, -⟩ := stop r first
      rw [eq]
      exact h.keeps r key
  · cases first : r.firstMiss readings with
    | none =>
      obtain ⟨b, q, eq⟩ := onward r first
      rw [eq, (h' b q).room, h.room]
    | some miss =>
      obtain ⟨f, eq, -⟩ := stop r first
      rw [eq]
      exact h.room r
  · rw [split, Option.or_eq_none_iff] at none
    obtain ⟨b, q, eq⟩ := onward r none.1
    rw [eq]
    exact (h' b q).found _ ((firstMiss_congr (h.keeps r)).trans none.2)
  · rw [split] at some
    cases first : r.firstMiss readings with
    | none =>
      rw [first, Option.none_or] at some
      obtain ⟨b, q, eq⟩ := onward r first
      rw [eq, ← h.keeps r key, ← h.room r]
      exact (h' b q).missed _ key w ((firstMiss_congr (h.keeps r)).trans some)
    | some miss =>
      rw [first] at some
      cases some
      obtain ⟨f, eq, tells⟩ := stop r first
      exact ⟨f, by rw [eq], tells⟩

/-- **Which readings succeed or are a matter of configuration**: those whose first miss does not
baffle. -/
theorem Reads.heeded_iff {l : Lookup β} (h : Reads readings Q l) (r : Resolver) :
    ((∃ b, (l r).1 = .ok b ∧ Q b) ∨
        ∃ message suggestion, (l r).1 = .error (.config message suggestion)) ↔
      ∀ key wanted, r.firstMiss readings = some (key, wanted) →
        ¬ wanted.Baffled r.room (r.answer key) := by
  cases first : r.firstMiss readings with
  | none => exact iff_of_true (.inl (h.found r first)) nofun
  | some miss =>
    obtain ⟨key, wanted⟩ := miss
    obtain ⟨f, missed, tells⟩ := h.missed r key wanted first
    rw [missed]
    cases tells with
    | told clear m s =>
      refine iff_of_true (.inr ⟨m, s, rfl⟩) fun key' wanted' eq => ?_
      cases eq
      exact clear
    | astray baffles notConfig =>
      refine iff_of_false ?_ fun clear => clear key wanted rfl baffles
      rintro (⟨b, found, -⟩ | ⟨m, s, eq⟩)
      · cases found
      · exact notConfig m s (Except.error.inj eq)

theorem firstMiss_single (r : Resolver) (key : String) (w : Wanted) :
    r.firstMiss [(key, w)] = if w.misses (r.answer key) then some (key, w) else none := by
  unfold Resolver.firstMiss
  rw [List.find?_cons, List.find?_nil]
  cases w.misses (r.answer key) <;> rfl

/-- A reading of one key, whose answer is judged by itself. -/
theorem reads_judged (key : String) {w : Wanted} (other : w ≠ .level)
    (judge : Nat → Value × Source → Except Fault β) {next : Value × Source → Lookup β}
    (judges : ∀ p r, next p r = (judge r.room p, r))
    (good : ∀ room v source, w.accepts v = true → ∃ b, judge room (v, source) = .ok b ∧ Q b)
    (bad : ∀ room v source, w.accepts v = false →
      ∃ f, judge room (v, source) = .error f ∧ Tells (w.baffles room v = true) f) :
    Reads [(key, w)] Q (resolve key >>= next) := by
  have kept (r : Resolver) : (resolve key r).2.room = r.room := by rw [resolve_eq]
  have result (r : Resolver) : ((resolve key >>= next) r).2 = (resolve key r).2 ∧
      ((resolve key >>= next) r).1 = (r.answer key).bind (judge r.room) := by
    rw [Lookup.bind_apply, Resolver.answer, ← kept r]
    rcases resolve key r with ⟨f | p, r'⟩
    · exact ⟨rfl, rfl⟩
    · dsimp only
      rw [judges]
      exact ⟨rfl, rfl⟩
  refine ⟨fun r key' => ?_, fun r => ?_, fun r none => ?_, fun r key' w' some => ?_⟩
  · rw [(result r).1]
    exact Resolver.answer_resolve r key' key
  · rw [(result r).1]
    exact kept r
  · rw [firstMiss_single] at none
    rw [(result r).2]
    cases answer : r.answer key with
    | error f =>
      rw [answer] at none
      cases w <;> first | exact absurd rfl other | cases none
    | ok p =>
      obtain ⟨v, source⟩ := p
      have accepted : w.accepts v = true := by
        rw [answer] at none
        cases accepts : w.accepts v with
        | true => rfl
        | false => cases w <;> simp [Wanted.misses, accepts] at none
      exact good r.room v source accepted
  · rw [firstMiss_single] at some
    split at some
    next misses =>
      cases some
      rw [(result r).2]
      cases answer : r.answer key with
      | error f => exact ⟨f, rfl, Resolver.tells_error r.room w answer⟩
      | ok p =>
        obtain ⟨v, source⟩ := p
        have refused : w.accepts v = false := by
          rw [answer] at misses
          cases w <;> simpa [Wanted.misses] using misses
        exact bad r.room v source refused
    next => cases some

/-! ### The readings -/

/-- A fault that shows a value is one of the configuration unless the value has no written form. -/
theorem tells_unsuitable (room : Nat) (key wanted : String) (v : Value) (source : Source) :
    Tells ((v.written room).toOption.isNone = true) (unsuitable room key wanted v source) := by
  unfold unsuitable complaint
  cases v.written room with
  | ok shown => exact .told (by simp [Except.toOption]) _ _
  | error why => exact .astray rfl (fun _ _ eq => by cases eq) (fun _ eq => by cases eq)

theorem written_str (room : Nat) (s : String) : (Value.str s).written room = .ok (quote s) := by
  unfold Value.written
  simp only [Value.writtenIn]

/-- The truth in the value of a key, or the fault of a value that holds none. -/
def truthOf (key : String) (room : Nat) (p : Value × Source) : Except Fault Bool :=
  match boolOf? p.1 with
  | some b => .ok b
  | none => .error (unsuitable room key "a bool" p.1 p.2)

theorem reads_truth (key : String) : Reads [(key, .truth)] (fun _ => True) (resolveBool key) := by
  refine reads_judged key (by decide) (truthOf key) (fun p r => ?_) (fun room v source h => ?_)
    fun room v source h => ?_
  · obtain ⟨v, source⟩ := p
    unfold truthOf
    cases known : boolOf? v <;> simp only [known] <;> rfl
  · obtain ⟨b, known⟩ := Option.isSome_iff_exists.1 (show (boolOf? v).isSome = true from h)
    exact ⟨b, by simp only [truthOf, known], trivial⟩
  · have unknown : boolOf? v = none := by
      simpa [Wanted.accepts] using h
    refine ⟨unsuitable room key "a bool" v source, by simp only [truthOf, unknown], ?_⟩
    refine (tells_unsuitable room key "a bool" v source).congr ?_
    cases v with
    | str s => simp [Wanted.baffles, written_str, Except.toOption]
    | int i => cases unknown
    | _ => simp [Wanted.baffles, Wanted.shows]

/-- Digits make an integer if all of them are decimal and they are not too many. -/
theorem numberOfDigits_of_decimal {ds : List Char} (decimal : ds.all isDecimalDigit = true)
    (short : ds.length ≤ maxDigits) : numberOfDigits ds = .ok (ofDigits ds) := by
  have run : ds.takeWhile isDecimalDigit = ds :=
    List.takeWhile_eq_self_iff.2 (List.all_eq_true.1 decimal)
  unfold numberOfDigits
  simp only [run, Nat.not_lt.2 short, Nat.lt_irrefl, if_false]

theorem numberOfDigits_of_not {ds : List Char}
    (not : ¬ (ds.all isDecimalDigit = true ∧ ds.length ≤ maxDigits)) :
    ∃ f, numberOfDigits ds = .error f ∧ Tells True f := by
  unfold numberOfDigits
  dsimp only
  split
  next => exact ⟨_, rfl, .astray trivial nofun nofun⟩
  next few =>
    split
    next => exact ⟨_, rfl, .astray trivial nofun nofun⟩
    next whole =>
      refine absurd ⟨?_, ?_⟩ not
      · have run := (List.takeWhile_prefix isDecimalDigit).eq_of_length
          (Nat.le_antisymm (List.takeWhile_prefix _).length_le (Nat.not_lt.1 whole))
        exact List.all_eq_true.2 (List.takeWhile_eq_self_iff.1 run)
      · exact (Nat.not_lt.1 whole).trans (Nat.not_lt.1 few)

/-- The integer in the value of a key, or the fault of a value that holds none. -/
def intOf (key : String) (room : Nat) (p : Value × Source) : Except Fault Int :=
  match p.1 with
  | .bool _ => .error (complaint key "an int" "bool" p.2)
  | .int i => .ok i
  | .str s =>
    let ds := strip s.toList
    if !ds.isEmpty && ds.all isDigitLike then (numberOfDigits ds).map Int.ofNat
    else .error (unsuitable room key "an int" (.str s) p.2)
  | v => .error (unsuitable room key "an int" v p.2)

theorem resolveInt_eq (key : String) :
    ∃ next : Value × Source → Lookup Int, resolveInt key = resolve key >>= next ∧
      ∀ p r, next p r = (intOf key r.room p, r) := by
  refine ⟨_, rfl, fun p r => ?_⟩
  obtain ⟨v, source⟩ := p
  unfold intOf
  cases v with
  | str s =>
    dsimp only
    split
    · cases numberOfDigits (strip s.toList) <;> rfl
    · rfl
  | _ => rfl

theorem intOf_of_some {key : String} {room : Nat} {v : Value} {source : Source} {i : Int}
    (h : integerIn? v = some i) : intOf key room (v, source) = .ok i := by
  unfold integerIn? at h
  split at h
  next => cases h; rfl
  next s =>
    dsimp only at h
    split at h
    next fine =>
      simp only [Bool.and_eq_true, decide_eq_true_eq] at fine
      obtain ⟨⟨nonempty, decimal⟩, short⟩ := fine
      have digits : (strip s.toList).all isDigitLike = true :=
        List.all_eq_true.2 fun c mem => by
          simp [isDigitLike, List.all_eq_true.1 decimal c mem]
      cases h
      unfold intOf
      simp only [nonempty, digits, Bool.and_self, if_true,
        numberOfDigits_of_decimal decimal short]
      rfl
    next => cases h
  next => cases h

theorem intOf_of_none (key : String) (room : Nat) {v : Value} (source : Source)
    (h : integerIn? v = none) {w : Wanted} (hw : w = .integer ∨ w = .positive) :
    ∃ f, intOf key room (v, source) = .error f ∧ Tells (w.baffles room v = true) f := by
  have shows : w.shows = true := by rcases hw with rfl | rfl <;> rfl
  cases v with
  | int i => cases h
  | bool b =>
    refine ⟨_, rfl, .told ?_ _ _⟩
    have written : ((Value.bool b).written room).toOption.isNone = false := by
      unfold Value.written
      simp only [Value.writtenIn]
      rfl
    simp [Wanted.baffles, written]
  | str s =>
    have baffles : w.baffles room (.str s) =
        (!(strip s.toList).isEmpty && (strip s.toList).all isDigitLike) := by
      rcases hw with rfl | rfl <;> simp [Wanted.baffles, h]
    rw [baffles]
    unfold intOf
    dsimp only
    split
    next digits =>
      have not : ¬ ((strip s.toList).all isDecimalDigit = true ∧
          (strip s.toList).length ≤ maxDigits) := by
        rintro ⟨decimal, short⟩
        rw [integerIn?] at h
        simp only [Bool.and_eq_true] at digits
        simp [decimal, short, digits.1] at h
      obtain ⟨f, fails, tells⟩ := numberOfDigits_of_not not
      rw [fails]
      exact ⟨f, rfl, tells.congr (iff_of_true trivial digits)⟩
    next none =>
      exact ⟨_, rfl, (tells_unsuitable room key "an int" (.str s) source).congr
        (iff_of_false (by simp [written_str, Except.toOption]) none)⟩
  | _ =>
    exact ⟨_, rfl, (tells_unsuitable room key "an int" _ source).congr
      (by simp [Wanted.baffles, shows])⟩

theorem reads_integer (key : String) :
    Reads [(key, .integer)] (fun _ => True) (resolveInt key) := by
  obtain ⟨next, eq, judges⟩ := resolveInt_eq key
  rw [eq]
  refine reads_judged key (by decide) (intOf key) judges (fun room v source h => ?_)
    fun room v source h => ?_
  · obtain ⟨i, known⟩ := Option.isSome_iff_exists.1 (show (integerIn? v).isSome = true from h)
    exact ⟨i, intOf_of_some known, trivial⟩
  · have unknown : integerIn? v = none := by simpa [Wanted.accepts] using h
    exact intOf_of_none key room source unknown (.inl rfl)

def atLeastOne (message : String) (i : Int) : Except Fault Int :=
  if i < 1 then .error (.config message none) else .ok i

theorem reads_positive (key message : String) :
    Reads [(key, .positive)] (1 ≤ ·)
      (resolveInt key >>= fun i r => (atLeastOne message i, r)) := by
  obtain ⟨next, eq, judges⟩ := resolveInt_eq key
  have assoc : (resolveInt key >>= fun i r => (atLeastOne message i, r)) =
      resolve key >>= fun p r => ((intOf key r.room p).bind (atLeastOne message), r) := by
    rw [eq, bind_assoc]
    congr 1
    funext p r
    rw [Lookup.bind_apply, judges]
    cases intOf key r.room p <;> rfl
  rw [assoc]
  refine reads_judged key (by decide) (fun room p => (intOf key room p).bind (atLeastOne message))
    (fun _ _ => rfl) (fun room v source h => ?_) fun room v source h => ?_
  · obtain ⟨i, known, positive⟩ := (Option.any_eq_true _ _).1
      (show (integerIn? v).any (1 ≤ ·) = true from h)
    have enough : 1 ≤ i := of_decide_eq_true positive
    exact ⟨i, by simp [intOf_of_some known, Except.bind, atLeastOne, Int.not_lt.2 enough], enough⟩
  · cases known : integerIn? v with
    | none =>
      obtain ⟨f, fails, tells⟩ := intOf_of_none key room source known (.inr rfl)
      exact ⟨f, by rw [fails]; rfl, tells⟩
    | some i =>
      have few : i < 1 := by
        simpa [Wanted.accepts, known] using h
      refine ⟨.config message none, by simp [intOf_of_some known, Except.bind, atLeastOne, few],
        .told (fun baffles => ?_) _ _⟩
      cases v with
      | int i => cases baffles
      | str s => simp [Wanted.baffles, known] at baffles
      | _ => cases known

/-- The text in the value of a key, or the fault of a value that is none or empty. -/
def textOf (key : String) (p : Value × Source) : Except Fault String :=
  match p.1 with
  | .str s =>
    if trimmed s = "" then
      .error (.config ("Config key '" ++ key ++ "' must not be empty") none)
    else .ok (trimmed s)
  | v => .error (notText key v)

theorem resolveText_eq (key : String) :
    ∃ next : Value × Source → Lookup String, resolveText key = resolve key >>= next ∧
      ∀ p r, next p r = (textOf key p, r) := by
  refine ⟨_, rfl, fun p r => ?_⟩
  obtain ⟨v, source⟩ := p
  unfold textOf
  cases v with
  | str s =>
    dsimp only
    split <;> rfl
  | _ => rfl

theorem textOf_of_str {key s : String} {source : Source} (h : trimmed s ≠ "") :
    textOf key (.str s, source) = .ok (trimmed s) := if_neg h

/-- A text that will not do is always told as bad configuration. -/
theorem textOf_of_not (key : String) (v : Value) (source : Source)
    (h : ∀ s, v = .str s → trimmed s = "") :
    ∃ m, textOf key (v, source) = .error (.config m none) := by
  cases v with
  | str s => exact ⟨_, if_pos (h s rfl)⟩
  | _ => exact ⟨_, rfl⟩

theorem baffles_quiet {w : Wanted} (h : w.shows = false) (room : Nat) (v : Value) :
    w.baffles room v = false := by
  have numberless : w ≠ .integer ∧ w ≠ .positive := by
    constructor <;> rintro rfl <;> cases h
  cases v <;> simp [Wanted.baffles, h, numberless]

theorem reads_text (key : String) : Reads [(key, .text)] (fun _ => True) (resolveText key) := by
  obtain ⟨next, eq, judges⟩ := resolveText_eq key
  rw [eq]
  refine reads_judged key (by decide) (fun _ => textOf key) judges (fun room v source h => ?_)
    fun room v source h => ?_
  · cases v with
    | str s => exact ⟨_, textOf_of_str (of_decide_eq_true h), trivial⟩
    | _ => cases h
  · obtain ⟨m, fails⟩ := textOf_of_not key v source fun s eq => by
      subst eq
      simpa [Wanted.accepts] using h
    exact ⟨_, fails, .told (by simp [baffles_quiet (w := .text) rfl]) _ _⟩

def modeOf (name : String) : Except Fault CompileMode :=
  match CompileMode.ofName? (toLower name) with
  | some mode => .ok mode
  | none =>
    .error (.config ("Invalid 'compile_mode': " ++ quote (toLower name) ++ ". Allowed values: " ++
      ", ".intercalate (CompileMode.all.map CompileMode.name)) none)

theorem reads_mode : Reads [("compile_mode", .mode)] (fun _ => True) resolveMode := by
  obtain ⟨next, eq, judges⟩ := resolveText_eq "compile_mode"
  have assoc : resolveMode =
      resolve "compile_mode" >>= fun p r => ((textOf "compile_mode" p).bind modeOf, r) := by
    unfold resolveMode
    rw [eq, bind_assoc]
    congr 1
    funext p r
    rw [Lookup.bind_apply, judges]
    cases textOf "compile_mode" p with
    | error f => rfl
    | ok name =>
      simp only [Except.bind, modeOf]
      cases CompileMode.ofName? (toLower name) <;> rfl
  rw [assoc]
  refine reads_judged "compile_mode" (by decide) (fun _ p => (textOf "compile_mode" p).bind modeOf)
    (fun _ _ => rfl) (fun room v source h => ?_) fun room v source h => ?_
  · cases v with
    | str s =>
      simp only [Wanted.accepts, ne_eq, Bool.and_eq_true, decide_eq_true_eq] at h
      obtain ⟨mode, known⟩ := Option.isSome_iff_exists.1 h.2
      exact ⟨mode, by simp [textOf_of_str h.1, Except.bind, modeOf, known], trivial⟩
    | _ => cases h
  · suffices told : ∃ m, (textOf "compile_mode" (v, source)).bind modeOf =
        .error (.config m none) by
      obtain ⟨m, fails⟩ := told
      exact ⟨_, fails, .told (by simp [baffles_quiet (w := .mode) rfl]) _ _⟩
    by_cases named : ∃ s, v = .str s ∧ trimmed s ≠ ""
    · obtain ⟨s, rfl, some⟩ := named
      have unknown : CompileMode.ofName? (toLower (trimmed s)) = none := by
        simpa [Wanted.accepts, some] using h
      rw [textOf_of_str some]
      simp only [Except.bind, modeOf, unknown]
      exact ⟨_, rfl⟩
    · obtain ⟨m, fails⟩ := textOf_of_not "compile_mode" v source fun s eq =>
        by_contra fun some => named ⟨s, eq, some⟩
      exact ⟨m, by rw [fails]; rfl⟩

/-- A level that will not do is always told as bad configuration. -/
theorem levelOf_error {v : Value} {f : Fault} (h : levelOf v = .error f) :
    ∃ m, f = .config m none := by
  unfold levelOf at h
  split at h
  next s =>
    split at h
    next => cases h
    next => exact ⟨_, (Except.error.inj h).symm⟩
  next => exact ⟨_, (Except.error.inj h).symm⟩

/-- The verbosity for an answer: it is normal where the configuration keeps the key from being
resolved. -/
def levelFor : Except Fault (Value × Source) → Except Fault Verbosity
  | .ok (v, _) => levelOf v
  | .error (.config _ _) => .ok .normal
  | .error f => .error f

theorem reads_level : Reads [(levelKey, .level)] (fun _ => True) resolveLevel := by
  have result (r : Resolver) :
      resolveLevel r = (levelFor (r.answer levelKey), (resolve levelKey r).2) := by
    unfold resolveLevel Resolver.answer
    rcases resolve levelKey r with ⟨f | p, r'⟩
    · cases f <;> rfl
    · rfl
  refine ⟨fun r key => ?_, fun r => ?_, fun r none => ?_, fun r key w some => ?_⟩
  · rw [result]
    exact Resolver.answer_resolve r key levelKey
  · rw [result, resolve_eq]
  · rw [firstMiss_single] at none
    rw [result]
    cases answer : r.answer levelKey with
    | error f =>
      rw [answer] at none
      cases f with
      | config m s => exact ⟨_, rfl, trivial⟩
      | _ => cases none
    | ok p =>
      obtain ⟨v, source⟩ := p
      cases level : levelOf v with
      | ok b => exact ⟨b, level, trivial⟩
      | error f => simp [answer, Wanted.misses, Wanted.accepts, level, Except.toOption] at none
  · rw [firstMiss_single] at some
    split at some
    next misses =>
      cases some
      rw [result]
      cases answer : r.answer levelKey with
      | error f =>
        rw [answer] at misses
        refine ⟨f, ?_, Resolver.tells_error _ _ answer⟩
        cases f with
        | config m s => cases misses
        | _ => rfl
      | ok p =>
        obtain ⟨v, source⟩ := p
        cases level : levelOf v with
        | ok b => simp [answer, Wanted.misses, Wanted.accepts, level, Except.toOption] at misses
        | error f =>
          obtain ⟨m, rfl⟩ := levelOf_error level
          exact ⟨_, level,
            .told (by simp [Wanted.Baffled, baffles_quiet (w := .level) rfl]) _ _⟩
    next => cases some

/-! ### The settings -/

/-- What the settings want, in the order in which they are read. -/
def settingsReadings : List (String × Wanted) :=
  [("compile_mode", .mode), ("auto_compile_delay_ms", .integer),
    ("max_printing_errors", .positive), ("options.stdlib", .truth), ("options.validate", .truth),
    ("options.optimize", .truth), ("options.wide_address_mode", .truth), ("compiler", .text),
    ("notification_dismiss_ms", .integer)]

theorem reads_options :
    Reads [("options.stdlib", .truth), ("options.validate", .truth), ("options.optimize", .truth),
      ("options.wide_address_mode", .truth)] (fun _ => True) resolveOptions :=
  (reads_truth _).bind fun _ _ => (reads_truth _).bind fun _ _ => (reads_truth _).bind fun _ _ =>
    (reads_truth _).bind fun _ _ => .pure _ trivial

theorem resolveSettings_eq : resolveSettings =
    resolveMode >>= fun compileMode =>
    resolveInt "auto_compile_delay_ms" >>= fun autoCompileDelayMs =>
    (resolveInt "max_printing_errors" >>= fun i r =>
      (atLeastOne "Config key 'max_printing_errors' must be at least 1" i, r)) >>=
        fun maxPrintingErrors =>
    resolveOptions >>= fun options =>
    resolveText "compiler" >>= fun compiler =>
    resolveInt "notification_dismiss_ms" >>= fun notificationDismissMs =>
    pure { compiler, compileMode, autoCompileDelayMs, maxPrintingErrors, notificationDismissMs,
           options } := by
  unfold resolveSettings
  congr 1
  funext compileMode
  congr 1
  funext autoCompileDelayMs
  rw [bind_assoc]
  congr 1
  funext maxPrintingErrors r
  rw [Lookup.bind_apply]
  unfold atLeastOne
  split <;> rfl

/-- At least one diagnostic is shown. -/
theorem reads_settings :
    Reads settingsReadings (fun s : Settings => 1 ≤ s.maxPrintingErrors) resolveSettings := by
  rw [resolveSettings_eq]
  exact reads_mode.bind fun _ _ => (reads_integer _).bind fun _ _ =>
    (reads_positive _ _).bind fun _ enough => reads_options.bind fun _ _ =>
      (reads_text _).bind fun _ _ => (reads_integer _).bind fun _ _ => .pure _ enough

end

end Playground.Config
