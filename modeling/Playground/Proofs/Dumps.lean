import Mathlib.Algebra.Order.Floor.Div
import Playground.Compile.Outcome
import Playground.Proofs.Pieces

/-!
# Dumps are read back

A dump writes its bytes row by row, and every row says how many bytes stand before it. A reader
that knows nothing of the width finds all bytes in their order again, so that no two byte strings
have the same dump.

* `readRow?`, `readDump?` — the offset and the bytes of a row, and the rows of a text.
* `hexNat_eq_leftpad` — the digits of an offset, in the terms of the standard library.
* `Solid` — texts without the separators of rows and bytes.
* `flatten_take_chunksOf`, `length_chunksOf` — the pieces that a byte string is cut into.
* `Dumps` — a text holds these bytes, row by row.
* `hexDump_faithful` — what is dumped is read back.
-/

namespace Playground.Format

open Playground.Text

/-! ### Reading -/

def readHex? (cs : List Char) : Option Nat :=
  cs.foldlM (fun n c => (hexValue? c).map (16 * n + ·)) 0

def readByte? : List Char → Option UInt8
  | [high, low] => do pure (UInt8.ofNat (16 * (← hexValue? high) + (← hexValue? low)))
  | _ => none

structure Row where
  offset : Nat
  bytes : List UInt8
  deriving DecidableEq, Repr

/-- Reads an offset, two spaces and bytes with single spaces between them. -/
def readRow? (cs : List Char) : Option Row :=
  match splitOn ' ' cs with
  | offset :: [] :: bytes => do pure ⟨← readHex? offset, ← bytes.mapM readByte?⟩
  | _ => none

/-- The rows of a text, with a line feed between neighbours; the empty text has none. -/
def rowTexts (text : String) : List (List Char) :=
  if text.toList = [] then [] else splitOn '\n' text.toList

def readDump? (text : String) : Option (List Row) := (rowTexts text).mapM readRow?

/-! ### Digits -/

theorem digitChar_eq_hexDigit {n : Nat} (h : n < 16) : n.digitChar = hexDigit n := by
  have table : ∀ k : Fin 16, k.val.digitChar = hexDigit k.val := by decide
  exact table ⟨n, h⟩

theorem toDigits_eq_hexDigits {n : Nat} (pos : 0 < n) : Nat.toDigits 16 n = hexDigits n := by
  induction n using Nat.strongRecOn with
  | ind n ih =>
    have last := digitChar_eq_hexDigit (Nat.mod_lt n (by decide : 0 < 16))
    rw [hexDigits, if_neg (by omega), Nat.toDigits_eq_if (by decide), last]
    split
    next small =>
      rw [Nat.div_eq_of_lt small, hexDigits, if_pos rfl, List.nil_append, Nat.mod_eq_of_lt small,
        digitChar_eq_hexDigit small]
    next big => rw [ih (n / 16) (by omega) (by omega)]

/-- The digits of a number in lower case, with zeros in front. -/
theorem hexNat_eq_leftpad {least : Nat} (pos : 0 < least) (n : Nat) :
    hexNat least n = (Nat.toDigits 16 n).leftpad least '0' := by
  unfold hexNat List.leftpad
  rcases Nat.eq_zero_or_pos n with rfl | some
  · -- zero has no digit in the one and one digit in the other
    obtain ⟨rest, rfl⟩ := Nat.exists_eq_add_of_lt pos
    rw [hexDigits, if_pos rfl, Nat.toDigits_zero]
    simp [List.replicate_succ']
  · rw [toDigits_eq_hexDigits some]

theorem readHex?_append_singleton (cs : List Char) (c : Char) :
    readHex? (cs ++ [c]) = (readHex? cs).bind fun n => (hexValue? c).map (16 * n + ·) := by
  simp [readHex?, List.foldlM_append]

@[simp] theorem readHex?_hexDigits (n : Nat) : readHex? (hexDigits n) = some n := by
  induction n using Nat.strongRecOn with
  | ind n ih =>
    rw [hexDigits]
    split
    next zero =>
      rw [zero]
      rfl
    next some =>
      rw [readHex?_append_singleton, ih (n / 16) (by omega),
        hexValue?_hexDigit (Nat.mod_lt n (by decide))]
      simp [Nat.div_add_mod]

@[simp] theorem readHex?_zeros (count : Nat) (cs : List Char) :
    readHex? (List.replicate count '0' ++ cs) = readHex? cs := by
  induction count with
  | zero => rfl
  | succ count ih =>
    rw [List.replicate_succ, List.cons_append, ← ih]
    have zero : hexValue? '0' = some 0 := by decide
    simp [readHex?, zero]

/-- **Offsets are read back**, however many digits they have. -/
theorem readHex?_hexNat (least n : Nat) : readHex? (hexNat least n) = some n := by
  simp [hexNat]

theorem readByte?_hexByte (b : UInt8) : readByte? (hexByte b) = some b := by
  have high : b.toNat / 16 < 16 := by
    have := b.toNat_lt
    omega
  have low : b.toNat % 16 < 16 := Nat.mod_lt _ (by decide)
  have whole : UInt8.ofNat (16 * (b.toNat / 16) + b.toNat % 16) = b := by
    rw [Nat.div_add_mod, UInt8.ofNat_toNat]
  simp only [hexByte, readByte?, hexValue?_hexDigit high, hexValue?_hexDigit low, bind,
    Option.bind, pure, whole]

/-- A list that was written member by member is read member by member. -/
theorem mapM_map_of_leftInverse {α β : Type} {write : α → β} {read : β → Option α} {xs : List α}
    (h : ∀ x ∈ xs, read (write x) = some x) : (xs.map write).mapM read = some xs := by
  induction xs with
  | nil => rfl
  | cons x xs ih =>
    obtain ⟨first, others⟩ := List.forall_mem_cons.1 h
    simp [first, ih others]

/-! ### Separators -/

/-- Neither a space nor a line feed stands in the text, so that it is cut nowhere. -/
def Solid (cs : List Char) : Prop := ∀ c ∈ cs, c ≠ ' ' ∧ c ≠ '\n'

theorem solid_hexDigit {n : Nat} (h : n < 16) : Solid [hexDigit n] := by
  have table : ∀ k : Fin 16, hexDigit k.val ≠ ' ' ∧ hexDigit k.val ≠ '\n' := by decide
  intro c hc
  rw [List.mem_singleton.1 hc]
  exact table ⟨n, h⟩

theorem Solid.append {cs ds : List Char} (left : Solid cs) (right : Solid ds) :
    Solid (cs ++ ds) :=
  fun c hc => (List.mem_append.1 hc).elim (left c) (right c)

theorem solid_hexDigits (n : Nat) : Solid (hexDigits n) := by
  induction n using Nat.strongRecOn with
  | ind n ih =>
    rw [hexDigits]
    split
    next => exact List.forall_mem_nil _
    next some => exact (ih (n / 16) (by omega)).append (solid_hexDigit (Nat.mod_lt n (by decide)))

theorem solid_hexNat (least n : Nat) : Solid (hexNat least n) := by
  refine Solid.append (fun c hc => ?_) (solid_hexDigits n)
  rw [List.eq_of_mem_replicate hc]
  decide

theorem solid_hexByte (b : UInt8) : Solid (hexByte b) := by
  have := b.toNat_lt
  exact (solid_hexDigit (by omega)).append (solid_hexDigit (Nat.mod_lt _ (by decide)))

/-! ### Rows -/

/-- A row as pieces between spaces; there is an empty one between the two spaces. -/
theorem hexRow_eq_joinWith (offset : Nat) {bytes : List UInt8} (some : bytes ≠ []) :
    hexRow offset bytes = joinWith [' '] (hexNat 8 offset :: [] :: bytes.map hexByte) := by
  obtain ⟨b, rest, rfl⟩ := List.exists_cons_of_ne_nil some
  simp [hexRow, spacedBytes, joinWith]

/-- **A row is read back.** -/
theorem readRow?_hexRow (offset : Nat) {bytes : List UInt8} (some : bytes ≠ []) :
    readRow? (hexRow offset bytes) = Option.some ⟨offset, bytes⟩ := by
  have pieces : splitOn ' ' (hexRow offset bytes) = hexNat 8 offset :: [] :: bytes.map hexByte := by
    rw [hexRow_eq_joinWith offset some]
    refine splitOn_joinWith (by simp) fun piece hp c hc => ?_
    simp only [List.mem_cons, List.mem_map] at hp
    obtain rfl | rfl | ⟨b, -, rfl⟩ := hp
    · exact (solid_hexNat 8 offset c hc).1
    · cases hc
    · exact (solid_hexByte b c hc).1
  have read := mapM_map_of_leftInverse fun b (_ : b ∈ bytes) => readByte?_hexByte b
  simp [readRow?, pieces, readHex?_hexNat, read]

theorem lineFeed_not_mem_hexRow (offset : Nat) (bytes : List UInt8) :
    ∀ c ∈ hexRow offset bytes, c ≠ '\n' := by
  intro c hc
  simp only [hexRow, List.mem_append, List.mem_cons] at hc
  obtain hc | rfl | rfl | hc := hc
  · exact (solid_hexNat 8 offset c hc).2
  · decide
  · decide
  · rcases mem_of_mem_joinWith hc with space | ⟨piece, hp, hc⟩
    · rw [List.mem_singleton.1 space]
      decide
    · obtain ⟨b, -, rfl⟩ := List.mem_map.1 hp
      exact (solid_hexByte b c hc).2

/-! ### Pieces -/

variable {α : Type} {w : Nat}

theorem chunksOf_nil : chunksOf w ([] : List α) = [] := by
  rw [chunksOf, dif_pos (Or.inl rfl)]

theorem chunksOf_of_ne_nil (pos : 0 < w) {xs : List α} (some : xs ≠ []) :
    chunksOf w xs = xs.take w :: chunksOf w (xs.drop w) := by
  rw [chunksOf, dif_neg (by simp [some, Nat.pos_iff_ne_zero.1 pos])]

/-- The first pieces hold the first members, `w` for each piece. -/
theorem flatten_take_chunksOf (pos : 0 < w) (xs : List α) (i : Nat) :
    ((chunksOf w xs).take i).flatten = xs.take (i * w) := by
  induction i generalizing xs with
  | zero => simp
  | succ i ih =>
    by_cases some : xs = []
    · simp [some, chunksOf_nil]
    · rw [chunksOf_of_ne_nil pos some, List.take_succ_cons, List.flatten_cons, ih, Nat.succ_mul,
        Nat.add_comm, List.take_add]

theorem length_chunksOf (pos : 0 < w) (xs : List α) :
    (chunksOf w xs).length = xs.length ⌈/⌉ w := by
  induction xs using chunksOf.induct w with
  | case1 xs none =>
    obtain rfl : xs = [] := none.resolve_right (Nat.pos_iff_ne_zero.1 pos)
    rw [chunksOf_nil]
    exact (zero_ceilDiv w).symm
  | case2 xs more ih =>
    have some : xs ≠ [] := fun none => more (Or.inl none)
    have one : 0 < xs.length := List.length_pos_of_ne_nil some
    rw [chunksOf_of_ne_nil pos some, List.length_cons, ih, List.length_drop]
    simp only [Nat.ceilDiv_eq_add_pred_div]
    -- the first piece is one more, also where it is short
    have shifted : xs.length + w - 1 = (xs.length - 1) + w := by omega
    rw [shifted, Nat.add_div_right _ pos]
    rcases Nat.lt_or_ge xs.length w with short | long
    · rw [Nat.sub_eq_zero_of_le short.le, Nat.zero_add, Nat.div_eq_of_lt (by omega),
        Nat.div_eq_of_lt (by omega)]
    · congr 2
      omega

theorem ne_nil_of_mem_chunksOf (pos : 0 < w) {xs piece : List α} (h : piece ∈ chunksOf w xs) :
    piece ≠ [] := by
  induction xs using chunksOf.induct w with
  | case1 xs none =>
    rw [chunksOf, dif_pos none] at h
    cases h
  | case2 xs more ih =>
    have some : xs ≠ [] := fun none => more (Or.inl none)
    rw [chunksOf_of_ne_nil pos some] at h
    rcases List.mem_cons.1 h with rfl | later
    · simp [some, Nat.pos_iff_ne_zero.1 pos]
    · exact ih later

theorem flatten_chunksOf (pos : 0 < w) (xs : List α) : (chunksOf w xs).flatten = xs := by
  have all := flatten_take_chunksOf pos xs (chunksOf w xs).length
  have enough : xs.length ≤ (chunksOf w xs).length * w := by
    rw [length_chunksOf pos, Nat.mul_comm]
    exact (ceilDiv_le_iff_le_mul pos).1 le_rfl
  rwa [List.take_length, List.take_of_length_le enough] at all

/-! ### Dumps -/

def dumpedRows (w : Nat) (data : List UInt8) : List Row :=
  (chunksOf w data).zipIdx.map fun (piece, i) => ⟨i * w, piece⟩

theorem hexRows_eq_map (w : Nat) (data : List UInt8) :
    hexRows w data = (dumpedRows w data).map fun row => hexRow row.offset row.bytes := by
  simp [hexRows, dumpedRows]

theorem bytes_dumpedRows (w : Nat) (data : List UInt8) :
    (dumpedRows w data).map Row.bytes = chunksOf w data := by
  simp [dumpedRows, Function.comp_def, List.zipIdx_map_fst]

theorem getElem?_dumpedRows {data : List UInt8} {i : Nat} {row : Row}
    (h : (dumpedRows w data)[i]? = some row) :
    row.offset = i * w ∧ i < (chunksOf w data).length := by
  rw [dumpedRows, List.getElem?_map, Option.map_eq_some_iff] at h
  obtain ⟨⟨piece, j⟩, found, rfl⟩ := h
  obtain ⟨inside, here⟩ := List.getElem?_eq_some_iff.1 found
  rw [List.getElem_zipIdx, Prod.mk.injEq] at here
  rw [List.length_zipIdx] at inside
  exact ⟨by rw [← here.2, Nat.zero_add], inside⟩

theorem rowTexts_dumpRows (w : Nat) (data : List UInt8) :
    rowTexts (dumpRows w data) = hexRows w data := by
  have row (text : List Char) (h : text ∈ hexRows w data) : ∃ o b, text = hexRow o b := by
    rw [hexRows_eq_map] at h
    obtain ⟨row, -, rfl⟩ := List.mem_map.1 h
    exact ⟨row.offset, row.bytes, rfl⟩
  unfold rowTexts dumpRows
  rw [String.toList_ofList]
  by_cases none : hexRows w data = []
  · rw [none]
    rfl
  · have split := splitOn_joinWith none fun text h c hc => by
      obtain ⟨o, b, rfl⟩ := row text h
      exact lineFeed_not_mem_hexRow o b c hc
    rw [if_neg, split]
    -- an empty text would be one empty row
    intro empty
    rw [empty] at split
    obtain ⟨o, b, blank⟩ := row [] (by rw [← split]; exact List.mem_cons_self)
    simp [hexRow] at blank

/-- The rows are read as they were before they were written. -/
theorem readDump?_dumpRows (pos : 0 < w) (data : List UInt8) :
    readDump? (dumpRows w data) = some (dumpedRows w data) := by
  rw [readDump?, rowTexts_dumpRows, hexRows_eq_map]
  refine mapM_map_of_leftInverse fun row hr => readRow?_hexRow row.offset ?_
  have piece : row.bytes ∈ chunksOf w data := by
    rw [← bytes_dumpedRows]
    exact List.mem_map_of_mem hr
  exact ne_nil_of_mem_chunksOf pos piece

/-- The text holds the bytes, `w` in each row: there are as many rows as it takes, a row begins
with the offset of its first byte in at least eight lower-case digits, and a reader finds all bytes
and as many of them before a row as the row says. -/
structure Dumps (text : String) (w : Nat) (data : List UInt8) : Prop where
  count : (rowTexts text).length = data.length ⌈/⌉ w
  opening : ∀ i row, (rowTexts text)[i]? = some row →
    (Nat.toDigits 16 (i * w)).leftpad 8 '0' ++ [' ', ' '] <+: row
  readBack : ∃ rows, readDump? text = some rows ∧ rows.flatMap Row.bytes = data ∧
    ∀ i row, rows[i]? = some row → row.offset = ((rows.take i).flatMap Row.bytes).length

theorem dumps_dumpRows (pos : 0 < w) (data : List UInt8) : Dumps (dumpRows w data) w data where
  count := by
    rw [rowTexts_dumpRows, hexRows_eq_map, List.length_map, ← length_chunksOf pos,
      ← bytes_dumpedRows, List.length_map]
  opening i text h := by
    rw [rowTexts_dumpRows, hexRows_eq_map, List.getElem?_map, Option.map_eq_some_iff] at h
    obtain ⟨row, found, rfl⟩ := h
    rw [← (getElem?_dumpedRows found).1, ← hexNat_eq_leftpad (by decide)]
    exact ⟨spacedBytes row.bytes, by simp [hexRow]⟩
  readBack := by
    have bytes (i : Nat) : ((dumpedRows w data).take i).flatMap Row.bytes = data.take (i * w) := by
      rw [List.flatMap_def, List.map_take, bytes_dumpedRows, flatten_take_chunksOf pos]
    refine ⟨dumpedRows w data, readDump?_dumpRows pos data, ?_, fun i row found => ?_⟩
    · rw [List.flatMap_def, bytes_dumpedRows, flatten_chunksOf pos]
    · obtain ⟨offset, inside⟩ := getElem?_dumpedRows found
      rw [length_chunksOf pos, lt_iff_lt_of_le_iff_le (ceilDiv_le_iff_le_mul pos)] at inside
      rw [bytes, offset, List.length_take, Nat.min_eq_left (by rw [Nat.mul_comm]; exact inside.le)]

theorem hexDump_of_pos (pos : 0 < w) (data : List UInt8) :
    hexDump data w = .ok (dumpRows w data) := by
  unfold hexDump
  rw [if_neg (by omega), if_neg (by omega), Int.toNat_natCast]

/-- **What is dumped is read back.** Every byte string has a dump of any width, which holds it row
by row; no two have the same one; and the view of a binary holds its bytes. -/
theorem hexDump_faithful {w : Nat} (one : 1 ≤ w) :
    (∀ data, ∃ text, hexDump data w = .ok text ∧ Dumps text w data) ∧
    Function.Injective (fun data => hexDump data w) ∧
    ∀ a : Artifact, Dumps (a.render .binary) dumpWidth a.binary := by
  refine ⟨fun data => ⟨_, hexDump_of_pos one data, dumps_dumpRows one data⟩, ?_, fun a => ?_⟩
  · intro data other same
    have texts : dumpRows w data = dumpRows w other := by
      simpa only [hexDump_of_pos one, Except.ok.injEq] using same
    obtain ⟨rows, read, bytes, -⟩ := (dumps_dumpRows one data).readBack
    obtain ⟨rows', read', bytes', -⟩ := (dumps_dumpRows one other).readBack
    rw [← texts, read, Option.some.injEq] at read'
    rw [← bytes, ← bytes', read']
  · exact dumps_dumpRows (by decide) a.binary

/-- The last row is short. -/
theorem hexDump_faithful_short :
    hexDump [10, 255, 16] (2 : Nat) = .ok "00000000  0a ff\n00000002  10" ∧
      Dumps "00000000  0a ff\n00000002  10" 2 [10, 255, 16] := by
  have two : 1 ≤ 2 := by decide
  obtain ⟨text, written, dumps⟩ := (hexDump_faithful two).1 [10, 255, 16]
  have pieces : chunksOf 2 [(10 : UInt8), 255, 16] = [[10, 255], [16]] := by
    rw [chunksOf_of_ne_nil two (by simp), chunksOf_of_ne_nil two (by simp)]
    exact congrArg _ (congrArg _ chunksOf_nil)
  have shown : hexDump [10, 255, 16] (2 : Nat) = .ok "00000000  0a ff\n00000002  10" := by
    rw [hexDump_of_pos two, dumpRows, hexRows, pieces]
    show Except.ok (String.ofList (hexRow 0 [10, 255] ++ ['\n'] ++ hexRow 2 [16])) = _
    rw [hexRow, hexRow, hexNat_eq_leftpad (by decide), hexNat_eq_leftpad (by decide)]
    rfl
  rw [shown, Except.ok.injEq] at written
  exact ⟨shown, written ▸ dumps⟩

end Playground.Format
