import Playground.Proofs.Commitments
import Playground.Proofs.Configuring

/-!
# Saving a binary

The command line saves the binary of a session in a folder that it makes where it has to, and says
so. Which printer says it does not matter.

* `Disk.read_of_write` — a file that was written holds what was written.
* `Saves` — a binary is saved, and this can be told.
* `save_cases` — a binary is saved, or the program ends with a fault.
-/

namespace Playground

/-! ### Files that were written -/

namespace Disk

variable {d d' : Disk} {here place : Path} {what : Stored} {bytes : List UInt8}

theorem find?_put (other : here ≠ place) :
    (d.put place what).entries.find? (fun e => e.1 = here) =
      d.entries.find? fun e => e.1 = here := by
  have last : [(place, what)].find? (fun e => e.1 = here) = none := by
    simp [Ne.symm other]
  have rest : (d.entries.filter fun e => e.1 ≠ place).find? (fun e => e.1 = here) =
      d.entries.find? fun e => e.1 = here := by
    rw [List.find?_filter]
    congr 1
    funext e
    by_cases at_ : e.1 = here <;> simp [at_, other]
  unfold put
  rw [List.find?_append, rest, last, Option.or_none]

/-- What lies inside a folder still lies there, or was put there anew. -/
theorem any_isInside_put (h : (d.entries.any fun e => isInside here e.1) = true) :
    ((d.put place what).entries.any fun e => isInside here e.1) = true := by
  obtain ⟨e, there, inside⟩ := List.any_eq_true.1 h
  refine List.any_eq_true.2 ?_
  by_cases same : e.1 = place
  · exact ⟨(place, what), List.mem_append_right _ (List.mem_singleton_self _), same ▸ inside⟩
  · exact ⟨e, List.mem_append_left _ (List.mem_filter.2 ⟨there, decide_eq_true same⟩), inside⟩

/-- To put something at a place removes no folder elsewhere. -/
theorem stored_put_of_folder (h : d.stored here = .folder) (other : here ≠ place) :
    (d.put place what).stored here = .folder := by
  unfold stored at h ⊢
  rw [find?_put other]
  split at h
  next given => rw [if_pos given]
  next lower =>
    rw [if_neg lower]
    split at h
    next => simp only [h]
    next =>
      split at h
      next inside => simp only [any_isInside_put inside, if_true]
      next => cases h

/-- The way to a place stays open when something is put at another place that is no folder. -/
theorem locateFrom_put {names : List String} {goal : Path} (file : d.stored place ≠ .folder)
    (h : d.locateFrom here names = .ok goal) :
    (d.put place what).locateFrom here names = .ok goal := by
  induction names generalizing here with
  | nil => exact h
  | cons name names ih =>
    unfold locateFrom at h ⊢
    cases there : d.stored here with
    | missing => simp [there] at h
    | file bytes => simp [there] at h
    | folder =>
      have other : here ≠ place := by
        rintro rfl
        exact file there
      rw [stored_put_of_folder there other]
      simp only [there] at h ⊢
      split at h
      · cases h
      next short =>
        rw [if_neg short]
        exact ih h

theorem locate_put {p goal : Path} (file : d.stored place ≠ .folder) (h : d.locate p = .ok goal) :
    (d.put place what).locate p = .ok goal := by
  unfold locate at h ⊢
  split at h
  · cases h
  next whole =>
    rw [if_neg whole]
    split at h
    · cases h
    next short =>
      rw [if_neg short]
      exact locateFrom_put file h

/-- Where a path leads that holds no null character and is not too long. -/
theorem locate_of_plain (d : Disk) {p : Path} (plain : '\x00' ∉ p.text.toList)
    (short : p.text.utf8ByteSize ≤ longestPath) :
    d.locate p = d.locateFrom { root := p.root } p.names := by
  unfold locate
  rw [String.contains_char_eq, decide_eq_false plain, if_neg Bool.false_ne_true,
    if_neg (Nat.not_lt.2 short)]

/-- A file is written at the place that its path leads to, where no folder lies. -/
theorem put_of_write {p : Path} (h : d.write p bytes = .ok d') :
    ∃ place, d.locate p = .ok place ∧ d.stored place ≠ .folder ∧
      d' = d.put place (.file bytes) := by
  unfold write at h
  cases found : d.locate p with
  | error problem =>
    rw [found] at h
    cases h
  | ok place =>
    rw [found, show (Except.ok place : Except DiskProblem Path) = pure place from rfl,
      pure_bind] at h
    refine ⟨place, rfl, ?_⟩
    cases there : d.stored place with
    | folder =>
      rw [there] at h
      cases h
    | file old =>
      rw [there] at h
      exact ⟨nofun, (Except.ok.inj h).symm⟩
    | missing =>
      rw [there] at h
      cases below : d.stored place.parent with
      | folder =>
        rw [below] at h
        exact ⟨nofun, (Except.ok.inj h).symm⟩
      | _ =>
        rw [below] at h
        cases h

/-- **A file that was written holds what was written.** -/
theorem read_of_write {p : Path} (h : d.write p bytes = .ok d') : d'.read p = .ok bytes := by
  obtain ⟨place, found, file, rfl⟩ := put_of_write h
  have lower : isGiven place = false := by
    refine Bool.eq_false_iff.2 fun given => file ?_
    unfold stored
    rw [if_pos given]
  unfold read
  rw [locate_put file found, show (Except.ok place : Except DiskProblem Path) = pure place from rfl,
    pure_bind, stored_put d place _ lower]
  rfl

end Disk

/-! ### Saving -/

namespace CommandLine

open Console

def exportFile (folder : Path) (e : BinaryExport) : Path := folder.join (Path.ofString e.filename)

/-- An export can be saved in a folder, which leaves another disk, and it can be told. -/
structure Saves (p : Printer) (d : Disk) (folder : Path) (e : BinaryExport) (d' : Disk)
    (said : String) : Prop where
  written : ∃ made, d.makeFolders folder = .ok made ∧
    made.write (exportFile folder e) e.payload = .ok d'
  told : p.markup ("Saved " ++ (exportFile folder e).text) = .ok said

/-- The file that was saved holds the binary. -/
theorem Saves.read {p : Printer} {d d' : Disk} {folder : Path} {e : BinaryExport} {said : String}
    (h : Saves p d folder e d' said) : d'.read (exportFile folder e) = .ok e.payload := by
  obtain ⟨made, -, writes⟩ := h.written
  exact Disk.read_of_write writes

theorem printMarkup_of_error {p : Printer} {s : String} {f : Fault} (h : p.markup s = .error f)
    (d : Desk) : printMarkup p s d = (.error f, d) := by
  unfold printMarkup
  rw [h]
  rfl

/-- **A binary is saved** where that can be done and told; otherwise the program ends with a fault
that is none of its own. -/
theorem save_cases {p : Printer} (quotes : p.Quotes) {s : Session Action} {e : BinaryExport}
    (h : s.export? = .ok e) (folder : Option Path) (d : Desk) :
    (∃ q disk said, folder = some q ∧ Saves p d.disk q e disk said ∧ save p s folder d =
      (.ok (), { d with disk, board := { d.board with out := d.board.out ++ said } })) ∨
    (∀ q disk said, folder = some q → ¬ Saves p d.disk q e disk said) ∧
      ∃ f d', save p s folder d = (.error f, d') ∧ f.isOwn = false := by
  unfold save
  rw [h, Act.bind_ok (show ofResult (.ok e) d = (.ok e, d) from rfl)]
  cases folder with
  | none => exact .inr ⟨nofun, _, d, rfl, rfl⟩
  | some folder =>
    dsimp only
    rw [Act.bind_ok (show (get : Act Desk) d = (.ok d, d) from rfl)]
    cases makes : d.disk.makeFolders folder with
    | error why =>
      refine .inr ⟨?_, why.1.fault why.2, d, rfl, rfl⟩
      rintro _ _ _ ⟨⟩ ⟨⟨made, made', -⟩, -⟩
      cases makes.symm.trans made'
    | ok made =>
      dsimp only
      rw [Act.bind_ok (show (modify _ : Act Unit) d = (.ok (), { d with disk := made }) from rfl),
        Act.bind_ok (show (get : Act Desk) { d with disk := made } =
          (.ok { d with disk := made }, { d with disk := made }) from rfl)]
      dsimp only
      rw [show folder.join (Path.ofString e.filename) = exportFile folder e from rfl]
      cases writes : made.write (exportFile folder e) e.payload with
      | error problem =>
        refine .inr ⟨?_, problem.fault (exportFile folder e), { d with disk := made }, rfl, rfl⟩
        rintro _ _ _ ⟨⟩ ⟨⟨made', makes', writes'⟩, -⟩
        cases makes.symm.trans makes'
        cases writes.symm.trans writes'
      | ok disk =>
        dsimp only
        rw [Act.bind_ok (show (modify _ : Act Unit) _ = (.ok (), { d with disk }) from rfl)]
        cases tells : p.markup ("Saved " ++ (exportFile folder e).text) with
        | ok said =>
          exact .inl ⟨folder, disk, said, rfl, ⟨⟨made, makes, writes⟩, tells⟩,
            printMarkup_apply tells _⟩
        | error f =>
          refine .inr ⟨?_, f, _, printMarkup_of_error tells _, (quotes.unowned _ f tells).1⟩
          rintro _ _ _ ⟨⟩ ⟨-, tells'⟩
          cases tells.symm.trans tells'

end CommandLine

end Playground
