import MachineCompiler.Proofs.FileSystem.Writing

/-!
# Writing several files

What becomes of a file system when files are written one after the other, some of which may not be
written. An entry that is not at the place of one that was written stays what it was, or is a
directory that was made. A file that was written is read back unless a later one was written at its
place, and then the last one written there is read.
-/

namespace MachineCompiler.FileSystem

/-- A text for a file. -/
structure Write where
  path : Path
  text : String

/-- Write files one after the other, and tell whether every one was written. -/
def saveAll (files : FileSystem) : List Write → Bool × FileSystem
  | [] => (true, files)
  | write :: rest =>
    let (error, files) := files.save write.path write.text
    let (written, files) := files.saveAll rest
    (error.isNone && written, files)

/-- What becomes of files that are written one after the other: each with the reason why it was not
written, if it was not. -/
def attempts (files : FileSystem) : List Write → List (Write × Option FileError)
  | [] => []
  | write :: rest =>
    let (error, files) := files.save write.path write.text
    (write, error) :: files.attempts rest

variable {files made : FileSystem} {location : Location} {path : Path} {text : String}
  {write : Write} {error : Option FileError}

/-- The files after the first one are attempted on what it has left. -/
theorem attempts_cons (h : files.save write.path write.text = (error, made))
    (rest : List Write) :
    files.attempts (write :: rest) = (write, error) :: made.attempts rest := by
  rw [attempts, h]

/-- The files after the first one are written on what it has left. -/
theorem save_all_cons (h : files.save write.path write.text = (error, made))
    (rest : List Write) :
    files.saveAll (write :: rest) =
      (error.isNone && (made.saveAll rest).1, (made.saveAll rest).2) := by
  rw [saveAll, h]

/-- A file is attempted whatever became of those before it. -/
theorem map_fst_attempts (files : FileSystem) (writes : List Write) :
    (files.attempts writes).map Prod.fst = writes := by
  induction writes generalizing files with
  | nil => rfl
  | cons write rest ih => exact congrArg (write :: ·) (ih _)

theorem mem_of_mem_attempts {writes : List Write} {attempt : Write × Option FileError}
    (h : attempt ∈ files.attempts writes) : attempt.1 ∈ writes := by
  rw [← files.map_fst_attempts writes]
  exact List.mem_map_of_mem h

/-- Every file was written when no attempt was refused. -/
theorem save_all_iff {writes : List Write} : (files.saveAll writes).1 = true ↔
    ∀ attempt ∈ files.attempts writes, attempt.2 = none := by
  induction writes generalizing files with
  | nil => exact iff_of_true rfl (List.forall_mem_nil _)
  | cons write rest ih =>
    rw [attempts, saveAll, List.forall_mem_cons, Bool.and_eq_true, Option.isNone_iff_eq_none, ih]

/-- The last files are written after the others. -/
theorem save_all_append (files : FileSystem) (writes more : List Write) :
    files.saveAll (writes ++ more) =
      ((files.saveAll writes).1 && ((files.saveAll writes).2.saveAll more).1,
        ((files.saveAll writes).2.saveAll more).2) := by
  induction writes generalizing files with
  | nil => simp [saveAll]
  | cons first rest ih => simp [saveAll, ih, Bool.and_assoc]

theorem attempts_append (files : FileSystem) (writes more : List Write) :
    files.attempts (writes ++ more) =
      files.attempts writes ++ (files.saveAll writes).2.attempts more := by
  induction writes generalizing files with
  | nil => rfl
  | cons first rest ih => simp [attempts, saveAll, ih]

theorem grows_save_all (files : FileSystem) (writes : List Write) :
    Grows files (files.saveAll writes).2 := by
  induction writes generalizing files with
  | nil => exact .refl files
  | cons write rest ih => exact (files.grows_save write.path write.text).trans (ih _)

/-- Writing files touches no entries but those at the places of the files that were written. -/
theorem untouched_attempts (files : FileSystem) (writes : List Write)
    (h : ∀ attempt ∈ files.attempts writes, attempt.2 = none →
      location ≠ files.placeOf attempt.1.path) :
    files.Untouched (files.saveAll writes).2 location := by
  induction writes generalizing files with
  | nil => exact .inl rfl
  | cons write rest ih =>
    rcases hsave : files.save write.path write.text with ⟨error, made⟩
    rw [attempts_cons hsave] at h
    obtain ⟨hwrite, hrest⟩ := List.forall_mem_cons.1 h
    have hfirst : files.Untouched made location := by
      cases error with
      | some error => exact untouched_of_refused hsave location
      | none =>
        have huntouched := files.untouched_save write.path write.text (hwrite rfl)
        rw [hsave] at huntouched
        exact huntouched
    rw [save_all_cons hsave]
    refine hfirst.trans (ih made fun attempt hattempt hdone => ?_)
    rw [(grows_of_save hsave).place_of]
    exact hrest attempt hattempt hdone

/-- Writing files touches no entries but those at the places that their paths spell. -/
theorem untouched_save_all (files : FileSystem) (writes : List Write)
    (h : ∀ write ∈ writes, location ≠ files.placeOf write.path) :
    files.Untouched (files.saveAll writes).2 location :=
  files.untouched_attempts writes fun attempt hattempt _ =>
    h attempt.1 (mem_of_mem_attempts hattempt)

/-! ## Reading back -/

/-- A text is read as before when the files that were written are at other places. -/
theorem read_text_attempts_of_ne {writes : List Write} (hread : files.readText path = .ok text)
    (hplaces : ∀ attempt ∈ files.attempts writes, attempt.2 = none →
      files.placeOf path ≠ files.placeOf attempt.1.path) :
    (files.saveAll writes).2.readText path = .ok text := by
  obtain ⟨location, mode, hlocate, hnode, hends⟩ := read_text_eq_ok.1 hread
  have huntouched := files.untouched_attempts writes fun attempt hattempt hdone hsame =>
    hplaces attempt hattempt hdone ((locate_eq_place hlocate).symm.trans hsame)
  exact read_text_eq_ok.2 ⟨location, mode, (files.grows_save_all writes).locate hlocate,
    huntouched.node hnode, hends⟩

/-- A text is read as before when files at other places were written. -/
theorem read_text_save_all_of_ne {writes : List Write} (hread : files.readText path = .ok text)
    (hplaces : ∀ write ∈ writes, files.placeOf path ≠ files.placeOf write.path) :
    (files.saveAll writes).2.readText path = .ok text :=
  read_text_attempts_of_ne hread fun attempt hattempt _ =>
    hplaces attempt.1 (mem_of_mem_attempts hattempt)

/-- A text that was written is read back when the later files are at other places. -/
theorem read_text_save_all {before after : List Write}
    (h : (files.saveAll (before ++ write :: after)).1 = true)
    (hplaces : ∀ other ∈ after, files.placeOf write.path ≠ files.placeOf other.path) :
    (files.saveAll (before ++ write :: after)).2.readText write.path = .ok write.text := by
  have hgrows := files.grows_save_all before
  rw [save_all_append] at h ⊢
  obtain ⟨-, hrest⟩ := (Bool.and_eq_true _ _).mp h
  rcases hsave : (files.saveAll before).2.save write.path write.text with ⟨error, made⟩
  simp only [saveAll, hsave] at hrest ⊢
  obtain ⟨herror, -⟩ := (Bool.and_eq_true _ _).mp hrest
  obtain rfl : error = none := Option.isNone_iff_eq_none.1 herror
  refine read_text_save_all_of_ne (read_text_save hsave) fun other hother => ?_
  rw [(grows_of_save hsave).place_of, (grows_of_save hsave).place_of, hgrows.place_of,
    hgrows.place_of]
  exact hplaces other hother

/-- A path at which a file was written leads to the text of the last file that was written at its
place. -/
theorem read_text_last {writes : List Write} {attempt : Write × Option FileError}
    (hattempt : attempt ∈ files.attempts writes) (hdone : attempt.2 = none) :
    ∃ before last after, files.attempts writes = before ++ (last, none) :: after ∧
      files.placeOf last.path = files.placeOf attempt.1.path ∧
      (∀ other ∈ after, other.2 = none →
        files.placeOf other.1.path ≠ files.placeOf attempt.1.path) ∧
      (files.saveAll writes).2.readText attempt.1.path = .ok last.text := by
  induction writes generalizing files attempt with
  | nil => cases hattempt
  | cons write rest ih =>
    rcases hsave : files.save write.path write.text with ⟨error, made⟩
    have hplace := (grows_of_save hsave).place_of
    rw [attempts_cons hsave] at hattempt ⊢
    rw [save_all_cons hsave]
    -- What was written after the first file is known; the first one may be the last at its place.
    have hlater {attempt : Write × Option FileError} (hrest : attempt ∈ made.attempts rest)
        (hdone : attempt.2 = none) := ih hrest hdone
    simp only [hplace] at hlater
    rcases List.mem_cons.1 hattempt with rfl | hrest
    · obtain rfl : error = none := hdone
      obtain ⟨location, mode, hlocate, hends, -, -⟩ := save_ok hsave
      by_cases hover : ∃ other ∈ made.attempts rest, other.2 = none ∧
          files.placeOf other.1.path = files.placeOf write.path
      · obtain ⟨other, hother, hdone', hsame⟩ := hover
        obtain ⟨before, last, after, hall, hlast, hafter, hread⟩ := hlater hother hdone'
        have hgrows := made.grows_save_all rest
        refine ⟨(write, none) :: before, last, after, by rw [hall]; rfl, hlast.trans hsame,
          fun next hnext hdone => hsame ▸ hafter next hnext hdone, ?_⟩
        refine read_text_of_same_place hread (hgrows.locate hlocate) hends ?_
        rw [hgrows.place_of, hgrows.place_of, hplace, hplace, hsame]
      · refine ⟨[], write, made.attempts rest, rfl, rfl,
          fun other hother hdone hsame => hover ⟨other, hother, hdone, hsame⟩, ?_⟩
        refine read_text_attempts_of_ne (read_text_save hsave) fun other hother hdone' hsame => ?_
        rw [hplace, hplace] at hsame
        exact hover ⟨other, hother, hdone', hsame.symm⟩
    · obtain ⟨before, last, after, hall, hlast⟩ := hlater hrest hdone
      exact ⟨(write, error) :: before, last, after, by rw [hall]; rfl, hlast⟩

end MachineCompiler.FileSystem
