import MachineCompiler.FileSystem.Write

/-!
# Writing takes nothing away

Writing a file may make directories and may change what files hold, but a directory stays a
directory and a text stays a text. So a path that leads to a text still does after any writing,
even if the text is another one.
-/

namespace MachineCompiler.FileSystem

variable {files files' files'' : FileSystem} {location other : Location} {node : Node} {path : Path}
  {text : String}

/-- There is a text at the place. -/
def HasText (files : FileSystem) (location : Location) : Prop :=
  ∃ text mode, files.node? location = some (.file (.text text) mode)

/-- Directories stay directories and texts stay texts. -/
structure Grows (files files' : FileSystem) : Prop where
  current : files'.currentDirectory = files.currentDirectory
  directory : ∀ location, files.node? location = some .directory →
    files'.node? location = some .directory
  text : ∀ location, files.HasText location → files'.HasText location

theorem Grows.refl (files : FileSystem) : Grows files files :=
  ⟨rfl, fun _ => id, fun _ => id⟩

theorem Grows.trans (h : Grows files files') (h' : Grows files' files'') : Grows files files'' where
  current := h'.current.trans h.current
  directory location hnode := h'.directory location (h.directory location hnode)
  text location htext := h'.text location (h.text location htext)

/-! ## Writing -/

theorem lookup_put (entries : List (Location × Node)) (location other : Location) (node : Node) :
    (entries.filter (·.1 != location) ++ [(location, node)]).lookup other =
      if other = location then some node else entries.lookup other := by
  induction entries with
  | nil =>
    by_cases heq : other = location
    · simp [heq]
    · simp [List.lookup_cons, beq_false_of_ne heq, heq]
  | cons entry rest ih =>
    obtain ⟨place, held⟩ := entry
    by_cases hplace : place = location
    · rw [List.filter_cons_of_neg (by simp [hplace]), ih]
      by_cases heq : other = location
      · simp [heq]
      · simp [List.lookup_cons, hplace, beq_false_of_ne heq, heq]
    · rw [List.filter_cons_of_pos (by simp [hplace]), List.cons_append, List.lookup_cons, ih]
      by_cases heq : other = place
      · have hother : other ≠ location := fun h => hplace (heq.symm.trans h)
        simp [heq, hplace]
      · simp [List.lookup_cons, beq_false_of_ne heq]

/-- An entry that is put at a place is found there, and the others are found as before. -/
theorem node_put (hlocation : location ≠ []) :
    (files.put location node).node? other =
      if other = location then some node else files.node? other := by
  unfold node? put
  rw [lookup_put]
  cases other with
  | nil => simp [hlocation.symm]
  | cons => rfl

/-- The root directory is always there. -/
theorem node_root : files.node? [] = some .directory := rfl

/-- A directory is put only where there was nothing. -/
theorem grows_put_directory (hnew : files.node? location = none) :
    Grows files (files.put location .directory) := by
  have hlocation : location ≠ [] := fun h => by rw [h, node_root] at hnew; contradiction
  refine ⟨rfl, fun other hdirectory => ?_, fun other ⟨text, mode, hnode⟩ => ?_⟩
  · rw [node_put hlocation]
    split
    · rfl
    · exact hdirectory
  -- The place was empty, so the text stands elsewhere.
  · refine ⟨text, mode, ?_⟩
    rw [node_put hlocation, if_neg, hnode]
    rintro rfl
    rw [hnew] at hnode
    contradiction

/-- A text is put only where there was no directory. -/
theorem grows_put_text {mode : Mode} (hheld : files.node? location ≠ some .directory) :
    Grows files (files.put location (.file (.text text) mode)) := by
  have hlocation : location ≠ [] := fun h => hheld (h ▸ node_root)
  refine ⟨rfl, fun other hdirectory => ?_, fun other ⟨held, mode', hnode⟩ => ?_⟩
  · rw [node_put hlocation, if_neg, hdirectory]
    rintro rfl
    exact hheld hdirectory
  · by_cases heq : other = location
    · exact ⟨text, mode, by rw [node_put hlocation, if_pos heq]⟩
    · exact ⟨held, mode', by rw [node_put hlocation, if_neg heq, hnode]⟩

theorem grows_make_directory (h : files.makeDirectory path = .ok files') : Grows files files' := by
  unfold makeDirectory at h
  split at h
  · contradiction
  · split at h
    · contradiction
    · rename_i hnew
      cases h
      exact grows_put_directory hnew

theorem grows_ensure_directory (files : FileSystem) (path : Path) :
    Grows files (files.ensureDirectory path).2 := by
  unfold ensureDirectory
  split
  · rename_i hmade
    exact grows_make_directory hmade
  · split <;> exact .refl files

theorem grows_make_directories (files : FileSystem) (upwards : List Path) :
    Grows files (files.makeDirectories upwards).2 := by
  induction upwards with
  | nil => exact .refl files
  | cons path above ih =>
    have hensure := grows_ensure_directory files path
    unfold makeDirectories
    split
    · split
      · rename_i habove
        rw [habove] at ih
        exact ih
      · rename_i made habove
        rw [habove] at ih
        exact ih.trans (grows_ensure_directory made path)
    · exact hensure

/-- A text takes the place of what was there as a text. -/
theorem over_text (text : String) (held : Option Node) :
    ∃ mode, Node.over (.file (.text text) .plain) held = .file (.text text) mode := by
  rcases held with _ | _ | ⟨_, mode⟩
  · exact ⟨.plain, rfl⟩
  · exact ⟨.plain, rfl⟩
  · exact ⟨mode.rewritten, rfl⟩

theorem grows_write_text (h : files.writeText path text = .ok files') : Grows files files' := by
  unfold writeText at h
  split at h
  · contradiction
  · split at h
    · contradiction
    · rename_i hheld
      cases h
      obtain ⟨mode, hover⟩ := over_text text (files.node? _)
      rw [hover]
      exact grows_put_text hheld

/-- Writing a file takes no directory and no text away, whether it succeeds or not. -/
theorem grows_save (files : FileSystem) (path : Path) (text : String) :
    Grows files (files.save path text).2 := by
  have hmade := grows_make_directories files path.directoriesAbove.reverse
  unfold save
  split
  · rename_i hdirectories
    rw [hdirectories] at hmade
    exact hmade
  · rename_i hdirectories
    rw [hdirectories] at hmade
    split
    · exact hmade
    · rename_i hwritten
      exact hmade.trans (grows_write_text hwritten)

theorem grows_of_save {error : Option FileError} (h : files.save path text = (error, files')) :
    Grows files files' := by
  have hgrows := grows_save files path text
  rwa [h] at hgrows

/-! ## Reading -/

/-- What is followed from a directory does not depend on the other entries. -/
theorem Grows.follow (h : Grows files files') {component : Path.Component} {reached : Location}
    (hfollow : files.follow location component = .ok reached) :
    files'.follow location component = .ok reached := by
  unfold FileSystem.follow at hfollow ⊢
  split at hfollow
  · contradiction
  · contradiction
  · rename_i hdirectory
    rw [h.directory location hdirectory]
    exact hfollow

theorem Grows.follow_all (h : Grows files files') {components : List Path.Component}
    {reached : Location} (hfollow : components.foldlM files.follow location = .ok reached) :
    components.foldlM files'.follow location = .ok reached := by
  induction components generalizing location with
  | nil => exact hfollow
  | cons component rest ih =>
    rw [List.foldlM_cons] at hfollow ⊢
    cases hfirst : files.follow location component with
    | error error => rw [hfirst] at hfollow; contradiction
    | ok next =>
      rw [hfirst] at hfollow
      rw [h.follow hfirst]
      exact ih hfollow

/-- A path leads to the same place in the grown file system. -/
theorem Grows.locate (h : Grows files files') (hlocate : files.locate path = .ok location) :
    files'.locate path = .ok location := by
  unfold FileSystem.locate locateBy at hlocate ⊢
  split at hlocate
  · contradiction
  · rw [origin, h.current]
    exact h.follow_all hlocate

/-- A text is read where there is one at the place that the path leads to. -/
theorem read_text_ok_iff :
    (∃ text, files.readText path = .ok text) ↔
      ∃ location, files.locate path = .ok location ∧ files.HasText location ∧
        path.endsInSeparator = false := by
  constructor
  · rintro ⟨text, hread⟩
    unfold readText openText find at hread
    cases hlocate : files.locate path with
    | error error => simp only [hlocate] at hread; contradiction
    | ok location =>
      refine ⟨location, rfl, ?_⟩
      rcases hnode : files.node? location with _ | _ | ⟨text | bytes, mode⟩ <;>
        cases hends : path.endsInSeparator <;> simp [hlocate, hnode, hends, Except.map] at hread
      exact ⟨⟨text, mode, hnode⟩, rfl⟩
  · rintro ⟨location, hlocate, ⟨text, mode, hnode⟩, hends⟩
    exact ⟨text, by simp [readText, openText, find, hlocate, hnode, hends, Except.map]⟩

/-- A path that leads to a text leads to a text in the grown file system. -/
theorem Grows.read_text (h : Grows files files') (hread : files.readText path = .ok text) :
    ∃ text', files'.readText path = .ok text' := by
  obtain ⟨location, hlocate, htext, hends⟩ := read_text_ok_iff.1 ⟨text, hread⟩
  exact read_text_ok_iff.2 ⟨location, h.locate hlocate, h.text location htext, hends⟩

end MachineCompiler.FileSystem
