import MachineCompiler.FileSystem.Layout
import MachineCompiler.Proofs.FileSystem.Growth

/-!
# Writing and reading back

A text that was written is read back from its path, and files at other places hold what they held.
Whether a file can be written is a matter of what the entries are, and not of what the files among
them hold, so where one text can be written any other one can.
-/

namespace MachineCompiler

/-- The entry is a directory. -/
def Node.isDirectory : Node → Bool
  | .directory => true
  | .file _ _ => false

namespace FileSystem

variable {files files' made : FileSystem} {location : Location} {path other : Path}
  {text text' : String}

/-! ## Places -/

/-- A component that can be followed leads where it spells. -/
theorem follow_eq_walk {component : Path.Component} {reached : Location}
    (h : files.follow location component = .ok reached) :
    reached = ProgramName.walk location component := by
  unfold follow at h
  split at h
  · contradiction
  · contradiction
  · cases component with
    | here | up =>
      cases h
      rfl
    | entry name =>
      dsimp only at h
      split at h
      · contradiction
      · cases h
        rfl

theorem follow_all_eq_walk {components : List Path.Component} {reached : Location}
    (h : components.foldlM files.follow location = .ok reached) :
    reached = components.foldl ProgramName.walk location := by
  induction components generalizing location with
  | nil =>
    cases h
    rfl
  | cons component rest ih =>
    rw [List.foldlM_cons] at h
    cases hfirst : files.follow location component with
    | error error => rw [hfirst] at h; contradiction
    | ok next =>
      rw [hfirst] at h
      rw [List.foldl_cons, ← follow_eq_walk hfirst]
      exact ih h

/-- A path that leads somewhere leads to the place that it spells. -/
theorem locate_eq_place (h : files.locate path = .ok location) :
    location = files.placeOf path := by
  unfold locate locateBy at h
  split at h
  · contradiction
  · exact follow_all_eq_walk h

/-- A path spells the same place after writing. -/
theorem Grows.place_of (h : Grows files files') (path : Path) :
    files'.placeOf path = files.placeOf path := by
  rw [placeOf, placeOf, origin, origin, h.current]

/-! ## Reading back -/

/-- A text is read exactly if there is a file with the text at the place that the path leads to. -/
theorem read_text_eq_ok :
    files.readText path = .ok text ↔
      ∃ location mode, files.locate path = .ok location ∧
        files.node? location = some (.file (.text text) mode) ∧ path.endsInSeparator = false := by
  unfold readText openText find
  cases hlocate : files.locate path with
  | error error => simp [Except.map]
  | ok location =>
    rcases hnode : files.node? location with _ | _ | ⟨held | bytes, mode⟩ <;>
      cases hends : path.endsInSeparator <;> simp [hnode, Except.map]

/-- The entry at the place is what it was, or a directory where there was nothing. -/
def Untouched (files files' : FileSystem) (location : Location) : Prop :=
  files'.node? location = files.node? location ∨
    files.node? location = none ∧ files'.node? location = some .directory

/-- What was there is still there. -/
theorem Untouched.node {node : Node} (h : files.Untouched files' location)
    (hnode : files.node? location = some node) : files'.node? location = some node := by
  obtain hsame | ⟨hnone, -⟩ := h
  · exact hsame.trans hnode
  · rw [hnode] at hnone
    contradiction

theorem Untouched.trans {files'' : FileSystem} (h : files.Untouched files' location)
    (h' : files'.Untouched files'' location) : files.Untouched files'' location := by
  obtain hsame | ⟨hnone, hmade⟩ := h
  · rw [Untouched, hsame] at h'
    exact h'
  · exact .inr ⟨hnone, h'.node hmade⟩

theorem untouched_make_directory (h : files.makeDirectory path = .ok made) (location : Location) :
    files.Untouched made location := by
  unfold makeDirectory at h
  split at h
  · contradiction
  · split at h
    · contradiction
    · rename_i place _ _ hnew
      cases h
      have hplace : place ≠ [] := fun hroot => by rw [hroot, node_root] at hnew; contradiction
      by_cases hsame : location = place
      · exact .inr ⟨hsame ▸ hnew, by rw [node_put hplace, if_pos hsame]⟩
      · exact .inl (by rw [node_put hplace, if_neg hsame])

theorem untouched_ensure_directory (files : FileSystem) (path : Path) (location : Location) :
    files.Untouched (files.ensureDirectory path).2 location := by
  unfold ensureDirectory
  split
  · rename_i hmade
    exact untouched_make_directory hmade location
  · split <;> exact .inl rfl

/-- Making directories takes no entry away and changes none. -/
theorem untouched_make_directories (files : FileSystem) (upwards : List Path)
    (location : Location) : files.Untouched (files.makeDirectories upwards).2 location := by
  induction upwards with
  | nil => exact .inl rfl
  | cons path above ih =>
    have hensure := untouched_ensure_directory files path location
    unfold makeDirectories
    split
    · split
      · rename_i habove
        rw [habove] at ih
        exact ih
      · rename_i made habove
        rw [habove] at ih
        exact ih.trans (untouched_ensure_directory made path location)
    · exact hensure

/-- What writing a text comes to: it is put at the place that the path leads to. -/
theorem write_text_ok {written : FileSystem} (h : files.writeText path text = .ok written) :
    ∃ location mode, files.locate path = .ok location ∧ path.endsInSeparator = false ∧
      location ≠ [] ∧ written = files.put location (.file (.text text) mode) := by
  unfold writeText placeToWrite at h
  cases hends : path.endsInSeparator with
  | true =>
    rw [hends, if_pos rfl] at h
    cases hlocate : files.locateBy path (path.components.dropLast ++ [.here]) <;>
      rw [hlocate] at h <;> contradiction
  | false =>
    rw [hends, if_neg Bool.false_ne_true] at h
    split at h
    · contradiction
    · rename_i location hlocate
      split at h
      · contradiction
      · rename_i hheld
        cases h
        obtain ⟨mode, hover⟩ := over_text text (files.node? location)
        exact ⟨location, mode, hlocate, rfl, fun hroot => hheld (hroot ▸ node_root), by rw [hover]⟩

/-- What writing a file comes to: all other entries are still there, and the path leads to a file
with the text. -/
theorem save_ok (h : files.save path text = (none, files')) :
    ∃ location mode, files'.locate path = .ok location ∧ path.endsInSeparator = false ∧
      files'.node? location = some (.file (.text text) mode) ∧
      ∀ other node, other ≠ location → files.node? other = some node →
        files'.node? other = some node := by
  unfold save at h
  have huntouched := untouched_make_directories files path.directoriesAbove.reverse
  split at h
  · cases h
  · rename_i made hmade
    rw [hmade] at huntouched
    split at h
    · cases h
    · rename_i written hwritten
      cases h
      have hgrows := grows_write_text hwritten
      obtain ⟨location, mode, hlocate, hends, hroot, rfl⟩ := write_text_ok hwritten
      refine ⟨location, mode, hgrows.locate hlocate, hends, ?_, fun other node hne hnode => ?_⟩
      · rw [node_put hroot, if_pos rfl]
      · rw [node_put hroot, if_neg hne]
        exact (huntouched other).node hnode

/-- When a file could not be written, no entry was touched. -/
theorem untouched_of_refused {error : FileError} (h : files.save path text = (some error, files'))
    (location : Location) : files.Untouched files' location := by
  have hmade := untouched_make_directories files path.directoriesAbove.reverse location
  unfold save at h
  split at h
  · rename_i hdirectories
    cases h
    rw [hdirectories] at hmade
    exact hmade
  · rename_i hdirectories
    split at h
    · cases h
      rw [hdirectories] at hmade
      exact hmade
    · cases h

/-- Writing a file touches no entry but the one at the place that the path spells. -/
theorem untouched_save (files : FileSystem) (path : Path) (text : String)
    (h : location ≠ files.placeOf path) : files.Untouched (files.save path text).2 location := by
  have hmade := untouched_make_directories files path.directoriesAbove.reverse location
  have hgrows := grows_make_directories files path.directoriesAbove.reverse
  unfold save
  split
  · rename_i hdirectories
    rw [hdirectories] at hmade
    exact hmade
  · rename_i made hdirectories
    rw [hdirectories] at hmade hgrows
    split
    · exact hmade
    · rename_i hwritten
      obtain ⟨place, mode, hlocate, -, hroot, rfl⟩ := write_text_ok hwritten
      refine hmade.trans (.inl ?_)
      rw [node_put hroot, if_neg]
      rintro rfl
      exact h ((locate_eq_place hlocate).trans (hgrows.place_of path))

/-- A text that was written is read back. -/
theorem read_text_save (h : files.save path text = (none, files')) :
    files'.readText path = .ok text := by
  obtain ⟨location, mode, hlocate, hends, hnode, -⟩ := save_ok h
  exact read_text_eq_ok.2 ⟨location, mode, hlocate, hnode, hends⟩

/-- Paths that spell the same place lead to the same text. -/
theorem read_text_of_same_place (hread : files.readText other = .ok text)
    (hlocate : files.locate path = .ok location) (hends : path.endsInSeparator = false)
    (hplace : files.placeOf other = files.placeOf path) : files.readText path = .ok text := by
  obtain ⟨held, mode, hheld, hnode, -⟩ := read_text_eq_ok.1 hread
  obtain rfl : held = location := by
    rw [locate_eq_place hheld, locate_eq_place hlocate, hplace]
  exact read_text_eq_ok.2 ⟨held, mode, hlocate, hnode, hends⟩

/-- A text is read as before when another file was written. -/
theorem read_text_save_of_ne (h : files.save other text' = (none, files'))
    (hplaces : files.placeOf path ≠ files.placeOf other) (hread : files.readText path = .ok text) :
    files'.readText path = .ok text := by
  have hgrows := grows_of_save h
  obtain ⟨written, _, hwritten, -, -, hothers⟩ := save_ok h
  obtain ⟨location, mode, hlocate, hnode, hends⟩ := read_text_eq_ok.1 hread
  refine read_text_eq_ok.2 ⟨location, mode, hgrows.locate hlocate, ?_, hends⟩
  refine hothers location _ (fun hsame => hplaces ?_) hnode
  rw [← locate_eq_place hlocate, hsame, locate_eq_place hwritten, hgrows.place_of]

/-! ## What can be written -/

/-- The entries of both file systems are of the same kinds. -/
structure Alike (files files' : FileSystem) : Prop where
  current : files'.currentDirectory = files.currentDirectory
  kinds : ∀ location, (files'.node? location).map Node.isDirectory =
    (files.node? location).map Node.isDirectory

namespace Alike

theorem refl (files : FileSystem) : Alike files files :=
  ⟨rfl, fun _ => rfl⟩

/-- There is no entry, or a directory, or a file at a place in both. -/
theorem cases_node (h : Alike files files') (location : Location) :
    (files.node? location = none ∧ files'.node? location = none) ∨
      (files.node? location = some .directory ∧ files'.node? location = some .directory) ∨
      ∃ contents mode contents' mode', files.node? location = some (.file contents mode) ∧
        files'.node? location = some (.file contents' mode') := by
  have hkinds := h.kinds location
  rcases hnode : files.node? location with _ | _ | ⟨contents, mode⟩ <;>
    rcases hnode' : files'.node? location with _ | _ | ⟨contents', mode'⟩ <;>
    simp [hnode, hnode', Node.isDirectory] at hkinds ⊢

/-- Entries of one kind are put at the same place. -/
theorem put (h : Alike files files') {node node' : Node}
    (hnode : node'.isDirectory = node.isDirectory) (location : Location) :
    Alike (files.put location node) (files'.put location node') := by
  refine ⟨h.current, fun other => ?_⟩
  cases other with
  | nil => rfl
  | cons first rest =>
    have hput (files : FileSystem) (node : Node) : (files.put location node).node? (first :: rest) =
        if first :: rest = location then some node else files.node? (first :: rest) :=
      lookup_put files.entries location (first :: rest) node
    rw [hput, hput]
    split
    · exact congrArg some hnode
    · exact h.kinds (first :: rest)

theorem follow_eq (h : Alike files files') (component : Path.Component) :
    files'.follow location component = files.follow location component := by
  unfold FileSystem.follow
  obtain ⟨hnode, hnode'⟩ | ⟨hnode, hnode'⟩ | ⟨_, _, _, _, hnode, hnode'⟩ := h.cases_node location <;>
    rw [hnode, hnode']

theorem locate_by_eq (h : Alike files files') (components : List Path.Component) :
    files'.locateBy path components = files.locateBy path components := by
  have hfollow : files'.follow = files.follow :=
    funext fun location => funext fun component => h.follow_eq component
  unfold locateBy
  rw [hfollow, origin, origin, h.current]

theorem locate_eq (h : Alike files files') : files'.locate path = files.locate path :=
  h.locate_by_eq _

theorem is_directory_eq (h : Alike files files') :
    files'.isDirectory path = files.isDirectory path := by
  unfold FileSystem.isDirectory find
  rw [h.locate_eq]
  cases files.locate path with
  | error error => rfl
  | ok location =>
    obtain ⟨hnode, hnode'⟩ | ⟨hnode, hnode'⟩ | ⟨_, _, _, _, hnode, hnode'⟩ :=
      h.cases_node location <;> cases hends : path.endsInSeparator <;> simp [hnode, hnode']

/-- Directories are made in both or in none. -/
theorem make_directory (h : Alike files files') (path : Path) :
    (∃ made made', files.makeDirectory path = .ok made ∧ files'.makeDirectory path = .ok made' ∧
        Alike made made') ∨
      ∃ error, files.makeDirectory path = .error error ∧
        files'.makeDirectory path = .error error := by
  unfold FileSystem.makeDirectory
  rw [h.locate_eq]
  cases files.locate path with
  | error error => exact .inr ⟨error, rfl, rfl⟩
  | ok location =>
    obtain ⟨hnode, hnode'⟩ | ⟨hnode, hnode'⟩ | ⟨_, _, _, _, hnode, hnode'⟩ := h.cases_node location
    · simp only [hnode, hnode']
      exact .inl ⟨_, _, rfl, rfl, h.put rfl location⟩
    · simp only [hnode, hnode']
      exact .inr ⟨_, rfl, rfl⟩
    · simp only [hnode, hnode']
      exact .inr ⟨_, rfl, rfl⟩

theorem ensure_directory (h : Alike files files') (path : Path) :
    (files'.ensureDirectory path).1 = (files.ensureDirectory path).1 ∧
      Alike (files.ensureDirectory path).2 (files'.ensureDirectory path).2 := by
  unfold FileSystem.ensureDirectory
  obtain ⟨made, made', hmade, hmade', halike⟩ | ⟨error, herror, herror'⟩ :=
    h.make_directory path
  · rw [hmade, hmade']
    exact ⟨rfl, halike⟩
  · simp only [herror, herror', h.is_directory_eq]
    split <;> exact ⟨rfl, h⟩

theorem make_directories (h : Alike files files') (upwards : List Path) :
    (files'.makeDirectories upwards).1 = (files.makeDirectories upwards).1 ∧
      Alike (files.makeDirectories upwards).2 (files'.makeDirectories upwards).2 := by
  induction upwards with
  | nil => exact ⟨rfl, h⟩
  | cons path above ih =>
    have hensure := h.ensure_directory path
    unfold FileSystem.makeDirectories
    rcases hfirst : files.ensureDirectory path with ⟨error, made⟩
    rcases hfirst' : files'.ensureDirectory path with ⟨error', made'⟩
    rw [hfirst, hfirst'] at hensure
    obtain ⟨rfl, halike⟩ := hensure
    by_cases hmissing : error' = some .notFound
    · -- The directories above are made first.
      subst hmissing
      rcases habove : files.makeDirectories above with ⟨error, made⟩
      rcases habove' : files'.makeDirectories above with ⟨error', made'⟩
      rw [habove, habove'] at ih
      obtain ⟨rfl, halike⟩ := ih
      cases error' with
      | some error => exact ⟨rfl, halike⟩
      | none => exact halike.ensure_directory path
    · rcases error' with _ | error'
      · exact ⟨rfl, halike⟩
      · cases error' <;> first | exact ⟨rfl, halike⟩ | exact absurd rfl hmissing

/-- A text takes the place of a file or of nothing in both, or in none. -/
theorem write_text (h : Alike files files') (path : Path) (text text' : String) :
    (∃ written written', files.writeText path text = .ok written ∧
        files'.writeText path text' = .ok written' ∧ Alike written written') ∨
      ∃ error, files.writeText path text = .error error ∧
        files'.writeText path text' = .error error := by
  have hplace : files'.placeToWrite path = files.placeToWrite path := by
    unfold placeToWrite
    rw [h.locate_by_eq, h.locate_eq]
  unfold FileSystem.writeText
  rw [hplace]
  cases files.placeToWrite path with
  | error error => exact .inr ⟨error, rfl, rfl⟩
  | ok location =>
    have hput (held held' : Option Node) :
        Alike (files.put location (Node.over (.file (.text text) .plain) held))
          (files'.put location (Node.over (.file (.text text') .plain) held')) := by
      obtain ⟨mode, hover⟩ := over_text text held
      obtain ⟨mode', hover'⟩ := over_text text' held'
      rw [hover, hover']
      exact h.put (show (Node.file (.text text') mode').isDirectory =
        (Node.file (.text text) mode).isDirectory from rfl) location
    obtain ⟨hnode, hnode'⟩ | ⟨hnode, hnode'⟩ | ⟨_, _, _, _, hnode, hnode'⟩ := h.cases_node location
    · simp only [hnode, hnode']
      exact .inl ⟨_, _, rfl, rfl, hput _ _⟩
    · simp only [hnode, hnode']
      exact .inr ⟨_, rfl, rfl⟩
    · simp only [hnode, hnode']
      exact .inl ⟨_, _, rfl, rfl, hput _ _⟩

/-- Files are written in both or in none, whatever their texts are. -/
theorem save (h : Alike files files') (path : Path) (text text' : String) :
    (files'.save path text').1 = (files.save path text).1 ∧
      Alike (files.save path text).2 (files'.save path text').2 := by
  have hdirectories := h.make_directories path.directoriesAbove.reverse
  unfold FileSystem.save
  rcases hmade : files.makeDirectories path.directoriesAbove.reverse with ⟨error, made⟩
  rcases hmade' : files'.makeDirectories path.directoriesAbove.reverse with ⟨error', made'⟩
  rw [hmade, hmade'] at hdirectories
  obtain ⟨rfl, halike⟩ := hdirectories
  cases error' with
  | some error => exact ⟨rfl, halike⟩
  | none =>
    obtain ⟨written, written', hwritten, hwritten', hlast⟩ | ⟨error, herror, herror'⟩ :=
      halike.write_text path text text'
    · simp only [hwritten, hwritten']
      exact ⟨trivial, hlast⟩
    · simp only [herror, herror']
      exact ⟨trivial, halike⟩

end Alike

/-- Files can be made at the paths, one after the other. -/
def canWrite (files : FileSystem) : List Path → Bool
  | [] => true
  | path :: rest =>
    match files.save path "" with
    | (none, files) => files.canWrite rest
    | (some _, _) => false

theorem Alike.can_write (h : Alike files files') (paths : List Path) :
    files'.canWrite paths = files.canWrite paths := by
  induction paths generalizing files files' with
  | nil => rfl
  | cons path rest ih =>
    have hsaved := h.save path "" ""
    unfold canWrite
    rcases hfirst : files.save path "" with ⟨error, made⟩
    rcases hfirst' : files'.save path "" with ⟨error', made'⟩
    rw [hfirst, hfirst'] at hsaved
    obtain ⟨rfl, halike⟩ := hsaved
    cases error' with
    | some error => rfl
    | none => exact ih halike

/-- Where files can be made, any text can be written to the first of them and then to the others. -/
theorem save_of_can_write {rest : List Path} (h : files.canWrite (path :: rest) = true)
    (text : String) :
    ∃ written, files.save path text = (none, written) ∧ written.canWrite rest = true := by
  have hsaved := (Alike.refl files).save path "" text
  unfold canWrite at h
  split at h
  · rename_i made hmade
    rw [hmade] at hsaved
    obtain ⟨hnone, halike⟩ := hsaved
    exact ⟨(files.save path text).2, Prod.ext hnone rfl, (halike.can_write rest).trans h⟩
  · contradiction

end FileSystem

end MachineCompiler
