import Mathlib
import Timetable.CommandLine.Host
import Timetable.Proofs.KeyedLists
/-!
# Files that change

Writing a text changes one place at most, where the text stands after it, or a beginning of it if
its storage fails. Paths lead through directories only. Since no directory comes or goes, a path
that led somewhere leads there still, and if the file was there before, no path leads anywhere else
or fails in another way.

## Main statements

- `FileTree.node?_put_self`, `FileTree.node?_put_of_ne` — the nodes after a change
- `FileTree.walk_congr` — ways do not depend on what is in the files
- `FileTree.target_eq_ok_iff` — where a text is written
- `FileTree.readText_writeText` — what is written is read again
- `FileTree.writeText_of_sound`, `FileTree.writeText_of_fault` — what is there after writing
- `FileTree.writeText_put_file` — what does not change writing
-/

namespace Timetable

def FileNode.isDirectory : FileNode → Bool
  | .file _ => false
  | .directory => true

/-- Storage that fails before the first byte leaves an empty file. -/
theorem FileNode.beginning_zero (text : String) : beginning text 0 = .file (some "") := by
  have hbytes : text.toUTF8.extract 0 0 = ByteArray.empty := by simp
  rw [beginning, hbytes]
  rfl

namespace FileTree

variable {tree tree' : FileTree} {place other : List String} {node : FileNode}

/-! ## Nodes -/

theorem workingDirectory_put : (tree.put place node).workingDirectory = tree.workingDirectory :=
  rfl

/-- Where there is no directory that is always there, a node can be put. -/
theorem node?_put_self (h : tree.node? place ≠ some .directory) (node : FileNode) :
    (tree.put place node).node? place = some node := by
  have habove : ¬place.isPrefixOf tree.workingDirectory = true := by
    intro habove
    exact h (if_pos habove)
  rw [node?, workingDirectory_put, if_neg habove]
  exact List.lookup_cons_self

theorem node?_put_of_ne (h : other ≠ place) (node : FileNode) :
    (tree.put place node).node? other = tree.node? other := by
  rw [node?, node?, workingDirectory_put]
  show (if _ then _ else ((place, node) :: _).lookup other) = _
  rw [lookup_cons_eq_ite, if_neg h, lookup_filter_of_ne fun _ => decide_eq_true_iff, if_neg h]

/-! ## Ways -/

/-- Whether a name can be followed depends on the directories, not on the texts of files. -/
theorem walk_congr
    (h : ∀ p, (tree'.node? p).map FileNode.isDirectory = (tree.node? p).map FileNode.isDirectory)
    (place names : List String) : tree'.walk place names = tree.walk place names := by
  induction names generalizing place with
  | nil => rfl
  | cons name names ih =>
    have hplace := h place
    rw [walk, walk]
    match hnode : tree.node? place, hnode' : tree'.node? place with
    | none, none => rfl
    | some (.file _), some (.file _) => rfl
    | some .directory, some .directory => simp only [ih]
    | none, some _ => simp [hnode, hnode'] at hplace
    | some _, none => simp [hnode, hnode'] at hplace
    | some (.file _), some .directory => simp [hnode, hnode', FileNode.isDirectory] at hplace
    | some .directory, some (.file _) => simp [hnode, hnode', FileNode.isDirectory] at hplace

/-- A way that is there remains where no directory goes away. -/
theorem walk_eq_ok_of_directories
    (h : ∀ p, tree.node? p = some .directory → tree'.node? p = some .directory)
    {start names : List String} (hwalk : tree.walk start names = .ok place) :
    tree'.walk start names = .ok place := by
  induction names generalizing start with
  | nil => exact hwalk
  | cons name names ih =>
    rw [walk] at hwalk ⊢
    match hnode : tree.node? start with
    | none => simp [hnode] at hwalk
    | some (.file _) => simp [hnode] at hwalk
    | some .directory =>
      simp only [hnode] at hwalk
      simp only [h start hnode]
      split at hwalk
      · next hstay => rw [if_pos hstay, ih hwalk]
      · next hstay =>
        rw [if_neg hstay]
        split at hwalk
        · next hup => rw [if_pos hup, ih hwalk]
        · next hup =>
          rw [if_neg hup]
          split at hwalk
          · cases hwalk
          · next hsize => rw [if_neg hsize, ih hwalk]

theorem find_congr
    (h : ∀ p, (tree'.node? p).map FileNode.isDirectory = (tree.node? p).map FileNode.isDirectory)
    (hworking : tree'.workingDirectory = tree.workingDirectory) (path : String) :
    tree'.find path = tree.find path := by
  simp only [find, walk_congr h, hworking]

theorem find_eq_ok_of_directories
    (h : ∀ p, tree.node? p = some .directory → tree'.node? p = some .directory)
    (hworking : tree'.workingDirectory = tree.workingDirectory) {path : String}
    (hfind : tree.find path = .ok place) : tree'.find path = .ok place := by
  rw [find] at hfind ⊢
  split at hfind
  · cases hfind
  · next hempty =>
    rw [if_neg hempty]
    split at hfind
    · cases hfind
    · next hsize =>
      rw [if_neg hsize]
      split at hfind
      · exact walk_eq_ok_of_directories h hfind
      · rw [hworking]
        exact walk_eq_ok_of_directories h hfind

/-! ## Reading and writing -/

theorem readText_of_find {path : String} (hfind : tree.find path = .ok place) :
    tree.readText path =
      match tree.node? place with
      | none => .error .notFound
      | some .directory => .error .isDirectory
      | some (.file none) => .error .notUtf8
      | some (.file (some text)) => .ok text := by
  rw [readText, hfind]
  rfl

theorem readText_of_find_error {path : String} {failure : FileFailure}
    (hfind : tree.find path = .error failure) : tree.readText path = .error failure := by
  rw [readText, hfind]
  rfl

/-- A text is written where its path leads, unless there is a directory or the path asks for one. -/
theorem target_eq_ok_iff {path : String} :
    tree.target path = .ok place ↔
      path.toList.getLast? ≠ some '/' ∧ tree.find path = .ok place ∧
        tree.node? place ≠ some .directory := by
  rw [target]
  by_cases hslash : path.toList.getLast? = some '/'
  · rw [if_pos hslash]
    refine ⟨fun h => ?_, fun h => absurd hslash h.1⟩
    split at h
    · cases h
    · cases hfind : tree.find (directoryOf path) with
      | error failure =>
        rw [hfind] at h
        cases h
      | ok directory =>
        rw [hfind] at h
        cases h
  · rw [if_neg hslash]
    cases tree.find path with
    | error failure => simp [Except.bind]
    | ok found =>
      by_cases hnode : tree.node? found = some .directory
      · simp only [Except.bind, if_pos hnode]
        constructor
        · intro h
          cases h
        · rintro ⟨-, hfound, hplace⟩
          cases hfound
          exact absurd hnode hplace
      · simp only [Except.bind, if_neg hnode]
        constructor
        · intro h
          cases h
          exact ⟨hslash, rfl, hnode⟩
        · exact fun h => h.2.1

/-- Only the second of two nodes that are put at a place is left. -/
theorem put_put (tree : FileTree) (place : List String) (node node' : FileNode) :
    (tree.put place node).put place node' = tree.put place node' := by
  simp [put]

section

variable {storage : Storage} {path text : String}

theorem writeText_of_target_error {failure : FileFailure}
    (h : tree.target path = .error failure) :
    tree.writeText storage path text = (.error failure, tree) := by
  rw [writeText, h]

theorem writeText_of_sound (h : tree.target path = .ok place)
    (hstorage : storage place text = none) :
    tree.writeText storage path text = (.ok (), tree.put place (.file (some text))) := by
  simp only [writeText, h, hstorage, put_put]

theorem writeText_of_fault {fault : WriteFault} (h : tree.target path = .ok place)
    (hstorage : storage place text = some fault) :
    tree.writeText storage path text =
      (.error fault.failure, tree.put place (.beginning text fault.bytes)) := by
  simp only [writeText, h, hstorage, put_put]

/-- What was written is read, since the path leads there still. -/
theorem readText_writeText (h : tree.target path = .ok place) :
    (tree.put place (.file (some text))).readText path = .ok text := by
  obtain ⟨-, hfind, hnode⟩ := target_eq_ok_iff.1 h
  have hdirectories : ∀ p, tree.node? p = some .directory →
      (tree.put place (.file (some text))).node? p = some .directory := by
    intro p hp
    have hne : p ≠ place := fun heq => hnode (heq ▸ hp)
    rw [node?_put_of_ne hne, hp]
  rw [readText_of_find (find_eq_ok_of_directories hdirectories rfl hfind), node?_put_self hnode]

end

/-! ## Another text in a file -/

section

variable {text : Option String} (htext : tree.node? place = some (.file text))
  (text' : Option String)

include htext

theorem node?_put_file (p : List String) :
    (tree.put place (.file text')).node? p =
      if p = place then some (.file text') else tree.node? p := by
  by_cases hp : p = place
  · rw [if_pos hp, hp, node?_put_self (by simp [htext])]
  · rw [if_neg hp, node?_put_of_ne hp]

/-- All paths lead where they led, and fail as they failed. -/
theorem find_put_file (path : String) :
    (tree.put place (.file text')).find path = tree.find path := by
  refine find_congr ?_ workingDirectory_put path
  intro p
  rw [node?_put_file htext]
  split
  · next hp =>
    rw [hp, htext]
    rfl
  · rfl

theorem isThere_put_file (path : String) :
    (tree.put place (.file text')).isThere path = tree.isThere path := by
  rw [isThere, isThere, find_put_file htext]
  cases tree.find path with
  | error failure => rfl
  | ok p =>
    simp only [node?_put_file htext]
    split
    · next hp => rw [hp, htext, Option.isSome_some, Option.isSome_some]
    · rfl

theorem readText_put_file {path : String} (h : tree.find path ≠ .ok place) :
    (tree.put place (.file text')).readText path = tree.readText path := by
  cases hfind : tree.find path with
  | error failure =>
    rw [readText_of_find_error hfind,
      readText_of_find_error ((find_put_file htext text' path).trans hfind)]
  | ok p =>
    have hp : p ≠ place := by
      rintro rfl
      exact h hfind
    rw [readText_of_find hfind, readText_of_find ((find_put_file htext text' path).trans hfind),
      node?_put_of_ne hp]

theorem readText_put_file_self {path : String} (hfind : tree.find path = .ok place) :
    (tree.put place (.file text')).readText path =
      match text' with
      | some text => .ok text
      | none => .error .notUtf8 := by
  rw [readText_of_find ((find_put_file htext text' path).trans hfind), node?_put_file htext,
    if_pos rfl]
  cases text' with
  | some text => rfl
  | none => rfl

theorem node?_put_file_eq_directory (p : List String) :
    (tree.put place (.file text')).node? p = some .directory ↔ tree.node? p = some .directory := by
  rw [node?_put_file htext]
  split
  · next hp => simp [hp, htext]
  · rfl

theorem target_put_file (path : String) :
    (tree.put place (.file text')).target path = tree.target path := by
  simp only [target, find_put_file htext, node?_put_file_eq_directory htext]

/-- A text is written as before, and only the file with the other text may differ after it. -/
theorem writeText_put_file (storage : Storage) (path written : String) :
    ((tree.put place (.file text')).writeText storage path written).1 =
        (tree.writeText storage path written).1 ∧
      ∀ other ≠ place,
        ((tree.put place (.file text')).writeText storage path written).2.node? other =
          (tree.writeText storage path written).2.node? other := by
  have htarget' := target_put_file htext text' path
  have hput (node : FileNode) {p other : List String} (hother : other ≠ place)
      (hp : tree.node? p ≠ some .directory) :
      ((tree.put place (.file text')).put p node).node? other = (tree.put p node).node? other := by
    by_cases hsame : other = p
    · rw [hsame, node?_put_self hp, node?_put_self]
      rwa [Ne, node?_put_file_eq_directory htext]
    · rw [node?_put_of_ne hsame, node?_put_of_ne hsame, node?_put_of_ne hother]
  cases htarget : tree.target path with
  | error failure =>
    rw [htarget] at htarget'
    rw [writeText_of_target_error htarget, writeText_of_target_error htarget']
    exact ⟨rfl, fun other hother => node?_put_of_ne hother _⟩
  | ok p =>
    rw [htarget] at htarget'
    have hp := (target_eq_ok_iff.1 htarget).2.2
    cases hstorage : storage p written with
    | none =>
      rw [writeText_of_sound htarget hstorage, writeText_of_sound htarget' hstorage]
      exact ⟨rfl, fun other hother => hput _ hother hp⟩
    | some fault =>
      rw [writeText_of_fault htarget hstorage, writeText_of_fault htarget' hstorage]
      exact ⟨rfl, fun other hother => hput _ hother hp⟩

end

end FileTree

end Timetable
