import Citations.Discovery.Basic
import Citations.Proofs.Host

/-!
# Discovered sources exist

A candidate counts only when a file is there at that moment, so every discovered source is the
reported form of the path of some file. A source whose file is away is therefore not among the
discovered ones, whatever the document declares.
-/
namespace Citations

namespace Discovery

variable {settings : Settings} {surroundings : Surroundings} {host : Host} {text : Text}
variable {path candidate source : Path}

/-- A candidate stands for the reported form of a file that exists. -/
theorem probe?_exists (probed : probe? host candidate = some source) :
    ∃ file, host.doesExist file = true ∧ host.canonical file = source := by
  obtain ⟨file, found, reported⟩ := Option.map_eq_some_iff.mp probed
  exact ⟨file, List.find?_some found, reported⟩

/-- A discovered source is the reported form of a file that exists. -/
theorem exists_of_isIn_discover
    (found : path.isIn (discover settings surroundings host text).1 = true) :
    ∃ file, host.doesExist file = true ∧ Path.Same (host.canonical file) path := by
  obtain ⟨source, listed, same⟩ := Path.isIn_iff.mp (Path.isIn_distinct.mp found)
  obtain ⟨candidate, _, probed⟩ := List.mem_filterMap.mp listed
  obtain ⟨file, present, reported⟩ := probe?_exists probed
  exact ⟨file, present, reported ▸ same⟩

/-- With files in memory, a discovered source is one of the files. -/
theorem isSome_of_isIn_discover {memory : Memory}
    (found : path.isIn (discover settings surroundings memory.host text).1 = true) :
    (Memory.lookup? memory.files path).isSome = true := by
  obtain ⟨file, present, same⟩ := exists_of_isIn_discover found
  rw [← Memory.lookup?_congr same]
  exact present

/-- A file that was just removed is not discovered. -/
theorem isIn_discover_remove (memory : Memory) :
    path.isIn (discover settings surroundings (memory.remove path).host text).1 = false := by
  rw [← Bool.not_eq_true]
  intro found
  have there := isSome_of_isIn_discover found
  rw [Memory.remove, Memory.lookup?_without_same (Path.Same.refl path)] at there
  contradiction

end Discovery

end Citations
