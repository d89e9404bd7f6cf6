import Flowdesk.Files.Memory

/-!
# Files in memory, written and read

A file that was written is read back, every other file stays as it was, and folders are
only added. The folders around a location are shorter than it, so a write never hides the
file that it writes. A refused write changes nothing.
-/

namespace Flowdesk.Files.Memory

open Data Text.Utf8

/-- The members among the folders after more were made. -/
theorem mem_addFolders (memory : Memory) (folders : List String) (name : String) :
    name ∈ (memory.addFolders folders).folders ↔ name ∈ memory.folders ∨ name ∈ folders :=
  NameSet.mem_foldl_insert folders memory.folders name

/-- A folder around a location is shorter than what was passed and what is left. -/
theorem length_lt_of_mem_foldersAround {folder : String} {passed rest : List Char}
    (around : folder ∈ foldersAround passed rest) :
    folder.toList.length < passed.length + rest.length := by
  induction rest generalizing passed with
  | nil => exact absurd around List.not_mem_nil
  | cons c rest inductionHypothesis =>
    have later : folder ∈ foldersAround (c :: passed) rest →
        folder.toList.length < passed.length + (c :: rest).length := by
      intro member
      have shorter := inductionHypothesis member
      simp only [List.length_cons] at shorter ⊢
      omega
    rw [foldersAround] at around
    split at around
    · rcases List.mem_cons.mp around with rfl | member
      · simp
      · exact later member
    · exact later around

/-- No location is a folder around itself. -/
theorem location_not_mem_foldersAround (path : String) :
    location path ∉ foldersAround [] (trimmed path) := by
  intro around
  have shorter := length_lt_of_mem_foldersAround around
  simp [location] at shorter

/-- A file is read exactly if its bytes are kept and no folder hides it. -/
theorem read_eq_ok_iff (memory : Memory) (path : String) (bytes : Bytes) :
    memory.read path = .ok bytes ↔
      location path ∉ memory.folders ∧ memory.files.get? (location path) = some bytes := by
  unfold read
  split
  · next hidden => simp [hidden]
  · next shown =>
    cases kept : memory.files.get? (location path) with
    | none => simp
    | some found => simp [shown]

section Write

variable {memory written : Memory} {path : String} {bytes : Bytes}

/-- A write that succeeds was not in the way of a folder, keeps the bytes and makes the
folders around them. -/
theorem write_eq_ok (done : memory.write path bytes = .ok written) :
    location path ∉ memory.folders ∧
      written = { memory.addFolders (foldersAround [] (trimmed path)) with
        files := memory.files.put (location path) bytes } := by
  unfold write at done
  split at done
  · exact nomatch done
  · split at done
    · exact nomatch done
    · next shown =>
      cases done
      exact ⟨shown, rfl⟩

/-- What is kept under every location after a write. -/
theorem get?_of_write (done : memory.write path bytes = .ok written) (place : String) :
    written.files.get? place =
      if location path = place then some bytes else memory.files.get? place := by
  rw [(write_eq_ok done).2]
  exact Table.get?_put memory.files (location path) place bytes

/-- A write leaves the folders that there are. -/
theorem mem_folders_of_write (done : memory.write path bytes = .ok written) {name : String}
    (folder : name ∈ memory.folders) : name ∈ written.folders := by
  rw [(write_eq_ok done).2]
  exact (mem_addFolders _ _ _).mpr (.inl folder)

/-- What was written is read. -/
theorem read_of_write (done : memory.write path bytes = .ok written) :
    written.read path = .ok bytes := by
  refine (read_eq_ok_iff written path bytes).mpr ⟨?_, ?_⟩
  · obtain ⟨shown, rfl⟩ := write_eq_ok done
    intro hidden
    rcases (mem_addFolders _ _ _).mp hidden with before | around
    · exact shown before
    · exact location_not_mem_foldersAround path around
  · rw [get?_of_write done, if_pos rfl]

theorem store_write_of_ok (done : memory.write path bytes = .ok written) :
    Store.write memory path bytes = (written, .ok ()) := by
  simp only [Store.write, done]

theorem store_write_of_error {failure : Failure}
    (refused : memory.write path bytes = .error failure) :
    Store.write memory path bytes = (memory, .error failure) := by
  simp only [Store.write, refused]

end Write

end Flowdesk.Files.Memory
