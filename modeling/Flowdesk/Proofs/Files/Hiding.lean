import Mathlib.Data.List.DropRight
import Flowdesk.Proofs.Files.Memory

/-!
# Files that folders hide

Files and folders of a store in memory are kept apart, and only a write looks at both: it
refuses a place that is a folder. The other way round nothing is checked, so a folder may
be made where a file is kept, by asking for it or by asking for anything below it. From
then on the file is there but is not read, and no write reaches it any more. Every other
file is read as it was last written, and the folders around a file are always there.
-/

namespace Flowdesk.Files.Memory

open Data Text.Utf8

/-- What may be asked of a store in memory that changes it. -/
inductive Operation where
  | write (path : String) (bytes : Bytes)
  | makeFolder (path : String)
  | refuse (path : String)
  deriving DecidableEq, Repr

/-- The store after one operation. A write that fails leaves it as it was. -/
def act (memory : Memory) : Operation → Memory
  | .write path bytes => (Store.write memory path bytes).1
  | .makeFolder path => memory.makeFolder path
  | .refuse path => memory.refuse path

/-- The store after operations. -/
def run (memory : Memory) (operations : List Operation) : Memory := operations.foldl act memory

/-- The store that operations make of one that holds only the root. -/
def after (operations : List Operation) : Memory := empty.run operations

/-- A folder stands around a place: it is the root, or it is what stands before one of the
slashes of the place. -/
def Encloses (folder place : String) : Prop :=
  folder = "" ∧ place ≠ "" ∨
    ∃ front rest, place.toList = front ++ '/' :: rest ∧ folder = location (String.ofList front)

/-- An operation makes a folder of a place: it asks for this folder or for one below it, or
it writes a file below it. -/
def Covers (memory : Memory) (place : String) : Operation → Prop
  | .write path bytes =>
      (∃ written, memory.write path bytes = .ok written) ∧ Encloses place (location path)
  | .makeFolder path => place = location path ∨ Encloses place (location path)
  | .refuse _ => False

/-- Some operation of a run makes a folder of a place. -/
def Covered (memory : Memory) (operations : List Operation) (place : String) : Prop :=
  ∃ earlier operation later, operations = earlier ++ operation :: later ∧
    Covers (memory.run earlier) place operation

/-- Some operation of a run writes the file at a place. -/
def Rewritten (memory : Memory) (operations : List Operation) (place : String) : Prop :=
  ∃ earlier path bytes later written, operations = earlier ++ .write path bytes :: later ∧
    (memory.run earlier).write path bytes = .ok written ∧ location path = place

section Around

/-- The folders around a location are what stands before its slashes, save for slashes that
follow another one. -/
theorem mem_foldersAround_iff {folder : String} {passed rest : List Char} :
    folder ∈ foldersAround passed rest ↔
      ∃ front after, rest = front ++ '/' :: after ∧
        (front.reverse ++ passed).head? ≠ some '/' ∧
        folder = String.ofList (passed.reverse ++ front) := by
  induction rest generalizing passed with
  | nil => simp [foldersAround]
  | cons c rest inductionHypothesis =>
    have inner : folder ∈ foldersAround (c :: passed) rest ↔
        ∃ front after, c :: rest = (c :: front) ++ '/' :: after ∧
          ((c :: front).reverse ++ passed).head? ≠ some '/' ∧
          folder = String.ofList (passed.reverse ++ c :: front) := by
      simp [inductionHypothesis]
    constructor
    · intro around
      rw [foldersAround] at around
      split at around
      · next slash =>
        rcases List.mem_cons.mp around with rfl | member
        · exact ⟨[], rest, by simp [slash.1], by simpa using slash.2, by simp⟩
        · obtain ⟨front, after, split⟩ := inner.mp member
          exact ⟨c :: front, after, split⟩
      · next noSlash =>
        obtain ⟨front, after, split⟩ := inner.mp around
        exact ⟨c :: front, after, split⟩
    · rintro ⟨front, after, whole, unslashed, named⟩
      cases front with
      | nil =>
        obtain ⟨rfl, rfl⟩ := List.cons.inj whole
        rw [foldersAround, if_pos ⟨rfl, unslashed⟩]
        exact List.mem_cons.mpr (.inl (by simpa using named))
      | cons first front =>
        obtain ⟨rfl, rest⟩ := List.cons.inj whole
        have member := inner.mpr ⟨front, after, whole, unslashed, named⟩
        rw [foldersAround]
        split
        · exact List.mem_cons_of_mem _ member
        · exact member

/-- Slashes are dropped from the end of what does not start with one. -/
theorem location_ofList {front : List Char} (unslashed : front.head? ≠ some '/') :
    location (String.ofList front) = String.ofList (front.rdropWhile (· = '/')) := by
  have whole : front.dropWhile (· = '/') = front := by
    cases front with
    | nil => rfl
    | cons first front => simpa using unslashed
  rw [location, trimmed, String.toList_ofList, whole, List.rdropWhile]

/-- A trimmed path does not start with a slash. -/
theorem head?_trimmed (path : String) : (trimmed path).head? ≠ some '/' := by
  intro slash
  have start : (trimmed path) <+: path.toList.dropWhile (· = '/') :=
    List.rdropWhile_prefix (· = '/') (path.toList.dropWhile (· = '/'))
  have kept : (path.toList.dropWhile (· = '/')).head? = some '/' := by
    obtain ⟨rest, whole⟩ := start
    rw [← whole, List.head?_append, slash, Option.some_or]
  have dropped := List.head?_dropWhile_not (· = '/') path.toList
  rw [kept] at dropped
  simp at dropped

/-- What stands before a slash of a trimmed path does not start with one either. -/
theorem head?_ne_of_trimmed {path : String} {front rest : List Char}
    (whole : trimmed path = front ++ '/' :: rest) : front.head? ≠ some '/' := by
  have start := head?_trimmed path
  rw [whole] at start
  cases front with
  | nil => simp
  | cons first front => simpa using start

/-- What is left without slashes at the end does not end with one. -/
theorem head?_reverse_rdropWhile (front : List Char) :
    (front.rdropWhile (· = '/')).reverse.head? ≠ some '/' := by
  rw [List.rdropWhile, List.reverse_reverse]
  intro slash
  have dropped := List.head?_dropWhile_not (· = '/') front.reverse
  rw [slash] at dropped
  simp at dropped

/-- The folders that are made for a path are what stands before a slash of its location. -/
theorem mem_foldersAround_trimmed_iff (path folder : String) :
    folder ∈ foldersAround [] (trimmed path) ↔
      ∃ front rest, (location path).toList = front ++ '/' :: rest ∧
        folder = location (String.ofList front) := by
  rw [mem_foldersAround_iff, location, String.toList_ofList]
  simp only [List.append_nil, List.reverse_nil, List.nil_append]
  constructor
  · rintro ⟨front, rest, whole, unslashed, rfl⟩
    refine ⟨front, rest, whole, ?_⟩
    have kept : front.rdropWhile (· = '/') = front := by
      apply List.rdropWhile_eq_self_iff.mpr
      intro filled
      simpa [List.head?_reverse, List.getLast?_eq_some_getLast filled] using unslashed
    rw [location_ofList (head?_ne_of_trimmed whole), kept]
  · rintro ⟨front, rest, whole, rfl⟩
    have parted : front.rdropWhile (· = '/') ++ front.rtakeWhile (· = '/') = front :=
      List.rdropWhile_append_rtakeWhile
    -- The first of the slashes that follow what is kept is the one that makes the folder.
    obtain ⟨after, slashed⟩ :
        ∃ after, front.rtakeWhile (· = '/') ++ '/' :: rest = '/' :: after := by
      cases taken : front.rtakeWhile (· = '/') with
      | nil => exact ⟨rest, rfl⟩
      | cons first more =>
        have member : first ∈ front.rtakeWhile (· = '/') := by simp [taken]
        have slash : first = '/' := by simpa using List.mem_rtakeWhile_imp member
        exact ⟨more ++ '/' :: rest, by rw [slash, List.cons_append]⟩
    refine ⟨front.rdropWhile (· = '/'), after, ?_, head?_reverse_rdropWhile front,
      location_ofList (head?_ne_of_trimmed whole)⟩
    calc
      trimmed path = front ++ '/' :: rest := whole
      _ = front.rdropWhile (· = '/') ++ (front.rtakeWhile (· = '/') ++ '/' :: rest) := by
        rw [← List.append_assoc, parted]
      _ = front.rdropWhile (· = '/') ++ '/' :: after := by rw [slashed]

/-- The folders around the location of a path are the root and those that are made for it. -/
theorem encloses_location_iff (path folder : String) :
    Encloses folder (location path) ↔
      folder = "" ∧ location path ≠ "" ∨ folder ∈ foldersAround [] (trimmed path) := by
  rw [Encloses, mem_foldersAround_trimmed_iff]

end Around

section Step

variable (memory : Memory)

/-- The store after a write is the one that was written, or the same one. -/
theorem act_write {written : Memory} {path : String} {bytes : Bytes}
    (done : memory.write path bytes = .ok written) :
    memory.act (.write path bytes) = written := by
  rw [act, store_write_of_ok done]

/-- A write that is refused changes nothing. -/
theorem act_write_of_error {path : String} {bytes : Bytes} {failure : Failure}
    (failed : memory.write path bytes = .error failure) :
    memory.act (.write path bytes) = memory := by
  rw [act, store_write_of_error failed]

/-- After an operation the folders are those there were and those it makes. -/
theorem mem_folders_act {memory : Memory} (rooted : "" ∈ memory.folders) (place : String)
    (operation : Operation) :
    place ∈ (memory.act operation).folders ↔
      place ∈ memory.folders ∨ Covers memory place operation := by
  cases operation with
  | write path bytes =>
    cases outcome : memory.write path bytes with
    | error failure =>
      simp [act_write_of_error memory outcome, Covers, outcome]
    | ok written =>
      have member : place ∈ written.folders ↔
          place ∈ memory.folders ∨ place ∈ foldersAround [] (trimmed path) := by
        rw [(write_eq_ok outcome).2]
        exact mem_addFolders memory _ place
      rw [act_write memory outcome, member, Covers, encloses_location_iff]
      constructor
      · rintro (before | around)
        · exact .inl before
        · exact .inr ⟨⟨written, outcome⟩, .inr around⟩
      · rintro (before | ⟨_, ⟨rfl, _⟩ | around⟩)
        · exact .inl before
        · exact .inl rooted
        · exact .inr around
  | makeFolder path =>
    rw [act, makeFolder, mem_addFolders, Covers, encloses_location_iff, List.mem_append,
      List.mem_singleton]
    constructor
    · rintro (before | around | same)
      · exact .inl before
      · exact .inr (.inr (.inr around))
      · exact .inr (.inl same)
    · rintro (before | same | ⟨rfl, _⟩ | around)
      · exact .inl before
      · exact .inr (.inr same)
      · exact .inl rooted
      · exact .inr (.inl around)
  | refuse path => simp [act, refuse, Covers]

/-- A file that an operation does not write is kept as it was. -/
theorem get?_act_of_not_written {place : String} {operation : Operation}
    (unwritten : ∀ path bytes written, operation = .write path bytes →
      memory.write path bytes = .ok written → location path ≠ place) :
    (memory.act operation).files.get? place = memory.files.get? place := by
  cases operation with
  | write path bytes =>
    cases outcome : memory.write path bytes with
    | error failure => rw [act_write_of_error memory outcome]
    | ok written =>
      rw [act_write memory outcome, get?_of_write outcome,
        if_neg (unwritten path bytes written rfl outcome)]
  | makeFolder path => rfl
  | refuse path => rfl

/-- No operation removes a file. -/
theorem contains_act {place : String} (kept : memory.files.contains place = true)
    (operation : Operation) : (memory.act operation).files.contains place = true := by
  cases operation with
  | write path bytes =>
    cases outcome : memory.write path bytes with
    | error failure => rwa [act_write_of_error memory outcome]
    | ok written =>
      rw [act_write memory outcome, (write_eq_ok outcome).2, Table.contains_put, kept,
        Bool.or_true]
  | makeFolder path => exact kept
  | refuse path => exact kept

/-- The folders around every file are there. -/
def Housed : Prop :=
  "" ∈ memory.folders ∧
    ∀ place, memory.files.contains place = true → ∀ folder, Encloses folder place →
      folder ∈ memory.folders

/-- The empty store has no files to house. -/
theorem housed_empty : Housed empty := by
  constructor
  · simp [empty]
  · intro place kept
    simp [empty, Table.contains] at kept

/-- No operation takes a folder from around a file, and a write makes those that are
missing around its own. -/
theorem Housed.act {memory : Memory} (housed : Housed memory) (operation : Operation) :
    Housed (memory.act operation) := by
  obtain ⟨rooted, around⟩ := housed
  have grown : ∀ name, name ∈ memory.folders → name ∈ (memory.act operation).folders :=
    fun name folder => (mem_folders_act rooted name operation).mpr (.inl folder)
  refine ⟨grown "" rooted, ?_⟩
  intro place kept folder encloses
  by_cases before : memory.files.contains place = true
  · exact grown folder (around place before folder encloses)
  · -- The file is new, so this operation wrote it and made what encloses it.
    by_contra missing
    apply before
    rw [Table.contains, ← get?_act_of_not_written memory, ← Table.contains, kept]
    rintro path bytes written rfl done rfl
    exact missing ((mem_folders_act rooted folder _).mpr (.inr ⟨⟨written, done⟩, encloses⟩))

end Step

section Run

variable {memory : Memory}

theorem run_append (memory : Memory) (earlier later : List Operation) :
    memory.run (earlier ++ later) = (memory.run earlier).run later :=
  List.foldl_append

theorem run_cons (memory : Memory) (operation : Operation) (later : List Operation) :
    memory.run (operation :: later) = (memory.act operation).run later := rfl

/-- Every file stays in its folders whatever is done. -/
theorem Housed.run (housed : Housed memory) (operations : List Operation) :
    Housed (memory.run operations) := by
  induction operations generalizing memory with
  | nil => exact housed
  | cons operation later inductionHypothesis =>
    exact inductionHypothesis (housed.act operation)

/-- A file that is there stays there, with some content. -/
theorem contains_run {place : String} (kept : memory.files.contains place = true)
    (operations : List Operation) : (memory.run operations).files.contains place = true := by
  induction operations generalizing memory with
  | nil => exact kept
  | cons operation later inductionHypothesis =>
    exact inductionHypothesis (contains_act memory kept operation)

theorem not_covered_nil (memory : Memory) (place : String) : ¬Covered memory [] place := by
  rintro ⟨earlier, operation, later, none, _⟩
  simp at none

/-- A place is covered by the first operation or by a later one. -/
theorem covered_cons_iff (memory : Memory) (place : String) (operation : Operation)
    (later : List Operation) :
    Covered memory (operation :: later) place ↔
      Covers memory place operation ∨ Covered (memory.act operation) later place := by
  constructor
  · rintro ⟨earlier, covering, rest, whole, covers⟩
    cases earlier with
    | nil =>
      obtain ⟨rfl, rfl⟩ := List.cons.inj whole
      exact .inl covers
    | cons first earlier =>
      obtain ⟨rfl, rfl⟩ := List.cons.inj whole
      exact .inr ⟨earlier, covering, rest, rfl, covers⟩
  · rintro (covers | ⟨earlier, covering, rest, rfl, covers⟩)
    · exact ⟨[], operation, later, rfl, covers⟩
    · exact ⟨operation :: earlier, covering, rest, rfl, covers⟩

/-- After a run the folders are those there were and those that its operations make. -/
theorem mem_folders_run (housed : Housed memory) (place : String)
    (operations : List Operation) :
    place ∈ (memory.run operations).folders ↔
      place ∈ memory.folders ∨ Covered memory operations place := by
  induction operations generalizing memory with
  | nil => simp [run, not_covered_nil]
  | cons operation later inductionHypothesis =>
    rw [run_cons, inductionHypothesis (housed.act operation), covered_cons_iff,
      mem_folders_act housed.1, or_assoc]

/-- A place that is rewritten later is rewritten. -/
theorem Rewritten.cons {place : String} {operation : Operation} {later : List Operation}
    (rewritten : Rewritten (memory.act operation) later place) :
    Rewritten memory (operation :: later) place := by
  obtain ⟨earlier, path, bytes, rest, written, rfl, done, same⟩ := rewritten
  exact ⟨operation :: earlier, path, bytes, rest, written, rfl, done, same⟩

/-- A file that no operation of a run writes is kept as it was. -/
theorem get?_run_of_not_rewritten {place : String} {operations : List Operation}
    (unwritten : ¬Rewritten memory operations place) :
    (memory.run operations).files.get? place = memory.files.get? place := by
  induction operations generalizing memory with
  | nil => rfl
  | cons operation later inductionHypothesis =>
    rw [run_cons, inductionHypothesis fun rewritten => unwritten rewritten.cons,
      get?_act_of_not_written]
    rintro path bytes written rfl done same
    exact unwritten ⟨[], path, bytes, later, written, rfl, done, same⟩

/-- A file that is there after a run and was not there before was written by one of its
operations. -/
theorem rewritten_of_contains_run {place : String} {operations : List Operation}
    (absent : memory.files.contains place = false)
    (kept : (memory.run operations).files.contains place = true) :
    Rewritten memory operations place := by
  by_contra unwritten
  rw [Table.contains, get?_run_of_not_rewritten unwritten, ← Table.contains, absent] at kept
  exact Bool.false_ne_true kept

end Run

section Kept

variable {earlier later : List Operation} {path : String} {bytes : Bytes} {written : Memory}

/-- The store of a run with a write that succeeds is the one that the rest of the run makes
of what was written. -/
theorem after_append_write (done : (after earlier).write path bytes = .ok written) :
    after (earlier ++ .write path bytes :: later) = written.run later := by
  rw [after, run_append, run_cons, ← after, act_write _ done]

theorem housed_of_write (done : (after earlier).write path bytes = .ok written) :
    Housed written := by
  rw [← act_write _ done]
  exact (housed_empty.run earlier).act _

/-- After a write that succeeds its place is a folder exactly if a later operation makes it
one. -/
theorem mem_folders_run_of_write (done : (after earlier).write path bytes = .ok written) :
    location path ∈ (written.run later).folders ↔ Covered written later (location path) := by
  have shown : location path ∉ written.folders :=
    ((read_eq_ok_iff written path bytes).mp (read_of_write done)).1
  rw [mem_folders_run (housed_of_write done)]
  exact or_iff_right shown

theorem contains_run_of_write (done : (after earlier).write path bytes = .ok written) :
    (written.run later).files.contains (location path) = true := by
  apply contains_run
  rw [Table.contains, get?_of_write done, if_pos rfl, Option.isSome_some]

end Kept

/-- The folders around every file of a store are folders of it. A file and a folder share a
place exactly if some operation made a folder of the place after a file was written there.
What a write left is there whatever follows, and until the file is written anew it is read
exactly as long as no operation makes a folder of its place.

Proof: every write makes the folders around its file, and no operation takes a folder or a file
away. So a place that has both got the file first, since a file is not written where a folder is,
and it is the last write there that is read or hidden. -/
theorem read_after_iff (operations : List Operation) :
    (∀ place, (after operations).files.contains place = true →
      ∀ folder, Encloses folder place → folder ∈ (after operations).folders) ∧
    (∀ place, (after operations).files.contains place = true ∧
        place ∈ (after operations).folders ↔
      ∃ earlier path bytes later written, operations = earlier ++ .write path bytes :: later ∧
        (after earlier).write path bytes = .ok written ∧ location path = place ∧
        Covered written later place) ∧
    ∀ earlier path bytes later written, operations = earlier ++ .write path bytes :: later →
      (after earlier).write path bytes = .ok written →
      ¬Rewritten written later (location path) →
        (after operations).contains path = true ∧
        ((after operations).read path = .ok bytes ↔ ¬Covered written later (location path)) ∧
        (Covered written later (location path) →
          (after operations).read path = .error (.isDirectory (location path))) := by
  refine ⟨(housed_empty.run operations).2, ?_, ?_⟩
  · intro place
    constructor
    · rintro ⟨kept, hidden⟩
      obtain ⟨earlier, path, bytes, later, written, rfl, done, rfl⟩ :=
        rewritten_of_contains_run rfl kept
      rw [after_append_write done, mem_folders_run_of_write done] at hidden
      exact ⟨earlier, path, bytes, later, written, rfl, done, rfl, hidden⟩
    · rintro ⟨earlier, path, bytes, later, written, rfl, done, rfl, covered⟩
      rw [after_append_write done]
      exact ⟨contains_run_of_write done, (mem_folders_run_of_write done).mpr covered⟩
  · rintro earlier path bytes later written rfl done unwritten
    have kept : (written.run later).files.get? (location path) = some bytes := by
      rw [get?_run_of_not_rewritten unwritten, get?_of_write done, if_pos rfl]
    rw [after_append_write done, read_eq_ok_iff, mem_folders_run_of_write done]
    refine ⟨?_, and_iff_left kept, ?_⟩
    · rw [contains, contains_run_of_write done, Bool.true_or]
    · intro covered
      rw [read, if_pos ((mem_folders_run_of_write done).mpr covered)]

/-- A folder that is made around a file leaves it to be read, and so does a refusal of later
writes. -/
theorem file_below_made_folder_is_read :
    (after [.write "a/b" [120], .makeFolder "a", .refuse "a/b"]).read "a/b" = .ok [120] := by
  have done : (after []).write "a/b" [120] = .ok (after [.write "a/b" [120]]) := rfl
  have unwritten : ¬Rewritten (after [.write "a/b" [120]]) [.makeFolder "a", .refuse "a/b"]
      (location "a/b") := by
    rintro ⟨earlier, path, bytes, rest, written, split, _⟩
    have member : .write path bytes ∈ [Operation.makeFolder "a", .refuse "a/b"] := by
      simp [split]
    simp at member
  have uncovered : ¬Covered (after [.write "a/b" [120]]) [.makeFolder "a", .refuse "a/b"]
      (location "a/b") := by
    rw [covered_cons_iff, covered_cons_iff]
    rintro ((same | encloses) | never | rest)
    · exact absurd same (by decide)
    · exact absurd ((encloses_location_iff "a" (location "a/b")).mp encloses) (by decide)
    · exact never
    · exact not_covered_nil _ _ rest
  obtain ⟨_, read, _⟩ :=
    (read_after_iff [.write "a/b" [120], .makeFolder "a", .refuse "a/b"]).2.2
      [] "a/b" [120] _ _ rfl done unwritten
  exact read.mpr uncovered

/-- A file is hidden by a folder that is made at its place, be it asked for or made around a
file below it. It is still there and is not read. -/
theorem folder_hides_file :
    let asked := after [.write "a" [120], .makeFolder "a"]
    let around := after [.write "a" [120], .write "a/b" [121]]
    (asked.files.contains "a" = true ∧ "a" ∈ asked.folders ∧ asked.contains "a" = true ∧
      asked.read "a" = .error (.isDirectory "a")) ∧
    (around.files.contains "a" = true ∧ "a" ∈ around.folders ∧ around.contains "a" = true ∧
      around.read "a" = .error (.isDirectory "a")) := by
  decide

end Flowdesk.Files.Memory
