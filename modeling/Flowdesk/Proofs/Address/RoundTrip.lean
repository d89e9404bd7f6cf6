import Mathlib.Data.List.DropRight
import Flowdesk.Proofs.Address.Percent

/-!
# Paths through addresses and back

A straight path is absolute and goes down by names alone: none of its segments is empty or
one of dots. Its address is the scheme, two slashes and the path with the bytes escaped that
have a meaning there. Reading the address finds nothing to drop, no host and no segment to
resolve, so the escapes are decoded to the bytes of the path. One thing is added: a path that
ends with a letter and a colon or a bar reads as a drive, and a drive ends with a slash.
-/

namespace Flowdesk.Address

open Text.Utf8

/-- Whether a segment is a name: neither empty nor of dots. -/
def IsName (segment : List Char) : Prop := segment ∉ [[], ['.'], ['.', '.']]

instance : DecidablePred IsName := fun segment =>
  inferInstanceAs (Decidable (segment ∉ [[], ['.'], ['.', '.']]))

/-- A path from the root that has no empty segment and none of one or two dots. -/
def Straight (path : String) : Prop :=
  ∃ rest, path.toList = '/' :: rest ∧
    (rest = [] ∨ ∀ segment ∈ rest.splitOn '/', IsName segment)

/-- Whether a path ends as the name of a drive does. -/
def endsInDrive (path : String) : Bool := isDrive (path.toList.rtake 2)

/-- Segments, each with a slash before it. -/
def joined (segments : List (List Char)) : List Char := segments.flatMap ('/' :: ·)

/-- What stands before a slash at the start is an empty segment. -/
theorem segments_slash (rest : List Char) :
    segments ('/' :: rest) = ([], true) :: segments rest := rfl

section Segments

variable {word : List Char} (free : ∀ c ∈ word, isSlash c = false)

include free

/-- A word is the first segment of what has a slash after it. -/
theorem segments_append_slash (rest : List Char) :
    segments (word ++ '/' :: rest) = (word, true) :: segments rest := by
  induction word with
  | nil => rfl
  | cons c word inductionHypothesis =>
    have head : isSlash c = false := free c List.mem_cons_self
    rw [List.cons_append, segments, head, inductionHypothesis fun other member =>
      free other (List.mem_cons_of_mem c member)]
    rfl

/-- A word is a single segment. -/
theorem segments_of_word : segments word = [(word, false)] := by
  induction word with
  | nil => rfl
  | cons c word inductionHypothesis =>
    have head : isSlash c = false := free c List.mem_cons_self
    rw [segments, head, inductionHypothesis fun other member =>
      free other (List.mem_cons_of_mem c member)]
    rfl

end Segments

/-- Beyond the root a segment of no dots is taken as it is. -/
theorem take_into {walk : Walk} (deep : 2 ≤ walk.path.length) {segment : List Char}
    (into : stepOf segment = .into) (slash : Bool) :
    walk.take (segment, slash) =
      { walk with path := walk.path ++ segment ++ if slash then ['/'] else [] } := by
  obtain ⟨path, drive⟩ := walk
  have slashed : ∀ path : List Char,
      (if slash = true then path ++ ['/'] else path) = path ++ if slash then ['/'] else [] := by
    intro path
    cases slash <;> simp
  simp only [Walk.take, into]
  split
  · simp at deep
  · simp only [slashed]

theorem isName_iff {segment : List Char} :
    IsName segment ↔ segment ≠ [] ∧ segment ≠ ['.'] ∧ segment ≠ ['.', '.'] := by
  simp only [IsName, List.mem_cons, List.not_mem_nil, or_false, not_or]

theorem IsName.into {segment : List Char} (name : IsName segment) :
    stepOf (writeSegment segment) = .into :=
  stepOf_writeSegment (isName_iff.mp name).2.1 (isName_iff.mp name).2.2

theorem IsName.ne_nil {segment : List Char} (name : IsName segment) :
    writeSegment segment ≠ [] :=
  writeSegment_ne_nil (isName_iff.mp name).1

theorem not_isSlash_writeSegment (segment : List Char) :
    ∀ c ∈ writeSegment segment, isSlash c = false :=
  fun _ member => (isWritten_iff.mp (isWritten_of_mem_writeSegment member)).2.1

section Walks

variable {first : List Char} {rest : List (List Char)}

/-- Names that are written are taken one after the other as they are. -/
theorem walk_written (named : IsName first) (others : ∀ segment ∈ rest, IsName segment)
    {walk : Walk} (deep : 2 ≤ walk.path.length) :
    (segments (writeSegment first ++ joined (rest.map writeSegment))).foldl Walk.take walk =
      { walk with path := walk.path ++ writeSegment first ++ joined (rest.map writeSegment) } := by
  induction rest generalizing first walk with
  | nil =>
    simp only [joined, List.map_nil, List.flatMap_nil, List.append_nil,
      segments_of_word (not_isSlash_writeSegment first), List.foldl_cons, List.foldl_nil,
      take_into deep named.into, if_neg Bool.false_ne_true]
  | cons second rest inductionHypothesis =>
    have whole : joined ((second :: rest).map writeSegment) =
        '/' :: (writeSegment second ++ joined (rest.map writeSegment)) := rfl
    have deeper : 2 ≤ (walk.path ++ writeSegment first ++ ['/']).length := by
      simp only [List.length_append]
      omega
    rw [whole, segments_append_slash (not_isSlash_writeSegment first), List.foldl_cons,
      take_into deep named.into, if_pos rfl, inductionHypothesis (others second List.mem_cons_self)
        (fun segment member => others segment (List.mem_cons_of_mem second member)) deeper]
    simp only [List.append_assoc, List.cons_append, List.nil_append]

theorem isWritten_of_mem_joined {c : Char} {parts : List (List Char)}
    (member : c ∈ joined (parts.map writeSegment)) : c = '/' ∨ isWritten c = true := by
  obtain ⟨segment, listed, inside⟩ := List.mem_flatMap.mp member
  obtain ⟨part, _, rfl⟩ := List.mem_map.mp listed
  rcases List.mem_cons.mp inside with rfl | written
  · exact .inl rfl
  · exact .inr (isWritten_of_mem_writeSegment written)

/-- The path that is walked from the root is the one that was written, after the slashes of
the root and of the host that there is none of. -/
theorem path_walkPath (named : IsName first) (others : ∀ segment ∈ rest, IsName segment) :
    (walkPath ['/'] (joined ((first :: rest).map writeSegment))).path =
      '/' :: joined ((first :: rest).map writeSegment) := by
  have endless : (joined ((first :: rest).map writeSegment)).takeWhile (fun c => !endsPath c) =
      joined ((first :: rest).map writeSegment) := by
    apply List.takeWhile_eq_self_iff.mpr
    intro c member
    rcases isWritten_of_mem_joined member with rfl | written
    · rfl
    · rw [(isWritten_iff.mp written).2.2]
      rfl
  have whole : joined ((first :: rest).map writeSegment) =
      '/' :: (writeSegment first ++ joined (rest.map writeSegment)) := rfl
  have root : Walk.take ⟨['/'], false⟩ ([], true) = ⟨['/', '/'], false⟩ := rfl
  have deep : 2 ≤ (⟨['/', '/'], false⟩ : Walk).path.length := Nat.le_refl 2
  rw [walkPath, endless, whole, segments_slash, List.foldl_cons, root,
    walk_written named others deep]
  rfl

end Walks

section Reading

/-- Nothing is dropped from characters none of which is blank. -/
theorem significant_ofList {chars : List Char} (plain : ∀ c ∈ chars, 0x20 < c.toNat) :
    significant (String.ofList chars) = chars := by
  have kept : ∀ list : List Char, (∀ c ∈ list, 0x20 < c.toNat) →
      list.dropWhile isEdge = list := by
    intro list filled
    cases list with
    | nil => rfl
    | cons c list =>
      have above := filled c List.mem_cons_self
      have inside : isEdge c = false := by
        simpa [isEdge] using above
      rw [List.dropWhile_cons, inside, if_neg Bool.false_ne_true]
  have turned : ∀ c ∈ chars.reverse, 0x20 < c.toNat :=
    fun c member => plain c (List.mem_reverse.mp member)
  rw [significant, String.toList_ofList, kept chars plain, kept _ turned, List.reverse_reverse]
  apply List.filter_eq_self.mpr
  intro c member
  have above := plain c member
  have spared : c ≠ '\t' ∧ c ≠ '\n' ∧ c ≠ '\r' := by
    refine ⟨?_, ?_, ?_⟩ <;> rintro rfl <;> exact absurd above (by decide)
  simpa [isDropped, and_assoc] using spared

/-- A path that follows the scheme and no host is walked from its first slash. -/
theorem rawPath?_of_written {path : List Char} (plain : ∀ c ∈ path, 0x20 < c.toNat) :
    rawPath? (String.ofList ("file://".toList ++ '/' :: path)) =
      some ('/' :: (walkPath ['/'] ('/' :: path)).path.dropWhile (· == '/')) := by
  have visible : ∀ c ∈ "file://".toList ++ '/' :: path, 0x20 < c.toNat := by
    intro c member
    rcases List.mem_append.mp member with scheme | later
    · have all : ("file://".toList.all fun c => 0x20 < c.toNat) = true := by decide
      exact of_decide_eq_true (List.all_eq_true.mp all c scheme)
    · rcases List.mem_cons.mp later with rfl | inside
      · decide
      · exact plain c inside
  have scheme : afterFileScheme? ("file://".toList ++ '/' :: path) =
      some ('/' :: '/' :: '/' :: path) := rfl
  have host : pathAfterHost? ('/' :: path) = some (walkPath ['/'] ('/' :: path)).path := rfl
  rw [rawPath?, significant_ofList visible, scheme]
  simp only [Option.bind_eq_bind, Option.bind_some]
  have slash : isSlash '/' = true := rfl
  rw [if_pos slash, if_pos slash, host]
  rfl

end Reading

section Straight

/-- The segments of a path, each after its slash, are the path. -/
theorem joined_splitOn (rest : List Char) : joined (rest.splitOn '/') = '/' :: rest := by
  have whole : ∀ parts : List (List Char), parts ≠ [] →
      joined parts = '/' :: ['/'].intercalate parts := by
    intro parts filled
    induction parts with
    | nil => exact absurd rfl filled
    | cons first parts inductionHypothesis =>
      cases parts with
      | nil => simp [joined]
      | cons second parts =>
        have later := inductionHypothesis (List.cons_ne_nil second parts)
        rw [List.intercalate_cons_cons, List.append_assoc, List.singleton_append, ← later]
        rfl
  rw [whole _ (List.splitOn_ne_nil '/' rest), List.intercalate_splitOn]

/-- An address keeps all segments of a path that are names. -/
theorem keptSegments_eq {rest : List Char} (named : ∀ segment ∈ rest.splitOn '/', IsName segment) :
    keptSegments rest = rest.splitOn '/' := by
  apply List.filter_eq_self.mpr
  intro segment member
  obtain ⟨filled, notHere, -⟩ := isName_iff.mp (named segment member)
  simp [filled, notHere]

/-- The escapes of what was written for segments are decoded to the segments. -/
theorem percentDecode_joined (parts : List (List Char)) :
    percentDecode (bytesOf (joined (parts.map writeSegment))) = bytesOf (joined parts) := by
  have slash : encodeChar '/' = [0x2F] := by decide
  induction parts with
  | nil => rfl
  | cons first parts inductionHypothesis =>
    have written : joined ((first :: parts).map writeSegment) =
        '/' :: (writeSegment first ++ joined (parts.map writeSegment)) := rfl
    have whole : joined (first :: parts) = '/' :: (first ++ joined parts) := rfl
    rw [written, whole, bytesOf_cons, bytesOf_cons, slash, List.singleton_append,
      List.singleton_append, percentDecode_cons (by decide), bytesOf_append, bytesOf_append,
      percentDecode_writeSegment, inductionHypothesis]

theorem visible_of_mem_joined {c : Char} {parts : List (List Char)}
    (member : c ∈ joined (parts.map writeSegment)) : 0x20 < c.toNat := by
  rcases isWritten_of_mem_joined member with rfl | written
  · decide
  · exact (isWritten_iff.mp written).1.1

/-- The address of names is read as they were written. -/
theorem rawPath?_of_joined {first : List Char} {rest : List (List Char)} (named : IsName first)
    (others : ∀ segment ∈ rest, IsName segment) :
    rawPath? (String.ofList ("file://".toList ++ joined ((first :: rest).map writeSegment))) =
      some (joined ((first :: rest).map writeSegment)) := by
  have visible : ∀ c ∈ joined ((first :: rest).map writeSegment), 0x20 < c.toNat :=
    fun _ => visible_of_mem_joined
  have walked := path_walkPath named others
  have whole : joined ((first :: rest).map writeSegment) =
      '/' :: (writeSegment first ++ joined (rest.map writeSegment)) := rfl
  rw [whole] at visible walked ⊢
  rw [rawPath?_of_written fun c member => visible c (List.mem_cons_of_mem '/' member), walked]
  cases written : writeSegment first with
  | nil => exact absurd written named.ne_nil
  | cons c word =>
    have inside : c ∈ writeSegment first := written ▸ List.mem_cons_self
    have notSlash : (c == '/') = false := by
      apply beq_eq_false_iff_ne.mpr
      rintro rfl
      exact absurd (not_isSlash_writeSegment first '/' inside) (by decide)
    simp [notSlash]

/-- The address of a straight path reads as characters that are decoded to the path. -/
theorem rawPath?_of_straight {path : String} (straight : Straight path) :
    ∃ uri raw, uriOf? path = some uri ∧ rawPath? uri = some raw ∧
      percentDecode (bytesOf raw) = bytesOf path.toList := by
  obtain ⟨rest, absolute, root | named⟩ := straight
  · subst root
    refine ⟨"file:///", ['/'], ?_, by decide +kernel, ?_⟩
    · rw [uriOf?, absolute]
      decide +kernel
    · rw [absolute]
      decide +kernel
  · have whole := joined_splitOn rest
    have kept := keptSegments_eq named
    cases split : rest.splitOn '/' with
    | nil => exact absurd split (List.splitOn_ne_nil '/' rest)
    | cons first others =>
      rw [split] at named whole kept
      obtain ⟨name, names⟩ := List.forall_mem_cons.mp named
      refine ⟨_, _, ?_, rawPath?_of_joined name names, ?_⟩
      · rw [uriOf?, absolute]
        simp only [kept, reduceCtorEq, if_false, joined, List.flatMap_map]
      · rw [percentDecode_joined, whole, absolute]

end Straight

section Drive

/-- The last byte of a character is its number, or none of a letter or mark if the character
is none either. -/
theorem encodeChar_cases (c : Char) :
    c.toNat < 0x80 ∧ encodeChar c = [UInt8.ofNat c.toNat] ∨
      0x80 ≤ c.toNat ∧ ∃ front last, encodeChar c = front ++ [last] ∧ 0x80 ≤ last.toNat := by
  have valid := toNat_cases c
  rw [encodeChar_eq]
  by_cases one : c.toNat < 0x80
  · exact .inl ⟨one, if_pos one⟩
  · refine .inr ⟨by omega, ?_⟩
    have high : ∀ bits < 64, 0x80 ≤ (UInt8.ofNat (0x80 + bits)).toNat := by
      intro bits small
      rw [toNat_ofNat (by omega)]
      omega
    rw [if_neg one]
    split
    · exact ⟨[_], _, rfl, high _ (by omega)⟩
    · split
      · exact ⟨[_, _], _, rfl, high _ (by omega)⟩
      · exact ⟨[_, _, _], _, rfl, high _ (by omega)⟩

/-- A character beyond those of one byte is no letter and no mark of a drive. -/
theorem not_drive_of_high {c : Char} (high : 0x80 ≤ c.toNat) :
    (c == ':' || c == '|') = false ∧ c.isAlpha = false := by
  constructor
  · have different : c ≠ ':' ∧ c ≠ '|' := by
      constructor <;> rintro rfl <;> exact absurd high (by decide)
    simp [different.1, different.2]
  · apply Bool.eq_false_iff.mpr
    intro letter
    unfold Char.isAlpha Char.isUpper Char.isLower at letter
    simp only [Bool.or_eq_true, Bool.and_eq_true, decide_eq_true_eq,
      UInt32.le_iff_toNat_le] at letter
    have number : c.toNat = c.val.toNat := rfl
    have bounds : 'Z'.val.toNat = 90 ∧ 'z'.val.toNat = 122 := ⟨rfl, rfl⟩
    omega

theorem endsWithDrive_append (body : Bytes) (letter mark : UInt8) :
    endsWithDrive (body ++ [letter, mark]) =
      (!body.isEmpty && ((mark == 0x3A || mark == 0x7C) && (Char.ofNat letter.toNat).isAlpha)) := by
  have turned : (body ++ [letter, mark]).reverse = mark :: letter :: body.reverse := by simp
  have filled : body.reverse.isEmpty = body.isEmpty := List.isEmpty_reverse
  rw [endsWithDrive, turned, ← filled]
  cases body.reverse <;> rfl

theorem endsWithDrive_of_unmarked {mark : UInt8} (unmarked : (mark == 0x3A || mark == 0x7C) = false)
    (body : Bytes) : endsWithDrive (body ++ [mark]) = false := by
  rcases body.eq_nil_or_concat' with rfl | ⟨body, letter, rfl⟩
  · rfl
  · rw [List.append_assoc, List.singleton_append, endsWithDrive_append, unmarked]
    simp

/-- The last byte of a character tells whether it is a letter or a mark. -/
theorem encodeChar_last (c : Char) :
    ∃ front last, encodeChar c = front ++ [last] ∧
      (last == 0x3A || last == 0x7C) = (c == ':' || c == '|') ∧
      (Char.ofNat last.toNat).isAlpha = c.isAlpha := by
  rcases encodeChar_cases c with ⟨low, byte⟩ | ⟨high, front, last, bytes, highByte⟩
  · have single : ∀ code < 0x80, ∀ c, c = Char.ofNat code →
        (UInt8.ofNat code == 0x3A || UInt8.ofNat code == 0x7C) = (c == ':' || c == '|') ∧
          (Char.ofNat (UInt8.ofNat code).toNat).isAlpha = c.isAlpha := by
      simp only [forall_eq]
      decide +kernel
    exact ⟨[], _, byte, single c.toNat low c (Char.ofNat_toNat c).symm⟩
  · have none : ∀ byte : UInt8, 0x80 ≤ byte.toNat →
        (byte == 0x3A || byte == 0x7C) = false ∧ (Char.ofNat byte.toNat).isAlpha = false :=
      forall_byte (by decide +kernel)
    obtain ⟨unmarked, unlettered⟩ := not_drive_of_high high
    rw [unmarked, unlettered]
    exact ⟨front, last, bytes, none last highByte⟩

/-- The bytes of a path end as the name of a drive does if its characters do. -/
theorem endsWithDrive_bytesOf (rest : List Char) :
    endsWithDrive (bytesOf ('/' :: rest)) = isDrive (('/' :: rest).rtake 2) := by
  rcases rest.eq_nil_or_concat' with rfl | ⟨front, mark, rfl⟩
  · decide
  · obtain ⟨body, letter, split⟩ : ∃ body letter, '/' :: front = body ++ [letter] :=
      ⟨_, _, (List.dropLast_append_getLast (List.cons_ne_nil '/' front)).symm⟩
    obtain ⟨init, last, markBytes, marked, -⟩ := encodeChar_last mark
    obtain ⟨before, byte, letterBytes, -, lettered⟩ := encodeChar_last letter
    have tail : ('/' :: (front ++ [mark])).rtake 2 = [letter, mark] := by
      rw [← List.cons_append, split, List.rtake_concat_succ, List.rtake_concat_succ,
        List.rtake_zero]
      rfl
    have bytes : bytesOf ('/' :: (front ++ [mark])) =
        (bytesOf body ++ before ++ [byte]) ++ init ++ [last] := by
      rw [← List.cons_append, split, bytesOf_append, bytesOf_append, bytesOf_cons, bytesOf_cons,
        letterBytes, markBytes]
      simp [bytesOf]
    rw [tail, bytes]
    cases kind : (mark == ':' || mark == '|') with
    | false =>
      rw [endsWithDrive_of_unmarked (marked.trans kind), isDrive, kind, Bool.and_false]
    | true =>
      have short : init = [] := by
        have one : (encodeChar mark).length = 1 := by
          simp only [Bool.or_eq_true, beq_iff_eq] at kind
          rcases kind with rfl | rfl <;> decide
        rw [markBytes, List.length_append, List.length_singleton] at one
        exact List.length_eq_zero_iff.mp (by omega)
      rw [short, List.append_nil, List.append_assoc, List.singleton_append, endsWithDrive_append,
        marked, lettered, isDrive, kind, Bool.true_and, Bool.and_true]
      cases alpha : letter.isAlpha with
      | false => exact Bool.and_false _
      | true =>
        -- The slash at the start is no letter, so something stands before the letter.
        have filled : bytesOf body ++ before ≠ [] := by
          cases body with
          | nil =>
            obtain ⟨rfl, -⟩ := List.cons.inj split
            exact absurd alpha (by decide)
          | cons c body =>
            obtain ⟨front, last, bytes, -⟩ := encodeChar_last c
            simp [bytesOf_cons, bytes]
        simp [filled]

end Drive

/-- Reading the address of a straight path gives the path, with a slash added if it ends as
the name of a drive does. No other straight path has this address.

Proof: a segment is written so that walking the address gives it back unchanged, and so does each
segment of a straight path, one after the other. The bytes of the path are then those that were
written, to which the reader adds a slash after a drive. Two paths with one address have the same
bytes. -/
theorem straight_path_comes_back (path : String) (straight : Straight path) :
    ∃ uri, uriOf? path = some uri ∧
      pathOf? uri = some (if endsInDrive path then path ++ "/" else path) ∧
      ∀ other, Straight other → uriOf? other = some uri → other = path := by
  obtain ⟨uri, raw, written, read, decoded⟩ := rawPath?_of_straight straight
  refine ⟨uri, written, ?_, ?_⟩
  · obtain ⟨rest, absolute, -⟩ := straight
    have drive : endsWithDrive (bytesOf path.toList) = endsInDrive path := by
      rw [endsInDrive, absolute, endsWithDrive_bytesOf]
    have bytes : percentDecode (encode (String.ofList raw)) = encode path := by
      rw [encode, String.toList_ofList]
      exact decoded
    have slashed : encode path ++ [0x2F] = encode (path ++ "/") := by
      rw [encode, encode, String.toList_append, List.flatMap_append]
      rfl
    have ends : endsWithDrive (encode path) = endsInDrive path := drive
    rw [pathOf?, read]
    simp only [Option.bind_eq_bind, Option.bind_some, bytes, ends, slashed]
    split <;> rw [decodeLossy_encode]
  · intro other straightOther writtenOther
    obtain ⟨uriOther, rawOther, sameWritten, readOther, decodedOther⟩ :=
      rawPath?_of_straight straightOther
    obtain rfl := Option.some.inj (sameWritten.symm.trans writtenOther)
    obtain rfl := Option.some.inj (readOther.symm.trans read)
    exact String.toList_inj.mp (bytesOf_inj (decodedOther.symm.trans decoded))

/-- A path with blanks, marks, escapes, control characters and letters beyond those of one
byte. -/
def markedPath : String := "/a b/%2e#?\\\x01/C:/日本\x00"

/-- It comes back, and no other path shares its address. -/
theorem marked_path_comes_back :
    ∃ uri, uriOf? markedPath = some uri ∧ pathOf? uri = some markedPath ∧
      ∀ other, Straight other → uriOf? other = some uri → other = markedPath :=
  straight_path_comes_back markedPath ⟨_, rfl, .inr (by decide)⟩

/-- The path of a drive comes back with a slash added. -/
theorem drive_path_gains_slash :
    Straight "/C:" ∧ uriOf? "/C:" = some "file:///C:" ∧ pathOf? "file:///C:" = some "/C:/" :=
  ⟨⟨_, rfl, .inr (by decide)⟩, by decide +kernel, by decide +kernel⟩

end Flowdesk.Address
