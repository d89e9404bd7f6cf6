import Flowdesk.Text.Units

/-!
# Checksums of a text

The checksum is a rolling hash of the UTF-16 code units in 32-bit words: each unit
is added to thirty-one times what came before. It is shown in lower-case
hexadecimal digits. It tells revisions of one document apart and resists nobody
who wants two texts to agree.
-/

namespace Flowdesk.Sync

/-- The factor by which the hash so far is multiplied for each unit. -/
def hashFactor : UInt32 := 31

/-- Take one more code unit into a hash. -/
def hashUnit (hash : UInt32) (unit : Nat) : UInt32 := hash * hashFactor + UInt32.ofNat unit

/-- The hash of code units. -/
def hashUnits (units : List Nat) : UInt32 := units.foldl hashUnit 0

/-- The hash of a text. -/
def hash (text : String) : UInt32 := hashUnits (Text.textUnits text)

/-- The checksum of a text. -/
def checksum (text : String) : String := String.ofList (Nat.toDigits 16 (hash text).toNat)

/-- Two letters are weighed by their places. -/
example : hashUnits [97, 98] = 97 * 31 + 98 := by decide

end Flowdesk.Sync
