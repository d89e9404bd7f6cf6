import Flowdesk.Files.Failure
import Flowdesk.Text.Utf8

/-!
# File stores

What a desk asks of the place where its files are kept. A refused write may still
have changed the store, for instance by making the folders around the file, so
writing gives back the store whatever came of it.
-/

namespace Flowdesk.Files

/-- A place that keeps files under paths (`FileSystem`). -/
class Store (φ : Type) where
  /-- The bytes of a file. -/
  read : φ → String → Except Failure Text.Utf8.Bytes
  /-- The store after a file and the folders around it were written. -/
  write : φ → String → Text.Utf8.Bytes → φ × Except Failure Unit
  /-- Whether there is a file or a folder. -/
  contains : φ → String → Except Failure Bool
  /-- The store after a folder and those around it were made. -/
  makeFolder : φ → String → φ × Except Failure Unit

end Flowdesk.Files
