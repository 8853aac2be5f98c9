import Supervision.Proofs.Disk.Directories
import Supervision.Proofs.Disk.Replacement

/-!
Runs of changes to a disk, each of which may fail. What is at a location in the end is what was
there first, a directory that one of the changes made, or the file that was last written there. The
fault of a change is released before the next one.
-/

namespace Supervision.Disk

open PathText Text Outcome

inductive Change where
  | ensureDirectory (path : PathText)
  | replaceFile (path : PathText) (contents : Text)

/-- The disk after a change, whether or not it succeeds. Nothing is left of a fault. -/
def apply (disk : Disk) : Change → Disk
  | .ensureDirectory path => (disk.ensureDirectory path).2
  | .replaceFile path contents =>
      match disk.replaceFile path contents with
      | (none, after) => after
      | (some fault, held) => held.release fault

def after (disk : Disk) (changes : List Change) : Disk :=
  changes.foldl apply disk

/-- What can become of an entry: it stays, a new directory is made, or a file is written. -/
inductive Becomes (entry : Option Entry) : Option Text → Option Entry → Prop
  | same : Becomes entry none entry
  | directory (free : entry = none) : Becomes entry none (some .directory)
  | file {contents : Text} {mode : Nat} (notDirectory : entry ≠ some .directory)
      (kept : permissions mode = permissions (modeBefore entry)) :
      Becomes entry (some contents) (some (.file mode (asString contents).toUTF8))

variable {disk : Disk} {changes : List Change} {change : Change} {location : Location}
  {path : PathText} {contents : Text}

/-! One change -/

theorem Becomes.trans {first second third : Option Entry} {early late : Option Text}
    (before : Becomes first early second) (later : Becomes second late third) :
    Becomes first (late.or early) third := by
  -- What the later change writes counts; if it writes nothing, the earlier one decides.
  cases later with
  | same => exact before
  | directory free =>
      subst free
      cases before with
      | same => exact .directory rfl
  | file notDirectory kept =>
      cases before with
      | same => exact .file notDirectory kept
      | directory => exact absurd rfl notDirectory
      | file earlier before => exact .file earlier (kept.trans before)

end Supervision.Disk
