/-
# Systems of files

What a program finds when it reads or writes a file: for each path a content or
a fault, whatever the path looks like. Nothing is asked of a system but that
the empty path names no file. A directory with the files around it is one
(`Files.Directory`).

Key definitions: `Files.System`.
-/
import SignedHooks.Files.Fault

namespace SignedHooks
namespace Files

/-- A kind of files that a program can read and write. -/
class System (σ : Type) where
  /-- The content of the file that a path names, or why it cannot be read. -/
  read : σ → String → Except Fault (List UInt8)
  /-- The files after one of them was written, or why it cannot be. -/
  write : σ → String → List UInt8 → Except Fault σ
  /-- The empty path names no file. -/
  read_empty : ∀ files : σ, read files "" = .error .missing

end Files
end SignedHooks
