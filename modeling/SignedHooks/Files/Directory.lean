/-
# Directories

The files of a machine as they are seen from one of its directories. A path is
a row of names with slashes between them, in which a dot stands for the
directory that has been reached and two dots for the one above; above the root
there is none but itself. A path that begins with a slash begins at the root,
every other one at the directory itself, and one that ends with a slash is that
of a directory. There are the directories on the way to a file, and nothing in
them is forbidden.

Key definitions: `Files.Directory`, `Files.Directory.read`, `Files.Directory.write`.
Key theorems: `Files.Directory.read_write`.
-/
import SignedHooks.Files.System
import SignedHooks.Text.Utf8

namespace SignedHooks
namespace Files

/-- The names on the way to a file. -/
abbrev Path := List String

/-- The texts between the slashes. -/
def splitSlashes : List Char → List (List Char)
  | [] => [[]]
  | c :: rest =>
    if c = '/' then [] :: splitSlashes rest
    else
      match splitSlashes rest with
      | [] => [[c]]
      | part :: parts => (c :: part) :: parts

/-- All files, seen from a directory. -/
structure Directory where
  /-- The contents of the files, each under its path from the root, those written last
  first. -/
  tree : List (Path × List UInt8)
  /-- The path of the directory itself. -/
  here : Path
  deriving DecidableEq, Repr

namespace Directory

/-- No files at all, seen from a directory that is not the root. -/
def empty : Directory := ⟨[], ["work"]⟩

/-- The content of the file at a path from the root. -/
def content? (d : Directory) (path : Path) : Option (List UInt8) :=
  (d.tree.find? fun f => f.1 == path).map (·.2)

/-- There is a directory at a path from the root. -/
def hasDirectory (d : Directory) (path : Path) : Bool :=
  path.isPrefixOf d.here ||
    d.tree.any fun f => path.isPrefixOf f.1 && path.length < f.1.length

/-- The file at a path from the root has the given content. -/
def replace (d : Directory) (path : Path) (content : List UInt8) : Directory :=
  { d with tree := (path, content) :: d.tree.filter fun f => f.1 != path }

/-- The file at a path from the directory has the given content. -/
def put (d : Directory) (path : Path) (content : List UInt8) : Directory :=
  d.replace (d.here ++ path) content

/-- The files below the directory, each under its path from there. -/
def files (d : Directory) : List (Path × List UInt8) :=
  d.tree.filterMap fun f =>
    if d.here.isPrefixOf f.1 then some (f.1.drop d.here.length, f.2) else none

/-- The most bytes that a name may have. -/
def longestName : Nat := 255

/-- The path that is reached from another by one part. -/
def follow (reached : Path) (part : String) : Path :=
  if part = "" || part = "." then reached
  else if part = ".." then reached.dropLast
  else reached ++ [part]

/-- The path that is reached from another by some parts, all but the last of
which must lead to directories. -/
def walk (d : Directory) (reached : Path) : List String → Except Fault Path
  | [] => .ok reached
  | part :: rest =>
    if longestName < part.utf8ByteSize then .error .nameTooLong
    else if rest.isEmpty then .ok (follow reached part)
    else if d.hasDirectory (follow reached part) then walk d (follow reached part) rest
    else if (d.content? (follow reached part)).isSome then .error .notADirectory
    else .error .missing

/-- The most bytes that a path may have. -/
def longestPath : Nat := 4095

/-- A path is short enough to be looked at, and it names something. -/
def checkPath (path : String) : Except Fault Unit :=
  if longestPath < path.utf8ByteSize then .error .nameTooLong
  else if path = "" then .error .missing
  else .ok ()

/-- The parts of a path as it is written. -/
def parts (path : String) : List String :=
  (splitSlashes path.toList).map String.ofList

/-- The parts up to the last one that is a name. -/
def named (path : String) : List String :=
  ((parts path).reverse.dropWhile fun part => part == "").reverse

/-- A slash stands behind the last name of a path. -/
def isSlashed (path : String) : Bool :=
  (named path).length < (parts path).length

/-- Where a path begins: at the root if a slash stands in front of it. -/
def origin (d : Directory) (path : String) : Path :=
  if path.toList.head? = some '/' then [] else d.here

/-- The content of a file. -/
def read (d : Directory) (path : String) : Except Fault (List UInt8) := do
  checkPath path
  let found ← d.walk (d.origin path) (parts path)
  if d.hasDirectory found then .error .isADirectory
  else
    match d.content? found with
    | none => .error .missing
    | some content => .ok content

/-- The directory after a file was written. The last name of a path that ends
with a slash is not looked at: no file can have that path. -/
def write (d : Directory) (path : String) (content : List UInt8) : Except Fault Directory := do
  checkPath path
  let found ← d.walk (d.origin path)
    (if isSlashed path then (named path).dropLast ++ [""] else named path)
  if d.hasDirectory found || isSlashed path then .error .isADirectory
  else .ok (d.replace found content)

instance : System Directory where
  read := read
  write := write
  read_empty _ := rfl

section

variable {d d' : Directory} {found : Path} {path : String} {content : List UInt8}

theorem content?_replace (d : Directory) (found : Path) (content : List UInt8) :
    (d.replace found content).content? found = some content := by
  simp [replace, content?]

/-- Every directory that was there is there after a file was written. -/
theorem hasDirectory_replace {reached : Path} (h : d.hasDirectory reached = true) (found : Path)
    (content : List UInt8) : (d.replace found content).hasDirectory reached = true := by
  simp only [hasDirectory, replace, Bool.or_eq_true, List.any_cons, List.any_eq_true] at h ⊢
  rcases h with hhere | ⟨f, hf, hbelow⟩
  · exact .inl hhere
  · by_cases hsame : f.1 = found
    · exact .inr (.inl (hsame ▸ hbelow))
    · exact .inr (.inr ⟨f, List.mem_filter.mpr ⟨hf, by simpa using hsame⟩, hbelow⟩)

/-- What is written does not become a directory. -/
theorem not_hasDirectory_replace (h : d.hasDirectory found = false) (content : List UInt8) :
    (d.replace found content).hasDirectory found = false := by
  simp only [hasDirectory, replace, Bool.or_eq_false_iff, List.any_cons, List.any_eq_false] at h ⊢
  refine ⟨h.1, by simp, fun f hf => ?_⟩
  exact h.2 f (List.mem_filter.mp hf).1

/-- A path leads to where it led before a file was written. -/
theorem walk_replace (written : Path) (content : List UInt8) :
    ∀ (parts : List String) {reached : Path}, d.walk reached parts = .ok found →
      (d.replace written content).walk reached parts = .ok found
  | [], _, h => h
  | part :: rest, reached, h => by
    unfold walk at h ⊢
    by_cases hlong : longestName < part.utf8ByteSize
    · rw [if_pos hlong] at h
      cases h
    rw [if_neg hlong] at h ⊢
    by_cases hlast : rest.isEmpty = true
    · rw [if_pos hlast] at h ⊢
      exact h
    rw [if_neg hlast] at h ⊢
    by_cases hdirectory : d.hasDirectory (follow reached part) = true
    · rw [if_pos hdirectory] at h
      rw [if_pos (hasDirectory_replace hdirectory written content)]
      exact walk_replace written content rest h
    · rw [if_neg hdirectory] at h
      split at h <;> cases h

/-- A path without a slash at its end is all names. -/
theorem named_of_not_isSlashed (h : isSlashed path = false) : named path = parts path := by
  have hle : (parts path).reverse.length ≤
      ((parts path).reverse.dropWhile fun part => part == "").length := by
    simpa [isSlashed, named] using h
  have hsame := (List.dropWhile_sublist _).eq_of_length_le hle
  rw [named, hsame, List.reverse_reverse]

/-- A file is written where its path leads, unless this is a directory. -/
theorem write_eq_ok_iff : d.write path content = .ok d' ↔ checkPath path = .ok () ∧
    isSlashed path = false ∧ ∃ found, d.walk (d.origin path) (parts path) = .ok found ∧
      d.hasDirectory found = false ∧ d' = d.replace found content := by
  unfold write
  cases checkPath path with
  | error fault => simp [bind, Except.bind]
  | ok u =>
    cases hslashed : isSlashed path with
    | true =>
      cases hwalk : d.walk (d.origin path) ((named path).dropLast ++ [""]) <;>
        simp [bind, Except.bind, hwalk]
    | false =>
      cases hwalk : d.walk (d.origin path) (parts path) with
      | error fault => simp [bind, Except.bind, named_of_not_isSlashed hslashed, hwalk]
      | ok found =>
        cases hfile : d.hasDirectory found
        · simp only [bind, Except.bind, named_of_not_isSlashed hslashed, hwalk, hfile,
            Bool.false_eq_true, if_false, Bool.or_self, Except.ok.injEq, true_and,
            exists_eq_left']
          exact eq_comm
        · simp [bind, Except.bind, named_of_not_isSlashed hslashed, hwalk, hfile]

/-- What was written is read. -/
theorem read_write (h : d.write path content = .ok d') : d'.read path = .ok content := by
  obtain ⟨hcheck, hslashed, found, hwalk, hfile, rfl⟩ := write_eq_ok_iff.mp h
  have hthere := walk_replace found content (parts path) hwalk
  have horigin : (d.replace found content).origin path = d.origin path := rfl
  rw [read, hcheck, horigin, hthere]
  simp [bind, Except.bind, not_hasDirectory_replace hfile, content?_replace]

/-- A file that is written from the root is read from the directory itself. -/
example : ((write ⟨[(["tmp", "a.json"], [])], ["work"]⟩ "/tmp/b.json" [0x7b]).bind
    fun d => d.read "../tmp/b.json") = .ok [0x7b] := by
  rfl

end

end Directory
end Files
end SignedHooks
