import OpsFlow.Library.Erasing
import Mathlib.Data.List.Dedup
import Mathlib.Data.List.Sort
import Mathlib.Logic.Function.Basic

namespace OpsFlow.Scripts

/-! ## Blanks before a line ending -/

def cr : UInt8 := 0x0d

def lf : UInt8 := 0x0a

def blank (b : UInt8) : Bool := b = 0x20 ∨ b = 0x09

/-- `$`, which in a multi-line pattern also matches before every LF -/
def lineEnd : List UInt8 → Bool
  | [] => true
  | b :: _ => b = lf

/-- `\r?$` -/
def optionalCrLineEnd : List UInt8 → Bool
  | [] => true
  | b :: rest => (b = cr && lineEnd rest) || lineEnd (b :: rest)

def removeTrailingWhitespace (content : List UInt8) : List UInt8 :=
  Erasing.erase (Erasing.runBefore blank optionalCrLineEnd) 0 content

/-! ## The files of a repository -/

structure Path where
  parts : List String
  deriving DecidableEq

def Path.asPosix (path : Path) : String := "/".intercalate path.parts

def Path.name (path : Path) : String := path.parts.getLastD ""

/-- The last dot and what follows it, unless one of its sides is empty. -/
def Path.suffix (path : Path) : String :=
  let reversed := path.name.toList.reverse
  match reversed.dropWhile (· ≠ '.') with
  | [] => ""
  | _ :: stem =>
    let extension := (reversed.takeWhile (· ≠ '.')).reverse
    if stem = [] ∨ extension = [] then "" else String.ofList ('.' :: extension)

def supportedSuffixes : List String :=
  [".cfg", ".css", ".dockerfile", ".env", ".example", ".html", ".ini", ".js", ".json", ".jsx",
    ".md", ".py", ".pyi", ".scss", ".sh", ".sql", ".toml", ".ts", ".tsx", ".txt", ".yaml", ".yml"]

def supportedNames : List String := [".gitattributes", ".gitignore", "Dockerfile"]

def excludedDirectoryNames : List String :=
  [".git", ".mypy_cache", ".pytest_cache", ".ruff_cache", ".venv", "coverage", "dist",
    "node_modules"]

/-- `lower` is Python's `str.lower`. -/
def isSupportedPath (lower : String → String) (relativePath : Path) : Bool :=
  if relativePath.parts.any (· ∈ excludedDirectoryNames) then false
  else if relativePath.name ∈ supportedNames then true
  else lower relativePath.suffix ∈ supportedSuffixes

inductive Mode
  | check
  | fixAll
  | fixUnstaged
  deriving DecidableEq

structure GitPaths where
  trackedPaths : List Path
  untrackedPaths : List Path
  unstagedTrackedPaths : List Path

def candidatePaths (lower : String → String) (mode : Mode) (git : GitPaths) : List Path :=
  let paths := match mode with
    | .fixUnstaged => git.unstagedTrackedPaths ++ git.untrackedPaths
    | .check | .fixAll => git.trackedPaths ++ git.untrackedPaths
  (paths.dedup.filter (isSupportedPath lower)).insertionSort fun path path' =>
    path.asPosix ≤ path'.asPosix

structure Entry where
  isFile : Bool
  isSymlink : Bool
  content : List UInt8
  deriving DecidableEq

abbrev Tree := Path → Entry

def visitPath (writeChanges : Bool) (state : List Path × Tree) (relativePath : Path) :
    List Path × Tree :=
  let entry := state.2 relativePath
  if ¬ entry.isFile ∨ entry.isSymlink then state
  else if 0 ∈ entry.content then state
  else
    let normalizedContent := removeTrailingWhitespace entry.content
    if normalizedContent = entry.content then state
    else
      (state.1 ++ [relativePath],
        if writeChanges then
          Function.update state.2 relativePath { entry with content := normalizedContent }
        else state.2)

def changedPaths (tree : Tree) (paths : List Path) (writeChanges : Bool) : List Path × Tree :=
  paths.foldl (visitPath writeChanges) ([], tree)

/-- The paths that are printed, the files afterwards, and the exit code. -/
structure Outcome where
  changed : List Path
  tree : Tree
  exitCode : ℕ

def main (lower : String → String) (mode : Mode) (git : GitPaths) (tree : Tree) : Outcome :=
  let (changed, tree') := changedPaths tree (candidatePaths lower mode git) (mode ≠ .check)
  { changed := changed
    tree := tree'
    exitCode := if mode = .check ∧ changed ≠ [] then 1 else 0 }

end OpsFlow.Scripts
