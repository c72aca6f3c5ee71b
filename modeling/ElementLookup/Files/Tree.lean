/-
**Trees of files.**

A place holds a file with octets, or a directory with named entries; the names are Unicode text.
Paths are followed from the root; a step upward is allowed where the place before it is a directory.

Main definitions:

* `FileTree` — files and directories;
* `FileTree.at?` — the tree at steps without steps upward;
* `Files.descend`, `Files.place?` — the place that a path leads to;
* `Files.node?` — what is there;
* `Files.makeDirectory`, `Files.makeDirectories` — new directories;
* `Files.Unmade` — why a directory could not be made, and the files as they are then;
* `FileTree.descendants` — everything below a directory, with the steps that lead to it.

Main results:

* `FileTree.at?_nil`, `FileTree.at?_cons` — how steps are followed;
* `Files.node?_of_place?`, `Files.node?_of_error` — what a path leads to, by the place.
-/

import ElementLookup.Files.Path

set_option autoImplicit false

namespace ElementLookup

/-! ### Trees -/

/-- A file with its octets, or a directory with its entries by name. -/
inductive FileTree where
  | file (content : List UInt8)
  | directory (entries : List (String × FileTree))

namespace FileTree

instance : Inhabited FileTree := ⟨.directory []⟩

/-- Whether this is a directory. -/
def isDirectory : FileTree → Bool
  | .directory _ => true
  | .file _ => false

/-- The entry of a directory with a name. -/
def entry? (t : FileTree) (name : String) : Option FileTree :=
  match t with
  | .file _ => none
  | .directory entries => (entries.find? fun e => e.1 = name).map (·.2)

/-- The tree at the end of steps. -/
def at? (t : FileTree) : List String → Option FileTree
  | [] => some t
  | s :: r => (t.entry? s).bind fun u => u.at? r

@[simp] theorem at?_nil (t : FileTree) : t.at? [] = some t := rfl

theorem at?_cons (t : FileTree) (s : String) (r : List String) :
    t.at? (s :: r) = (t.entry? s).bind fun u => u.at? r := rfl

/-- Entries with one of them set; a new one goes to the end. -/
def setEntry (entries : List (String × FileTree)) (name : String) (u : FileTree) :
    List (String × FileTree) :=
  match entries with
  | [] => [(name, u)]
  | e :: r => if e.1 = name then (name, u) :: r else e :: setEntry r name u

/-- The tree with `u` at the end of steps; directories on the way are made where nothing is. -/
def insert (t : FileTree) (steps : List String) (u : FileTree) : FileTree :=
  match steps with
  | [] => u
  | s :: r =>
    match t with
    -- nothing can be put inside a file
    | .file content => .file content
    | .directory entries =>
      let inner := (FileTree.entry? (.directory entries) s).getD (.directory [])
      .directory (setEntry entries s (inner.insert r u))

mutual

/-- Everything below a directory, with the steps that lead to it. -/
def descendants : FileTree → List (List String × FileTree)
  | .file _ => []
  | .directory entries => entryDescendants entries

/-- Everything at and below the entries of a directory. -/
def entryDescendants : List (String × FileTree) → List (List String × FileTree)
  | [] => []
  | (name, t) :: r =>
    ([name], t) :: (descendants t).map (fun p => (name :: p.1, p.2)) ++ entryDescendants r

end

/-- The entries of a directory, with the step that leads to each. -/
def inside : FileTree → List (List String × FileTree)
  | .file _ => []
  | .directory entries => entries.map fun e => ([e.1], e.2)

end FileTree

/-! ### Following paths -/

/-- Why a path leads nowhere. -/
inductive Astray where
  | missing
  | throughFile
  | nameTooLong
  | badName
  deriving DecidableEq, Repr

/-- All files, and the place one is at, which has no steps upward. -/
structure Files where
  root : FileTree
  cwd : Path

namespace Files

/-- The longest name, in octets. -/
def maxName : Nat := 255

/-- The longest written path, in octets. -/
def maxPath : Nat := 4095

/-- Whether a path is too long to be looked up. -/
def isTooLong (p : Path) : Bool := maxPath < p.text.utf8ByteSize

/-- Follows steps from a place, which is given by its names in reverse.  Every place that is left
must be a directory; the last one need not be. -/
def descend (root : FileTree) (place : List String) : List String → Except Astray (List String)
  | [] => .ok place
  | s :: r =>
    match root.at? place.reverse with
    | none => .error .missing
    | some (.file _) => .error .throughFile
    | some (.directory _) =>
      if s = ".." then descend root place.tail r
      else if maxName < s.utf8ByteSize then .error .nameTooLong
      else descend root (s :: place) r

/-- The place that a path is followed from, by its names in reverse: the root, or where one is. -/
def origin (f : Files) (p : Path) : List String :=
  if p.isAbsolute then [] else f.cwd.steps.reverse

/-- The place that a path leads to, by its names from the root, whether something is there or
not. -/
def place? (f : Files) (p : Path) : Except Astray (List String) :=
  if p.steps.any (·.contains '\x00') then .error .badName
  else if isTooLong p then .error .nameTooLong
  else (·.reverse) <$> descend f.root (f.origin p) p.steps

/-- What a path leads to. -/
def node? (f : Files) (p : Path) : Except Astray FileTree := do
  match f.root.at? (← f.place? p) with
  | some t => .ok t
  | none => .error .missing

theorem node?_of_place? {f : Files} {p : Path} {place : List String} (h : f.place? p = .ok place) :
    f.node? p =
      match f.root.at? place with
      | some t => .ok t
      | none => .error .missing := by
  rw [node?, h]
  rfl

theorem node?_of_error {f : Files} {p : Path} {why : Astray} (h : f.place? p = .error why) :
    f.node? p = .error why := by
  rw [node?, h]
  rfl

/-- Whether a path leads to a directory. -/
def isDirectory (f : Files) (p : Path) : Bool :=
  match f.node? p with
  | .ok t => t.isDirectory
  | .error _ => false

/-! ### New directories -/

/-- Why a directory cannot be made. -/
inductive MakeFault where
  | exists
  | astray (why : Astray)
  deriving DecidableEq, Repr

/-- Makes one directory where nothing is; the place above must be a directory. -/
def makeDirectory (f : Files) (p : Path) : Except MakeFault Files :=
  match f.place? p with
  | .error why => .error (.astray why)
  | .ok place =>
    match f.root.at? place with
    | some _ => .error .exists
    | none =>
      match f.root.at? place.dropLast with
      | some (.directory _) => .ok { f with root := f.root.insert place (.directory []) }
      | some (.file _) => .error (.astray .throughFile)
      | none => .error (.astray .missing)

/-- Why a directory could not be made, and the files with those above it that were made before. -/
structure Unmade where
  fault : MakeFault
  files : Files

/-- Makes one directory, which may be there already. -/
def ensureDirectory (f : Files) (p : Path) : Except Unmade Files :=
  match f.makeDirectory p with
  | .ok g => .ok g
  | .error fault => if f.isDirectory p then .ok f else .error ⟨fault, f⟩

/-- Makes a directory and the missing ones above it, following at most `fuel` steps up. -/
def makeDirectoriesWithin (f : Files) : Nat → Path → Except Unmade Files
  | 0, p => f.ensureDirectory p
  | fuel + 1, p =>
    match f.makeDirectory p with
    | .error (.astray .missing) =>
      -- above the root there is nothing that could be made
      if p.parent = p then .error ⟨.astray .missing, f⟩
      else do
        let g ← makeDirectoriesWithin f fuel p.parent
        -- what was made above stays, whatever becomes of this one
        g.ensureDirectory p
    | .ok g => .ok g
    | .error fault => if f.isDirectory p then .ok f else .error ⟨fault, f⟩

/-- Makes a directory and the missing ones above it. -/
def makeDirectories (f : Files) (p : Path) : Except Unmade Files :=
  makeDirectoriesWithin f p.steps.length p

end Files

end ElementLookup
