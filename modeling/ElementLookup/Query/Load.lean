/-
**Query files.**

A query file holds documents.  The whole file is read before any document is checked; documents that
are null are passed over but counted, references to the environment are replaced, and the first
document that is not accepted decides the fault.  A file without a document is none.

Main definitions:

* `LoadedDocument` — an accepted document, and which of its texts cannot be written;
* `LoadFault`, `LoadFault.message?` — why a query file is not accepted;
* `QueryFile.checkFrom` — the documents of a file, from a number on;
* `QueryFile.ofText`, `QueryFile.load` — the documents of a text, and of a file.

Main results:

* `QueryFile.checkFrom_null` — a null document only moves the count.
-/

import ElementLookup.Environment
import ElementLookup.Files.Tree
import ElementLookup.Query.Halves
import ElementLookup.Text.Split
import ElementLookup.Yaml.Document

set_option autoImplicit false

namespace ElementLookup

/-- A document that was accepted, and where it holds halves of surrogate pairs. -/
structure LoadedDocument where
  document : QueryDocument
  halves : DocumentHalves
  deriving DecidableEq

/-- Why a query file is not accepted.  The last three are faults that no report foresees: a name
that the file system refuses, a value that cannot be built, and a value in which references are not
replaced because it is too deep, as one that contains itself always is. -/
inductive LoadFault where
  | missing (path : Path)
  | directory (path : Path)
  | undecodable (path : Path) (octets : Text.BadOctets)
  | malformed (path : Path)
  | notMapping (number : Nat) (path : Path)
  | invalid (path : Path) (number : Nat) (problems : List Problem)
  | noDocuments (path : Path)
  | nameTooLong
  | unbuildable (fault : Yaml.Fault)
  | tooDeep
  deriving DecidableEq, Repr

/-- Whether a fault belongs to the file, so that a batch reports it and goes on. -/
def LoadFault.isReported : LoadFault → Bool
  | .nameTooLong | .unbuildable _ | .tooDeep => false
  | _ => true

/-- The fault in words, if it belongs to the file; of what breaks the rules of documents only that
it does is said, and dots stand for the rest. -/
def LoadFault.message? : LoadFault → Option String
  | .missing path => some ("Query file not found: " ++ path.text)
  | .directory path =>
    some ("Cannot read " ++ path.text ++ ": [Errno 21] Is a directory: " ++ Text.quoted path.text)
  | .undecodable path octets => some (path.text ++ " is not valid UTF-8: " ++ octets.message)
  | .malformed path => some ("YAML parse error in " ++ path.text ++ ": ...")
  | .notMapping number path =>
    some ("Document " ++ toString number ++ " in " ++ path.text ++ " must be a mapping/object.")
  | .invalid path number problems =>
    some ("Invalid query file '" ++ path.text ++ "' (document " ++ toString number ++ "):\n"
      ++ Problem.report problems)
  | .noDocuments path => some ("No query documents found in " ++ path.text)
  | _ => none

namespace QueryFile

/-- The file that is read if none is named. -/
def defaultPath : Path := ⟨.here, ["queries.yaml"]⟩

section Documents

variable (depths : Depths) (env : Environment) (path : Path)

/-- One document with a number; null is none. -/
def checkOne (number : Nat) (v : Value) : Except LoadFault (Option LoadedDocument) :=
  match v with
  | .null => .ok none
  | .map entries =>
    match env.substitute? depths.containers (.map entries) with
    | none => .error .tooDeep
    | some data =>
      match Check.document data with
      | .good d => .ok (some ⟨d, .ofValue data⟩)
      | .bad ps => .error (.invalid path number ps)
  | _ => .error (.notMapping number path)

/-- The documents from a number on. -/
def checkFrom : Nat → List Value → Except LoadFault (List LoadedDocument)
  | _, [] => .ok []
  | number, v :: r => do
    let d ← checkOne depths env path number v
    return d.toList ++ (← checkFrom (number + 1) r)

theorem checkFrom_null (number : Nat) (r : List Value) :
    checkFrom depths env path number (.null :: r) = checkFrom depths env path (number + 1) r := by
  rw [checkFrom, checkOne]
  cases checkFrom depths env path (number + 1) r <;> rfl

/-- The documents among the values of a file. -/
def ofValues (vs : List Value) : Except LoadFault (List LoadedDocument) := do
  match ← checkFrom depths env path 1 vs with
  | [] => .error (.noDocuments path)
  | ds => .ok ds

/-- The documents of a text. -/
def ofText (cs : List Char) : Except LoadFault (List LoadedDocument) :=
  match Yaml.readAll depths (Text.unifyLines cs) with
  | .error .malformed => .error (.malformed path)
  | .error fault => .error (.unbuildable fault)
  | .ok vs => ofValues depths env path vs

end Documents

/-- The documents of a file. -/
def load (depths : Depths) (env : Environment) (files : Files) (path : Path) :
    Except LoadFault (List LoadedDocument) :=
  match files.node? path with
  | .error .nameTooLong => .error .nameTooLong
  | .error _ => .error (.missing path)
  | .ok (.directory _) => .error (.directory path)
  | .ok (.file content) =>
    match Text.decode content with
    | .error octets => .error (.undecodable path octets)
    | .ok cs => ofText depths env path cs

end QueryFile

end ElementLookup
