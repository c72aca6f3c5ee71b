/-
**Reading the nodes of documents.**

The tokens of a document are read into its nodes.  A node that has an anchor can stand in several
places; the number of a container is known before its parts are read, so it can be one of them.

Main definitions:

* `Yaml.Composer`, `Yaml.Compose` — the state of reading tokens, and readers;
* `Yaml.node` and its companions — the readers of the several forms of containers;
* `Yaml.documentStart?`, `Yaml.document` — the frame of a document, and its outermost node.

Main results:

* `Yaml.Composer.tag?_of_handle` — a tag with a handle is what the handle stands for and the suffix.
-/

import ElementLookup.Yaml.Graph
import ElementLookup.Yaml.Token

set_option autoImplicit false

namespace ElementLookup.Yaml

/-! ### Readers -/

/-- The state of reading tokens: those that follow, the nodes read so far, those with anchors, and
the handles of tags. -/
structure Composer where
  tokens : List Token
  graph : Graph
  anchors : List (String × NodeId)
  handles : List (String × String)

/-- A reader of tokens. -/
abbrev Compose := StateT Composer (Except Fault)

namespace Compose

/-- Refuses the document. -/
def refuse {α : Type} : Compose α := throw .malformed

/-- The next token; a fault in its place is raised. -/
def peek : Compose Token := do
  match (← get).tokens with
  | [] => return .streamEnd
  | .fault f :: _ => throw f
  | t :: _ => return t

/-- Moves on. -/
def skip : Compose Unit :=
  modify fun s => { s with tokens := s.tokens.tail }

/-- Moves over the token `t`, if it is next. -/
def skipIf (t : Token) : Compose Bool := do
  if (← peek) = t then
    skip
    return true
  else return false

/-- Moves over the token `t`, which must be next. -/
def expect (t : Token) : Compose Unit := do
  unless ← skipIf t do refuse

/-- Whether one of some tokens is next. -/
def sees (ts : List Token) : Compose Bool := do
  return (← peek) ∈ ts

end Compose

open Compose

/-! ### Properties -/

/-- How a node is announced: its anchor and its tag, if it has them. -/
structure Properties where
  anchor : Option String
  tag : Option String

/-- A name with an anchor's sign, if one is next. -/
def anchor? : Compose (Option String) := do
  match ← peek with
  | .anchor name =>
    skip
    return some name
  | _ => return none

/-- The full text of a tag: what its handle stands for, and its suffix. -/
def Composer.tag? (s : Composer) (handle : Option String) (suffix : String) : Option String :=
  match handle with
  | none => some suffix
  | some h => (s.handles.find? fun e => e.1 = h).map (·.2 ++ suffix)

/-- A tag with a handle is what the handle stands for, and the suffix. -/
theorem Composer.tag?_of_handle (s : Composer) {handle start : String}
    (h : s.handles.find? (fun e => e.1 = handle) = some (handle, start)) (suffix : String) :
    s.tag? (some handle) suffix = some (start ++ suffix) := by
  simp [Composer.tag?, h]

/-- A tag, if one is next. -/
def tag? : Compose (Option (Option String × String)) := do
  match ← peek with
  | .tag handle suffix =>
    skip
    return some (handle, suffix)
  | _ => return none

/-- The anchor and the tag of a node, in either order. -/
def properties : Compose Properties := do
  let before ← anchor?
  let written ← tag?
  let after ← if before.isNone && written.isSome then anchor? else pure none
  let anchor := before.or after
  match written with
  | none => return ⟨anchor, none⟩
  | some (handle, suffix) =>
    match (← get).tag? handle suffix with
    | some full => return ⟨anchor, some full⟩
    | none => refuse

/-- Whether neither an anchor nor a tag is written. -/
def Properties.isEmpty (p : Properties) : Bool := p.anchor.isNone && p.tag.isNone

/-- The tag of a container. -/
def Properties.containerTag (p : Properties) (usual : Tag) : Tag :=
  match p.tag with
  | none | some "!" => usual
  | some t => .ofText t

/-- The tag of a text: one that is written counts, a lone exclamation mark apart; a plain text is
what it looks like. -/
def Properties.textTag (p : Properties) (signs : List Text.Sign) (plain : Bool) : Tag :=
  match p.tag with
  | none => if plain then .ofPlain (Text.shown signs) else .text
  | some "!" => .ofPlain (Text.shown signs)
  | some t => .ofText t

/-! ### Nodes -/

/-- A new node. -/
def newNode (n : Node) : Compose NodeId := do
  let s ← get
  set { s with graph := s.graph.add n }
  return s.graph.size

/-- A new node in place of a missing text. -/
def missing : Compose NodeId := newNode .empty

/-- Notes what an anchor stands for. -/
def note (anchor : Option String) (n : NodeId) : Compose Unit :=
  match anchor with
  | none => pure ()
  | some name => modify fun s => { s with anchors := (name, n) :: s.anchors }

/-- Refuses an anchor that is taken. -/
def checkAnchor (anchor : Option String) : Compose Unit := do
  if (← get).anchors.any fun a => some a.1 = anchor then refuse

/-- A text. -/
def textNode (p : Properties) (signs : List Text.Sign) (plain : Bool) : Compose NodeId := do
  checkAnchor p.anchor
  let n ← newNode ⟨p.textTag signs plain, .text signs⟩
  note p.anchor n
  return n

/-- A container.  Its anchor is noted before its content is read, so the content may refer to it. -/
def container (p : Properties) (usual : Tag) (read : Compose Content) : Compose NodeId := do
  checkAnchor p.anchor
  let n ← newNode ⟨p.containerTag usual, .sequence []⟩
  note p.anchor n
  let c ← read
  modify fun s => { s with graph := s.graph.setContent n c }
  return n

/-- What an alias stands for. -/
def aliased (name : String) : Compose NodeId := do
  match (← get).anchors.find? fun a => a.1 = name with
  | some a => return a.2
  | none => refuse

/-! ### Containers

Every reader is given the number of tokens that it may still look at, and how many nodes may still
stand in one another. -/

mutual

/-- A node; only in a block may it be a block container, and only as part of a block mapping a
sequence without indentation. -/
def node (fuel depth : Nat) (block indentless : Bool) : Compose NodeId :=
  match fuel with
  | 0 => refuse
  | fuel + 1 => do
    if depth = 0 then throw .tooDeep
    match ← peek with
    | .alias name =>
      skip
      aliased name
    | _ =>
      let p ← properties
      let t ← peek
      -- entries at the column of the mapping around them make up one of its values
      if indentless && t = .entry then
        container p .sequence do
          return .sequence (← indentlessItems fuel (depth - 1))
      else match t with
        | .scalar signs plain =>
          skip
          textNode p signs plain
        | .openBracket =>
          skip
          container p .sequence do
            return .sequence (← bracketItems fuel (depth - 1) true)
        | .openBrace =>
          skip
          container p .mapping do
            return .mapping (← braceEntries fuel (depth - 1) true)
        | _ =>
          if block && t = .sequenceStart then
            skip
            container p .sequence do
              return .sequence (← blockItems fuel (depth - 1))
          else if block && t = .mappingStart then
            skip
            container p .mapping do
              return .mapping (← blockEntries fuel (depth - 1))
          -- an anchor or a tag alone announces an empty text
          else if p.isEmpty then refuse
          else textNode p [] true

/-- A node that may be missing: it is, if one of the tokens `ends` is next. -/
def nodeUnless (fuel depth : Nat) (block indentless : Bool) (ends : List Token) :
    Compose NodeId :=
  match fuel with
  | 0 => refuse
  | fuel + 1 => do
    if ← sees ends then missing else node fuel depth block indentless

/-- The items of a block sequence. -/
def blockItems (fuel depth : Nat) : Compose (List NodeId) :=
  match fuel with
  | 0 => refuse
  | fuel + 1 => do
    if ← skipIf .entry then
      let n ← nodeUnless fuel depth true false [.entry, .blockEnd]
      return n :: (← blockItems fuel depth)
    else
      expect .blockEnd
      return []

/-- The items of a block sequence without indentation of its own. -/
def indentlessItems (fuel depth : Nat) : Compose (List NodeId) :=
  match fuel with
  | 0 => refuse
  | fuel + 1 => do
    if ← skipIf .entry then
      let n ← nodeUnless fuel depth true false [.entry, .key, .value, .blockEnd]
      return n :: (← indentlessItems fuel depth)
    else return []

/-- The entries of a block mapping. -/
def blockEntries (fuel depth : Nat) : Compose (List (NodeId × NodeId)) :=
  match fuel with
  | 0 => refuse
  | fuel + 1 => do
    if ← skipIf .key then
      let k ← nodeUnless fuel depth true true [.key, .value, .blockEnd]
      let v ← if ← skipIf .value then nodeUnless fuel depth true true [.key, .value, .blockEnd]
        else missing
      return (k, v) :: (← blockEntries fuel depth)
    else
      expect .blockEnd
      return []

/-- The items of a sequence between brackets, of which the next is the first or not. -/
def bracketItems (fuel depth : Nat) (first : Bool) : Compose (List NodeId) :=
  match fuel with
  | 0 => refuse
  | fuel + 1 => do
    if ← skipIf .closeBracket then return []
    else
      if !first then expect .comma
      if ← skipIf .key then
        let k ← nodeUnless fuel (depth - 1) false false [.value, .comma, .closeBracket]
        let v ← if ← skipIf .value then
            nodeUnless fuel (depth - 1) false false [.comma, .closeBracket]
          else missing
        -- a pair between brackets is a mapping of its own
        let n ← newNode ⟨.mapping, .mapping [(k, v)]⟩
        return n :: (← bracketItems fuel depth false)
      else if ← skipIf .closeBracket then return []
      else
        let n ← node fuel depth false false
        return n :: (← bracketItems fuel depth false)

/-- The entries of a mapping between braces, of which the next is the first or not. -/
def braceEntries (fuel depth : Nat) (first : Bool) : Compose (List (NodeId × NodeId)) :=
  match fuel with
  | 0 => refuse
  | fuel + 1 => do
    if ← skipIf .closeBrace then return []
    else
      if !first then expect .comma
      if ← skipIf .key then
        let k ← nodeUnless fuel depth false false [.value, .comma, .closeBrace]
        let v ← if ← skipIf .value then nodeUnless fuel depth false false [.comma, .closeBrace]
          else missing
        return (k, v) :: (← braceEntries fuel depth false)
      else if ← skipIf .closeBrace then return []
      else
        let k ← node fuel depth false false
        return (k, ← missing) :: (← braceEntries fuel depth false)

end

/-! ### Documents -/

/-- The handles that need no directive. -/
def commonHandles : List (String × String) := [("!", "!"), ("!!", commonStart)]

/-- What the directives of a document say: whether a version was stated, and the handles. -/
structure Directives where
  versioned : Bool
  handles : List (String × String)

/-- The directives before a document; their versions and handles must not be repeated, and the
version must be one of the first series. -/
def directives (d : Directives) : Nat → Compose Directives
  | 0 => pure d
  | fuel + 1 => do
    match ← peek with
    | .directive (.version major) =>
      skip
      if d.versioned || major ≠ 1 then refuse
      else directives { d with versioned := true } fuel
    | .directive (.handle name start) =>
      skip
      if d.handles.any fun h => h.1 = name then refuse
      else directives { d with handles := (name, start) :: d.handles } fuel
    | .directive .other =>
      skip
      directives d fuel
    | _ => pure d

/-- Moves over marks that end documents. -/
def skipEnds : Nat → Compose Unit
  | 0 => pure ()
  | fuel + 1 => do
    if ← skipIf .documentEnd then skipEnds fuel

/-- Reads what is before a document's tree.  The first document of a text needs no mark.  Tells
whether the tree is missing; nothing if there is no further document. -/
def documentStart? (first : Bool) (fuel : Nat) : Compose (Option Bool) := do
  -- only the first document may begin without a mark
  let bare ← match ← peek with
    | .directive _ | .documentStart | .streamEnd => pure false
    | _ => pure first
  if bare then
    modify fun s => { s with graph := .empty, anchors := [], handles := commonHandles }
    return some false
  else
    skipEnds fuel
    if (← peek) = .streamEnd then return none
    let d ← directives ⟨false, []⟩ fuel
    expect .documentStart
    modify fun s => { s with
      graph := .empty, anchors := [], handles := d.handles ++ commonHandles }
    match ← peek with
    | .directive _ | .documentStart | .documentEnd | .streamEnd => return some true
    | _ => return some false

/-- The outermost node of the next document, if there is one, with at most `depth` nodes in one
another. -/
def document (depth : Nat) (first : Bool) : Compose (Option NodeId) := do
  -- before a token is taken, no more than four readers call one another
  let fuel := 4 * (← get).tokens.length + 8
  match ← documentStart? first fuel with
  | none => return none
  | some true =>
    let n ← missing
    let _ ← skipIf .documentEnd
    return some n
  | some false =>
    let n ← node fuel depth true false
    let _ ← skipIf .documentEnd
    return some n

end ElementLookup.Yaml
