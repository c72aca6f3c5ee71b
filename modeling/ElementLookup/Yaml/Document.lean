/-
**The values of documents.**

A document stands for a value.  Its containers are filled level by level, the outermost first, and a
node that stands in several places is built once; so of several faults that of the least deep
container is raised, and what merging did to a node shows at every later place.

Main definitions:

* `Yaml.Part`, `Yaml.Filling` — built parts, and what is in a built container;
* `Yaml.memberOrder` — the order of the members of a set;
* `Yaml.Builder`, `Yaml.Build` — the state of building, and its steps;
* `Yaml.construct`, `Yaml.fill`, `Yaml.fillAll` — parts are built, containers filled;
* `Yaml.Builder.value`, `Yaml.build` — the value of a part, and of a document;
* `Yaml.readAll` — the values of all documents of a text.

Main results:

* `Yaml.addEntry_cons` — where an added entry goes;
* `Yaml.memberOrder_perm` — a set keeps its members;
* `Yaml.Builder.value_plain` — a part without parts of its own is its value.
-/

import ElementLookup.Depths
import ElementLookup.Yaml.Merge
import ElementLookup.Yaml.Node
import ElementLookup.Yaml.Scalar

set_option autoImplicit false

namespace ElementLookup.Yaml

/-! ### Texts -/

/-- Whether a tag is one of a text. -/
def Tag.isScalar : Tag → Bool
  | .null | .bool | .int | .float | .text | .binary | .timestamp => true
  | _ => false

/-- Whether a tag is one of a container. -/
def Tag.isContainer : Tag → Bool
  | .sequence | .mapping | .set | .orderedMap | .pairs => true
  | _ => false

/-- The text of a node; a mapping has that of its first default.  The way to the text goes through
at most `depth` nodes; one that leads round in a circle is too long for any depth. -/
def Graph.signs (g : Graph) : Nat → NodeId → Except Fault (List Text.Sign)
  | 0, _ => .error .tooDeep
  | depth + 1, n =>
    match g.content n with
    | .text signs => .ok signs
    | .sequence _ => .error .malformed
    | .mapping es =>
      match es.find? fun e => g.tag e.1 = .default with
      | some e => g.signs depth e.2
      | none => .error .malformed

/-- Whether a node is a text by itself. -/
def Graph.isText (g : Graph) (n : NodeId) : Bool :=
  match g.content n with
  | .text _ => true
  | _ => false

/-- The word for what is no number, which always stands for the same value. -/
def isNanWord (signs : List Text.Sign) : Bool :=
  unsigned (((Text.shown signs).filter (· ≠ '_')).map Char.toLower) = ".nan".toList

/-! ### Parts -/

/-- A value without parts of its own.  What is no number differs from all others but itself, so
the node that it comes from is kept; there is none for the common word. -/
structure Plain where
  value : Value
  origin : Option NodeId

/-- A built part: a plain value, or the container that a node stands for. -/
inductive Part where
  | plain (p : Plain)
  | container (n : NodeId)

/-- What is in a built container. -/
inductive Filling where
  | list (items : List Part)
  | map (entries : List (Plain × Part))
  | set (members : List Plain)
  | pairs (pairs : List (Part × Part))

/-- Whether two keys are the same. -/
def Plain.same (p q : Plain) : Bool :=
  match p.value, q.value with
  | .float .nan, .float .nan => p.origin = q.origin
  | v, w => v.same w

/-- Adds an entry, or replaces the value of the entry with the same key. -/
def addEntry (entries : List (Plain × Part)) (key : Plain) (value : Part) : List (Plain × Part) :=
  match entries with
  | [] => [(key, value)]
  | (k, v) :: r => if k.same key then (k, value) :: r else (k, v) :: addEntry r key value

theorem addEntry_cons (k key : Plain) (v value : Part) (r : List (Plain × Part)) :
    addEntry ((k, v) :: r) key value =
      if k.same key then (k, value) :: r else (k, v) :: addEntry r key value := rfl

/-- The members of a set in the order in which they are shown: whole numbers ascend; among others
the given order is kept. -/
def memberOrder (members : List Value) : List Value :=
  if members.all (·.whole?.isSome) then
    members.mergeSort fun v w => v.whole?.getD 0 ≤ w.whole?.getD 0
  else members

/-- Ordering the members of a set loses none and adds none. -/
theorem memberOrder_perm (members : List Value) : (memberOrder members).Perm members := by
  unfold memberOrder
  split
  · exact List.mergeSort_perm ..
  · exact .refl _

/-! ### Building -/

/-- The state of building: the nodes, what was built of them, what is in containers, and the
containers that wait to be filled, the latest first. -/
structure Builder where
  graph : Graph
  parts : Array (Option Part)
  fillings : Array (Option Filling)
  waiting : List NodeId

/-- A step of building. -/
abbrev Build := StateT Builder (Except Fault)

/-- Before anything is built. -/
def Builder.start (g : Graph) : Builder :=
  ⟨g, Array.replicate g.size none, Array.replicate g.size none, []⟩

/-- The value of a node with a text's tag. -/
def Graph.plain (g : Graph) (depths : Depths) (n : NodeId) : Except Fault Plain := do
  let tag := g.tag n
  if !tag.isScalar then throw .malformed
  let signs ← g.signs depths.defaults n
  -- a date is read off the node itself, which must not be a mapping then
  if tag = .timestamp && !g.isText n then throw .wrongShape
  return ⟨← scalarValue tag signs, if isNanWord signs then none else some n⟩

/-- Notes what was built of a node. -/
def setPart (n : NodeId) (p : Part) : Build Unit :=
  modify fun b => { b with parts := b.parts.setIfInBounds n (some p) }

section Filling

variable (depths : Depths)

/-- What a node stands for.  A container is empty at first. -/
def construct (n : NodeId) : Build Part := do
  let b ← get
  match (b.parts[n]?).join with
  | some p => return p
  | none =>
    if (b.graph.tag n).isContainer then
      modify fun b => { b with waiting := n :: b.waiting }
      setPart n (.container n)
      return .container n
    else
      let p ← b.graph.plain depths n
      setPart n (.plain p)
      return .plain p

/-- The entries of a mapping, merged and added one after the other. -/
def constructEntries (n : NodeId) : Build (List (Plain × Part)) := do
  let b ← get
  let (_, g) ← (merge depths.merges n).run b.graph
  set { b with graph := g }
  (g.entries n).foldlM (fun es (k, v) => do
    match ← construct depths k with
    -- only a plain value can be a key
    | .container _ => throw .malformed
    | .plain key => return addEntry es key (← construct depths v)) []

/-- The only entry of a mapping. -/
def constructPair (n : NodeId) : Build (Part × Part) := do
  match (← get).graph.content n with
  | .mapping [(k, v)] => return (← construct depths k, ← construct depths v)
  | _ => throw .malformed

/-- What goes into the container that a node stands for; its content must fit its tag. -/
def filling (n : NodeId) : Build Filling := do
  let g := (← get).graph
  match g.tag n, g.content n with
  | .sequence, .sequence items => return .list (← items.mapM (construct depths))
  | .mapping, .mapping _ => return .map (← constructEntries depths n)
  | .set, .mapping _ => return .set ((← constructEntries depths n).map (·.1))
  | .orderedMap, .sequence items | .pairs, .sequence items =>
    return .pairs (← items.mapM (constructPair depths))
  | _, _ => throw .malformed

/-- Fills the container that a node stands for. -/
def fill (n : NodeId) : Build Unit := do
  let f ← filling depths n
  modify fun b => { b with fillings := b.fillings.setIfInBounds n (some f) }

/-- Fills at most `fuel` levels of containers. -/
def fillAll : Nat → Build Unit
  | 0 => pure ()
  | fuel + 1 => do
    match (← get).waiting with
    | [] => pure ()
    | ns =>
      modify fun b => { b with waiting := [] }
      ns.reverse.forM (fill depths)
      fillAll fuel

end Filling

/-! ### Values -/

/-- Something around a part: a container, or one of its pairs. -/
inductive Mark where
  | container (n : NodeId)
  | pair (n : NodeId) (i : Nat)
  deriving DecidableEq, Repr

/-- What is in the container that a node stands for. -/
def Builder.filling (b : Builder) (n : NodeId) : Filling :=
  ((b.fillings[n]?).join).getD (.list [])

/-- The shape of what is in a container. -/
def Filling.shape : Filling → Value.Shape
  | .list _ | .pairs _ => .list
  | .map _ | .set _ => .map

/-- The value of a part within the marks `around`; no way in is longer than `fuel`.  Whoever goes
through lists and mappings makes copies of them, but takes pairs as they are: so inside a pair only
what lies between it and the part is around the part. -/
def Builder.value (b : Builder) (copied : Bool) (around : List Mark) : Nat → Part → Value
  | _, .plain p => p.value
  | 0, .container _ => .null
  | fuel + 1, .container n =>
    let f := b.filling n
    if .container n ∈ around then .enclosing f.shape
    else
      let inside := .container n :: around
      match f with
      | .list items => .list (items.map (b.value copied inside fuel))
      | .map entries => .map (entries.map fun e => (e.1.value, b.value copied inside fuel e.2))
      | .set members => .set (memberOrder (members.map (·.value)))
      | .pairs pairs =>
        .list (pairs.mapIdx fun i p =>
          if .pair n i ∈ around then .enclosing .tuple
          else
            let inside := if copied then [.pair n i] else .pair n i :: inside
            .tuple [b.value false inside fuel p.1, b.value false inside fuel p.2])

theorem Builder.value_plain (b : Builder) (copied : Bool) (around : List Mark) (fuel : Nat)
    (p : Plain) : b.value copied around fuel (.plain p) = p.value := by
  cases fuel <;> rfl

/-- The value of a document, given its outermost node. -/
def build (depths : Depths) (g : Graph) (n : NodeId) : Except Fault Value := do
  let steps : Build Part := do
    let p ← construct depths n
    fillAll depths (g.size + 1)
    return p
  let (p, b) ← steps.run (.start g)
  -- a way in goes through each container at most twice, once copied and once within a pair
  return b.value true [] (2 * g.size + 2) p

/-! ### Texts -/

/-- The values of at most `fuel` documents; each is built before the next one is read. -/
def readDocuments (depths : Depths) : Nat → Bool → Composer → Except Fault (List Value)
  | 0, _, _ => .ok []
  | fuel + 1, first, s => do
    match ← (document depths.nodes first).run s with
    | (none, _) => return []
    | (some n, s) =>
      -- a fault in this document shows before the next one is looked at
      let v ← build depths s.graph n
      return v :: (← readDocuments depths fuel false s)

/-- The values of all documents of a text. -/
def readAll (depths : Depths) (cs : List Char) : Except Fault (List Value) :=
  let ts := tokens cs
  readDocuments depths (ts.length + 1) true ⟨ts, .empty, [], []⟩

end ElementLookup.Yaml
