/-
**Entries that mappings take over.**

Under a special key a mapping may name another mapping, or a sequence of mappings, whose entries it
takes over before its own.  Merging replaces the content of the node itself, so whoever refers to a
merged mapping later sees the entries that it took over.  Mappings that are taken over are merged
first; a key that was acted upon is removed at once, so a mapping that names itself comes to an end.

Main definitions:

* `Yaml.Graph.firstMerge?` — the first entry that asks for merging;
* `Yaml.Graph.settled` — a graph in which default keys are texts;
* `Yaml.takenFrom`, `Yaml.merge` — the entries that are taken over, and merging.

Main results:

* `Yaml.Graph.firstMerge?_eq_none_iff` — no entry asks for merging exactly if no key does;
* `Yaml.Graph.length_of_firstMerge?` — acting upon an entry leaves one entry less.
-/

import ElementLookup.Yaml.Graph

set_option autoImplicit false

namespace ElementLookup.Yaml

/-! ### Entries that ask for merging -/

/-- What the first entry that asks for merging names, and the entries without it. -/
def Graph.firstMerge? (g : Graph) :
    List (NodeId × NodeId) → Option (NodeId × List (NodeId × NodeId))
  | [] => none
  | (k, v) :: r =>
    if g.tag k = .merge then some (v, r)
    else (g.firstMerge? r).map fun p => (p.1, (k, v) :: p.2)

theorem Graph.firstMerge?_eq_none_iff (g : Graph) (es : List (NodeId × NodeId)) :
    g.firstMerge? es = none ↔ ∀ e ∈ es, g.tag e.1 ≠ .merge := by
  induction es with
  | nil => simp [Graph.firstMerge?]
  | cons e r ih =>
    obtain ⟨k, v⟩ := e
    by_cases h : g.tag k = .merge <;> simp [Graph.firstMerge?, h, ih]

theorem Graph.length_of_firstMerge? (g : Graph) {es rest : List (NodeId × NodeId)} {v : NodeId}
    (h : g.firstMerge? es = some (v, rest)) : rest.length + 1 = es.length := by
  induction es generalizing rest with
  | nil => cases h
  | cons e r ih =>
    obtain ⟨k, w⟩ := e
    by_cases hk : g.tag k = .merge
    · simp only [Graph.firstMerge?, if_pos hk, Option.some.injEq, Prod.mk.injEq] at h
      simp [h.2]
    · simp only [Graph.firstMerge?, if_neg hk, Option.map_eq_some_iff, Prod.mk.injEq] at h
      obtain ⟨⟨u, t⟩, ht, rfl, rfl⟩ := h
      simp [ih ht]

/-- How many entries of a graph ask for merging. -/
def Graph.mergeCount (g : Graph) : Nat :=
  g.nodes.foldl (fun n d =>
    match d.content with
    | .mapping es => n + (es.filter fun e => g.tag e.1 = .merge).length
    | _ => n) 0

/-- The graph in which the keys of some entries are texts where they are defaults. -/
def Graph.settled (g : Graph) (es : List (NodeId × NodeId)) : Graph :=
  es.foldl (fun g e => if g.tag e.1 = .default then g.setTag e.1 .text else g) g

/-! ### Merging -/

/-- A step that may change nodes. -/
abbrev Merging := StateT Graph (Except Fault)

/-- The entries that a node has to give, once those of its parts are merged. -/
def takenFrom (mergeNode : NodeId → Merging Unit) (n : NodeId) :
    Merging (List (NodeId × NodeId)) := do
  let one (n : NodeId) : Merging (List (NodeId × NodeId)) := do
    match (← get).content n with
    | .mapping _ =>
      mergeNode n
      return (← get).entries n
    | _ => throw .malformed
  match (← get).content n with
  | .sequence items =>
    -- the first mapping goes last, so that its entries replace those of the later ones
    return (← items.mapM one).reverse.flatten
  | _ => one n

/-- Merges a mapping that has taken over the entries `taken` already, with at most `depth` mappings
that wait for one another.  Every call but the last acts upon one entry, so `fuel` is enough if it
exceeds their number. -/
def mergeAfter : Nat → Nat → List (NodeId × NodeId) → NodeId → Merging Unit
  | 0, _, _, _ => throw .tooDeep
  | fuel + 1, depth, taken, n => do
    if depth = 0 then throw .tooDeep
    let g ← get
    let own := g.entries n
    match g.firstMerge? own with
    | none => set ((g.settled own).setContent n (.mapping (taken ++ own)))
    | some (v, rest) =>
      set (g.setContent n (.mapping rest))
      let more ← takenFrom (mergeAfter fuel (depth - 1) []) v
      mergeAfter fuel depth (taken ++ more) n

/-- Merges a mapping, with at most `depth` mappings that wait for one another. -/
def merge (depth : Nat) (n : NodeId) : Merging Unit := do
  mergeAfter ((← get).mergeCount + 1) depth [] n

end ElementLookup.Yaml
