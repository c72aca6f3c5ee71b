/-
**The documents of a stream.**

The documents of a text are read one after the other, until no further one comes or a fault shows.
What the text delivers is told here without counting the documents beforehand.  No document is lost
by counting: every document takes a token at least, so there are no more documents than tokens.

Main definitions:

* `Yaml.Takes`, `Yaml.TakesAt` — how many tokens a reader takes at least;
* `Yaml.Readers` — what the readers of nodes take;
* `Yaml.Delivers`, `Yaml.Stream` — the values that a text delivers, and how it ends;
* `Yaml.delivered` — the values, or the fault that ends them.

Main results:

* `Yaml.takes_readers` — no reader of nodes gives tokens back, and a node takes one at least;
* `Yaml.takes_document` — a document takes a token at least;
* `Yaml.exists_stream` — every text delivers some values and ends;
* `Yaml.readAll_of_stream` — **reading a text comes to what the text delivers**.
-/

import ElementLookup.Yaml.Document

set_option autoImplicit false

namespace ElementLookup.Yaml

open Compose

variable {α β : Type}

/-! ### How many tokens a reader takes -/

/-- A reader that succeeds takes at least as many tokens as are said of its result. -/
def Takes (count : α → Nat) (x : Compose α) : Prop :=
  ∀ s a t, x.run s = .ok (a, t) → t.tokens.length + count a ≤ s.tokens.length

/-- Whether no token follows. -/
def Token.isEnd : Token → Bool
  | .streamEnd => true
  | _ => false

/-- The same for a reader before which the token `next` was seen. -/
def TakesAt (next : Token) (count : α → Nat) (x : Compose α) : Prop :=
  ∀ s a t, s.tokens.head?.getD .streamEnd = next → x.run s = .ok (a, t) →
    t.tokens.length + count a ≤ s.tokens.length

theorem Takes.at {count : α → Nat} {x : Compose α} (h : Takes count x) (next : Token) :
    TakesAt next count x :=
  fun s a t _ ht => h s a t ht

theorem Takes.mono {count count' : α → Nat} {x : Compose α} (h : Takes count x)
    (hle : ∀ a, count' a ≤ count a) : Takes count' x := by
  intro s a t ht
  have hcount := h s a t ht
  have hle := hle a
  omega

theorem exists_of_run_bind {x : Compose α} {f : α → Compose β} {s u : Composer} {b : β}
    (h : (x >>= f).run s = .ok (b, u)) :
    ∃ a t, x.run s = .ok (a, t) ∧ (f a).run t = .ok (b, u) := by
  rw [StateT.run_bind] at h
  cases hx : x.run s with
  | error fault =>
    rw [hx] at h
    cases h
  | ok r =>
    rw [hx] at h
    exact ⟨r.1, r.2, rfl, h⟩

theorem takes_pure {count : α → Nat} {a : α} (h : count a = 0) :
    Takes count (pure a : Compose α) := by
  rintro s b t ⟨⟩
  rw [h]
  exact Nat.le_refl _

theorem takes_throw (count : α → Nat) (fault : Fault) : Takes count (throw fault : Compose α) := by
  rintro s a t ⟨⟩

theorem takes_throw_bind (count : β → Nat) (fault : Fault) (f : α → Compose β) :
    Takes count (throw fault >>= f) := by
  intro s b u h
  obtain ⟨a, t, hthrow, -⟩ := exists_of_run_bind h
  cases hthrow

/-- A reader after another takes what both take. -/
theorem Takes.bind {first : α → Nat} {count : β → Nat} {x : Compose α} {f : α → Compose β}
    (hx : Takes first x) (hf : ∀ a, Takes (fun b => count b - first a) (f a)) :
    Takes count (x >>= f) := by
  intro s b u h
  obtain ⟨a, t, ha, hb⟩ := exists_of_run_bind h
  have hfirst := hx s a t ha
  have hsecond := hf a t b u hb
  dsimp only at hsecond
  omega

/-- The same where nothing is said of the first reader. -/
theorem Takes.followed {count : β → Nat} {x : Compose α} {f : α → Compose β}
    (hx : Takes (fun _ => 0) x) (hf : ∀ a, Takes count (f a)) : Takes count (x >>= f) :=
  hx.bind hf

/-- The same where it does not matter how much is taken. -/
theorem Takes.seq {first : α → Nat} {x : Compose α} {f : α → Compose β} (hx : Takes first x)
    (hf : ∀ a, Takes (fun _ => 0) (f a)) : Takes (fun _ => 0) (x >>= f) :=
  hx.bind fun a => (hf a).mono fun _ => Nat.sub_le _ _

theorem Takes.get_bind {count : β → Nat} {f : Composer → Compose β}
    (h : ∀ s, Takes count (f s)) : Takes count (get >>= f) :=
  fun s b t ht => h s s b t ht

theorem takes_modify {f : Composer → Composer} (h : ∀ s, (f s).tokens = s.tokens) :
    Takes (fun _ => 0) (modify f : Compose Unit) := by
  rintro s a t ⟨⟩
  rw [h]
  exact Nat.le_refl _

theorem run_peek {s t : Composer} {next : Token} (h : peek.run s = .ok (next, t)) :
    t = s ∧ s.tokens.head?.getD .streamEnd = next := by
  obtain ⟨tokens, graph, anchors, handles⟩ := s
  cases tokens with
  | nil =>
    cases h
    exact ⟨rfl, rfl⟩
  | cons first r =>
    cases first with
    | fault f => cases h
    | _ =>
      cases h
      exact ⟨rfl, rfl⟩

/-- What follows a look at the next token knows it. -/
theorem Takes.peek_bind {count : β → Nat} {f : Token → Compose β}
    (h : ∀ next, TakesAt next count (f next)) : Takes count (peek >>= f) := by
  intro s b u hrun
  obtain ⟨next, t, hpeek, hf⟩ := exists_of_run_bind hrun
  obtain ⟨rfl, hnext⟩ := run_peek hpeek
  exact h next t b u hnext hf

theorem Takes.ite {p : Prop} [Decidable p] {count : α → Nat} {x y : Compose α}
    (hx : p → Takes count x) (hy : ¬ p → Takes count y) : Takes count (if p then x else y) := by
  by_cases h : p
  · rw [if_pos h]
    exact hx h
  · rw [if_neg h]
    exact hy h

theorem TakesAt.ite {p : Prop} [Decidable p] {next : Token} {count : α → Nat} {x y : Compose α}
    (hx : p → TakesAt next count x) (hy : ¬ p → TakesAt next count y) :
    TakesAt next count (if p then x else y) := by
  by_cases h : p
  · rw [if_pos h]
    exact hx h
  · rw [if_neg h]
    exact hy h

/-- Whoever sees a token and moves on has taken it. -/
theorem TakesAt.skip_bind {next : Token} {count : β → Nat} {f : Unit → Compose β}
    (hnext : next.isEnd = false) (hf : Takes (fun b => count b - 1) (f ())) :
    TakesAt next count (skip >>= f) := by
  intro s b u hhead hrun
  obtain ⟨⟨⟩, t, hskip, hb⟩ := exists_of_run_bind hrun
  cases hskip
  have hrest := hf _ b u hb
  obtain ⟨tokens, graph, anchors, handles⟩ := s
  cases tokens with
  | nil =>
    rw [← hhead] at hnext
    cases hnext
  | cons first r =>
    simp only [List.tail_cons, List.length_cons] at hrest ⊢
    omega

theorem takes_skipIf (next : Token) (h : next.isEnd = false) :
    Takes (fun b => if b then 1 else 0) (skipIf next) := by
  refine .peek_bind fun seen => ?_
  by_cases hseen : seen = next
  · subst hseen
    rw [if_pos rfl]
    exact .skip_bind h (takes_pure rfl)
  · rw [if_neg hseen]
    exact Takes.at (takes_pure (by rfl)) seen

theorem takes_expect (next : Token) (h : next.isEnd = false) :
    Takes (fun _ => 1) (expect next) := by
  refine (takes_skipIf next h).bind fun b => ?_
  cases b with
  | true => exact takes_pure rfl
  | false => exact takes_throw _ _

/-- A reader that may want a token first gives none back. -/
theorem Takes.expect_ite {p : Prop} [Decidable p] {x : Compose α} (next : Token)
    (h : next.isEnd = false) (hx : Takes (fun _ => 0) x) :
    Takes (fun _ => 0) (if p then expect next >>= fun _ => x else x) :=
  .ite (fun _ => (takes_expect next h).seq fun _ => hx) fun _ => hx

theorem takes_sees (ts : List Token) : Takes (fun _ => 0) (sees ts) :=
  .peek_bind fun next => Takes.at (takes_pure (by rfl)) next

/-! ### Properties -/

theorem takes_anchor? : Takes (fun a => if a.isSome then 1 else 0) anchor? := by
  refine .peek_bind fun next => ?_
  cases next with
  | anchor name => exact .skip_bind rfl (takes_pure rfl)
  | _ => exact Takes.at (takes_pure (by rfl)) _

theorem takes_tag? : Takes (fun t => if t.isSome then 1 else 0) tag? := by
  refine .peek_bind fun next => ?_
  cases next with
  | tag handle suffix => exact .skip_bind rfl (takes_pure rfl)
  | _ => exact Takes.at (takes_pure (by rfl)) _

/-- An anchor or a tag takes a token. -/
theorem takes_properties : Takes (fun p => if p.isEmpty then 0 else 1) properties := by
  refine takes_anchor?.bind fun before => takes_tag?.bind fun written => ?_
  -- only a tag in front may have an anchor behind it
  cases before with
  | none =>
    cases written with
    | none => exact takes_pure rfl
    | some w =>
      refine takes_anchor?.bind fun after => .get_bind fun s => ?_
      cases s.tag? w.1 w.2 with
      | none => exact takes_throw _ _
      | some full => exact takes_pure (by cases after <;> rfl)
  | some name =>
    cases written with
    | none => exact takes_pure rfl
    | some w =>
      refine Takes.followed (takes_pure rfl) fun after => .get_bind fun s => ?_
      cases s.tag? w.1 w.2 with
      | none => exact takes_throw _ _
      | some full => exact takes_pure rfl

/-! ### Nodes -/

theorem takes_newNode (n : Node) : Takes (fun _ => 0) (newNode n) := by
  rintro s a t ⟨⟩
  exact Nat.le_refl _

theorem takes_note (anchor : Option String) (n : NodeId) : Takes (fun _ => 0) (note anchor n) := by
  cases anchor with
  | none => exact takes_pure rfl
  | some name => exact takes_modify fun _ => rfl

theorem takes_checkAnchor (anchor : Option String) : Takes (fun _ => 0) (checkAnchor anchor) := by
  refine .get_bind fun s => ?_
  split
  · exact takes_throw _ _
  · exact takes_pure rfl

theorem takes_textNode (p : Properties) (signs : List Text.Sign) (plain : Bool) :
    Takes (fun _ => 0) (textNode p signs plain) :=
  (takes_checkAnchor _).followed fun _ => (takes_newNode _).followed fun _ =>
    (takes_note _ _).followed fun _ => takes_pure rfl

/-- A container gives no token back if its content gives none. -/
theorem Takes.container {read : Compose Content} (h : Takes (fun _ => 0) read) (p : Properties)
    (usual : Tag) : Takes (fun _ => 0) (container p usual read) := by
  refine (takes_checkAnchor _).followed fun _ => (takes_newNode _).followed fun n =>
    (takes_note _ _).followed fun _ => h.followed fun c =>
      Takes.followed (takes_modify ?_) fun _ => ?_
  · exact fun _ => rfl
  · exact takes_pure rfl

theorem takes_aliased (name : String) : Takes (fun _ => 0) (aliased name) := by
  refine .get_bind fun s => ?_
  split
  · exact takes_pure rfl
  · exact takes_throw _ _

/-- No reader of nodes gives tokens back, and a node takes one at least, unless it may be a sequence
without indentation. -/
structure Readers (fuel : Nat) : Prop where
  node (depth : Nat) (block : Bool) {indentless : Bool} {k : Nat} :
    k ≤ 1 → (indentless = true → k = 0) → Takes (fun _ => k) (node fuel depth block indentless)
  nodeUnless (depth : Nat) (block indentless : Bool) (ends : List Token) :
    Takes (fun _ => 0) (nodeUnless fuel depth block indentless ends)
  blockItems (depth : Nat) : Takes (fun _ => 0) (blockItems fuel depth)
  indentlessItems (depth : Nat) : Takes (fun _ => 0) (indentlessItems fuel depth)
  blockEntries (depth : Nat) : Takes (fun _ => 0) (blockEntries fuel depth)
  bracketItems (depth : Nat) (first : Bool) : Takes (fun _ => 0) (bracketItems fuel depth first)
  braceEntries (depth : Nat) (first : Bool) : Takes (fun _ => 0) (braceEntries fuel depth first)

section Readers

variable {fuel : Nat} (ih : Readers fuel)

include ih

theorem Readers.node_succ (depth : Nat) (block : Bool) {indentless : Bool} {k : Nat} (hk : k ≤ 1)
    (hindentless : indentless = true → k = 0) :
    Takes (fun _ => k) (Yaml.node (fuel + 1) depth block indentless) := by
  rw [Yaml.node]
  refine .ite (fun _ => takes_throw_bind _ _ _) fun _ => ?_
  refine .peek_bind fun next => ?_
  split
  · exact .skip_bind rfl ((takes_aliased _).mono fun _ => by omega)
  refine Takes.at (takes_properties.bind fun p => .peek_bind fun t => ?_) next
  -- what is still to be taken: nothing, if there was an anchor or a tag
  obtain ⟨rest, hrest⟩ : ∃ rest, rest = k - if p.isEmpty then 0 else 1 := ⟨_, rfl⟩
  have hle : rest ≤ 1 := by omega
  rw [← hrest]
  refine .ite (fun h => ?_) fun _ => ?_
  · have hzero : k = 0 := hindentless (Bool.and_eq_true_iff.1 h).1
    refine Takes.at ((Takes.container ?_ _ _).mono fun _ => by omega) t
    exact (ih.indentlessItems _).followed fun _ => takes_pure rfl
  split
  · exact .skip_bind rfl ((takes_textNode _ _ _).mono fun _ => by omega)
  · refine .skip_bind rfl ((Takes.container ?_ _ _).mono fun _ => by omega)
    exact (ih.bracketItems _ _).followed fun _ => takes_pure rfl
  · refine .skip_bind rfl ((Takes.container ?_ _ _).mono fun _ => by omega)
    exact (ih.braceEntries _ _).followed fun _ => takes_pure rfl
  refine .ite (fun h => ?_) fun _ => .ite (fun h => ?_) fun _ => .ite (fun _ => ?_) fun h => ?_
  · obtain rfl : t = .sequenceStart := of_decide_eq_true (Bool.and_eq_true_iff.1 h).2
    refine .skip_bind rfl ((Takes.container ?_ _ _).mono fun _ => by omega)
    exact (ih.blockItems _).followed fun _ => takes_pure rfl
  · obtain rfl : t = .mappingStart := of_decide_eq_true (Bool.and_eq_true_iff.1 h).2
    refine .skip_bind rfl ((Takes.container ?_ _ _).mono fun _ => by omega)
    exact (ih.blockEntries _).followed fun _ => takes_pure rfl
  · exact Takes.at (takes_throw _ _) t
  · rw [if_neg h] at hrest
    exact Takes.at ((takes_textNode _ _ _).mono fun _ => by omega) t

theorem Readers.nodeUnless_succ (depth : Nat) (block indentless : Bool) (ends : List Token) :
    Takes (fun _ => 0) (Yaml.nodeUnless (fuel + 1) depth block indentless ends) := by
  rw [Yaml.nodeUnless]
  refine (takes_sees ends).seq fun b => .ite (fun _ => takes_newNode _) fun _ => ?_
  exact ih.node _ _ (Nat.zero_le 1) fun _ => rfl

theorem Readers.blockItems_succ (depth : Nat) :
    Takes (fun _ => 0) (Yaml.blockItems (fuel + 1) depth) := by
  rw [Yaml.blockItems]
  refine (takes_skipIf .entry rfl).seq fun b => .ite (fun _ => ?_) fun _ => ?_
  · exact (ih.nodeUnless _ _ _ _).seq fun n => (ih.blockItems _).seq fun _ => takes_pure rfl
  · exact (takes_expect .blockEnd rfl).seq fun _ => takes_pure rfl

theorem Readers.indentlessItems_succ (depth : Nat) :
    Takes (fun _ => 0) (Yaml.indentlessItems (fuel + 1) depth) := by
  rw [Yaml.indentlessItems]
  refine (takes_skipIf .entry rfl).seq fun b =>
    .ite (fun _ => ?_) fun _ => takes_pure rfl
  exact (ih.nodeUnless _ _ _ _).seq fun n => (ih.indentlessItems _).seq fun _ => takes_pure rfl

/-- A value may be missing. -/
theorem Readers.value_bind {f : NodeId → Compose β} (hf : ∀ v, Takes (fun _ => 0) (f v))
    (depth : Nat) (block indentless : Bool) (ends : List Token) :
    Takes (fun _ => 0) (skipIf .value >>= fun b =>
      if b then Yaml.nodeUnless fuel depth block indentless ends >>= f else missing >>= f) :=
  (takes_skipIf .value rfl).seq fun _ =>
    .ite (fun _ => (ih.nodeUnless _ _ _ _).seq hf) fun _ => (takes_newNode _).seq hf

theorem Readers.blockEntries_succ (depth : Nat) :
    Takes (fun _ => 0) (Yaml.blockEntries (fuel + 1) depth) := by
  rw [Yaml.blockEntries]
  refine (takes_skipIf .key rfl).seq fun b => .ite (fun _ => ?_) fun _ => ?_
  · exact (ih.nodeUnless _ _ _ _).seq fun k =>
      ih.value_bind (fun v => (ih.blockEntries _).seq fun _ => takes_pure rfl) _ _ _ _
  · exact (takes_expect .blockEnd rfl).seq fun _ => takes_pure rfl

theorem Readers.bracketItems_succ (depth : Nat) (first : Bool) :
    Takes (fun _ => 0) (Yaml.bracketItems (fuel + 1) depth first) := by
  rw [Yaml.bracketItems]
  refine (takes_skipIf .closeBracket rfl).seq fun b =>
    .ite (fun _ => takes_pure rfl) fun _ => ?_
  refine .expect_ite .comma rfl ?_
  have hitem (n : NodeId) : Takes (fun _ => 0) (do
      return n :: (← Yaml.bracketItems fuel depth false)) :=
    (ih.bracketItems _ _).seq fun _ => takes_pure rfl
  refine (takes_skipIf .key rfl).seq fun b => .ite (fun _ => ?_) fun _ => ?_
  · exact (ih.nodeUnless _ _ _ _).seq fun k =>
      ih.value_bind (fun v => (takes_newNode _).seq hitem) _ _ _ _
  · exact (takes_skipIf .closeBracket rfl).seq fun b =>
      .ite (fun _ => takes_pure rfl) fun _ => (ih.node _ _ (Nat.zero_le 1) fun _ => rfl).seq hitem

theorem Readers.braceEntries_succ (depth : Nat) (first : Bool) :
    Takes (fun _ => 0) (Yaml.braceEntries (fuel + 1) depth first) := by
  rw [Yaml.braceEntries]
  refine (takes_skipIf .closeBrace rfl).seq fun b =>
    .ite (fun _ => takes_pure rfl) fun _ => ?_
  refine .expect_ite .comma rfl ?_
  have hentry (k v : NodeId) : Takes (fun _ => 0) (do
      return (k, v) :: (← Yaml.braceEntries fuel depth false)) :=
    (ih.braceEntries _ _).seq fun _ => takes_pure rfl
  refine (takes_skipIf .key rfl).seq fun b => .ite (fun _ => ?_) fun _ => ?_
  · exact (ih.nodeUnless _ _ _ _).seq fun k => ih.value_bind (hentry k) _ _ _ _
  · exact (takes_skipIf .closeBrace rfl).seq fun b =>
      .ite (fun _ => takes_pure rfl) fun _ =>
        (ih.node _ _ (Nat.zero_le 1) fun _ => rfl).seq fun k => (takes_newNode _).seq (hentry k)

end Readers

theorem takes_readers (fuel : Nat) : Readers fuel := by
  induction fuel with
  | zero =>
    -- without fuel every reader refuses
    constructor
    all_goals intros
    case node => rw [node]; exact takes_throw _ _
    case nodeUnless => rw [nodeUnless]; exact takes_throw _ _
    case blockItems => rw [blockItems]; exact takes_throw _ _
    case indentlessItems => rw [indentlessItems]; exact takes_throw _ _
    case blockEntries => rw [blockEntries]; exact takes_throw _ _
    case bracketItems => rw [bracketItems]; exact takes_throw _ _
    case braceEntries => rw [braceEntries]; exact takes_throw _ _
  | succ fuel ih =>
    exact {
      node := ih.node_succ
      nodeUnless := ih.nodeUnless_succ
      blockItems := ih.blockItems_succ
      indentlessItems := ih.indentlessItems_succ
      blockEntries := ih.blockEntries_succ
      bracketItems := ih.bracketItems_succ
      braceEntries := ih.braceEntries_succ }

/-! ### Documents -/

theorem takes_skipEnds (fuel : Nat) : Takes (fun _ => 0) (skipEnds fuel) := by
  induction fuel with
  | zero => exact takes_pure rfl
  | succ fuel ih =>
    exact (takes_skipIf .documentEnd rfl).seq fun b =>
      .ite (fun _ => ih) fun _ => takes_pure rfl

theorem takes_directives (d : Directives) (fuel : Nat) :
    Takes (fun _ => 0) (directives d fuel) := by
  induction fuel generalizing d with
  | zero => exact takes_pure rfl
  | succ fuel ih =>
    rw [directives]
    refine .peek_bind fun next => ?_
    split
    · exact .skip_bind rfl (.ite (fun _ => takes_throw _ _) fun _ => ih _)
    · exact .skip_bind rfl (.ite (fun _ => takes_throw _ _) fun _ => ih _)
    · exact .skip_bind rfl (ih _)
    · exact Takes.at (takes_pure (by rfl)) next

/-- Whether a document begins at this token without a mark. -/
def startsBare (first : Bool) : Token → Bool
  | .directive _ | .documentStart | .streamEnd => false
  | _ => first

/-- What is before a document's tree, once it is known whether there is a mark. -/
def treeAfter? (fuel : Nat) (bare : Bool) : Compose (Option Bool) := do
  if bare then
    modify fun s => { s with graph := .empty, anchors := [], handles := commonHandles }
    return some false
  else
    skipEnds fuel
    if (← peek) = .streamEnd then return none
    let d ← directives ⟨false, []⟩ fuel
    expect .documentStart
    modify fun s => { s with
      graph := .empty, anchors := [], handles := d.handles ++ commonHandles }
    match ← peek with
    | .directive _ | .documentStart | .documentEnd | .streamEnd => return some true
    | _ => return some false

theorem documentStart?_eq (first : Bool) (fuel : Nat) :
    documentStart? first fuel = peek >>= fun next => treeAfter? fuel (startsBare first next) := by
  rw [documentStart?]
  congr 1
  funext next
  cases next <;> rfl

/-- Before a tree that is missing, there is at least the mark that starts its document. -/
theorem takes_documentStart? (first : Bool) (fuel : Nat) :
    Takes (fun r => if r = some true then 1 else 0) (documentStart? first fuel) := by
  rw [documentStart?_eq]
  refine .peek_bind fun next => Takes.at (.ite (fun _ => ?_) fun _ => ?_) next
  · exact Takes.followed (takes_modify fun _ => rfl) fun _ => takes_pure rfl
  · refine (takes_skipEnds fuel).followed fun _ => .peek_bind fun next => ?_
    refine .ite (fun _ => Takes.at (takes_pure (by rfl)) _) fun _ => Takes.at ?_ _
    refine (takes_directives _ fuel).followed fun d =>
      (takes_expect .documentStart rfl).bind fun _ =>
        Takes.followed (takes_modify fun _ => rfl) fun _ => ?_
    refine .peek_bind fun next => ?_
    split <;> exact Takes.at (takes_pure (by rfl)) _

/-- A document takes a token at least. -/
theorem takes_document (depth : Nat) (first : Bool) :
    Takes (fun r => if r.isSome then 1 else 0) (document depth first) := by
  refine .get_bind fun s => (takes_documentStart? _ _).bind fun r => ?_
  cases r with
  | none => exact takes_pure rfl
  | some noTree =>
    cases noTree with
    | true =>
      exact (takes_newNode _).followed fun n =>
        (takes_skipIf .documentEnd rfl).bind fun _ => takes_pure (by simp)
    | false =>
      have hnode : Takes (fun _ => 1) (node (4 * s.tokens.length + 8) depth true false) :=
        (takes_readers _).node depth true (Nat.le_refl 1) fun h => absurd h (by decide)
      exact hnode.bind fun n =>
        (takes_skipIf .documentEnd rfl).bind fun _ => takes_pure (by simp)

/-! ### Streams -/

/-- What the tokens of a text deliver, from some state on: the values of the documents, one after
the other, and the fault that ends them, if there is one.  A document is built before the next one
is read. -/
inductive Delivers (depths : Depths) : Bool → Composer → List Value → Option Fault → Prop
  | done {first : Bool} {s t : Composer} :
      (document depths.nodes first).run s = .ok (none, t) → Delivers depths first s [] none
  | unread {first : Bool} {s : Composer} {fault : Fault} :
      (document depths.nodes first).run s = .error fault →
      Delivers depths first s [] (some fault)
  | unbuilt {first : Bool} {s t : Composer} {n : NodeId} {fault : Fault} :
      (document depths.nodes first).run s = .ok (some n, t) →
      build depths t.graph n = .error fault → Delivers depths first s [] (some fault)
  | next {first : Bool} {s t : Composer} {n : NodeId} {v : Value} {vs : List Value}
      {ended : Option Fault} :
      (document depths.nodes first).run s = .ok (some n, t) →
      build depths t.graph n = .ok v → Delivers depths false t vs ended →
      Delivers depths first s (v :: vs) ended

/-- What a text delivers. -/
def Stream (depths : Depths) (cs : List Char) (vs : List Value) (ended : Option Fault) : Prop :=
  Delivers depths true ⟨tokens cs, .empty, [], []⟩ vs ended

variable {depths : Depths}

/-- What follows a document has fewer tokens. -/
theorem length_lt_of_document {depth : Nat} {first : Bool} {s t : Composer} {n : NodeId}
    (h : (document depth first).run s = .ok (some n, t)) : t.tokens.length < s.tokens.length :=
  takes_document depth first s (some n) t h

theorem exists_delivers (depths : Depths) (first : Bool) (s : Composer) :
    ∃ vs ended, Delivers depths first s vs ended := by
  induction hn : s.tokens.length using Nat.strongRecOn generalizing first s with
  | ind n ih =>
    cases hread : (document depths.nodes first).run s with
    | error fault => exact ⟨[], some fault, .unread hread⟩
    | ok r =>
      obtain ⟨n?, t⟩ := r
      cases n? with
      | none => exact ⟨[], none, .done hread⟩
      | some m =>
        cases hbuild : build depths t.graph m with
        | error fault => exact ⟨[], some fault, .unbuilt hread hbuild⟩
        | ok v =>
          obtain ⟨vs, ended, hvs⟩ := ih _ (hn ▸ length_lt_of_document hread) false t rfl
          exact ⟨v :: vs, ended, .next hread hbuild hvs⟩

/-- Every text delivers some values, and ends. -/
theorem exists_stream (depths : Depths) (cs : List Char) :
    ∃ vs ended, Stream depths cs vs ended :=
  exists_delivers depths _ _

/-- What reading comes to: all values, or the fault that ends them. -/
def delivered (vs : List Value) : Option Fault → Except Fault (List Value)
  | none => .ok vs
  | some fault => .error fault

theorem readDocuments_of_delivers {first : Bool} {s : Composer} {vs : List Value}
    {ended : Option Fault} (h : Delivers depths first s vs ended) {fuel : Nat}
    (hfuel : s.tokens.length < fuel) : readDocuments depths fuel first s = delivered vs ended := by
  obtain ⟨fuel, rfl⟩ : ∃ k, fuel = k + 1 := ⟨fuel - 1, by omega⟩
  induction h generalizing fuel with
  | done hread => rw [readDocuments, hread]; rfl
  | unread hread => rw [readDocuments, hread]; rfl
  | unbuilt hread hbuild =>
    rw [readDocuments, hread]
    dsimp only [bind, Except.bind]
    rw [hbuild]
    rfl
  | @next first s t n v vs ended hread hbuild _ ih =>
    have hlt := length_lt_of_document hread
    obtain ⟨fuel, rfl⟩ : ∃ k, fuel = k + 1 := ⟨fuel - 1, by omega⟩
    rw [readDocuments, hread]
    dsimp only [bind, Except.bind]
    rw [hbuild]
    dsimp only
    rw [ih fuel (by omega)]
    cases ended <;> rfl

/-- Reading a text comes to what the text delivers; none of its documents is lost. -/
theorem readAll_of_stream {cs : List Char} {vs : List Value} {ended : Option Fault}
    (h : Stream depths cs vs ended) : readAll depths cs = delivered vs ended :=
  readDocuments_of_delivers h (Nat.lt_succ_self _)

theorem stream_of_readAll {cs : List Char} {vs : List Value}
    (h : readAll depths cs = .ok vs) : Stream depths cs vs none := by
  obtain ⟨ws, ended, hstream⟩ := exists_stream depths cs
  have hread := readAll_of_stream hstream
  rw [h] at hread
  cases ended with
  | none =>
    cases hread
    exact hstream
  | some fault => cases hread

end ElementLookup.Yaml
