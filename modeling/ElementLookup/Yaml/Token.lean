/-
**Tokens of documents.**

A document is read as a sequence of tokens.  Indentation becomes tokens of its own: where a deeper
column begins, a collection begins, and it ends where the text goes back to the left.  A key of a
mapping is recognised only at the colon that follows it, so the token that announces the key is put
in front of tokens that were read before: as long as a colon may still make a key of them, their
place is remembered.

Main definitions:

* `Yaml.Token` — the tokens; a fault stands where reading stopped;
* `Yaml.TokenStack` — the tokens that were read, among which one may still be put;
* `Yaml.Lexer` — the state of reading: indentation, brackets and possible keys;
* `Yaml.Lexer.next` — one step of reading;
* `Yaml.tokens` — the tokens of a text.

Main results:

* `Yaml.TokenStack.toList_push`, `Yaml.TokenStack.toList_insertAt` — where an added token stands;
* `Yaml.Lexer.unwind_indent` — in block context, what lies to the right of a column is closed.
-/

import ElementLookup.Yaml.Lexeme

set_option autoImplicit false

namespace ElementLookup.Yaml

/-! ### Tokens -/

/-- A line that starts with a percent sign: the version of the rules, a handle for tags, or
something that is passed over. -/
inductive Directive where
  | version (major : Nat)
  | handle (name uriStart : String)
  | other
  deriving DecidableEq, Repr

/-- A token. -/
inductive Token where
  | directive (d : Directive)
  | documentStart
  | documentEnd
  | sequenceStart
  | mappingStart
  | blockEnd
  | openBracket
  | closeBracket
  | openBrace
  | closeBrace
  | comma
  | entry
  | key
  | value
  | alias (name : String)
  | anchor (name : String)
  | tag (handle : Option String) (suffix : String)
  | scalar (signs : List Text.Sign) (plain : Bool)
  | streamEnd
  | fault (f : Fault)
  deriving DecidableEq, Repr

/-! ### Tokens that were read -/

/-- The tokens that were read, the latest one first, and their number. -/
structure TokenStack where
  latest : List Token
  size : Nat

namespace TokenStack

/-- No tokens. -/
def empty : TokenStack := ⟨[], 0⟩

/-- The tokens in order. -/
def toList (s : TokenStack) : List Token := s.latest.reverse

/-- Adds a token at the end. -/
def push (s : TokenStack) (t : Token) : TokenStack := ⟨t :: s.latest, s.size + 1⟩

/-- Puts a token before the one with number `n`. -/
def insertAt (s : TokenStack) (n : Nat) (t : Token) : TokenStack :=
  ⟨s.latest.take (s.size - n) ++ t :: s.latest.drop (s.size - n), s.size + 1⟩

/-- The tokens before the one with number `n`. -/
def before (s : TokenStack) (n : Nat) : TokenStack :=
  ⟨s.latest.drop (s.size - n), n⟩

@[simp] theorem toList_push (s : TokenStack) (t : Token) :
    (s.push t).toList = s.toList ++ [t] := by
  simp [push, toList]

/-- The token stands behind `n` tokens, and the others keep their order. -/
theorem toList_insertAt (s : TokenStack) (n : Nat) (t : Token) (hs : s.size = s.latest.length) :
    (s.insertAt n t).toList = s.toList.take n ++ t :: s.toList.drop n := by
  simp [insertAt, toList, List.take_reverse, List.drop_reverse, ← hs]

end TokenStack

/-! ### State -/

/-- Tokens that a colon may still make a key of: the first one's number, its place, and whether
there must be a colon. -/
structure PossibleKey where
  number : Nat
  required : Bool
  index : Nat
  line : Nat
  column : Nat

/-- The state of reading.  `indent` is the column of the innermost block collection, or -1. -/
structure Lexer where
  cursor : Cursor
  tokens : TokenStack
  depth : Nat
  indent : Int
  outer : List Int
  keyAllowed : Bool
  keys : List (Nat × PossibleKey)

namespace Lexer

/-- Before the first character. -/
def start (cs : List Char) : Lexer :=
  ⟨.start cs, .empty, 0, -1, [], true, []⟩

/-- Whether brackets are open, so that indentation means nothing. -/
def inFlow (l : Lexer) : Bool := 0 < l.depth

/-- Adds a token at the end. -/
def push (l : Lexer) (t : Token) : Lexer := { l with tokens := l.tokens.push t }

/-- Moves on. -/
def moveTo (l : Lexer) (c : Cursor) : Lexer := { l with cursor := c }

/-- Moves over `n` characters and adds a token. -/
def take (l : Lexer) (n : Nat) (t : Token) : Lexer :=
  (l.moveTo (l.cursor.skip n)).push t

/-- Says whether a key may begin next. -/
def allowKey (l : Lexer) (b : Bool) : Lexer := { l with keyAllowed := b }

/-! ### Indentation -/

/-- Closes the block collections whose column is greater, given the columns around them. -/
def unwindFrom (column : Int) (indent : Int) (tokens : TokenStack) :
    List Int → Int × List Int × TokenStack
  | [] => (indent, [], tokens)
  | o :: r =>
    if column < indent then unwindFrom column o (tokens.push .blockEnd) r
    else (indent, o :: r, tokens)

/-- Closes the block collections to the right of a column. -/
def unwind (l : Lexer) (column : Int) : Lexer :=
  if l.inFlow then l
  else
    let (indent, outer, tokens) := unwindFrom column l.indent l.tokens l.outer
    { l with indent := indent, outer := outer, tokens := tokens }

theorem unwindFrom_indent (column indent : Int) (tokens : TokenStack) (outer : List Int) :
    (unwindFrom column indent tokens outer).1 ≤ column
      ∨ (unwindFrom column indent tokens outer).2.1 = [] := by
  -- columns are given up as long as they are greater, so the first that is kept is not
  induction outer generalizing indent tokens with
  | nil => exact Or.inr rfl
  | cons o r ih =>
    rw [unwindFrom]
    split
    · exact ih o _
    · rename_i h
      exact Or.inl (Int.not_lt.1 h)

/-- In block context, no collection to the right of the column stays open but the outermost. -/
theorem unwind_indent (l : Lexer) (column : Int) (h : l.inFlow = false) :
    (l.unwind column).indent ≤ column ∨ (l.unwind column).outer = [] := by
  have hu := unwindFrom_indent column l.indent l.tokens l.outer
  unfold unwind
  rw [if_neg (by simp [h])]
  exact hu

/-- Opens a block collection at a column to the right of the innermost one; its token goes before
the one with number `at_`. -/
def indentTo (l : Lexer) (column : Int) (number : Nat) (t : Token) : Lexer :=
  if l.indent < column then
    { l with
      indent := column, outer := l.indent :: l.outer
      tokens := l.tokens.insertAt number t }
  else l

/-! ### Possible keys -/

/-- The possible key at the present depth. -/
def key? (l : Lexer) : Option PossibleKey :=
  (l.keys.find? fun k => k.1 = l.depth).map (·.2)

/-- Gives up the possible key at the present depth, unless there must be one. -/
def dropKey (l : Lexer) : Except Fault Lexer :=
  if l.key?.any (·.required) then .error .malformed
  else .ok { l with keys := l.keys.filter fun k => k.1 ≠ l.depth }

/-- Whether a key may still be completed: its colon must stand on the same line and not too far
away. -/
def isFresh (l : Lexer) (k : PossibleKey) : Bool :=
  k.line = l.cursor.line && l.cursor.index ≤ k.index + 1024

/-- Gives up the possible keys that were left behind, unless there must be one. -/
def dropStale (l : Lexer) : Except Fault Lexer :=
  if l.keys.any fun k => !l.isFresh k.2 && k.2.required then .error .malformed
  else .ok { l with keys := l.keys.filter fun k => l.isFresh k.2 }

/-- Remembers that the next token may begin a key. -/
def noteKey (l : Lexer) : Except Fault Lexer :=
  if l.keyAllowed then do
    let c := l.cursor
    -- at the column of the innermost block mapping nothing but a key can stand
    let required := !l.inFlow && l.indent = c.column
    let l ← l.dropKey
    let key : PossibleKey := ⟨l.tokens.size, required, c.index, c.line, c.column⟩
    return { l with keys := (l.depth, key) :: l.keys }
  else .ok l

/-! ### Between tokens -/

/-- The position of the next token, and whether a line ends before it. -/
def gap : Nat → Cursor → Bool × Cursor
  | 0, c => (false, c)
  | fuel + 1, c =>
    let c := c.skipSpaces
    let c := if c.peek? = some '#' then c.skipToBreak else c
    match c.lineBreak? with
    | some (_, c) =>
      let (_, c) := gap fuel c
      (true, c)
    | none => (false, c)

/-- Moves to the next token; after a line end a key may begin, unless brackets are open. -/
def skipGap (l : Lexer) : Lexer :=
  let c := l.cursor
  -- a byte order mark means nothing at the very beginning
  let c := if c.index = 0 && c.peek? = some byteOrderMark then c.forward else c
  let (broken, c) := gap (c.left + 1) c
  { l with cursor := c, keyAllowed := l.keyAllowed || (broken && !l.inFlow) }

/-! ### Directives -/

/-- The digits of a number. -/
def directiveNumber (c : Cursor) : Except Fault (Nat × Cursor) :=
  let (ds, c) := c.span Char.isDigit
  if ds.isEmpty then .error .malformed
  else match Number.readNatural 10 ds with
    | some n => .ok (n, c)
    | none => .error .noSuchValue

/-- The version after its directive's name. -/
def versionDirective (c : Cursor) : Except Fault (Directive × Cursor) := do
  let (major, c) ← directiveNumber c.skipSpaces
  if c.peek? = some '.' then
    let (_, c) ← directiveNumber c.forward
    if endOr isSpaceOrBreak c.peek? then return (.version major, c) else .error .malformed
  else .error .malformed

/-- The handle and what it stands for after their directive's name. -/
def handleDirective (c : Cursor) : Except Fault (Directive × Cursor) := do
  let (name, c) ← tagHandle c.skipSpaces
  if c.peek? = some ' ' then
    let (start, c) ← uri c.skipSpaces
    if endOr isSpaceOrBreak c.peek? then
      return (.handle (String.ofList name) (String.ofList start), c)
    else .error .malformed
  else .error .malformed

/-- A directive with its line, read at its percent sign. -/
def directive (c : Cursor) : Except Fault (Directive × Cursor) := do
  let (name, c) := c.forward.span isWordChar
  if name.isEmpty || !endOr isSpaceOrBreak c.peek? then .error .malformed
  else
    -- a directive with another name is passed over to the end of its line
    let (d, c) ←
      if name = "YAML".toList then versionDirective c
      else if name = "TAG".toList then handleDirective c
      else .ok (.other, c.skipToBreak)
    return (d, ← commentLine c)

/-! ### Names and tags -/

/-- What may follow the name of an anchor. -/
def endsName (x : Char) : Bool :=
  isGap x || x ∈ "?:,]\x7d%@\x60".toList

/-- The name of an anchor or an alias, read at its sign. -/
def anchorName (c : Cursor) : Except Fault (String × Cursor) :=
  let (name, c) := c.forward.span isWordChar
  if name.isEmpty || !endOr endsName c.peek? then .error .malformed
  else .ok (String.ofList name, c)

/-- Whether the tag that begins here has a handle: a second exclamation mark before the next
gap. -/
def hasHandle (c : Cursor) : Bool :=
  (c.rest.drop 1).find? (fun x => x = '!' || isSpaceOrBreak x) = some '!'

/-- The handle and the suffix of a tag, read at its sign. -/
def tagParts (c : Cursor) : Except Fault (Option String × List Char × Cursor) :=
  if c.peekAt? 1 = some '<' then do
    let (suffix, c) ← uri (c.skip 2)
    if c.peek? = some '>' then return (none, suffix, c.forward) else .error .malformed
  else if endOr isGap (c.peekAt? 1) then .ok (none, ['!'], c.forward)
  else if hasHandle c then do
    let (handle, c) ← tagHandle c
    let (suffix, c) ← uri c
    return (some (String.ofList handle), suffix, c)
  else do
    let (suffix, c) ← uri c.forward
    return (some "!", suffix, c)

/-- A tag, read at its sign. -/
def tagToken (c : Cursor) : Except Fault (Token × Cursor) := do
  let (handle, suffix, c) ← tagParts c
  if endOr isSpaceOrBreak c.peek? then return (.tag handle (String.ofList suffix), c)
  else .error .malformed

/-! ### Steps -/

/-- A mark that begins or ends a document. -/
def marker (l : Lexer) (t : Token) : Except Fault Lexer := do
  let l ← (l.unwind (-1)).dropKey
  return (l.allowKey false).take 3 t

/-- An opening bracket. -/
def opening (l : Lexer) (t : Token) : Except Fault Lexer := do
  let l ← l.noteKey
  return ({ l with depth := l.depth + 1 }.allowKey true).take 1 t

/-- A closing bracket; one that closes nothing is left to those who read the tokens. -/
def closing (l : Lexer) (t : Token) : Except Fault Lexer := do
  let l ← l.dropKey
  return ({ l with depth := l.depth - 1 }.allowKey false).take 1 t

/-- A comma. -/
def comma (l : Lexer) : Except Fault Lexer := do
  let l ← (l.allowKey true).dropKey
  return l.take 1 .comma

/-- The dash of an entry, or the question mark of a key: in block context it may begin a collection,
where a key may begin. -/
def blockSign (l : Lexer) (start sign : Token) (keyAfter : Bool) : Except Fault Lexer := do
  if !l.inFlow && !l.keyAllowed then .error .malformed
  else
    let l := if l.inFlow then l else l.indentTo l.cursor.column l.tokens.size start
    let l ← (l.allowKey keyAfter).dropKey
    return l.take 1 sign

/-- The colon of a value.  If a key is possible, its token goes before the tokens that were read. -/
def colon (l : Lexer) : Except Fault Lexer := do
  match l.key? with
  | some k =>
    let l := { l with
      keys := l.keys.filter fun e => e.1 ≠ l.depth
      tokens := l.tokens.insertAt k.number .key }
    -- the mapping begins where its first key begins, not at the colon
    let l := if l.inFlow then l else l.indentTo k.column k.number .mappingStart
    return (l.allowKey false).take 1 .value
  | none => l.blockSign .mappingStart .value (!l.inFlow)

/-- A token that may begin a key, with what it says. -/
def word (l : Lexer) (read : Cursor → Except Fault (Token × Cursor)) : Except Fault Lexer := do
  let l ← l.noteKey
  let (t, c) ← read l.cursor
  return ((l.allowKey false).moveTo c).push t

/-- A text between quotes. -/
def quoted (l : Lexer) (double : Bool) : Except Fault Lexer :=
  l.word fun c => do
    let (signs, c) ← quotedText double c
    return (.scalar signs false, c)

/-- A block of lines. -/
def block (l : Lexer) (fold : Bool) : Except Fault Lexer := do
  let l ← (l.allowKey true).dropKey
  let (text, c) ← blockText fold l.indent l.cursor
  return (l.moveTo c).push (.scalar (text.map .char) false)

/-- A plain text. -/
def plain (l : Lexer) : Except Fault Lexer := do
  let l ← l.noteKey
  let (text, broken, c) := plainText l.inFlow (l.indent + 1) l.cursor
  return ((l.allowKey broken).moveTo c).push (.scalar (text.map .char) true)

/-- The characters that begin no plain text, wherever they stand. -/
def indicators : List Char :=
  "-?:,[]\x7b\x7d#&*!|>'\"%@\x60".toList

/-- Whether a plain text begins here. -/
def startsPlain (l : Lexer) (x : Char) : Bool :=
  !(isGap x || x ∈ indicators)
    || (!endOr isGap (l.cursor.peekAt? 1) && (x = '-' || (!l.inFlow && (x = '?' || x = ':'))))

/-- Reads the token that begins with the character `x`. -/
def token (l : Lexer) (x : Char) : Except Fault Lexer :=
  let spaced := endOr isGap (l.cursor.peekAt? 1)
  let marked := l.cursor.column = 0 && l.cursor.atMarker
  if x = '%' && l.cursor.column = 0 then do
    let l ← (l.unwind (-1)).dropKey
    let (d, c) ← directive l.cursor
    return ((l.allowKey false).moveTo c).push (.directive d)
  else if x = '-' && marked then l.marker .documentStart
  else if x = '.' && marked then l.marker .documentEnd
  else if x = '[' then l.opening .openBracket
  else if x = '\x7b' then l.opening .openBrace
  else if x = ']' then l.closing .closeBracket
  else if x = '\x7d' then l.closing .closeBrace
  else if x = ',' then l.comma
  -- these three signs begin a plain text unless a gap follows them
  else if x = '-' && spaced then l.blockSign .sequenceStart .entry true
  else if x = '?' && (l.inFlow || spaced) then l.blockSign .mappingStart .key (!l.inFlow)
  else if x = ':' && (l.inFlow || spaced) then l.colon
  else if x = '*' then l.word fun c => do
    let (name, c) ← anchorName c
    return (.alias name, c)
  else if x = '&' then l.word fun c => do
    let (name, c) ← anchorName c
    return (.anchor name, c)
  else if x = '!' then l.word tagToken
  else if x = '|' && !l.inFlow then l.block false
  else if x = '>' && !l.inFlow then l.block true
  else if x = '\'' then l.quoted false
  else if x = '"' then l.quoted true
  else if l.startsPlain x then l.plain
  else .error .malformed

/-- Reads the next token, or the end of the text. -/
def next (l : Lexer) : Except Fault (Lexer × Bool) := do
  let l ← l.skipGap.dropStale
  -- the column of the next token closes every collection to its right
  let l := l.unwind l.cursor.column
  match l.cursor.peek? with
  | none =>
    let l ← (l.unwind (-1)).dropKey
    return (l.push .streamEnd, true)
  | some x => return (← l.token x, false)

/-- The tokens up to a fault.  Before a token is given out, everything is read that may still make a
key of it, so a fault shows at the first token that is held back. -/
def upTo (l : Lexer) (f : Fault) : List Token :=
  -- a possible key holds back its first token and all that follow it
  let held := (l.keys.map (·.2)).filter fun k => l.isFresh k || k.required
  let shown := (held.map (·.number)).foldl min l.tokens.size
  ((l.tokens.before shown).push (.fault f)).toList

/-- Reads at most `fuel` tokens, up to the end or to a fault. -/
def run : Nat → Lexer → List Token
  | 0, l => l.tokens.toList
  | fuel + 1, l =>
    match l.next with
    | .error f => l.upTo f
    | .ok (l, true) => l.tokens.toList
    | .ok (l, false) => run fuel l

end Lexer

/-- The tokens of a text; each takes a character at least. -/
def tokens (cs : List Char) : List Token :=
  if cs.all isAllowed then Lexer.run (cs.length + 1) (.start cs)
  else [.fault .malformed]

end ElementLookup.Yaml
