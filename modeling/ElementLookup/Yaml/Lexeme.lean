/-
**The texts of values, as documents write them.**

A text is written plainly, between quotes, or as a block of lines.  Line ends within a text are
*folded*: a single one becomes a space, and of several the first is dropped.  Between double quotes
signs may be written by their code points, halves of surrogate pairs among them.

Main definitions:

* `Yaml.plainText` — a plain text;
* `Yaml.quotedText` — a text between quotes;
* `Yaml.blockText` — a block of lines, with the rules for its last line ends;
* `Yaml.uri`, `Yaml.tagHandle` — the parts of tags.

Main results:

* `Yaml.plainRun_prefix` — a plain run is what it was written as.
-/

import ElementLookup.Number.Whole
import ElementLookup.Text.Halved
import ElementLookup.Text.Utf8
import ElementLookup.Yaml.Cursor
import ElementLookup.Yaml.Fault

set_option autoImplicit false

namespace ElementLookup.Yaml

/-! ### Plain texts -/

/-- The characters with a meaning inside brackets. -/
def flowIndicators : List Char := [',', '?', '[', ']', '\x7b', '\x7d']

/-- Whether a colon before these characters ends a plain text. -/
def endsAfterColon (flow : Bool) (r : List Char) : Bool :=
  endOr (fun x => isGap x || (flow && x ∈ [',', '[', ']', '\x7b', '\x7d'])) r.head?

/-- The characters of a plain text up to the next gap. -/
def plainRun (flow : Bool) : List Char → List Char
  | [] => []
  | x :: r =>
    if isGap x || (x = ':' && endsAfterColon flow r) || (flow && x ∈ flowIndicators) then []
    else x :: plainRun flow r

theorem plainRun_prefix (flow : Bool) (cs : List Char) : plainRun flow cs <+: cs := by
  induction cs with
  | nil => exact List.nil_prefix
  | cons x r ih =>
    rw [plainRun]
    split
    · exact List.nil_prefix
    · exact List.cons_prefix_cons.2 ⟨rfl, ih⟩

/-- The line ends from here on and the blanks between them; nothing if a document's mark follows
one of them. -/
def plainBreaks : Nat → Cursor → Option (List Char) × Cursor
  | 0, c => (some [], c)
  | fuel + 1, c =>
    if c.peek? = some ' ' then plainBreaks fuel c.forward
    else match c.lineBreak? with
      | none => (some [], c)
      | some (b, c) =>
        if c.atMarker then (none, c)
        else
          let (more, c) := plainBreaks fuel c
          (more.map (b :: ·), c)

/-- One line end and those after it, folded. -/
def folded (b : Char) (more : List Char) : List Char :=
  if b ≠ '\n' then b :: more else if more.isEmpty then [' '] else more

/-- The gap between two runs of a plain text as the text holds it, whether it ends a line, and the
position after it.  An empty gap ends the text. -/
def plainGap (c : Cursor) : List Char × Bool × Cursor :=
  let (spaces, c) := c.span (· = ' ')
  match c.lineBreak? with
  | none => (spaces, false, c)
  | some (b, c) =>
    -- a mark at the beginning of a line ends the document, and the text with it
    if c.atMarker then ([], true, c)
    else
      match plainBreaks c.left c with
      | (some more, c) => (folded b more, true, c)
      | (none, c) => ([], true, c)

/-- The rest of a plain text after the gap `before`, whether its last gap ends a line, and the
position after it.  Outside brackets a text does not go on to the left of `indent`. -/
def plainFrom (flow : Bool) (indent : Int) :
    Nat → List Char → Bool → Cursor → List Char × Bool × Cursor
  | 0, _, broken, c => ([], broken, c)
  | fuel + 1, before, broken, c =>
    let run := plainRun flow c.rest
    if run.isEmpty || c.peek? = some '#' then ([], broken, c)
    else
      let (gap, broken, c) := plainGap (c.skip run.length)
      -- the gap belongs to the text only if the text goes on after it
      if gap.isEmpty || c.peek? = some '#' || (!flow && c.column < indent) then
        (before ++ run, broken, c)
      else
        let (more, broken, c) := plainFrom flow indent fuel gap broken c
        (before ++ run ++ more, broken, c)

/-- A plain text, whether its last gap ends a line, and the position after it. -/
def plainText (flow : Bool) (indent : Int) (c : Cursor) : List Char × Bool × Cursor :=
  plainFrom flow indent c.left [] false c

/-! ### Texts between quotes -/

/-- The number of hexadecimal digits of an escape by code point. -/
def codeLength? (x : Char) : Option Nat :=
  match x with
  | 'x' => some 2
  | 'u' => some 4
  | 'U' => some 8
  | _ => none

/-- The character of an escape by letter. -/
def letterEscape? (x : Char) : Option Char :=
  match x with
  | '0' => some '\x00'
  | 'a' => some '\x07'
  | 'b' => some '\x08'
  | 't' | '\t' => some '\t'
  | 'n' => some '\n'
  | 'v' => some '\x0b'
  | 'f' => some '\x0c'
  | 'r' => some '\r'
  | 'e' => some '\x1b'
  | ' ' => some ' '
  | '"' => some '"'
  | '\\' => some '\\'
  | '/' => some '/'
  | 'N' => some '\x85'
  | '_' => some '\xa0'
  | 'L' => some '\u2028'
  | 'P' => some '\u2029'
  | _ => none

/-- The value of a hexadecimal digit. -/
def hexDigit? (x : Char) : Option Nat :=
  if x.isDigit then some (x.toNat - 0x30)
  else if 'a' ≤ x ∧ x ≤ 'f' then some (x.toNat - 0x61 + 10)
  else if 'A' ≤ x ∧ x ≤ 'F' then some (x.toNat - 0x41 + 10)
  else none

/-- The number written by hexadecimal digits. -/
def hexValue? (ds : List Char) : Option Nat :=
  ds.foldlM (fun n x => (hexDigit? x).map (n * 16 + ·)) 0

/-- The sign with a code point; it may be half of a surrogate pair. -/
def signOfCode (code : Nat) : Except Fault Text.Sign :=
  if 0x80000000 ≤ code then .error .beyondBounds
  else match Text.Sign.ofCode? code with
    | some s => .ok s
    | none => .error .noSuchValue

/-- The line ends from here on and the blanks around them.  A document's mark must not follow. -/
def quotedBreaks : Nat → Cursor → Except Fault (List Char × Cursor)
  | 0, c => .ok ([], c)
  | fuel + 1, c =>
    if c.atMarker then .error .malformed
    else
      let c := c.skipWhile fun x => x = ' ' || x = '\t'
      match c.lineBreak? with
      | none => .ok ([], c)
      | some (b, c) => do
        let (more, c) ← quotedBreaks fuel c
        return (b :: more, c)

/-- The blanks and line ends from here on, as the text holds them. -/
def quotedGap (c : Cursor) : Except Fault (List Char × Cursor) :=
  let (spaces, c) := c.span fun x => x = ' ' || x = '\t'
  match c.peek?, c.lineBreak? with
  | none, _ => .error .malformed
  | _, none => .ok (spaces, c)
  | _, some (b, c) => do
    let (more, c) ← quotedBreaks (c.left + 1) c
    return (folded b more, c)

/-- What an escape stands for, read after its backslash. -/
def escape (c : Cursor) : Except Fault (List Text.Sign × Cursor) :=
  match c.peek? with
  | none => .error .malformed
  | some x =>
    match letterEscape? x, codeLength? x with
    | some y, _ => .ok ([.char y], c.forward)
    | none, some n => do
      let c := c.forward
      let ds := c.rest.take n
      match hexValue? ds with
      | some code => if ds.length = n then return ([← signOfCode code], c.skip n)
                     else .error .malformed
      | none => .error .malformed
    -- a line end after a backslash joins two lines and leaves no gap
    | none, none =>
      match c.lineBreak? with
      | some (_, c) => do
        let (breaks, c) ← quotedBreaks (c.left + 1) c
        return (breaks.map .char, c)
      | none => .error .malformed

/-- The rest of a text between quotes, and the position after its closing quote. -/
def quotedFrom (double : Bool) : Nat → Cursor → Except Fault (List Text.Sign × Cursor)
  | 0, _ => .error .malformed
  | fuel + 1, c =>
    match c.peek? with
    | none => .error .malformed
    | some x =>
      if !double && x = '\'' then
        -- two single quotes stand for one
        if c.peekAt? 1 = some '\'' then do
          let (more, c) ← quotedFrom double fuel (c.skip 2)
          return (.char '\'' :: more, c)
        else .ok ([], c.forward)
      else if double && x = '"' then .ok ([], c.forward)
      else if isGap x then do
        let (gap, c) ← quotedGap c
        let (more, c) ← quotedFrom double fuel c
        return (gap.map .char ++ more, c)
      else if double && x = '\\' then do
        let (signs, c) ← escape c.forward
        let (more, c) ← quotedFrom double fuel c
        return (signs ++ more, c)
      else do
        let (more, c) ← quotedFrom double fuel c.forward
        return (.char x :: more, c)

/-- A text between quotes, read at its opening quote. -/
def quotedText (double : Bool) (c : Cursor) : Except Fault (List Text.Sign × Cursor) :=
  quotedFrom double c.left c.forward

/-! ### Blocks of lines -/

/-- What becomes of the line ends at the end of a block: one is kept, all are, or none. -/
inductive Chomping where
  | clip
  | keep
  | strip
  deriving DecidableEq, Repr

/-- The sign of a chomping rule. -/
def chomping? (x : Option Char) : Option Chomping :=
  match x with
  | some '+' => some .keep
  | some '-' => some .strip
  | _ => none

/-- The digit that states a block's indentation; zero is not allowed. -/
def increment? (c : Cursor) : Except Fault (Option Nat × Cursor) :=
  match c.peek? with
  | some x =>
    if x = '0' then .error .malformed
    else if x.isDigit then .ok (some (x.toNat - 0x30), c.forward)
    else .ok (none, c)
  | none => .ok (none, c)

/-- The signs after a block's indicator, in either order. -/
def blockSigns (c : Cursor) : Except Fault (Chomping × Option Nat × Cursor) := do
  let (chomping, increment, c) ← match chomping? c.peek? with
    | some chomping => do
      let (increment, c) ← increment? c.forward
      pure (chomping, increment, c)
    | none => do
      let (increment, c) ← increment? c
      match increment, chomping? c.peek? with
      | some _, some chomping => pure (chomping, increment, c.forward)
      | _, _ => pure (.clip, increment, c)
  if endOr isSpaceOrBreak c.peek? then return (chomping, increment, c) else .error .malformed

/-- The rest of a line that may hold a comment only, with its end. -/
def commentLine (c : Cursor) : Except Fault Cursor :=
  let c := c.skipSpaces
  let c := if c.peek? = some '#' then c.skipToBreak else c
  match c.peek?, c.lineBreak? with
  | none, _ => .ok c
  | some _, some (_, c) => .ok c
  | some _, none => .error .malformed

/-- The line ends before a block's first line, and the greatest column that blanks reach there. -/
def leadingBreaks : Nat → Nat → Cursor → List Char × Nat × Cursor
  | 0, column, c => ([], column, c)
  | fuel + 1, column, c =>
    match c.lineBreak? with
    | some (b, c) =>
      let (more, column, c) := leadingBreaks fuel column c
      (b :: more, column, c)
    | none =>
      if c.peek? = some ' ' then
        let c := c.forward
        leadingBreaks fuel (max column c.column) c
      else ([], column, c)

/-- The position after the blanks to the left of `indent`. -/
def skipIndent (indent : Nat) : Nat → Cursor → Cursor
  | 0, c => c
  | fuel + 1, c =>
    if c.column < indent && c.peek? = some ' ' then skipIndent indent fuel c.forward else c

/-- The line ends from here on and the blanks to the left of `indent`. -/
def blockBreaks (indent : Nat) : Nat → Cursor → List Char × Cursor
  | 0, c => ([], c)
  | fuel + 1, c =>
    let c := skipIndent indent indent c
    match c.lineBreak? with
    | some (b, c) =>
      let (more, c) := blockBreaks indent fuel c
      (b :: more, c)
    | none => ([], c)

/-- Whether a character starts a line that is not folded. -/
def isIndented (x : Option Char) : Bool :=
  x = some ' ' || x = some '\t'

/-- The lines of a block from here on: their text, the last line end, the line ends after it and the
position there. -/
def blockLines (fold : Bool) (indent : Nat) :
    Nat → Cursor → List Char × Option Char × List Char × Cursor
  | 0, c => ([], none, [], c)
  | fuel + 1, c =>
    let indented := isIndented c.peek?
    let (line, c) := c.span fun x => !isBreak x
    let (lineEnd, c) := match c.lineBreak? with
      | some (b, c) => (some b, c)
      | none => (none, c)
    let (breaks, c) := blockBreaks indent (c.left + 1) c
    if c.column = indent && c.peek?.isSome then
      -- a line end is folded only between two lines that both start at the block's column
      let joint :=
        if fold && lineEnd = some '\n' && !indented && !isIndented c.peek? then
          (if breaks.isEmpty then [' '] else [])
        else lineEnd.toList
      let (more, lastEnd, tail, c) := blockLines fold indent fuel c
      (line ++ joint ++ breaks ++ more, lastEnd, tail, c)
    else (line, lineEnd, breaks, c)

/-- A block of lines under the indentation `outer`, read at its indicator. -/
def blockText (fold : Bool) (outer : Int) (c : Cursor) : Except Fault (List Char × Cursor) := do
  let (chomping, increment, c) ← blockSigns c.forward
  let c ← commentLine c
  let least := (max 1 (outer + 1)).toNat
  let fuel := c.left + 1
  -- a stated indentation counts from the column outside; else the first text decides
  let (breaks, indent, c) := match increment with
    | some n =>
      let indent := least + n - 1
      let (breaks, c) := blockBreaks indent fuel c
      (breaks, indent, c)
    | none =>
      let (breaks, column, c) := leadingBreaks fuel 0 c
      (breaks, max least column, c)
  let (body, lineEnd, tail, c) :=
    if c.column = indent && c.peek?.isSome then
      let (body, lineEnd, tail, c) := blockLines fold indent fuel c
      (breaks ++ body, lineEnd, tail, c)
    else ([], none, breaks, c)
  -- the body stops before its last line end, of which the chomping rule disposes
  let ending := match chomping with
    | .clip => lineEnd.toList
    | .keep => lineEnd.toList ++ tail
    | .strip => []
  return (body ++ ending, c)

/-! ### Tags -/

/-- The octets of consecutive escapes in a tag. -/
def uriOctets : Nat → Cursor → Except Fault (List UInt8 × Cursor)
  | 0, c => .ok ([], c)
  | fuel + 1, c =>
    if c.peek? = some '%' then
      let c := c.forward
      match c.peekAt? 0 >>= hexDigit?, c.peekAt? 1 >>= hexDigit? with
      | some high, some low => do
        let (more, c) ← uriOctets fuel (c.skip 2)
        return (UInt8.ofNat (high * 16 + low) :: more, c)
      | _, _ => .error .malformed
    else .ok ([], c)

/-- The characters of a tag from here on. -/
def uriFrom : Nat → Cursor → Except Fault (List Char × Cursor)
  | 0, c => .ok ([], c)
  | fuel + 1, c =>
    match c.peek? with
    | none => .ok ([], c)
    | some x =>
      if x = '%' then do
        -- escapes in a row are decoded together, since a character may take several
        let (octets, c) ← uriOctets c.left c
        match Text.decode octets with
        | .error _ => .error .malformed
        | .ok chars =>
          let (more, c) ← uriFrom fuel c
          return (chars ++ more, c)
      else if isUriChar x then do
        let (more, c) ← uriFrom fuel c.forward
        return (x :: more, c)
      else .ok ([], c)

/-- A tag, or the part of it after a handle; it has a character at least. -/
def uri (c : Cursor) : Except Fault (List Char × Cursor) := do
  if endOr (fun x => !isUriChar x) c.peek? then .error .malformed
  else uriFrom c.left c

/-- A handle: an exclamation mark, perhaps with a name and another one. -/
def tagHandle (c : Cursor) : Except Fault (List Char × Cursor) :=
  if c.peek? ≠ some '!' then .error .malformed
  else
    let c := c.forward
    if c.peek? = some ' ' then .ok (['!'], c)
    else
      let (name, c) := c.span isWordChar
      if c.peek? = some '!' then .ok ('!' :: (name ++ ['!']), c.forward)
      else .error .malformed

end ElementLookup.Yaml
