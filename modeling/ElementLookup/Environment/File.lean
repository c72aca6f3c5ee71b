/-
**Environment files.**

A file in the working directory may give variables, one binding on each line: a key, perhaps after
the word `export`, and perhaps a value after an equals sign.  A value in quotes may hold line ends
and escapes; one without quotes ends before a comment.  A line that is no binding is passed over,
and so is a byte order mark before the first line.  Values may refer to variables by `${NAME}` or,
with a value for its absence, `${NAME:-default}`; bindings of the file go before the environment.

Main definitions:

* `EnvFile.Binding`, `EnvFile.bindings` — the bindings of a text;
* `EnvFile.untilQuote?`, `EnvFile.plainValue` — a value in quotes, and one without;
* `EnvFile.fill` — the references in a value replaced;
* `EnvFile.resolve` — the variables that a file gives.

Main results:

* `EnvFile.untilQuote?_eq_some` — a value in quotes ends at a quote, and nothing is lost;
* `EnvFile.fill_plain` — a value without a dollar sign stands for itself.
-/

import ElementLookup.Environment
import ElementLookup.Text.Blank

set_option autoImplicit false

namespace ElementLookup.EnvFile

/-! ### Bindings -/

/-- A key, with a value if an equals sign follows it. -/
structure Binding where
  key : String
  value : Option String
  deriving DecidableEq, Repr

/-- A blank within a line. -/
def isInlineBlank (c : Char) : Bool :=
  Text.isBlank c && c ≠ '\n'

/-- Drops the blanks within a line. -/
def skipInline (cs : List Char) : List Char :=
  cs.dropWhile isInlineBlank

/-- Drops the rest of a line with its end. -/
def skipLine (cs : List Char) : List Char :=
  (cs.dropWhile (· ≠ '\n')).tail

/-- Drops the word `export` if blanks follow it. -/
def skipExport (cs : List Char) : List Char :=
  if "export".toList.isPrefixOf cs then
    let r := cs.drop 6
    if r.head?.any isInlineBlank then skipInline r else cs
  else cs

/-- Whether a character can stand in a key without quotes. -/
def isKeyChar (c : Char) : Bool :=
  c ≠ '=' && c ≠ '#' && !Text.isBlank c

/-- The key at the beginning of a statement; a comment has none.  Nothing if no key is there. -/
def key? : List Char → Option (Option String × List Char)
  | '#' :: r => some (none, '#' :: r)
  | '\'' :: r =>
    let name := r.takeWhile (· ≠ '\'')
    match r.dropWhile (· ≠ '\'') with
    | _ :: rest => if name.isEmpty then none else some (some (String.ofList name), rest)
    | [] => none
  | cs =>
    let name := cs.takeWhile isKeyChar
    if name.isEmpty then none else some (some (String.ofList name), cs.dropWhile isKeyChar)

/-! ### Values -/

/-- The characters of a value up to its closing quote, and what follows it.  A backslash and the
character after it belong together, so neither can close the value. -/
def untilQuote? (q : Char) : List Char → Option (List Char × List Char)
  | [] => none
  | '\\' :: c :: r => (untilQuote? q r).map fun p => ('\\' :: c :: p.1, p.2)
  | c :: r =>
    if c = q then some ([], r)
    else if c = '\\' then none
    else (untilQuote? q r).map fun p => (c :: p.1, p.2)

/-- A value and its closing quote are what was read. -/
theorem untilQuote?_eq_some {q : Char} {cs value rest : List Char}
    (h : untilQuote? q cs = some (value, rest)) : cs = value ++ q :: rest := by
  fun_induction untilQuote? q cs generalizing value with
  | case1 => cases h
  | case2 c r ih =>
    obtain ⟨⟨v, t⟩, hv, he⟩ := Option.map_eq_some_iff.1 h
    cases he
    simp [ih hv]
  | case3 => cases h; rfl
  | case4 => cases h
  | case5 c r _ _ _ ih =>
    obtain ⟨⟨v, t⟩, hv, he⟩ := Option.map_eq_some_iff.1 h
    cases he
    simp [ih hv]

/-- What an escape stands for between single quotes. -/
def singleEscape? (c : Char) : Option Char :=
  if c = '\\' || c = '\'' then some c else none

/-- What an escape stands for between double quotes. -/
def doubleEscape? (c : Char) : Option Char :=
  match c with
  | '\\' | '\'' | '"' => some c
  | 'a' => some '\x07'
  | 'b' => some '\x08'
  | 'f' => some '\x0c'
  | 'n' => some '\n'
  | 'r' => some '\r'
  | 't' => some '\t'
  | 'v' => some '\x0b'
  | _ => none

/-- A text with its escapes replaced. -/
def unescape (meaning? : Char → Option Char) : List Char → List Char
  | '\\' :: c :: r =>
    match meaning? c with
    | some d => d :: unescape meaning? r
    | none => '\\' :: unescape meaning? (c :: r)
  | c :: r => c :: unescape meaning? r
  | [] => []

/-- A value without quotes, up to a comment, which blanks must precede. -/
def beforeComment : List Char → List Char
  | [] => []
  | c :: r =>
    if Text.isBlank c && (r.dropWhile Text.isBlank).head? = some '#' then []
    else c :: beforeComment r

/-- The rest of a line as a value without quotes. -/
def plainValue (line : List Char) : List Char :=
  Text.trim Text.isBlank (beforeComment line)

/-- The value after an equals sign, and what follows it. -/
def value? (cs : List Char) : Option (List Char × List Char) :=
  match skipInline cs with
  | '\'' :: r => (untilQuote? '\'' r).map fun p => (unescape singleEscape? p.1, p.2)
  | '"' :: r => (untilQuote? '"' r).map fun p => (unescape doubleEscape? p.1, p.2)
  -- the blanks after the sign still count here, since a comment may follow them at once
  | _ => some (plainValue (cs.takeWhile (· ≠ '\n')), cs.dropWhile (· ≠ '\n'))

/-! ### Files -/

/-- What follows a statement, if nothing but a comment stands between it and the line's end. -/
def statementEnd? (cs : List Char) : Option (List Char) :=
  let r := skipInline cs
  let r := if r.head? = some '#' then r.dropWhile (· ≠ '\n') else r
  match r with
  | [] => some []
  | '\n' :: rest => some rest
  | _ => none

/-- A statement: its binding, if it has one, and the rest.  Where it breaks off, the rest of the
line is passed over. -/
def statement (cs : List Char) : Option Binding × List Char :=
  let start := skipExport cs
  match key? start with
  | none => (none, skipLine start)
  | some (key, r) =>
    match skipInline r with
    | '=' :: r' =>
      match value? r' with
      | none => (none, skipLine r')
      | some (value, rest) =>
        -- nothing but a comment may stand between the value and the end of the line
        match statementEnd? rest with
        | some rest' => (key.map fun k => ⟨k, some (String.ofList value)⟩, rest')
        | none => (none, skipLine rest)
    | r' =>
      match statementEnd? r' with
      | some rest => (key.map fun k => ⟨k, none⟩, rest)
      | none => (none, skipLine r')

/-- The bindings of at most `fuel` statements. -/
def bindingsWithin : Nat → List Char → List Binding
  | 0, _ => []
  | fuel + 1, cs =>
    let start := cs.dropWhile Text.isBlank
    if start.isEmpty then []
    else
      let (binding, rest) := statement start
      binding.toList ++ bindingsWithin fuel rest

/-- The bindings of a text; each statement takes a character at least. -/
def bindings (cs : List Char) : List Binding :=
  bindingsWithin cs.length cs

/-! ### References -/

/-- The name and the value for its absence of the reference that a text begins with, and the rest of
the text. -/
def reference? : List Char → Option (List Char × List Char × List Char)
  | '$' :: '\x7b' :: r =>
    let isNamePart (c : Char) := c ≠ '\x7d' && c ≠ ':'
    let name := r.takeWhile isNamePart
    match r.dropWhile isNamePart with
    | '\x7d' :: rest => some (name, [], rest)
    | ':' :: '-' :: r' =>
      match r'.dropWhile (· ≠ '\x7d') with
      | _ :: rest => some (name, r'.takeWhile (· ≠ '\x7d'), rest)
      | [] => none
    | _ => none
  | _ => none

/-- The value with its references replaced, looking at no more than `fuel` characters. -/
def fillWithin (meaning : List Char → Option (List Char)) : Nat → List Char → List Char
  | 0, cs => cs
  | _ + 1, [] => []
  | fuel + 1, c :: r =>
    match reference? (c :: r) with
    | some (name, default, rest) => (meaning name).getD default ++ fillWithin meaning fuel rest
    | none => c :: fillWithin meaning fuel r

/-- The value with its references replaced. -/
def fill (meaning : List Char → Option (List Char)) (cs : List Char) : List Char :=
  fillWithin meaning cs.length cs

theorem fill_plain (meaning : List Char → Option (List Char)) (cs : List Char) (h : '$' ∉ cs) :
    fill meaning cs = cs := by
  unfold fill
  induction cs with
  | nil => rfl
  | cons c r ih =>
    -- a reference begins with a dollar sign, and this is none
    have hc : reference? (c :: r) = none := by
      unfold reference?
      split
      · rename_i heq; cases heq; simp at h
      · rfl
    rw [List.length_cons, fillWithin, hc]
    simp only [ih fun m => h (List.mem_cons_of_mem _ m)]

/-- Variables by name; a key without a value has none. -/
abbrev Variables := List (String × Option String)

/-- Sets a variable; one that is set already keeps its place. -/
def Variables.set (vs : Variables) (name : String) (value : Option String) : Variables :=
  if vs.any (·.1 = name) then vs.map fun v => if v.1 = name then (name, value) else v
  else vs ++ [(name, value)]

/-- What a name stands for: the file goes before the environment, and there a key without a value
stands for the empty text. -/
def meaning (env : Environment) (vs : Variables) (name : List Char) : Option (List Char) :=
  match vs.find? fun v => v.1 = String.ofList name with
  | some v => some ((v.2.map String.toList).getD [])
  | none => (env.value? (String.ofList name)).map String.toList

/-- One binding added to the variables. -/
def add (env : Environment) (vs : Variables) (b : Binding) : Variables :=
  vs.set b.key (b.value.map fun s => String.ofList (fill (meaning env vs) s.toList))

/-- The text of a file without the mark that may tell its encoding. -/
def withoutMark : List Char → List Char
  | '\ufeff' :: r => r
  | cs => cs

/-- The variables that a text gives. -/
def resolve (env : Environment) (cs : List Char) : Variables :=
  (bindings (withoutMark cs)).foldl (add env) []

example : bindings "export A='x y' # c\nB\n=bad\nC=d #e".toList =
    [⟨"A", some "x y"⟩, ⟨"B", none⟩, ⟨"C", some "d"⟩] := by decide +kernel
example : bindings "A= # c\nB=#c\nC='d\\\\' # e".toList =
    [⟨"A", some ""⟩, ⟨"B", some "#c"⟩, ⟨"C", some "d\\"⟩] := by decide +kernel

end ElementLookup.EnvFile
