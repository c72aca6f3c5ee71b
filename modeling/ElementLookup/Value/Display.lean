/-
**Values in messages and selectors.**

A value has two written forms.  Its *display* is what a role clause or a message shows: a text
appears as it is.  Its *inspection* is what stands for it inside a container: a text is quoted.
For most values the two agree.  A report that comes upon a number with too many digits shows the
kind of the whole value instead.

Main definitions:

* `Value.inspect`, `Value.display` — the two forms;
* `Value.kindName` — the name of a value's kind, as a refusal gives it;
* `Value.label` — the display as a report shows it.

Main results:

* `Value.display_text`, `Value.inspect_text` — the one difference between them.
-/

import ElementLookup.Number.Shortest
import ElementLookup.Value

set_option autoImplicit false

namespace ElementLookup

/-! ### Patterns -/

/-- A pattern source in a compiled pattern's form: quoted and cut after 200 characters. -/
def CompiledPattern.Source.inspect : CompiledPattern.Source → String
  | .text s => String.ofList ((Text.quoted s).toList.take 200)
  | .octets bs => String.ofList ((Text.quotedBytes bs).toList.take 200)

/-- A compiled pattern with the names of its options. -/
def CompiledPattern.inspect (c : CompiledPattern) : String :=
  let named := [(c.ignoreCase, "re.IGNORECASE"), (c.multiLine, "re.MULTILINE"),
    (c.dotAll, "re.DOTALL"), (c.verbose, "re.VERBOSE"), (c.debug, "re.DEBUG"),
    (c.ascii, "re.ASCII")]
  let options := (named.filter (·.1)).map (·.2)
  let tail := if options.isEmpty then "" else ", " ++ "|".intercalate options
  "re.compile(" ++ c.source.inspect ++ tail ++ ")"

/-- A text value with its fields. -/
def TextValue.inspect : TextValue → String
  | .literal s => "TextLiteral(text=" ++ Text.quoted s ++ ")"
  | .pattern p =>
    "TextPattern(source=" ++ Text.quoted p.source ++ ", flags=" ++ Text.quoted p.flags ++ ")"

namespace Value

/-! ### The two forms -/

/-- Truth values as words. -/
def boolText (b : Bool) : String := if b then "True" else "False"

mutual

/-- The form of a value inside a container. -/
def inspect : Value → String
  | .null => "None"
  | .bool b => boolText b
  | .int n => toString n
  | .float x => x.text
  | .text s => Text.quoted s
  | .halved signs => String.ofList (Text.quotedSigns signs)
  | .octets bs => Text.quotedBytes bs
  | .date d => d.inspect
  | .dateTime t => t.inspect
  | .list items => "[" ++ ", ".intercalate (inspectItems items) ++ "]"
  | .tuple [item] => "(" ++ inspect item ++ ",)"
  | .tuple items => "(" ++ ", ".intercalate (inspectItems items) ++ ")"
  | .set [] => "set()"
  | .set items => "\x7b" ++ ", ".intercalate (inspectItems items) ++ "\x7d"
  | .map entries => "\x7b" ++ ", ".intercalate (inspectEntries entries) ++ "\x7d"
  | .textValue t => t.inspect
  | .compiled c => c.inspect
  | .enclosing .list => "[...]"
  | .enclosing .tuple => "(...)"
  | .enclosing .map => "\x7b...\x7d"

/-- The forms of the members of a container. -/
def inspectItems : List Value → List String
  | [] => []
  | v :: r => inspect v :: inspectItems r

/-- The forms of the entries of a mapping. -/
def inspectEntries : List (Value × Value) → List String
  | [] => []
  | (k, v) :: r => (inspect k ++ ": " ++ inspect v) :: inspectEntries r

end

/-- The form of a value that stands alone. -/
def display : Value → String
  | .text s => s
  | .halved signs => String.ofList (Text.lossy signs)
  | .date d => d.text
  | .dateTime t => t.text
  | v => v.inspect

theorem display_text (s : String) : display (.text s) = s := rfl

theorem inspect_text (s : String) : inspect (.text s) = Text.quoted s := by
  simp [inspect]

/-! ### Kinds -/

/-- The name of a value's kind. -/
def kindName : Value → String
  | .null => "NoneType"
  | .bool _ => "bool"
  | .int _ => "int"
  | .float _ => "float"
  | .text _ | .halved _ => "str"
  | .octets _ => "bytes"
  | .date _ => "date"
  | .dateTime _ => "datetime"
  | .list _ => "list"
  | .tuple _ => "tuple"
  | .set _ => "set"
  | .map _ => "dict"
  | .textValue (.literal _) => "TextLiteral"
  | .textValue (.pattern _) => "TextPattern"
  | .compiled _ => "Pattern"
  | .enclosing .list => "list"
  | .enclosing .tuple => "tuple"
  | .enclosing .map => "dict"

/-! ### Numbers without a display -/

mutual

/-- Whether a value holds a number with more digits than may be written. -/
def isOverlong : Value → Bool
  | .int n => Number.isOverlong n
  | .list items | .tuple items | .set items => isOverlongItems items
  | .map entries => isOverlongEntries entries
  | _ => false

/-- Whether a member of a container holds such a number. -/
def isOverlongItems : List Value → Bool
  | [] => false
  | v :: r => isOverlong v || isOverlongItems r

/-- Whether a key or the value of an entry holds such a number. -/
def isOverlongEntries : List (Value × Value) → Bool
  | [] => false
  | (k, v) :: r => isOverlong k || isOverlong v || isOverlongEntries r

end

/-- The display of a value, or what stands for it if it has a number without one. -/
def label (v : Value) : String :=
  if v.isOverlong then "<unprintable " ++ v.kindName ++ " object>" else v.display

end Value

end ElementLookup
