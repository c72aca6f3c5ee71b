/-
**JSON values and their written forms.**

Log files and reports are written in JSON.  A value has a form on one line and a form in which every
member stands on a line of its own; both keep the order of members and write every character that
can stand for itself.

Main definitions:

* `Json` — values built from null, truth values, whole numbers, texts, lists and objects;
* `Json.escapeChar`, `Json.quotedChars` — a text between double quotes;
* `Json.chars`, `Json.line` — the form on one line;
* `Json.pretty` — the form on several lines;
* `Json.put` — a member added to an object, or replaced in place;
* `Json.obstacle?` — what in a value cannot be written.

Main results:

* `Json.put_cons` — where an added member goes.
-/

import ElementLookup.Number.Whole
import ElementLookup.Text.Quoted

set_option autoImplicit false

namespace ElementLookup

/-- A value of JSON; numbers are whole. -/
inductive Json where
  | null
  | bool (b : Bool)
  | int (n : Int)
  | text (s : String)
  | list (items : List Json)
  | object (members : List (String × Json))

namespace Json

instance : Inhabited Json := ⟨.null⟩

/-- An optional text. -/
def ofText? (s : Option String) : Json := (s.map .text).getD .null

/-! ### Objects -/

/-- Adds a member, or replaces the value of the member with the same key. -/
def put (members : List (String × Json)) (key : String) (value : Json) : List (String × Json) :=
  match members with
  | [] => [(key, value)]
  | (k, v) :: r => if k = key then (key, value) :: r else (k, v) :: put r key value

theorem put_cons (k key : String) (v value : Json) (r : List (String × Json)) :
    put ((k, v) :: r) key value =
      if k = key then (key, value) :: r else (k, v) :: put r key value := rfl

/-- Adds or replaces several members, one after the other. -/
def merge (members more : List (String × Json)) : List (String × Json) :=
  more.foldl (fun ms m => put ms m.1 m.2) members

/-- The object without some keys. -/
def without (members : List (String × Json)) (keys : List String) : List (String × Json) :=
  members.filter fun m => m.1 ∉ keys

/-! ### What cannot be written -/

/-- Why a value cannot be written: a number in it has too many digits, or lists and objects stand in
one another too deeply. -/
inductive Obstacle where
  | overlongNumber
  | tooDeep
  deriving DecidableEq, Repr

mutual

/-- What is met first that cannot be written, where at most `depth` lists and objects may stand in
one another. -/
def obstacle? (depth : Nat) : Json → Option Obstacle
  | .int n => if Number.isOverlong n then some .overlongNumber else none
  | .list items => if depth = 0 then some .tooDeep else itemsObstacle? (depth - 1) items
  | .object members => if depth = 0 then some .tooDeep else membersObstacle? (depth - 1) members
  | _ => none

/-- What is met first in the items of a list. -/
def itemsObstacle? (depth : Nat) : List Json → Option Obstacle
  | [] => none
  | j :: r => (obstacle? depth j).or (itemsObstacle? depth r)

/-- What is met first in the members of an object. -/
def membersObstacle? (depth : Nat) : List (String × Json) → Option Obstacle
  | [] => none
  | (_, j) :: r => (obstacle? depth j).or (membersObstacle? depth r)

end

/-! ### Texts -/

/-- One character of a text. -/
def escapeChar (c : Char) : List Char :=
  if c = '"' then ['\\', '"']
  else if c = '\\' then ['\\', '\\']
  else if c = '\n' then ['\\', 'n']
  else if c = '\r' then ['\\', 'r']
  else if c = '\t' then ['\\', 't']
  else if c.toNat = 8 then ['\\', 'b']
  else if c.toNat = 12 then ['\\', 'f']
  else if c.toNat < 32 then '\\' :: 'u' :: Text.hexPadded 4 c.toNat
  else [c]

/-- A text between double quotes. -/
def quotedChars (cs : List Char) : List Char :=
  '"' :: (cs.flatMap escapeChar ++ ['"'])

/-! ### One line -/

/-- Items between brackets, with a comma and a space between them. -/
def bracketed (opening closing : Char) (items : List (List Char)) : List Char :=
  opening :: ([',', ' '].intercalate items ++ [closing])

mutual

/-- The form on one line. -/
def chars : Json → List Char
  | .null => "null".toList
  | .bool b => if b then "true".toList else "false".toList
  | .int n => (toString n).toList
  | .text s => quotedChars s.toList
  | .list items => bracketed '[' ']' (charsItems items)
  | .object members => bracketed '\x7b' '\x7d' (charsMembers members)

/-- The forms of the items of a list. -/
def charsItems : List Json → List (List Char)
  | [] => []
  | j :: r => chars j :: charsItems r

/-- The forms of the members of an object. -/
def charsMembers : List (String × Json) → List (List Char)
  | [] => []
  | (k, j) :: r => (quotedChars k.toList ++ ':' :: ' ' :: chars j) :: charsMembers r

end

/-- The form on one line. -/
def line (j : Json) : String := String.ofList (chars j)

/-! ### Several lines -/

/-- Items between brackets, each on a line of its own and two columns further in. -/
def stacked (depth : Nat) (opening closing : Char) (items : List (List Char)) : List Char :=
  if items.isEmpty then [opening, closing]
  else
    let indent (n : Nat) := '\n' :: List.replicate (2 * n) ' '
    opening :: ([','].intercalate (items.map (indent (depth + 1) ++ ·)) ++ indent depth
      ++ [closing])

mutual

/-- The form on several lines, within `depth` containers. -/
def stackedChars (depth : Nat) : Json → List Char
  | .list items => stacked depth '[' ']' (stackedItems (depth + 1) items)
  | .object members => stacked depth '\x7b' '\x7d' (stackedMembers (depth + 1) members)
  | j => chars j

/-- The forms of the items of a list. -/
def stackedItems (depth : Nat) : List Json → List (List Char)
  | [] => []
  | j :: r => stackedChars depth j :: stackedItems depth r

/-- The forms of the members of an object. -/
def stackedMembers (depth : Nat) : List (String × Json) → List (List Char)
  | [] => []
  | (k, j) :: r =>
    (quotedChars k.toList ++ ':' :: ' ' :: stackedChars depth j) :: stackedMembers depth r

end

/-- The form on several lines. -/
def pretty (j : Json) : String := String.ofList (stackedChars 0 j)

end Json

end ElementLookup
