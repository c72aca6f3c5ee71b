/-
**Checking documents.**

A document comes as a mapping.  Its fields are checked one by one and each query by its kind; fields
that mean nothing are ignored.  A document that is not accepted is reported with all of its
problems.

Main definitions:

* `Check.pattern`, `Check.textOrPattern` — the values that a lookup compares with;
* `Check.textQuery`, `Check.roleQuery`, `Check.query` — queries;
* `Check.queries` — a list of queries, each at its place;
* `Check.document` — documents.

Main results:

* `Check.problems_queryList` — the queries of a list are reported independently and in order.
-/

import ElementLookup.Check.Field
import ElementLookup.Query

set_option autoImplicit false

namespace ElementLookup.Check

/-! ### Text values -/

/-- Flag letters that a pattern accepts. -/
def flags (s : String) : Checked String :=
  if TextPattern.AcceptedFlags s then .good s
  else .fail (.rule (TextPattern.flagFault s).message)

/-- What is wrong with flags that hold half a surrogate pair, which is no letter of the engine. -/
def halvedFlagsProblem (signs : List Text.Sign) : Problem.Cause :=
  let unknown := signs.filter fun s => s.char?.all (· ∉ TextPattern.letters)
  .rule (TextPattern.unknownFlagsMessage (String.ofList (Text.quotedSigns unknown))
    (String.ofList (Text.quotedSigns signs)))

/-- A value for the flags of a pattern. -/
def flagsValue : Value → Checked String
  | .halved signs => .fail (halvedFlagsProblem signs)
  | v => (text v).andThen flags

/-- A pattern with a source and flags that are already checked. -/
def patternOf (source flags : String) : Checked TextPattern :=
  match TextPattern.make source flags with
  | .ok p => .good p
  | .error fault => .fail (.rule fault.message)

/-- A pattern, given by a mapping. -/
def pattern : Value → Checked TextPattern
  | .map entries =>
    let fields := (fun source flags => (source, flags))
      <$> required entries "pattern" text
      <*> withDefault entries "flags" "" flagsValue
    fields.andThen fun f => patternOf f.1 f.2
  | _ => .fail (.notMapping "PatternSpec")

/-- A text, or failing that a pattern; the problems of both readings are reported. -/
def textOrPattern (v : Value) : Checked TextValue :=
  match text v with
  | .good s => .good (.literal s)
  | .bad ps =>
    match pattern v with
    | .good p => .good (.pattern p)
    | .bad qs =>
      .bad (ps.map (Problem.within "str") ++ qs.map (Problem.within "PatternSpec"))

/-! ### Queries -/

/-- A query for a text; what a test id says of exactness is ignored. -/
def textQuery (kind : TextKind) (entries : List (Value × Value)) : Checked TextQuery :=
  TextQuery.mk kind
    <$> withDefault entries "description" none (optional text)
    <*> required entries "value" textOrPattern
    <*> if kind = .testId then .good false else withDefault entries "exact" false bool

/-- The state of a property that is a truth value. -/
def state (entries : List (Value × Value)) (key : String) : Checked (Option Bool) :=
  withDefault entries key none (optional bool)

/-- The key under which hidden elements are asked for: the second spelling counts only where the
first is absent. -/
def hiddenKey (entries : List (Value × Value)) : String :=
  if (Value.entry? entries Role.Property.includeHidden.key).isSome then
    Role.Property.includeHidden.key
  else Role.hiddenAlias

/-- A query for a role. -/
def roleQuery (entries : List (Value × Value)) : Checked RoleQuery :=
  RoleQuery.mk
    <$> withDefault entries "description" none (optional text)
    <*> required entries "role" (fun v => (text v).andThen (nonBlank "role cannot be empty"))
    <*> state entries "checked"
    <*> state entries "disabled"
    <*> state entries "selected"
    <*> state entries "expanded"
    <*> state entries (hiddenKey entries)
    <*> withDefault entries "level" none (optional level)
    <*> withDefault entries "name" none (optional textOrPattern)
    <*> state entries "pressed"

/-- A query whose kind is known. -/
def queryOfKind (kind : Kind) (entries : List (Value × Value)) : Checked Query :=
  Checked.within kind.name <| match kind with
    | .text kind => Query.text <$> textQuery kind entries
    | .role => Query.role <$> roleQuery entries

/-- The kind that a value names. -/
def kindOf? : Value → Option Kind
  | .text s => Kind.ofName? s
  | _ => none

/-- A kind. -/
def kind (v : Value) : Checked Kind :=
  match kindOf? v with
  | some kind => .good kind
  | none => .fail (.notOneOf (Kind.all.map Kind.name))

/-- A query of which only the kind is looked at. -/
def bareQuery (entries : List (Value × Value)) : Checked Kind :=
  required entries "kind" kind

/-- A query. -/
def query : Value → Checked Query
  | .map entries =>
    match Value.entry? entries "kind" with
    | none => .fail .noTag
    | some tag =>
      match kindOf? tag with
      | some kind => queryOfKind kind entries
      | none => .fail (.unknownTag tag.label (Kind.all.map Kind.name))
  -- these have parts, but none that could name a kind
  | .textValue _ | .compiled _ => .fail .noTag
  | _ => .fail .notItem

/-- The queries from place `i` on. -/
def queriesFrom (i : Nat) : List Value → List (Checked Query)
  | [] => []
  | v :: r => Checked.within (toString i) (query v) :: queriesFrom (i + 1) r

/-- A list of queries, each at its place. -/
def queryList (vs : List Value) : Checked (List Query) :=
  Checked.all (queriesFrom 0 vs)

theorem problems_queryList (vs : List Value) :
    (queryList vs).problems = (queriesFrom 0 vs).flatMap Checked.problems :=
  Checked.problems_all _

/-- A single query, reported as the only one of a document. -/
def singleQuery (v : Value) : Checked Query :=
  Checked.within "queries" (Checked.within (toString 0) (query v))

/-- The queries of a document. -/
def queries : Value → Checked (List Query)
  | .list vs | .tuple vs | .set vs => queryList vs
  | _ => .fail .notList

/-! ### Documents -/

/-- A document. -/
def document : Value → Checked QueryDocument
  | .map entries =>
    QueryDocument.mk
      <$> withDefault entries "version" "1" text
      <*> withDefault entries "name" none (optional text)
      <*> withDefault entries "test_id_attribute" none (optional fun v =>
        (text v).andThen (nonBlank "test_id_attribute cannot be empty"))
      <*> withDefault entries "queries" [] queries
  | _ => .fail (.notMapping "QueryFile")

end ElementLookup.Check
