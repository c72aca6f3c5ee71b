/-
**Sessions.**

A session is one run of a program that uses the library.  It remembers what outlives a single
lookup: the environment and the files, the settings once they are loaded, the contexts that name the
attribute for test ids, what pages were asked for, and how records are delivered; and it knows how
far recursion may go.  A step that fails keeps what it did before it failed.

Main definitions:

* `Fault` — why a step fails;
* `Session`, `SessionM` — the state, and steps;
* `Session.emit`, `Session.bind`, `Session.unbind` — records and the context bound to them;
* `Session.settings`, `Session.configure`, `Session.setLogLevel` — settings and what they govern;
* `Session.newContext`, `Session.defaultContext`, `Session.setAttribute`,
  `Session.applyAttribute` — contexts;
* `Session.lookup`, `Session.roleSelector`, `Session.compileQuery`, `Session.compileDocument`,
  `Session.resolve` — answers.

Main results:

* `Session.attributeIn_withAttribute` — a context has the attribute that was last set;
* `Session.compileDocument_eq` — levels apart, the selectors of a document are those of its queries.
-/

import ElementLookup.Log.Message
import ElementLookup.Query.Load
import ElementLookup.Settings

set_option autoImplicit false

namespace ElementLookup

/-! ### Faults and state -/

/-- Why a step fails. -/
inductive Fault where
  | lookup (fault : LookupFault)
  | invalid (problems : List Problem)
  | load (fault : LoadFault)
  | overlongLevel
  | noLocator
  | registryRefused
  | undecodable (octets : Text.BadOctets)
  | directory (fault : Files.MakeFault)
  | astray (why : Astray)
  | misfit (fault : Log.Misfit)
  | misnamed (why : Log.Severity.Misnomer)
  | tooDeep
  deriving DecidableEq, Repr

/-- The fault in words. -/
def Fault.message : Fault → String
  | .lookup f => f.message?.getD "An option is given twice, or not known"
  | .invalid ps => Problem.report ps
  | .load f => f.message?.getD "The query file holds a value that cannot be built"
  | .overlongLevel => "A level has too many digits to be written"
  | .noLocator => "Selectors are not put to use here"
  | .registryRefused => "The registry refused the attribute for test ids"
  | .undecodable octets => octets.message
  | .directory _ => "The directory of the log file cannot be made"
  | .astray _ => "A path cannot be looked at"
  | .misfit _ => "Values do not fit the message that they were given to"
  | .misnamed _ => "The word names no severity"
  | .tooDeep => "Directories stand below one another too deeply"

/-- Where records are delivered: to whoever listens, to the console, or to the log file.  Each fills
the message when it is given the record. -/
inductive Log.Handler where
  | listener
  | console
  | file
  deriving DecidableEq, Repr

/-- A record with the handler that it was delivered to, and why that handler could not fill the
message, if it could not; the message of the record is not filled then. -/
structure Log.Delivery where
  handler : Log.Handler
  record : Log.Record
  misfit : Option Log.Misfit

/-- How records are delivered: from which severity on, to whom, and whether also to the loggers
above. -/
structure Log.Delivering where
  configured : Bool
  severity : Log.Severity
  propagate : Bool
  handlers : List Log.Handler

/-- The severity from which records are delivered; zero leaves it to the loggers above, which
deliver warnings. -/
def Log.Delivering.threshold (d : Log.Delivering) : Log.Severity :=
  if d.severity = 0 then Log.Severity.warning else d.severity

/-- A registry outside the library that is told of the attribute for test ids. -/
structure Registry where
  refuses : Bool
  names : List String

/-- A context, a registry or a page of a session, by its number. -/
abbrev ContextId := Nat
abbrev RegistryId := Nat
abbrev PageId := Nat

/-- The state of a session. -/
structure Session where
  depths : Depths
  environment : Environment
  files : Files
  loaded : Option Settings
  contexts : List String
  shared : Option ContextId
  registries : List Registry
  pages : List (List String)
  bound : Log.Context
  delivering : Log.Delivering
  deliveries : List Log.Delivery

/-- A step of a session. -/
abbrev SessionM := ExceptT Fault (StateM Session)

namespace Session

/-- A session in which nothing has happened. -/
def start (depths : Depths) (environment : Environment) (files : Files) (severity : Log.Severity)
    (handlers : List Log.Handler) : Session :=
  ⟨depths, environment, files, none, [], none, [], [], [], ⟨false, severity, true, handlers⟩, []⟩

/-! ### Records -/

/-- Whether a note is delivered. -/
def hears (s : Session) (n : Log.Note) : Bool :=
  Log.isBelowRoot n.logger && s.delivering.threshold ≤ n.severity

/-- The session after a note was given to its logger.  The record shows what is bound at that
moment, as a handler sees it when it is given the record; what is bound is shared, so whoever keeps
a record and looks at it later sees what is bound then. -/
def heard (s : Session) (n : Log.Note) : Session :=
  if s.hears n then
    let record : Log.Record := { n with failure := none, extra := .object s.bound }
    { s with deliveries := s.deliveries ++ s.delivering.handlers.map fun h => ⟨h, record, none⟩ }
  else s

/-- The session after a note was given to its logger whose message cannot be filled.  That shows at
the first handler, and no other one is given the record. -/
def misheard (s : Session) (n : Log.Note) (fault : Log.Misfit) : Session :=
  let record : Log.Record := { n with failure := none, extra := .object s.bound }
  { s with deliveries := s.deliveries ++
      (s.delivering.handlers.take 1).map fun h => ⟨h, record, some fault⟩ }

/-- Gives a note to its logger. -/
def emit (n : Log.Note) : SessionM Unit :=
  modify fun s => s.heard n

/-- Gives a message with places for values to a logger.  The message is filled only if it is
delivered, and by whom it is delivered to, so without a handler there is no fault. -/
def log (logger : String) (severity : Log.Severity) (message : String) (values : List Value) :
    SessionM Unit := do
  let s ← get
  if s.hears ⟨logger, severity, message⟩ then
    match Log.fill message values with
    | .ok text => emit ⟨logger, severity, text⟩
    | .error fault =>
      set (s.misheard ⟨logger, severity, message⟩ fault)
      if !s.delivering.handlers.isEmpty then throw (.misfit fault)

/-- Binds members to every later record. -/
def bind (members : Log.Context) : SessionM Unit :=
  modify fun s => { s with bound := Json.merge s.bound members }

/-- Removes members from later records. -/
def unbind (keys : List String) : SessionM Unit :=
  modify fun s => { s with bound := Json.without s.bound keys }

/-! ### Settings -/

/-- The environment file, relative to the working directory. -/
def environmentFile : Path := ⟨.here, [".env"]⟩

/-- The variables that the environment file gives, if there is one. -/
def fileVariables (s : Session) : Except Fault EnvFile.Variables :=
  match s.files.node? environmentFile with
  | .ok (.file content) =>
    match Text.decode content with
    | .ok cs => .ok (EnvFile.resolve s.environment (Text.unifyLines cs))
    | .error octets => .error (.undecodable octets)
  | _ => .ok []

/-- The settings as environment and files give them now. -/
def readSettings (s : Session) : Except Fault Settings := do
  let file ← s.fileVariables
  match Settings.check s.files.cwd (Settings.chosen? s.environment file) with
  | .good settings => return settings
  | .bad ps => throw (.invalid ps)

/-- The files with the directory of the log file, if there is to be one. -/
def withLogDirectory (files : Files) (settings : Settings) : Except Files.Unmade Files :=
  if settings.logToFile then files.makeDirectories settings.logFile.parent else .ok files

/-- The settings; once they are loaded they are remembered. -/
def settings : SessionM Settings := do
  let s ← get
  match s.loaded with
  | some settings => return settings
  | none =>
    let settings ← s.readSettings
    match withLogDirectory s.files settings with
    | .ok files =>
      set { s with files := files, loaded := some settings }
      return settings
    | .error unmade =>
      -- the directories above that were made stay, but nothing is remembered
      set { s with files := unmade.files }
      throw (.directory unmade.fault)

/-- Forgets the settings. -/
def forgetSettings : SessionM Unit :=
  modify fun s => { s with loaded := none }

/-! ### Delivery -/

/-- The delivery that settings ask for. -/
def deliveringFor (d : Log.Delivering) (settings : Settings) : Log.Delivering :=
  { configured := true, severity := settings.logLevel.severity, propagate := false
    handlers := d.handlers ++ .console :: (if settings.logToFile then [.file] else []) }

/-- Sets up the delivery of records as settings ask for it, unless that is done already. -/
def configure : SessionM Unit := do
  if !(← get).delivering.configured then
    let settings ← settings
    modify fun s => { s with delivering := deliveringFor s.delivering settings }

/-- Sets the severity from which records are delivered. -/
def setSeverity (severity : Log.Severity) : SessionM Unit := do
  configure
  modify fun s => { s with delivering := { s.delivering with severity := severity } }

/-- Sets the severity that a word stands for. -/
def setLogLevel (word : String) : SessionM Unit := do
  -- delivery is set up even if the word is refused
  configure
  match Log.Severity.ofWord word with
  | .ok severity => setSeverity severity
  | .error why => throw (.misnamed why)

/-! ### Contexts -/

/-- A new context with an attribute for test ids. -/
def newContext (name : String) : SessionM ContextId := do
  let s ← get
  set { s with contexts := s.contexts ++ [name] }
  return s.contexts.length

/-- The attribute of a context. -/
def attributeIn (s : Session) (c : ContextId) : String :=
  (s.contexts[c]?).getD defaultTestIdAttribute

/-- The attribute of a context. -/
def attributeOf (c : ContextId) : SessionM String :=
  return (← get).attributeIn c

/-- The context that is shared by all who have none of their own; it begins with the attribute that
the settings name. -/
def defaultContext : SessionM ContextId := do
  match (← get).shared with
  | some c => return c
  | none =>
    -- settings are read only now, so that lookups without test ids never need them
    let c ← newContext (← settings).testIdAttribute
    modify fun s => { s with shared := some c }
    return c

/-- Forgets the shared context; who holds it keeps it. -/
def forgetDefaultContext : SessionM Unit :=
  modify fun s => { s with shared := none }

/-- The given context, or the shared one. -/
def contextOr (c : Option ContextId) : SessionM ContextId :=
  match c with
  | some c => pure c
  | none => defaultContext

/-- What is said when an attribute changes. -/
def attributeNote (before after : String) : Log.Note :=
  ⟨"getby.selectors.context", Log.Severity.debug,
    "test id attribute: " ++ Text.quoted before ++ " -> " ++ Text.quoted after⟩

/-- The session with the attribute of a context set. -/
def withAttribute (s : Session) (c : ContextId) (name : String) : Session :=
  { s with contexts := s.contexts.set c name }

/-- Sets the attribute of a context. -/
def setAttribute (c : ContextId) (name : String) : SessionM Unit := do
  let before ← attributeOf c
  modify fun s => s.withAttribute c name
  emit (attributeNote before name)

theorem attributeIn_withAttribute (s : Session) (c : ContextId) (name : String)
    (h : c < s.contexts.length) : (s.withAttribute c name).attributeIn c = name := by
  simp [withAttribute, attributeIn, h]

/-- A new registry. -/
def newRegistry (refuses : Bool) : SessionM RegistryId := do
  let s ← get
  set { s with registries := s.registries ++ [Registry.mk refuses []] }
  return s.registries.length

/-- Tells a registry of an attribute. -/
def tellRegistry (r : RegistryId) (name : String) : SessionM Unit := do
  let s ← get
  match s.registries[r]? with
  | none => pure ()
  | some registry =>
    if registry.refuses then throw .registryRefused
    else set { s with
      registries := s.registries.set r { registry with names := registry.names ++ [name] } }

/-- Sets the attribute of the given or the shared context, then tells a registry of it. -/
def applyAttribute (name : String) (c : Option ContextId) (r : Option RegistryId) :
    SessionM ContextId := do
  let c ← contextOr c
  -- the context goes first, and keeps the name even if the registry refuses it
  setAttribute c name
  match r with
  | some r => tellRegistry r name
  | none => pure ()
  return c

/-! ### Lookups -/

/-- What becomes of a selector: it is the answer, a page is asked for it, or nothing is done with
it. -/
inductive Use where
  | answer
  | page (p : PageId)
  | none
  deriving DecidableEq, Repr

/-- Who compiles lookups: with a context, and a use for selectors. -/
structure Builder where
  use : Use
  context : Option ContextId
  deriving DecidableEq, Repr

/-- A selector, or what a page gave for it. -/
inductive Answer where
  | selector (s : String)
  | located (p : PageId) (s : String)
  deriving DecidableEq, Repr

/-- A new page. -/
def newPage : SessionM PageId := do
  let s ← get
  set { s with pages := s.pages ++ [[]] }
  return s.pages.length

/-- The attribute for test ids of a builder. -/
def builderAttribute (c : Option ContextId) : SessionM String := do
  attributeOf (← contextOr c)

/-- The selector of a lookup. -/
def selectorOf (c : Option ContextId) (l : Lookup) : SessionM String := do
  match l.note? with
  | some n => emit n
  | none => pure ()
  if l.isOverlong then throw .overlongLevel
  match ← l.compile (builderAttribute c) with
  | .ok s => return s
  | .error fault => throw (.lookup fault)

/-- The selector of a role under options as they stand: null is a value here, and no key is
reserved. -/
def roleSelector (role : Value) (options : Role.Options) : SessionM String := do
  -- what is said of ignored options shows the role, so nothing is said if it cannot be written
  match if role.isOverlong then none else Role.note? role options with
  | some n => emit n
  | none => pure ()
  if Role.isOverlong role options then throw .overlongLevel
  match Role.lookupSelector role options with
  | .ok s => return s
  | .error fault => throw (.lookup fault)

/-- What is said when a page is asked for a selector. -/
def pageNote (s : String) : Log.Note :=
  ⟨"getby.selectors.locator", Log.Severity.debug, "locator(" ++ Text.quoted s ++ ")"⟩

/-- Asks a page for a selector. -/
def locate (p : PageId) (s : String) : SessionM Answer := do
  emit (pageNote s)
  modify fun st => { st with pages := st.pages.modify p (· ++ [s]) }
  return .located p s

/-- Puts a selector to use. -/
def put (u : Use) (s : String) : SessionM Answer :=
  match u with
  | .answer => return .selector s
  | .page p => locate p s
  | .none => throw .noLocator

/-- The answer to a lookup. -/
def lookup (b : Builder) (l : Lookup) : SessionM Answer := do
  put b.use (← selectorOf b.context l)

/-! ### Queries -/

/-- The selector of a query, given a way to learn the attribute for test ids. -/
def compileUnder (idAttribute : SessionM String) (q : Query) : SessionM String := do
  if q.isOverlong then throw .overlongLevel
  q.compile idAttribute

/-- The selector of a query. -/
def compileQuery (c : Option ContextId) (q : Query) : SessionM String :=
  compileUnder (builderAttribute c) q

/-- A query of which only the kind is known has no selector. -/
def compileBare (_ : Kind) : SessionM String :=
  throw .noLocator

/-- The selectors of a document. -/
def compileDocument (c : Option ContextId) (d : QueryDocument) : SessionM (List String) :=
  d.queries.mapM (compileUnder (d.attributeOr (builderAttribute c)))

/-- Without a level of too many digits, a document has the selectors of its queries. -/
theorem compileDocument_eq (c : Option ContextId) (d : QueryDocument)
    (h : ∀ q ∈ d.queries, q.isOverlong = false) :
    compileDocument c d = d.compile (builderAttribute c) := by
  rw [compileDocument, QueryDocument.compile]
  generalize d.queries = qs at h
  induction qs with
  | nil => rfl
  | cons q r ih =>
    rw [List.forall_mem_cons] at h
    simp only [List.mapM_cons, ih h.2, compileUnder, h.1]
    rfl

/-- What a page gives for a query. -/
def resolve (p : PageId) (c : Option ContextId) (q : Query) : SessionM Answer := do
  locate p (← compileQuery c q)

/-- The documents of a query file. -/
def load (path : Path) : SessionM (List LoadedDocument) := do
  let s ← get
  match QueryFile.load s.depths s.environment s.files path with
  | .ok ds => return ds
  | .error fault => throw (.load fault)

end Session

end ElementLookup
