/-
**Settings, field by field.**

Each setting is taken from the environment if that gives its name a value, else from the environment
file, else it has its default; letter case does not matter in names.  What the value stands for is
decided by the setting alone.  So settings are to be had exactly if each of the six has a value that
stands for something, and none of them has anything to do with another.

A source that spells no name in two letter cases gives each name one value at most.  That is assumed
of both sources here; of others, the last spelling counts.

Main definitions:

* `Settings.OneCase`, `Settings.OneCaseKeys` — a source, and bindings, that spell no name in two
  letter cases;
* `Settings.Gives`, `Settings.Resolves` — the value that a source gives to a name, and what a
  setting comes to;
* `Settings.IsTruthWord` — the words for truth values;
* `Settings.GivenBy` — the settings that two sources give;
* `Settings.WellFormed` — what holds of all settings;
* `Settings.Covers` — names that matter for settings.

Main results:

* `Settings.given?_eq_some_iff` — which value a source gives;
* `Settings.check_eq_good_iff` — **settings are given field by field**;
* `Settings.GivenBy.wellFormed` — given settings are well-formed;
* `Settings.check_chosen?_congr` — settings depend on the variables that matter only.
-/

import ElementLookup.Proofs.Check.Success
import ElementLookup.Proofs.Environment.FileVariables
import Mathlib.Data.List.Nodup

set_option autoImplicit false

namespace ElementLookup

namespace Settings

variable {source : EnvFile.Variables} {name value : String}

/-! ### Sources -/

/-- A source spells no name in two letter cases. -/
def OneCase (source : EnvFile.Variables) : Prop :=
  (source.map fun v => fold v.1).Nodup

/-- A source gives a value to a name in some letter case. -/
def Gives (source : EnvFile.Variables) (name value : String) : Prop :=
  ∃ n, fold n = fold name ∧ (n, some value) ∈ source

/-- The variable that is found under a name is the one that is spelled like it. -/
theorem OneCase.find?_reverse_eq_some_iff (h : OneCase source) {v : String × Option String} :
    source.reverse.find? (fun v => fold v.1 = fold name) = some v ↔
      v ∈ source ∧ fold v.1 = fold name := by
  constructor
  · intro hfind
    have hfold : fold v.1 = fold name := by simpa using List.find?_some hfind
    exact ⟨List.mem_reverse.1 (List.mem_of_find?_eq_some hfind), hfold⟩
  · rintro ⟨hmem, hfold⟩
    have hsome : (source.reverse.find? fun v => fold v.1 = fold name).isSome :=
      List.find?_isSome.2 ⟨v, List.mem_reverse.2 hmem, decide_eq_true hfold⟩
    obtain ⟨w, hw⟩ := Option.isSome_iff_exists.1 hsome
    have hwmem := List.mem_reverse.1 (List.mem_of_find?_eq_some hw)
    have hwfold : fold w.1 = fold name := by simpa using List.find?_some hw
    rw [hw, List.inj_on_of_nodup_map h hwmem hmem (hwfold.trans hfold.symm)]

/-- The value that a source gives to a name. -/
theorem given?_eq_some_iff (h : OneCase source) :
    given? source name = some value ↔ Gives source name value := by
  rw [given?, Option.bind_eq_some_iff]
  constructor
  · rintro ⟨⟨n, x⟩, hfind, rfl⟩
    obtain ⟨hmem, hfold⟩ := h.find?_reverse_eq_some_iff.1 hfind
    exact ⟨n, hfold, hmem⟩
  · rintro ⟨n, hfold, hmem⟩
    exact ⟨(n, some value), h.find?_reverse_eq_some_iff.2 ⟨hmem, hfold⟩, rfl⟩

theorem given?_eq_none_iff (h : OneCase source) :
    given? source name = none ↔ ∀ value, ¬ Gives source name value := by
  simp only [Option.eq_none_iff_forall_ne_some, ne_eq, given?_eq_some_iff h]

/-- Bindings spell no name in two letter cases; they may bind a name several times. -/
def OneCaseKeys (bs : List EnvFile.Binding) : Prop :=
  ∀ b ∈ bs, ∀ c ∈ bs, fold b.key = fold c.key → b.key = c.key

/-- What such bindings give is such a source. -/
theorem OneCaseKeys.oneCase {bs : List EnvFile.Binding} (h : OneCaseKeys bs) (env : Environment) :
    OneCase (EnvFile.valuesOf env bs) := by
  have hkeys : ∀ n ∈ (EnvFile.valuesOf env bs).map (·.1), ∃ b ∈ bs, b.key = n :=
    fun n hn => List.mem_map.1 (EnvFile.mem_keys_of_mem_names hn)
  have hnodup : (((EnvFile.valuesOf env bs).map (·.1)).map fold).Nodup := by
    refine (EnvFile.nodup_names_valuesOf env bs).map_on fun n hn m hm hfold => ?_
    obtain ⟨b, hb, rfl⟩ := hkeys n hn
    obtain ⟨c, hc, rfl⟩ := hkeys m hm
    exact h b hb c hc hfold
  rwa [List.map_map] at hnodup

/-! ### Fields -/

variable {α : Type} {env : Environment} {file : EnvFile.Variables}

/-- What a setting comes to: what the value of the environment stands for, else what the value of
the file stands for, else the default. -/
inductive Resolves (env : Environment) (file : EnvFile.Variables) (name : String)
    (means : String → α → Prop) (default : α) : α → Prop where
  | environment {value : String} {x : α} (given : Gives (ofEnvironment env) name value)
      (hx : means value x) : Resolves env file name means default x
  | file {value : String} {x : α} (absent : ∀ v, ¬ Gives (ofEnvironment env) name v)
      (given : Gives file name value) (hx : means value x) :
      Resolves env file name means default x
  | default (absent : ∀ v, ¬ Gives (ofEnvironment env) name v)
      (absent' : ∀ v, ¬ Gives file name v) : Resolves env file name means default default

/-- A setting is good exactly if it comes to something. -/
theorem field_eq_good_iff (henv : OneCase (ofEnvironment env)) (hfile : OneCase file)
    {check : String → Checked α} {means : String → α → Prop}
    (hcheck : ∀ s x, check s = .good x ↔ means s x) {default x : α} :
    field (chosen? env file) name default check = .good x ↔
      Resolves env file name means default x := by
  rw [field, chosen?]
  cases hfirst : given? (ofEnvironment env) name with
  | some value =>
    have hgives := (given?_eq_some_iff henv).1 hfirst
    rw [Option.some_or]
    dsimp only
    rw [Checked.within_eq_good, hcheck]
    constructor
    · exact fun hx => .environment hgives hx
    · intro h
      cases h with
      | environment given hx =>
        obtain rfl := Option.some.inj (hfirst.symm.trans ((given?_eq_some_iff henv).2 given))
        exact hx
      | file absent => exact absurd hgives (absent _)
      | default absent => exact absurd hgives (absent _)
  | none =>
    have habsent := (given?_eq_none_iff henv).1 hfirst
    rw [Option.none_or]
    cases hsecond : given? file name with
    | some value =>
      have hgives := (given?_eq_some_iff hfile).1 hsecond
      dsimp only
      rw [Checked.within_eq_good, hcheck]
      constructor
      · exact fun hx => .file habsent hgives hx
      · intro h
        cases h with
        | environment given => exact absurd given (habsent _)
        | file _ given hx =>
          obtain rfl := Option.some.inj (hsecond.symm.trans ((given?_eq_some_iff hfile).2 given))
          exact hx
        | default _ absent => exact absurd hgives (absent _)
    | none =>
      have habsent' := (given?_eq_none_iff hfile).1 hsecond
      dsimp only
      rw [Checked.good.injEq]
      constructor
      · rintro rfl
        exact .default habsent habsent'
      · intro h
        cases h with
        | environment given => exact absurd given (habsent _)
        | file _ given => exact absurd given (habsent' _)
        | default => rfl

/-! ### What values stand for -/

/-- A text names an attribute: without the blanks around it, and something must be left. -/
def IsAttribute (s name : String) : Prop := name = Text.strip s ∧ name ≠ ""

/-- A text names a place: from the working directory, unless it starts at the root. -/
def IsPlace (cwd : Path) (s : String) (p : Path) : Prop :=
  p = if (Path.ofText s).isAbsolute then Path.ofText s
    else ⟨ cwd.start, cwd.steps ++ (Path.ofText s).steps⟩

/-- A text is a word for a truth value, in any letter case. -/
def IsTruthWord (s : String) (b : Bool) : Prop :=
  b = true ∧ fold s ∈ Check.trueWords ∨ b = false ∧ fold s ∈ Check.falseWords

theorem attributeName_eq_good (s name : String) :
    attributeName s = .good name ↔ IsAttribute s name :=
  Check.nonBlank_eq_good

theorem absolutePath_eq_good (cwd : Path) (s : String) (p : Path) :
    absolutePath cwd s = .good p ↔ IsPlace cwd s p := by
  rw [absolutePath, Checked.good.injEq, IsPlace, Path.join, eq_comm]

theorem level_eq_good (s : String) (l : Log.Level) : level s = .good l ↔ s = l.name := by
  have hnames : ∀ l : Log.Level, Log.Level.ofName? l.name = some l := by
    intro l
    cases l <;> decide
  rw [level]
  cases hname : Log.Level.ofName? s with
  | none =>
    refine iff_of_false nofun ?_
    rintro rfl
    rw [hnames] at hname
    exact nomatch hname
  | some m =>
    obtain rfl : m.name = s := by simpa using List.find?_some hname
    dsimp only
    rw [Checked.good.injEq]
    constructor
    · exact congrArg Log.Level.name
    · intro h
      rw [h, hnames] at hname
      exact (Option.some.inj hname).symm

theorem boolOfText_eq_good (s : String) (b : Bool) :
    Check.boolOfText s = .good b ↔ IsTruthWord s b := by
  have hdisjoint : ∀ w ∈ Check.falseWords, w ∉ Check.trueWords := by decide
  have hword : Check.truthWord? s =
      if fold s ∈ Check.falseWords then some false
      else if fold s ∈ Check.trueWords then some true else none := rfl
  rw [Check.boolOfText, hword, IsTruthWord]
  by_cases hfalse : fold s ∈ Check.falseWords
  · have htrue := hdisjoint _ hfalse
    cases b <;> simp [hfalse, htrue]
  · by_cases htrue : fold s ∈ Check.trueWords
    · cases b <;> simp [hfalse, htrue]
    · cases b <;> simp [hfalse, htrue]

/-! ### All settings -/

/-- The names of settings. -/
def names : List String :=
  ["TEST_ID_ATTRIBUTE", "QUERIES_DIR", "LOG_LEVEL", "LOG_TO_FILE", "LOG_FILE", "COLORIZED_OUTPUT"]

/-- The settings that the environment and a file give: each comes from its own name. -/
structure GivenBy (cwd : Path) (env : Environment) (file : EnvFile.Variables) (st : Settings) :
    Prop where
  testIdAttribute : Resolves env file "TEST_ID_ATTRIBUTE" IsAttribute "data-testid"
    st.testIdAttribute
  queriesDir : Resolves env file "QUERIES_DIR" (IsPlace cwd) ⟨ cwd.start, cwd.steps ++ ["queries"]⟩
    st.queriesDir
  logLevel : Resolves env file "LOG_LEVEL" (fun s l => s = l.name) .info st.logLevel
  logToFile : Resolves env file "LOG_TO_FILE" IsTruthWord false st.logToFile
  logFile : Resolves env file "LOG_FILE" (IsPlace cwd) ⟨ cwd.start, cwd.steps ++ ["getby.log"]⟩
    st.logFile
  colorizedOutput : Resolves env file "COLORIZED_OUTPUT" IsTruthWord true st.colorizedOutput

/-- Settings are good exactly if each of them is. -/
theorem check_eq_good_iff_fields {cwd : Path} {text? : String → Option String} {st : Settings} :
    check cwd text? = .good st ↔
      field text? "TEST_ID_ATTRIBUTE" defaultTestIdAttribute attributeName =
          .good st.testIdAttribute ∧
        field text? "QUERIES_DIR" (cwd.join ⟨.here, ["queries"]⟩) (absolutePath cwd) =
          .good st.queriesDir ∧
        field text? "LOG_LEVEL" .info level = .good st.logLevel ∧
        field text? "LOG_TO_FILE" false Check.boolOfText = .good st.logToFile ∧
        field text? "LOG_FILE" (cwd.join ⟨.here, ["getby.log"]⟩) (absolutePath cwd) =
          .good st.logFile ∧
        field text? "COLORIZED_OUTPUT" true Check.boolOfText = .good st.colorizedOutput := by
  simp only [check, Checked.seq_eq_good, Checked.map_eq_good]
  constructor
  · rintro ⟨-, ⟨-, ⟨-, ⟨-, ⟨-, ⟨a, ha, rfl⟩, q, hq, rfl⟩, l, hl, rfl⟩, t, ht, rfl⟩, p, hp, rfl⟩,
      c, hc, rfl⟩
    exact ⟨ha, hq, hl, ht, hp, hc⟩
  · rintro ⟨ha, hq, hl, ht, hp, hc⟩
    exact ⟨_, ⟨_, ⟨_, ⟨_, ⟨_, ⟨_, ha, rfl⟩, _, hq, rfl⟩, _, hl, rfl⟩, _, ht, rfl⟩, _, hp, rfl⟩,
      _, hc, rfl⟩

/-- Settings are given field by field. -/
theorem check_eq_good_iff (henv : OneCase (ofEnvironment env)) (hfile : OneCase file)
    {cwd : Path} {st : Settings} :
    check cwd (chosen? env file) = .good st ↔ st.GivenBy cwd env file := by
  have hpath := absolutePath_eq_good cwd
  rw [check_eq_good_iff_fields, field_eq_good_iff henv hfile attributeName_eq_good,
    field_eq_good_iff henv hfile hpath, field_eq_good_iff henv hfile level_eq_good,
    field_eq_good_iff henv hfile boolOfText_eq_good, field_eq_good_iff henv hfile hpath,
    field_eq_good_iff henv hfile boolOfText_eq_good]
  constructor
  · rintro ⟨ha, hq, hl, ht, hp, hc⟩
    exact ⟨ha, hq, hl, ht, hp, hc⟩
  · rintro ⟨ha, hq, hl, ht, hp, hc⟩
    exact ⟨ha, hq, hl, ht, hp, hc⟩

/-! ### What holds of all settings -/

/-- The attribute for test ids is not empty and has no blanks around it, and both paths are
absolute. -/
structure WellFormed (st : Settings) : Prop where
  attribute_ne : st.testIdAttribute ≠ ""
  attribute_unpadded : Text.Unpadded Text.isBlank st.testIdAttribute.toList
  isAbsolute_queriesDir : st.queriesDir.isAbsolute = true
  isAbsolute_logFile : st.logFile.isAbsolute = true

/-- What holds of a value wherever it is taken from. -/
theorem Resolves.all {means : String → α → Prop} {default x : α} {P : α → Prop}
    (h : Resolves env file name means default x) (hmeans : ∀ s y, means s y → P y)
    (hdefault : P default) : P x := by
  cases h with
  | environment _ hx => exact hmeans _ _ hx
  | file _ _ hx => exact hmeans _ _ hx
  | default => exact hdefault

theorem IsPlace.isAbsolute { cwd p : Path} {s : String} (h : IsPlace cwd s p)
    (hcwd : cwd.isAbsolute = true) : p.isAbsolute = true := by
  have hjoin : p = cwd.join (Path.ofText s) := h
  rw [hjoin]
  exact Path.isAbsolute_join hcwd _

/-- Given settings are well-formed. -/
theorem GivenBy.wellFormed {cwd : Path} {st : Settings} (h : st.GivenBy cwd env file)
    (hcwd : cwd.isAbsolute = true) : st.WellFormed where
  attribute_ne := h.testIdAttribute.all (fun _ _ hname => hname.2) (by decide)
  attribute_unpadded := by
    have hdefault : "data-testid" = Text.strip "data-testid" := by decide
    refine h.testIdAttribute.all (P := fun name => Text.Unpadded Text.isBlank name.toList)
      (fun s name hname => ?_) ?_
    · rw [hname.1]
      exact Text.unpadded_strip s
    · rw [hdefault]
      exact Text.unpadded_strip _
  isAbsolute_queriesDir := h.queriesDir.all (fun _ _ hp => hp.isAbsolute hcwd) hcwd
  isAbsolute_logFile := h.logFile.all (fun _ _ hp => hp.isAbsolute hcwd) hcwd

/-! ### What settings depend on -/

/-- Settings depend on the texts chosen for the six names only. -/
theorem check_congr_names {cwd : Path} {f g : String → Option String}
    (h : ∀ name ∈ names, f name = g name) : check cwd f = check cwd g := by
  simp only [names, List.forall_mem_cons] at h
  obtain ⟨ha, hq, hl, ht, hp, hc, -⟩ := h
  simp only [check, field, ha, hq, hl, ht, hp, hc]

theorem OneCase.nodup_names (h : OneCase source) : (source.map (·.1)).Nodup :=
  List.Nodup.of_map fold (by rwa [List.map_map])

/-- In a source that spells no name in two letter cases, a variable is what is found under its
name. -/
theorem OneCase.mem_iff_find? (h : OneCase source) {v : String × Option String} :
    v ∈ source ↔ source.find? (fun w => w.1 = v.1) = some v := by
  constructor
  · intro hmem
    have hsome : (source.find? fun w => w.1 = v.1).isSome :=
      List.find?_isSome.2 ⟨v, hmem, decide_eq_true rfl⟩
    obtain ⟨w, hw⟩ := Option.isSome_iff_exists.1 hsome
    have hname : w.1 = v.1 := by simpa using List.find?_some hw
    rw [hw, List.inj_on_of_nodup_map h.nodup_names (List.mem_of_find?_eq_some hw) hmem hname]
  · exact List.mem_of_find?_eq_some

/-- What a source gives to a name depends on the variables of that name only. -/
theorem given?_congr {source' : EnvFile.Variables} (h : OneCase source) (h' : OneCase source')
    (hsame : ∀ n, fold n = fold name →
      source.find? (fun v => v.1 = n) = source'.find? fun v => v.1 = n) :
    given? source name = given? source' name := by
  refine Option.ext fun value => ?_
  rw [given?_eq_some_iff h, given?_eq_some_iff h']
  refine exists_congr fun n => and_congr_right fun hfold => ?_
  rw [h.mem_iff_find?, h'.mem_iff_find?, hsame n hfold]

theorem find?_ofEnvironment (env : Environment) (n : String) :
    (ofEnvironment env).find? (fun v => v.1 = n) =
      (env.value? n).map fun value => (n, some value) := by
  rw [ofEnvironment, List.find?_map, Environment.value?, Option.map_map]
  cases hfind : env.bindings.find? ((fun v => decide (v.1 = n)) ∘ fun v => (v.1, some v.2)) with
  | none =>
    rw [show env.bindings.find? (fun v => v.1 = n) = none from hfind]
    rfl
  | some v =>
    have hname : v.1 = n := by simpa using List.find?_some hfind
    rw [show env.bindings.find? (fun v => v.1 = n) = some v from hfind, Option.map_some,
      Option.map_some, hname]
    rfl

/-- Whether this is the name of a setting, in any letter case. -/
def isSettingName (n : String) : Bool :=
  names.any fun name => fold n = fold name

theorem isSettingName_of_fold_eq {n : String} (hname : name ∈ names) (h : fold n = fold name) :
    isSettingName n = true :=
  List.any_eq_true.2 ⟨name, hname, decide_eq_true h⟩

/-- Names that matter for settings: those of the settings, and all that the values of names that
matter refer to. -/
structure Covers (relevant : String → Bool) (bs : List EnvFile.Binding) : Prop where
  settings : ∀ n, isSettingName n = true → relevant n = true
  references : EnvFile.ClosedUnder relevant bs

/-- Settings depend on the variables that matter only. -/
theorem check_chosen?_congr {env env' : Environment} {file file' : EnvFile.Variables}
    {relevant : String → Bool} {bs : List EnvFile.Binding} (h : Covers relevant bs)
    (henv : OneCase (ofEnvironment env)) (henv' : OneCase (ofEnvironment env'))
    (hfile : OneCase file) (hfile' : OneCase file')
    (hsame : ∀ n, relevant n = true → env.value? n = env'.value? n)
    (hagree : EnvFile.AgreeOn relevant file file') (cwd : Path) :
    check cwd (chosen? env file) = check cwd (chosen? env' file') := by
  refine check_congr_names fun name hname => ?_
  have hrelevant : ∀ n, fold n = fold name → relevant n = true :=
    fun n hn => h.settings n (isSettingName_of_fold_eq hname hn)
  have hfirst : given? (ofEnvironment env) name = given? (ofEnvironment env') name :=
    given?_congr henv henv' fun n hn => by
      rw [find?_ofEnvironment, find?_ofEnvironment, hsame n (hrelevant n hn)]
  have hsecond : given? file name = given? file' name :=
    given?_congr hfile hfile' fun n hn => hagree n (hrelevant n hn)
  rw [chosen?, chosen?, hfirst, hsecond]

end Settings

end ElementLookup
