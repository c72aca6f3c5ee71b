/-
**References in data.**

References to variables are replaced in one pass over the texts of a value.  What a pass makes of a
text could depend on where it begins to read, on references that overlap, and on what a variable's
value looks like beside its neighbours.  None of this can happen.  A reference has its only dollar
sign in front, so two references never overlap, and a text can be taken apart in one way only: into
its references and the texts between them, which hold no reference.  Each reference then gives way
to the value of its variable, if there is one, and nothing else is touched, neither in the text nor
around it.

Main definitions:

* `Environment.IsVariableName`, `Environment.reference` — names, and references to them;
* `Environment.Dissection`, `Environment.Dissection.Dissects` — a text taken apart;
* `Environment.replacement` — what a reference gives way to;
* `Environment.Dissection.filled` — a text put together again, with its references replaced;
* `Environment.Substituted` — a value of the same shape, with its texts filled.

Main results:

* `Environment.existsUnique_dissects` — **a text can be taken apart in one way only**;
* `Environment.expandSigns_of_dissects` — replacing the references of a text fills it;
* `Environment.isTooDeep_mono` — a value is too deep for small depths, if for any;
* `Environment.substituted_iff` — **what replacing the references of a value comes to**.
-/

import ElementLookup.Environment
import ElementLookup.Text.Split
import Mathlib.Logic.ExistsUnique

set_option autoImplicit false

namespace ElementLookup

namespace Environment

open Text (Sign)

/-! ### References -/

/-- The name of a variable: a letter or an underscore, and then letters, digits and underscores, all
of them ASCII. -/
def IsVariableName (name : List Char) : Prop :=
  ∃ c r, name = c :: r ∧ (c.isAlpha ∨ c = '_') ∧ ∀ d ∈ r, d.isAlphanum ∨ d = '_'

theorem isNameChar_iff {c : Char} : isNameChar c = true ↔ c.isAlphanum ∨ c = '_' := by
  simp [isNameChar]

/-- No letter is a digit. -/
theorem isDigit_of_isAlpha {c : Char} (h : c.isAlpha = true) : c.isDigit = false := by
  delta Char.isAlpha Char.isUpper Char.isLower at h
  simp only [Bool.or_eq_true, Bool.and_eq_true,
    decide_eq_true_eq, ge_iff_le, UInt32.le_iff_toNat_le] at h
  simp only [Char.isDigit, Bool.and_eq_false_iff, decide_eq_false_iff_not, ge_iff_le,
    UInt32.le_iff_toNat_le]
  have : 'A'.val.toNat = 65 := rfl
  have : 'a'.val.toNat = 97 := rfl
  have : '9'.val.toNat = 57 := rfl
  omega

theorem isName_iff {name : List Char} : isName name = true ↔ IsVariableName name := by
  cases name with
  | nil => simp [isName, IsVariableName]
  | cons c r =>
    have hfirst : (c.isDigit = false ∧ (c.isAlphanum ∨ c = '_')) ↔ (c.isAlpha ∨ c = '_') := by
      constructor
      · rintro ⟨hdigit, halnum | rfl⟩
        · rw [Char.isAlphanum, hdigit, Bool.or_false] at halnum
          exact .inl halnum
        · exact .inr rfl
      · rintro (halpha | rfl)
        · exact ⟨isDigit_of_isAlpha halpha, .inl (by rw [Char.isAlphanum, halpha, Bool.true_or])⟩
        · exact ⟨by decide, .inr rfl⟩
    simp only [isName, Bool.and_eq_true, Bool.not_eq_true', List.all_cons, List.all_eq_true,
      isNameChar_iff, IsVariableName, List.cons.injEq]
    rw [← and_assoc, hfirst]
    constructor
    · rintro ⟨hc, hr⟩
      exact ⟨c, r, ⟨rfl, rfl⟩, hc, hr⟩
    · rintro ⟨_, _, ⟨rfl, rfl⟩, hc, hr⟩
      exact ⟨hc, hr⟩

/-- The characters of a name, none of which ends or begins a reference. -/
theorem IsVariableName.isNameChar {name : List Char} (h : IsVariableName name) :
    ∀ c ∈ name, isNameChar c = true := by
  rw [← isName_iff] at h
  cases name with
  | nil => exact fun c hc => nomatch hc
  | cons c r =>
    rw [isName, Bool.and_eq_true, List.all_eq_true] at h
    exact h.2

/-- A reference to a variable, as it stands in a text. -/
def reference (name : List Char) : List Sign :=
  .char '$' :: .char '\x7b' :: (name.map Sign.char ++ [.char '\x7d'])

theorem map_written (name : List Char) : (written name).map Sign.char = reference name := by
  simp [written, reference]

/-- What a reference gives way to: the value of its variable, even an empty one, and itself if there
is no such variable. -/
def replacement (env : Environment) (name : List Char) : List Sign :=
  match env.value? (String.ofList name) with
  | some value => value.toList.map .char
  | none => reference name

theorem map_meaning (env : Environment) (name : List Char) :
    (env.meaning name).map Sign.char = env.replacement name := by
  rw [meaning, replacement]
  cases env.value? (String.ofList name) with
  | none => exact map_written name
  | some value => rfl

/-- What is not the character of a name does not stand in one. -/
theorem IsVariableName.char_notMem {name : List Char} (h : IsVariableName name) {c : Char}
    (hc : Environment.isNameChar c = false) : Sign.char c ∉ name.map Sign.char := by
  intro hmem
  obtain ⟨d, hd, heq⟩ := List.mem_map.1 hmem
  rw [Sign.char.inj heq] at hd
  exact absurd (h.isNameChar c hd) (by rw [hc]; decide)

/-- The brace that closes a reference ends its name. -/
theorem reference_append_inj {m n : List Char} (hm : IsVariableName m) (hn : IsVariableName n)
    {a b : List Sign} (h : reference m ++ a = reference n ++ b) : m = n ∧ a = b := by
  simp only [reference, List.cons_append, List.append_assoc, List.nil_append, List.cons.injEq,
    true_and] at h
  obtain ⟨hname, hrest⟩ :=
    Text.append_cons_inj_left (hm.char_notMem (by decide)) (hn.char_notMem (by decide)) h
  exact ⟨(List.map_inj_right fun _ _ => Sign.char.inj).1 hname, hrest⟩

/-- The dollar sign of a reference stands in front: one that ends elsewhere leaves nothing of it
behind. -/
theorem eq_nil_of_reference_eq {name : List Char} (hname : IsVariableName name)
    {before behind : List Sign} (h : reference name = before ++ .char '$' :: behind) :
    before = [] := by
  cases before with
  | nil => rfl
  | cons s before =>
    exfalso
    rw [reference, List.cons_append, List.cons.injEq] at h
    have hmem : Sign.char '$' ∈ Sign.char '\x7b' :: (name.map Sign.char ++ [.char '\x7d']) := by
      rw [h.2]
      exact List.mem_append_right _ List.mem_cons_self
    simp only [List.mem_cons, List.mem_append, List.not_mem_nil, or_false] at hmem
    rcases hmem with hbrace | hin | hbrace
    · exact absurd hbrace (by decide)
    · exact hname.char_notMem (by decide) hin
    · exact absurd hbrace (by decide)

/-! ### Texts taken apart -/

/-- Whether a text holds no reference. -/
def ReferenceFree (signs : List Sign) : Prop :=
  ∀ name, IsVariableName name → ¬ reference name <:+: signs

/-- Whether a text begins with a reference. -/
def BeginsReference (signs : List Sign) : Prop :=
  ∃ name, IsVariableName name ∧ reference name <+: signs

/-- The text before the first reference, and the name of each reference with the text behind it. -/
structure Dissection where
  first : List Sign
  more : List (List Char × List Sign)

namespace Dissection

/-- The text that is made up of references and the texts between them. -/
def signs (d : Dissection) : List Sign :=
  d.first ++ d.more.flatMap fun m => reference m.1 ++ m.2

/-- The text with each reference replaced. -/
def filled (env : Environment) (d : Dissection) : List Sign :=
  d.first ++ d.more.flatMap fun m => env.replacement m.1 ++ m.2

/-- A text is taken apart into its references and texts that hold none. -/
structure Dissects (d : Dissection) (signs : List Sign) : Prop where
  /-- The parts make up the text. -/
  signs_eq : d.signs = signs
  /-- References have names of variables. -/
  names : ∀ m ∈ d.more, IsVariableName m.1
  /-- The text before the first reference holds none. -/
  first : ReferenceFree d.first
  /-- Nor do the texts behind references. -/
  between : ∀ m ∈ d.more, ReferenceFree m.2

/-- One more sign in front. -/
def sign (s : Sign) (d : Dissection) : Dissection := ⟨s :: d.first, d.more⟩

/-- One more reference in front. -/
def refer (name : List Char) (d : Dissection) : Dissection := ⟨[], (name, d.first) :: d.more⟩

variable {d : Dissection} {ss : List Sign} {s : Sign} {name : List Char}

theorem signs_sign : (d.sign s).signs = s :: d.signs := rfl

theorem signs_refer : (d.refer name).signs = reference name ++ d.signs := by
  simp [signs, refer]

theorem filled_sign (env : Environment) : (d.sign s).filled env = s :: d.filled env := rfl

theorem filled_refer (env : Environment) :
    (d.refer name).filled env = env.replacement name ++ d.filled env := by
  simp [filled, refer]

theorem dissects_nil : (⟨[], []⟩ : Dissection).Dissects [] where
  signs_eq := rfl
  names _ hm := nomatch hm
  first name _ h := by simp [reference] at h
  between _ hm := nomatch hm

theorem Dissects.refer (hname : IsVariableName name) (h : d.Dissects ss) :
    (d.refer name).Dissects (reference name ++ ss) where
  signs_eq := by rw [signs_refer, h.signs_eq]
  names := List.forall_mem_cons.2 ⟨hname, h.names⟩
  first _ _ hin := by simp [Dissection.refer, reference] at hin
  between := List.forall_mem_cons.2 ⟨h.first, h.between⟩

/-- A sign at which no reference begins belongs to the text before the first one. -/
theorem Dissects.sign (hs : ¬ BeginsReference (s :: ss)) (h : d.Dissects ss) :
    (d.sign s).Dissects (s :: ss) where
  signs_eq := by rw [signs_sign, h.signs_eq]
  names := h.names
  first name hname hin := by
    rcases List.infix_cons_iff.1 hin with hprefix | hin
    · refine hs ⟨name, hname, hprefix.trans ?_⟩
      rw [← h.signs_eq]
      exact (List.cons_prefix_cons.2 ⟨rfl, List.prefix_append _ _⟩)
    · exact h.first name hname hin
  between := h.between

/-- A reference in front of a text is taken off as such. -/
theorem Dissects.of_reference (hname : IsVariableName name)
    (h : d.Dissects (reference name ++ ss)) :
    ∃ e : Dissection, d = e.refer name ∧ e.Dissects ss := by
  obtain ⟨first, more⟩ := d
  have hsigns := h.signs_eq
  rw [Dissection.signs] at hsigns
  rcases List.append_eq_append_iff.1 hsigns with ⟨behind, hreference, hmore⟩ | ⟨behind, hfirst, -⟩
  · cases more with
    | nil =>
      -- the reference would stand in the text before the first one
      obtain ⟨rfl, -⟩ : behind = [] ∧ ss = [] := by simpa [eq_comm] using hmore
      rw [List.append_nil] at hreference
      exact absurd (hreference ▸ List.infix_rfl) (h.first name hname)
    | cons m more =>
      obtain ⟨n, text⟩ := m
      have hn : IsVariableName n := h.names _ List.mem_cons_self
      obtain rfl : first = [] := by
        rw [List.flatMap_cons, reference] at hmore
        cases behind with
        | nil =>
          rw [List.append_nil] at hreference
          exact absurd (hreference ▸ List.infix_rfl) (h.first name hname)
        | cons s behind =>
          simp only [List.cons_append, List.cons.injEq] at hmore
          rw [← hmore.1] at hreference
          exact eq_nil_of_reference_eq hname hreference
      obtain rfl : reference name = behind := hreference
      rw [List.flatMap_cons, List.append_assoc] at hmore
      obtain ⟨rfl, hrest⟩ := reference_append_inj hn hname hmore
      have hbetween := List.forall_mem_cons.1 h.between
      exact ⟨⟨text, more⟩, rfl, hrest, (List.forall_mem_cons.1 h.names).2, hbetween.1, hbetween.2⟩
  · refine absurd ?_ (h.first name hname)
    rw [hfirst]
    exact (List.prefix_append _ _).isInfix

/-- A sign at which no reference begins is taken off as such. -/
theorem Dissects.of_sign (hs : ¬ BeginsReference (s :: ss)) (h : d.Dissects (s :: ss)) :
    ∃ e : Dissection, d = e.sign s ∧ e.Dissects ss := by
  obtain ⟨first, more⟩ := d
  have hsigns := h.signs_eq
  cases first with
  | cons t first =>
    rw [Dissection.signs, List.cons_append, List.cons.injEq] at hsigns
    obtain ⟨rfl, hrest⟩ := hsigns
    have hfree : ReferenceFree first := fun name hname hin =>
      h.first name hname (hin.trans (List.infix_cons List.infix_rfl))
    exact ⟨⟨first, more⟩, rfl, hrest, h.names, hfree, h.between⟩
  | nil =>
    cases more with
    | nil => exact nomatch hsigns
    | cons m more =>
      refine absurd ⟨m.1, h.names m List.mem_cons_self, ?_⟩ hs
      rw [← hsigns, Dissection.signs, List.nil_append, List.flatMap_cons, List.append_assoc]
      exact List.prefix_append _ _

theorem Dissects.of_nil (h : d.Dissects []) : d = ⟨[], []⟩ := by
  obtain ⟨first, more⟩ := d
  obtain ⟨rfl, hmore⟩ := List.append_eq_nil_iff.1 h.signs_eq
  cases more with
  | nil => rfl
  | cons m more => simp [reference] at hmore

end Dissection

/-- Induction over a text from one reference to the next. -/
@[elab_as_elim]
theorem referenceInduction {motive : List Sign → Prop} (nil : motive [])
    (sign : ∀ s ss, ¬ BeginsReference (s :: ss) → motive ss → motive (s :: ss))
    (reference : ∀ name ss, IsVariableName name → motive ss → motive (reference name ++ ss))
    (ss : List Sign) : motive ss := by
  -- a reference is skipped as a whole, so the induction is on the length
  induction hn : ss.length using Nat.strongRecOn generalizing ss with
  | ind n ih =>
    by_cases hbegins : BeginsReference ss
    · obtain ⟨name, hname, rest, rfl⟩ := hbegins
      refine reference name rest hname (ih rest.length ?_ rest rfl)
      rw [← hn, List.length_append, Environment.reference, List.length_cons]
      omega
    · cases ss with
      | nil => exact nil
      | cons s ss => exact sign s ss hbegins (ih ss.length (by simp [← hn]) ss rfl)

/-- A text can be taken apart in one way only. -/
theorem existsUnique_dissects (ss : List Sign) : ∃! d : Dissection, d.Dissects ss := by
  induction ss using referenceInduction with
  | nil => exact ⟨_, Dissection.dissects_nil, fun d hd => hd.of_nil⟩
  | sign s ss hs ih =>
    obtain ⟨d, hd, hunique⟩ := ih
    refine ⟨d.sign s, hd.sign hs, fun e he => ?_⟩
    obtain ⟨f, rfl, hf⟩ := he.of_sign hs
    rw [hunique f hf]
  | reference name ss hname ih =>
    obtain ⟨d, hd, hunique⟩ := ih
    refine ⟨d.refer name, hd.refer hname, fun e he => ?_⟩
    obtain ⟨f, rfl, hf⟩ := he.of_reference hname
    rw [hunique f hf]

/-! ### Texts filled -/

/-- The reader of references finds those that are written, and no others. -/
theorem reference?_eq_some_iff {cs name rest : List Char} :
    reference? cs = some (name, rest) ↔ IsVariableName name ∧ cs = written name ++ rest := by
  constructor
  · intro h
    unfold reference? at h
    split at h
    · rename_i r
      dsimp only at h
      split at h
      · rename_i tail hbrace
        split at h
        · rename_i hname
          cases h
          refine ⟨isName_iff.1 hname, ?_⟩
          rw [written, List.cons_append, List.cons_append, List.append_assoc, List.singleton_append,
            ← hbrace, List.takeWhile_append_dropWhile]
        · cases h
      · cases h
    · cases h
  · rintro ⟨hname, rfl⟩
    have hbrace : isNameChar '\x7d' = false := by decide
    have htake : (name ++ '\x7d' :: rest).takeWhile isNameChar = name := by
      rw [List.takeWhile_append_of_pos hname.isNameChar, List.takeWhile_cons, hbrace]
      simp
    have hdrop : (name ++ '\x7d' :: rest).dropWhile isNameChar = '\x7d' :: rest := by
      rw [List.dropWhile_append_of_pos hname.isNameChar, List.dropWhile_cons, hbrace]
      simp
    have hwritten : written name ++ rest = '$' :: '\x7b' :: (name ++ '\x7d' :: rest) := by
      simp [written]
    rw [hwritten]
    simp only [reference?, htake, hdrop, isName_iff.2 hname, if_true]

/-- The characters before the first half of a surrogate pair are those that a text begins with. -/
theorem runs_fst_prefix (ss : List Sign) : (Text.runs ss).1.map Sign.char <+: ss := by
  induction ss with
  | nil => exact List.prefix_rfl
  | cons s ss ih =>
    cases s with
    | char c => exact List.cons_prefix_cons.2 ⟨rfl, ih⟩
    | half h => exact List.nil_prefix

theorem runs_append (cs : List Char) (ss : List Sign) :
    Text.runs (cs.map .char ++ ss) = (cs ++ (Text.runs ss).1, (Text.runs ss).2) := by
  induction cs with
  | nil => rfl
  | cons c cs ih => rw [List.map_cons, List.cons_append, Text.runs, ih]; rfl

theorem expandSigns_nil (env : Environment) : env.expandSigns [] = [] := by
  simp [expandSigns, Text.runs]

theorem expandSigns_reference (env : Environment) {name : List Char} (h : IsVariableName name)
    (ss : List Sign) :
    env.expandSigns (reference name ++ ss) = env.replacement name ++ env.expandSigns ss := by
  have hread : reference? (written name ++ (Text.runs ss).1) = some (name, (Text.runs ss).1) :=
    reference?_eq_some_iff.2 ⟨h, rfl⟩
  rw [← map_written, ← map_meaning]
  simp only [expandSigns, runs_append]
  rw [expandChars_of_reference env hread, List.map_append, List.append_assoc]

theorem expandSigns_sign (env : Environment) {s : Sign} {ss : List Sign}
    (h : ¬ BeginsReference (s :: ss)) : env.expandSigns (s :: ss) = s :: env.expandSigns ss := by
  cases s with
  | half half => simp [expandSigns, Text.runs]
  | char c =>
    have hnone : reference? (c :: (Text.runs ss).1) = none := by
      refine Option.eq_none_iff_forall_ne_some.2 ?_
      rintro ⟨name, rest⟩ hread
      obtain ⟨hname, hwritten⟩ := reference?_eq_some_iff.1 hread
      refine h ⟨name, hname, ?_⟩
      have hrun : (c :: (Text.runs ss).1).map Sign.char <+: .char c :: ss :=
        runs_fst_prefix (.char c :: ss)
      rw [hwritten, List.map_append, map_written] at hrun
      exact (List.prefix_append _ _).trans hrun
    simp only [expandSigns, Text.runs, expandChars_cons env hnone, List.map_cons, List.cons_append]

/-- Replacing the references of a text fills it, however it is taken apart. -/
theorem expandSigns_of_dissects (env : Environment) {d : Dissection} {ss : List Sign}
    (h : d.Dissects ss) : env.expandSigns ss = d.filled env := by
  induction ss using referenceInduction generalizing d with
  | nil => rw [h.of_nil, expandSigns_nil]; rfl
  | sign s ss hs ih =>
    obtain ⟨e, rfl, he⟩ := h.of_sign hs
    rw [expandSigns_sign env hs, ih he, Dissection.filled_sign]
  | reference name ss hname ih =>
    obtain ⟨e, rfl, he⟩ := h.of_reference hname
    rw [expandSigns_reference env hname, ih he, Dissection.filled_refer]

/-! ### Values filled -/

/-- The signs of a text that can be written. -/
def signsOf (s : String) : List Sign :=
  s.toList.map .char

/-- Whether a value is neither a text nor a list or mapping, and so stays as it is. -/
def IsKept : Value → Prop
  | .text _ | .halved _ | .list _ | .map _ | .enclosing _ => False
  | _ => True

/-- A value with its texts filled: lists keep their lengths, mappings their keys and the order of
them, and everything else stays as it is. -/
inductive Substituted (env : Environment) : Value → Value → Prop
  | text {s t : String} {d : Dissection} : d.Dissects (signsOf s) → signsOf t = d.filled env →
      Substituted env (.text s) (.text t)
  | halved {ss : List Sign} {d : Dissection} : d.Dissects ss →
      Substituted env (.halved ss) (.halved (d.filled env))
  | list {vs ws : List Value} : ws.length = vs.length →
      (∀ (i : Nat) (v w : Value), vs[i]? = some v → ws[i]? = some w → Substituted env v w) →
      Substituted env (.list vs) (.list ws)
  | map {es fs : List (Value × Value)} : fs.map (·.1) = es.map (·.1) →
      (∀ (i : Nat) (e f : Value × Value), es[i]? = some e → fs[i]? = some f →
        Substituted env e.2 f.2) →
      Substituted env (.map es) (.map fs)
  | kept {v : Value} : IsKept v → Substituted env v v

variable {env : Environment} {v w : Value}

theorem substituteItems_eq_map (vs : List Value) :
    env.substituteItems vs = vs.map env.substitute := by
  induction vs with
  | nil => rw [substituteItems, List.map_nil]
  | cons v vs ih => rw [substituteItems, ih, List.map_cons]

theorem substituteEntries_eq_map (es : List (Value × Value)) :
    env.substituteEntries es = es.map fun e => (e.1, env.substitute e.2) := by
  induction es with
  | nil => rw [substituteEntries, List.map_nil]
  | cons e es ih => rw [substituteEntries, ih, List.map_cons]

theorem areItemsTooDeep_eq_false {depth : Nat} {vs : List Value} :
    areItemsTooDeep depth vs = false ↔ ∀ v ∈ vs, isTooDeep depth v = false := by
  induction vs with
  | nil => simp [areItemsTooDeep]
  | cons v vs ih => rw [areItemsTooDeep, Bool.or_eq_false_iff, ih, List.forall_mem_cons]

theorem areEntriesTooDeep_eq_false {depth : Nat} {es : List (Value × Value)} :
    areEntriesTooDeep depth es = false ↔ ∀ e ∈ es, isTooDeep depth e.2 = false := by
  induction es with
  | nil => simp [areEntriesTooDeep]
  | cons e es ih => rw [areEntriesTooDeep, Bool.or_eq_false_iff, ih, List.forall_mem_cons]

theorem isTooDeep_list {depth : Nat} {vs : List Value} :
    isTooDeep depth (.list vs) = false ↔
      0 < depth ∧ ∀ v ∈ vs, isTooDeep (depth - 1) v = false := by
  rw [isTooDeep, Bool.or_eq_false_iff, beq_eq_false_iff_ne, areItemsTooDeep_eq_false,
    Nat.pos_iff_ne_zero]

theorem isTooDeep_map {depth : Nat} {es : List (Value × Value)} :
    isTooDeep depth (.map es) = false ↔
      0 < depth ∧ ∀ e ∈ es, isTooDeep (depth - 1) e.2 = false := by
  rw [isTooDeep, Bool.or_eq_false_iff, beq_eq_false_iff_ne, areEntriesTooDeep_eq_false,
    Nat.pos_iff_ne_zero]

theorem isTooDeep_of_isKept (h : IsKept v) (depth : Nat) : isTooDeep depth v = false := by
  cases v with
  | text _ | halved _ | list _ | map _ | enclosing _ => exact h.elim
  | _ => rfl

theorem substitute?_eq_some_iff {depth : Nat} :
    env.substitute? depth v = some w ↔ isTooDeep depth v = false ∧ env.substitute v = w := by
  rw [substitute?]
  cases isTooDeep depth v with
  | true => exact ⟨nofun, fun h => nomatch h.1⟩
  | false => exact ⟨fun h => ⟨rfl, Option.some.inj h⟩, fun h => congrArg some h.2⟩

theorem substitute?_eq_none_iff {depth : Nat} :
    env.substitute? depth v = none ↔ isTooDeep depth v = true := by
  rw [substitute?]
  cases isTooDeep depth v with
  | true => exact ⟨fun _ => rfl, fun _ => rfl⟩
  | false => exact ⟨nofun, nofun⟩

theorem substitute_of_isKept (h : IsKept v) : env.substitute v = v := by
  cases v with
  | text _ | halved _ | list _ | map _ | enclosing _ => exact h.elim
  | _ => rfl

/-- A text that is filled is the one with its references replaced. -/
theorem signsOf_eq_filled_iff {s t : String} {d : Dissection} (h : d.Dissects (signsOf s)) :
    signsOf t = d.filled env ↔ env.expand s = t := by
  rw [← expandSigns_of_dissects env h, signsOf, signsOf, expandSigns_char,
    List.map_inj_right fun _ _ => Sign.char.inj, expand, ← String.toList_inj, String.toList_ofList,
    eq_comm]

section Places

variable {α β : Type} {as : List α} {bs : List β}

/-- What stands in a list has a counterpart in every list of the same length. -/
theorem exists_getElem?_of_mem (hlength : bs.length = as.length) {a : α} (ha : a ∈ as) :
    ∃ (i : Nat) (b : β), as[i]? = some a ∧ bs[i]? = some b := by
  obtain ⟨i, hi⟩ := List.mem_iff_getElem?.1 ha
  have hlt := (List.getElem?_eq_some_iff.1 hi).1
  exact ⟨i, _, hi, List.getElem?_eq_getElem (hlength ▸ hlt)⟩

/-- A list that agrees with the images of another one place by place is made of them. -/
theorem eq_map_of_getElem? (hlength : bs.length = as.length) {f : α → β}
    (h : ∀ (i : Nat) (a : α) (b : β), as[i]? = some a → bs[i]? = some b → f a = b) :
    as.map f = bs := by
  refine List.ext_getElem (by rw [List.length_map, hlength]) fun i hi hi' => ?_
  rw [List.getElem_map]
  rw [List.length_map] at hi
  exact h i _ _ (List.getElem?_eq_getElem hi) (List.getElem?_eq_getElem hi')

end Places

/-- A value that is filled is the one with its references replaced. -/
theorem Substituted.substitute_eq (h : Substituted env v w) : env.substitute v = w := by
  induction h with
  | text hd ht => exact congrArg Value.text ((signsOf_eq_filled_iff hd).1 ht)
  | halved hd => exact congrArg Value.halved (expandSigns_of_dissects env hd)
  | list hlength _ ih =>
    rw [substitute, substituteItems_eq_map]
    exact congrArg Value.list (eq_map_of_getElem? hlength ih)
  | map hkeys _ ih =>
    have hlength := congrArg List.length hkeys
    rw [List.length_map, List.length_map] at hlength
    rw [substitute, substituteEntries_eq_map]
    refine congrArg Value.map (eq_map_of_getElem? hlength fun i e f he hf => ?_)
    refine Prod.ext ?_ (ih i e f he hf)
    have hkey := congrArg (·[i]?) hkeys
    simp only [List.getElem?_map, he, hf, Option.map_some, Option.some.injEq] at hkey
    exact hkey.symm
  | kept hkept => exact substitute_of_isKept hkept

/-- Replacing the references of a value that is not too deep fills it. -/
theorem substituted_substitute (env : Environment) :
    ∀ (depth : Nat) (v : Value), isTooDeep depth v = false → Substituted env v (env.substitute v)
  | _, .text s, _ => by
    obtain ⟨d, hd, -⟩ := existsUnique_dissects (signsOf s)
    exact .text hd ((signsOf_eq_filled_iff hd).2 rfl)
  | _, .halved ss, _ => by
    obtain ⟨d, hd, -⟩ := existsUnique_dissects ss
    rw [substitute, expandSigns_of_dissects env hd]
    exact .halved hd
  | depth, .list vs, h => by
    rw [isTooDeep_list] at h
    rw [substitute, substituteItems_eq_map]
    refine .list (List.length_map _) fun i v w hv hw => ?_
    have hmem := List.mem_of_getElem? hv
    rw [List.getElem?_map, hv] at hw
    obtain rfl : env.substitute v = w := Option.some.inj hw
    exact substituted_substitute env (depth - 1) v (h.2 v hmem)
  | depth, .map es, h => by
    rw [isTooDeep_map] at h
    rw [substitute, substituteEntries_eq_map]
    refine .map (by rw [List.map_map]; rfl) fun i e f he hf => ?_
    have hmem := List.mem_of_getElem? he
    rw [List.getElem?_map, he] at hf
    obtain rfl : (e.1, env.substitute e.2) = f := Option.some.inj hf
    exact substituted_substitute env (depth - 1) e.2 (h.2 e hmem)
  | _, .enclosing _, h => nomatch h
  | _, .null, _ | _, .bool _, _ | _, .int _, _ | _, .float _, _ | _, .octets _, _ | _, .date _, _
  | _, .dateTime _, _ | _, .tuple _, _ | _, .set _, _ | _, .textValue _, _ | _, .compiled _, _ =>
    .kept trivial
termination_by _ v => sizeOf v
decreasing_by
  · have hsize := List.sizeOf_lt_of_mem hmem
    rw [Value.list.sizeOf_spec]
    omega
  · have hsize := List.sizeOf_lt_of_mem hmem
    have hparts : sizeOf e = 1 + sizeOf e.1 + sizeOf e.2 := rfl
    rw [Value.map.sizeOf_spec]
    omega

/-! ### Depths -/

/-- What is not too deep for a depth is not too deep for a greater one. -/
theorem isTooDeep_mono : ∀ {depth more : Nat} (v : Value), depth ≤ more →
    isTooDeep depth v = false → isTooDeep more v = false
  | depth, more, .list vs, hle, h => by
    rw [isTooDeep_list] at h ⊢
    exact ⟨Nat.lt_of_lt_of_le h.1 hle, fun v hv =>
      isTooDeep_mono v (Nat.sub_le_sub_right hle 1) (h.2 v hv)⟩
  | depth, more, .map es, hle, h => by
    rw [isTooDeep_map] at h ⊢
    exact ⟨Nat.lt_of_lt_of_le h.1 hle, fun e he =>
      isTooDeep_mono e.2 (Nat.sub_le_sub_right hle 1) (h.2 e he)⟩
  | _, _, .enclosing _, _, h => nomatch h
  | _, _, .text _, _, _ | _, _, .halved _, _, _ | _, _, .null, _, _ | _, _, .bool _, _, _
  | _, _, .int _, _, _ | _, _, .float _, _, _ | _, _, .octets _, _, _ | _, _, .date _, _, _
  | _, _, .dateTime _, _, _ | _, _, .tuple _, _, _ | _, _, .set _, _, _
  | _, _, .textValue _, _, _ | _, _, .compiled _, _, _ => rfl
termination_by _ _ v => sizeOf v
decreasing_by
  · have hsize := List.sizeOf_lt_of_mem hv
    rw [Value.list.sizeOf_spec]
    omega
  · have hsize := List.sizeOf_lt_of_mem he
    have hparts : sizeOf e = 1 + sizeOf e.1 + sizeOf e.2 := rfl
    rw [Value.map.sizeOf_spec]
    omega

/-- Some depth is enough for several values, if one is for each of them. -/
theorem exists_common_depth {α : Type} {f : α → Value} {as : List α}
    (h : ∀ a ∈ as, ∃ depth, isTooDeep depth (f a) = false) :
    ∃ depth, ∀ a ∈ as, isTooDeep depth (f a) = false := by
  induction as with
  | nil => exact ⟨0, List.forall_mem_nil _⟩
  | cons a as ih =>
    obtain ⟨⟨first, hfirst⟩, hrest⟩ := List.forall_mem_cons.1 h
    obtain ⟨rest, hall⟩ := ih hrest
    refine ⟨max first rest, List.forall_mem_cons.2 ⟨?_, fun b hb => ?_⟩⟩
    · exact isTooDeep_mono _ (Nat.le_max_left _ _) hfirst
    · exact isTooDeep_mono _ (Nat.le_max_right _ _) (hall b hb)

/-- For a value that can be filled some depth is enough. -/
theorem Substituted.exists_depth (h : Substituted env v w) :
    ∃ depth, isTooDeep depth v = false := by
  induction h with
  | text _ _ => exact ⟨0, rfl⟩
  | halved _ => exact ⟨0, rfl⟩
  | list hlength _ ih =>
    obtain ⟨depth, hdepth⟩ := exists_common_depth (f := id) fun v hv => by
      obtain ⟨i, w, hi, hw⟩ := exists_getElem?_of_mem hlength hv
      exact ih i v w hi hw
    exact ⟨depth + 1, isTooDeep_list.2 ⟨Nat.succ_pos _, hdepth⟩⟩
  | map hkeys _ ih =>
    have hlength := congrArg List.length hkeys
    rw [List.length_map, List.length_map] at hlength
    obtain ⟨depth, hdepth⟩ := exists_common_depth (f := Prod.snd) fun e he => by
      obtain ⟨i, f, hi, hf⟩ := exists_getElem?_of_mem hlength he
      exact ih i e f hi hf
    exact ⟨depth + 1, isTooDeep_map.2 ⟨Nat.succ_pos _, hdepth⟩⟩
  | kept hkept => exact ⟨0, isTooDeep_of_isKept hkept 0⟩

/-- A text can be taken apart in one way only, into references and texts between them.  Replacing
the references of a value goes through unless it is too deep, and comes to the value of the same
shape in which every text is put together again with its references replaced.  Only a value that
contains itself is too deep for every depth. -/
theorem substituted_iff (env : Environment) :
    (∀ ss : List Sign, ∃! d : Dissection, d.Dissects ss) ∧
      (∀ (depth : Nat) (v w : Value), env.substitute? depth v = some w ↔
        isTooDeep depth v = false ∧ Substituted env v w) ∧
      ∀ v : Value, (∃ w, Substituted env v w) ↔ ∃ depth, isTooDeep depth v = false := by
  refine ⟨existsUnique_dissects, fun depth v w => ?_, fun v => ⟨?_, ?_⟩⟩
  · rw [substitute?_eq_some_iff]
    refine and_congr_right fun hdepth => ⟨?_, Substituted.substitute_eq⟩
    rintro rfl
    exact substituted_substitute env depth v hdepth
  · rintro ⟨w, h⟩
    exact h.exists_depth
  · rintro ⟨depth, h⟩
    exact ⟨_, substituted_substitute env depth v h⟩

/-- A list that contains itself has no value in which its references are replaced, and neither has a
list within more lists than recursion can go through. -/
theorem not_substituted_of_nested :
    (∀ depth, Environment.empty.substitute? depth (.list [.enclosing .list]) = none) ∧
      Environment.empty.substitute? 2 (.list [.list [.list []]]) = none := by
  refine ⟨fun depth => substitute?_eq_none_iff.2 ?_, rfl⟩
  rw [isTooDeep, areItemsTooDeep, isTooDeep, Bool.true_or, Bool.or_true]

example : expand ⟨[("A", "B\x7d"), ("B", "read again"), ("E", "")]⟩
    "$\x7b$\x7bA\x7d$$\x7bE\x7d$\x7b1\x7d" = "$\x7bB\x7d$$\x7b1\x7d" := by
  cbv

end Environment

end ElementLookup
