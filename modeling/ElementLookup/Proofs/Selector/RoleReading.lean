/-
**Reading a role selector.**

The engine reads a role selector from left to right: the role runs up to the first bracket, and then
come clauses, each with a key, a value and a closing bracket.  A value that starts with a quote is a
quoted text, perhaps marked for any case of letters; any other value runs up to the next bracket.
Brackets, quotes and whole clauses may occur within an accessible name.  Here the engine's reader is
put beside the written clauses: as long as the role has no bracket and the name no backslash, it
finds the role and one clause for each option, and nothing else.

Main definitions:

* `Role.ClauseValue`, `Role.Clause` — a clause as the engine understands it, and how it is written;
* `Role.readValue`, `Role.readClause`, `Role.readClauses`, `Role.read?` — the engine's reader;
* `Role.Property.Suits` — the values that a property may be given;
* `Role.meaning?`, `Role.saidBy`, `Role.said` — what a value says, and what values and options say,
  property by property.

Main results:

* `Role.readClauses_write` — written clauses are read back;
* `Role.render_of_suits` — values that suit their properties are written as what they say;
* `Role.length_said` — the options say as much as there are of them;
* `Role.exists_read_selector` — a role and options are read back from what is written for them.
-/

import ElementLookup.Proofs.Number.Decimal
import ElementLookup.Proofs.Selector.Quoting
import ElementLookup.Query

set_option autoImplicit false

namespace ElementLookup.Role

/-! ### The engine's reader -/

/-- The value of a clause: a word, or a quoted text that may be marked for any case of letters. -/
inductive ClauseValue where
  | word (text : List Char)
  | quoted (text : List Char) (anyCase : Bool)
  deriving DecidableEq, Repr

/-- A clause as the engine understands it. -/
structure Clause where
  key : List Char
  value : ClauseValue
  deriving DecidableEq, Repr

/-- The characters up to the first `stop`, and those after it. -/
def readUntil (stop : Char) : List Char → Option (List Char × List Char)
  | [] => none
  | c :: rest =>
    if c = stop then some ([], rest)
    else (readUntil stop rest).map fun found => (c :: found.1, found.2)

/-- Reads a value and the bracket that closes its clause. -/
def readValue : List Char → Option (ClauseValue × List Char)
  | '"' :: rest =>
    match Selector.readQuoted rest with
    | some (text, 'i' :: ']' :: rest) => some (.quoted text true, rest)
    | some (text, ']' :: rest) => some (.quoted text false, rest)
    | _ => none
  | rest => (readUntil ']' rest).map fun found => (.word found.1, found.2)

/-- Reads one clause. -/
def readClause : List Char → Option (Clause × List Char)
  | '[' :: rest =>
    match readUntil '=' rest with
    | some (key, rest) => (readValue rest).map fun found => (⟨key, found.1⟩, found.2)
    | none => none
  | _ => none

theorem length_readUntil {stop : Char} {cs text rest : List Char}
    (h : readUntil stop cs = some (text, rest)) : rest.length < cs.length := by
  induction cs generalizing text with
  | nil => cases h
  | cons c r ih =>
      rw [readUntil] at h
      split at h
      · cases h
        simp
      · obtain ⟨found, hread⟩ := Selector.exists_read_of_map h fun _ => rfl
        have hlt := ih hread
        simp only [List.length_cons]
        omega

theorem length_readValue {cs rest : List Char} {value : ClauseValue}
    (h : readValue cs = some (value, rest)) : rest.length < cs.length := by
  unfold readValue at h
  split at h
  · split at h
    · rename_i hq
      have hlt := Selector.length_readQuoted hq
      cases h
      simp only [List.length_cons] at hlt ⊢
      omega
    · rename_i hq
      have hlt := Selector.length_readQuoted hq
      cases h
      simp only [List.length_cons] at hlt ⊢
      omega
    · cases h
  · obtain ⟨found, hread⟩ := Selector.exists_read_of_map h fun _ => rfl
    exact length_readUntil hread

/-- A clause uses up some characters. -/
theorem length_readClause {cs rest : List Char} {c : Clause}
    (h : readClause cs = some (c, rest)) : rest.length < cs.length := by
  unfold readClause at h
  split at h
  · split at h
    · rename_i hkey
      obtain ⟨found, hread⟩ := Selector.exists_read_of_map h fun _ => rfl
      have hkeyLt := length_readUntil hkey
      have hvalueLt := length_readValue hread
      simp only [List.length_cons]
      omega
    · cases h
  · cases h

/-- Reads clauses until nothing is left. -/
def readClauses (cs : List Char) : Option (List Clause) :=
  if cs = [] then some []
  else
    match _h : readClause cs with
    | some (c, rest) => (readClauses rest).map (c :: ·)
    | none => none
termination_by cs.length
decreasing_by exact length_readClause _h

/-- Reads a whole role selector: the role up to the first bracket, and then clauses only. -/
def read? : List Char → Option (List Char × List Clause)
  | 'r' :: 'o' :: 'l' :: 'e' :: '=' :: body =>
    (readClauses (body.dropWhile (· ≠ '['))).map fun clauses =>
      (body.takeWhile (· ≠ '['), clauses)
  | _ => none

theorem read?_role (body : List Char) :
    read? ("role=".toList ++ body) =
      (readClauses (body.dropWhile (· ≠ '['))).map fun clauses =>
        (body.takeWhile (· ≠ '['), clauses) := rfl

@[simp] theorem readClauses_nil : readClauses [] = some [] := by simp [readClauses]

theorem readClauses_of_readClause {cs rest : List Char} {c : Clause}
    (h : readClause cs = some (c, rest)) :
    readClauses cs = (readClauses rest).map (c :: ·) := by
  have hne : cs ≠ [] := by
    rintro rfl
    cases h
  rw [readClauses, if_neg hne]
  split
  · rename_i h'
    cases h.symm.trans h'
    rfl
  · rename_i h'
    cases h.symm.trans h'

/-! ### Written clauses -/

/-- A value as it is written. -/
def ClauseValue.write : ClauseValue → List Char
  | .word text => text
  | .quoted text anyCase => '"' :: (Selector.quoteChars text ++ if anyCase then ['"', 'i'] else ['"'])

/-- A clause as it is written. -/
def Clause.write (c : Clause) : List Char :=
  '[' :: (c.key ++ '=' :: (c.value.write ++ [']']))

/-- The values that are read back: words that neither start with a quote nor hold a bracket, and
quoted texts without a backslash. -/
def ClauseValue.Readable : ClauseValue → Prop
  | .word text => text.head? ≠ some '"' ∧ ']' ∉ text
  | .quoted text _ => '\\' ∉ text

theorem readUntil_append {stop : Char} {text : List Char} (h : stop ∉ text) (rest : List Char) :
    readUntil stop (text ++ stop :: rest) = some (text, rest) := by
  induction text with
  | nil => simp [readUntil]
  | cons c r ih =>
      rw [List.mem_cons, not_or] at h
      simp [readUntil, Ne.symm h.1, ih h.2]

theorem readValue_write {value : ClauseValue} (h : value.Readable) (rest : List Char) :
    readValue (value.write ++ ']' :: rest) = some (value, rest) := by
  cases value with
  | word text =>
      have hread := readUntil_append h.2 rest
      cases text with
      | nil => simp [ClauseValue.write, readValue, readUntil]
      | cons c r =>
          rw [ClauseValue.write, List.cons_append, readValue]
          · rw [← List.cons_append, hread]
            rfl
          · intro tail htail
            exact h.1 (by rw [(List.cons.inj htail).1]; rfl)
  | quoted text anyCase =>
      have hread : ∀ tail, Selector.readQuoted (Selector.quoteChars text ++ '"' :: tail) =
          some (text, tail) := Selector.readQuoted_quoteChars h
      cases anyCase <;> simp [ClauseValue.write, readValue, hread]

theorem readClause_write {c : Clause} (hkey : '=' ∉ c.key) (hvalue : c.value.Readable)
    (rest : List Char) : readClause (c.write ++ rest) = some (c, rest) := by
  have hread := readUntil_append hkey (c.value.write ++ ']' :: rest)
  simp [Clause.write, readClause, hread, readValue_write hvalue]

/-- Written clauses are read back. -/
theorem readClauses_write {cs : List Clause}
    (h : ∀ c ∈ cs, '=' ∉ c.key ∧ c.value.Readable) :
    readClauses (cs.flatMap Clause.write) = some cs := by
  induction cs with
  | nil => simp
  | cons c r ih =>
      rw [List.forall_mem_cons] at h
      rw [List.flatMap_cons, readClauses_of_readClause (readClause_write h.1.1 h.1.2 _), ih h.2]
      rfl

/-- A role without a bracket ends where the first clause starts. -/
theorem takeWhile_role {role rest : List Char} (hrole : '[' ∉ role)
    (hrest : ∀ c, rest.head? = some c → c = '[') :
    (role ++ rest).takeWhile (· ≠ '[') = role ∧ (role ++ rest).dropWhile (· ≠ '[') = rest := by
  have hpos : ∀ c ∈ role, decide (c ≠ '[') = true := by
    intro c hc
    rw [decide_eq_true_eq]
    rintro rfl
    exact hrole hc
  rw [List.takeWhile_append_of_pos hpos, List.dropWhile_append_of_pos hpos]
  cases rest with
  | nil => simp
  | cons c r =>
      obtain rfl := hrest c rfl
      simp

/-- Pieces that start with a bracket, if with anything, do so together. -/
theorem head?_flatMap {α : Type} {f : α → List Char}
    (h : ∀ a c, (f a).head? = some c → c = '[') (l : List α) :
    ∀ c, (l.flatMap f).head? = some c → c = '[' := by
  intro c hc
  induction l with
  | nil => cases hc
  | cons a r ih =>
      rw [List.flatMap_cons, List.head?_append] at hc
      cases ha : (f a).head? with
      | none =>
          rw [ha] at hc
          exact ih hc
      | some d =>
          rw [ha] at hc
          exact h a c (ha.trans hc)

theorem head?_writeClauses (cs : List Clause) :
    ∀ c, (cs.flatMap Clause.write).head? = some c → c = '[' := by
  refine head?_flatMap (fun a c hc => ?_) cs
  exact (Option.some.inj hc).symm

/-- A role without a bracket is read up to the first clause. -/
theorem read?_write {role : List Char} (hrole : '[' ∉ role) {cs : List Clause}
    (h : ∀ c ∈ cs, '=' ∉ c.key ∧ c.value.Readable) :
    read? ("role=".toList ++ (role ++ cs.flatMap Clause.write)) = some (role, cs) := by
  obtain ⟨htake, hdrop⟩ := takeWhile_role hrole (head?_writeClauses cs)
  rw [read?_role, htake, hdrop, readClauses_write h]
  rfl

/-! ### What options say -/

/-- Whether a value suits a property: a level is a whole number from one on, a name is a literal
text without a backslash, and everything else is a truth value. -/
def Property.Suits (p : Property) (v : Value) : Prop :=
  match p with
  | .level => ∃ n : Int, 1 ≤ n ∧ v = .int n
  | .name => ∃ s : String, '\\' ∉ s.toList ∧ (v = .text s ∨ v = .textValue (.literal s))
  | _ => ∃ b : Bool, v = .bool b

/-- What a value says in a clause: a truth value is a word, a number its decimal, and a literal text
is quoted and marked. -/
def meaning? : Value → Option ClauseValue
  | .bool true => some (.word "true".toList)
  | .bool false => some (.word "false".toList)
  | .int n => some (.word (toString n).toList)
  | .text s | .textValue (.literal s) => some (.quoted s.toList true)
  | _ => none

/-- What options say, in the order of the properties. -/
def said (options : Options) : List Clause :=
  Property.all.filterMap fun p =>
    ((option? options p.key).bind meaning?).map fun value => ⟨p.clauseKey.toList, value⟩

theorem readable_bool (b : Bool) :
    meaning? (.bool b) = some (.word (stateText (.bool b)).toList) ∧
      (ClauseValue.word (stateText (.bool b)).toList).Readable := by
  cases b
  · exact ⟨rfl, by decide, by decide⟩
  · exact ⟨rfl, by decide, by decide⟩

theorem readable_int (n : Int) : (ClauseValue.word (toString n).toList).Readable :=
  ⟨fun h => Number.notMem_toString (by decide) (by decide) n (List.mem_of_head? h),
    Number.notMem_toString (by decide) (by decide) n⟩

theorem nameText_literal (s : String) :
    Selector.attributeText s false = String.ofList (ClauseValue.quoted s.toList true).write := by
  rw [← String.toList_inj]
  simp [Selector.attributeText, Selector.toList_quote, ClauseValue.write]

/-- A value that suits a property says something that is read back, and its clause says it. -/
theorem clauseText_of_suits {p : Property} {v : Value} (h : p.Suits v) :
    ∃ value, meaning? v = some value ∧ value.Readable ∧
      clauseText p v = .ok (String.ofList value.write) := by
  cases p
  case level =>
    obtain ⟨n, -, rfl⟩ := h
    refine ⟨_, rfl, readable_int n, ?_⟩
    rw [ClauseValue.write, String.ofList_toList]
    rfl
  case name =>
    obtain ⟨s, hs, rfl | rfl⟩ := h
    · exact ⟨_, rfl, hs, by rw [← nameText_literal]; rfl⟩
    · exact ⟨_, rfl, hs, by rw [← nameText_literal]; rfl⟩
  all_goals
    obtain ⟨b, rfl⟩ := h
    refine ⟨_, (readable_bool b).1, (readable_bool b).2, ?_⟩
    rw [ClauseValue.write, String.ofList_toList]
    rfl

theorem toList_clause (p : Property) (value : ClauseValue) :
    (clause p (String.ofList value.write)).toList = Clause.write ⟨p.clauseKey.toList, value⟩ := by
  simp [clause, Clause.write]

theorem flatMap_filterMap {α β γ : Type} (f : α → Option β) (g : β → List γ) (l : List α) :
    (l.filterMap f).flatMap g = l.flatMap fun a => (f a).elim [] g := by
  induction l with
  | nil => rfl
  | cons a r ih =>
      rw [List.filterMap_cons, List.flatMap_cons, ← ih]
      cases f a <;> rfl

/-- A selector is written clause by clause. -/
theorem toList_render (role : String) (texts : List (Property × String)) :
    (render role texts).toList =
      "role=".toList ++ (role.toList ++ texts.flatMap fun c => (clause c.1 c.2).toList) := by
  simp only [render, String.toList_append, String.toList_join, List.append_assoc, List.flatMap_map]

/-- Without the second spelling for hidden elements, each property is given by its own key. -/
theorem given_eq_option? {options : Options} (h : ∀ o ∈ options, o.1 ≠ hiddenAlias)
    (p : Property) : given options p = option? options p.key := by
  have halias : option? options hiddenAlias = none := by
    rw [option?, List.find?_eq_none.2 fun o ho => by simpa using h o ho]
    rfl
  cases p <;> simp [given, halias]

theorem mem_of_option? {options : Options} {key : String} {v : Value}
    (h : option? options key = some v) : (key, v) ∈ options := by
  obtain ⟨o, ho, rfl⟩ := Option.map_eq_some_iff.1 h
  have hkey : o.1 = key := by simpa using List.find?_some ho
  rw [← hkey]
  exact List.mem_of_find?_eq_some ho

theorem isSome_option? {options : Options} {key : String} :
    (option? options key).isSome = true ↔ key ∈ options.map (·.1) := by
  simp only [option?, Option.isSome_map, List.find?_isSome, decide_eq_true_eq, List.mem_map]

/-- What values say, in the order of the properties. -/
def saidBy (values : Property → Option Value) : List Clause :=
  Property.all.filterMap fun p =>
    ((values p).bind meaning?).map fun value => ⟨p.clauseKey.toList, value⟩

section Valued

variable {values : Property → Option Value} (hvalues : ∀ p v, values p = some v → p.Suits v)

include hvalues

/-- The clauses of values that suit their properties are those that they say. -/
theorem clauses_of_suits :
    clauses values = .ok (Property.all.filterMap fun p =>
      ((values p).bind meaning?).map fun value => (p, String.ofList value.write)) := by
  rw [clauses, ← filterMapM_ok]
  congr 1
  funext p
  cases h : values p with
  | none => rfl
  | some v =>
      obtain ⟨value, hvalue, -, htext⟩ := clauseText_of_suits (hvalues p v h)
      simp [htext, hvalue, bind, Except.bind, pure, Except.pure]

/-- The selector of suited values is written clause by clause as they say. -/
theorem render_of_suits (role : String) :
    ∃ s, render role <$> clauses values = .ok s ∧
      s.toList = "role=".toList ++ (role.toList ++ (saidBy values).flatMap Clause.write) := by
  refine ⟨_, by rw [clauses_of_suits hvalues]; rfl, ?_⟩
  rw [toList_render, flatMap_filterMap, saidBy, flatMap_filterMap]
  congr 3
  funext p
  cases (values p).bind meaning? with
  | none => rfl
  | some value => exact toList_clause p value

end Valued

section Suited

variable {options : Options} (hsuits : ∀ o ∈ options, ∃ p : Property, o.1 = p.key ∧ p.Suits o.2)

include hsuits

theorem suits_of_option? {p : Property} {v : Value} (h : option? options p.key = some v) :
    p.Suits v := by
  obtain ⟨q, hq, hv⟩ := hsuits _ (mem_of_option? h)
  rwa [Property.key_inj hq]

/-- What suited options say is read back. -/
theorem readable_said : ∀ c ∈ said options, '=' ∉ c.key ∧ c.value.Readable := by
  have hkey : ∀ p : Property, '=' ∉ p.clauseKey.toList := by
    intro p
    cases p <;> decide
  intro c hc
  obtain ⟨p, -, hp⟩ := List.mem_filterMap.1 hc
  obtain ⟨value, hvalue, rfl⟩ := Option.map_eq_some_iff.1 hp
  obtain ⟨v, hv, hmeaning⟩ := Option.bind_eq_some_iff.1 hvalue
  obtain ⟨value', hvalue', hreadable, -⟩ := clauseText_of_suits (suits_of_option? hsuits hv)
  rw [hmeaning] at hvalue'
  cases hvalue'
  exact ⟨hkey p, hreadable⟩

/-- The selector of suited options is written clause by clause as they say. -/
theorem selector_of_suits (role : String) :
    ∃ s, selector role options = .ok s ∧
      s.toList = "role=".toList ++ (role.toList ++ (said options).flatMap Clause.write) := by
  have hkeys : ∀ o ∈ options, o.1 ≠ hiddenAlias := by
    intro o ho
    obtain ⟨p, hp, -⟩ := hsuits o ho
    rw [hp]
    exact p.key_ne_alias
  rw [selector, show given options = fun p => option? options p.key from
    funext (given_eq_option? hkeys)]
  exact render_of_suits (fun _ _ h => suits_of_option? hsuits h) role

/-- Suited options with different keys say as much as there are of them. -/
theorem length_said (hkeys : (options.map (·.1)).Nodup) :
    (said options).length = options.length := by
  have hsaid : ∀ p : Property,
      (((option? options p.key).bind meaning?).map fun value =>
        (⟨p.clauseKey.toList, value⟩ : Clause)).isSome = true ↔
      decide (p.key ∈ options.map (·.1)) = true := by
    intro p
    rw [decide_eq_true_eq, ← isSome_option?]
    cases h : option? options p.key with
    | none => simp
    | some v =>
        obtain ⟨value, hvalue, -⟩ := clauseText_of_suits (suits_of_option? hsuits h)
        simp [hvalue]
  -- the properties that are given have the keys of the options, though perhaps in another order
  have hnodup : ((Property.all.filter (·.key ∈ options.map (·.1))).map Property.key).Nodup :=
    List.Nodup.sublist (List.filter_sublist.map _) (by decide : (Property.all.map (·.key)).Nodup)
  have hperm : ((Property.all.filter (·.key ∈ options.map (·.1))).map Property.key).Perm
      (options.map (·.1)) := by
    refine (List.perm_ext_iff_of_nodup hnodup hkeys).2 fun key => ⟨fun h => ?_, fun h => ?_⟩
    · obtain ⟨p, hp, rfl⟩ := List.mem_map.1 h
      simpa using (List.mem_filter.1 hp).2
    · obtain ⟨o, ho, rfl⟩ := List.mem_map.1 h
      obtain ⟨p, hp, -⟩ := hsuits o ho
      rw [hp] at h ⊢
      exact List.mem_map.2 ⟨p, List.mem_filter.2 ⟨p.mem_all, decide_eq_true h⟩, rfl⟩
  calc (said options).length
      = Property.all.countP (·.key ∈ options.map (·.1)) := by
        rw [said, List.length_filterMap_eq_countP]
        exact List.countP_congr fun p _ => hsaid p
    _ = ((Property.all.filter (·.key ∈ options.map (·.1))).map Property.key).length := by
        rw [List.length_map, List.countP_eq_length_filter]
    _ = options.length := by rw [hperm.length_eq, List.length_map]

end Suited

/-- If the role has no bracket, and the options have different keys and suit their properties, then
the clauses of their selector are read back in full: as that role, and as one clause for each
option, in the order of the properties. -/
theorem exists_read_selector {role : String} {options : Options} (hrole : '[' ∉ role.toList)
    (hkeys : (options.map (·.1)).Nodup)
    (hsuits : ∀ o ∈ options, ∃ p : Property, o.1 = p.key ∧ p.Suits o.2) :
    ∃ s, selector role options = .ok s ∧ read? s.toList = some (role.toList, said options) ∧
      (said options).length = options.length := by
  obtain ⟨s, hs, hchars⟩ := selector_of_suits hsuits role
  refine ⟨s, hs, ?_, length_said hsuits hkeys⟩
  rw [hchars]
  exact read?_write hrole (readable_said hsuits)

end ElementLookup.Role
