/-
**What the line of a record says.**

The line of a record is read back to the object that was logged: the moment, the severity, the
logger, the message and the failure if there is one, then the context.  A member of the context
whose key is among the first ones takes the place of that member, and the rest follow in order.
Whatever texts are logged, the line holds no control character, so a log file is read line by line.

A record has a line exactly if its moment lies in the years 1 to 9999, no number in its context has
more digits than may be written, and the lists and objects there are not too deep in one another.

Main definitions:

* `Json.overwritten` — members with the values that others have under their keys;
* `Json.Holds` — a number occurs in a value;
* `Json.nesting` — how many lists and objects stand in one another;
* `Log.Record.ownMembers`, `Log.Record.saidMembers` — what a record has to say, without and with its
  context.

Main results:

* `Json.merge_eq` — merged members: the earlier ones with new values, then the new ones;
* `Json.obstacle?_eq_none_iff` — which values can be written;
* `Log.line_says_record` — **the line of a record is read back**.
-/

import ElementLookup.Proofs.Json.Reading
import ElementLookup.Proofs.Log.Moments
import ElementLookup.Proofs.Session.BoundMembers

set_option autoImplicit false

namespace ElementLookup

namespace Json

/-! ### Merged members -/

/-- Members with the values that others have under their keys. -/
def overwritten (members more : List (String × Json)) : List (String × Json) :=
  members.map fun m => (m.1, (more.lookup m.1).getD m.2)

theorem ne_of_notMem_keys {members : List (String × Json)} {key : String}
    (h : key ∉ members.map (·.1)) {m : String × Json} (hm : m ∈ members) : m.1 ≠ key := by
  rintro rfl
  exact h (List.mem_map.2 ⟨m, hm, rfl⟩)

theorem lookup_eq_none_of_notMem {members : List (String × Json)} {key : String}
    (h : key ∉ members.map (·.1)) : members.lookup key = none := by
  rw [List.lookup_eq_none_iff]
  intro m hm
  exact bne_iff_ne.2 (ne_of_notMem_keys h hm).symm

/-- A member is added at the end if its key is new. -/
theorem put_of_notMem {members : List (String × Json)} {key : String}
    (h : key ∉ members.map (·.1)) (value : Json) :
    put members key value = members ++ [(key, value)] := by
  induction members with
  | nil => rfl
  | cons m r ih =>
    rw [List.map_cons, List.mem_cons, not_or] at h
    rw [put_cons, if_neg (Ne.symm h.1), ih h.2, List.cons_append]

/-- A member whose key is known takes the place of the earlier one. -/
theorem overwritten_put {members : List (String × Json)} {key : String} {value : Json}
    {more : List (String × Json)} (hmember : key ∈ members.map (·.1))
    (hmembers : (members.map (·.1)).Nodup) (hnew : key ∉ more.map (·.1)) :
    overwritten (put members key value) more = overwritten members ((key, value) :: more) := by
  induction members with
  | nil => exact absurd hmember List.not_mem_nil
  | cons m r ih =>
    obtain ⟨k, v⟩ := m
    rw [List.map_cons, List.nodup_cons] at hmembers
    rw [put_cons]
    by_cases hk : k = key
    · subst hk
      rw [if_pos rfl, overwritten, overwritten, List.map_cons, List.map_cons]
      -- no later value of the key is left
      congr 1
      · simp [lookup_eq_none_of_notMem hnew]
      · refine List.map_congr_left fun m hm => ?_
        rw [lookup_cons_eq, if_neg (ne_of_notMem_keys hmembers.1 hm)]
    · have hrest : key ∈ r.map (·.1) := by
        rw [List.map_cons, List.mem_cons] at hmember
        exact hmember.resolve_left (Ne.symm hk)
      have htail := ih hrest hmembers.2
      rw [overwritten, overwritten] at htail
      rw [if_neg hk, overwritten, overwritten, List.map_cons, List.map_cons, htail,
        lookup_cons_eq, if_neg hk]

/-- Merged members, each key once on either side: the earlier ones in their places, with the values
of the new ones if they have any, then the new ones with other keys. -/
theorem merge_eq {members more : List (String × Json)} (hmembers : (members.map (·.1)).Nodup)
    (hmore : (more.map (·.1)).Nodup) :
    merge members more =
      overwritten members more ++ more.filter fun m => m.1 ∉ members.map (·.1) := by
  induction more generalizing members with
  | nil => simp [merge, overwritten]
  | cons m r ih =>
    obtain ⟨key, value⟩ := m
    rw [List.map_cons, List.nodup_cons] at hmore
    have hmerge : merge members ((key, value) :: r) = merge (put members key value) r := rfl
    rw [hmerge, ih (nodup_put hmembers key value) hmore.2, keys_put]
    by_cases hkey : key ∈ members.map (·.1)
    · rw [if_pos hkey, overwritten_put hkey hmembers hmore.1,
        List.filter_cons_of_neg (by simpa using hkey)]
    · rw [if_neg hkey, put_of_notMem hkey, List.filter_cons_of_pos (by simpa using hkey)]
      have hown : overwritten members ((key, value) :: r) = overwritten members r := by
        refine List.map_congr_left fun m hm => ?_
        rw [lookup_cons_eq, if_neg (ne_of_notMem_keys hkey hm)]
      have hlast : overwritten (members ++ [(key, value)]) r =
          overwritten members r ++ [(key, value)] := by
        simp [overwritten, lookup_eq_none_of_notMem hmore.1]
      have hfilter : (r.filter fun m => m.1 ∉ members.map (·.1) ++ [key]) =
          r.filter fun m => m.1 ∉ members.map (·.1) := by
        refine List.filter_congr fun m hm => ?_
        simp [ne_of_notMem_keys hmore.1 hm]
      rw [hown, hlast, hfilter, List.append_assoc, List.singleton_append]

/-- A member is among the merged ones if it is one of the new members, or an earlier one without a
new value. -/
theorem mem_merge_iff {members more : List (String × Json)} (hmembers : (members.map (·.1)).Nodup)
    (hmore : (more.map (·.1)).Nodup) {m : String × Json} :
    m ∈ merge members more ↔ m ∈ more ∨ m ∈ members ∧ m.1 ∉ more.map (·.1) := by
  obtain ⟨key, value⟩ := m
  rw [mem_iff_lookup (nodup_merge hmembers more), lookup_merge, lookup_reverse hmore,
    mem_iff_lookup hmore, mem_iff_lookup hmembers]
  by_cases hkey : key ∈ more.map (·.1)
  · obtain ⟨⟨k, v⟩, hm, rfl⟩ := List.mem_map.1 hkey
    have hv : more.lookup k = some v := (mem_iff_lookup hmore).1 hm
    simp [hv, hkey]
  · simp [lookup_eq_none_of_notMem hkey, hkey]

/-! ### Numbers in values -/

/-- A number occurs in a value. -/
inductive Holds (n : Int) : Json → Prop where
  | int : Holds n (.int n)
  | item {items : List Json} {j : Json} (hmem : j ∈ items) (h : Holds n j) : Holds n (.list items)
  | member {members : List (String × Json)} {m : String × Json} (hmem : m ∈ members)
      (h : Holds n m.2) : Holds n (.object members)

mutual

/-- How many lists and objects stand in one another. -/
def nesting : Json → Nat
  | .list items => 1 + nestingItems items
  | .object members => 1 + nestingMembers members
  | _ => 0

/-- How many do in one of some items. -/
def nestingItems : List Json → Nat
  | [] => 0
  | j :: r => max (nesting j) (nestingItems r)

/-- How many do in one of some members. -/
def nestingMembers : List (String × Json) → Nat
  | [] => 0
  | (_, j) :: r => max (nesting j) (nestingMembers r)

end

theorem nestingItems_le_iff {depth : Nat} (items : List Json) :
    nestingItems items ≤ depth ↔ ∀ j ∈ items, j.nesting ≤ depth := by
  induction items with
  | nil => simp [nestingItems]
  | cons j r ih => rw [nestingItems, Nat.max_le, ih, List.forall_mem_cons]

theorem nestingMembers_le_iff {depth : Nat} (members : List (String × Json)) :
    nestingMembers members ≤ depth ↔ ∀ m ∈ members, m.2.nesting ≤ depth := by
  induction members with
  | nil => simp [nestingMembers]
  | cons m r ih => rw [nestingMembers, Nat.max_le, ih, List.forall_mem_cons]

theorem itemsObstacle?_eq_none_iff {depth : Nat} (items : List Json) :
    itemsObstacle? depth items = none ↔ ∀ j ∈ items, obstacle? depth j = none := by
  induction items with
  | nil => simp [itemsObstacle?]
  | cons j r ih => rw [itemsObstacle?, Option.or_eq_none_iff, ih, List.forall_mem_cons]

theorem membersObstacle?_eq_none_iff {depth : Nat} (members : List (String × Json)) :
    membersObstacle? depth members = none ↔ ∀ m ∈ members, obstacle? depth m.2 = none := by
  induction members with
  | nil => simp [membersObstacle?]
  | cons m r ih => rw [membersObstacle?, Option.or_eq_none_iff, ih, List.forall_mem_cons]

/-- No number in a value is too long to be written. -/
def NumbersFit (j : Json) : Prop := ∀ n, Holds n j → Number.isOverlong n = false

theorem numbersFit_list (items : List Json) :
    NumbersFit (.list items) ↔ ∀ j ∈ items, NumbersFit j := by
  refine ⟨fun h j hj n hn => h n (.item hj hn), fun h n hn => ?_⟩
  cases hn with
  | item hj hn => exact h _ hj n hn

theorem numbersFit_object (members : List (String × Json)) :
    NumbersFit (.object members) ↔ ∀ m ∈ members, NumbersFit m.2 := by
  refine ⟨fun h m hm n hn => h n (.member hm hn), fun h n hn => ?_⟩
  cases hn with
  | member hm hn => exact h _ hm n hn

/-- What is neither a number nor holds anything can be written. -/
theorem obstacle?_eq_none_iff_of_plain {j : Json} {depth : Nat} (hnone : obstacle? depth j = none)
    (hflat : j.nesting = 0) (hempty : ∀ n, ¬ Holds n j) :
    obstacle? depth j = none ↔ j.nesting ≤ depth ∧ NumbersFit j :=
  ⟨fun _ => ⟨hflat ▸ Nat.zero_le _, fun n hn => absurd hn (hempty n)⟩, fun _ => hnone⟩

/-- A value can be written exactly if it is not too deep and the numbers in it are not too long. -/
theorem obstacle?_eq_none_iff (depth : Nat) (j : Json) :
    obstacle? depth j = none ↔ j.nesting ≤ depth ∧ NumbersFit j := by
  induction j using induct generalizing depth with
  | null => exact obstacle?_eq_none_iff_of_plain rfl rfl nofun
  | bool b => exact obstacle?_eq_none_iff_of_plain rfl rfl nofun
  | text s => exact obstacle?_eq_none_iff_of_plain rfl rfl nofun
  | int n =>
    have hfit : NumbersFit (.int n) ↔ Number.isOverlong n = false :=
      ⟨fun h => h n .int, by rintro h _ ⟨⟩; exact h⟩
    have hflat : nesting (.int n) ≤ depth := Nat.zero_le depth
    rw [obstacle?, hfit, and_iff_right hflat]
    cases Number.isOverlong n <;> simp
  | list items ih =>
    rw [obstacle?, nesting, numbersFit_list]
    cases depth with
    | zero => simp
    | succ depth =>
      rw [if_neg (Nat.succ_ne_zero depth), Nat.add_sub_cancel, itemsObstacle?_eq_none_iff,
        Nat.add_comm 1, Nat.add_le_add_iff_right, nestingItems_le_iff, ← forall₂_and]
      exact forall₂_congr fun j hj => ih j hj depth
  | object members ih =>
    rw [obstacle?, nesting, numbersFit_object]
    cases depth with
    | zero => simp
    | succ depth =>
      rw [if_neg (Nat.succ_ne_zero depth), Nat.add_sub_cancel, membersObstacle?_eq_none_iff,
        Nat.add_comm 1, Nat.add_le_add_iff_right, nestingMembers_le_iff, ← forall₂_and]
      exact forall₂_congr fun m hm => ih m hm depth

theorem obstacle?_object_eq_none_iff (depth : Nat) (members : List (String × Json)) :
    obstacle? depth (.object members) = none ↔
      0 < depth ∧ ∀ m ∈ members, m.2.nesting < depth ∧ NumbersFit m.2 := by
  rw [obstacle?]
  cases depth with
  | zero => simp
  | succ depth =>
    rw [if_neg (Nat.succ_ne_zero depth), Nat.add_sub_cancel, membersObstacle?_eq_none_iff,
      and_iff_right (Nat.succ_pos depth)]
    refine forall₂_congr fun m _ => ?_
    rw [obstacle?_eq_none_iff, Nat.lt_succ_iff]

end Json

/-! ### Lines -/

namespace Log

/-- What a record has to say itself: moment, severity, logger, message, and the failure if there is
one. -/
def Record.ownMembers (r : Record) (ts name : String) : List (String × Json) :=
  [("ts", .text ts), ("level", .text name), ("logger", .text r.logger), ("msg", .text r.message)]
    ++ (r.failure.map fun f => ("exc_info", Json.text f.message)).toList

/-- What a record has to say with its context: members of the context replace the record's own where
they have the same key, and otherwise follow in order. -/
def Record.saidMembers (r : Record) (ts name : String) : List (String × Json) :=
  Json.overwritten (r.ownMembers ts name) r.context
    ++ r.context.filter fun m => m.1 ∉ (r.ownMembers ts name).map (·.1)

theorem Record.membersNamed_eq_merge (r : Record) (ts name : String) :
    r.membersNamed name [("ts", .text ts)] = Json.merge (r.ownMembers ts name) r.context := by
  rw [membersNamed, ownMembers]
  cases r.failure <;> rfl

theorem Record.nodup_ownMembers (r : Record) (ts name : String) :
    ((r.ownMembers ts name).map (·.1)).Nodup := by
  rw [ownMembers]
  cases r.failure <;> simp

/-- All that a record has to say itself are texts. -/
theorem Record.exists_text_of_mem_ownMembers {r : Record} {ts name : String} {m : String × Json}
    (h : m ∈ r.ownMembers ts name) : ∃ s, m.2 = .text s := by
  rw [ownMembers, List.mem_append] at h
  rcases h with h | h
  · simp only [List.mem_cons, List.not_mem_nil, or_false] at h
    rcases h with rfl | rfl | rfl | rfl <;> exact ⟨_, rfl⟩
  · rw [Option.mem_toList] at h
    obtain ⟨f, -, rfl⟩ := Option.map_eq_some_iff.1 h
    exact ⟨_, rfl⟩

/-- A record can be written if what is in its context can; that is within one more object. -/
theorem Record.obstacle?_membersNamed {r : Record} (h : (r.context.map (·.1)).Nodup)
    (depth : Nat) (ts name : String) :
    (Json.object (r.membersNamed name [("ts", .text ts)])).obstacle? depth = none ↔
      0 < depth ∧ ∀ m ∈ r.context, m.2.nesting < depth ∧ m.2.NumbersFit := by
  rw [membersNamed_eq_merge, Json.obstacle?_object_eq_none_iff]
  refine and_congr_right fun hdepth => ⟨fun hall m hm => ?_, fun hall m hm => ?_⟩
  · exact hall m ((Json.mem_merge_iff (r.nodup_ownMembers ts name) h).2 (.inl hm))
  · rcases (Json.mem_merge_iff (r.nodup_ownMembers ts name) h).1 hm with hcontext | ⟨hown, -⟩
    · exact hall m hcontext
    · obtain ⟨s, hs⟩ := exists_text_of_mem_ownMembers hown
      rw [hs]
      exact ⟨hdepth, nofun⟩

/-- With each key of the context once, what is written is what the record has to say. -/
theorem Record.membersNamed_eq_said {r : Record} (h : (r.context.map (·.1)).Nodup)
    (ts name : String) : r.membersNamed name [("ts", .text ts)] = r.saidMembers ts name := by
  rw [membersNamed_eq_merge, Json.merge_eq (r.nodup_ownMembers ts name) h, saidMembers]

theorem Record.nodup_saidMembers {r : Record} (h : (r.context.map (·.1)).Nodup)
    (ts name : String) : ((r.saidMembers ts name).map (·.1)).Nodup := by
  rw [← membersNamed_eq_said h, membersNamed_eq_merge]
  exact Json.nodup_merge (r.nodup_ownMembers ts name) r.context

theorem Record.saidMembers_of_context_nil {r : Record} (h : r.context = []) (ts name : String) :
    r.saidMembers ts name = r.ownMembers ts name := by
  simp [saidMembers, h, Json.overwritten]

/-- A number occurs in the context of a record. -/
def Record.ContextHolds (r : Record) (n : Int) : Prop :=
  ∃ m ∈ r.context, Json.Holds n m.2

theorem Record.numbersFit_iff (r : Record) :
    (∀ m ∈ r.context, m.2.NumbersFit) ↔
      ∀ n, r.ContextHolds n → Number.isOverlong n = false :=
  ⟨fun h n ⟨m, hm, hn⟩ => h m hm n hn, fun h m hm n hn => h n ⟨m, hm, hn⟩⟩

/-- A line is the form of what is written, and that can be written. -/
theorem lineNamed_eq_ok_iff {depth : Nat} {name : String} {seconds : Int} {r : Record}
    {text : String} :
    lineNamed depth name seconds r = .ok text ↔
      ∃ ts, timestamp seconds = .ok ts ∧
        (Json.object (r.membersNamed name [("ts", .text ts)])).obstacle? depth = none ∧
        text = (Json.object (r.membersNamed name [("ts", .text ts)])).line := by
  rw [lineNamed]
  cases timestamp seconds with
  | error fault => exact ⟨nofun, fun ⟨_, h, _⟩ => nomatch h⟩
  | ok ts =>
    simp only [Except.ok.injEq, exists_eq_left']
    cases (Json.object (r.membersNamed name [("ts", .text ts)])).obstacle? depth with
    | some obstacle => simp
    | none => simp [eq_comm]

/-- The line of a record, whatever its severity is called and with each key of its context once.
There is one exactly if the moment lies in the years 1 to 9999, the line itself and what is in the
context are not too deep in one another, and no number in the context is too long to be written.  It
holds no control character, and it is read back to what the record has to say, each key once;
without an object as its context, that is what it has to say itself. -/
theorem line_says_record (depth : Nat) (name : String) (seconds : Int) (r : Record)
    (h : (r.context.map (·.1)).Nodup) :
    ((∃ text, lineNamed depth name seconds r = .ok text) ↔
      IsDated seconds ∧ (0 < depth ∧ ∀ m ∈ r.context, m.2.nesting < depth) ∧
        ∀ n, r.ContextHolds n → Number.isOverlong n = false) ∧
    ∀ text, lineNamed depth name seconds r = .ok text →
      (∀ c ∈ text.toList, 32 ≤ c.toNat) ∧
      ∃ ts, timestamp seconds = .ok ts ∧
        Json.read? text = some (.object (r.saidMembers ts name)) ∧
        ((r.saidMembers ts name).map (·.1)).Nodup ∧
        ((∀ members, r.extra ≠ .object members) →
          r.saidMembers ts name = r.ownMembers ts name) := by
  have hwritable : ∀ ts,
      (Json.object (r.membersNamed name [("ts", .text ts)])).obstacle? depth = none ↔
        (0 < depth ∧ ∀ m ∈ r.context, m.2.nesting < depth) ∧
          ∀ n, r.ContextHolds n → Number.isOverlong n = false := by
    intro ts
    rw [Record.obstacle?_membersNamed h, ← Record.numbersFit_iff, and_assoc, ← forall₂_and]
  refine ⟨⟨?_, ?_⟩, ?_⟩
  · rintro ⟨text, htext⟩
    obtain ⟨ts, hts, hfits, -⟩ := lineNamed_eq_ok_iff.1 htext
    exact ⟨(exists_timestamp_iff seconds).1 ⟨ts, hts⟩, (hwritable ts).1 hfits⟩
  · rintro ⟨hdated, hfits⟩
    obtain ⟨ts, hts⟩ := (exists_timestamp_iff seconds).2 hdated
    exact ⟨_, lineNamed_eq_ok_iff.2 ⟨ts, hts, (hwritable ts).2 hfits, rfl⟩⟩
  · intro text htext
    obtain ⟨ts, hts, -, rfl⟩ := lineNamed_eq_ok_iff.1 htext
    rw [Record.membersNamed_eq_said h]
    refine ⟨Json.unbroken_line _, ts, hts, Json.read?_line _, Record.nodup_saidMembers h ts name,
      fun hextra => Record.saidMembers_of_context_nil ?_ ts name⟩
    rw [Record.context]
    split
    · next members heq => exact absurd heq (hextra members)
    · rfl

/-- A record whose context has members named like its own, with texts that need care. -/
def crowdedRecord : Record where
  logger := "getby.\x7b\"\\\x7d"
  severity := Severity.info
  message := "a\nb\x01é😀"
  failure := some ⟨"ValueError", "\t"⟩
  extra := .object [("source", .list [.null, .int (-12), .object [("\"", .bool true)]]),
    ("msg", .object []), ("ts", .text "now"), ("n", .int 0)]

theorem line_says_crowdedRecord :
    (crowdedRecord.context.map (·.1)).Nodup ∧
    ∃ text, lineNamed 9 "LOUD" 86399 crowdedRecord = .ok text ∧
      (∀ c ∈ text.toList, 32 ≤ c.toNat) ∧
      Json.read? text = some (.object
        [("ts", .text "now"), ("level", .text "LOUD"), ("logger", .text "getby.\x7b\"\\\x7d"),
          ("msg", .object []), ("exc_info", .text "ValueError: \t"),
          ("source", .list [.null, .int (-12), .object [("\"", .bool true)]]), ("n", .int 0)]) := by
  have hnodup : (crowdedRecord.context.map (·.1)).Nodup := by decide
  obtain ⟨hexists, hsays⟩ := line_says_record 9 "LOUD" 86399 crowdedRecord hnodup
  have hnone : ∀ m ∈ crowdedRecord.context, Json.obstacle? 8 m.2 = none := by decide +kernel
  simp only [Json.obstacle?_eq_none_iff, forall₂_and] at hnone
  obtain ⟨text, htext⟩ := hexists.2 ⟨⟨by decide, by decide⟩,
    ⟨Nat.succ_pos 8, fun m hm => Nat.lt_succ_of_le (hnone.1 m hm)⟩,
    (Record.numbersFit_iff crowdedRecord).1 hnone.2⟩
  obtain ⟨hunbroken, ts, -, hread, -⟩ := hsays text htext
  exact ⟨hnodup, text, htext, hunbroken, hread⟩

/-- Not every moment has a year of four digits, and not every number can be written: the moment
after the last of the year 9999 has no line, and neither has a context with a number of 4301
digits. -/
theorem line_missing_after_last_year_or_for_long_number :
    (∀ depth text, lineNamed depth "INFO" 253402300800
      ⟨⟨"getby", Severity.info, "m"⟩, none, .null⟩ ≠ .ok text) ∧
    ∀ depth text, lineNamed depth "INFO" 0 ⟨⟨"getby", Severity.info, "m"⟩, none,
      .object [("n", .int (Nat.pow 10 Number.digitLimit))]⟩ ≠ .ok text := by
  constructor
  · intro depth text h
    obtain ⟨ts, hts, -⟩ := lineNamed_eq_ok_iff.1 h
    have hlate : timestamp 253402300800 = .error .yearOutOfRange := by rfl
    exact nomatch hts.symm.trans hlate
  · intro depth text h
    obtain ⟨ts, -, hfits, -⟩ := lineNamed_eq_ok_iff.1 h
    rw [Record.obstacle?_membersNamed (by decide)] at hfits
    have hfit := (hfits.2 _ (List.mem_singleton.2 rfl)).2 _ .int
    exact absurd hfit (by decide +kernel)

end Log

end ElementLookup
