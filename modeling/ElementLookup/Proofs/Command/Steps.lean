/-
**What the steps of a command do.**

A step of a command comes to a result, or stops the command, and prints lines on the way.  As long
as the session stays within a class on which nothing else depends, this is all that there is to say
of a step, and steps one after the other print what they print one by one.

Main definitions:

* `Command.after` — what a step comes to, and the console that it leaves;
* `Command.Does` — a step comes to a result and prints certain lines, in all sessions of a class.

Main results:

* `Command.Does.bind`, `Command.Does.mapM`, `Command.Does.forM` — steps one after the other;
* `Command.does_inSession`, `Command.does_attempt` — steps of the session within a command;
* `Command.does_bound` — a member bound to the records of a step makes no difference;
* `Command.does_printLines` — lines are printed up to the first one that cannot be.
-/

import ElementLookup.Command.Console
import ElementLookup.Proofs.Session.Answers

set_option autoImplicit false

namespace ElementLookup.Command

variable {α β : Type} {I : Session → Prop}

/-! ### Steps -/

/-- What a step comes to, and the console that it leaves. -/
def after (step : CommandM α) (c : Console) : Except Stop α × Console :=
  step.run.run c

theorem after_bind (x : CommandM α) (f : α → CommandM β) (c : Console) :
    after (x >>= f) c =
      match after x c with
      | (.ok a, d) => after (f a) d
      | (.error stop, d) => (.error stop, d) := by
  have h : after (x >>= f) c =
      StateT.run (ExceptT.bindCont f (after x c).1) (after x c).2 := rfl
  rw [h]
  rcases after x c with ⟨_ | a, d⟩ <;> rfl

/-- In all sessions of a class, a step comes to a result and prints lines to the output and to the
error output; it leaves a session of that class. -/
def Does (I : Session → Prop) (step : CommandM α) (result : Except Stop α)
    (out err : List String) : Prop :=
  ∀ c, I c.session → ∃ t, after step c = (result, ⟨t, c.out ++ out, c.err ++ err⟩) ∧ I t

theorem Does.pure (a : α) : Does I (pure a : CommandM α) (.ok a) [] [] := fun c hc =>
  ⟨c.session, by rw [List.append_nil, List.append_nil]; rfl, hc⟩

theorem does_stop (s : Stop) : Does I (stop s : CommandM α) (.error s) [] [] := fun c hc =>
  ⟨c.session, by rw [List.append_nil, List.append_nil]; rfl, hc⟩

theorem Does.bind {x : CommandM α} {f : α → CommandM β} {a : α} {result : Except Stop β}
    {out out' err err' : List String} (hx : Does I x (.ok a) out err)
    (hf : Does I (f a) result out' err') :
    Does I (x >>= f) result (out ++ out') (err ++ err') := by
  intro c hc
  obtain ⟨t, ht, hI⟩ := hx c hc
  obtain ⟨u, hu, hI'⟩ := hf ⟨t, c.out ++ out, c.err ++ err⟩ hI
  refine ⟨u, ?_, hI'⟩
  rw [after_bind, ht]
  dsimp only
  rw [hu, List.append_assoc, List.append_assoc]

theorem Does.bind_error {x : CommandM α} {s : Stop} {out err : List String}
    (hx : Does I x (.error s) out err) (f : α → CommandM β) :
    Does I (x >>= f) (.error s) out err := by
  intro c hc
  obtain ⟨t, ht, hI⟩ := hx c hc
  refine ⟨t, ?_, hI⟩
  rw [after_bind, ht]

/-- A step that prints nothing leaves it to the next one. -/
theorem Does.bind_quiet {x : CommandM α} {f : α → CommandM β} {a : α} {result : Except Stop β}
    {out err : List String} (hx : Does I x (.ok a) [] []) (hf : Does I (f a) result out err) :
    Does I (x >>= f) result out err :=
  hx.bind hf

/-- A step that may have stopped, and then one that prints nothing. -/
theorem Does.andThen {x : CommandM Unit} {f : Unit → CommandM β} {r : Except Stop Unit}
    {result : Except Stop β} {out err : List String} (hx : Does I x r out err)
    (hf : Does I (f ⟨⟩) result [] []) :
    Does I (x >>= f) (r.bind fun _ => result) out err := by
  cases r with
  | error s => exact hx.bind_error f
  | ok _ =>
    have hboth := hx.bind hf
    rwa [List.append_nil, List.append_nil] at hboth

/-- Steps for the members of a list print what they print one by one. -/
theorem Does.mapM {f : α → CommandM β} {g : α → β} {out err : α → List String} {l : List α}
    (h : ∀ a ∈ l, Does I (f a) (.ok (g a)) (out a) (err a)) :
    Does I (l.mapM f) (.ok (l.map g)) (l.flatMap out) (l.flatMap err) := by
  induction l with
  | nil => exact .pure []
  | cons a r ih =>
    rw [List.forall_mem_cons] at h
    have hrest : Does I (r.mapM f >>= fun bs => Pure.pure (g a :: bs))
        (.ok (g a :: r.map g)) (r.flatMap out ++ []) (r.flatMap err ++ []) :=
      (ih h.2).bind (.pure _)
    rw [List.append_nil, List.append_nil] at hrest
    rw [List.mapM_cons]
    exact h.1.bind hrest

/-- A step that stops keeps the later ones from being taken. -/
theorem Does.mapM_stop {f : α → CommandM β} {g : α → β} {out err : α → List String} {l r : List α}
    {a : α} {s : Stop} (hl : ∀ b ∈ l, Does I (f b) (.ok (g b)) (out b) (err b))
    (ha : Does I (f a) (.error s) [] []) :
    Does I ((l ++ a :: r).mapM f) (.error s) (l.flatMap out) (l.flatMap err) := by
  induction l with
  | nil =>
    rw [List.nil_append, List.mapM_cons]
    exact ha.bind_error _
  | cons b l ih =>
    rw [List.forall_mem_cons] at hl
    rw [List.cons_append, List.mapM_cons]
    exact hl.1.bind ((ih hl.2).bind_error _)

theorem Does.forM {f : α → CommandM Unit} {out err : α → List String} {l : List α}
    (h : ∀ a ∈ l, Does I (f a) (.ok ⟨⟩) (out a) (err a)) :
    Does I (l.forM f) (.ok ⟨⟩) (l.flatMap out) (l.flatMap err) := by
  induction l with
  | nil => exact Does.pure PUnit.unit
  | cons a r ih =>
    rw [List.forall_mem_cons] at h
    exact h.1.bind (ih h.2)

/-! ### Printing -/

theorem does_print (line : String) : Does I (print line) (.ok ⟨⟩) [line] [] := fun c hc =>
  ⟨c.session, by rw [List.append_nil]; rfl, hc⟩

theorem does_printError (line : String) : Does I (printError line) (.ok ⟨⟩) [] [line] :=
  fun c hc => ⟨c.session, by rw [List.append_nil]; rfl, hc⟩

theorem does_printLine {line : Line} (h : line.halved = false) :
    Does I (printLine line) (.ok ⟨⟩) [line.text] [] := by
  rw [printLine, h]
  exact does_print line.text

theorem does_printLine_of_halved {line : Line} (h : line.halved = true) :
    Does I (printLine line) (.error .unwritable) [] [] := by
  rw [printLine, if_pos h]
  exact does_stop .unwritable

/-- What printing lines comes to: it stops if one of them cannot be printed. -/
def printed (lines : List Line) : Except Stop Unit :=
  if lines.any Line.halved then .error .unwritable else .ok ⟨⟩

/-- The lines before the first one that cannot be printed. -/
def printable (lines : List Line) : List String :=
  (lines.takeWhile fun line => !line.halved).map Line.text

theorem printed_singleton (line : Line) :
    printed [line] = if line.halved then .error .unwritable else .ok ⟨⟩ := by
  rw [printed, List.any_cons, List.any_nil, Bool.or_false]

theorem printable_singleton (line : Line) :
    printable [line] = if line.halved then [] else [line.text] := by
  cases h : line.halved <;> simp [printable, h]

theorem printed_of_whole {lines : List Line} (h : ∀ line ∈ lines, line.halved = false) :
    printed lines = .ok ⟨⟩ := by
  rw [printed, if_neg]
  simpa using h

theorem printable_of_whole {lines : List Line} (h : ∀ line ∈ lines, line.halved = false) :
    printable lines = lines.map Line.text := by
  rw [printable]
  induction lines with
  | nil => rfl
  | cons line r ih =>
    rw [List.forall_mem_cons] at h
    rw [List.takeWhile_cons, h.1, Bool.not_false, if_pos rfl, List.map_cons, ih h.2, List.map_cons]

/-- Lines are printed up to the first one that cannot be. -/
theorem does_printLines (lines : List Line) :
    Does I (lines.forM printLine) (printed lines) (printable lines) [] := by
  induction lines with
  | nil => exact Does.pure PUnit.unit
  | cons line r ih =>
    change Does I (printLine line >>= fun _ => r.forM printLine) _ _ _
    cases h : line.halved with
    | true =>
      rw [printed, printable, List.any_cons, h, List.takeWhile_cons, h]
      exact (does_printLine_of_halved h).bind_error _
    | false =>
      rw [printed, printable, List.any_cons, h, List.takeWhile_cons, h]
      exact (does_printLine h).bind ih

/-! ### The session -/

theorem does_result {step : SessionM α} {r : Except Fault α} (h : Session.Yields I step r) :
    Does I (result step) (.ok r) [] [] := by
  intro c hc
  obtain ⟨t, ht, hI⟩ := h c.session hc
  have hrun : step.run c.session = (r, t) := ht
  refine ⟨t, ?_, hI⟩
  have hafter : after (result step) c =
      (.ok (step.run c.session).1, { c with session := (step.run c.session).2 }) := rfl
  rw [hafter, hrun, List.append_nil, List.append_nil]

theorem does_inSession {step : SessionM α} {a : α} (h : Session.Yields I step (.ok a)) :
    Does I (inSession step) (.ok a) [] [] :=
  (does_result h).bind_quiet (.pure a)

theorem does_inSession_of_fault {step : SessionM α} {f : Fault}
    (h : Session.Yields I step (.error f)) :
    Does I (inSession step) (.error (.fault f)) [] [] :=
  (does_result h).bind_quiet (does_stop (.fault f))

theorem does_attempt {step : SessionM α} {a : α} (h : Session.Yields I step (.ok a)) :
    Does I (attempt step) (.ok (.ok a)) [] [] :=
  (does_result h).bind_quiet (.pure (Except.ok a))

/-- A fault that belongs to a query file is a result. -/
theorem does_attempt_of_reported {step : SessionM α} {f : LoadFault}
    (h : Session.Yields I step (.error (.load f))) (hf : f.isReported = true) :
    Does I (attempt step) (.ok (.error f)) [] [] := by
  refine (does_result h).bind_quiet ?_
  dsimp only
  rw [if_pos hf]
  exact .pure (Except.error f)

/-- A fault that belongs to no query file ends the command. -/
theorem does_attempt_of_fault {step : SessionM α} {f : Fault}
    (h : Session.Yields I step (.error f)) (hf : ∀ fault, f ≠ .load fault) :
    Does I (attempt step) (.error (.fault f)) [] [] := by
  refine (does_result h).bind_quiet ?_
  cases f with
  | load fault => exact absurd rfl (hf fault)
  | _ => exact does_stop _

/-- A member bound to the records of a step makes no difference to what the step does. -/
theorem does_bound {key : String} {value : Json} {step : CommandM α} {r : Except Stop α}
    {out err : List String} (hI : ∀ s members, I s → I { s with bound := members })
    (h : Does I step r out err) : Does I (bound key value step) r out err := by
  have hbind : Session.Yields I (Session.bind [(key, value)]) (.ok ⟨⟩) :=
    fun s hs => ⟨_, rfl, hI s _ hs⟩
  refine (does_inSession hbind).bind_quiet fun c hc => ?_
  obtain ⟨t, ht, hIt⟩ := h c hc
  have hafter : after (unbinding [key] step) c =
      ((after step c).1, unbound [key] (after step c).2) := rfl
  rw [hafter, ht]
  exact ⟨_, rfl, hI t _ hIt⟩

end ElementLookup.Command
