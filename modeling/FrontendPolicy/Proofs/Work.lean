import FrontendPolicy.Command.Basic

/-!
# What work does

`Work.Does` is all that work does, whatever went before: the events that it tells, the text that it
prints and the result that it ends with. There is a rule for each way to put work together, and
`Work.Does.outcome` is the outcome of work that stands on its own.
-/

namespace FrontendPolicy

/-- The rest of a script is played from the state that its first part left. -/
theorem Script.play_bind {α β σ : Type} (l : Listener σ) (w : Script α) (f : α → Script β) :
    ∀ s : σ, (w.bind f).play l s = (f (w.play l s).1).play l (w.play l s).2 := by
  induction w with
  | finish a =>
    intro s
    rfl
  | tell e rest ih => exact fun s => ih () (l.told s e)
  | print text rest ih => exact fun s => ih () (l.printed s text)

/-- Two listeners to one script get its value, and their states stay related if each event and each
text keeps them so. -/
theorem Script.play_related {α σ τ : Type} {l : Listener σ} {l' : Listener τ} {R : σ → τ → Prop}
    (htold : ∀ s t e, R s t → R (l.told s e) (l'.told t e))
    (hprinted : ∀ s t text, R s t → R (l.printed s text) (l'.printed t text)) (w : Script α) :
    ∀ {s : σ} {t : τ}, R s t →
      (w.play l s).1 = (w.play l' t).1 ∧ R (w.play l s).2 (w.play l' t).2 := by
  induction w with
  | finish a => exact fun h => ⟨rfl, h⟩
  | tell e rest ih => exact fun h => ih () (htold _ _ e h)
  | print text rest ih => exact fun h => ih () (hprinted _ _ text h)

namespace Work

variable {ε δ α β : Type}

/-- Whatever was told and printed before, the work adds just these events and this text to it and
ends with this result. -/
def Does (w : Work ε α) (events : List Event) (printed : String) (r : Except ε α) : Prop :=
  ∀ t : Transcript, w.run.play .transcript t = (r, ⟨t.events ++ events, t.stdout ++ printed⟩)

/-! ## Single steps -/

theorem does_pure (a : α) : (pure a : Work ε α).Does [] "" (.ok a) := by
  intro t
  rw [List.append_nil, String.append_empty]
  rfl

theorem does_tell (e : Event) : (tell e : Work ε Unit).Does [e] "" (.ok ()) := by
  intro t
  rw [String.append_empty]
  rfl

theorem does_print (s : String) : (print s : Work ε Unit).Does [] s (.ok ()) := by
  intro t
  rw [List.append_nil]
  rfl

theorem does_ofExcept (r : Except ε α) : (ofExcept r).Does [] "" r := by
  intro t
  rw [List.append_nil, String.append_empty]
  rfl

theorem does_throw (e : ε) : (throw e : Work ε α).Does [] "" (.error e) := does_ofExcept _

/-! ## Work put together -/

variable {w : Work ε α} {f : α → Work ε β} {es es' : List Event} {out out' : String}

/-- Only a result is gone on with. -/
theorem play_bind (w : Work ε α) (f : α → Work ε β) (t : Transcript) :
    (w >>= f).run.play .transcript t =
      match w.run.play .transcript t with
      | (.ok a, t') => (f a).run.play .transcript t'
      | (.error e, t') => (.error e, t') := by
  refine (Script.play_bind .transcript w.run (ExceptT.bindCont f) t).trans ?_
  rcases w.run.play .transcript t with ⟨_ | _, t'⟩ <;> rfl

/-- Work goes on after a result. -/
theorem Does.bind {a : α} {r : Except ε β} (hw : w.Does es out (.ok a))
    (hf : (f a).Does es' out' r) : (w >>= f).Does (es ++ es') (out ++ out') r := by
  intro t
  rw [play_bind, hw t]
  show (f a).run.play _ _ = _
  rw [hf, List.append_assoc, String.append_assoc]

theorem Does.of_eq {r : Except ε α} (hw : w.Does es out r) (hes : es = es') (hout : out = out') :
    w.Does es' out' r := by
  rwa [← hes, ← hout]

/-- What is made of the result of work is not told or printed. -/
theorem Does.bind_pure {a : α} (hw : w.Does es out (.ok a)) (g : α → β) :
    Does (w >>= fun x => pure (g x)) es out (.ok (g a)) :=
  (hw.bind (does_pure (g a))).of_eq (List.append_nil _) String.append_empty

/-- An error is put in other words. -/
theorem Does.adapt {r : Except ε α} (hw : w.Does es out r) (g : ε → δ) :
    Does (ExceptT.adapt g w : Work δ α) es out (r.mapError g) := by
  intro t
  refine (Script.play_bind .transcript w.run _ t).trans ?_
  rw [hw t]
  rfl

/-- A loop that tells an event in each pass. -/
theorem does_forM_tell (event : α → Event) (l : List α) :
    Does (l.forM fun a => tell (event a) : Work ε PUnit) (l.map event) "" (.ok ()) := by
  induction l with
  | nil => exact does_pure ()
  | cons a l ih => exact ((does_tell (event a)).bind ih).of_eq rfl String.append_empty

/-- A loop that prints a text in each pass. -/
theorem does_forM_print (text : α → String) (l : List α) :
    Does (l.forM fun a => print (text a) : Work ε PUnit) [] (String.join (l.map text))
      (.ok ()) := by
  induction l with
  | nil => exact does_pure ()
  | cons a l ih => exact ((does_print (text a)).bind ih).of_eq rfl String.join_cons.symm

/-- Work on a condition that tells something, or nothing. -/
theorem Does.whenever {w : Work ε Unit} (hw : w.Does es "" (.ok ())) (c : Bool) :
    (whenever c w).Does (if c then es else []) "" (.ok ()) := by
  cases c with
  | false => exact does_pure ()
  | true => exact hw

theorem does_whenever_throw (c : Bool) (e : ε) :
    (Work.whenever c (throw e)).Does [] "" (if c then .error e else .ok ()) := by
  cases c with
  | false => exact does_pure ()
  | true => exact does_throw e

/-! ## Outcomes -/

/-- The outcome of work is what it does from the start. -/
theorem Does.outcome {w : Work CommandError Unit} {r : Except CommandError Unit}
    (hw : w.Does es out r) : w.outcome = ⟨es, out, errorOf r⟩ := by
  have hperform : w.perform = (r, ⟨es, out⟩) := by
    rw [perform, hw, List.nil_append, String.empty_append]
  rw [Work.outcome, hperform]

end Work

end FrontendPolicy
