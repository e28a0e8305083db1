import FrontendPolicy.Proofs.Options.Saving

/-!
# Requests that fail

A request that fails leaves everything as it was. Requests that fail can therefore be left out of a
run, and the session that the run ends with is the same (`Session.performAll_withoutFailures`).
-/

namespace FrontendPolicy

/-- Whether a step asks for a configuration, or for one to be saved. -/
def Step.isRequest : Step → Bool
  | .new _ | .setAction _ | .parse _ | .load _ | .save _ => true
  | _ => false

/-- Whether an answer is a failure. -/
def Answer.isFailure : Answer → Bool
  | .failed _ => true
  | _ => false

namespace Session

/-- A run without its requests that fail. -/
def withoutFailures : Session → List Step → List Step
  | _, [] => []
  | s, step :: rest =>
    if step.isRequest && (s.perform step).1.isFailure then withoutFailures s rest
    else step :: withoutFailures (s.perform step).2 rest

/-! ## Single requests -/

theorem replace_of_failed {s : Session} {r : Except Error Options} {e : Error}
    (h : (s.replace r).1 = .failed e) : (s.replace r).2 = s := by
  cases r with
  | ok o => simp [replace] at h
  | error e' => rfl

/-- A save that fails leaves the session as it was, because it leaves the file system so. -/
theorem perform_save_of_failed {s : Session} {p : Path} {e : Error}
    (h : (s.perform (.save p)).1 = .failed e) : (s.perform (.save p)).2 = s := by
  rcases s.options.save_cases s.store p with ⟨-, hs⟩ | ⟨d, -, ⟨fault, hs⟩ | ⟨store, -, hs⟩⟩
  · simp only [perform, hs]
  · simp only [perform, hs]
  · simp [perform, hs] at h

/-- A request that fails leaves the session as it was. -/
theorem perform_of_failed {s : Session} {step : Step} {e : Error} (hreq : step.isRequest = true)
    (h : (s.perform step).1 = .failed e) : (s.perform step).2 = s := by
  cases step with
  -- All requests but a save only replace the configuration.
  | new | setAction | parse | load => exact replace_of_failed h
  | save p => exact perform_save_of_failed h
  | reset | change | clear | write | makeDirectory | remove | hasUnused | remember |
    equalsRemembered => simp [Step.isRequest] at hreq

/-! ## Runs -/

/-- Requests that fail can be left out of a run. -/
theorem performAll_withoutFailures {steps : List Step} : ∀ s : Session,
    s.performAll (s.withoutFailures steps) = s.performAll steps := by
  induction steps with
  | nil =>
    intro s
    rfl
  | cons step rest ih =>
    intro s
    show _ = (s.perform step).2.performAll rest
    rw [withoutFailures]
    -- A step that is left out did not change the session that the rest starts from.
    split
    · rename_i hfails
      obtain ⟨hreq, hfailure⟩ := Bool.and_eq_true_iff.mp hfails
      have hkept : (s.perform step).2 = s := by
        cases ha : (s.perform step).1 with
        | failed e => exact perform_of_failed hreq ha
        | done | truth | text =>
          rw [ha] at hfailure
          simp [Answer.isFailure] at hfailure
      rw [hkept]
      exact ih s
    · exact ih (s.perform step).2

/-- A request that fails leaves the configuration, the remembered copy and the file system as they
were, so that a run without such requests ends in the same session. A save fails for the
configuration if some input path is not a text, and for nothing else. Otherwise it writes the whole
text of the options and changes no other file or directory, or the file system refuses, and in each
case where it fails the file system stays as it was. -/
theorem failed_requests_change_nothing :
    -- One request, and a run.
    (∀ (s : Session) (step : Step) (e : Error), step.isRequest = true →
      (s.perform step).1 = .failed e → (s.perform step).2 = s) ∧
    (∀ (s : Session) (steps : List Step),
      s.performAll (s.withoutFailures steps) = s.performAll steps) ∧
    -- All that can come of a save.
    (∀ (o : Options) (store : Store) (p : Path),
      ((∃ e, (o.save store p).1 = .error e ∧ e.kind = .configuration) ↔
        ∃ i ∈ o.inputs, ∀ text, i.file ≠ .ofText text) ∧
      ((∃ i ∈ o.inputs, ∀ text, i.file ≠ .ofText text) → (o.save store p).2 = store) ∧
      (¬(∃ i ∈ o.inputs, ∀ text, i.file ≠ .ofText text) → ∃ d, o.document? = some d ∧
        ((∃ l, (o.save store p).1 = .ok d.prettyText ∧
          (o.save store p).2.locate p = .ok (l, .file (Text.encode d.prettyText.toList)) ∧
          ∀ l', l' ≠ l → (o.save store p).2.node? l' = store.node? l') ∨
        ∃ e, (o.save store p).1 = .error e ∧ e.kind = .file ∧ (o.save store p).2 = store))) := by
  refine ⟨fun s step e hreq h => perform_of_failed hreq h, fun s _ => performAll_withoutFailures s,
    fun o store p => ⟨Options.save_configuration_error_iff, fun h => ?_, fun h => ?_⟩⟩
  · rw [Options.save_of_none (Options.document?_eq_none_iff.mpr h)]
  · rw [← Options.document?_eq_none_iff] at h
    obtain ⟨d, hd⟩ := Option.ne_none_iff_exists'.mp h
    exact ⟨d, hd, Options.save_of_document hd store p⟩

/-- A session with a file, and with an input path that is not a text. -/
def strayPathSample : Session :=
  (start (.empty [])).performAll
    [.write (.ofText "a") [0x78], .change (.input ⟨⟨[0xFF]⟩, true⟩)]

/-- The sample cannot be saved over its file, which stays, and goes on as if that was never
tried. -/
theorem failed_requests_change_nothing_sample :
    (strayPathSample.perform (.save (.ofText "a"))).1 = .failed .unwritablePath ∧
    (strayPathSample.perform (.save (.ofText "a"))).2 = strayPathSample ∧
    strayPathSample.withoutFailures [.save (.ofText "a"), .reset, .setAction "x"] = [.reset] ∧
    strayPathSample.performAll [.reset] =
      strayPathSample.performAll [.save (.ofText "a"), .reset, .setAction "x"] := by
  have hfails : (strayPathSample.perform (.save (.ofText "a"))).1 = .failed .unwritablePath := by
    decide +kernel
  have hwithout : strayPathSample.withoutFailures
      [.save (.ofText "a"), .reset, .setAction "x"] = [.reset] := by
    decide +kernel
  obtain ⟨hstep, hrun, -⟩ := failed_requests_change_nothing
  refine ⟨hfails, hstep strayPathSample _ _ rfl hfails, hwithout, ?_⟩
  rw [← hrun strayPathSample [.save (.ofText "a"), .reset, .setAction "x"], hwithout]

end Session

end FrontendPolicy
