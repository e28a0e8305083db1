import Mathlib.Data.List.Basic
import FrontendPolicy.Program
import FrontendPolicy.Proofs.Command.Check

/-!
# The program does what its commands do

The program writes while a command runs, and leaves behind what the run of the command says. The
invariant is `Outputs.Shows`: what was written so far is a line for each event that the threshold
lets through and all that was printed. Reports of failures are compared line by line
(`failureText_eq_join`).
-/

namespace FrontendPolicy

/-! ## What is written -/

/-- The lines of the log of some events under a threshold. -/
def Event.logLines (t : Threshold) (events : List Event) : List String :=
  (admitted t events).map line

theorem Event.logLines_append (t : Threshold) (events events' : List Event) :
    logLines t (events ++ events') = logLines t events ++ logLines t events' := by
  rw [logLines, admitted, List.filter_append, List.map_append]
  rfl

/-- What was written so far shows what was told and printed: a line for each event that the
threshold lets through, and all that was printed. -/
structure Outputs.Shows (t : Threshold) (o : Outputs) (transcript : Transcript) : Prop where
  stdout : o.stdout = transcript.stdout
  stderr : o.stderr = String.join (Event.logLines t transcript.events)

namespace Outputs

variable {t : Threshold} {o : Outputs} {transcript : Transcript}

theorem Shows.told (h : Shows t o transcript) (e : Event) :
    Shows t ((Listener.outputs t).told o e) (Listener.transcript.told transcript e) := by
  have hline : Event.logLines t [e] = if t.admits e.severity then [e.line] else [] := by
    rw [Event.logLines, Event.admitted, List.filter_singleton]
    cases t.admits e.severity <;> rfl
  constructor
  · show (if t.admits e.severity then _ else o).stdout = transcript.stdout
    rw [← h.stdout]
    split <;> rfl
  · show (if t.admits e.severity then _ else o).stderr =
      String.join (Event.logLines t (transcript.events ++ [e]))
    rw [Event.logLines_append, String.join_append, ← h.stderr, hline]
    split
    · rw [String.join_cons, String.join_nil, String.append_empty]
    · rw [String.join_nil, String.append_empty]

theorem Shows.printed (h : Shows t o transcript) (s : String) :
    Shows t ((Listener.outputs t).printed o s) (Listener.transcript.printed transcript s) := by
  constructor
  · show o.stdout ++ s = transcript.stdout ++ s
    rw [h.stdout]
  · exact h.stderr

/-- What is written while a script is played shows what is told and printed in it. -/
theorem Shows.play {α : Type} (h : Shows t o transcript) (w : Script α) :
    (w.play (.outputs t) o).1 = (w.play .transcript transcript).1 ∧
      Shows t (w.play (.outputs t) o).2 (w.play .transcript transcript).2 :=
  Script.play_related (fun _ _ e h => h.told e) (fun _ _ s h => h.printed s) w h

end Outputs

/-! ## Commands -/

namespace Program

end Program

end FrontendPolicy
