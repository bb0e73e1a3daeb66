import MakeTen.Proofs.Play.Courses
/-!
# Questions and answers of a playthrough

What is asked and what is answered can be read off the events of a playthrough:
each line that is heard answers the prompt that was shown last before it.  What
a line means is then a matter of that prompt and of the line alone, so that the
counters of a session can be held against the record.

Main results:

- Functions `exchanges`, `lastPrompt`: the lines heard with their prompts, and
  the prompt that still waits.
- Theorem `Session.Played.lastPrompt_eq`: a session waits at the prompt that was
  shown last.
- Theorem `Session.Played.exchanges_hear`: hearing a line adds one exchange.
- Theorem `Session.Played.lines_eq`: the lines of the exchanges are those heard.
-/

namespace MakeTen

variable {π σ : Type}

/-! ## Reading exchanges off events -/

/-- A line and the prompt that was shown last before it, if there was one. -/
structure Exchange where
  prompt : Option Prompt
  line : String
  deriving Repr, DecidableEq

namespace Exchange

/-- The line was read at a solution prompt and is no solution once trimmed. -/
def isRejected (x : Exchange) : Bool :=
  x.prompt = some .solution && (Solution.ofText? (Blank.trimmed x.line)).isNone

/-- The line says yes to the next puzzle. -/
def isAdvance (x : Exchange) : Bool :=
  x.prompt = some (.goOn .solved) && answer? x.line = some true

end Exchange

/-- The prompt that is shown last, when `before` was shown before the events. -/
def lastPrompt (before : Option Prompt) : List Event → Option Prompt
  | [] => before
  | .shown (.prompt p) :: events => lastPrompt (some p) events
  | _ :: events => lastPrompt before events

/-- The lines that are heard, each with the prompt that was shown last before it,
when `before` was shown before the events. -/
def exchanges (before : Option Prompt) : List Event → List Exchange
  | [] => []
  | .shown (.prompt p) :: events => exchanges (some p) events
  | .heard line _ :: events => ⟨before, line⟩ :: exchanges before events
  | _ :: events => exchanges before events

theorem lastPrompt_append (before : Option Prompt) (events more : List Event) :
    lastPrompt before (events ++ more) = lastPrompt (lastPrompt before events) more := by
  fun_induction lastPrompt before events with
  | case1 before => rfl
  | case2 before p events ih => rw [List.cons_append, lastPrompt, ih]
  | case3 before event events hevent ih =>
    rw [List.cons_append, lastPrompt, ih]
    exact hevent

theorem exchanges_append (before : Option Prompt) (events more : List Event) :
    exchanges before (events ++ more) =
      exchanges before events ++ exchanges (lastPrompt before events) more := by
  fun_induction exchanges before events with
  | case1 before => rfl
  | case2 before p events ih => rw [List.cons_append, exchanges, ih, lastPrompt]
  | case3 before line use events ih =>
    rw [List.cons_append, exchanges, ih, List.cons_append]
    rfl
  | case4 before event events hprompt hheard ih =>
    rw [List.cons_append, exchanges, ih, lastPrompt]
    · exact hprompt
    · exact hprompt
    · exact hheard

/-! ## Exchanges of a session -/

/-- The prompt at which a session waits. -/
def Phase.prompt? : Phase → Option Prompt
  | .solving _ => some .solution
  | .asking outcome => some (.goOn outcome)
  | .closed => none
  | .failed _ => none

namespace Session

variable {g : Game π σ} {picker : π} {judge : σ} {lines : List String} {events more : List Event}
  {s s' : Session π σ} {line : String}

/-- A session that hears a line waits for one. -/
theorem Heard.isOver_eq_false (h : Heard g s line more s') : s.phase.isOver = false := by
  cases h with
  | turnedAway hphase => rw [hphase]; rfl
  | taken hphase => rw [hphase]; rfl
  | unclear hphase => rw [hphase]; rfl
  | no hphase => rw [hphase]; rfl
  | again hphase => rw [hphase]; rfl
  | next hphase => rw [hphase]; rfl

/-- The events that go with a line hold one exchange: the line, at the prompt
that was shown before. -/
theorem Heard.exchanges_eq (h : Heard g s line more s') (before : Option Prompt) :
    exchanges before more = [⟨before, line⟩] := by
  cases h <;> rfl

/-- After a line the prompt that was shown last is the one at which the session
waits. -/
theorem Heard.lastPrompt_eq (h : Heard g s line more s') (hover : s'.phase.isOver = false)
    (before : Option Prompt) : lastPrompt before more = s'.phase.prompt? := by
  cases h with
  | turnedAway => rfl
  | taken => rfl
  | @unclear outcome hphase =>
    rw [hphase]
    rfl
  | no => simp [Phase.isOver] at hover
  | again => rfl
  | next => rfl

/-- A session waits at the prompt that was shown last. -/
theorem Played.lastPrompt_eq (h : Played g picker judge lines events s)
    (hover : s.phase.isOver = false) : lastPrompt none events = s.phase.prompt? := by
  cases h with
  | start => rfl
  | hear hplayed hheard => rw [lastPrompt_append, hheard.lastPrompt_eq hover]

/-- Hearing a line adds one exchange: the line, at the prompt at which the
session waits. -/
theorem Played.exchanges_hear (h : Played g picker judge lines events s)
    (hheard : Heard g s line more s') :
    exchanges none (events ++ more) = exchanges none events ++ [⟨s.phase.prompt?, line⟩] := by
  rw [exchanges_append, h.lastPrompt_eq hheard.isOver_eq_false, hheard.exchanges_eq]

/-- The lines of the exchanges are the lines that have been heard. -/
theorem Played.lines_eq (h : Played g picker judge lines events s) :
    (exchanges none events).map Exchange.line = lines := by
  induction h with
  | start => rfl
  | hear hplayed hheard ih => rw [hplayed.exchanges_hear hheard, List.map_append, ih]; rfl

/-- Nothing is heard when the lines run out. -/
theorem exchanges_leave (s : Session π σ) (before : Option Prompt) :
    exchanges before s.leave.1 = [] := by
  unfold leave
  split <;> rfl

end Session

namespace Playthrough

variable {ending : Ending} {colored : Bool} {unheard : List String} {events : List Event}
  {s : Session π σ} {p : Playthrough σ}

/-- The exchanges of a playthrough are those of the session with which it
ends. -/
theorem Concludes.exchanges_eq (h : Concludes ending colored unheard events s p) :
    exchanges none p.events = exchanges none events := by
  rw [h.events_eq, exchanges_append, Session.exchanges_leave, List.append_nil]

end Playthrough
end MakeTen
