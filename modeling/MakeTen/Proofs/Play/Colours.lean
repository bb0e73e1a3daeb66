import MakeTen.Proofs.Play.Courses
import MakeTen.Proofs.Terminal.Untinting
import MakeTen.Proofs.Text.Words
/-!
# Colour never changes the game

What a session shows are words, and no word of its own holds the escape character:
names, digits, titles and questions do not, and links do not if the judge keeps it
out of them.  So what a coloured terminal is sent becomes what a plain one is sent
once the sequences are taken away.

A session does not see the terminal, and a terminal without a limit on its room goes
along or fails in the same way whether or not it is coloured.  Two playthroughs that
differ in colour alone are therefore the same game, step by step.

Main results:

- Theorem `Display.inert_spans`: no word that is shown holds the escape character.
- Theorem `Session.Heard.inert`: what a step shows is such words, and links.
- Relation `Playthrough.Recolours`: two playthroughs that differ in colour alone.
- Theorem `Playthrough.colour_never_changes_game`: colour changes nothing else.
-/

namespace MakeTen

variable {π σ : Type}

/-! ## Words that are shown -/

/-- Letters and digits are inert. -/
theorem IsWord.inert {text : String} (h : IsWord text) : Inert text :=
  h.not_mem rfl

/-- A link to the playground is inert if its call data are. -/
theorem inert_playgroundLink {callData : String} (h : Inert callData) (code : List UInt8) :
    Inert (playgroundLink callData code) := by
  unfold playgroundLink
  simp only [inert_append]
  exact ⟨⟨⟨⟨by decide +kernel, h⟩, by decide⟩, (isWord_lower code).inert⟩, by decide⟩

theorem Instruction.inert_text (i : Instruction) : Inert i.text := by
  rw [Instruction.text]
  split
  · exact i.mnemonic.isWord_text.inert
  · simp only [inert_append]
    exact ⟨⟨i.mnemonic.isWord_text.inert, by decide⟩, (isWord_upper i.immediate).inert⟩

theorem Listing.inert_pad {cell : String} (h : Inert cell) (width : Nat) :
    Inert (pad width cell) := by
  rw [Inert, pad, String.toList_ofList, List.mem_append, not_or]
  refine ⟨h, fun hblank => ?_⟩
  exact absurd (List.eq_of_mem_replicate hblank) (by decide)

/-- No cell of a listing holds the escape character. -/
theorem Listing.inert_spans (instructions : List Instruction) :
    ∀ s ∈ Listing.spans instructions, Inert s.text := by
  intro s hs
  obtain ⟨r, hr, hline⟩ := List.mem_flatMap.1 hs
  obtain ⟨i, _, rfl⟩ := List.mem_map.1 hr
  simp only [Listing.line, List.mem_cons, List.not_mem_nil, or_false] at hline
  rcases hline with rfl | rfl | rfl | rfl | rfl | rfl
  · exact (isWord_natUpper i.pc).inert
  · decide
  · exact inert_pad (isWord_upper i.bytes).inert _
  · decide
  · exact i.inert_text
  · decide

theorem inert_titleBanner (number : Nat) : Inert (titleBanner number) := by
  have hborder : ∀ n, Inert (String.ofList (List.replicate n '#')) := by
    intro n hmem
    rw [String.toList_ofList] at hmem
    exact absurd (List.eq_of_mem_replicate hmem) (by decide)
  simp only [titleBanner, inert_append]
  have hnumber := (isWord_toString number).inert
  refine ⟨⟨⟨⟨⟨hborder _, ?_⟩, ?_, hnumber⟩, ?_⟩, hborder _⟩, ?_⟩ <;> decide

namespace Display

theorem inert_welcomeText : Inert welcomeText := by
  unfold welcomeText
  simp only [inert_append]
  refine ⟨⟨⟨?_, ?_⟩, ?_⟩, ?_⟩ <;> decide +kernel

/-- No word that is shown holds the escape character, unless it is in a link. -/
theorem inert_spans {d : Display} (h : ∀ address, d = .link address → Inert address) :
    ∀ s ∈ d.spans, Inert s.text := by
  cases d with
  | welcome =>
    intro s hs
    obtain rfl := List.mem_singleton.1 hs
    exact (inert_append _ _).2 ⟨inert_welcomeText, by decide⟩
  | banner number =>
    intro s hs
    obtain rfl := List.mem_singleton.1 hs
    exact (inert_append _ _).2 ⟨inert_titleBanner number, by decide⟩
  | listing instructions => exact Listing.inert_spans instructions
  | blankLine => decide
  | prompt p =>
    cases p with
    | solution => decide
    | goOn outcome => cases outcome <;> decide
  | verdict outcome => cases outcome <;> decide
  | link address =>
    intro s hs
    obtain rfl := List.mem_singleton.1 hs
    simp only [Span.plain, inert_append]
    refine ⟨⟨?_, h address rfl⟩, ?_⟩ <;> decide
  | farewell => decide

end Display

namespace Event

/-- The event shows no link with the escape character. -/
def Inert : Event → Prop
  | .shown (.link address) => MakeTen.Inert address
  | _ => True

/-- What an event sends to a coloured terminal leaves behind what it sends to a plain
one. -/
theorem untints_output {event : Event} (h : event.Inert) :
    Untints (event.output true) (event.output false) := by
  cases event with
  | shown d =>
    refine Span.untints_renderAll (Display.inert_spans ?_)
    rintro address rfl
    exact h
  | _ => exact Untints.nil

end Event

/-! ## Terminals that differ in colour -/

namespace Terminal

/-- What is left of two terminals without limited rooms that differ in colour
alone. -/
inductive Recolours : Except String Terminal → Except String Terminal → Prop where
  | failed (reason : String) : Recolours (.error reason) (.error reason)
  | left (flushes : Option Flushes) :
      Recolours (.ok ⟨true, none, flushes⟩) (.ok ⟨false, none, flushes⟩)

theorem recolours_flush (flushes : Option Flushes) :
    Recolours (flush ⟨true, none, flushes⟩) (flush ⟨false, none, flushes⟩) := by
  rcases flushes with _ | ⟨_ | count, reason⟩
  · exact .left none
  · exact .failed reason
  · exact .left (some ⟨count, reason⟩)

/-- An event leaves two such terminals with the same flushes. -/
theorem recolours_display (flushes : Option Flushes) (event : Event) :
    Recolours (display ⟨true, none, flushes⟩ event).2 (display ⟨false, none, flushes⟩ event).2 := by
  rw [display_of_room_none, display_of_room_none]
  cases event.isFlushed with
  | true => exact recolours_flush flushes
  | false => exact .left flushes

/-- Two deliveries of the same events that differ in colour alone. -/
structure Delivery.Recolours (tinted plain : Delivery) : Prop where
  events_eq : tinted.events = plain.events
  untints : Untints tinted.output plain.output
  rest : Terminal.Recolours tinted.rest plain.rest

/-- Events leave two terminals without limited rooms with the same flushes, and what
they send differs by the sequences for tints. -/
theorem recolours_deliver {events : List Event} (h : ∀ e ∈ events, e.Inert)
    (flushes : Option Flushes) :
    Delivery.Recolours (deliver ⟨true, none, flushes⟩ events)
      (deliver ⟨false, none, flushes⟩ events) := by
  induction events generalizing flushes with
  | nil => exact ⟨rfl, .nil, .left flushes⟩
  | cons event events ih =>
    rw [List.forall_mem_cons] at h
    have hsent := event.untints_output h.1
    have htinted := display_of_room_none true flushes event
    have hplain := display_of_room_none false flushes event
    have hrest := recolours_display flushes event
    rw [htinted, hplain] at hrest
    generalize (if event.isFlushed then flush ⟨true, none, flushes⟩
      else .ok ⟨true, none, flushes⟩) = tinted at htinted hrest
    generalize (if event.isFlushed then flush ⟨false, none, flushes⟩
      else .ok ⟨false, none, flushes⟩) = plain at hplain hrest
    cases hrest with
    | failed reason =>
      rw [deliver_cons_of_error htinted, deliver_cons_of_error hplain]
      exact ⟨rfl, hsent, .failed reason⟩
    | left flushes' =>
      obtain ⟨hevents, houtput, hleft⟩ := ih h.2 flushes'
      rw [deliver_cons_of_ok htinted, deliver_cons_of_ok hplain]
      exact ⟨congrArg (event :: ·) hevents, hsent.append houtput, hleft⟩

end Terminal

/-! ## Steps of a session -/

namespace Session

variable {g : Game π σ} {s s' : Session π σ} {line : String} {events : List Event}

/-- What is shown at the start of a round are words of the game. -/
theorem inert_roundEvents (number : Nat) (t : Template) :
    ∀ e ∈ roundEvents number t, e.Inert := by
  simp [roundEvents, Event.Inert]

/-- The only link that a line leads to is one of the judge. -/
theorem Heard.inert (hlink : ∀ j code, Inert (g.judge.link j code).1)
    (h : Heard g s line events s') : ∀ e ∈ events, e.Inert := by
  cases h with
  | turnedAway => simp [Event.Inert]
  | @taken t n solution report hphase ht hline hreport =>
    have hreported : Inert report.link := by
      rw [hreport]
      exact hlink _ _
    simpa [reportEvents, Event.Inert] using hreported
  | unclear => simp [Event.Inert]
  | no => simp [Event.Inert]
  | again hphase hline ht =>
    simpa [Event.Inert] using inert_roundEvents _ _
  | next hphase hline hpick ht =>
    simpa [Event.Inert] using inert_roundEvents _ _

theorem Lost.inert (h : Lost g s line events s') : ∀ e ∈ events, e.Inert := by
  cases h with
  | next => simp [Event.Inert]

theorem inert_start (g : Game π σ) (picker : π) (judge : σ) :
    ∀ e ∈ (start g picker judge).1, e.Inert := by
  rcases start_cases g picker judge with ⟨index, next, t, _, hstart⟩ | ⟨index, next, hstart⟩
  · rw [hstart]
    simpa [Event.Inert] using inert_roundEvents 1 t
  · rw [hstart]
    simp [Event.Inert]

theorem inert_leave (s : Session π σ) : ∀ e ∈ s.leave.1, e.Inert := by
  unfold leave
  split <;> simp [Event.Inert]

/-- A steady session shows words of the game and links of the judge, whatever it
hears. -/
theorem Steady.inert (hg : ∀ t ∈ g.corpus.templates, t.Playable)
    (hlink : ∀ j code, Inert (g.judge.link j code).1) (h : Steady g s)
    (line : String) : ∀ e ∈ (s.hear g line).1, e.Inert := by
  rcases h.hear_cases hg line with ⟨_, hstays⟩ | ⟨_, hheard | hlost⟩
  · rw [hstays]
    simp
  · exact hheard.inert hlink
  · exact hlost.inert

end Session

/-! ## Playthroughs that differ in colour -/

namespace Playthrough

/-- Two playthroughs that differ in colour alone. -/
structure Recolours (tinted plain : Playthrough σ) : Prop where
  events_eq : tinted.events = plain.events
  untints : Untints tinted.output plain.output
  judge_eq : tinted.judge = plain.judge
  result_eq : tinted.result = plain.result

theorem recolours_ofSession (s : Session π σ) (result : Except SessionFault Score) :
    Recolours (ofSession s result) (ofSession s result) :=
  ⟨rfl, .nil, rfl, rfl⟩

/-- Showing something and going on differs in colour alone, if going on does. -/
theorem recolours_showThen {events : List Event} (h : ∀ e ∈ events, e.Inert)
    (flushes : Option Flushes) (s : Session π σ) {next next' : Terminal → Playthrough σ}
    (hnext : ∀ flushes, Recolours (next ⟨true, none, flushes⟩) (next' ⟨false, none, flushes⟩)) :
    Recolours (showThen ⟨true, none, flushes⟩ events s next)
      (showThen ⟨false, none, flushes⟩ events s next') := by
  obtain ⟨hevents, houtput, hrest⟩ := Terminal.recolours_deliver h flushes
  simp only [showThen]
  generalize (Terminal.deliver ⟨true, none, flushes⟩ events).rest = tinted at hrest ⊢
  generalize (Terminal.deliver ⟨false, none, flushes⟩ events).rest = plain at hrest ⊢
  cases hrest with
  | failed reason => exact ⟨hevents, houtput, rfl, rfl⟩
  | left flushes' =>
    obtain ⟨hlater, hoverall, hjudge, hresult⟩ := hnext flushes'
    exact ⟨congrArg₂ (· ++ ·) hevents hlater, houtput.append hoverall, hjudge, hresult⟩

/-- Going on with a steady session differs in colour alone. -/
theorem recolours_continueWith {g : Game π σ} (hg : ∀ t ∈ g.corpus.templates, t.Playable)
    (hlink : ∀ j code, Inert (g.judge.link j code).1) (ending : Ending)
    {s : Session π σ} (hs : s.Steady g) (flushes : Option Flushes) (lines : List String) :
    Recolours (continueWith g ending s ⟨true, none, flushes⟩ lines)
      (continueWith g ending s ⟨false, none, flushes⟩ lines) := by
  induction lines generalizing s flushes with
  | nil =>
    simp only [continueWith]
    cases result? s with
    | some result => exact recolours_ofSession s result
    | none =>
      cases ending with
      | broken reason => exact recolours_ofSession s _
      | exhausted =>
        exact recolours_showThen s.inert_leave flushes _ fun _ => recolours_ofSession _ _
  | cons line lines ih =>
    simp only [continueWith]
    cases result? s with
    | some result => exact recolours_ofSession s result
    | none =>
      exact recolours_showThen (hs.inert hg hlink line) flushes _ fun flushes =>
        ih (hs.hear hg line) flushes

variable {texts : List String} {g : Game π σ}

/-- Colour never changes the game.

For every corpus that was read, whatever the picker, the judge and the input, and
however often the terminal can be flushed: if no link holds the escape character, a
playthrough on a coloured terminal and the one on a plain terminal have the same
result and the same state in the end, with the same code judged to the same verdicts
in the same order; and the same happened in both, so that the same lines were heard.

What the plain terminal was sent holds no escape character, and it is what the
coloured one was sent without the sequences that set and reset tints. -/
theorem colour_never_changes_game (hcorpus : Corpus.ofTexts texts = .ok g.corpus)
    (hlink : ∀ j code, Inert (g.judge.link j code).1) (picker : π) (judge : σ) (input : Input)
    (flushes : Option Flushes) :
    let tinted := run g.recorded picker (judge, []) input ⟨true, none, flushes⟩
    let plain := run g.recorded picker (judge, []) input ⟨false, none, flushes⟩
    tinted.result = plain.result ∧ tinted.judge = plain.judge ∧ tinted.events = plain.events ∧
      Tint.escapeByte ∉ plain.output ∧ untinted tinted.output = plain.output := by
  intro tinted plain
  have hg := Corpus.playable_of_ofTexts hcorpus
  have hrecorded : ∀ j code, Inert (g.recorded.judge.link j code).1 := fun j code => hlink j.1 code
  have hgame : Recolours tinted plain :=
    recolours_showThen (Session.inert_start g.recorded picker (judge, [])) flushes _ fun flushes =>
      recolours_continueWith (g := g.recorded) hg hrecorded input.ending
        (Session.steady_start g.recorded picker (judge, [])) flushes input.lines
  exact ⟨hgame.result_eq, hgame.judge_eq, hgame.events_eq, hgame.untints.escape_not_mem,
    hgame.untints.untinted_eq⟩

/-- A wrong solution, a text turned away, a right solution and a no, with links to the
playground: the same two runs of the judge with tints and without them, and the same
output once the sequences are taken away. -/
theorem colour_never_changes_game_of_two_runs :
    let input : Input := ⟨Utf8.encodeString "040404\n\nzz\n010203\nn\n", .exhausted⟩
    let tinted := run Game.sample.recorded 0 ([.ok false, .ok true], []) input ⟨true, none, none⟩
    let plain := run Game.sample.recorded 0 ([.ok false, .ok true], []) input ⟨false, none, none⟩
    Corpus.ofTexts ["0xXXXXXX"] = .ok Game.sample.corpus ∧
      (∀ j code, Inert (Game.sample.judge.link j code).1) ∧
      plain.result = .ok ⟨1, 0, 2, 2, 1, 1⟩ ∧ tinted.result = .ok ⟨1, 0, 2, 2, 1, 1⟩ ∧
      tinted.judge.2 = [([4, 4, 4], .ok false), ([1, 2, 3], .ok true)] ∧
      Tint.escapeByte ∉ plain.output ∧ untinted tinted.output = plain.output := by
  intro input tinted plain
  have hlink : ∀ j code, Inert (Game.sample.judge.link j code).1 := fun _ code =>
    inert_playgroundLink (by decide) code
  have hok : plain.result = .ok ⟨1, 0, 2, 2, 1, 1⟩ := by decide +kernel
  have hruns : plain.judge.2 = [([4, 4, 4], .ok false), ([1, 2, 3], .ok true)] := by
    decide +kernel
  obtain ⟨hresult, hjudge, _, hescape, huntinted⟩ :=
    colour_never_changes_game Game.ofTexts_sample hlink 0 [.ok false, .ok true] input none
  have htinted : tinted.judge.2 = plain.judge.2 := congrArg Prod.snd hjudge
  exact ⟨Game.ofTexts_sample, hlink, hok, hresult.trans hok, htinted.trans hruns, hescape,
    huntinted⟩

end Playthrough
end MakeTen
