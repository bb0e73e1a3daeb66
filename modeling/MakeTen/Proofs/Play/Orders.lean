import Mathlib.Data.List.Chain
import MakeTen.Proofs.Play.Hearings
import MakeTen.Proofs.Play.Tales
/-!
# The order of the puzzles

Which puzzle a round shows is up to the picker and to the number of puzzles that were
solved before.  A round after a solution shows the next pick, and a round after a
rejection shows the puzzle of the round before; nothing else draws a puzzle.  So two
playthroughs with the same picker show the same puzzles in the same order, however many
attempts and lines they take for each of them.

Main results:

- Predicate `Opening.IsPicked`: the puzzle is the one picked for its number.
- Theorem `Round.Leads.isPicked`: it is so for the next round if it is for a round.
- Theorem `Tale.isPicked`: it is so for every round of a tale.
- Structure `Playthrough.Follows`: a playthrough whose rounds follow the picker.
- Theorem `Playthrough.order_is_the_pickers`: two playthroughs with the same picker
  follow the same picks.
-/

namespace MakeTen

variable {π σ : Type}

/-! ## Rounds of a tale -/

/-- The puzzle of an opening is the one that is picked for its number, after as many
other picks as there are numbers before it. -/
structure Opening.IsPicked (g : Game π σ) (picker : π) (o : Opening σ) : Prop where
  one_le : 1 ≤ o.score.puzzleNumber
  index_eq : o.score.puzzleIndex = g.picked picker (o.score.puzzleNumber - 1)

/-- A round changes neither the number of its puzzle nor the index. -/
theorem Round.puzzle_scoreAfter (r : Round σ) :
    r.scoreAfter.puzzleNumber = r.score.puzzleNumber ∧
      r.scoreAfter.puzzleIndex = r.score.puzzleIndex := by
  unfold Round.scoreAfter
  split <;> exact ⟨rfl, rfl⟩

/-- A round whose puzzle is the pick for its number leads to such a round. -/
theorem Round.Leads.isPicked {g : Game π σ} {picker : π} {r : Round σ} {next : Opening σ}
    (h : r.Leads g picker next) (hr : r.toOpening.IsPicked g picker) :
    next.IsPicked g picker := by
  obtain ⟨t, line, _, _, _, _, hsolved, hrejected⟩ := h
  obtain ⟨hnumber, hindex⟩ := r.puzzle_scoreAfter
  by_cases hverdict : t.verdict = .ok true
  · -- One number more, and the pick after those before.
    refine ⟨?_, ?_⟩
    · rw [hsolved hverdict]
      exact Nat.le_add_left 1 _
    · rw [hsolved hverdict, Score.advance, hnumber, Nat.add_sub_cancel]
  · obtain ⟨hscore, _, _⟩ := hrejected hverdict
    refine ⟨?_, ?_⟩
    · rw [hscore, hnumber]
      exact hr.one_le
    · rw [hscore, hnumber, hindex]
      exact hr.index_eq

/-- The puzzle of every round of a tale is the pick for its number. -/
theorem Tale.isPicked {g : Game π σ} {picker : π} {judge : σ} {rounds : List (Round σ)}
    {text : String} {lines : List String} {runs : List (List UInt8 × Verdict)}
    (h : Tale g picker judge rounds text lines runs) :
    ∀ r ∈ rounds, r.toOpening.IsPicked g picker := by
  refine h.leads.induction _ rounds (fun r next hleads hr => hleads.isPicked hr) ?_
  intro hne
  obtain ⟨r, hr, hscore, _⟩ := h.first
  rw [List.head?_eq_some_head hne, Option.mem_some] at hr
  rw [hr]
  exact ⟨by rw [hscore]; exact Nat.le_refl 1, by rw [hscore]; rfl⟩

/-! ## Main theorem -/

/-- A game with two puzzles, the second of which begins with a stop. -/
def Game.sampleOfTwo : Game Nat (List Verdict) where
  corpus := ⟨Game.sample.corpus.templates ++ [⟨1, [0x00, 0xCC, 0xCC, 0xCC],
    [.bare 0 0x00, .bare 1 placeholder, .bare 2 placeholder, .bare 3 placeholder]⟩]⟩
  pick := Game.sample.pick
  judge := Game.sample.judge

theorem Game.ofTexts_sampleOfTwo :
    Corpus.ofTexts ["0xXXXXXX", "00XXXXXX"] = .ok Game.sampleOfTwo.corpus := by
  decide +kernel

namespace Playthrough

/-- The playthrough is told by rounds that follow the picker: each of them shows the
puzzle that is picked for its number, and as many puzzles have been drawn as the number
of the last one says. -/
structure Follows (g : Game π σ) (picker : π) (judge : σ) (score : Score)
    (rounds : List (Round σ)) (p : Playthrough (σ × List (List UInt8 × Verdict))) : Prop where
  told : ∃ text, Tale g picker judge rounds text
      ((exchanges none p.events).map Exchange.line) p.judge.2 ∧
    transcript p.events = Display.welcomeText ++ "\n" ++ text ++ "Thanks for playing!\n"
  template_eq : ∀ r ∈ rounds,
    g.corpus.get? (g.picked picker (r.score.puzzleNumber - 1)) = some r.template
  last_number : ∃ r ∈ rounds.getLast?, r.score.puzzleNumber = score.puzzleNumber
  drawn_eq : p.events.filterMap Event.drawn? =
    (List.range score.puzzleNumber).map (g.picked picker)
  /-- After the lines that were heard, the picker is as it is after as many picks. -/
  picker_eq : ((Session.start g.recorded picker (judge, [])).2.hearAll g.recorded
      ((exchanges none p.events).map Exchange.line)).2.picker =
    g.pickerAfter picker score.puzzleNumber

variable {σ' : Type} {texts : List String} {g : Game π σ} {g' : Game π σ'} {picker : π}
  {judge : σ} {judge' : σ'} {input input' : Input} {t t' : Terminal} {score score' : Score}

/-- A playthrough that comes to its end follows the picker. -/
theorem exists_follows_of_ok (hg : ∀ t ∈ g.corpus.templates, t.Playable)
    (hok : (run g.recorded picker (judge, []) input t).result = .ok score) :
    ∃ rounds, Follows g picker judge score rounds
      (run g.recorded picker (judge, []) input t) := by
  obtain ⟨lines, unheard, events, s, hlines, hplayed, rfl, hends⟩ :=
    exists_played_of_ok (g := g.recorded) hg hok
  obtain ⟨text, earlier, last, htale, htext, hat⟩ := hplayed.told hg
  obtain ⟨_, hpicker, hdrawn, _⟩ := hplayed.picks_eq
  obtain ⟨_, hsession⟩ := hplayed.hearAll_eq (g := g.recorded) hg
  have hheard : (exchanges none (run g.recorded picker (judge, []) input t).events).map
      Exchange.line = lines := by rw [hends.exchanges_eq, hplayed.lines_eq]
  refine ⟨earlier ++ [last], ⟨text, ?_, ?_⟩, ?_, ⟨last, List.getLast?_concat, ?_⟩, ?_, ?_⟩
  · rw [hheard, hends.judge_eq]
    exact htale
  · rw [hends.events_eq, transcript_append, htext, String.append_assoc, s.ending_append_leave]
  · intro r hr
    rw [← (htale.isPicked r hr).index_eq]
    exact (htale.sound r hr).shown
  · rw [← hat.scoreAfter_eq]
    exact last.puzzle_scoreAfter.1.symm
  · rw [hends.filterMap_eq rfl, hdrawn, Game.picked_recorded]
  · rw [hheard, hsession, hpicker, Game.pickerAfter_recorded]

/-- Rounds with the same number show the same puzzle, in two playthroughs that follow
the same picks as in one. -/
theorem Follows.template_eq_of_number {rounds : List (Round σ)} {rounds' : List (Round σ')}
    {p : Playthrough (σ × List (List UInt8 × Verdict))}
    {p' : Playthrough (σ' × List (List UInt8 × Verdict))}
    (h : Follows g picker judge score rounds p) (h' : Follows g' picker judge' score' rounds' p')
    (hcorpus : g'.corpus = g.corpus) (hpick : g'.pick = g.pick) {r : Round σ} {r' : Round σ'}
    (hr : r ∈ rounds) (hr' : r' ∈ rounds')
    (hnumber : r.score.puzzleNumber = r'.score.puzzleNumber) : r.template = r'.template := by
  have hshown := h.template_eq r hr
  have hshown' := h'.template_eq r' hr'
  rw [hcorpus, Game.picked_congr hcorpus hpick, ← hnumber, hshown] at hshown'
  exact Option.some.inj hshown'

/-- The order of the puzzles is the picker's.

For every corpus that was read and every picker, take two playthroughs that come to their
end, with any judges, any inputs and any terminals.  Both are told by rounds.  A round
under some number shows the puzzle at the index that is picked after as many picks as
there are numbers before it, so that rounds under the same number show the same puzzle,
within each playthrough and in both of them.  And a playthrough that ends under some
number has drawn as many puzzles, which are the first ones that are picked. -/
theorem order_is_the_pickers (hcorpus : Corpus.ofTexts texts = .ok g.corpus)
    (hsame : g'.corpus = g.corpus) (hpick : g'.pick = g.pick)
    (hok : (run g.recorded picker (judge, []) input t).result = .ok score)
    (hok' : (run g'.recorded picker (judge', []) input' t').result = .ok score') :
    let p := run g.recorded picker (judge, []) input t
    let p' := run g'.recorded picker (judge', []) input' t'
    ∃ rounds rounds', Follows g picker judge score rounds p ∧
      Follows g' picker judge' score' rounds' p' ∧ g'.picked picker = g.picked picker ∧
      (∀ r ∈ rounds, ∀ r' ∈ rounds, r.score.puzzleNumber = r'.score.puzzleNumber →
        r.template = r'.template) ∧
      (∀ r ∈ rounds', ∀ r' ∈ rounds', r.score.puzzleNumber = r'.score.puzzleNumber →
        r.template = r'.template) ∧
      ∀ r ∈ rounds, ∀ r' ∈ rounds', r.score.puzzleNumber = r'.score.puzzleNumber →
        r.template = r'.template := by
  intro p p'
  have hg := Corpus.playable_of_ofTexts hcorpus
  have hg' : ∀ t ∈ g'.corpus.templates, t.Playable := by
    rw [hsame]
    exact hg
  obtain ⟨rounds, hfollows⟩ := exists_follows_of_ok hg hok
  obtain ⟨rounds', hfollows'⟩ := exists_follows_of_ok hg' hok'
  refine ⟨rounds, rounds', hfollows, hfollows', Game.picked_congr hsame hpick picker, ?_, ?_, ?_⟩
  · intro r hr r' hr' hnumber
    exact hfollows.template_eq_of_number hfollows rfl rfl hr hr' hnumber
  · intro r hr r' hr' hnumber
    exact hfollows'.template_eq_of_number hfollows' rfl rfl hr hr' hnumber
  · intro r hr r' hr' hnumber
    exact hfollows.template_eq_of_number hfollows' hsame hpick hr hr' hnumber

/-- A rejection, a text turned away and a yes on the way to the second puzzle, and the
same way in one attempt before a judge that lets everything pass: both playthroughs draw
the first puzzle and then the second. -/
theorem order_is_the_pickers_of_two_runs :
    let lenient : Game Nat Unit := ⟨Game.sampleOfTwo.corpus, Game.sampleOfTwo.pick,
      ⟨fun state _ => (.ok true, state), fun state _ => ("", state)⟩⟩
    let p := run Game.sampleOfTwo.recorded 0 ([.ok false, .ok true], [])
      ⟨Utf8.encodeString "040404\n\nzz\n010203\ny\n", .exhausted⟩ ⟨true, none, none⟩
    let p' := run lenient.recorded 0 ((), [])
      ⟨Utf8.encodeString "010203\nwhat\n\n020202\nn\n", .exhausted⟩ ⟨false, none, none⟩
    Corpus.ofTexts ["0xXXXXXX", "00XXXXXX"] = .ok Game.sampleOfTwo.corpus ∧
      p.result = .ok ⟨2, 1, 0, 2, 1, 1⟩ ∧ p'.result = .ok ⟨2, 1, 1, 2, 2, 0⟩ ∧
      p.events.filterMap Event.drawn? = [0, 1] ∧ p'.events.filterMap Event.drawn? = [0, 1] ∧
      ∃ rounds rounds', Follows Game.sampleOfTwo 0 [.ok false, .ok true] ⟨2, 1, 0, 2, 1, 1⟩ rounds p ∧
        Follows lenient 0 () ⟨2, 1, 1, 2, 2, 0⟩ rounds' p' ∧
        ∀ r ∈ rounds, ∀ r' ∈ rounds', r.score.puzzleNumber = r'.score.puzzleNumber →
          r.template = r'.template := by
  intro lenient p p'
  have hok : p.result = .ok ⟨2, 1, 0, 2, 1, 1⟩ := by decide +kernel
  have hok' : p'.result = .ok ⟨2, 1, 1, 2, 2, 0⟩ := by decide +kernel
  have hsame : lenient.corpus = Game.sampleOfTwo.corpus := rfl
  have hpick : lenient.pick = Game.sampleOfTwo.pick := rfl
  have hpicks : (List.range 2).map (Game.sampleOfTwo.picked 0) = [0, 1] := by decide
  obtain ⟨rounds, rounds', hfollows, hfollows', hpicked, _, _, hboth⟩ :=
    order_is_the_pickers Game.ofTexts_sampleOfTwo hsame hpick hok hok'
  refine ⟨Game.ofTexts_sampleOfTwo, hok, hok', ?_, ?_, rounds, rounds', hfollows, hfollows', hboth⟩
  · rw [hfollows.drawn_eq, hpicks]
  · rw [hfollows'.drawn_eq, hpicked, hpicks]

end Playthrough
end MakeTen
