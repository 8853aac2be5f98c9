import Supervision.Proofs.Reader.Cursor

/-!
Steps one after the other on one text: the pieces that they take and the text that is unread after
each of them always make up the whole text.
-/

namespace Supervision

open Text

structure Passage where
  found : Option Yield
  taken : Text
  unread : Text

def Cursor.before (text rest : Text) : Cursor :=
  ⟨text, size text - size rest⟩

theorem Cursor.before_append (front rest : Text) : before (front ++ rest) rest = between front rest := by
  rw [before, between, size_append, Nat.add_sub_cancel]

theorem Cursor.afterBytes_before {text rest : Text} (ends : rest <:+ text) :
    afterBytes (before text rest).position text = some rest := by
  obtain ⟨front, rfl⟩ := ends
  rw [before_append]
  exact afterBytes_size front rest

namespace Step

variable {step : Step} {steps : List Step} {text : Text} {passage : Passage}
  {passages : List Passage}

/-- How a step goes through a text. One that yields nothing could not have taken any front of the
unread text, and leaves all of it. -/
inductive Passes (step : Step) : Text → Passage → Prop
  | yields {found : Yield} {taken rest : Text} : Takes step found taken rest →
      Passes step (taken ++ rest) ⟨some found, taken, rest⟩
  | stops {text : Text} : (∀ found taken rest, text = taken ++ rest → ¬Takes step found taken rest) →
      Passes step text ⟨none, [], text⟩

inductive PassesAll : List Step → Text → List Passage → Prop
  | nil {text : Text} : PassesAll [] text []
  | cons {step : Step} {steps : List Step} {text : Text} {passage : Passage}
      {passages : List Passage} : Passes step text passage →
      PassesAll steps passage.unread passages →
      PassesAll (step :: steps) text (passage :: passages)

/-! One step. -/

theorem read_eq_none_iff :
    read step text = none ↔
      ∀ found taken rest, text = taken ++ rest → ¬Takes step found taken rest := by
  constructor
  · intro stopped found taken rest equal takes
    have yielded := (read_eq_some_iff step text rest found).mpr ⟨taken, takes, equal⟩
    rw [stopped] at yielded
    cases yielded
  · intro refuses
    refine Option.eq_none_iff_forall_ne_some.mpr fun ⟨found, rest⟩ yielded => ?_
    obtain ⟨taken, takes, equal⟩ := (read_eq_some_iff step text rest found).mp yielded
    exact refuses found taken rest equal takes

theorem exists_passes (step : Step) (text : Text) : ∃ passage, Passes step text passage := by
  cases here : read step text with
  | none => exact ⟨_, .stops (read_eq_none_iff.mp here)⟩
  | some ended =>
      obtain ⟨taken, takes, rfl⟩ := (read_eq_some_iff step text ended.2 ended.1).mp here
      exact ⟨_, .yields takes⟩

theorem Passes.conserves (passes : Passes step text passage) :
    text = passage.taken ++ passage.unread := by
  cases passes with
  | yields takes => rfl
  | stops refuses => rfl

theorem Passes.trace_cons (passes : Passes step text passage) (steps : List Step) :
    trace (step :: steps) text = (passage.found, passage.unread) :: trace steps passage.unread := by
  cases passes with
  | yields takes => rw [trace, (read_eq_some_iff ..).mpr ⟨_, takes, rfl⟩]
  | stops refuses => rw [trace, read_eq_none_iff.mpr refuses]

theorem Passes.result_scan (passes : Passes step text passage) (front : Text) :
    step.scan.result (.between front text) =
      some (passage.found, .between (front ++ passage.taken) passage.unread) := by
  cases passes with
  | yields takes =>
      have here := (read_eq_some_iff step _ _ _).mpr ⟨_, takes, rfl⟩
      obtain ⟨piece, equal, scanned⟩ := (follows_scan step).yields here
      obtain rfl := List.append_cancel_right equal
      exact scanned
  | stops refuses =>
      obtain ⟨after, scanned⟩ := (follows_scan step).stops (read_eq_none_iff.mpr refuses)
      rw [List.append_nil, scanned, rewinds_scan step _ _ scanned]

/-! A run of steps. -/

theorem exists_passesAll (steps : List Step) (text : Text) :
    ∃ passages, PassesAll steps text passages := by
  induction steps generalizing text with
  | nil => exact ⟨[], .nil⟩
  | cons step steps ih =>
      obtain ⟨passage, here⟩ := exists_passes step text
      obtain ⟨passages, later⟩ := ih passage.unread
      exact ⟨passage :: passages, .cons here later⟩

theorem PassesAll.trace_eq (passes : PassesAll steps text passages) :
    trace steps text = passages.map fun passage => (passage.found, passage.unread) := by
  induction passes with
  | nil => rfl
  | cons here later ih => rw [here.trace_cons, ih, List.map_cons]

theorem PassesAll.conserves (passes : PassesAll steps text passages) {earlier later : List Passage}
    (split : passages = earlier ++ passage :: later) :
    text = (earlier ++ [passage]).flatMap Passage.taken ++ passage.unread := by
  induction passes generalizing earlier with
  | nil => simp at split
  | cons here others ih =>
      rw [here.conserves]
      cases earlier with
      | nil =>
          obtain ⟨rfl, -⟩ := List.cons.inj split
          simp
      | cons first earlier =>
          obtain ⟨rfl, splitLater⟩ := List.cons.inj split
          rw [ih splitLater]
          simp

theorem PassesAll.placesFrom_eq (passes : PassesAll steps text passages) (front : Text) :
    placesFrom steps (.between front text) = some (passages.map fun passage =>
      (passage.found, .before (front ++ text) passage.unread)) := by
  induction passes generalizing front with
  | nil => rfl
  | @cons step steps text passage passages here later ih =>
      have whole : front ++ passage.taken ++ passage.unread = front ++ text := by
        rw [List.append_assoc, ← here.conserves]
      have place : Cursor.between (front ++ passage.taken) passage.unread =
          .before (front ++ text) passage.unread := by
        rw [← Cursor.before_append, whole]
      have others := ih (front ++ passage.taken)
      rw [whole, place] at others
      simp only [placesFrom, here.result_scan, others, bind, pure, Option.bind_some, place,
        List.map_cons]

end Step

/-- Whatever the steps, however deep they are nested, and wherever in them something is missing:
the pieces of the text that they take are those that they are defined by, and with the text unread
after a step they make up the whole text. A cursor moved in place stands, after each step, in front
of that unread text. -/
theorem Step.steps_conserve_text (steps : List Step) (text : Text) :
    ∃ passages, PassesAll steps text passages ∧
      trace steps text = passages.map (fun passage => (passage.found, passage.unread)) ∧
      placesFrom steps ⟨text, 0⟩ = some (passages.map fun passage =>
        (passage.found, .before text passage.unread)) ∧
      ∀ earlier passage later, passages = earlier ++ passage :: later →
        text = (earlier ++ [passage]).flatMap Passage.taken ++ passage.unread ∧
        afterBytes (Cursor.before text passage.unread).position text = some passage.unread := by
  obtain ⟨passages, passes⟩ := exists_passesAll steps text
  refine ⟨passages, passes, passes.trace_eq, passes.placesFrom_eq [], ?_⟩
  intro earlier passage later split
  have whole := passes.conserves split
  exact ⟨whole, Cursor.afterBytes_before ⟨_, whole.symm⟩⟩

example : Step.placesFrom [.attempt [.word, .gap, .digits], .word] ⟨"é x".toList, 0⟩ =
    some [(none, ⟨"é x".toList, 0⟩), (some (.text "é".toList), ⟨"é x".toList, 2⟩)] := by
  rfl

end Supervision
