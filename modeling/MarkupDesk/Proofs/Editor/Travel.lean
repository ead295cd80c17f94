/-
`Proofs/Editor/Travel.lean` -- the keys that go from line to line.

In insert mode and without a popup, the keys up and down and the page keys move the caret and do
nothing else, so a trip with the keys is a trip of the caret (`Travelled.caret`), whatever the
editor does by itself between the keys. Where it ends is then a matter of the caret alone
(`travel_aims`), and `travelled_lands` says it: on the line that the keys add up to as far as
there are lines, in the column where the trip began or as near to it as this line is long.
-/
import MarkupDesk.Proofs.Editing.Column
import MarkupDesk.Proofs.Editor.Typing

set_option autoImplicit false

namespace MarkupDesk.Editor

open Editing (Caret Clear FeedsOnly LineMotion lineBehind lineColumn lineCount lineLength shifts
  travel)

variable {e e' : Editor} {s : Session} {trip : List (LineMotion × Nat)}

/-! ## 1. One key -/

/-- The key of a motion. -/
def motionKey : LineMotion → Key
  | .up => ⟨.up, false⟩
  | .down => ⟨.down, false⟩
  | .pageUp => ⟨.pageUp, false⟩
  | .pageDown => ⟨.pageDown, false⟩

/-- The editor behind the key of a motion. -/
def moveKey (rows : Nat) (motion : LineMotion) (e : Editor) : Editor :=
  (e.move fun t caret => motion.run t rows caret).closePopup

/-- The key moves the caret. -/
theorem handle_motion (hmode : e.mode = .insert) (hpopup : e.popup = none) (motion : LineMotion)
    (rows : Nat) (s : Session) :
    (e.handle rows (motionKey motion)).run s = (e.moveKey rows motion, s) := by
  have hkey : (e.popup.bind fun popup => e.popupKey? s.ticks (motionKey motion).code popup) =
      none := by rw [hpopup, Option.bind_none]
  unfold handle
  rw [hmode]
  simp only
  rw [insertKey_run]
  simp only [hkey]
  cases motion <;> rfl

/-! ## 2. Trips -/

/-- A trip with the keys. Between them the editor does what it does by itself, and every step has a
session of its own. -/
inductive Travelled : List (LineMotion × Nat) → Editor → Editor → Prop where
  | nothing (e : Editor) : Travelled [] e e
  | key {trip : List (LineMotion × Nat)} {e e' : Editor} (motion : LineMotion) (rows : Nat)
    (s : Session) (h : Travelled trip ((e.handle rows (motionKey motion)).run s).1 e') :
    Travelled ((motion, rows) :: trip) e e'
  | idle {trip : List (LineMotion × Nat)} {e e' : Editor} (event : Event) (hidle : event.Idle)
    (s : Session) (h : Travelled trip ((event.run e).run s).1 e') : Travelled trip e e'

/-- A trip with the keys is a trip of the caret, and nothing else. -/
theorem Travelled.caret (h : Travelled trip e e') (hmode : e.mode = .insert)
    (hpopup : e.popup = none) :
    e'.source = e.source ∧ e'.caret = travel e.source trip e.caret := by
  induction h with
  | nothing e => exact ⟨rfl, rfl⟩
  | key motion rows s _ ih =>
    rw [handle_motion hmode hpopup] at ih
    exact ih hmode rfl
  -- what is idle keeps the text, the caret and the mode, so the trip goes on from the same place
  | @idle trip e e' event hidle s _ ih =>
    obtain ⟨htext, hcaret, hpopup', hmode', -⟩ := Stance.mk.inj (hidle.stance e s)
    obtain ⟨hsource, hplace⟩ := ih (hmode'.trans hmode) (hpopup'.trans hpopup)
    rw [htext] at hsource hplace
    rw [hcaret] at hplace
    exact ⟨hsource, hplace⟩

/-- A press of such a key: the screen is drawn, the caret is moved, and the content is saved if it
is time to. -/
theorem press_motion (hmode : e.mode = .insert) (hpopup : e.popup = none) (hopen : e.ended = false)
    (motion : LineMotion) (size : Nat × Nat) (s : Session) :
    (e.press size (motionKey motion)).run s =
      ((e.prepare size).moveKey (e.layout size).editor.innerSize.2 motion).savePending.run s := by
  obtain ⟨-, -, hpopup', hmode', hstill⟩ := Stance.mk.inj (prepare_stance size e)
  have hopen' : ((e.prepare size).moveKey (e.layout size).editor.innerSize.2 motion).ended =
      false := hstill.trans hopen
  exact press_of_open hopen
    (handle_motion (hmode'.trans hmode) (hpopup'.trans hpopup) motion _ s) hopen'

/-- The keys are pressed, each on a terminal of the size that is given with it. The first part of
the result is the trip that it makes, with the height of the pane at each key. -/
def pressKeys : List (LineMotion × Nat × Nat) → Editor → Session →
    List (LineMotion × Nat) × Editor × Session
  | [], e, s => ([], e, s)
  | (motion, size) :: keys, e, s =>
    let pressed := (e.press size (motionKey motion)).run s
    let rest := pressKeys keys pressed.1 pressed.2
    ((motion, (e.layout size).editor.innerSize.2) :: rest.1, rest.2)

/-- Whoever presses the keys makes a trip: a press is a key between two steps that the editor takes
by itself. -/
theorem travelled_pressKeys (hmode : e.mode = .insert) (hpopup : e.popup = none)
    (hopen : e.ended = false) (keys : List (LineMotion × Nat × Nat)) (s : Session) :
    Travelled (pressKeys keys e s).1 e (pressKeys keys e s).2.1 := by
  induction keys generalizing e s with
  | nil => exact .nothing e
  | cons key keys ih =>
    obtain ⟨motion, size⟩ := key
    obtain ⟨-, -, hpopup', hmode', hstill⟩ := Stance.mk.inj (prepare_stance size e)
    -- a press is three events: the screen is drawn, the key handled and a save that is due is made
    refine .idle (.prepare size) trivial s (.key motion (e.layout size).editor.innerSize.2 s ?_)
    show Travelled _ (((e.prepare size).handle _ (motionKey motion)).run s).1 _
    rw [handle_motion (hmode'.trans hmode) (hpopup'.trans hpopup)]
    refine .idle .autosave trivial s ?_
    simp only [pressKeys, press_motion hmode hpopup hopen]
    generalize hmoved : (e.prepare size).moveKey (e.layout size).editor.innerSize.2 motion = moved
    have hfree : moved.mode = .insert ∧ moved.popup = none ∧ moved.ended = false := by
      rw [← hmoved]
      exact ⟨hmode'.trans hmode, rfl, hstill.trans hopen⟩
    obtain ⟨-, -, hpopup'', hmode'', hstill'⟩ := Stance.mk.inj (savePending_stance moved s)
    exact ih (hmode''.trans hfree.1) (hpopup''.trans hfree.2.1) (hstill'.trans hfree.2.2) _

/-! ## 3. Where a trip ends -/

/-- **The column is kept from line to line.** In insert mode, without a popup and with no column
remembered, a trip with the keys ends on the line that is reached from line to line, each key
going as far as there are lines, in the column where it began or as near to it as this line is
long. So lines that are too short on the way do not matter: whoever ends on the line of the start
is where the trip began, and so does everyone who goes down and back up, or the other way round,
without going beyond the first or the last line. -/
theorem travelled_lands (hmode : e.mode = .insert) (hpopup : e.popup = none)
    (hcolumn : e.caret.column = none) (hfeeds : FeedsOnly e.source) (h : Travelled trip e e') :
    let last := lineCount e.source - 1
    let start := lineColumn e.source e.caret.place
    let line := lineBehind last start.1 trip
    e'.source = e.source ∧
      lineColumn e'.source e'.caret.place = (line, min start.2 (lineLength e.source line)) ∧
      (line = start.1 → lineColumn e'.source e'.caret.place = start) ∧
      (Clear last start.1 trip → (shifts trip).sum = 0 →
        lineColumn e'.source e'.caret.place = start) := by
  intro last start line
  obtain ⟨hsource, hcaret⟩ := h.caret hmode hpopup
  have hstart : Editing.Aims e.source start.1 start.2 e.caret := .start hfeeds hcolumn
  have hends : lineColumn e'.source e'.caret.place =
      (line, min start.2 (lineLength e.source line)) := by
    rw [hsource, hcaret]
    exact (Editing.travel_aims hstart hfeeds trip).lineColumn_eq hfeeds
  -- the column of the start is one of its line, so nothing is cut off there
  have hback : line = start.1 → lineColumn e'.source e'.caret.place = start := by
    intro hline
    have hle : start.2 ≤ lineLength e.source start.1 := hfeeds.column_le e.caret.place
    rw [hends, hline, Nat.min_eq_left hle]
  refine ⟨hsource, hends, hback, fun hclear hsum => hback ?_⟩
  have hadds := Editing.lineBehind_of_clear hclear
  rw [hsum, Int.add_zero] at hadds
  exact Int.ofNat.inj hadds

/-- Lines of many lengths, with the caret in the first one. -/
def raggedEditor : Editor :=
  { firstEditor with
    content := { firstEditor.content with source := "a long line\n\nab\nanother long line\nend" }
    caret := .ofPlace 6 }

/-- Down through an empty line and past a short one, and back up through the short one, with a pane
of two rows at the page keys. -/
def raggedKeys : List (LineMotion × Nat × Nat) :=
  [(.down, 80, 24), (.pageDown, 80, 5), (.up, 80, 24), (.pageUp, 80, 5)]

/-- Down over a short line and a page down, and back the same way: the caret is where it
began. -/
theorem travelled_lands_ragged :
    (pressKeys raggedKeys raggedEditor firstSession).1 =
        [(.down, 21), (.pageDown, 2), (.up, 21), (.pageUp, 2)] ∧
      lineColumn raggedEditor.source raggedEditor.caret.place = (0, 6) ∧
      lineColumn (pressKeys raggedKeys raggedEditor firstSession).2.1.source
        (pressKeys raggedKeys raggedEditor firstSession).2.1.caret.place = (0, 6) := by
  have hragged : raggedEditor.mode = .insert ∧ raggedEditor.popup = none ∧
      raggedEditor.ended = false ∧ raggedEditor.caret.column = none ∧
      FeedsOnly raggedEditor.source := by decide +kernel
  have htrip : (pressKeys raggedKeys raggedEditor firstSession).1 =
      [(.down, 21), (.pageDown, 2), (.up, 21), (.pageUp, 2)] := by decide +kernel
  have hstart : lineColumn raggedEditor.source raggedEditor.caret.place = (0, 6) := by
    decide +kernel
  obtain ⟨hmode, hpopup, hopen, hcolumn, hfeeds⟩ := hragged
  have hpressed := travelled_pressKeys hmode hpopup hopen raggedKeys firstSession
  obtain ⟨-, -, -, hreturns⟩ := travelled_lands hmode hpopup hcolumn hfeeds hpressed
  rw [htrip, hstart] at hreturns
  -- the trip goes down, and back up by as much, without meeting an end of the text
  have hclear : Clear (lineCount raggedEditor.source - 1) 0
      [(.down, 21), (.pageDown, 2), (.up, 21), (.pageUp, 2)] := by decide +kernel
  exact ⟨htrip, hstart, hreturns hclear (by decide)⟩

end MarkupDesk.Editor
