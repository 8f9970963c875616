import Lldebug.SourceView

/-!
# The current-line and backtrace markers of the source notebook

`SourceViewPage::SetCurrentLine(line, isCurrentRunning)` shows the line the
program stopped at (`MARKNUM_RUNNING`) or a line of the backtrace
(`MARKNUM_BACKTRACE`), and remembers it in `m_currentLine` or `m_markedLine`.
Before it marks a new current line it deletes the marker of the line it
remembers, with `MarkerDelete(m_currentLine, MARKNUM_RUNNING)`, which deletes
one copy of the marker from that line; the backtrace marker goes with
`MarkerDeleteAll`.

`SourceView`, the notebook, drives it.  `OnUpdateSource` sets the current line
on every page of the event's key and clears it on the others; `OnChangedState`
calls `ChangeEnable` on the selected page only, which clears the current line
when the program runs; `OnAddedSource` adds a page and selects it;
`OnShowSourceLine` and the user select pages, and the user may drag a tab to
another place (`wxAUI_NB_TAB_MOVE`).

A page here is what these functions read and write: its key, the number of
lines of its document, the two lines it remembers and the lines that hold each
marker, one entry per copy.  The text is not edited, so a page keeps the line
count `Initialize` gave it.  `SetCurrentLine` asserts that the line is in the
document, but a `wxASSERT` does not stop a release build, and Scintilla's
`MarkerAdd` adds nothing on a line past the end: such a line is remembered with
no marker on it.
-/

namespace Lldebug

/-- The copies of one marker on a page: none, or one on the line the page
remembers for it. -/
def MarkedAt (lines : List Int) (line : Int) : Prop :=
  lines = [] ∨ 0 ≤ line ∧ lines = [line]

instance (lines : List Int) (line : Int) : Decidable (MarkedAt lines line) :=
  inferInstanceAs (Decidable (_ ∨ _))

namespace MarkedAt

variable {lines : List Int} {line : Int}

theorem nil (line : Int) : MarkedAt [] line := .inl rfl

/-- With no line remembered, no copy is left. -/
theorem eq_nil (h : MarkedAt lines line) (hneg : line < 0) : lines = [] :=
  h.resolve_right fun ⟨hnonneg, _⟩ => absurd hnonneg (not_le.mpr hneg)

/-- Deleting one copy from the remembered line leaves none. -/
theorem erase_eq_nil (h : MarkedAt lines line) : lines.erase line = [] := by
  rcases h with rfl | ⟨-, rfl⟩ <;> simp

/-- The line `SetCurrentLine` marks, counted from 1 and at most the `count`
lines of the document, is the one it remembers. -/
theorem of_line (line count : Int) :
    MarkedAt (if 0 < line ∧ line ≤ count then [line - 1] else [])
      (if 0 < line then line - 1 else line) := by
  by_cases hmark : 0 < line ∧ line ≤ count
  · rw [if_pos hmark, if_pos hmark.1]
    exact .inr ⟨by omega, rfl⟩
  · rw [if_neg hmark]
    exact .inl rfl

end MarkedAt

/-- A page of the notebook as `SetCurrentLine` and the `SourceView` handlers
see it. -/
structure MarkedPage where
  /-- `m_key`. -/
  key : List Char
  /-- `GetLineCount()`: the lines of the document, which is not edited. -/
  lineCount : Nat
  /-- `m_currentLine`, counted from 0; negative for none. -/
  currentLine : Int
  /-- `m_markedLine`, counted from 0; negative for none. -/
  markedLine : Int
  /-- The lines holding a copy of `MARKNUM_RUNNING`. -/
  running : List Int
  /-- The lines holding a copy of `MARKNUM_BACKTRACE`. -/
  backtrace : List Int
  deriving DecidableEq, Repr

namespace MarkedPage

/-- A page made by `CreatePage` for `source`, under `key`: `Initialize` gives
the document its lines, and the page starts with `m_currentLine(-1)`,
`m_markedLine(-1)` and no marker. -/
def create (key : List Char) (source : Source) : MarkedPage :=
  ⟨key, (SourceViewPage.create.initializeSource source).getLineCount, -1, -1, [], []⟩

/-- `if (isCurrentRunning && m_currentLine >= 0)`: delete the current line's
marker and forget the line. -/
def deleteRunning (page : MarkedPage) : MarkedPage :=
  if 0 ≤ page.currentLine then
    { page with running := page.running.erase page.currentLine, currentLine := -1 }
  else page

/-- `if (m_markedLine >= 0)`: delete every backtrace marker and forget the
line. -/
def hideMark (page : MarkedPage) : MarkedPage :=
  if 0 ≤ page.markedLine then { page with backtrace := [], markedLine := -1 } else page

/-- The end of `SetCurrentLine`: a line counted from 1 is remembered as
`line - 1` and gets the marker there when it is a line of the document
(`MarkerAdd` adds nothing past the end); a line of 0 or less gets none and is
remembered as it is. -/
def markLine (page : MarkedPage) (line : Int) (isCurrentRunning : Bool) : MarkedPage :=
  let added := if 0 < line ∧ line ≤ page.lineCount then [line - 1] else []
  let line := if 0 < line then line - 1 else line
  if isCurrentRunning then { page with running := page.running ++ added, currentLine := line }
  else { page with backtrace := page.backtrace ++ added, markedLine := line }

/-- `SetCurrentLine(line, isCurrentRunning)`. -/
def setCurrentLine (page : MarkedPage) (line : Int) (isCurrentRunning : Bool) : MarkedPage :=
  ((if isCurrentRunning then page.deleteRunning else page).hideMark).markLine line isCurrentRunning

/-- `ChangeEnable(enable)`: a page disabled while the program runs loses its
current line. -/
def changeEnable (page : MarkedPage) (enable : Bool) : MarkedPage :=
  if !enable then page.setCurrentLine (-1) true else page

/-- Each marker's copies are as the page remembers them. -/
structure Inv (page : MarkedPage) : Prop where
  running : MarkedAt page.running page.currentLine
  backtrace : MarkedAt page.backtrace page.markedLine

section Effects

variable {page : MarkedPage}

@[simp] theorem deleteRunning_key : page.deleteRunning.key = page.key := by
  unfold deleteRunning; split <;> rfl

@[simp] theorem deleteRunning_lineCount : page.deleteRunning.lineCount = page.lineCount := by
  unfold deleteRunning; split <;> rfl

@[simp] theorem deleteRunning_backtrace : page.deleteRunning.backtrace = page.backtrace := by
  unfold deleteRunning; split <;> rfl

@[simp] theorem deleteRunning_markedLine : page.deleteRunning.markedLine = page.markedLine := by
  unfold deleteRunning; split <;> rfl

theorem deleteRunning_running (h : MarkedAt page.running page.currentLine) :
    page.deleteRunning.running = [] := by
  unfold deleteRunning
  split_ifs with hcurrent
  · exact h.erase_eq_nil
  · exact h.eq_nil (not_le.mp hcurrent)

@[simp] theorem hideMark_key : page.hideMark.key = page.key := by
  unfold hideMark; split <;> rfl

@[simp] theorem hideMark_lineCount : page.hideMark.lineCount = page.lineCount := by
  unfold hideMark; split <;> rfl

@[simp] theorem hideMark_running : page.hideMark.running = page.running := by
  unfold hideMark; split <;> rfl

@[simp] theorem hideMark_currentLine : page.hideMark.currentLine = page.currentLine := by
  unfold hideMark; split <;> rfl

theorem hideMark_backtrace (h : MarkedAt page.backtrace page.markedLine) :
    page.hideMark.backtrace = [] := by
  unfold hideMark
  split_ifs with hmarked
  · rfl
  · exact h.eq_nil (not_le.mp hmarked)

@[simp] theorem setCurrentLine_key (line : Int) (isCurrentRunning : Bool) :
    (page.setCurrentLine line isCurrentRunning).key = page.key := by
  cases isCurrentRunning <;> simp [setCurrentLine, markLine]

@[simp] theorem setCurrentLine_lineCount (line : Int) (isCurrentRunning : Bool) :
    (page.setCurrentLine line isCurrentRunning).lineCount = page.lineCount := by
  cases isCurrentRunning <;> simp [setCurrentLine, markLine]

/-- A current line replaces the one remembered, and is marked if it is in the
document. -/
theorem setCurrentLine_true_running (h : page.Inv) (line : Int) :
    (page.setCurrentLine line true).running =
      if 0 < line ∧ line ≤ page.lineCount then [line - 1] else [] := by
  simp [setCurrentLine, markLine, deleteRunning_running h.running]

theorem setCurrentLine_true_currentLine (line : Int) :
    (page.setCurrentLine line true).currentLine = if 0 < line then line - 1 else line := by
  simp [setCurrentLine, markLine]

/-- Any call hides the backtrace marker. -/
theorem setCurrentLine_true_backtrace (h : page.Inv) (line : Int) :
    (page.setCurrentLine line true).backtrace = [] := by
  simp [setCurrentLine, markLine, @hideMark_backtrace page.deleteRunning
    (by simpa using h.backtrace)]

/-- A backtrace line leaves the current line alone. -/
@[simp] theorem setCurrentLine_false_running (line : Int) :
    (page.setCurrentLine line false).running = page.running := by
  simp [setCurrentLine, markLine]

@[simp] theorem setCurrentLine_false_currentLine (line : Int) :
    (page.setCurrentLine line false).currentLine = page.currentLine := by
  simp [setCurrentLine, markLine]

theorem setCurrentLine_false_backtrace (h : page.Inv) (line : Int) :
    (page.setCurrentLine line false).backtrace =
      if 0 < line ∧ line ≤ page.lineCount then [line - 1] else [] := by
  simp [setCurrentLine, markLine, hideMark_backtrace h.backtrace]

theorem setCurrentLine_false_markedLine (line : Int) :
    (page.setCurrentLine line false).markedLine = if 0 < line then line - 1 else line := by
  simp [setCurrentLine, markLine]

@[simp] theorem changeEnable_key (enable : Bool) : (page.changeEnable enable).key = page.key := by
  cases enable <;> simp [changeEnable]

/-- A page disabled while the program runs holds no current-line marker. -/
theorem changeEnable_false_running (h : page.Inv) : (page.changeEnable false).running = [] := by
  simp [changeEnable, setCurrentLine_true_running h]

end Effects

namespace Inv

variable {page : MarkedPage} (h : page.Inv)
include h

theorem setCurrentLine (line : Int) (isCurrentRunning : Bool) :
    (page.setCurrentLine line isCurrentRunning).Inv := by
  cases isCurrentRunning
  · constructor
    · rw [setCurrentLine_false_running, setCurrentLine_false_currentLine]
      exact h.running
    · rw [setCurrentLine_false_backtrace h, setCurrentLine_false_markedLine]
      exact .of_line line page.lineCount
  · constructor
    · rw [setCurrentLine_true_running h, setCurrentLine_true_currentLine]
      exact .of_line line page.lineCount
    · rw [setCurrentLine_true_backtrace h]
      exact .nil _

theorem changeEnable (enable : Bool) : (page.changeEnable enable).Inv := by
  cases enable
  · exact h.setCurrentLine (-1) true
  · exact h

end Inv

theorem inv_create (key : List Char) (source : Source) : (create key source).Inv :=
  ⟨.nil _, .nil _⟩

end MarkedPage

/-- `SourceView`, the notebook of source pages. -/
structure SourceView where
  pages : List MarkedPage
  /-- `GetSelection()`; `none` for `wxNOT_FOUND`. -/
  selection : Option Nat
  deriving DecidableEq, Repr

/-- What reaches `SourceView`: its handlers' events, and the user's choice and
moves of tabs. -/
inductive ViewEvent
  /-- `OnChangedState`: the program broke (`true`) or runs. -/
  | changedState (isBreak : Bool)
  /-- `OnUpdateSource`: the program is at `line` of the source `key`. -/
  | updateSource (key : List Char) (line : Int)
  /-- `OnAddedSource` of `source`, whose key is `key`. -/
  | addedSource (key : List Char) (source : Source)
  /-- `OnShowSourceLine`; the text selection it makes is left out. -/
  | showSourceLine (key : List Char)
  /-- The user selects the tab of page `i`. -/
  | select (i : Nat)
  /-- The user drags the tab of page `i` to place `j`; the click that starts the
  drag selects it. -/
  | moveTab (i j : Nat)
  deriving DecidableEq, Repr

namespace SourceView

/-- `CreatePage(source)`: a new page, added by `AddPage(page, title, true)`,
which selects it. -/
def createPage (view : SourceView) (key : List Char) (source : Source) : SourceView :=
  ⟨view.pages ++ [MarkedPage.create key source], some view.pages.length⟩

/-- `CreateGUIControls`: a page for each source the source manager lists, with
its key. -/
def create (sources : List (List Char × Source)) : SourceView :=
  sources.foldl (fun view source => view.createPage source.1 source.2) ⟨[], none⟩

/-- `OnChangedState(event)`: `ChangeEnable(event.IsBreak())` on `GetSelected()`. -/
def onChangedState (view : SourceView) (isBreak : Bool) : SourceView :=
  match view.selection with
  | some sel =>
    match view.pages[sel]? with
    | some page => { view with pages := view.pages.set sel (page.changeEnable isBreak) }
    | none => view
  | none => view

/-- The loop of `OnUpdateSource(event)` from page `i` on: a page of the event's
key gets the line and is selected, any other loses its current line. -/
def updateSourceLoop (key : List Char) (line : Int) :
    Nat → List MarkedPage → Option Nat → List MarkedPage × Option Nat
  | _, [], selection => ([], selection)
  | i, page :: pages, selection =>
    if page.key = key then
      let rest := updateSourceLoop key line (i + 1) pages (some i)
      (page.setCurrentLine line true :: rest.1, rest.2)
    else
      let rest := updateSourceLoop key line (i + 1) pages selection
      (page.setCurrentLine (-1) true :: rest.1, rest.2)

/-- `OnUpdateSource(event)`. -/
def onUpdateSource (view : SourceView) (key : List Char) (line : Int) : SourceView :=
  let result := updateSourceLoop key line 0 view.pages view.selection
  ⟨result.1, result.2⟩

/-- `OnShowSourceLine(event)`: the first page of the event's key is selected. -/
def onShowSourceLine (view : SourceView) (key : List Char) : SourceView :=
  match view.pages.findIdx? fun page => decide (page.key = key) with
  | some i => { view with selection := some i }
  | none => view

/-- The user selects a tab; an index past the last page selects nothing. -/
def select (view : SourceView) (i : Nat) : SourceView :=
  if i < view.pages.length then { view with selection := some i } else view

/-- The user drags the tab of page `i` to place `j`, which selects the page. -/
def moveTab (view : SourceView) (i j : Nat) : SourceView :=
  match view.pages[i]? with
  | some page =>
    if j < view.pages.length then ⟨(view.pages.eraseIdx i).insertIdx j page, some j⟩ else view
  | none => view

def step (view : SourceView) : ViewEvent → SourceView
  | .changedState isBreak => view.onChangedState isBreak
  | .updateSource key line => view.onUpdateSource key line
  | .addedSource key source => view.createPage key source
  | .showSourceLine key => view.onShowSourceLine key
  | .select i => view.select i
  | .moveTab i j => view.moveTab i j

/-- The notebook after a run of events. -/
def run (view : SourceView) (events : List ViewEvent) : SourceView :=
  events.foldl step view

/-- `CreateGUIControls` is `OnAddedSource` for each source in turn. -/
theorem create_eq_run (sources : List (List Char × Source)) :
    create sources =
      (⟨[], none⟩ : SourceView).run (sources.map fun source => .addedSource source.1 source.2) := by
  simp only [create, run, List.foldl_map]
  rfl

/-! ## What each handler does to the pages -/

/-- The loop gives each page the line of its key's or none. -/
theorem updateSourceLoop_fst (key : List Char) (line : Int) (i : Nat) (pages : List MarkedPage)
    (selection : Option Nat) :
    (updateSourceLoop key line i pages selection).1 =
      pages.map fun page => page.setCurrentLine (if page.key = key then line else -1) true := by
  induction pages generalizing i selection with
  | nil => rfl
  | cons page pages ih => by_cases hkey : page.key = key <;> simp [updateSourceLoop, hkey, ih]

/-- One step of the loop: a page of the key becomes the selection. -/
theorem updateSourceLoop_cons_snd (key : List Char) (line : Int) (i : Nat) (page : MarkedPage)
    (pages : List MarkedPage) (selection : Option Nat) :
    (updateSourceLoop key line i (page :: pages) selection).2 =
      (updateSourceLoop key line (i + 1) pages (if page.key = key then some i else selection)).2 := by
  by_cases hkey : page.key = key <;> simp [updateSourceLoop, hkey]

/-- The loop selects the page it started with, or one of its own. -/
theorem updateSourceLoop_snd {key : List Char} {line : Int} {i : Nat} {pages : List MarkedPage}
    {selection : Option Nat} {j : Nat}
    (hj : (updateSourceLoop key line i pages selection).2 = some j) :
    selection = some j ∨ i ≤ j ∧ j < i + pages.length := by
  induction pages generalizing i selection with
  | nil => exact .inl hj
  | cons page pages ih =>
    rw [updateSourceLoop_cons_snd] at hj
    rcases ih hj with hsel | ⟨hlo, hhi⟩
    · split_ifs at hsel
      · obtain rfl := Option.some.inj hsel
        exact .inr ⟨le_rfl, by simp⟩
      · exact .inl hsel
    · exact .inr ⟨by omega, by simp; omega⟩

/-- Without a page of the key, the selection stays. -/
theorem updateSourceLoop_snd_of_not_key {key : List Char} {line : Int} {i : Nat}
    {pages : List MarkedPage} {selection : Option Nat} (hkey : ¬ ∃ page ∈ pages, page.key = key) :
    (updateSourceLoop key line i pages selection).2 = selection := by
  induction pages generalizing i selection with
  | nil => rfl
  | cons page pages ih =>
    simp only [List.mem_cons, exists_eq_or_imp, not_or] at hkey
    rw [updateSourceLoop_cons_snd, if_neg hkey.1, ih hkey.2]

/-- With a page of the key, the loop selects one: the last. -/
theorem updateSourceLoop_snd_key {key : List Char} {line : Int} {i : Nat} {pages : List MarkedPage}
    {selection : Option Nat} (hkey : ∃ page ∈ pages, page.key = key) :
    ∃ j page, (updateSourceLoop key line i pages selection).2 = some (i + j) ∧
      pages[j]? = some page ∧ page.key = key := by
  induction pages generalizing i selection with
  | nil => simp at hkey
  | cons page pages ih =>
    rw [updateSourceLoop_cons_snd]
    by_cases hrest : ∃ page ∈ pages, page.key = key
    · obtain ⟨j, page', hj, hpage, hkey'⟩ :=
        @ih (i + 1) (if page.key = key then some i else selection) hrest
      exact ⟨j + 1, page', by rw [hj, show i + 1 + j = i + (j + 1) by omega], by simpa using hpage,
        hkey'⟩
    · have hhead : page.key = key := by
        simpa [hrest] using hkey
      exact ⟨0, page, by rw [updateSourceLoop_snd_of_not_key hrest, if_pos hhead, Nat.add_zero],
        by simp, hhead⟩

@[simp] theorem onUpdateSource_pages (view : SourceView) (key : List Char) (line : Int) :
    (view.onUpdateSource key line).pages =
      view.pages.map fun page => page.setCurrentLine (if page.key = key then line else -1) true :=
  updateSourceLoop_fst key line 0 view.pages view.selection

/-- `OnChangedState` changes the selected page and no other. -/
theorem onChangedState_getElem? (view : SourceView) (isBreak : Bool) (i : Nat) :
    (view.onChangedState isBreak).pages[i]? =
      view.pages[i]?.map fun page =>
        if view.selection = some i then page.changeEnable isBreak else page := by
  unfold onChangedState
  split
  · rename_i sel hsel
    split
    · rename_i page hpage
      by_cases hi : sel = i
      · subst hi
        simp [hsel, hpage, (List.getElem?_eq_some_iff.mp hpage).1]
      · simp [List.getElem?_set, hsel, hi]
    · rename_i hpage
      by_cases hi : sel = i
      · subst hi; simp [hpage]
      · simp [hsel, hi]
  · rename_i hsel
    simp [hsel]

theorem mem_onChangedState {view : SourceView} {isBreak : Bool} {q : MarkedPage}
    (hq : q ∈ (view.onChangedState isBreak).pages) :
    ∃ page ∈ view.pages, q = page ∨ q = page.changeEnable isBreak := by
  obtain ⟨i, hi⟩ := List.mem_iff_getElem?.mp hq
  rw [onChangedState_getElem?] at hi
  obtain ⟨page, hpage, rfl⟩ := Option.map_eq_some'.mp hi
  exact ⟨page, List.mem_iff_getElem?.mpr ⟨i, hpage⟩, by split_ifs <;> simp⟩

@[simp] theorem onChangedState_length (view : SourceView) (isBreak : Bool) :
    (view.onChangedState isBreak).pages.length = view.pages.length := by
  unfold onChangedState
  split
  · split <;> simp
  · rfl

@[simp] theorem onChangedState_selection (view : SourceView) (isBreak : Bool) :
    (view.onChangedState isBreak).selection = view.selection := by
  unfold onChangedState
  split
  · split <;> rfl
  · rfl

/-! ## Every run keeps the markers where the pages remember them -/

/-- The pages that hold a current-line marker all have one key. -/
def OneKeyMarked (pages : List MarkedPage) : Prop :=
  ∀ p ∈ pages, ∀ q ∈ pages, p.running ≠ [] → q.running ≠ [] → p.key = q.key

/-- Pages whose marked pages each have the key of a marked page of `pages`. -/
theorem OneKeyMarked.of_origin {pages pages' : List MarkedPage} (h : OneKeyMarked pages)
    (horigin : ∀ r ∈ pages', r.running ≠ [] → ∃ page ∈ pages, page.running ≠ [] ∧ r.key = page.key) :
    OneKeyMarked pages' := by
  intro p hp q hq hpr hqr
  obtain ⟨p', hp', hp'r, hpk⟩ := horigin p hp hpr
  obtain ⟨q', hq', hq'r, hqk⟩ := horigin q hq hqr
  rw [hpk, hqk]
  exact h p' hp' q' hq' hp'r hq'r

/-- The notebook's invariant: every page's markers as it remembers them, one
key for the pages with a current-line marker, and a selection that is a page. -/
structure Inv (view : SourceView) : Prop where
  marked : ∀ page ∈ view.pages, page.Inv
  one_key : OneKeyMarked view.pages
  selection_lt : ∀ i, view.selection = some i → i < view.pages.length

theorem inv_empty : Inv ⟨[], none⟩ :=
  ⟨fun _ h => (List.not_mem_nil _ h).elim, fun _ h => (List.not_mem_nil _ h).elim,
    fun _ h => (Option.noConfusion h)⟩

namespace Inv

variable {view : SourceView} (h : view.Inv)
include h

theorem createPage (key : List Char) (source : Source) : (view.createPage key source).Inv := by
  have hnew : ∀ r ∈ (view.createPage key source).pages,
      r ∈ view.pages ∨ r = MarkedPage.create key source :=
    fun r hr => by simpa [SourceView.createPage] using hr
  refine ⟨fun r hr => ?_, h.one_key.of_origin fun r hr hrr => ?_, fun i hi => ?_⟩
  · rcases hnew r hr with hr | rfl
    · exact h.marked r hr
    · exact MarkedPage.inv_create key source
  · rcases hnew r hr with hr | rfl
    · exact ⟨r, hr, hrr, rfl⟩
    · exact absurd rfl hrr
  · cases hi
    simp [SourceView.createPage]

theorem onChangedState (isBreak : Bool) : (view.onChangedState isBreak).Inv := by
  refine ⟨fun r hr => ?_, h.one_key.of_origin fun r hr hrr => ?_, fun i hi => ?_⟩
  · obtain ⟨page, hpage, rfl | rfl⟩ := mem_onChangedState hr
    · exact h.marked _ hpage
    · exact (h.marked page hpage).changeEnable isBreak
  · obtain ⟨page, hpage, rfl | rfl⟩ := mem_onChangedState hr
    · exact ⟨_, hpage, hrr, rfl⟩
    · refine ⟨page, hpage, fun hnil => hrr ?_, by simp⟩
      cases isBreak
      · exact MarkedPage.changeEnable_false_running (h.marked page hpage)
      · exact hnil
  · rw [onChangedState_selection] at hi
    simpa using h.selection_lt i hi

theorem onUpdateSource (key : List Char) (line : Int) : (view.onUpdateSource key line).Inv := by
  have hkey : ∀ r ∈ (view.onUpdateSource key line).pages, r.running ≠ [] → r.key = key := by
    simp only [onUpdateSource_pages, List.mem_map]
    rintro _ ⟨page, hpage, rfl⟩ hrr
    by_cases hk : page.key = key
    · simpa using hk
    · simp [hk, MarkedPage.setCurrentLine_true_running (h.marked page hpage)] at hrr
  refine ⟨?_, fun p hp q hq hpr hqr => (hkey p hp hpr).trans (hkey q hq hqr).symm, fun j hj => ?_⟩
  · simp only [onUpdateSource_pages, List.forall_mem_map]
    exact fun page hpage => (h.marked page hpage).setCurrentLine _ true
  · rcases updateSourceLoop_snd hj with hsel | ⟨-, hlt⟩
    · simpa using h.selection_lt j hsel
    · simpa using hlt

theorem onShowSourceLine (key : List Char) : (view.onShowSourceLine key).Inv := by
  unfold SourceView.onShowSourceLine
  split
  · rename_i i hi
    exact ⟨h.marked, h.one_key, fun j hj => by
      cases hj; exact (List.findIdx?_eq_some_iff_getElem.mp hi).1⟩
  · exact h

theorem select (i : Nat) : (view.select i).Inv := by
  unfold SourceView.select
  split_ifs with hi
  · exact ⟨h.marked, h.one_key, fun j hj => by cases hj; exact hi⟩
  · exact h

/-- A moved tab keeps its page: the pages are the same, in another order. -/
theorem moveTab (i j : Nat) : (view.moveTab i j).Inv := by
  unfold SourceView.moveTab
  split
  · rename_i page hpage
    have hi := (List.getElem?_eq_some_iff.mp hpage).1
    have hlen : (view.pages.eraseIdx i).length + 1 = view.pages.length := by
      rw [List.length_eraseIdx_of_lt hi]; omega
    split_ifs with hj
    · have hold : ∀ r ∈ (view.pages.eraseIdx i).insertIdx j page, r ∈ view.pages := by
        intro r hr
        rcases (List.mem_insertIdx (by omega)).mp hr with rfl | hr
        · exact List.mem_iff_getElem?.mpr ⟨i, hpage⟩
        · exact List.mem_of_mem_eraseIdx hr
      refine ⟨fun r hr => h.marked r (hold r hr),
        h.one_key.of_origin fun r hr hrr => ⟨r, hold r hr, hrr, rfl⟩, fun k hk => ?_⟩
      cases hk
      rw [List.length_insertIdx _ _ (by omega)]
      omega
    · exact h
  · exact h

theorem step (e : ViewEvent) : (view.step e).Inv := by
  cases e with
  | changedState isBreak => exact h.onChangedState isBreak
  | updateSource key line => exact h.onUpdateSource key line
  | addedSource key source => exact h.createPage key source
  | showSourceLine key => exact h.onShowSourceLine key
  | select i => exact h.select i
  | moveTab i j => exact h.moveTab i j

theorem run (events : List ViewEvent) : (view.run events).Inv := by
  induction events generalizing view with
  | nil => exact h
  | cons e events ih => exact ih (h.step e)

end Inv

theorem inv_create (sources : List (List Char × Source)) : (create sources).Inv :=
  create_eq_run sources ▸ inv_empty.run _

/-- The notebooks some run of its handlers reaches from `CreateGUIControls`. -/
inductive Reachable : SourceView → Prop
  | create (sources : List (List Char × Source)) : Reachable (create sources)
  | step {view : SourceView} (e : ViewEvent) : Reachable view → Reachable (view.step e)

theorem Reachable.run {view : SourceView} (hview : view.Reachable) (events : List ViewEvent) :
    (view.run events).Reachable := by
  induction events generalizing view with
  | nil => exact hview
  | cons e events ih => exact ih (hview.step e)

theorem Reachable.inv {view : SourceView} (hview : view.Reachable) : view.Inv := by
  induction hview with
  | create sources => exact inv_create sources
  | step e _ ih => exact ih.step e

/-- A source of three lines, at a path; its page's document has four lines,
the last one empty. -/
def threeLines : Source :=
  ⟨[['x'], ['y'], ['z']], ['p']⟩

/-- The program stops at line 3 of the source `a`, then the source `b` is added
and selected. -/
def stopThenAddSource : List ViewEvent :=
  [.updateSource ['a'] 3, .addedSource ['b'] threeLines]

def afterAddedSource : SourceView :=
  (create [(['a'], threeLines)]).run stopThenAddSource

theorem reachable_afterAddedSource : afterAddedSource.Reachable :=
  (Reachable.create _).run _

/-- `OnUpdateSource(key, line)`, `line` counting from 1, leaves one
current-line marker, on line `line - 1`, on each page of `key` whose document
has that line (the range `SetCurrentLine` asserts), and none on any other page;
when a page has `key`, the selected page is one of them. -/
theorem updateSource_marks_pages_of_key {view : SourceView} (hview : view.Reachable)
    (key : List Char) (line : Int) :
    (∀ page ∈ (view.onUpdateSource key line).pages,
      page.running = if page.key = key ∧ 0 < line ∧ line ≤ page.lineCount then [line - 1] else []) ∧
    ((∃ page ∈ view.pages, page.key = key) →
      ∃ i page, (view.onUpdateSource key line).selection = some i ∧
        (view.onUpdateSource key line).pages[i]? = some page ∧ page.key = key) := by
  have h := hview.inv
  refine ⟨?_, fun hkey => ?_⟩
  · simp only [onUpdateSource_pages, List.forall_mem_map]
    intro page hpage
    by_cases hk : page.key = key <;>
      simp [hk, MarkedPage.setCurrentLine_true_running (h.marked page hpage)]
  · obtain ⟨j, page, hj, hpage, hk⟩ :=
      @updateSourceLoop_snd_key key line 0 view.pages view.selection hkey
    exact ⟨j, page.setCurrentLine line true, by simpa [onUpdateSource] using hj,
      by simp [hpage, hk], by simp [hk]⟩

/-- Line 5 of the source `b`, whose page has four lines: `b`'s page is
selected and marks nothing. -/
theorem updateSource_marks_pages_of_key_past_end :
    afterAddedSource.Reachable ∧
      ((∀ page ∈ (afterAddedSource.onUpdateSource ['b'] 5).pages,
        page.running =
          if page.key = ['b'] ∧ 0 < (5 : Int) ∧ (5 : Int) ≤ page.lineCount then [5 - 1] else []) ∧
      ((∃ page ∈ afterAddedSource.pages, page.key = ['b']) →
        ∃ i page, (afterAddedSource.onUpdateSource ['b'] 5).selection = some i ∧
          (afterAddedSource.onUpdateSource ['b'] 5).pages[i]? = some page ∧ page.key = ['b'])) :=
  ⟨reachable_afterAddedSource, updateSource_marks_pages_of_key reachable_afterAddedSource _ _⟩

/-- `OnChangedState(false)`, the program running again, clears the current line
of the selected page only: afterwards a page holds a current-line marker
exactly when it held one before and is not the selected page. -/
theorem changedState_clears_selected_page_only {view : SourceView} (hview : view.Reachable)
    (i : Nat) :
    (∃ page, (view.onChangedState false).pages[i]? = some page ∧ page.running ≠ []) ↔
      (∃ page, view.pages[i]? = some page ∧ page.running ≠ []) ∧ view.selection ≠ some i := by
  rw [onChangedState_getElem?]
  cases hpage : view.pages[i]? with
  | none => simp
  | some page =>
    by_cases hsel : view.selection = some i
    · simp [hsel, MarkedPage.changeEnable_false_running
        (hview.inv.marked page (List.mem_iff_getElem?.mpr ⟨i, hpage⟩))]
    · simp [hsel]

theorem changedState_clears_selected_page_only_after_added_source :
    afterAddedSource.Reachable ∧
      ((∃ page, (afterAddedSource.onChangedState false).pages[0]? = some page ∧
          page.running ≠ []) ↔
        (∃ page, afterAddedSource.pages[0]? = some page ∧ page.running ≠ []) ∧
        afterAddedSource.selection ≠ some 0) :=
  ⟨reachable_afterAddedSource, changedState_clears_selected_page_only reachable_afterAddedSource 0⟩

/-- After the program runs again, the page of `a`, no longer selected, still
shows line 3 as the current line. -/
example : ((afterAddedSource.onChangedState false).pages[0]?.map (·.running)) = some [2] := by
  decide

end SourceView

end Lldebug
