import Mathlib

/-!
# A source page: `Initialize` and `SaveSource`

`SourceView::CreatePage` makes a `SourceViewPage`, whose Scintilla document is
empty, and calls `Initialize(source)`.  `Initialize` joins the source's lines,
each followed by `"\n"` (its test `i < source.GetLineCount()` holds for every
line the loop visits, the last one included), and adds the result with
`AddTextRaw(str.c_str())`.  `SaveSource` reads the document back with
`GetLineRaw`, line by line, trims each line's trailing CR and LF, and drops a
last line left empty.

A `std::string` is its bytes, as `Char`s.  A `c_str()` or `data()` read as a C
string stops at the first NUL.  Scintilla ends a line at `"\r\n"`, at `"\r"`
and at `"\n"`, and `GetLineRaw` returns a line with its line end.
-/

namespace Lldebug

/-- A line of text: the bytes of a `std::string`. -/
abbrev Line := List Char

/-- What reading `s` as a C string gives: its bytes up to the first NUL. -/
def cString (s : List Char) : List Char :=
  s.takeWhile (· != '\x00')

/-- Put `c` at the front of the first line. -/
def consFirstLine (c : Char) : List Line → List Line
  | line :: lines => (c :: line) :: lines
  | [] => [[c]]

/-- Scintilla's lines of a document, each with its line end; the last has none
and may be empty. -/
def documentLines : List Char → List Line
  | [] => [[]]
  | '\r' :: '\n' :: rest => ['\r', '\n'] :: documentLines rest
  | c :: rest =>
    if c = '\n' ∨ c = '\r' then [c] :: documentLines rest
    else consFirstLine c (documentLines rest)

/-- A `Source`: its lines and its file path (its key and title are left out). -/
structure Source where
  lines : List Line
  path : List Char
  deriving DecidableEq, Repr

structure SourceViewPage where
  /-- The text of the Scintilla document. -/
  text : List Char
  /-- `GetReadOnly()`. -/
  readOnly : Bool
  /-- `m_path`. -/
  path : List Char
  /-- `m_initialized`. -/
  initialized : Bool
  /-- `m_wasTitleChanged`. -/
  wasTitleChanged : Bool
  deriving DecidableEq, Repr

namespace SourceViewPage

/-- A new page: an empty document, `SetReadOnly(false)`, `m_initialized(false)`,
`m_wasTitleChanged(false)`. -/
def create : SourceViewPage :=
  ⟨[], false, [], false, false⟩

/-- `AddTextRaw(text)`: the C string `text` goes in at the caret, which on a
page nothing was typed into is the end of the document. -/
def addTextRaw (page : SourceViewPage) (text : List Char) : SourceViewPage :=
  { page with text := page.text ++ cString text }

/-- The loop of `Initialize` from line `i` on, `count` being
`source.GetLineCount()`: each line, then `"\n"` if `i < count`. -/
def initializeLoop (count : Nat) : Nat → List Line → List Char
  | _, [] => []
  | i, line :: lines =>
    line ++ (if i < count then ['\n'] else []) ++ initializeLoop count (i + 1) lines

/-- `Initialize(source)`. -/
def initializeSource (page : SourceViewPage) (source : Source) : SourceViewPage :=
  let str := initializeLoop source.lines.length 0 source.lines
  { page.addTextRaw str with
    readOnly := source.path.isEmpty, path := source.path, initialized := true }

/-- The `while` loop of `SaveSource`: drop trailing `'\n'` and `'\r'`. -/
def trimNewlines (buffer : Line) : Line :=
  buffer.rdropWhile fun c => c == '\n' || c == '\r'

/-- `if (!array.empty() && array.back().empty()) array.pop_back();` -/
def popEmptyLast (array : List Line) : List Line :=
  if array.getLast? = some [] then array.dropLast else array

/-- `ChangeModified(modified)`, the page being in its notebook: the title gains
or loses its `'*'` (the title itself is left out). -/
def changeModified (page : SourceViewPage) (modified : Bool) : SourceViewPage :=
  if !page.initialized || modified == page.wasTitleChanged then page
  else { page with wasTitleChanged := modified }

/-- `SaveSource()`: `none` when `m_path` is empty; otherwise the lines it builds
(the `SaveFile` that would write them is commented out), with the page after
`ChangeModified(false)`. -/
def saveSource (page : SourceViewPage) : Option (List Line) × SourceViewPage :=
  if page.path.isEmpty then (none, page)
  else
    let array := (documentLines page.text).map fun line => trimNewlines (cString line)
    (some (popEmptyLast array), page.changeModified false)

/-! ## The lines saved are the lines loaded -/

/-- `Initialize`'s test `i < count` holds all along the loop, so every line,
the last included, is followed by `"\n"`. -/
theorem initializeLoop_eq_flatMap {count i : Nat} {lines : List Line}
    (hcount : i + lines.length ≤ count) :
    initializeLoop count i lines = lines.flatMap (· ++ ['\n']) := by
  induction lines generalizing i with
  | nil => rfl
  | cons line lines ih =>
    simp only [List.length_cons] at hcount
    simp [initializeLoop, show i < count by omega, ih (show i + 1 + lines.length ≤ count by omega)]

theorem cString_eq_self {s : List Char} (hs : '\x00' ∉ s) : cString s = s :=
  List.takeWhile_eq_self_iff.mpr fun _ hc => bne_iff_ne.mpr fun h => hs (h ▸ hc)

/-- A line without CR or LF, then `'\n'`, is one of Scintilla's lines. -/
theorem documentLines_append_newline {line : Line} (hline : '\n' ∉ line ∧ '\r' ∉ line)
    (rest : List Char) :
    documentLines (line ++ '\n' :: rest) = (line ++ ['\n']) :: documentLines rest := by
  induction line with
  | nil => simp [documentLines]
  | cons c line ih =>
    simp only [List.mem_cons, not_or] at hline
    obtain ⟨⟨hlf, hlf'⟩, hcr, hcr'⟩ := hline
    simp [documentLines, Ne.symm hlf, Ne.symm hcr, ih ⟨hlf', hcr'⟩, consFirstLine]

theorem documentLines_flatMap {lines : List Line}
    (hlines : ∀ line ∈ lines, '\n' ∉ line ∧ '\r' ∉ line) :
    documentLines (lines.flatMap (· ++ ['\n'])) = lines.map (· ++ ['\n']) ++ [[]] := by
  induction lines with
  | nil => simp [documentLines]
  | cons line lines ih =>
    rw [List.flatMap_cons, List.append_assoc, List.singleton_append,
      documentLines_append_newline (hlines line (List.mem_cons_self _ _)),
      ih fun l hl => hlines l (List.mem_cons_of_mem _ hl), List.map_cons, List.cons_append]

theorem trimNewlines_append_newline {line : Line} (hline : '\n' ∉ line ∧ '\r' ∉ line) :
    trimNewlines (line ++ ['\n']) = line := by
  rw [trimNewlines, List.rdropWhile_concat_pos _ line '\n' rfl, List.rdropWhile_eq_self_iff]
  intro hne
  have hlast := List.getLast_mem hne
  simp only [Bool.or_eq_true, beq_iff_eq, not_or]
  exact ⟨fun h => hline.1 (h ▸ hlast), fun h => hline.2 (h ▸ hlast)⟩

/-- A page made by `CreatePage` from a source with a path, whose lines hold no
CR, LF or NUL, saves exactly the source's lines, when there are none and when
the last is empty included. -/
theorem saveSource_initialize {lines : List Line} {path : List Char}
    (hlines : ∀ line ∈ lines, '\n' ∉ line ∧ '\r' ∉ line ∧ '\x00' ∉ line) (hpath : path ≠ []) :
    (create.initializeSource ⟨lines, path⟩).saveSource.1 = some lines := by
  have hbreaks : ∀ line ∈ lines, '\n' ∉ line ∧ '\r' ∉ line :=
    fun line hl => ⟨(hlines line hl).1, (hlines line hl).2.1⟩
  have hnul : '\x00' ∉ lines.flatMap (· ++ ['\n']) := by
    simp only [List.mem_flatMap, List.mem_append, List.mem_singleton, not_exists, not_and]
    exact fun line hl h => h.elim (hlines line hl).2.2 (by decide)
  have htext : (create.initializeSource ⟨lines, path⟩).text = lines.flatMap (· ++ ['\n']) := by
    simp [initializeSource, addTextRaw, create, initializeLoop_eq_flatMap (Nat.zero_add _).le,
      cString_eq_self hnul]
  have harray : ((lines.map (· ++ ['\n']) ++ [[]]).map fun line => trimNewlines (cString line)) =
      lines ++ [[]] := by
    rw [List.map_append, List.map_map]
    congr 1
    conv_rhs => rw [← List.map_id lines]
    refine List.map_congr_left fun line hl => ?_
    have hnul : '\x00' ∉ line ++ ['\n'] := by simpa using (hlines line hl).2.2
    simp only [Function.comp_apply, id, cString_eq_self hnul,
      trimNewlines_append_newline (hbreaks line hl)]
  have hpath' : (create.initializeSource ⟨lines, path⟩).path.isEmpty = false := by
    simpa [initializeSource] using hpath
  simp only [saveSource, hpath', htext, documentLines_flatMap hbreaks, harray, popEmptyLast,
    List.getLast?_concat, if_true, List.dropLast_concat]
  rfl

theorem saveSource_initialize_blank_last_line :
    (∀ line ∈ [['x'], []], '\n' ∉ line ∧ '\r' ∉ line ∧ '\x00' ∉ line) ∧ ['p'] ≠ [] ∧
      (create.initializeSource ⟨[['x'], []], ['p']⟩).saveSource.1 = some [['x'], []] :=
  ⟨by decide, by decide, saveSource_initialize (by decide) (by decide)⟩

/-- A NUL in a line ends the C string `AddTextRaw` is given, so the rest of the
source never reaches the document. -/
theorem saveSource_truncates_at_nul :
    (create.initializeSource ⟨[['a', '\x00', 'b'], ['c']], ['p']⟩).saveSource.1 = some [['a']] := by
  decide

/-- `GetLineCount()`: Scintilla's lines of the document, the last one included
when it is empty. -/
def getLineCount (page : SourceViewPage) : Nat :=
  (documentLines page.text).length

end SourceViewPage

end Lldebug
