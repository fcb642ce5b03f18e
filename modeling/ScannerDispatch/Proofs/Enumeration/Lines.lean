import ScannerDispatch.Enumeration
import ScannerDispatch.Proofs.Emission.Spelling
import Mathlib.Data.List.DropRight

/-!
How lines of names are read back.

A reader splits a list at commas and trims the pieces.  Tabs in front of a line change nothing
(`pieces_indent_append`), and a line with a comma at its end is complete, whatever follows it
(`pieces_row_comma`).

* `InFours`: how the names of one class are divided into lines.
* `IsLineOf`: a line that holds a row of names; it is no comment, and its names are those of the row.
* `pieces_namesText_false` and `pieces_namesText_true`: what is read from all lines of a class.
-/

namespace ScannerDispatch.Enumeration

open Code

/-! ## Reading lists -/

/-- What is left without the blanks at both ends. -/
def trim (cs : List Char) : String :=
  String.ofList ((cs.dropWhile Text.isBlank).rdropWhile Text.isBlank)

/-- The pieces between commas, trimmed. -/
def pieces (cs : List Char) : List String :=
  (cs.splitOn ',').map trim

/-- The names in a list with commas between them.  Blanks alone hold no name. -/
def namesIn (cs : List Char) : List String :=
  if pieces cs = [""] then [] else pieces cs

theorem pieces_nil : pieces [] = [""] := by
  simp [pieces, trim]

theorem pieces_comma (xs ys : List Char) : pieces (xs ++ ',' :: ys) = pieces xs ++ pieces ys := by
  simp only [pieces, List.splitOn_eq_splitOnP]
  rw [List.splitOnP_append_cons xs ys (by simp), List.map_append]

/-- Blanks in front make no difference. -/
theorem pieces_cons_of_isBlank {b : Char} (hb : Text.isBlank b = true) (cs : List Char) :
    pieces (b :: cs) = pieces cs := by
  have hc : b ≠ ',' := by rintro rfl; exact absurd hb (by decide)
  simp only [pieces, List.splitOn_eq_splitOnP]
  rw [List.splitOnP_cons_eq_if_modifyHead, if_neg (by simpa using hc)]
  obtain ⟨x, xs, hx⟩ := List.exists_cons_of_ne_nil (List.splitOnP_ne_nil (· == ',') cs)
  rw [hx, List.modifyHead_cons, List.map_cons, List.map_cons]
  simp [trim, hb]

theorem pieces_replicate_tab (n : Nat) (cs : List Char) :
    pieces (List.replicate n '\t' ++ cs) = pieces cs := by
  induction n with
  | zero => rfl
  | succ n ih =>
    rw [List.replicate_succ, List.cons_append, pieces_cons_of_isBlank (by decide), ih]

theorem pieces_word {name : String} (h : isWord name = true) : pieces name.toList = [name] := by
  have hb : ∀ c ∈ name.toList, Text.isBlank c = false :=
    fun c hc => isBlank_of_inWord (inWord_of_mem h hc)
  have hc : ∀ c ∈ name.toList, c ≠ ',' := by
    rintro c hc rfl
    exact absurd (inWord_of_mem h hc) (by decide)
  have hd : name.toList.dropWhile Text.isBlank = name.toList := by
    rw [List.dropWhile_eq_self_iff]
    intro hl
    simp [hb _ (List.getElem_mem hl)]
  have hr : name.toList.rdropWhile Text.isBlank = name.toList := by
    rw [List.rdropWhile_eq_self_iff]
    intro hl
    simp [hb _ (List.getLast_mem hl)]
  rw [pieces, List.splitOn_eq_splitOnP, List.splitOnP_eq_singleton (by simpa using hc)]
  simp [trim, hd, hr]

/-! ## Reading lines -/

/-- A line without the tabs in front. -/
def untabbed (line : List Char) : List Char :=
  line.dropWhile (· = '\t')

/-- Does the line, after its tabs, start with two slashes and a space? -/
def isComment (line : List Char) : Bool :=
  "// ".toList.isPrefixOf (untabbed line)

/-- The lines that are no comments, joined. -/
def joined (lines : List (List Char)) : List Char :=
  (lines.filter (!isComment ·)).flatten

/-- The names on one line, which may end with a comma. -/
def namesOnLine (line : List Char) : List String :=
  (pieces line).filter (· ≠ "")

/-- What a line looks like at a depth. -/
def shown (depth : Nat) (line : String) : List Char :=
  indent depth true line.toList

theorem untabbed_replicate_tab (n : Nat) (cs : List Char) :
    untabbed (List.replicate n '\t' ++ cs) = untabbed cs := by
  rw [untabbed, List.dropWhile_append_of_pos (by simp), untabbed]

section
variable {cs : List Char} (hn : '\n' ∉ cs) (depth : Nat) (fresh : Bool)
include hn

theorem newline_notMem_indent : '\n' ∉ indent depth fresh cs := by
  obtain ⟨n, h⟩ := indent_eq_replicate depth fresh hn
  simp [h, hn]

theorem untabbed_indent : untabbed (indent depth fresh cs) = untabbed cs := by
  obtain ⟨n, h⟩ := indent_eq_replicate depth fresh hn
  rw [h, untabbed_replicate_tab]

/-- Tabs in front of a line make no difference. -/
theorem pieces_indent_append (more : List Char) :
    pieces (indent depth fresh cs ++ more) = pieces (cs ++ more) := by
  obtain ⟨n, h⟩ := indent_eq_replicate depth fresh hn
  rw [h, List.append_assoc, pieces_replicate_tab]

theorem pieces_indent : pieces (indent depth fresh cs) = pieces cs := by
  have h := pieces_indent_append hn depth fresh []
  rwa [List.append_nil, List.append_nil] at h

end

theorem joined_append (xs ys : List (List Char)) : joined (xs ++ ys) = joined xs ++ joined ys := by
  simp [joined]

/-- Blank lines are lost when lines are joined. -/
theorem joined_intercalate (sections : List (List (List Char))) :
    joined ([[]].intercalate sections) = sections.flatMap joined := by
  induction sections with
  | nil => rfl
  | cons lines sections ih =>
    cases sections with
    | nil => simp
    | cons next sections =>
      have hblank : joined [[]] = [] := rfl
      rw [List.intercalate_cons_cons, joined_append, joined_append, hblank, List.append_nil, ih]
      rfl

/-! ## Rows of names -/

/-- The rows hold the names in order, at least one and at most four each, and four in every row but the
    last. -/
structure InFours (names : List String) (rows : List (List String)) : Prop where
  flatten_eq : rows.flatten = names
  ne_nil : ∀ row ∈ rows, row ≠ []
  length_le : ∀ row ∈ rows, row.length ≤ 4
  full : ∀ row ∈ rows.dropLast, row.length = 4

theorem inFours_rows (names : List String) : InFours names (rows names) := by
  refine ⟨flatten_rows names, ?_, ?_, ?_⟩
  · fun_induction rows names with
    | case1 => simp
    | case2 names h ih =>
      have hne : names ≠ [] := by simpa using h
      simpa [perLine, hne] using ih
  · fun_induction rows names with
    | case1 => simp
    | case2 names h ih => exact List.forall_mem_cons.2 ⟨List.length_take_le .., ih⟩
  · fun_induction rows names with
    | case1 => simp
    | case2 names h ih =>
      by_cases hmore : names.drop perLine = []
      · rw [hmore, rows]
        simp
      · -- where another row follows, there were more than four names
        have hrest : rows (names.drop perLine) ≠ [] := by
          intro hnil
          exact hmore (by rw [← flatten_rows (names.drop perLine), hnil]; rfl)
        rw [List.dropLast_cons_of_ne_nil hrest]
        have hlength : 4 < names.length := by simpa [perLine] using hmore
        have hfirst : (names.take perLine).length = 4 := by
          rw [List.length_take, perLine]
          omega
        exact List.forall_mem_cons.2 ⟨hfirst, ih⟩

/-- The line of a row of names, with or without a comma at its end. -/
def IsLineOf (row : List String) (line : String) : Prop :=
  ∃ comma ∈ ["", ","], line = ", ".intercalate row ++ comma

theorem exists_isLineOf_of_mem {last : Bool} {rows : List (List String)} {line : String}
    (h : line ∈ lines last rows) : ∃ row ∈ rows, IsLineOf row line := by
  fun_induction lines last rows with
  | case1 => simp at h
  | case2 row =>
    refine ⟨row, List.mem_singleton_self row, _, ?_, List.mem_singleton.1 h⟩
    cases last <;> simp
  | case3 row rest hrest ih =>
    rcases List.mem_cons.1 h with rfl | h
    · exact ⟨row, List.mem_cons_self .., ",", by simp, rfl⟩
    · obtain ⟨found, hmem, hline⟩ := ih h
      exact ⟨found, List.mem_cons_of_mem row hmem, hline⟩

/-- A row that can be read: there are names in it, and they are words. -/
def Readable (row : List String) : Prop :=
  row ≠ [] ∧ ∀ name ∈ row, isWord name = true

theorem readable_of_mem_rows {names : List String} (h : ∀ name ∈ names, isWord name = true) :
    ∀ row ∈ rows names, Readable row := by
  intro row hrow
  refine ⟨(inFours_rows names).ne_nil row hrow, ?_⟩
  intro name hname
  rw [← flatten_rows names] at h
  exact h name (List.mem_flatten.2 ⟨row, hrow, hname⟩)

section
variable {row : List String}

theorem pieces_row (h : Readable row) : pieces (", ".intercalate row).toList = row := by
  obtain ⟨hne, hw⟩ := h
  induction row with
  | nil => exact absurd rfl hne
  | cons name row ih =>
    obtain ⟨hname, hrow⟩ := List.forall_mem_cons.1 hw
    cases row with
    | nil => rw [String.intercalate_singleton, pieces_word hname]
    | cons next row =>
      have hsep : ", ".toList = [',', ' '] := rfl
      have hrest := ih (List.cons_ne_nil next row) hrow
      rw [String.intercalate_cons_cons, String.toList_append, String.toList_append, hsep,
        List.append_assoc, List.cons_append, List.cons_append, List.nil_append, pieces_comma,
        pieces_word hname, pieces_cons_of_isBlank (by decide), hrest, List.singleton_append]

/-- A row with a comma at its end is complete, whatever follows it. -/
theorem pieces_row_comma (h : Readable row) (more : List Char) :
    pieces ((", ".intercalate row ++ ",").toList ++ more) = row ++ pieces more := by
  have hcomma : ",".toList = [','] := rfl
  rw [String.toList_append, hcomma, List.append_assoc, List.singleton_append, pieces_comma,
    pieces_row h]

theorem newline_notMem_row (h : ∀ name ∈ row, isWord name = true) :
    '\n' ∉ (", ".intercalate row).toList := by
  induction row with
  | nil => simp
  | cons name row ih =>
    obtain ⟨hname, hrow⟩ := List.forall_mem_cons.1 h
    have hn : '\n' ∉ name.toList := fun hc => absurd (inWord_of_mem hname hc) (by decide)
    cases row with
    | nil => rwa [String.intercalate_singleton]
    | cons next row =>
      rw [String.intercalate_cons_cons, String.toList_append, String.toList_append, List.mem_append,
        List.mem_append, not_or, not_or]
      exact ⟨⟨hn, by decide⟩, ih hrow⟩

/-- A row begins like its first name. -/
theorem exists_toList_row (h : Readable row) :
    ∃ c cs, (", ".intercalate row).toList = c :: cs ∧ beginsWord c = true := by
  obtain ⟨hne, hw⟩ := h
  obtain ⟨name, row, rfl⟩ := List.exists_cons_of_ne_nil hne
  obtain ⟨c, cs, hname, hc, -⟩ := isWord_iff.1 (hw name (List.mem_cons_self ..))
  cases row with
  | nil => exact ⟨c, cs, by rw [String.intercalate_singleton, hname], hc⟩
  | cons next row =>
    have hrow : (", ".intercalate (name :: next :: row)).toList =
        c :: (cs ++ ", ".toList ++ (", ".intercalate (next :: row)).toList) := by
      rw [String.intercalate_cons_cons, String.toList_append, String.toList_append, hname]
      rfl
    exact ⟨c, _, hrow, hc⟩

namespace IsLineOf

variable {line : String}

theorem newline_notMem (h : IsLineOf row line) (hr : Readable row) : '\n' ∉ line.toList := by
  obtain ⟨comma, hcomma, rfl⟩ := h
  rw [String.toList_append, List.mem_append, not_or]
  refine ⟨newline_notMem_row hr.2, ?_⟩
  rcases List.mem_pair.1 hcomma with rfl | rfl <;> decide

/-- No line of names is taken for a comment. -/
theorem isComment_shown (h : IsLineOf row line) (hr : Readable row) (depth : Nat) :
    isComment (shown depth line) = false := by
  have hn := h.newline_notMem hr
  obtain ⟨comma, -, rfl⟩ := h
  obtain ⟨c, cs, hrow, hc⟩ := exists_toList_row hr
  have htab : c ≠ '\t' := by rintro rfl; exact absurd hc (by decide)
  have hslash : c ≠ '/' := by rintro rfl; exact absurd hc (by decide)
  rw [isComment, shown, untabbed_indent hn, String.toList_append, hrow, List.cons_append, untabbed,
    List.dropWhile_cons_of_neg (by simpa using htab)]
  simp [List.isPrefixOf, Ne.symm hslash]

theorem namesOnLine_shown (h : IsLineOf row line) (hr : Readable row) (depth : Nat) :
    namesOnLine (shown depth line) = row := by
  have hn := h.newline_notMem hr
  have hrow : row.filter (· ≠ "") = row := by
    rw [List.filter_eq_self]
    intro name hname
    have hword := hr.2 name hname
    rw [decide_eq_true_eq]
    rintro rfl
    exact absurd hword (by decide)
  rw [namesOnLine, shown, pieces_indent hn]
  obtain ⟨comma, hcomma, rfl⟩ := h
  rcases List.mem_pair.1 hcomma with rfl | rfl
  · rw [String.append_empty, pieces_row hr, hrow]
  · have hcomma := pieces_row_comma hr []
    rw [List.append_nil, pieces_nil] at hcomma
    rw [hcomma, List.filter_append, hrow]
    simp

end IsLineOf

end

/-! ## Names of a group -/

/-- The lines of the names, joined. -/
def namesText (depth : Nat) (last : Bool) (names : List String) : List Char :=
  ((lines last (rows names)).map (shown depth)).flatten

theorem lines_false (rows : List (List String)) :
    lines false rows = rows.map fun row => ", ".intercalate row ++ "," := by
  fun_induction lines false rows with
  | case1 => rfl
  | case2 row => rfl
  | case3 row rest h ih => rw [ih, List.map_cons]

/-- Only the very last line has no comma at its end. -/
theorem lines_true_append (before : List (List String)) (row : List String) :
    lines true (before ++ [row]) = lines false before ++ [", ".intercalate row] := by
  induction before with
  | nil => simp [lines]
  | cons first before ih =>
    have hcons : lines true (first :: (before ++ [row])) =
        (", ".intercalate first ++ ",") :: lines true (before ++ [row]) := by
      rw [lines]
      simp
    rw [List.cons_append, hcons, ih, lines_false, lines_false, List.map_cons, List.cons_append]

theorem pieces_flatten_lines_false {rows : List (List String)} (h : ∀ row ∈ rows, Readable row)
    (depth : Nat) (more : List Char) :
    pieces (((lines false rows).map (shown depth)).flatten ++ more) = rows.flatten ++ pieces more := by
  rw [lines_false]
  induction rows with
  | nil => rfl
  | cons row rows ih =>
    obtain ⟨hrow, hrows⟩ := List.forall_mem_cons.1 h
    have hn : '\n' ∉ (", ".intercalate row ++ ",").toList :=
      IsLineOf.newline_notMem ⟨",", by simp, rfl⟩ hrow
    rw [List.map_cons, List.map_cons, List.flatten_cons, List.append_assoc, shown,
      pieces_indent_append hn, pieces_row_comma hrow, ih hrows, List.flatten_cons, List.append_assoc]

section
variable {names : List String} (h : ∀ name ∈ names, isWord name = true) (depth : Nat)
include h

/-- The names of a group that others follow. -/
theorem pieces_namesText_false (more : List Char) :
    pieces (namesText depth false names ++ more) = names ++ pieces more := by
  rw [namesText, pieces_flatten_lines_false (readable_of_mem_rows h), flatten_rows]

/-- The names of the last group. -/
theorem pieces_namesText_true (hne : names ≠ []) : pieces (namesText depth true names) = names := by
  have hr := readable_of_mem_rows h
  have hflat := flatten_rows names
  rw [namesText]
  rcases (rows names).eq_nil_or_concat with hrows | ⟨before, row, hrows⟩
  · rw [hrows] at hflat
    exact absurd hflat.symm hne
  · rw [List.concat_eq_append] at hrows
    rw [hrows] at hr hflat ⊢
    have hrow : Readable row := hr row (by simp)
    have hbefore : ∀ r ∈ before, Readable r := fun r hr' => hr r (List.mem_append_left [row] hr')
    have hlast : pieces (shown depth (", ".intercalate row)) = row := by
      rw [shown, pieces_indent (newline_notMem_row hrow.2), pieces_row hrow]
    rw [lines_true_append, List.map_append, List.flatten_append, pieces_flatten_lines_false hbefore,
      List.map_singleton, List.flatten_singleton, hlast, ← hflat, List.flatten_append,
      List.flatten_singleton]

theorem newline_notMem_of_mem_lines {last : Bool} {line : String}
    (hline : line ∈ lines last (rows names)) : '\n' ∉ line.toList := by
  obtain ⟨row, hrow, hl⟩ := exists_isLineOf_of_mem hline
  exact hl.newline_notMem (readable_of_mem_rows h row hrow)

theorem isComment_shown_of_mem_lines {last : Bool} {line : String}
    (hline : line ∈ lines last (rows names)) : isComment (shown depth line) = false := by
  obtain ⟨row, hrow, hl⟩ := exists_isLineOf_of_mem hline
  exact hl.isComment_shown (readable_of_mem_rows h row hrow) depth

theorem joined_map_lines (last : Bool) :
    joined ((lines last (rows names)).map (shown depth)) = namesText depth last names := by
  rw [joined, namesText, List.filter_eq_self.2]
  intro shownLine hmem
  obtain ⟨line, hline, rfl⟩ := List.mem_map.1 hmem
  rw [isComment_shown_of_mem_lines h depth hline]
  rfl

end

theorem map_namesOnLine_lines {rows : List (List String)} (h : ∀ row ∈ rows, Readable row)
    (depth : Nat) (last : Bool) :
    (lines last rows).map (fun line => namesOnLine (shown depth line)) = rows := by
  fun_induction lines last rows with
  | case1 => rfl
  | case2 row =>
    have hline : IsLineOf row (", ".intercalate row ++ if last then "" else ",") :=
      ⟨_, by cases last <;> simp, rfl⟩
    rw [List.map_singleton, hline.namesOnLine_shown (h row (List.mem_singleton_self row))]
  | case3 row rest _ ih =>
    obtain ⟨hrow, hrest⟩ := List.forall_mem_cons.1 h
    have hline : IsLineOf row (", ".intercalate row ++ ",") := ⟨",", by simp, rfl⟩
    rw [List.map_cons, hline.namesOnLine_shown hrow, ih hrest]

end ScannerDispatch.Enumeration
