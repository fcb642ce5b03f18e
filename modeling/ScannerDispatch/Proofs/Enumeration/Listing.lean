import ScannerDispatch.Proofs.Dispatch.Failures
import ScannerDispatch.Proofs.Enumeration.Lines

/-!
How an enumeration is read back.

A reader drops the comments, joins the lines that are left, and reads a list of names.  This gives back
the constants of the registry, class by class: the groups are read one after the other, up to the last
one that has names (`pieces_joined_sections`).

* `IsSection` and `IsListing` say which lines belong to which class, and what is read from all of them.
* `emit_steps_isListing`: every emission of an enumeration writes such lines.
-/

namespace ScannerDispatch.Enumeration

open Code

/-! ## Groups -/

/-- Lines of one class: its heading as a comment, then lines with its names and no other comment. -/
inductive IsSection (heading : String) (names : List String) : List (List Char) → Prop where
  | intro {title : List Char} {rest : List (List Char)} :
    untabbed title = ("// " ++ heading).toList → (∀ line ∈ rest, isComment line = false) →
    InFours names (rest.map namesOnLine) → IsSection heading names (title :: rest)

/-- The lines of a group.  `last` says that no constant follows in later groups. -/
def Group.lines (last : Bool) (g : Group) : List String :=
  ("// " ++ g.heading) :: Enumeration.lines last (rows g.names)

/-- The lines of several groups, as they look at a depth. -/
def sections (depth : Nat) : List Group → List (List (List Char))
  | [] => []
  | g :: rest =>
    (g.lines (rest.all (·.names.isEmpty))).map (shown depth) :: sections depth rest

/-- A heading on one line, and names that are words. -/
def Group.Sound (g : Group) : Prop :=
  '\n' ∉ g.heading.toList ∧ ∀ name ∈ g.names, isWord name = true

theorem Group.Sound.newline_notMem {g : Group} (h : g.Sound) (last : Bool) :
    ∀ line ∈ g.lines last, '\n' ∉ line.toList := by
  rw [Group.lines, List.forall_mem_cons, String.toList_append, List.mem_append, not_or]
  exact ⟨⟨by decide, h.1⟩, fun line hline => newline_notMem_of_mem_lines h.2 hline⟩

theorem Group.Sound.untabbed_title {g : Group} (h : g.Sound) (depth : Nat) :
    untabbed (shown depth ("// " ++ g.heading)) = ("// " ++ g.heading).toList := by
  obtain ⟨htitle, -⟩ := List.forall_mem_cons.1 (h.newline_notMem true)
  rw [shown, untabbed_indent htitle, String.toList_append]
  rfl

theorem Group.Sound.isSection {g : Group} (h : g.Sound) (depth : Nat) (last : Bool) :
    IsSection g.heading g.names ((g.lines last).map (shown depth)) := by
  rw [Group.lines, List.map_cons]
  refine .intro (h.untabbed_title depth) ?_ ?_
  · intro shownLine hmem
    obtain ⟨line, hline, rfl⟩ := List.mem_map.1 hmem
    exact isComment_shown_of_mem_lines h.2 depth hline
  · have hrows := map_namesOnLine_lines (readable_of_mem_rows h.2) depth last
    rw [List.map_map]
    exact (congrArg (InFours g.names) hrows).mpr (inFours_rows g.names)

theorem Group.Sound.joined_lines {g : Group} (h : g.Sound) (depth : Nat) (last : Bool) :
    joined ((g.lines last).map (shown depth)) = namesText depth last g.names := by
  have hcomment : isComment (shown depth ("// " ++ g.heading)) = true := by
    rw [isComment, h.untabbed_title, String.toList_append]
    rfl
  rw [Group.lines, List.map_cons, ← joined_map_lines h.2 depth last, joined, joined]
  simp [hcomment]

theorem forall₂_sections {gs : List Group} (h : ∀ g ∈ gs, g.Sound) (depth : Nat) :
    List.Forall₂ (fun g lines => IsSection g.heading g.names lines) gs (sections depth gs) := by
  induction gs with
  | nil => exact .nil
  | cons g gs ih =>
    obtain ⟨hg, hgs⟩ := List.forall_mem_cons.1 h
    exact .cons (hg.isSection depth _) (ih hgs)

/-- Groups without names leave nothing, not even a comma. -/
theorem joined_sections_eq_nil {gs : List Group} (h : ∀ g ∈ gs, g.Sound) (depth : Nat)
    (hnone : ∀ g ∈ gs, g.names = []) : (sections depth gs).flatMap joined = [] := by
  induction gs with
  | nil => rfl
  | cons g gs ih =>
    obtain ⟨hg, hgs⟩ := List.forall_mem_cons.1 h
    obtain ⟨hempty, hnone⟩ := List.forall_mem_cons.1 hnone
    rw [sections, List.flatMap_cons, hg.joined_lines, hempty, ih hgs hnone, namesText, rows]
    rfl

/-- Groups are read one after the other; the last one with names in it ends the list. -/
theorem pieces_joined_sections {gs : List Group} (h : ∀ g ∈ gs, g.Sound) (depth : Nat)
    (hsome : ∃ g ∈ gs, g.names ≠ []) :
    pieces ((sections depth gs).flatMap joined) = gs.flatMap (·.names) := by
  induction gs with
  | nil => simp at hsome
  | cons g gs ih =>
    obtain ⟨hg, hgs⟩ := List.forall_mem_cons.1 h
    rw [sections, List.flatMap_cons, hg.joined_lines, List.flatMap_cons]
    by_cases hrest : ∀ g ∈ gs, g.names = []
    · -- this is the last group with names, so no comma follows them
      have hall : (gs.all fun g => g.names.isEmpty) = true := by simpa using hrest
      have hne : g.names ≠ [] := by
        obtain ⟨g', hmem, hne⟩ := hsome
        rcases List.mem_cons.1 hmem with rfl | hmem
        · exact hne
        · exact absurd (hrest g' hmem) hne
      have hnames : gs.flatMap (·.names) = [] := List.flatMap_eq_nil_iff.2 hrest
      rw [hall, joined_sections_eq_nil hgs depth hrest, List.append_nil,
        pieces_namesText_true hg.2 depth hne, hnames, List.append_nil]
    · have hall : (gs.all fun g => g.names.isEmpty) = false := by simpa using hrest
      have hsome : ∃ g ∈ gs, g.names ≠ [] := by simpa using hrest
      rw [hall, pieces_namesText_false hg.2, ih hgs hsome]

/-- **The names of all groups, and nothing else, are read from their lines.** -/
theorem namesIn_joined_sections {gs : List Group} (h : ∀ g ∈ gs, g.Sound) (depth : Nat) :
    namesIn ((sections depth gs).flatMap joined) = gs.flatMap (·.names) := by
  rw [namesIn]
  by_cases hnone : ∀ g ∈ gs, g.names = []
  · rw [joined_sections_eq_nil h depth hnone, pieces_nil, if_pos rfl]
    exact (List.flatMap_eq_nil_iff.2 hnone).symm
  · have hsome : ∃ g ∈ gs, g.names ≠ [] := by simpa using hnone
    rw [pieces_joined_sections h depth hsome, if_neg]
    intro hblank
    have hmem : "" ∈ gs.flatMap (·.names) := by rw [hblank]; exact List.mem_singleton_self ""
    obtain ⟨g, hg, hname⟩ := List.mem_flatMap.1 hmem
    exact absurd ((h g hg).2 "" hname) (by decide)

/-! ## Whole enumerations -/

theorem splitOn_layout_line {line : String} (h : '\n' ∉ line.toList) (depth : Nat) (fresh : Bool)
    (level : Nat) (rest : List Step) :
    (layout depth fresh (.line level line :: rest)).splitOn '\n' =
      indent (depth + level) fresh line.toList :: (layout depth true rest).splitOn '\n' := by
  have hn := newline_notMem_indent h (depth + level) fresh
  rw [layout_line, List.splitOn_eq_splitOnP, List.splitOn_eq_splitOnP]
  refine List.splitOnP_append_cons_of_forall_mem ?_ '\n' (by decide) _
  intro c hc
  rw [beq_eq_false_iff_ne]
  rintro rfl
  exact hn hc

theorem splitOn_layout_lines {lines : List String} (h : ∀ line ∈ lines, '\n' ∉ line.toList)
    (depth level : Nat) (rest : List Step) :
    (layout depth true (lines.map (.line level) ++ rest)).splitOn '\n' =
      lines.map (shown (depth + level)) ++ (layout depth true rest).splitOn '\n' := by
  induction lines with
  | nil => rfl
  | cons line lines ih =>
    obtain ⟨hline, hlines⟩ := List.forall_mem_cons.1 h
    rw [List.map_cons, List.cons_append, splitOn_layout_line hline, ih hlines]
    rfl

theorem splitOn_layout_groupSteps {gs : List Group} (h : ∀ g ∈ gs, g.Sound) (depth : Nat)
    (rest : List Step) :
    (layout depth true (groupSteps gs ++ rest)).splitOn '\n' =
      [[]].intercalate (sections (depth + 1) gs) ++ (layout depth true rest).splitOn '\n' := by
  fun_induction groupSteps gs with
  | case1 => simp [sections]
  | case2 g =>
    have hg := h g (List.mem_singleton_self g)
    have hlines := splitOn_layout_lines (hg.newline_notMem true) depth 1 rest
    simpa [sections, Group.steps, Group.lines] using hlines
  | case3 g gs hne ih =>
    obtain ⟨hg, hgs⟩ := List.forall_mem_cons.1 h
    obtain ⟨next, gs, rfl⟩ := List.exists_cons_of_ne_nil hne
    have hblank : '\n' ∉ "".toList := by decide
    have hempty : indent (depth + 1) true "".toList = [] := indent_nil (depth + 1) true
    have hsteps : ∀ last, g.steps last = (g.lines last).map (.line 1) := fun _ => rfl
    rw [List.append_assoc, List.cons_append, hsteps, splitOn_layout_lines (hg.newline_notMem _),
      splitOn_layout_line hblank, ih hgs, hempty]
    simp only [sections, List.intercalate_cons_cons, List.append_assoc, List.cons_append,
      List.nil_append]

/-- The classes that an enumeration lists, in order. -/
def listed : List TokenClass :=
  [.oneChar, .twoChar, .literal, .keyword, .special]

/-- The lines of an enumeration: an opening and a closing one, and between them the names of the listed
    classes, each class in lines of its own. -/
structure IsListing (r : Registry) (type : String) (opening : List Char) (body : List (List Char))
    (closing : List Char) : Prop where
  opening_eq : untabbed opening = "typedef enum \x7b".toList
  closing_eq : untabbed closing = ("\x7d " ++ type ++ ";").toList
  names_eq : namesIn (joined body) = listed.flatMap r.names
  eq_nil : (∀ c ∈ listed, r.names c = []) → joined body = []
  by_class : ∃ sections, body = [[]].intercalate sections ∧
    List.Forall₂ (fun c lines => ∃ heading, c.comment = some heading ∧
      IsSection heading (r.names c) lines) listed sections

theorem groups_eq (r : Registry) : groups r =
    listed.map fun c => ⟨c.comment.getD "", r.names c⟩ := rfl

theorem sound_groups {r : Registry}
    (h : ∀ c ∈ listed, ∀ name ∈ r.names c, isWord name = true) : ∀ g ∈ groups r, g.Sound := by
  have hheading : ∀ c : TokenClass, '\n' ∉ (c.comment.getD "").toList := by
    intro c
    cases c <;> decide
  rw [groups_eq, List.forall_mem_map]
  intro c hc
  exact ⟨hheading c, h c hc⟩

section
variable {r : Registry} {type : String}

theorem newline_notMem_closing (h : isWord type = true) :
    '\n' ∉ ("\x7d " ++ type ++ ";").toList := by
  have hn : '\n' ∉ type.toList := fun hc => absurd (inWord_of_mem h hc) (by decide)
  simp [hn]

theorem splitOn_layout_steps (hgs : ∀ g ∈ groups r, g.Sound) (htype : isWord type = true)
    (depth : Nat) (fresh : Bool) :
    (layout depth fresh (steps r type)).splitOn '\n' =
      indent depth fresh "typedef enum \x7b".toList ::
        [[]].intercalate (sections (depth + 1) (groups r)) ++
          [shown depth ("\x7d " ++ type ++ ";"), []] := by
  rw [steps, List.cons_append, splitOn_layout_line (by decide), splitOn_layout_groupSteps hgs,
    splitOn_layout_line (newline_notMem_closing htype)]
  rfl

theorem isListing_sections (hgs : ∀ g ∈ groups r, g.Sound) (htype : isWord type = true)
    (depth : Nat) (fresh : Bool) :
    IsListing r type (indent depth fresh "typedef enum \x7b".toList)
      ([[]].intercalate (sections (depth + 1) (groups r)))
      (shown depth ("\x7d " ++ type ++ ";")) where
  opening_eq := untabbed_indent (by decide) depth fresh
  closing_eq := by
    rw [shown, untabbed_indent (newline_notMem_closing htype)]
    simp [untabbed]
  names_eq := by
    rw [joined_intercalate, namesIn_joined_sections hgs, groups_eq, List.flatMap_map]
  eq_nil hnone := by
    rw [joined_intercalate]
    refine joined_sections_eq_nil hgs (depth + 1) ?_
    rw [groups_eq, List.forall_mem_map]
    exact hnone
  by_class := by
    have hsections := forall₂_sections hgs (depth + 1)
    have hcomment : ∀ c ∈ listed, c.comment = some (c.comment.getD "") := by decide
    rw [groups_eq, List.forall₂_map_left_iff] at hsections
    have hboth := (List.forall₂_and_left _ _).2 ⟨hcomment, hsections⟩
    exact ⟨_, rfl, hboth.imp fun c lines h => ⟨_, h⟩⟩

end

/-- **An enumeration is read back as the constants of the registry.**  Its text reaches the sink as far
    as it fits, and the emission succeeds if all of it does. -/
theorem emit_steps_isListing {r : Registry} {type : String}
    (hnames : ∀ c ∈ listed, ∀ name ∈ r.names c, isWord name = true) (htype : isWord type = true)
    (s : Session) :
    ∃ text opening body closing,
      text.splitOn '\n' = opening :: body ++ [closing, []] ∧
      IsListing r type opening body closing ∧
      (emit (steps r type) s).1.writer.written =
        s.writer.written ++ String.ofList (s.writer.sink.taken text) ∧
      (emit (steps r type) s).2 =
        if s.writer.sink.fits text then .ok () else .error .sinkFull := by
  obtain ⟨hwritten, hresult⟩ := emit_of_failure?_eq_none (failure?_steps r type) s
  have hgs := sound_groups hnames
  exact ⟨layout s.writer.depth s.writer.fresh (steps r type), _, _, _,
    splitOn_layout_steps hgs htype _ _, isListing_sections hgs htype _ _, hwritten, hresult⟩

/-- Five names of one class take two lines, and the comma after them goes before the empty classes.  What
    is registered as skipped need not be a word. -/
def sample : Registry where
  stem := "TOKEN"
  entries := [(.oneChar, "TOKEN_A"), (.special, "TOKEN_EOF"), (.skip, "TOKEN_,"), (.oneChar, "TOKEN_B"),
    (.oneChar, "TOKEN_C"), (.oneChar, "TOKEN_D"), (.oneChar, "TOKEN_E")]

theorem emit_steps_sample_isListing :
    (∀ c ∈ listed, ∀ name ∈ sample.names c, isWord name = true) ∧ isWord "TokenType" = true ∧
      ∃ text opening body closing,
        text.splitOn '\n' = opening :: body ++ [closing, []] ∧
        IsListing sample "TokenType" opening body closing ∧
        (emit (steps sample "TokenType") (.new "TOKEN")).1.writer.written =
          "" ++ String.ofList text ∧
        (emit (steps sample "TokenType") (.new "TOKEN")).2 = .ok () := by
  have hnames : ∀ c ∈ listed, ∀ name ∈ sample.names c, isWord name = true := by decide
  have htype : isWord "TokenType" = true := by decide
  exact ⟨hnames, htype, emit_steps_isListing hnames htype (.new "TOKEN")⟩

end ScannerDispatch.Enumeration
