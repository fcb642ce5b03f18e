import ScannerDispatch.Output.Writer

/-!
Texts written piece by piece.

A text is cut after each of its new-lines.  The pieces are written one after the other, each after its
tabs, and the tabs one by one; the first write that does not fit ends all.

* `Sink.room_write_of_not_fits`: a write that does not fit fills the sink, and what follows is lost.
* `Writer.writePieces_eq`: this way of writing has the results of `Writer.write` and `Writer.fits`.
-/

namespace ScannerDispatch

/-! ## Sinks -/

namespace Sink

theorem write_of_full {k : Sink} (h : k.room = some 0) (cs : List Char) : k.write cs = k := by
  obtain ⟨w, room⟩ := k
  obtain rfl : room = some 0 := h
  simp [write, taken]

theorem fits_of_full {k : Sink} (h : k.room = some 0) (cs : List Char) :
    k.fits cs = cs.isEmpty := by
  cases cs <;> simp [fits, h]

/-- A write that does not fit fills the sink. -/
theorem room_write_of_not_fits {k : Sink} {cs : List Char} (h : k.fits cs = false) :
    (k.write cs).room = some 0 := by
  obtain ⟨w, _ | n⟩ := k
  · simp [fits] at h
  · simp only [fits, decide_eq_false_iff_not, Nat.not_le] at h
    simp only [write, Option.map_some, Option.some.injEq]
    omega

/-- What follows a write that does not fit is lost. -/
theorem write_append_of_not_fits {k : Sink} {cs : List Char} (h : k.fits cs = false)
    (more : List Char) : k.write (cs ++ more) = k.write cs := by
  rw [write_append, write_of_full (room_write_of_not_fits h)]

theorem fits_append_of_not_fits {k : Sink} {cs : List Char} (h : k.fits cs = false)
    (more : List Char) : k.fits (cs ++ more) = false := by
  rw [fits_append, h, Bool.false_and]

/-- After a first text a second one fits on a sink if it is empty or both fit together. -/
theorem fits_write_iff {k : Sink} {limit : Nat} (h : k.room = some limit) (xs ys : List Char) :
    (k.write xs).fits ys = true ↔ ys = [] ∨ (xs ++ ys).length ≤ limit := by
  rw [← List.length_eq_zero_iff]
  simp only [fits, write, h, Option.map_some, decide_eq_true_eq, List.length_append]
  omega

end Sink

/-! ## Pieces -/

/-- The pieces of a text: each ends with its only new-line, except that the last may lack one. -/
def pieces : List Char → List (List Char)
  | [] => []
  | c :: cs =>
    if c = '\n' then [c] :: pieces cs
    else match pieces cs with
      | [] => [[c]]
      | piece :: rest => (c :: piece) :: rest

/-- Writes tabs one by one, up to the first that does not fit. -/
def Sink.writeTabs : Nat → Sink → Sink × Bool
  | 0, k => (k, true)
  | n + 1, k => if k.fits ['\t'] then writeTabs n (k.write ['\t']) else (k.write ['\t'], false)

/-- Writes pieces one by one, up to the first that does not fit.  Tabs come before a piece that begins
    a line, unless the line is blank. -/
def Writer.writePieces : List (List Char) → Writer → Writer × Bool
  | [], w => (w, true)
  | piece :: rest, w =>
    let tabs := if w.fresh && piece ≠ ['\n'] then w.sink.writeTabs w.depth else (w.sink, true)
    if !tabs.2 then ({ w with sink := tabs.1 }, false)
    else if tabs.1.fits piece then
      writePieces rest
        { w with sink := tabs.1.write piece, fresh := piece.getLast? = some '\n' }
    else ({ w with sink := tabs.1.write piece }, false)

theorem Sink.writeTabs_eq (n : Nat) (k : Sink) :
    (k.writeTabs n).2 = k.fits (List.replicate n '\t') ∧
      (k.writeTabs n).1 = k.write (List.replicate n '\t') := by
  induction n generalizing k with
  | zero => simp [writeTabs]
  | succ n ih =>
    have hr : List.replicate (n + 1) '\t' = ['\t'] ++ List.replicate n '\t' := rfl
    rw [writeTabs, hr]
    split
    · next h => rw [fits_append, h, Bool.true_and, write_append]; exact ih _
    · next h =>
      rw [Bool.not_eq_true] at h
      exact ⟨(fits_append_of_not_fits h _).symm, (write_append_of_not_fits h _).symm⟩

/-- A piece: it has characters, and no new-line before the last of them. -/
def IsPiece (piece : List Char) : Prop :=
  piece ≠ [] ∧ '\n' ∉ piece.dropLast

theorem flatten_pieces (cs : List Char) : (pieces cs).flatten = cs := by
  induction cs with
  | nil => rfl
  | cons c cs ih =>
    rw [pieces]
    split
    · simp [ih]
    · cases hp : pieces cs with
      | nil => rw [hp] at ih; simp [← ih]
      | cons piece rest => rw [hp] at ih; simp [← ih]

theorem isPiece_of_mem {piece cs : List Char} (h : piece ∈ pieces cs) : IsPiece piece := by
  induction cs generalizing piece with
  | nil => simp [pieces] at h
  | cons c cs ih =>
    rw [pieces] at h
    split at h
    · rcases List.mem_cons.1 h with rfl | h
      · simp [IsPiece]
      · exact ih h
    · next hc =>
      cases hp : pieces cs with
      | nil =>
        rw [hp] at h
        rw [List.mem_singleton.1 h]
        simp [IsPiece]
      | cons first rest =>
        rw [hp] at h ih
        rcases List.mem_cons.1 h with rfl | h
        · obtain ⟨hne, hn⟩ := ih (List.mem_cons_self ..)
          refine ⟨by simp, ?_⟩
          rw [List.dropLast_cons_of_ne_nil hne, List.mem_cons, not_or]
          exact ⟨Ne.symm hc, hn⟩
        · exact ih (List.mem_cons_of_mem _ h)

theorem indent_false_of_isPiece (depth : Nat) {piece : List Char} (h : IsPiece piece) :
    indent depth false piece = piece := by
  induction piece with
  | nil => simp
  | cons c cs ih =>
    cases cs with
    | nil => simp [indent]
    | cons d cs =>
      obtain ⟨hc, hn⟩ := not_or.1 (mt List.mem_cons.2 h.2)
      rw [indent, if_neg (Ne.symm hc), ih ⟨by simp, hn⟩]
      rfl

/-- The tabs of a piece stand before it. -/
theorem indent_of_isPiece (depth : Nat) (fresh : Bool) {piece : List Char} (h : IsPiece piece) :
    indent depth fresh piece =
      (if fresh && piece ≠ ['\n'] then List.replicate depth '\t' else []) ++ piece := by
  obtain ⟨c, cs, rfl⟩ := List.exists_cons_of_ne_nil h.1
  have hfalse := indent_false_of_isPiece depth h
  by_cases hc : c = '\n'
  · cases cs with
    | nil => simp [hc, indent]
    | cons d cs => exact absurd (List.mem_cons.2 (.inl hc.symm)) h.2
  · simp only [indent, if_neg hc, Bool.false_eq_true, if_false, List.nil_append,
      List.cons.injEq, true_and] at hfalse
    simp [indent, hc, hfalse]

/-- A line begins after a text if it ends with a new-line. -/
theorem startsLine_eq (fresh : Bool) {cs : List Char} (h : cs ≠ []) :
    startsLine fresh cs = decide (cs.getLast? = some '\n') := by
  induction cs generalizing fresh with
  | nil => contradiction
  | cons c cs ih =>
    cases cs with
    | nil => simp [startsLine]
    | cons d cs => rw [startsLine, ih _ (by simp), List.getLast?_cons_cons]

namespace Writer

/-- The first piece: it fits with its tabs, or it is the last one. -/
theorem writePieces_cons (w : Writer) {piece : List Char} (h : IsPiece piece)
    (rest : List (List Char)) :
    w.writePieces (piece :: rest) =
      if w.sink.fits (indent w.depth w.fresh piece) then
        { w with
          sink := w.sink.write (indent w.depth w.fresh piece)
          fresh := startsLine w.fresh piece }.writePieces rest
      else ({ w with sink := w.sink.write (indent w.depth w.fresh piece) }, false) := by
  rw [indent_of_isPiece _ _ h, startsLine_eq _ h.1, writePieces]
  obtain ⟨hok, hk⟩ := w.sink.writeTabs_eq w.depth
  by_cases hlead : (w.fresh && decide (piece ≠ ['\n'])) = true
  · -- tabs come first, and they may fill the sink
    simp only [if_pos hlead, hok, hk]
    cases hf : w.sink.fits (List.replicate w.depth '\t') with
    | false => simp [Sink.fits_append_of_not_fits hf, Sink.write_append_of_not_fits hf]
    | true => simp [hf, Sink.fits_append, Sink.write_append]
  · simp only [if_neg hlead, List.nil_append, Bool.not_true, Bool.false_eq_true, if_false]

theorem writePieces_flatten (w : Writer) {ps : List (List Char)} (h : ∀ piece ∈ ps, IsPiece piece) :
    (w.writePieces ps).2 = w.sink.fits (indent w.depth w.fresh ps.flatten) ∧
    (w.writePieces ps).1.sink = w.sink.write (indent w.depth w.fresh ps.flatten) ∧
    ((w.writePieces ps).2 = true →
      (w.writePieces ps).1.fresh = startsLine w.fresh ps.flatten) ∧
    (w.writePieces ps).1.depth = w.depth := by
  induction ps generalizing w with
  | nil => simp [writePieces, startsLine]
  | cons piece ps ih =>
    obtain ⟨hpiece, h⟩ := List.forall_mem_cons.1 h
    rw [writePieces_cons w hpiece, List.flatten_cons, indent_append, startsLine_append]
    split
    · next hf =>
      rw [Sink.fits_append, hf, Bool.true_and, Sink.write_append]
      exact ih _ h
    · next hf =>
      rw [Bool.not_eq_true] at hf
      rw [Sink.fits_append_of_not_fits hf, Sink.write_append_of_not_fits hf]
      exact ⟨rfl, rfl, by simp, rfl⟩

/-- **To write a text is to write its pieces one by one**, whether or not they fit. -/
theorem writePieces_eq (w : Writer) (text : String) :
    (w.writePieces (pieces text.toList)).2 = w.fits 0 text ∧
    (w.writePieces (pieces text.toList)).1.sink = (w.write 0 text).sink ∧
    (w.fits 0 text = true → (w.writePieces (pieces text.toList)).1 = w.write 0 text) := by
  have hpieces : ∀ piece ∈ pieces text.toList, IsPiece piece := fun _ => isPiece_of_mem
  obtain ⟨hok, hsink, hfresh, hdepth⟩ := w.writePieces_flatten hpieces
  rw [flatten_pieces] at hok hsink hfresh
  refine ⟨hok, hsink, fun hf => ?_⟩
  generalize w.writePieces (pieces text.toList) = r at hok hsink hfresh hdepth
  obtain ⟨⟨sink, depth, fresh⟩, ok⟩ := r
  obtain rfl : ok = true := hok.trans hf
  obtain rfl : sink = _ := hsink
  obtain rfl : depth = _ := hdepth
  obtain rfl : fresh = _ := hfresh rfl
  rfl

end Writer

end ScannerDispatch
