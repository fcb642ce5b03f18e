import ScannerDispatch.Emission
import ScannerDispatch.Proofs.Output.Pieces

/-!
Emissions that are cut off by a full sink.

* `Session.Extends`: one session is another one with text, constants and events added at the end.
* `Additions.CutTo` is what is left of additions where the sink takes so many characters.
* `exists_additions_emit`: an emission on a sink with limited room adds the first of what the same
  emission adds on a sink that takes any text.  It has the same result if all the text fits.
-/

namespace ScannerDispatch

/-! ## Additions -/

/-- What an emission adds to a session. -/
structure Additions where
  text : List Char := []
  entries : List (TokenClass × String) := []
  events : List LogEvent := []
deriving Repr, DecidableEq, Inhabited

namespace Additions

/-- First the one, then the other. -/
def append (a b : Additions) : Additions :=
  ⟨a.text ++ b.text, a.entries ++ b.entries, a.events ++ b.events⟩

instance : Append Additions := ⟨append⟩

@[simp] theorem text_append (a b : Additions) : (a ++ b).text = a.text ++ b.text := rfl

@[simp] theorem entries_append (a b : Additions) : (a ++ b).entries = a.entries ++ b.entries := rfl

@[simp] theorem events_append (a b : Additions) : (a ++ b).events = a.events ++ b.events := rfl

/-- `b` is what is left of `a` on a sink that takes `limit` characters. -/
structure CutTo (a : Additions) (limit : Nat) (b : Additions) : Prop where
  text_eq : b.text = a.text.take limit
  entries_prefix : b.entries <+: a.entries
  events_prefix : b.events <+: a.events
  eq_of_le : a.text.length ≤ limit → b = a

theorem CutTo.nothing (limit : Nat) : CutTo {} limit {} :=
  ⟨by simp, List.prefix_rfl, List.prefix_rfl, fun _ => rfl⟩

/-- What fits goes before what is left of the rest. -/
theorem CutTo.append_left {a b c : Additions} {limit : Nat} (hc : c.text.length ≤ limit)
    (h : a.CutTo (limit - c.text.length) b) : (c ++ a).CutTo limit (c ++ b) where
  text_eq := by
    rw [text_append, text_append, h.text_eq, List.take_append, List.take_of_length_le hc]
  entries_prefix := List.prefix_append_right_inj c.entries |>.2 h.entries_prefix
  events_prefix := List.prefix_append_right_inj c.events |>.2 h.events_prefix
  eq_of_le hle := by
    rw [text_append, List.length_append] at hle
    rw [h.eq_of_le (by omega)]

/-- Of a text that does not fit the first part is left, and nothing of what follows. -/
theorem cutTo_of_lt {limit : Nat} {cs : List Char} (h : limit < cs.length) (a : Additions) :
    (({ text := cs } : Additions) ++ a).CutTo limit { text := cs.take limit } where
  text_eq := by rw [text_append, List.take_append_of_le_length (Nat.le_of_lt h)]
  entries_prefix := List.nil_prefix
  events_prefix := List.nil_prefix
  eq_of_le hle := by
    have hsum : cs.length + a.text.length ≤ limit := by simpa using hle
    omega

end Additions

/-! ## Sessions -/

namespace Session

/-- The session on a sink with so much room. -/
def withRoom (room : Option Nat) (s : Session) : Session :=
  { s with writer := { s.writer with sink := { s.writer.sink with room } } }

/-- The session `s'` is `s` with the additions `a`, whatever room their sinks have. -/
structure Extends (s s' : Session) (a : Additions) : Prop where
  written_eq : s'.writer.written = s.writer.written ++ String.ofList a.text
  depth_eq : s'.writer.depth = s.writer.depth
  stem_eq : s'.registry.stem = s.registry.stem
  entries_eq : s'.registry.entries = s.registry.entries ++ a.entries
  log_eq : s'.log = s.log ++ a.events

variable {s s₁ s₂ : Session} {a b : Additions}

theorem extends_withRoom (s : Session) (room : Option Nat) : s.Extends (s.withRoom room) {} :=
  ⟨by simp [withRoom, Writer.written], rfl, rfl, by simp [withRoom], by simp [withRoom]⟩

theorem Extends.trans (h₁ : s.Extends s₁ a) (h₂ : s₁.Extends s₂ b) : s.Extends s₂ (a ++ b) where
  written_eq := by
    rw [h₂.written_eq, h₁.written_eq, Additions.text_append, String.ofList_append,
      String.append_assoc]
  depth_eq := h₂.depth_eq.trans h₁.depth_eq
  stem_eq := h₂.stem_eq.trans h₁.stem_eq
  entries_eq := by
    rw [h₂.entries_eq, h₁.entries_eq, Additions.entries_append, List.append_assoc]
  log_eq := by rw [h₂.log_eq, h₁.log_eq, Additions.events_append, List.append_assoc]

theorem extends_register (s : Session) (c : TokenClass) (name : String) :
    s.Extends (s.register c name) { entries := [(c, constant s.registry.stem name)] } :=
  ⟨by simp [register], rfl, rfl, rfl, by simp [register]⟩

theorem extends_report (s : Session) (e : LogEvent) : s.Extends (s.report e) { events := [e] } :=
  ⟨by simp [report], rfl, rfl, by simp [report], rfl⟩

theorem extends_write (s : Session) (room : Option Nat) (level : Nat) (text : String) :
    s.Extends ((s.withRoom room).write level text)
      { text := (s.withRoom room).writer.sink.taken (s.writer.laidOut level text) } :=
  ⟨rfl, rfl, rfl, by simp [write, withRoom], by simp [write, withRoom]⟩

theorem fits_withRoom (s : Session) (limit level : Nat) (text : String) :
    (s.withRoom (some limit)).writer.fits level text =
      decide ((s.writer.laidOut level text).length ≤ limit) := rfl

/-- Where a text fits, the session goes on with as much less room. -/
theorem withRoom_write {limit level : Nat} {text : String}
    (h : (s.writer.laidOut level text).length ≤ limit) :
    (s.withRoom (some limit)).write level text =
      ((s.withRoom none).write level text).withRoom
        (some (limit - (s.writer.laidOut level text).length)) := by
  have ht : (s.writer.laidOut level text).take limit = s.writer.laidOut level text :=
    List.take_of_length_le h
  simp only [write, withRoom, Writer.write, Sink.write, Sink.taken, Option.map_some,
    Writer.laidOut] at ht ⊢
  rw [ht]

end Session

/-! ## Emissions -/

/-- **An emission that is cut off has done the first of its work.**  It ends with its own result if all
    its text fits, and with a full sink otherwise. -/
theorem exists_additions_emit (steps : List Step) (s : Session) (limit : Nat) :
    ∃ a b : Additions, s.Extends (emit steps (s.withRoom none)).1 a ∧
      s.Extends (emit steps (s.withRoom (some limit))).1 b ∧ a.CutTo limit b ∧
      (emit steps (s.withRoom (some limit))).2 =
        if a.text.length ≤ limit then (emit steps (s.withRoom none)).2 else .error .sinkFull := by
  induction steps generalizing s limit with
  | nil =>
    exact ⟨{}, {}, s.extends_withRoom _, s.extends_withRoom _, .nothing limit, (if_pos (by simp)).symm⟩
  | cons x steps ih =>
    cases x with
    | write level text =>
      have hs : s.Extends _ { text := s.writer.laidOut level text } :=
        s.extends_write none level text
      obtain ⟨a, b, ha, hb, hab, hr⟩ := ih ((s.withRoom none).write level text)
        (limit - (s.writer.laidOut level text).length)
      have hfull : emit (.write level text :: steps) (s.withRoom none) =
          emit steps (((s.withRoom none).write level text).withRoom none) := if_pos rfl
      have hlen : (({ text := s.writer.laidOut level text } : Additions) ++ a).text.length =
          (s.writer.laidOut level text).length + a.text.length := List.length_append
      have hcut : emit (.write level text :: steps) (s.withRoom (some limit)) =
          if (s.writer.laidOut level text).length ≤ limit then
            emit steps ((s.withRoom (some limit)).write level text)
          else ((s.withRoom (some limit)).write level text, .error .sinkFull) := by
        simp only [emit, Session.fits_withRoom, decide_eq_true_eq]
      rw [hfull, hcut]
      by_cases h : (s.writer.laidOut level text).length ≤ limit
      · rw [if_pos h, Session.withRoom_write h, hr]
        refine ⟨_, _, hs.trans ha, hs.trans hb, hab.append_left h, ?_⟩
        rw [hlen]
        simp only [Nat.le_sub_iff_add_le' h]
      · rw [if_neg h]
        refine ⟨_, _, hs.trans ha, s.extends_write (some limit) level text,
          Additions.cutTo_of_lt (Nat.lt_of_not_le h) a, (if_neg ?_).symm⟩
        omega
    | register c name =>
      obtain ⟨a, b, ha, hb, hab, hr⟩ := ih (s.register c name) limit
      have hs := s.extends_register c name
      exact ⟨_, _, hs.trans ha, hs.trans hb, hab.append_left (Nat.zero_le limit), hr⟩
    | report e =>
      obtain ⟨a, b, ha, hb, hab, hr⟩ := ih (s.report e) limit
      have hs := s.extends_report e
      exact ⟨_, _, hs.trans ha, hs.trans hb, hab.append_left (Nat.zero_le limit), hr⟩
    | fail e =>
      exact ⟨{}, {}, s.extends_withRoom _, s.extends_withRoom _, .nothing limit,
        (if_pos (by simp)).symm⟩

end ScannerDispatch
