import ScannerDispatch.Generator
import ScannerDispatch.Proofs.Code.Spelling

/-!
What an emission on an unlimited sink produces, and which tokens its text consists of.

* `layout`, `registered` and `reported` are the text, the constants and the events of some steps;
  `emitNew_eq` says that steps without failures produce just these.
* `Spelled steps ts`: the steps do not fail, and every line of them is read as its part of the tokens
  `ts`.  Indentation makes no difference: `Spelled.tokens_layout`.
-/

namespace ScannerDispatch

open Code

/-! ## Products of an emission -/

/-- The text of steps, `depth` levels deep; `fresh` says whether a line is about to begin. -/
def layout (depth : Nat) : Bool → List Step → List Char
  | _, [] => []
  | fresh, .write level text :: rest =>
    indent (depth + level) fresh text.toList ++ layout depth (startsLine fresh text.toList) rest
  | fresh, _ :: rest => layout depth fresh rest

/-- The token that a step registers, with its class. -/
def Step.registered? : Step → Option (TokenClass × String)
  | .register c name => some (c, name)
  | _ => none

/-- The event that a step reports. -/
def Step.reported? : Step → Option LogEvent
  | .report e => some e
  | _ => none

/-- The tokens that steps register, in order. -/
def registered (steps : List Step) : List (TokenClass × String) :=
  steps.filterMap Step.registered?

/-- The events that steps report, in order. -/
def reported (steps : List Step) : List LogEvent :=
  steps.filterMap Step.reported?

/-- The registry of tokens registered under a stem. -/
def Registry.ofTokens (stem : String) (tokens : List (TokenClass × String)) : Registry :=
  ⟨stem, tokens.map fun t => (t.1, constant stem t.2)⟩

section
variable (level : Nat) (line : String) (c : TokenClass) (name : String) (e : LogEvent)
  (xs ys : List Step)

@[simp] theorem registered_nil : registered [] = [] := rfl

@[simp] theorem registered_write : registered (.write level line :: xs) = registered xs := rfl

@[simp] theorem registered_line : registered (.line level line :: xs) = registered xs := rfl

@[simp] theorem registered_register :
    registered (.register c name :: xs) = (c, name) :: registered xs := rfl

@[simp] theorem registered_report : registered (.report e :: xs) = registered xs := rfl

@[simp] theorem registered_append : registered (xs ++ ys) = registered xs ++ registered ys := by
  simp [registered]

@[simp] theorem registered_map_deeper (n : Nat) :
    registered (xs.map (.deeper n)) = registered xs := by
  rw [registered, registered, List.filterMap_map]
  congr 1
  funext x
  cases x <;> rfl

@[simp] theorem reported_write : reported (.write level line :: xs) = reported xs := rfl

@[simp] theorem reported_register : reported (.register c name :: xs) = reported xs := rfl

@[simp] theorem reported_report : reported (.report e :: xs) = e :: reported xs := rfl

@[simp] theorem reported_line : reported (.line level line :: xs) = reported xs := rfl

@[simp] theorem reported_append : reported (xs ++ ys) = reported xs ++ reported ys := by
  simp [reported]

@[simp] theorem reported_map_deeper (n : Nat) : reported (xs.map (.deeper n)) = reported xs := by
  rw [reported, reported, List.filterMap_map]
  congr 1
  funext x
  cases x <;> rfl

end

theorem emit_unlimited {steps : List Step} (h : ∀ e, Step.fail e ∉ steps) (text : String)
    (depth : Nat) (fresh : Bool) (stem : String) (entries : List (TokenClass × String))
    (log : List LogEvent) :
    ∃ fresh', emit steps ⟨⟨⟨text, none⟩, depth, fresh⟩, ⟨stem, entries⟩, log⟩ =
      (⟨⟨⟨text ++ String.ofList (layout depth fresh steps), none⟩, depth, fresh'⟩,
        ⟨stem, entries ++ (Registry.ofTokens stem (registered steps)).entries⟩,
        log ++ reported steps⟩, .ok ()) := by
  induction steps generalizing text fresh entries log with
  | nil => exact ⟨fresh, by simp [layout, registered, reported, Registry.ofTokens]⟩
  | cons x steps ih =>
    have ih := ih fun e he => h e (List.mem_cons_of_mem x he)
    cases x with
    | write level line =>
      obtain ⟨fresh', he⟩ := ih (text ++ String.ofList (indent (depth + level) fresh line.toList))
        (startsLine fresh line.toList) entries log
      refine ⟨fresh', ?_⟩
      rw [emit, if_pos (by simp [Writer.fits, Sink.fits])]
      refine he.trans ?_
      simp [layout, String.append_assoc]
    | register c name =>
      obtain ⟨fresh', he⟩ := ih text fresh (entries ++ [(c, constant stem name)]) log
      refine ⟨fresh', he.trans ?_⟩
      simp [layout, Registry.ofTokens]
    | report e =>
      obtain ⟨fresh', he⟩ := ih text fresh entries (log ++ [e])
      refine ⟨fresh', he.trans ?_⟩
      simp [layout]
    | fail e => exact absurd (List.mem_cons_self ..) (h e)

/-- **Steps without failures produce their text, their constants and their events.** -/
theorem emitNew_eq (stem : String) {steps : List Step} (h : ∀ e, Step.fail e ∉ steps) :
    emitNew stem steps = ⟨reported steps,
      .ok ⟨String.ofList (layout 0 true steps), Registry.ofTokens stem (registered steps)⟩⟩ := by
  obtain ⟨fresh', he⟩ := emit_unlimited h "" 0 true stem [] []
  have he : emit steps (.new stem) = _ := he
  simp [emitNew, he, Writer.written, Except.map, Registry.ofTokens]

/-! ## Indentation -/

/-- A line ends, and another one is about to begin. -/
theorem layout_line (depth : Nat) (fresh : Bool) (level : Nat) (line : String) (rest : List Step) :
    layout depth fresh (.line level line :: rest) =
      indent (depth + level) fresh line.toList ++ '\n' :: layout depth true rest := by
  have hn : "\n".toList = ['\n'] := rfl
  simp [Step.line, layout, indent_append, startsLine_append, hn, indent, startsLine]

theorem indent_false (depth : Nat) {cs : List Char} (h : '\n' ∉ cs) :
    indent depth false cs = cs := by
  induction cs with
  | nil => simp
  | cons c cs ih =>
    rw [List.mem_cons, not_or] at h
    simp [indent, Ne.symm h.1, ih h.2]

/-- A line is indented at its beginning only. -/
theorem indent_eq_replicate (depth : Nat) (fresh : Bool) {cs : List Char} (h : '\n' ∉ cs) :
    ∃ n, indent depth fresh cs = List.replicate n '\t' ++ cs := by
  cases cs with
  | nil => exact ⟨0, by simp⟩
  | cons c cs =>
    rw [List.mem_cons, not_or] at h
    refine ⟨if fresh then depth else 0, ?_⟩
    cases fresh <;> simp [indent, Ne.symm h.1, indent_false depth h.2]

theorem tokens_replicate_tab (n : Nat) (cs : List Char) :
    tokens (List.replicate n '\t' ++ cs) = tokens cs := by
  induction n with
  | zero => rfl
  | succ n ih => rw [List.replicate_succ, List.cons_append, tokens, if_pos (by decide), ih]

theorem tokens_newline (cs : List Char) : tokens ('\n' :: cs) = tokens cs := by
  rw [tokens, if_pos (by decide)]

/-! ## Spelled tokens -/

/-- The steps write lines that are read as the tokens `ts`, one after the other, and do not fail. -/
inductive Spelled : List Step → List Token → Prop where
  | nil : Spelled [] []
  | write (level : Nat) {line : String} {ts us : List Token} {steps : List Step} :
    Spells line ts → Spelled steps us → Spelled (.write level line :: steps) (ts ++ us)
  | line (level : Nat) {line : String} {ts us : List Token} {steps : List Step} :
    Spells line ts → Spelled steps us → Spelled (.line level line :: steps) (ts ++ us)
  | register (c : TokenClass) (name : String) {ts : List Token} {steps : List Step} :
    Spelled steps ts → Spelled (.register c name :: steps) ts
  | report (e : LogEvent) {ts : List Token} {steps : List Step} :
    Spelled steps ts → Spelled (.report e :: steps) ts

namespace Spelled

theorem append {xs ys : List Step} {ts us : List Token} (hx : Spelled xs ts)
    (hy : Spelled ys us) : Spelled (xs ++ ys) (ts ++ us) := by
  induction hx with
  | nil => exact hy
  | write level hl _ ih => rw [List.append_assoc]; exact .write level hl ih
  | line level hl _ ih => rw [List.append_assoc]; exact .line level hl ih
  | register c name _ ih => exact .register c name ih
  | report e _ ih => exact .report e ih

theorem map_deeper (n : Nat) {xs : List Step} {ts : List Token} (h : Spelled xs ts) :
    Spelled (xs.map (.deeper n)) ts := by
  induction h with
  | nil => exact .nil
  | write level hl _ ih => exact .write (n + level) hl ih
  | line level hl _ ih => exact .line (n + level) hl ih
  | register c name _ ih => exact .register c name ih
  | report e _ ih => exact .report e ih

theorem fail_notMem {xs : List Step} {ts : List Token} (h : Spelled xs ts) (e : EmitError) :
    Step.fail e ∉ xs := by
  induction h with
  | nil => simp
  | _ => simpa [Step.line]

/-- **The text of the steps is read as their tokens**, whatever follows it. -/
theorem tokens_layout {xs : List Step} {ts : List Token} (h : Spelled xs ts) (depth : Nat)
    (fresh : Bool) (rest : List Char) :
    tokens (layout depth fresh xs ++ rest) = (ts ++ ·) <$> tokens rest := by
  induction h generalizing fresh with
  | nil => cases h : tokens rest <;> simp [layout, h]
  | @write level line ts us xs hl _ ih =>
    obtain ⟨n, hn⟩ := indent_eq_replicate (depth + level) fresh hl.newline_notMem
    rw [layout, hn, List.append_assoc, List.append_assoc, tokens_replicate_tab, hl.tokens_append, ih]
    cases tokens rest <;> simp
  | @line level line ts us xs hl _ ih =>
    obtain ⟨n, hn⟩ := indent_eq_replicate (depth + level) fresh hl.newline_notMem
    rw [layout_line, hn, List.append_assoc, List.append_assoc, tokens_replicate_tab,
      hl.tokens_append, List.cons_append, tokens_newline, ih]
    cases tokens rest <;> simp
  | register c name _ ih => exact ih fresh
  | report e _ ih => exact ih fresh

end Spelled

/-- Steps that are spelled produce a code with their tokens. -/
theorem tokens_of_emitNew (stem : String) {steps : List Step} {ts : List Token}
    (h : Spelled steps ts) : ∃ text,
      emitNew stem steps =
        ⟨reported steps, .ok ⟨text, Registry.ofTokens stem (registered steps)⟩⟩ ∧
      tokens text.toList = .ok ts := by
  refine ⟨_, emitNew_eq stem h.fail_notMem, ?_⟩
  have ht := h.tokens_layout 0 true []
  rw [List.append_nil, tokens] at ht
  rw [String.toList_ofList, ht]
  exact congrArg Except.ok (List.append_nil ts)

end ScannerDispatch
