/-
The messages about a prompt, formatted.

What stands in front of a message comes from the title, and takes part in the formatting. A percent sign comes through
quoting from the title alone (`percent_mem_quoteChars`), so that the tag of a title without one is plain text
(`percent_not_mem_tag`), and plain text stands as it is (`format_one`, `format_two`).

`Remark` lists what the controllers, the dialogs and the application say about a prompt, each with the message that is
meant. `Remark.message` is what comes of it: the message that is meant, unless the title has a percent sign and the
record has arguments (`Remark.Filled`).
-/
import Mathlib.Tactic.Common
import LinePrompt.Prompt.Run
import LinePrompt.Proofs.Text.Quoting

/-! ## Quoted texts -/

namespace LinePrompt.Text

theorem percent_not_mem_hexDigits (width n : Nat) : '%' ∉ hexDigits width n := by
  have hdigit : ∀ m : Fin 16, hexDigit m.val ≠ '%' := by decide
  intro h
  obtain ⟨m, hm⟩ := mem_hexDigits h
  exact hdigit m hm.symm

theorem percent_not_mem_codeEscape (c : Char) : '%' ∉ codeEscape c := by
  unfold codeEscape
  dsimp only
  split_ifs <;> simp [percent_not_mem_hexDigits]

/-- of the characters that are quoted, only a percent sign gives one -/
theorem percent_mem_quoteChar {mark c : Char} (h : '%' ∈ quoteChar mark c) : c = '%' := by
  unfold quoteChar at h
  split_ifs at h
  · simpa [eq_comm] using h
  · simp at h
  · simp at h
  · simp at h
  · simpa [eq_comm] using h
  · exact absurd h (percent_not_mem_codeEscape c)

theorem percent_mem_quoteChars {s : List Char} (h : '%' ∈ quoteChars s) : '%' ∈ s := by
  have hmark : quoteMark s ≠ '%' := by
    rcases quoteMark_eq s with hm | hm <;> rw [hm] <;> decide
  unfold quoteChars at h
  simp only [List.mem_cons, List.mem_append, List.mem_flatMap, List.not_mem_nil, or_false] at h
  rcases h with heq | ⟨c, hc, hin⟩ | heq
  · exact absurd heq.symm hmark
  · exact percent_mem_quoteChar hin ▸ hc
  · exact absurd heq.symm hmark

/-! ## Formats -/

namespace Percent

variable {pre mid rest : List Char} {args : List String} {a b : String} {bound : Nat}

/-- plain text in front stands as it is -/
theorem pieces_append (h : '%' ∉ pre) (hb : pre.length ≤ bound) :
    pieces bound args (pre ++ rest) =
      (pieces (bound - pre.length) args rest).map (pre.map (fun c => .plain [c]) ++ ·) := by
  induction pre generalizing bound with
  | nil =>
    rcases hrest : pieces bound args rest <;> simp [hrest, Except.map]
  | cons c cs ih =>
    cases bound with
    | zero => simp at hb
    | succ bound =>
      have hc : c ≠ '%' := fun e => h (by simp [e])
      have hcs : '%' ∉ cs := fun m => h (by simp [m])
      rw [List.cons_append, pieces, if_neg hc, ih hcs (by simpa using hb), List.length_cons, Nat.add_sub_add_right]
      rcases pieces (bound - cs.length) args rest <;> rfl

/-- the next argument takes its place -/
theorem pieces_placeholder (hb : 0 < bound) :
    pieces bound (a :: args) ('%' :: 's' :: rest) =
      (pieces (bound - 1) args rest).map (.plain a.toList :: ·) := by
  cases bound with
  | zero => exact absurd hb (Nat.lt_irrefl 0)
  | succ bound =>
    have hconvert : conversion (a :: args) ('s' :: rest) = .ok (.plain a.toList, args, rest) := rfl
    rw [pieces, if_pos rfl, hconvert]
    rfl

theorem flatMap_plain (cs : List Char) : (cs.map fun c => Piece.plain [c]).flatMap Piece.chars = cs := by
  simp [List.flatMap_map]

theorem format_one (h : '%' ∉ pre) : format (pre ++ ['%', 's']) [a] = .ok (pre ++ a.toList) := by
  have hlength : (pre ++ ['%', 's']).length = pre.length + 2 := List.length_append
  unfold format
  rw [hlength, pieces_append h (by omega), pieces_placeholder (by omega)]
  simp [pieces, Except.map, flatMap_plain]

theorem format_two (h : '%' ∉ pre) (hm : '%' ∉ mid) :
    format (pre ++ '%' :: 's' :: (mid ++ ['%', 's'])) [a, b] = .ok (pre ++ (a.toList ++ (mid ++ b.toList))) := by
  have hlength : (pre ++ '%' :: 's' :: (mid ++ ['%', 's'])).length = pre.length + (mid.length + 4) := by
    simp only [List.length_append, List.length_cons, List.length_nil]
  unfold format
  rw [hlength, pieces_append h (by omega), pieces_placeholder (by omega), pieces_append hm (by omega),
    pieces_placeholder (by omega)]
  simp [pieces, Except.map, flatMap_plain]

end Percent

end LinePrompt.Text

/-! ## What is said about a prompt -/

namespace LinePrompt.Log

open LinePrompt.Prompt LinePrompt.Text

variable {title : String} {r : Record} {text : String}

theorem percent_not_mem_tag (h : '%' ∉ title.toList) : '%' ∉ (tag title).toList := by
  intro hin
  simp only [tag, quoted, String.toList_append, String.toList_ofList, List.mem_append] at hin
  rcases hin with (hin | hin) | hin
  · revert hin
    decide
  · exact h (percent_mem_quoteChars hin)
  · revert hin
    decide

/-- a tagged message is known by its title and its message -/
theorem tagged_inj {title title' message message' : String} :
    tagged title message = tagged title' message' ↔ title = title' ∧ message = message' := by
  constructor
  · intro h
    have hchars := congrArg String.toList h
    simp only [tagged, tag, quoted, String.toList_append, String.toList_ofList, List.append_assoc,
      List.append_cancel_left_eq] at hchars
    obtain ⟨htitle, hrest⟩ := quoteChars_append_inj hchars
    exact ⟨String.toList_injective htitle, String.toList_injective (List.append_cancel_left hrest)⟩
  · rintro ⟨rfl, rfl⟩
    rfl

/-- a message of a dialog or the application, which names the prompt by its title -/
def named (title after : String) : String := "prompt " ++ quoted title ++ " " ++ after

/-- a remark on the prompt with this title, and the message that is meant -/
inductive Remark (title : String) : Record → String → Prop where
  | shown : Remark title (.about .debug promptLogger title "shown" []) (tagged title "shown")
  | closed (o : Outcome) :
    Remark title (.about .debug promptLogger title "closed via %s" [o.name]) (tagged title ("closed via " ++ o.name))
  | ignored (o : Outcome) (phase : Phase) :
    Remark title (.about .debug promptLogger title "%s trigger ignored: prompt is %s" [o.name, phase.name])
      (tagged title (o.name ++ " trigger ignored: prompt is " ++ phase.name))
  | refused :
    Remark title (.about .debug promptLogger title "alternate trigger ignored: no alternate handler" [])
      (tagged title "alternate trigger ignored: no alternate handler")
  /-- the dialogs and the application put their messages together before they hand them on -/
  | covered :
    Remark title ⟨.warning, dialogLogger, .ok (named title "closed while not the active screen")⟩
      (named title "closed while not the active screen")
  | removed : Remark title ⟨.debug, dialogLogger, .ok (named title "removed by host")⟩ (named title "removed by host")
  | finished (o : Outcome) :
    Remark title ⟨.info, appLogger, .ok (named title ("finished: " ++ o.name))⟩ (named title ("finished: " ++ o.name))

/-- the records that have arguments: a controller tells by which outcome it closed, or that it was closed already -/
def Filled (title : String) (r : Record) : Prop :=
  (∃ o : Outcome, r = .about .debug promptLogger title "closed via %s" [o.name]) ∨
    ∃ (o : Outcome) (phase : Phase),
      r = .about .debug promptLogger title "%s trigger ignored: prompt is %s" [o.name, phase.name]

theorem finish_one {pre a : String} (h : '%' ∉ pre.toList) : finish (pre ++ "%s") [a] = .ok (pre ++ a) := by
  have hformat := Percent.format_one (a := a) h
  simp only [finish, List.isEmpty_cons, Bool.false_eq_true, if_false, String.toList_append]
  rw [show "%s".toList = ['%', 's'] from rfl, hformat]
  simp [Except.map, String.ofList_append]

theorem finish_two {pre mid a b : String} (h : '%' ∉ pre.toList) (hm : '%' ∉ mid.toList) :
    finish (pre ++ ("%s" ++ mid ++ "%s")) [a, b] = .ok (pre ++ (a ++ mid ++ b)) := by
  have hformat := Percent.format_two (a := a) (b := b) h hm
  simp only [finish, List.isEmpty_cons, Bool.false_eq_true, if_false, String.toList_append]
  rw [show "%s".toList = ['%', 's'] from rfl, show ['%', 's'] ++ mid.toList ++ ['%', 's'] =
    '%' :: 's' :: (mid.toList ++ ['%', 's']) by simp, hformat]
  simp [Except.map, String.ofList_append, String.append_assoc]

theorem message_about (severity : Severity) (logger title message : String) (args : List String) :
    (Record.about severity logger title message args).message = finish (tagged title message) args := rfl

/-- A remark says what is meant, unless a percent sign of the title gets between its arguments. -/
theorem Remark.message (h : Remark title r text) : r.message = .ok text ∨ '%' ∈ title.toList ∧ Filled title r := by
  by_cases hplain : '%' ∈ title.toList
  · cases h with
    | closed o => exact Or.inr ⟨hplain, Or.inl ⟨o, rfl⟩⟩
    | ignored o phase => exact Or.inr ⟨hplain, Or.inr ⟨o, phase, rfl⟩⟩
    | _ => exact Or.inl rfl
  · refine Or.inl ?_
    have htag := percent_not_mem_tag hplain
    cases h with
    | closed o =>
      have hpre : '%' ∉ (tag title ++ "closed via ").toList := by
        rw [String.toList_append, List.mem_append, not_or]
        exact ⟨htag, by decide⟩
      have hsplit : tagged title "closed via %s" = tag title ++ "closed via " ++ "%s" := by
        rw [tagged, String.append_assoc]
        rfl
      rw [message_about, hsplit, finish_one hpre, tagged, String.append_assoc]
    | ignored o phase =>
      have hsplit : "%s trigger ignored: prompt is %s" = "%s" ++ " trigger ignored: prompt is " ++ "%s" := by decide
      rw [message_about, tagged, hsplit, finish_two htag (by decide), tagged]
    | _ => rfl

end LinePrompt.Log
