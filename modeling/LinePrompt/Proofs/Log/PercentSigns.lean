/-
Percent signs in titles.

The tag stands in front of a message before the arguments are put in, so a percent sign of the title is a conversion.
On its way through the format a quoted title either stops it or is passed (`Crossing`): a conversion that starts in the
title ends in it, for neither the closing mark nor a backslash is part of one. A title that is passed has either taken
arguments, and then too few are left for the message itself (`pieces_misfit`), or it holds doubled percent signs alone,
and each of them has lost one.

`tagged_means`: for every record that has arguments, what is said is what is meant exactly when the title holds no
percent sign. With one there is no message, or a shorter one.
-/
import LinePrompt.Proofs.Log.Conversions

namespace LinePrompt.Text.Percent

variable {mark : Char} {s s' tail cs : List Char} {bound : Nat} {args : List String} {f : Flaw}

/-! ## Through a quoted text -/

/-- the text asks for a width that no memory holds -/
def Wide (s : List Char) : Prop :=
  ∃ front flags digits rest, s = front ++ '%' :: (flags ++ (digits ++ rest)) ∧ (∀ c ∈ flags, isFlag c = true) ∧
    (∀ c ∈ digits, isDigit c = true) ∧ memoryLimit ≤ digitsValue digits

theorem Wide.of_suffix (h : s' <:+ s) (hw : Wide s') : Wide s := by
  obtain ⟨more, rfl⟩ := h
  obtain ⟨front, flags, digits, rest, rfl, hflags, hdigits, hvalue⟩ := hw
  exact ⟨more ++ front, flags, digits, rest, by rw [List.append_assoc], hflags, hdigits, hvalue⟩

/-- what becomes of a format whose front is a quoted text, without the mark in front of it -/
inductive Crossing (mark : Char) (s tail : List Char) (bound : Nat) (args : List String) : Prop where
  /-- a conversion of the quoted text cannot be made -/
  | stops (f : Flaw) (wide : f = .tooWide → Wide s)
    (stop : pieces bound args (s.flatMap (quoteChar mark) ++ mark :: tail) = .error f)
  /-- the rest goes on behind the quoted text, with the arguments that are left -/
  | passes (ps : List Piece) (taken left : List String) (bound' : Nat) (split : args = taken ++ left)
    (room : (mark :: tail).length ≤ bound')
    (pass : pieces bound args (s.flatMap (quoteChar mark) ++ mark :: tail) =
      (pieces bound' left (mark :: tail)).map (ps ++ ·))
    (shrinks : taken = [] → '%' ∈ s →
      (ps.flatMap Piece.chars).length < (s.flatMap (quoteChar mark)).length)
    (stays : '%' ∉ s → ps.flatMap Piece.chars = s.flatMap (quoteChar mark))

/-- the characters of a conversion are no marks and no escapes -/
theorem ne_of_isSpec (hmark : mark = '"' ∨ mark = '\x27') {c : Char} (hc : isSpec c = true) : c ≠ mark ∧ c ≠ '\\' := by
  refine ⟨?_, ?_⟩
  · rintro rfl
    rcases hmark with rfl | rfl <;> exact absurd hc (by decide)
  · rintro rfl
    exact absurd hc (by decide)

theorem ne_of_isTextLetter (hmark : mark = '"' ∨ mark = '\x27') {c : Char} (hc : isTextLetter c = true) :
    c ≠ mark ∧ c ≠ '\\' := by
  refine ⟨?_, ?_⟩
  · rintro rfl
    rcases hmark with rfl | rfl <;> exact absurd hc (by decide)
  · rintro rfl
    exact absurd hc (by decide)

theorem quoteChar_percent (hmark : mark = '"' ∨ mark = '\x27') : quoteChar mark '%' = ['%'] := by
  rcases hmark with rfl | rfl <;> rfl

theorem pieces_ok {p : Piece} {args' : List String} {rest : List Char}
    (h : conversion args cs = .ok (p, args', rest)) :
    pieces (bound + 1) args ('%' :: cs) = (pieces bound args' rest).map (p :: ·) := by
  rw [pieces, if_pos rfl, h]

theorem pieces_error (h : conversion args cs = .error f) : pieces (bound + 1) args ('%' :: cs) = .error f := by
  rw [pieces, if_pos rfl, h]

section Steps

variable {args₁ : List String} {bound₁ : Nat} {s₁ : List Char}

/-- a step into a quoted text, which takes arguments and makes pieces, and the rest of the way -/
theorem Crossing.after (used : List String) (ps : List Piece) (h : Crossing mark s₁ tail bound₁ args₁)
    (hsuffix : s₁ <:+ s) (hargs : args = used ++ args₁)
    (hstep : pieces bound args (s.flatMap (quoteChar mark) ++ mark :: tail) =
      (pieces bound₁ args₁ (s₁.flatMap (quoteChar mark) ++ mark :: tail)).map (ps ++ ·))
    (hshrinks : used = [] → '%' ∈ s →
      (ps.flatMap Piece.chars).length + (s₁.flatMap (quoteChar mark)).length < (s.flatMap (quoteChar mark)).length ∨
        (ps.flatMap Piece.chars).length + (s₁.flatMap (quoteChar mark)).length =
          (s.flatMap (quoteChar mark)).length ∧ '%' ∈ s₁)
    (hstays : '%' ∉ s → ps.flatMap Piece.chars ++ s₁.flatMap (quoteChar mark) = s.flatMap (quoteChar mark)) :
    Crossing mark s tail bound args := by
  cases h with
  | stops f wide stop =>
    rw [stop] at hstep
    exact .stops f (fun hf => (wide hf).of_suffix hsuffix) hstep
  | passes ps₁ taken left bound' split room pass shrinks stays =>
    refine .passes (ps ++ ps₁) (used ++ taken) left bound' ?_ room ?_ ?_ ?_
    · rw [hargs, split, List.append_assoc]
    · rw [hstep, pass]
      cases pieces bound' left (mark :: tail) <;> simp [Except.map]
    · intro htaken hpercent
      obtain ⟨hused, htaken⟩ := List.append_eq_nil_iff.1 htaken
      rw [List.flatMap_append, List.length_append]
      rcases hshrinks hused hpercent with hless | ⟨hequal, hmore⟩
      · by_cases hmore : '%' ∈ s₁
        · have hrest := shrinks htaken hmore
          omega
        · rw [stays hmore]
          exact hless
      · have hrest := shrinks htaken hmore
        omega
    · intro hpercent
      have hmore : '%' ∉ s₁ := fun hin => hpercent (hsuffix.subset hin)
      rw [List.flatMap_append, stays hmore, hstays hpercent]

/-- a character that is no percent sign stands for itself -/
theorem Crossing.plain {c : Char} (hc : c ≠ '%') (hroom : (quoteChar mark c).length ≤ bound)
    (h : Crossing mark s tail (bound - (quoteChar mark c).length) args) : Crossing mark (c :: s) tail bound args := by
  have hplain : '%' ∉ quoteChar mark c := fun hin => hc (percent_mem_quoteChar hin)
  refine h.after [] _ (List.suffix_cons c s) rfl
    (by rw [List.flatMap_cons, List.append_assoc]; exact pieces_append hplain hroom)
    (fun _ hpercent => Or.inr ⟨?_, ?_⟩) (fun _ => ?_)
  · rw [flatMap_plain, List.flatMap_cons, List.length_append]
  · exact (List.mem_cons.1 hpercent).resolve_left fun h => hc h.symm
  · rw [flatMap_plain, List.flatMap_cons]

theorem flatMap_percent (hmark : mark = '"' ∨ mark = '\x27') (s tail : List Char) :
    ('%' :: s).flatMap (quoteChar mark) ++ mark :: tail = '%' :: (s.flatMap (quoteChar mark) ++ mark :: tail) := by
  rw [List.flatMap_cons, quoteChar_percent hmark]
  rfl

theorem Crossing.stop (hmark : mark = '"' ∨ mark = '\x27')
    (h : conversion args (s.flatMap (quoteChar mark) ++ mark :: tail) = .error f) :
    Crossing mark ('%' :: s) tail (bound + 1) args := by
  refine .stops f ?_ (flatMap_percent hmark s tail ▸ pieces_error h)
  rintro rfl
  obtain ⟨flags, digits, rest, hsplit, hflags, hdigits, hvalue⟩ := conversion_tooWide h
  have hspec : ∀ c ∈ flags ++ digits, isSpec c = true := by
    intro c hin
    rcases List.mem_append.1 hin with hin | hin
    · simp [isSpec, hflags c hin]
    · simp [isSpec, hdigits c hin]
  rw [← List.append_assoc] at hsplit
  obtain ⟨s', rfl, -⟩ := front_of_quoted (fun c hin => ne_of_isSpec hmark (hspec c hin)) hsplit
  exact ⟨[], flags, digits, s', by rw [List.nil_append, List.append_assoc], hflags, hdigits, hvalue⟩

/-- a conversion that can be made leaves the rest of the quoted text -/
theorem Crossing.conversion (bound : Nat) (hmark : mark = '"' ∨ mark = '\x27') {p : Piece} {args' : List String}
    {rest : List Char}
    (h : conversion args (s.flatMap (quoteChar mark) ++ mark :: tail) = .ok (p, args', rest)) :
    ∃ s', s' <:+ s ∧ rest = s'.flatMap (quoteChar mark) ++ mark :: tail ∧
      (Crossing mark s' tail bound args' → Crossing mark ('%' :: s) tail (bound + 1) args) := by
  have hstep : pieces (bound + 1) args (('%' :: s).flatMap (quoteChar mark) ++ mark :: tail) =
      (pieces bound args' rest).map (p :: ·) := flatMap_percent hmark s tail ▸ pieces_ok h
  rcases conversion_ok h with ⟨hdouble, rfl, rfl⟩ | ⟨a, l, letter, rfl, rfl, htakes⟩
  · have hfront : ∀ c ∈ ['%'], c ≠ mark ∧ c ≠ '\\' :=
      List.forall_mem_singleton.2 (by rcases hmark with rfl | rfl <;> decide)
    obtain ⟨s', rfl, rfl⟩ := front_of_quoted hfront hdouble
    refine ⟨s', List.suffix_append ['%'] s', rfl, fun hcross => ?_⟩
    refine hcross.after [] [.plain ['%']] (List.suffix_append ['%', '%'] s') rfl hstep
      (fun _ _ => Or.inl ?_) (fun hpercent => absurd List.mem_cons_self hpercent)
    simp only [List.singleton_append, List.flatMap_cons, List.flatMap_nil, quoteChar_percent hmark,
      Piece.chars_plain, List.length_cons, List.length_nil]
    omega
  · obtain ⟨spec, hspec, hchars⟩ := htakes.spec
    have hfront : ∀ c ∈ spec ++ [letter], c ≠ mark ∧ c ≠ '\\' := by
      intro c hin
      rcases List.mem_append.1 hin with hin | hin
      · exact ne_of_isSpec hmark (hchars c hin)
      · rw [List.mem_singleton.1 hin]
        exact ne_of_isTextLetter hmark htakes.text
    obtain ⟨s', rfl, rfl⟩ := front_of_quoted hfront (hspec.trans (List.append_cons spec letter rest))
    refine ⟨s', List.suffix_append (spec ++ [letter]) s', rfl, fun hcross => ?_⟩
    exact hcross.after [a] [⟨l, present letter a⟩]
      (List.suffix_append ('%' :: (spec ++ [letter])) s') rfl hstep
      (fun h => absurd h (List.cons_ne_nil a [])) (fun hpercent => absurd List.mem_cons_self hpercent)

/-- **A conversion that starts in a quoted text ends in it.** -/
theorem crossing (hmark : mark = '"' ∨ mark = '\x27')
    (hb : (s.flatMap (quoteChar mark) ++ mark :: tail).length ≤ bound) : Crossing mark s tail bound args := by
  -- a conversion may read on by any number of characters, so the induction is on the length of what is left
  induction hn : s.length using Nat.strong_induction_on generalizing s bound args with
  | h n ih =>
  cases s with
  | nil =>
    refine .passes [] [] args bound rfl hb ?_ (fun _ h => absurd h List.not_mem_nil) (fun _ => rfl)
    rw [List.flatMap_nil, List.nil_append]
    cases pieces bound args (mark :: tail) <;> rfl
  | cons c s =>
    rw [List.length_cons] at hn
    by_cases hc : c = '%'
    · subst hc
      rw [flatMap_percent hmark, List.length_cons] at hb
      obtain ⟨bound, rfl⟩ : ∃ b, bound = b + 1 := ⟨bound - 1, by omega⟩
      rcases hconversion : conversion args (s.flatMap (quoteChar mark) ++ mark :: tail) with f | ⟨p, args', rest⟩
      · exact .stop hmark hconversion
      · have hlength := length_conversion hconversion
        obtain ⟨s', hsuffix, rfl, hon⟩ := Crossing.conversion bound hmark hconversion
        have hshorter := hsuffix.length_le
        exact hon (ih s'.length (by omega) (by omega) rfl)
    · rw [List.flatMap_cons, List.append_assoc, List.length_append] at hb
      exact .plain hc (by omega) (ih s.length (by omega) (by omega) rfl)

end Steps

end LinePrompt.Text.Percent

namespace LinePrompt.Log

open LinePrompt.Prompt LinePrompt.Text Percent

/-! ## Tagged messages -/

section Tagged

variable {title message plain : String} {args : List String}

/-- a message without arguments, or about a title without a percent sign, is formatted as if it had no tag -/
theorem finish_tagged (h : args = [] ∨ '%' ∉ title.toList) :
    finish (tagged title message) args = (finish message args).map (tagged title) := by
  rcases h with rfl | h
  · rfl
  · unfold finish
    split_ifs
    · rfl
    · rw [tagged, String.toList_append, format_append (percent_not_mem_tag h)]
      rcases Percent.format message.toList args with f | out
      · rfl
      · simp [Except.map, tagged, String.ofList_append]

/-- what comes of a message with arguments about a title with a percent sign, and what was meant -/
inductive Muddled (title meant : String) : Except Flaw String → Prop where
  | wrongArguments : Muddled title meant (.error .wrongArguments)
  | malformed : Muddled title meant (.error .malformed)
  | tooWide (wide : Wide title.toList) : Muddled title meant (.error .tooWide)
  | shorter {text : String} (less : text.length < meant.length) : Muddled title meant (.ok text)

theorem muddled_error {meant : String} {f : Flaw} (h : f = .tooWide → Wide title.toList) :
    Muddled title meant (.error f) := by
  cases f with
  | wrongArguments => exact .wrongArguments
  | malformed => exact .malformed
  | tooWide => exact .tooWide (h rfl)

theorem toList_tagged (title message : String) :
    (tagged title message).toList = "prompt ".toList ++ (quoteMark title.toList ::
      (title.toList.flatMap (quoteChar (quoteMark title.toList)) ++ quoteMark title.toList ::
        (": ".toList ++ message.toList))) := by
  simp [tagged, tag, quoted, quoteChars]

theorem finish_of_args (hargs : args ≠ []) (text : String) :
    finish text args = (Percent.format text.toList args).map String.ofList := by
  unfold finish
  rw [if_neg (by simpa using hargs)]

/-- **A percent sign of the title leaves no message, or a shorter one**, whatever the message with its arguments is. -/
theorem muddled_tagged (hplain : finish message args = .ok plain) (hargs : args ≠ []) (h : '%' ∈ title.toList) :
    Muddled title (tagged title plain) (finish (tagged title message) args) := by
  have hmark := quoteMark_eq title.toList
  have hquote : quoteMark title.toList ≠ '%' := by rcases hmark with hm | hm <;> rw [hm] <;> decide
  rw [finish_of_args hargs] at hplain ⊢
  rcases hformat : Percent.format message.toList args with f | out
  · simp [hformat, Except.map] at hplain
  obtain rfl : String.ofList out = plain := by simpa [hformat, Except.map] using hplain
  obtain ⟨ps, hps, rfl⟩ := pieces_of_format hformat
  have hfront : '%' ∉ "prompt ".toList ++ [quoteMark title.toList] := by
    simp [hquote.symm]
  have hback : '%' ∉ quoteMark title.toList :: ": ".toList := by
    simp [hquote.symm]
  rw [toList_tagged, List.append_cons, format_append hfront]
  unfold Percent.format
  have hcross : Crossing (quoteMark title.toList) title.toList (": ".toList ++ message.toList) _ args :=
    crossing hmark (Nat.le_refl _)
  cases hcross with
  | stops f wide stop =>
    rw [stop]
    exact muddled_error wide
  | passes qs taken left bound' split room pass shrinks stays =>
    rw [pass, ← List.cons_append, pieces_append hback (by simpa using Nat.le_trans (by simp) room)]
    have hroom : message.toList.length ≤ bound' - (quoteMark title.toList :: ": ".toList).length := by
      simp at room ⊢
      omega
    cases taken with
    | nil =>
      obtain rfl : left = args := split.symm
      rw [pieces_bound hroom (Nat.le_refl _), hps]
      have hless := shrinks rfl h
      refine .shorter ?_
      rw [← String.length_toList (s := tagged _ _), toList_tagged]
      simp only [String.length_ofList, String.toList_ofList, List.flatMap_append, flatMap_plain, List.length_append,
        List.length_cons, List.length_nil]
      omega
    | cons a taken =>
      have hcount : left.length ≠ args.length := by
        rw [split, List.length_append, List.length_cons]
        omega
      rw [pieces_misfit (made_of_pieces hps) hcount hroom]
      exact .wrongArguments

end Tagged

/-! ## What a controller says with arguments -/

/-- a record of a controller that has arguments: by which outcome it closed, or which outcome came in which state -/
inductive Saying where
  | closed (o : Outcome)
  | ignored (o : Outcome) (phase : Phase)

namespace Saying

def message : Saying → String
  | closed _ => "closed via %s"
  | ignored _ _ => "%s trigger ignored: prompt is %s"

def args : Saying → List String
  | closed o => [o.name]
  | ignored o phase => [o.name, phase.name]

/-- what is meant, without the tag -/
def meant : Saying → String
  | closed o => "closed via " ++ o.name
  | ignored o phase => o.name ++ " trigger ignored: prompt is " ++ phase.name

/-- the record about the prompt with this title -/
def record (x : Saying) (title : String) : Record := .about .debug promptLogger title x.message x.args

theorem args_ne_nil (x : Saying) : x.args ≠ [] := by
  cases x <;> simp [args]

theorem finish_message (x : Saying) : finish x.message x.args = .ok x.meant := by
  cases x with
  | closed o =>
    have hsplit : "closed via %s" = "closed via " ++ "%s" := by decide
    rw [message, hsplit]
    exact finish_one (by decide)
  | ignored o phase =>
    have hsplit : "%s trigger ignored: prompt is %s" = "" ++ ("%s" ++ " trigger ignored: prompt is " ++ "%s") := by
      decide
    rw [message, hsplit]
    exact (finish_two (by decide) (by decide)).trans (congrArg Except.ok String.empty_append)

end Saying

/-- **What is said is what is meant exactly for titles without a percent sign.** With one the arguments are wrong, the
text is no format, the title asks for a width that no memory holds, or what is said is shorter than what is meant. -/
theorem tagged_means (x : Saying) (title : String) :
    finish x.message x.args = .ok x.meant ∧
      ((x.record title).message = .ok (tagged title x.meant) ↔ '%' ∉ title.toList) ∧
      ('%' ∈ title.toList → Muddled title (tagged title x.meant) (x.record title).message) := by
  have hmuddled : '%' ∈ title.toList → Muddled title (tagged title x.meant) (x.record title).message :=
    muddled_tagged x.finish_message x.args_ne_nil
  refine ⟨x.finish_message, ⟨fun h hpercent => ?_, fun h => ?_⟩, hmuddled⟩
  · have hless := hmuddled hpercent
    rw [h] at hless
    cases hless with
    | shorter less => exact absurd less (Nat.lt_irrefl _)
  · rw [Saying.record, message_about, finish_tagged (Or.inr h), x.finish_message]
    rfl

/-- a doubled percent sign is said once -/
theorem tagged_means_doubled :
    '%' ∈ "100%%".toList ∧
      Muddled "100%%" "prompt '100%%': closed via cancel" ((Saying.closed .cancel).record "100%%").message ∧
      ((Saying.closed .cancel).record "100%%").message = .ok "prompt '100%': closed via cancel" := by
  have hpercent : '%' ∈ "100%%".toList := by decide
  exact ⟨hpercent, (tagged_means (.closed .cancel) "100%%").2.2 hpercent, by cbv⟩

/-- A percent sign can also ask for more than memory holds: neither the arguments nor the format are wrong then, and
nothing is said. -/
theorem tagged_too_wide :
    ¬ ∀ (x : Saying) (title : String), '%' ∈ title.toList →
      (x.record title).message = .error .wrongArguments ∨ (x.record title).message = .error .malformed ∨
        ∃ text, (x.record title).message = .ok text ∧ text.length < (tagged title x.meant).length := by
  intro h
  have hwide : ((Saying.closed .primary).record "%9223372036854775807s").message = .error .tooWide := by cbv
  rcases h (.closed .primary) "%9223372036854775807s" (by decide) with hsaid | hsaid | ⟨text, hsaid, -⟩ <;>
    rw [hwide] at hsaid <;> cases hsaid

end LinePrompt.Log
