/-
When a dialog shows its texts as they are.

Title and hint stand between the tags of a style, and a backslash at their end would escape the closing one. `ShownAs`
lists the shapes of a text that decide what is shown of it there (`display_shownAs`): a harmless text that does not end
so is shown as it is, a bracket that is left open meets the closing tag, which a backslash at the end has shown as well,
and a tag that escaping does not know is not shown.

Every dialog that has only harmless texts shows them as they are (`labels_literal`).
-/
import LinePrompt.Proofs.Screen.Escaping
import LinePrompt.Screen.Dialog

namespace LinePrompt.Screen.Markup

variable {n : Nat} {b : Char} {s u body : List Char}

/-! ## Between the tags of a style -/

/-- the name of a style: the brackets around it are a tag -/
structure IsStyle (name : List Char) : Prop where
  enclosed : Enclosed name
  opening : '[' ∉ name
  head : name.head? ≠ some '/'
  isTag : (isForeign name || isBlank name) = false
  named : tagName name ≠ []
  kept : ∀ c ∈ name, isDropped c = false

/-- a text between the tags of a style -/
def styled (name text : List Char) : List Char := '[' :: (name ++ ']' :: (text ++ '[' :: '/' :: (name ++ [']'])))

/-- what is shown of a text between the tags of a style, for the shapes of a text that decide it -/
inductive ShownAs (name : List Char) : List Char → List Char → Prop where
  | harmless {s : List Char} (h : Harmless s) (hlast : s.getLast? ≠ some '\\') : ShownAs name s s
  /-- a bracket is left open -/
  | openBracket {s u : List Char} (h : Harmless s) (hlast : s.getLast? ≠ some '\\') (hopening : '[' ∉ u)
      (hu : Enclosed u) (hhead : u.head? ≠ some '/') (hkept : ∀ c ∈ u, isDropped c = false) :
      ShownAs name (s ++ '[' :: u) (s ++ '[' :: (u ++ '[' :: '/' :: (name ++ [']'])))
  /-- the text ends in a backslash -/
  | backslash {s : List Char} (h : Harmless s) (hlast : s.getLast? ≠ some '\\') :
      ShownAs name (s ++ ['\\']) (s ++ '\\' :: '[' :: '/' :: (name ++ [']']))
  /-- a tag stands in the text that escaping does not know -/
  | tag {s body u : List Char} (hs : Harmless s) (hslast : s.getLast? ≠ some '\\') (hbody : Enclosed body)
      (hopening : '[' ∉ body) (htag : (isForeign body || isBlank body) = false)
      (hkept : ∀ c ∈ body, isDropped c = false) (hunknown : ∀ c, body.head? = some c → opensTag c = false)
      (hu : Harmless u) (hulast : u.getLast? ≠ some '\\') :
      ShownAs name (s ++ '[' :: (body ++ ']' :: u)) (s ++ u)

/-- a display drops nothing of a text without such characters -/
theorem filter_kept (h : ∀ c ∈ s, isDropped c = false) : s.filter (fun c => !isDropped c) = s :=
  List.filter_eq_self.2 fun c hc => by rw [h c hc]; rfl

variable {name : List Char} (hname : IsStyle name)

include hname

theorem IsStyle.kept_closing : ∀ c ∈ '/' :: (name ++ [']']), isDropped c = false :=
  List.forall_mem_cons.2 ⟨rfl, List.forall_mem_append.2 ⟨hname.kept, List.forall_mem_singleton.2 rfl⟩⟩

/-- what is shown between the tags of a style -/
theorem display_styled (hs : ∀ c ∈ s, isDropped c = false) :
    display (styled name s) = shown (2 * name.length + s.length + 5) ']' [tagName name]
      (s ++ '[' :: '/' :: (name ++ [']'])) := by
  have hkept : ∀ c ∈ styled name s, isDropped c = false := by
    refine List.forall_mem_cons.2 ⟨rfl, List.forall_mem_append.2 ⟨hname.kept, ?_⟩⟩
    refine List.forall_mem_cons.2 ⟨rfl, List.forall_mem_append.2 ⟨hs, ?_⟩⟩
    exact List.forall_mem_cons.2 ⟨rfl, hname.kept_closing⟩
  have hlength : (styled name s).length = 2 * name.length + s.length + 5 := by
    simp [styled]
    omega
  unfold display
  dsimp only
  rw [filter_kept hkept, if_pos (by simp [styled]), hlength, styled]
  exact shown_tag hname.enclosed (by omega) hname.head hname.isTag (by decide) [] _

/-- a style that is open ends with its closing tag -/
theorem shown_end {o : List (List String)} (hn : name.length < n) (hb : b ≠ '\\') (hopen : o.contains (tagName name)) :
    shown (n + 1) b o ('[' :: '/' :: (name ++ [']'])) = .ok [] := by
  rw [shown_closing hname.enclosed hn hname.named hb hopen, shown_nil]

/-- what is shown of a harmless front between the tags of a style -/
theorem display_front (h : Harmless s) (hlast : s.getLast? ≠ some '\\') (hu : ∀ c ∈ u, isDropped c = false) :
    ∃ m, 2 * name.length + u.length + 4 ≤ m ∧ s.getLastD ']' ≠ '\\' ∧ display (styled name (guarded s ++ u)) =
      (shown (m + 1) (s.getLastD ']') [tagName name] (u ++ '[' :: '/' :: (name ++ [']']))).map (s ++ ·) := by
  have hkept : ∀ c ∈ guarded s ++ u, isDropped c = false := List.forall_mem_append.2 ⟨kept_guarded h.kept, hu⟩
  have hlonger := (sublist_guarded s).length_le
  rw [display_styled hname hkept, List.append_assoc, List.length_append]
  obtain ⟨m, hm, hshown⟩ := shown_guarded (n := 2 * name.length + ((guarded s).length + u.length) + 4) (b := ']')
    (v := u ++ '[' :: '/' :: (name ++ [']'])) h (by omega) (Or.inl (by decide)) (Or.inl hlast) [tagName name]
  exact ⟨m, by omega, getLastD_ne hlast (by decide), hshown⟩

/-- **A harmless text is shown as it is** between the tags of a style. -/
theorem display_harmless (h : Harmless s) (hlast : s.getLast? ≠ some '\\') :
    display (styled name (escape s)) = .ok s := by
  obtain ⟨m, hm, hb, hshown⟩ := display_front hname (u := []) h hlast (by simp)
  rw [escape_apart h.apart (endsInSingle_of_last hlast), ← List.append_nil (guarded s), hshown, List.nil_append,
    shown_end hname (by omega) hb (by simp)]
  simp [Except.map]

/-! ## What is shown of other texts -/

/-- **A bracket that is left open meets the closing tag**, and both are shown. -/
theorem display_openBracket (h : Harmless s) (hlast : s.getLast? ≠ some '\\') (hopening : '[' ∉ u)
    (hu : Enclosed u) (hhead : u.head? ≠ some '/') (hkept : ∀ c ∈ u, isDropped c = false) :
    display (styled name (escape (s ++ '[' :: u))) = .ok (s ++ '[' :: (u ++ '[' :: '/' :: (name ++ [']']))) := by
  have hescaped : escape (s ++ '[' :: u) = guarded s ++ '[' :: u := by
    rw [escape_apart (h.apart.append hlast ((apart_plain hopening).cons (by decide)))
      (endsInSingle_of_last (getLast?_front hu.last (by decide) s)), guarded_front (by simp), guarded,
      completesTag_cut hu.closing, guarded_plain hopening]
    rfl
  have henclosed : Enclosed (u ++ '[' :: '/' :: name) :=
    ⟨by simp [hu.closing, hname.enclosed.closing], by simp [hu.value, hname.enclosed.value],
      getLast?_front (getLast?_front hname.enclosed.last (by decide) []) (by decide) u⟩
  have hhead' : (u ++ '[' :: '/' :: name).head? ≠ some '/' := fun h => hhead ((head?_stop (by decide) _ _).1 h)
  obtain ⟨m, hm, hb, hshown⟩ := display_front hname (u := '[' :: u) h hlast (by simpa [isDropped] using hkept)
  rw [List.length_cons] at hm
  obtain ⟨m, rfl⟩ : ∃ k, m = k + 1 := ⟨m - 1, by omega⟩
  rw [hescaped, hshown, List.cons_append, show u ++ '[' :: '/' :: (name ++ [']']) =
    (u ++ '[' :: '/' :: name) ++ ']' :: [] by simp,
    shown_brackets henclosed (by simp; omega) hhead' (by simp [isForeign_of_bracket henclosed]) hb, shown_nil]
  simp [Except.map]

/-- **A backslash at the end escapes the closing tag**, which is shown then. -/
theorem display_backslash (h : Harmless s) (hlast : s.getLast? ≠ some '\\') :
    display (styled name (escape (s ++ ['\\']))) = .ok (s ++ '\\' :: '[' :: '/' :: (name ++ [']'])) := by
  have hescaped : escape (s ++ ['\\']) = guarded s ++ ['\\', '\\'] := by
    have happart : Apart (s ++ ['\\']) := h.apart.append hlast (apart_plain (by decide))
    have hguarded : escapeAfter 0 (s ++ ['\\']) = guarded s ++ ['\\'] := by
      rw [escapeAfter_apart happart 0 (Or.inl rfl), guarded_front (by decide)]
      rfl
    unfold escape
    dsimp only
    rw [hguarded, endsInSingle_snoc, getLast?_guarded, if_pos (by simpa using hlast), List.append_assoc]
    rfl
  have hclosing : Harmless ('/' :: (name ++ [']'])) := harmless_plain hname.kept_closing (by simp [hname.opening])
  obtain ⟨m, hm, hb, hshown⟩ := display_front hname (u := ['\\', '\\']) h hlast (by simp [isDropped])
  obtain ⟨m', -, hrest⟩ := shown_guarded (n := m) (b := '[') (v := []) hclosing (by simp; omega) (Or.inl (by decide))
    (Or.inr (by simp)) [tagName name]
  rw [guarded_plain (by simp [hname.opening]), List.append_nil, shown_nil] at hrest
  rw [hescaped, hshown, List.cons_append, List.cons_append, List.nil_append, shown_plain (by decide) (by simp),
    shown_escaped, hrest]
  simp [Except.map]

/-- **A tag that escaping does not know is not shown.** -/
theorem display_tag (hs : Harmless s) (hslast : s.getLast? ≠ some '\\') (hbody : Enclosed body) (hopening : '[' ∉ body)
    (htag : (isForeign body || isBlank body) = false) (hkept : ∀ c ∈ body, isDropped c = false)
    (hunknown : ∀ c, body.head? = some c → opensTag c = false) (hu : Harmless u) (hulast : u.getLast? ≠ some '\\') :
    display (styled name (escape (s ++ '[' :: (body ++ ']' :: u)))) = .ok (s ++ u) := by
  have hincomplete : completesTag (body ++ ']' :: u) = false := by
    cases body with
    | nil => rfl
    | cons c body => simp [completesTag, hunknown c rfl]
  have hescaped : escape (s ++ '[' :: (body ++ ']' :: u)) = guarded s ++ '[' :: (body ++ ']' :: guarded u) := by
    have happart : Apart ('[' :: (body ++ ']' :: u)) :=
      ((apart_plain hopening).append hbody.last (hu.apart.cons (by decide))).cons (by decide)
    have hlast : (s ++ '[' :: (body ++ ']' :: u)).getLast? ≠ some '\\' :=
      getLast?_front (getLast?_front hulast (by decide) body) (by decide) s
    rw [escape_apart (hs.apart.append hslast happart) (endsInSingle_of_last hlast), guarded_front (by simp), guarded,
      hincomplete, guarded_append hopening]
    rfl
  have hhead : body.head? ≠ some '/' := fun h => absurd (hunknown '/' h) (by decide)
  have hrest : ∀ c ∈ '[' :: (body ++ ']' :: guarded u), isDropped c = false := by
    refine List.forall_mem_cons.2 ⟨rfl, List.forall_mem_append.2 ⟨hkept, ?_⟩⟩
    exact List.forall_mem_cons.2 ⟨rfl, kept_guarded hu.kept⟩
  have hlonger := (sublist_guarded u).length_le
  obtain ⟨m, hm, hb, hshown⟩ := display_front hname hs hslast hrest
  simp only [List.length_cons, List.length_append] at hm
  obtain ⟨m, rfl⟩ : ∃ k, m = k + 1 := ⟨m - 1, by omega⟩
  obtain ⟨l, hl, hback⟩ := shown_guarded (n := m) (b := ']') (v := '[' :: '/' :: (name ++ [']'])) hu (by omega)
    (Or.inl (by decide)) (Or.inl hulast) (tagName body :: [tagName name])
  have hend : shown (l + 1) (u.getLastD ']') [tagName body, tagName name] ('[' :: '/' :: (name ++ [']'])) = .ok [] :=
    shown_end hname (by omega) (getLastD_ne hulast (by decide)) (by simp)
  rw [hescaped, hshown, List.cons_append, List.append_assoc, List.cons_append,
    shown_tag hbody (by omega) hhead htag hb, hback, hend]
  simp [Except.map]

/-- **What is shown of a text between the tags of a style**, by the text's shape. -/
theorem display_shownAs (h : ShownAs name s u) : display (styled name (escape s)) = .ok u := by
  cases h with
  | harmless h hlast => exact display_harmless hname h hlast
  | openBracket h hlast hopening hu hhead hkept => exact display_openBracket hname h hlast hopening hu hhead hkept
  | backslash h hlast => exact display_backslash hname h hlast
  | tag hs hslast hbody hopening htag hkept hunknown hu hulast =>
    exact display_tag hname hs hslast hbody hopening htag hkept hunknown hu hulast

end LinePrompt.Screen.Markup

namespace LinePrompt.Screen

open LinePrompt.Prompt Markup

variable {sc : Scene} {r : Request} {t : String}

/-! ## The labels of a dialog -/

theorem isStyle_bold : IsStyle "bold".toList where
  enclosed := ⟨by decide, by decide, by decide⟩
  opening := by decide
  head := by decide
  isTag := by decide
  named := by simp [tagName, words, wordsAfter]
  kept := by simp [isDropped]

theorem isStyle_dim : IsStyle "dim".toList where
  enclosed := ⟨by decide, by decide, by decide⟩
  opening := by decide
  head := by decide
  isTag := by decide
  named := by simp [tagName, words, wordsAfter]
  kept := by simp [isDropped]

/-- a text that is shown as it is in front of a closing tag -/
structure Plain (t : String) : Prop where
  harmless : Harmless t.toList
  last : t.toList.getLast? ≠ some '\\'

/-- the title of a dialog stands between the tags of bold text -/
theorem title_shownAs {u : String} (h : ShownAs "bold".toList t.toList u.toList) :
    labelText "[bold]" t "[/bold]" = .ok u := by
  unfold labelText
  rw [show "[bold]".toList ++ escape t.toList ++ "[/bold]".toList = styled "bold".toList (escape t.toList) by
    simp [styled], display_shownAs isStyle_bold h]
  simp [Except.map]

theorem title_plain (h : Plain t) : labelText "[bold]" t "[/bold]" = .ok t :=
  title_shownAs (.harmless h.harmless h.last)

theorem hint_plain (h : Plain t) : labelText "[dim]enter: " t "[/dim]" = .ok ("enter: " ++ t) := by
  have hharmless : Harmless ("enter: ".toList ++ t.toList) :=
    h.harmless.append_plain (by simp [isDropped]) (by decide) (by decide)
  have hlast : ("enter: ".toList ++ t.toList).getLast? ≠ some '\\' := getLast?_append_ne (by decide) h.last
  have hescaped : escape ("enter: ".toList ++ t.toList) = "enter: ".toList ++ escape t.toList := by
    rw [escape_apart hharmless.apart (endsInSingle_of_last hlast), guarded_append (by decide),
      escape_apart h.harmless.apart (endsInSingle_of_last h.last)]
  have hshown := display_harmless isStyle_dim hharmless hlast
  unfold labelText
  rw [show "[dim]enter: ".toList ++ escape t.toList ++ "[/dim]".toList =
    styled "dim".toList (escape ("enter: ".toList ++ t.toList)) by rw [hescaped]; simp [styled], hshown]
  exact congrArg Except.ok (by rw [String.ofList_append, String.ofList_toList, String.ofList_toList])

/-- a text that is shown as it is without any tags -/
structure Bare (t : String) : Prop where
  harmless : Harmless t.toList
  last : endsInSingle t.toList = false

theorem button_bare (h : Bare t) : labelText "" t "" = .ok t := by
  have hdisplay : Markup.display (guarded t.toList) = .ok t.toList := by
    unfold Markup.display
    dsimp only
    rw [filter_kept (kept_guarded h.harmless.kept)]
    split_ifs with hbracket
    · obtain ⟨m, -, hshown⟩ := shown_guarded (n := (guarded t.toList).length) (b := ' ') (v := []) h.harmless
        (sublist_guarded _).length_le (Or.inl (by decide)) (Or.inr (by simp)) []
      rw [List.append_nil, shown_nil] at hshown
      rw [hshown]
      simp [Except.map]
    · have hnone : '[' ∉ t.toList := fun hin => hbracket (by simpa using (sublist_guarded _).subset hin)
      rw [guarded_plain hnone]
  unfold labelText
  rw [show "".toList ++ escape t.toList ++ "".toList = escape t.toList by simp,
    escape_apart h.harmless.apart h.last, hdisplay]
  simp [Except.map]

theorem mapM_ok {α β ε : Type} {f : α → Except ε β} {g : α → β} {xs : List α} (h : ∀ x ∈ xs, f x = .ok (g x)) :
    xs.mapM f = .ok (xs.map g) := by
  induction xs with
  | nil => rfl
  | cons x xs ih =>
    rw [List.mapM_cons, h x List.mem_cons_self, ih fun y hy => h y (List.mem_cons_of_mem x hy)]
    rfl

/-- all texts of a request's dialog can be shown as they are -/
structure Displayable (sc : Scene) (r : Request) : Prop where
  title : Plain r.title
  hint : Plain r.primaryLabel
  buttons : ∀ w ∈ controls r, Bare (controlLabel sc r w)

/-- **A dialog shows its texts as they are**, as long as they are harmless: the title, the hint with the primary label,
and on the buttons their labels, on that of the cancel button the configured one if the request has none. -/
theorem labels_literal (h : Displayable sc r) : labels sc r = .ok {
    title := r.title
    hint := "enter: " ++ r.primaryLabel
    buttons := ⟨.primary, "primary", r.primaryLabel⟩ ::
      ((if r.hasAlternate then [⟨.alternate, "default", r.alternateLabel.getD ""⟩] else []) ++
        [⟨.cancel, "default", r.resolvedCancelLabel sc.cancelLabel⟩]) } := by
  have hbuttons : (controls r).mapM (fun w => do
      pure (⟨w, variant w, ← labelText "" (controlLabel sc r w) ""⟩ : ButtonLabel)) =
        .ok ((controls r).map fun w => ⟨w, variant w, controlLabel sc r w⟩) := by
    refine mapM_ok fun w hw => ?_
    rw [button_bare (h.buttons w hw)]
    rfl
  unfold labels
  rw [title_plain h.title, hint_plain h.hint, hbuttons]
  unfold controls
  split_ifs <;> rfl

def bracketScene : Scene where
  request _ := .titled ""
  surface _ := ⟨[], []⟩
  threshold := 10
  cancelLabel := "[esc]"
  escapeDismisses := true

/-- a title with a tag, other brackets and a backslash, and labels in brackets -/
def bracketRequest : Request :=
  { Request.titled "[bold] of a[0], [1, 2] in C:\\x" with
    primaryLabel := "OK [/]", alternateLabel := some "[ ] all", onAlternate := some [] }

theorem labels_literal_brackets : Displayable bracketScene bracketRequest ∧ labels bracketScene bracketRequest = .ok {
    title := "[bold] of a[0], [1, 2] in C:\\x"
    hint := "enter: OK [/]"
    buttons :=
      [⟨.primary, "primary", "OK [/]"⟩, ⟨.alternate, "default", "[ ] all"⟩, ⟨.cancel, "default", "[esc]"⟩] } := by
  have hdisplayable : Displayable bracketScene bracketRequest := by
    refine ⟨⟨by decide, by decide⟩, ⟨by decide, by decide⟩, fun w hw => ?_⟩
    have hw : w ∈ [.primary, .alternate, .cancel] := hw
    simp only [List.mem_cons, List.not_mem_nil, or_false] at hw
    rcases hw with rfl | rfl | rfl <;> exact ⟨by decide, by decide⟩
  exact ⟨hdisplayable, labels_literal hdisplayable⟩

/-- the title of a dialog is what is shown of the request's title -/
theorem title_of_labels (h : (labels sc r).map (·.title) = .ok t) : labelText "[bold]" r.title "[/bold]" = .ok t := by
  unfold labels at h
  dsimp only [bind, Except.bind] at h
  split at h
  · cases h
  · rename_i title htitle
    rw [htitle]
    split at h
    · cases h
    · split at h
      · cases h
      · exact h

/-- Not all texts are harmless: a tag that is left open in a title takes the closing tag behind it along. -/
theorem labels_open_tag :
    ¬ ∀ (sc : Scene) (r : Request), (labels sc r).map (·.title) = .ok r.title := by
  intro h
  have hliteral : labelText "[bold]" (Request.titled "[bold").title "[/bold]" = .ok (Request.titled "[bold").title :=
    title_of_labels (h bracketScene (.titled "[bold"))
  have hshown : labelText "[bold]" "[bold" "[/bold]" = .ok "[bold[/bold]" :=
    title_shownAs (.openBracket (harmless_plain (s := []) (by simp) (by simp)) (by simp) isStyle_bold.opening
      isStyle_bold.enclosed isStyle_bold.head isStyle_bold.kept)
  exact absurd (Except.ok.inj (hshown.symm.trans hliteral)) (by decide)

end LinePrompt.Screen
