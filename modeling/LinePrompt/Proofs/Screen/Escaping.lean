/-
Texts that are escaped to be shown as they are.

Escaping guards the brackets of complete tags that begin in one of a few ways (`guarded`), and a display takes such a
bracket for a bracket. Other brackets go unguarded, and stand as they are only if what they hold is no tag. So a text is
harmless if each of its brackets opens a complete tag that is guarded, or holds no tag; if no backslash stands in front
of a bracket; and if none of its characters is a control that labels drop.

- `escape_apart`: where no backslash stands in front of a bracket, escaping is guarding.
- `shown_guarded`: a harmless text is shown as it is, wherever it stands.
-/
import LinePrompt.Proofs.Screen.Brackets
import Mathlib.Data.List.Infix
import Mathlib.Data.List.TakeWhile

namespace LinePrompt.Screen.Markup

variable {n : Nat} {b c : Char} {o : List (List String)} {s u v rest body : List Char}

/-! ## Harmless texts -/

/-- what follows a bracket closes it, and what it holds is no tag -/
def isNoTag (rest : List Char) : Bool :=
  let body := rest.takeWhile fun c => c != '[' && c != ']'
  (rest.drop body.length).head? = some ']' && !body.contains '=' && body.getLast? != some '\\' &&
    (isForeign body || isBlank body)

/-- no backslash stands in front of a bracket -/
def Apart (s : List Char) : Prop := ∀ rest, ¬ '\\' :: '[' :: rest <:+ s

/-- a text that is escaped to be shown as it is -/
structure Harmless (s : List Char) : Prop where
  kept : ∀ c ∈ s, isDropped c = false
  apart : Apart s
  brackets : ∀ rest, '[' :: rest <:+ s → completesTag rest ∨ isNoTag rest

/-- is what begins here no bracket that is shown otherwise? -/
def beginsHarmless : List Char → Bool
  | '\\' :: '[' :: _ => false
  | '[' :: rest => completesTag rest || isNoTag rest
  | _ => true

/-- harmless texts can be told by looking at every character, and at what begins there -/
theorem harmless_iff : Harmless s ↔ (s.all fun c => !isDropped c) = true ∧ s.tails.all beginsHarmless = true := by
  simp only [List.all_eq_true, Bool.not_eq_true']
  constructor
  · refine fun h => ⟨h.kept, fun t ht => ?_⟩
    have hsuffix : t <:+ s := (List.mem_tails t s).1 ht
    unfold beginsHarmless
    split
    · exact absurd hsuffix (h.apart _)
    · exact Bool.or_eq_true_iff.2 (h.brackets _ hsuffix)
    · rfl
  · rintro ⟨hkept, hbegins⟩
    refine ⟨hkept, fun rest hrest => ?_, fun rest hrest => ?_⟩
    · have hbegin : beginsHarmless ('\\' :: '[' :: rest) = true := hbegins _ ((List.mem_tails _ s).2 hrest)
      cases hbegin
    · have hbegin : beginsHarmless ('[' :: rest) = true := hbegins _ ((List.mem_tails _ s).2 hrest)
      exact Bool.or_eq_true_iff.1 hbegin

instance (s : List Char) : Decidable (Harmless s) := decidable_of_iff _ harmless_iff.symm

theorem Harmless.of_suffix (h : Harmless s) (hu : u <:+ s) : Harmless u where
  kept c hc := h.kept c (hu.subset hc)
  apart rest hrest := h.apart rest (hrest.trans hu)
  brackets rest hrest := h.brackets rest (hrest.trans hu)

theorem Harmless.tail (h : Harmless (c :: s)) : Harmless s := h.of_suffix (List.suffix_cons c s)

theorem getLast?_suffix (h : (u ++ s).getLast? ≠ some c) : s.getLast? ≠ some c := by
  intro hs
  refine h ?_
  rw [List.getLast?_append, hs]
  rfl

theorem getLast?_append_ne (hs : s.getLast? ≠ some c) (hu : u.getLast? ≠ some c) : (s ++ u).getLast? ≠ some c := by
  rw [List.getLast?_append]
  cases hlast : u.getLast? with
  | none => exact hs
  | some d =>
    rw [hlast] at hu
    exact hu

theorem getLast?_front {d : Char} (hu : u.getLast? ≠ some c) (hd : d ≠ c) (s : List Char) :
    (s ++ d :: u).getLast? ≠ some c := by
  rw [List.getLast?_append, List.getLast?_cons, ← List.getLastD_eq_getLast?]
  exact fun h => getLastD_ne hu hd (Option.some.inj h)

theorem Apart.front (h : Apart (c :: s)) : c ≠ '\\' ∨ s.head? ≠ some '[' := by
  by_contra hcs
  obtain ⟨hslash, hhead⟩ := not_or.1 hcs
  obtain rfl := not_not.1 hslash
  obtain ⟨rest, rfl⟩ := List.head?_eq_some_iff.1 (not_not.1 hhead)
  exact h rest (List.suffix_refl _)

theorem Apart.cons (hc : c ≠ '\\') (h : Apart s) : Apart (c :: s) := by
  intro rest hrest
  rcases List.suffix_cons_iff.1 hrest with he | hrest
  · exact hc (List.cons.inj he).1.symm
  · exact h rest hrest

theorem apart_plain (h : '[' ∉ s) : Apart s := fun _ hrest =>
  h (hrest.subset (List.mem_cons_of_mem _ List.mem_cons_self))

theorem Apart.append (h : Apart s) (hlast : s.getLast? ≠ some '\\') (hu : Apart u) : Apart (s ++ u) := by
  induction s with
  | nil => exact hu
  | cons c s ih =>
    have htail : Apart (s ++ u) :=
      ih (fun rest hrest => h rest (hrest.trans (List.suffix_cons c s))) (getLast?_suffix (u := [c]) hlast)
    intro rest hrest
    rcases List.suffix_cons_iff.1 hrest with he | hrest
    · obtain ⟨rfl, htext⟩ := List.cons.inj he
      cases s with
      | nil => exact hlast rfl
      | cons d s =>
        obtain ⟨rfl, -⟩ := List.cons.inj htext
        exact h s (List.suffix_refl _)
    · exact htail rest hrest

/-- a text without brackets -/
theorem harmless_plain (hkept : ∀ c ∈ s, isDropped c = false) (h : '[' ∉ s) : Harmless s where
  kept := hkept
  apart := apart_plain h
  brackets _ hrest := absurd (hrest.subset List.mem_cons_self) h

theorem Harmless.append_plain (h : Harmless s) (hkept : ∀ c ∈ u, isDropped c = false) (hu : '[' ∉ u)
    (hlast : u.getLast? ≠ some '\\') : Harmless (u ++ s) where
  kept c hc := (List.mem_append.1 hc).elim (hkept c) (h.kept c)
  apart := (apart_plain hu).append hlast h.apart
  brackets rest hrest := by
    refine h.brackets rest ?_
    clear hkept hlast
    induction u with
    | nil => exact hrest
    | cons c u ih =>
      rcases List.suffix_cons_iff.1 hrest with he | hrest
      · exact absurd ((List.cons.inj he).1 ▸ List.mem_cons_self) hu
      · exact ih (fun hin => hu (List.mem_cons_of_mem c hin)) hrest

/-- a text up to its first bracket -/
theorem dropWhile_bracket (hopening : '[' ∉ body) (hclosing : ']' ∉ body) (v : List Char) :
    (body ++ ']' :: v).dropWhile (fun c => c != '[' && c != ']') = ']' :: v := by
  induction body with
  | nil => simp
  | cons c body ih =>
    have hc : c ≠ '[' ∧ c ≠ ']' :=
      ⟨fun h => hopening (h ▸ List.mem_cons_self), fun h => hclosing (h ▸ List.mem_cons_self)⟩
    rw [List.cons_append, List.dropWhile_cons_of_pos (by simp [hc])]
    exact ih (fun h => hopening (List.mem_cons_of_mem c h)) fun h => hclosing (List.mem_cons_of_mem c h)

/-- a bracket that holds no tag, taken apart -/
theorem exists_of_isNoTag (h : isNoTag rest) : ∃ body more, rest = body ++ ']' :: more ∧ '[' ∉ body ∧ Enclosed body ∧
    (isForeign body || isBlank body) := by
  unfold isNoTag at h
  simp only [Bool.and_eq_true, decide_eq_true_eq, Bool.not_eq_true', bne_iff_ne] at h
  obtain ⟨⟨⟨hfound, hvalue⟩, hlast⟩, hbody⟩ := h
  set body := rest.takeWhile fun c => c != '[' && c != ']' with hwhile
  have hplain : ∀ c ∈ body, c ≠ '[' ∧ c ≠ ']' := by
    intro c hc
    simpa using List.mem_takeWhile_imp hc
  obtain ⟨more, hmore⟩ := List.head?_eq_some_iff.1 hfound
  have henclosed : Enclosed body := ⟨fun h => (hplain _ h).2 rfl, by simpa using hvalue, hlast⟩
  refine ⟨body, more, ?_, fun h => (hplain _ h).1 rfl, henclosed, hbody⟩
  rw [← hmore]
  exact (List.prefix_iff_eq_append.1 (List.takeWhile_prefix _)).symm

theorem completesTag_of_slash (hclosing : ']' ∉ body) (hopening : '[' ∉ body) (h : body.head? = some '/') :
    completesTag (body ++ ']' :: v) := by
  obtain ⟨rest, rfl⟩ := List.head?_eq_some_iff.1 h
  rw [List.cons_append, completesTag, dropWhile_bracket (fun h => hopening (List.mem_cons_of_mem _ h))
    fun h => hclosing (List.mem_cons_of_mem _ h)]
  rfl

/-- a tag that is cut off is not complete -/
theorem completesTag_cut (hclosing : ']' ∉ u) : completesTag u = false := by
  cases u with
  | nil => rfl
  | cons c u =>
    rw [completesTag]
    refine Bool.and_eq_false_iff.2 (Or.inr ?_)
    simp only [beq_eq_false_iff_ne]
    intro hfound
    obtain ⟨rest, hrest⟩ := List.head?_eq_some_iff.1 hfound
    have hin : ']' ∈ u.dropWhile fun c => c != '[' && c != ']' := hrest ▸ List.mem_cons_self
    exact hclosing (List.mem_cons_of_mem c ((List.dropWhile_suffix _).subset hin))

/-! ## Escaping -/

/-- the text with a backslash in front of every bracket that opens a complete tag -/
def guarded : List Char → List Char
  | [] => []
  | c :: rest => if c = '[' && completesTag rest then '\\' :: '[' :: guarded rest else c :: guarded rest

theorem escapeAfter_apart (happart : Apart s) (k : Nat)
    (hk : k = 0 ∨ s.head? ≠ some '[') : escapeAfter k s = List.replicate k '\\' ++ guarded s := by
  induction s generalizing k with
  | nil => simp [escapeAfter, guarded]
  | cons c s ih =>
    have htail := ih fun rest hrest => happart rest (hrest.trans (List.suffix_cons c s))
    unfold escapeAfter guarded
    by_cases hc : c = '\\'
    · subst hc
      have hhead : s.head? ≠ some '[' := happart.front.resolve_left (by simp)
      rw [if_pos rfl, htail (k + 1) (Or.inr hhead)]
      simp [List.replicate_succ']
    · rw [if_neg hc, htail 0 (Or.inl rfl)]
      split_ifs with hbracket
      · obtain rfl : c = '[' := by simpa using (Bool.and_eq_true_iff.1 hbracket).1
        obtain rfl : k = 0 := hk.resolve_right (by simp)
        simp
      · simp

theorem guarded_append (hu : '[' ∉ u) (v : List Char) : guarded (u ++ v) = u ++ guarded v := by
  induction u with
  | nil => rfl
  | cons c u ih =>
    have hc : c ≠ '[' := fun h => hu (h ▸ List.mem_cons_self)
    rw [List.cons_append, guarded, if_neg (by simp [hc]), ih fun h => hu (List.mem_cons_of_mem c h)]
    rfl

theorem guarded_plain (hu : '[' ∉ u) : guarded u = u := by
  rw [← List.append_nil u, guarded_append hu]
  rfl

/-- a bracket of a harmless text that is not guarded, with what it holds and the rest -/
theorem Harmless.noTag (h : Harmless ('[' :: s)) (hincomplete : ¬ completesTag s) :
    ∃ body more, s = body ++ ']' :: more ∧ Enclosed body ∧ body.head? ≠ some '/' ∧ (isForeign body || isBlank body) ∧
      guarded ('[' :: s) = '[' :: (body ++ ']' :: guarded more) := by
  have hno : isNoTag s := (h.brackets s (List.suffix_refl _)).resolve_left hincomplete
  obtain ⟨body, more, rfl, hopening, henclosed, hbody⟩ := exists_of_isNoTag hno
  have hhead : body.head? ≠ some '/' := fun hhead =>
    hincomplete (completesTag_of_slash henclosed.closing hopening hhead)
  refine ⟨body, more, rfl, henclosed, hhead, hbody, ?_⟩
  rw [guarded, if_neg (by simp [hincomplete]), guarded_append hopening, guarded, if_neg (by simp)]

theorem mem_guarded (h : c ∈ guarded s) : c = '\\' ∨ c ∈ s := by
  induction s with
  | nil => exact Or.inr h
  | cons d s ih =>
    unfold guarded at h
    split_ifs at h with hbracket
    · obtain rfl : d = '[' := by simpa using (Bool.and_eq_true_iff.1 hbracket).1
      rcases List.mem_cons.1 h with rfl | h
      · exact Or.inl rfl
      · rcases List.mem_cons.1 h with rfl | h
        · exact Or.inr List.mem_cons_self
        · exact (ih h).imp_right (List.mem_cons_of_mem _)
    · rcases List.mem_cons.1 h with rfl | h
      · exact Or.inr List.mem_cons_self
      · exact (ih h).imp_right (List.mem_cons_of_mem _)

theorem kept_guarded (h : ∀ c ∈ s, isDropped c = false) : ∀ c ∈ guarded s, isDropped c = false := by
  intro c hc
  rcases mem_guarded hc with rfl | hc
  · rfl
  · exact h c hc

theorem sublist_guarded (s : List Char) : s.Sublist (guarded s) := by
  induction s with
  | nil => exact List.Sublist.refl _
  | cons c s ih =>
    unfold guarded
    split_ifs with hbracket
    · obtain rfl : c = '[' := by simpa using (Bool.and_eq_true_iff.1 hbracket).1
      exact (ih.cons_cons '[').cons '\\'
    · exact ih.cons_cons c

theorem getLast?_guarded (s : List Char) : (guarded s).getLast? = s.getLast? := by
  induction s with
  | nil => rfl
  | cons c s ih =>
    unfold guarded
    split_ifs with hbracket
    · obtain rfl : c = '[' := by simpa using (Bool.and_eq_true_iff.1 hbracket).1
      simp [List.getLast?_cons, ih]
    · simp [List.getLast?_cons, ih]

/-- whether a bracket opens a complete tag does not depend on what comes after the next bracket -/
theorem completesTag_append (hu : (u.dropWhile fun c => c != '[' && c != ']').head? ≠ some ']') (s : List Char) :
    completesTag (s ++ u) = completesTag s := by
  cases s with
  | nil =>
    cases u with
    | nil => rfl
    | cons c u =>
      by_cases hc : c = '[' ∨ c = ']'
      · rcases hc with rfl | rfl <;> rfl
      · obtain ⟨hopening, hclosing⟩ := not_or.1 hc
        rw [List.dropWhile_cons_of_pos (by simp [hopening, hclosing])] at hu
        simp [completesTag, hu]
  | cons c s =>
    rw [List.cons_append, completesTag, completesTag, List.dropWhile_append]
    split_ifs with hs
    · rw [List.isEmpty_iff.1 hs]
      simp [hu]
    · cases hdrop : s.dropWhile (fun c => c != '[' && c != ']') with
      | nil => simp [hdrop] at hs
      | cons d rest => rfl

theorem guarded_front (hu : (u.dropWhile fun c => c != '[' && c != ']').head? ≠ some ']') (s : List Char) :
    guarded (s ++ u) = guarded s ++ guarded u := by
  induction s with
  | nil => rfl
  | cons c s ih =>
    rw [List.cons_append, guarded, guarded, completesTag_append hu, ih]
    split_ifs <;> rfl

theorem endsInSingle_of_last (h : s.getLast? ≠ some '\\') : endsInSingle s = false := by
  rw [← List.head?_reverse] at h
  unfold endsInSingle
  split
  · rename_i heq
    exact absurd (heq ▸ rfl) h
  · rename_i heq
    exact absurd (heq ▸ rfl) h
  · rfl

theorem endsInSingle_snoc (s : List Char) : endsInSingle (s ++ ['\\']) = decide (s.getLast? ≠ some '\\') := by
  rw [← List.head?_reverse, endsInSingle, List.reverse_append]
  cases s.reverse with
  | nil => rfl
  | cons c rest => simp [bne, Bool.beq_eq_decide_eq]

theorem endsInSingle_guarded (s : List Char) : endsInSingle (guarded s) = endsInSingle s := by
  by_cases hlast : s.getLast? = some '\\'
  · obtain ⟨front, rfl⟩ := List.getLast?_eq_some_iff.1 hlast
    rw [guarded_front (by decide), show guarded ['\\'] = ['\\'] from rfl, endsInSingle_snoc, endsInSingle_snoc,
      getLast?_guarded]
  · rw [endsInSingle_of_last hlast, endsInSingle_of_last (getLast?_guarded s ▸ hlast)]

/-- escaping guards the brackets, unless a single backslash ends the text -/
theorem escape_apart (happart : Apart s) (hlast : endsInSingle s = false) : escape s = guarded s := by
  have hguarded : escapeAfter 0 s = guarded s := escapeAfter_apart happart 0 (Or.inl rfl)
  unfold escape
  dsimp only
  rw [hguarded, endsInSingle_guarded, hlast]
  rfl

/-! ## What is shown of a harmless text -/

theorem map_append_append (r : Except Flaw (List Char)) (u s : List Char) :
    (r.map (s ++ ·)).map (u ++ ·) = r.map (u ++ s ++ ·) := by
  cases r <;> simp [Except.map]

theorem head?_guarded (h : s.head? ≠ some '[') (v : List Char) (hv : s = [] → v.head? ≠ some '[') :
    (guarded s ++ v).head? ≠ some '[' := by
  cases s with
  | nil => exact hv rfl
  | cons c s =>
    have hc : c ≠ '[' := fun hc => h (congrArg some hc)
    rw [guarded, if_neg (by simp [hc])]
    exact h

/-- **What is shown of a harmless text**, whatever stands in front of it and behind. -/
theorem shown_guarded (h : Harmless s) (hn : s.length ≤ n) (hb : b ≠ '\\' ∨ s.head? ≠ some '[')
    (hv : s.getLast? ≠ some '\\' ∨ v.head? ≠ some '[') (o : List (List String)) :
    ∃ m, n ≤ m + s.length ∧
      shown (n + 1) b o (guarded s ++ v) = (shown (m + 1) (s.getLastD b) o v).map (s ++ ·) := by
  -- brackets that hold no tag are passed in one step, so the induction is on the length of what is left
  induction hlength : s.length using Nat.strongRecOn generalizing s n b with
  | ind l ih =>
  subst hlength
  cases s with
  | nil =>
    refine ⟨n, Nat.le_refl _, ?_⟩
    rw [guarded, List.nil_append, List.getLastD_nil]
    cases shown (n + 1) b o v <;> rfl
  | cons c s =>
    rw [List.length_cons] at hn
    have hlast : s.getLast? ≠ some '\\' ∨ v.head? ≠ some '[' := hv.imp_left (getLast?_suffix (u := [c]))
    by_cases hc : c = '['
    · subst hc
      have hfront : b ≠ '\\' := hb.resolve_right (by simp)
      by_cases hcomplete : completesTag s = true
      · obtain ⟨m, hm, hrest⟩ := ih s.length (Nat.lt_succ_self _) (n := n) (b := '[') h.tail (by omega)
          (Or.inl (by decide)) hlast rfl
        refine ⟨m, by rw [List.length_cons]; omega, ?_⟩
        rw [guarded, if_pos (by simp [hcomplete]), List.cons_append, List.cons_append, shown_escaped, hrest,
          List.getLastD_cons]
        exact map_append_append _ ['['] s
      · obtain ⟨body, more, rfl, henclosed, hhead, hbody, hguarded⟩ := h.noTag hcomplete
        have hmore : more <:+ body ++ ']' :: more := (List.suffix_cons ']' more).trans (List.suffix_append _ _)
        rw [List.length_append, List.length_cons] at hn
        obtain ⟨n, rfl⟩ : ∃ k, n = k + 1 := ⟨n - 1, by omega⟩
        obtain ⟨m, hm, hrest⟩ := ih more.length (by simp; omega) (n := n) (b := ']') (h.tail.of_suffix hmore) (by omega)
          (Or.inl (by decide)) (hlast.imp_left (by rw [List.append_cons]; exact getLast?_suffix)) rfl
        refine ⟨m, by simp; omega, ?_⟩
        rw [hguarded, List.cons_append, List.append_assoc, List.cons_append,
          shown_brackets henclosed (by omega) hhead hbody hfront, hrest, List.getLastD_cons, getLastD_append,
          List.getLastD_cons, map_append_append]
        simp
    · have hnext : ¬ (c = '\\' ∧ (guarded s ++ v).head? = some '[') := by
        rintro ⟨rfl, hhead⟩
        refine head?_guarded (h.apart.front.resolve_left (by simp)) v (fun hs => ?_) hhead
        subst hs
        exact hv.resolve_left (by simp)
      obtain ⟨m, hm, hrest⟩ := ih s.length (Nat.lt_succ_self _) (n := n) (b := c) h.tail (by omega) h.apart.front hlast
        rfl
      refine ⟨m, by rw [List.length_cons]; omega, ?_⟩
      rw [guarded, if_neg (by simp [hc]), List.cons_append, shown_plain hc hnext, hrest, List.getLastD_cons]
      exact map_append_append _ [c] s

end LinePrompt.Screen.Markup
