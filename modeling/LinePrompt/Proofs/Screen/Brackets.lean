/-
How the markup of a label is read, bracket by bracket.

What stands in brackets is read to its closing bracket, and it depends on nothing behind it whether this is a tag
(`readTag_enclosed`): no piece of a tag reaches over a bracket (`pieceLength_stop`). What a label shows follows from
this one token at a time: a character stands for itself (`shown_plain`), an escaped bracket for a bracket
(`shown_escaped`), brackets that hold no tag stand as they are (`shown_brackets`), a tag is not shown, and is open from
there on (`shown_tag`) until it is closed (`shown_closing`).
-/
import LinePrompt.Screen.Markup
import Mathlib.Tactic.Common

namespace LinePrompt.Screen.Markup

variable {n : Nat} {b c q : Char} {o : List (List String)} {xs v cs body : List Char}

/-! ## Pieces of a tag -/

/-- a bracket is no part of a piece -/
def isBracket (c : Char) : Prop := c = '[' ∨ c = ']'

theorem takeWhile_stop {p : Char → Bool} (hp : p q = false) (xs v : List Char) :
    (xs ++ q :: v).takeWhile p = xs.takeWhile p := by
  induction xs with
  | nil => simp [hp]
  | cons c xs ih => simp [List.takeWhile_cons, ih]

theorem head?_stop (hc : c ≠ q) (xs v : List Char) : (xs ++ q :: v).head? = some c ↔ xs.head? = some c := by
  cases xs <;> simp [hc.symm]

theorem drop_stop {k : Nat} (hk : k ≤ xs.length) : (xs ++ q :: v).drop k = xs.drop k ++ q :: v :=
  List.drop_append_of_le_length hk

theorem length_takeWhile_le (p : Char → Bool) (xs : List Char) : (xs.takeWhile p).length ≤ xs.length :=
  (List.takeWhile_prefix p).length_le

/-- the length of a point with the digits behind it; 0 if there is none -/
def fractionLength (cs : List Char) : Nat :=
  let point := if cs.head? = some '.' then 1 else 0
  point + ((cs.drop point).takeWhile Char.isDigit).length

/-- the length of a percentage in front of which so many signs stand -/
def unsignedLength (signs : Nat) (cs : List Char) : Nat :=
  let whole := (cs.takeWhile Char.isDigit).length
  let part := fractionLength (cs.drop whole)
  if whole = 0 then 0
  else if ((cs.drop whole).drop part).head? = some '%' then signs + whole + part + 1
  else 0

theorem percentLength_minus (cs : List Char) : percentLength ('-' :: cs) = unsignedLength 1 cs := by
  unfold percentLength unsignedLength fractionLength
  simp [Nat.add_assoc]

theorem percentLength_unsigned (hcs : cs.head? ≠ some '-') : percentLength cs = unsignedLength 0 cs := by
  unfold percentLength unsignedLength fractionLength
  split
  · exact absurd rfl hcs
  · simp [Nat.add_assoc]

theorem unsignedLength_le (signs : Nat) (cs : List Char) : unsignedLength signs cs ≤ cs.length + signs := by
  unfold unsignedLength
  dsimp only
  split_ifs with hwhole hpercent
  · exact Nat.zero_le _
  · obtain ⟨rest, hrest⟩ := List.head?_eq_some_iff.1 hpercent
    have hlength := congrArg List.length hrest
    simp only [List.length_drop, List.length_cons] at hlength
    omega
  · exact Nat.zero_le _

theorem fractionLength_le (cs : List Char) : fractionLength cs ≤ cs.length := by
  unfold fractionLength
  dsimp only
  split_ifs with hpoint
  · obtain ⟨rest, rfl⟩ := List.head?_eq_some_iff.1 hpoint
    have hdigits := length_takeWhile_le Char.isDigit rest
    simp only [List.drop_one, List.tail_cons, List.length_cons]
    omega
  · simpa using length_takeWhile_le Char.isDigit cs

section Stop

variable (hq : isBracket q)

include hq

theorem isBracket.ne (hc : ¬ isBracket c) : c ≠ q := fun h => hc (h ▸ hq)

theorem fractionLength_stop (xs v : List Char) : fractionLength (xs ++ q :: v) = fractionLength xs := by
  have hdigit : q.isDigit = false := by rcases hq with rfl | rfl <;> rfl
  have hpoint : '.' ≠ q := hq.ne (by unfold isBracket; decide)
  unfold fractionLength
  simp only [head?_stop hpoint]
  split_ifs with hhead
  · obtain ⟨rest, rfl⟩ := List.head?_eq_some_iff.1 hhead
    simp only [List.cons_append, List.drop_one, List.tail_cons, takeWhile_stop hdigit]
  · simp only [List.drop_zero, takeWhile_stop hdigit]

theorem unsignedLength_stop (signs : Nat) (xs v : List Char) :
    unsignedLength signs (xs ++ q :: v) = unsignedLength signs xs := by
  have hdigit : q.isDigit = false := by rcases hq with rfl | rfl <;> rfl
  have hpercent : '%' ≠ q := hq.ne (by unfold isBracket; decide)
  unfold unsignedLength
  dsimp only
  rw [takeWhile_stop hdigit, drop_stop (length_takeWhile_le _ _), fractionLength_stop hq,
    drop_stop (fractionLength_le _)]
  simp only [head?_stop hpercent]

theorem percentLength_stop (xs v : List Char) : percentLength (xs ++ q :: v) = percentLength xs := by
  have hminus : '-' ≠ q := hq.ne (by unfold isBracket; decide)
  by_cases hsigned : xs.head? = some '-'
  · obtain ⟨rest, rfl⟩ := List.head?_eq_some_iff.1 hsigned
    rw [List.cons_append, percentLength_minus, percentLength_minus, unsignedLength_stop hq]
  · rw [percentLength_unsigned hsigned, percentLength_unsigned (mt (head?_stop hminus xs v).1 hsigned),
      unsignedLength_stop hq]

theorem colourLength_stop (xs v : List Char) : colourLength (xs ++ q :: v) = colourLength xs := by
  have hhex : isHex q = false := by rcases hq with rfl | rfl <;> rfl
  have hhash : '#' ≠ q := hq.ne (by unfold isBracket; decide)
  by_cases hcolour : xs.head? = some '#'
  · obtain ⟨rest, rfl⟩ := List.head?_eq_some_iff.1 hcolour
    simp only [List.cons_append, colourLength, takeWhile_stop hhex]
  · unfold colourLength
    split
    · rename_i heq
      exact absurd ((head?_stop hhash xs v).1 (heq ▸ rfl)) hcolour
    · split
      · exact absurd rfl hcolour
      · rfl

theorem variableLength_stop (xs v : List Char) : variableLength (xs ++ q :: v) = variableLength xs := by
  have hname : (isWordChar q || q.isDigit) = false := by rcases hq with rfl | rfl <;> rfl
  have hdollar : '$' ≠ q := hq.ne (by unfold isBracket; decide)
  by_cases hreference : xs.head? = some '$'
  · obtain ⟨rest, rfl⟩ := List.head?_eq_some_iff.1 hreference
    simp only [List.cons_append, variableLength, takeWhile_stop (p := fun c => isWordChar c || c.isDigit) hname]
  · unfold variableLength
    split
    · rename_i heq
      exact absurd ((head?_stop hdollar xs v).1 (heq ▸ rfl)) hreference
    · split
      · exact absurd rfl hreference
      · rfl

/-- **No piece of a tag reaches over a bracket.** -/
theorem pieceLength_stop (xs v : List Char) : pieceLength (xs ++ q :: v) = pieceLength xs := by
  have hword : isWordChar q = false := by rcases hq with rfl | rfl <;> rfl
  have hspace : q.isWhitespace = false := by rcases hq with rfl | rfl <;> rfl
  unfold pieceLength
  rw [percentLength_stop hq, colourLength_stop hq, variableLength_stop hq, takeWhile_stop hword, takeWhile_stop hspace]

end Stop

theorem percentLength_le (xs : List Char) : percentLength xs ≤ xs.length := by
  by_cases hsigned : xs.head? = some '-'
  · obtain ⟨rest, rfl⟩ := List.head?_eq_some_iff.1 hsigned
    rw [percentLength_minus]
    exact unsignedLength_le 1 rest
  · rw [percentLength_unsigned hsigned]
    exact unsignedLength_le 0 xs

theorem colourLength_le (xs : List Char) : colourLength xs ≤ xs.length := by
  unfold colourLength
  split
  · rename_i rest
    have hdigits := length_takeWhile_le isHex rest
    dsimp only
    rw [List.length_cons]
    split_ifs <;> omega
  · exact Nat.zero_le _

theorem variableLength_le (xs : List Char) : variableLength xs ≤ xs.length := by
  unfold variableLength
  split
  · rename_i rest
    have hname := length_takeWhile_le (fun c => isWordChar c || c.isDigit) rest
    dsimp only
    rw [List.length_cons]
    split_ifs <;> omega
  · exact Nat.zero_le _

theorem pieceLength_le (xs : List Char) : pieceLength xs ≤ xs.length := by
  unfold pieceLength
  dsimp only
  split_ifs
  · exact percentLength_le xs
  · exact colourLength_le xs
  · exact length_takeWhile_le _ _
  · exact variableLength_le xs
  · exact length_takeWhile_le _ _

/-- a key needs an equals sign -/
theorem keyLength_enclosed (h : '=' ∉ xs) (v : List Char) : keyLength (xs ++ ']' :: v) = 0 := by
  cases xs with
  | nil => rfl
  | cons c xs =>
    have hmore : '=' ∉ xs := fun hin => h (List.mem_cons_of_mem c hin)
    rw [List.cons_append, keyLength]
    dsimp only
    rw [takeWhile_stop (by rfl), drop_stop (length_takeWhile_le _ _)]
    split_ifs with hkey hfound
    · obtain ⟨rest, hrest⟩ := List.head?_eq_some_iff.1 ((head?_stop (by decide) _ _).1 hfound)
      exact absurd (List.mem_of_mem_drop (hrest ▸ List.mem_cons_self)) hmore
    · rfl
    · rfl

/-! ## Tags -/

/-- what can stand in brackets: it is read to its end, as no bracket closes inside it, no value is read, and no
backslash keeps the last bracket from closing it -/
structure Enclosed (body : List Char) : Prop where
  closing : ']' ∉ body
  value : '=' ∉ body
  last : body.getLast? ≠ some '\\'

/-- does it hold anything that is no part of a tag? -/
def isForeign (body : List Char) : Bool :=
  match readTag (body.length + 1) '[' [] false (body ++ [']']) with
  | .ok tag => tag.foreign
  | .error _ => false

theorem getLastD_append (xs ys : List Char) (b : Char) : (xs ++ ys).getLastD b = ys.getLastD (xs.getLastD b) := by
  simp only [List.getLastD_eq_getLast?, List.getLast?_append]
  cases ys.getLast? <;> rfl

theorem getLastD_ne (hlast : xs.getLast? ≠ some c) (hb : b ≠ c) : xs.getLastD b ≠ c := by
  rw [List.getLastD_eq_getLast?]
  cases hxs : xs.getLast? with
  | none => exact hb
  | some d => exact fun hd => hlast (hxs.trans (congrArg some hd))

/-- one piece of what stands in brackets, or a character that is no part of a tag -/
theorem readTag_cons {rest : List Char} (hclosing : c ≠ ']') (hvalue : '=' ∉ c :: rest) (n : Nat) (b : Char)
    (acc : List Char) (already : Bool) (v : List Char) :
    readTag (n + 1) b acc already (c :: rest ++ ']' :: v) =
      if 0 < pieceLength (c :: rest) then
        readTag n (((c :: rest).take (pieceLength (c :: rest))).getLastD c)
          (acc ++ (c :: rest).take (pieceLength (c :: rest))) already
          ((c :: rest).drop (pieceLength (c :: rest)) ++ ']' :: v)
      else readTag n c (acc ++ [c]) true (rest ++ ']' :: v) := by
  have hkey := keyLength_enclosed hvalue v
  have hpiece := pieceLength_stop (Or.inr rfl : isBracket ']') (c :: rest) v
  have hle := pieceLength_le (c :: rest)
  rw [List.cons_append] at hkey hpiece
  rw [List.cons_append, readTag, hkey, hpiece, ← List.cons_append]
  dsimp only
  rw [List.take_append_of_le_length hle, List.drop_append_of_le_length hle]
  simp [hclosing]

/-- what stands in brackets is read to its end, and what else it holds does not depend on what is in front or behind -/
theorem reads_enclosed (hclosing : ']' ∉ body) (hvalue : '=' ∉ body) :
    ∃ foreign : Bool, ('[' ∈ body → foreign) ∧ ∀ n b acc already v, body.length < n → body.getLastD b ≠ '\\' →
      readTag n b acc already (body ++ ']' :: v) = .ok ⟨acc ++ body, already || foreign, false, v⟩ := by
  induction hn : body.length using Nat.strongRecOn generalizing body with
  | ind m ih =>
  subst hn
  cases body with
  | nil =>
    refine ⟨false, fun h => absurd h List.not_mem_nil, fun n b acc already v hlt hlast => ?_⟩
    obtain ⟨n, rfl⟩ : ∃ k, n = k + 1 := ⟨n - 1, by simp at hlt; omega⟩
    have hb : b ≠ '\\' := hlast
    simp [readTag, hb]
  | cons c rest =>
    have hc : c ≠ ']' := fun h => hclosing (h ▸ List.mem_cons_self)
    by_cases hpiece : 0 < pieceLength (c :: rest)
    · set p := pieceLength (c :: rest) with hp
      have hle : p ≤ (c :: rest).length := pieceLength_le _
      have hshorter : ((c :: rest).drop p).length < (c :: rest).length := by
        rw [List.length_drop]
        omega
      obtain ⟨foreign, hbracket, hrest⟩ := ih _ hshorter (fun h => hclosing (List.mem_of_mem_drop h))
        (fun h => hvalue (List.mem_of_mem_drop h)) rfl
      refine ⟨foreign, fun hin => hbracket ?_, fun n b acc already v hlt hlast => ?_⟩
      · -- the piece ends before the bracket
        obtain ⟨front, back, hsplit⟩ := List.append_of_mem hin
        have hfront : p ≤ front.length := by
          rw [hp, hsplit, pieceLength_stop (Or.inl rfl)]
          exact pieceLength_le front
        rw [hsplit, drop_stop hfront]
        exact List.mem_append_right _ List.mem_cons_self
      · obtain ⟨n, rfl⟩ : ∃ k, n = k + 1 := ⟨n - 1, by omega⟩
        have htaken : (c :: rest).take p ++ (c :: rest).drop p = c :: rest := List.take_append_drop _ _
        have hlast' : ((c :: rest).drop p).getLastD (((c :: rest).take p).getLastD c) ≠ '\\' := by
          rw [← getLastD_append, htaken]
          exact hlast
        rw [readTag_cons hc hvalue, if_pos hpiece, ← hp, hrest n _ _ _ _ (by omega) hlast', List.append_assoc, htaken]
    · obtain ⟨_, -, hrest⟩ := ih rest.length (Nat.lt_succ_self _) (fun h => hclosing (List.mem_cons_of_mem _ h))
        (fun h => hvalue (List.mem_cons_of_mem _ h)) rfl
      refine ⟨true, fun _ => rfl, fun n b acc already v hlt hlast => ?_⟩
      obtain ⟨n, rfl⟩ : ∃ k, n = k + 1 := ⟨n - 1, by omega⟩
      have hlast' : rest.getLastD c ≠ '\\' := by
        rwa [show (c :: rest).getLastD b = rest.getLastD c from List.getLastD_cons ..] at hlast
      rw [readTag_cons hc hvalue, if_neg hpiece, hrest n _ _ _ _ (by simpa using hlt) hlast', List.append_assoc]
      simp

theorem reads_isForeign (h : Enclosed body) : ('[' ∈ body → isForeign body) ∧
    ∀ n b v, body.length < n → b ≠ '\\' →
      readTag n b [] false (body ++ ']' :: v) = .ok ⟨body, isForeign body, false, v⟩ := by
  obtain ⟨foreign, hbracket, hreads⟩ := reads_enclosed h.closing h.value
  have hforeign : isForeign body = foreign := by
    unfold isForeign
    rw [hreads _ '[' [] false [] (Nat.lt_succ_self _) (getLastD_ne h.last (by decide))]
    rfl
  rw [hforeign]
  exact ⟨hbracket, fun n b v hn hb => hreads n b [] false v hn (getLastD_ne h.last hb)⟩

/-- a bracket is no part of a tag -/
theorem isForeign_of_bracket (h : Enclosed body) (hin : '[' ∈ body) : isForeign body := (reads_isForeign h).1 hin

/-- **What stands in brackets is read to its end**, and what else it holds depends on nothing but itself. -/
theorem readTag_enclosed (h : Enclosed body) (hn : body.length < n) (hb : b ≠ '\\') (v : List Char) :
    readTag n b [] false (body ++ ']' :: v) = .ok ⟨body, isForeign body, false, v⟩ := (reads_isForeign h).2 n b v hn hb

/-! ## What a label shows, token by token -/

/-- what a label shows from a bracket on -/
def shownFrom (n : Nat) (o : List (List String)) : List Char → Except Flaw (List Char)
  | [] => .ok []
  | _ :: '/' :: rest =>
    match readTag n '/' [] false rest with
    | .error f => .error f
    | .ok tag =>
      match closeTag tag.body o with
      | .error f => .error f
      | .ok o => shown n ']' o tag.rest
  | _ :: rest =>
    match readTag n '[' [] false rest with
    | .error f => .error f
    | .ok tag =>
      if tag.foreign || tag.cut || isBlank tag.body then
        (shown n ']' o tag.rest).map ('[' :: tag.body ++ (if tag.cut then [] else [']']) ++ ·)
      else shown n ']' (tagName tag.body :: o) tag.rest

/-- the text in front of the next bracket, and what is shown from there on -/
theorem shown_eq (n : Nat) (b : Char) (o : List (List String)) (cs : List Char) :
    shown (n + 1) b o cs = (shownFrom n o (splitText b cs).2).map (unescape (splitText b cs).1 ++ ·) := by
  unfold shown
  generalize splitText b cs = parts
  obtain ⟨text, more⟩ := parts
  dsimp only
  split
  · simp [shownFrom, Except.map]
  · rename_i rest
    rw [shownFrom]
    rcases readTag n '/' [] false rest with f | tag
    · rfl
    · dsimp only
      cases closeTag tag.body o <;> rfl
  · rename_i rest hrest
    rw [shownFrom]
    swap
    · exact hrest
    rcases readTag n '[' [] false rest with f | tag
    · rfl
    · dsimp only
      split_ifs
      · cases shown n ']' o tag.rest <;> simp [Except.map]
      · cases shown n ']' o tag.rest <;> simp [Except.map]
      · rfl

theorem shown_nil (n : Nat) (b : Char) (o : List (List String)) : shown n b o [] = .ok [] := by
  cases n with
  | zero => rfl
  | succ n =>
    rw [shown_eq]
    rfl

theorem splitText_plain (hc : c ≠ '[' ∨ b = '\\') (cs : List Char) :
    splitText b (c :: cs) = (c :: (splitText c cs).1, (splitText c cs).2) := by
  rw [splitText, if_neg]
  rcases hc with hc | rfl <;> simp [*]

/-- text starts as what it is split from -/
theorem head?_splitText (b : Char) (h : (splitText b cs).1.head? = some c) : cs.head? = some c := by
  cases cs with
  | nil => cases h
  | cons d cs =>
    unfold splitText at h
    split_ifs at h
    · cases h
    · exact h

theorem unescape_plain (h : ¬ (c = '\\' ∧ cs.head? = some '[')) : unescape (c :: cs) = c :: unescape cs := by
  rw [unescape]
  rintro rest rfl rfl
  exact h ⟨rfl, rfl⟩

/-- a character that neither is a bracket nor escapes one stands for itself -/
theorem shown_plain (hc : c ≠ '[') (hcs : ¬ (c = '\\' ∧ cs.head? = some '[')) (n : Nat) (b : Char)
    (o : List (List String)) : shown (n + 1) b o (c :: cs) = (shown (n + 1) c o cs).map (c :: ·) := by
  rw [shown_eq, shown_eq, splitText_plain (Or.inl hc),
    unescape_plain fun h => hcs ⟨h.1, head?_splitText c h.2⟩]
  cases shownFrom n o (splitText c cs).2 <;> rfl

/-- a bracket that is escaped -/
theorem shown_escaped (n : Nat) (b : Char) (o : List (List String)) (cs : List Char) :
    shown (n + 1) b o ('\\' :: '[' :: cs) = (shown (n + 1) '[' o cs).map ('[' :: ·) := by
  rw [shown_eq, shown_eq, splitText_plain (Or.inl (by decide)), splitText_plain (Or.inr rfl)]
  cases shownFrom n o (splitText '[' cs).2 <;> rfl

/-- from a bracket that is not escaped -/
theorem shown_bracket (hb : b ≠ '\\') (n : Nat) (o : List (List String)) (cs : List Char) :
    shown (n + 1) b o ('[' :: cs) = shownFrom n o ('[' :: cs) := by
  have hsplit : splitText b ('[' :: cs) = ([], '[' :: cs) := by simp [splitText, hb]
  rw [shown_eq, hsplit]
  cases shownFrom n o ('[' :: cs) <;> rfl

theorem shownFrom_enclosed (h : Enclosed body) (hn : body.length < n) (hhead : body.head? ≠ some '/')
    (o : List (List String)) (cs : List Char) :
    shownFrom n o ('[' :: (body ++ ']' :: cs)) =
      if isForeign body || isBlank body then (shown n ']' o cs).map ('[' :: (body ++ [']']) ++ ·)
      else shown n ']' (tagName body :: o) cs := by
  have hopening : ∀ rest, body ++ ']' :: cs ≠ '/' :: rest := by
    intro rest he
    refine hhead ((head?_stop (q := ']') (by decide) body cs).1 ?_)
    rw [he]
    rfl
  rw [shownFrom, readTag_enclosed h hn (by decide)]
  · simp
  · exact hopening

/-- brackets that hold no tag stand as they are -/
theorem shown_brackets (h : Enclosed body) (hn : body.length < n) (hhead : body.head? ≠ some '/')
    (hno : isForeign body || isBlank body) (hb : b ≠ '\\') (o : List (List String)) (cs : List Char) :
    shown (n + 1) b o ('[' :: (body ++ ']' :: cs)) = (shown n ']' o cs).map ('[' :: (body ++ [']']) ++ ·) := by
  rw [shown_bracket hb, shownFrom_enclosed h hn hhead, if_pos hno]

/-- a tag is not shown, and is open from there on -/
theorem shown_tag (h : Enclosed body) (hn : body.length < n) (hhead : body.head? ≠ some '/')
    (htag : (isForeign body || isBlank body) = false) (hb : b ≠ '\\') (o : List (List String)) (cs : List Char) :
    shown (n + 1) b o ('[' :: (body ++ ']' :: cs)) = shown n ']' (tagName body :: o) cs := by
  rw [shown_bracket hb, shownFrom_enclosed h hn hhead, if_neg (by simp [htag])]

/-- a tag that is open is closed -/
theorem shown_closing (h : Enclosed body) (hn : body.length < n) (hname : tagName body ≠ []) (hb : b ≠ '\\')
    (hopen : o.contains (tagName body)) (cs : List Char) :
    shown (n + 1) b o ('[' :: '/' :: (body ++ ']' :: cs)) = shown n ']' (o.erase (tagName body)) cs := by
  rw [shown_bracket hb, shownFrom, readTag_enclosed h hn (by decide)]
  have hclose : closeTag body o = .ok (o.erase (tagName body)) := by
    unfold closeTag
    dsimp only
    rw [if_neg (by simpa using hname), if_pos hopen]
  simp only [hclose]

end LinePrompt.Screen.Markup
