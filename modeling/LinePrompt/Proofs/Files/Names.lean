/-
Names in paths.

A path that is read from a text has steps that are no empty text, no point and hold no slash (`IsStep`), and a path with
such steps is read back from its own text (`Path.ofText_text`). Names are steps that do not lead up (`IsName`). A path
in full goes by names from the root (`Path.InFull`); it leads to the place that its names say (`goal_inFull`), and names
in one directory can be followed alike (`locate_beside`).

The file of a log has its path in full (`inFull_logPath`), and so have its backups, in the same directory
(`Path.Beside`, `beside_backup`).
-/
import Mathlib.Data.String.Basic
import LinePrompt.Proofs.Log.Opening

namespace LinePrompt.Text

/-! ## Texts taken apart at a character -/

open String in
theorem splitOnAux_char (c : Char) (front piece rest : List Char) (found : List String) :
    splitOnAux (ofList (front ++ piece ++ rest)) (ofList [c]) ⟨utf8Len front⟩ ⟨utf8Len (front ++ piece)⟩ 0 found =
      found.reverse ++ (List.splitOnPPrepend (· == c) rest piece.reverse).map ofList := by
  have hpiece (front piece rest : List Char) :
      Pos.Raw.extract (ofList (front ++ piece ++ rest)) ⟨utf8Len front⟩ ⟨utf8Len (front ++ piece)⟩ = ofList piece := by
    rw [utf8Len_append]
    exact extract_of_valid front piece rest
  have hsize (d : Char) : utf8Len [d] = d.utf8Size := by simp
  induction rest generalizing front piece found with
  | nil =>
    rw [splitOnAux, if_pos ((atEnd_of_valid (front ++ piece) []).2 rfl), hpiece, List.splitOnPPrepend_nil]
    simp
  | cons d rest ih =>
    have hmore : ¬ Pos.Raw.atEnd (ofList (front ++ piece ++ d :: rest)) ⟨utf8Len (front ++ piece)⟩ = true := by
      rw [atEnd_of_valid]
      exact List.cons_ne_nil d rest
    have hget : Pos.Raw.get (ofList (front ++ piece ++ d :: rest)) ⟨utf8Len (front ++ piece)⟩ = d :=
      get_of_valid (front ++ piece) (d :: rest)
    have hsep : Pos.Raw.get (ofList [c]) 0 = c := get_of_valid [] [c]
    have hnext : Pos.Raw.next (ofList (front ++ piece ++ d :: rest)) ⟨utf8Len (front ++ piece)⟩ =
        ⟨utf8Len (front ++ piece ++ [d])⟩ := by
      rw [next_of_valid, utf8Len_append _ [d], hsize]
    rw [splitOnAux, if_neg hmore, hget, hsep, List.splitOnPPrepend_cons_eq_if]
    split_ifs with hd
    · obtain rfl : d = c := by simpa using hd
      have hsepNext : Pos.Raw.next (ofList [d]) 0 = ⟨utf8Len [d]⟩ := (next_of_valid [] d []).trans (by simp)
      have hsepEnd : Pos.Raw.atEnd (ofList [d]) ⟨utf8Len [d]⟩ = true := (atEnd_of_valid [d] []).2 rfl
      have hback : (Pos.Raw.mk (utf8Len (front ++ piece ++ [d]))).unoffsetBy ⟨utf8Len [d]⟩ =
          ⟨utf8Len (front ++ piece)⟩ := by
        rw [utf8Len_append _ [d]]
        simp only [Pos.Raw.unoffsetBy, Nat.add_sub_cancel]
      have hskip := ih (front ++ piece ++ [d]) [] (ofList piece :: found)
      simp only [hsepNext, hnext, hsepEnd, if_true, hback, hpiece]
      simpa using hskip
    · have hstay := ih front (piece ++ [d]) found
      have hback : (Pos.Raw.mk (utf8Len (front ++ piece))).unoffsetBy 0 = ⟨utf8Len (front ++ piece)⟩ := rfl
      rw [hback, hnext]
      simpa using hstay

/-- taking a text apart at a character is taking its characters apart there -/
theorem splitOn_char (c : Char) (text : String) :
    text.splitOn (String.ofList [c]) = (text.toList.splitOn c).map String.ofList := by
  have haux := splitOnAux_char c [] [] text.toList []
  unfold String.splitOn
  rw [if_neg (by simp)]
  simpa [List.splitOn_eq_splitOnP] using haux

theorem not_mem_of_mem_splitOn {c : Char} {cs piece : List Char} (h : piece ∈ cs.splitOn c) : c ∉ piece := by
  induction cs generalizing piece with
  | nil =>
    rw [List.splitOn_nil, List.mem_singleton] at h
    simp [h]
  | cons d cs ih =>
    rw [List.splitOn_cons_eq_if_modifyHead] at h
    split_ifs at h with hd
    · rcases List.mem_cons.1 h with rfl | h
      · exact List.not_mem_nil
      · exact ih h
    · rcases hpieces : cs.splitOn c with _ | ⟨first, more⟩
      · exact absurd hpieces (List.splitOn_ne_nil c cs)
      · rw [hpieces, List.modifyHead_cons] at h
        rcases List.mem_cons.1 h with rfl | h
        · have hfirst := ih (hpieces ▸ List.mem_cons_self ..)
          simp only [beq_iff_eq] at hd
          simp [hfirst, Ne.symm hd]
        · exact ih (hpieces ▸ List.mem_cons_of_mem _ h)

end LinePrompt.Text

namespace LinePrompt.Files

/-! ## Steps -/

/-- a step of a path: a text that is not empty, not a point, and holds no slash -/
structure IsStep (part : String) : Prop where
  nonempty : part ≠ ""
  no_point : part ≠ "."
  slash : '/' ∉ part.toList

theorem Path.steps_eq (text : String) :
    Path.steps text = ((text.toList.splitOn '/').map String.ofList).filter fun p => p != "" && p != "." :=
  congrArg (List.filter _) (Text.splitOn_char '/' text)

theorem isStep_of_mem_steps {text part : String} (h : part ∈ Path.steps text) : IsStep part := by
  rw [Path.steps_eq] at h
  obtain ⟨hmem, hfilter⟩ := List.mem_filter.1 h
  obtain ⟨piece, hpiece, rfl⟩ := List.mem_map.1 hmem
  simp only [Bool.and_eq_true, bne_iff_ne] at hfilter
  refine ⟨hfilter.1, hfilter.2, ?_⟩
  rw [String.toList_ofList]
  exact Text.not_mem_of_mem_splitOn hpiece

/-- what a path's text holds between its slashes, in front of the steps -/
def Origin.blanks : Origin → List (List Char)
  | .here => []
  | .root => [[]]
  | .doubleRoot => [[], []]

theorem Path.toList_text {p : Path} (hparts : p.parts ≠ []) :
    p.text.toList = ['/'].intercalate (p.origin.blanks ++ p.parts.map String.toList) := by
  obtain ⟨origin, parts⟩ := p
  obtain ⟨first, rest, rfl⟩ := List.exists_cons_of_ne_nil hparts
  have htext : (Path.mk origin (first :: rest)).text = originText origin ++ "/".intercalate (first :: rest) := by
    simp [text]
  rw [htext, String.toList_append, String.toList_intercalate]
  cases origin <;> simp [originText, Origin.blanks]

/-- a text that starts with a step starts with another character than a slash -/
theorem takeWhile_intercalate {first : String} (h : IsStep first) (rest : List (List Char)) :
    (['/'].intercalate (first.toList :: rest)).takeWhile (· = '/') = [] := by
  rcases hfirst : first.toList with _ | ⟨c, cs⟩
  · exact absurd (String.toList_injective hfirst) h.nonempty
  · have hc : c ≠ '/' := by
      rintro rfl
      exact h.slash (hfirst ▸ List.mem_cons_self ..)
    cases rest <;> simp [hc]

/-- A path is read back from its text. -/
theorem Path.ofText_text {p : Path} (hparts : p.parts ≠ []) (hsteps : ∀ part ∈ p.parts, IsStep part) :
    Path.ofText p.text = p := by
  have htext := p.toList_text hparts
  have hsplit : p.text.toList.splitOn '/' = p.origin.blanks ++ p.parts.map String.toList := by
    rw [htext]
    apply List.splitOn_intercalate
    · intro piece hpiece
      rcases List.mem_append.1 hpiece with hblank | hpart
      · cases horigin : p.origin <;> simp_all [Origin.blanks]
      · obtain ⟨part, hmem, rfl⟩ := List.mem_map.1 hpart
        exact (hsteps part hmem).slash
    · simp [hparts]
  have hread : Path.steps p.text = p.parts := by
    rw [Path.steps_eq, hsplit]
    have hblanks : (p.origin.blanks.map String.ofList).filter (fun q => q != "" && q != ".") = [] := by
      cases p.origin <;> rfl
    have hkept : p.parts.filter (fun q => q != "" && q != ".") = p.parts := by
      rw [List.filter_eq_self]
      intro part hmem
      simp [(hsteps part hmem).nonempty, (hsteps part hmem).no_point]
    rw [List.map_append, List.filter_append, hblanks, List.nil_append]
    simpa using hkept
  have hslashes : (p.text.toList.takeWhile (· = '/')).length = p.origin.blanks.length := by
    obtain ⟨origin, parts⟩ := p
    obtain ⟨first, rest, rfl⟩ := List.exists_cons_of_ne_nil hparts
    have hfirst := takeWhile_intercalate (hsteps first List.mem_cons_self) (rest.map String.toList)
    rw [htext]
    cases origin <;> simpa [Origin.blanks] using hfirst
  unfold ofText
  simp only [hslashes, hread]
  obtain ⟨origin, parts⟩ := p
  cases origin <;> rfl

/-! ## Names -/

/-- a step that is not one up -/
structure IsName (name : String) : Prop extends IsStep name where
  not_up : name ≠ up

/-- steps that are taken without a look lead to names -/
theorem isName_collapse {l : Location} {parts : List String} (hl : ∀ name ∈ l, IsName name)
    (hparts : ∀ part ∈ parts, IsStep part) : ∀ name ∈ Path.collapse l parts, IsName name := by
  induction parts generalizing l with
  | nil => exact hl
  | cons part rest ih =>
    rw [Location.collapse_cons]
    refine ih ?_ fun part hpart => hparts part (List.mem_cons_of_mem _ hpart)
    unfold Location.after
    split_ifs with hup
    · exact fun name hname => hl name (List.mem_of_mem_tail hname)
    · exact List.forall_mem_cons.2 ⟨⟨hparts part List.mem_cons_self, hup⟩, hl⟩

theorem collapse_names (l : Location) {names : List String} (h : ∀ name ∈ names, IsName name) :
    Path.collapse l names = names.reverse ++ l := by
  induction names generalizing l with
  | nil => rfl
  | cons name rest ih =>
    have hup : name ≠ up := (h name List.mem_cons_self).not_up
    rw [Location.collapse_cons, Location.after, if_neg hup, ih _ fun n hn => h n (List.mem_cons_of_mem _ hn)]
    simp

/-- a path in full: from the root, by names -/
structure Path.InFull (p : Path) : Prop where
  rooted : p.origin ≠ .here
  names : ∀ part ∈ p.parts, IsName part

theorem inFull_absolute {p : Path} {cwd : Location} (hcwd : ∀ name ∈ cwd, IsName name)
    (hp : ∀ part ∈ p.parts, IsStep part) : (p.absolute cwd).InFull := by
  have hnames : ∀ l : Location, (∀ name ∈ l, IsName name) → ∀ part ∈ (Path.collapse l p.parts).reverse, IsName part :=
    fun l hl part hpart => isName_collapse hl hp part (List.mem_reverse.1 hpart)
  unfold Path.absolute
  rcases p.origin with _ | _ | _
  · exact ⟨by simp [Path.ofLocation], hnames cwd hcwd⟩
  · exact ⟨by simp, hnames [] (List.forall_mem_nil _)⟩
  · exact ⟨by simp, hnames [] (List.forall_mem_nil _)⟩

/-- a path in full, by its directory's names and its own -/
structure Path.Beside (p : Path) (above : List String) (name : String) : Prop extends p.InFull where
  parts : p.parts = above ++ [name]

namespace Surroundings

open Location

variable {s s' : Surroundings} {p q : Path} {l : Location} {n : Nat} {above : List String} {name other : String}

theorem start_inFull (h : p.InFull) : s.start p = [] := if_neg h.rooted

/-- where a path in full leads -/
theorem goal_inFull (h : p.InFull) : s.goal p = p.parts.reverse := by
  unfold goal
  rw [start_inFull h, collapse_names [] h.names, List.append_nil]

theorem goal_beside (h : p.Beside above name) : s.goal p = name :: above.reverse := by
  rw [goal_inFull h.toInFull, h.parts, List.reverse_append]
  rfl

theorem goal_ne_root (h : p.Beside above name) : s.goal p ≠ [] := by
  rw [goal_beside h]
  exact List.cons_ne_nil _ _

/-- a file's path in full has a name -/
theorem beside_of_find (h : p.InFull) (hfound : s.find p = .ok (l, .file n)) : ∃ above name, p.Beside above name := by
  rcases List.eq_nil_or_concat p.parts with hnil | ⟨above, name, hparts⟩
  · have hroot : l = [] := by
      rw [(locate_eq_ok.1 (find_eq_ok.1 hfound).1).2.2, goal_inFull h, hnil]
      rfl
    have hdirectory := (find_eq_ok.1 hfound).2
    rw [hroot] at hdirectory
    cases hdirectory
  · exact ⟨above, name, h, by rw [hparts, List.concat_eq_append]⟩

theorem passed_beside (h : p.Beside above name) : passed (s.start p) p.parts = Location.way [] above := by
  rw [start_inFull h.toInFull, h.parts, passed_concat]

/-- beside a path that can be followed every usable one can -/
theorem locate_beside (h : p.Beside above name) (hl : s.locate p = .ok l) (hq : q.Beside above other) :
    s.locate q = .ok (other :: above.reverse) ↔ ¬ q.Unusable := by
  obtain ⟨-, hpassed, -⟩ := locate_eq_ok.1 hl
  rw [passed_beside h] at hpassed
  rw [locate_eq_ok, passed_beside hq, goal_beside hq]
  exact ⟨fun hq => hq.1, fun husable => ⟨husable, hpassed, rfl⟩⟩

/-! ### The directory that is worked in -/

/-- the path from the root to the directory that is worked in goes by names -/
def Named (s : Surroundings) : Prop := ∀ name ∈ s.cwd, IsName name

theorem Named.isName_goal (hs : s.Named) (text : String) : ∀ name ∈ s.goal (.ofText text), IsName name := by
  refine isName_collapse ?_ fun part hpart => isStep_of_mem_steps hpart
  unfold start
  split_ifs
  · exact hs
  · exact List.forall_mem_nil _

theorem Named.enter {text : String} (hs : s.Named) (h : s.enter (.ofText text) = .ok s') : s'.Named := by
  obtain ⟨l, hfound, rfl⟩ := enter_ok h
  have hgoal : l = s.goal (.ofText text) := (locate_eq_ok.1 (find_eq_ok.1 hfound).1).2.2
  show ∀ name ∈ l, IsName name
  rw [hgoal]
  exact hs.isName_goal text

theorem Named.remove (hs : s.Named) (h : s.remove p = .ok s') : s'.Named := by
  obtain ⟨l, n, -, rfl⟩ := remove_ok h
  exact hs

/-- a directory that is worked in can move along with its name, or with the name of one above it -/
theorem Named.rename {text : String} (hs : s.Named) (h : s.rename p (.ofText text) = .ok s') : s'.Named := by
  obtain ⟨l, m, e, -, hlocated, rfl⟩ := rename_ok h
  obtain rfl : m = s.goal (.ofText text) := (locate_eq_ok.1 hlocated).2.2
  intro name hname
  simp only [Tree.moved] at hname
  split_ifs at hname
  · rcases List.mem_append.1 hname with hname | hname
    · exact hs name (List.mem_of_mem_take hname)
    · exact hs.isName_goal text name hname
  · exact hs name hname

end Surroundings

end LinePrompt.Files

/-! ## The file of a log -/

namespace LinePrompt.Settings

open LinePrompt.Files

variable {s : Surroundings} {c : Option Settings} {file : Option String} {p : Path}

theorem isStep_expanded {text : String} (h : expanded s (.ofText text) = .ok p) : ∀ part ∈ p.parts, IsStep part := by
  have hstep : ∀ part ∈ (Path.ofText text).parts, IsStep part := fun part hpart => isStep_of_mem_steps hpart
  have hexpand := expanded_ok h
  unfold Surroundings.expandHome? at hexpand
  split at hexpand
  · rename_i first rest _ hparts
    split_ifs at hexpand
    · obtain ⟨home, -, rfl⟩ := Option.map_eq_some_iff.1 hexpand
      intro part hpart
      rcases List.mem_append.1 hpart with hhome | hrest
      · exact isStep_of_mem_steps hhome
      · exact hstep part (hparts ▸ List.mem_cons_of_mem _ hrest)
    · exact Option.some.inj hexpand ▸ hstep
  · exact Option.some.inj hexpand ▸ hstep

theorem isStep_logPath (h : logPath s c file = .ok p) : ∀ part ∈ p.parts, IsStep part := by
  obtain ⟨path, hpath, hexpanded⟩ := exists_of_bind_ok h
  obtain ⟨text, -, rfl⟩ := pathOf_ok hpath
  exact isStep_expanded hexpanded

theorem inFull_logPath (hcwd : s.Named) (h : logPath s c file = .ok p) :
    (p.absolute s.cwd).InFull :=
  inFull_absolute hcwd (isStep_logPath h)

end LinePrompt.Settings

namespace LinePrompt.Log

open LinePrompt.Files

variable {p : Path} {above : List String} {name : String}

theorem intercalate_append_last (s : String) (front : List String) (last more : String) :
    s.intercalate (front ++ [last ++ more]) = s.intercalate (front ++ [last]) ++ more := by
  induction front with
  | nil => simp [String.intercalate_singleton]
  | cons first rest ih =>
    obtain ⟨second, rest', hrest⟩ : ∃ second rest', rest ++ [last] = second :: rest' :=
      List.exists_cons_of_ne_nil (by simp)
    obtain ⟨second', rest'', hrest'⟩ : ∃ second rest', rest ++ [last ++ more] = second :: rest' :=
      List.exists_cons_of_ne_nil (by simp)
    rw [hrest, hrest'] at ih
    rw [List.cons_append, List.cons_append, hrest, hrest', String.intercalate_cons_cons,
      String.intercalate_cons_cons, ih]
    simp only [String.append_assoc]

theorem backup_name_ne (name : String) (n : Nat) : name ++ "." ++ toString n ≠ name := by
  intro hsame
  have hlength := congrArg String.length hsame
  simp only [String.length_append] at hlength
  have hpoint : ".".length = 1 := rfl
  omega

/-- a backup's name is a name -/
theorem isName_backup (h : IsName name) (n : Nat) : IsName (name ++ "." ++ toString n) := by
  have hchars : (name ++ "." ++ toString n).toList = name.toList ++ '.' :: Nat.toDigits 10 n := by
    simp
  have hname : 0 < name.toList.length := by
    rw [String.length_toList, Nat.pos_iff_ne_zero]
    exact fun hlength => h.nonempty (String.length_eq_zero_iff.1 hlength)
  have hlength : 2 < (name ++ "." ++ toString n).toList.length := by
    have hdigits := Nat.length_toDigits_pos (b := 10) (n := n)
    rw [hchars, List.length_append, List.length_cons]
    omega
  have hshort : ∀ text : String, text.toList.length ≤ 2 → name ++ "." ++ toString n ≠ text := by
    rintro text htext rfl
    omega
  refine ⟨⟨hshort "" (by decide), hshort "." (by decide), ?_⟩, hshort up (by decide)⟩
  rw [hchars, List.mem_append, List.mem_cons, not_or, not_or]
  refine ⟨h.slash, by decide, fun hdigit => ?_⟩
  exact absurd (Nat.isDigit_of_mem_toDigits (by decide) (by decide) hdigit) (by decide)

/-- The backups of a file stand beside it. -/
theorem beside_backup (h : p.Beside above name) (n : Nat) :
    (backup p n).Beside above (name ++ "." ++ toString n) := by
  have hnames : ∀ part ∈ above ++ [name ++ "." ++ toString n], IsName part := by
    intro part hpart
    rcases List.mem_append.1 hpart with hpart | hpart
    · exact h.names part (h.parts ▸ List.mem_append_left _ hpart)
    · rw [List.mem_singleton.1 hpart]
      exact isName_backup (h.names name (h.parts ▸ List.mem_append_right _ (List.mem_singleton.2 rfl))) n
  have htext : p.text ++ "." ++ toString n = (⟨p.origin, above ++ [name ++ "." ++ toString n]⟩ : Path).text := by
    have hlast : "/".intercalate (above ++ [name ++ "." ++ toString n]) =
        "/".intercalate (above ++ [name]) ++ ("." ++ toString n) := by
      rw [← intercalate_append_last, String.append_assoc]
    unfold Path.text
    rw [if_neg fun hhere => h.rooted hhere.1, if_neg fun hhere => h.rooted hhere.1, h.parts, hlast]
    simp only [String.append_assoc]
  have hbackup : backup p n = ⟨p.origin, above ++ [name ++ "." ++ toString n]⟩ := by
    unfold backup
    rw [htext]
    exact Path.ofText_text (by simp) fun part hpart => (hnames part hpart).toIsStep
  rw [hbackup]
  exact ⟨⟨h.rooted, hnames⟩, rfl⟩

end LinePrompt.Log
