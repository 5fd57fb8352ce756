/-
The words in front of a command.

Unless they ask for something to be printed, what they say is checked, one thing after another: the words are read if no
check finds anything wrong, and else refused by what one of them finds (`readGlobals_checks`).
-/
import LinePrompt.CommandLine.Task
import LinePrompt.Proofs.Files.Numbers

namespace LinePrompt.CommandLine

open LinePrompt.Files

variable {s : Surroundings} {words rest : List String} {text : String} {p : Parsed} {g : Globals} {l : Location}
  {n : Nat}

/-! ## Paths among the words -/

theorem stands_file (htext : text ≠ "") (hname : namesDirectory text = false)
    (hfound : s.find (.ofText text) = .ok (l, .file n)) : stands s text = .ok true := by
  unfold stands
  rw [if_neg htext, hfound]
  simp only [hname, Bool.not_false]

theorem stands_missing (htext : text ≠ "") (hmissing : s.find (.ofText text) = .error .missing) :
    stands s text = .ok false := by
  unfold stands
  rw [if_neg htext, hmissing]

/-! ## Requests -/

/-- words that ask for nothing to be printed -/
theorem firstRequest_ok (hasked : ∀ given ∈ p.given, given.1 ≠ .help ∧ given.1 ≠ .version) (command : Command) :
    firstRequest p command = .ok () := by
  have hnone : p.given.find? (fun g => g.1 == .help || g.1 == .version) = none := by
    rw [List.find?_eq_none]
    intro given hgiven
    simpa using hasked given hgiven
  simp only [firstRequest, hnone]

/-! ## Checks -/

/-- checks one after another -/
def checkAll (p : Parsed) (s : Surroundings) (checks : List Parameter) : Except Refusal PUnit :=
  forIn checks PUnit.unit fun o _ => do
    checkGlobal o p s
    pure (ForInStep.yield PUnit.unit)

/-- they find nothing wrong if none of them does, and else what one of them finds -/
theorem checkAll_cases (p : Parsed) (s : Surroundings) (checks : List Parameter) :
    (checkAll p s checks = .ok () ∧ ∀ o ∈ checks, checkGlobal o p s = .ok ()) ∨
      ∃ o ∈ checks, ∃ r, checkGlobal o p s = .error r ∧ checkAll p s checks = .error r := by
  induction checks with
  | nil => exact Or.inl ⟨rfl, fun o ho => nomatch ho⟩
  | cons o checks ih =>
    unfold checkAll at ih ⊢
    rw [List.forIn_cons]
    rcases hcheck : checkGlobal o p s with r | ⟨⟩
    · exact Or.inr ⟨o, List.mem_cons_self, r, hcheck, by simp [bind, Except.bind]⟩
    · simp only [bind, Except.bind, pure, Except.pure] at ih ⊢
      rcases ih with ⟨hok, hall⟩ | ⟨o', ho', r, hr, herror⟩
      · exact Or.inl ⟨hok, List.forall_mem_cons.2 ⟨hcheck, hall⟩⟩
      · exact Or.inr ⟨o', List.mem_cons_of_mem _ ho', r, hr, herror⟩

/-- words that make sense, and ask for nothing to be printed, are read if what they say passes its checks -/
theorem readGlobals_checks (hsaid : words ≠ []) (hwords : Command.main.grammar.readWords words = .ok p)
    (hfirst : firstRequest p .main = .ok ()) :
    (readGlobals s words = .ok (⟨(valueOr p .logLevel s "TEXTPROMPT_LOG_LEVEL").bind level?,
        valueOr p .logFile s "TEXTPROMPT_LOG_FILE"⟩, p.operands) ∧
      checkGlobal .logLevel p s = .ok () ∧ checkGlobal .logFile p s = .ok ()) ∨
      ∃ o r, checkGlobal o p s = .error r ∧ readGlobals s words = .error r := by
  have hread : readGlobals s words =
      (checkAll p s (p.given.map Prod.fst ++ [Parameter.logLevel, Parameter.logFile]).eraseDups).bind fun _ =>
        .ok (⟨(valueOr p .logLevel s "TEXTPROMPT_LOG_LEVEL").bind level?,
          valueOr p .logFile s "TEXTPROMPT_LOG_FILE"⟩, p.operands) := by
    unfold readGlobals
    rw [if_neg hsaid, hwords]
    dsimp only
    rw [hfirst]
    rfl
  rcases checkAll_cases p s (p.given.map Prod.fst ++ [Parameter.logLevel, Parameter.logFile]).eraseDups with
    ⟨hok, hall⟩ | ⟨o, -, r, hr, herror⟩
  · left
    rw [hread, hok]
    exact ⟨rfl, hall .logLevel (by simp), hall .logFile (by simp)⟩
  · right
    rw [hread, herror]
    exact ⟨o, r, hr, rfl⟩

/-- there are two checks that can find something wrong -/
theorem readGlobals_of_checks (hsaid : words ≠ []) (hwords : Command.main.grammar.readWords words = .ok p)
    (hfirst : firstRequest p .main = .ok ()) (hlevel : checkGlobal .logLevel p s = .ok ())
    (hfile : checkGlobal .logFile p s = .ok ()) :
    readGlobals s words = .ok (⟨(valueOr p .logLevel s "TEXTPROMPT_LOG_LEVEL").bind level?,
      valueOr p .logFile s "TEXTPROMPT_LOG_FILE"⟩, p.operands) := by
  rcases readGlobals_checks (s := s) hsaid hwords hfirst with ⟨hread, -⟩ | ⟨o, r, hr, -⟩
  · exact hread
  · cases o with
    | logLevel => cases hlevel.symm.trans hr
    | logFile => cases hfile.symm.trans hr
    | _ => cases hr

/-- what is said in front of the command, once it makes sense -/
theorem readGlobals_ok (h : readGlobals s words = .ok (g, rest)) :
    ∃ p, Command.main.grammar.readWords words = .ok p ∧ p.operands = rest ∧ firstRequest p .main = .ok () ∧
      checkGlobal .logLevel p s = .ok () ∧ checkGlobal .logFile p s = .ok () ∧
      g = ⟨(valueOr p .logLevel s "TEXTPROMPT_LOG_LEVEL").bind level?,
        valueOr p .logFile s "TEXTPROMPT_LOG_FILE"⟩ := by
  have hread := h
  unfold readGlobals at h
  split_ifs at h with hsaid
  rcases hwords : Command.main.grammar.readWords words with f | p
  · simp [hwords] at h
  · simp only [hwords] at h
    obtain ⟨⟨⟩, hfirst, -⟩ := exists_of_bind_ok h
    rcases readGlobals_checks (s := s) hsaid hwords hfirst with ⟨hok, hlevel, hfile⟩ | ⟨o, r, -, herror⟩
    · obtain ⟨hg, hrest⟩ := Prod.mk.inj (Except.ok.inj (hread.symm.trans hok))
      exact ⟨p, rfl, hrest.symm, hfirst, hlevel, hfile, hg⟩
    · cases hread.symm.trans herror

/-- a file with settings that is there is the one to use -/
theorem checkConfig_of_stands {command : Command} {raw : String} (hvalue : p.value? .config = some raw)
    (hthere : stands s raw = .ok true) : checkConfig command p s = .ok (some raw) := by
  simp only [checkConfig, hvalue, hthere, bind, Except.bind]
  rfl

end LinePrompt.CommandLine
