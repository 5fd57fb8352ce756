/-
Labels as they are typed.

A file of one line sets the label of cancel controls to a plain scalar. The scalar is resolved to a type, and the label
is what is shown of its value (`load_line`). So the label is the text that was typed only for texts without a type of
their own and for those that are written as their value is shown (`ShownAsTyped`): `load_typed`.
-/
import LinePrompt.Proofs.Settings.Documents
import LinePrompt.Proofs.Yaml.Dates
import LinePrompt.Proofs.Yaml.OneLine
import LinePrompt.Screen.Dialog

namespace LinePrompt.Settings

open LinePrompt.Files LinePrompt.Yaml LinePrompt.Prompt LinePrompt.Decimal
open LinePrompt.Screen (controlLabel)

variable {s : Surroundings} {request : Option String} {p : Path} {text ending : String} {c : Settings}

/-! ## A file of one line -/

/-- the line that sets the label of cancel controls, and what ends it -/
def labelLine (text ending : String) : String := "default_cancel_label: " ++ text ++ ending

/-- the tokens of the line, the text one plain scalar among them -/
def lineTokens (text : String) : List Token :=
  [.blockMappingStart, .key, .scalar "default_cancel_label" .plain, .value, .scalar text .plain, .blockEnd]

/-- the text is taken for one plain scalar, all of it -/
def TakenBare (text ending : String) : Prop :=
  Token.scan (unifyBreaks (labelLine text ending).toList) = .ok (lineTokens text)

instance (text ending : String) : Decidable (TakenBare text ending) :=
  inferInstanceAs (Decidable (_ = _))

theorem toList_labelLine (text ending : String) : (labelLine text ending).toList =
    "default_cancel_label".toList ++ ':' :: ' ' :: (text.toList ++ ending.toList) := by
  have hkey : "default_cancel_label: ".toList = "default_cancel_label".toList ++ [':', ' '] := by decide
  calc
    (labelLine text ending).toList = "default_cancel_label: ".toList ++ text.toList ++ ending.toList := by
      unfold labelLine
      rw [String.toList_append, String.toList_append]
    _ = "default_cancel_label".toList ++ [':', ' '] ++ text.toList ++ ending.toList :=
      congrArg (· ++ text.toList ++ ending.toList) hkey
    _ = "default_cancel_label".toList ++ ':' :: ' ' :: (text.toList ++ ending.toList) := by
      simp only [List.append_assoc, List.cons_append, List.nil_append]

/-- a plain line is taken for one plain scalar -/
theorem takenBare_of_plainLine (h : PlainLine text.toList) (hending : LineEnd ending.toList) :
    TakenBare text ending := by
  have hname : IsName "default_cancel_label".toList := by decide
  have hbreaks : unifyBreaks (labelLine text ending).toList = (labelLine text ending).toList := by
    refine unifyBreaks_eq fun c hc => ?_
    rw [toList_labelLine] at hc
    generalize "default_cancel_label".toList = key at hname hc
    simp only [List.mem_append, List.mem_cons] at hc
    rcases hc with hc | rfl | rfl | hc | hc
    · exact ne_of_name (hname.2 c hc) (by decide)
    · decide
    · decide
    · exact (h.allowed c hc).2
    · rintro rfl
      rcases hending with hnil | hfeed
      · simp [hnil] at hc
      · simp [hfeed] at hc
  have hscan := scan_line hname (by decide) h hending
  rw [← toList_labelLine, String.ofList_toList, String.ofList_toList] at hscan
  unfold TakenBare
  rw [hbreaks]
  exact hscan

/-- the nodes of the line: a mapping of one entry -/
def lineNodes (text : String) : List Node :=
  [.mapping .mapping [(1, 2)], .scalar .text "default_cancel_label", .scalar (resolve text) text]

theorem parse_line (h : TakenBare text ending) :
    Value.parse (labelLine text ending).toList = Value.ofGraph ⟨lineNodes text, 0⟩ := by
  have hevents : Event.ofTokens (lineTokens text) = .ok [.mappingStart .none,
      .scalar .none "default_cancel_label" .plain, .scalar .none text .plain, .mappingEnd] := rfl
  have hkey : resolve "default_cancel_label" = .text := by decide
  have hgraph : Graph.ofEvents [.mappingStart .none, .scalar .none "default_cancel_label" .plain,
      .scalar .none text .plain, .mappingEnd] = .ok (some ⟨lineNodes text, 0⟩) := by
    rw [lineNodes, ← hkey]
    rfl
  have hscan : Token.scan (unifyBreaks (labelLine text ending).toList) = .ok (lineTokens text) := h
  unfold Value.parse
  simp only [hscan, hevents, hgraph, bind, Except.bind]

/-- the value of a plain scalar -/
def bareValue (text : String) : Except Yaml.Fault Value :=
  match resolve text with
  | .null => .ok null
  | .bool => (readBool text).map fun v => ⟨[], .scalar v⟩
  | .int => (readWhole text).map fun v => ⟨[], .scalar v⟩
  | .float => (readFloating text).map fun v => ⟨[], .scalar v⟩
  | .timestamp => (readMoment text).map fun cell => ⟨[(2, cell)], .cell 2⟩
  | .text => .ok (.ofText text)
  | _ => .error .unreadable

theorem construct_bare {b : Builder} (hnew : b.built.lookup 2 = none)
    (hnode : b.nodes[2]? = some (.scalar (resolve text) text)) :
    b.construct 2 = (bareValue text).map fun v =>
      (v.root, { b with built := (2, v.root) :: b.built, cells := v.cells ++ b.cells }) := by
  have htext : Builder.scalarText b.nodes (b.nodes.length + 1) 2 = .ok text := by
    simp only [Builder.scalarText, hnode]
  have htag : tagOf b.nodes 2 = some (resolve text) := by simp only [tagOf, hnode]
  have hscalar : pairsOf? b.nodes 2 = none := by simp only [pairsOf?, hnode]
  unfold Builder.construct bareValue
  simp only [hnew, htext, htag, hscalar, Option.isSome_none, Bool.false_eq_true, if_false]
  have hgiven : ∀ {α : Type} (f : String → Except Yaml.Fault α), (Except.ok text).bind f = f text := fun _ => rfl
  rcases resolve_cases text with h | h | h | h | h | h | h | h | ⟨name, h⟩ <;> simp only [h, hgiven]
  · cases readBool text <;> rfl
  · cases readFloating text <;> rfl
  · cases readWhole text <;> rfl
  · rfl
  · cases readMoment text <;> rfl
  · rfl
  · rfl
  · rfl
  · rfl

/-- the value of the line: a mapping whose one entry has a given value -/
def lineValue (v : Value) : Value :=
  ⟨(0, .mapping [(.scalar (.text "default_cancel_label"), v.root)]) :: (v.cells ++ [(0, .mapping [])]), .cell 0⟩

theorem ofGraph_line (text : String) : Value.ofGraph ⟨lineNodes text, 0⟩ =
    (bareValue text).map lineValue := by
  have hroot : Builder.construct ⟨lineNodes text, [], [], []⟩ 0 =
      .ok (.cell 0, ⟨lineNodes text, [(0, .cell 0)], [(0, .mapping [])], [0]⟩) := rfl
  have hflat : flatten (mergeBound (lineNodes text)) (lineNodes text) 0 = .ok (lineNodes text) := rfl
  have hkey : Builder.construct ⟨lineNodes text, [(0, .cell 0)], [(0, .mapping [])], []⟩ 1 =
      .ok (.scalar (.text "default_cancel_label"), ⟨lineNodes text,
        [(1, .scalar (.text "default_cancel_label")), (0, .cell 0)], [(0, .mapping [])], []⟩) := rfl
  have hvalue := @construct_bare text
    ⟨lineNodes text, [(1, .scalar (.text "default_cancel_label")), (0, .cell 0)], [(0, .mapping [])], []⟩ rfl rfl
  have hpairs : pairsOf? (lineNodes text) 0 = some [(1, 2)] := rfl
  have htag : tagOf (lineNodes text) 0 = some .mapping := rfl
  unfold Value.ofGraph
  simp only [hroot, bind, Except.bind, Builder.fillAll, Builder.fill, htag, Builder.mappingEntries, hpairs, hflat,
    Option.getD_some, Builder.constructEntries, hkey, canBeKey, Bool.not_true, Bool.false_eq_true, if_false, hvalue]
  cases bareValue text <;> rfl

/-- what is shown of a plain scalar -/
def shown (text : String) : Except Yaml.Fault String := (bareValue text).bind Value.text

/-- what a plain scalar can stand for -/
inductive StandsFor (text : String) : Value → Prop where
  | null (type : resolve text = .null) : StandsFor text null
  | truth (b : Bool) : StandsFor text ⟨[], .scalar (.bool b)⟩
  | whole (n : Int) : StandsFor text ⟨[], .scalar (.int n)⟩
  | floating {x : Binary} (type : resolve text = .float) (sound : x.Sound) : StandsFor text ⟨[], .scalar (.float x)⟩
  | date {d : Date} (valid : d.Valid) : StandsFor text ⟨[(2, .date d)], .cell 2⟩
  | moment {m : Moment} (valid : m.Valid) : StandsFor text ⟨[(2, .moment m)], .cell 2⟩
  | text (type : resolve text = .text) : StandsFor text (.ofText text)

theorem standsFor_of_bareValue {v : Value} (h : bareValue text = .ok v) : StandsFor text v := by
  unfold bareValue at h
  rcases resolve_cases text with hr | hr | hr | hr | hr | hr | hr | hr | ⟨name, hr⟩ <;> simp only [hr] at h
  · obtain ⟨x, hx, rfl⟩ := exists_of_map_ok h
    obtain ⟨b, rfl⟩ := exists_of_readBool hx
    exact .truth b
  · obtain ⟨x, hx, rfl⟩ := exists_of_map_ok h
    obtain ⟨x, rfl, hsound⟩ := readFloating_sound hx
    exact .floating hr hsound
  · obtain ⟨x, hx, rfl⟩ := exists_of_map_ok h
    obtain ⟨n, rfl⟩ := exists_of_readWhole hx
    exact .whole n
  · cases h
    exact .null hr
  · obtain ⟨cell, hcell, rfl⟩ := exists_of_map_ok h
    rcases readMoment_valid hcell with ⟨d, rfl, hd⟩ | ⟨m, rfl, hm⟩
    · exact .date hd
    · exact .moment hm
  · cases h
    exact .text hr
  · cases h
  · cases h
  · cases h

/-- what is shown of the value does not depend on the cells of the line -/
theorem StandsFor.text_within {v : Value} (h : StandsFor text v) : ((lineValue v).within v.root).text = v.text := by
  cases h with
  | truth b => cases b <;> rfl
  | _ => rfl

theorem text_whole (n : Int) : Value.text ⟨[], .scalar (.int n)⟩ = intText n := rfl

/-- a value that cannot be shown is a number that is too long -/
theorem StandsFor.text_error {v : Value} {fault : Yaml.Fault} (h : StandsFor text v) (herror : v.text = .error fault) :
    fault = .longText := by
  cases h with
  | truth b => cases b <;> cases herror
  | whole n =>
    rw [text_whole, intText] at herror
    split_ifs at herror
    exact (Except.error.inj herror).symm
  | _ => cases herror

/-- the label is what is shown of the scalar -/
theorem ofDocument_line {v : Value} (h : bareValue text = .ok v) (path : String) :
    ofDocument path (lineValue v) =
      (ofValue v.text).map fun label => { standard with cancelLabel := label, source := some path } := by
  have hblank : (lineValue v).isBlank = false := rfl
  have hlabel : (lineValue v).get? "default_cancel_label" = some ((lineValue v).within v.root) := rfl
  have hescape : (lineValue v).get? "escape_dismisses" = none := rfl
  have hlevel : (lineValue v).get? "log_level" = none := rfl
  have hfile : (lineValue v).get? "log_file" = none := rfl
  have hentries : (lineValue v).entries?.isNone = false := rfl
  unfold ofDocument switchEntry textEntry
  simp only [hblank, hentries, hlabel, hescape, hlevel, hfile, (standsFor_of_bareValue h).text_within]
  cases v.text <;> rfl

/-- a fault of a file's text as trouble: what is no document is told by its path -/
def faultTrouble (path : String) : Yaml.Fault → Trouble
  | .unreadable => .unreadable path
  | fault => .value fault

/-- **The label of a one-line file** is what is shown of its plain scalar, and the other settings are the standard
ones. -/
theorem load_line (hfrom : LoadsFrom s request p) (hread : s.read p = .ok (labelLine text ending).toUTF8)
    (hbare : TakenBare text ending) :
    load s request = ((shown text).mapError (faultTrouble p.text)).map fun label =>
      { standard with cancelLabel := label, source := some p.text } := by
  have hdecode : String.fromUTF8? (labelLine text ending).toUTF8 = some (labelLine text ending) :=
    dif_pos (String.isValidUTF8 _)
  rw [load_from hfrom, read]
  simp only [hread, ofBytes, hdecode, parse_line hbare, ofGraph_line, shown]
  cases hvalue : bareValue text with
  | error fault => cases fault <;> rfl
  | ok v =>
    simp only [Except.map, Except.bind, ofDocument_line hvalue]
    cases htext : v.text with
    | error fault =>
      obtain rfl := (standsFor_of_bareValue hvalue).text_error htext
      rfl
    | ok label => rfl

/-! ## Shown as typed -/

/-- the plain scalars that are shown as they are typed: those without a type of their own, and those that are written as
their value is shown -/
inductive ShownAsTyped : String → Prop where
  | text {t : String} (plain : resolve t = .text) : ShownAsTyped t
  | truth (b : Bool) : ShownAsTyped (if b then "True" else "False")
  /-- without a sign of its own, leading zeros or low lines, to base ten -/
  | whole {n : Int} (short : n.natAbs < 10 ^ digitLimit) : ShownAsTyped (toString n)
  /-- the shortest decimal that stands for the number -/
  | fraction {x : Binary} (sound : x.Sound) (point : '.' ∈ x.text.toList) : ShownAsTyped x.text
  | date {d : Date} (valid : d.Valid) : ShownAsTyped d.text
  | moment {m : Moment} (valid : m.Valid) : ShownAsTyped m.text

theorem shown_of_bareValue {v : Value} (h : bareValue text = .ok v) : shown text = v.text := by
  rw [shown, h]
  rfl

theorem shown_typed (h : ShownAsTyped text) : shown text = .ok text := by
  cases h with
  | text plain =>
    refine shown_of_bareValue (v := .ofText text) ?_
    simp only [bareValue, plain]
  | truth b => cases b <;> decide
  | @whole n short =>
    have hvalue : bareValue (toString n) = .ok ⟨[], .scalar (.int n)⟩ := by
      simp only [bareValue, resolve_whole, readWhole_text short]
      rfl
    rw [shown_of_bareValue hvalue, text_whole, intText_eq_ok]
    exact ⟨short, rfl⟩
  | @fraction x sound point =>
    refine shown_of_bareValue (v := ⟨[], .scalar (.float x)⟩) ?_
    simp only [bareValue, resolve_floating sound point, readFloating_text sound point]
    rfl
  | @date d valid =>
    refine shown_of_bareValue (v := ⟨[(2, .date d)], .cell 2⟩) ?_
    simp only [bareValue, resolve_date valid, readMoment_date valid]
    rfl
  | @moment m valid =>
    refine shown_of_bareValue (v := ⟨[(2, .moment m)], .cell 2⟩) ?_
    simp only [bareValue, resolve_moment valid, readMoment_text valid]
    rfl

/-- A plain scalar that is shown as it is typed has one of these forms. -/
theorem typed_of_shown (h : shown text = .ok text) : ShownAsTyped text := by
  obtain ⟨v, hvalue, htext⟩ := exists_of_bind_ok h
  cases standsFor_of_bareValue hvalue with
  | null type =>
    -- what is shown of a null is a text without a type
    obtain rfl : "None" = text := Except.ok.inj htext
    exact absurd type (by decide)
  | truth b =>
    cases b with
    | false =>
      obtain rfl : "False" = text := Except.ok.inj htext
      exact .truth false
    | true =>
      obtain rfl : "True" = text := Except.ok.inj htext
      exact .truth true
  | whole n =>
    rw [text_whole] at htext
    obtain ⟨hshort, rfl⟩ := intText_eq_ok.1 htext
    exact .whole hshort
  | @floating x type sound =>
    obtain rfl : x.text = text := Except.ok.inj htext
    exact .fraction sound (point_mem_of_resolve type)
  | @date d valid =>
    obtain rfl : d.text = text := Except.ok.inj htext
    exact .date valid
  | @moment m valid =>
    obtain rfl : m.text = text := Except.ok.inj htext
    exact .moment valid
  | text type => exact .text type

theorem shown_iff : shown text = .ok text ↔ ShownAsTyped text := ⟨typed_of_shown, shown_typed⟩

/-- **Labels as they are typed.** A file of one line loads to settings with the label as it was typed, and the standard
ones besides, if the label is shown as it is typed; the settings that any other label loads to have another one. The
cancel button of a prompt without a label of its own has the label of the settings. -/
theorem load_typed (hfrom : LoadsFrom s request p) (hread : s.read p = .ok (labelLine text ending).toUTF8)
    (hbare : TakenBare text ending) :
    (ShownAsTyped text ↔ load s request = .ok { standard with cancelLabel := text, source := some p.text }) ∧
      ∀ c, load s request = .ok c → (ShownAsTyped text ↔ c.cancelLabel = text) ∧
        ∀ (sc : Scene) (r : Request), sc.cancelLabel = c.cancelLabel → nonempty? r.cancelLabel = none →
          (ShownAsTyped text ↔ controlLabel sc r .cancel = text) := by
  have hload := load_line hfrom hread hbare
  have hlabel : ∀ c, load s request = .ok c → (ShownAsTyped text ↔ c.cancelLabel = text) := by
    intro c hc
    rw [hload] at hc
    obtain ⟨label, hshown, rfl⟩ := exists_of_map_ok hc
    rw [← shown_iff]
    cases hshown' : shown text with
    | error fault =>
      rw [hshown'] at hshown
      cases hshown
    | ok shownLabel =>
      rw [hshown'] at hshown
      cases hshown
      exact ⟨Except.ok.inj, congrArg Except.ok⟩
  refine ⟨⟨fun htyped => ?_, fun h => (hlabel _ h).2 rfl⟩, fun c hc => ⟨hlabel c hc, fun sc r hsc hr => ?_⟩⟩
  · rw [hload, shown_typed htyped]
    rfl
  · have hbutton : controlLabel sc r .cancel = c.cancelLabel := by
      rw [← hsc]
      show r.resolvedCancelLabel sc.cancelLabel = sc.cancelLabel
      unfold Request.resolvedCancelLabel
      cases hlabel : r.cancelLabel with
      | none => rfl
      | some label =>
        have hempty : label = "" := by simpa [nonempty?, hlabel] using hr
        exact if_pos hempty
    rw [hbutton]
    exact hlabel c hc

/-- a second of a leap day, with a fraction and a zone -/
def leapMoment : Yaml.Moment := ⟨⟨2024, 2, 29⟩, 23, 59, 59, 1, some (-330)⟩

theorem load_typed_leapMoment :
    LoadsFrom (holding (labelLine leapMoment.text "\n")) none ⟨.root, ["textprompt.yaml"]⟩ ∧
      TakenBare leapMoment.text "\n" ∧ leapMoment.text = "2024-02-29 23:59:59.000001-05:30" ∧
      load (holding (labelLine leapMoment.text "\n")) none =
        .ok { standard with cancelLabel := leapMoment.text, source := some "/textprompt.yaml" } ∧
      ∀ (sc : Scene) (r : Request), sc.cancelLabel = leapMoment.text → nonempty? r.cancelLabel = none →
        controlLabel sc r .cancel = "2024-02-29 23:59:59.000001-05:30" := by
  have htext : leapMoment.text = "2024-02-29 23:59:59.000001-05:30" := by decide +kernel
  have htyped : ShownAsTyped leapMoment.text :=
    .moment ⟨⟨by decide, by decide, by decide⟩, by decide, by decide, by decide, by decide, by decide⟩
  have hplain : PlainLine leapMoment.text.toList := by
    rw [htext]
    decide
  have hbare : TakenBare leapMoment.text "\n" := takenBare_of_plainLine hplain (Or.inr rfl)
  have hfrom := loadsFrom_holding (labelLine leapMoment.text "\n")
  obtain ⟨hloads, hlabel⟩ := load_typed hfrom (read_holding _) hbare
  refine ⟨hfrom, hbare, htext, hloads.1 htyped, fun sc r hsc hr => ?_⟩
  rw [← htext]
  exact ((hlabel _ (hloads.1 htyped)).2 sc r hsc hr).1 htyped

/-- Not every label is loaded as it was typed: a truth word is shown as its value. -/
theorem load_retyped :
    ¬ ∀ (s : Surroundings) (request : Option String) (p : Path) (text ending : String), LoadsFrom s request p →
      s.read p = .ok (labelLine text ending).toUTF8 → TakenBare text ending →
        ∃ c, load s request = .ok c ∧ c.cancelLabel = text := by
  intro hall
  have hfrom := loadsFrom_holding (labelLine "No" "\n")
  have hplain : PlainLine "No".toList := by decide
  have hbare : TakenBare "No" "\n" := takenBare_of_plainLine hplain (Or.inr rfl)
  have hshown : shown "No" = .ok "False" := by decide +kernel
  obtain ⟨c, hc, hlabel⟩ := hall _ none _ _ _ hfrom (read_holding _) hbare
  rw [load_line hfrom (read_holding _) hbare, hshown] at hc
  cases hc
  exact absurd hlabel (by decide)

end LinePrompt.Settings
