/-
Files whose value is no mapping.

Settings are loaded from one file, if there is one (`LoadsFrom`), and by nothing but the value it holds (`read_holds`).
A value that is no mapping is refused, and the message names its type; but before anything asks for a mapping, a value
that counts as nothing is taken for an empty one. So a file that holds nothing but `false`, a zero, or an empty text,
list or set (`Hollow`) gives the standard settings, and no other value that is no mapping does: `load_unmapped`.
-/
import LinePrompt.Proofs.Settings.SaveBack

namespace LinePrompt.Settings

open LinePrompt.Files LinePrompt.CommandLine LinePrompt.Yaml Surroundings

variable {s : Surroundings} {request : Option String} {p : Path} {v : Value} {c : Settings}

/-! ## The file -/

/-- the file that settings are loaded from -/
inductive LoadsFrom (s : Surroundings) (request : Option String) : Path → Prop where
  | asked {raw : String} (asked : nonempty? request = some raw) (there : s.isThere (.ofText raw) = .ok true) :
    LoadsFrom s request (.ofText raw)
  | working (unasked : nonempty? request = none) {home : Path} (lives : s.expandHome? (.ofText "~") = some home)
    (there : s.isThere (hereFile s) = .ok true) : LoadsFrom s request (hereFile s)
  | home (unasked : nonempty? request = none) {home : Path} (lives : s.expandHome? (.ofText "~") = some home)
    (free : s.isThere (hereFile s) = .ok false) (there : s.isThere (homeFile home) = .ok true) :
    LoadsFrom s request (homeFile home)

theorem load_from (h : LoadsFrom s request p) : load s request = read s p := by
  cases h with
  | asked asked there => simp only [load, asked, firstThere?, there, bind, Except.bind]
  | working unasked lives there => simp only [load_unasked unasked lives, firstThere?, there, Except.bind]
  | home unasked lives free there => simp only [load_unasked unasked lives, firstThere?, free, there, Except.bind]

/-- settings that were loaded come from a file, or there was none -/
theorem loadsFrom_of_load (h : load s request = .ok c) :
    c = standard ∨ ∃ p, LoadsFrom s request p ∧ read s p = .ok c := by
  cases found_of_load h with
  | asked asked reads => exact Or.inr ⟨_, .asked asked (isThere_of_reads reads), reads⟩
  | working unasked lives reads => exact Or.inr ⟨_, .working unasked lives (isThere_of_reads reads), reads⟩
  | home unasked lives free reads => exact Or.inr ⟨_, .home unasked lives free (isThere_of_reads reads), reads⟩
  | standard _ _ _ _ unset => exact Or.inl unset

/-- the settings are those of the value that the file holds -/
theorem read_holds (h : Holds s (some p) v) : read s p = ofDocument p.text v := by
  cases h with
  | file hread decoded parsed => simp only [read, hread, ofBytes, decoded, parsed]

/-! ## Values that are no mappings -/

/-- a value that counts as nothing, though it is one -/
inductive Hollow (v : Value) : Prop where
  | no (root : v.root = .scalar (.bool false))
  | zero (root : v.root = .scalar (.int 0))
  | zeroFraction {x : Decimal.Binary} (root : v.root = .scalar (.float x)) (zero : x.isZero = true)
  | text (root : v.root = .scalar (.text ""))
  | bytes (root : v.root = .scalar (.bytes []))
  | sequence {n : Nat} (root : v.root = .cell n) (empty : v.cell? n = some (.sequence []))
  | pairs {n : Nat} (root : v.root = .cell n) (empty : v.cell? n = some (.pairs []))
  | set {n : Nat} (root : v.root = .cell n) (empty : v.cell? n = some (.set []))

theorem Hollow.isBlank (h : Hollow v) : v.isBlank = true := by
  cases h with
  | no root => simp [Value.isBlank, root]
  | zero root => simp [Value.isBlank, root]
  | zeroFraction root zero => simp [Value.isBlank, root, zero]
  | text root => simp [Value.isBlank, root]
  | bytes root => simp [Value.isBlank, root]
  | sequence root empty => simp [Value.isBlank, root, empty]
  | pairs root empty => simp [Value.isBlank, root, empty]
  | set root empty => simp [Value.isBlank, root, empty]

/-- besides null and the empty mapping, these are all the values that count as nothing -/
theorem hollow_of_isBlank (hnull : v.root ≠ .scalar .null) (hmap : v.entries? = none) (h : v.isBlank = true) :
    Hollow v := by
  unfold Value.isBlank at h
  split at h
  · rename_i root
    exact absurd root hnull
  · rename_i b root
    exact .no (by simpa [root] using h)
  · rename_i n root
    exact .zero (by simpa [root] using h)
  · rename_i x root
    exact .zeroFraction root h
  · rename_i text root
    exact .text (by simpa [root] using h)
  · rename_i bytes root
    exact .bytes (by simpa [root] using h)
  · rename_i n root
    split at h
    · rename_i items hcell
      exact .sequence root (by simpa [hcell] using h)
    · rename_i items hcell
      exact .pairs root (by simpa [hcell] using h)
    · rename_i entries hcell
      simp [Value.entries?, root, hcell] at hmap
    · rename_i items hcell
      exact .set root (by simpa [hcell] using h)
    · cases h

/-- a value that is no mapping has no entries -/
theorem get?_unmapped (hmap : v.entries? = none) (key : String) : v.get? key = none := by
  simp only [Value.get?, hmap]

theorem ofDocument_blank (hmap : v.entries? = none) (h : v.isBlank = true) (path : String) :
    ofDocument path v = .ok { standard with source := some path } := by
  simp only [ofDocument, h, switchEntry, textEntry, get?_unmapped hmap]
  rfl

theorem ofDocument_unmapped (hmap : v.entries? = none) (h : ¬ v.isBlank = true) (path : String) :
    ofDocument path v = .error (.noMapping path v.typeName) := by
  simp [ofDocument, h, hmap]
  rfl

/-- **Files without a mapping.** Of the values that are neither null nor mappings, the hollow ones give the standard
settings; all the others are refused, by a message that names the type. -/
theorem load_unmapped (hfrom : LoadsFrom s request p) (hholds : Holds s (some p) v) (hnull : v.root ≠ .scalar .null)
    (hmap : v.entries? = none) :
    (Hollow v ↔ load s request = .ok { standard with source := some p.text }) ∧
      (¬ Hollow v ↔ ∃ t, load s request = .error t ∧ t.isOwn = true ∧
        t.message = p.text ++ " must contain a mapping, got " ++ v.typeName) := by
  have hload : load s request = ofDocument p.text v := (load_from hfrom).trans (read_holds hholds)
  rw [hload]
  by_cases hblank : v.isBlank = true
  · have hhollow := hollow_of_isBlank hnull hmap hblank
    rw [ofDocument_blank hmap hblank]
    exact ⟨iff_of_true hhollow rfl, iff_of_false (not_not_intro hhollow) (fun ⟨_, h, _⟩ => nomatch h)⟩
  · have hhollow : ¬ Hollow v := fun h => hblank h.isBlank
    rw [ofDocument_unmapped hmap hblank]
    exact ⟨iff_of_false hhollow (fun h => nomatch h), iff_of_true hhollow ⟨_, rfl, rfl, rfl⟩⟩

/-! ### A file to load from -/

/-- the root directory with a file of settings in it -/
def holding (text : String) : Surroundings :=
  { Surroundings.bare with
    tree := .oneFile "textprompt.yaml" text.toUTF8
    environment := [("HOME", "h")] }

theorem read_holding (text : String) : (holding text).read ⟨.root, ["textprompt.yaml"]⟩ = .ok text.toUTF8 :=
  read_eq_ok_iff.2 ⟨["textprompt.yaml"], rfl, rfl⟩

theorem loadsFrom_holding (text : String) : LoadsFrom (holding text) none ⟨.root, ["textprompt.yaml"]⟩ := by
  have lives : (holding text).expandHome? (.ofText "~") = some ⟨.here, ["h"]⟩ := by cbv
  exact .working rfl lives (isThere_of_read (read_holding text))

theorem holds_holding {text : String} (parsed : Value.parse text.toList = .ok v) :
    Holds (holding text) (some ⟨.root, ["textprompt.yaml"]⟩) v :=
  .file (read_holding text) (dif_pos (String.isValidUTF8 _)) parsed

theorem load_holding {text : String} (parsed : Value.parse text.toList = .ok v) :
    load (holding text) none = ofDocument "/textprompt.yaml" v :=
  (load_from (loadsFrom_holding text)).trans (read_holds (holds_holding parsed))

theorem load_unmapped_number :
    LoadsFrom (holding "7\n") none ⟨.root, ["textprompt.yaml"]⟩ ∧
      Holds (holding "7\n") (some ⟨.root, ["textprompt.yaml"]⟩) ⟨[], .scalar (.int 7)⟩ ∧
      ∃ t, load (holding "7\n") none = .error t ∧
        t.message = "/textprompt.yaml must contain a mapping, got int" := by
  have hfrom := loadsFrom_holding "7\n"
  have hparse : Value.parse "7\n".toList = .ok ⟨[], .scalar (.int 7)⟩ := by decide +kernel
  have hholds := holds_holding hparse
  obtain ⟨-, hrefused⟩ := load_unmapped hfrom hholds (by decide) rfl
  have hsolid : ¬ Hollow ⟨[], .scalar (.int 7)⟩ := fun h => nomatch h.isBlank
  obtain ⟨t, ht, -, hmessage⟩ := hrefused.1 hsolid
  exact ⟨hfrom, hholds, t, ht, hmessage⟩

/-- Not every file without a mapping is refused: an empty list counts as nothing. -/
theorem load_unmapped_empty :
    ¬ ∀ (s : Surroundings) (request : Option String) (p : Path) (v : Value), LoadsFrom s request p →
      Holds s (some p) v → v.root ≠ .scalar .null → v.entries? = none → ∃ t, load s request = .error t := by
  intro hall
  have hparse : Value.parse "[]\n".toList = .ok ⟨[(0, .sequence []), (0, .sequence [])], .cell 0⟩ := by
    decide +kernel
  have hholds := holds_holding hparse
  have hload : load (holding "[]\n") none = .ok { standard with source := some "/textprompt.yaml" } := by
    rw [load_holding hparse, ofDocument_blank rfl rfl]
  obtain ⟨t, ht⟩ := hall _ none _ _ (loadsFrom_holding _) hholds (by decide) rfl
  cases hload.symm.trans ht

end LinePrompt.Settings
