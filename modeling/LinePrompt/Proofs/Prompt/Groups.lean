/-
Prompts that do not mention each other leave each other alone.

The prompts and the surfaces fall into two groups, and the scripts of each call only what is in their own group. Then a
run of calls on both goes for each group as if the calls on the other had not been made: each call gives the same, the
same is seen of it, and the group's prompts end as they do without the others (`groups_keep_apart`). How the calls on
the two groups are mixed makes no difference.

A call on one group is a call of a scene in step with itself; a call on the other group spares the first.
-/
import LinePrompt.Proofs.Prompt.Lockstep

namespace LinePrompt.Prompt

open LinePrompt.Log LinePrompt.Screen

variable {sc : Scene} {side place : String → Bool} {g : Bool} {a b a' : Stage} {depth : Nat}

/-- the prompts and the surfaces of one group -/
def group (side place : String → Bool) (g : Bool) : Circle := ⟨{n | side n = g}, {p | place p = g}, True, False⟩

/-- the prompt that a call is on -/
def Call.subject : Call → String
  | .prompt name _ => name
  | .present name => name
  | .notice _ => ""

/-- is the call on a prompt of this group? -/
def Call.on (side : String → Bool) (g : Bool) (c : Call) : Bool := side c.subject == g

/-- calls that stay in the group of their prompt -/
def Grouped (side place : String → Bool) (calls : List Call) : Prop :=
  ∀ c ∈ calls, c.Within (group side place (side c.subject))

/-- what is seen of a call, as far as the prompts of one group go -/
def Seen.of (side : String → Bool) (g : Bool) (x : Seen) : Seen :=
  { x with prompt := fun n => if side n = g then x.prompt n else .blank }

/-- what is seen of a group's calls in a run -/
def seenOf (sc : Scene) (side : String → Bool) (g : Bool) (depth : Nat) (calls : List Call) (st : Stage) : List Seen :=
  ((seen sc depth calls st).filter (·.call.on side g)).map (Seen.of side g)

theorem seenOf_cons_on {c : Call} (hc : c.on side g) (rest : List Call) (st : Stage) :
    seenOf sc side g depth (c :: rest) st =
      Seen.of side g ⟨c, (exec sc depth c st).answer, st.sightsSince (exec sc depth c st).stage,
        (exec sc depth c st).stage.prompt sc⟩ :: seenOf sc side g depth rest (exec sc depth c st).stage := by
  rw [seenOf, seen_cons, List.filter_cons_of_pos (by exact hc), List.map_cons]
  rfl

theorem seenOf_cons_off {c : Call} (hc : ¬ c.on side g) (rest : List Call) (st : Stage) :
    seenOf sc side g depth (c :: rest) st = seenOf sc side g depth rest (exec sc depth c st).stage := by
  rw [seenOf, seen_cons, List.filter_cons_of_neg (by exact hc)]
  rfl

/-- a group's calls show the same in two runs, and its prompts end the same way -/
structure Agree (sc : Scene) (side : String → Bool) (g : Bool) (depth : Nat) (calls calls' : List Call)
    (st st' : Stage) : Prop where
  seen : seenOf sc side g depth calls st = seenOf sc side g depth calls' st'
  final : ∀ n, side n = g → (runWithin sc depth calls st).prompt sc n = (runWithin sc depth calls' st').prompt sc n

theorem Agree.symm {calls calls' : List Call} (h : Agree sc side g depth calls calls' a b) :
    Agree sc side g depth calls' calls b a :=
  ⟨h.seen.symm, fun n hn => (h.final n hn).symm⟩

theorem Agree.trans {calls₁ calls₂ calls₃ : List Call} (h : Agree sc side g depth calls₁ calls₂ a b)
    (h' : Agree sc side g depth calls₂ calls₃ b a') : Agree sc side g depth calls₁ calls₃ a a' :=
  ⟨h.seen.trans h'.seen, fun n hn => (h.final n hn).trans (h'.final n hn)⟩

section Group

variable (hsc : ∀ g, sc.Within (group side place g))

/-- the scene beside itself -/
def mirror (hsc : ∀ g, sc.Within (group side place g)) (g : Bool) : Twins where
  circle := group side place g
  muted := ∅
  full := sc
  thin := sc
  thins := .refl _ sc
  within := hsc g
  refused := by simp

/-- the two groups are apart: a stage that is alike for one group stays so when a call spares it -/
theorem alike_of_keeps {g g' : Bool} (hg : g ≠ g') (h : (mirror hsc g).Alike a b) (hl : Legible a')
    (hk : Keeps (group side place g') sc a a') : (mirror hsc g).Alike a' b where
  left := hl
  right := h.right
  prompts n hn := by
    have hspared : a'.prompt sc n = a.prompt sc n := hk.spared n fun hn' => hg (hn.symm.trans hn')
    exact (h.prompts n hn).trans hspared.symm
  placed n hn s hs := by
    have hspared : a'.prompt sc n = a.prompt sc n := hk.spared n fun hn' => hg (hn.symm.trans hn')
    exact h.placed n hn s (hspared ▸ hs)
  screens hs := hs.elim

theorem alike_self (h : (mirror hsc g).Alike a b) : (mirror hsc g).Alike a a :=
  ⟨h.left, h.left, fun _ _ => rfl, h.placed, fun hs => hs.elim⟩

/-- one call, made on two stages on which its group is alike -/
theorem lock_group (depth : Nat) {c : Call} (hc : c.Within (group side place g)) (h : (mirror hsc g).Alike a b) :
    (exec sc depth c b).answer = (exec sc depth c a).answer ∧
      (mirror hsc g).Steps a b (exec sc depth c a).stage (exec sc depth c b).stage :=
  (Twins.lock_exec (mirror hsc g) depth c hc a b h).resolve_left fun hm => hm.2.ne_empty rfl

/-- a run of calls on both groups goes for one of them as the run of its own calls -/
theorem agree_alone {calls : List Call} (hcalls : Grouped side place calls) (hself : ∀ g, (mirror hsc g).Alike a a)
    (h : (mirror hsc g).Alike a b) : Agree sc side g depth calls (calls.filter (·.on side g)) a b := by
  induction calls generalizing a b with
  | nil =>
    exact ⟨rfl, fun n hn => (h.prompts n hn).symm⟩
  | cons c rest ih =>
    set g' := side c.subject with hg'
    obtain ⟨-, hown⟩ := lock_group hsc depth (hcalls c List.mem_cons_self) (hself g')
    have hrest : Grouped side place rest := fun c hc => hcalls c (List.mem_cons_of_mem _ hc)
    -- whatever group the call is on, both groups are alike themselves after it
    have hself' : ∀ g, (mirror hsc g).Alike (exec sc depth c a).stage (exec sc depth c a).stage := fun g => by
      by_cases hg : g = g'
      · exact hg ▸ hown.alike
      · exact alike_self hsc (alike_of_keeps hsc hg (hself g) hown.alike.left hown.left)
    by_cases hg : g = g'
    · subst hg
      obtain ⟨hanswer, hs⟩ := lock_group hsc depth (hcalls c List.mem_cons_self) h
      obtain ⟨hseen, hfinal⟩ := ih hrest hself' hs.alike
      have hon : c.on side (side c.subject) := by simp [Call.on]
      have hprompt : Seen.of side (side c.subject) ⟨c, (exec sc depth c a).answer,
            a.sightsSince (exec sc depth c a).stage, (exec sc depth c a).stage.prompt sc⟩ =
          Seen.of side (side c.subject) ⟨c, (exec sc depth c b).answer,
            b.sightsSince (exec sc depth c b).stage, (exec sc depth c b).stage.prompt sc⟩ := by
        unfold Seen.of
        rw [hanswer, show b.sightsSince _ = _ from hs.seen.eq_of_empty]
        congr 1
        funext n
        split_ifs with hn
        · exact (hs.alike.prompts n hn).symm
        · rfl
      rw [List.filter_cons_of_pos (by exact hon)]
      refine ⟨?_, hfinal⟩
      rw [seenOf_cons_on hon, seenOf_cons_on hon, hprompt, hseen]
    · have hoff : ¬ c.on side g := by simpa [Call.on] using fun he => hg (Eq.symm he)
      obtain ⟨hseen, hfinal⟩ := ih hrest hself' (alike_of_keeps hsc hg h hown.alike.left hown.left)
      rw [List.filter_cons_of_neg (by exact hoff)]
      refine ⟨?_, hfinal⟩
      rw [seenOf_cons_off hoff, hseen]

end Group

/-! ## Every run -/

/-- **Groups that do not mention each other keep apart.** However calls on the two groups are mixed and whatever they
raise, each group's calls go as in the run of these calls alone, and so two mixtures of the same calls agree. -/
theorem groups_keep_apart (sc : Scene) (side place : String → Bool) (hsc : ∀ g, sc.Within (group side place g))
    (depth : Nat) (calls : List Call) (hcalls : Grouped side place calls) :
    (∀ g, Agree sc side g depth calls (calls.filter (·.on side g)) .empty .empty) ∧
      ∀ calls', Grouped side place calls' → (∀ g, calls'.filter (·.on side g) = calls.filter (·.on side g)) →
        ∀ g, Agree sc side g depth calls calls' .empty .empty := by
  have alone {calls : List Call} (hcalls : Grouped side place calls) (g : Bool) :
      Agree sc side g depth calls (calls.filter (·.on side g)) .empty .empty :=
    agree_alone hsc hcalls (fun g => (mirror hsc g).alike_empty) (mirror hsc g).alike_empty
  refine ⟨alone hcalls, fun calls' hcalls' hsame g => ?_⟩
  have h' := alone hcalls' g
  rw [hsame g] at h'
  exact (alone hcalls g).trans h'.symm

/-- prompts whose scripts call nobody but themselves -/
def hermits : Scene where
  request name := { Request.titled name with
    onPrimary := [.attempt (.call (.prompt name .submit)), .call (.prompt name .renew), .raise .runtime name] }
  surface place := ⟨[.call (.prompt place (.setText place))], [.call (.prompt place .cancel)]⟩
  threshold := 10
  cancelLabel := "Cancel"
  escapeDismisses := true

theorem within_hermits (side : String → Bool) (g : Bool) : hermits.Within (group side side g) where
  handler name hn cb script hs := by
    have hscript : script = [] ∨ script = (hermits.request name).onPrimary := by
      cases cb with
      | handler o text => cases o <;> simp_all [handlerScript, Request.handlerFor, hermits, Request.titled]
      | _ => simp [handlerScript, hermits, Request.titled] at hs
    have hmem : name ∈ (group side side g).names := hn
    rcases hscript with rfl | rfl <;>
      simp [Script.Within, Action.Within, Call.Within, Verb.Within, group, hermits] at hmem ⊢
    exact hmem
  onShow place hp := by
    have hmem : place ∈ (group side side g).names := hp
    simpa [Script.Within, Action.Within, Call.Within, Verb.Within, hermits] using hmem
  onClose place hp := by
    have hmem : place ∈ (group side side g).names := hp
    simpa [Script.Within, Action.Within, Call.Within, Verb.Within, hermits] using hmem

theorem hermits_keep_apart :
    Agree hermits (· == "a") true 9
      [.prompt "b" (.display none), .prompt "a" (.display none), .prompt "b" .primary, .prompt "a" .primary]
      [.prompt "a" (.display none), .prompt "a" .primary, .prompt "b" (.display none), .prompt "b" .primary]
      .empty .empty := by
  refine (groups_keep_apart hermits (· == "a") (· == "a") (within_hermits _) 9 _ ?_).2 _ ?_ ?_ true
  · simp [Grouped, Call.Within, Verb.Within, group, Call.subject]
  · simp [Grouped, Call.Within, Verb.Within, group, Call.subject]
  · decide

end LinePrompt.Prompt
