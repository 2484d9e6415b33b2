import LamApp.Proofs.Identity
import LamApp.Proofs.Restamping

/-!
# Evaluating a tree again

A session may evaluate the same tree in the same scope twice, and do anything in
between. Nothing that it does changes what the tree comes to. Only identities
tell the two results apart: what the evaluation creates is created anew.

Main statement: at any two points of a session the tree comes to an end at both
or at none. The two results look alike, and they are the same exactly if the
first one is no function, or a function that existed before.
-/

namespace LamApp

/-! ## The later result -/

namespace Value

theorem looksLike_restamp
    (f : Stamp → Stamp) (value : Value) :
    value.LooksLike (value.restamp f) := by
  cases value with
  | builtin stamp function =>
      exact ((builtin stamp function).render_restamp f).symm
  | _ =>
      rfl

theorem ExistedBefore.mono
    {value : Value} {stamp stamp' : Stamp} (h : value.ExistedBefore stamp)
    (hle : stamp ≤ stamp') :
    value.ExistedBefore stamp' := by
  cases value with
  | builtin created function =>
      exact Nat.lt_of_lt_of_le h hle
  | closure site parameter body scope =>
      exact fun created hcreated =>
        Nat.lt_of_lt_of_le (h created hcreated) hle
  | _ =>
      trivial

end Value

theorem Outcome.toValue_restamp
    (f : Stamp → Stamp) (outcome : Outcome) :
    (restamp f outcome).toValue = outcome.toValue.restamp f := by
  cases outcome <;> rfl

theorem Evaluation.Continues.existedBefore
    {ledger : Ledger} {result : Evaluation} (h : result.Continues ledger) :
    result.outcome.toValue.ExistedBefore result.stamp := by
  obtain ⟨ledger', -, hlength, hvalue⟩ := h.exists_toValue
  rw [← hlength]
  exact hvalue.existedBefore

/-! ## Points of a session -/

namespace Workbench

/-- The tree and the scope are at hand. -/
def Offers (bench : Workbench) (tree : Tree) (scope : Scope) : Prop :=
  bench.trees.Holds tree ∧ ∃ name?, bench.scopeOf name? = .ok scope

/-- A command evaluates the tree in the scope and comes to the value. -/
def Evaluates
    (bench : Workbench) (tree : Tree) (scope : Scope)
    (value : Value) (bench' : Workbench) :
    Prop :=
  ∃ limit name name? target,
    bench.trees.get? name = some tree ∧ bench.scopeOf name? = .ok scope ∧
    bench.step limit (.evaluate (.register name) name? target) =
      .ok (.value value, bench')

/-- The evaluation of the tree in the scope comes to an end. -/
def Finishes (bench : Workbench) (tree : Tree) (scope : Scope) : Prop :=
  ∃ value bench', bench.Evaluates tree scope value bench'

/-! ## Sessions give out stamps in order -/

theorem Step.le_stamp
    {limit : Nat} {bench bench' : Workbench} {command : Command}
    {answer : Answer} (h : Step limit bench command answer bench') :
    bench.stamp ≤ bench'.stamp := by
  cases h with
  | extend _ _ | plant | builtin =>
      exact Nat.le_succ bench.stamp
  | look _ | dropScope | lookup _ _ | literal _ =>
      exact Nat.le_refl bench.stamp
  | @evaluate _ _ _ tree scope stamp result htree _ hevaluate =>
      have hstamp : bench.stamp ≤ stamp := by
        rcases htree with ⟨-, rfl⟩ | ⟨-, rfl⟩
        · exact Nat.le_refl bench.stamp
        · exact Nat.le_succ bench.stamp
      exact Nat.le_trans hstamp
        (Tree.yields_of_evaluate_eq_some hevaluate).le_stamp
  | apply _ _ _ happly =>
      exact (Value.yields_of_apply_eq_some happly).le_stamp

theorem Leads.le_stamp
    {bench bench' : Workbench} (h : bench.Leads bench') :
    bench.stamp ≤ bench'.stamp :=
  h.keeps (fun hle hstep => Nat.le_trans hle hstep.le_stamp)
    (Nat.le_refl bench.stamp)

/-! ## One tree, evaluated twice -/

section

variable {bench : Workbench} {tree : Tree} {scope : Scope}

/-- The evaluation begins with the next unused stamp. -/
theorem step_evaluate_register
    {name : String} (htree : bench.trees.get? name = some tree)
    {name? : Option String} (hscope : bench.scopeOf name? = .ok scope)
    (limit : Nat) (target : Option String) :
    bench.step limit (.evaluate (.register name) name? target) =
      (finished (tree.evaluate limit scope bench.stamp)).map fun result =>
        { bench with stamp := result.stamp }.keep
          result.outcome.toValue target := by
  have htreeOf : bench.treeOf (.register name) = .ok (tree, bench.stamp) := by
    rw [treeOf, fetch, htree]
    rfl
  rw [step, htreeOf, hscope]
  cases hfinished : finished (tree.evaluate limit scope bench.stamp) with
  | error refusal =>
      simp [bind, Except.bind, hfinished, Except.map]
  | ok result =>
      simp [bind, Except.bind, hfinished, Except.map, pure, Except.pure]

theorem Evaluates.exists_evaluate
    {value : Value} {bench' : Workbench}
    (h : bench.Evaluates tree scope value bench') :
    ∃ limit result, tree.evaluate limit scope bench.stamp = some result ∧
      result.outcome.toValue = value ∧ result.stamp = bench'.stamp := by
  obtain ⟨limit, name, name?, target, htree, hscope, hstep⟩ := h
  rw [step_evaluate_register htree hscope] at hstep
  cases hfinished : finished (tree.evaluate limit scope bench.stamp) with
  | error refusal =>
      rw [hfinished] at hstep
      cases hstep
  | ok result =>
      rw [hfinished] at hstep
      cases hstep
      exact ⟨limit, result, eq_some_of_finished_eq_ok hfinished, rfl, rfl⟩

theorem Offers.finishes_iff
    (h : bench.Offers tree scope) :
    bench.Finishes tree scope ↔
      ∃ limit result, tree.evaluate limit scope bench.stamp = some result := by
  constructor
  · rintro ⟨value, bench', hevaluates⟩
    obtain ⟨limit, result, hevaluate, -⟩ := hevaluates.exists_evaluate
    exact ⟨limit, result, hevaluate⟩
  · rintro ⟨limit, result, hevaluate⟩
    obtain ⟨⟨name, htree⟩, name?, hscope⟩ := h
    refine ⟨result.outcome.toValue, { bench with stamp := result.stamp },
      limit, name, name?, none, htree, hscope, ?_⟩
    rw [step_evaluate_register htree hscope, hevaluate]
    rfl

/-- What is at hand is recorded. -/
theorem RecordedIn.of_offers
    {ledger : Ledger} (h : bench.RecordedIn ledger)
    (hoffers : bench.Offers tree scope) :
    (Site.root tree.stamp).Shows ledger tree.root ∧
      scope.Recorded ledger := by
  obtain ⟨htree, name?, hscope⟩ := hoffers
  refine ⟨⟨tree.root, h.trees tree htree, rfl⟩, ?_⟩
  rcases scopeOf_eq_ok hscope with hheld | rfl
  · exact h.scopes scope hheld
  · exact h.standard

end

/-- At any two points of a session a tree that is evaluated in a scope comes to
an end at both or at none. Then the results look alike, and by their identity
they are the same exactly if the first one is no function, a builtin that was
there before, or a closure over the empty scope or over one that was there
before. -/
theorem evaluation_repeats
    {bench : Workbench} (hstart : start.Leads bench)
    {tree : Tree} {scope : Scope} (hoffers : bench.Offers tree scope) :
    (∀ later, bench.Leads later → later.Offers tree scope →
      (bench.Finishes tree scope ↔ later.Finishes tree scope)) ∧
    ∀ value between later value' after,
      bench.Evaluates tree scope value between → between.Leads later →
      later.Evaluates tree scope value' after →
      value.LooksLike value' ∧
      (value.same value' = true ↔ value.ExistedBefore bench.stamp) := by
  constructor
  · intro later _ hlater
    rw [hoffers.finishes_iff, hlater.finishes_iff]
    exact (Tree.coincides_of_lookup_eq (fun _ _ => rfl) _ _).1
  · intro value between later value' after hfirst hleads hsecond
    obtain ⟨ledger, hbench⟩ := hstart.exists_recordedIn
    obtain ⟨hshows, hscope⟩ := hbench.of_offers hoffers
    obtain ⟨limit, result, hrun, rfl, hstamp⟩ := hfirst.exists_evaluate
    obtain ⟨limit', result', hrun', rfl, -⟩ := hsecond.exists_evaluate
    rw [← hbench.length] at hrun
    rw [Tree.outcome_eq_restamp hscope hrun hrun', Outcome.toValue_restamp,
      ← hbench.length]
    have hle : result.stamp ≤ later.stamp := hstamp ▸ hleads.le_stamp
    have hresult := (Tree.yields_of_evaluate_eq_some hrun).continues rfl
      ⟨hshows, hscope⟩
    have hexisted := hresult.existedBefore.mono hle
    exact ⟨Value.looksLike_restamp _ _,
      Value.same_restamp_moved_iff hexisted⟩

/-- A partial sum is another builtin each time, while a closure over the standard
scope is the same one again. In between a builtin is made. -/
theorem evaluation_repeats_for_adder :
    let adder : Tree := ⟨6, .app (.var "add") (.number 1)⟩
    let identity : Tree := ⟨7, .lam "x" (.var "x")⟩
    let bench : Workbench :=
      { start with
        trees := (Registers.empty.set "adder" adder).set "identity" identity
        stamp := 8 }
    let between : Workbench := { bench with stamp := 9 }
    let later : Workbench :=
      { between with
        values := Registers.empty.set "other" (.builtin 9 .add)
        stamp := 10 }
    let sum : Value := .builtin 8 (.addTo 1)
    let sum' : Value := .builtin 10 (.addTo 1)
    let closure : Value := .closure (.root 7) "x" (.var "x") .standard
    start.Leads bench ∧ bench.Leads between ∧ between.Leads later ∧
      bench.Evaluates adder .standard sum between ∧
      later.Evaluates adder .standard sum' { later with stamp := 11 } ∧
      sum.LooksLike sum' ∧ ¬ sum.same sum' = true ∧
      bench.Evaluates identity .standard closure bench ∧
      later.Evaluates identity .standard closure later ∧
      closure.same closure = true := by
  intro adder identity bench between later sum sum' closure
  have hstart : start.Leads bench :=
    @leads_of_steps 0 [.tree adder.root "adder", .tree identity.root "identity"]
      _ _ _ rfl
  have hbetween : bench.Leads between :=
    @leads_of_steps 20 [.evaluate (.register "adder") none none] _ _ _ rfl
  have hlater : between.Leads later :=
    @leads_of_steps 0 [.builtin .add "other"] _ _ _ rfl
  have hsum : bench.Evaluates adder .standard sum between :=
    ⟨20, "adder", none, none, rfl, rfl, rfl⟩
  have hsum' : later.Evaluates adder .standard sum' { later with stamp := 11 } :=
    ⟨20, "adder", none, none, rfl, rfl, rfl⟩
  have hclosure : bench.Evaluates identity .standard closure bench :=
    ⟨20, "identity", none, none, rfl, rfl, rfl⟩
  have hclosure' : later.Evaluates identity .standard closure later :=
    ⟨20, "identity", none, none, rfl, rfl, rfl⟩
  obtain ⟨hlooks, hsame⟩ :=
    (evaluation_repeats hstart ⟨⟨"adder", rfl⟩, none, rfl⟩).2
      sum between later sum' _ hsum hlater hsum'
  obtain ⟨-, hsame'⟩ :=
    (evaluation_repeats hstart ⟨⟨"identity", rfl⟩, none, rfl⟩).2
      closure bench later closure _ hclosure (hbetween.trans hlater) hclosure'
  refine ⟨hstart, hbetween, hlater, hsum, hsum', hlooks, ?_, hclosure,
    hclosure', ?_⟩
  · rw [hsame]
    exact Nat.lt_irrefl 8
  · rw [hsame']
    rintro _ ⟨⟩
    decide

end Workbench
end LamApp
