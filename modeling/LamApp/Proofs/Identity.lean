import LamApp.Proofs.Coincidence
import LamApp.Proofs.Ledger

/-!
# Identity over a session

A session keeps a ledger of all that it has created. What the registers hold is
recorded there, so values with the same identity are the same in every other
respect too, and so are scopes.

Main statement: after every session the identity of values is an equivalence,
values with the same identity look alike and do alike when they are called, and
scopes with the same identity have the same bindings.
-/

namespace LamApp

/-! ## What commands record -/

theorem Value.recorded_of_isFunction_eq_false
    {value : Value} (h : value.isFunction = false) (ledger : Ledger) :
    value.Recorded ledger := by
  cases value with
  | builtin stamp function =>
      cases h
  | closure site parameter body scope =>
      cases h
  | _ =>
      trivial

theorem Evaluation.Continues.exists_toValue
    {ledger : Ledger} {result : Evaluation} (h : result.Continues ledger) :
    ∃ ledger' : Ledger, ledger <+: ledger' ∧ ledger'.length = result.stamp ∧
      result.outcome.toValue.Recorded ledger' := by
  obtain ⟨ledger', hle, hlength, hvalue⟩ := h
  refine ⟨ledger', hle, hlength, ?_⟩
  cases houtcome : result.outcome with
  | ok value =>
      exact hvalue value houtcome
  | error cause =>
      trivial

namespace Ledger

/-- The uses of the stamps of the standard scope. -/
def start : Ledger :=
  let add : Scope := .bind 1 "add" (.builtin 0 .add) .empty
  let cond : Scope := .bind 3 "if" (.builtin 2 .cond) add
  [.builtin .add, .binding add, .builtin .cond, .binding cond, .builtin .gt,
    .binding .standard]

theorem recorded_standard :
    Scope.standard.Recorded start :=
  ⟨rfl, ⟨rfl, trivial⟩, rfl, ⟨rfl, trivial⟩, rfl, ⟨rfl, trivial⟩, trivial⟩

end Ledger

namespace Workbench

/-- The ledger tells of all stamps that were used, and what the registers hold
is recorded in it. -/
structure RecordedIn (bench : Workbench) (ledger : Ledger) : Prop where
  length : ledger.length = bench.stamp
  standard : Scope.standard.Recorded ledger
  scopes : ∀ scope, bench.scopes.Holds scope → scope.Recorded ledger
  values : ∀ value, bench.values.Holds value → value.Recorded ledger
  trees : ∀ tree, bench.trees.Holds tree →
    ledger[tree.stamp]? = some (.tree tree.root)

theorem recordedIn_start :
    start.RecordedIn Ledger.start where
  length := rfl
  standard := Ledger.recorded_standard
  scopes := by
    intro scope hscope
    rcases eq_of_holds_start hscope with rfl | rfl
    · trivial
    · exact Ledger.recorded_standard
  values value hvalue := absurd hvalue (Registers.not_holds_empty value)
  trees tree htree := absurd htree (Registers.not_holds_empty tree)

namespace RecordedIn

variable {bench : Workbench} {ledger : Ledger}

/-- Stamps are used, and nothing is stored yet. -/
theorem goOn
    (h : bench.RecordedIn ledger) {ledger' : Ledger} (hle : ledger <+: ledger')
    {stamp : Stamp} (hlength : ledger'.length = stamp) :
    { bench with stamp := stamp }.RecordedIn ledger' where
  length := hlength
  standard := h.standard.mono hle
  scopes scope hscope := (h.scopes scope hscope).mono hle
  values value hvalue := (h.values value hvalue).mono hle
  trees tree htree := Ledger.getElem?_of_isPrefix hle (h.trees tree htree)

/-- One stamp is used. -/
theorem useStamp
    (h : bench.RecordedIn ledger) (usage : Usage) :
    { bench with stamp := bench.stamp + 1 }.RecordedIn
      (ledger ++ [usage]) :=
  h.goOn (List.prefix_append _ _) (by simp [h.length])

theorem setScope
    (h : bench.RecordedIn ledger) {scope : Scope}
    (hscope : scope.Recorded ledger) (target : String) :
    { bench with scopes := bench.scopes.set target scope }.RecordedIn
      ledger where
  length := h.length
  standard := h.standard
  scopes := by
    intro other hother
    rcases Registers.eq_or_holds_of_holds_set hother with rfl | hother
    · exact hscope
    · exact h.scopes other hother
  values := h.values
  trees := h.trees

theorem setValue
    (h : bench.RecordedIn ledger) {value : Value}
    (hvalue : value.Recorded ledger) (target : Option String) :
    { bench with values := bench.values.setIf target value }.RecordedIn
      ledger where
  length := h.length
  standard := h.standard
  scopes := h.scopes
  values := by
    intro other hother
    rcases Registers.eq_or_holds_of_holds_setIf hother with rfl | hother
    · exact hvalue
    · exact h.values other hother
  trees := h.trees

theorem setTree
    (h : bench.RecordedIn ledger) {tree : Tree}
    (htree : ledger[tree.stamp]? = some (.tree tree.root)) (target : String) :
    { bench with trees := bench.trees.set target tree }.RecordedIn
      ledger where
  length := h.length
  standard := h.standard
  scopes := h.scopes
  values := h.values
  trees := by
    intro other hother
    rcases Registers.eq_or_holds_of_holds_set hother with rfl | hother
    · exact htree
    · exact h.trees other hother

/-- What an evaluation comes to may be stored. -/
theorem setResult
    (h : bench.RecordedIn ledger) {ledger₁ : Ledger} (hle₁ : ledger <+: ledger₁)
    {result : Evaluation} (hresult : result.Continues ledger₁)
    (target : Option String) :
    ∃ ledger',
      { bench with
        values := bench.values.setIf target result.outcome.toValue
        stamp := result.stamp }.RecordedIn ledger' := by
  obtain ⟨ledger', hle', hlength, hvalue⟩ := hresult.exists_toValue
  exact ⟨ledger', (h.goOn (hle₁.trans hle') hlength).setValue hvalue target⟩

/-- The tree of an evaluation is in the ledger, at once or after one more
stamp. -/
theorem exists_tree
    (h : bench.RecordedIn ledger) {tree : Tree} {stamp : Stamp}
    (htree : bench.trees.Holds tree ∧ stamp = bench.stamp ∨
      tree.stamp = bench.stamp ∧ stamp = bench.stamp + 1) :
    ∃ ledger' : Ledger, ledger <+: ledger' ∧ ledger'.length = stamp ∧
      (Site.root tree.stamp).Shows ledger' tree.root := by
  rcases htree with ⟨hheld, rfl⟩ | ⟨hnew, rfl⟩
  · exact ⟨ledger, List.prefix_refl ledger, h.length, tree.root,
      h.trees tree hheld, rfl⟩
  · refine ⟨ledger ++ [.tree tree.root], List.prefix_append _ _,
      by simp [h.length], tree.root, ?_, rfl⟩
    rw [Site.root, hnew, ← h.length]
    exact ledger.getElem?_concat _

/-- Every command only adds to the ledger. -/
theorem step
    {limit : Nat} {bench' : Workbench} {command : Command} {answer : Answer}
    (h : bench.RecordedIn ledger)
    (hstep : Step limit bench command answer bench') :
    ∃ ledger', bench'.RecordedIn ledger' := by
  cases hstep with
  | look _ =>
      exact ⟨ledger, h⟩
  | @extend _ symbol value target outer bound houter hbound =>
      have hscope := (h.scopes outer houter).bind
        (h.values bound ⟨value, hbound⟩) symbol
      rw [h.length] at hscope
      exact ⟨_, (h.useStamp _).setScope hscope target⟩
  | dropScope =>
      exact ⟨ledger, h.length, h.standard,
        fun scope hscope =>
          h.scopes scope (Registers.holds_of_holds_erase hscope),
        h.values, h.trees⟩
  | @plant _ root target =>
      have htree : (ledger ++ [.tree root])[bench.stamp]? =
          some (.tree root) := by
        rw [← h.length]
        exact ledger.getElem?_concat _
      exact ⟨_, (h.useStamp (.tree root)).setTree htree target⟩
  | @lookup _ _ target found value hfound hlookup =>
      exact ⟨ledger,
        h.setValue ((h.scopes found hfound).of_lookup hlookup) target⟩
  | @literal _ value target hfunction =>
      exact ⟨ledger, h.setValue
        (Value.recorded_of_isFunction_eq_false hfunction ledger) target⟩
  | @builtin primitive target =>
      have hprimitive : primitive.builtin.Recorded ledger := by
        cases primitive <;> trivial
      have hvalue := hprimitive.create
      rw [h.length] at hvalue
      exact ⟨_, (h.useStamp _).setValue hvalue (some target)⟩
  | @evaluate _ _ target tree scope stamp result htree hscope hevaluate =>
      obtain ⟨ledger₁, hle₁, hlength₁, hshows⟩ := h.exists_tree htree
      have hrecorded : scope.Recorded ledger := by
        rcases hscope with hscope | rfl
        · exact h.scopes scope hscope
        · exact h.standard
      have hresult :=
        (Tree.yields_of_evaluate_eq_some hevaluate).continues hlength₁
          ⟨hshows, hrecorded.mono hle₁⟩
      exact h.setResult hle₁ hresult target
  | @apply _ name target function argument result _ hfunction hargument
      happly =>
      have hresult :=
        (Value.yields_of_apply_eq_some happly).continues h.length
          ⟨h.values function hfunction, h.values argument ⟨name, hargument⟩⟩
      exact h.setResult (List.prefix_refl ledger) hresult target

end RecordedIn

/-- Wherever a session leads, all that the registers hold is recorded in one
ledger. -/
theorem Leads.exists_recordedIn
    {bench : Workbench} (h : start.Leads bench) :
    ∃ ledger, bench.RecordedIn ledger := by
  apply h.keeps
  · rintro limit bench bench' command answer ⟨ledger, hbench⟩ hstep
    exact hbench.step hstep
  · exact ⟨Ledger.start, recordedIn_start⟩

end Workbench

/-! ## What identity tells -/

namespace Value

theorem looksLike_self
    (value : Value) :
    value.LooksLike value :=
  simulation_resembles.looksLike value.resembles_self

/-- A function does alike whenever it is called with the same argument. -/
theorem alike_apply_self
    (function argument : Value) (stamp stamp' : Stamp) :
    Alike
      (fun outcome outcome' => outcome.isOk = outcome'.isOk ∧
        outcome.toValue.LooksLike outcome'.toValue)
      (function.apply · argument stamp) (function.apply · argument stamp') := by
  refine (simulation_resembles.alike_apply function.resembles_self
    argument.resembles_self stamp stamp').imp ?_
  intro outcome outcome' hrelated
  cases hrelated with
  | ok hvalue =>
      exact ⟨rfl, simulation_resembles.looksLike hvalue⟩
  | error hcause =>
      exact ⟨rfl, hcause⟩

end Value

namespace Scope

theorem rel_same_lookup_self
    (scope : Scope) (name : String) :
    Option.Rel (fun value value' => value.same value' = true)
      (scope.lookup name) (scope.lookup name) := by
  cases scope.lookup name with
  | none =>
      exact .none
  | some value =>
      exact .some value.same_self

end Scope

namespace Workbench

/-- After every session the identity of values is an equivalence. Values with
the same identity look alike, and as functions they come to an end with the
same arguments and then to results that look alike. Scopes with the same
identity bind the same symbols to values with the same identity. -/
theorem same_sound_of_steps
    {limit : Nat} {commands : List Command} {answers : List Answer}
    {bench : Workbench}
    (hsteps : start.steps limit commands = .ok (answers, bench)) :
    Equivalence (fun a b : {value // bench.values.Holds value} =>
      a.1.same b.1 = true) ∧
    (∀ a b, bench.values.Holds a → bench.values.Holds b →
      a.same b = true →
      a.LooksLike b ∧
      (a.isFunction = true →
        ∀ (argument : Value) (stamp stamp' : Stamp),
          Alike
            (fun outcome outcome' => outcome.isOk = outcome'.isOk ∧
              outcome.toValue.LooksLike outcome'.toValue)
            (a.apply · argument stamp) (b.apply · argument stamp'))) ∧
    (∀ scope scope', bench.scopes.Holds scope → bench.scopes.Holds scope' →
      scope.same scope' = true →
      scope.symbols = scope'.symbols ∧
      ∀ name, Option.Rel (fun value value' => value.same value' = true)
        (scope.lookup name) (scope'.lookup name)) := by
  obtain ⟨ledger, hbench⟩ := (leads_of_steps hsteps).exists_recordedIn
  have heq : ∀ a b, bench.values.Holds a → bench.values.Holds b →
      a.same b = true → a = b := fun a b ha hb =>
    (hbench.values a ha).eq_of_same (hbench.values b hb)
  refine ⟨⟨fun a => a.1.same_self, ?symm, ?trans⟩, ?values, ?scopes⟩
  case symm =>
    rintro ⟨a, ha⟩ ⟨b, hb⟩ hsame
    obtain rfl := heq a b ha hb hsame
    exact a.same_self
  case trans =>
    rintro ⟨a, ha⟩ ⟨b, hb⟩ ⟨c, hc⟩ hsame hsame'
    obtain rfl := heq a b ha hb hsame
    exact hsame'
  case values =>
    intro a b ha hb hsame
    obtain rfl := heq a b ha hb hsame
    exact ⟨a.looksLike_self, fun _ => a.alike_apply_self⟩
  case scopes =>
    intro scope scope' hscope hscope' hsame
    obtain rfl : scope = scope' :=
      (hbench.scopes scope hscope).eq_of_same
        (hbench.scopes scope' hscope') hsame
    exact ⟨rfl, scope.rel_same_lookup_self⟩

/-- An adder comes from two evaluations of one tree in one scope, which is
reached under two names. Both come to the same sum, at different times. -/
theorem same_sound_for_adders :
    let body : Expr := .app (.app (.var "add") (.var "k")) (.var "x")
    let scope : Scope := .bind 6 "k" (.number 1) .standard
    let adder : Value := .closure (.root 7) "x" body scope
    let commands : List Command :=
      [.number 1 "one", .extend "default" "k" "one" "inner",
        .tree (.lam "x" body) "tree",
        .evaluate (.register "tree") (some "inner") (some "first"),
        .evaluate (.register "tree") (some "inner") (some "second"),
        .apply "first" "one" (some "sum"), .apply "second" "one" none]
    ∃ answers bench,
      start.steps 20 commands = .ok (answers, bench) ∧
      bench.values.get? "first" = some adder ∧
      bench.values.get? "second" = some adder ∧
      bench.scopes.get? "inner" = some scope ∧
      Equivalence (fun a b : {value // bench.values.Holds value} =>
        a.1.same b.1 = true) ∧
      Alike
        (fun outcome outcome' => outcome.isOk = outcome'.isOk ∧
          outcome.toValue.LooksLike outcome'.toValue)
        (adder.apply · (.number 1) 8) (adder.apply · (.number 1) 11) ∧
      ∀ name, Option.Rel (fun value value' => value.same value' = true)
        (scope.lookup name) (scope.lookup name) := by
  intro body scope adder commands
  obtain ⟨answers, bench, hsteps, hfirst, hsecond, hscope⟩ :
      ∃ answers bench,
        start.steps 20 commands = .ok (answers, bench) ∧
        bench.values.get? "first" = some adder ∧
        bench.values.get? "second" = some adder ∧
        bench.scopes.get? "inner" = some scope :=
    ⟨_, _, rfl, rfl, rfl, rfl⟩
  obtain ⟨hequivalence, hvalues, hscopes⟩ := same_sound_of_steps hsteps
  have hadder : adder.same adder = true := by decide
  have hinner : scope.same scope = true := by decide
  exact ⟨answers, bench, hsteps, hfirst, hsecond, hscope, hequivalence,
    (hvalues adder adder ⟨_, hfirst⟩ ⟨_, hsecond⟩ hadder).2 rfl _ 8 11,
    (hscopes scope scope ⟨_, hscope⟩ ⟨_, hscope⟩ hinner).2⟩

end Workbench
end LamApp
