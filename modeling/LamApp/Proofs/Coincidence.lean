import LamApp.Proofs.Simulation
import LamApp.Proofs.Substitution

/-!
# Evaluation depends on the free variables only

What an expression comes to in a scope is settled by the values that the scope
gives to its free variables. Two scopes that agree on them may differ in
everything else, so the closures of the two evaluations are not equal. They
resemble each other: parameter and body are the same, and the scopes agree on
the free variables again.

Main statement: in scopes that agree on its free variables an expression comes
to indistinguishable outcomes. So bindings of other names can be added, hidden
bindings be dropped and neighbouring ones be exchanged.
-/

namespace LamApp

/-- The same value, but for stamps, for sites, and for what the scopes of
closures hold besides the free variables. -/
inductive Value.Resembles : Value → Value → Prop
  | error (cause : RuntimeError) : Resembles (.error cause) (.error cause)
  | bool (value : Bool) : Resembles (.bool value) (.bool value)
  | number (value : Int) : Resembles (.number value) (.number value)
  | builtin (stamp stamp' : Stamp) (function : Builtin) :
      Resembles (.builtin stamp function) (.builtin stamp' function)
  | condElse (stamp stamp' : Stamp) (condition : Bool)
      {thenValue thenValue' : Value} :
      Resembles thenValue thenValue' →
      Resembles (.builtin stamp (.condElse condition thenValue))
        (.builtin stamp' (.condElse condition thenValue'))
  | closure (site site' : Site) {parameter : String} {body : Expr}
      {scope scope' : Scope} :
      (∀ name, (Expr.lam parameter body).Free name →
        Option.Rel Resembles (scope.lookup name) (scope'.lookup name)) →
      Resembles (.closure site parameter body scope)
        (.closure site' parameter body scope')

/-- The scopes give the free variables of the expression values that resemble
each other, or none. -/
def Expr.MeansAlike (e : Expr) (scope scope' : Scope) : Prop :=
  ∀ name, e.Free name →
    Option.Rel Value.Resembles (scope.lookup name) (scope'.lookup name)

theorem Value.Resembles.render
    {value value' : Value} (h : value.Resembles value') :
    value.render = value'.render := by
  cases h with
  | condElse stamp stamp' condition hthen =>
      rw [Value.render, Value.render, Builtin.name, Builtin.name,
        hthen.render]
  | _ =>
      rfl

mutual

theorem Value.resembles_self (value : Value) :
    value.Resembles value := by
  match value with
  | .error cause =>
      exact .error cause
  | .bool value =>
      exact .bool value
  | .number value =>
      exact .number value
  | .builtin stamp function =>
      exact .builtin stamp stamp function
  | .closure site parameter body scope =>
      exact .closure site site fun name _ => scope.rel_lookup_self name

theorem Scope.rel_lookup_self (scope : Scope) (name : String) :
    Option.Rel Value.Resembles (scope.lookup name) (scope.lookup name) := by
  cases scope with
  | empty =>
      exact .none
  | bind stamp symbol value outer =>
      rw [Scope.lookup]
      split
      · exact .some value.resembles_self
      · exact outer.rel_lookup_self name

end

namespace Expr

theorem meansAlike_of_lookup_eq
    {e : Expr} {scope scope' : Scope}
    (h : ∀ name, e.Free name → scope.lookup name = scope'.lookup name) :
    e.MeansAlike scope scope' := by
  intro name hfree
  rw [← h name hfree]
  exact scope.rel_lookup_self name

/-- The body of a closure, in front of arguments that resemble each other. -/
theorem MeansAlike.bind
    {parameter : String} {body : Expr} {scope scope' : Scope}
    (h : (lam parameter body).MeansAlike scope scope')
    {argument argument' : Value} (hargument : argument.Resembles argument')
    (stamp stamp' : Stamp) :
    body.MeansAlike (.bind stamp parameter argument scope)
      (.bind stamp' parameter argument' scope') := by
  intro name hfree
  rw [Scope.lookup, Scope.lookup]
  by_cases hname : parameter = name
  · rw [if_pos hname, if_pos hname]
    exact .some hargument
  · rw [if_neg hname, if_neg hname]
    exact h name ⟨hname, hfree⟩

theorem MeansAlike.resolve
    {name : String} {scope scope' : Scope}
    (h : (var name).MeansAlike scope scope') :
    Outcome.Related Value.Resembles Eq
      (scope.resolve name) (scope'.resolve name) := by
  have hrel := h name rfl
  rw [Scope.resolve, Scope.resolve]
  cases hlookup : scope.lookup name with
  | none =>
      rw [hlookup] at hrel
      generalize scope'.lookup name = found at hrel
      cases hrel
      exact .error rfl
  | some value =>
      rw [hlookup] at hrel
      generalize scope'.lookup name = found at hrel
      obtain ⟨hvalue⟩ := hrel
      cases hvalue with
      | error cause =>
          exact .error rfl
      | bool value =>
          exact .ok (.bool value)
      | number value =>
          exact .ok (.number value)
      | builtin stamp stamp' function =>
          exact .ok (.builtin stamp stamp' function)
      | condElse stamp stamp' condition hthen =>
          exact .ok (.condElse stamp stamp' condition hthen)
      | closure site site' hscope =>
          exact .ok (.closure site site' hscope)

end Expr

namespace Value

/-- Values that resemble each other go through the same steps. -/
theorem simulation_resembles :
    Simulation Resembles
      (fun e scope e' scope' => e = e' ∧ e.MeansAlike scope scope') Eq where
  value h := by
    cases h with
    | error cause =>
        exact .error rfl
    | bool value =>
        exact .bool value
    | number value =>
        exact .number value
    | builtin stamp stamp' function =>
        exact .builtin (Builtin.related_self resembles_self function)
    | condElse stamp stamp' condition hthen =>
        exact .builtin ⟨rfl, hthen⟩
    | closure site site' hscope =>
        exact .closure fun stamp stamp' argument argument' hargument =>
          ⟨rfl, Expr.MeansAlike.bind hscope hargument stamp stamp'⟩
  expr := by
    rintro e scope _ scope' ⟨rfl, h⟩
    cases e with
    | error cause =>
        exact .error rfl
    | var name =>
        exact .var h.resolve
    | number value =>
        exact .number value
    | bool value =>
        exact .bool value
    | lam parameter body =>
        exact .lam fun site site' => .closure site site' h
    | app function argument =>
        exact .app ⟨rfl, fun name hfree => h name (.inl hfree)⟩
          ⟨rfl, fun name hfree => h name (.inr hfree)⟩
  number := .number
  bool := .bool
  builtin stamp stamp' {_ _} h := h.value .builtin .condElse stamp stamp'
  notNumber builtin {_ _} h := by rw [h.render]
  notBool builtin {_ _} h := by rw [h.render]
  invalidFunction _ := rfl

end Value

/-! ## Scopes with the same bindings of the free variables -/

namespace Scope

/-- The bindings of one scope in front of those of another. -/
def onto : Scope → Scope → Scope
  | .empty, outer => outer
  | .bind stamp symbol value inner, outer =>
    .bind stamp symbol value (inner.onto outer)

theorem lookup_onto (inner outer : Scope) (name : String) :
    (inner.onto outer).lookup name =
      (inner.lookup name).or (outer.lookup name) := by
  cases inner with
  | empty =>
      rfl
  | bind stamp symbol value inner =>
      rw [onto, lookup, lookup]
      split
      · rfl
      · exact inner.lookup_onto outer name

theorem isSome_lookup
    {scope : Scope} {name : String} (h : name ∈ scope.symbols) :
    (scope.lookup name).isSome := by
  match scope, h with
  | .bind stamp symbol value outer, h =>
      rw [lookup]
      split
      · rfl
      next hsymbol =>
          exact isSome_lookup (List.mem_of_ne_of_mem (Ne.symm hsymbol) h)

end Scope

namespace Tree

/-- The tree comes to indistinguishable outcomes in the two scopes, whatever
stamps are used up. -/
def Coincides (tree : Tree) (scope scope' : Scope) : Prop :=
  ∀ stamp stamp' : Stamp,
    Alike (Outcome.Related Value.Indistinguishable Eq)
      (tree.evaluate · scope stamp) (tree.evaluate · scope' stamp')

theorem coincides_of_lookup_eq
    {tree : Tree} {scope scope' : Scope}
    (h : ∀ name, tree.root.Free name →
      scope.lookup name = scope'.lookup name) :
    tree.Coincides scope scope' := by
  intro stamp stamp'
  exact Value.simulation_resembles.alike_indistinguishable
    Value.resembles_self ⟨rfl, Expr.meansAlike_of_lookup_eq h⟩ stamp stamp'

/-- What a tree comes to depends on the bindings of its free variables only. So
a binding of another name may be added at any depth, a hidden one be dropped,
and neighbouring bindings of different names be exchanged. -/
theorem evaluate_depends_on_free_variables :
    (∀ (tree : Tree) (scope scope' : Scope),
      (∀ name, tree.root.Free name →
        scope.lookup name = scope'.lookup name) →
      tree.Coincides scope scope') ∧
    (∀ (tree : Tree) (inner outer : Scope)
        (stamp : Stamp) (symbol : String) (value : Value),
      ¬ tree.root.Free symbol →
      tree.Coincides (inner.onto (.bind stamp symbol value outer))
        (inner.onto outer)) ∧
    (∀ (tree : Tree) (inner outer : Scope)
        (stamp : Stamp) (symbol : String) (value : Value),
      symbol ∈ inner.symbols →
      tree.Coincides (inner.onto (.bind stamp symbol value outer))
        (inner.onto outer)) ∧
    (∀ (tree : Tree) (inner outer : Scope)
        (stamp stamp' : Stamp) (symbol symbol' : String)
        (value value' : Value),
      symbol ≠ symbol' →
      tree.Coincides
        (inner.onto
          (.bind stamp symbol value (.bind stamp' symbol' value' outer)))
        (inner.onto
          (.bind stamp' symbol' value' (.bind stamp symbol value outer)))) := by
  refine ⟨fun tree scope scope' h => coincides_of_lookup_eq h, ?_, ?_, ?_⟩
  · intro tree inner outer stamp symbol value hsymbol
    apply coincides_of_lookup_eq
    intro name hfree
    have hname : symbol ≠ name := by
      rintro rfl
      exact hsymbol hfree
    rw [Scope.lookup_onto, Scope.lookup_onto, Scope.lookup, if_neg hname]
  · intro tree inner outer stamp symbol value hsymbol
    apply coincides_of_lookup_eq
    intro name hfree
    rw [Scope.lookup_onto, Scope.lookup_onto, Scope.lookup]
    split
    next hname =>
        -- The inner scope has a binding of its own.
        obtain ⟨bound, hbound⟩ :=
          Option.isSome_iff_exists.mp (Scope.isSome_lookup (hname ▸ hsymbol))
        rw [hbound, Option.some_or, Option.some_or]
    next =>
        rfl
  · intro tree inner outer stamp stamp' symbol symbol' value value' hne
    apply coincides_of_lookup_eq
    intro name hfree
    rw [Scope.lookup_onto, Scope.lookup_onto]
    simp only [Scope.lookup]
    by_cases hname : symbol = name
    · have hname' : symbol' ≠ name := fun h => hne (hname.trans h.symm)
      rw [if_pos hname, if_neg hname', if_pos hname]
    · rw [if_neg hname, if_neg hname]

/-- A closure that adds `x` to its argument, in scopes that differ in all but
`add` and `x`. -/
theorem adders_coincide :
    let adder : Tree :=
      ⟨6, .lam "y" (.app (.app (.var "add") (.var "x")) (.var "y"))⟩
    let one : Scope → Scope := .bind 8 "x" (.number 1)
    adder.Coincides (one (.bind 7 "y" (.bool true) .standard))
      (.bind 9 "if" (.bool true) (one .standard)) ∧
    adder.Coincides (one (.bind 7 "y" (.bool true) .standard))
      (one .standard) ∧
    adder.Coincides (one (.bind 7 "x" (.bool true) .standard))
      (one .standard) ∧
    adder.Coincides (one (.bind 7 "add" (.bool true) .standard))
      (.bind 7 "add" (.bool true) (one .standard)) := by
  intro adder one
  obtain ⟨hagree, hother, hhidden, hswap⟩ :=
    evaluate_depends_on_free_variables
  refine ⟨hagree _ _ _ ?_, hother _ (one .empty) _ _ _ _ ?_,
    hhidden _ (one .empty) _ _ _ _ ?_, hswap _ .empty _ _ _ _ _ _ _ ?_⟩
  · rintro name ⟨hname, (rfl | rfl) | rfl⟩
    · rfl
    · rfl
    · exact absurd rfl hname
  · exact fun hfree => hfree.1 rfl
  · exact List.mem_cons_self
  · decide

end Tree
end LamApp
