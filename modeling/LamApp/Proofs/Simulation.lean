import LamApp.Proofs.Evaluation

/-!
# Two evaluations side by side

Two evaluations that do the same things may still hold different values: the
stamps differ, and closures carry different scopes. Such values are related if
they have the same form, and if what is inside them is related again. A
relation of this kind, together with one of expressions in scopes, is a
simulation.

Main statements: in a simulation two evaluations come to an end together, with
related outcomes. If moreover errors are only related to themselves, related
values cannot be told apart, whatever they are applied to.
-/

namespace LamApp

/-- Both outcomes are values and related, or both are errors and related. -/
inductive Outcome.Related
    (V : Value → Value → Prop) (C : RuntimeError → RuntimeError → Prop) :
    Outcome → Outcome → Prop
  | ok {value value' : Value} :
      V value value' → Related V C (.ok value) (.ok value')
  | error {cause cause' : RuntimeError} :
      C cause cause' → Related V C (.error cause) (.error cause')

/-- Two computations come to an end together, with related outcomes. -/
def Alike
    (R : Outcome → Outcome → Prop)
    (first second : Nat → Option Evaluation) :
    Prop :=
  ((∃ limit result, first limit = some result) ↔
    ∃ limit result, second limit = some result) ∧
  ∀ limit limit' result result',
    first limit = some result → second limit' = some result' →
    R result.outcome result'.outcome

namespace Value

/-- The same number, truth value or error, or two functions of the same kind
with the same written form. -/
def LooksLike : Value → Value → Prop
  | .error cause, .error cause' => cause = cause'
  | .bool value, .bool value' => value = value'
  | .number value, .number value' => value = value'
  | .builtin stamp function, .builtin stamp' function' =>
    (builtin stamp function).render = (builtin stamp' function').render
  | .closure site parameter body scope,
      .closure site' parameter' body' scope' =>
    (closure site parameter body scope).render =
      (closure site' parameter' body' scope').render
  | _, _ => False

/-- The values look alike, and so do all results of applying both to the same
arguments, as many of them as are given. -/
def IndistinguishableFor : Nat → Value → Value → Prop
  | 0, value, value' => value.LooksLike value'
  | count + 1, value, value' =>
    value.LooksLike value' ∧
    ∀ (argument : Value) (stamp stamp' : Stamp),
      Alike (Outcome.Related (IndistinguishableFor count) Eq)
        (value.apply · argument stamp) (value'.apply · argument stamp')

/-- No number of arguments tells the values apart. -/
def Indistinguishable (value value' : Value) : Prop :=
  ∀ count, IndistinguishableFor count value value'

end Value

/-- The same builtin, with related arguments. -/
def Builtin.Related (V : Value → Value → Prop) : Builtin → Builtin → Prop
  | .condElse condition value, .condElse condition' value' =>
    condition = condition' ∧ V value value'
  | function, function' => function = function'

/-- Values of the same form. What is inside them is related, and for closures
this means the bodies, in front of any related arguments. -/
inductive Value.SameForm
    (V : Value → Value → Prop) (E : Expr → Scope → Expr → Scope → Prop)
    (C : RuntimeError → RuntimeError → Prop) :
    Value → Value → Prop
  | error {cause cause' : RuntimeError} :
      C cause cause' → SameForm V E C (.error cause) (.error cause')
  | bool (value : Bool) : SameForm V E C (.bool value) (.bool value)
  | number (value : Int) : SameForm V E C (.number value) (.number value)
  | builtin {stamp stamp' : Stamp} {function function' : Builtin} :
      function.Related V function' →
      SameForm V E C (.builtin stamp function) (.builtin stamp' function')
  | closure {site site' : Site} {parameter parameter' : String}
      {body body' : Expr} {scope scope' : Scope} :
      (∀ stamp stamp' argument argument', V argument argument' →
        E body (.bind stamp parameter argument scope)
          body' (.bind stamp' parameter' argument' scope')) →
      SameForm V E C (.closure site parameter body scope)
        (.closure site' parameter' body' scope')

/-- Expressions of the same form, in scopes that give them the same meaning. -/
inductive Expr.SameForm
    (V : Value → Value → Prop) (E : Expr → Scope → Expr → Scope → Prop)
    (C : RuntimeError → RuntimeError → Prop) :
    Expr → Scope → Expr → Scope → Prop
  | error {cause cause' : SyntaxError} {scope scope' : Scope} :
      C (.unreadable cause) (.unreadable cause') →
      SameForm V E C (.error cause) scope (.error cause') scope'
  | var {name name' : String} {scope scope' : Scope} :
      Outcome.Related V C (scope.resolve name) (scope'.resolve name') →
      SameForm V E C (.var name) scope (.var name') scope'
  | number (value : Int) {scope scope' : Scope} :
      SameForm V E C (.number value) scope (.number value) scope'
  | bool (value : Bool) {scope scope' : Scope} :
      SameForm V E C (.bool value) scope (.bool value) scope'
  | lam {parameter parameter' : String} {body body' : Expr}
      {scope scope' : Scope} :
      (∀ site site',
        V (.closure site parameter body scope)
          (.closure site' parameter' body' scope')) →
      SameForm V E C (.lam parameter body) scope (.lam parameter' body') scope'
  | app {f f' a a' : Expr} {scope scope' : Scope} :
      E f scope f' scope' →
      E a scope a' scope' →
      SameForm V E C (.app f a) scope (.app f' a') scope'

/-- Relations of values, of expressions in scopes and of errors that every step
of an evaluation keeps. -/
structure Simulation
    (V : Value → Value → Prop) (E : Expr → Scope → Expr → Scope → Prop)
    (C : RuntimeError → RuntimeError → Prop) :
    Prop where
  value : ∀ {value value'}, V value value' → Value.SameForm V E C value value'
  expr : ∀ {e scope e' scope'}, E e scope e' scope' →
    Expr.SameForm V E C e scope e' scope'
  number : ∀ value, V (.number value) (.number value)
  bool : ∀ value, V (.bool value) (.bool value)
  builtin : ∀ stamp stamp' {function function'},
    Builtin.Related V function function' →
    V (.builtin stamp function) (.builtin stamp' function')
  notNumber : ∀ builtin {value value'}, V value value' →
    C (.notNumber builtin value.render) (.notNumber builtin value'.render)
  notBool : ∀ builtin {value value'}, V value value' →
    C (.notBool builtin value.render) (.notBool builtin value'.render)
  invalidFunction : ∀ text, C (.invalidFunction text) (.invalidFunction text)

/-- The controls of two machines that do the same things. -/
inductive Control.Related
    (V : Value → Value → Prop) (E : Expr → Scope → Expr → Scope → Prop) :
    Control → Control → Prop
  | eval (site site' : Site) {e e' : Expr} {scope scope' : Scope} :
      E e scope e' scope' →
      Related V E (.eval e site scope) (.eval e' site' scope')
  | ret {value value' : Value} :
      V value value' → Related V E (.ret value) (.ret value')
  | call {function function' argument argument' : Value} :
      V function function' → V argument argument' →
      Related V E (.call function argument) (.call function' argument')

/-! ## Relations read in another way -/

theorem Outcome.Related.imp
    {V V' : Value → Value → Prop} {C : RuntimeError → RuntimeError → Prop}
    (hV : ∀ value value', V value value' → V' value value')
    {outcome outcome' : Outcome} (h : Outcome.Related V C outcome outcome') :
    Outcome.Related V' C outcome outcome' := by
  cases h with
  | ok hvalue =>
      exact .ok (hV _ _ hvalue)
  | error hcause =>
      exact .error hcause

theorem Alike.imp
    {R R' : Outcome → Outcome → Prop}
    (hR : ∀ outcome outcome', R outcome outcome' → R' outcome outcome')
    {first second : Nat → Option Evaluation} (h : Alike R first second) :
    Alike R' first second := by
  refine ⟨h.1, fun limit limit' result result' hrun hrun' => ?_⟩
  exact hR _ _ (h.2 limit limit' result result' hrun hrun')

/-- A computation may be exchanged for one that ends in the same way. -/
theorem Alike.of_ends_iff
    {R : Outcome → Outcome → Prop}
    {first first' second : Nat → Option Evaluation}
    (hends : ∀ result,
      (∃ limit, first limit = some result) ↔
        ∃ limit, first' limit = some result)
    (h : Alike R first' second) :
    Alike R first second := by
  refine ⟨?_, fun limit limit' result result' hrun hrun' => ?_⟩
  · rw [← h.1, exists_comm, exists_comm (p := fun limit result =>
      first' limit = some result)]
    exact exists_congr hends
  · obtain ⟨limit₁, hrun₁⟩ := (hends result).mp ⟨limit, hrun⟩
    exact h.2 limit₁ limit' result result' hrun₁ hrun'

theorem Outcome.Related.symm
    {V : Value → Value → Prop} {C : RuntimeError → RuntimeError → Prop}
    {outcome outcome' : Outcome} (h : Outcome.Related V C outcome outcome') :
    Outcome.Related (flip V) (flip C) outcome' outcome := by
  cases h with
  | ok hvalue =>
      exact .ok hvalue
  | error hcause =>
      exact .error hcause

theorem Builtin.Related.symm
    {V : Value → Value → Prop} {function function' : Builtin}
    (h : function.Related V function') :
    function'.Related (flip V) function := by
  cases function with
  | condElse condition thenValue =>
      cases function' with
      | condElse condition' thenValue' =>
          exact ⟨h.1.symm, h.2⟩
      | _ =>
          cases h
  | _ =>
      cases h
      rfl

theorem Builtin.related_self
    {V : Value → Value → Prop} (hV : ∀ value, V value value)
    (function : Builtin) :
    function.Related V function := by
  cases function with
  | condElse condition thenValue =>
      exact ⟨rfl, hV thenValue⟩
  | _ =>
      rfl

/-- The builtins as values are related if `V` has a case for equal builtins and
one for those that remember a value. -/
theorem Builtin.Related.value
    {V : Value → Value → Prop}
    (hbuiltin : ∀ stamp stamp' function,
      V (.builtin stamp function) (.builtin stamp' function))
    (hcondElse : ∀ stamp stamp' condition {thenValue thenValue'},
      V thenValue thenValue' →
      V (.builtin stamp (.condElse condition thenValue))
        (.builtin stamp' (.condElse condition thenValue')))
    {function function' : Builtin} (h : function.Related V function')
    (stamp stamp' : Stamp) :
    V (.builtin stamp function) (.builtin stamp' function') := by
  cases function with
  | condElse condition thenValue =>
      cases function' with
      | condElse condition' thenValue' =>
          obtain ⟨rfl, hthen⟩ := h
          exact hcondElse stamp stamp' condition hthen
      | _ =>
          cases h
  | _ =>
      cases h
      exact hbuiltin stamp stamp' _

theorem Control.Related.symm
    {V : Value → Value → Prop} {E : Expr → Scope → Expr → Scope → Prop}
    {control control' : Control} (h : control.Related V E control') :
    control'.Related (flip V) (fun e scope e' scope' => E e' scope' e scope)
      control := by
  cases h with
  | eval site site' he =>
      exact .eval site' site he
  | ret hvalue =>
      exact .ret hvalue
  | call hfunction hargument =>
      exact .call hfunction hargument

namespace Simulation

variable
  {V : Value → Value → Prop} {E : Expr → Scope → Expr → Scope → Prop}
  {C : RuntimeError → RuntimeError → Prop}

/-! ## Builtins -/

/-- Related values are the same number, or none is a number. -/
theorem related_map_number?
    (sim : Simulation V E C)
    {value value' : Value} (hvalue : V value value') (builtin : String)
    {create create' : Int → Value}
    (hcreate : ∀ number, V (create number) (create' number)) :
    Outcome.Related V C ((value.number? builtin).map create)
      ((value'.number? builtin).map create') := by
  cases sim.value hvalue with
  | number number =>
      exact .ok (hcreate number)
  | _ =>
      exact .error (sim.notNumber builtin hvalue)

/-- Related values are the same truth value, or none is a truth value. -/
theorem related_map_bool?
    (sim : Simulation V E C)
    {value value' : Value} (hvalue : V value value') (builtin : String)
    {create create' : Bool → Value}
    (hcreate : ∀ bool, V (create bool) (create' bool)) :
    Outcome.Related V C ((value.bool? builtin).map create)
      ((value'.bool? builtin).map create') := by
  cases sim.value hvalue with
  | bool bool =>
      exact .ok (hcreate bool)
  | _ =>
      exact .error (sim.notBool builtin hvalue)

/-- Related builtins answer related arguments alike. -/
theorem related_apply
    (sim : Simulation V E C)
    {function function' : Builtin} (hfunction : function.Related V function')
    {argument argument' : Value} (hargument : V argument argument')
    (stamp stamp' : Stamp) :
    Outcome.Related V C (function.apply stamp argument)
      (function'.apply stamp' argument') := by
  cases function with
  | condElse condition thenValue =>
      cases function' with
      | condElse condition' thenValue' =>
          obtain ⟨rfl, hthen⟩ := hfunction
          cases condition with
          | true =>
              exact .ok hthen
          | false =>
              exact .ok hargument
      | _ =>
          cases hfunction
  | condThen condition =>
      obtain rfl : .condThen condition = function' := hfunction
      exact .ok (sim.builtin stamp stamp' ⟨rfl, hargument⟩)
  | add =>
      obtain rfl : .add = function' := hfunction
      exact sim.related_map_number? hargument "add"
        fun _ => sim.builtin stamp stamp' rfl
  | addTo left =>
      obtain rfl : .addTo left = function' := hfunction
      exact sim.related_map_number? hargument "add" fun _ => sim.number _
  | cond =>
      obtain rfl : .cond = function' := hfunction
      exact sim.related_map_bool? hargument "if"
        fun _ => sim.builtin stamp stamp' rfl
  | gt =>
      obtain rfl : .gt = function' := hfunction
      exact sim.related_map_number? hargument "gt"
        fun _ => sim.builtin stamp stamp' rfl
  | gtOver left =>
      obtain rfl : .gtOver left = function' := hfunction
      exact sim.related_map_number? hargument "gt" fun _ => sim.bool _

/-! ## Evaluation -/

/-- What the first of two related controls comes to, the second comes to as
well. -/
theorem exists_yields
    (sim : Simulation V E C)
    {control : Control} {stamp : Stamp} {result : Evaluation}
    (hyields : control.Yields stamp result)
    {control' : Control} (hrelated : control.Related V E control')
    (stamp' : Stamp) :
    ∃ result',
      control'.Yields stamp' result' ∧
      Outcome.Related V C result.outcome result'.outcome := by
  induction hyields generalizing control' stamp' with
  | ret value stamp =>
      cases hrelated with
      | ret hvalue =>
          exact ⟨_, .ret _ stamp', .ok hvalue⟩
  | error cause site scope stamp =>
      cases hrelated with
      | eval _ site' he =>
          cases sim.expr he with
          | error hcause =>
              exact ⟨_, .error _ site' _ stamp', .error hcause⟩
  | var name site scope stamp =>
      cases hrelated with
      | eval _ site' he =>
          cases sim.expr he with
          | var hresolve =>
              exact ⟨_, .var _ site' _ stamp', hresolve⟩
  | number value site scope stamp =>
      cases hrelated with
      | eval _ site' he =>
          cases sim.expr he
          exact ⟨_, .number value site' _ stamp', .ok (sim.number value)⟩
  | bool value site scope stamp =>
      cases hrelated with
      | eval _ site' he =>
          cases sim.expr he
          exact ⟨_, .bool value site' _ stamp', .ok (sim.bool value)⟩
  | lam parameter body site scope stamp =>
      cases hrelated with
      | eval _ site' he =>
          cases sim.expr he with
          | lam hclosure =>
              exact ⟨_, .lam _ _ site' _ stamp', .ok (hclosure site site')⟩
  | functionError _ ih =>
      cases hrelated with
      | eval _ site' he =>
          cases sim.expr he with
          | app hf _ =>
              obtain ⟨⟨_, _⟩, hyields, hcause⟩ :=
                ih (.eval _ (site'.turn .function) hf) stamp'
              cases hcause with
              | error hcause =>
                  exact ⟨_, .functionError hyields, .error hcause⟩
  | argumentError _ _ ihf iha =>
      cases hrelated with
      | eval _ site' he =>
          cases sim.expr he with
          | app hf ha =>
              obtain ⟨⟨_, stamp₁⟩, hyf, hfunction⟩ :=
                ihf (.eval _ (site'.turn .function) hf) stamp'
              cases hfunction
              obtain ⟨⟨_, _⟩, hya, hcause⟩ :=
                iha (.eval _ (site'.turn .argument) ha) stamp₁
              cases hcause with
              | error hcause =>
                  exact ⟨_, .argumentError hyf hya, .error hcause⟩
  | app _ _ _ ihf iha ihc =>
      cases hrelated with
      | eval _ site' he =>
          cases sim.expr he with
          | app hf ha =>
              obtain ⟨⟨_, stamp₁⟩, hyf, hfunction⟩ :=
                ihf (.eval _ (site'.turn .function) hf) stamp'
              obtain ⟨hfunction⟩ := hfunction
              obtain ⟨⟨_, stamp₂⟩, hya, hargument⟩ :=
                iha (.eval _ (site'.turn .argument) ha) stamp₁
              obtain ⟨hargument⟩ := hargument
              obtain ⟨result', hyc, hresult⟩ :=
                ihc (.call hfunction hargument) stamp₂
              exact ⟨result', .app hyf hya hyc, hresult⟩
  | callBuiltin created function argument stamp =>
      cases hrelated with
      | call hcalled hargument =>
          cases sim.value hcalled with
          | builtin hfunction =>
              exact ⟨_, .callBuiltin _ _ _ stamp',
                sim.related_apply hfunction hargument stamp stamp'⟩
  | callClosure _ ih =>
      cases hrelated with
      | call hcalled hargument =>
          cases sim.value hcalled with
          | @closure _ site' _ _ _ _ _ _ hbody =>
              obtain ⟨result', hyields, hresult⟩ :=
                ih (.eval _ (site'.turn .body) (hbody _ stamp' _ _ hargument))
                  (stamp' + 1)
              exact ⟨result', .callClosure hyields, hresult⟩
  | callError cause argument stamp =>
      cases hrelated with
      | call hcalled hargument =>
          cases sim.value hcalled with
          | error hcause =>
              exact ⟨_, .callError _ _ stamp', .error hcause⟩
  | callNumber value argument stamp =>
      cases hrelated with
      | call hcalled hargument =>
          cases sim.value hcalled
          exact ⟨_, .callNumber value _ stamp', .error (sim.invalidFunction _)⟩
  | callBool value argument stamp =>
      cases hrelated with
      | call hcalled hargument =>
          cases sim.value hcalled
          exact ⟨_, .callBool value _ stamp', .error (sim.invalidFunction _)⟩

/-- A simulation can be read backwards. -/
theorem symm
    (sim : Simulation V E C) :
    Simulation (flip V) (fun e scope e' scope' => E e' scope' e scope)
      (flip C) where
  value h := by
    cases sim.value h with
    | error hcause =>
        exact .error hcause
    | bool value =>
        exact .bool value
    | number value =>
        exact .number value
    | builtin hfunction =>
        exact .builtin hfunction.symm
    | closure hbody =>
        exact .closure fun stamp stamp' argument argument' hargument =>
          hbody stamp' stamp argument' argument hargument
  expr h := by
    cases sim.expr h with
    | error hcause =>
        exact .error hcause
    | var hresolve =>
        exact .var hresolve.symm
    | number value =>
        exact .number value
    | bool value =>
        exact .bool value
    | lam hclosure =>
        exact .lam fun site site' => hclosure site' site
    | app hf ha =>
        exact .app hf ha
  number := sim.number
  bool := sim.bool
  builtin stamp stamp' {_ _} h := sim.builtin stamp' stamp h.symm
  notNumber builtin {_ _} h := sim.notNumber builtin h
  notBool builtin {_ _} h := sim.notBool builtin h
  invalidFunction := sim.invalidFunction

/-- Related controls come to an end together, with related outcomes. -/
theorem alike
    (sim : Simulation V E C)
    {control control' : Control} (hrelated : control.Related V E control')
    (stamp stamp' : Stamp) :
    Alike (Outcome.Related V C)
      (Machine.run · ⟨control, [], stamp⟩)
      (Machine.run · ⟨control', [], stamp'⟩) := by
  constructor
  · constructor
    · rintro ⟨limit, result, hrun⟩
      have hyields := (Machine.ends_iff_yields _ _ _).mp ⟨limit, hrun⟩
      obtain ⟨result', hyields', -⟩ :=
        sim.exists_yields hyields hrelated stamp'
      obtain ⟨limit', hrun'⟩ := (Machine.ends_iff_yields _ _ _).mpr hyields'
      exact ⟨limit', result', hrun'⟩
    · rintro ⟨limit', result', hrun'⟩
      have hyields' := (Machine.ends_iff_yields _ _ _).mp ⟨limit', hrun'⟩
      obtain ⟨result, hyields, -⟩ :=
        sim.symm.exists_yields hyields' hrelated.symm stamp
      obtain ⟨limit, hrun⟩ := (Machine.ends_iff_yields _ _ _).mpr hyields
      exact ⟨limit, result, hrun⟩
  · intro limit limit' result result' hrun hrun'
    have hyields := (Machine.ends_iff_yields _ _ _).mp ⟨limit, hrun⟩
    have hyields' := (Machine.ends_iff_yields _ _ _).mp ⟨limit', hrun'⟩
    obtain ⟨result'', hyields'', hresult⟩ :=
      sim.exists_yields hyields hrelated stamp'
    rwa [hyields'.unique hyields'']

theorem alike_evaluate
    (sim : Simulation V E C) {tree tree' : Tree} {scope scope' : Scope}
    (h : E tree.root scope tree'.root scope') (stamp stamp' : Stamp) :
    Alike (Outcome.Related V C)
      (tree.evaluate · scope stamp) (tree'.evaluate · scope' stamp') :=
  sim.alike (.eval _ _ h) stamp stamp'

theorem alike_apply
    (sim : Simulation V E C) {function function' argument argument' : Value}
    (hfunction : V function function') (hargument : V argument argument')
    (stamp stamp' : Stamp) :
    Alike (Outcome.Related V C)
      (function.apply · argument stamp) (function'.apply · argument' stamp') :=
  sim.alike (.call hfunction hargument) stamp stamp'

/-! ## Values that cannot be told apart -/

theorem looksLike
    (sim : Simulation V E Eq) {value value' : Value} (h : V value value') :
    value.LooksLike value' := by
  have hrender : value.render = value'.render := by
    simpa using sim.notNumber "" h
  cases sim.value h with
  | error hcause =>
      exact hcause
  | bool value =>
      rfl
  | number value =>
      rfl
  | builtin _ =>
      exact hrender
  | closure _ =>
      exact hrender

/-- If errors are only related to themselves, and values at least to
themselves, then related values cannot be told apart. -/
theorem indistinguishable
    (sim : Simulation V E Eq) (hrefl : ∀ value, V value value)
    {value value' : Value} (h : V value value') :
    value.Indistinguishable value' := by
  intro count
  induction count generalizing value value' with
  | zero =>
      exact sim.looksLike h
  | succ count ih =>
      refine ⟨sim.looksLike h, fun argument stamp stamp' => ?_⟩
      exact (sim.alike_apply h (hrefl argument) stamp stamp').imp
        fun _ _ hresult => hresult.imp fun _ _ hvalue => ih hvalue

/-- Such a simulation leads to outcomes that cannot be told apart. -/
theorem alike_indistinguishable
    (sim : Simulation V E Eq) (hrefl : ∀ value, V value value)
    {tree tree' : Tree} {scope scope' : Scope}
    (h : E tree.root scope tree'.root scope') (stamp stamp' : Stamp) :
    Alike (Outcome.Related Value.Indistinguishable Eq)
      (tree.evaluate · scope stamp) (tree'.evaluate · scope' stamp') :=
  (sim.alike_evaluate h stamp stamp').imp fun _ _ hresult =>
    hresult.imp fun _ _ hvalue => sim.indistinguishable hrefl hvalue

end Simulation
end LamApp
