import LamApp.Machine

/-!
# What evaluations come to

The machine takes one step after the other and keeps the waiting applications
in frames. Here evaluation is a relation by the structure of what is evaluated,
without frames: an application comes to what the call of its function with its
argument comes to.

Main statement: the machine ends exactly if the relation gives an outcome, and
then with this outcome. So evaluation can be reasoned about by induction on the
derivation of an outcome.
-/

namespace LamApp

/-- What a control comes to from a given stamp on. -/
inductive Control.Yields : Control → Stamp → Evaluation → Prop
  | ret (value : Value) (stamp : Stamp) :
      Yields (.ret value) stamp ⟨.ok value, stamp⟩
  | error (cause : SyntaxError) (site : Site) (scope : Scope)
      (stamp : Stamp) :
      Yields (.eval (.error cause) site scope) stamp
        ⟨.error (.unreadable cause), stamp⟩
  | var (name : String) (site : Site) (scope : Scope) (stamp : Stamp) :
      Yields (.eval (.var name) site scope) stamp
        ⟨scope.resolve name, stamp⟩
  | number (value : Int) (site : Site) (scope : Scope) (stamp : Stamp) :
      Yields (.eval (.number value) site scope) stamp
        ⟨.ok (.number value), stamp⟩
  | bool (value : Bool) (site : Site) (scope : Scope) (stamp : Stamp) :
      Yields (.eval (.bool value) site scope) stamp
        ⟨.ok (.bool value), stamp⟩
  | lam (parameter : String) (body : Expr)
      (site : Site) (scope : Scope) (stamp : Stamp) :
      Yields (.eval (.lam parameter body) site scope) stamp
        ⟨.ok (.closure site parameter body scope), stamp⟩
  | functionError {f a : Expr} {site : Site} {scope : Scope}
      {stamp stamp' : Stamp} {cause : RuntimeError} :
      Yields (.eval f (site.turn .function) scope) stamp
        ⟨.error cause, stamp'⟩ →
      Yields (.eval (.app f a) site scope) stamp ⟨.error cause, stamp'⟩
  | argumentError {f a : Expr} {site : Site} {scope : Scope}
      {stamp stamp' stamp'' : Stamp} {function : Value}
      {cause : RuntimeError} :
      Yields (.eval f (site.turn .function) scope) stamp
        ⟨.ok function, stamp'⟩ →
      Yields (.eval a (site.turn .argument) scope) stamp'
        ⟨.error cause, stamp''⟩ →
      Yields (.eval (.app f a) site scope) stamp ⟨.error cause, stamp''⟩
  | app {f a : Expr} {site : Site} {scope : Scope}
      {stamp stamp' stamp'' : Stamp} {function argument : Value}
      {evaluation : Evaluation} :
      Yields (.eval f (site.turn .function) scope) stamp
        ⟨.ok function, stamp'⟩ →
      Yields (.eval a (site.turn .argument) scope) stamp'
        ⟨.ok argument, stamp''⟩ →
      Yields (.call function argument) stamp'' evaluation →
      Yields (.eval (.app f a) site scope) stamp evaluation
  | callBuiltin (created : Stamp) (builtin : Builtin)
      (argument : Value) (stamp : Stamp) :
      Yields (.call (.builtin created builtin) argument) stamp
        ⟨builtin.apply stamp argument, stamp + 1⟩
  | callClosure {site : Site} {parameter : String} {body : Expr}
      {scope : Scope} {argument : Value} {stamp : Stamp}
      {evaluation : Evaluation} :
      Yields
        (.eval body (site.turn .body) (.bind stamp parameter argument scope))
        (stamp + 1) evaluation →
      Yields (.call (.closure site parameter body scope) argument) stamp
        evaluation
  | callError (cause : RuntimeError) (argument : Value) (stamp : Stamp) :
      Yields (.call (.error cause) argument) stamp ⟨.error cause, stamp⟩
  | callNumber (value : Int) (argument : Value) (stamp : Stamp) :
      Yields (.call (.number value) argument) stamp
        ⟨.error (.invalidFunction (Value.number value).render), stamp⟩
  | callBool (value : Bool) (argument : Value) (stamp : Stamp) :
      Yields (.call (.bool value) argument) stamp
        ⟨.error (.invalidFunction (Value.bool value).render), stamp⟩

namespace Machine

theorem run_succ_of_next
    {machine machine' : Machine} (hnext : machine.advance = .next machine')
    (limit : Nat) :
    run (limit + 1) machine = run limit machine' := by
  rw [run, hnext]

/-- The machine comes to an end, with the given evaluation. -/
def Ends (machine : Machine) (evaluation : Evaluation) : Prop :=
  ∃ limit, run limit machine = some evaluation

/-- One step does not change how a machine ends. -/
theorem ends_iff_of_next
    {machine machine' : Machine} (hnext : machine.advance = .next machine')
    (evaluation : Evaluation) :
    machine.Ends evaluation ↔ machine'.Ends evaluation := by
  constructor
  · rintro ⟨limit, hrun⟩
    cases limit with
    | zero =>
        cases hrun
    | succ limit =>
        rw [run_succ_of_next hnext] at hrun
        exact ⟨limit, hrun⟩
  · rintro ⟨limit, hrun⟩
    refine ⟨limit + 1, ?_⟩
    rw [run_succ_of_next hnext]
    exact hrun

theorem ends_iff_of_done
    {machine : Machine} {evaluation : Evaluation}
    (hdone : machine.advance = .done evaluation)
    (evaluation' : Evaluation) :
    machine.Ends evaluation' ↔ evaluation' = evaluation := by
  constructor
  · rintro ⟨limit, hrun⟩
    cases limit with
    | zero =>
        cases hrun
    | succ limit =>
        rw [run, hdone] at hrun
        cases hrun
        rfl
  · rintro rfl
    refine ⟨1, ?_⟩
    rw [run, hdone]

/-- A machine ends in one way at most. -/
theorem Ends.unique
    {machine : Machine} {evaluation evaluation' : Evaluation}
    (h : machine.Ends evaluation) (h' : machine.Ends evaluation') :
    evaluation = evaluation' := by
  obtain ⟨limit, hrun⟩ := h
  obtain ⟨limit', hrun'⟩ := h'
  have hlong := run_mono (Nat.le_max_left limit limit') hrun
  have hlong' := run_mono (Nat.le_max_right limit limit') hrun'
  rw [hlong] at hlong'
  exact Option.some.inj hlong'

/-- A value is handed to the waiting frames, an error ends the machine. -/
def HandsOn
    (frames : List Frame) (evaluation evaluation' : Evaluation) : Prop :=
  match evaluation.outcome with
  | .ok value => Ends ⟨.ret value, frames, evaluation.stamp⟩ evaluation'
  | .error _ => evaluation' = evaluation

theorem handsOn_ok
    (frames : List Frame) (value : Value) (stamp : Stamp)
    (evaluation : Evaluation) :
    HandsOn frames ⟨.ok value, stamp⟩ evaluation ↔
      Ends ⟨.ret value, frames, stamp⟩ evaluation := by
  rfl

theorem handsOn_error
    (frames : List Frame) (cause : RuntimeError) (stamp : Stamp)
    (evaluation : Evaluation) :
    HandsOn frames ⟨.error cause, stamp⟩ evaluation ↔
      evaluation = ⟨.error cause, stamp⟩ := by
  rfl

theorem ends_settle_iff
    {machine : Machine} {outcome : Outcome} {stamp : Stamp}
    (hsettle : machine.advance = settle outcome machine.frames stamp)
    (evaluation : Evaluation) :
    machine.Ends evaluation ↔
      HandsOn machine.frames ⟨outcome, stamp⟩ evaluation := by
  cases outcome with
  | ok value =>
      exact ends_iff_of_next hsettle evaluation
  | error cause =>
      exact ends_iff_of_done hsettle evaluation

/-- In front of any frames the machine does what its control comes to, and
then goes on with the frames. -/
theorem ends_iff_of_yields
    {control : Control} {stamp : Stamp} {result : Evaluation}
    (hyields : control.Yields stamp result)
    (frames : List Frame) (evaluation : Evaluation) :
    Ends ⟨control, frames, stamp⟩ evaluation ↔
      HandsOn frames result evaluation := by
  induction hyields generalizing frames with
  | ret value stamp =>
      rfl
  | functionError _ ih =>
      rw [ends_iff_of_next rfl, ih, handsOn_error, handsOn_error]
  | argumentError _ _ ihf iha =>
      rw [ends_iff_of_next rfl, ihf, handsOn_ok, ends_iff_of_next rfl, iha,
        handsOn_error, handsOn_error]
  | app _ _ _ ihf iha ihc =>
      rw [ends_iff_of_next rfl, ihf, handsOn_ok, ends_iff_of_next rfl, iha,
        handsOn_ok, ends_iff_of_next rfl, ihc]
  | callClosure _ ih =>
      rw [ends_iff_of_next rfl, ih]
  | _ =>
      exact ends_settle_iff rfl evaluation

theorem run_of_settle
    {limit : Nat} {machine : Machine} {outcome : Outcome} {stamp : Stamp}
    {evaluation : Evaluation}
    (hsettle : machine.advance = settle outcome machine.frames stamp)
    (hrun : run (limit + 1) machine = some evaluation) :
    ∀ value, outcome = .ok value →
      ∃ limit' ≤ limit + 1,
        run limit' ⟨.ret value, machine.frames, stamp⟩ = some evaluation := by
  rintro value rfl
  rw [run_succ_of_next hsettle] at hrun
  exact ⟨limit, by omega, hrun⟩

/-- A control that runs to an end comes to something, and what is then left to
do takes no longer. -/
theorem exists_yields_of_run
    (limit : Nat) {control : Control} {frames : List Frame} {stamp : Stamp}
    {evaluation : Evaluation}
    (hrun : run limit ⟨control, frames, stamp⟩ = some evaluation) :
    ∃ result,
      control.Yields stamp result ∧
      ∀ value, result.outcome = .ok value →
        ∃ limit' ≤ limit,
          run limit' ⟨.ret value, frames, result.stamp⟩ = some evaluation := by
  induction limit using Nat.strongRecOn
    generalizing control frames stamp with
  | _ limit ih =>
      cases limit with
      | zero =>
          cases hrun
      | succ limit =>
          cases control with
          | ret value =>
              refine ⟨_, .ret value stamp, ?_⟩
              rintro value' ⟨⟩
              exact ⟨limit + 1, Nat.le_refl _, hrun⟩
          | eval e site scope =>
              cases e with
              | error cause =>
                  exact ⟨_, .error cause site scope stamp,
                    run_of_settle rfl hrun⟩
              | var name =>
                  exact ⟨_, .var name site scope stamp,
                    run_of_settle rfl hrun⟩
              | number value =>
                  exact ⟨_, .number value site scope stamp,
                    run_of_settle rfl hrun⟩
              | bool value =>
                  exact ⟨_, .bool value site scope stamp,
                    run_of_settle rfl hrun⟩
              | lam parameter body =>
                  exact ⟨_, .lam parameter body site scope stamp,
                    run_of_settle rfl hrun⟩
              | app f a =>
                  -- Three runs, each within what the one before has left.
                  rw [run_succ_of_next rfl] at hrun
                  obtain ⟨⟨outcome, stamp₁⟩, hf, hrest⟩ :=
                    ih limit (by omega) hrun
                  cases outcome with
                  | error cause =>
                      exact ⟨_, .functionError hf, by rintro value ⟨⟩⟩
                  | ok function =>
                      obtain ⟨_ | limit₁, hle₁, hrun₁⟩ := hrest function rfl
                      · cases hrun₁
                      rw [run_succ_of_next rfl] at hrun₁
                      obtain ⟨⟨outcome, stamp₂⟩, ha, hrest₁⟩ :=
                        ih limit₁ (by omega) hrun₁
                      cases outcome with
                      | error cause =>
                          exact ⟨_, .argumentError hf ha, by rintro value ⟨⟩⟩
                      | ok argument =>
                          obtain ⟨_ | limit₂, hle₂, hrun₂⟩ :=
                            hrest₁ argument rfl
                          · cases hrun₂
                          rw [run_succ_of_next rfl] at hrun₂
                          obtain ⟨result, hc, hrest₂⟩ :=
                            ih limit₂ (by omega) hrun₂
                          refine ⟨result, .app hf ha hc, ?_⟩
                          intro value hvalue
                          obtain ⟨limit₃, hle₃, hrun₃⟩ :=
                            hrest₂ value hvalue
                          exact ⟨limit₃, by omega, hrun₃⟩
          | call function argument =>
              cases function with
              | error cause =>
                  exact ⟨_, .callError cause argument stamp,
                    run_of_settle rfl hrun⟩
              | bool value =>
                  exact ⟨_, .callBool value argument stamp,
                    run_of_settle rfl hrun⟩
              | number value =>
                  exact ⟨_, .callNumber value argument stamp,
                    run_of_settle rfl hrun⟩
              | builtin created builtin =>
                  exact ⟨_, .callBuiltin created builtin argument stamp,
                    run_of_settle rfl hrun⟩
              | closure site parameter body scope =>
                  rw [run_succ_of_next rfl] at hrun
                  obtain ⟨result, hyields, hrest⟩ :=
                    ih limit (by omega) hrun
                  refine ⟨result, .callClosure hyields, ?_⟩
                  intro value hvalue
                  obtain ⟨limit', hle, hrun'⟩ := hrest value hvalue
                  exact ⟨limit', by omega, hrun'⟩

/-- The machine ends exactly with what its control comes to. -/
theorem ends_iff_yields
    (control : Control) (stamp : Stamp) (evaluation : Evaluation) :
    Ends ⟨control, [], stamp⟩ evaluation ↔
      control.Yields stamp evaluation := by
  have hends : ∀ result, control.Yields stamp result →
      Ends ⟨control, [], stamp⟩ result := by
    intro result hyields
    rw [ends_iff_of_yields hyields]
    obtain ⟨outcome, stamp'⟩ := result
    cases outcome with
    | ok value =>
        rw [handsOn_ok, ends_iff_of_done rfl]
    | error cause =>
        rw [handsOn_error]
  constructor
  · intro h
    obtain ⟨limit, hrun⟩ := h
    obtain ⟨result, hyields, -⟩ := exists_yields_of_run limit hrun
    have hresult := hends result hyields
    rwa [Ends.unique ⟨limit, hrun⟩ hresult]
  · exact hends evaluation

end Machine

theorem Control.Yields.unique
    {control : Control} {stamp : Stamp} {evaluation evaluation' : Evaluation}
    (h : control.Yields stamp evaluation)
    (h' : control.Yields stamp evaluation') :
    evaluation = evaluation' := by
  rw [← Machine.ends_iff_yields] at h h'
  exact h.unique h'

namespace Control

/-- An application of which both sides come to values does what their call
does. -/
theorem yields_app_iff
    {f a : Expr} {site : Site} {scope : Scope} {stamp stamp' stamp'' : Stamp}
    {function argument : Value}
    (hf : Yields (.eval f (site.turn .function) scope) stamp
      ⟨.ok function, stamp'⟩)
    (ha : Yields (.eval a (site.turn .argument) scope) stamp'
      ⟨.ok argument, stamp''⟩)
    (evaluation : Evaluation) :
    Yields (.eval (.app f a) site scope) stamp evaluation ↔
      Yields (.call function argument) stamp'' evaluation := by
  constructor
  · intro happ
    cases happ with
    | functionError hf' =>
        cases hf.unique hf'
    | argumentError hf' ha' =>
        cases hf.unique hf'
        cases ha.unique ha'
    | app hf' ha' hcall =>
        cases hf.unique hf'
        cases ha.unique ha'
        exact hcall
  · exact .app hf ha

/-- The call of a closure does what its body does. -/
theorem yields_call_closure_iff
    {site : Site} {parameter : String} {body : Expr} {scope : Scope}
    {argument : Value} {stamp : Stamp} (evaluation : Evaluation) :
    Yields (.call (.closure site parameter body scope) argument) stamp
        evaluation ↔
      Yields
        (.eval body (site.turn .body) (.bind stamp parameter argument scope))
        (stamp + 1) evaluation := by
  constructor
  · intro hcall
    cases hcall with
    | callClosure hbody =>
        exact hbody
  · exact .callClosure

end Control

theorem Tree.yields_of_evaluate_eq_some
    {limit : Nat} {tree : Tree} {scope : Scope} {stamp : Stamp}
    {result : Evaluation} (h : tree.evaluate limit scope stamp = some result) :
    Control.Yields (.eval tree.root (.root tree.stamp) scope) stamp result :=
  (Machine.ends_iff_yields _ _ _).mp ⟨limit, h⟩

theorem Value.yields_of_apply_eq_some
    {limit : Nat} {function argument : Value} {stamp : Stamp}
    {result : Evaluation}
    (h : function.apply limit argument stamp = some result) :
    Control.Yields (.call function argument) stamp result :=
  (Machine.ends_iff_yields _ _ _).mp ⟨limit, h⟩

namespace Expr

/-- The value of a program is what its evaluation in the standard scope comes
to. -/
theorem exists_evaluate_eq_some_iff
    (e : Expr) (value : Value) :
    (∃ limit, e.evaluate limit = some value) ↔
      ∃ result : Evaluation,
        Control.Yields (.eval e (.root Stamp.start) .standard)
          (Stamp.start + 1) result ∧
        result.outcome.toValue = value := by
  simp only [← Machine.ends_iff_yields, Machine.Ends, evaluate, Tree.evaluate,
    Option.map_eq_some_iff]
  constructor
  · rintro ⟨limit, result, hrun, hvalue⟩
    exact ⟨result, ⟨limit, hrun⟩, hvalue⟩
  · rintro ⟨result, ⟨limit, hrun⟩, hvalue⟩
    exact ⟨limit, result, hrun, hvalue⟩

end Expr
end LamApp
