import LamApp.Proofs.Ledger

/-!
# The same evaluation at another time

Two evaluations of one tree in one scope that begin at different times create
the same things under different stamps. Here the stamps inside values and scopes
are replaced, and what was there before the first evaluation keeps its stamps.

Main statements: evaluation goes along with every replacement that keeps the
order in which stamps are given out. Hence the outcome of the later evaluation
is that of the earlier one, with the stamps that were given out since then
moved. A value is the same as before by its identity exactly if it is no
function, or a function that was there before both.
-/

namespace LamApp

/-! ## Replacing stamps -/

mutual

/-- Other stamps for the builtins and the bindings inside a value. -/
def Value.restamp (f : Stamp → Stamp) : Value → Value
  | .builtin stamp function => .builtin (f stamp) (function.restamp f)
  | .closure site parameter body scope =>
    .closure site parameter body (scope.restamp f)
  | value => value

/-- Other stamps inside the arguments of a builtin. -/
def Builtin.restamp (f : Stamp → Stamp) : Builtin → Builtin
  | .condElse condition thenValue =>
    .condElse condition (thenValue.restamp f)
  | function => function

/-- Other stamps for the bindings of a scope, and inside their values. -/
def Scope.restamp (f : Stamp → Stamp) : Scope → Scope
  | .empty => .empty
  | .bind stamp symbol value outer =>
    .bind (f stamp) symbol (value.restamp f) (outer.restamp f)

end

/-- Other stamps for all that a control works with. -/
def Control.restamp (f : Stamp → Stamp) : Control → Control
  | .eval e site scope => .eval e site (scope.restamp f)
  | .ret value => .ret (value.restamp f)
  | .call function argument =>
    .call (function.restamp f) (argument.restamp f)

/-- Other stamps inside an outcome. -/
def Outcome.restamp (f : Stamp → Stamp) (outcome : Outcome) : Outcome :=
  outcome.map (Value.restamp f)

section

variable (f : Stamp → Stamp)

/-! Stamps are not seen in written forms, nor by the checks of the builtins. -/

mutual

@[simp] theorem Value.render_restamp (value : Value) :
    (value.restamp f).render = value.render := by
  match value with
  | .error cause | .bool value | .number value
  | .closure site parameter body scope =>
      rfl
  | .builtin stamp function =>
      rw [Value.restamp, Value.render, Value.render, function.name_restamp]

@[simp] theorem Builtin.name_restamp (function : Builtin) :
    (function.restamp f).name = function.name := by
  match function with
  | .condElse condition thenValue =>
      rw [Builtin.restamp, Builtin.name, Builtin.name,
        thenValue.render_restamp]
  | .add | .addTo left | .cond | .condThen condition | .gt | .gtOver left =>
      rfl

end

@[simp] theorem Value.number?_restamp
    (value : Value) (builtin : String) :
    (value.restamp f).number? builtin = value.number? builtin := by
  cases value with
  | builtin stamp function =>
      simp [restamp, number?, render]
  | _ =>
      rfl

@[simp] theorem Value.bool?_restamp
    (value : Value) (builtin : String) :
    (value.restamp f).bool? builtin = value.bool? builtin := by
  cases value with
  | builtin stamp function =>
      simp [restamp, bool?, render]
  | _ =>
      rfl

theorem Scope.lookup_restamp
    (scope : Scope) (name : String) :
    (scope.restamp f).lookup name =
      (scope.lookup name).map (Value.restamp f) := by
  match scope with
  | .empty =>
      rfl
  | .bind stamp symbol value outer =>
      rw [restamp, lookup, lookup]
      split
      · rfl
      · exact outer.lookup_restamp name

theorem Scope.resolve_restamp
    (scope : Scope) (name : String) :
    (scope.restamp f).resolve name =
      Outcome.restamp f (scope.resolve name) := by
  rw [resolve, resolve, lookup_restamp]
  cases scope.lookup name with
  | none =>
      rfl
  | some value =>
      cases value <;> rfl

/-- A check that comes to the same thing makes the same value. -/
theorem Outcome.restamp_map
    {α : Type} (given : Except RuntimeError α) (create : α → Value) :
    Outcome.restamp f (given.map create) =
      given.map fun content => (create content).restamp f := by
  cases given <;> rfl

theorem Builtin.apply_restamp
    (function : Builtin) (stamp : Stamp) (argument : Value) :
    (function.restamp f).apply (f stamp) (argument.restamp f) =
      Outcome.restamp f (function.apply stamp argument) := by
  cases function with
  | condElse condition thenValue =>
      cases condition <;> rfl
  | condThen condition =>
      rfl
  | _ =>
      simp only [restamp, apply, Value.number?_restamp, Value.bool?_restamp,
        Outcome.restamp_map, Value.restamp]

end

/-! ## Evaluation goes along -/

namespace Control.Yields

/-- Stamps are given out in order. -/
theorem le_stamp
    {control : Control} {stamp : Stamp} {result : Evaluation}
    (h : control.Yields stamp result) :
    stamp ≤ result.stamp := by
  induction h with
  | argumentError _ _ ihf iha =>
      exact Nat.le_trans ihf iha
  | app _ _ _ ihf iha ihc =>
      exact Nat.le_trans ihf (Nat.le_trans iha ihc)
  | callBuiltin created builtin argument stamp =>
      exact Nat.le_succ stamp
  | callClosure _ ih =>
      exact Nat.le_of_succ_le ih
  | functionError _ ih =>
      exact ih
  | _ =>
      exact Nat.le_refl _

/-- What is created under the next stamp is created under the next one again,
if from now on the new stamps follow each other as the old ones do. -/
theorem restamp
    {control : Control} {stamp : Stamp} {result : Evaluation}
    (h : control.Yields stamp result) {f : Stamp → Stamp}
    (hf : ∀ later, stamp ≤ later → f (later + 1) = f later + 1) :
    (control.restamp f).Yields (f stamp)
      ⟨Outcome.restamp f result.outcome, f result.stamp⟩ := by
  induction h with
  | ret value stamp =>
      exact .ret (value.restamp f) (f stamp)
  | error cause site scope stamp =>
      exact .error cause site (scope.restamp f) (f stamp)
  | var name site scope stamp =>
      have hvar := Yields.var name site (scope.restamp f) (f stamp)
      rwa [Scope.resolve_restamp] at hvar
  | number value site scope stamp =>
      exact .number value site (scope.restamp f) (f stamp)
  | bool value site scope stamp =>
      exact .bool value site (scope.restamp f) (f stamp)
  | lam parameter body site scope stamp =>
      exact .lam parameter body site (scope.restamp f) (f stamp)
  | functionError _ ih =>
      exact .functionError (ih hf)
  | argumentError hf₁ _ ihf iha =>
      have hle₁ := hf₁.le_stamp
      exact .argumentError (ihf hf)
        (iha fun later hle => hf later (Nat.le_trans hle₁ hle))
  | app hf₁ hf₂ _ ihf iha ihc =>
      have hle₁ := hf₁.le_stamp
      have hle₂ := Nat.le_trans hle₁ hf₂.le_stamp
      exact .app (ihf hf)
        (iha fun later hle => hf later (Nat.le_trans hle₁ hle))
        (ihc fun later hle => hf later (Nat.le_trans hle₂ hle))
  | callBuiltin created builtin argument stamp =>
      have hcall := Yields.callBuiltin (f created) (builtin.restamp f)
        (argument.restamp f) (f stamp)
      rwa [Builtin.apply_restamp, ← hf stamp (Nat.le_refl stamp)] at hcall
  | @callClosure site parameter body scope argument stamp result _ ih =>
      have hbody := ih fun later hle => hf later (Nat.le_of_succ_le hle)
      rw [hf stamp (Nat.le_refl stamp)] at hbody
      exact .callClosure hbody
  | callError cause argument stamp =>
      exact .callError cause (argument.restamp f) (f stamp)
  | callNumber value argument stamp =>
      exact .callNumber value (argument.restamp f) (f stamp)
  | callBool value argument stamp =>
      exact .callBool value (argument.restamp f) (f stamp)

end Control.Yields

/-! ## What keeps its stamps -/

theorem Ledger.lt_length_of_getElem?
    {ledger : Ledger} {stamp : Stamp} {usage : Usage}
    (h : ledger[stamp]? = some usage) :
    stamp < ledger.length :=
  (List.getElem?_eq_some_iff.mp h).1

mutual

/-- What is recorded has no stamps but those of the ledger. -/
theorem Value.Recorded.restamp_eq
    {ledger : Ledger} {value : Value} (h : value.Recorded ledger)
    {f : Stamp → Stamp} (hf : ∀ stamp < ledger.length, f stamp = stamp) :
    value.restamp f = value := by
  match value, h with
  | .error cause, h | .bool value, h | .number value, h =>
      rfl
  | .builtin stamp function, ⟨hstamp, hfunction⟩ =>
      rw [Value.restamp, hf stamp (Ledger.lt_length_of_getElem? hstamp),
        Builtin.Recorded.restamp_eq hfunction hf]
  | .closure site parameter body scope, ⟨_, hscope⟩ =>
      rw [Value.restamp, Scope.Recorded.restamp_eq hscope hf]

theorem Builtin.Recorded.restamp_eq
    {ledger : Ledger} {function : Builtin} (h : function.Recorded ledger)
    {f : Stamp → Stamp} (hf : ∀ stamp < ledger.length, f stamp = stamp) :
    function.restamp f = function := by
  match function, h with
  | .condElse condition thenValue, h =>
      rw [Builtin.restamp, Value.Recorded.restamp_eq h hf]
  | .add, h | .addTo left, h | .cond, h | .condThen condition, h
  | .gt, h | .gtOver left, h =>
      rfl

theorem Scope.Recorded.restamp_eq
    {ledger : Ledger} {scope : Scope} (h : scope.Recorded ledger)
    {f : Stamp → Stamp} (hf : ∀ stamp < ledger.length, f stamp = stamp) :
    scope.restamp f = scope := by
  match scope, h with
  | .empty, h =>
      rfl
  | .bind stamp symbol value outer, ⟨hstamp, hvalue, houter⟩ =>
      rw [Scope.restamp, hf stamp (Ledger.lt_length_of_getElem? hstamp),
        Value.Recorded.restamp_eq hvalue hf,
        Scope.Recorded.restamp_eq houter hf]

end

namespace Stamp

/-- The stamp that is given out from `later` on where `stamp` was given out from
`source` on. Stamps from before stay. -/
def moved (source later stamp : Stamp) : Stamp :=
  if stamp < source then stamp else later + (stamp - source)

variable {source later stamp : Stamp}

theorem moved_of_lt
    (h : stamp < source) :
    moved source later stamp = stamp :=
  if_pos h

@[simp] theorem moved_source :
    moved source later source = later := by
  simp [moved]

theorem moved_succ
    (h : source ≤ stamp) :
    moved source later (stamp + 1) = moved source later stamp + 1 := by
  rw [moved, moved, if_neg (Nat.not_lt.mpr h),
    if_neg (Nat.not_lt.mpr (Nat.le_succ_of_le h)), Nat.succ_sub h]
  rfl

/-- Stamps that were given out before the later evaluation stay only if they
were given out before the earlier one, too. -/
theorem moved_eq_self_iff
    (h : stamp < later) (source : Stamp) :
    moved source later stamp = stamp ↔ stamp < source := by
  constructor
  · intro hmoved
    rw [moved] at hmoved
    split at hmoved
    next hlt =>
        exact hlt
    · exact absurd hmoved (Nat.ne_of_gt (Nat.lt_add_right _ h))
  · exact moved_of_lt

end Stamp

namespace Tree

/-- The later evaluation comes to what the earlier one came to, under later
stamps. -/
theorem outcome_eq_restamp
    {tree : Tree} {scope : Scope} {ledger : Ledger}
    (hscope : scope.Recorded ledger)
    {limit limit' : Nat} {later : Stamp} {result result' : Evaluation}
    (h : tree.evaluate limit scope ledger.length = some result)
    (h' : tree.evaluate limit' scope later = some result') :
    result'.outcome =
      Outcome.restamp (Stamp.moved ledger.length later) result.outcome := by
  have hmoved := (yields_of_evaluate_eq_some h).restamp
    fun stamp hle => @Stamp.moved_succ _ later stamp hle
  rw [Stamp.moved_source, Control.restamp,
    hscope.restamp_eq fun stamp hlt => Stamp.moved_of_lt hlt] at hmoved
  rw [(yields_of_evaluate_eq_some h').unique hmoved]

end Tree

/-! ## What is the same as before -/

namespace Value

/-- A builtin that was there when the stamp was the next unused one, a closure
over the empty scope or over one that was there, or no function at all. -/
def ExistedBefore (stamp : Stamp) : Value → Prop
  | .builtin created _ => created < stamp
  | .closure _ _ _ scope =>
    ∀ created, scope.stamp? = some created → created < stamp
  | .error _ | .bool _ | .number _ => True

/-- What is recorded was there before the next stamp of the ledger. -/
theorem Recorded.existedBefore
    {ledger : Ledger} {value : Value} (h : value.Recorded ledger) :
    value.ExistedBefore ledger.length := by
  cases value with
  | builtin created function =>
      exact Ledger.lt_length_of_getElem? h.1
  | closure site parameter body scope =>
      rintro created hcreated
      cases scope with
      | empty =>
          cases hcreated
      | bind stamp symbol value outer =>
          cases hcreated
          exact Ledger.lt_length_of_getElem? h.2.1
  | _ =>
      trivial

/-- A value keeps its identity under the later stamps exactly if it was there
before the first of them. -/
theorem same_restamp_moved_iff
    {value : Value} {source later : Stamp} (h : value.ExistedBefore later) :
    value.same (value.restamp (Stamp.moved source later)) = true ↔
      value.ExistedBefore source := by
  cases value with
  | error cause | bool value | number value =>
      simp [restamp, same, ExistedBefore]
  | builtin created function =>
      have hmoved := Stamp.moved_eq_self_iff h source
      simpa [restamp, same, ExistedBefore, eq_comm] using hmoved
  | closure site parameter body scope =>
      cases scope with
      | empty =>
          simp [restamp, Scope.restamp, same, Scope.same_self, ExistedBefore,
            Scope.stamp?]
      | bind created symbol value outer =>
          have hmoved := Stamp.moved_eq_self_iff (h created rfl) source
          simpa [restamp, Scope.restamp, same, Scope.same, ExistedBefore,
            Scope.stamp?, eq_comm] using hmoved

end Value
end LamApp
