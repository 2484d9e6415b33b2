import LamApp.Proofs.Heredity
import LamApp.Proofs.Substitution

/-!
# Programs without functions of their own

A program without `lam` forms computes with numbers, truth values and builtins
only, as long as its scope holds nothing else. What it means can then be told
by recursion on the program. A builtin stands here for its name and the list of
the arguments that it has received so far; it checks each argument when it
receives it, and computes when the list is complete.

Main statement: the evaluation of such a program comes to an end, with what the
program means. On the way the machine holds no closure, and no error object.
-/

namespace LamApp

/-! ## Data -/

/-- A number, a truth value, or a builtin with the arguments that it has
received, first one first. -/
inductive Datum where
  | number (value : Int)
  | bool (value : Bool)
  | function (primitive : Primitive) (arguments : List Datum)

mutual

/-- The written form of a datum. -/
def Datum.render : Datum → String
  | .number value => Decimal.text value
  | .bool value => Expr.boolText value
  | .function primitive arguments =>
    "<function " ++ Datum.renderBehind primitive.name arguments ++ ">"

/-- The written forms of data behind a name, with a blank in front of each. -/
def Datum.renderBehind (name : String) : List Datum → String
  | [] => name
  | datum :: data => Datum.renderBehind (name ++ " " ++ datum.render) data

end

namespace Datum

def checkNumber (builtin : String) : Datum → Except RuntimeError Unit
  | number _ => .ok ()
  | datum => .error (.notNumber builtin datum.render)

def checkBool (builtin : String) : Datum → Except RuntimeError Unit
  | bool _ => .ok ()
  | datum => .error (.notBool builtin datum.render)

end Datum

namespace Primitive

/-- Checks the argument in a position, counted from zero. A choice wants a truth
value first and then takes anything; sums and comparisons are of numbers. -/
def check : Primitive → Nat → Datum → Except RuntimeError Unit
  | cond, 0, datum => datum.checkBool cond.name
  | cond, _ + 1, _ => .ok ()
  | add, _, datum => datum.checkNumber add.name
  | gt, _, datum => datum.checkNumber gt.name

/-- What a builtin makes of all its arguments; as long as some are missing, it
only keeps those it has. -/
def applyTo : Primitive → List Datum → Datum
  | add, [.number left, .number right] => .number (left + right)
  | gt, [.number left, .number right] => .bool (right < left)
  | cond, [.bool condition, thenDatum, elseDatum] =>
    if condition then thenDatum else elseDatum
  | primitive, arguments => .function primitive arguments

end Primitive

namespace Datum

/-- A builtin receives its next argument; nothing else is a function. -/
def call : Datum → Datum → Except RuntimeError Datum
  | function primitive arguments, argument =>
    (primitive.check arguments.length argument).map fun _ =>
      primitive.applyTo (arguments ++ [argument])
  | datum, _ => .error (.invalidFunction datum.render)

end Datum

namespace Expr

/-- There is no `lam` form in the expression. -/
def LamFree : Expr → Prop
  | lam _ _ => False
  | app function argument => function.LamFree ∧ argument.LamFree
  | _ => True

/-- What an expression without `lam` forms means, given the data of its
variables. -/
def denote :
    (e : Expr) → e.LamFree → (String → Option Datum) →
      Except RuntimeError Datum
  | error reason, _, _ => .error (.unreadable reason)
  | var name, _, given =>
    match given name with
    | some datum => .ok datum
    | none => .error (.unknownIdentifier name)
  | number value, _, _ => .ok (.number value)
  | bool value, _, _ => .ok (.bool value)
  | lam _ _, hfree, _ => hfree.elim
  | app f a, hfree, given => do
    let function ← f.denote hfree.1 given
    let argument ← a.denote hfree.2 given
    function.call argument

end Expr

/-! ## Values as data -/

mutual

/-- The datum that a value stands for, if there is no closure and no error
object inside. -/
def Value.datum? : Value → Option Datum
  | .number value => some (.number value)
  | .bool value => some (.bool value)
  | .builtin _ function => function.datum?
  | .error _ => none
  | .closure _ _ _ _ => none

def Builtin.datum? : Builtin → Option Datum
  | .add => some (.function .add [])
  | .addTo left => some (.function .add [.number left])
  | .cond => some (.function .cond [])
  | .condThen condition => some (.function .cond [.bool condition])
  | .condElse condition thenValue =>
    thenValue.datum?.map fun datum =>
      .function .cond [.bool condition, datum]
  | .gt => some (.function .gt [])
  | .gtOver left => some (.function .gt [.number left])

end

/-- The datum that the innermost value of a symbol stands for. -/
def Scope.datum? (scope : Scope) (name : String) : Option Datum :=
  (scope.lookup name).bind Value.datum?

/-- What an outcome stands for: its error, or the datum of its value. -/
def Outcome.datum? : Outcome → Option (Except RuntimeError Datum)
  | .ok value => value.datum?.map .ok
  | .error cause => some (.error cause)

/-- The value is no closure and no error object. -/
def Value.IsPlain : Value → Prop
  | .error _ => False
  | .closure _ _ _ _ => False
  | _ => True

/-- There is no closure and no error object in the scope, at any depth. -/
def Scope.Plain (scope : Scope) : Prop :=
  scope.All Value.IsPlain

/-- The machine holds no closure and no error object, at any depth, and it has
no `lam` form left to evaluate. -/
def Machine.Plain (machine : Machine) : Prop :=
  Heredity.AdmitsMachine Value.IsPlain (fun e _ => e.LamFree) machine

mutual

theorem Value.exists_datum?_of_all
    {value : Value} (h : value.All Value.IsPlain) :
    ∃ datum, value.datum? = some datum := by
  match value, h with
  | .error cause, h =>
      exact h.elim
  | .number value, _ =>
      exact ⟨_, rfl⟩
  | .bool value, _ =>
      exact ⟨_, rfl⟩
  | .builtin stamp function, h =>
      exact function.exists_datum?_of_all h.2
  | .closure site parameter body scope, h =>
      exact h.1.elim

theorem Builtin.exists_datum?_of_all
    {function : Builtin} (h : function.All Value.IsPlain) :
    ∃ datum, function.datum? = some datum := by
  match function, h with
  | .condElse condition thenValue, h =>
      obtain ⟨datum, hdatum⟩ := thenValue.exists_datum?_of_all h
      exact ⟨_, congrArg (Option.map _) hdatum⟩
  | .add, _ | .addTo _, _ | .cond, _ | .condThen _, _ | .gt, _
  | .gtOver _, _ =>
      exact ⟨_, rfl⟩

end

/-- A scope with nothing but data gives a variable its datum, or none. -/
theorem Scope.Plain.datum?_resolve
    {scope : Scope} (h : scope.Plain) (name : String) :
    (scope.resolve name).datum? =
      some (match scope.datum? name with
        | some datum => .ok datum
        | none => .error (.unknownIdentifier name)) := by
  rw [Scope.resolve, Scope.datum?]
  cases hlookup : scope.lookup name with
  | none =>
      rfl
  | some value =>
      have hvalue : value.All Value.IsPlain := h.of_lookup hlookup
      obtain ⟨datum, hdatum⟩ := Value.exists_datum?_of_all hvalue
      cases value with
      | error cause =>
          cases hdatum
      | _ =>
          simp only [Option.bind_some, hdatum, Outcome.datum?]
          rfl

/-! ## Data behave as values -/

mutual

theorem Value.render_eq_of_datum?
    {value : Value} {datum : Datum} (h : value.datum? = some datum) :
    value.render = datum.render := by
  match value, h with
  | .number value, h =>
      cases h
      rfl
  | .bool value, h =>
      cases h
      rfl
  | .builtin stamp function, h =>
      obtain ⟨primitive, arguments, rfl, hname⟩ :=
        function.exists_function_of_datum? h
      rw [Value.render, hname]
      rfl

theorem Builtin.exists_function_of_datum?
    {function : Builtin} {datum : Datum} (h : function.datum? = some datum) :
    ∃ primitive arguments,
      datum = .function primitive arguments ∧
      function.name = Datum.renderBehind primitive.name arguments := by
  match function, h with
  | .condElse condition thenValue, h =>
      obtain ⟨thenDatum, hthen, rfl⟩ := Option.map_eq_some_iff.mp h
      refine ⟨_, _, rfl, ?_⟩
      rw [Builtin.name, thenValue.render_eq_of_datum? hthen]
      rfl
  | .add, rfl | .addTo _, rfl | .cond, rfl | .condThen _, rfl | .gt, rfl
  | .gtOver _, rfl =>
      exact ⟨_, _, rfl, rfl⟩

end

namespace Outcome

/-- A value and its datum are the same number, or are refused alike. -/
theorem datum?_map_number?
    {value : Value} {datum : Datum} (h : value.datum? = some datum)
    (builtin : String) {create : Int → Value} {created : Datum}
    (hcreate : ∀ number, datum = .number number →
      (create number).datum? = some created) :
    datum? ((value.number? builtin).map create) =
      some ((datum.checkNumber builtin).map fun _ => created) := by
  cases value with
  | number number =>
      cases h
      exact congrArg (Option.map _) (hcreate number rfl)
  | bool value =>
      cases h
      rfl
  | builtin stamp function =>
      have hrender := Value.render_eq_of_datum? h
      obtain ⟨primitive, arguments, rfl, -⟩ :=
        function.exists_function_of_datum? h
      have hrefused : (Value.builtin stamp function).number? builtin =
          .error (.notNumber builtin (Value.builtin stamp function).render) :=
        rfl
      rw [hrefused, hrender]
      rfl
  | _ =>
      cases h

/-- A value and its datum are the same truth value, or are refused alike. -/
theorem datum?_map_bool?
    {value : Value} {datum : Datum} (h : value.datum? = some datum)
    (builtin : String) {create : Bool → Value} {created : Datum}
    (hcreate : ∀ bool, datum = .bool bool →
      (create bool).datum? = some created) :
    datum? ((value.bool? builtin).map create) =
      some ((datum.checkBool builtin).map fun _ => created) := by
  cases value with
  | bool bool =>
      cases h
      exact congrArg (Option.map _) (hcreate bool rfl)
  | number value =>
      cases h
      rfl
  | builtin stamp function =>
      have hrender := Value.render_eq_of_datum? h
      obtain ⟨primitive, arguments, rfl, -⟩ :=
        function.exists_function_of_datum? h
      have hrefused : (Value.builtin stamp function).bool? builtin =
          .error (.notBool builtin (Value.builtin stamp function).render) :=
        rfl
      rw [hrefused, hrender]
      rfl
  | _ =>
      cases h

end Outcome

/-- A builtin makes of a value what its datum makes of the datum. -/
theorem Builtin.datum?_apply
    {function : Builtin} {argument : Value} {datum datum' : Datum}
    (hfunction : function.datum? = some datum)
    (hargument : argument.datum? = some datum') (stamp : Stamp) :
    (function.apply stamp argument).datum? = some (datum.call datum') := by
  cases function with
  | add =>
      cases hfunction
      exact Outcome.datum?_map_number? hargument "add" (by rintro _ rfl; rfl)
  | addTo left =>
      cases hfunction
      exact Outcome.datum?_map_number? hargument "add" (by rintro _ rfl; rfl)
  | cond =>
      cases hfunction
      exact Outcome.datum?_map_bool? hargument "if" (by rintro _ rfl; rfl)
  | condThen condition =>
      cases hfunction
      rw [apply, Outcome.datum?, Value.datum?, Builtin.datum?, hargument]
      rfl
  | condElse condition thenValue =>
      obtain ⟨thenDatum, hthen, rfl⟩ := Option.map_eq_some_iff.mp hfunction
      cases condition with
      | true =>
          exact congrArg (Option.map _) hthen
      | false =>
          exact congrArg (Option.map _) hargument
  | gt =>
      cases hfunction
      exact Outcome.datum?_map_number? hargument "gt" (by rintro _ rfl; rfl)
  | gtOver left =>
      cases hfunction
      exact Outcome.datum?_map_number? hargument "gt" (by rintro _ rfl; rfl)

/-! ## Evaluation comes to the denotation -/

theorem Value.heredity_isPlain :
    Heredity Value.IsPlain fun e _ => e.LamFree where
  number _ := trivial
  bool _ := trivial
  builtin _ _ := trivial
  app h := h
  lam _ h := h.elim
  call _ _ h := h.elim

theorem Scope.plain_standard :
    Scope.standard.Plain :=
  ⟨⟨trivial, trivial⟩, ⟨trivial, trivial⟩, ⟨trivial, trivial⟩, trivial⟩

/-- The call of a value comes to an end, with what its datum makes of the
argument. -/
theorem Value.exists_yields_call_datum
    {function argument : Value} {datum datum' : Datum}
    (hfunction : function.datum? = some datum)
    (hargument : argument.datum? = some datum') (stamp : Stamp) :
    ∃ result,
      Control.Yields (.call function argument) stamp result ∧
      result.outcome.datum? = some (datum.call datum') := by
  cases function with
  | number value =>
      cases hfunction
      exact ⟨_, .callNumber value argument stamp, rfl⟩
  | bool value =>
      cases hfunction
      exact ⟨_, .callBool value argument stamp, rfl⟩
  | builtin created builtin =>
      exact ⟨_, .callBuiltin created builtin argument stamp,
        builtin.datum?_apply hfunction hargument stamp⟩
  | _ =>
      cases hfunction

namespace Expr

theorem exists_yields_denote
    {e : Expr} (he : e.LamFree) {scope : Scope} (hscope : scope.Plain)
    (site : Site) (stamp : Stamp) :
    ∃ result,
      Control.Yields (.eval e site scope) stamp result ∧
      result.outcome.datum? = some (e.denote he scope.datum?) := by
  induction e generalizing site stamp with
  | error reason =>
      exact ⟨_, .error reason site scope stamp, rfl⟩
  | var name =>
      exact ⟨_, .var name site scope stamp, hscope.datum?_resolve name⟩
  | number value =>
      exact ⟨_, .number value site scope stamp, rfl⟩
  | bool value =>
      exact ⟨_, .bool value site scope stamp, rfl⟩
  | lam parameter body =>
      exact he.elim
  | app f a ihf iha =>
      obtain ⟨⟨outcome, stamp₁⟩, hf, hfunction⟩ :=
        ihf he.1 (site.turn .function) stamp
      cases outcome with
      | error cause =>
          refine ⟨_, .functionError hf, ?_⟩
          rw [denote, ← Option.some.inj hfunction]
          rfl
      | ok function =>
          obtain ⟨datum, hdatum, hfunction⟩ :=
            Option.map_eq_some_iff.mp hfunction
          obtain ⟨⟨outcome, stamp₂⟩, ha, hargument⟩ :=
            iha he.2 (site.turn .argument) stamp₁
          cases outcome with
          | error cause =>
              refine ⟨_, .argumentError hf ha, ?_⟩
              rw [denote, ← hfunction, ← Option.some.inj hargument]
              rfl
          | ok argument =>
              obtain ⟨datum', hdatum', hargument⟩ :=
                Option.map_eq_some_iff.mp hargument
              obtain ⟨result, hcall, hresult⟩ :=
                Value.exists_yields_call_datum hdatum hdatum' stamp₂
              refine ⟨result, .app hf ha hcall, ?_⟩
              rw [denote, ← hfunction, ← hargument]
              exact hresult

/-- Without `lam` forms evaluation comes to an end, with what the expression
means, and the machine never holds a closure. -/
theorem evaluate_of_lamFree
    {e : Expr} (he : e.LamFree) {scope : Scope} (hscope : scope.Plain)
    (planted stamp : Stamp) :
    (∃ limit result,
      Tree.evaluate limit ⟨planted, e⟩ scope stamp = some result ∧
      result.outcome.datum? = some (e.denote he scope.datum?)) ∧
    ∀ machine : Machine,
      Machine.Leads ⟨.eval e (.root planted) scope, [], stamp⟩ machine →
      machine.Plain := by
  constructor
  · obtain ⟨result, hyields, hresult⟩ :=
      exists_yields_denote he hscope (.root planted) stamp
    obtain ⟨limit, hevaluate⟩ := (Machine.ends_iff_yields _ _ _).mpr hyields
    exact ⟨limit, result, hevaluate, hresult⟩
  · intro machine hleads
    have hstart : Machine.Plain ⟨.eval e (.root planted) scope, [], stamp⟩ :=
      ⟨⟨he, hscope⟩, by simp⟩
    exact hstart.leads Value.heredity_isPlain hleads

/-- A choice among functions that lacks its last argument is given one, and the
chosen sum another. A sum refuses its first argument before the second, an
unbound variable, is looked at. -/
theorem evaluate_of_chosen_and_refused_sum :
    let adder : Value := .builtin 6 (.addTo 40)
    let scope : Scope :=
      .bind 8 "choose" (.builtin 7 (.condElse true adder)) .standard
    let chosen : Expr := .app (.app (.var "choose") (.var "gt")) (.number 2)
    let refused : Expr := .app (.app (.var "add") (.var "if")) (.var "x")
    chosen.LamFree ∧
    refused.LamFree ∧
    scope.Plain ∧
    (∃ limit result,
      Tree.evaluate limit ⟨9, chosen⟩ scope 10 = some result ∧
      result.outcome.datum? = some (.ok (.number 42))) ∧
    (∀ machine : Machine,
      Machine.Leads ⟨.eval chosen (.root 9) scope, [], 10⟩ machine →
      machine.Plain) ∧
    ∃ limit result,
      Tree.evaluate limit ⟨9, refused⟩ scope 10 = some result ∧
      result.outcome.datum? =
        some (.error (.notNumber "add" "<function if>")) := by
  intro adder scope chosen refused
  have hchosen : chosen.LamFree := ⟨⟨trivial, trivial⟩, trivial⟩
  have hrefused : refused.LamFree := ⟨⟨trivial, trivial⟩, trivial⟩
  have hscope : scope.Plain :=
    ⟨⟨trivial, ⟨trivial, trivial⟩⟩, Scope.plain_standard⟩
  have hmeans := evaluate_of_lamFree hchosen hscope 9 10
  exact ⟨hchosen, hrefused, hscope, hmeans.1, hmeans.2,
    (evaluate_of_lamFree hrefused hscope 9 10).1⟩

end Expr
end LamApp
