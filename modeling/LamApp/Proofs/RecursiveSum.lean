import LamApp.Program
import LamApp.Proofs.DelayedBranches
import LamApp.Proofs.Grammar
import LamApp.Proofs.LexicalScoping
import Mathlib.Tactic.Ring

/-!
# A recursive program

The language has no recursion of its own. A program that calls itself is made
with a function that is applied to itself: the fixpoint of a step function is
what the step function makes of the fixpoint, and the fixpoint stands below a
`lam` form, so that it is evaluated only when it is called.

The program of this module adds the numbers from a given one down to one. It
stops at zero, and the choice whether to stop is one between delayed branches,
since the other branch calls the program again.

Main statement: for every integer the program comes to an end, with the sum.
-/

namespace LamApp

/-! ## The program -/

namespace Expr

/-- Applied to itself, it calls `f` with what it is, delayed by a `lam` form. -/
def unroller : Expr :=
  .lam "x"
    (.app (.var "f") (.lam "v" (.app (.app (.var "x") (.var "x")) (.var "v"))))

/-- Makes the fixpoint of a step function. -/
def fixpoint : Expr :=
  .lam "f" (.app unroller unroller)

/-- One step of the sum: zero, or the number and the sum for the one below. -/
def sumStep : Expr :=
  .lam "self" (.lam "n"
    (delayedChoice (.app (.app (.var "gt") (.var "n")) (.number 0)) "u"
      (.app (.app (.var "add") (.var "n"))
        (.app (.var "self")
          (.app (.app (.var "add") (.var "n")) (.number (-1)))))
      (.number 0)
      (.number 0)))

/-- The sum of the numbers from the given one down to one. -/
def recursiveSum (n : Int) : Expr :=
  .app (.app fixpoint sumStep) (.number n)

/-- The text of the program, in front of the number. -/
def recursiveSumText : String :=
  "app
  (app
    (lam f
      (app (lam x (app f (lam v (app (app x x) v))))
           (lam x (app f (lam v (app (app x x) v))))))
    (lam self lam n
      (app (app app app if (app app gt n 0)
              (lam u (app app add n (app self (app app add n -1))))
              (lam u 0))
           0)))"

end Expr

/-! ## Builtins in evaluation by substitution -/

namespace Term

theorem reduces_constant (primitive : Primitive) :
    (constant primitive).Reduces (.ok (constant primitive)) :=
  .value rfl

theorem reduces_number (value : Int) :
    (number value).Reduces (.ok (number value)) :=
  .value rfl

theorem reduces_lam (parameter : String) (body : Term) :
    (lam parameter body).Reduces (.ok (lam parameter body)) :=
  .value rfl

theorem reduces_add
    {f g : Term} {left right : Int}
    (hf : f.Reduces (.ok (number left)))
    (hg : g.Reduces (.ok (number right))) :
    (app (app (constant .add) f) g).Reduces (.ok (number (left + right))) := by
  have hpartly := Reduces.take (reduces_constant .add) hf rfl
  exact .take hpartly hg rfl

theorem reduces_gt
    {f g : Term} {left right : Int}
    (hf : f.Reduces (.ok (number left)))
    (hg : g.Reduces (.ok (number right))) :
    (app (app (constant .gt) f) g).Reduces (.ok (bool (left > right))) := by
  have hpartly := Reduces.take (reduces_constant .gt) hf rfl
  exact .take hpartly hg rfl

/-- A choice between delayed branches does what the chosen branch does, with
the trigger for the parameter. -/
theorem reduces_delayedChoice
    {condition trigger value : Term} {choice : Bool}
    (hcondition : condition.Reduces (.ok (bool choice)))
    (htrigger : trigger.Reduces (.ok value))
    {parameter : String} {thenBranch elseBranch : Term}
    {result : Except RuntimeError Term}
    (hbranch : ((if choice then thenBranch else elseBranch).subst parameter
      value).Reduces result) :
    (app
      (app (app (app (constant .cond) condition) (lam parameter thenBranch))
        (lam parameter elseBranch))
      trigger).Reduces result := by
  have hpartly := Reduces.take (reduces_constant .cond) hcondition rfl
  have hthen := Reduces.take hpartly (reduces_lam parameter thenBranch) rfl
  have helse := Reduces.take hthen (reduces_lam parameter elseBranch) rfl
  cases choice with
  | true =>
      exact .beta helse htrigger hbranch
  | false =>
      exact .beta helse htrigger hbranch

/-! ## The fixpoint -/

/-- The unroller of a step function. -/
def unrollerOf (step : Term) : Term :=
  lam "x" (app step (lam "v" (app (app (var "x") (var "x")) (var "v"))))

/-- The fixpoint of a step function, below a `lam` form. -/
def delayedFixpointOf (step : Term) : Term :=
  lam "v" (app (app (unrollerOf step) (unrollerOf step)) (var "v"))

/-- The fixpoint of a step function is what the function makes of the delayed
fixpoint. -/
theorem reduces_unroll
    {step : Term} (hstep : ∀ term, step.subst "x" term = step)
    {result : Except RuntimeError Term}
    (h : (app step (delayedFixpointOf step)).Reduces result) :
    (app (unrollerOf step) (unrollerOf step)).Reduces result := by
  refine .beta (reduces_lam _ _) (reduces_lam _ _) ?_
  rw [subst, hstep]
  exact h

/-- The call of a delayed fixpoint is the call of the fixpoint. -/
theorem reduces_delayedFixpointOf
    {step argument value : Term}
    (hstep : ∀ term, step.subst "v" term = step)
    (hargument : argument.Reduces (.ok value))
    {result : Except RuntimeError Term}
    (h : (app (app (unrollerOf step) (unrollerOf step)) value).Reduces
      result) :
    (app (delayedFixpointOf step) argument).Reduces result := by
  refine .beta (reduces_lam _ _) hargument ?_
  have hunroller : (unrollerOf step).subst "v" value = unrollerOf step := by
    simp [unrollerOf, subst, hstep]
  rw [subst, subst, subst, hunroller]
  exact h

/-! ## The sum -/

/-- The step of the sum, with the constants for the names of the builtins. -/
def sumStep : Term :=
  Expr.sumStep.program

/-- The body of the step, for a number and the delayed fixpoint. -/
def sumBody (n : Term) : Term :=
  app
    (app
      (app
        (app (constant .cond) (app (app (constant .gt) n) (number 0)))
        (lam "u"
          (app (app (constant .add) n)
            (app (delayedFixpointOf sumStep)
              (app (app (constant .add) n) (number (-1)))))))
      (lam "u" (number 0)))
    (number 0)

/-- The fixpoint of the step is a function with the body of the step. -/
theorem reduces_unroll_sumStep :
    (app (unrollerOf sumStep) (unrollerOf sumStep)).Reduces
      (.ok (lam "n" (sumBody (var "n")))) := by
  have hstep : (app sumStep (delayedFixpointOf sumStep)).Reduces
      (.ok (lam "n" (sumBody (var "n")))) :=
    .beta (.value rfl) (reduces_lam _ _) (reduces_lam _ _)
  exact reduces_unroll (fun _ => rfl) hstep

theorem reduces_call_sum
    {function : Term}
    (hfunction : function.Reduces (.ok (lam "n" (sumBody (var "n")))))
    {n : Int} {result : Except RuntimeError Term}
    (h : (sumBody (number n)).Reduces result) :
    (app function (number n)).Reduces result :=
  .beta hfunction (reduces_number n) h

/-- At zero and below the sum stops. -/
theorem reduces_sumBody_of_nonpos
    {n : Int} (hn : n ≤ 0) :
    (sumBody (number n)).Reduces (.ok (number 0)) := by
  have hgt := reduces_gt (reduces_number n) (reduces_number 0)
  rw [decide_eq_false (by omega)] at hgt
  exact reduces_delayedChoice hgt (reduces_number 0) (reduces_number 0)

/-- Above zero the sum goes on with the number below. -/
theorem reduces_sumBody_of_pos
    {n sum : Int} (hn : 0 < n)
    (h : (sumBody (number (n - 1))).Reduces (.ok (number sum))) :
    (sumBody (number n)).Reduces (.ok (number (n + sum))) := by
  have hgt := reduces_gt (reduces_number n) (reduces_number 0)
  rw [decide_eq_true (by omega)] at hgt
  -- The branch calls the delayed fixpoint with the number below.
  have hbelow := reduces_add (reduces_number n) (reduces_number (-1))
  have hcall :
      (app (delayedFixpointOf sumStep)
        (app (app (constant .add) (number n)) (number (-1)))).Reduces
        (.ok (number sum)) :=
    reduces_delayedFixpointOf (fun _ => rfl) hbelow
      (reduces_call_sum reduces_unroll_sumStep h)
  exact reduces_delayedChoice hgt (reduces_number 0)
    (reduces_add (reduces_number n) hcall)

/-- Twice the sum up to a number is the number times its successor. -/
theorem exists_reduces_sumBody_natCast (n : Nat) :
    ∃ sum : Int,
      (sumBody (number n)).Reduces (.ok (number sum)) ∧
      2 * sum = n * (n + 1) := by
  induction n with
  | zero =>
      exact ⟨0, reduces_sumBody_of_nonpos (by omega), by simp⟩
  | succ n ih =>
      obtain ⟨sum, hreduces, hsum⟩ := ih
      have hpred : ((n + 1 : Nat) : Int) - 1 = n := by
        omega
      refine ⟨(n + 1 : Nat) + sum, ?_, ?_⟩
      · exact reduces_sumBody_of_pos (by omega) (by rwa [hpred])
      · rw [mul_add, hsum]
        push_cast
        ring

theorem reduces_sumBody (n : Int) :
    (sumBody (number n)).Reduces
      (.ok (number (if 0 < n then n * (n + 1) / 2 else 0))) := by
  by_cases hn : 0 < n
  · obtain ⟨count, rfl⟩ := Int.eq_ofNat_of_zero_le hn.le
    obtain ⟨sum, hreduces, hsum⟩ := exists_reduces_sumBody_natCast count
    have hhalf : sum = (count : Int) * (count + 1) / 2 := by
      omega
    rwa [if_pos hn, ← hhalf]
  · rw [if_neg hn]
    exact reduces_sumBody_of_nonpos (by omega)

/-- The program calls the fixpoint of the step with the number. -/
theorem reduces_recursiveSum (n : Int) :
    (Expr.recursiveSum n).program.Reduces
      (.ok (number (if 0 < n then n * (n + 1) / 2 else 0))) := by
  have hfixpoint : Expr.fixpoint.program.Reduces
      (.ok (lam "f" (app Expr.unroller.program Expr.unroller.program))) :=
    .value rfl
  have hstep : sumStep.Reduces (.ok sumStep) :=
    .value rfl
  exact reduces_call_sum (.beta hfixpoint hstep reduces_unroll_sumStep)
    (reduces_sumBody n)

end Term

/-! ## Programs that come to a number -/

namespace Value

theorem eq_number_of_toTerm_eq_number
    {value : Value} {n : Int} (h : value.toTerm = .number n) :
    value = .number n := by
  have hnumber : value.number? "" = .ok n := by
    rw [← number?_toTerm, h]
    rfl
  exact eq_number_of_number? hnumber

end Value

theorem Scope.scoped_standard :
    Scope.standard.All Value.Scoped := by
  simp [Scope.standard, Scope.All, Value.All, Builtin.All, Value.Scoped]

namespace Expr

/-- If evaluation by substitution comes to a number, so does evaluation. -/
theorem exists_evaluate_eq_number
    {e : Expr} (he : e.ScopedIn Scope.standard) {n : Int}
    (h : e.program.Reduces (.ok (.number n))) :
    ∃ limit, e.evaluate limit = some (.number n) := by
  rw [program_eq_close] at h
  obtain ⟨result, hyields⟩ :=
    h.exists_yields he Scope.scoped_standard rfl (.root Stamp.start)
      (Stamp.start + 1)
  obtain ⟨value, stamp, rfl, -, hterm⟩ :=
    hyields.exists_value_of_reduces he Scope.scoped_standard h
  obtain rfl := Value.eq_number_of_toTerm_eq_number hterm
  exact (e.exists_evaluate_eq_some_iff _).mpr ⟨_, hyields, rfl⟩

theorem scopedIn_recursiveSum (n : Int) :
    (recursiveSum n).ScopedIn Scope.standard := by
  intro name hfree
  simp only [recursiveSum, fixpoint, unroller, sumStep, delayedChoice,
    choiceOfForms, Free] at hfree
  simp only [Scope.standard, Scope.symbols, List.mem_cons]
  tauto

theorem exists_evaluate_recursiveSum (n : Int) :
    ∃ limit, (recursiveSum n).evaluate limit =
      some (.number (if 0 < n then n * (n + 1) / 2 else 0)) :=
  exists_evaluate_eq_number (scopedIn_recursiveSum n)
    (Term.reduces_recursiveSum n)

/-! ## The text of the program -/

set_option maxRecDepth 4000 in
/-- The tokens of the text are those of the program up to its number. -/
theorem follow_recursiveSumText :
    ∃ tokens,
      Token.ofChars recursiveSumText.toList = tokens ++ [.endOfInput] ∧
      Draft.empty.follow tokens =
        .next (.expression [.argument (.app fixpoint sumStep)]) := by
  refine ⟨(Token.ofChars recursiveSumText.toList).dropLast, ?_⟩
  rw [recursiveSumText, String.toList_ofList]
  decide +kernel

/-- Every text with the tokens of the program is the program. -/
theorem parse?_recursiveSum
    {source numeral : String} {n : Int}
    (hnumeral : Decimal.value? numeral.toList = some n)
    (htokens : Token.ofString source =
      Token.ofString (recursiveSumText ++ " " ++ numeral)) :
    parse? source = .ok (recursiveSum n) := by
  obtain ⟨tokens, htext, hfollow⟩ := follow_recursiveSumText
  have hplain : (Token.number numeral).IsPlain := by
    rw [Token.IsPlain, ← Decimal.isSome_value?, hnumeral]
    rfl
  have hnumber : Token.ofChars numeral.toList =
      [.number numeral, .endOfInput] :=
    Token.ofChars_text hplain
  have hchars : (recursiveSumText ++ " " ++ numeral).toList =
      recursiveSumText.toList ++ ' ' :: numeral.toList := by
    simp [String.toList_append]
  have hsource : Token.ofString source =
      tokens ++ [.number numeral, .endOfInput] := by
    rw [htokens, Token.ofString, hchars,
      Token.ofChars_append_cons (by decide) htext, if_pos rfl,
      Token.ofChars_cons_of_blank (by decide), hnumber]
  rw [parse?_eq_iff, hsource, Draft.follow_append_of_next hfollow]
  simp [Draft.follow, Draft.feed, Draft.begin, Draft.fill, hnumeral,
    Verdict.ofResult, recursiveSum]

/-- For every integer, in any spelling and with the program laid out in any
way, the program comes to an end and shows the sum. -/
theorem run_recursiveSum
    {source numeral : String} {n : Int}
    (hnumeral : Decimal.value? numeral.toList = some n)
    (htokens : Token.ofString source =
      Token.ofString (recursiveSumText ++ " " ++ numeral)) :
    ∃ limit,
      (Program.run limit false source).map Run.result =
        some (.ok (Decimal.text (if 0 < n then n * (n + 1) / 2 else 0))) := by
  obtain ⟨limit, hevaluate⟩ := exists_evaluate_recursiveSum n
  refine ⟨limit, ?_⟩
  rw [Program.run, parse?_recursiveSum hnumeral htokens]
  simp [hevaluate, Run.result, Value.render]

set_option maxRecDepth 4000 in
/-- The program on one line, for the number ten. -/
theorem run_recursiveSum_line :
    ∃ limit,
      (Program.run limit false
        ("app (app (lam f (app (lam x (app f (lam v (app (app x x) v)))) " ++
          "(lam x (app f (lam v (app (app x x) v)))))) " ++
          "(lam self lam n (app (app app app if (app app gt n 0) " ++
          "(lam u (app app add n (app self (app app add n -1)))) " ++
          "(lam u 0)) 0))) 10")).map Run.result = some (.ok "55") := by
  have hnumeral : Decimal.value? "10".toList = some 10 := by decide
  have hjoined : ∀ a b c d e : String, (a ++ b ++ c ++ d ++ e).toList =
      a.toList ++ b.toList ++ c.toList ++ d.toList ++ e.toList := by
    simp [String.toList_append]
  refine run_recursiveSum hnumeral ?_
  have hchars : (recursiveSumText ++ " " ++ "10").toList =
      recursiveSumText.toList ++ " 10".toList := by
    simp [String.toList_append]
  rw [Token.ofString, Token.ofString, hjoined, hchars, recursiveSumText]
  repeat rw [String.toList_ofList]
  decide +kernel

end Expr
end LamApp
