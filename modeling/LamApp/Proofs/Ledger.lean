import LamApp.Proofs.Commands
import LamApp.Proofs.Heredity

/-!
# What stamps were used for

A stamp is used once: for a builtin, for a binding with all the scope around
it, for a tree, or in vain. The ledger lists the uses in order, so the next
unused stamp is its length. Values and scopes are recorded in a ledger if they
are what it says of their stamps, and all that is inside them is so too.

Main statements: evaluation only adds to the ledger in which all that it works
with is recorded, and what it comes to is recorded as well. Within one ledger
the identity of a value or a scope tells all about it.
-/

namespace LamApp

/-- What a stamp was used for. -/
inductive Usage where
  | nothing
  | builtin (function : Builtin)
  /-- A binding, with the scope that it begins. -/
  | binding (scope : Scope)
  | tree (root : Expr)

/-- The uses of the stamps, in their order. -/
abbrev Ledger := List Usage

/-! ## Places in trees -/

namespace Expr

/-- The part to which a turn leads. -/
def child? : Turn → Expr → Option Expr
  | .body, .lam _ body => some body
  | .function, .app function _ => some function
  | .argument, .app _ argument => some argument
  | _, _ => none

/-- The part to which some turns lead, the last one first. -/
def part? (root : Expr) : List Turn → Option Expr
  | [] => some root
  | turn :: turns => (root.part? turns).bind (child? turn)

end Expr

namespace Site

/-- The expression stands at the site, in the tree that the ledger has there. -/
def Shows (ledger : Ledger) (site : Site) (e : Expr) : Prop :=
  ∃ root, ledger[site.tree]? = some (.tree root) ∧
    root.part? site.turns = some e

theorem Shows.unique
    {ledger : Ledger} {site : Site} {e e' : Expr}
    (h : site.Shows ledger e) (h' : site.Shows ledger e') :
    e = e' := by
  obtain ⟨root, hroot, he⟩ := h
  obtain ⟨root', hroot', he'⟩ := h'
  rw [hroot] at hroot'
  cases hroot'
  rw [he] at he'
  exact Option.some.inj he'

theorem Shows.turn
    {ledger : Ledger} {site : Site} {e part : Expr} {turn : Turn}
    (h : site.Shows ledger e) (hpart : e.child? turn = some part) :
    (site.turn turn).Shows ledger part := by
  obtain ⟨root, hroot, he⟩ := h
  refine ⟨root, hroot, ?_⟩
  rw [Site.turn, Expr.part?, he, Option.bind_some, hpart]

end Site

/-! ## Recorded values and scopes -/

mutual

/-- The value is what the ledger says, and so is all inside it. -/
def Value.Recorded (ledger : Ledger) : Value → Prop
  | .builtin stamp function =>
    ledger[stamp]? = some (.builtin function) ∧ function.Recorded ledger
  | .closure site parameter body scope =>
    site.Shows ledger (.lam parameter body) ∧ scope.Recorded ledger
  | _ => True

/-- The arguments of the builtin are what the ledger says. -/
def Builtin.Recorded (ledger : Ledger) : Builtin → Prop
  | .condElse _ thenValue => thenValue.Recorded ledger
  | _ => True

/-- The bindings are what the ledger says, and so are their values. -/
def Scope.Recorded (ledger : Ledger) : Scope → Prop
  | .empty => True
  | .bind stamp symbol value outer =>
    ledger[stamp]? = some (.binding (.bind stamp symbol value outer)) ∧
      value.Recorded ledger ∧ outer.Recorded ledger

end

namespace Ledger

theorem getElem?_of_isPrefix
    {ledger ledger' : Ledger} (hle : ledger <+: ledger')
    {stamp : Stamp} {usage : Usage} (h : ledger[stamp]? = some usage) :
    ledger'[stamp]? = some usage := by
  obtain ⟨more, rfl⟩ := hle
  rw [List.getElem?_append_left (List.getElem?_eq_some_iff.mp h).1, h]

theorem getElem?_concat
    (ledger : Ledger) (usage : Usage) :
    (ledger ++ [usage])[ledger.length]? = some usage := by
  simp

end Ledger

/-! What is recorded stays so when the ledger goes on. -/

theorem Site.Shows.mono
    {ledger ledger' : Ledger} {site : Site} {e : Expr}
    (h : site.Shows ledger e) (hle : ledger <+: ledger') :
    site.Shows ledger' e := by
  obtain ⟨root, hroot, he⟩ := h
  exact ⟨root, Ledger.getElem?_of_isPrefix hle hroot, he⟩

mutual

theorem Value.Recorded.mono
    {ledger ledger' : Ledger} {value : Value} (h : value.Recorded ledger)
    (hle : ledger <+: ledger') :
    value.Recorded ledger' := by
  match value, h with
  | .error cause, h | .bool value, h | .number value, h =>
      trivial
  | .builtin stamp function, h =>
      exact ⟨Ledger.getElem?_of_isPrefix hle h.1,
        Builtin.Recorded.mono h.2 hle⟩
  | .closure site parameter body scope, h =>
      exact ⟨h.1.mono hle, Scope.Recorded.mono h.2 hle⟩

theorem Builtin.Recorded.mono
    {ledger ledger' : Ledger} {function : Builtin}
    (h : function.Recorded ledger) (hle : ledger <+: ledger') :
    function.Recorded ledger' := by
  match function, h with
  | .condElse condition thenValue, h =>
      exact Value.Recorded.mono h hle
  | .add, h | .addTo left, h | .cond, h | .condThen condition, h
  | .gt, h | .gtOver left, h =>
      trivial

theorem Scope.Recorded.mono
    {ledger ledger' : Ledger} {scope : Scope} (h : scope.Recorded ledger)
    (hle : ledger <+: ledger') :
    scope.Recorded ledger' := by
  match scope, h with
  | .empty, h =>
      trivial
  | .bind stamp symbol value outer, h =>
      exact ⟨Ledger.getElem?_of_isPrefix hle h.1,
        Value.Recorded.mono h.2.1 hle, Scope.Recorded.mono h.2.2 hle⟩

end

theorem Scope.Recorded.of_lookup
    {ledger : Ledger} {scope : Scope} (h : scope.Recorded ledger)
    {name : String} {value : Value}
    (hlookup : scope.lookup name = some value) :
    value.Recorded ledger := by
  match scope, h with
  | .bind stamp symbol bound outer, ⟨_, hbound, houter⟩ =>
      rw [lookup] at hlookup
      split at hlookup
      · cases hlookup
        exact hbound
      · exact houter.of_lookup hlookup

/-- A new binding is recorded under the next stamp. -/
theorem Scope.Recorded.bind
    {ledger : Ledger} {scope : Scope} (hscope : scope.Recorded ledger)
    {value : Value} (hvalue : value.Recorded ledger) (symbol : String) :
    (Scope.bind ledger.length symbol value scope).Recorded
      (ledger ++ [.binding (.bind ledger.length symbol value scope)]) :=
  ⟨ledger.getElem?_concat _, hvalue.mono (List.prefix_append _ _),
    hscope.mono (List.prefix_append _ _)⟩

/-- A new builtin is recorded under the next stamp. -/
theorem Builtin.Recorded.create
    {ledger : Ledger} {function : Builtin} (h : function.Recorded ledger) :
    (Value.builtin ledger.length function).Recorded
      (ledger ++ [.builtin function]) :=
  ⟨ledger.getElem?_concat _, h.mono (List.prefix_append _ _)⟩

/-! ## One identity, one content -/

theorem Scope.Recorded.eq_of_same
    {ledger : Ledger} {scope scope' : Scope}
    (h : scope.Recorded ledger) (h' : scope'.Recorded ledger)
    (hsame : scope.same scope' = true) :
    scope = scope' := by
  have hstamp : scope.stamp? = scope'.stamp? := by
    simpa [Scope.same] using hsame
  cases scope with
  | empty =>
      cases scope' with
      | empty =>
          rfl
      | bind stamp' symbol' value' outer' =>
          cases hstamp
  | bind stamp symbol value outer =>
      cases scope' with
      | empty =>
          cases hstamp
      | bind stamp' symbol' value' outer' =>
          obtain rfl : stamp = stamp' := Option.some.inj hstamp
          have hbinding := h.1.symm.trans h'.1
          simpa using hbinding

/-- Values of one ledger with the same identity are one value. -/
theorem Value.Recorded.eq_of_same
    {ledger : Ledger} {value value' : Value}
    (h : value.Recorded ledger) (h' : value'.Recorded ledger)
    (hsame : value.same value' = true) :
    value = value' := by
  cases value with
  | error cause =>
      cases value' with
      | error cause' =>
          simpa [Value.same] using hsame
      | _ =>
          cases hsame
  | bool bool =>
      cases value' with
      | bool bool' =>
          simpa [Value.same] using hsame
      | _ =>
          cases hsame
  | number number =>
      cases value' with
      | number number' =>
          simpa [Value.same] using hsame
      | _ =>
          cases hsame
  | builtin stamp function =>
      cases value' with
      | builtin stamp' function' =>
          obtain rfl : stamp = stamp' := by simpa [Value.same] using hsame
          have hfunction := h.1.symm.trans h'.1
          simpa using hfunction
      | _ =>
          cases hsame
  | closure site parameter body scope =>
      cases value' with
      | closure site' parameter' body' scope' =>
          simp only [Value.same, Bool.and_eq_true, decide_eq_true_eq] at hsame
          obtain ⟨rfl, rfl, hscope⟩ := hsame
          have hlam := h.1.unique h'.1
          cases hlam
          rw [h.2.eq_of_same h'.2 hscope]
      | _ =>
          cases hsame

theorem Scope.same_self
    (scope : Scope) :
    scope.same scope = true := by
  simp [Scope.same]

theorem Value.same_self
    (value : Value) :
    value.same value = true := by
  cases value <;> simp [Value.same, Scope.same_self]

/-! ## Evaluation -/

/-- What a control works with is recorded. -/
def Control.Recorded (ledger : Ledger) : Control → Prop
  | .eval e site scope => site.Shows ledger e ∧ scope.Recorded ledger
  | .ret value => value.Recorded ledger
  | .call function argument =>
    function.Recorded ledger ∧ argument.Recorded ledger

/-- What an evaluation comes to is recorded in a ledger that goes on where the
given one ends, up to the next unused stamp. -/
def Evaluation.Continues (ledger : Ledger) (result : Evaluation) : Prop :=
  ∃ ledger' : Ledger, ledger <+: ledger' ∧ ledger'.length = result.stamp ∧
    ∀ value, result.outcome = .ok value → value.Recorded ledger'

theorem Evaluation.Continues.of_isPrefix
    {ledger ledger' : Ledger} (hle : ledger <+: ledger')
    {result : Evaluation} (h : result.Continues ledger') :
    result.Continues ledger := by
  obtain ⟨ledger'', hle', hrest⟩ := h
  exact ⟨ledger'', hle.trans hle', hrest⟩

theorem Evaluation.continues_of_ok
    {ledger : Ledger} {value : Value} (h : value.Recorded ledger) :
    Evaluation.Continues ledger ⟨.ok value, ledger.length⟩ := by
  refine ⟨ledger, List.prefix_refl ledger, rfl, ?_⟩
  rintro _ ⟨⟩
  exact h

theorem Evaluation.continues_of_error
    (ledger : Ledger) (cause : RuntimeError) :
    Evaluation.Continues ledger ⟨.error cause, ledger.length⟩ := by
  refine ⟨ledger, List.prefix_refl ledger, rfl, ?_⟩
  rintro _ ⟨⟩

namespace Builtin

/-- A check is passed, and a builtin comes into being that is recorded. -/
theorem exists_usage_of_map
    {α : Type} {given : Except RuntimeError α} {create : α → Builtin}
    {ledger : Ledger}
    (hcreate : ∀ content, (create content).Recorded ledger) :
    ∃ usage : Usage, ∀ value : Value,
      given.map (fun content => .builtin ledger.length (create content)) =
        .ok value →
      value.Recorded (ledger ++ [usage]) := by
  cases given with
  | error cause =>
      exact ⟨.nothing, by rintro _ ⟨⟩⟩
  | ok content =>
      refine ⟨.builtin (create content), ?_⟩
      rintro _ ⟨⟩
      exact (hcreate content).create

/-- The call of a builtin uses one stamp, and what comes out is recorded. -/
theorem Recorded.exists_usage
    {ledger : Ledger} {function : Builtin} {argument : Value}
    (hfunction : function.Recorded ledger)
    (hargument : argument.Recorded ledger) :
    ∃ usage : Usage, ∀ value : Value,
      function.apply ledger.length argument = .ok value →
      value.Recorded (ledger ++ [usage]) := by
  cases function with
  | add =>
      have hcreate : ∀ left, (addTo left).Recorded ledger := fun _ => trivial
      exact exists_usage_of_map hcreate
  | cond =>
      have hcreate : ∀ condition, (condThen condition).Recorded ledger :=
        fun _ => trivial
      exact exists_usage_of_map hcreate
  | gt =>
      have hcreate : ∀ left, (gtOver left).Recorded ledger := fun _ => trivial
      exact exists_usage_of_map hcreate
  | addTo left =>
      refine ⟨.nothing, fun value happly => ?_⟩
      obtain ⟨right, -, rfl⟩ := Outcome.exists_of_map_eq_ok happly
      trivial
  | gtOver left =>
      refine ⟨.nothing, fun value happly => ?_⟩
      obtain ⟨right, -, rfl⟩ := Outcome.exists_of_map_eq_ok happly
      trivial
  | condThen condition =>
      refine ⟨.builtin (.condElse condition argument), ?_⟩
      rintro _ ⟨⟩
      have hcreated : (condElse condition argument).Recorded ledger := hargument
      exact hcreated.create
  | condElse condition thenValue =>
      refine ⟨.nothing, ?_⟩
      rintro _ ⟨⟩
      have hthen : thenValue.Recorded ledger := hfunction
      cases condition with
      | false =>
          exact hargument.mono (List.prefix_append _ _)
      | true =>
          exact hthen.mono (List.prefix_append _ _)

end Builtin

/-- Evaluation only adds to the ledger. -/
theorem Control.Yields.continues
    {control : Control} {stamp : Stamp} {result : Evaluation}
    (hyields : control.Yields stamp result)
    {ledger : Ledger} (hlength : ledger.length = stamp)
    (hcontrol : control.Recorded ledger) :
    result.Continues ledger := by
  induction hyields generalizing ledger with
  | ret value stamp =>
      subst hlength
      exact Evaluation.continues_of_ok hcontrol
  | error cause site scope stamp =>
      subst hlength
      exact Evaluation.continues_of_error ledger _
  | var name site scope stamp =>
      subst hlength
      cases hresolve : scope.resolve name with
      | ok value =>
          exact Evaluation.continues_of_ok
            (hcontrol.2.of_lookup (Scope.lookup_of_resolve hresolve))
      | error cause =>
          exact Evaluation.continues_of_error ledger cause
  | number value site scope stamp =>
      subst hlength
      exact Evaluation.continues_of_ok trivial
  | bool value site scope stamp =>
      subst hlength
      exact Evaluation.continues_of_ok trivial
  | lam parameter body site scope stamp =>
      subst hlength
      exact Evaluation.continues_of_ok hcontrol
  | functionError _ ih =>
      exact ih hlength ⟨hcontrol.1.turn rfl, hcontrol.2⟩
  | argumentError _ _ ihf iha =>
      obtain ⟨hsite, hscope⟩ := hcontrol
      obtain ⟨ledger₁, hle₁, hlength₁, -⟩ :=
        ihf hlength ⟨hsite.turn rfl, hscope⟩
      exact (iha hlength₁
        ⟨(hsite.turn rfl).mono hle₁, hscope.mono hle₁⟩).of_isPrefix hle₁
  | app _ _ _ ihf iha ihc =>
      -- The ledger grows three times, and keeps what was recorded before.
      obtain ⟨hsite, hscope⟩ := hcontrol
      obtain ⟨ledger₁, hle₁, hlength₁, hfunction⟩ :=
        ihf hlength ⟨hsite.turn rfl, hscope⟩
      obtain ⟨ledger₂, hle₂, hlength₂, hargument⟩ :=
        iha hlength₁ ⟨(hsite.turn rfl).mono hle₁, hscope.mono hle₁⟩
      have hcall := ihc hlength₂
        ⟨(hfunction _ rfl).mono hle₂, hargument _ rfl⟩
      exact hcall.of_isPrefix (hle₁.trans hle₂)
  | callBuiltin created builtin argument stamp =>
      subst hlength
      obtain ⟨hfunction, hargument⟩ := hcontrol
      obtain ⟨usage, husage⟩ := hfunction.2.exists_usage hargument
      exact ⟨ledger ++ [usage], List.prefix_append _ _, by simp, husage⟩
  | @callClosure site parameter body scope argument stamp result _ ih =>
      subst hlength
      obtain ⟨⟨hsite, hscope⟩, hargument⟩ := hcontrol
      have hle : ledger <+: ledger ++
          [.binding (.bind ledger.length parameter argument scope)] :=
        List.prefix_append _ _
      exact (ih (by simp) ⟨(hsite.turn rfl).mono hle,
        hscope.bind hargument parameter⟩).of_isPrefix hle
  | callError cause argument stamp =>
      subst hlength
      exact Evaluation.continues_of_error ledger cause
  | callNumber value argument stamp =>
      subst hlength
      exact Evaluation.continues_of_error ledger _
  | callBool value argument stamp =>
      subst hlength
      exact Evaluation.continues_of_error ledger _

end LamApp
