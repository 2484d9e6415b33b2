import LamApp.Workbench
import Mathlib.Logic.Relation

/-!
# What commands do to a workbench

A command looks at registers and may store one thing: a scope with one more
binding, a tree, or a value. What it creates has the next unused stamp. All
that a command may do is listed here once, so what holds of a workbench and is
kept by each item of the list holds after every session.
-/

namespace LamApp
namespace Registers

variable {α : Type}

/-- Some register holds the content. -/
def Holds (registers : Registers α) (content : α) : Prop :=
  ∃ name, registers.get? name = some content

theorem not_holds_empty
    (content : α) :
    ¬ (empty : Registers α).Holds content := by
  rintro ⟨name, hget⟩
  cases hget

theorem eq_or_holds_of_holds_set
    {registers : Registers α} {name : String} {content other : α}
    (h : (registers.set name content).Holds other) :
    other = content ∨ registers.Holds other := by
  obtain ⟨name', hget⟩ := h
  by_cases hname : name' = name
  · rw [hname, get?_set] at hget
    exact .inl (Option.some.inj hget).symm
  · rw [get?_set_of_ne hname] at hget
    exact .inr ⟨name', hget⟩

theorem eq_or_holds_of_holds_setIf
    {registers : Registers α} {name? : Option String} {content other : α}
    (h : (registers.setIf name? content).Holds other) :
    other = content ∨ registers.Holds other := by
  cases name? with
  | none =>
      exact .inr h
  | some name =>
      exact eq_or_holds_of_holds_set h

theorem holds_of_holds_erase
    {registers : Registers α} {name : String} {content : α}
    (h : (registers.erase name).Holds content) :
    registers.Holds content := by
  obtain ⟨name', hget⟩ := h
  by_cases hname : name' = name
  · rw [hname, get?_erase] at hget
    cases hget
  · rw [get?_erase_of_ne hname] at hget
    exact ⟨name', hget⟩

end Registers

namespace Refusal

theorem exists_of_bind_eq_ok
    {α β : Type} {given : Except Refusal α} {next : α → Except Refusal β}
    {result : β} (h : given >>= next = .ok result) :
    ∃ content, given = .ok content ∧ next content = .ok result := by
  cases given with
  | error refusal =>
      cases h
  | ok content =>
      exact ⟨content, rfl, h⟩

end Refusal

namespace Value

def isFunction : Value → Bool
  | .builtin _ _ | .closure _ _ _ _ => true
  | _ => false

end Value

namespace Workbench

/-- All that a command may do, and how it is answered. -/
inductive Step (limit : Nat) (bench : Workbench) :
    Command → Answer → Workbench → Prop
  /-- The workbench stays as it is. -/
  | look {command : Command} {answer : Answer} :
      (∀ ok result, answer ≠ .applied ok result) →
      Step limit bench command answer bench
  | extend {scope symbol value target : String} {outer : Scope}
      {bound : Value} :
      bench.scopes.Holds outer →
      bench.values.get? value = some bound →
      Step limit bench (.extend scope symbol value target)
        (.symbols (symbol :: outer.symbols))
        { bench with
          scopes :=
            bench.scopes.set target (.bind bench.stamp symbol bound outer)
          stamp := bench.stamp + 1 }
  | dropScope {scope : String} {known : Bool} :
      Step limit bench (.dropScope scope) (.flag known)
        { bench with scopes := bench.scopes.erase scope }
  | plant {command : Command} {root : Expr} {target : String} :
      Step limit bench command (.display root.render)
        { bench with
          trees := bench.trees.set target ⟨bench.stamp, root⟩
          stamp := bench.stamp + 1 }
  | lookup {scope symbol : String} {target : Option String}
      {found : Scope} {value : Value} :
      bench.scopes.Holds found →
      found.lookup symbol = some value →
      Step limit bench (.lookup scope symbol target) (.value value)
        { bench with values := bench.values.setIf target value }
  /-- A value comes into being that is no function. -/
  | literal {command : Command} {value : Value} {target : Option String} :
      value.isFunction = false →
      Step limit bench command (.value value)
        { bench with values := bench.values.setIf target value }
  | builtin {primitive : Primitive} {target : String} :
      Step limit bench (.builtin primitive target)
        (.value (.builtin bench.stamp primitive.builtin))
        { bench with
          values :=
            bench.values.set target (.builtin bench.stamp primitive.builtin)
          stamp := bench.stamp + 1 }
  /-- A tree is evaluated that a register holds, or a new one. -/
  | evaluate {material : Material} {name? target : Option String}
      {tree : Tree} {scope : Scope} {stamp : Stamp}
      {evaluation : Evaluation} :
      bench.trees.Holds tree ∧ stamp = bench.stamp ∨
        tree.stamp = bench.stamp ∧ stamp = bench.stamp + 1 →
      bench.scopes.Holds scope ∨ scope = .standard →
      tree.evaluate limit scope stamp = some evaluation →
      Step limit bench (.evaluate material name? target)
        (.value evaluation.outcome.toValue)
        { bench with
          values := bench.values.setIf target evaluation.outcome.toValue
          stamp := evaluation.stamp }
  | apply {name argumentName : String} {target : Option String}
      {function argument : Value} {evaluation : Evaluation} :
      function.isFunction = true →
      bench.values.Holds function →
      bench.values.get? argumentName = some argument →
      function.apply limit argument bench.stamp = some evaluation →
      Step limit bench (.apply name argumentName target)
        (.applied evaluation.outcome.isOk evaluation.outcome.toValue)
        { bench with
          values := bench.values.setIf target evaluation.outcome.toValue
          stamp := evaluation.stamp }

theorem eq_of_holds_start
    {scope : Scope} (h : start.scopes.Holds scope) :
    scope = .empty ∨ scope = .standard := by
  rcases Registers.eq_or_holds_of_holds_set h with rfl | h
  · exact .inl rfl
  rcases Registers.eq_or_holds_of_holds_set h with rfl | h
  · exact .inr rfl
  · exact absurd h (Registers.not_holds_empty scope)

theorem get?_of_fetch_eq_ok
    {α : Type} {registers : Registers α} {name : String} {content : α}
    (h : fetch registers name = .ok content) :
    registers.get? name = some content := by
  rw [fetch] at h
  split at h
  next hget =>
      cases h
      exact hget
  · cases h

theorem holds_of_fetch_eq_ok
    {α : Type} {registers : Registers α} {name : String} {content : α}
    (h : fetch registers name = .ok content) :
    registers.Holds content :=
  ⟨name, get?_of_fetch_eq_ok h⟩

theorem treeOf_eq_ok
    {bench : Workbench} {material : Material} {tree : Tree} {stamp : Stamp}
    (h : bench.treeOf material = .ok (tree, stamp)) :
    bench.trees.Holds tree ∧ stamp = bench.stamp ∨
      tree.stamp = bench.stamp ∧ stamp = bench.stamp + 1 := by
  cases material with
  | source text =>
      cases h
      exact .inr ⟨rfl, rfl⟩
  | register name =>
      rw [treeOf] at h
      cases hfetch : fetch bench.trees name with
      | error refusal =>
          rw [hfetch] at h
          cases h
      | ok held =>
          rw [hfetch] at h
          cases h
          exact .inl ⟨holds_of_fetch_eq_ok hfetch, rfl⟩

theorem scopeOf_eq_ok
    {bench : Workbench} {name? : Option String} {scope : Scope}
    (h : bench.scopeOf name? = .ok scope) :
    bench.scopes.Holds scope ∨ scope = .standard := by
  cases name? with
  | none =>
      cases h
      exact .inr rfl
  | some name =>
      exact .inl (holds_of_fetch_eq_ok h)

theorem eq_some_of_finished_eq_ok
    {evaluation? : Option Evaluation} {evaluation : Evaluation}
    (h : finished evaluation? = .ok evaluation) :
    evaluation? = some evaluation := by
  cases evaluation? with
  | none =>
      cases h
  | some evaluation' =>
      cases h
      rfl

/-- A command does nothing that is not on the list. -/
theorem step_of_eq_ok
    {limit : Nat} {bench bench' : Workbench} {command : Command}
    {answer : Answer} (h : bench.step limit command = .ok (answer, bench')) :
    Step limit bench command answer bench' := by
  cases command with
  | extend scope symbol value target =>
      obtain ⟨outer, houter, h⟩ := Refusal.exists_of_bind_eq_ok h
      obtain ⟨bound, hbound, h⟩ := Refusal.exists_of_bind_eq_ok h
      cases h
      exact .extend (holds_of_fetch_eq_ok houter) (get?_of_fetch_eq_ok hbound)
  | symbols scope =>
      obtain ⟨found, hfound, h⟩ := Refusal.exists_of_bind_eq_ok h
      cases h
      exact .look (by simp)
  | lookup scope symbol target =>
      obtain ⟨found, hfound, h⟩ := Refusal.exists_of_bind_eq_ok h
      cases hlookup : found.lookup symbol with
      | none =>
          rw [hlookup] at h
          cases h
          exact .look (by simp)
      | some value =>
          rw [hlookup] at h
          cases h
          exact .lookup (holds_of_fetch_eq_ok hfound) hlookup
  | sameScope first second =>
      obtain ⟨scope, -, h⟩ := Refusal.exists_of_bind_eq_ok h
      obtain ⟨scope', -, h⟩ := Refusal.exists_of_bind_eq_ok h
      cases h
      exact .look (by simp)
  | dropScope scope =>
      cases h
      exact .dropScope
  | parse source target =>
      cases h
      exact .plant
  | tree root target =>
      cases h
      exact .plant
  | evaluate material name? target =>
      obtain ⟨⟨tree, stamp⟩, htree, h⟩ := Refusal.exists_of_bind_eq_ok h
      obtain ⟨scope, hscope, h⟩ := Refusal.exists_of_bind_eq_ok h
      obtain ⟨evaluation, hfinished, h⟩ := Refusal.exists_of_bind_eq_ok h
      cases h
      exact .evaluate (treeOf_eq_ok htree) (scopeOf_eq_ok hscope)
        (eq_some_of_finished_eq_ok hfinished)
  | number value target =>
      cases h
      exact .literal rfl
  | bool value target =>
      cases h
      exact .literal rfl
  | error cause target =>
      cases h
      exact .literal rfl
  | builtin primitive target =>
      cases h
      exact .builtin
  | apply name argumentName target =>
      obtain ⟨function, hfunction, h⟩ := Refusal.exists_of_bind_eq_ok h
      obtain ⟨argument, hargument, h⟩ := Refusal.exists_of_bind_eq_ok h
      cases function with
      | builtin _ _ | closure _ _ _ _ =>
          obtain ⟨evaluation, hfinished, h⟩ := Refusal.exists_of_bind_eq_ok h
          cases h
          exact .apply rfl (holds_of_fetch_eq_ok hfunction)
            (get?_of_fetch_eq_ok hargument)
            (eq_some_of_finished_eq_ok hfinished)
      | _ =>
          cases h
          exact .look (by simp)
  | sameValue first second =>
      obtain ⟨value, -, h⟩ := Refusal.exists_of_bind_eq_ok h
      obtain ⟨value', -, h⟩ := Refusal.exists_of_bind_eq_ok h
      cases h
      exact .look (by simp)
  | sameTree first second =>
      obtain ⟨tree, -, h⟩ := Refusal.exists_of_bind_eq_ok h
      obtain ⟨tree', -, h⟩ := Refusal.exists_of_bind_eq_ok h
      cases h
      exact .look (by simp)
  | inspect name =>
      obtain ⟨value, -, h⟩ := Refusal.exists_of_bind_eq_ok h
      cases h
      exact .look (by simp)

/-! ## Sessions -/

/-- Each command of a session is allowed at the workbench at which it is carried
out. -/
def Along (limit : Nat) (Allowed : Workbench → Command → Prop) :
    Workbench → List Command → Prop
  | _, [] => True
  | bench, command :: commands =>
    Allowed bench command ∧
    ∀ answer bench', bench.step limit command = .ok (answer, bench') →
      Along limit Allowed bench' commands

/-- What every allowed step keeps holds after the session, and what every
allowed step answers is among its answers. -/
theorem invariant_of_steps
    {limit : Nat} {Allowed : Workbench → Command → Prop}
    {I : Workbench → Prop} {Q : Answer → Prop}
    (hstep : ∀ {bench bench' command answer}, I bench →
      Allowed bench command → Step limit bench command answer bench' →
      I bench' ∧ Q answer)
    {commands : List Command} {bench bench' : Workbench}
    {answers : List Answer}
    (hsteps : bench.steps limit commands = .ok (answers, bench'))
    (hallowed : bench.Along limit Allowed commands) (hbench : I bench) :
    I bench' ∧ ∀ answer ∈ answers, Q answer := by
  induction commands generalizing bench answers with
  | nil =>
      cases hsteps
      exact ⟨hbench, by simp⟩
  | cons command commands ih =>
      obtain ⟨hcommand, hlater⟩ := hallowed
      obtain ⟨⟨answer, bench₁⟩, hfirst, hrest⟩ :=
        Refusal.exists_of_bind_eq_ok hsteps
      obtain ⟨⟨answers₁, bench₂⟩, hrest, hend⟩ :=
        Refusal.exists_of_bind_eq_ok hrest
      cases hend
      obtain ⟨hbench₁, hanswer⟩ :=
        hstep hbench hcommand (step_of_eq_ok hfirst)
      obtain ⟨hbench', hanswers⟩ :=
        ih hrest (hlater answer bench₁ hfirst) hbench₁
      exact ⟨hbench', List.forall_mem_cons.mpr ⟨hanswer, hanswers⟩⟩

/-- Some command takes one workbench to the other. -/
def Moves (bench bench' : Workbench) : Prop :=
  ∃ limit command answer, bench.step limit command = .ok (answer, bench')

/-- A session goes on from one workbench to the other. -/
def Leads : Workbench → Workbench → Prop :=
  Relation.ReflTransGen Moves

/-- What every step keeps holds wherever a session leads. -/
theorem Leads.keeps
    {I : Workbench → Prop}
    (hstep : ∀ {limit bench bench' command answer}, I bench →
      Step limit bench command answer bench' → I bench')
    {bench bench' : Workbench} (h : bench.Leads bench') (hbench : I bench) :
    I bench' := by
  induction h with
  | refl =>
      exact hbench
  | tail _ hmoves ih =>
      obtain ⟨limit, command, answer, hstep'⟩ := hmoves
      exact hstep ih (step_of_eq_ok hstep')

theorem leads_of_steps
    {limit : Nat} {commands : List Command} {answers : List Answer}
    {bench bench' : Workbench}
    (h : bench.steps limit commands = .ok (answers, bench')) :
    bench.Leads bench' := by
  induction commands generalizing bench answers with
  | nil =>
      cases h
      exact .refl
  | cons command commands ih =>
      obtain ⟨⟨answer, bench₁⟩, hfirst, hrest⟩ :=
        Refusal.exists_of_bind_eq_ok h
      obtain ⟨⟨answers₁, bench₂⟩, hrest, hend⟩ :=
        Refusal.exists_of_bind_eq_ok hrest
      cases hend
      exact (ih hrest).head ⟨limit, command, answer, hfirst⟩

end Workbench
end LamApp
