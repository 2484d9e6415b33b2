import LamApp.Program
import LamApp.Proofs.RoundTrip

/-!
# The layout form of a program

The layout form has no parentheses. Lines and margins only separate the
tokens; which parts belong together the tokens tell by themselves, since no
list of tokens that derives a tree goes on to a longer one.

Main statement: a well-formed tree comes back from its layout form. So a
program that is formatted stays the same program: formatted once more it stays
the same text, and it runs as it did before.
-/

namespace LamApp
namespace Expr

theorem isBlank_of_mem_margin
    {depth : Nat} {c : Char} (hc : c ∈ margin depth) :
    isBlank c = true := by
  rw [margin] at hc
  rw [List.eq_of_mem_replicate hc]
  rfl

/-- A margin in front of a written tree leaves it the same tree. -/
theorem Writes.indent
    {piece : List Char → List Char} {e : Expr} (hpiece : Writes piece e)
    (depth : Nat) :
    Writes (fun rest => margin depth ++ piece rest) e := by
  intro rest hrest
  obtain ⟨tokens, hderives, htokens⟩ := hpiece rest hrest
  refine ⟨tokens, hderives, ?_⟩
  rw [Token.ofChars_append_of_blank fun _ => isBlank_of_mem_margin, htokens]

/-- The layout form of a well-formed tree is read as the tree. -/
theorem writes_layout
    {e : Expr} (he : e.WellFormed) (depth : Nat) :
    Writes (layout depth e) e := by
  induction e generalizing depth with
  | lam parameter body ih =>
      obtain ⟨hname, hkeyword, hbody⟩ := he
      have hplain : (Token.identifier parameter).IsPlain :=
        ⟨hname, by simpa using hkeyword⟩
      intro rest hrest
      rw [layout]
      by_cases hleaf : body.isLeaf = true
      · rw [if_pos hleaf]
        exact (Writes.lam hplain rfl (writes_inline hbody)).indent depth
          rest hrest
      · rw [if_neg hleaf]
        exact (Writes.lam hplain rfl (ih hbody (depth + 1))).indent depth
          rest hrest
  | app function argument ihf iha =>
      obtain ⟨hfunction, hargument⟩ := he
      intro rest hrest
      rw [layout]
      by_cases hleaf : (function.isLeaf && argument.isLeaf) = true
      · rw [if_pos hleaf]
        exact (Writes.app rfl (writes_inline hfunction)
          (writes_inline hargument)).indent depth rest hrest
      · rw [if_neg hleaf]
        exact (Writes.app rfl (ihf hfunction (depth + 1))
          (iha hargument (depth + 1))).indent depth rest hrest
  | _ =>
      exact (writes_inline he).indent depth

theorem parse?_pretty
    {e : Expr} (he : e.WellFormed) :
    parse? e.pretty = .ok e :=
  parse?_of_writes (writes_layout he 0)

/-- A well-formed tree comes back from its layout form. A program that is
formatted is formatted to the same text again, and it runs as before. -/
theorem parse_pretty_and_run :
    (∀ e : Expr, e.WellFormed → parse e.pretty = e) ∧
    ∀ source : String, (parse source).isError = false →
      ∃ text : String, ∀ limit : Nat,
        (Program.run limit true source).map Run.result = some (.ok text) ∧
        (Program.run limit true text).map Run.result = some (.ok text) ∧
        Program.run limit false text = Program.run limit false source := by
  refine ⟨fun e he => parse_of_ok (parse?_pretty he), ?_⟩
  intro source hsource
  obtain ⟨e, hparse⟩ : ∃ e, parse? source = .ok e :=
    ⟨_, (parse_eq_iff_of_isError hsource source).mp rfl⟩
  have hpretty := parse?_pretty (wellFormed_of_parse?_eq_ok hparse)
  refine ⟨e.pretty, fun limit => ⟨?_, ?_, ?_⟩⟩
  · rw [Program.run, hparse]
    rfl
  · rw [Program.run, hpretty]
    rfl
  · rw [Program.run, Program.run, hpretty, hparse]

/-- The layout form does without the parentheses around a function and an
argument with parts. -/
theorem run_pretty_of_parentheses :
    ∃ e : Expr,
      e.WellFormed ∧ parse e.pretty = e ∧
      e.render = "app (lam f app f 2) (app add 1)" ∧
      e.pretty = "app\n    lam f\n        app f 2\n    app add 1" ∧
      (parse "app (lam f app f 2) (app add 1)").isError = false ∧
      ∃ text : String,
        (Program.run 40 true "app (lam f app f 2) (app add 1)").map
          Run.result = some (.ok text) ∧
        (Program.run 40 true text).map Run.result = some (.ok text) ∧
        (Program.run 40 false text).map Run.result = some (.ok "3") := by
  have hnames : (app (lam "f" (app (var "f") (number 2)))
      (app (var "add") (number 1))).WellFormed := by
    refine ⟨⟨by decide, by decide, ⟨by decide, by decide⟩, trivial⟩,
      ⟨by decide, by decide⟩, trivial⟩
  have hsource :
      (parse "app (lam f app f 2) (app add 1)").isError = false := by
    decide +kernel
  obtain ⟨text, htext⟩ := parse_pretty_and_run.2 _ hsource
  obtain ⟨hformat, hagain, hrun⟩ := htext 40
  refine ⟨_, hnames, parse_pretty_and_run.1 _ hnames, by decide +kernel,
    by decide +kernel, hsource, text, hformat, hagain, ?_⟩
  rw [hrun]
  decide +kernel

end Expr
end LamApp
