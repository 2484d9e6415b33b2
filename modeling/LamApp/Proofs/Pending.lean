import LamApp.Proofs.LineByLine

/-!
# The state of a session

A session keeps one text: the lines that were entered since its last answer or
reset, trimmed, without those of which nothing is left. This text is never a
program and never beyond hope, for then there would have been an answer. So a
line of white space, which adds nothing to the text, changes nothing at all.

Main statement: in every state that a session can come to, the text is made of
these lines, it is a program that ended too early, the prompt tells whether there
are such lines, and a line of white space is passed over.
-/

namespace LamApp
namespace Text

/-- What is left of some lines when each is trimmed and the empty ones are
dropped. -/
def kept (lines : List String) : List String :=
  (lines.map trim).filter (!·.isEmpty)

/-- A line of nothing but white space. -/
def IsWhite (line : String) : Prop :=
  ∀ c ∈ line.toList, isWhiteSpace c = true

theorem isEmpty_trim_iff
    (line : String) :
    (trim line).isEmpty = true ↔ IsWhite line := by
  constructor
  · intro hempty
    have htrim : trimChars line.toList = [] := by
      simpa [trim] using hempty
    have hline := leading_append_trimChars_append_trailing line.toList
    rw [htrim, List.nil_append] at hline
    intro c hc
    rw [← hline, List.mem_append] at hc
    rcases hc with hc | hc
    · exact isWhiteSpace_of_mem_leading hc
    · exact isWhiteSpace_of_mem_trailing hc
  · intro hwhite
    simp [trim, trimChars_of_isWhiteSpace hwhite]

theorem kept_eq_nil_iff
    (lines : List String) :
    kept lines = [] ↔ ∀ line ∈ lines, IsWhite line := by
  simp [kept, ← isEmpty_trim_iff]

theorem kept_concat
    (lines : List String) (line : String) :
    kept (lines ++ [line]) =
      kept lines ++ if (trim line).isEmpty then [] else [trim line] := by
  by_cases hempty : (trim line).isEmpty = true
  · simp [kept, hempty]
  · simp [kept, hempty]

end Text

namespace Repl

/-- A session can come to this state, and these are the lines that were entered
since its last answer or reset. -/
inductive Reached (format : Bool) : List String → Repl → Prop
  | start : Reached format [] (start format)
  | unfinished {lines : List String} {repl repl' : Repl} {limit : Nat}
      {line : String} :
      Reached format lines repl →
      repl.feed limit line = some (.unfinished, repl') →
      Reached format (lines ++ [line]) repl'
  | finished {lines : List String} {repl repl' : Repl} {limit : Nat}
      {line text : String} :
      Reached format lines repl →
      repl.feed limit line = some (.finished text, repl') →
      Reached format [] repl'
  | reset {lines : List String} {repl : Repl} :
      Reached format lines repl → Reached format [] repl.reset

/-! ## One line -/

/-- More lines are called for exactly while the text could still become a
program. -/
theorem reply_eq_unfinished_iff
    (repl : Repl) (limit : Nat) :
    repl.reply limit = some .unfinished ↔
      (Expr.parse repl.pending).isIncomplete = true := by
  cases hparse : Expr.parse? repl.pending with
  | ok program =>
      have herror := Expr.isError_of_parse?_eq_ok hparse
      have hincomplete : program.isIncomplete ≠ true := by
        intro h
        simp [Expr.isError_of_isIncomplete h] at herror
      rw [reply, Expr.parse_of_ok hparse, hparse]
      by_cases hformat : repl.format = true
      · simp [hformat, hincomplete]
      · simp [hformat, hincomplete]
  | error cause =>
      rw [reply, Expr.parse_of_error hparse, hparse, Expr.isIncomplete]
      by_cases hcause : cause.isIncomplete = true
      · simp [hcause]
      · simp [hcause]

theorem feed_eq_unfinished_iff
    {repl repl' : Repl} {limit : Nat} {line : String} :
    repl.feed limit line = some (.unfinished, repl') ↔
      (repl.enter line).reply limit = some .unfinished ∧
        repl' = repl.enter line := by
  constructor
  · intro hfeed
    rw [feed] at hfeed
    obtain ⟨_ | text, hreply, hpair⟩ := Option.map_eq_some_iff.mp hfeed
    · rw [Prod.mk.injEq] at hpair
      exact ⟨hreply, hpair.2.symm⟩
    · simp at hpair
  · rintro ⟨hreply, hrepl⟩
    simp [feed, hreply, hrepl]

theorem feed_eq_finished_iff
    {repl repl' : Repl} {limit : Nat} {line text : String} :
    repl.feed limit line = some (.finished text, repl') ↔
      (repl.enter line).reply limit = some (.finished text) ∧
        repl' = start repl.format := by
  constructor
  · intro hfeed
    rw [feed] at hfeed
    obtain ⟨_ | text', hreply, hpair⟩ := Option.map_eq_some_iff.mp hfeed
    · simp at hpair
    · rw [Prod.mk.injEq, reset, format_enter] at hpair
      exact ⟨by rw [hreply, hpair.1], hpair.2.symm⟩
  · rintro ⟨hreply, hrepl⟩
    simp [feed, hreply, reset, hrepl]

theorem enter_of_isWhite
    {line : String} (hline : Text.IsWhite line) (repl : Repl) :
    repl.enter line = repl := by
  simp [enter, (Text.isEmpty_trim_iff line).mpr hline]

/-! ## All lines -/

/-- What a session keeps of some lines: their text, which could still become a
program. -/
structure Keeps (repl : Repl) (lines : List String) : Prop where
  pending : repl.pending = String.ofList (Text.joined (Text.kept lines))
  incomplete : (Expr.parse repl.pending).isIncomplete = true

theorem keeps_start
    (format : Bool) :
    (start format).Keeps [] where
  pending := rfl
  incomplete := by
    rw [← reply_eq_unfinished_iff _ 0]
    exact (holds_start format).reply_of_not_whole rfl (by simp [Draft.empty]) 0

theorem pending_enter
    {repl : Repl} {lines : List String}
    (hpending : repl.pending = String.ofList (Text.joined (Text.kept lines)))
    (line : String) :
    (repl.enter line).pending =
      String.ofList (Text.joined (Text.kept (lines ++ [line]))) := by
  rw [Text.kept_concat, enter]
  by_cases hempty : (Text.trim line).isEmpty = true
  · simp [hempty, hpending]
  · rw [← String.toList_inj]
    simp [hempty, hpending, Text.joined]

namespace Keeps

/-- A line that calls for more is added to the lines. -/
theorem feed
    {repl repl' : Repl} {lines : List String} (h : repl.Keeps lines)
    {limit : Nat} {line : String}
    (hfeed : repl.feed limit line = some (.unfinished, repl')) :
    repl'.Keeps (lines ++ [line]) := by
  obtain ⟨hreply, hrepl⟩ := feed_eq_unfinished_iff.mp hfeed
  rw [hrepl]
  exact ⟨pending_enter h.pending line,
    (reply_eq_unfinished_iff _ limit).mp hreply⟩

/-- A line of white space is passed over. -/
theorem feed_of_isWhite
    {repl : Repl} {lines : List String} (h : repl.Keeps lines)
    {line : String} (hline : Text.IsWhite line) (limit : Nat) :
    repl.feed limit line = some (.unfinished, repl) := by
  have hreply := (reply_eq_unfinished_iff repl limit).mpr h.incomplete
  rw [Repl.feed, enter_of_isWhite hline, hreply]
  rfl

theorem isEmpty_iff
    {repl : Repl} {lines : List String} (h : repl.Keeps lines) :
    repl.isEmpty = true ↔ ∀ line ∈ lines, Text.IsWhite line := by
  rw [← Text.kept_eq_nil_iff, isEmpty, h.pending]
  cases Text.kept lines with
  | nil =>
      simp [Text.joined]
  | cons text texts =>
      simp

theorem prompt_eq_iff
    {repl : Repl} {lines : List String} (h : repl.Keeps lines) :
    repl.prompt = ">> " ↔ ∀ line ∈ lines, Text.IsWhite line := by
  rw [← h.isEmpty_iff, prompt]
  by_cases hempty : repl.isEmpty = true
  · simp [hempty]
  · simp [hempty]

end Keeps

/-- In every state that it can come to, a session keeps the lines since its last
answer or reset. -/
theorem Reached.keeps
    {format : Bool} {lines : List String} {repl : Repl}
    (h : Reached format lines repl) :
    repl.Keeps lines := by
  induction h with
  | start =>
      exact keeps_start format
  | unfinished _ hfeed ih =>
      exact ih.feed hfeed
  | finished _ hfeed _ =>
      rw [(feed_eq_finished_iff.mp hfeed).2]
      exact keeps_start _
  | reset _ _ =>
      exact keeps_start _

/-- In every state that a session can come to, its text consists of the lines
since the last answer or reset, trimmed and without the blank ones. The text is
a program that ended too early. The prompt is that of a new program exactly if
all these lines are white space, and one more such line is answered by a call
for more and changes nothing. -/
theorem state_of_reached
    {format : Bool} {lines : List String} {repl : Repl}
    (h : Reached format lines repl) :
    repl.pending = String.ofList (Text.joined (Text.kept lines)) ∧
    (Expr.parse repl.pending).isIncomplete = true ∧
    (repl.prompt = ">> " ↔ ∀ line ∈ lines, Text.IsWhite line) ∧
    ∀ line, Text.IsWhite line → ∀ limit,
      repl.feed limit line = some (.unfinished, repl) :=
  ⟨h.keeps.pending, h.keeps.incomplete, h.keeps.prompt_eq_iff,
    fun _ hline limit => h.keeps.feed_of_isWhite hline limit⟩

/-- A sum is begun after an answer; its first line has a wide space on both
sides, and the second is a wide space. -/
theorem state_after_answer :
    let lines := ["\u3000app app add\u3000", "\u3000", "1"]
    let repl : Repl := ⟨false, "app app add\n1\n"⟩
    Reached false lines repl ∧
      repl.pending = String.ofList (Text.joined (Text.kept lines)) ∧
      (Expr.parse repl.pending).isIncomplete = true ∧
      repl.prompt ≠ ">> " ∧
      repl.feed 40 "\t\u3000" = some (.unfinished, repl) := by
  intro lines repl
  have hanswer : (start false).feed 40 "7" =
      some (.finished "7", start false) :=
    feed_eq_finished_iff.mpr ⟨by decide +kernel, rfl⟩
  have hfirst : (start false).feed 40 "\u3000app app add\u3000" =
      some (.unfinished, ⟨false, "app app add\n"⟩) :=
    feed_eq_unfinished_iff.mpr ⟨by decide +kernel, by rfl⟩
  have hblank : feed 40 ⟨false, "app app add\n"⟩ "\u3000" =
      some (.unfinished, ⟨false, "app app add\n"⟩) :=
    feed_eq_unfinished_iff.mpr ⟨by decide +kernel, by rfl⟩
  have hlast : feed 40 ⟨false, "app app add\n"⟩ "1" =
      some (.unfinished, repl) :=
    feed_eq_unfinished_iff.mpr ⟨by decide +kernel, by rfl⟩
  have hreached : Reached false lines repl :=
    (((Reached.start.finished hanswer).unfinished hfirst).unfinished
      hblank).unfinished hlast
  obtain ⟨hpending, hincomplete, hprompt, hwhite⟩ := state_of_reached hreached
  refine ⟨hreached, hpending, hincomplete, ?_, hwhite _ ?_ 40⟩
  · rw [ne_eq, hprompt]
    intro hall
    have hone : Text.isWhiteSpace '1' = true :=
      hall "1" (by simp [lines]) '1' (by simp)
    exact absurd hone (by decide)
  · intro c hc
    have hcases : c = '\t' ∨ c = '\u3000' := by
      simpa using hc
    rcases hcases with rfl | rfl <;> rfl

end Repl
end LamApp
