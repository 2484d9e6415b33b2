import LamApp.Proofs.LineByLine

/-!
# A session as a sequence of runs

A session keeps the lines since its last answer, trimmed and without the blank
ones. A run is given all of them as they were typed. If trimming takes away
nothing but blanks, both texts are read as the same tokens, and the parser has
only the tokens to go by.

Main statement: the answers of a session are those of a sequence of runs, one
for each line, on the lines since the last answer or reset. Nothing that was
entered before has an influence.
-/

namespace LamApp
namespace Text

/-- Trimming takes away nothing but blanks. -/
def TrimsBlanks (line : String) : Prop :=
  (∀ c ∈ leading line.toList, isBlank c = true) ∧
    ∀ c ∈ trailing line.toList, isBlank c = true

instance (line : String) : Decidable (TrimsBlanks line) :=
  decidable_of_iff
    ((leading line.toList).all isBlank = true ∧
      (trailing line.toList).all isBlank = true)
    (by rw [TrimsBlanks, List.all_eq_true, List.all_eq_true])

theorem joined_concat
    (lines : List String) (line : String) (more : List Char) :
    joined (lines ++ [line]) ++ more =
      joined lines ++ (line.toList ++ '\n' :: more) := by
  simp [joined]

end Text

namespace Token

/-- Behind whole lines a text may be exchanged for one with the same tokens. -/
theorem ofChars_joined_congr
    {cs cs' : List Char} (h : ofChars cs = ofChars cs') (lines : List String) :
    ofChars (Text.joined lines ++ cs) = ofChars (Text.joined lines ++ cs') := by
  induction lines with
  | nil =>
      exact h
  | cons line lines ih =>
      obtain ⟨tokens, last, htokens, -, -⟩ := ofChars_eq_append line.toList
      rw [Text.joined_cons, List.append_assoc, List.append_assoc,
        List.cons_append, List.cons_append, ofChars_append_cons rfl htokens,
        ofChars_append_cons rfl htokens, ofChars_cons_of_blank rfl,
        ofChars_cons_of_blank rfl, ih]

end Token

/-! ## Runs as answers -/

namespace Run

/-- The text ended too early. -/
def isIncomplete : Run → Bool
  | unparsed cause => cause.isIncomplete
  | _ => false

/-- What a session answers to the text of the run: a text that ended too early
calls for more lines, and of all others the result is shown. -/
def reply (run : Run) : Repl.Reply :=
  if run.isIncomplete then .unfinished else .finished (Repl.shown run.result)

end Run

namespace Repl

/-- What can be done at a session. -/
inductive Entry where
  | line (text : String)
  | reset
deriving DecidableEq

/-- Carries out some entries. The replies are those to the lines. -/
def answers (limit : Nat) (repl : Repl) :
    List Entry → Option (List Reply × Repl)
  | [] => some ([], repl)
  | .line text :: entries =>
    (repl.feed limit text).bind fun (reply, repl') =>
      (answers limit repl' entries).map fun (replies, repl'') =>
        (reply :: replies, repl'')
  | .reset :: entries => answers limit repl.reset entries

/-- The replies to some entries if each line is a run of its own, on the lines
since the last answer or reset. The first argument holds these lines. -/
def batches (limit : Nat) (format : Bool) :
    List String → List Entry → Option (List Reply)
  | _, [] => some []
  | lines, .line text :: entries =>
    let lines' := lines ++ [text]
    (Program.run limit format (String.ofList (Text.joined lines'))).bind
      fun run =>
        (batches limit format (if run.isIncomplete then lines' else [])
          entries).map (run.reply :: ·)
  | _, .reset :: entries => batches limit format [] entries

/-- The text of the session is read as the lines are, whatever stands behind
it. -/
def Reads (repl : Repl) (lines : List String) : Prop :=
  ∀ more : List Char,
    Token.ofChars (repl.pending.toList ++ more) =
      Token.ofChars (Text.joined lines ++ more)

theorem reads_start
    (format : Bool) :
    (start format).Reads [] := by
  intro more
  rfl

/-- A line from which only blanks are trimmed is read as it was typed. -/
theorem Reads.enter
    {repl : Repl} {lines : List String} (hrepl : repl.Reads lines)
    {line : String} (hline : Text.TrimsBlanks line) :
    (repl.enter line).Reads (lines ++ [line]) := by
  intro more
  have htrim :=
    Token.ofChars_trimChars_append hline.1 hline.2 more
  rw [Text.joined_concat, ← Token.ofChars_joined_congr htrim, ← hrepl]
  unfold Repl.enter
  dsimp only
  split
  case isTrue hempty =>
    have hnil : Text.trimChars line.toList = [] := by
      simpa [Text.trim] using hempty
    rw [hnil, List.nil_append, hrepl, hrepl]
    exact Token.ofChars_joined_congr
      (Token.ofChars_cons_of_blank rfl more).symm lines
  case isFalse =>
    simp [Text.trim]

/-- The reply is that of a run of any text that is parsed alike. -/
theorem reply_eq_of_parse?_eq
    {repl : Repl} {source : String}
    (hparse : Expr.parse? repl.pending = Expr.parse? source) (limit : Nat) :
    repl.reply limit =
      (Program.run limit repl.format source).map Run.reply := by
  rw [Repl.reply, Program.run, hparse]
  cases Expr.parse? source with
  | error cause =>
      exact (apply_ite some (cause.isIncomplete = true) _ _).symm
  | ok program =>
      by_cases hformat : repl.format = true
      · simp only [hformat, if_true, Option.map_some]
        rfl
      · simp only [hformat, Bool.false_eq_true, if_false, Option.map_map]
        apply Option.map_congr
        intro value _
        cases value <;> rfl

theorem Reads.parse?_eq
    {repl : Repl} {lines : List String} (hrepl : repl.Reads lines) :
    Expr.parse? repl.pending =
      Expr.parse? (String.ofList (Text.joined lines)) := by
  apply Expr.parse?_congr
  have htokens := hrepl []
  rw [List.append_nil, List.append_nil] at htokens
  rw [Token.ofString, Token.ofString, String.toList_ofList, htokens]

/-- One line is answered as a run of the lines so far, and an answer leaves
none of them. -/
theorem Reads.feed
    {repl : Repl} {lines : List String} (hrepl : repl.Reads lines)
    {line : String} (hline : Text.TrimsBlanks line) (limit : Nat) :
    repl.feed limit line =
      (Program.run limit repl.format
        (String.ofList (Text.joined (lines ++ [line])))).map fun run =>
          (run.reply,
            if run.isIncomplete then repl.enter line
            else start repl.format) := by
  rw [Repl.feed, reply_eq_of_parse?_eq (hrepl.enter hline).parse?_eq,
    format_enter, Option.map_map]
  apply Option.map_congr
  intro run _
  by_cases hrun : run.isIncomplete = true
  · simp [Run.reply, hrun]
  · simp [Run.reply, hrun, reset]

/-- From any point of a session on, the answers are those of runs. -/
theorem Reads.answers
    {repl : Repl} {lines : List String} (hrepl : repl.Reads lines)
    {entries : List Entry}
    (hentries : ∀ text, .line text ∈ entries → Text.TrimsBlanks text)
    (limit : Nat) :
    (repl.answers limit entries).map Prod.fst =
      batches limit repl.format lines entries := by
  induction entries generalizing repl lines with
  | nil =>
      rfl
  | cons entry entries ih =>
      have hlater : ∀ text, .line text ∈ entries → Text.TrimsBlanks text :=
        fun text htext => hentries text (List.mem_cons_of_mem _ htext)
      cases entry with
      | reset =>
          exact ih (reads_start repl.format) hlater
      | line text =>
          have htext := hentries text List.mem_cons_self
          rw [Repl.answers, batches, hrepl.feed htext limit]
          cases hrun : Program.run limit repl.format
              (String.ofList (Text.joined (lines ++ [text]))) with
          | none =>
              rfl
          | some run =>
              -- The session goes on as it is, or it starts anew.
              have hrest :
                  ((if run.isIncomplete then repl.enter text
                    else start repl.format).answers limit entries).map
                      Prod.fst =
                    batches limit repl.format
                      (if run.isIncomplete then lines ++ [text] else [])
                      entries := by
                split
                · rw [ih (hrepl.enter htext) hlater, format_enter]
                · rw [ih (reads_start repl.format) hlater, format_start]
              simp only [Option.map_some, Option.bind_some, Option.map_map,
                ← hrest]
              rfl

/-- A session in which only blanks are trimmed answers as a sequence of runs,
each on the lines since the last answer or reset. -/
theorem answers_eq_batches
    {entries : List Entry}
    (hentries : ∀ text, .line text ∈ entries → Text.TrimsBlanks text)
    (limit : Nat) (format : Bool) :
    ((start format).answers limit entries).map Prod.fst =
      batches limit format [] entries :=
  (reads_start format).answers hentries limit

/-- A sum over several lines, a program that is given up, one that ends in a
malformed token, and one that fails. -/
theorem answers_of_four_programs :
    let entries : List Entry :=
      [.line " app app add\t", .line "", .line "1", .line "  2\r",
        .line "app lam x", .reset, .line "app 12a", .line "x"]
    (∀ text, .line text ∈ entries → Text.TrimsBlanks text) ∧
      ((start false).answers 40 entries).map Prod.fst =
        some [.unfinished, .unfinished, .unfinished, .finished "3",
          .unfinished, .finished "parse error: bad number syntax: '12a'",
          .finished "unknown identifier: 'x'"] := by
  intro entries
  have hentries : ∀ text, .line text ∈ entries → Text.TrimsBlanks text := by
    intro text htext
    simp only [entries, List.mem_cons, Entry.line.injEq, List.not_mem_nil,
      reduceCtorEq, false_or, or_false] at htext
    rcases htext with rfl | rfl | rfl | rfl | rfl | rfl | rfl <;>
      decide +kernel
  refine ⟨hentries, ?_⟩
  rw [answers_eq_batches hentries]
  decide +kernel

end Repl
end LamApp
