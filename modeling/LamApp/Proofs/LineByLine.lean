import LamApp.Program
import LamApp.Repl
import LamApp.Proofs.Completion
import LamApp.Proofs.Trimming

/-!
# Whole programs entered line by line

A session that is given a program in lines has only the tokens to go by. After
any number of lines its text holds the tokens of these lines, in whatever way
they were trimmed. No list of tokens that derives a program goes on to a longer
one, so the program is not whole before the line of its last token.

Main statement: a program that is entered in the lines of its text is answered
once, at the line of its last token, with what a run of the whole text shows.
-/

namespace LamApp
namespace Text

/-- The pieces of a text between its line ends. -/
def pieces (text : String) : List String :=
  (text.toList.splitOn '\n').map String.ofList

/-- Pieces put together, each with a line end. -/
def joined (lines : List String) : List Char :=
  lines.flatMap fun line => line.toList ++ ['\n']

@[simp] theorem joined_cons
    (line : String) (lines : List String) :
    joined (line :: lines) = line.toList ++ '\n' :: joined lines := by
  simp [joined]

theorem joined_map_ofList
    {pieces : List (List Char)} (hpieces : pieces ≠ []) :
    joined (pieces.map String.ofList) =
      ['\n'].intercalate pieces ++ ['\n'] := by
  induction pieces with
  | nil =>
      exact absurd rfl hpieces
  | cons piece pieces ih =>
      cases pieces with
      | nil =>
          simp [joined]
      | cons piece' pieces =>
          rw [List.map_cons, joined_cons, ih (by simp),
            List.intercalate_cons_cons]
          simp

/-- The pieces of a text make up the text and one more line end. -/
theorem joined_pieces
    (text : String) :
    joined (pieces text) = text.toList ++ ['\n'] := by
  rw [pieces, joined_map_ofList (List.splitOn_ne_nil _ _),
    List.intercalate_splitOn]

end Text

namespace Token

/-- The tokens of a line, without the last one. -/
def words (line : String) : List Token :=
  (ofString line).dropLast

/-- The line has no malformed token. -/
def Readable (line : String) : Prop :=
  ofString line = words line ++ [.endOfInput]

theorem readable_of_eq_append
    {line : String} {tokens : List Token}
    (htokens : ofString line = tokens ++ [.endOfInput]) :
    Readable line ∧ words line = tokens := by
  have hwords : words line = tokens := by
    rw [words, htokens, List.dropLast_concat]
  exact ⟨by rw [Readable, hwords, htokens], hwords⟩

theorem Readable.words_eq_nil_iff
    {line : String} (hline : Readable line) :
    words line = [] ↔ ofString line = [.endOfInput] := by
  rw [hline]
  simp

theorem flatMap_words_eq_nil
    {lines : List String}
    (hlines : ∀ line ∈ lines, ofString line = [.endOfInput]) :
    lines.flatMap words = [] := by
  rw [List.flatMap_eq_nil_iff]
  intro line hline
  rw [words, hlines line hline]
  rfl

/-- Lines that together have no malformed token have none each, and together
they have the tokens that they have one by one. -/
theorem readable_of_joined
    {lines : List String} {tokens : List Token}
    (htokens : ofChars (Text.joined lines) = tokens ++ [.endOfInput]) :
    (∀ line ∈ lines, Readable line) ∧ tokens = lines.flatMap words := by
  induction lines generalizing tokens with
  | nil =>
      rw [Text.joined, List.flatMap_nil, ofChars_of_blank (by simp)] at htokens
      exact ⟨by simp, List.self_eq_append_left.mp htokens⟩
  | cons line lines ih =>
      obtain ⟨front, last, hfront, -, -⟩ := ofChars_eq_append line.toList
      rw [Text.joined_cons, ofChars_append_cons rfl hfront] at htokens
      by_cases hlast : last = .endOfInput
      · subst hlast
        obtain ⟨rest, last', hrest, -, -⟩ :=
          ofChars_eq_append (Text.joined lines)
        rw [if_pos rfl, ofChars_cons_of_blank rfl, hrest,
          ← List.append_assoc, List.append_singleton_inj] at htokens
        obtain ⟨rfl, rfl⟩ := htokens
        obtain ⟨hlines, rfl⟩ := ih hrest
        obtain ⟨hline, hwords⟩ := readable_of_eq_append hfront
        refine ⟨List.forall_mem_cons.mpr ⟨hline, hlines⟩, ?_⟩
        rw [List.flatMap_cons, hwords]
      · rw [if_neg hlast, List.append_singleton_inj] at htokens
        exact absurd htokens.2 hlast

/-- A text without malformed tokens has the tokens of its pieces. -/
theorem readable_of_mem_pieces
    {source : String} {tokens : List Token}
    (htokens : ofString source = tokens ++ [.endOfInput]) :
    (∀ piece ∈ Text.pieces source, Readable piece) ∧
      tokens = (Text.pieces source).flatMap words := by
  apply readable_of_joined
  rw [Text.joined_pieces, ofChars_append_newline htokens,
    ofChars_of_blank (by simp)]

end Token

namespace Repl

/-- Enters some lines, one after the other. -/
def feedAll (limit : Nat) (repl : Repl) :
    List String → Option (List Reply × Repl)
  | [] => some ([], repl)
  | line :: lines =>
    (repl.feed limit line).bind fun (reply, repl') =>
      (feedAll limit repl' lines).map fun (replies, repl'') =>
        (reply :: replies, repl'')

/-- What a session shows for the result of a run: the message of a runtime
error goes without its heading. -/
def shown : Except RunError String → String
  | .ok text => text
  | .error (.runtime cause) => cause.message
  | .error cause => cause.message

/-- The text of the session comes in these tokens, and leaves what stands
behind it as it is. -/
def Holds (repl : Repl) (tokens : List Token) : Prop :=
  ∀ more : List Char,
    Token.ofChars (repl.pending.toList ++ more) =
      tokens ++ Token.ofChars more

/-! ## One more line -/

@[simp] theorem format_start
    (format : Bool) :
    (start format).format = format := rfl

theorem eq_start_of_isEmpty
    {repl : Repl} (hempty : repl.isEmpty = true) :
    repl = start repl.format := by
  obtain ⟨format, pending⟩ := repl
  obtain rfl : pending = "" := by simpa [isEmpty] using hempty
  rfl

theorem holds_start
    (format : Bool) :
    (start format).Holds [] := by
  intro more
  rfl

@[simp] theorem format_enter
    (repl : Repl) (line : String) :
    (repl.enter line).format = repl.format := by
  unfold enter
  dsimp only
  split <;> rfl

@[simp] theorem format_foldl_enter
    (repl : Repl) (lines : List String) :
    (lines.foldl enter repl).format = repl.format := by
  induction lines generalizing repl with
  | nil =>
      rfl
  | cons line lines ih =>
      rw [List.foldl_cons, ih, format_enter]

/-- A line without malformed tokens adds its tokens. -/
theorem Holds.enter
    {repl : Repl} {tokens : List Token} (hrepl : repl.Holds tokens)
    {line : String} (hline : Token.Readable line) :
    (repl.enter line).Holds (tokens ++ Token.words line) := by
  intro more
  unfold Repl.enter
  dsimp only
  split
  case isTrue hempty =>
    have htrim : Text.trimChars line.toList = [] := by
      simpa [Text.trim] using hempty
    rw [Token.eq_nil_of_trimChars_eq_nil hline htrim, List.append_nil]
    exact hrepl more
  case isFalse =>
    have htext :
        (repl.pending ++ Text.trim line ++ "\n").toList ++ more =
          repl.pending.toList ++
            (Text.trimChars line.toList ++ '\n' :: more) := by
      simp [Text.trim]
    rw [htext, hrepl, Token.ofChars_trimChars_append_of_readable hline,
      List.append_assoc]

/-- A line of blanks adds nothing. -/
theorem enter_of_ofString_eq_endOfInput
    {line : String} (hline : Token.ofString line = [.endOfInput])
    (repl : Repl) :
    repl.enter line = repl := by
  have hblank := (Token.ofChars_eq_endOfInput_iff _).mp hline
  have htrim : Text.trimChars line.toList = [] :=
    Text.trimChars_of_isWhiteSpace fun c hc =>
      Text.isWhiteSpace_of_isBlank (hblank c hc)
  simp [enter, Text.trim, htrim]

/-! ## The reply to the tokens so far -/

theorem Holds.ofString
    {repl : Repl} {tokens : List Token} (hrepl : repl.Holds tokens) :
    Token.ofString repl.pending = tokens ++ [.endOfInput] := by
  have hnil : Token.ofChars [] = [.endOfInput] :=
    Token.ofChars_of_blank (by simp)
  have htokens := hrepl []
  rw [List.append_nil, hnil] at htokens
  exact htokens

/-- While the program is not whole, more lines are called for. -/
theorem Holds.reply_of_not_whole
    {repl : Repl} {tokens : List Token} (hrepl : repl.Holds tokens)
    {draft : Draft} (hfollow : Draft.empty.follow tokens = .next draft)
    (hdraft : ∀ program, draft ≠ .whole program) (limit : Nat) :
    repl.reply limit = some .unfinished := by
  have hparse := Expr.follow_ofString repl.pending
  rw [hrepl.ofString, Draft.follow_append_of_next hfollow,
    Draft.follow_singleton] at hparse
  rw [reply]
  cases hresult : Expr.parse? repl.pending with
  | ok program =>
      rw [hresult] at hparse
      obtain ⟨rfl, -⟩ := Draft.feed_eq_accept_iff.mp hparse
      exact absurd rfl (hdraft program)
  | error cause =>
      rw [hresult] at hparse
      have hcause : cause.isIncomplete = true :=
        (Draft.isIncomplete_iff_of_feed_eq_reject hparse).mpr rfl
      simp [hcause]

/-- A whole program is answered as a run of it ends. -/
theorem Holds.reply_of_derives
    {repl : Repl} {tokens : List Token} (hrepl : repl.Holds tokens)
    {program : Expr} (hderives : Derives tokens program)
    {source : String} (hparse : Expr.parse? source = .ok program)
    (limit : Nat) :
    repl.reply limit =
      (Program.run limit repl.format source).map fun run =>
        .finished (shown run.result) := by
  have hpending : Expr.parse? repl.pending = .ok program :=
    (Expr.parse?_eq_ok_iff _ _).mpr ⟨tokens, hrepl.ofString, hderives⟩
  rw [reply, Program.run, hpending, hparse]
  by_cases hformat : repl.format = true
  · simp [hformat, Run.result, shown]
  · simp only [hformat, Bool.false_eq_true, if_false, Option.map_map]
    apply Option.map_congr
    intro value _
    cases value <;> rfl

/-! ## Some lines -/

/-- A program is not whole in front of its last token. -/
theorem exists_follow_of_derives_append
    {tokens rest : List Token} {program : Expr}
    (hderives : Derives (tokens ++ rest) program) (hrest : rest ≠ []) :
    ∃ draft,
      Draft.empty.follow tokens = .next draft ∧
      ∀ e, draft ≠ .whole e := by
  rw [← Draft.follow_empty_eq_whole_iff] at hderives
  obtain ⟨draft, hfollow, hmore⟩ := Draft.exists_follow_of_append hderives
  refine ⟨draft, hfollow, ?_⟩
  rintro e rfl
  exact hrest (Draft.eq_nil_of_follow_whole hmore)

/-- In front of the last token of a program a line only adds its tokens. -/
theorem Holds.feed_of_derives_append
    {repl : Repl} {tokens : List Token} (hrepl : repl.Holds tokens)
    {line : String} (hline : Token.Readable line)
    {rest : List Token} {program : Expr}
    (hderives : Derives (tokens ++ Token.words line ++ rest) program)
    (hrest : rest ≠ []) (limit : Nat) :
    repl.feed limit line = some (.unfinished, repl.enter line) := by
  obtain ⟨draft, hfollow, hdraft⟩ :=
    exists_follow_of_derives_append hderives hrest
  rw [feed, (hrepl.enter hline).reply_of_not_whole hfollow hdraft]
  rfl

/-- The line of the last token is answered as a run of the program ends. -/
theorem Holds.feed_of_derives
    {repl : Repl} {tokens : List Token} (hrepl : repl.Holds tokens)
    {line : String} (hline : Token.Readable line)
    {program : Expr} (hderives : Derives (tokens ++ Token.words line) program)
    {source : String} (hparse : Expr.parse? source = .ok program)
    (limit : Nat) :
    repl.feed limit line =
      (Program.run limit repl.format source).map fun run =>
        (.finished (shown run.result), start repl.format) := by
  rw [feed, (hrepl.enter hline).reply_of_derives hderives hparse,
    Option.map_map, format_enter]
  apply Option.map_congr
  intro run _
  simp [reset]

/-- Lines in front of the last token of a program only add their tokens. -/
theorem Holds.feedAll_of_derives_append
    {repl : Repl} {tokens : List Token} (hrepl : repl.Holds tokens)
    {lines : List String} (hlines : ∀ line ∈ lines, Token.Readable line)
    {rest : List Token} {program : Expr}
    (hderives :
      Derives (tokens ++ lines.flatMap Token.words ++ rest) program)
    (hrest : rest ≠ []) :
    (lines.foldl Repl.enter repl).Holds
        (tokens ++ lines.flatMap Token.words) ∧
      ∀ limit : Nat,
        repl.feedAll limit lines =
          some (lines.map fun _ => .unfinished,
            lines.foldl Repl.enter repl) := by
  induction lines generalizing repl tokens with
  | nil =>
      simpa [feedAll] using hrepl
  | cons line lines ih =>
      obtain ⟨hline, hlines⟩ := List.forall_mem_cons.mp hlines
      rw [List.flatMap_cons, ← List.append_assoc] at hderives ⊢
      obtain ⟨hholds, hrun⟩ := ih (hrepl.enter hline) hlines hderives
      rw [List.foldl_cons]
      refine ⟨hholds, fun limit => ?_⟩
      rw [List.append_assoc] at hderives
      have hfeed := hrepl.feed_of_derives_append hline hderives
        (List.append_ne_nil_of_right_ne_nil _ hrest) limit
      simp [feedAll, hfeed, hrun]

/-- Blank lines leave a session in which nothing has been entered as it is. -/
theorem feedAll_of_blank
    {lines : List String}
    (hlines : ∀ line ∈ lines, Token.ofString line = [.endOfInput])
    (limit : Nat) (format : Bool) :
    (start format).feedAll limit lines =
      some (lines.map fun _ => .unfinished, start format) := by
  induction lines with
  | nil =>
      rfl
  | cons line lines ih =>
      obtain ⟨hline, hlines⟩ := List.forall_mem_cons.mp hlines
      have hreply : (start format).reply limit = some .unfinished :=
        (holds_start format).reply_of_not_whole rfl (by simp [Draft.empty])
          limit
      have hfeed : (start format).feed limit line =
          some (.unfinished, start format) := by
        rw [feed, enter_of_ofString_eq_endOfInput hline, hreply]
        rfl
      simp [feedAll, hfeed, ih hlines]

/-! ## The lines of a program -/

/-- Some piece of a program is the last one that holds a token. -/
theorem exists_last_line
    {lines : List String}
    (hlines : ∃ line ∈ lines, Token.ofString line ≠ [.endOfInput]) :
    ∃ front line back,
      lines = front ++ line :: back ∧
      Token.ofString line ≠ [.endOfInput] ∧
      ∀ piece ∈ back, Token.ofString piece = [.endOfInput] := by
  induction lines with
  | nil =>
      simp at hlines
  | cons line lines ih =>
      by_cases hlater : ∃ line ∈ lines, Token.ofString line ≠ [.endOfInput]
      · obtain ⟨front, last, back, rfl, hlast, hback⟩ := ih hlater
        exact ⟨line :: front, last, back, rfl, hlast, hback⟩
      · have hback : ∀ piece ∈ lines, Token.ofString piece = [.endOfInput] := by
          simpa using hlater
        obtain ⟨last, hmem, hlast⟩ := hlines
        rcases List.mem_cons.mp hmem with rfl | htail
        · exact ⟨[], last, lines, rfl, hlast, hback⟩
        · exact absurd (hback last htail) hlast

/-- A program that is entered in the pieces of its text is answered at the
piece of its last token, with what a run of the text shows. While the run has
not come to an end, there is no answer. -/
theorem feed_pieces_answers_as_run
    {repl : Repl} (hempty : repl.isEmpty = true)
    {source : String} (hsource : (Expr.parse source).isError = false) :
    ∃ front line back,
      Text.pieces source = front ++ line :: back ∧
      Token.ofString line ≠ [.endOfInput] ∧
      (∀ piece ∈ back, Token.ofString piece = [.endOfInput]) ∧
      ∃ entered : Repl, ∀ limit : Nat,
        repl.feedAll limit front =
          some (front.map fun _ => .unfinished, entered) ∧
        entered.feed limit line =
          (Program.run limit repl.format source).map (fun run =>
            (.finished (shown run.result), start repl.format)) ∧
        (start repl.format).feedAll limit back =
          some (back.map fun _ => .unfinished, start repl.format) := by
  obtain ⟨program, hparse⟩ : ∃ program, Expr.parse? source = .ok program :=
    ⟨_, (Expr.parse_eq_iff_of_isError hsource source).mp rfl⟩
  obtain ⟨tokens, hsource, hderives⟩ := (Expr.parse?_eq_ok_iff _ _).mp hparse
  obtain ⟨hreadable, rfl⟩ := Token.readable_of_mem_pieces hsource
  have hsome : ∃ piece ∈ Text.pieces source,
      Token.ofString piece ≠ [.endOfInput] := by
    by_contra! hnone
    rw [Token.flatMap_words_eq_nil hnone] at hderives
    cases hderives
  obtain ⟨front, line, back, hpieces, hline, hback⟩ := exists_last_line hsome
  rw [hpieces, List.forall_mem_append, List.forall_mem_cons] at hreadable
  obtain ⟨hfront, hlast, -⟩ := hreadable
  rw [hpieces, List.flatMap_append, List.flatMap_cons,
    Token.flatMap_words_eq_nil hback, List.append_nil] at hderives
  have hwords : Token.words line ≠ [] :=
    fun hnil => hline (hlast.words_eq_nil_iff.mp hnil)
  have hrepl : repl.Holds [] := by
    rw [eq_start_of_isEmpty hempty]
    exact holds_start repl.format
  obtain ⟨hentered, hrun⟩ :=
    hrepl.feedAll_of_derives_append hfront hderives hwords
  refine ⟨front, line, back, hpieces, hline, hback,
    front.foldl enter repl, fun limit => ⟨hrun limit, ?_, ?_⟩⟩
  · rw [hentered.feed_of_derives hlast hderives hparse, format_foldl_enter]
  · exact feedAll_of_blank hback limit repl.format

/-- A sum over several lines, some of them blank or indented. -/
theorem feed_pieces_of_sum :
    (start false).isEmpty = true ∧
      (Expr.parse "app app add\n\n  1\n\t2 \n \n").isError = false ∧
      Text.pieces "app app add\n\n  1\n\t2 \n \n" =
        ["app app add", "", "  1", "\t2 ", " ", ""] ∧
      ∃ front line back,
        ["app app add", "", "  1", "\t2 ", " ", ""] = front ++ line :: back ∧
        Token.ofString line ≠ [.endOfInput] ∧
        (∀ piece ∈ back, Token.ofString piece = [.endOfInput]) ∧
        ∃ entered : Repl,
          (start false).feedAll 40 front =
            some (front.map fun _ => .unfinished, entered) ∧
          entered.feed 40 line = some (.finished "3", start false) ∧
          (start false).feedAll 40 back =
            some (back.map fun _ => .unfinished, start false) := by
  have hpieces : Text.pieces "app app add\n\n  1\n\t2 \n \n" =
      ["app app add", "", "  1", "\t2 ", " ", ""] := by
    decide +kernel
  have hrun :
      (Program.run 40 false "app app add\n\n  1\n\t2 \n \n").map
        (fun run => shown run.result) = some "3" := by
    decide +kernel
  have hsource :
      (Expr.parse "app app add\n\n  1\n\t2 \n \n").isError = false := by
    decide +kernel
  have hempty : (start false).isEmpty = true := rfl
  obtain ⟨front, line, back, hlines, hline, hback, entered, hfeed⟩ :=
    feed_pieces_answers_as_run hempty hsource
  obtain ⟨run, hresult, hshown⟩ := Option.map_eq_some_iff.mp hrun
  have hanswers := hfeed 40
  rw [format_start, hresult, Option.map_some, hshown] at hanswers
  rw [hpieces] at hlines
  exact ⟨hempty, hsource, hpieces, front, line, back, hlines, hline, hback,
    entered, hanswers⟩

end Repl
end LamApp
