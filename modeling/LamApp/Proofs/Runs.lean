import LamApp.Proofs.Trimming

/-!
# Tokens as runs of characters

A second account of how a text is cut into tokens. What starts with a minus
sign, a digit or a letter is a run: it goes on up to the next boundary, whatever
it is made of. Only the whole run is looked at, and it is a numeral, a name, or
malformed. Every other character stands alone.

The lexer goes the other way. It takes the longest numeral or word at the head,
and looks at the character behind it.

Main statement: both accounts cut the same lexeme from every text, so they agree
at every place that can be reached in a text.
-/

namespace LamApp

namespace Token

/-- What a whole run is: a numeral, a name, or malformed. -/
def ofRun (run : List Char) : Token :=
  if Decimal.isNumeral run then
    .number (String.ofList run)
  else if isName run then
    .ofWord (String.ofList run)
  else if run.head?.any Char.isAlpha then
    .error (.badIdentifier (String.ofList run))
  else
    .error (.badNumber (String.ofList run))

end Token

namespace Lexeme

/-- The characters with which a number or a word can start. -/
def startsRun (c : Char) : Bool :=
  c = '-' || c.isDigit || c.isAlpha

/-- The characters up to the next boundary. -/
def run (cs : List Char) : List Char :=
  cs.takeWhile (!isBoundary ·)

/-- The text behind the run: it is empty or starts with a boundary. -/
def behindRun (cs : List Char) : List Char :=
  cs.dropWhile (!isBoundary ·)

/-- The lexeme at the head of a text that starts with no blank, if runs are
taken whole. -/
def headRun : List Char → Lexeme
  | [] => ⟨.endOfInput, [], []⟩
  | '(' :: cs => ⟨.leftParen, ['('], cs⟩
  | ')' :: cs => ⟨.rightParen, [')'], cs⟩
  | c :: cs =>
    if startsRun c then
      ⟨.ofRun (run (c :: cs)), run (c :: cs), behindRun (c :: cs)⟩
    else
      ⟨.error (.illegalCharacter c), [c], cs⟩

/-- The first lexeme of a text, if runs are taken whole. -/
def firstRun (cs : List Char) : Lexeme :=
  headRun (cs.dropWhile isBlank)

/-- The first lexemes of a text, as many as asked for, if runs are taken
whole. -/
def takeRuns : Nat → List Char → List Lexeme
  | 0, _ => []
  | count + 1, cs => firstRun cs :: takeRuns count (firstRun cs).rest

/-! ## Runs -/

theorem run_append_behindRun
    (cs : List Char) :
    run cs ++ behindRun cs = cs := by
  simp [run, behindRun]

theorem atBoundary_behindRun
    (cs : List Char) :
    atBoundary (behindRun cs) = true := by
  induction cs with
  | nil =>
      rfl
  | cons c cs ih =>
      cases hc : isBoundary c with
      | true =>
          simp [behindRun, atBoundary, hc]
      | false =>
          simpa [behindRun, hc] using ih

/-- Characters that are no boundaries, in front of one, are the run. -/
theorem run_append_of_atBoundary
    {cs rest : List Char} (hcs : ∀ c ∈ cs, isBoundary c = false)
    (hrest : atBoundary rest = true) :
    run (cs ++ rest) = cs := by
  have hstop : ∀ b, isBoundary b = true → (!isBoundary b) = false := by
    simp
  have hgo : ∀ c ∈ cs, (!isBoundary c) = true := by
    simpa using hcs
  exact (takeWhile_append_of_atBoundary hstop hgo hrest).1

theorem isBoundary_of_isAlphanum
    {c : Char} (hc : c.isAlphanum = true) :
    isBoundary c = false := by
  cases hbound : isBoundary c with
  | false =>
      rfl
  | true =>
      simp [isAlphanum_of_isBoundary hbound] at hc

/-- A numeral in front of a boundary is a whole run. -/
theorem run_of_isNumeral
    {cs rest : List Char} (hcs : Decimal.isNumeral cs = true)
    (hrest : atBoundary rest = true) :
    run (cs ++ rest) = cs := by
  refine run_append_of_atBoundary (fun c hc => ?_) hrest
  have hchar := Token.eq_minus_or_isDigit_of_mem_numeral hcs hc
  exact isBoundary_of_sign_or_isDigit (by simpa using hchar)

/-- Letters and digits in front of a boundary are a whole run. -/
theorem run_of_isAlphanum
    {cs rest : List Char} (hcs : ∀ c ∈ cs, c.isAlphanum = true)
    (hrest : atBoundary rest = true) :
    run (cs ++ rest) = cs :=
  run_append_of_atBoundary (fun c hc => isBoundary_of_isAlphanum (hcs c hc))
    hrest

/-! ## The lexeme of a run -/

/-- What starts like a number and is no numeral up to the boundary is
malformed. -/
theorem number_of_isNumeral_eq_false
    {cs : List Char} (hrun : Decimal.isNumeral (run cs) = false) :
    number cs = malformed .badNumber cs := by
  unfold number
  dsimp only
  split
  case isTrue hsplit =>
    rw [Bool.and_eq_true] at hsplit
    have hwhole := run_of_isNumeral hsplit.1 hsplit.2
    rw [Decimal.split_append] at hwhole
    simp [hwhole, hsplit.1] at hrun
  case isFalse =>
    rfl

/-- What starts like a name and is no name up to the boundary is malformed. -/
theorem word_of_isName_eq_false
    {c : Char} {cs : List Char} (hc : c.isAlpha = true)
    (hrun : isName (run (c :: cs)) = false) :
    word (c :: cs) = malformed .badIdentifier (c :: cs) := by
  unfold word
  dsimp only
  split
  case isTrue hrest =>
    have hletters : ∀ d ∈ (c :: cs).takeWhile Char.isAlphanum,
        d.isAlphanum = true := fun d hd => List.mem_takeWhile_imp hd
    have hwhole := run_of_isAlphanum hletters hrest
    have hfirst : c.isAlphanum = true := by
      simp [Char.isAlphanum, hc]
    rw [List.takeWhile_append_dropWhile] at hwhole
    simp [hwhole, hfirst, isName, hc] at hrun
  case isFalse =>
    rfl

/-- A run starts with the first character of the text. -/
theorem run_cons
    {c : Char} (hc : isBoundary c = false) (cs : List Char) :
    run (c :: cs) = c :: run cs := by
  simp [run, hc]

theorem isAlpha_of_sign_or_isDigit
    {c : Char} (hc : (c = '-' || c.isDigit) = true) :
    c.isAlpha = false := by
  cases halpha : c.isAlpha with
  | false =>
      rfl
  | true =>
      rw [isDigit_of_isAlpha halpha] at hc
      have hminus : c = '-' := by
        simpa using hc
      subst hminus
      cases halpha

/-- What starts a run is cut off with the whole run. -/
theorem head_of_startsRun
    {c : Char} (hc : startsRun c = true) (cs : List Char) :
    head (c :: cs) =
      ⟨.ofRun (run (c :: cs)), run (c :: cs), behindRun (c :: cs)⟩ := by
  have hbehind := atBoundary_behindRun (c :: cs)
  cases hnumeral : Decimal.isNumeral (run (c :: cs)) with
  | true =>
      have hhead := head_append_of_isNumeral hnumeral hbehind
      rw [run_append_behindRun] at hhead
      simp [hhead, Token.ofRun, hnumeral]
  | false =>
      cases hname : isName (run (c :: cs)) with
      | true =>
          have hhead := head_append_of_isName hname hbehind
          rw [run_append_behindRun] at hhead
          simp [hhead, Token.ofRun, hnumeral, hname]
      | false =>
          -- The run is malformed, and its first character tells its error.
          have hopen : c ≠ '(' := by
            rintro rfl
            cases hc
          have hclose : c ≠ ')' := by
            rintro rfl
            cases hc
          rw [head, if_neg hopen, if_neg hclose]
          rw [startsRun, Bool.or_eq_true] at hc
          by_cases hsign : (c = '-' || c.isDigit) = true
          · have hcons := run_cons (isBoundary_of_sign_or_isDigit hsign) cs
            have halpha := isAlpha_of_sign_or_isDigit hsign
            have htoken : Token.ofRun (run (c :: cs)) =
                .error (.badNumber (String.ofList (run (c :: cs)))) := by
              rw [Token.ofRun, hnumeral, hname, hcons]
              simp [halpha]
            rw [if_pos hsign, number_of_isNumeral_eq_false hnumeral, htoken]
            rfl
          · have halpha : c.isAlpha = true := hc.resolve_left hsign
            have hcons := run_cons (isBoundary_of_isAlpha halpha) cs
            have htoken : Token.ofRun (run (c :: cs)) =
                .error (.badIdentifier (String.ofList (run (c :: cs)))) := by
              rw [Token.ofRun, hnumeral, hname, hcons]
              simp [halpha]
            rw [if_neg hsign, if_pos halpha,
              word_of_isName_eq_false halpha hname, htoken]
            rfl

/-- Both accounts cut the same lexeme from the head of a text. -/
theorem head_eq_headRun
    (cs : List Char) :
    head cs = headRun cs := by
  unfold headRun
  split
  · rfl
  · rfl
  · rfl
  next c cs hopen hclose =>
      have hopen : c ≠ '(' := by
        simpa using hopen
      have hclose : c ≠ ')' := by
        simpa using hclose
      split
      case isTrue hstarts =>
        exact head_of_startsRun hstarts cs
      case isFalse hstarts =>
        rw [startsRun, Bool.or_eq_true, not_or] at hstarts
        rw [head, if_neg hopen, if_neg hclose, if_neg hstarts.1,
          if_neg hstarts.2]

/-- At every place that can be reached in a text, both accounts give the same
token, and leave the same rest. -/
theorem take_eq_takeRuns
    (count : Nat) (cs : List Char) :
    take count cs = takeRuns count cs := by
  induction count generalizing cs with
  | zero =>
      rfl
  | succ count ih =>
      have hfirst : first cs = firstRun cs := head_eq_headRun _
      rw [take, takeRuns, hfirst, ih]

/-- A run goes over an opening parenthesis, and ends at a closing one. -/
example :
    (takeRuns 4 "-7(x) true 1".toList).map Lexeme.token =
      [.error (.badNumber "-7(x"), .rightParen, .bool true, .number "1"] := by
  decide +kernel

end Lexeme
end LamApp
