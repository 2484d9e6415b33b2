import LamApp.Proofs.Runs

/-!
# Cutting a text at byte positions

A second lexer. It keeps the whole text and a byte position in it, and it cuts
the text there whenever it needs a part of it. Such a cut can fail: a position
may lie behind the end of the text, or within a character that takes several
bytes.

Main statement: no cut ever fails, however often the lexer is asked. What it
reads tiles the text: blanks and the characters of one token, and then blanks
and the characters of the next, with nothing between them and nothing twice.
-/

namespace LamApp

/-- The number of bytes that characters take. -/
def byteSize (cs : List Char) : Nat :=
  (String.ofList cs).utf8ByteSize

/-- The two parts of a text at a byte position. There are none behind the end
of the text and within a character. -/
def cut? (text : String) (position : String.Pos.Raw) :
    Option (String × String) :=
  if h : position.IsValid text then
    some ((text.sliceTo (text.pos position h)).copy,
      (text.sliceFrom (text.pos position h)).copy)
  else
    none

/-- The tokens that have a pattern. A truth value is a word as well. -/
inductive Pattern where
  | number
  | word
  | leftParen
  | rightParen

namespace Pattern

/-- The longest head of a text that fits a pattern. -/
def fit? (cs : List Char) : Pattern → Option (List Char)
  | number =>
    let numeral := (Decimal.split cs).1
    if Decimal.isNumeral numeral then some numeral else none
  | word =>
    let letters := cs.takeWhile Char.isAlphanum
    if isName letters then some letters else none
  | leftParen => if cs.head? = some '(' then some ['('] else none
  | rightParen => if cs.head? = some ')' then some [')'] else none

/-- The first pattern that fits the head of a text, and the number of bytes
that fit. -/
def first? (cs : List Char) : Option (Pattern × Nat) :=
  [number, word, leftParen, rightParen].findSome? fun pattern =>
    (pattern.fit? cs).map fun fit => (pattern, byteSize fit)

/-- Behind a number or a word a boundary must follow. -/
def needsBoundary : Pattern → Bool
  | number => true
  | word => true
  | leftParen => false
  | rightParen => false

/-- The token with the given text. -/
def token (text : String) : Pattern → Token
  | number => .number text
  | word => .ofWord text
  | leftParen => .leftParen
  | rightParen => .rightParen

/-- What is wrong with a run if no boundary follows. -/
def cause : Pattern → String → LexicalError
  | number => .badNumber
  | _ => .badIdentifier

end Pattern

/-- A text and the byte position up to which it was read. -/
structure Cursor where
  input : String
  position : String.Pos.Raw

namespace Cursor

/-- In front of a text. -/
def start (input : String) : Cursor where
  input := input
  position := 0

/-- The given number of bytes further on. -/
def advance (cursor : Cursor) (size : Nat) : Cursor :=
  { cursor with position := ⟨cursor.position.byteIdx + size⟩ }

/-- The text that was not read yet. -/
def ahead? (cursor : Cursor) : Option String :=
  (cut? cursor.input cursor.position).map Prod.snd

/-- The text between the position and a later one. -/
def textUpTo? (cursor stop : Cursor) : Option String := do
  let (front, _) ← cut? cursor.input stop.position
  let (_, text) ← cut? front cursor.position
  return text

/-- Takes the run up to the next boundary as one malformed token. -/
def malformed? (cursor : Cursor) (cause : String → LexicalError) :
    Option (Token × Cursor) := do
  let rest ← cursor.ahead?
  let stop := cursor.advance (byteSize (rest.toList.takeWhile (!isBoundary ·)))
  let run ← cursor.textUpTo? stop
  return (.error (cause run), stop)

/-- The token at the position, and the position behind it. -/
def head? (cursor : Cursor) : Option (Token × Cursor) := do
  let rest ← cursor.ahead?
  match rest.toList with
  | [] => return (.endOfInput, cursor)
  | c :: _ =>
    match Pattern.first? rest.toList with
    | none =>
      if c = '-' then
        cursor.malformed? .badNumber
      else
        return (.error (.illegalCharacter c), cursor.advance c.utf8Size)
    | some (pattern, size) =>
      let (text, behind) ← cut? rest ⟨size⟩
      if pattern.needsBoundary && !atBoundary behind.toList then
        cursor.malformed? pattern.cause
      else
        return (pattern.token text, cursor.advance size)

/-- The next token behind blanks, and the position behind it. -/
def next? (cursor : Cursor) : Option (Token × Cursor) := do
  let rest ← cursor.ahead?
  (cursor.advance (byteSize (rest.toList.takeWhile isBlank))).head?

/-- The next tokens, as many as asked for, and the position behind them. -/
def take? : Nat → Cursor → Option (List Token × Cursor)
  | 0, cursor => some ([], cursor)
  | count + 1, cursor => do
    let (token, cursor) ← cursor.next?
    let (tokens, cursor) ← take? count cursor
    return (token :: tokens, cursor)

/-- All tokens up to the end or to the first malformed one, unless there are
more than the limit allows. -/
def tokens? : Nat → Cursor → Option (List Token)
  | 0, _ => none
  | limit + 1, cursor => do
    let (token, cursor) ← cursor.next?
    if token.isLast then
      return [token]
    else
      return token :: (← tokens? limit cursor)

end Cursor

/-! ## Cuts between characters -/

@[simp] theorem byteSize_append
    (front back : List Char) :
    byteSize (front ++ back) = byteSize front + byteSize back := by
  simp [byteSize]

/-- A position behind whole characters is one at which the text can be cut. -/
theorem isValid_byteSize
    (front back : List Char) :
    String.Pos.Raw.IsValid (String.ofList (front ++ back))
      ⟨byteSize front⟩ := by
  rw [String.Pos.Raw.isValid_iff_exists_append]
  exact ⟨String.ofList front, String.ofList back, String.ofList_append, rfl⟩

theorem cut?_append
    (front back : List Char) :
    cut? (String.ofList (front ++ back)) ⟨byteSize front⟩ =
      some (String.ofList front, String.ofList back) := by
  have hvalid := isValid_byteSize front back
  have hsplits :
      ((String.ofList (front ++ back)).pos _ hvalid).Splits
        (String.ofList front) (String.ofList back) :=
    ⟨String.ofList_append, rfl⟩
  rw [cut?, dif_pos hvalid, hsplits.copy_sliceTo_eq,
    hsplits.copy_sliceFrom_eq]

namespace Cursor

/-- The position between two parts of a text. -/
def between (front back : List Char) : Cursor where
  input := String.ofList (front ++ back)
  position := ⟨byteSize front⟩

theorem start_eq_between
    (source : String) :
    start source = between [] source.toList := by
  simp [start, between, byteSize]

theorem advance_between
    (front middle back : List Char) :
    (between front (middle ++ back)).advance (byteSize middle) =
      between (front ++ middle) back := by
  simp [between, advance]

@[simp] theorem ahead?_between
    (front back : List Char) :
    (between front back).ahead? = some (String.ofList back) := by
  rw [ahead?, between, cut?_append]
  rfl

theorem textUpTo?_between
    (front middle back : List Char) :
    (between front (middle ++ back)).textUpTo? (between (front ++ middle) back) =
      some (String.ofList middle) := by
  have hstop := cut?_append (front ++ middle) back
  rw [List.append_assoc] at hstop
  simp only [textUpTo?, between, hstop, cut?_append, Option.bind_eq_bind,
    Option.bind_some, Option.pure_def]

/-- A malformed run is taken whole. -/
theorem malformed?_between
    (cause : String → LexicalError) (front back : List Char) :
    (between front back).malformed? cause =
      some ((Lexeme.malformed cause back).token,
        between (front ++ (Lexeme.malformed cause back).span)
          (Lexeme.malformed cause back).rest) := by
  have hback := List.takeWhile_append_dropWhile
    (p := (!isBoundary ·)) (l := back)
  have hstop := advance_between front (back.takeWhile (!isBoundary ·))
    (back.dropWhile (!isBoundary ·))
  have hrun := textUpTo?_between front (back.takeWhile (!isBoundary ·))
    (back.dropWhile (!isBoundary ·))
  rw [hback] at hstop hrun
  simp [malformed?, hstop, hrun, Lexeme.malformed]

end Cursor

/-! ## The patterns and the lexemes -/

namespace Pattern

theorem first?_openParen
    (cs : List Char) :
    first? ('(' :: cs) = some (.leftParen, byteSize ['(']) := by
  simp [first?, fit?, Decimal.split, Decimal.isNumeral, Decimal.isUnsigned,
    isName]

theorem first?_closeParen
    (cs : List Char) :
    first? (')' :: cs) = some (.rightParen, byteSize [')']) := by
  simp [first?, fit?, Decimal.split, Decimal.isNumeral, Decimal.isUnsigned,
    isName]

theorem first?_of_isNumeral
    {cs : List Char} (hcs : Decimal.isNumeral (Decimal.split cs).1 = true) :
    first? cs = some (.number, byteSize (Decimal.split cs).1) := by
  simp [first?, fit?, hcs]

/-- Without a minus sign a number starts with a digit. -/
theorem isNumeral_split_of_ne_minus
    {c : Char} (hc : c ≠ '-') (cs : List Char) :
    Decimal.isNumeral (Decimal.split (c :: cs)).1 = c.isDigit := by
  rw [Lexeme.split_of_ne_minus hc]
  cases hdigit : c.isDigit with
  | true =>
      simp [hdigit, Lexeme.isNumeral_of_ne_minus hc, Decimal.isUnsigned]
  | false =>
      simp [hdigit, Decimal.isNumeral, Decimal.isUnsigned]

theorem first?_of_isAlpha
    {c : Char} (hc : c.isAlpha = true) (cs : List Char) :
    first? (c :: cs) =
      some (.word, byteSize ((c :: cs).takeWhile Char.isAlphanum)) := by
  have hminus : c ≠ '-' := by
    rintro rfl
    cases hc
  have hnumeral := isNumeral_split_of_ne_minus hminus cs
  rw [Lexeme.isDigit_of_isAlpha hc] at hnumeral
  have hname : isName ((c :: cs).takeWhile Char.isAlphanum) = true := by
    simp [isName, Char.isAlphanum, hc]
  simp [first?, fit?, hnumeral, hname]

/-- Nothing fits a character that starts neither a number nor a word and is no
parenthesis. -/
theorem first?_eq_none
    {c : Char} {cs : List Char} (hopen : c ≠ '(') (hclose : c ≠ ')')
    (hnumeral : Decimal.isNumeral (Decimal.split (c :: cs)).1 = false)
    (hc : c.isAlpha = false) :
    first? (c :: cs) = none := by
  have hname : isName ((c :: cs).takeWhile Char.isAlphanum) = false := by
    cases halnum : c.isAlphanum <;> simp [isName, halnum, hc]
  simp [first?, fit?, hnumeral, hname, hopen, hclose]

end Pattern

namespace Cursor

/-- What fits a pattern is the token, or else starts a malformed run. -/
theorem head?_of_fit
    {pattern : Pattern} {fit behind : List Char} (hne : fit ≠ [])
    (hfirst : Pattern.first? (fit ++ behind) = some (pattern, byteSize fit))
    (front : List Char) :
    (between front (fit ++ behind)).head? =
      if pattern.needsBoundary && !atBoundary behind then
        (between front (fit ++ behind)).malformed? pattern.cause
      else
        some (pattern.token (String.ofList fit),
          between (front ++ fit) behind) := by
  obtain ⟨c, cs, rfl⟩ := List.exists_cons_of_ne_nil hne
  have hcut := cut?_append (c :: cs) behind
  have hadvance := advance_between front (c :: cs) behind
  rw [List.cons_append] at hfirst hcut hadvance ⊢
  simp only [head?, ahead?_between, Option.bind_eq_bind, Option.bind_some,
    String.toList_ofList, hfirst, hcut, hadvance, Option.pure_def]

theorem head?_of_first?_eq_none
    {c : Char} {cs : List Char} (hfirst : Pattern.first? (c :: cs) = none)
    (front : List Char) :
    (between front (c :: cs)).head? =
      if c = '-' then
        (between front (c :: cs)).malformed? .badNumber
      else
        some (.error (.illegalCharacter c), between (front ++ [c]) cs) := by
  have hsize : byteSize [c] = c.utf8Size := by
    simp [byteSize]
  have hadvance := advance_between front [c] cs
  rw [hsize, List.singleton_append] at hadvance
  simp only [head?, ahead?_between, Option.bind_eq_bind, Option.bind_some,
    String.toList_ofList, hfirst, hadvance, Option.pure_def]

/-- The token of a lexeme that was cut off behind the given characters, and
the position behind the lexeme. -/
def after (front : List Char) (lexeme : Lexeme) : Token × Cursor :=
  (lexeme.token, between (front ++ lexeme.span) lexeme.rest)

theorem head?_number
    {cs : List Char} (hcs : Decimal.isNumeral (Decimal.split cs).1 = true)
    (front : List Char) :
    (between front cs).head? = some (after front (Lexeme.number cs)) := by
  have hne : (Decimal.split cs).1 ≠ [] := by
    intro hnil
    rw [hnil] at hcs
    cases hcs
  have hsplit := Decimal.split_append cs
  have hfirst := Pattern.first?_of_isNumeral hcs
  have hhead := head?_of_fit hne (by rw [hsplit]; exact hfirst) front
  rw [hsplit] at hhead
  rw [hhead, Lexeme.number, hcs]
  cases atBoundary (Decimal.split cs).2 with
  | true =>
      simp [after, Pattern.token]
  | false =>
      simp [after, Pattern.needsBoundary, Pattern.cause, malformed?_between]

theorem head?_word
    {c : Char} (hc : c.isAlpha = true) (cs front : List Char) :
    (between front (c :: cs)).head? =
      some (after front (Lexeme.word (c :: cs))) := by
  have hne : (c :: cs).takeWhile Char.isAlphanum ≠ [] := by
    simp [Char.isAlphanum, hc]
  have hsplit := List.takeWhile_append_dropWhile
    (p := Char.isAlphanum) (l := c :: cs)
  have hfirst := Pattern.first?_of_isAlpha hc cs
  have hhead := head?_of_fit hne (by rw [hsplit]; exact hfirst) front
  rw [hsplit] at hhead
  rw [hhead, Lexeme.word]
  cases atBoundary ((c :: cs).dropWhile Char.isAlphanum) with
  | true =>
      simp [after, Pattern.token]
  | false =>
      simp [after, Pattern.needsBoundary, Pattern.cause, malformed?_between]

/-- What starts like a number is one, or a malformed one. -/
theorem head?_sign
    {c : Char} (hsign : (c = '-' || c.isDigit) = true)
    (cs front : List Char) :
    (between front (c :: cs)).head? =
      some (after front (Lexeme.number (c :: cs))) := by
  cases hnumeral : Decimal.isNumeral (Decimal.split (c :: cs)).1 with
  | true =>
      exact head?_number hnumeral front
  | false =>
      -- A digit would be a numeral by itself.
      have hminus : c = '-' := by
        by_contra hminus
        rw [Pattern.isNumeral_split_of_ne_minus hminus] at hnumeral
        simp [hminus, hnumeral] at hsign
      subst hminus
      have hfirst : Pattern.first? ('-' :: cs) = none :=
        Pattern.first?_eq_none (by decide) (by decide) hnumeral rfl
      rw [head?_of_first?_eq_none hfirst, if_pos rfl, malformed?_between,
        Lexeme.number, hnumeral]
      rfl

/-- At every place in a text the lexeme is read that starts there. -/
theorem head?_between
    (front back : List Char) :
    (between front back).head? = some (after front (Lexeme.head back)) := by
  cases back with
  | nil =>
      simp [head?, after, Lexeme.head]
  | cons c cs =>
      by_cases hopen : c = '('
      · subst hopen
        have hne : ['('] ≠ [] := by simp
        exact head?_of_fit hne (Pattern.first?_openParen cs) front
      by_cases hclose : c = ')'
      · subst hclose
        have hne : [')'] ≠ [] := by simp
        exact head?_of_fit hne (Pattern.first?_closeParen cs) front
      rw [Lexeme.head, if_neg hopen, if_neg hclose]
      by_cases hsign : (c = '-' || c.isDigit) = true
      · rw [if_pos hsign]
        exact head?_sign hsign cs front
      rw [if_neg hsign]
      obtain ⟨hminus, hdigit⟩ : c ≠ '-' ∧ c.isDigit = false := by
        simpa using hsign
      cases halpha : c.isAlpha with
      | true =>
          exact head?_word halpha cs front
      | false =>
          have hnumeral := Pattern.isNumeral_split_of_ne_minus hminus cs
          rw [hdigit] at hnumeral
          have hfirst := Pattern.first?_eq_none hopen hclose hnumeral halpha
          rw [head?_of_first?_eq_none hfirst, if_neg hminus]
          rfl

/-- One call skips all blanks and reads one lexeme. -/
theorem next?_between
    (front back : List Char) :
    (between front back).next? =
      some (after (front ++ back.takeWhile isBlank) (Lexeme.first back)) := by
  have hskip := advance_between front (back.takeWhile isBlank)
    (back.dropWhile isBlank)
  rw [List.takeWhile_append_dropWhile] at hskip
  rw [next?, ahead?_between, Option.bind_eq_bind, Option.bind_some,
    String.toList_ofList, hskip, head?_between]
  rfl

end Cursor

/-! ## The pieces of a text -/

/-- What a message quotes: all between its first quotation mark and its
last. -/
def quotedPart (message : List Char) : List Char :=
  ((message.dropWhile (· != '\'')).drop 1).dropLast

theorem quotedPart_append
    {opening run : String} {words : List Char}
    (hopening : opening.toList = words ++ ['\'']) (hwords : '\'' ∉ words) :
    quotedPart (opening ++ run ++ "'").toList = run.toList := by
  have hskip : ∀ c ∈ words, (c != '\'') = true := by
    intro c hc
    simp only [bne_iff_ne]
    rintro rfl
    exact hwords hc
  simp [quotedPart, hopening, List.dropWhile_append_of_pos hskip]

namespace Token

/-- The characters that a token was read from, as far as the token shows them:
its text, or what the message of an error quotes. -/
def spelling (token : Token) : List Char :=
  if token.kind = .error then
    quotedPart token.text.toList
  else
    token.text.toList

theorem spelling_of_isLast_eq_false
    {token : Token} (hlast : token.isLast = false) :
    token.spelling = token.text.toList := by
  cases token with
  | error cause =>
      cases hlast
  | _ =>
      rfl

@[simp] theorem spelling_badNumber
    (run : String) :
    (error (.badNumber run)).spelling = run.toList := by
  have hopening : "bad number syntax: '".toList =
      "bad number syntax: ".toList ++ ['\''] := by
    decide
  exact quotedPart_append hopening (by decide)

@[simp] theorem spelling_badIdentifier
    (run : String) :
    (error (.badIdentifier run)).spelling = run.toList := by
  have hopening : "bad identifier syntax: '".toList =
      "bad identifier syntax: ".toList ++ ['\''] := by
    decide
  exact quotedPart_append hopening (by decide)

@[simp] theorem spelling_illegalCharacter
    (c : Char) :
    (error (.illegalCharacter c)).spelling = [c] := by
  have hopening : "illegal character: '".toList =
      "illegal character: ".toList ++ ['\''] := by
    decide
  have hquoted : (error (.illegalCharacter c)).spelling = c.toString.toList :=
    quotedPart_append hopening (by decide)
  simpa using hquoted

/-- A whole run is recovered from its token, malformed or not. -/
theorem spelling_ofRun
    (run : List Char) :
    (ofRun run).spelling = run := by
  unfold ofRun
  split
  · rw [spelling_of_isLast_eq_false rfl, text, String.toList_ofList]
  split
  · rw [spelling_of_isLast_eq_false (isLast_ofWord _), text_ofWord,
      String.toList_ofList]
  split <;> simp

end Token

/-- The characters that a lexeme was read from are recovered from its token. -/
theorem Lexeme.spelling_head
    (cs : List Char) :
    (head cs).token.spelling = (head cs).span := by
  rw [head_eq_headRun]
  unfold headRun
  split
  · rfl
  · have hopen : Token.leftParen.isLast = false := rfl
    exact Token.spelling_of_isLast_eq_false hopen
  · have hclose : Token.rightParen.isLast = false := rfl
    exact Token.spelling_of_isLast_eq_false hclose
  · split
    · exact Token.spelling_ofRun _
    · exact Token.spelling_illegalCharacter _

/-- A piece of a text: blanks, and the characters of a token behind them. -/
structure Piece where
  blanks : List Char
  span : List Char
  token : Token

namespace Piece

/-- The characters of a piece. -/
def chars (piece : Piece) : List Char :=
  piece.blanks ++ piece.span

/-- The piece is one that has to be cut off in front of the rest of a text: as
many blanks as there are, and the characters of one token. -/
structure Fits (piece : Piece) (rest : List Char) : Prop where
  isBlank_eq_true : ∀ c ∈ piece.blanks, isBlank c = true
  isBlank_eq_false : ∀ c ∈ (piece.span ++ rest).head?, isBlank c = false
  span_eq_nil_iff : piece.span = [] ↔ piece.token = .endOfInput
  token_eq_endOfInput_iff :
    piece.token = .endOfInput ↔ ∀ c ∈ piece.chars ++ rest, isBlank c = true
  spelling_eq : piece.token.spelling = piece.span

/-- The first piece of a text. -/
def first (cs : List Char) : Piece where
  blanks := cs.takeWhile isBlank
  span := (Lexeme.first cs).span
  token := (Lexeme.first cs).token

/-- The first pieces of a text, as many as asked for. -/
def take : Nat → List Char → List Piece
  | 0, _ => []
  | count + 1, cs => first cs :: take count (Lexeme.first cs).rest

/-- What the first pieces leave of a text. -/
def left : Nat → List Char → List Char
  | 0, cs => cs
  | count + 1, cs => left count (Lexeme.first cs).rest

@[simp] theorem chars_first_append
    (cs : List Char) :
    (first cs).chars ++ (Lexeme.first cs).rest = cs := by
  have hhead := Lexeme.head_append (cs.dropWhile isBlank)
  rw [chars, first, List.append_assoc, Lexeme.first, hhead,
    List.takeWhile_append_dropWhile]

theorem fits_first
    (cs : List Char) :
    (first cs).Fits (Lexeme.first cs).rest where
  isBlank_eq_true c hc := List.mem_takeWhile_imp hc
  isBlank_eq_false := by
    intro c hc
    have hhead := List.head?_dropWhile_not isBlank cs
    rw [first, Lexeme.first, Lexeme.head_append] at hc
    rw [Option.mem_def.mp hc] at hhead
    exact hhead
  span_eq_nil_iff := by
    constructor
    · intro hspan
      by_contra hend
      exact Lexeme.head_span_ne_nil hend hspan
    · intro hend
      have hskipped := (Lexeme.head_token_eq_endOfInput_iff _).mp hend
      simp [first, Lexeme.first, hskipped, Lexeme.head]
  token_eq_endOfInput_iff := by
    rw [chars_first_append]
    exact Lexeme.first_token_eq_endOfInput_iff cs
  spelling_eq := Lexeme.spelling_head _

/-- The pieces and what they leave make up the text. -/
theorem flatMap_chars_take_append
    (count : Nat) (cs : List Char) :
    (take count cs).flatMap chars ++ left count cs = cs := by
  induction count generalizing cs with
  | zero =>
      rfl
  | succ count ih =>
      rw [take, left, List.flatMap_cons, List.append_assoc, ih,
        chars_first_append]

theorem length_take
    (count : Nat) (cs : List Char) :
    (take count cs).length = count := by
  induction count generalizing cs with
  | zero =>
      rfl
  | succ count ih =>
      rw [take, List.length_cons, ih]

theorem map_token_take
    (count : Nat) (cs : List Char) :
    (take count cs).map token = Token.take count cs := by
  induction count generalizing cs with
  | zero =>
      rfl
  | succ count ih =>
      rw [take, List.map_cons, ih]
      rfl

/-- Each piece is the one that has to be cut off at its place. -/
theorem fits_of_take_eq_append
    {count : Nat} {cs : List Char} {front back : List Piece} {piece : Piece}
    (htake : take count cs = front ++ piece :: back) :
    piece.Fits (back.flatMap chars ++ left count cs) := by
  induction count generalizing cs front with
  | zero =>
      simp [take] at htake
  | succ count ih =>
      rw [take] at htake
      rcases List.cons_eq_append_iff.mp htake with
        ⟨-, hpiece⟩ | ⟨front', rfl, htail⟩
      · obtain ⟨rfl, rfl⟩ := List.cons.inj hpiece
        rw [left, flatMap_chars_take_append]
        exact fits_first cs
      · exact ih htail

/-- No text stands behind the end. -/
theorem Fits.eq_nil_of_endOfInput
    {piece : Piece} {rest : List Char} (hfits : piece.Fits rest)
    (hend : piece.token = .endOfInput) :
    piece.span = [] ∧ rest = [] := by
  have hspan := hfits.span_eq_nil_iff.mpr hend
  have hblank := hfits.token_eq_endOfInput_iff.mp hend
  have hnot := hfits.isBlank_eq_false
  cases rest with
  | nil =>
      exact ⟨hspan, rfl⟩
  | cons c cs =>
      rw [hspan] at hnot
      have htrue := hblank c (by simp)
      have hfalse := hnot c (by simp)
      simp [htrue] at hfalse

/-- Behind the end comes the end again, and no character is read. -/
theorem endOfInput_of_mem_back
    {count : Nat} {cs : List Char} {front back : List Piece} {piece : Piece}
    (htake : take count cs = front ++ piece :: back)
    (hend : piece.token = .endOfInput)
    {later : Piece} (hlater : later ∈ back) :
    later.chars = [] ∧ later.token = .endOfInput := by
  have hfits := fits_of_take_eq_append htake
  have hnil := (hfits.eq_nil_of_endOfInput hend).2
  -- The later piece is cut off from what is left, which is nothing.
  obtain ⟨middle, behind, rfl⟩ := List.append_of_mem hlater
  have hchars : later.chars = [] := by
    simp only [List.flatMap_append, List.flatMap_cons, List.append_eq_nil_iff]
      at hnil
    exact hnil.1.2.1
  have hagain : take count cs =
      (front ++ piece :: middle) ++ later :: behind := by
    simp [htake]
  have hspan : later.span = [] := (List.append_eq_nil_iff.mp hchars).2
  exact ⟨hchars,
    (fits_of_take_eq_append hagain).span_eq_nil_iff.mp hspan⟩

end Piece

namespace Cursor

theorem take?_between
    (count : Nat) (front back : List Char) :
    (between front back).take? count =
      some (Token.take count back,
        between (front ++ (Piece.take count back).flatMap Piece.chars)
          (Piece.left count back)) := by
  induction count generalizing front back with
  | zero =>
      simp [take?, Token.take, Lexeme.take, Piece.take, Piece.left]
  | succ count ih =>
      have hfront :
          front ++ back.takeWhile isBlank ++ (Lexeme.first back).span =
            front ++ (Piece.first back).chars := by
        simp [Piece.chars, Piece.first]
      rw [take?, next?_between, after, hfront, Option.bind_eq_bind,
        Option.bind_some]
      dsimp only
      rw [ih, Option.bind_eq_bind, Option.bind_some, List.append_assoc]
      rfl

/-- As many tokens as there are characters, and one more, are enough. -/
theorem tokens?_between
    {limit : Nat} {back : List Char} (hlimit : back.length < limit)
    (front : List Char) :
    (between front back).tokens? limit = some (Token.ofChars back) := by
  induction limit generalizing front back with
  | zero =>
      omega
  | succ limit ih =>
      rw [tokens?, next?_between]
      cases hlast : (Lexeme.first back).token.isLast with
      | true =>
          rw [Token.ofChars_of_isLast hlast]
          simp [after, hlast]
      | false =>
          have hrest := Lexeme.first_rest_length_lt_of_isLast hlast
          have hlimit' : (Lexeme.first back).rest.length < limit := by omega
          have htail := ih hlimit'
          rw [Token.ofChars_of_not_isLast hlast]
          simp [after, hlast, htail]

end Cursor

theorem Token.length_ofChars_le
    (cs : List Char) :
    (ofChars cs).length ≤ cs.length + 1 := by
  induction cs using ofChars_induction with
  | last cs hlast =>
      simp [ofChars_of_isLast hlast]
  | step cs hlast ih =>
      have hrest := Lexeme.first_rest_length_lt_of_isLast hlast
      rw [ofChars_of_not_isLast hlast, List.length_cons]
      omega

namespace Cursor

/-- However often the lexer is asked, every cut is one between characters. The
pieces that it reads make up the text in front of its position, and each of
them is all blanks that stand there and the characters of one token. Behind the
end comes nothing but the end. All tokens are at most one more than there are
characters. -/
theorem pieces_tile_text
    (source : String) :
    (∀ count : Nat,
      ∃ (pieces : List Piece) (rest : List Char) (position : String.Pos.Raw),
        (start source).take? count =
          some (pieces.map Piece.token, ⟨source, position⟩) ∧
        pieces.length = count ∧
        pieces.map Piece.token = Token.take count source.toList ∧
        position.IsValid source ∧
        position.byteIdx = byteSize (pieces.flatMap Piece.chars) ∧
        pieces.flatMap Piece.chars ++ rest = source.toList ∧
        ∀ front piece back, pieces = front ++ piece :: back →
          piece.Fits (back.flatMap Piece.chars ++ rest) ∧
          (piece.token = .endOfInput →
            ∀ later ∈ back, later.chars = [] ∧ later.token = .endOfInput)) ∧
    (start source).tokens? (source.length + 1) =
      some (Token.ofString source) ∧
    (Token.ofString source).length ≤ source.length + 1 := by
  refine ⟨fun count => ?_, ?_, ?_⟩
  · have hchars := Piece.flatMap_chars_take_append count source.toList
    have htoken := Piece.map_token_take count source.toList
    have htake := take?_between count [] source.toList
    have hvalid := isValid_byteSize
      ((Piece.take count source.toList).flatMap Piece.chars)
      (Piece.left count source.toList)
    rw [List.nil_append, ← start_eq_between, between, hchars,
      String.ofList_toList, ← htoken] at htake
    rw [hchars, String.ofList_toList] at hvalid
    refine ⟨Piece.take count source.toList, Piece.left count source.toList,
      _, htake, Piece.length_take count _, htoken, hvalid, rfl, hchars, ?_⟩
    intro front piece back hpieces
    exact ⟨Piece.fits_of_take_eq_append hpieces,
      fun hend _ hlater => Piece.endOfInput_of_mem_back hpieces hend hlater⟩
  · rw [start_eq_between]
    exact tokens?_between (Nat.lt_succ_self _) []
  · exact Token.length_ofChars_le source.toList

/-- Characters of several bytes stand alone and within a malformed run. The
four tokens take all nine bytes. -/
theorem pieces_tile_malformed_text :
    ∃ position : String.Pos.Raw,
      (start "λ\t-é(x)").take? 4 =
        some ([.error (.illegalCharacter 'λ'), .error (.badNumber "-é(x"),
          .rightParen, .endOfInput], ⟨"λ\t-é(x)", position⟩) ∧
      position.IsValid "λ\t-é(x)" ∧
      position.byteIdx = 9 := by
  obtain ⟨pieces, rest, position, htake, hlength, htoken, hvalid, hsize,
    hchars, hfits⟩ := (pieces_tile_text "λ\t-é(x)").1 4
  have htokens : Token.take 4 "λ\t-é(x)".toList =
      [.error (.illegalCharacter 'λ'), .error (.badNumber "-é(x"),
        .rightParen] ++ [.endOfInput] := by
    decide +kernel
  rw [htokens] at htoken
  rw [htoken] at htake
  refine ⟨position, htake, hvalid, ?_⟩
  rcases List.eq_nil_or_concat pieces with rfl | ⟨front, piece, rfl⟩
  · cases hlength
  · rw [List.concat_eq_append] at *
    have hend : piece.token = .endOfInput := by
      rw [List.map_append] at htoken
      exact (List.append_singleton_inj.mp htoken).2
    have hnil := ((hfits front piece [] rfl).1.eq_nil_of_endOfInput hend).2
    rw [List.flatMap_nil, List.nil_append] at hnil
    rw [hnil, List.append_nil] at hchars
    rw [hsize, hchars]
    decide +kernel

end Cursor

end LamApp
