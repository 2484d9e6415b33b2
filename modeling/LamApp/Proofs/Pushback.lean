import LamApp.Proofs.RoundTrip

/-!
# Rules that push a token back

A second parser, by one rule for each kind of expression. A rule looks at a
token and may leave it to another rule: it pushes the token back into a slot,
from where the next token is taken. The slot holds one token, and a second one
would be a fault.

The parser writes down when the lexer is asked and what the slot holds whenever
a rule for an expression or for the program starts or returns.

Main statement: the rules and the drafts read the same expression or report the
same error, and ask for the same tokens. No fault occurs, the slot is empty
whenever a rule starts or returns, and the lexer is never asked for a token
behind the last one.
-/

namespace LamApp

/-- The rules that are watched. -/
inductive Rule where
  | expression
  | program

/-- What happens while a text is parsed. -/
inductive Event where
  /-- The lexer is asked, and this is the token. -/
  | asked (token : Token)
  /-- A rule starts, with this token in the slot. -/
  | started (rule : Rule) (slot : Option Token)
  /-- A rule returns, with this token in the slot. -/
  | returned (rule : Rule) (slot : Option Token)

/-- What must never happen. -/
inductive Fault where
  /-- A token is pushed back behind another one. -/
  | secondPushback
  /-- A truth value is spelled differently. -/
  | strayBool (text : String)

/-- Why a rule has no result. -/
inductive Halt where
  | refused (cause : SyntaxError)
  | fault (fault : Fault)

/-- The text that was not read yet, the token that was pushed back, and what
has happened. -/
structure Parser where
  rest : List Char
  slot : Option Token
  events : List Event

/-- A part of a parse. It has no outcome at all if the rules are nested more
deeply than a limit allows. -/
abbrev Action (α : Type) : Type :=
  ExceptT Halt (StateT Parser Option) α

namespace Parser

/-- Writes down what happens. -/
def record (parser : Parser) (event : Event) : Parser :=
  { parser with events := parser.events ++ [event] }

/-- Takes the token that was pushed back, or else the next one of the text. -/
def next : Action Token := do
  let parser ← get
  match parser.slot with
  | some token =>
    set { parser with slot := none }
    return token
  | none =>
    let lexeme := Lexeme.first parser.rest
    set { parser.record (.asked lexeme.token) with rest := lexeme.rest }
    return lexeme.token

/-- Puts a token into the slot. -/
def pushBack (token : Token) : Action Unit := do
  let parser ← get
  if parser.slot.isSome then
    throw (.fault .secondPushback)
  else
    set { parser with slot := some token }

/-- Reports a token that does not fit. -/
def unexpected {α : Type} (expected : Category) (token : Token) : Action α :=
  throw (.refused (.unexpected expected token.kind))

/-- Takes a token of the given class. Another one is reported as found where
something of the category is due. -/
def expect (kind : TokenKind) (expected : Category) : Action Token := do
  let token ← next
  if token.kind = kind then
    return token
  else
    unexpected expected token

def identifierRule : Action String := do
  let token ← expect .identifier .identifier
  return token.text

def numberRule : Action Expr := do
  let token ← expect .number .number
  match Decimal.value? token.text.toList with
  | some value => return .number value
  | none => throw (.refused (.badNumber token.text))

def boolRule : Action Expr := do
  let token ← expect .bool .bool
  if token.text = "true" then
    return .bool true
  else if token.text = "false" then
    return .bool false
  else
    throw (.fault (.strayBool token.text))

def varRule : Action Expr := do
  let name ← identifierRule
  return .var name

/-- What follows `lam`. -/
def lamRule (expression : Action Expr) : Action Expr := do
  let parameter ← identifierRule
  let body ← expression
  return .lam parameter body

/-- What follows `app`. -/
def appRule (expression : Action Expr) : Action Expr := do
  let function ← expression
  let argument ← expression
  return .app function argument

/-- What follows an opening parenthesis. -/
def parenRule (expression : Action Expr) : Action Expr := do
  let e ← expression
  let _ ← expect .rightParen .rightParen
  return e

/-- What the first token of an expression calls for. -/
def expressionFrom (expression : Action Expr) (token : Token) : Action Expr :=
  match token.kind with
  | .leftParen => parenRule expression
  | .rightParen => unexpected .expression token
  | .identifier =>
    if token.text = "lam" then
      lamRule expression
    else if token.text = "app" then
      appRule expression
    else do
      pushBack token
      varRule
  | .number => do
    pushBack token
    numberRule
  | .bool => do
    pushBack token
    boolRule
  | .error => throw (.refused (.lexical token.text))
  | .endOfInput => unexpected .expression token

/-- Watches the slot while a rule is carried out. -/
def watched (rule : Rule) (action : Action Expr) : Action Expr :=
  ExceptT.mk fun parser =>
    (action.run.run (parser.record (.started rule parser.slot))).map
      fun (result, parser) =>
        (result, parser.record (.returned rule parser.slot))

/-- Any expression, with as many rules nested as the limit allows. -/
def expressionRule : Nat → Action Expr
  | 0 => ExceptT.mk fun _ => none
  | limit + 1 =>
    watched .expression do
      let token ← next
      expressionFrom (expressionRule limit) token

/-- An expression and the end behind it. -/
def programRule (limit : Nat) : Action Expr :=
  watched .program do
    let root ← expressionRule limit
    let _ ← expect .endOfInput .endOfInput
    return root

/-- Parses a text. -/
def run (limit : Nat) (source : String) :
    Option (Except Halt Expr × Parser) :=
  (programRule limit).run.run ⟨source.toList, none, []⟩

end Parser

namespace Event

/-- The token that the lexer gave. -/
def token? : Event → Option Token
  | asked token => some token
  | _ => none

/-- The slot is empty. -/
def IsFree : Event → Prop
  | asked _ => True
  | started _ slot => slot = none
  | returned _ slot => slot = none

/-- The tokens that the lexer gave, in order. -/
def tokens (events : List Event) : List Token :=
  events.filterMap token?

end Event

namespace Draft

/-! ## One step of a reading -/

theorem read_of_next
    {draft draft' : Draft} {cs : List Char}
    (hfeed : draft.feed (Lexeme.first cs).token = .next draft')
    (count : Nat) :
    draft.read cs count = draft'.read (Lexeme.first cs).rest (count + 1) := by
  rw [read]
  split <;> simp_all

theorem read_of_accept
    {draft : Draft} {cs : List Char} {program : Expr}
    (hfeed : draft.feed (Lexeme.first cs).token = .accept program)
    (count : Nat) :
    draft.read cs count = ⟨.ok program, count + 1⟩ := by
  rw [read]
  split <;> simp_all

theorem read_of_reject
    {draft : Draft} {cs : List Char} {cause : SyntaxError}
    (hfeed : draft.feed (Lexeme.first cs).token = .reject cause)
    (count : Nat) :
    draft.read cs count = ⟨.error cause, count + 1⟩ := by
  rw [read]
  split <;> simp_all

end Draft

/-! ## What actions do from an empty slot to an empty slot -/

namespace Parser

section Does

variable {α β : Type}

/-- Between two places of a text the action has the given result and takes the
given tokens from the lexer. The slot is empty before and behind it, and
whenever a rule starts or returns on the way. -/
def Does (action : Action α) (cs : List Char) (result : Except Halt α)
    (rest : List Char) (tokens : List Token) : Prop :=
  ∀ before, ∃ events,
    action.run.run ⟨cs, none, before⟩ =
      some (result, ⟨rest, none, before ++ events⟩) ∧
    (∀ event ∈ events, event.IsFree) ∧
    Event.tokens events = tokens

variable {cs middle rest : List Char} {tokens tokens' : List Token}

theorem does_next
    (cs : List Char) :
    Does next cs (.ok (Lexeme.first cs).token) (Lexeme.first cs).rest
      [(Lexeme.first cs).token] := by
  intro before
  exact ⟨[.asked (Lexeme.first cs).token], rfl, by simp [Event.IsFree], rfl⟩

theorem does_pure
    (a : α) (cs : List Char) :
    Does (pure a) cs (.ok a) cs [] := by
  intro before
  exact ⟨[], by rw [List.append_nil]; rfl, by simp, rfl⟩

theorem does_throw
    (halt : Halt) (cs : List Char) :
    Does (throw halt : Action α) cs (.error halt) cs [] := by
  intro before
  exact ⟨[], by rw [List.append_nil]; rfl, by simp, rfl⟩

theorem Does.bind
    {action : Action α} {follow : α → Action β} {a : α}
    {result : Except Halt β}
    (haction : Does action cs (.ok a) middle tokens)
    (hfollow : Does (follow a) middle result rest tokens') :
    Does (action >>= follow) cs result rest (tokens ++ tokens') := by
  intro before
  obtain ⟨events, hrun, hfree, htokens⟩ := haction before
  obtain ⟨events', hrun', hfree', htokens'⟩ := hfollow (before ++ events)
  refine ⟨events ++ events', ?_, ?_, ?_⟩
  · rw [List.append_assoc] at hrun'
    rw [ExceptT.run_bind, StateT.run_bind, hrun, Option.bind_eq_bind,
      Option.bind_some]
    exact hrun'
  · intro event hevent
    rcases List.mem_append.mp hevent with h | h
    · exact hfree event h
    · exact hfree' event h
  · rw [Event.tokens, List.filterMap_append, ← htokens, ← htokens']
    rfl

theorem Does.bind_error
    {action : Action α} {follow : α → Action β} {halt : Halt}
    (haction : Does action cs (.error halt) rest tokens) :
    Does (action >>= follow) cs (.error halt) rest tokens := by
  intro before
  obtain ⟨events, hrun, hfree, htokens⟩ := haction before
  refine ⟨events, ?_, hfree, htokens⟩
  rw [ExceptT.run_bind, StateT.run_bind, hrun]
  rfl

theorem Does.watched
    {action : Action Expr} {result : Except Halt Expr}
    (haction : Does action cs result rest tokens) (rule : Rule) :
    Does (watched rule action) cs result rest tokens := by
  intro before
  obtain ⟨events, hrun, hfree, htokens⟩ :=
    haction (before ++ [.started rule none])
  refine ⟨.started rule none :: (events ++ [.returned rule none]), ?_, ?_, ?_⟩
  · change (action.run.run ⟨cs, none, before ++ [.started rule none]⟩).map _ = _
    rw [hrun]
    simp [record]
  · intro event hevent
    rcases List.mem_cons.mp hevent with rfl | hevent
    · rfl
    rcases List.mem_append.mp hevent with h | h
    · exact hfree event h
    · rw [List.mem_singleton.mp h]
      rfl
  · rw [Event.tokens, List.filterMap_cons_none rfl, List.filterMap_append,
      ← htokens]
    exact List.append_nil _

theorem does_next_bind_throw
    {follow : Token → Action α} {halt : Halt}
    (hthrow : follow (Lexeme.first cs).token = throw halt) :
    Does (next >>= follow) cs (.error halt) (Lexeme.first cs).rest
      [(Lexeme.first cs).token] := by
  apply (does_next cs).bind
  rw [hthrow]
  exact does_throw _ _

section Expect

variable {kind : TokenKind}

theorem does_expect
    (hkind : (Lexeme.first cs).token.kind = kind) (expected : Category) :
    Does (expect kind expected) cs (.ok (Lexeme.first cs).token)
      (Lexeme.first cs).rest [(Lexeme.first cs).token] := by
  apply (does_next cs).bind
  rw [if_pos hkind]
  exact does_pure _ _

theorem does_expect_error
    (hkind : (Lexeme.first cs).token.kind ≠ kind) (expected : Category) :
    Does (expect kind expected) cs
      (.error (.refused (.unexpected expected (Lexeme.first cs).token.kind)))
      (Lexeme.first cs).rest [(Lexeme.first cs).token] := by
  apply does_next_bind_throw
  rw [if_neg hkind]
  rfl

/-- A token that was pushed back is taken again. -/
theorem does_pushBack_bind_expect
    {follow : Token → Action α} {result : Except Halt α} {token : Token}
    (hkind : token.kind = kind) (expected : Category)
    (hfollow : Does (follow token) cs result rest tokens) :
    Does (pushBack token >>= fun _ => expect kind expected >>= follow) cs
      result rest tokens := by
  intro before
  change ∃ events, (((if token.kind = kind then pure token
    else unexpected expected token) >>= follow).run.run
      ⟨cs, none, before⟩ = _) ∧ _
  rw [if_pos hkind, pure_bind]
  exact hfollow before

end Expect

theorem does_varRule
    (name : String) (cs : List Char) :
    Does (pushBack (.identifier name) >>= fun _ => varRule) cs
      (.ok (.var name)) cs [] := by
  rw [varRule, identifierRule, bind_assoc]
  exact does_pushBack_bind_expect rfl _ (does_pure (Expr.var name) cs)

theorem does_boolRule
    (value : Bool) (cs : List Char) :
    Does (pushBack (.bool value) >>= fun _ => boolRule) cs
      (.ok (.bool value)) cs [] := by
  apply does_pushBack_bind_expect rfl
  cases value with
  | true =>
      exact does_pure (Expr.bool true) cs
  | false =>
      exact does_pure (Expr.bool false) cs

theorem does_numberRule
    {numeral : String} {value : Int}
    (hvalue : Decimal.value? numeral.toList = some value) (cs : List Char) :
    Does (pushBack (.number numeral) >>= fun _ => numberRule) cs
      (.ok (.number value)) cs [] := by
  apply does_pushBack_bind_expect rfl
  rw [Token.text, hvalue]
  exact does_pure (Expr.number value) cs

end Does

/-! ## Rules and drafts -/

section Follows

variable {α β : Type}

/-- At this place of a text the action does what drafts do, whatever forms are
open: it comes to a result for which the next drafts read on behind it, or it
refuses what they refuse. It takes the tokens that they read. -/
def Follows (action : Action α) (cs : List Char)
    (draft : List OpenForm → Draft) (draft' : α → List OpenForm → Draft) :
    Prop :=
  (∃ a rest tokens,
    Does action cs (.ok a) rest tokens ∧
    rest.length ≤ cs.length ∧
    Token.ofChars cs = tokens ++ Token.ofChars rest ∧
    ∀ forms count,
      (draft forms).read cs count =
        (draft' a forms).read rest (count + tokens.length)) ∨
  (∃ cause rest tokens,
    Does action cs (.error (.refused cause)) rest tokens ∧
    tokens <+: Token.ofChars cs ∧
    ∀ forms count,
      (draft forms).read cs count =
        ⟨.error cause, count + tokens.length⟩)

theorem follows_of_does
    {action : Action α} {cs : List Char} {a : α}
    (hdoes : Does action cs (.ok a) cs [])
    (draft : α → List OpenForm → Draft) :
    Follows action cs (draft a) draft :=
  .inl ⟨a, cs, [], hdoes, le_rfl, rfl, fun _ _ => rfl⟩

/-- What goes on behind an action follows the drafts that the action leads
to. -/
theorem Follows.after
    {action : Action α} {follow : α → Action β} {cs middle : List Char}
    {a : α} {tokens : List Token} {draft draft' : List OpenForm → Draft}
    {draft'' : β → List OpenForm → Draft}
    (hfollow : Follows (follow a) middle draft' draft'')
    (hdoes : Does action cs (.ok a) middle tokens)
    (hle : middle.length ≤ cs.length)
    (hcs : Token.ofChars cs = tokens ++ Token.ofChars middle)
    (hread : ∀ forms count,
      (draft forms).read cs count =
        (draft' forms).read middle (count + tokens.length)) :
    Follows (action >>= follow) cs draft draft'' := by
  rcases hfollow with
    ⟨b, rest, tokens', hdoes', hle', hmiddle, hread'⟩ |
    ⟨cause, rest, tokens', hdoes', hmiddle, hread'⟩
  · refine .inl ⟨b, rest, tokens ++ tokens', hdoes.bind hdoes',
      hle'.trans hle, ?_, fun forms count => ?_⟩
    · rw [hcs, hmiddle, List.append_assoc]
    · rw [hread, hread', List.length_append, Nat.add_assoc]
  · refine .inr ⟨cause, rest, tokens ++ tokens', hdoes.bind hdoes', ?_,
      fun forms count => ?_⟩
    · rw [hcs]
      exact (List.prefix_append_right_inj tokens).mpr hmiddle
    · rw [hread, hread', List.length_append, Nat.add_assoc]

theorem Follows.bind
    {action : Action α} {follow : α → Action β} {cs : List Char}
    {draft : List OpenForm → Draft} {draft' : α → List OpenForm → Draft}
    {draft'' : β → List OpenForm → Draft}
    (haction : Follows action cs draft draft')
    (hfollow : ∀ a rest, rest.length ≤ cs.length →
      Follows (follow a) rest (draft' a) draft'') :
    Follows (action >>= follow) cs draft draft'' := by
  rcases haction with
    ⟨a, rest, tokens, hdoes, hle, hcs, hread⟩ |
    ⟨cause, rest, tokens, hdoes, hcs, hread⟩
  · exact (hfollow a rest hle).after hdoes hle hcs hread
  · exact .inr ⟨cause, rest, tokens, hdoes.bind_error, hcs, hread⟩

/-- An action takes no notice of the forms that are open. -/
theorem Follows.within
    {action : Action α} {cs : List Char}
    {draft : List OpenForm → Draft} {draft' : α → List OpenForm → Draft}
    (haction : Follows action cs draft draft') (form : OpenForm) :
    Follows action cs (fun forms => draft (form :: forms))
      (fun a forms => draft' a (form :: forms)) := by
  rcases haction with
    ⟨a, rest, tokens, hdoes, hle, hcs, hread⟩ |
    ⟨cause, rest, tokens, hdoes, hcs, hread⟩
  · exact .inl ⟨a, rest, tokens, hdoes, hle, hcs,
      fun forms count => hread (form :: forms) count⟩
  · exact .inr ⟨cause, rest, tokens, hdoes, hcs,
      fun forms count => hread (form :: forms) count⟩

theorem Follows.watched
    {action : Action Expr} {cs : List Char}
    {draft : List OpenForm → Draft} {draft' : Expr → List OpenForm → Draft}
    (haction : Follows action cs draft draft') (rule : Rule) :
    Follows (watched rule action) cs draft draft' := by
  rcases haction with
    ⟨a, rest, tokens, hdoes, hle, hcs, hread⟩ |
    ⟨cause, rest, tokens, hdoes, hcs, hread⟩
  · exact .inl ⟨a, rest, tokens, hdoes.watched rule, hle, hcs, hread⟩
  · exact .inr ⟨cause, rest, tokens, hdoes.watched rule, hcs, hread⟩

section OneToken

variable {action : Action α} {follow : α → Action β} {cs : List Char}
variable {draft : List OpenForm → Draft}

/-- An action that takes one token, and what goes on behind it. -/
theorem follows_bind_of_next
    {a : α} {draft' : β → List OpenForm → Draft}
    (hdoes : Does action cs (.ok a) (Lexeme.first cs).rest
      [(Lexeme.first cs).token])
    (middle : List OpenForm → Draft)
    (hfeed : ∀ forms,
      (draft forms).feed (Lexeme.first cs).token = .next (middle forms))
    (hfollow : Follows (follow a) (Lexeme.first cs).rest middle draft') :
    Follows (action >>= follow) cs draft draft' := by
  have hlast := Draft.isLast_of_feed_eq_next (hfeed [])
  have hlt := Lexeme.first_rest_length_lt_of_isLast hlast
  exact hfollow.after hdoes hlt.le (Token.ofChars_of_not_isLast hlast)
    fun forms count => Draft.read_of_next (hfeed forms) count

/-- An action that refuses one token. -/
theorem follows_of_reject
    {cause : SyntaxError}
    (hdoes : Does action cs (.error (.refused cause)) (Lexeme.first cs).rest
      [(Lexeme.first cs).token])
    (hfeed : ∀ forms,
      (draft forms).feed (Lexeme.first cs).token = .reject cause)
    (draft' : α → List OpenForm → Draft) :
    Follows action cs draft draft' := by
  refine .inr ⟨cause, _, _, hdoes, ?_,
    fun forms count => Draft.read_of_reject (hfeed forms) count⟩
  obtain ⟨tokens, htokens⟩ := Token.exists_ofChars_eq_cons cs
  rw [htokens]
  exact ⟨tokens, rfl⟩

end OneToken

theorem follows_identifierRule
    (cs : List Char) :
    Follows identifierRule cs Draft.parameter
      (fun name forms => .expression (.body name :: forms)) := by
  cases htoken : (Lexeme.first cs).token with
  | identifier name =>
      refine follows_bind_of_next (does_expect (by rw [htoken]; rfl) _)
        (fun forms => .expression (.body name :: forms))
        (fun forms => by rw [htoken]; rfl) ?_
      rw [htoken]
      exact follows_of_does (does_pure name _)
        (fun name forms => .expression (.body name :: forms))
  | _ =>
      exact follows_of_reject
        (does_expect_error (by rw [htoken]; nofun) .identifier).bind_error
        (fun forms => by rw [htoken]; rfl) _

variable {expression : Action Expr} {cs : List Char}

theorem follows_lamRule
    (hexpression : ∀ rest, rest.length ≤ cs.length →
      Follows expression rest .expression Draft.fill) :
    Follows (lamRule expression) cs .parameter Draft.fill := by
  refine (follows_identifierRule cs).bind fun name rest hrest => ?_
  refine ((hexpression rest hrest).within (.body name)).bind
    fun body rest' _ => ?_
  exact follows_of_does (does_pure (Expr.lam name body) rest') Draft.fill

theorem follows_appRule
    (hexpression : ∀ rest, rest.length ≤ cs.length →
      Follows expression rest .expression Draft.fill) :
    Follows (appRule expression) cs
      (fun forms => .expression (.function :: forms)) Draft.fill := by
  refine ((hexpression cs le_rfl).within .function).bind
    fun function rest hrest => ?_
  refine ((hexpression rest hrest).within (.argument function)).bind
    fun argument rest' _ => ?_
  exact follows_of_does (does_pure (Expr.app function argument) rest')
    Draft.fill

/-- A closing parenthesis ends the expression within. -/
theorem follows_closing
    (e : Expr) (cs : List Char) :
    Follows (expect .rightParen .rightParen >>= fun _ => pure e) cs
      (.closing e) Draft.fill := by
  cases htoken : (Lexeme.first cs).token with
  | rightParen =>
      exact follows_bind_of_next (does_expect (by rw [htoken]; rfl) _)
        (Draft.fill e) (fun forms => by rw [htoken]; rfl)
        (follows_of_does (does_pure e _) Draft.fill)
  | _ =>
      exact follows_of_reject
        (does_expect_error (by rw [htoken]; nofun) .rightParen).bind_error
        (fun forms => by rw [htoken]; rfl) _

theorem follows_parenRule
    (hexpression : ∀ rest, rest.length ≤ cs.length →
      Follows expression rest .expression Draft.fill) :
    Follows (parenRule expression) cs
      (fun forms => .expression (.paren :: forms)) Draft.fill :=
  ((hexpression cs le_rfl).within .paren).bind
    fun e rest _ => follows_closing e rest

/-- Every first token of an expression leads to its rule, or is refused. -/
theorem follows_next_expressionFrom
    (hexpression : ∀ rest, rest.length < cs.length →
      Follows expression rest .expression Draft.fill) :
    Follows (next >>= expressionFrom expression) cs .expression
      Draft.fill := by
  have hbehind :
      (Lexeme.first cs).token.isLast = false →
      ∀ rest, rest.length ≤ (Lexeme.first cs).rest.length →
        Follows expression rest .expression Draft.fill := by
    intro hlast rest hrest
    have hlt := Lexeme.first_rest_length_lt_of_isLast hlast
    exact hexpression rest (by omega)
  cases htoken : (Lexeme.first cs).token with
  | leftParen =>
      refine follows_bind_of_next (does_next cs)
        (fun forms => .expression (.paren :: forms))
        (fun forms => by rw [htoken]; rfl) ?_
      rw [htoken]
      exact follows_parenRule (hbehind (by rw [htoken]; rfl))
  | identifier name =>
      have hlast : (Lexeme.first cs).token.isLast = false := by
        rw [htoken]
        rfl
      by_cases hlam : name = "lam"
      · subst hlam
        refine follows_bind_of_next (does_next cs) .parameter
          (fun forms => by rw [htoken]; rfl) ?_
        rw [htoken]
        exact follows_lamRule (hbehind hlast)
      by_cases happ : name = "app"
      · subst happ
        refine follows_bind_of_next (does_next cs)
          (fun forms => .expression (.function :: forms))
          (fun forms => by rw [htoken]; rfl) ?_
        rw [htoken]
        exact follows_appRule (hbehind hlast)
      · refine follows_bind_of_next (does_next cs) (Draft.fill (.var name))
          (fun forms => by simp [htoken, Draft.feed, Draft.begin, hlam, happ])
          ?_
        have hvar : expressionFrom expression (.identifier name) =
            (pushBack (.identifier name) >>= fun _ => varRule) := by
          simp [expressionFrom, Token.kind, Token.text, hlam, happ]
        rw [htoken, hvar]
        exact follows_of_does (does_varRule name _) Draft.fill
  | number numeral =>
      -- The lexer gives numerals only, and each of them has a value.
      have hplain : (Token.number numeral).IsPlain := by
        rw [← htoken]
        exact Lexeme.isPlain_first (by rw [htoken]; rfl)
      have hvalue : (Decimal.value? numeral.toList).isSome = true := by
        rw [Decimal.isSome_value?]
        exact hplain
      obtain ⟨value, hvalue⟩ := Option.isSome_iff_exists.mp hvalue
      refine follows_bind_of_next (does_next cs) (Draft.fill (.number value))
        (fun forms => by simp [htoken, Draft.feed, Draft.begin, hvalue]) ?_
      rw [htoken]
      exact follows_of_does (does_numberRule hvalue _) Draft.fill
  | bool value =>
      refine follows_bind_of_next (does_next cs) (Draft.fill (.bool value))
        (fun forms => by rw [htoken]; rfl) ?_
      rw [htoken]
      exact follows_of_does (does_boolRule value _) Draft.fill
  | error cause =>
      exact follows_of_reject
        (does_next_bind_throw (by rw [htoken]; rfl))
        (fun forms => by rw [htoken]; rfl) _
  | endOfInput =>
      exact follows_of_reject
        (does_next_bind_throw (by rw [htoken]; rfl))
        (fun forms => by rw [htoken]; rfl) _
  | rightParen =>
      exact follows_of_reject
        (does_next_bind_throw (by rw [htoken]; rfl))
        (fun forms => by rw [htoken]; rfl) _

/-- Expressions are read as drafts read them, if the limit allows one more
nested rule than there are characters. -/
theorem follows_expressionRule
    {limit : Nat} {cs : List Char} (hlimit : cs.length < limit) :
    Follows (expressionRule limit) cs .expression Draft.fill := by
  induction limit generalizing cs with
  | zero =>
      omega
  | succ limit ih =>
      -- Further rules are nested behind the first token, in a shorter text.
      have hnext : Follows (next >>= expressionFrom (expressionRule limit)) cs
          .expression Draft.fill :=
        follows_next_expressionFrom fun rest hrest => ih (by omega)
      exact hnext.watched .expression

/-- Behind the expression of a program the end is due. -/
theorem does_end
    (root : Expr) (cs : List Char) (count : Nat) :
    Does (expect .endOfInput .endOfInput >>= fun _ => pure root) cs
      (((Draft.whole root).read cs count).result.mapError .refused)
      (Lexeme.first cs).rest [(Lexeme.first cs).token] ∧
    ((Draft.whole root).read cs count).count = count + 1 := by
  cases htoken : (Lexeme.first cs).token with
  | endOfInput =>
      have hfeed : (Draft.whole root).feed (Lexeme.first cs).token =
          .accept root := by
        rw [htoken]
        rfl
      have hkind : (Lexeme.first cs).token.kind = .endOfInput := by
        rw [htoken]
        rfl
      rw [Draft.read_of_accept hfeed, ← htoken]
      exact ⟨(does_expect hkind _).bind (does_pure root _), rfl⟩
  | _ =>
      have hfeed : (Draft.whole root).feed (Lexeme.first cs).token =
          .reject (.unexpected .endOfInput (Lexeme.first cs).token.kind) := by
        rw [htoken]
        rfl
      have hkind : (Lexeme.first cs).token.kind ≠ .endOfInput := by
        rw [htoken]
        nofun
      rw [Draft.read_of_reject hfeed, ← htoken]
      exact ⟨(does_expect_error hkind _).bind_error, rfl⟩

/-- A program is read as drafts read it, and as many tokens are taken. -/
theorem does_programRule
    {limit : Nat} {cs : List Char} (hlimit : cs.length < limit) :
    ∃ rest tokens,
      Does (programRule limit) cs
        ((Draft.empty.read cs 0).result.mapError .refused) rest tokens ∧
      tokens <+: Token.ofChars cs ∧
      tokens.length = (Draft.empty.read cs 0).count := by
  rcases follows_expressionRule hlimit with
    ⟨root, rest, tokens, hdoes, -, hcs, hread⟩ |
    ⟨cause, rest, tokens, hdoes, hcs, hread⟩
  · have hwhole : Draft.empty.read cs 0 =
        (Draft.whole root).read rest (0 + tokens.length) :=
      hread [] 0
    have hend := does_end root rest (0 + tokens.length)
    rw [hwhole, hend.2]
    refine ⟨_, _, (hdoes.bind hend.1).watched .program, ?_, ?_⟩
    · obtain ⟨more, hmore⟩ := Token.exists_ofChars_eq_cons rest
      rw [hcs, hmore]
      exact (List.prefix_append_right_inj tokens).mpr ⟨more, rfl⟩
    · rw [List.length_append, List.length_singleton, Nat.zero_add]
  · have herror : Draft.empty.read cs 0 = ⟨.error cause, 0 + tokens.length⟩ :=
      hread [] 0
    rw [herror]
    exact ⟨rest, tokens, hdoes.bind_error.watched .program, hcs,
      (Nat.zero_add _).symm⟩

end Follows

end Parser

/-! ## The discipline -/

/-- Among the first tokens of a text only the last one can end it. -/
theorem Token.isLast_of_mem_dropLast
    {tokens : List Token} {cs : List Char} (hle : tokens <+: ofChars cs)
    {token : Token} (htoken : token ∈ tokens.dropLast) :
    token.isLast = false := by
  obtain ⟨front, last, hcs, -, hplain⟩ := ofChars_eq_append cs
  rw [hcs] at hle
  have hfront : token ∈ front := by
    rcases List.prefix_concat_iff.mp hle with rfl | hle
    · rwa [List.dropLast_concat] at htoken
    · exact (tokens.dropLast_prefix.trans hle).mem htoken
  exact (hplain token hfront).isLast

/-- No error is about the value of a number, or calls for a number or a truth
value. -/
theorem Expr.cause_of_parse?_eq_error
    {source : String} {cause : SyntaxError}
    (hparse : parse? source = .error cause) :
    (∀ numeral, cause ≠ .badNumber numeral) ∧
    ∀ found, cause ≠ .unexpected .number found ∧
      cause ≠ .unexpected .bool found := by
  rcases parse?_eq_error hparse with ⟨draft, found, rfl⟩ | ⟨fault, rfl⟩
  · cases draft <;> simp [Draft.expected]
  · simp

namespace Parser

/-- The rules come to the result of the drafts, without a fault. The slot is
empty whenever a rule starts or returns, and in the end. The lexer gives the
tokens that the drafts read, which are the first of the text, and gives none
behind the end or a malformed token. So the tokens of a text decide its
result. -/
theorem rules_follow_drafts
    (source : String) :
    (∀ limit : Nat, source.length < limit →
      ∃ rest events,
        run limit source =
          some ((Expr.parse? source).mapError .refused,
            ⟨rest, none, events⟩) ∧
        (∀ event ∈ events, event.IsFree) ∧
        Event.tokens events <+: Token.ofString source ∧
        (∀ token ∈ (Event.tokens events).dropLast, token.isLast = false) ∧
        (Event.tokens events).length =
          (Draft.empty.read source.toList 0).count) ∧
    (∀ source' : String, Token.ofString source = Token.ofString source' →
      Expr.parse? source = Expr.parse? source') ∧
    ∀ cause : SyntaxError, Expr.parse? source = .error cause →
      (∀ numeral, cause ≠ .badNumber numeral) ∧
      ∀ found, cause ≠ .unexpected .number found ∧
        cause ≠ .unexpected .bool found := by
  refine ⟨fun limit hlimit => ?_, fun _ => Expr.parse?_congr,
    fun _ => Expr.cause_of_parse?_eq_error⟩
  have hlength : source.toList.length < limit := hlimit
  obtain ⟨rest, tokens, hdoes, hle, hcount⟩ := does_programRule hlength
  obtain ⟨events, hrun, hfree, rfl⟩ := hdoes []
  exact ⟨rest, events, hrun, hfree, hle,
    fun _ => Token.isLast_of_mem_dropLast hle, hcount⟩

/-- The variable is pushed back and taken again, and the number that stands in
place of the closing parenthesis is the last token that is asked for. -/
theorem rules_follow_drafts_unclosed :
    ∃ rest events,
      run 6 "(f -7" =
        some (.error (.refused (.unexpected .rightParen .number)),
          ⟨rest, none, events⟩) ∧
      (∀ event ∈ events, event.IsFree) ∧
      Event.tokens events = [.leftParen, .identifier "f", .number "-7"] ∧
      Expr.parse? "(f -7" = Expr.parse? "( f\t-7" := by
  obtain ⟨hrules, hcongr, -⟩ := rules_follow_drafts "(f -7"
  obtain ⟨rest, events, hrun, hfree, hle, -, hcount⟩ := hrules 6 (by decide)
  have hparse : Expr.parse? "(f -7" =
      .error (.unexpected .rightParen .number) := by
    decide +kernel
  have hthree : (Draft.empty.read "(f -7".toList 0).count = 3 := by
    decide +kernel
  have hsource : Token.ofString "(f -7" =
      [.leftParen, .identifier "f", .number "-7", .endOfInput] := by
    decide +kernel
  rw [hparse] at hrun
  rw [hthree] at hcount
  refine ⟨rest, events, hrun, hfree, ?_, hcongr _ (by decide +kernel)⟩
  rw [List.prefix_iff_eq_take.mp hle, hcount, hsource]
  rfl

end Parser
end LamApp
