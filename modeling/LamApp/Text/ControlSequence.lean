/-!
# Control sequences

Texts for a terminal may hold control sequences: an escape character and what
belongs to it. Where a text goes to something else than a terminal, they are
left out, and so are the other control characters; tabs, line ends and form
feeds stay.

There are four kinds of sequences:

* a short one ends with the first character that is no intermediate one;
* a control sequence proper (`[`) ends with a final character;
* a command (`]`) ends with a bell;
* a string (`P`, behind its header, and `X`, `^`, `_`) ends with the byte 9C.

Every escape character begins anew, and a cancel or substitute character ends
any sequence.

Main statements: only characters that are shown are left, and exactly the texts
of such characters stay as they are.
-/

namespace LamApp
namespace Text

/-- How far a control sequence has come. -/
inductive ControlMode where
  /-- There is none. -/
  | plain
  /-- The escape character was read. -/
  | escape
  /-- Intermediate characters of a short sequence were read. -/
  | short
  | control
  | command
  /-- The header of a device string begins. -/
  | header
  /-- The parameters of a device string were begun. -/
  | parameters
  /-- The intermediate characters of a device string were begun. -/
  | intermediates
  | string
deriving DecidableEq

/-- The control characters that stay in a text. -/
def isLayout (c : Char) : Bool :=
  c = '\t' || c = '\n' || c = '\x0c' || c = '\r'

/-- A character of a text that stands outside of all control sequences. -/
def isShown (c : Char) : Bool :=
  isLayout c || (0x20 ≤ c.toNat && c.toNat != 0x7f)

/-- A text of characters that are shown. -/
def AllShown (text : String) : Prop :=
  ∀ c ∈ text.toList, isShown c = true

instance (text : String) : Decidable (AllShown text) :=
  decidable_of_iff (text.toList.all isShown = true)
    (by rw [AllShown, List.all_eq_true])

theorem AllShown.append
    {text text' : String} (htext : AllShown text) (htext' : AllShown text') :
    AllShown (text ++ text') := by
  intro c hc
  rw [String.toList_append, List.mem_append] at hc
  exact hc.elim (htext c) (htext' c)

namespace ControlMode

/-- The character is shown although a sequence may be under way. -/
def shows : ControlMode → Char → Bool
  | plain, c => isShown c
  | escape, c => isLayout c
  | short, c => isLayout c
  | control, c => isLayout c
  | _, _ => false

/-- The code point lies in a range. -/
def within (c : Char) (first last : Nat) : Bool :=
  first ≤ c.toNat && c.toNat ≤ last

/-- What the character behind the escape character begins. -/
def ofEscape (c : Char) : ControlMode :=
  if within c 0x20 0x2f then
    short
  else if c = '[' then
    control
  else if c = ']' then
    command
  else if c = 'P' then
    header
  else if c = 'X' || c = '^' || c = '_' then
    string
  else if within c 0x30 0x7e then
    plain
  else
    escape

/-- How far the sequence has come behind a character that is not shown. -/
def next (mode : ControlMode) (c : Char) : ControlMode :=
  if c = '\x1b' then
    escape
  else if c = '\x18' || c = '\x1a' then
    plain
  else
    match mode with
    | plain => plain
    | escape => ofEscape c
    | short => if within c 0x30 0x7e then plain else short
    | control => if within c 0x40 0x7e then plain else control
    | command => if c = '\x07' then plain else command
    | header =>
      if within c 0x20 0x2f then
        intermediates
      else if within c 0x30 0x3f then
        parameters
      else if within c 0x40 0x7e then
        string
      else
        header
    | parameters =>
      if within c 0x20 0x2f then
        intermediates
      else if within c 0x3c 0x7e then
        string
      else
        parameters
    | intermediates => if within c 0x30 0x7e then string else intermediates
    | string =>
      if (String.utf8EncodeChar c).contains 0x9c then plain else string

/-- The text without control sequences, from the given point of one on. A
character that is shown amid a sequence interrupts it: shown is all that
follows, until a control character takes the sequence up again. A character
beyond the first 128 ends an interrupted sequence. -/
def strip : ControlMode → Bool → List Char → List Char
  | _, _, [] => []
  | mode, interrupted, c :: cs =>
    if interrupted && isShown c then
      if c.toNat < 0x80 then
        c :: strip mode true cs
      else
        c :: strip plain false cs
    else if mode.shows c then
      c :: strip mode (mode != plain) cs
    else
      strip (mode.next c) false cs

end ControlMode

/-- The text without control sequences. -/
def withoutControls (text : String) : String :=
  String.ofList (ControlMode.strip .plain false text.toList)

theorem ControlMode.isShown_of_shows
    {mode : ControlMode} {c : Char} (h : mode.shows c = true) :
    isShown c = true := by
  cases mode <;> simp_all [shows, isShown]

theorem ControlMode.isShown_of_mem_strip
    {mode : ControlMode} {interrupted : Bool} {cs : List Char} {c : Char}
    (hmem : c ∈ strip mode interrupted cs) :
    isShown c = true := by
  fun_induction strip mode interrupted cs with
  | case1 => cases hmem
  | case2 mode interrupted d cs hd _ ih
  | case3 mode interrupted d cs hd _ ih =>
    rw [Bool.and_eq_true] at hd
    rcases List.mem_cons.mp hmem with rfl | hrest
    · exact hd.2
    · exact ih hrest
  | case4 mode interrupted d cs _ hd ih =>
    rcases List.mem_cons.mp hmem with rfl | hrest
    · exact isShown_of_shows hd
    · exact ih hrest
  | case5 mode interrupted d cs _ _ ih => exact ih hmem

theorem ControlMode.strip_of_forall_isShown
    {cs : List Char} (h : ∀ c ∈ cs, isShown c = true) :
    strip plain false cs = cs := by
  induction cs with
  | nil => rfl
  | cons c cs ih =>
    have hc : isShown c = true := h c (by simp)
    have hrest := ih fun d hd => h d (by simp [hd])
    simp [strip, shows, hc, hrest]

/-- Whatever sequences there were, only characters that are shown are left. -/
theorem allShown_withoutControls
    (text : String) :
    AllShown (withoutControls text) := by
  intro c hc
  rw [withoutControls, String.toList_ofList] at hc
  exact ControlMode.isShown_of_mem_strip hc

/-- Exactly the texts of characters that are shown stay as they are. -/
theorem withoutControls_eq_self_iff
    (text : String) :
    withoutControls text = text ↔ AllShown text := by
  constructor
  · intro htext
    rw [← htext]
    exact allShown_withoutControls text
  · intro h
    rw [withoutControls, ControlMode.strip_of_forall_isShown h,
      String.ofList_toList]

end Text
end LamApp
