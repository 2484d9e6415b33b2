import LamApp.Application
import LamApp.Proofs.LineByLine

/-!
# The program at a terminal

What is typed at a terminal comes to a session through several hands: the
terminal collects bytes to lines and hands on each line when its end is typed,
the lines are decoded, their ends are dropped and their backspaces carried out.
What the program shows goes the other way, and an argument that it quotes may
hold control sequences.

Main statements: with keys that do not edit a line in the terminal itself,
what is shown is what the session has to show for the lines, its prompts
included; for each backspace one cluster is missing from them. A usage error
holds only characters that are shown, whatever the arguments are.
-/

namespace LamApp

namespace Text

/-- A line when its backspaces are carried out. -/
def corrected (line : String) : String :=
  String.ofList (withoutBackspaces line.toList)

/-- A line when one cluster is taken back for each backspace. -/
def edited (line : String) : String :=
  String.ofList ((clusters line.toList).foldl edit []).flatten

/-- The bytes of a line. -/
def bytes (line : String) : List UInt8 :=
  line.toList.flatMap String.utf8EncodeChar

/-- The bytes of a line and of its end. -/
def typed (line : String) : List UInt8 :=
  bytes line ++ [lineFeedByte]

/-- The terminal takes all bytes of the line for what they are, and has room
for them. -/
structure IsTypable (line : String) : Prop where
  plain : ∀ byte ∈ bytes line, Key.ofByte byte = .plain
  length_le : (bytes line).length ≤ Terminal.capacity

theorem isTypable_iff
    (line : String) :
    IsTypable line ↔
      (bytes line).all (Key.ofByte · = .plain) = true ∧
        (bytes line).length ≤ Terminal.capacity := by
  constructor
  · intro hline
    exact ⟨by simpa using hline.plain, hline.length_le⟩
  · rintro ⟨hplain, hlength⟩
    exact ⟨by simpa using hplain, hlength⟩

instance (line : String) : Decidable (IsTypable line) :=
  decidable_of_iff' _ (isTypable_iff line)

end Text

namespace Repl

/-- What is shown for a reply. -/
def Reply.text : Reply → String
  | unfinished => ""
  | finished text => text ++ "\n"

/-- What a session shows when it is fed with lines: its prompts and what its
replies come to, and the prompt for a line that does not come. -/
def talk (limit : Nat) : Repl → List String → Option String
  | repl, [] => some repl.prompt
  | repl, line :: lines =>
    (repl.feed limit line).bind fun (reply, repl') =>
      (talk limit repl' lines).map (repl.prompt ++ reply.text ++ ·)

end Repl

/-! ## From bytes to lines -/

namespace Terminal

/-- Plain bytes make up the line. -/
theorem pieces_append
    {line : Array UInt8} {bs : List UInt8}
    (hplain : ∀ byte ∈ bs, Key.ofByte byte = .plain)
    (hsize : line.size + bs.length ≤ capacity) (more : List UInt8) :
    pieces ⟨line, false⟩ (bs ++ more) =
      pieces ⟨line ++ bs.toArray, false⟩ more := by
  induction bs generalizing line with
  | nil =>
      simp
  | cons byte bs ih =>
      rw [List.length_cons] at hsize
      have hbyte := hplain byte List.mem_cons_self
      have hlater : ∀ b ∈ bs, Key.ofByte b = .plain :=
        fun b hb => hplain b (List.mem_cons_of_mem _ hb)
      have hroom : line.size < capacity := by omega
      have hpush : (line.push byte).size + bs.length ≤ capacity := by
        rw [Array.size_push]
        omega
      have htype : (Terminal.mk line false).type byte =
          (⟨line.push byte, false⟩, none) := by
        simp [type, hbyte, put, hroom]
      rw [List.cons_append, pieces, htype]
      dsimp only
      rw [ih hlater hpush]
      simp

theorem pieces_lineFeed
    (line : Array UInt8) (more : List UInt8) :
    pieces ⟨line, false⟩ (lineFeedByte :: more) =
      line.push lineFeedByte :: pieces start more := by
  rfl

/-- Each line that can be typed is handed on when its end is typed. -/
theorem pieces_flatMap_typed
    {lines : List String} (hlines : ∀ line ∈ lines, Text.IsTypable line) :
    start.pieces (lines.flatMap Text.typed) =
      lines.map fun line => (Text.typed line).toArray := by
  induction lines with
  | nil =>
      rfl
  | cons line lines ih =>
      have hline := hlines line List.mem_cons_self
      have hsize : (#[] : Array UInt8).size + (Text.bytes line).length ≤
          capacity := by
        simpa using hline.length_le
      have hlater := ih fun line' h => hlines line' (List.mem_cons_of_mem _ h)
      rw [List.flatMap_cons, Text.typed, List.append_assoc, start,
        pieces_append hline.plain hsize, List.singleton_append,
        pieces_lineFeed, hlater]
      simp [Text.typed]

end Terminal

namespace Typed

/-- A line as it was typed, its end included. -/
def ofLine (line : String) : Typed :=
  .line (Text.typed line).toArray

theorem cut_append
    {bs : List UInt8} (hbs : lineFeedByte ∉ bs) (begun : Array UInt8) :
    cut begun (bs ++ [lineFeedByte]) =
      ([.line (begun ++ (bs ++ [lineFeedByte]).toArray)], #[]) := by
  induction bs generalizing begun with
  | nil =>
      simp [cut]
  | cons byte bs ih =>
      rw [List.mem_cons, not_or] at hbs
      rw [List.cons_append, cut, if_neg (Ne.symm hbs.1), ih hbs.2]
      simp

theorem ofBytes_flatMap_typed
    {lines : List String} (hlines : ∀ line ∈ lines, Text.IsTypable line) :
    ofBytes (lines.flatMap Text.typed) = lines.map ofLine := by
  rw [ofBytes, Terminal.pieces_flatMap_typed hlines]
  induction lines with
  | nil =>
      rfl
  | cons line lines ih =>
      have hline := hlines line List.mem_cons_self
      have hend : lineFeedByte ∉ Text.bytes line := by
        intro hmem
        cases hline.plain _ hmem
      have hcut : cut #[] (Text.typed line) = ([ofLine line], #[]) := by
        rw [Text.typed, cut_append hend, ofLine, Text.typed]
        simp
      have hne : (Text.typed line).toArray.isEmpty = false := by
        simp [Text.typed]
      have hlater := ih fun line' h => hlines line' (List.mem_cons_of_mem _ h)
      rw [List.map_cons, ofPieces, hne, hcut]
      simp [hlater]

end Typed

/-! ## From lines to a session -/

namespace Text

theorem bytes_append_lineEnd
    (line : String) :
    bytes (line ++ "\n") = typed line := by
  have hend : String.utf8EncodeChar '\n' = [lineFeedByte] := by decide
  simp [bytes, typed, hend]

theorem bytes_eq_toList_data
    (text : String) :
    bytes text = text.toUTF8.data.toList := by
  rw [String.toUTF8_eq_toByteArray, ← String.utf8Encode_toList]
  exact List.toList_data_toByteArray.symm

theorem toList_eq_toList_data
    (bytes : ByteArray) :
    bytes.toList = bytes.data.toList := by
  have hloop : ∀ (i : Nat) (read : List UInt8),
      ByteArray.toList.loop bytes i read =
        read.reverse ++ bytes.data.toList.drop i := by
    intro i read
    fun_induction ByteArray.toList.loop bytes i read with
    | case1 i read hi ih =>
        have hlength : i < bytes.data.toList.length := by
          simpa using hi
        have hget : bytes.get! i = bytes.data.toList[i] := by
          simp [ByteArray.get!, hi]
        rw [ih, List.drop_eq_getElem_cons hlength, hget]
        simp
    | case2 i read hi =>
        have hlength : bytes.data.toList.length ≤ i := by
          simpa using hi
        rw [List.drop_eq_nil_of_le hlength, List.append_nil]
  exact hloop 0 []

/-- The bytes of whole lines. -/
theorem toList_toUTF8_joined
    (lines : List String) :
    (String.ofList (joined lines)).toUTF8.toList = lines.flatMap typed := by
  rw [toList_eq_toList_data, ← bytes_eq_toList_data, bytes,
    String.toList_ofList]
  induction lines with
  | nil =>
      rfl
  | cons line lines ih =>
      have hline : line.toList ++ ['\n'] = (line ++ "\n").toList := by
        simp
      rw [joined_cons, ← List.singleton_append, ← List.append_assoc,
        List.flatMap_append, List.flatMap_cons, ih, hline,
        ← bytes_append_lineEnd, bytes]

/-- A line that was typed is decoded to itself, its end included. -/
theorem fromUTF8?_typed
    (line : String) :
    String.fromUTF8? ⟨(typed line).toArray⟩ = some (line ++ "\n") := by
  have hbytes : ByteArray.mk (typed line).toArray =
      (line ++ "\n").toByteArray := by
    rw [← bytes_append_lineEnd, bytes_eq_toList_data]
    rfl
  rw [hbytes, String.fromUTF8?, dif_pos (line ++ "\n").isValidUTF8]
  rfl

theorem not_mem_of_isTypable
    {line : String} (hline : IsTypable line) :
    '\r' ∉ line.toList := by
  intro hmem
  have hbyte : (0x0d : UInt8) ∈ bytes line :=
    List.mem_flatMap.mpr ⟨'\r', hmem, by decide⟩
  cases hline.plain _ hbyte

theorem withoutLineEnd_append
    {cs : List Char} (hcs : '\r' ∉ cs) :
    withoutLineEnd (cs ++ ['\n']) = cs := by
  rw [withoutLineEnd, List.reverse_append]
  cases hreverse : cs.reverse with
  | nil =>
      simpa using hreverse
  | cons c front =>
      have hc : c ≠ '\r' := by
        rintro rfl
        apply hcs
        rw [← List.mem_reverse, hreverse]
        exact List.mem_cons_self
      have hback : front.reverse ++ [c] = cs := by
        rw [← List.reverse_cons, ← hreverse, List.reverse_reverse]
      simp [hc, hback]

theorem ofTyped_of_isTypable
    {line : String} (hline : IsTypable line) :
    ofTyped (line ++ "\n") = corrected line := by
  have hend : (line ++ "\n").toList = line.toList ++ ['\n'] := by
    simp
  rw [ofTyped, hend, withoutLineEnd_append (not_mem_of_isTypable hline),
    corrected]

end Text

namespace Dialogue

theorem takeLine_of_isTypable
    {line : String} (hline : Text.IsTypable line) (limit : Nat)
    (dialogue : Dialogue) :
    dialogue.takeLine limit (line ++ "\n") =
      (dialogue.repl.feed limit (Text.corrected line)).map
        fun (reply, repl) =>
          (reply.text, ⟨repl, dialogue.history.add (Text.corrected line)⟩) := by
  rw [takeLine, Text.ofTyped_of_isTypable hline]
  apply Option.map_congr
  rintro ⟨_ | text, repl⟩ - <;> rfl

/-- A dialogue shows what its session has to show, and remembers the lines as
they are corrected. -/
theorem carryOn_map_ofLine
    {lines : List String} (hlines : ∀ line ∈ lines, Text.IsTypable line)
    (limit : Nat) (dialogue : Dialogue) (shown : String) :
    dialogue.carryOn limit shown (lines.map Typed.ofLine) =
      (dialogue.repl.talk limit (lines.map Text.corrected)).map fun text =>
        ⟨shown ++ text,
          some ((lines.map Text.corrected).foldl History.add
            dialogue.history)⟩ := by
  induction lines generalizing dialogue shown with
  | nil =>
      rfl
  | cons line lines ih =>
      have hline := hlines line List.mem_cons_self
      have hlater := fun line' h => hlines line' (List.mem_cons_of_mem line h)
      rw [List.map_cons, List.map_cons, List.foldl_cons, Typed.ofLine, carryOn,
        Text.fromUTF8?_typed, Repl.talk]
      dsimp only
      rw [takeLine_of_isTypable hline]
      cases dialogue.repl.feed limit (Text.corrected line) with
      | none =>
          rfl
      | some answer =>
          obtain ⟨reply, repl⟩ := answer
          simp only [Option.map_some, Option.bind_some, ih hlater,
            Option.map_map]
          apply Option.map_congr
          intro text _
          simp [String.append_assoc]

end Dialogue

namespace Application

/-- The ending of the program if a session is fed with lines. -/
def endingOfLines (limit : Nat) (format : Bool) (lines : List String) :
    Option Ending :=
  ((Repl.start format).talk limit lines).map fun shown =>
    ⟨⟨0, shown, ""⟩, (lines.foldl History.add .empty).file?⟩

section Lines

variable {arguments : List String} {options : Options}
variable (hparse : Options.parse arguments = .ok options)
variable (hcheck : options.check = .ok ()) (hsource : options.source = none)
variable {lines : List String} (hlines : ∀ line ∈ lines, Text.IsTypable line)

include hparse hcheck hsource hlines

/-- What is shown at a terminal is what the session has to show for the lines,
when their backspaces are carried out. -/
theorem run_terminal
    (limit : Nat) (files : List (String × ByteArray)) :
    run limit arguments files
        (.terminal (String.ofList (Text.joined lines)).toUTF8) =
      endingOfLines limit options.format (lines.map Text.corrected) := by
  rw [run, hparse]
  dsimp only
  rw [hsource]
  dsimp only
  rw [converse, hcheck, Text.toList_toUTF8_joined,
    Typed.ofBytes_flatMap_typed hlines]
  dsimp only
  rw [Dialogue.carryOn_map_ofLine hlines, Option.map_map]
  apply Option.map_congr
  intro shown _
  simp [Dialogue.start]

/-- If the sizes of all clusters can be kept, the lines come to the session
with one cluster taken back for each backspace. -/
theorem run_terminal_of_lt_sizeBound
    (hsizes : ∀ line ∈ lines, ∀ cluster ∈ Text.clusters line.toList,
      Text.byteCount cluster < Text.sizeBound)
    (limit : Nat) (files : List (String × ByteArray)) :
    run limit arguments files
        (.terminal (String.ofList (Text.joined lines)).toUTF8) =
      endingOfLines limit options.format (lines.map Text.edited) := by
  have hedited : lines.map Text.corrected = lines.map Text.edited := by
    apply List.map_congr_left
    intro line hline
    rw [Text.corrected, Text.edited,
      Text.withoutBackspaces_eq_flatten (hsizes line hline)]
  rw [run_terminal hparse hcheck hsource hlines, hedited]

/-- Lines without backspaces come to the session as they are typed. -/
theorem run_terminal_of_not_mem
    (hnone : ∀ line ∈ lines, Text.backspace ∉ line.toList)
    (limit : Nat) (files : List (String × ByteArray)) :
    run limit arguments files
        (.terminal (String.ofList (Text.joined lines)).toUTF8) =
      endingOfLines limit options.format lines := by
  have hcorrected : lines.map Text.corrected = lines.map id := by
    apply List.map_congr_left
    intro line hline
    rw [Text.corrected, Text.withoutBackspaces_of_not_mem (hnone line hline),
      String.ofList_toList]
    rfl
  rw [run_terminal hparse hcheck hsource hlines, hcorrected, List.map_id]

end Lines

/-- A program in two lines. -/
example :
    let typed := (String.ofList (Text.joined ["app lam x x", "1"])).toUTF8
    (run 9 [] [] (.terminal typed)).map (·.exit.stdout) =
      some ">> .. 1\n>> " := by
  intro typed
  have hlines : ∀ line ∈ ["app lam x x", "1"], Text.IsTypable line := by
    decide +kernel
  have hnone : ∀ line ∈ ["app lam x x", "1"],
      Text.backspace ∉ line.toList := by
    decide +kernel
  rw [run_terminal_of_not_mem rfl rfl rfl hlines hnone]
  decide +kernel

end Application

/-! ## Usage errors -/

theorem OptionName.allShown_shown
    (option : OptionName) :
    Text.AllShown option.shown := by
  rcases option with option | option <;> cases option <;> decide

theorem Stop.allShown_stderr
    (stop : Stop) :
    Text.AllShown stop.exit.stderr := by
  have hopening : Text.AllShown "error: " := by decide
  have hend : Text.AllShown "\n" := by decide
  have herror : ∀ message, Text.AllShown message →
      Text.AllShown (usageError message).stderr :=
    fun _ hmessage => (hopening.append hmessage).append hend
  cases stop with
  | help =>
      intro c hc
      cases hc
  | version =>
      intro c hc
      cases hc
  | unexpectedArgument argument =>
      have hquoted := Text.allShown_withoutControls argument
      have hunexpected : Text.AllShown "unexpected argument '" := by decide
      have hfound : Text.AllShown "' found" := by decide
      exact herror _ ((hunexpected.append hquoted).append hfound)
  | missingValue option =>
      have hoption := OptionName.allShown_shown (.value option)
      have hrequired : Text.AllShown "a value is required for '" := by decide
      have hnone : Text.AllShown "' but none was supplied" := by decide
      exact herror _ ((hrequired.append hoption).append hnone)
  | repeated option =>
      have hoption := OptionName.allShown_shown option
      have hargument : Text.AllShown "the argument '" := by decide
      have htwice : Text.AllShown "' cannot be used multiple times" := by
        decide
      exact herror _ ((hargument.append hoption).append htwice)
  | unexpectedValue value option =>
      have hquoted := Text.allShown_withoutControls value
      have hoption := OptionName.allShown_shown (.switch option)
      have hunexpected : Text.AllShown "unexpected value '" := by decide
      have hfor : Text.AllShown "' for '" := by decide
      have hfound : Text.AllShown "' found; no more were expected" := by
        decide
      exact herror _
        ((((hunexpected.append hquoted).append hfor).append hoption).append
          hfound)

/-- Whatever the arguments are that cannot be read, the program says so, and
with characters that are shown. -/
theorem Application.allShown_stderr_of_error
    {arguments : List String} {stop : Stop}
    (hparse : Options.parse arguments = .error stop) (limit : Nat)
    (files : List (String × ByteArray)) (input : Input) :
    ∃ ending,
      run limit arguments files input = some ending ∧
      Text.AllShown ending.exit.stderr := by
  refine ⟨⟨stop.exit, none⟩, ?_, stop.allShown_stderr⟩
  rw [run, hparse]

end LamApp
