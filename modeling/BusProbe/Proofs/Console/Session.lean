import BusProbe.Proofs.Script.Ensures
import BusProbe.Proofs.Switchboard.Submitting
import BusProbe.Proofs.Text.Encoding

/-!
# A session of the console

The console without hardware is a fold over the lines of its input. All it carries from one line to
the next is the active mode, and what it shows for a line depends on nothing else (`reply`). Every
session on a text ends well, at the first line that quits or at the end of the text; nothing behind
that line makes a difference, and a text without such a line only puts its own part in front of what
a session on the rest shows (`session_folds`). No records come between the output, since none that
are made on the way are warnings (`quiet_submission`).
-/

set_option autoImplicit false
set_option relaxedAutoImplicit false

namespace BusProbe.Console

open Text (utf8 utf8_append utf8_empty utf8_inj utf8_lineFeed)

/-! ### Lines -/

/-- The lines of a text. A line feed ends its line and belongs to it, and the last line may lack
one. -/
inductive Lines : String → List String → Prop
  | none : Lines "" []
  | unended (body : String) (hne : body ≠ "") (hbody : '\n' ∉ body.toList) : Lines body [body]
  | ended (body rest : String) (lines : List String) (hbody : '\n' ∉ body.toList)
      (hrest : Lines rest lines) : Lines (body ++ "\n" ++ rest) ((body ++ "\n") :: lines)

/-- A text is at the end of a line, or at the beginning of the first one. -/
def AtLineEnd (text : String) : Prop := ∀ c, text.toList.getLast? = some c → c = '\n'

/-- Bytes of a line that is ended are divided off. -/
theorem splitLines_ended {body : List UInt8} (hbody : ∀ byte ∈ body, byte ≠ 10)
    (rest : List UInt8) :
    splitLines (body ++ 10 :: rest) = (body ++ [10]) :: splitLines rest := by
  induction body with
  | nil => rfl
  | cons byte body ih =>
    obtain ⟨hbyte, hbody⟩ := List.forall_mem_cons.mp hbody
    rw [List.cons_append, splitLines, if_neg hbyte, ih hbody]
    rfl

/-- Bytes of a line that is not ended are one line. -/
theorem splitLines_unended {body : List UInt8} (hbody : ∀ byte ∈ body, byte ≠ 10)
    (hne : body ≠ []) : splitLines body = [body] := by
  induction body with
  | nil => exact absurd rfl hne
  | cons byte body ih =>
    obtain ⟨hbyte, hbody⟩ := List.forall_mem_cons.mp hbody
    rw [splitLines, if_neg hbyte]
    cases body with
    | nil => rfl
    | cons next body => rw [ih hbody (List.cons_ne_nil next body)]

/-- The bytes of a text are divided and decoded into its lines, and bytes that follow the end of a
line are divided on their own. A last line that is not ended is not at a line end, so that nothing
follows it. -/
theorem Lines.decode_splitLines {text : String} {lines : List String} (hlines : Lines text lines)
    {rest : List UInt8} (hend : AtLineEnd text ∨ rest = []) :
    (splitLines (utf8 text ++ rest)).map decode =
      lines.map some ++ (splitLines rest).map decode := by
  induction hlines with
  | none =>
    rw [utf8_empty]
    rfl
  | unended body hne hbody =>
    have hlist : body.toList ≠ [] := fun hnil ↦ hne (String.toList_eq_nil_iff.mp hnil)
    obtain rfl : rest = [] := by
      refine hend.resolve_left fun hend ↦ ?_
      have hlast := hend _ (List.getLast?_eq_some_getLast hlist)
      exact hbody (hlast ▸ List.getLast_mem hlist)
    have hbytes : utf8 body ≠ [] := fun hnil ↦ hne (utf8_inj.mp (hnil.trans utf8_empty.symm))
    rw [List.append_nil, splitLines_unended (Text.ne_lineFeed_of_mem_utf8 hbody) hbytes]
    simp [splitLines, decode, Text.fromUTF8?_utf8]
  | ended body text lines hbody hlines ih =>
    have hbytes : utf8 (body ++ "\n" ++ text) ++ rest =
        utf8 body ++ 10 :: (utf8 text ++ rest) := by
      simp [utf8_append, utf8_lineFeed]
    have hline : decode (utf8 body ++ [10]) = some (body ++ "\n") := by
      rw [← utf8_lineFeed, ← utf8_append]
      exact Text.fromUTF8?_utf8 _
    have hrest : AtLineEnd text ∨ rest = [] := by
      refine hend.imp_left fun hend c hc ↦ hend c ?_
      rw [String.toList_append, List.getLast?_append, hc]
      rfl
    rw [hbytes, splitLines_ended (Text.ne_lineFeed_of_mem_utf8 hbody), List.map_cons, hline,
      ih hrest]
    rfl

/-- A character goes to the first line, if it does not end one. -/
theorem Lines.exists_cons {text : String} {lines : List String} (hlines : Lines text lines)
    {c : Char} (hc : c ≠ '\n') : ∃ longer, Lines (String.singleton c ++ text) longer := by
  have hbody : ∀ body : String, '\n' ∉ body.toList →
      '\n' ∉ (String.singleton c ++ body).toList := by
    intro body hbody
    simp [hbody, Ne.symm hc]
  cases hlines with
  | none =>
    refine ⟨_, .unended _ ?_ (hbody "" (by simp))⟩
    simp
  | unended body hne hunended =>
    refine ⟨_, .unended _ ?_ (hbody text hunended)⟩
    simp
  | ended body rest lines hended hrest =>
    rw [← String.append_assoc, ← String.append_assoc]
    exact ⟨_, .ended _ rest lines (hbody body hended) hrest⟩

/-- Every text has lines. -/
theorem exists_lines (text : String) : ∃ lines, Lines text lines := by
  rw [← String.ofList_toList (s := text)]
  induction text.toList with
  | nil => exact ⟨_, .none⟩
  | cons c rest ih =>
    obtain ⟨lines, hlines⟩ := ih
    rw [String.ofList_cons]
    by_cases hc : c = '\n'
    · subst hc
      exact ⟨_, .ended "" _ lines (by simp) hlines⟩
    · exact hlines.exists_cons hc

/-- A text has one division into lines. -/
theorem Lines.eq {text : String} {lines other : List String} (hlines : Lines text lines)
    (hother : Lines text other) : lines = other := by
  have hsome := hlines.decode_splitLines (.inr rfl)
  rw [hother.decode_splitLines (.inr rfl), List.append_left_inj] at hsome
  exact ((List.map_inj_right fun _ _ ↦ Option.some.inj).mp hsome).symm

/-! ### Replies -/

/-- What is shown for instructions: every group is listed and refused. -/
def refused (text : String) : String :=
  String.join ((Line.groups text).map fun group ↦
    Operation.listing group.operations ++ "cannot execute instruction in this mode\n")

/-- The name behind an `m` and a blank. -/
def afterSwitch? (text : String) : Option String :=
  match text.toList with
  | 'm' :: ' ' :: name => some (Text.trim (String.ofList name))
  | _ => none

/-- What is shown for a line that does not quit, and the mode after it. -/
def reply (mode : Mode) (line : String) : String × Mode :=
  let text := Text.trim line
  if text = "" then ("", mode)
  else if text = "?" then (help ++ "\n", mode)
  else
    match afterSwitch? text with
    | some name =>
      match Mode.ofName? name with
      | some chosen => ("", chosen)
      | none => ("unknown mode " ++ Text.quoted name ++ "\n", mode)
    | none => (refused text, mode)

/-- In every mode, all of what is shown for instructions can be written. -/
theorem listGroups_eq (mode : Mode) (text : String) :
    listGroups mode text = .ok (refused text) := by
  have hwriter : ∀ shown text, Writer.text.put shown text = .ok (shown ++ text) := fun _ _ ↦ rfl
  have hnone : (switchboard mode).attached? (switchboard mode).mode = none := rfl
  have hsubmitted := Switchboard.submit_run_of_none (fun (attachment : Empty) _ ↦ attachment.elim)
    hwriter hnone "" text noDevice ()
  obtain ⟨outcome, hrun, houtcome⟩ := Option.map_eq_some_iff.mp hsubmitted
  have hvalue : outcome.value = _ := congrArg Prod.fst houtcome
  rw [listGroups, submission, hrun]
  dsimp only
  rw [hvalue, lineOperations, List.map_map]
  rfl

/-- Which command a line is. -/
theorem ofLine_eq (line : String) :
    Command.ofLine line =
      let text := Text.trim line
      if text = "" then .nothing
      else if text = "q" then .quit
      else if text = "?" then .help
      else (afterSwitch? text).elim (.instructions text) .switch := by
  rw [Command.ofLine]
  generalize Text.trim line = text
  have hword : ∀ word : String, text = word ↔ text.toList = word.toList :=
    fun _ ↦ String.toList_inj.symm
  have hshort : "".toList = [] ∧ "q".toList = ['q'] ∧ "?".toList = ['?'] := ⟨rfl, rfl, rfl⟩
  simp only [hword, hshort, afterSwitch?]
  split
  all_goals rename_i hcs
  · rw [if_pos hcs]
  · rw [if_neg (by simp [hcs]), if_pos hcs]
  · rw [if_neg (by simp [hcs]), if_neg (by simp [hcs]), if_pos hcs]
  · rw [if_neg (by simp [hcs]), if_neg (by simp [hcs]), if_neg (by simp [hcs]), hcs]
    rfl
  · rename_i hempty hquit hhelp
    rw [if_neg hempty, if_neg hquit, if_neg hhelp]
    split
    · exact absurd ‹_› (hcs _)
    · rfl

/-- The line that quits shows nothing. -/
theorem answer_of_quit (mode : Mode) {line : String} (hquit : Text.trim line = "q") :
    answer mode line = ("", .quit) := by
  rw [answer, Command.ofLine, hquit]
  rfl

/-- Every other line is answered with its reply, and the session goes on. -/
theorem answer_of_ne (mode : Mode) {line : String} (hquit : Text.trim line ≠ "q") :
    answer mode line = ((reply mode line).1, .goOn (reply mode line).2) := by
  rw [answer, ofLine_eq, reply]
  dsimp only
  by_cases hempty : Text.trim line = ""
  · rw [if_pos hempty, if_pos hempty]
  rw [if_neg hempty, if_neg hempty, if_neg hquit]
  by_cases hhelp : Text.trim line = "?"
  · rw [if_pos hhelp, if_pos hhelp]
  rw [if_neg hhelp, if_neg hhelp]
  cases afterSwitch? (Text.trim line) with
  | none => simp only [Option.elim_none, listGroups_eq]
  | some name =>
    simp only [Option.elim_some, Mode.parse]
    cases Mode.ofName? name <;> rfl

/-! ### Records -/

section Records

variable {α β : Type}

/-- All that a script does without hardware is to record what is no warning. -/
def Quiet (script : Script NoHardware α) : Prop :=
  script.Ensures NoHardware.anyReply fun _ events ↦
    ∀ event ∈ events, ∃ notice, event = .note notice ∧ notice.level ≠ .warn

theorem Quiet.done (value : α) : Quiet (.done value) :=
  fun _ hmem ↦ absurd hmem List.not_mem_nil

theorem Quiet.note {notice : Notice} (hnotice : notice.level ≠ .warn) {next : Script NoHardware α}
    (hnext : Quiet next) : Quiet (.note notice next) :=
  hnext.mono fun _ _ hevents ↦ List.forall_mem_cons.mpr ⟨⟨notice, rfl, hnotice⟩, hevents⟩

theorem Quiet.bind {script : Script NoHardware α} {next : α → Script NoHardware β}
    (hscript : Quiet script) (hnext : ∀ value, Quiet (next value)) : Quiet (script >>= next) :=
  Script.Ensures.bind hscript fun value _ hevents ↦ (hnext value).mono fun _ _ hlater ↦
    List.forall_mem_append.mpr ⟨hevents, hlater⟩

theorem quiet_recordAll {notices : List Notice}
    (hnotices : ∀ notice ∈ notices, notice.level ≠ .warn) : Quiet (Script.recordAll notices) := by
  induction notices with
  | nil => exact .done ()
  | cons notice rest ih =>
    obtain ⟨hnotice, hrest⟩ := List.forall_mem_cons.mp hnotices
    exact .note hnotice (ih hrest)

theorem level_ofLine {text : String} : ∀ notice ∈ Notice.ofLine text, notice.level ≠ .warn := by
  intro notice hmem
  obtain ⟨piece, -, hpiece⟩ := List.mem_filterMap.mp hmem
  cases piece <;> cases hpiece
  nofun

theorem level_ofGroup {group : Group} :
    ∀ notice ∈ Notice.ofGroup group, notice.level ≠ .warn := by
  intro notice hmem
  obtain ⟨token, -, rfl⟩ := List.mem_map.mp hmem
  nofun

variable (run : Empty → List Operation → Script NoHardware (String × Empty))

/-- Nothing can be attached to the console, so every sequence is refused, which is no warning. -/
theorem quiet_submitGroups {W : Type} (writer : Writer W) (panel : Switchboard Empty) (written : W)
    (groups : List Group) : Quiet (panel.submitGroups run writer written groups) := by
  induction groups generalizing panel written with
  | nil => exact .done _
  | cons group rest ih =>
    have hexecute : Quiet (panel.execute run group.operations) := by
      rw [Switchboard.execute]
      split
      · exact .done _
      · exact Empty.elim ‹Empty›
    have hgroup : Quiet (panel.submitGroup run writer written group) :=
      (quiet_recordAll level_ofGroup).bind fun _ ↦
        Quiet.bind (.note (by simp [Notice.level]) (.done ())) fun _ ↦ hexecute.bind fun _ ↦ .done _
    refine hgroup.bind fun outcome ↦ ?_
    rcases outcome with ⟨kept | taken, after⟩
    · exact .done _
    · exact ih after taken

/-- Nothing that is submitted to the console is worth a warning, and only warnings would be shown
among its output. -/
theorem quiet_submission (mode : Mode) (text : String) : Quiet (submission mode text) := by
  refine (quiet_recordAll level_ofLine).bind fun _ ↦
    (quiet_submitGroups _ _ _ _ _).bind fun outcome ↦ ?_
  rcases outcome with ⟨kept | taken, after⟩ <;> exact .done _

end Records

/-! ### Sessions -/

/-- A line quits if nothing but a `q` stands on it. -/
def Quits (line : String) : Prop := Text.trim line = "q"

instance (line : String) : Decidable (Quits line) :=
  inferInstanceAs (Decidable (Text.trim line = "q"))

/-- What is shown up to the end of a line, and the mode then. The prompt stands in front of the
reply. -/
def turn (past : String × Mode) (line : String) : String × Mode :=
  (past.1 ++ prompt past.2 ++ (reply past.2 line).1, (reply past.2 line).2)

/-- What is shown for lines from a mode on, and the mode after them. -/
def conversation (mode : Mode) (lines : List String) : String × Mode :=
  lines.foldl turn ("", mode)

/-- What is shown in all where no line follows: the prompt is shown once more. -/
def withPrompt (past : String × Mode) : String := past.1 ++ prompt past.2

/-- What was shown before stands in front. -/
theorem foldl_turn (shown : String) (mode : Mode) (lines : List String) :
    lines.foldl turn (shown, mode) =
      (shown ++ (conversation mode lines).1, (conversation mode lines).2) := by
  induction lines generalizing shown mode with
  | nil => simp [conversation]
  | cons line rest ih =>
    rw [conversation, List.foldl_cons, List.foldl_cons, turn, turn, ih, ih (_ ++ _)]
    simp [String.append_assoc]

theorem conversation_cons (mode : Mode) (line : String) (rest : List String) :
    conversation mode (line :: rest) =
      (prompt mode ++ (reply mode line).1 ++ (conversation (reply mode line).2 rest).1,
        (conversation (reply mode line).2 rest).2) := by
  rw [conversation, List.foldl_cons, turn, foldl_turn, String.empty_append]

theorem Transcript.after_after (transcript : Transcript) (first second : String) :
    (transcript.after second).after first = transcript.after (first ++ second) := by
  simp [after, String.append_assoc]

section Sessions

variable (mode : Mode) {line : String} (rest : List (Option String))

theorem sessionFrom_of_quits (hline : Quits line) :
    sessionFrom mode (some line :: rest) = ⟨prompt mode, none⟩ := by
  rw [sessionFrom, answer_of_quit mode hline]
  simp

theorem sessionFrom_of_not_quits (hline : ¬ Quits line) :
    sessionFrom mode (some line :: rest) =
      (sessionFrom (reply mode line).2 rest).after (prompt mode ++ (reply mode line).1) := by
  rw [sessionFrom, answer_of_ne mode hline]

/-- A session that has not quit goes on in the mode that its lines left, with whatever follows. -/
theorem sessionFrom_append {lines : List String} (hstay : ∀ line ∈ lines, ¬ Quits line) :
    sessionFrom mode (lines.map some ++ rest) =
      (sessionFrom (conversation mode lines).2 rest).after (conversation mode lines).1 := by
  induction lines generalizing mode with
  | nil => simp [conversation, Transcript.after]
  | cons line lines ih =>
    obtain ⟨hline, hlines⟩ := List.forall_mem_cons.mp hstay
    rw [List.map_cons, List.cons_append, sessionFrom_of_not_quits mode _ hline, ih _ hlines,
      Transcript.after_after, conversation_cons]

/-- A session comes to a good end with the first line that quits, or where there are no more lines.
Its output ends in a prompt. -/
theorem sessionFrom_of_ends {lines : List String}
    (hends : (∃ line ∈ lines, Quits line) ∨ rest = []) :
    sessionFrom mode (lines.map some ++ rest) =
      ⟨withPrompt (conversation mode (lines.takeWhile (¬ Quits ·))), none⟩ := by
  induction lines generalizing mode with
  | nil =>
    obtain rfl := hends.resolve_left (by simp)
    simp [sessionFrom, conversation, withPrompt]
  | cons line lines ih =>
    rw [List.map_cons, List.cons_append]
    by_cases hline : Quits line
    · rw [sessionFrom_of_quits mode _ hline, List.takeWhile_cons_of_neg (by simpa using hline)]
      simp [conversation, withPrompt]
    · have hlater : (∃ line ∈ lines, Quits line) ∨ rest = [] := by
        simpa [hline] using hends
      rw [sessionFrom_of_not_quits mode _ hline, ih _ hlater,
        List.takeWhile_cons_of_pos (by simpa using hline), conversation_cons]
      simp [Transcript.after, withPrompt, String.append_assoc]

end Sessions

/-- Let an input be a text. The session on it has exit code zero and reports nothing. Its output is
the conversation over the lines before the first that quits, and a prompt at the end. If the text is
at the end of a line, let any bytes follow it. They make no difference if one of the lines quits.
Otherwise what is shown for the text, without the last prompt, stands in front of the session on
these bytes in the mode that the text leaves. -/
theorem session_folds (input : String) :
    ∃ lines, (∀ other, Lines input other ↔ other = lines) ∧
      (sessionOfBytes (utf8 input)).exitCode = 0 ∧
      (sessionOfBytes (utf8 input)).errorOutput = "" ∧
      (sessionOfBytes (utf8 input)).output =
        withPrompt (conversation .highImpedance (lines.takeWhile (¬ Quits ·))) ∧
      (AtLineEnd input → ∀ rest : List UInt8,
        ((∃ line ∈ lines, Quits line) →
          sessionOfBytes (utf8 input ++ rest) = sessionOfBytes (utf8 input)) ∧
        ((∀ line ∈ lines, ¬ Quits line) →
          (sessionOfBytes (utf8 input)).output =
            withPrompt (conversation .highImpedance lines) ∧
          sessionOfBytes (utf8 input ++ rest) =
            (sessionFrom (conversation .highImpedance lines).2
              ((splitLines rest).map decode)).after (conversation .highImpedance lines).1)) := by
  obtain ⟨lines, hlines⟩ := exists_lines input
  have hdivided : ∀ rest, AtLineEnd input ∨ rest = [] →
      sessionOfBytes (utf8 input ++ rest) =
        sessionFrom .highImpedance (lines.map some ++ (splitLines rest).map decode) :=
    fun _ hend ↦ congrArg session (hlines.decode_splitLines hend)
  have hsession : sessionOfBytes (utf8 input) =
      ⟨withPrompt (conversation .highImpedance (lines.takeWhile (¬ Quits ·))), none⟩ := by
    have halone := hdivided [] (.inr rfl)
    rw [List.append_nil] at halone
    rw [halone]
    exact sessionFrom_of_ends .highImpedance [] (.inr rfl)
  refine ⟨lines, fun other ↦ ⟨fun hother ↦ hother.eq hlines, fun h ↦ h ▸ hlines⟩, ?_, ?_, ?_,
    fun hend rest ↦ ⟨fun hquits ↦ ?_, fun hstay ↦ ⟨?_, ?_⟩⟩⟩
  · rw [hsession]
    rfl
  · rw [hsession]
    rfl
  · rw [hsession]
  · rw [hsession, hdivided rest (.inl hend)]
    exact sessionFrom_of_ends .highImpedance _ (.inl hquits)
  · rw [← List.append_nil (utf8 input), hdivided [] (.inr rfl)]
    exact congrArg Transcript.output (sessionFrom_append .highImpedance _ hstay)
  · rw [hdivided rest (.inl hend)]
    exact sessionFrom_append .highImpedance _ hstay

/-- A session in which a mode is chosen, a group is listed and refused, and a line quits before
bytes that are no text at all. -/
theorem session_quits_before_no_text :
    sessionOfBytes (utf8 "m spi\n[0x41]\n" ++ [113, 10, 255]) =
      ⟨"HiZ> SPI> Start | data=0 | bits=8 | repeat=1\nWrite | data=65 | bits=8 | repeat=1\n" ++
        "Stop | data=0 | bits=8 | repeat=1\ncannot execute instruction in this mode\nSPI> ",
        none⟩ := by
  obtain ⟨lines, hlines, -, -, -, hfollowed⟩ := session_folds "m spi\n[0x41]\n"
  have hends : AtLineEnd "m spi\n[0x41]\n" := by
    intro c hc
    exact (Option.some.inj hc).symm
  obtain rfl : ["m spi\n", "[0x41]\n"] = lines :=
    (hlines _).mp (.ended "m spi" _ _ (by decide) (.ended "[0x41]" _ _ (by decide) .none))
  obtain ⟨-, hsession⟩ := (hfollowed hends [113, 10, 255]).2 (by decide +kernel)
  rw [hsession]
  decide +kernel

end BusProbe.Console
