import Mathlib.Data.List.Basic
import PropertyFilter.Proofs.Token.Cutting
import PropertyFilter.Session.Transcript

/-!
  # Sessions by their history

  A session changes step by step, but what it answers to a line can be read off the lines
  before it:

      key in force      the argument of the last `:key` command, or that of the settings
      date line         read in the format of the settings, or in the default one
      filter line       converted for the key in force
      `:quit`           nothing from here on

  Lines are compared without the white space at their ends, and so are arguments of commands.

  Main statement: the answers of a session are those that its history asks for, a line that
  sets no key can be left out without changing any other answer, and what is printed is the
  answers, each behind its prompt (`exchanges_history`).
-/

namespace PropertyFilter

/-! ## Section 1: Lines -/

/-- The argument of a command in a line: what is behind its name and a space. -/
def argument? (command line : String) : Option String :=
  ((Text.trim line.toList).dropPrefix? (command ++ " ").toList).map fun rest =>
    String.ofList (Text.trim rest)

/-- A line that ends the session. -/
def isQuit (line : String) : Bool := trimmed line = ":quit"

/-- The lines that a session answers. -/
def answeredLines (lines : List String) : List String := lines.takeWhile fun line => !isQuit line

/-- The key in force behind some lines: that of the last command that sets one, or the one
of the settings. -/
def keyInForce (configured : String) (lines : List String) : String :=
  (lines.filterMap (argument? ":key")).getLast?.getD configured

/-- The answer that a line asks for where a key is in force. Dates are read in the format of
the settings, or in the default one if they have none. -/
def answerTo (settings : Settings) (key line : String) : Reply :=
  if trimmed line = "" then .nothing
  else if (argument? ":key" line).isSome then .nothing
  else match argument? ":date" line with
    | some text =>
      .date (Calendar.DateReader.read ⟨settings.dateFormat.getD Calendar.defaultFormat⟩ text)
    | none =>
      if trimmed line ∈ [":key", ":date", ":help"] then .help
      else .condition (convertReporting (.name key) (trimmed line))

/-- Where a session stands that the settings started, with a key in force. -/
def sessionWith (settings : Settings) (key : String) : Session :=
  ⟨key, ⟨settings.dateFormat.getD Calendar.defaultFormat⟩, settings.context⟩

section lines
variable {line command : String}

theorem argument?_eq_some_iff {argument : String} :
    argument? command line = some argument ↔
      ∃ rest, Text.trim line.toList = command.toList ++ ' ' :: rest ∧
        argument = String.ofList (Text.trim rest) := by
  unfold argument?
  rw [Option.map_eq_some_iff]
  simp only [List.dropPrefix?_eq_some_iff, String.toList_append, beq_iff_eq]
  constructor
  · rintro ⟨rest, ⟨_, hline, rfl⟩, rfl⟩
    exact ⟨rest, by simpa using hline, rfl⟩
  · rintro ⟨rest, hline, rfl⟩
    exact ⟨rest, ⟨_, by simpa using hline, rfl⟩, rfl⟩

/-- **The argument of a command is a name.** It is not empty and has no white space at its
ends, since the line has none. -/
theorem argument?_trimmed {argument : String} (h : argument? command line = some argument) :
    argument ≠ "" ∧ Trimmed argument.toList := by
  obtain ⟨rest, hline, rfl⟩ := argument?_eq_some_iff.mp h
  have htrimmed := trimmed_trim line.toList
  rw [hline] at htrimmed
  -- what is behind the command is no white space, since the line ends there
  have hrest : Text.isBlankText rest = false := by
    have hend := htrimmed.end_not_blank (by simp)
    simpa [Text.isBlankText, show Text.isBlank ' ' = true from rfl] using hend
  refine ⟨?_, by simpa using trimmed_trim rest⟩
  intro hempty
  rw [String.ofList_eq_empty_iff, trim_eq_nil_iff, hrest] at hempty
  cases hempty

/-! ## Section 2: Commands -/

theorem splitAtSpace?_append {front : List Char} (behind : List Char) (h : ' ' ∉ front) :
    Command.splitAtSpace? (front ++ ' ' :: behind) = some (front, behind) := by
  unfold Command.splitAtSpace?
  rw [Matcher.span_run (Matcher.ne_of_notMem h) (by simp)]

theorem splitAtSpace?_eq_none {cs : List Char} (h : ' ' ∉ cs) :
    Command.splitAtSpace? cs = none := by
  unfold Command.splitAtSpace?
  rw [Matcher.span_all (Matcher.ne_of_notMem h)]

/-- A line without a space has no argument. -/
theorem argument?_eq_none (h : ' ' ∉ Text.trim line.toList) : argument? command line = none := by
  rw [Option.eq_none_iff_forall_ne_some]
  intro argument harg
  obtain ⟨rest, hline, -⟩ := argument?_eq_some_iff.mp harg
  exact h (by simp [hline])

/-- A line has an argument of the command in front of its first space only. -/
theorem argument?_of_split {front behind : List Char} (hcommand : ' ' ∉ command.toList)
    (hline : Text.trim line.toList = front ++ ' ' :: behind) (hfront : ' ' ∉ front) :
    argument? command line =
      if front = command.toList then some (String.ofList (Text.trim behind)) else none := by
  split
  · next heq => exact argument?_eq_some_iff.mpr ⟨behind, by rw [hline, heq], rfl⟩
  · next hne =>
    rw [Option.eq_none_iff_forall_ne_some]
    intro argument harg
    obtain ⟨rest, hrest, -⟩ := argument?_eq_some_iff.mp harg
    -- both cut the line at its first space
    have hsplit := splitAtSpace?_append behind hfront
    rw [← hline, hrest, splitAtSpace?_append rest hcommand] at hsplit
    exact hne (Prod.mk.inj (Option.some.inj hsplit)).1.symm

/-- A line of one word has no argument. -/
theorem argument?_of_word {word : String} (hline : trimmed line = word) (h : ' ' ∉ word.toList) :
    argument? command line = none := by
  subst hline
  exact argument?_eq_none (by simpa [trimmed] using h)

/-- **What a line asks for** can be read off it without cutting it at a space. -/
theorem ofLine?_eq (line : String) :
    Command.ofLine? line =
      if trimmed line = "" then none
      else if isQuit line then some .quit
      else match argument? ":key" line, argument? ":date" line with
        | some name, _ => some (.key name)
        | none, some text => some (.date text)
        | none, none =>
          if trimmed line ∈ [":key", ":date", ":help"] then some .help
          else some (.filter (trimmed line)) := by
  have hinput : (trimmed line).toList = Text.trim line.toList := by simp [trimmed]
  have hempty : Text.trim line.toList = [] ↔ trimmed line = "" := by
    rw [← hinput, String.toList_eq_nil_iff]
  unfold Command.ofLine? Command.ofText
  simp only [List.isEmpty_iff, hempty]
  rw [← trimmed, hinput]
  by_cases hspace : ' ' ∈ Text.trim line.toList
  · obtain ⟨front, behind, hcut, hfront⟩ := List.eq_append_cons_of_mem hspace
    -- the words without an argument have no space
    have hword (word : String) (hw : ' ' ∉ word.toList) : trimmed line ≠ word := by
      rintro rfl
      exact hw (hinput ▸ hspace)
    rw [argument?_of_split (by decide) hcut hfront, argument?_of_split (by decide) hcut hfront]
    simp only [hcut, splitAtSpace?_append behind hfront, isQuit, List.mem_cons, List.not_mem_nil,
      hword ":key" (by decide), hword ":date" (by decide), hword ":help" (by decide),
      hword ":quit" (by decide)]
    split_ifs <;> simp_all
  · rw [argument?_eq_none hspace, argument?_eq_none hspace, splitAtSpace?_eq_none hspace]
    simp only [isQuit, decide_eq_true_eq, Bool.or_eq_true, List.mem_cons, List.not_mem_nil,
      or_false, or_assoc]
    split_ifs <;> simp_all

end lines

/-! ## Section 3: One line -/

theorem start_eq (settings : Settings) :
    Session.start settings = sessionWith settings settings.key := by
  unfold Session.start sessionWith
  rw [settings.dateReader_eq]

/-- A line with an argument of `:date` asks for this date, whatever the key. -/
theorem answerTo_of_date {line text : String} (h : argument? ":date" line = some text)
    (settings : Settings) (key : String) :
    answerTo settings key line =
      .date (Calendar.DateReader.read ⟨settings.dateFormat.getD Calendar.defaultFormat⟩ text) := by
  obtain ⟨rest, hline, -⟩ := argument?_eq_some_iff.mp h
  have hfilled : trimmed line ≠ "" := by
    intro hempty
    rw [trimmed, String.ofList_eq_empty_iff, hline] at hempty
    simp at hempty
  have hkey : argument? ":key" line = none := by
    rw [argument?_of_split (by decide) hline (by decide), if_neg (by decide)]
  unfold answerTo
  rw [if_neg hfilled, hkey, h]
  rfl

/-- **One line.** It ends the session, or it is answered for the key in force and may set
another; format and context stay. -/
theorem step?_eq (settings : Settings) (key line : String) :
    (sessionWith settings key).step? line =
      if isQuit line then none
      else some (sessionWith settings ((argument? ":key" line).getD key),
        answerTo settings key line) := by
  unfold Session.step? answerTo
  rw [ofLine?_eq]
  by_cases hblank : trimmed line = ""
  · have hkey : argument? ":key" line = none := argument?_of_word hblank (by decide)
    simp [hblank, hkey, isQuit]
  by_cases hquit : isQuit line = true
  · simp [hblank, hquit, Session.run?]
  cases hkey : argument? ":key" line with
  | some name => simp [hblank, hquit, Session.run?, sessionWith]
  | none =>
    cases hdate : argument? ":date" line with
    | some text => simp [hblank, hquit, Session.run?, sessionWith]
    | none =>
      by_cases hhelp : trimmed line ∈ [":key", ":date", ":help"]
      · simp only [hblank, hquit, hhelp]
        rfl
      · simp only [hblank, hquit, hhelp]
        rfl

/-! ## Section 4: Whole sessions -/

theorem keyInForce_cons (key line : String) (rest : List String) :
    keyInForce key (line :: rest) = keyInForce ((argument? ":key" line).getD key) rest := by
  unfold keyInForce
  rw [List.filterMap_cons]
  cases argument? ":key" line with
  | none => rfl
  | some name => simp [List.getLast?_cons]

section runs
variable (settings : Settings) (key : String)

/-- A session over one line more. -/
theorem exchanges_cons (line : String) (rest : List String) :
    (sessionWith settings key).exchanges (line :: rest) =
      if isQuit line then []
      else (sessionWith settings key, answerTo settings key line) ::
        (sessionWith settings ((argument? ":key" line).getD key)).exchanges rest := by
  rw [Session.exchanges, step?_eq]
  split_ifs <;> rfl

theorem answeredLines_cons (line : String) (rest : List String) :
    answeredLines (line :: rest) = if isQuit line then [] else line :: answeredLines rest := by
  unfold answeredLines
  rw [List.takeWhile_cons]
  cases isQuit line <;> rfl

/-- Every answer is the one for the key in force behind the lines before it. -/
theorem getElem?_exchanges (lines : List String) (i : Nat) :
    ((sessionWith settings key).exchanges lines)[i]? =
      (answeredLines lines)[i]?.map fun line =>
        (sessionWith settings (keyInForce key (lines.take i)),
          answerTo settings (keyInForce key (lines.take i)) line) := by
  induction lines generalizing key i with
  | nil => rfl
  | cons line rest ih =>
    rw [exchanges_cons, answeredLines_cons]
    split
    · rfl
    · cases i with
      | zero => rfl
      | succ i =>
        rw [List.getElem?_cons_succ, List.getElem?_cons_succ, List.take_succ_cons,
          keyInForce_cons]
        exact ih _ i

/-- Without a line that sets no key, every other answer stays. -/
theorem eraseIdx_exchanges (before after : List String) {line : String}
    (hkey : argument? ":key" line = none) (hquit : isQuit line = false) :
    ((sessionWith settings key).exchanges (before ++ line :: after)).eraseIdx before.length =
      (sessionWith settings key).exchanges (before ++ after) := by
  induction before generalizing key with
  | nil =>
    rw [List.nil_append, exchanges_cons, hkey, hquit]
    rfl
  | cons first before ih =>
    rw [List.cons_append, List.cons_append, exchanges_cons, exchanges_cons]
    split
    · rfl
    · rw [List.length_cons, List.eraseIdx_cons_succ, ih]

/-- Nothing behind the line that ends a session is answered. -/
theorem exchanges_of_isQuit (before after : List String) {line : String}
    (hquit : isQuit line = true) :
    (sessionWith settings key).exchanges (before ++ line :: after) =
      (sessionWith settings key).exchanges before := by
  induction before generalizing key with
  | nil =>
    rw [List.nil_append, exchanges_cons, hquit]
    rfl
  | cons first before ih =>
    rw [List.cons_append, exchanges_cons, exchanges_cons, ih]

/-- An answer as it is printed, behind the prompt of its session. -/
def exchangeText (logging : Transcript.Logging) (exchange : Session × Reply) : String :=
  Transcript.promptText logging exchange.1 ++ Transcript.replyLog logging exchange.2 ++
    Transcript.replyText exchange.2

/-- What is printed over one line more. -/
theorem body_cons (logging : Transcript.Logging) (line : String) (rest : List (Option String)) :
    Transcript.body logging (sessionWith settings key) (some line :: rest) =
      if isQuit line then (Transcript.promptText logging (sessionWith settings key), .success)
      else
        (exchangeText logging (sessionWith settings key, answerTo settings key line) ++
            (Transcript.body logging
              (sessionWith settings ((argument? ":key" line).getD key)) rest).1,
          (Transcript.body logging
            (sessionWith settings ((argument? ":key" line).getD key)) rest).2) := by
  rw [Transcript.body.eq_def]
  simp only [step?_eq]
  split_ifs <;> rfl

/-- Nothing behind the line that ends a session is printed, and it ends well. -/
theorem body_of_isQuit (logging : Transcript.Logging) (before after : List (Option String))
    {line : String} (hquit : isQuit line = true) :
    Transcript.body logging (sessionWith settings key) (before ++ some line :: after) =
      Transcript.body logging (sessionWith settings key) before := by
  induction before generalizing key with
  | nil =>
    rw [List.nil_append, body_cons, if_pos hquit]
    rfl
  | cons first before ih =>
    cases first with
    | none => rfl
    | some first => rw [List.cons_append, body_cons, body_cons, ih]

/-- What is printed: the answers behind their prompts, and the prompt of the line that ends
the session. -/
theorem body_eq (logging : Transcript.Logging) (lines : List String) :
    Transcript.body logging (sessionWith settings key) (lines.map some) =
      (String.join (((sessionWith settings key).exchanges lines).map (exchangeText logging)) ++
          Transcript.promptText logging
            (sessionWith settings (keyInForce key (answeredLines lines))),
        .success) := by
  induction lines generalizing key with
  | nil => simp [Transcript.body, Session.exchanges, answeredLines, keyInForce]
  | cons line rest ih =>
    rw [List.map_cons, body_cons, exchanges_cons, answeredLines_cons]
    split_ifs
    · simp [keyInForce]
    · rw [ih, keyInForce_cons, List.map_cons, String.join_cons, String.append_assoc]

end runs

/-- **A session by its history.** The session in front of a line and its answer are those of
the last key set before it, with format and context of the settings, and a date is read in this
format or, if there is none, in the default one; such a key is a name without white space at its
ends; a line that sets no key and does not end the session can be left out without changing what
becomes of any other; nothing behind the first `:quit` is answered or printed. -/
theorem exchanges_history (settings : Settings) :
    (∀ (lines : List String) (i : Nat),
      ((Session.start settings).exchanges lines)[i]? =
        (answeredLines lines)[i]?.map fun line =>
          (sessionWith settings (keyInForce settings.key (lines.take i)),
            answerTo settings (keyInForce settings.key (lines.take i)) line)) ∧
    (∀ (lines : List String) (i : Nat) (line text : String),
      (answeredLines lines)[i]? = some line → argument? ":date" line = some text →
      ((Session.start settings).exchanges lines)[i]?.map Prod.snd =
        some (.date
          (Calendar.DateReader.read ⟨settings.dateFormat.getD Calendar.defaultFormat⟩ text))) ∧
    (∀ line key : String, argument? ":key" line = some key → key ≠ "" ∧ Trimmed key.toList) ∧
    (∀ (before after : List String) (line : String),
      argument? ":key" line = none → isQuit line = false →
      ((Session.start settings).exchanges (before ++ line :: after)).eraseIdx before.length =
        (Session.start settings).exchanges (before ++ after)) ∧
    (∀ (before after : List String) (line : String), isQuit line = true →
      (Session.start settings).exchanges (before ++ line :: after) =
        (Session.start settings).exchanges before) ∧
    (∀ (logging : Transcript.Logging) (before after : List (Option String)) (line : String),
      isQuit line = true →
      Transcript.body logging (Session.start settings) (before ++ some line :: after) =
        Transcript.body logging (Session.start settings) before) ∧
    ∀ (logging : Transcript.Logging) (lines : List String),
      Transcript.body logging (Session.start settings) (lines.map some) =
        (String.join (((Session.start settings).exchanges lines).map (exchangeText logging)) ++
            Transcript.promptText logging
              (sessionWith settings (keyInForce settings.key (answeredLines lines))),
          .success) := by
  rw [start_eq]
  refine ⟨getElem?_exchanges settings settings.key, ?_, fun _ _ harg => argument?_trimmed harg,
    ?_, ?_, ?_, body_eq settings settings.key⟩
  · intro lines i line text hline hdate
    rw [getElem?_exchanges, hline, Option.map_some, Option.map_some, answerTo_of_date hdate]
  · intro before after line hkey hquit
    exact eraseIdx_exchanges settings settings.key before after hkey hquit
  · intro before after line hquit
    exact exchanges_of_isQuit settings settings.key before after hquit
  · intro logging before after line hquit
    exact body_of_isQuit settings settings.key logging before after hquit

/-- A session with a date format of its own that sets a key: the key has no white space at its
ends, the date is read in this format, the filter is about the new key, the blank line can be
left out, and the line behind the end is not answered. -/
theorem exchanges_history_key_line :
    let settings : Settings :=
      { dateFormat := some "%d.%m.%Y %H:%M %z", context := [("unit", .null)] }
    let price : Session := ⟨"price", ⟨"%d.%m.%Y %H:%M %z"⟩, [("unit", .null)]⟩
    let lines := ["\t:key  price ", " ", " :date  31.12.2016 23:59 -0130", ">=10 "]
    argument? ":key" "\t:key  price " = some "price" ∧ "price" ≠ "" ∧
      ((Session.start settings).exchanges lines)[2]?.map Prod.snd =
        some (.date (.ok ⟨⟨2016, 12, 31, by decide⟩,
          ⟨23, 59, 0, 0, by decide, by decide, by decide, by decide⟩, ⟨-90, by decide⟩⟩)) ∧
      ((Session.start settings).exchanges lines)[3]? =
        some (price, .condition ⟨.ok ⟨"price >= ?", [.int 10]⟩, [.words "price" ">=10" 2]⟩) ∧
      ((Session.start settings).exchanges lines).eraseIdx 1 =
        (Session.start settings).exchanges
          ["\t:key  price ", " :date  31.12.2016 23:59 -0130", ">=10 "] ∧
      (Session.start settings).exchanges [">=10", " :quit", "<3"] =
        (Session.start settings).exchanges [">=10"] := by
  intro settings price lines
  obtain ⟨hanswers, hdates, hkeys, hleftOut, hquit, -⟩ := exchanges_history settings
  have hread : Calendar.DateReader.read ⟨"%d.%m.%Y %H:%M %z"⟩ "31.12.2016 23:59 -0130" =
      .ok ⟨⟨2016, 12, 31, by decide⟩,
        ⟨23, 59, 0, 0, by decide, by decide, by decide, by decide⟩, ⟨-90, by decide⟩⟩ := by
    decide +kernel
  have houtcome : convertReporting (.name "price") ">=10" =
      ⟨.ok ⟨"price >= ?", [.int 10]⟩, [.words "price" ">=10" 2]⟩ := by
    have hresult : (convertReporting (.name "price") ">=10").result =
        .ok ⟨"price >= ?", [.int 10]⟩ := by
      decide +kernel
    have hevents : (convertReporting (.name "price") ">=10").events =
        [.words "price" ">=10" 2] := by
      decide +kernel
    rw [← hresult, ← hevents]
  refine ⟨by decide, (hkeys "\t:key  price " "price" (by decide)).1, ?_, ?_,
    hleftOut ["\t:key  price "] [" :date  31.12.2016 23:59 -0130", ">=10 "] " "
      (by decide) (by decide),
    hquit [">=10"] ["<3"] " :quit" (by decide)⟩
  · rw [hdates lines 2 " :date  31.12.2016 23:59 -0130" "31.12.2016 23:59 -0130"
      (by decide) (by decide), ← hread]
    rfl
  · have hline : (answeredLines lines)[3]? = some ">=10 " := by decide
    have hkey : keyInForce settings.key (lines.take 3) = "price" := by decide
    have hanswer : answerTo settings "price" ">=10 " =
        .condition (convertReporting (.name "price") ">=10") := by
      rfl
    rw [hanswers lines 3, hline, Option.map_some, hkey, hanswer, houtcome]
    rfl

end PropertyFilter
