import MessagingConsole.Proofs.Text.Blanks
import MessagingConsole.Publisher.Command

/-!
# The language of commands

A line is a command without the blanks around it: one of two verbs, with anything behind it, or
the verb `send`, alone or with blanks and a path behind it.  All other lines are no commands and
are kept as they are, without the blanks around them.

## Main Definitions

- `Command.Sends` - a text asks for the broadcast of a path.

## Main Results

- `Command.ofLine_sending` - a path is read from `send`, whatever blanks are around the two.
- `Command.ofLine_grammar` - what each line is read as.
-/

namespace MessagingConsole.Publisher.Command

open Text (Blanks Bare Trims Leads)

/-- A text asks for the broadcast of a path: it is `send`, blanks, and the path, which has none at
its ends. -/
def Sends (text : List Char) (path : String) : Prop :=
  path ≠ "" ∧ Bare path.toList ∧
    ∃ between, between ≠ [] ∧ Blanks between ∧ text = "send".toList ++ (between ++ path.toList)

variable {line : String} {text : List Char} {path : String}

theorem ofList_eq_iff {word : List Char} : String.ofList word = path ↔ word = path.toList := by
  rw [← String.toList_inj, String.toList_ofList]

theorem verbs_distinct : "quit".toList ≠ "help".toList ∧ "send".toList ≠ "help".toList ∧
    "send".toList ≠ "quit".toList := by
  decide

/-- What a line is read as, by its first word. -/
theorem ofLine_eq (trimmed : Trims line.toList text) :
    ofLine line =
      if Text.firstWord text = "help".toList then .help
      else if Text.firstWord text = "quit".toList then .quit
      else if Text.firstWord text = "send".toList then
        if Text.trim (Text.afterFirstWord text) = [] then .missingFile
        else .send (String.ofList (Text.trim (Text.afterFirstWord text)))
      else .unknown (String.ofList text) := by
  obtain rfl := Text.trims_iff.mp trimmed
  unfold ofLine
  simp only [List.isEmpty_iff]
  split
  case h_1 verb => rw [if_pos (ofList_eq_iff.mp verb)]
  case h_2 verb => rw [ofList_eq_iff.mp verb, if_neg verbs_distinct.1, if_pos rfl]
  case h_3 verb =>
    rw [ofList_eq_iff.mp verb, if_neg verbs_distinct.2.1, if_neg verbs_distinct.2.2, if_pos rfl]
  case h_4 help quit send =>
    rw [if_neg (mt ofList_eq_iff.mpr help), if_neg (mt ofList_eq_iff.mpr quit),
      if_neg (mt ofList_eq_iff.mpr send)]

/-- A text asks for a broadcast if its first word is `send` and there is a path behind it. -/
theorem sends_iff (bare : Bare text) : Sends text path ↔
    Text.firstWord text = "send".toList ∧ Text.trim (Text.afterFirstWord text) ≠ [] ∧
      path = String.ofList (Text.trim (Text.afterFirstWord text)) := by
  have verb : Text.firstWord "send".toList = "send".toList := by decide
  have solid := (Text.leads_firstWord "send".toList).solid
  rw [verb] at solid
  constructor
  · rintro ⟨filled, bare_path, between⟩
    have filled : path.toList ≠ [] := mt String.toList_eq_nil_iff.mp filled
    obtain ⟨verb, behind⟩ :=
      (Text.firstWord_and_trim_iff bare filled).mpr ⟨solid, bare_path, between⟩
    rw [behind, String.ofList_toList]
    exact ⟨verb, filled, rfl⟩
  · rintro ⟨verb, filled, rfl⟩
    obtain ⟨-, bare_path, between⟩ := (Text.firstWord_and_trim_iff bare filled).mp ⟨verb, rfl⟩
    rw [Sends, String.toList_ofList]
    exact ⟨mt String.ofList_eq_empty_iff.mp filled, bare_path, between⟩

/-- A bare text is `send` if that is its first word and there is no path behind it. -/
theorem eq_send_iff (bare : Bare text) : text = "send".toList ↔
    Text.firstWord text = "send".toList ∧ Text.trim (Text.afterFirstWord text) = [] := by
  rw [Text.trim_afterFirstWord_eq_nil_iff bare]
  constructor
  · rintro rfl
    exact ⟨by decide, by decide⟩
  · rintro ⟨verb, alone⟩
    exact alone.trans verb

/-- What asks for a broadcast has no blank at its ends. -/
theorem Sends.bare (sends : Sends text path) : Bare text := by
  obtain ⟨filled, bare, between, -, -, rfl⟩ := sends
  refine ⟨?_, fun c last => bare.back c ?_⟩
  · rintro c ⟨⟩
    decide
  · have some_path : path.toList.getLast?.isSome := by
      rw [List.getLast?_isSome]
      exact mt String.toList_eq_nil_iff.mp filled
    rwa [List.getLast?_append, List.getLast?_append, Option.or_assoc,
      Option.or_of_isSome some_path] at last

/-! ## What a line is read as -/

section Reading

variable {rest : String}

theorem ofLine_eq_help_iff (trimmed : Trims line.toList text) :
    ofLine line = .help ↔ Text.firstWord text = "help".toList := by
  constructor
  · intro read
    rw [ofLine_eq trimmed] at read
    split_ifs at read with help
    exact help
  · intro help
    rw [ofLine_eq trimmed, if_pos help]

theorem ofLine_eq_quit_iff (trimmed : Trims line.toList text) :
    ofLine line = .quit ↔ Text.firstWord text = "quit".toList := by
  constructor
  · intro read
    rw [ofLine_eq trimmed] at read
    split_ifs at read with help quit
    exact quit
  · intro quit
    rw [ofLine_eq trimmed, quit, if_neg verbs_distinct.1, if_pos rfl]

/-- Behind the verb `send` the path decides. -/
theorem ofLine_of_send (trimmed : Trims line.toList text)
    (verb : Text.firstWord text = "send".toList) :
    ofLine line =
      if Text.trim (Text.afterFirstWord text) = [] then .missingFile
      else .send (String.ofList (Text.trim (Text.afterFirstWord text))) := by
  rw [ofLine_eq trimmed, verb, if_neg verbs_distinct.2.1, if_neg verbs_distinct.2.2, if_pos rfl]

theorem ofLine_eq_missingFile_iff (trimmed : Trims line.toList text) :
    ofLine line = .missingFile ↔ text = "send".toList := by
  rw [eq_send_iff trimmed.bare]
  constructor
  · intro read
    rw [ofLine_eq trimmed] at read
    split_ifs at read with help quit send none
    exact ⟨send, none⟩
  · rintro ⟨verb, none⟩
    rw [ofLine_of_send trimmed verb, if_pos none]

theorem ofLine_eq_send_iff (trimmed : Trims line.toList text) :
    ofLine line = .send path ↔ Sends text path := by
  rw [sends_iff trimmed.bare]
  constructor
  · intro read
    rw [ofLine_eq trimmed] at read
    split_ifs at read with help quit send none
    exact ⟨send, none, (Command.send.inj read).symm⟩
  · rintro ⟨verb, filled, rfl⟩
    rw [ofLine_of_send trimmed verb, if_neg filled]

theorem ofLine_eq_unknown_iff (trimmed : Trims line.toList text) :
    ofLine line = .unknown rest ↔ rest = String.ofList text ∧
      Text.firstWord text ≠ "help".toList ∧ Text.firstWord text ≠ "quit".toList ∧
        text ≠ "send".toList ∧ ∀ path, ¬ Sends text path := by
  rw [ne_eq text, eq_send_iff trimmed.bare]
  simp only [sends_iff trimmed.bare]
  constructor
  · intro read
    rw [ofLine_eq trimmed] at read
    split_ifs at read with help quit send
    exact ⟨(Command.unknown.inj read).symm, help, quit, fun alone => send alone.1,
      fun path sends => send sends.1⟩
  · rintro ⟨rfl, help, quit, not_alone, no_path⟩
    have send : Text.firstWord text ≠ "send".toList := by
      intro verb
      by_cases none : Text.trim (Text.afterFirstWord text) = []
      · exact not_alone ⟨verb, none⟩
      · exact no_path _ ⟨verb, none, rfl⟩
    rw [ofLine_eq trimmed, if_neg help, if_neg quit, if_neg send]

/-- A line is read as it is without the blanks around it. -/
theorem ofLine_trimmed (trimmed : Trims line.toList text) :
    ofLine line = ofLine (String.ofList text) := by
  have again : Trims (String.ofList text).toList text := by
    rw [String.toList_ofList]
    exact Text.trims_of_bare trimmed.bare
  rw [ofLine_eq trimmed, ofLine_eq again]

/-- A path is read from `send`, whatever blanks are around the two. -/
theorem ofLine_sending {before between after : String} (filled : path ≠ "")
    (bare : Bare path.toList) (some_blank : between ≠ "") (blanks : Blanks before.toList)
    (blanks' : Blanks between.toList) (blanks'' : Blanks after.toList) :
    ofLine (before ++ "send" ++ between ++ path ++ after) = .send path := by
  have sends : Sends ("send".toList ++ (between.toList ++ path.toList)) path :=
    ⟨filled, bare, between.toList, mt String.toList_eq_nil_iff.mp some_blank, blanks', rfl⟩
  refine (ofLine_eq_send_iff ⟨sends.bare, before.toList, after.toList, blanks, blanks'', ?_⟩).mpr
    sends
  simp only [String.toList_append, List.append_assoc]

end Reading

/-- **The grammar of commands.**  Each line is one text between blanks, and this begins with one
word.  It is `help` or `quit` if that is the word, it asks for a path if it is `send`, blanks and
the path, and it lacks the path if it is `send` alone; all others are unknown. -/
theorem ofLine_grammar :
    (∀ line : String, ∃ text verb : List Char,
      (∀ other, Trims line.toList other ↔ other = text) ∧
      (∀ other, Leads text other ↔ other = verb) ∧
      (ofLine line = .help ↔ verb = "help".toList) ∧
      (ofLine line = .quit ↔ verb = "quit".toList) ∧
      (ofLine line = .missingFile ↔ text = "send".toList) ∧
      (∀ path, ofLine line = .send path ↔ Sends text path) ∧
      (∀ rest, ofLine line = .unknown rest ↔
        rest = String.ofList text ∧ verb ≠ "help".toList ∧ verb ≠ "quit".toList ∧
          text ≠ "send".toList ∧ ∀ path, ¬ Sends text path) ∧
      ofLine line = ofLine (String.ofList text)) ∧
    ∀ path before between after : String, path ≠ "" → Bare path.toList → between ≠ "" →
      Blanks before.toList → Blanks between.toList → Blanks after.toList →
        ofLine (before ++ "send" ++ between ++ path ++ after) = .send path := by
  refine ⟨fun line => ?_, fun path before between after => ofLine_sending⟩
  have trimmed := Text.trims_trim line.toList
  exact ⟨Text.trim line.toList, Text.firstWord (Text.trim line.toList),
    fun other => Text.trims_iff, fun other => Text.leads_iff, ofLine_eq_help_iff trimmed,
    ofLine_eq_quit_iff trimmed, ofLine_eq_missingFile_iff trimmed,
    fun path => ofLine_eq_send_iff trimmed, fun rest => ofLine_eq_unknown_iff trimmed,
    ofLine_trimmed trimmed⟩

/-- A path with a blank of its own, behind and in front of blanks of several kinds, and lines that
are no more than the verb, or more. -/
theorem ofLine_grammar_of_blanks :
    ofLine ("\u3000" ++ "send" ++ "\u00A0\t" ++ "my notes" ++ "\r") = .send "my notes" ∧
      ofLine "send\u2003" = .missingFile ∧ ofLine "sender" = .unknown "sender" := by
  obtain ⟨reads, sending⟩ := ofLine_grammar
  refine ⟨sending "my notes" "\u3000" "\u00A0\t" "\r" (by decide) (by decide) (by decide)
    (by decide) (by decide) (by decide), ?_, by decide⟩
  obtain ⟨text, verb, text_iff, -, -, -, missing_iff, -⟩ := reads "send\u2003"
  have around : "send\u2003".toList = [] ++ ("send".toList ++ ['\u2003']) := rfl
  have trimmed : Trims "send\u2003".toList "send".toList :=
    ⟨by decide, [], ['\u2003'], by decide, by decide, around⟩
  exact missing_iff.mpr ((text_iff _).mp trimmed).symm

end MessagingConsole.Publisher.Command
