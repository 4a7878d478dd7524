import Mathlib.Data.List.TakeWhile
import MessagingConsole.Text.Blank

/-!
# Blanks around texts and words

A text is trimmed if no blank is at its ends, and each text is a trimmed one between blanks, which
is determined.  A trimmed text begins with a word, and behind the word is nothing, or there are
blanks and another trimmed text.

## Main Definitions

- `Blanks`, `Bare` - texts of blanks only, and texts without blanks at their ends.
- `Trims` - a text is another one with blanks around it.
- `Leads` - a text begins with a word.

## Main Results

- `trims_iff` - a text without its blanks is what trimming leaves of it.
- `leads_iff` - the word that a text begins with is the first one.
- `firstWord_and_trim_iff` - what is in front of the blanks and what is behind them.
-/

namespace MessagingConsole.Text

/-- A text of blanks only. -/
def Blanks (text : List Char) : Prop :=
  ∀ c ∈ text, isBlank c

instance (text : List Char) : Decidable (Blanks text) :=
  List.decidableBAll (fun c => isBlank c) text

/-- A text without a blank at either end. -/
structure Bare (text : List Char) : Prop where
  front : ∀ c ∈ text.head?, ¬ isBlank c
  back : ∀ c ∈ text.getLast?, ¬ isBlank c

/-- A line is a text without a blank at either end, with blanks around it. -/
structure Trims (line text : List Char) : Prop where
  bare : Bare text
  around : ∃ before after, Blanks before ∧ Blanks after ∧ line = before ++ (text ++ after)

/-- A text begins with a word, up to its first blank. -/
structure Leads (text word : List Char) : Prop where
  begins : word <+: text
  solid : ∀ c ∈ word, ¬ isBlank c
  longest : ∀ other, other <+: text → (∀ c ∈ other, ¬ isBlank c) → other <+: word

variable {line text word path between rest before after : List Char}

/-! ## Trimming -/

theorem blanks_takeWhile (cs : List Char) : Blanks (cs.takeWhile isBlank) :=
  fun _ => List.mem_takeWhile_imp

theorem head_dropWhile (cs : List Char) : ∀ c ∈ (cs.dropWhile isBlank).head?, ¬ isBlank c := by
  intro c first
  have stops := List.head?_dropWhile_not isBlank cs
  rw [first] at stops
  exact ne_true_of_eq_false stops

/-- Nothing but blanks is dropped in front of a text that begins with none. -/
theorem dropWhile_append (blanks : Blanks before) (front : ∀ c ∈ rest.head?, ¬ isBlank c) :
    (before ++ rest).dropWhile isBlank = rest := by
  rw [List.dropWhile_append_of_pos blanks]
  cases rest with
  | nil => rfl
  | cons c rest => exact List.dropWhile_cons_of_neg (front c rfl)

theorem trims_trim (line : List Char) : Trims line (trim line) := by
  have backwards (cs : List Char) :
      cs = trimRight cs ++ (cs.reverse.takeWhile isBlank).reverse := by
    rw [trimRight, ← List.reverse_append, List.takeWhile_append_dropWhile, List.reverse_reverse]
  have inner := backwards (line.dropWhile isBlank)
  refine ⟨⟨fun c first => ?_, fun c last => ?_⟩, line.takeWhile isBlank,
    ((line.dropWhile isBlank).reverse.takeWhile isBlank).reverse, blanks_takeWhile line, ?_, ?_⟩
  · refine head_dropWhile line c ?_
    rw [inner, List.head?_append, ← trim, Option.mem_def.mp first]
    rfl
  · rw [trim, trimRight, List.getLast?_reverse] at last
    exact head_dropWhile _ c last
  · exact fun c mem => blanks_takeWhile _ c (List.mem_reverse.mp mem)
  · rw [trim, ← inner, List.takeWhile_append_dropWhile]

theorem trim_of_trims (trims : Trims line text) : trim line = text := by
  obtain ⟨bare, before, after, blanks, blanks', rfl⟩ := trims
  cases text with
  | nil =>
    have all : Blanks (before ++ after) := List.forall_mem_append.mpr ⟨blanks, blanks'⟩
    rw [List.nil_append, trim, List.dropWhile_eq_nil_iff.mpr all]
    rfl
  | cons c text =>
    have back : ∀ d ∈ (c :: text).reverse.head?, ¬ isBlank d := by
      rw [List.head?_reverse]
      exact bare.back
    have front : ∀ d ∈ ((c :: text) ++ after).head?, ¬ isBlank d := bare.front
    rw [trim, dropWhile_append blanks front, trimRight, List.reverse_append,
      dropWhile_append (fun d mem => blanks' d (List.mem_reverse.mp mem)) back,
      List.reverse_reverse]

/-- **A text without its blanks is what trimming leaves of it.** -/
theorem trims_iff : Trims line text ↔ text = trim line := by
  constructor
  · exact fun trims => (trim_of_trims trims).symm
  · rintro rfl
    exact trims_trim line

theorem trims_of_bare (bare : Bare text) : Trims text text :=
  ⟨bare, [], [], nofun, nofun, (List.append_nil text).symm⟩

/-- Nothing is trimmed off a text without a blank at either end. -/
theorem bare_iff : Bare text ↔ trim text = text := by
  constructor
  · exact fun bare => trim_of_trims (trims_of_bare bare)
  · intro same
    exact (trims_iff.mpr same.symm).bare

instance (text : List Char) : Decidable (Bare text) :=
  decidable_of_iff _ bare_iff.symm

/-! ## Words -/

theorem leads_firstWord (text : List Char) : Leads text (firstWord text) := by
  refine ⟨List.takeWhile_prefix _, fun c mem => ?_, fun other begins solid => ?_⟩
  · simpa using List.mem_takeWhile_imp mem
  · obtain ⟨rest, rfl⟩ := begins
    rw [firstWord, List.takeWhile_append_of_pos (by simpa using solid)]
    exact List.prefix_append other _

/-- The word that a text begins with is the first one. -/
theorem leads_iff : Leads text word ↔ word = firstWord text := by
  constructor
  · intro leads
    have first := leads_firstWord text
    exact (first.longest word leads.begins leads.solid).eq_of_length_le
      (leads.longest _ first.begins first.solid).length_le
  · rintro rfl
    exact leads_firstWord text

theorem firstWord_append_afterFirstWord (text : List Char) :
    firstWord text ++ afterFirstWord text = text :=
  List.takeWhile_append_dropWhile

/-- A blank is what ends the first word. -/
theorem head_afterFirstWord (text : List Char) : ∀ c ∈ (afterFirstWord text).head?, isBlank c := by
  intro c first
  have stops := List.head?_dropWhile_not (! isBlank ·) text
  rw [← afterFirstWord, first] at stops
  simpa using stops

theorem cut_word (solid : ∀ c ∈ word, ¬ isBlank c) (blank : ∀ c ∈ rest.head?, isBlank c) :
    firstWord (word ++ rest) = word ∧ afterFirstWord (word ++ rest) = rest := by
  have solid : ∀ c ∈ word, (! isBlank c) = true := by simpa using solid
  rw [firstWord, afterFirstWord, List.takeWhile_append_of_pos solid,
    List.dropWhile_append_of_pos solid]
  cases rest with
  | nil => exact ⟨List.append_nil word, rfl⟩
  | cons c rest =>
    have stops : isBlank c = true := blank c rfl
    simp [stops]

/-- Blanks at the end of a text that ends with none are no blanks at all. -/
theorem eq_nil_of_blanks (rest : List Char) (back : ∀ c ∈ (rest ++ after).getLast?, ¬ isBlank c)
    (blanks : Blanks after) : after = [] := by
  cases last : after.getLast? with
  | none => exact List.getLast?_eq_none_iff.mp last
  | some c =>
    refine absurd (blanks c (List.mem_of_getLast? last)) (back c ?_)
    rw [List.getLast?_append, last]
    rfl

/-- A bare text is its first word alone if there is nothing else than blanks behind it. -/
theorem trim_afterFirstWord_eq_nil_iff (bare : Bare text) :
    trim (afterFirstWord text) = [] ↔ text = firstWord text := by
  constructor
  · intro none
    obtain ⟨-, before, after, blanks, blanks', rest⟩ := trims_iff.mpr none.symm
    have all : Blanks (afterFirstWord text) := by
      rw [rest]
      exact List.forall_mem_append.mpr ⟨blanks, blanks'⟩
    have whole := firstWord_append_afterFirstWord text
    have nothing : afterFirstWord text = [] := by
      refine eq_nil_of_blanks (firstWord text) ?_ all
      rw [whole]
      exact bare.back
    rw [nothing, List.append_nil] at whole
    exact whole.symm
  · intro alone
    have none : afterFirstWord text = [] := by
      have whole := firstWord_append_afterFirstWord text
      rw [← alone] at whole
      exact List.append_right_eq_self.mp whole
    rw [none]
    rfl

/-- What is in front of the first blanks of a bare text, and what is behind them. -/
theorem firstWord_and_trim_iff (bare : Bare text) (filled : path ≠ []) :
    firstWord text = word ∧ trim (afterFirstWord text) = path ↔
      (∀ c ∈ word, ¬ isBlank c) ∧ Bare path ∧
        ∃ between, between ≠ [] ∧ Blanks between ∧ text = word ++ (between ++ path) := by
  constructor
  · rintro ⟨rfl, rfl⟩
    obtain ⟨bare', before, after, blanks, blanks', rest⟩ := trims_trim (afterFirstWord text)
    have whole := firstWord_append_afterFirstWord text
    have nothing : after = [] := by
      refine eq_nil_of_blanks (firstWord text ++ (before ++ trim (afterFirstWord text))) ?_ blanks'
      rw [List.append_assoc, List.append_assoc, ← rest, whole]
      exact bare.back
    rw [nothing, List.append_nil] at rest
    refine ⟨(leads_firstWord text).solid, bare', before, ?_, blanks, ?_⟩
    · rintro rfl
      obtain ⟨c, others, first⟩ := List.exists_cons_of_ne_nil filled
      have blank := head_afterFirstWord text c (by rw [rest, List.nil_append, first]; rfl)
      exact bare'.front c (by rw [first]; rfl) blank
    · rw [← rest, whole]
  · rintro ⟨solid, bare', between, some_blanks, blanks, rfl⟩
    obtain ⟨c, others, rfl⟩ := List.exists_cons_of_ne_nil some_blanks
    have blank : ∀ d ∈ (c :: others ++ path).head?, isBlank d := by
      rintro d ⟨⟩
      exact blanks c List.mem_cons_self
    obtain ⟨first, behind⟩ := cut_word solid blank
    rw [first, behind]
    exact ⟨rfl, trim_of_trims ⟨bare', c :: others, [], blanks, nofun, by rw [List.append_nil]⟩⟩

end MessagingConsole.Text
