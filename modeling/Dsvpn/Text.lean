import Mathlib.Data.List.Basic
import Mathlib.Tactic.Common

namespace Dsvpn.Text

/-!
# Texts

A text is the list of its characters, of any type.
-/

variable {α : Type} [DecidableEq α]

/-- The first occurrence of `search` is replaced; an empty text has none. -/
def replaceFirst (search format : List α) : List α → List α
  | [] => []
  | first :: rest =>
      if search ≠ [] ∧ search.isPrefixOf (first :: rest) then
        format ++ (first :: rest).drop search.length
      else
        first :: replaceFirst search format rest

/-- There is no occurrence before the first character of `search`. -/
theorem replaceFirst_append
    {first : α}
    {search before : List α}
    (starts : search.head? = some first)
    (absent : first ∉ before)
    (format rest : List α) :
    replaceFirst search format (before ++ rest) =
      before ++ replaceFirst search format rest := by
  induction before with
  | nil => rfl
  | cons other before inductionHypothesis =>
      rw [List.mem_cons, not_or] at absent
      have different :
          ¬ (search ≠ [] ∧
            search.isPrefixOf (other :: (before ++ rest)) = true) := by
        rintro ⟨_, isPrefix⟩
        cases search with
        | nil => cases starts
        | cons head tail =>
            obtain rfl := Option.some.inj starts
            rw [List.isPrefixOf_cons_cons, Bool.and_eq_true] at isPrefix
            exact absent.1 (by simpa using isPrefix.1)
      rw [List.cons_append, replaceFirst, if_neg different,
        inductionHypothesis absent.2]
      rfl

/-- The occurrence behind `before` is the first one. -/
theorem replaceFirst_found
    {search before rest : List α}
    (nonempty : search ≠ [])
    (earliest :
      ∀ position < before.length,
        ¬ search.isPrefixOf
          ((before ++ (search ++ rest)).drop position) = true)
    (format : List α) :
    replaceFirst search format (before ++ (search ++ rest)) =
      before ++ (format ++ rest) := by
  induction before with
  | nil =>
      cases search with
      | nil => exact (nonempty rfl).elim
      | cons first search =>
          have isPrefix :
              (first :: search).isPrefixOf
                (first :: (search ++ rest)) = true := by
            rw [List.isPrefixOf_iff_prefix]
            exact List.prefix_append (first :: search) rest
          change replaceFirst (first :: search) format
            (first :: (search ++ rest)) = _
          rw [replaceFirst, if_pos ⟨nonempty, isPrefix⟩,
            ← List.cons_append, List.drop_left]
          rfl
  | cons other before inductionHypothesis =>
      have here := earliest 0 (Nat.zero_lt_succ _)
      have later :=
        inductionHypothesis fun position inside =>
          earliest (position + 1) (Nat.succ_lt_succ inside)
      have different :
          ¬ (search ≠ [] ∧
            search.isPrefixOf
              (other :: (before ++ (search ++ rest))) = true) :=
        fun found => here found.2
      rw [List.cons_append, replaceFirst, if_neg different, later]
      rfl

/-- The lines of a text; nothing behind the last newline is not one. -/
def lines (newline : α) (text : List α) : List (List α) :=
  let pieces := text.splitOn newline
  if pieces.getLast? = some [] then pieces.dropLast else pieces

theorem lines_append
    {newline : α}
    {line : List α}
    (whole : newline ∉ line)
    (rest : List α) :
    lines newline (line ++ newline :: rest) = line :: lines newline rest := by
  obtain ⟨first, others, pieces⟩ :=
    List.exists_cons_of_ne_nil (List.splitOn_ne_nil newline rest)
  rw [lines, lines, List.splitOn_append_cons_self_of_not_mem whole, pieces]
  simp only [List.getLast?_cons_cons, List.dropLast_cons_cons]
  split <;> rfl

/-- Each text is a line of its own. -/
theorem lines_flatMap
    {newline : α}
    {texts : List (List α)}
    (whole : ∀ line ∈ texts, newline ∉ line) :
    lines newline (texts.flatMap (· ++ [newline])) = texts := by
  induction texts with
  | nil => simp [lines]
  | cons line texts inductionHypothesis =>
      obtain ⟨here, others⟩ := List.forall_mem_cons.mp whole
      rw [List.flatMap_cons, List.append_assoc, List.singleton_append,
        lines_append here, inductionHypothesis others]

omit [DecidableEq α] in
/-- The last newline ends the text. -/
theorem flatMap_intercalate
    (newline : α)
    {texts : List (List α)}
    (nonempty : texts ≠ []) :
    texts.flatMap (· ++ [newline]) =
      [newline].intercalate texts ++ [newline] := by
  induction texts with
  | nil => exact (nonempty rfl).elim
  | cons line texts inductionHypothesis =>
      cases texts with
      | nil => simp
      | cons next texts =>
          rw [List.flatMap_cons,
            inductionHypothesis (List.cons_ne_nil next texts),
            List.intercalate_cons_cons]
          simp only [List.append_assoc]

omit [DecidableEq α] in
theorem mem_intercalate
    {newline : α}
    {first second : List α}
    (texts : List (List α)) :
    newline ∈ [newline].intercalate (first :: second :: texts) := by
  simp [List.intercalate_cons_cons]

/-- A text is split at every separator. -/
theorem not_mem_of_mem_splitOn
    {separator : α}
    {text piece : List α}
    (member : piece ∈ text.splitOn separator) :
    separator ∉ piece := by
  induction text generalizing piece with
  | nil =>
      obtain rfl : piece = [] := by simpa using member
      exact List.not_mem_nil
  | cons char text inductionHypothesis =>
      rw [List.splitOn_cons_eq_if_modifyHead] at member
      split at member
      · rcases List.mem_cons.mp member with rfl | later
        · exact List.not_mem_nil
        · exact inductionHypothesis later
      · rename_i other
        obtain ⟨first, others, pieces⟩ :=
          List.exists_cons_of_ne_nil (List.splitOn_ne_nil separator text)
        rw [pieces] at member inductionHypothesis
        rcases List.mem_cons.mp member with rfl | later
        · rw [List.mem_cons, not_or]
          refine ⟨?_, inductionHypothesis List.mem_cons_self⟩
          rintro rfl
          exact other BEq.rfl
        · exact inductionHypothesis (List.mem_cons_of_mem first later)

/-- The longest pieces without blanks. -/
def words {β : Type} (isBlank : β → Bool) (text : List β) : List (List β) :=
  (text.splitOnP isBlank).filter (! ·.isEmpty)

section

variable
    {β : Type}
    {isBlank : β → Bool}

/-- The first piece starts where the text does. -/
theorem infix_of_mem_splitOnP (text : List β) :
    (∀ piece ∈ text.splitOnP isBlank, piece <:+: text) ∧
      ∀ piece ∈ (text.splitOnP isBlank).head?, piece <+: text := by
  induction text with
  | nil => simp
  | cons char text inductionHypothesis =>
      obtain ⟨inside, starts⟩ := inductionHypothesis
      rw [List.splitOnP_cons_eq_if_modifyHead]
      by_cases blank : isBlank char = true
      · rw [if_pos blank]
        refine ⟨?_, by simp⟩
        intro piece member
        rcases List.mem_cons.mp member with rfl | later
        · exact List.nil_infix
        · exact List.infix_cons (inside piece later)
      · rw [if_neg blank]
        obtain ⟨first, others, pieces⟩ :=
          List.exists_cons_of_ne_nil (List.splitOnP_ne_nil isBlank text)
        rw [pieces] at inside starts ⊢
        have here : char :: first <+: char :: text :=
          (List.prefix_cons_inj char).mpr (starts first rfl)
        constructor
        · intro piece member
          rcases List.mem_cons.mp member with rfl | later
          · exact here.isInfix
          · exact List.infix_cons
              (inside piece (List.mem_cons_of_mem first later))
        · rintro piece ⟨⟩
          exact here

theorem infix_of_mem_words
    {text word : List β}
    (member : word ∈ words isBlank text) :
    word <:+: text :=
  (infix_of_mem_splitOnP text).1 word (List.mem_of_mem_filter member)

theorem ne_nil_of_mem_words
    {text word : List β}
    (member : word ∈ words isBlank text) :
    word ≠ [] := by
  rintro rfl
  exact Bool.false_ne_true (List.of_mem_filter member)

end

/-- Words with one separator between them. -/
theorem words_intercalate
    {separator : α}
    {texts : List (List α)}
    (texts_ne : texts ≠ [])
    (whole : ∀ word ∈ texts, separator ∉ word)
    (nonempty : ∀ word ∈ texts, word ≠ []) :
    words (· == separator) ([separator].intercalate texts) = texts := by
  have pieces :
      ([separator].intercalate texts).splitOnP (· == separator) = texts :=
    List.splitOn_intercalate separator whole texts_ne
  rw [words, pieces, List.filter_eq_self]
  intro word member
  simpa using nonempty word member

end Dsvpn.Text
