import Mathlib.Data.List.Basic

/-!
# Backtracking regular expressions

Regular expressions as scripting languages have them: literal texts, character
classes, greedy repetition of a class, alternatives, numbered groups and the
two anchors of a text.  A match is what backtracking finds first, so the
semantics lists all ways to match in the order in which they are tried, and a
search takes the head of that list.

Most expressions in use are unambiguous: a repeated class is followed by
something that no character of the class can begin.  `runs_capture_literal`
then replaces the whole backtracking by one step.
-/

namespace Dagger.Lib.Regex

/-- A regular expression. -/
inductive Pattern
  | literal (text : List Char)
  | one (accepts : Char → Bool)
  | many (accepts : Char → Bool)
  | seq (first second : Pattern)
  | either (first second : Pattern)
  | group (index : ℕ) (body : Pattern)
  | start
  | finish

/-- How far a match has come: what is read, what is left, what is captured. -/
structure Cursor where
  read : ℕ
  rest : List Char
  groups : List (ℕ × List Char)
  deriving DecidableEq

namespace Cursor

/-- Read the next characters. -/
def advance (cursor : Cursor) (count : ℕ) : Cursor :=
  { cursor with
    read := cursor.read + count
    rest := cursor.rest.drop count }

/-- Store the text of a group. -/
def capture (cursor : Cursor) (index : ℕ) (text : List Char) : Cursor :=
  { cursor with groups := (index, text) :: cursor.groups }

/-- The text of a group, if it has taken part in the match. -/
def group? (cursor : Cursor) (index : ℕ) : Option (List Char) :=
  cursor.groups.lookup index

end Cursor

open Pattern

/-- All ways to match from a cursor on, in the order of backtracking. -/
def runs : Pattern → Cursor → List Cursor
  | literal text, cursor =>
      if text.isPrefixOf cursor.rest then [cursor.advance text.length]
      else []
  | one accepts, cursor =>
      if cursor.rest.head?.any accepts then [cursor.advance 1] else []
  | many accepts, cursor =>
      -- Greedy: the longest repetition comes first.
      (List.range ((cursor.rest.takeWhile accepts).length + 1)).reverse.map
        cursor.advance
  | seq first second, cursor => (runs first cursor).flatMap (runs second)
  | either first second, cursor => runs first cursor ++ runs second cursor
  | group index body, cursor =>
      (runs body cursor).map fun after =>
        after.capture index (cursor.rest.take (after.read - cursor.read))
  | start, cursor => if cursor.read = 0 then [cursor] else []
  | finish, cursor =>
      if cursor.rest = [] ∨ cursor.rest = ['\n'] then [cursor] else []

/-- The first match at the first position that has one. -/
def search (pattern : Pattern) (text : List Char) : Option Cursor :=
  (List.range (text.length + 1)).findSome? fun position =>
    (runs pattern ⟨position, text.drop position, []⟩).head?

/-- An anchored expression is matched at the beginning of the text only. -/
theorem search_start
    (pattern : Pattern)
    (text : List Char) :
    search (seq start pattern) text = (runs pattern ⟨0, text, []⟩).head? := by
  have elsewhere : ∀ position ∈ List.range text.length,
      (runs (seq start pattern)
        ⟨position + 1, text.drop (position + 1), []⟩).head? = none := by
    intro position _
    simp [runs]
  rw [search, List.range_succ_eq_map, List.findSome?_cons,
    List.findSome?_map]
  have atStart :
      runs (seq start pattern) ⟨0, text.drop 0, []⟩ =
        runs pattern ⟨0, text, []⟩ := by
    simp [runs]
  rw [atStart]
  cases (runs pattern ⟨0, text, []⟩).head? with
  | some found => rfl
  | none => exact List.findSome?_eq_none_iff.mpr elsewhere

/-! ## Texts that stand as they are -/

theorem runs_seq_literal
    (text rest : List Char)
    (next : Pattern)
    (read : ℕ)
    (groups : List (ℕ × List Char)) :
    runs (seq (literal text) next) ⟨read, text ++ rest, groups⟩ =
      runs next ⟨read + text.length, rest, groups⟩ := by
  simp [runs, Cursor.advance]

/-- A literal fails where another character stands. -/
theorem runs_seq_literal_of_ne
    {expected found : Char}
    (differ : found ≠ expected)
    (text rest : List Char)
    (next : Pattern)
    (read : ℕ)
    (groups : List (ℕ × List Char)) :
    runs (seq (literal (expected :: text)) next)
      ⟨read, found :: rest, groups⟩ = [] := by
  simp [runs, List.isPrefixOf, differ.symm]

/-! ## Words of a class -/

/-- A character of one class and any number of another. -/
def word (head tail : Char → Bool) : Pattern :=
  seq (one head) (many tail)

/-- The texts of a word. -/
def isWord (head tail : Char → Bool) : List Char → Bool
  | [] => false
  | first :: others => head first && others.all tail

/-- The expression matches nowhere a character of the class stands. -/
def Refuses (accepts : Char → Bool) (next : Pattern) : Prop :=
  ∀ cursor : Cursor,
    cursor.rest.head?.any accepts = true → runs next cursor = []

theorem refuses_literal
    {accepts : Char → Bool}
    {first : Char}
    (outside : accepts first = false)
    (text : List Char)
    (next : Pattern) :
    Refuses accepts (seq (literal (first :: text)) next) := by
  rintro ⟨read, rest, groups⟩ inside
  cases rest with
  | nil => rfl
  | cons found rest =>
      apply runs_seq_literal_of_ne
      rintro rfl
      simp [outside] at inside

theorem flatMap_longest
    {Result : Type}
    {continues : ℕ → List Result}
    {longest : ℕ}
    (shorter : ∀ count < longest, continues count = []) :
    (List.range (longest + 1)).reverse.flatMap continues =
      continues longest := by
  rw [List.range_succ, List.reverse_append, List.reverse_singleton,
    List.singleton_append, List.flatMap_cons]
  rw [List.flatMap_eq_nil_iff.mpr, List.append_nil]
  intro count inside
  exact shorter count (List.mem_range.mp (List.mem_reverse.mp inside))

/--
A captured word is read to its end: where it is followed by a character outside
its class, and the rest of the expression refuses the class, no shorter
repetition has to be tried.
-/
theorem runs_seq_capture
    {head tail : Char → Bool}
    {text : List Char}
    (isText : isWord head tail text = true)
    {stop : Char}
    (stops : tail stop = false)
    {next : Pattern}
    (refuses : Refuses tail next)
    (rest : List Char)
    (index read : ℕ)
    (groups : List (ℕ × List Char)) :
    runs (seq (group index (word head tail)) next)
        ⟨read, text ++ stop :: rest, groups⟩ =
      runs next
        ⟨read + text.length, stop :: rest, (index, text) :: groups⟩ := by
  cases text with
  | nil => cases isText
  | cons first others =>
      obtain ⟨isHead, isTail⟩ := Bool.and_eq_true_iff.mp isText
      have longest :
          (others ++ stop :: rest).takeWhile tail = others := by
        rw [List.takeWhile_append_of_pos (List.all_eq_true.mp isTail)]
        simp [stops]
      have shorter : ∀ count < others.length,
          ((others ++ stop :: rest).drop count).head?.any tail = true := by
        intro count inside
        rw [List.head?_drop, List.getElem?_append_left inside,
          List.getElem?_eq_getElem inside]
        exact List.all_eq_true.mp isTail _ (List.getElem_mem inside)
      have tried :
          runs (seq (group index (word head tail)) next)
              ⟨read, first :: others ++ stop :: rest, groups⟩ =
            (List.range (others.length + 1)).reverse.flatMap
              fun count =>
                runs next
                  ⟨read + 1 + count,
                    (others ++ stop :: rest).drop count,
                    (index, (first :: others ++ stop :: rest).take
                      (read + 1 + count - read)) :: groups⟩ := by
        simp only [word, runs, List.cons_append, List.head?_cons,
          Option.any_some, isHead, if_true, List.flatMap_cons,
          List.flatMap_nil, List.append_nil, Cursor.advance,
          List.drop_succ_cons, List.drop_zero, longest, List.map_map,
          List.flatMap_map]
        rfl
      rw [tried, flatMap_longest]
      · simp [Nat.add_right_comm, Nat.add_assoc]
      · intro count inside
        exact refuses _ (shorter count inside)

/-- A captured word and the literal after it are read in one step. -/
theorem runs_capture_literal
    {head tail : Char → Bool}
    {text : List Char}
    (isText : isWord head tail text = true)
    {ending : List Char}
    (stops : ending.head?.any (fun c => !tail c) = true)
    (next : Pattern)
    (rest : List Char)
    (index read : ℕ)
    (groups : List (ℕ × List Char)) :
    runs (seq (group index (word head tail)) (seq (literal ending) next))
        ⟨read, text ++ (ending ++ rest), groups⟩ =
      runs next
        ⟨read + text.length + ending.length, rest,
          (index, text) :: groups⟩ := by
  cases ending with
  | nil => cases stops
  | cons stop ending =>
      have outside : tail stop = false := by simpa using stops
      rw [List.cons_append,
        runs_seq_capture isText outside (refuses_literal outside _ _),
        ← List.cons_append, runs_seq_literal]

/-- A captured word is not followed by another literal than the one there is. -/
theorem runs_capture_mismatch
    {head tail : Char → Bool}
    {text : List Char}
    (isText : isWord head tail text = true)
    {found expected : Char}
    (foundOutside : tail found = false)
    (expectedOutside : tail expected = false)
    (differ : found ≠ expected)
    (ending : List Char)
    (next : Pattern)
    (rest : List Char)
    (index read : ℕ)
    (groups : List (ℕ × List Char)) :
    runs
        (seq (group index (word head tail))
          (seq (literal (expected :: ending)) next))
        ⟨read, text ++ found :: rest, groups⟩ =
      [] := by
  rw [
    runs_seq_capture isText foundOutside
      (refuses_literal expectedOutside _ _),
    runs_seq_literal_of_ne differ]

/-! ## Matches that are only known to exist -/

/-- A repetition can stop after any text of its class. -/
theorem mem_runs_many
    {accepts : Char → Bool}
    {text : List Char}
    (inside : text.all accepts = true)
    (rest : List Char)
    (read : ℕ)
    (groups : List (ℕ × List Char)) :
    ⟨read + text.length, rest, groups⟩ ∈
      runs (many accepts) ⟨read, text ++ rest, groups⟩ := by
  simp only [runs, List.mem_map, List.mem_reverse, List.mem_range]
  refine ⟨text.length, ?_, by simp [Cursor.advance]⟩
  rw [List.takeWhile_append_of_pos (List.all_eq_true.mp inside),
    List.length_append]
  omega

/-- The pattern has no group. -/
def groupless : Pattern → Bool
  | literal _ | one _ | many _ | start | finish => true
  | seq first second | either first second =>
      groupless first && groupless second
  | group _ _ => false

/-- A pattern without groups captures nothing. -/
theorem groups_of_mem_runs
    {pattern : Pattern}
    (plain : groupless pattern = true)
    {before after : Cursor}
    (found : after ∈ runs pattern before) :
    after.groups = before.groups := by
  induction pattern generalizing before after with
  | literal _ | one _ =>
      simp only [runs, List.mem_ite_nil_right, List.mem_singleton] at found
      rw [found.2]
      rfl
  | start | finish =>
      simp only [runs, List.mem_ite_nil_right, List.mem_singleton] at found
      rw [found.2]
  | many _ =>
      simp only [runs, List.mem_map] at found
      obtain ⟨count, _, rfl⟩ := found
      rfl
  | seq first second ofFirst ofSecond =>
      obtain ⟨plainFirst, plainSecond⟩ := Bool.and_eq_true_iff.mp plain
      obtain ⟨between, here, there⟩ := List.mem_flatMap.mp found
      rw [ofSecond plainSecond there, ofFirst plainFirst here]
  | either first second ofFirst ofSecond =>
      obtain ⟨plainFirst, plainSecond⟩ := Bool.and_eq_true_iff.mp plain
      rcases List.mem_append.mp found with here | there
      · exact ofFirst plainFirst here
      · exact ofSecond plainSecond there
  | group _ _ _ => cases plain

end Dagger.Lib.Regex
