import TableGateway.Engine.Token
import TableGateway.Engine.Evaluation
import TableGateway.Proofs.Dialect.Spelling

/-!
# Reading conditions

How a reader of SQL understands the text of a condition: parentheses first, then conjunction, then
disjunction. This module defines such a reader, which knows nothing of how the text came about, and
shows what it makes of two conditions that are joined, and of a single leaf.

## Reading convention

A text is cut into words, parentheses and other marks; blanks only separate them. The keywords are
`AND` and `OR` in letters of either case, as whole words outside parentheses. A text with an `OR` is
a disjunction, split at the last one; a text without one but with an `AND` is a conjunction, split
at the last one. Without either, a text that is enclosed in one pair of parentheses means what is in
them, and any other text is a leaf, whatever parentheses it has inside.

## Main results

* `depthAfter_lexemes`: cutting a text keeps its parentheses.
* `splitLast_append`, `splitLast_nested`: keywords are found outside parentheses only.
* `balanced_of_spelled`: parentheses match in a text that is spelled from words in which they match.
* `read_conj`, `read_disj`, `read_leaf`: what the texts of conditions are read as.
-/

namespace TableGateway.Reading

open TableGateway.Numbering

/-! ### Cutting a text -/

/-- A piece of a text. -/
inductive Lexeme where
  | word (cs : List Char)
  | opening
  | closing
  | blank
  | mark (c : Char)
  deriving DecidableEq, Repr

namespace Lexeme

/-- What a single character is. -/
def ofChar (c : Char) : Lexeme :=
  if Engine.Token.isNameRest c then word [c]
  else if c = '(' then opening
  else if c = ')' then closing
  else if Engine.Token.isBlank c then blank
  else mark c

/-- Puts a piece before others; two words without anything between them are one. -/
def attach : Lexeme → List Lexeme → List Lexeme
  | word cs, word cs' :: ls => word (cs ++ cs') :: ls
  | l, ls => l :: ls

/-- Whether it is the given word, in letters of either case. -/
def isKeyword (k : String) : Lexeme → Bool
  | word cs => cs.map Action.upperChar == k.toList
  | _ => false

/-- How many parentheses are open behind it, if `d` are before it; nothing may be closed that was
not opened. -/
def step : Nat → Lexeme → Option Nat
  | d, opening => some (d + 1)
  | 0, closing => none
  | d + 1, closing => some d
  | d, _ => some d

/-- The same with one more pair around it. -/
theorem step_succ {d e : Nat} {l : Lexeme} (h : step d l = some e) :
    step (d + 1) l = some (e + 1) := by
  cases l with
  | word cs | opening | blank | mark c => cases d <;> simp_all [step]
  | closing =>
      cases d with
      | zero => exact nomatch h
      | succ d =>
          obtain rfl := Option.some.inj h
          rfl

end Lexeme

open Lexeme

/-- A text in pieces, blanks included. -/
def cut : List Char → List Lexeme
  | [] => []
  | c :: cs => attach (ofChar c) (cut cs)

/-- A text in pieces without the blanks between them. -/
def lexemes (s : String) : List Lexeme := (cut s.toList).filter (· ≠ .blank)

/-- How many parentheses are open behind some pieces. -/
def depthAfter (d : Nat) (ls : List Lexeme) : Option Nat := ls.foldlM step d

/-! ### The reader -/

/-- Splits at the last keyword `k` outside parentheses, with `d` of them open at the start. -/
def splitLast (k : String) : Nat → List Lexeme → Option (List Lexeme × List Lexeme)
  | _, [] => none
  | d, l :: ls =>
    match splitLast k ((step d l).getD 0) ls with
    | some (left, right) => some (l :: left, right)
    | none => if d = 0 ∧ l.isKeyword k then some ([], ls) else none

/-- Splits at the parenthesis that closes one opened before, with `d` more open at the start. -/
def upToClosing : Nat → List Lexeme → Option (List Lexeme × List Lexeme)
  | _, [] => none
  | d, l :: ls =>
    match step d l with
    | none => some ([], ls)
    | some e => (upToClosing e ls).map fun p => (l :: p.1, p.2)

/-- What stands in a pair of parentheses around everything. -/
def enclosed : List Lexeme → Option (List Lexeme)
  | .opening :: ls =>
    match upToClosing 0 ls with
    | some (inside, []) => some inside
    | _ => none
  | _ => none

/-- What a text is read as. -/
inductive Formula where
  | leaf (ls : List Lexeme)
  | conj (left right : Formula)
  | disj (left right : Formula)

namespace Formula

/-- The leaves, from left to right. -/
def leaves : Formula → List (List Lexeme)
  | leaf ls => [ls]
  | conj left right => left.leaves ++ right.leaves
  | disj left right => left.leaves ++ right.leaves

/-- The truth value, where `v` gives those of the leaves, of which the first has the number `i`. -/
def eval (v : Nat → Option Bool) (i : Nat) : Formula → Option Bool
  | leaf _ => v i
  | conj left right => Engine.bothTruth (left.eval v i) (right.eval v (i + left.leaves.length))
  | disj left right => Engine.eitherTruth (left.eval v i) (right.eval v (i + left.leaves.length))

end Formula

/-- Both sides of a split are shorter. -/
theorem length_of_splitLast {k : String} {d : Nat} {ls left right : List Lexeme}
    (h : splitLast k d ls = some (left, right)) :
    left.length < ls.length ∧ right.length < ls.length := by
  induction ls generalizing d left with
  | nil => exact nomatch h
  | cons l ls ih =>
      rw [splitLast] at h
      split at h
      · next left' right' hls =>
          obtain ⟨rfl, rfl⟩ := Prod.mk.inj (Option.some.inj h)
          have hshort := ih hls
          simp only [List.length_cons]
          omega
      · split at h
        · obtain ⟨rfl, rfl⟩ := Prod.mk.inj (Option.some.inj h)
          simp
        · exact nomatch h

/-- What stands before the closing parenthesis is shorter. -/
theorem length_of_upToClosing {d : Nat} {ls inside after : List Lexeme}
    (h : upToClosing d ls = some (inside, after)) : inside.length < ls.length := by
  induction ls generalizing d inside with
  | nil => exact nomatch h
  | cons l ls ih =>
      rw [upToClosing] at h
      split at h
      · obtain ⟨rfl, -⟩ := Prod.mk.inj (Option.some.inj h)
        simp
      · obtain ⟨p, hp, heq⟩ := Option.map_eq_some_iff.mp h
        obtain ⟨rfl, rfl⟩ := Prod.mk.inj heq
        have hshort := ih hp
        simp only [List.length_cons]
        omega

/-- What stands in parentheses is shorter. -/
theorem length_of_enclosed {ls inside : List Lexeme} (h : enclosed ls = some inside) :
    inside.length < ls.length := by
  unfold enclosed at h
  split at h
  · split at h
    · next hclosing =>
        obtain rfl := Option.some.inj h
        have hshort := length_of_upToClosing hclosing
        simp only [List.length_cons]
        omega
    · exact nomatch h
  · exact nomatch h

/-- Reads a text in pieces. -/
def read (ls : List Lexeme) : Formula :=
  match _ : splitLast "OR" 0 ls with
  | some (left, right) => .disj (read left) (read right)
  | none =>
    match _ : splitLast "AND" 0 ls with
    | some (left, right) => .conj (read left) (read right)
    | none =>
      match _ : enclosed ls with
      | some inside => read inside
      | none => .leaf ls
termination_by ls.length
decreasing_by
  · exact (length_of_splitLast ‹_›).1
  · exact (length_of_splitLast ‹_›).2
  · exact (length_of_splitLast ‹_›).1
  · exact (length_of_splitLast ‹_›).2
  · exact length_of_enclosed ‹_›

section

variable {ls left right inside : List Lexeme}

/-- A text with an `OR`. -/
theorem read_of_or (h : splitLast "OR" 0 ls = some (left, right)) :
    read ls = .disj (read left) (read right) := by
  rw [read]
  split
  · next hor =>
      obtain ⟨rfl, rfl⟩ := Prod.mk.inj (Option.some.inj (h.symm.trans hor))
      rfl
  · next hor => exact nomatch h.symm.trans hor

/-- A text with an `AND` but no `OR`. -/
theorem read_of_and (hor : splitLast "OR" 0 ls = none)
    (h : splitLast "AND" 0 ls = some (left, right)) :
    read ls = .conj (read left) (read right) := by
  rw [read]
  split
  · next hsome => exact nomatch hor.symm.trans hsome
  · split
    · next hand =>
        obtain ⟨rfl, rfl⟩ := Prod.mk.inj (Option.some.inj (h.symm.trans hand))
        rfl
    · next hand => exact nomatch h.symm.trans hand

/-- A text without keywords in a pair of parentheses around everything. -/
theorem read_of_enclosed (hor : splitLast "OR" 0 ls = none) (hand : splitLast "AND" 0 ls = none)
    (h : enclosed ls = some inside) : read ls = read inside := by
  rw [read]
  split
  · next hsome => exact nomatch hor.symm.trans hsome
  · split
    · next hsome => exact nomatch hand.symm.trans hsome
    · split
      · next hin =>
          obtain rfl := Option.some.inj (h.symm.trans hin)
          rfl
      · next hin => exact nomatch h.symm.trans hin

/-- Any other text. -/
theorem read_of_none (hor : splitLast "OR" 0 ls = none) (hand : splitLast "AND" 0 ls = none)
    (h : enclosed ls = none) : read ls = .leaf ls := by
  rw [read]
  split
  · next hsome => exact nomatch hor.symm.trans hsome
  · split
    · next hsome => exact nomatch hand.symm.trans hsome
    · split
      · next hin => exact nomatch h.symm.trans hin
      · rfl

end

/-! ### Cutting texts that are put together -/

/-- A word does not go on with the first of some characters. -/
def EndsWord (rest : List Char) : Prop := ∀ c ∈ rest.head?, ¬ Engine.Token.isNameRest c

/-- A word ends before a character that is in no word. -/
theorem endsWord_cons {c : Char} (h : ¬ Engine.Token.isNameRest c) (rest : List Char) :
    EndsWord (c :: rest) := by
  simpa [EndsWord] using h

/-- A character that is in no word is a piece of its own. -/
theorem attach_ofChar {c : Char} (h : ¬ Engine.Token.isNameRest c) (ls : List Lexeme) :
    attach (ofChar c) ls = ofChar c :: ls := by
  unfold ofChar
  rw [if_neg h]
  split_ifs <;> cases ls <;> rfl

/-- A piece before a character that is in no word. -/
theorem attach_before {c : Char} (h : ¬ Engine.Token.isNameRest c) (l : Lexeme) (ls : List Lexeme) :
    attach l (ofChar c :: ls) = l :: ofChar c :: ls := by
  unfold ofChar
  rw [if_neg h]
  split_ifs <;> cases l <;> rfl

/-- A text in two parts, of which the second does not go on with a word of the first. -/
theorem cut_append (cs : List Char) {cs' : List Char} (h : EndsWord cs') :
    cut (cs ++ cs') = cut cs ++ cut cs' := by
  have hattach : ∀ l ls, attach l (ls ++ cut cs') = attach l ls ++ cut cs' := by
    intro l ls
    cases ls with
    | cons l' ls => cases l <;> cases l' <;> rfl
    | nil =>
        cases cs' with
        | nil => cases l <;> rfl
        | cons c cs' =>
            have hc : ¬ Engine.Token.isNameRest c := h c (by simp)
            rw [cut, attach_ofChar hc, List.nil_append, attach_before hc]
            cases l <;> rfl
  induction cs with
  | nil => rfl
  | cons c cs ih => rw [List.cons_append, cut, ih, hattach, cut]

/-- The same for texts without their blanks. -/
theorem lexemes_append (s : String) {s' : String} (h : EndsWord s'.toList) :
    lexemes (s ++ s') = lexemes s ++ lexemes s' := by
  rw [lexemes, String.toList_append, cut_append _ h, List.filter_append, lexemes, lexemes]

/-- A word is one piece. -/
theorem cut_word {w : List Char} (h : ∀ c ∈ w, Engine.Token.isNameRest c) (hw : w ≠ []) :
    cut w = [.word w] := by
  induction w with
  | nil => exact absurd rfl hw
  | cons c w ih =>
      have hc : ofChar c = .word [c] := if_pos (h c List.mem_cons_self)
      cases w with
      | nil => rw [cut, hc]; rfl
      | cons c' w =>
          rw [cut, ih (fun c hc => h c (List.mem_cons_of_mem _ hc)) (by simp), hc]
          rfl

/-- A text that begins with a character that is in no word and is no blank. -/
theorem lexemes_of_first {c : Char} {s s' : String} (hs : s.toList = c :: s'.toList)
    (hc : ¬ Engine.Token.isNameRest c) (hblank : ofChar c ≠ .blank) :
    lexemes s = ofChar c :: lexemes s' := by
  rw [lexemes, hs, cut, attach_ofChar hc, List.filter_cons_of_pos (by simpa using hblank), lexemes]

/-- A text in parentheses. -/
theorem lexemes_paren (s : String) :
    lexemes ("(" ++ s ++ ")") = .opening :: (lexemes s ++ [.closing]) := by
  have hclose : EndsWord ")".toList := endsWord_cons (by decide) []
  have hopen : lexemes ("(" ++ s) = .opening :: lexemes s :=
    lexemes_of_first (c := '(') (by rw [String.toList_append]; rfl) (by decide) (by decide)
  rw [lexemes_append _ hclose, hopen]
  rfl

/-! ### Depth -/

section

variable {d e : Nat} {k : String} {ls : List Lexeme}

/-- The depth behind pieces in two parts. -/
theorem depthAfter_append (d : Nat) (ls ls' : List Lexeme) :
    depthAfter d (ls ++ ls') = depthAfter d ls >>= fun e => depthAfter e ls' :=
  List.foldlM_append ..

/-- The depth behind a first piece and others. -/
theorem depthAfter_cons (d : Nat) (l : Lexeme) (ls : List Lexeme) :
    depthAfter d (l :: ls) = step d l >>= fun e => depthAfter e ls :=
  List.foldlM_cons ..

/-- The depth behind pieces of which the first does not close too much. -/
theorem depthAfter_cons_eq_some {l : Lexeme} (h : depthAfter d (l :: ls) = some e) :
    ∃ d', step d l = some d' ∧ depthAfter d' ls = some e := by
  rw [depthAfter_cons] at h
  exact Option.bind_eq_some_iff.mp h

/-- The depth with one more pair of parentheses around everything. -/
theorem depthAfter_succ (h : depthAfter d ls = some e) : depthAfter (d + 1) ls = some (e + 1) := by
  induction ls generalizing d with
  | nil => exact congrArg (fun o => o.map (· + 1)) h
  | cons l ls ih =>
      obtain ⟨d', hstep, hrest⟩ := depthAfter_cons_eq_some h
      rw [depthAfter_cons, step_succ hstep]
      exact ih hrest

/-- A keyword behind some pieces without one. -/
theorem splitLast_append (hdepth : depthAfter d ls = some e) (hnone : splitLast k d ls = none)
    (rest : List Lexeme) :
    splitLast k d (ls ++ rest) = (splitLast k e rest).map fun p => (ls ++ p.1, p.2) := by
  induction ls generalizing d with
  | nil =>
      obtain rfl : d = e := Option.some.inj hdepth
      cases hrest : splitLast k d rest <;> simp [hrest]
  | cons l ls ih =>
      obtain ⟨d', hstep, hdepth⟩ := depthAfter_cons_eq_some hdepth
      rw [splitLast, hstep, Option.getD_some] at hnone
      rw [List.cons_append, splitLast, hstep, Option.getD_some]
      split at hnone
      · exact nomatch hnone
      · next hls =>
          rw [ih hdepth hls]
          cases splitLast k e rest with
          | none => simpa using hnone
          | some p => rfl

/-- Inside parentheses there are no keywords. -/
theorem splitLast_succ (h : depthAfter d ls = some e) : splitLast k (d + 1) ls = none := by
  induction ls generalizing d with
  | nil => rfl
  | cons l ls ih =>
      obtain ⟨d', hstep, hdepth⟩ := depthAfter_cons_eq_some h
      rw [splitLast, step_succ hstep, Option.getD_some, ih hdepth]
      simp

/-- A keyword behind a pair of parentheses. -/
theorem splitLast_nested (h : depthAfter 0 ls = some 0) (rest : List Lexeme) :
    splitLast k 0 (.opening :: (ls ++ .closing :: rest)) =
      (splitLast k 0 rest).map fun p => (.opening :: (ls ++ .closing :: p.1), p.2) := by
  have hclose : splitLast k 1 (.closing :: rest) =
      (splitLast k 0 rest).map fun p => (.closing :: p.1, p.2) := by
    change splitLast k 1 ([.closing] ++ rest) = _
    rw [splitLast_append (e := 0) rfl rfl]
    rfl
  change splitLast k 0 ([.opening] ++ (ls ++ .closing :: rest)) = _
  rw [splitLast_append (e := 1) rfl (by simp [splitLast, isKeyword]),
    splitLast_append (depthAfter_succ h) (splitLast_succ h), hclose, Option.map_map, Option.map_map]
  rfl

/-- The closing parenthesis behind some pieces that close none before. -/
theorem upToClosing_append (h : depthAfter d ls = some e) (rest : List Lexeme) :
    upToClosing d (ls ++ rest) = (upToClosing e rest).map fun p => (ls ++ p.1, p.2) := by
  induction ls generalizing d with
  | nil =>
      obtain rfl : d = e := Option.some.inj h
      cases hrest : upToClosing d rest <;> simp [hrest]
  | cons l ls ih =>
      obtain ⟨d', hstep, hdepth⟩ := depthAfter_cons_eq_some h
      rw [List.cons_append, upToClosing, hstep]
      simp only [ih hdepth, Option.map_map]
      rfl

/-- Where everything is closed, there is a closing parenthesis, whatever follows. -/
theorem upToClosing_of_closed (h : depthAfter (d + 1) ls = some 0) :
    ∃ inside after, ∀ rest, upToClosing d (ls ++ rest) = some (inside, after ++ rest) := by
  induction ls generalizing d with
  | nil => exact nomatch h
  | cons l ls ih =>
      obtain ⟨d', hstep, hdepth⟩ := depthAfter_cons_eq_some h
      cases hl : step d l with
      | none =>
          refine ⟨[], ls, fun rest => ?_⟩
          rw [List.cons_append, upToClosing, hl]
      | some e =>
          obtain rfl : e + 1 = d' := Option.some.inj ((step_succ hl).symm.trans hstep)
          obtain ⟨inside, after, hclosing⟩ := ih hdepth
          refine ⟨l :: inside, after, fun rest => ?_⟩
          rw [List.cons_append, upToClosing, hl]
          simp only [hclosing, Option.map_some]

end

/-! ### Texts in which parentheses match -/

/-- A text whose parentheses match. -/
def Balanced (s : String) : Prop := depthAfter 0 (s.toList.map ofChar) = some 0

instance : DecidablePred Balanced := fun s =>
  inferInstanceAs (Decidable (depthAfter 0 (s.toList.map ofChar) = some 0))

/-- Putting a piece before others keeps their parentheses. -/
theorem depthAfter_attach (d : Nat) (l : Lexeme) (ls : List Lexeme) :
    depthAfter d (attach l ls) = depthAfter d (l :: ls) := by
  cases l with
  | word cs =>
      cases ls with
      | nil => rfl
      | cons l' ls => cases l' <;> cases d <;> rfl
  | opening | closing | blank | mark c => rfl

/-- Cutting a text keeps its parentheses. -/
theorem depthAfter_cut (d : Nat) (cs : List Char) :
    depthAfter d (cut cs) = depthAfter d (cs.map ofChar) := by
  induction cs generalizing d with
  | nil => rfl
  | cons c cs ih =>
      rw [cut, depthAfter_attach, List.map_cons, depthAfter_cons, depthAfter_cons]
      exact bind_congr fun e => ih e

/-- Leaving blanks out does too. -/
theorem depthAfter_filter (d : Nat) (ls : List Lexeme) :
    depthAfter d (ls.filter (· ≠ .blank)) = depthAfter d ls := by
  induction ls generalizing d with
  | nil => rfl
  | cons l ls ih =>
      rw [depthAfter_cons]
      cases l with
      | blank =>
          rw [List.filter_cons_of_neg (by simp), ih]
          cases d <;> rfl
      | word cs | opening | closing | mark c =>
          rw [List.filter_cons_of_pos (by simp), depthAfter_cons]
          exact bind_congr fun e => ih e

/-- A text has the same parentheses in pieces. -/
theorem depthAfter_lexemes (d : Nat) (s : String) :
    depthAfter d (lexemes s) = depthAfter d (s.toList.map ofChar) := by
  rw [lexemes, depthAfter_filter, depthAfter_cut]

namespace Balanced

variable {s s' : String}

/-- In pieces, the parentheses match too. -/
theorem lexemes (h : Balanced s) : depthAfter 0 (lexemes s) = some 0 :=
  (depthAfter_lexemes 0 s).trans h

/-- Two texts after one another. -/
theorem append (h : Balanced s) (h' : Balanced s') : Balanced (s ++ s') := by
  rw [Balanced, String.toList_append, List.map_append, depthAfter_append, h]
  exact h'

/-- A text in parentheses. -/
theorem paren (h : Balanced s) : Balanced ("(" ++ s ++ ")") := by
  have hinside : depthAfter 1 (s.toList.map ofChar) = some 1 := depthAfter_succ h
  have hopen : depthAfter 0 ("(".toList.map ofChar) = some 1 := by decide
  have hclose : depthAfter 1 (")".toList.map ofChar) = some 0 := by decide
  rw [Balanced, String.toList_append, String.toList_append, List.map_append, List.map_append,
    depthAfter_append, depthAfter_append, hopen]
  change ((depthAfter 1 (s.toList.map ofChar)) >>= _) = _
  rw [hinside]
  exact hclose

/-- A text without parentheses. -/
theorem of_noParen (h : ∀ c ∈ s.toList, c ≠ '(' ∧ c ≠ ')') : Balanced s := by
  have hchars : ∀ cs : List Char, (∀ c ∈ cs, c ≠ '(' ∧ c ≠ ')') →
      depthAfter 0 (cs.map ofChar) = some 0 := by
    intro cs hcs
    induction cs with
    | nil => rfl
    | cons c cs ih =>
        obtain ⟨hopen, hclose⟩ := hcs c List.mem_cons_self
        have hstep : step 0 (ofChar c) = some 0 := by
          unfold ofChar
          rw [if_neg hopen, if_neg hclose]
          split_ifs <;> rfl
        rw [List.map_cons, depthAfter_cons, hstep]
        exact ih fun c hc => hcs c (List.mem_cons_of_mem _ hc)
  exact hchars s.toList h

end Balanced

/-- Parentheses match in a text that is spelled from words in which they match. -/
theorem balanced_of_spelled {sql : String} {names : List String}
    (h : Spelled Balanced sql names) : Balanced sql := by
  induction h with
  | word h => exact h
  | fixed h => exact .of_noParen fun c hc => (h c hc).2
  | placeholder h =>
      have hcolon : Balanced ":" := by decide
      refine hcolon.append (.of_noParen fun c hc => ?_)
      have hname := isNameChar_of_mem_name h c hc
      exact ⟨by rintro rfl; exact absurd hname (by decide),
        by rintro rfl; exact absurd hname (by decide)⟩
  | paren _ ih => exact ih.paren
  | append _ _ _ ih ih' => exact ih.append ih'

/-! ### Reading two conditions -/

section

variable {k : String} {ls : List Lexeme} {l r : String}

/-- A pair of parentheses around everything hides all keywords. -/
theorem splitLast_paren (h : depthAfter 0 ls = some 0) :
    splitLast k 0 (.opening :: (ls ++ [.closing])) = none := by
  rw [splitLast_nested h]
  rfl

/-- A pair of parentheses around everything does not change what is read. -/
theorem read_paren (h : depthAfter 0 ls = some 0) :
    read (.opening :: (ls ++ [.closing])) = read ls := by
  refine read_of_enclosed (splitLast_paren h) (splitLast_paren h) ?_
  rw [enclosed, upToClosing_append h]
  simp [upToClosing, step]

/-- A keyword in front of text that has none of its kind. -/
theorem splitLast_keyword {cs : List Char} (hnone : splitLast k 0 ls = none) :
    splitLast k 0 (.word cs :: ls) = if isKeyword k (.word cs) then some ([], ls) else none := by
  have hdepth : (step 0 (.word cs)).getD 0 = 0 := rfl
  rw [splitLast, hdepth, hnone]
  simp only [true_and]

/-- The pieces of two conditions in parentheses with a word between them. -/
theorem lexemes_sides (word : String) (cs : List Char) (hstart : StartsWith ' ' word)
    (hword : lexemes word = [.word cs]) :
    lexemes ("(" ++ l ++ (")" ++ word ++ "(") ++ r ++ ")") =
      .opening :: (lexemes l ++
        .closing :: .word cs :: .opening :: (lexemes r ++ [.closing])) := by
  have hsplit : "(" ++ l ++ (")" ++ word ++ "(") ++ r ++ ")" =
      ("(" ++ l ++ ")") ++ (word ++ ("(" ++ r ++ ")")) := by
    simp only [String.append_assoc]
  have hblank : EndsWord (word ++ ("(" ++ r ++ ")")).toList := by
    obtain ⟨rest, hrest⟩ := hstart.append ("(" ++ r ++ ")")
    rw [hrest]
    exact endsWord_cons (by decide) rest
  have hopen : EndsWord ("(" ++ r ++ ")").toList := by
    rw [String.toList_append, String.toList_append]
    exact endsWord_cons (by decide) _
  rw [hsplit, lexemes_append _ hblank, lexemes_append _ hopen, hword, lexemes_paren, lexemes_paren]
  simp

/-- Both of two conditions. -/
theorem read_conj (hl : Balanced l) (hr : Balanced r) :
    read (lexemes (Sqlite.dialect.conj l r)) = .conj (read (lexemes l)) (read (lexemes r)) := by
  have hcut : lexemes (Sqlite.dialect.conj l r) = _ :=
    lexemes_sides " AND " ['A', 'N', 'D'] ⟨_, rfl⟩ rfl
  have hright : ∀ k, splitLast k 0 (.word ['A', 'N', 'D'] ::
      .opening :: (lexemes r ++ [.closing])) = _ := fun k =>
    splitLast_keyword (splitLast_paren hr.lexemes)
  have hor := splitLast_nested (k := "OR") hl.lexemes (.word ['A', 'N', 'D'] ::
    .opening :: (lexemes r ++ [.closing]))
  have hand := splitLast_nested (k := "AND") hl.lexemes (.word ['A', 'N', 'D'] ::
    .opening :: (lexemes r ++ [.closing]))
  rw [hright, if_neg (by decide)] at hor
  rw [hright, if_pos (by decide)] at hand
  rw [hcut, read_of_and hor hand, read_paren hr.lexemes, read_paren hl.lexemes]

/-- At least one of two conditions. -/
theorem read_disj (hl : Balanced l) (hr : Balanced r) :
    read (lexemes (Sqlite.dialect.disj l r)) = .disj (read (lexemes l)) (read (lexemes r)) := by
  have hcut : lexemes (Sqlite.dialect.disj l r) = _ :=
    lexemes_sides " OR " ['O', 'R'] ⟨_, rfl⟩ rfl
  have hright : splitLast "OR" 0 (.word ['O', 'R'] ::
      .opening :: (lexemes r ++ [.closing])) = _ :=
    splitLast_keyword (splitLast_paren hr.lexemes)
  have hor := splitLast_nested (k := "OR") hl.lexemes (.word ['O', 'R'] ::
    .opening :: (lexemes r ++ [.closing]))
  rw [hright, if_pos (by decide)] at hor
  rw [hcut, read_of_or hor, read_paren hr.lexemes, read_paren hl.lexemes]

end

/-! ### Reading a leaf -/

/-- A text without a keyword outside parentheses. -/
def Atomic (s : String) : Prop := ∀ k ∈ ["AND", "OR"], splitLast k 0 (lexemes s) = none

instance : DecidablePred Atomic := fun s =>
  inferInstanceAs (Decidable (∀ k ∈ ["AND", "OR"], splitLast k 0 (lexemes s) = none))

/-- A column or expression that can be compared with something: its parentheses match, and there is
no keyword outside them. -/
structure Readable (column : String) : Prop where
  balanced : Balanced column
  atomic : Atomic column

section

variable {column : String}

/-- A text that begins with a column and does not end with it is a leaf, if nothing behind the
column is a keyword outside parentheses: the first parenthesis is closed before the end. -/
theorem read_leaf (h : Readable column) {tail : String} {l : Lexeme} {ls : List Lexeme}
    (hends : EndsWord tail.toList) (htail : Atomic tail) (hpieces : lexemes tail = l :: ls)
    (hl : l ≠ .opening) :
    read (lexemes (column ++ tail)) = .leaf (lexemes (column ++ tail)) := by
  rw [lexemes_append _ hends]
  have hdepth := h.balanced.lexemes
  have hnone : ∀ k ∈ ["AND", "OR"], splitLast k 0 (lexemes column ++ lexemes tail) = none := by
    intro k hk
    rw [splitLast_append hdepth (h.atomic k hk), htail k hk]
    rfl
  refine read_of_none (hnone "OR" (by simp)) (hnone "AND" (by simp)) ?_
  rw [hpieces]
  cases hcolumn : lexemes column with
  | nil => cases l <;> first | rfl | exact absurd rfl hl
  | cons c cs =>
      cases c with
      | word w | closing | blank | mark m => rfl
      | opening =>
          rw [hcolumn] at hdepth
          obtain ⟨inside, after, hclosing⟩ : ∃ inside after, ∀ rest,
              upToClosing 0 (cs ++ rest) = some (inside, after ++ rest) :=
            upToClosing_of_closed hdepth
          rw [List.cons_append, enclosed, hclosing]
          cases after <;> rfl

/-- The name of a parameter is one word and no keyword. -/
theorem lexemes_name {n : Nat} {name : String} (h : IsNameOf n name) :
    lexemes name = [.word name.toList] ∧
      ∀ k ∈ ["AND", "OR"], ¬ isKeyword k (.word name.toList) := by
  have hchars : ∀ c ∈ name.toList, Engine.Token.isNameRest c := by
    intro c hc
    have hname := isNameChar_of_mem_name h c hc
    simp only [isNameChar, Char.isAlphanum, Char.isDigit, Bool.or_eq_true, Bool.and_eq_true,
      decide_eq_true_eq, beq_iff_eq] at hname
    simp only [Engine.Token.isNameRest, Engine.Token.isNameStart, Engine.Numeral.isDigit,
      Bool.or_eq_true, Bool.and_eq_true, decide_eq_true_eq, beq_iff_eq]
    tauto
  have hfirst : ∃ rest, name.toList = 'p' :: rest := by
    rcases h with rfl | ⟨i, rfl⟩
    · exact ⟨_, toList_paramName n⟩
    · exact ⟨_, toList_elementName n i⟩
  obtain ⟨rest, hrest⟩ := hfirst
  refine ⟨?_, fun k hk => ?_⟩
  · rw [lexemes, cut_word hchars (by simp [hrest])]
    rfl
  · have hupper : Action.upperChar 'p' = 'P' := by decide
    rw [hrest, isKeyword, List.map_cons, hupper]
    rcases List.mem_pair.mp hk with rfl | rfl <;> simp

/-- A comparison with a parameter. -/
theorem read_leaf_equality (h : Readable column) {n : Nat} {name : String}
    (hname : IsNameOf n name) :
    read (lexemes (Sqlite.leaf column (.equality name))) =
      .leaf (lexemes (Sqlite.leaf column (.equality name))) := by
  obtain ⟨hword, hkeyword⟩ := lexemes_name hname
  have hcolon : lexemes (Sqlite.placeholder name) = .mark ':' :: lexemes name :=
    lexemes_of_first (c := ':') (by rw [Sqlite.placeholder, String.toList_append]; rfl)
      (by decide) (by decide)
  have hends : EndsWord (Sqlite.placeholder name).toList := by
    rw [Sqlite.placeholder, String.toList_append]
    exact endsWord_cons (by decide) _
  have hpieces : lexemes (" = " ++ Sqlite.placeholder name) =
      [.mark '=', .mark ':', .word name.toList] := by
    rw [lexemes_append _ hends, hcolon, hword]
    rfl
  have hatomic : Atomic (" = " ++ Sqlite.placeholder name) := by
    intro k hk
    have hmark : ∀ c, isKeyword k (.mark c) = false := fun _ => rfl
    simp [hpieces, splitLast, hkeyword k hk, hmark]
  have hstart : EndsWord (" = " ++ Sqlite.placeholder name).toList := by
    rw [String.toList_append]
    exact endsWord_cons (by decide) _
  have hread := read_leaf h hstart hatomic hpieces (by decide)
  rwa [← String.append_assoc] at hread

/-- A membership, in a list or in a nested select. -/
theorem read_leaf_membership (h : Readable column) {body : String} (hbody : Balanced body) :
    read (lexemes (column ++ " IN (" ++ body ++ ")")) =
      .leaf (lexemes (column ++ " IN (" ++ body ++ ")")) := by
  have hsplit : column ++ " IN (" ++ body ++ ")" = column ++ (" IN " ++ ("(" ++ body ++ ")")) := by
    have hopening : " IN (" = " IN " ++ "(" := rfl
    simp only [hopening, String.append_assoc]
  have hends : EndsWord ("(" ++ body ++ ")").toList := by
    rw [String.toList_append, String.toList_append]
    exact endsWord_cons (by decide) _
  have hpieces : lexemes (" IN " ++ ("(" ++ body ++ ")")) =
      .word ['I', 'N'] :: .opening :: (lexemes body ++ [.closing]) := by
    rw [lexemes_append _ hends, lexemes_paren]
    rfl
  have hatomic : Atomic (" IN " ++ ("(" ++ body ++ ")")) := by
    intro k hk
    rw [hpieces, splitLast_keyword (splitLast_paren hbody.lexemes)]
    rcases List.mem_pair.mp hk with rfl | rfl <;> exact if_neg (by decide)
  have hstart : EndsWord (" IN " ++ ("(" ++ body ++ ")")).toList := by
    rw [String.toList_append]
    exact endsWord_cons (by decide) _
  rw [hsplit]
  exact read_leaf h hstart hatomic hpieces (by decide)

/-- A test for null. -/
theorem read_leaf_isNull (h : Readable column) :
    read (lexemes (Sqlite.leaf column .isNull)) = .leaf (lexemes (Sqlite.leaf column .isNull)) :=
  read_leaf h (endsWord_cons (by decide) _) (by decide) rfl (by decide)

end

end TableGateway.Reading
