import Mathlib.Data.List.SplitBy
import TableGateway.Proofs.Query.Reading

/-!
# Cutting statements into pieces

A statement is read in two passes: its text is cut into pieces, and the pieces are split where a
clause or an entry of a list begins. This module has both passes, for any kind of piece to split
at, and says when a text comes through the second one in one part. Nothing here knows the grammar.

## Cutting convention

A blank, a comma and a parenthesis are pieces of their own; everything between them is one piece.
Nothing is lost, so that a text can be put together again from its pieces. A split takes place
outside parentheses only.

## Main results

* `pieces_separator`, `pieces_comma`, `pieces_paren`: the pieces of texts that are put together.
* `Uncut.of_balanced`, `Uncut.paren`: whatever stands in matching parentheses can be passed.
* `split_append`: pieces that can be passed stay together.
* `listed_joinWith`: the entries of a list are found again.
-/

namespace TableGateway.Template

open Reading (depthAfter depthAfter_append Balanced)

/-! ### Pieces -/

/-- A word of a text, or one of the characters between words. -/
abbrev Piece := List Char

/-- A character that is a piece of its own. -/
def isSeparator (c : Char) : Bool := c == ' ' || c == ',' || c == '(' || c == ')'

/-- The pieces of some characters. -/
def cut (cs : List Char) : List Piece := cs.splitBy fun a b => !isSeparator a && !isSeparator b

/-- The pieces of a text. -/
def pieces (s : String) : List Piece := cut s.toList

/-- The text of some pieces. -/
def textOf (ps : List Piece) : String := String.ofList ps.flatten

/-- The piece between two words. -/
abbrev blank : Piece := [' ']

/-- The piece behind an entry of a list. -/
abbrev comma : Piece := [',']

/-- Cutting loses nothing. -/
theorem textOf_pieces (s : String) : textOf (pieces s) = s := by
  rw [textOf, pieces, cut, List.flatten_splitBy, String.ofList_toList]

/-- Around a separator, everything is cut as if it stood alone. -/
theorem cut_separator {c : Char} (h : isSeparator c) (l m : List Char) :
    cut (l ++ c :: m) = cut l ++ [c] :: cut m := by
  have hbehind : cut (c :: m) = [c] :: cut m := by
    have hcut := List.splitBy_append (l := [c]) (m := m)
      (r := fun a b => !isSeparator a && !isSeparator b) (by simp [h])
    exact hcut
  rw [← hbehind]
  exact List.splitBy_append_cons m (by simp [h])

/-- A word is one piece. -/
theorem cut_word {w : List Char} (hne : w ≠ []) (h : ∀ c ∈ w, ¬ isSeparator c) : cut w = [w] := by
  refine List.splitBy_of_isChain hne (List.Pairwise.isChain ?_)
  rw [List.pairwise_iff_forall_sublist]
  intro a b hab
  simp [h a (hab.subset (by simp)), h b (hab.subset (by simp))]

/-- A piece is a separator or has none. -/
theorem separator_or_word {cs : List Char} {p : Piece} (hp : p ∈ cut cs) :
    (∃ c, isSeparator c ∧ p = [c]) ∨ ∀ c ∈ p, ¬ isSeparator c := by
  have hchain := List.isChain_of_mem_splitBy hp
  clear hp
  induction p with
  | nil => exact .inr (by simp)
  | cons a p ih =>
      cases p with
      | nil =>
          by_cases ha : isSeparator a
          · exact .inl ⟨a, ha, rfl⟩
          · exact .inr (by simp [ha])
      | cons b p =>
          obtain ⟨hab, hchain⟩ := List.isChain_cons_cons.mp hchain
          simp only [Bool.and_eq_true, Bool.not_eq_true'] at hab
          refine .inr (List.forall_mem_cons.mpr ⟨by simp [hab.1], ?_⟩)
          rcases ih hchain with ⟨c, hc, heq⟩ | hword
          · obtain ⟨rfl, -⟩ := List.cons.inj heq
            exact absurd hc (by simp [hab.2])
          · exact hword

/-- The pieces of two texts with a separator between them. -/
theorem pieces_separator {c : Char} (sep : String) (hsep : sep.toList = [c]) (h : isSeparator c)
    (s s' : String) : pieces (s ++ sep ++ s') = pieces s ++ [c] :: pieces s' := by
  rw [pieces, String.toList_append, String.toList_append, hsep, List.append_assoc,
    List.singleton_append, cut_separator h, pieces, pieces]

/-- Two texts with a blank between them. -/
theorem pieces_blank (s s' : String) : pieces (s ++ " " ++ s') = pieces s ++ blank :: pieces s' :=
  pieces_separator " " rfl (by decide) s s'

/-- A text behind a blank. -/
theorem pieces_behind (s : String) : pieces (" " ++ s) = blank :: pieces s := by
  have h := pieces_blank "" s
  rwa [String.empty_append] at h

/-- Two entries of a list. -/
theorem pieces_comma (s s' : String) :
    pieces (s ++ ", " ++ s') = pieces s ++ comma :: blank :: pieces s' := by
  have hcomma := pieces_separator (c := ',') "," rfl (by decide) s (" " ++ s')
  rw [pieces_behind] at hcomma
  rw [← hcomma]
  simp only [String.append_assoc]
  rfl

/-- A text in parentheses. -/
theorem pieces_paren (s : String) :
    pieces ("(" ++ s ++ ")") = ['('] :: (pieces s ++ [[')']]) := by
  have hopen := pieces_separator (c := '(') "(" rfl (by decide) "" s
  have hclose := pieces_separator (c := ')') ")" rfl (by decide) ("(" ++ s) ""
  rw [String.empty_append] at hopen
  rw [String.append_empty] at hclose
  rw [hclose, hopen]
  rfl

/-! ### Passing -/

variable {isCut isCut' : Piece → Bool} {d e : Nat} {ps : List Piece} {s s' : String}

/-- How many parentheses are open behind a piece, if `d` are before it. A piece to split at outside
parentheses cannot be passed, nor one that closes what was not opened. -/
def pass (isCut : Piece → Bool) (d : Nat) (p : Piece) : Option Nat :=
  if p = ['('] then some (d + 1)
  else if p = [')'] then (if d = 0 then none else some (d - 1))
  else if d = 0 ∧ isCut p then none else some d

/-- No place to split. -/
def nowhere : Piece → Bool := fun _ => false

/-- A text that can be passed as a whole. -/
def Uncut (isCut : Piece → Bool) (s : String) : Prop := (pieces s).foldlM (pass isCut) 0 = some 0

instance (isCut : Piece → Bool) : DecidablePred (Uncut isCut) := fun s =>
  inferInstanceAs (Decidable ((pieces s).foldlM (pass isCut) 0 = some 0))

/-- A piece that is neither a place to split nor a parenthesis. -/
def Flat (isCut : Piece → Bool) (p : Piece) : Prop :=
  isCut p = false ∧ p ≠ ['('] ∧ p ≠ [')']

instance (isCut : Piece → Bool) : DecidablePred (Flat isCut) := fun p =>
  inferInstanceAs (Decidable (isCut p = false ∧ p ≠ ['('] ∧ p ≠ [')']))

/-- Such a piece can be passed. -/
theorem Flat.pass {p : Piece} (h : Flat isCut p) : pass isCut d p = some d := by
  rw [Template.pass, if_neg h.2.1, if_neg h.2.2, if_neg (by simp [h.1])]

/-- So can several. -/
theorem pass_flat (h : ∀ p ∈ ps, Flat isCut p) : ps.foldlM (pass isCut) d = some d := by
  induction ps with
  | nil => rfl
  | cons p ps ih =>
      rw [List.foldlM_cons, (h p List.mem_cons_self).pass]
      exact ih fun p hp => h p (List.mem_cons_of_mem _ hp)

/-- What can be passed with more places to split can be passed with fewer. -/
theorem pass_mono (hle : ∀ p, isCut p → isCut' p) (h : ps.foldlM (pass isCut') d = some e) :
    ps.foldlM (pass isCut) d = some e := by
  induction ps generalizing d with
  | nil => exact h
  | cons p ps ih =>
      rw [List.foldlM_cons] at h ⊢
      obtain ⟨d', hp, hps⟩ := Option.bind_eq_some_iff.mp h
      have hpass : pass isCut d p = some d' := by
        have hcut : d = 0 ∧ isCut p → d = 0 ∧ isCut' p := And.imp_right (hle p)
        unfold pass at hp ⊢
        split_ifs at hp ⊢ <;> tauto
      rw [hpass]
      exact ih hps

/-- A character that is no parenthesis leaves the depth alone. -/
theorem depthAfter_word {cs : List Char} (h : ∀ c ∈ cs, ¬ isSeparator c) (d : Nat) :
    depthAfter d (cs.map .ofChar) = some d := by
  induction cs with
  | nil => rfl
  | cons c cs ih =>
      have hc := h c List.mem_cons_self
      have hstep : Reading.Lexeme.step d (.ofChar c) = some d := by
        unfold Reading.Lexeme.ofChar
        rw [if_neg (c := c = '(') (by rintro rfl; exact hc (by decide)),
          if_neg (c := c = ')') (by rintro rfl; exact hc (by decide))]
        split_ifs <;> cases d <;> rfl
      rw [List.map_cons, Reading.depthAfter_cons, hstep]
      exact ih fun c hc => h c (List.mem_cons_of_mem _ hc)

/-- A piece has the parentheses of its characters. -/
theorem pass_piece {p : Piece} (hp : (∃ c, isSeparator c ∧ p = [c]) ∨ ∀ c ∈ p, ¬ isSeparator c)
    (h : depthAfter d (p.map .ofChar) = some e) : pass nowhere d p = some e := by
  rcases hp with ⟨c, hc, rfl⟩ | hword
  · simp only [isSeparator, Bool.or_eq_true, beq_iff_eq] at hc
    rcases hc with ((rfl | rfl) | rfl) | rfl <;> cases d <;> exact h
  · obtain rfl : d = e := Option.some.inj ((depthAfter_word hword d).symm.trans h)
    refine Flat.pass ⟨rfl, ?_, ?_⟩
    · rintro rfl
      exact hword '(' (by simp) (by decide)
    · rintro rfl
      exact hword ')' (by simp) (by decide)

/-- Pieces have the parentheses of their characters. -/
theorem pass_pieces (hps : ∀ p ∈ ps, (∃ c, isSeparator c ∧ p = [c]) ∨ ∀ c ∈ p, ¬ isSeparator c)
    (h : depthAfter d (ps.flatten.map .ofChar) = some e) :
    ps.foldlM (pass nowhere) d = some e := by
  induction ps generalizing d with
  | nil => exact h
  | cons p ps ih =>
      rw [List.flatten_cons, List.map_append, depthAfter_append] at h
      obtain ⟨d', hp, hrest⟩ := Option.bind_eq_some_iff.mp h
      rw [List.foldlM_cons, pass_piece (hps p List.mem_cons_self) hp]
      exact ih (fun p hp => hps p (List.mem_cons_of_mem _ hp)) hrest

/-- With one more parenthesis open, there is no place to split. -/
theorem pass_succ (h : ps.foldlM (pass nowhere) d = some e) :
    ps.foldlM (pass isCut) (d + 1) = some (e + 1) := by
  induction ps generalizing d with
  | nil => exact congrArg (Option.map (· + 1)) h
  | cons p ps ih =>
      rw [List.foldlM_cons] at h ⊢
      obtain ⟨d', hp, hps⟩ := Option.bind_eq_some_iff.mp h
      have hpass : pass isCut (d + 1) p = some (d' + 1) := by
        unfold pass at hp ⊢
        split_ifs at hp ⊢ <;> simp_all
        omega
      rw [hpass]
      exact ih hps

namespace Uncut

/-- Fewer places to split. -/
theorem mono (hle : ∀ p, isCut p → isCut' p) (h : Uncut isCut' s) : Uncut isCut s :=
  pass_mono hle h

/-- A text of flat pieces. -/
theorem of_flat (h : ∀ p ∈ pieces s, Flat isCut p) : Uncut isCut s := pass_flat h

/-- A text whose parentheses match can be passed if there is no place to split. -/
theorem of_balanced (h : Balanced s) : Uncut nowhere s := by
  have hflatten : (pieces s).flatten = s.toList := List.flatten_splitBy ..
  exact pass_pieces (fun p hp => separator_or_word hp) (by rw [hflatten]; exact h)

/-- A text in parentheses, whatever it has that could be split at outside them. -/
theorem paren (h : Uncut nowhere s) : Uncut isCut ("(" ++ s ++ ")") := by
  have hinside : (pieces s).foldlM (pass isCut) 1 = some 1 := pass_succ h
  rw [Uncut, pieces_paren, List.foldlM_cons]
  change (pieces s ++ [[')']]).foldlM (pass isCut) 1 = some 0
  rw [List.foldlM_append, hinside]
  rfl

/-- Nothing at all. -/
theorem empty : Uncut isCut "" := rfl

/-- Two texts with flat pieces between them. -/
theorem append (hbetween : ∀ p ∈ ps, Flat isCut p) {t : String}
    (ht : pieces t = pieces s ++ ps ++ pieces s') (h : Uncut isCut s) (h' : Uncut isCut s') :
    Uncut isCut t := by
  rw [Uncut, ht, List.foldlM_append, List.foldlM_append, h]
  change (ps.foldlM (pass isCut) 0 >>= fun e => (pieces s').foldlM (pass isCut) e) = some 0
  rw [pass_flat hbetween]
  exact h'

/-- Two texts with a blank between them. -/
theorem blank (hblank : isCut blank = false) (h : Uncut isCut s) (h' : Uncut isCut s') :
    Uncut isCut (s ++ " " ++ s') := by
  have hflat : ∀ p ∈ [Template.blank], Flat isCut p := by simp [Flat, hblank]
  exact .append hflat (by rw [pieces_blank, List.append_assoc]; rfl) h h'

/-- Texts with a separator between them. -/
theorem joinWith {sep : String} {items : List String}
    (hsep : ∀ {s s' : String}, Uncut isCut s → Uncut isCut s' → Uncut isCut (s ++ sep ++ s'))
    (h : ∀ s ∈ items, Uncut isCut s) : Uncut isCut (joinWith sep items) := by
  induction items with
  | nil => exact empty
  | cons item items ih =>
      have hitem : Uncut isCut item := h item List.mem_cons_self
      have hitems := ih fun s hs => h s (List.mem_cons_of_mem _ hs)
      cases items with
      | nil => exact hitem
      | cons next items => exact hsep hitem hitems

end Uncut

/-! ### Splitting -/

/-- Splits pieces where they cannot be passed, with `d` parentheses open at the start: the pieces
before the first split, and each piece to split at with the pieces up to the next one. -/
def split (isCut : Piece → Bool) : Nat → List Piece → List Piece × List (Piece × List Piece)
  | _, [] => ([], [])
  | d, p :: ps =>
    match pass isCut d p with
    | some e => (p :: (split isCut e ps).1, (split isCut e ps).2)
    | none => ([], (p, (split isCut 0 ps).1) :: (split isCut 0 ps).2)

/-- Pieces that can be passed stay together. -/
theorem split_append (h : ps.foldlM (pass isCut) d = some e) (rest : List Piece) :
    split isCut d (ps ++ rest) = (ps ++ (split isCut e rest).1, (split isCut e rest).2) := by
  induction ps generalizing d with
  | nil =>
      obtain rfl := Option.some.inj h
      rfl
  | cons p ps ih =>
      rw [List.foldlM_cons] at h
      obtain ⟨d', hp, hps⟩ := Option.bind_eq_some_iff.mp h
      rw [List.cons_append, split, hp]
      simp only [ih hps, List.cons_append]

/-- Whether a piece ends an entry of a list. -/
def isComma (p : Piece) : Bool := p == comma

/-- The entries of a list; behind a comma stands a blank. -/
def listed (ps : List Piece) : Option (List (List Piece)) := do
  let (first, rest) := split isComma 0 ps
  let others ← rest.mapM fun (p, qs) =>
    if p = comma ∧ qs.head? = some blank then some qs.tail else none
  return first :: others

/-- What is read of each of several entries. -/
theorem mapM_map_eq_some {α β γ : Type} {f : α → β} {g : β → Option γ} {k : α → γ} {l : List α}
    (h : ∀ a ∈ l, g (f a) = some (k a)) : (l.map f).mapM g = some (l.map k) := by
  induction l with
  | nil => rfl
  | cons a l ih =>
      rw [List.map_cons, List.mapM_cons, h a List.mem_cons_self,
        ih fun a ha => h a (List.mem_cons_of_mem _ ha)]
      rfl

/-- A list is split into its entries. -/
theorem split_joinWith {item : String} {items : List String}
    (h : ∀ s ∈ item :: items, Uncut isComma s) :
    split isComma 0 (pieces (joinWith ", " (item :: items))) =
      (pieces item, items.map fun s => (comma, blank :: pieces s)) := by
  induction items generalizing item with
  | nil =>
      have hitem := split_append (h item (by simp)) []
      rw [List.append_nil] at hitem
      rw [joinWith, hitem]
      simp [split]
  | cons next items ih =>
      have hnext := ih fun s hs => h s (List.mem_cons_of_mem _ hs)
      have hcomma : ∀ ps, split isComma 0 (comma :: blank :: ps) =
          ([], (comma, blank :: (split isComma 0 ps).1) :: (split isComma 0 ps).2) := fun _ => rfl
      have hjoin : joinWith ", " (item :: next :: items) =
          item ++ ", " ++ joinWith ", " (next :: items) := rfl
      rw [hjoin, pieces_comma, split_append (h item (by simp)), hcomma, hnext]
      simp

/-- The entries of a list are found again. -/
theorem listed_joinWith {items : List String} (hne : items ≠ [])
    (h : ∀ s ∈ items, Uncut isComma s) :
    listed (pieces (joinWith ", " items)) = some (items.map pieces) := by
  cases items with
  | nil => exact absurd rfl hne
  | cons item items =>
      have hothers := mapM_map_eq_some (l := items) (f := fun s => (comma, blank :: pieces s))
        (g := fun e : Piece × List Piece =>
          if e.1 = comma ∧ e.2.head? = some blank then some e.2.tail else none)
        (k := pieces) (fun _ _ => rfl)
      rw [listed, split_joinWith h]
      simp only [hothers]
      rfl

end TableGateway.Template
