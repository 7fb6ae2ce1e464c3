import TableGateway.Proofs.Json.Scanning
import TableGateway.Json.Writer
import TableGateway.Json.Tree

/-!
# Reading what was written

The tree of a text is told by the first character: a word, a number, a string or an array. This
module says what is read from each of them, and from an array of bytes as a whole.

## Conventions

A number is written with its sign in front (`signOf`), and its digits are scanned without it.
`byteTree` is the tree of one byte. The steps that a reader may take are `fuel`; an array takes one
for each item and one for its end.

## Main results

* `Json.readValue_number`: numbers.
* `Json.readValue_text`: strings.
* `Json.readValue_bytes`: arrays of bytes.
-/

namespace TableGateway.Json

variable {fuel levels : Nat}

/-- Nothing is skipped in front of a character that is no blank. -/
theorem skipBlanks_cons {c : Char} (h : isBlank c = false) (cs : List Char) :
    skipBlanks (c :: cs) = c :: cs :=
  List.dropWhile_cons_of_neg (by simp [h])

/-- A digit is no blank. -/
theorem isBlank_of_isDigit {c : Char} (h : c.isDigit = true) : isBlank c = false := by
  have hne : ∀ d, d.isDigit = false → (c == d) = false := fun d hd =>
    beq_eq_false_iff_ne.mpr (ne_of_isDigit h hd)
  simp [isBlank, hne]

/-! ### Words -/

/-- The word for nothing. -/
theorem readValue_null : readValue (fuel + 1) levels "null".toList = .ok (.null, []) := by
  rw [readValue]
  rfl

/-- The word for true. -/
theorem readValue_true : readValue (fuel + 1) levels "true".toList = .ok (.bool true, []) := by
  rw [readValue]
  rfl

/-- The word for false. -/
theorem readValue_false : readValue (fuel + 1) levels "false".toList = .ok (.bool false, []) := by
  rw [readValue]
  rfl

/-! ### Numbers and strings -/

/-- The sign in front of a number. -/
def signOf (negative : Bool) : List Char := if negative then ['-'] else []

/-- The digits of an integer behind its sign. -/
theorem toList_toString_int (i : Int) :
    (toString i).toList = signOf (decide (i < 0)) ++ Nat.toDigits 10 i.natAbs := by
  cases i with
  | ofNat n =>
      change (Nat.repr n).toList = _
      simp [signOf]
  | negSucc n =>
      have hneg : Int.negSucc n < 0 := Int.negSucc_lt_zero n
      change ("-" ++ Nat.repr (n + 1)).toList = _
      simp [signOf, hneg, String.toList_append]

/-- **Numbers.** A number is what is scanned behind its sign. -/
theorem readValue_number {ds cs rest : List Char} {n : Number} (negative : Bool) (hds : Starts ds)
    (h : scanNumber (!negative) (ds ++ cs) = .ok (n, rest)) :
    readValue (fuel + 1) levels (signOf negative ++ (ds ++ cs)) = .ok (.number n, rest) := by
  obtain ⟨c, ds, rfl⟩ := List.exists_cons_of_ne_nil hds.nonempty
  have hc : c.isDigit = true := hds.digits c List.mem_cons_self
  have hdigit : isDigit c = true := hc
  have hne : ∀ d, d.isDigit = false → c ≠ d := fun d hd => ne_of_isDigit hc hd
  cases negative with
  | true =>
      rw [signOf, if_pos rfl, List.singleton_append, readValue, skipBlanks_cons rfl]
      have hscan : scanNumber false (c :: ds ++ cs) = .ok (n, rest) := h
      simp only [Char.reduceEq, if_false, if_true, hscan]
      rfl
  | false =>
      rw [signOf, if_neg (by simp), List.nil_append, List.cons_append, readValue,
        skipBlanks_cons (isBlank_of_isDigit hc)]
      have hscan : scanNumber true (c :: (ds ++ cs)) = .ok (n, rest) := h
      dsimp only
      rw [if_neg (hne 'n' rfl), if_neg (hne 't' rfl), if_neg (hne 'f' rfl), if_neg (hne '-' rfl),
        if_pos hdigit, hscan]
      rfl

/-- **Strings.** -/
theorem readValue_text (s : String) :
    readValue (fuel + 1) levels (writeText s).toList = .ok (.text s, []) := by
  have htext : (writeText s).toList = '"' :: (s.toList.flatMap escapeChar ++ ['"']) := by
    rw [writeText, String.toList_ofList, List.cons_append]
  have hscan : scanText (s.toList.flatMap escapeChar ++ ['"']) = .ok (s, []) := by
    unfold scanText
    rw [scanChars_escaped]
    change Except.ok (String.ofList s.toList, []) = _
    rw [String.ofList_toList]
  rw [htext, readValue, skipBlanks_cons rfl]
  simp only [Char.reduceEq, if_false, if_true, hscan]
  rfl

/-! ### Arrays of bytes -/

/-- The tree of a byte. -/
def byteTree (b : UInt8) : Json := .number (.natural b.toNat)

/-- A byte and what follows it. -/
theorem readValue_byte (b : UInt8) {rest : List Char} (hrest : EndsWhole rest) :
    readValue (fuel + 1) levels (Nat.toDigits 10 b.toNat ++ rest) = .ok (byteTree b, rest) :=
  readValue_number false (starts_toDigits _)
    (scanNumber_digits true (Nat.le_trans (Nat.le_of_lt b.toNat_lt) (by decide)) hrest)

/-- The bytes behind the first one. -/
def moreBytes (bytes : List UInt8) : List Char :=
  bytes.flatMap fun b => ',' :: Nat.toDigits 10 b.toNat

/-- What stands in front of an item. -/
def itemMark (first : Bool) : List Char := if first then [] else [',']

/-- The next byte. -/
theorem moreBytes_cons (b : UInt8) (bytes : List UInt8) (cs : List Char) :
    moreBytes (b :: bytes) ++ cs =
      itemMark false ++ (Nat.toDigits 10 b.toNat ++ (moreBytes bytes ++ cs)) := by
  simp [moreBytes, itemMark]

/-- No byte goes on behind another one. -/
theorem endsWhole_moreBytes (bytes : List UInt8) (rest : List Char) :
    EndsWhole (moreBytes bytes ++ ']' :: rest) := by
  have hbracket : EndsWhole (']' :: rest) := by simp [EndsWhole, isExponentMark]
  have hcomma : ∀ cs, EndsWhole (',' :: cs) := fun cs => by simp [EndsWhole, isExponentMark]
  cases bytes with
  | nil => exact hbracket
  | cons b bytes => exact hcomma _

/-- A byte is an item. -/
theorem nextItem?_byte (first : Bool) (b : UInt8) (cs : List Char) :
    nextItem? first (itemMark first ++ (Nat.toDigits 10 b.toNat ++ cs)) =
      .ok (some (Nat.toDigits 10 b.toNat ++ cs)) := by
  have hds := starts_toDigits b.toNat
  obtain ⟨c, ds, hcons⟩ := List.exists_cons_of_ne_nil hds.nonempty
  have hc : c.isDigit = true := hds.digits c (hcons ▸ List.mem_cons_self)
  have hskip : ∀ cs, skipBlanks (c :: cs) = c :: cs := skipBlanks_cons (isBlank_of_isDigit hc)
  have hne : c ≠ ']' := ne_of_isDigit hc rfl
  rw [hcons]
  cases first with
  | true => simp [nextItem?, itemMark, hskip]
  | false => simp [nextItem?, itemMark, skipBlanks_cons, hskip, hne, isBlank]

/-- One byte of an array, and those behind it. -/
theorem readItems_byte (first : Bool) (b : UInt8) (bytes : List UInt8) (rest : List Char) :
    readItems (fuel + 2) levels first
        (itemMark first ++ (Nat.toDigits 10 b.toNat ++ (moreBytes bytes ++ ']' :: rest))) =
      (readItems (fuel + 1) levels false (moreBytes bytes ++ ']' :: rest)).map fun read =>
        (byteTree b :: read.1, read.2) := by
  rw [readItems, nextItem?_byte]
  simp only [bind, Except.bind, readValue_byte b (endsWhole_moreBytes bytes rest)]
  cases readItems (fuel + 1) levels false (moreBytes bytes ++ ']' :: rest) <;> rfl

/-- The bytes behind the first one, up to the end of the array. By induction over the bytes. -/
theorem readItems_moreBytes (bytes : List UInt8) (rest : List Char)
    (hfuel : bytes.length < fuel) :
    readItems fuel levels false (moreBytes bytes ++ ']' :: rest) =
      .ok (bytes.map byteTree, ']' :: rest) := by
  induction bytes generalizing fuel with
  | nil =>
      obtain ⟨fuel, rfl⟩ : ∃ n, fuel = n + 1 := ⟨fuel - 1, by omega⟩
      rw [readItems]
      rfl
  | cons b bytes ih =>
      rw [List.length_cons] at hfuel
      obtain ⟨fuel, rfl⟩ : ∃ n, fuel = n + 2 := ⟨fuel - 2, by omega⟩
      rw [moreBytes_cons, readItems_byte, ih (by omega)]
      rfl

/-- The bytes between the brackets. -/
def bytesText (bytes : List UInt8) : List Char :=
  (joinWith "," (bytes.map fun b => toString b.toNat)).toList

/-- The first byte and those behind it. -/
theorem bytesText_cons (b : UInt8) (bytes : List UInt8) :
    bytesText (b :: bytes) = Nat.toDigits 10 b.toNat ++ moreBytes bytes := by
  induction bytes generalizing b with
  | nil => simp [bytesText, joinWith, moreBytes]
  | cons b' bytes ih =>
      have hstep : bytesText (b :: b' :: bytes) =
          Nat.toDigits 10 b.toNat ++ ',' :: bytesText (b' :: bytes) := by
        simp [bytesText, joinWith, String.toList_append]
      rw [hstep, ih]
      rfl

/-- An array of bytes is written with at least one character for each byte. -/
theorem length_le_bytesText (bytes : List UInt8) : bytes.length ≤ (bytesText bytes).length := by
  have hmore : ∀ bytes : List UInt8, bytes.length ≤ (moreBytes bytes).length := by
    intro bytes
    induction bytes with
    | nil => exact Nat.le_refl 0
    | cons b bytes ih => simp [moreBytes] at ih ⊢; omega
  cases bytes with
  | nil => exact Nat.zero_le _
  | cons b bytes =>
      have hdigit := List.length_pos_iff.mpr (Nat.toDigits_ne_nil (n := b.toNat) (b := 10))
      have h := hmore bytes
      rw [bytesText_cons, List.length_append, List.length_cons]
      omega

/-- **Arrays of bytes.** -/
theorem readValue_bytes (bytes : List UInt8) (hfuel : bytes.length + 1 < fuel)
    (hlevels : 1 < levels) :
    readValue (fuel + 1) levels ('[' :: (bytesText bytes ++ [']'])) =
      .ok (.array (bytes.map byteTree), []) := by
  have hitems : readItems fuel (levels - 1) true (bytesText bytes ++ [']']) =
      .ok (bytes.map byteTree, [']']) := by
    obtain ⟨fuel, rfl⟩ : ∃ n, fuel = n + 2 := ⟨fuel - 2, by omega⟩
    cases bytes with
    | nil =>
        rw [readItems]
        rfl
    | cons b bytes =>
        rw [List.length_cons] at hfuel
        rw [bytesText_cons, List.append_assoc]
        refine (readItems_byte true b bytes []).trans ?_
        rw [readItems_moreBytes bytes [] (by omega)]
        rfl
  have henter : enter levels = .ok (levels - 1) := if_neg (by omega)
  rw [readValue, skipBlanks_cons rfl]
  simp only [Char.reduceEq, if_false, if_true, henter, bind, Except.bind, hitems]
  rfl

end TableGateway.Json
