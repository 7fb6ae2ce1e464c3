import TableGateway.Proofs.Json.Reals

/-!
# Kinds of values

A JSON text does not say what kind of value it is. The kinds are tried one after another, and the
value is that of the first one that can read the text; so each kind can shadow those behind it. This
module says what each kind reads, and that what is written for a value is read by its own kind and
by none before it, unless it is a real that is not finite: that one is written as null.

## Conventions

A kind reads a tree, and the tree is read from the whole text before any kind is tried.

## Main results

* `Value.ofJson_eq_first`: the value is that of the first kind.
* `Value.ReadAs.parse`: a text that is read as a value.
* `Value.readAs_plain`: what is written for a value that is no real.
* `Value.readAs_finite`: what is written for a finite real.
* `Value.written_returns`: what comes back of any value.
-/

namespace TableGateway

/-- The kinds of values. -/
inductive Kind where
  | null
  | bool
  | integer
  | real
  | text
  | blob
  deriving DecidableEq, Repr

namespace Kind

/-- The order in which the kinds are tried. -/
@[simp]
def order : List Kind := [null, bool, integer, real, text, blob]

/-- The kinds that are tried before one. -/
@[simp]
def earlier (k : Kind) : List Kind := order.takeWhile (· ≠ k)

/-- Every kind is tried, after those before it. -/
theorem order_eq (k : Kind) : ∃ later, order = k.earlier ++ k :: later := by
  cases k <;> exact ⟨_, rfl⟩

/-- What a kind reads. An integer has 64 bits and a sign, a real may be written without a point, and
a blob is an array of bytes. -/
@[simp]
def read? : Kind → Json → Option Value
  | null, .null => some .null
  | bool, .bool b => some (.bool b)
  | integer, .number (.natural n) =>
    if n < Json.minMagnitude then some (.integer (Int64.ofNat n)) else none
  | integer, .number (.negative n) => some (.integer (Int64.ofInt (-(n : Int))))
  | real, .number (.natural n) => some (.real (Binary64.ofNat n))
  | real, .number (.negative n) => some (.real (Binary64.ofInt (-(n : Int))))
  | real, .number (.real x) => some (.real x)
  | text, .text s => some (.text s)
  | blob, .array items => (items.mapM Value.byteOfJson?).map .blob
  | _, _ => none

end Kind

namespace Value

/-- The kind of a value. -/
@[simp]
def kind : Value → Kind
  | null => .null
  | bool _ => .bool
  | integer _ => .integer
  | real _ => .real
  | text _ => .text
  | blob _ => .blob

/-- **The first kind.** The value of a tree is that of the first kind that reads it. -/
theorem ofJson_eq_first (tree : Json) :
    ofJson tree = (Kind.order.findSome? fun k => k.read? tree).elim (.error .mismatched) .ok := by
  cases tree with
  | null | bool b | text s | object fields => rfl
  | number n =>
      cases n with
      | natural n =>
          unfold ofJson
          by_cases hn : n < Json.minMagnitude
          · simp [Kind.order, Kind.read?, hn]
          · simp [Kind.order, Kind.read?, hn]
      | negative n | real x => rfl
  | array items =>
      unfold ofJson
      cases hbytes : items.mapM byteOfJson? <;> simp [Kind.order, Kind.read?, hbytes]

/-- A text is read as a value: its tree is read to the end, the kind of the value reads it, and no
kind before that one does. -/
structure ReadAs (text : String) (v : Value) : Prop where
  read : ∃ tree, Json.readTree text.toList = .ok (tree, []) ∧ v.kind.read? tree = some v ∧
    ∀ k ∈ v.kind.earlier, k.read? tree = none

/-- Such a text is the text of the value. -/
theorem ReadAs.parse {text : String} {v : Value} (h : ReadAs text v) :
    Value.parse text = .ok v := by
  obtain ⟨tree, htree, hown, hearlier⟩ := h.read
  have hfirst : (Kind.order.findSome? fun k => k.read? tree) = some v := by
    obtain ⟨later, horder⟩ := v.kind.order_eq
    rw [horder, List.findSome?_append, List.findSome?_eq_none_iff.mpr hearlier,
      List.findSome?_cons, hown]
    rfl
  have hof : ofJson tree = .ok v := by rw [ofJson_eq_first, hfirst]; rfl
  unfold Value.parse
  rw [htree]
  change (ofJson tree >>= fun value => Json.finish [] >>= fun _ => pure value) = _
  rw [hof]
  rfl

/-- **Integers**, up to both ends of their range. Zero has no sign, so a sign always tells a
negative number. -/
theorem readAs_integer (n : Int64) : ReadAs (Json.writeValue (.integer n)) (.integer n) := by
  have hback : Int64.ofInt n.toInt = n := Int64.ofInt_toInt n
  have hlow := n.le_toInt
  have hhigh := n.toInt_lt
  have htext : (Json.writeValue (.integer n)).toList =
      Json.signOf (decide (n.toInt < 0)) ++ (Nat.toDigits 10 n.toInt.natAbs ++ []) := by
    rw [List.append_nil]
    exact Json.toList_toString_int n.toInt
  have hread : Json.readTree (Json.writeValue (.integer n)).toList =
      .ok (.number (Json.wholeNumber (!decide (n.toInt < 0)) n.toInt.natAbs), []) := by
    rw [htext]
    exact Json.readValue_number _ (Json.starts_toDigits _)
      (Json.scanNumber_digits _ (by simp [Json.maxNatural]; omega) (by simp [Json.EndsWhole]))
  by_cases hneg : n.toInt < 0
  · have hvalue : -(n.toInt.natAbs : Int) = n.toInt := by omega
    have hfits : n.toInt.natAbs ≤ Json.minMagnitude := by
      simp only [Json.minMagnitude]
      omega
    have hwhole := Json.wholeNumber_negative (by omega) hfits
    simp only [hneg, decide_true, Bool.not_true, hwhole] at hread
    exact ⟨_, hread, by simp only [Kind.read?, kind, hvalue, hback], by simp⟩
  · have hvalue : (n.toInt.natAbs : Int) = n.toInt := by omega
    have hfits : n.toInt.natAbs < Json.minMagnitude := by
      simp only [Json.minMagnitude]
      omega
    have hown : Int64.ofNat n.toInt.natAbs = n := by
      rw [← Int64.ofInt_eq_ofNat, hvalue, hback]
    simp only [hneg, decide_false, Bool.not_false] at hread
    exact ⟨_, hread,
      by simp only [Json.wholeNumber, if_true, Kind.read?, kind, if_pos hfits, hown], by simp⟩

/-- The trees of bytes are bytes. -/
theorem mapM_byteTree (bytes : List UInt8) :
    (bytes.map Json.byteTree).mapM byteOfJson? = some bytes := by
  induction bytes with
  | nil => rfl
  | cons b bytes ih =>
      have hb : byteOfJson? (Json.byteTree b) = some b := by
        simp [byteOfJson?, Json.byteTree, b.toNat_lt]
      rw [List.map_cons, List.mapM_cons, hb, ih]
      rfl

/-- **Blobs.** The array is one of bytes, and no kind before reads an array. -/
theorem readAs_blob (bytes : List UInt8) :
    ReadAs (Json.writeValue (.blob bytes)) (.blob bytes) := by
  have htext : (Json.writeValue (.blob bytes)).toList = '[' :: (Json.bytesText bytes ++ [']']) := by
    simp [Json.writeValue, Json.bytesText, String.toList_append]
  have hlength := Json.length_le_bytesText bytes
  have hown : Kind.blob.read? (.array (bytes.map Json.byteTree)) = some (.blob bytes) := by
    rw [Kind.read?, mapM_byteTree]
    rfl
  refine ⟨.array (bytes.map Json.byteTree), ?_, hown, by simp⟩
  rw [htext]
  exact Json.readValue_bytes bytes (by simp; omega) (by decide)

/-- What is written for a value that is no real is read as the value. -/
theorem readAs_plain (v : Value) (hreal : v.kind ≠ .real) : ReadAs (Json.writeValue v) v := by
  cases v with
  | null => exact ⟨.null, Json.readValue_null, rfl, by simp⟩
  | bool b =>
      cases b with
      | true => exact ⟨.bool true, Json.readValue_true, rfl, by simp⟩
      | false => exact ⟨.bool false, Json.readValue_false, rfl, by simp⟩
  | integer n => exact readAs_integer n
  | real x => exact absurd rfl hreal
  | text s => exact ⟨.text s, Json.readValue_text s, rfl, by simp⟩
  | blob bytes => exact readAs_blob bytes

/-! ### Reals -/

/-- What is written for a finite real is read as a finite real of the same sign. -/
theorem readAs_finite {x : Binary64} (hfinite : x.isFinite = true) :
    ∃ y : Binary64, ReadAs (Json.writeValue (.real x)) (.real y) ∧ y.isFinite = true ∧
      y.isNegative = x.isNegative := by
  obtain ⟨y, hread, hy, hsign⟩ := Json.readValue_real hfinite
  exact ⟨y, ⟨_, hread, rfl, by simp⟩, hy, hsign⟩

/-- A real that is not finite has no text of its own. -/
theorem writeValue_of_not_finite {x : Binary64} (hfinite : x.isFinite = false) :
    Json.writeValue (.real x) = "null" := by
  change (x.exponential?).getD "null" = "null"
  rw [Binary64.exponential?, if_pos (by rw [hfinite]; rfl), Option.getD_none]

/-! ### Any value -/

/-- What is to come back of a value. A real that is not finite is lost, a finite one comes back as a
finite real of the same sign, and every other value as it was. -/
def Returns : Value → Value → Prop
  | real x, w =>
    if x.isFinite then ∃ y : Binary64, w = real y ∧ y.isFinite = true ∧ y.isNegative = x.isNegative
    else w = null
  | v, w => w = v

/-- Values other than reals come back as they were. -/
theorem returns_plain {v : Value} (hreal : v.kind ≠ .real) : v.Returns v := by
  cases v with
  | real x => exact absurd rfl hreal
  | null | bool _ | integer _ | text _ | blob _ => rfl

/-- Only null comes back as null, apart from the reals that are lost. -/
theorem Returns.of_null {v : Value} (h : v.Returns null) :
    v = null ∨ ∃ x, v = real x ∧ x.isFinite = false := by
  cases v with
  | null => exact .inl rfl
  | real x =>
      cases hfinite : x.isFinite with
      | false => exact .inr ⟨x, rfl, hfinite⟩
      | true =>
          simp only [Returns, hfinite, if_true] at h
          obtain ⟨y, hnull, -⟩ := h
          cases hnull
  | bool _ | integer _ | text _ | blob _ => cases h

/-- **What is written comes back.** The text of any value is read, by the kind of what is to come
back and by no kind before that one; and `null` is written for null and the reals that are not
finite alone. -/
theorem written_returns (v : Value) :
    (∃ w, v.Returns w ∧ ReadAs (Json.writeValue v) w ∧ parse (Json.writeValue v) = .ok w) ∧
      (Json.writeValue v = "null" ↔ v = null ∨ ∃ x, v = real x ∧ x.isFinite = false) := by
  have hreturns : ∃ w, v.Returns w ∧ ReadAs (Json.writeValue v) w := by
    by_cases hplain : v.kind ≠ .real
    · exact ⟨v, returns_plain hplain, readAs_plain v hplain⟩
    · obtain ⟨x, rfl⟩ : ∃ x, v = real x := by cases v <;> simp_all
      cases hfinite : x.isFinite with
      | true =>
          obtain ⟨y, hread, hy, hsign⟩ := readAs_finite hfinite
          exact ⟨real y, by simpa [Returns, hfinite] using ⟨hy, hsign⟩, hread⟩
      | false =>
          refine ⟨null, by simp [Returns, hfinite], ?_⟩
          rw [writeValue_of_not_finite hfinite]
          exact readAs_plain null (by decide)
  obtain ⟨w, hw, hread⟩ := hreturns
  refine ⟨⟨w, hw, hread, hread.parse⟩, fun hnull => ?_, ?_⟩
  · have hsame : parse "null" = .ok w := hnull ▸ hread.parse
    obtain rfl : null = w := Except.ok.inj ((readAs_plain null (by decide)).parse.symm.trans hsame)
    exact hw.of_null
  · rintro (rfl | ⟨x, rfl, hfinite⟩)
    · rfl
    · exact writeValue_of_not_finite hfinite

end Value

end TableGateway
