import SecretProjection.Proofs.CanonicalSource
import SecretProjection.Proofs.CharacterBytes
import SecretProjection.Proofs.Results
import SecretProjection.Template.Eval

/-!
# Base64

A byte list is spelled in groups of four symbols for three bytes, and the last group is filled up
with padding.  Cutting the bits of three bytes into four numbers loses nothing, and neither does
putting them together again, because the bits that a short group leaves over have to be zero.  So
the spellings that can be read are exactly those that are written, each for its own bytes.

With the bytes of a text in between, encoding and decoding undo each other.
-/

namespace SecretProjection

namespace Text

namespace Base64

/-!
# Symbols
-/

def digit (n : Nat) : UInt8 := Utf8.byte (symbol n)

theorem toNat_symbol_lt {n : Nat} (h : n < 64) : (symbol n).toNat < 128 := by
  have hall : forall n, n < 64 -> (symbol n).toNat < 128 := by decide
  exact hall n h

theorem value?_digit {n : Nat} (h : n < 64) : value? (digit n) = some n := by
  have hall : forall n, n < 64 -> value? (digit n) = some n := by decide
  exact hall n h

theorem digit_ne_pad {n : Nat} (h : n < 64) : digit n ≠ pad := by
  intro heq
  have hvalue := value?_digit h
  rw [heq] at hvalue
  cases hvalue

theorem digit_of_value? {b : UInt8} {n : Nat} (h : value? b = some n) : n < 64 ∧ digit n = b := by
  have hall : forall code, code < 256 -> (value? (UInt8.ofNat code)).all
      (fun n => n < 64 && digit n == UInt8.ofNat code) = true := by decide +kernel
  have hcode := hall b.toNat b.toNat_lt
  rw [UInt8.ofNat_toNat, h, Option.all_some, Bool.and_eq_true, decide_eq_true_eq, beq_iff_eq]
    at hcode
  exact hcode

theorem values_map_digit {numbers : List Nat} (h : forall n, n ∈ numbers -> n < 64)
    (offset : Nat) : values offset (numbers.map digit) = .ok numbers := by
  induction numbers generalizing offset with
  | nil => rfl
  | cons n numbers ih =>
      have hrest := ih (fun m hm => h m (List.mem_cons_of_mem n hm)) (offset + 1)
      simp only [List.map_cons, values, value?_digit (h n List.mem_cons_self), hrest, Except.map]

theorem map_digit_of_values {offset : Nat} {symbols : Bytes} {numbers : List Nat}
    (h : values offset symbols = .ok numbers) :
    symbols = numbers.map digit ∧ forall n, n ∈ numbers -> n < 64 := by
  induction symbols generalizing offset numbers with
  | nil =>
      cases h
      exact ⟨rfl, fun _ hn => absurd hn List.not_mem_nil⟩
  | cons b symbols ih =>
      rw [values] at h
      cases hvalue : value? b with
      | none =>
          rw [hvalue] at h
          cases h
      | some n =>
          simp only [hvalue] at h
          rcases map_eq_ok_iff.mp h with ⟨others, hrest, rfl⟩
          rcases ih hrest with ⟨hsymbols, hothers⟩
          rcases digit_of_value? hvalue with ⟨hn, hdigit⟩
          refine ⟨by rw [List.map_cons, hdigit, ← hsymbols], ?_⟩
          intro m hm
          cases hm with
          | head => exact hn
          | tail _ hm => exact hothers m hm

/-!
# Spellings
-/

/-- The bytes of the symbols that a byte list is spelled with. -/
def spelling (bytes : Bytes) : Bytes := (encode bytes).map Utf8.byte

theorem spelling_one (a : UInt8) :
    spelling [a] = [digit (a.toNat / 4), digit (a.toNat % 4 * 16), pad, pad] := rfl

theorem spelling_two (a b : UInt8) :
    spelling [a, b] = [digit (a.toNat / 4), digit (a.toNat % 4 * 16 + b.toNat / 16),
      digit (b.toNat % 16 * 4), pad] := rfl

theorem spelling_three (a b c : UInt8) (rest : Bytes) :
    spelling (a :: b :: c :: rest) =
      digit (a.toNat / 4) :: digit (a.toNat % 4 * 16 + b.toNat / 16) ::
        digit (b.toNat % 16 * 4 + c.toNat / 64) :: digit (c.toNat % 64) :: spelling rest := rfl

/-!
## The last group
-/

theorem decodeLast_one {x y : Nat} (hx : x < 64) (hy : y < 64) (hzero : y % 16 = 0)
    (offset : Nat) :
    decodeLast offset [digit x, digit y, pad, pad] = .ok [UInt8.ofNat (x * 4 + y / 16)] := by
  have hvalues : values offset [digit x, digit y] = .ok [x, y] :=
    @values_map_digit [x, y] (by simp [hx, hy]) offset
  simp [decodeLast, digit_ne_pad hx, digit_ne_pad hy, hvalues, hzero, bind, Except.bind, pure,
    Except.pure]

theorem decodeLast_two {x y z : Nat} (hx : x < 64) (hy : y < 64) (hz : z < 64)
    (hzero : z % 4 = 0) (offset : Nat) :
    decodeLast offset [digit x, digit y, digit z, pad] =
      .ok [UInt8.ofNat (x * 4 + y / 16), UInt8.ofNat (y % 16 * 16 + z / 4)] := by
  have hvalues : values offset [digit x, digit y, digit z] = .ok [x, y, z] :=
    @values_map_digit [x, y, z] (by simp [hx, hy, hz]) offset
  simp [decodeLast, digit_ne_pad hx, digit_ne_pad hy, digit_ne_pad hz, hvalues, hzero, bind,
    Except.bind, pure, Except.pure]

theorem decodeLast_three {x y z w : Nat} (hx : x < 64) (hy : y < 64) (hz : z < 64) (hw : w < 64)
    (offset : Nat) :
    decodeLast offset [digit x, digit y, digit z, digit w] =
      .ok [UInt8.ofNat (x * 4 + y / 16), UInt8.ofNat (y % 16 * 16 + z / 4),
        UInt8.ofNat (z % 4 * 64 + w)] := by
  have hvalues : values offset [digit x, digit y, digit z, digit w] = .ok [x, y, z, w] :=
    @values_map_digit [x, y, z, w] (by simp [hx, hy, hz, hw]) offset
  simp [decodeLast, digit_ne_pad hx, digit_ne_pad hy, digit_ne_pad hz, digit_ne_pad hw, hvalues,
    bind, Except.bind, pure, Except.pure]

/-! A byte is put together again from the two parts that its bits are cut into. -/

theorem ofNat_first (a : UInt8) {low : Nat} (h : low < 16) :
    UInt8.ofNat (a.toNat / 4 * 4 + (a.toNat % 4 * 16 + low) / 16) = a := by
  have hparts : a.toNat / 4 * 4 + (a.toNat % 4 * 16 + low) / 16 = a.toNat := by omega
  rw [hparts, UInt8.ofNat_toNat]

theorem ofNat_second (high : Nat) (b : UInt8) {low : Nat} (h : low < 4) :
    UInt8.ofNat ((high * 16 + b.toNat / 16) % 16 * 16 + (b.toNat % 16 * 4 + low) / 4) = b := by
  have hbyte := b.toNat_lt
  have hparts : (high * 16 + b.toNat / 16) % 16 * 16 + (b.toNat % 16 * 4 + low) / 4 = b.toNat := by
    omega
  rw [hparts, UInt8.ofNat_toNat]

theorem ofNat_third (high : Nat) (c : UInt8) :
    UInt8.ofNat ((high * 4 + c.toNat / 64) % 4 * 64 + c.toNat % 64) = c := by
  have hbyte := c.toNat_lt
  have hparts : (high * 4 + c.toNat / 64) % 4 * 64 + c.toNat % 64 = c.toNat := by omega
  rw [hparts, UInt8.ofNat_toNat]

/-! The other way round, the numbers of the symbols are cut out of the bytes again. -/

theorem toNat_first {x y : Nat} (hx : x < 64) (hy : y < 64) :
    (UInt8.ofNat (x * 4 + y / 16)).toNat = x * 4 + y / 16 :=
  UInt8.toNat_ofNat_of_lt' (show x * 4 + y / 16 < 256 by omega)

theorem toNat_second (y : Nat) {z : Nat} (hz : z < 64) :
    (UInt8.ofNat (y % 16 * 16 + z / 4)).toNat = y % 16 * 16 + z / 4 :=
  UInt8.toNat_ofNat_of_lt' (show y % 16 * 16 + z / 4 < 256 by omega)

theorem toNat_third (z : Nat) {w : Nat} (hw : w < 64) :
    (UInt8.ofNat (z % 4 * 64 + w)).toNat = z % 4 * 64 + w :=
  UInt8.toNat_ofNat_of_lt' (show z % 4 * 64 + w < 256 by omega)

theorem spelling_ofNat_one {x y : Nat} (hx : x < 64) (hy : y < 64) (hzero : y % 16 = 0) :
    spelling [UInt8.ofNat (x * 4 + y / 16)] = [digit x, digit y, pad, pad] := by
  have hxs : (x * 4 + y / 16) / 4 = x := by omega
  have hys : (x * 4 + y / 16) % 4 * 16 = y := by omega
  rw [spelling_one, toNat_first hx hy, hxs, hys]

theorem spelling_ofNat_two {x y z : Nat} (hx : x < 64) (hy : y < 64) (hz : z < 64)
    (hzero : z % 4 = 0) :
    spelling [UInt8.ofNat (x * 4 + y / 16), UInt8.ofNat (y % 16 * 16 + z / 4)] =
      [digit x, digit y, digit z, pad] := by
  have hxs : (x * 4 + y / 16) / 4 = x := by omega
  have hys : (x * 4 + y / 16) % 4 * 16 + (y % 16 * 16 + z / 4) / 16 = y := by omega
  have hzs : (y % 16 * 16 + z / 4) % 16 * 4 = z := by omega
  rw [spelling_two, toNat_first hx hy, toNat_second y hz, hxs, hys, hzs]

theorem spelling_ofNat_three {x y z w : Nat} (hx : x < 64) (hy : y < 64) (hz : z < 64)
    (hw : w < 64) (rest : Bytes) :
    spelling (UInt8.ofNat (x * 4 + y / 16) :: UInt8.ofNat (y % 16 * 16 + z / 4) ::
        UInt8.ofNat (z % 4 * 64 + w) :: rest) =
      digit x :: digit y :: digit z :: digit w :: spelling rest := by
  have hxs : (x * 4 + y / 16) / 4 = x := by omega
  have hys : (x * 4 + y / 16) % 4 * 16 + (y % 16 * 16 + z / 4) / 16 = y := by omega
  have hzs : (y % 16 * 16 + z / 4) % 16 * 4 + (z % 4 * 64 + w) / 64 = z := by omega
  have hws : (z % 4 * 64 + w) % 64 = w := by omega
  rw [spelling_three, toNat_first hx hy, toNat_second y hz, toNat_third z hw, hxs, hys, hzs, hws]

/-!
# There and back
-/

theorem spelling_ne_nil {bytes : Bytes} (h : bytes ≠ []) : spelling bytes ≠ [] := by
  unfold spelling
  fun_cases encode bytes
  case case1 => exact absurd rfl h
  all_goals exact List.cons_ne_nil _ _

theorem decodeFrom_group {x y z w : Nat} (hx : x < 64) (hy : y < 64) (hz : z < 64) (hw : w < 64)
    {rest : Bytes} (hrest : rest ≠ []) (offset : Nat) :
    decodeFrom offset (digit x :: digit y :: digit z :: digit w :: rest) =
      (decodeFrom (offset + 4) rest).map fun tail =>
        UInt8.ofNat (x * 4 + y / 16) :: UInt8.ofNat (y % 16 * 16 + z / 4) ::
          UInt8.ofNat (z % 4 * 64 + w) :: tail := by
  have hvalues : values offset [digit x, digit y, digit z, digit w] = .ok [x, y, z, w] :=
    @values_map_digit [x, y, z, w] (by simp [hx, hy, hz, hw]) offset
  cases rest with
  | nil => exact absurd rfl hrest
  | cons e rest => simp only [decodeFrom, hvalues]

theorem decodeFrom_spelling {bytes : Bytes} (h : bytes ≠ []) (offset : Nat) :
    decodeFrom offset (spelling bytes) = .ok bytes := by
  induction bytes using encode.induct generalizing offset with
  | case1 => exact absurd rfl h
  | case2 a =>
      have ha := a.toNat_lt
      have hlast := decodeLast_one (x := a.toNat / 4) (y := a.toNat % 4 * 16) (by omega) (by omega)
        (by omega) offset
      have hbyte := @ofNat_first a 0 (by decide)
      rw [Nat.add_zero] at hbyte
      rw [hbyte] at hlast
      exact hlast
  | case3 a b =>
      have ha := a.toNat_lt
      have hb := b.toNat_lt
      have hlast := decodeLast_two (x := a.toNat / 4) (y := a.toNat % 4 * 16 + b.toNat / 16)
        (z := b.toNat % 16 * 4) (by omega) (by omega) (by omega) (by omega) offset
      have hbyte := @ofNat_second (a.toNat % 4) b 0 (by decide)
      rw [Nat.add_zero] at hbyte
      rw [ofNat_first a (by omega), hbyte] at hlast
      exact hlast
  | case4 a b c rest ih =>
      have ha := a.toNat_lt
      have hb := b.toNat_lt
      have hc := c.toNat_lt
      by_cases hrest : rest = []
      · subst hrest
        have hlast := decodeLast_three (x := a.toNat / 4)
          (y := a.toNat % 4 * 16 + b.toNat / 16) (z := b.toNat % 16 * 4 + c.toNat / 64)
          (w := c.toNat % 64) (by omega) (by omega) (by omega) (by omega) offset
        rw [ofNat_first a (by omega), ofNat_second _ b (by omega), ofNat_third] at hlast
        exact hlast
      · rw [spelling_three, decodeFrom_group (by omega) (by omega) (by omega) (by omega)
          (spelling_ne_nil hrest), ih hrest, ofNat_first a (by omega),
          ofNat_second _ b (by omega), ofNat_third]
        rfl

theorem length_spelling (bytes : Bytes) : (spelling bytes).length % 4 = 0 := by
  induction bytes using encode.induct with
  | case1 => rfl
  | case2 a => simp [spelling_one]
  | case3 a b => simp [spelling_two]
  | case4 a b c rest ih =>
      rw [spelling_three]
      simp only [List.length_cons]
      omega

theorem decode_spelling (bytes : Bytes) : decode (spelling bytes) = .ok bytes := by
  by_cases h : bytes = []
  · rw [h]
    rfl
  · have hstray : (spelling bytes).length % 4 ≠ 1 := by
      rw [length_spelling]
      decide
    rw [decode, if_neg (spelling_ne_nil h)]
    simp only [hstray, decide_false, Bool.false_and, Bool.false_eq_true, if_false]
    exact decodeFrom_spelling h 0

/-!
# Back and there
-/

/-- Only padding may follow the symbols of the last group. -/
theorem padding_eq {symbols padding : Bytes} (hlong : ¬ symbols.length < 2)
    (h : ¬ (decide (padding ≠ []) && (decide (symbols.length < 2) || padding.any (· != pad))) =
      true) : padding = List.replicate padding.length pad := by
  apply List.eq_replicate_iff.mpr
  refine ⟨rfl, ?_⟩
  intro b hb
  have hne : padding ≠ [] := List.ne_nil_of_mem hb
  simp only [hne, hlong, ne_eq, not_false_eq_true, decide_true, decide_false, Bool.true_and,
    Bool.false_or, List.any_eq_true, bne_iff_ne, not_exists, not_and, Decidable.not_not] at h
  exact h b hb

/-- The numbers of a last group and the bytes that they hold.  The bits left over are zero. -/
inductive LastGroup : List Nat -> Bytes -> Prop where
  | one (x y : Nat) (hzero : y % 16 = 0) : LastGroup [x, y] [UInt8.ofNat (x * 4 + y / 16)]
  | two (x y z : Nat) (hzero : z % 4 = 0) :
      LastGroup [x, y, z] [UInt8.ofNat (x * 4 + y / 16), UInt8.ofNat (y % 16 * 16 + z / 4)]
  | three (x y z w : Nat) :
      LastGroup [x, y, z, w] [UInt8.ofNat (x * 4 + y / 16), UInt8.ofNat (y % 16 * 16 + z / 4),
        UInt8.ofNat (z % 4 * 64 + w)]

/-- A last group is filled up to four symbols. -/
theorem LastGroup.spelling_eq {numbers : List Nat} {bytes : Bytes} (h : LastGroup numbers bytes)
    (hnumbers : forall n, n ∈ numbers -> n < 64) :
    spelling bytes = numbers.map digit ++ List.replicate (4 - numbers.length) pad := by
  cases h with
  | one x y hzero => exact spelling_ofNat_one (hnumbers x (by simp)) (hnumbers y (by simp)) hzero
  | two x y z hzero =>
      exact spelling_ofNat_two (hnumbers x (by simp)) (hnumbers y (by simp))
        (hnumbers z (by simp)) hzero
  | three x y z w =>
      exact spelling_ofNat_three (hnumbers x (by simp)) (hnumbers y (by simp))
        (hnumbers z (by simp)) (hnumbers w (by simp)) []

theorem exists_lastGroup {offset : Nat} {group bytes : Bytes} (hlength : group.length ≤ 4)
    (h : decodeLast offset group = .ok bytes) :
    exists numbers, LastGroup numbers bytes ∧ (forall n, n ∈ numbers -> n < 64) ∧
      group = numbers.map digit ++ List.replicate (4 - numbers.length) pad := by
  have hgroup : group.takeWhile (· != pad) ++ group.dropWhile (· != pad) = group :=
    List.takeWhile_append_dropWhile
  unfold decodeLast at h
  simp only [bind, Except.bind, throw, throwThe, MonadExceptOf.throw, pure, Except.pure] at h
  generalize group.takeWhile (· != pad) = symbols at h hgroup
  generalize group.dropWhile (· != pad) = padding at h hgroup
  subst hgroup
  cases hvalues : values offset symbols with
  | error fault =>
      rw [hvalues] at h
      cases h
  | ok numbers =>
      rcases map_digit_of_values hvalues with ⟨rfl, hnumbers⟩
      simp only [hvalues] at h
      split at h
      · cases h
      · rename_i hstray
        split at h
        · cases h
        · rename_i hlong
          split at h
          · cases h
          · rename_i hfull
            have hcount : padding.length = 4 - numbers.length := by
              rw [List.length_append, List.length_map] at hlength
              rw [List.length_map] at hfull hlong
              omega
            refine ⟨numbers, ?_, hnumbers, by rw [← hcount, ← padding_eq hlong hstray]⟩
            -- What is left are the three lengths, each with its check of the bits left over.
            split at h
            · split at h
              · cases h
              · rename_i hzero
                cases h
                exact .one _ _ (Decidable.not_not.mp hzero)
            · split at h
              · cases h
              · rename_i hzero
                cases h
                exact .two _ _ _ (Decidable.not_not.mp hzero)
            · cases h
              exact .three _ _ _ _
            · cases h

theorem eq_spelling_of_decodeLast {offset : Nat} {group bytes : Bytes} (hlength : group.length ≤ 4)
    (h : decodeLast offset group = .ok bytes) : group = spelling bytes := by
  rcases exists_lastGroup hlength h with ⟨numbers, hlast, hnumbers, hgroup⟩
  rw [hgroup, hlast.spelling_eq hnumbers]

theorem eq_spelling_of_decodeFrom {offset : Nat} {group bytes : Bytes}
    (h : decodeFrom offset group = .ok bytes) : group = spelling bytes := by
  induction offset, group using decodeFrom.induct generalizing bytes with
  | case1 offset a b c d e rest fault hvalues =>
      simp only [decodeFrom, hvalues] at h
      cases h
  | case2 offset a b c d e rest x y z w hvalues ih =>
      rcases map_digit_of_values hvalues with ⟨hsymbols, hnumbers⟩
      simp only [decodeFrom, hvalues] at h
      rcases map_eq_ok_iff.mp h with ⟨tail, htail, rfl⟩
      rw [spelling_ofNat_three (hnumbers x (by simp)) (hnumbers y (by simp))
        (hnumbers z (by simp)) (hnumbers w (by simp)), ← ih htail]
      cases hsymbols
      rfl
  | case3 offset a b c d e rest numbers hvalues hnumbers =>
      rcases map_digit_of_values hvalues with ⟨hsymbols, _⟩
      match numbers, hsymbols, hnumbers with
      | [x, y, z, w], _, hnumbers => exact absurd rfl (hnumbers x y z w)
  | case4 offset group hshort =>
      have hlength : group.length ≤ 4 := by
        match group, hshort with
        | [], _ | [_], _ | [_, _], _ | [_, _, _], _ | [_, _, _, _], _ => simp
        | a :: b :: c :: d :: e :: rest, hshort => exact absurd rfl (hshort a b c d e rest)
      unfold decodeFrom at h
      split at h
      · exact absurd rfl (hshort _ _ _ _ _ _)
      · exact eq_spelling_of_decodeLast hlength h

/-- A byte list has one spelling, and no other text is read as it. -/
theorem decode_eq_ok_iff {text bytes : Bytes} :
    decode text = .ok bytes <-> text = spelling bytes := by
  constructor
  · intro h
    unfold decode at h
    split at h
    · rename_i hnil
      cases h
      exact hnil
    · simp only at h
      split at h
      · cases h
      · exact eq_spelling_of_decodeFrom h
  · intro h
    rw [h]
    exact decode_spelling bytes

/-! ## Characters of a spelling -/

theorem symbol_cases {n : Nat} (h : n < 64) :
    (symbol n).isAlphanum = true ∨ symbol n = '+' ∨ symbol n = '/' := by
  have hall : forall n, n < 64 ->
      (symbol n).isAlphanum = true ∨ symbol n = '+' ∨ symbol n = '/' := by decide
  exact hall n h

theorem mem_encode {bytes : Bytes} {c : Char} (h : c ∈ encode bytes) :
    c = '=' ∨ exists n, n < 64 ∧ c = symbol n := by
  induction bytes using encode.induct with
  | case1 => cases h
  | case2 a =>
      have ha := a.toNat_lt
      simp only [encode, List.mem_cons, List.not_mem_nil, or_false] at h
      rcases h with h | h | h | h
      · exact .inr ⟨_, by omega, h⟩
      · exact .inr ⟨_, by omega, h⟩
      · exact .inl h
      · exact .inl h
  | case3 a b =>
      have ha := a.toNat_lt
      have hb := b.toNat_lt
      simp only [encode, List.mem_cons, List.not_mem_nil, or_false] at h
      rcases h with h | h | h | h
      · exact .inr ⟨_, by omega, h⟩
      · exact .inr ⟨_, by omega, h⟩
      · exact .inr ⟨_, by omega, h⟩
      · exact .inl h
  | case4 a b c rest ih =>
      have ha := a.toNat_lt
      have hb := b.toNat_lt
      have hc := c.toNat_lt
      simp only [encode, List.mem_cons] at h
      rcases h with h | h | h | h | h
      · exact .inr ⟨_, by omega, h⟩
      · exact .inr ⟨_, by omega, h⟩
      · exact .inr ⟨_, by omega, h⟩
      · exact .inr ⟨_, by omega, h⟩
      · exact ih h

theorem encode_ofList_encode (bytes : Bytes) :
    Utf8.encode (String.ofList (encode bytes)) = spelling bytes := by
  rw [Utf8.encode_ofList, Utf8.flatMap_utf8EncodeChar_of_lt, spelling]
  intro c hc
  rcases mem_encode hc with heq | ⟨n, hn, heq⟩
  · rw [heq]
    decide
  · rw [heq]
    exact toNat_symbol_lt hn

end Base64

end Text

namespace Template

/-!
# Encoded values
-/

/-- The text that `b64enc` makes of a text. -/
def encoded (text : String) : String := String.ofList (Text.Base64.encode (Text.Utf8.encode text))

theorem decodeBase64_eq_ok_iff {spelling text : String} :
    decodeBase64 spelling = .ok text <-> spelling = encoded text := by
  unfold decodeBase64 encoded
  constructor
  · intro h
    split at h
    · cases h
    · rename_i bytes hbytes
      split at h
      · cases h
      · rename_i found hfound
        cases h
        rw [Text.Base64.decode_eq_ok_iff] at hbytes
        rw [Text.Utf8.decode_eq_ok_iff] at hfound
        apply Text.Utf8.encode_injective
        rw [hbytes, hfound, Text.Base64.encode_ofList_encode]
  · intro h
    have hbytes := Text.Base64.encode_ofList_encode (Text.Utf8.encode text)
    rw [h, Text.Base64.decode_eq_ok_iff.mpr hbytes]
    simp only [Text.Utf8.decode_eq_ok_iff.mpr rfl]

theorem apply_b64enc (text : String) :
    Function.apply .b64enc [.string text] = .ok (.string (encoded text)) := rfl

theorem apply_b64dec (spelling : String) :
    Function.apply .b64dec [.string spelling] = (decodeBase64 spelling).map .string := rfl

theorem apply_b64dec_eq_ok {spelling : String} {value : Json}
    (h : Function.apply .b64dec [.string spelling] = .ok value) :
    exists text, value = .string text ∧ spelling = encoded text := by
  rw [apply_b64dec] at h
  rcases map_eq_ok_iff.mp h with ⟨text, hdecode, hvalue⟩
  exact ⟨text, hvalue, decodeBase64_eq_ok_iff.mp hdecode⟩

theorem length_encoded (text : String) : (encoded text).toList.length % 4 = 0 := by
  have hlength := Text.Base64.length_spelling (Text.Utf8.encode text)
  rw [Text.Base64.spelling, List.length_map] at hlength
  rwa [encoded, String.toList_ofList]

theorem mem_encoded {text : String} {c : Char} (h : c ∈ (encoded text).toList) :
    c.isAlphanum = true ∨ c = '+' ∨ c = '/' ∨ c = '=' := by
  rw [encoded, String.toList_ofList] at h
  rcases Text.Base64.mem_encode h with heq | ⟨n, hn, heq⟩
  · exact .inr (.inr (.inr heq))
  · rw [heq]
    rcases Text.Base64.symbol_cases hn with hletter | hplus | hslash
    · exact .inl hletter
    · exact .inr (.inl hplus)
    · exact .inr (.inr (.inl hslash))

/-!
# Encoding and decoding in a pipeline
-/

/-- A pipeline that encodes the value of an operand and decodes it again. -/
def thereAndBack (operand : Operand) : List Command :=
  [.operand operand, .call .b64enc [], .call .b64dec []]

/-- A value without a printable form stops the pipeline as it would stop the action. -/
theorem output_thereAndBack (operand : Operand) (root : Json) :
    (Node.action (thereAndBack operand)).output root =
      (Node.action [.operand operand]).output root := by
  simp only [Node.output, thereAndBack, evalPipeline, Command.eval]
  cases operand.eval root with
  | error fault => rfl
  | ok value =>
      simp only [evalOperands, List.nil_append]
      cases hprint : printable value with
      | error fault => simp only [Function.apply, onText, hprint]
      | ok text =>
          have hencode : Function.apply .b64enc [value] = .ok (.string (encoded text)) := by
            simp only [Function.apply, onText, hprint]
            rfl
          have hdecode : Function.apply .b64dec [.string (encoded text)] = .ok (.string text) := by
            rw [apply_b64dec, decodeBase64_eq_ok_iff.mpr rfl]
            rfl
          simp only [hencode, hdecode, printable]

theorem output_operand (operand : Operand) (root : Json) :
    (Node.action [.operand operand]).output root = (operand.eval root).bind printable := by
  simp only [Node.output, evalPipeline, Command.eval]
  cases operand.eval root <;> rfl

theorem wellFormed_thereAndBack {operand : Operand} (h : operand.WellFormed) :
    WellFormedPipeline (thereAndBack operand) := by
  refine ⟨List.cons_ne_nil _ _, ?_, ?_⟩
  · intro command hcommand
    simp only [thereAndBack, List.mem_cons, List.not_mem_nil, or_false] at hcommand
    rcases hcommand with heq | heq | heq
    · rw [heq]
      exact h
    all_goals
      rw [heq]
      intro argument hargument
      cases hargument
  · intro command hcommand
    simp only [thereAndBack, List.tail_cons, List.mem_cons, List.not_mem_nil, or_false] at hcommand
    rcases hcommand with heq | heq <;> rw [heq] <;> rfl

theorem parse_thereAndBack {operand : Operand} (h : operand.WellFormed) :
    parse ("\x7b\x7b " ++ String.ofList operand.source ++ " | b64enc | b64dec \x7d\x7d") =
      .ok [.action (thereAndBack operand)] := by
  have hsource : "\x7b\x7b " ++ String.ofList operand.source ++ " | b64enc | b64dec \x7d\x7d" =
      "\x7b\x7b " ++ String.ofList (pipelineSource (thereAndBack operand)) ++ " \x7d\x7d" := by
    apply String.toList_inj.mp
    simp [thereAndBack, pipelineSource, Command.source, argumentsSource, Function.name]
  rw [hsource]
  exact parse_action (wellFormed_thereAndBack h)

/-- Encoding and decoding undo each other.  Every text has one spelling, and nothing else is decoded
to it; in particular a spelling has the full length and no blanks.  An operand that is encoded and
decoded is printed as it is by itself, or not at all. -/
theorem base64_there_and_back :
    (forall text : String, exists spelling,
      Function.apply .b64enc [.string text] = .ok (.string spelling) ∧
        Function.apply .b64dec [.string spelling] = .ok (.string text)) ∧
    (forall (spelling : String) (value : Json),
      Function.apply .b64dec [.string spelling] = .ok value ->
      (exists text, value = .string text ∧
        Function.apply .b64enc [.string text] = .ok (.string spelling)) ∧
      spelling.toList.length % 4 = 0 ∧
      forall c, c ∈ spelling.toList -> c.isAlphanum = true ∨ c = '+' ∨ c = '/' ∨ c = '=') ∧
    (forall (operand : Operand) (root : Json),
      (forall value text, operand.eval root = .ok value -> printable value = .ok text ->
        (Node.action [.operand operand, .call .b64enc [], .call .b64dec []]).output root =
          .ok text) ∧
      ((¬ exists value text, operand.eval root = .ok value ∧ printable value = .ok text) ->
        exists fault,
          (Node.action [.operand operand, .call .b64enc [], .call .b64dec []]).output root =
            .error fault)) ∧
    forall (operand : Operand) (root : Json), operand.WellFormed ->
      render ("\x7b\x7b " ++ String.ofList operand.source ++ " | b64enc | b64dec \x7d\x7d")
          root =
        render ("\x7b\x7b " ++ String.ofList operand.source ++ " \x7d\x7d") root := by
  refine ⟨?_, ?_, ?_, ?_⟩
  · intro text
    refine ⟨encoded text, apply_b64enc text, ?_⟩
    rw [apply_b64dec, decodeBase64_eq_ok_iff.mpr rfl]
    rfl
  · intro spelling value h
    rcases apply_b64dec_eq_ok h with ⟨text, hvalue, hspelling⟩
    subst hspelling
    exact ⟨⟨text, hvalue, apply_b64enc text⟩, length_encoded text, fun c => mem_encoded⟩
  · intro operand root
    have houtput := (output_thereAndBack operand root).trans (output_operand operand root)
    constructor
    · intro value text hvalue htext
      rw [thereAndBack, hvalue] at houtput
      rw [houtput]
      exact htext
    · intro hnone
      rw [thereAndBack] at houtput
      rw [houtput]
      cases heval : operand.eval root with
      | error fault => exact ⟨fault, rfl⟩
      | ok value =>
          cases hprint : printable value with
          | error fault => exact ⟨fault, hprint⟩
          | ok text => exact absurd ⟨value, text, heval, hprint⟩ hnone
  · intro operand root h
    have hplain := @parse_command (.operand operand) h
    simp only [Command.source] at hplain
    rw [render, render, parse_thereAndBack h, hplain]
    simp only [execute, output_thereAndBack]

/-- A character of two bytes, and spellings of it that are not canonical. -/
theorem accent_there_and_back :
    Function.apply .b64enc [.string "é"] = .ok (.string "w6k=") ∧
    (Node.action [.operand (.field ["user"]), .call .b64enc [], .call .b64dec []]).output
        (.object [("user", .string "é")]) = .ok "é" ∧
    (exists fault,
      (Node.action [.operand (.field ["user"]), .call .b64enc [], .call .b64dec []]).output
        (.object []) = .error fault) ∧
    render "\x7b\x7b .user | b64enc | b64dec \x7d\x7d" (.object [("user", .string "é")]) =
      .ok "é" ∧
    Function.apply .b64dec [.string "w6k"] = .error (.badEncoding .badPadding) ∧
    Function.apply .b64dec [.string "w6l="] = .error (.badEncoding (.badLastSymbol 108 2)) ∧
    Function.apply .b64dec [.string "w6k=\n"] = .error (.badEncoding (.badSymbol 10 4)) := by
  have hdecode : Function.apply .b64dec [.string "w6k="] = .ok (.string "é") := by decide +kernel
  have hvalue : (Operand.field ["user"]).eval (.object [("user", .string "é")]) =
      .ok (.string "é") := by
    decide
  have hnone : ¬ exists value text, (Operand.field ["user"]).eval (.object []) = .ok value ∧
      printable value = .ok text := by
    intro h
    rcases h with ⟨value, text, hnull, htext⟩
    cases hnull
    cases htext
  refine ⟨?_, ?_, ?_, ?_, by decide +kernel, by decide +kernel, by decide +kernel⟩
  · rcases (base64_there_and_back.2.1 "w6k=" _ hdecode).1 with ⟨text, heq, hencode⟩
    cases heq
    exact hencode
  · exact (base64_there_and_back.2.2.1 (.field ["user"]) _).1 _ _ hvalue rfl
  · exact (base64_there_and_back.2.2.1 (.field ["user"]) _).2 hnone
  · have hrender := base64_there_and_back.2.2.2 (.field ["user"])
      (.object [("user", .string "é")]) (by decide)
    have hpiped : "\x7b\x7b " ++ String.ofList (Operand.field ["user"]).source ++
        " | b64enc | b64dec \x7d\x7d" = "\x7b\x7b .user | b64enc | b64dec \x7d\x7d" := by
      decide
    rw [hpiped] at hrender
    rw [hrender]
    decide +kernel

end Template

end SecretProjection
