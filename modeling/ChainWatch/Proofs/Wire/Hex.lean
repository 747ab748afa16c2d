import Mathlib.Data.Nat.Digits.Lemmas
import ChainWatch.Rpc.Reply

/-!
# Hexadecimal quantities and block tags

A quantity travels as `0x` and hexadecimal digits. The reader drops the prefix, checks the length
of what is left and then pairs the digits from a counter seeded by the parity of that length, so
that the first digit of an odd text stands alone. This module shows that the pairing loses
nothing: a text of `0x` and digits `ns` of acceptable length is read as their value
`Nat.ofDigits 16 ns.reverse` (`Decoder.quantity_hex`). The invariant of the pairing is
`emitBytes_digits`: the bytes emitted, with the digit that waits for its pair as a low nibble,
are worth the digits read so far.

A block is named in a request by `0x` and the digits `Nat.toDigits 16` writes, which are the
base-16 digits of the number, most significant first (`toDigits_sixteen`). So a tag is short,
lowercase and without leading zeros, the quantity reader gives its number back, no two numbers
share a tag, and the newest block's tag `latest` is none of them (`blockTag_reads_back`); every
number of 64 bits written so is read back as itself (`Decoder.quantity_hexDigits`).
-/

namespace ChainWatch

/-! ### Bytes of a text -/

theorem byteArray_toList_loop (bs : ByteArray) (i : Nat) (r : List UInt8) :
    ByteArray.toList.loop bs i r = r.reverse ++ bs.data.toList.drop i := by
  fun_induction ByteArray.toList.loop bs i r with
  | case1 i r hi ih =>
    have hlt : i < bs.data.toList.length := by simpa using hi
    rw [ih, List.drop_eq_getElem_cons hlt]
    simp [ByteArray.get!, hi]
  | case2 i r hi =>
    have hlen : bs.data.toList.length ≤ i := by
      rw [Array.length_toList]
      exact Nat.le_of_not_lt hi
    rw [List.drop_eq_nil_of_le hlen, List.append_nil]

theorem byteArray_toList_eq_data (bs : ByteArray) : bs.toList = bs.data.toList := by
  simp [ByteArray.toList, byteArray_toList_loop]

/-- The bytes of a text are the UTF-8 encodings of its characters, one after the other. -/
theorem toList_toUTF8_ofList (l : List Char) :
    (String.ofList l).toUTF8.toList = l.flatMap String.utf8EncodeChar := by
  simp [byteArray_toList_eq_data, List.utf8Encode]

/-! ### Digits -/

/-- The byte of the digit character `Nat.toDigits` writes for `d`. -/
def digitByte (d : Nat) : UInt8 := (Nat.digitChar d).val.toUInt8

/-- A digit as `Nat.toDigits 16` writes it is a lowercase character of one byte, which the reader
of hexadecimal text does not skip and takes for the digit's value. -/
theorem digitChar_hex : ∀ d : Fin 16,
    String.utf8EncodeChar (Nat.digitChar d) = [digitByte d] ∧ isHexBlank (digitByte d) = false ∧
    hexNibble? (digitByte d) = some d ∧ Nat.digitChar d ∈ "0123456789abcdef".toList := by
  decide

/-- Digits of one byte each are written as those bytes. -/
theorem flatMap_utf8EncodeChar_digits {ns : List Nat}
    (h : ∀ d ∈ ns, String.utf8EncodeChar (Nat.digitChar d) = [digitByte d]) :
    (ns.map Nat.digitChar).flatMap String.utf8EncodeChar = ns.map digitByte := by
  induction ns with
  | nil => rfl
  | cons d rest ih =>
    rw [List.map_cons, List.flatMap_cons, List.map_cons, h d List.mem_cons_self,
      ih fun e he => h e (List.mem_cons_of_mem d he)]
    rfl

theorem toList_toUTF8_hex {ns : List Nat} (hlt : ∀ d ∈ ns, d < 16) :
    ("0x" ++ String.ofList (ns.map Nat.digitChar)).toUTF8.toList = 48 :: 120 :: ns.map digitByte := by
  have hpre : "0x" = String.ofList ['0', 'x'] := rfl
  rw [hpre, ← String.ofList_append, toList_toUTF8_ofList, List.cons_append, List.cons_append,
    List.nil_append, List.flatMap_cons, List.flatMap_cons,
    flatMap_utf8EncodeChar_digits fun d hd => (digitChar_hex ⟨d, hlt d hd⟩).1]
  rfl

/-- Reading digits in base `b` one at a time, most significant first, on top of `acc`. -/
theorem foldl_mul_add_eq_ofDigits (b : Nat) (ns : List Nat) (acc : Nat) :
    ns.foldl (fun a d => b * a + d) acc = b ^ ns.length * acc + Nat.ofDigits b ns.reverse := by
  induction ns generalizing acc with
  | nil => simp
  | cons d rest ih =>
    rw [List.foldl_cons, ih, List.reverse_cons, Nat.ofDigits_append, Nat.ofDigits_singleton,
      List.length_reverse, List.length_cons, pow_succ]
    ring

/-! ### Pairing the digits -/

/-- What the digits read so far are worth: the bytes emitted, and the digit waiting for its pair
as a low nibble. -/
def pendingValue (count high : Nat) (out : List Nat) : Nat :=
  if count = 0 then bigEndian out.reverse else 16 * bigEndian out.reverse + high

theorem bigEndian_append_singleton (bs : List Nat) (b : Nat) :
    bigEndian (bs ++ [b]) = 256 * bigEndian bs + b := by
  simp [bigEndian, List.foldl_append]

/-- **The pairing loses nothing.** From a counter that ends at a pair boundary, digits are read
into bytes worth what the digits are worth on top of what was pending. -/
theorem emitBytes_digits : ∀ (ns : List Nat) (index count high : Nat) (out : List Nat),
    count ≤ 1 → (count + ns.length) % 2 = 0 → (∀ d ∈ ns, d < 16) →
    ∃ r, emitBytes (ns.map digitByte) index count high out = .ok r ∧
      bigEndian r = ns.foldl (fun acc d => 16 * acc + d) (pendingValue count high out) := by
  intro ns
  induction ns with
  | nil =>
    intro index count high out hc hpar _
    have hc0 : count = 0 := by simp at hpar; omega
    subst hc0
    exact ⟨out.reverse, rfl, rfl⟩
  | cons d rest ih =>
    intro index count high out hc hpar hlt
    obtain ⟨-, hblank, hnib, -⟩ := digitChar_hex ⟨d, hlt d List.mem_cons_self⟩
    have hrest : ∀ e ∈ rest, e < 16 := fun e he => hlt e (List.mem_cons_of_mem d he)
    simp only [List.map_cons, emitBytes, hblank, hnib]
    rcases Nat.le_one_iff_eq_zero_or_eq_one.mp hc with rfl | rfl
    · -- the digit waits for its pair
      obtain ⟨r, hr, hv⟩ := ih (index + 1) 1 d out le_rfl (by simp at hpar ⊢; omega) hrest
      refine ⟨r, by simpa using hr, ?_⟩
      rw [hv, List.foldl_cons]
      simp [pendingValue]
    · -- the digit completes a byte
      obtain ⟨r, hr, hv⟩ := ih (index + 1) 0 d ((16 * high + d) :: out) (Nat.zero_le 1)
        (by simp at hpar ⊢; omega) hrest
      refine ⟨r, by simpa using hr, ?_⟩
      have hbyte : pendingValue 0 d ((16 * high + d) :: out) = 16 * pendingValue 1 high out + d := by
        simp only [pendingValue, if_pos, List.reverse_cons, bigEndian_append_singleton]
        simp
        ring
      rw [hv, List.foldl_cons, hbyte]

theorem readHexBytes_hex {k : Nat} {ns : List Nat} (hne : ns ≠ []) (hlen : ns.length ≤ 2 * k)
    (hlt : ∀ d ∈ ns, d < 16) :
    ∃ r, readHexBytes (.upTo k) ("0x" ++ String.ofList (ns.map Nat.digitChar)) = .ok r ∧
      bigEndian r = Nat.ofDigits 16 ns.reverse := by
  have hpos : 0 < ns.length := List.length_pos_iff.mpr hne
  have haccepts : (HexSize.upTo k).accepts (ns.map digitByte).length = true := by
    simp [HexSize.accepts, hpos, hlen]
  -- the prefix is dropped and the counter is seeded by the parity of the digits
  obtain ⟨r, hr, hv⟩ := emitBytes_digits ns 2 (ns.length % 2) 0 []
    (Nat.le_of_lt_succ (Nat.mod_lt _ (by decide))) (by omega) hlt
  refine ⟨r, ?_, ?_⟩
  · simp only [readHexBytes, toList_toUTF8_hex hlt, haccepts, Bool.not_true]
    simpa using hr
  · have h0 : pendingValue (ns.length % 2) 0 [] = 0 := by simp [pendingValue, bigEndian]
    rw [hv, h0, foldl_mul_add_eq_ofDigits, Nat.mul_zero, Nat.zero_add]

/-- **A quantity of `0x` and digits is read as their value**, for any number of digits the
size allows, odd or even. -/
theorem Decoder.quantity_hex {k : Nat} {ns : List Nat} (hne : ns ≠ []) (hlen : ns.length ≤ 2 * k)
    (hlt : ∀ d ∈ ns, d < 16) :
    Decoder.quantity k (.str ("0x" ++ String.ofList (ns.map Nat.digitChar))) =
      .ok (Nat.ofDigits 16 ns.reverse) := by
  obtain ⟨r, hr, hv⟩ := readHexBytes_hex hne hlen hlt
  simp only [Decoder.quantity, Decoder.hexBytes, hr, ← hv]
  rfl

/-! ### The digits of a number -/

/-- The base-16 digits of a number, most significant first; one zero digit for zero. -/
def hexNibbles (n : Nat) : List Nat := if n = 0 then [0] else (Nat.digits 16 n).reverse

/-- `Nat.toDigits b` writes the base-`b` digits of a nonzero number, most significant first. -/
theorem toDigits_eq_map_digits {b n : Nat} (hb : 1 < b) (hn : n ≠ 0) :
    Nat.toDigits b n = (Nat.digits b n).reverse.map Nat.digitChar := by
  induction n using Nat.strong_induction_on with
  | _ n ih =>
    rw [Nat.toDigits_eq_if hb]
    split
    · rename_i hlt
      rw [Nat.digits_of_lt b n hn hlt]
      rfl
    · -- the last digit is written after the digits of the quotient
      have hq : n / b ≠ 0 := by
        rw [Ne, Nat.div_eq_zero_iff]
        omega
      rw [Nat.digits_def' hb (Nat.pos_of_ne_zero hn), ih (n / b) (Nat.div_lt_self (by omega) hb) hq]
      simp

/-- `Nat.toDigits 16` writes the base-16 digits of a number, most significant first. -/
theorem toDigits_sixteen (n : Nat) : Nat.toDigits 16 n = (hexNibbles n).map Nat.digitChar := by
  by_cases hn : n = 0
  · subst hn
    rfl
  · rw [hexNibbles, if_neg hn, toDigits_eq_map_digits (by decide) hn]

theorem hexNibbles_ne_nil (n : Nat) : hexNibbles n ≠ [] := by
  unfold hexNibbles
  split
  · simp
  · rename_i hn
    simpa using Nat.digits_ne_nil_iff_ne_zero.mpr hn

theorem lt_of_mem_hexNibbles {n d : Nat} (h : d ∈ hexNibbles n) : d < 16 := by
  unfold hexNibbles at h
  split at h
  · simp_all
  · exact Nat.digits_lt_base (by decide) (List.mem_reverse.mp h)

theorem ofDigits_hexNibbles (n : Nat) : Nat.ofDigits 16 (hexNibbles n).reverse = n := by
  unfold hexNibbles
  split
  · simp_all
  · rw [List.reverse_reverse, Nat.ofDigits_digits]

theorem length_hexNibbles_le {n k : Nat} (hk : 0 < k) (hn : n < 16 ^ k) : (hexNibbles n).length ≤ k := by
  unfold hexNibbles
  split
  · exact hk
  · rw [List.length_reverse]
    exact (Nat.digits_length_le_iff (by decide) n).mpr hn

/-- The first digit of a number is not zero, unless the number is. -/
theorem head?_hexNibbles {n : Nat} (h : (hexNibbles n).head? = some 0) : n = 0 := by
  by_contra hn
  rw [hexNibbles, if_neg hn, List.head?_reverse, List.getLast?_eq_some_getLast
    (Nat.digits_ne_nil_iff_ne_zero.mpr hn), Option.some.injEq] at h
  exact Nat.getLast_digit_ne_zero 16 hn h

/-- The digits are read back from their characters. -/
theorem map_digitChar_injective {ns ms : List Nat} (hn : ∀ d ∈ ns, d < 16) (hm : ∀ d ∈ ms, d < 16)
    (h : ns.map Nat.digitChar = ms.map Nat.digitChar) : ns = ms := by
  have hback : ∀ l : List Nat, (∀ d ∈ l, d < 16) →
      (l.map Nat.digitChar).map (fun c => (hexNibble? c.val.toUInt8).getD 0) = l := by
    intro l hl
    rw [List.map_map]
    conv_rhs => rw [← List.map_id l]
    refine List.map_congr_left fun d hd => ?_
    show (hexNibble? (digitByte d)).getD 0 = d
    rw [(digitChar_hex ⟨d, hl d hd⟩).2.2.1]
    rfl
  rw [← hback ns hn, ← hback ms hm, h]

/-! ### Block tags -/

/-- A 64-bit number written as `0x` and its digits is read back by the quantity reader. -/
theorem Decoder.quantity_hexDigits {n : Nat} (hn : n < 2 ^ 64) :
    Decoder.quantity 8 (.str ("0x" ++ Unexpected.hexDigits n)) = .ok n := by
  have hlen : (hexNibbles n).length ≤ 16 := length_hexNibbles_le (by decide) (by simpa using hn)
  rw [Unexpected.hexDigits, toDigits_sixteen, Decoder.quantity_hex (hexNibbles_ne_nil n) (by omega)
    (fun d hd => lt_of_mem_hexNibbles hd), ofDigits_hexNibbles]

theorem blockTag_some (n : Nat) :
    blockTag (some n) = "0x" ++ String.ofList ((hexNibbles n).map Nat.digitChar) := by
  rw [blockTag, Unexpected.hexDigits, toDigits_sixteen]

/-- **A block tag names its number faithfully.** The tag of a 64-bit number is `0x` and at most
sixteen lowercase digits without a leading zero, read back by the quantity reader as the number;
no two numbers share a tag, and `latest` is the tag of no number. -/
theorem blockTag_reads_back :
    (∀ n, n < 2 ^ 64 → ∃ ds : List Char, blockTag (some n) = "0x" ++ String.ofList ds ∧
        ds ≠ [] ∧ ds.length ≤ 16 ∧ (∀ c ∈ ds, c ∈ "0123456789abcdef".toList) ∧
        (ds.head? = some '0' → ds = ['0']) ∧
        Decoder.quantity 8 (.str (blockTag (some n))) = .ok n) ∧
    (∀ a b, blockTag (some a) = blockTag (some b) → a = b) ∧
    (∀ n, blockTag none ≠ blockTag (some n)) := by
  refine ⟨fun n hn => ?_, fun a b h => ?_, fun n h => ?_⟩
  · have hlen : (hexNibbles n).length ≤ 16 := length_hexNibbles_le (by decide) (by simpa using hn)
    refine ⟨(hexNibbles n).map Nat.digitChar, blockTag_some n,
      by simpa using hexNibbles_ne_nil n, by simpa using hlen, ?_, fun h0 => ?_, ?_⟩
    · intro c hc
      obtain ⟨d, hd, rfl⟩ := List.mem_map.mp hc
      exact (digitChar_hex ⟨d, lt_of_mem_hexNibbles hd⟩).2.2.2
    · -- a leading `0` is the digit zero, so the number is zero
      obtain ⟨d, ds, hcons⟩ := List.exists_cons_of_ne_nil (hexNibbles_ne_nil n)
      have hd0 : d = 0 := by simpa [hcons] using h0
      have hn0 : n = 0 := head?_hexNibbles (by rw [hcons, hd0]; rfl)
      subst hn0
      rfl
    · exact Decoder.quantity_hexDigits hn
  · -- equal tags have equal digits, and digits determine their number
    rw [blockTag_some, blockTag_some] at h
    have hdigits := map_digitChar_injective (fun d hd => lt_of_mem_hexNibbles hd)
      (fun d hd => lt_of_mem_hexNibbles hd) (String.ofList_inj.mp ((String.append_right_inj _).mp h))
    rw [← ofDigits_hexNibbles a, ← ofDigits_hexNibbles b, hdigits]
  · have hhead := congrArg (fun s => s.toList.head?) h
    simp [blockTag] at hhead

/-- The largest 64-bit number has the longest tag, sixteen digits `f`, and is read back. -/
theorem largest_block_tag_reads_back :
    2 ^ 64 - 1 < 2 ^ 64 ∧ blockTag (some (2 ^ 64 - 1)) = "0xffffffffffffffff" ∧
      Decoder.quantity 8 (.str "0xffffffffffffffff") = .ok (2 ^ 64 - 1) := by
  have htag : blockTag (some (2 ^ 64 - 1)) = "0xffffffffffffffff" := by decide
  obtain ⟨_, -, -, -, -, -, hread⟩ := blockTag_reads_back.1 (2 ^ 64 - 1) (by decide)
  exact ⟨by decide, htag, htag ▸ hread⟩

end ChainWatch
