import Mathlib.Data.String.Basic
import Mathlib.Data.List.Forall2
import ChainWatch.Chain.Address
import ChainWatch.Proofs.Wire.Hex
import ChainWatch.Proofs.Wire.Record

/-!
# The text of a configured address

An address is configured as text, and a list of them as text with commas. The reader of one
address (`Address.parse`) checks the length after one `0x` in bytes, and then reads digit pairs
from what is left after a second `0x`, skipping blanks: two checks of different shapes. This
module shows that together they accept exactly the texts that are, once their blanks are trimmed,
forty hexadecimal digits of either case after an optional lowercase `0x` (`AddressText`), and
give the address those digits stand for (`Address.parse_eq_ok_iff`):

* a second `0x` leaves at most 38 bytes for forty digits, and a blank or a character of several
  bytes leaves fewer than forty digits in forty bytes (`Address.addressText_of_parse`);
* forty digits are read in pairs as twenty bytes worth the digits (`Address.readPairs_digits`).

A list is split on commas into pieces (`splitOn_comma`), each trimmed, the empty ones dropped
(`addressPieces`), and every piece is read in order, the first that is not an address failing
the list (`Address.parseList_eq_ok_iff`, `Address.parseList_eq_error_iff`; a read of each element
of a list gives the error of the first one that fails, `Except.error?_mapM`). So addresses
written as `Address.toText` writes them, with blanks around them and empty pieces between them,
are read back (`Address.parseList_renderPieces`), and the case of the digits does not matter
(`Address.parse_map_lowerHexLetter`). `Address.parseList_reads_exactly_addressText` gathers these.
-/

namespace ChainWatch

/-! ### Splitting on commas -/

open String in
theorem splitOnAux_comma (l m r : List Char) (acc : List String) :
    splitOnAux (ofList (l ++ m ++ r)) "," ⟨utf8Len l⟩ ⟨utf8Len l + utf8Len m⟩ 0 acc =
      acc.reverse ++ (List.splitOnPPrepend (· == ',') r m.reverse).map ofList := by
  unfold splitOnAux
  simp only [List.append_assoc, atEnd_iff, rawEndPos_ofList, utf8Len_append, Pos.Raw.mk_le_mk,
    Nat.add_le_add_iff_left, (by omega : utf8Len m + utf8Len r ≤ utf8Len m ↔ utf8Len r = 0),
    utf8Len_eq_zero]
  split
  · subst r
    simpa using extract_of_valid l m []
  · obtain ⟨c, r, rfl⟩ := r.exists_cons_of_ne_nil ‹_›
    have hget : Pos.Raw.get (ofList (l ++ (m ++ c :: r))) ⟨utf8Len l + utf8Len m⟩ = c := by
      simpa [utf8Len_append] using get_of_valid (l ++ m) (c :: r)
    have hnext : Pos.Raw.next (ofList (l ++ (m ++ c :: r))) ⟨utf8Len l + utf8Len m⟩ =
        ⟨utf8Len l + utf8Len m + c.utf8Size⟩ := by
      simpa [utf8Len_append] using next_of_valid (l ++ m) c r
    have hcomma : Pos.Raw.get "," 0 = ',' := rfl
    have hsep : Pos.Raw.next "," 0 = ⟨1⟩ := rfl
    have hend : ",".rawEndPos ≤ (⟨1⟩ : Pos.Raw) := by decide
    simp only [hget, hcomma, hsep, if_pos hend, Pos.Raw.unoffsetBy, Pos.Raw.byteIdx_zero, Nat.sub_zero,
      hnext]
    split <;> rename_i h
    · -- a comma ends the piece
      have hc : c = ',' := by simpa using h
      subst hc
      have hsize : Char.utf8Size ',' = 1 := rfl
      have hpiece : Pos.Raw.extract (ofList (l ++ (m ++ ',' :: r))) ⟨utf8Len l⟩
          ⟨utf8Len l + utf8Len m⟩ = ofList m := by
        simpa using extract_of_valid l m (',' :: r)
      rw [hsize, Nat.add_sub_cancel, hpiece]
      simpa [hsize, Nat.add_assoc, List.splitOnPPrepend_cons_eq_if, utf8Len_append] using
        splitOnAux_comma (l ++ m ++ [',']) [] r (ofList m :: acc)
    · simpa [List.splitOnPPrepend_cons_eq_if, h, Nat.add_assoc, utf8Len_append] using
        splitOnAux_comma l (m ++ [c]) r acc

/-- Splitting a text on commas splits its characters on commas. -/
theorem splitOn_comma (s : String) : s.splitOn "," = (s.toList.splitOn ',').map String.ofList := by
  have h := splitOnAux_comma [] [] s.toList []
  simp only [List.nil_append, String.ofList_toList, String.utf8Len_nil, Nat.add_zero] at h
  simp only [String.splitOn, List.splitOn_eq_splitOnP, List.splitOnP_eq_splitOnPPrepend]
  simpa using h

/-! ### Reading in order -/

section MapM

variable {α β ε : Type} {f : α → Except ε β}

/-- Reading every element succeeds exactly when each element is read, the values in order. -/
theorem mapM_except_eq_ok_iff : ∀ {l : List α} {bs : List β},
    l.mapM f = .ok bs ↔ List.Forall₂ (fun a b => f a = .ok b) l bs := by
  intro l
  induction l with
  | nil =>
    intro bs
    simp only [List.mapM_nil, List.forall₂_nil_left_iff]
    exact ⟨fun h => (Except.ok.inj h).symm, fun h => h ▸ rfl⟩
  | cons a l ih =>
    intro bs
    simp only [List.mapM_cons, Except.bind_eq_ok, ih, List.forall₂_cons_left_iff]
    constructor
    · rintro ⟨b, hb, bs', hbs', hpure⟩
      exact ⟨b, bs', hb, hbs', (Except.ok.inj hpure).symm⟩
    · rintro ⟨b, bs', hb, hbs', rfl⟩
      exact ⟨b, hb, bs', hbs', rfl⟩

/-- The error of a failed computation, none for one that gave a value. -/
def Except.error? : Except ε β → Option ε
  | .error e => some e
  | .ok _ => none

@[simp] theorem Except.error?_pure (b : β) : Except.error? (pure b : Except ε β) = none := rfl

theorem Except.error?_eq_some_iff {x : Except ε β} {e : ε} : Except.error? x = some e ↔ x = .error e := by
  cases x <;> simp [Except.error?]

theorem Except.error?_eq_none_iff {x : Except ε β} : Except.error? x = none ↔ ∃ b, x = .ok b := by
  cases x <;> simp [Except.error?]

/-- A chain fails with the error of its first step, or, when that step gives a value, with the
error of the rest. -/
theorem Except.error?_bind {γ : Type} (x : Except ε β) (g : β → Except ε γ) :
    Except.error? (x >>= g) = (Except.error? x).or (x.toOption.bind fun b => Except.error? (g b)) := by
  cases x <;> rfl

/-- When the rest of a chain fails the same way whatever the first step gave, the value of the
first step no longer matters. -/
theorem Except.error?_or_bind_const (x : Except ε β) (c : Option ε) :
    (Except.error? x).or (x.toOption.bind fun _ => c) = (Except.error? x).or c := by
  cases x <;> rfl

theorem Except.error?_mapError {ε' : Type} (g : ε → ε') (x : Except ε β) :
    Except.error? (x.mapError g) = (Except.error? x).map g := by
  cases x <;> rfl

theorem findSome?_cons_eq_or (g : α → Option β) (a : α) (l : List α) :
    (a :: l).findSome? g = (g a).or (l.findSome? g) := by
  rw [List.findSome?_cons]
  cases g a <;> rfl

/-- Reading every element of a list fails with the error of the first element that fails. -/
theorem Except.error?_mapM : ∀ l : List α, Except.error? (l.mapM f) = l.findSome? fun a => Except.error? (f a)
  | [] => rfl
  | a :: l => by
    rw [List.mapM_cons, findSome?_cons_eq_or, ← Except.error?_mapM l]
    simp only [Except.error?_bind, Except.error?_pure, Except.error?_or_bind_const, Option.or_none]

/-- Reading every element fails with the error of the first element that is not read. -/
theorem mapM_except_eq_error_iff : ∀ {l : List α} {e : ε},
    l.mapM f = .error e ↔ ∃ pre x post, l = pre ++ x :: post ∧ (∀ y ∈ pre, ∃ b, f y = .ok b) ∧
      f x = .error e := by
  intro l e
  rw [← Except.error?_eq_some_iff, Except.error?_mapM, List.findSome?_eq_some_iff]
  simp only [Except.error?_eq_some_iff, Except.error?_eq_none_iff]
  constructor
  · rintro ⟨pre, x, post, hl, hx, hpre⟩
    exact ⟨pre, x, post, hl, hpre, hx⟩
  · rintro ⟨pre, x, post, hl, hpre, hx⟩
    exact ⟨pre, x, post, hl, hx, hpre⟩

end MapM

/-! ### Hexadecimal digits -/

/-- The hexadecimal digits, of either case. -/
def hexDigitChars : List Char := "0123456789abcdefABCDEF".toList

/-- The value of a hexadecimal digit: its place among the lowercase digits. -/
def hexDigitValue (c : Char) : Nat := "0123456789abcdef".toList.idxOf c.toLower

/-- The number hexadecimal digits stand for, the most significant first. -/
def hexValue (ds : List Char) : Nat := Nat.ofDigits 16 (ds.map hexDigitValue).reverse

/-- A property of every character of a short list, checked by running through the list. (The
instance that decides a property of every character would run through all of them.) -/
theorem forall_mem_of_all_decide {l : List Char} {p : Char → Prop} [DecidablePred p]
    (h : (l.all fun c => decide (p c)) = true) : ∀ c ∈ l, p c :=
  fun c hc => of_decide_eq_true (List.all_eq_true.mp h c hc)

/-- A hexadecimal digit is read as its value, is one byte, and is neither a blank nor a comma. -/
theorem hexDigit_facts : ∀ c ∈ hexDigitChars, Address.digitValue? c = some (hexDigitValue c) ∧
    Address.isPairBlank c = false ∧ Address.isUnicodeBlank c = false ∧ c.utf8Size = 1 ∧
    c ≠ 'x' ∧ c ≠ ',' ∧ hexDigitValue c < 16 :=
  forall_mem_of_all_decide (by decide)

theorem toNat_lt_of_digitValue {c : Char} {d : Nat} (h : Address.digitValue? c = some d) :
    c.toNat < 128 := by
  unfold Address.digitValue? at h
  simp only [Char.le_def, UInt32.le_iff_toNat_le] at h
  show c.val.toNat < 128
  split_ifs at h with h1 h2 h3
  · exact Nat.lt_of_le_of_lt h1.2 (by decide)
  · exact Nat.lt_of_le_of_lt h2.2 (by decide)
  · exact Nat.lt_of_le_of_lt h3.2 (by decide)

/-- Only a hexadecimal digit has a digit value. -/
theorem mem_hexDigitChars_of_digitValue {c : Char} {d : Nat} (h : Address.digitValue? c = some d) :
    c ∈ hexDigitChars := by
  -- a character with a value is ASCII, and the ASCII characters are checked one by one
  have hall : ∀ n < 128, (Address.digitValue? (Char.ofNat n)).isSome → Char.ofNat n ∈ hexDigitChars := by
    decide
  have := hall c.toNat (toNat_lt_of_digitValue h) (by rw [Char.ofNat_toNat, h]; rfl)
  rwa [Char.ofNat_toNat] at this

theorem ofDigits_range_map (b n L : Nat) :
    Nat.ofDigits b ((List.range L).map fun k => n / b ^ k % b) = n % b ^ L := by
  induction L with
  | zero => simp [Nat.mod_one]
  | succ L ih =>
    rw [List.range_succ, List.map_append, Nat.ofDigits_append, ih, List.length_map, List.length_range,
      List.map_singleton, Nat.ofDigits_singleton, pow_succ, Nat.mod_mul]

/-! ### Reading digit pairs -/

namespace Address

/-- **Forty digits read in pairs give twenty bytes** worth the digits. -/
theorem readPairs_digits : ∀ (n : Nat) (ds : List Char) (pos : Nat), ds.length = 2 * n →
    (∀ c ∈ ds, c ∈ hexDigitChars) → ∃ bytes, readPairs n ds pos = .ok bytes ∧
      bytes.length = n ∧ bytes.foldl (fun acc x => 256 * acc + x) 0 = hexValue ds := by
  intro n
  induction n with
  | zero =>
    intro ds pos hlen _
    have hnil : ds = [] := List.length_eq_zero_iff.mp (by simpa using hlen)
    subst hnil
    exact ⟨[], rfl, rfl, rfl⟩
  | succ n ih =>
    intro ds pos hlen hhex
    obtain ⟨c₁, c₂, rest, rfl⟩ : ∃ c₁ c₂ rest, ds = c₁ :: c₂ :: rest := by
      match ds, hlen with
      | c₁ :: c₂ :: rest, _ => exact ⟨c₁, c₂, rest, rfl⟩
    obtain ⟨hv₁, hb₁, -, -, -, -, -⟩ := hexDigit_facts c₁ (hhex c₁ (by simp))
    obtain ⟨hv₂, hb₂, -, -, -, -, -⟩ := hexDigit_facts c₂ (hhex c₂ (by simp))
    obtain ⟨bytes, hr, hl, hv⟩ := ih rest (pos + 2) (by simp at hlen; omega)
      fun c hc => hhex c (by simp [hc])
    refine ⟨(16 * hexDigitValue c₁ + hexDigitValue c₂) :: bytes, ?_, by simp [hl], ?_⟩
    · simp [readPairs, nextByte, hb₁, hv₁, hb₂, hv₂, hr, Except.map]
    · -- the first byte stands above the `2 * n` digits of the rest
      rw [foldl_mul_add_eq_ofDigits, Nat.mul_zero, Nat.zero_add] at hv
      rw [List.foldl_cons, foldl_mul_add_eq_ofDigits, Nat.zero_add, hl, hv]
      simp only [hexValue, List.map_cons, List.reverse_cons, List.append_assoc, List.singleton_append,
        Nat.ofDigits_append, Nat.ofDigits_cons, Nat.ofDigits_nil, List.length_reverse, List.length_map]
      rw [show rest.length = 2 * n by simp at hlen; omega, pow_mul]
      ring

/-- The characters a byte is read from: blanks and digits, one digit when the high digit was
already read and two otherwise. -/
theorem nextByte_eq_ok : ∀ {cs : List Char} {pos : Nat} {high : Option Nat} {b : Nat} {rest : List Char}
    {pos' : Nat}, nextByte cs pos high = some (.ok (b, rest, pos')) →
    ∃ pre, cs = pre ++ rest ∧ (pre.filter (!isPairBlank ·)).length = (if high.isSome then 1 else 2) ∧
      ∀ c ∈ pre, isPairBlank c ∨ c ∈ hexDigitChars := by
  intro cs
  induction cs with
  | nil =>
    intro pos high b rest pos' h
    cases high <;> simp [nextByte] at h
  | cons c cs ih =>
    intro pos high b rest pos' h
    by_cases hb : isPairBlank c
    · -- a blank is skipped
      rw [nextByte, if_pos hb] at h
      obtain ⟨pre, rfl, hcount, hall⟩ := ih h
      refine ⟨c :: pre, rfl, by simpa [hb] using hcount, ?_⟩
      intro x hx
      rcases List.mem_cons.mp hx with rfl | hx
      · exact .inl hb
      · exact hall x hx
    · rw [nextByte, if_neg hb] at h
      cases hd : digitValue? c with
      | none => simp [hd] at h
      | some d =>
        have hc := mem_hexDigitChars_of_digitValue hd
        cases high with
        | none =>
          simp only [hd] at h
          obtain ⟨pre, rfl, hcount, hall⟩ := ih h
          refine ⟨c :: pre, rfl, by simpa [hb] using hcount, ?_⟩
          intro x hx
          rcases List.mem_cons.mp hx with rfl | hx
          · exact .inr hc
          · exact hall x hx
        | some h' =>
          simp only [hd, Option.some.injEq, Except.ok.injEq, Prod.mk.injEq] at h
          obtain ⟨-, rfl, -⟩ := h
          refine ⟨[c], rfl, by simp [hb], ?_⟩
          simp [hc]

/-- Nothing is left to read only from blanks, and never in the middle of a byte. -/
theorem nextByte_eq_none : ∀ {cs : List Char} {pos : Nat} {high : Option Nat},
    nextByte cs pos high = none → high = none ∧ ∀ c ∈ cs, isPairBlank c := by
  intro cs
  induction cs with
  | nil =>
    intro pos high h
    cases high <;> simp_all [nextByte]
  | cons c cs ih =>
    intro pos high h
    by_cases hb : isPairBlank c
    · rw [nextByte, if_pos hb] at h
      obtain ⟨rfl, hall⟩ := ih h
      exact ⟨rfl, by simpa [hb] using hall⟩
    · rw [nextByte, if_neg hb] at h
      cases hd : digitValue? c with
      | none => simp [hd] at h
      | some d =>
        cases high with
        | none =>
          simp only [hd] at h
          exact absurd (ih h).1 (by simp)
        | some _ => simp [hd] at h

/-- **What reading `n` bytes accepts**: a text of `2 * n` digits and nothing else but blanks. -/
theorem readPairs_eq_ok : ∀ {n : Nat} {cs : List Char} {pos : Nat} {bytes : List Nat},
    readPairs n cs pos = .ok bytes →
    (cs.filter (!isPairBlank ·)).length = 2 * n ∧ ∀ c ∈ cs, isPairBlank c ∨ c ∈ hexDigitChars := by
  intro n
  induction n with
  | zero =>
    intro cs pos bytes h
    rw [readPairs] at h
    cases hn : nextByte cs pos none with
    | none =>
      have hall := (nextByte_eq_none hn).2
      exact ⟨by simpa using hall, fun c hc => .inl (hall c hc)⟩
    | some r => simp [hn] at h
  | succ n ih =>
    intro cs pos bytes h
    rw [readPairs] at h
    cases hn : nextByte cs pos none with
    | none => simp [hn] at h
    | some r =>
      rcases r with e | ⟨b, rest, pos'⟩
      · simp [hn] at h
      · simp only [hn] at h
        obtain ⟨bytes', hrest, -⟩ := Except.map_eq_ok.mp h
        obtain ⟨pre, rfl, hcount, hall⟩ := nextByte_eq_ok hn
        obtain ⟨hcount', hall'⟩ := ih hrest
        refine ⟨?_, fun c hc => ?_⟩
        · simp only [List.filter_append, List.length_append, hcount, hcount', Option.isSome_none]
          simp
          omega
        · rcases List.mem_append.mp hc with hc | hc
          · exact hall c hc
          · exact hall' c hc

/-! ### The text of one address -/

theorem dropPrefix_cases (s : String) :
    (∃ r, s.toList = '0' :: 'x' :: r ∧ dropPrefix s = String.ofList r) ∨
      (dropPrefix s = s ∧ ∀ r, s.toList ≠ '0' :: 'x' :: r) := by
  unfold dropPrefix
  split
  · rename_i rest h
    exact .inl ⟨rest, h, rfl⟩
  · rename_i h
    exact .inr ⟨rfl, fun r hr => h r hr⟩

theorem dropPrefix_digits {ds : List Char} (hds : ∀ c ∈ ds, c ∈ hexDigitChars) :
    dropPrefix (String.ofList ds) = String.ofList ds := by
  rcases dropPrefix_cases (String.ofList ds) with ⟨r, h, -⟩ | ⟨h, -⟩
  · -- digits never spell `0x`
    rw [String.toList_ofList] at h
    subst h
    exact absurd rfl (hexDigit_facts 'x' (hds 'x' (by simp))).2.2.2.2.1
  · exact h

theorem zero_x_append (ds : List Char) : "0x" ++ String.ofList ds = String.ofList ('0' :: 'x' :: ds) := by
  rw [show "0x" = String.ofList ['0', 'x'] from rfl, ← String.ofList_append]
  rfl

theorem dropPrefix_zero_x (ds : List Char) : dropPrefix ("0x" ++ String.ofList ds) = String.ofList ds := by
  rw [dropPrefix, zero_x_append, String.toList_ofList]
  rfl

theorem length_le_utf8Len (l : List Char) : l.length ≤ String.utf8Len l := by
  induction l with
  | nil => simp
  | cons c l ih =>
    rw [String.utf8Len_cons, List.length_cons]
    have := Char.utf8Size_pos c
    omega

theorem utf8Len_digits {ds : List Char} (hds : ∀ c ∈ ds, c ∈ hexDigitChars) :
    String.utf8Len ds = ds.length := by
  induction ds with
  | nil => simp
  | cons c ds ih =>
    rw [String.utf8Len_cons, List.length_cons, ih fun x hx => hds x (by simp [hx]),
      (hexDigit_facts c (hds c (by simp))).2.2.2.1]

end Address

/-- A text is an address as configured, with digits `ds`: once its blanks are trimmed, forty
hexadecimal digits of either case, after a lowercase `0x` or not. -/
def AddressText (s : String) (ds : List Char) : Prop :=
  ds.length = 40 ∧ (∀ c ∈ ds, c ∈ hexDigitChars) ∧
    (Address.trimBlanks s = String.ofList ds ∨ Address.trimBlanks s = "0x" ++ String.ofList ds)

namespace Address

theorem parse_of_addressText {input : String} {ds : List Char} (h : AddressText input ds) :
    parse input = .ok (ofNat (hexValue ds)) := by
  obtain ⟨hlen, hhex, htrim⟩ := h
  have hhexText : dropPrefix (trimBlanks input) = String.ofList ds := by
    rcases htrim with h | h
    · rw [h, dropPrefix_digits hhex]
    · rw [h, dropPrefix_zero_x]
  obtain ⟨bytes, hr, -, hv⟩ := readPairs_digits 20 ds 0 (by omega) hhex
  have hsize : (String.ofList ds).utf8ByteSize = 40 := by
    rw [String.utf8ByteSize_ofList, utf8Len_digits hhex, hlen]
  simp only [parse, hhexText, hsize, ne_eq, not_true_eq_false, if_false, dropPrefix_digits hhex,
    String.toList_ofList, hr, hv]

theorem addressText_of_parse {input : String} {a : Address} (h : parse input = .ok a) :
    ∃ ds, AddressText input ds ∧ a = ofNat (hexValue ds) := by
  dsimp only [parse] at h
  split at h
  · cases h
  rename_i hsize
  rw [ne_eq, Decidable.not_not] at hsize
  split at h
  · rename_i bytes hr
    cases h
    obtain ⟨hcount, hall⟩ := readPairs_eq_ok hr
    -- the digits are counted against the bytes left after one `0x`
    have hbytes : String.utf8Len (dropPrefix (trimBlanks input)).toList = 40 := by
      rw [String.utf8Len_toList, hsize]
    have hle := List.length_filter_le (fun c => !isPairBlank c)
      (dropPrefix (dropPrefix (trimBlanks input))).toList
    rcases dropPrefix_cases (dropPrefix (trimBlanks input)) with ⟨r, hhex, hdrop⟩ | ⟨hdrop, -⟩
    · -- a second `0x` leaves too few bytes for forty digits
      rw [hdrop, String.toList_ofList] at hcount hle
      rw [hhex, String.utf8Len_cons, String.utf8Len_cons] at hbytes
      have := length_le_utf8Len r
      have h0 : Char.utf8Size '0' = 1 := rfl
      have hx : Char.utf8Size 'x' = 1 := rfl
      omega
    · rw [hdrop] at hcount hle hall hr
      set ds := (dropPrefix (trimBlanks input)).toList with hds
      have hlen : ds.length = 40 := by
        have := length_le_utf8Len ds
        omega
      -- forty bytes holding forty digits leave no room for a blank or a wide character
      have hnone : ∀ c ∈ ds, isPairBlank c = false := by
        have heq : (ds.filter (fun c => !isPairBlank c)).length = ds.length := by omega
        intro c hc
        simpa using List.length_filter_eq_length_iff.mp heq c hc
      have hhex : ∀ c ∈ ds, c ∈ hexDigitChars := fun c hc =>
        (hall c hc).resolve_left (by simp [hnone c hc])
      refine ⟨ds, ⟨hlen, hhex, ?_⟩, ?_⟩
      · rcases dropPrefix_cases (trimBlanks input) with ⟨r, htrim, hdrop'⟩ | ⟨hdrop', -⟩
        · right
          rw [hds, hdrop', String.toList_ofList, zero_x_append, ← htrim, String.ofList_toList]
        · left
          rw [hds, hdrop', String.ofList_toList]
      · obtain ⟨bytes', hr', -, hv⟩ := readPairs_digits 20 ds 0 (by omega) hhex
        rw [hr] at hr'
        cases hr'
        rw [hv]
  · cases h

/-- **An address is read from exactly its forty digits**, and is the number they stand for. -/
theorem parse_eq_ok_iff {input : String} {a : Address} :
    parse input = .ok a ↔ ∃ ds, AddressText input ds ∧ a = ofNat (hexValue ds) :=
  ⟨addressText_of_parse, fun ⟨_, h, ha⟩ => ha ▸ parse_of_addressText h⟩

/-- A text that is not an address is refused as malformed, quoting the text as given. -/
theorem parse_eq_error {input : String} {e : ConfigError} (h : parse input = .error e) :
    (¬∃ ds, AddressText input ds) ∧ ∃ reason, e = .malformedAddress input reason := by
  refine ⟨fun ⟨ds, hds⟩ => ?_, ?_⟩
  · rw [parse_of_addressText hds] at h
    cases h
  · dsimp only [parse] at h
    split at h
    · cases h
      exact ⟨_, rfl⟩
    · split at h
      · cases h
      · cases h
        exact ⟨_, rfl⟩

end Address

/-! ### Lists of addresses -/

/-- The pieces of a list of addresses: the text split on commas, each piece trimmed of blanks,
the empty pieces dropped. -/
def addressPieces (input : String) : List String :=
  ((input.toList.splitOn ',').map fun p => Address.trimBlanks (String.ofList p)).filter (· ≠ "")

namespace Address

theorem parseList_eq_mapM (input : String) : parseList input = (addressPieces input).mapM parse := by
  rw [parseList, splitOn_comma, List.map_map]
  rfl

/-- A list is read when every piece is an address, the addresses in the order of the pieces. -/
theorem parseList_eq_ok_iff {input : String} {as : List Address} :
    parseList input = .ok as ↔ List.Forall₂ (fun p a => parse p = .ok a) (addressPieces input) as := by
  rw [parseList_eq_mapM, mapM_except_eq_ok_iff]

/-- A list fails with the error of its first piece that is not an address. -/
theorem parseList_eq_error_iff {input : String} {e : ConfigError} :
    parseList input = .error e ↔ ∃ pre p post, addressPieces input = pre ++ p :: post ∧
      (∀ q ∈ pre, ∃ ds, AddressText q ds) ∧ parse p = .error e := by
  rw [parseList_eq_mapM, mapM_except_eq_error_iff]
  constructor
  · rintro ⟨pre, p, post, h, hpre, hp⟩
    exact ⟨pre, p, post, h, fun q hq => (addressText_of_parse (hpre q hq).choose_spec).imp
      fun _ h => h.1, hp⟩
  · rintro ⟨pre, p, post, h, hpre, hp⟩
    exact ⟨pre, p, post, h, fun q hq => (hpre q hq).elim fun _ hds => ⟨_, parse_of_addressText hds⟩, hp⟩

/-! ### Addresses as they are written -/

theorem trimBlanks_pad {w t w' : List Char} (hw : ∀ c ∈ w, isUnicodeBlank c = true)
    (hw' : ∀ c ∈ w', isUnicodeBlank c = true) (ht : ∀ c ∈ t.head?, isUnicodeBlank c = false)
    (ht' : ∀ c ∈ t.getLast?, isUnicodeBlank c = false) :
    trimBlanks (String.ofList (w ++ t ++ w')) = String.ofList t := by
  have hdrop : ∀ {u l : List Char}, (∀ c ∈ u, isUnicodeBlank c = true) →
      (∀ c ∈ l.head?, isUnicodeBlank c = false) → (u ++ l).dropWhile isUnicodeBlank = l := by
    intro u l hu hl
    rw [List.dropWhile_append_of_pos hu]
    cases l with
    | nil => rfl
    | cons c l => exact List.dropWhile_cons_of_neg (by simpa using hl c rfl)
  rw [trimBlanks, String.toList_ofList]
  cases t with
  | nil =>
    -- nothing but blanks
    have hall : (w ++ [] ++ w').dropWhile isUnicodeBlank = [] := by
      simpa using hdrop (u := w ++ w') (l := []) (by simpa [or_imp, forall_and] using ⟨hw, hw'⟩)
        (by simp)
    rw [hall]
    rfl
  | cons c t =>
    have hfront : (w ++ c :: t ++ w').dropWhile isUnicodeBlank = c :: t ++ w' := by
      simpa using hdrop (u := w) (l := c :: t ++ w') hw (by simpa using ht)
    have hback : (w'.reverse ++ (c :: t).reverse).dropWhile isUnicodeBlank = (c :: t).reverse :=
      hdrop (fun x hx => hw' x (List.mem_reverse.mp hx)) fun x hx => ht' x (by rwa [List.head?_reverse] at hx)
    rw [hfront, List.reverse_append, hback, List.reverse_reverse]

/-- The digits `toText` writes: lowercase, and read back as their place. -/
theorem hexDigitAt_facts : ∀ i < 16, "0123456789abcdef".toList.getD i '0' ∈ hexDigitChars ∧
    hexDigitValue ("0123456789abcdef".toList.getD i '0') = i := by
  decide

/-- An address is written as `0x` and forty digits that stand for it. -/
theorem toText_digits (a : Address) : ∃ ds, a.toText = "0x" ++ String.ofList ds ∧ ds.length = 40 ∧
    (∀ c ∈ ds, c ∈ hexDigitChars) ∧ hexValue ds = a.val := by
  have hdigit : ∀ k, hexDigitAt a.val k = "0123456789abcdef".toList.getD (a.val / 16 ^ k % 16) '0' := by
    intro k
    simp [hexDigitAt, Nat.pow_eq]
  refine ⟨(List.range 40).reverse.map (hexDigitAt a.val), rfl, by simp, fun c hc => ?_, ?_⟩
  · obtain ⟨k, -, rfl⟩ := List.mem_map.mp hc
    rw [hdigit]
    exact (hexDigitAt_facts _ (Nat.mod_lt _ (by decide))).1
  · -- the digits are those of the number in base 16, below `16 ^ 40`
    have hlt : a.val < 16 ^ 40 := by simpa [Nat.pow_eq] using a.lt
    have hvalues : ((List.range 40).reverse.map (hexDigitAt a.val)).map hexDigitValue =
        ((List.range 40).map fun k => a.val / 16 ^ k % 16).reverse := by
      rw [List.map_map, List.map_reverse]
      congr 1
      refine List.map_congr_left fun k _ => ?_
      simp only [Function.comp_apply, hdigit]
      exact (hexDigitAt_facts _ (Nat.mod_lt _ (by decide))).2
    rw [hexValue, hvalues, List.reverse_reverse, ofDigits_range_map, Nat.mod_eq_of_lt hlt]

theorem ofNat_val (a : Address) : ofNat a.val = a := by
  have hlt : a.val < Nat.pow 2 160 := a.lt
  cases a
  simp only [ofNat, mk.injEq]
  exact Nat.mod_eq_of_lt hlt

/-- An address is read back from its text. -/
theorem parse_toText (a : Address) : parse a.toText = .ok a := by
  obtain ⟨ds, htext, hlen, hhex, hval⟩ := toText_digits a
  have hblank : ∀ c ∈ ('0' :: 'x' :: ds), isUnicodeBlank c = false := by
    intro c hc
    rcases List.mem_cons.mp hc with rfl | hc
    · rfl
    rcases List.mem_cons.mp hc with rfl | hc
    · rfl
    exact (hexDigit_facts c (hhex c hc)).2.2.1
  have htrim : trimBlanks a.toText = "0x" ++ String.ofList ds := by
    have h := @trimBlanks_pad [] ('0' :: 'x' :: ds) [] (by simp) (by simp)
      (fun c hc => hblank c (List.mem_of_mem_head? hc)) (fun c hc => hblank c (List.mem_of_mem_getLast? hc))
    simp only [List.nil_append, List.append_nil] at h
    rw [htext, zero_x_append, h]
  rw [parse_of_addressText ⟨hlen, hhex, .inr htrim⟩, hval, ofNat_val]

/-- The text of an address is no blank and no comma. -/
theorem toText_chars (a : Address) : ∃ cs, a.toText = String.ofList cs ∧ cs ≠ [] ∧
    ∀ c ∈ cs, isUnicodeBlank c = false ∧ c ≠ ',' := by
  obtain ⟨ds, htext, -, hhex, -⟩ := toText_digits a
  refine ⟨'0' :: 'x' :: ds, by rw [htext, zero_x_append], by simp, fun c hc => ?_⟩
  rcases List.mem_cons.mp hc with rfl | hc
  · exact ⟨rfl, by decide⟩
  rcases List.mem_cons.mp hc with rfl | hc
  · exact ⟨rfl, by decide⟩
  obtain ⟨-, -, hb, -, -, hcomma, -⟩ := hexDigit_facts c (hhex c hc)
  exact ⟨hb, hcomma⟩

/-- A piece of blanks around an address, or of blanks alone, is trimmed to the address, or to
nothing. -/
theorem trimBlanks_piece {w w' : String} (a : Option Address)
    (hblank : ∀ c ∈ w.toList ++ w'.toList, isUnicodeBlank c = true) :
    trimBlanks (w ++ (a.map toText).getD "" ++ w') = (a.map toText).getD "" := by
  have hw : ∀ c ∈ w.toList, isUnicodeBlank c = true := fun c hc => hblank c (by simp [hc])
  have hw' : ∀ c ∈ w'.toList, isUnicodeBlank c = true := fun c hc => hblank c (by simp [hc])
  cases a with
  | none =>
    have h := trimBlanks_pad (t := []) hw hw' (by simp) (by simp)
    rw [String.ofList_append, String.ofList_append, String.ofList_toList, String.ofList_toList] at h
    exact h
  | some a =>
    obtain ⟨cs, htext, -, hcs⟩ := toText_chars a
    have h := trimBlanks_pad (t := cs) hw hw' (fun c hc => (hcs c (List.mem_of_mem_head? hc)).1)
      (fun c hc => (hcs c (List.mem_of_mem_getLast? hc)).1)
    rw [String.ofList_append, String.ofList_append, String.ofList_toList, String.ofList_toList] at h
    rw [Option.map_some, Option.getD_some, htext]
    exact h

/-- A piece of a list written by hand: blanks, possibly an address as `toText` writes it, and
blanks. -/
def renderPiece (x : String × Option Address × String) : String :=
  x.1 ++ (x.2.1.map toText).getD "" ++ x.2.2

/-- A written piece holds a comma nowhere. -/
theorem comma_not_mem_renderPiece {x : String × Option Address × String}
    (hblank : ∀ c ∈ x.1.toList ++ x.2.2.toList, isUnicodeBlank c = true) :
    ',' ∉ (renderPiece x).toList := by
  intro hc
  have hcomma : isUnicodeBlank ',' = false := by decide
  simp only [renderPiece, String.toList_append, List.mem_append] at hc
  rcases hc with (hc | hc) | hc
  · simp [hblank ',' (by simp [hc])] at hcomma
  · obtain ⟨w, a, w'⟩ := x
    cases a with
    | none => simp at hc
    | some a =>
      obtain ⟨cs, htext, -, hcs⟩ := toText_chars a
      simp only [Option.map_some, Option.getD_some, htext, String.toList_ofList] at hc
      exact (hcs ',' hc).2 rfl
  · simp [hblank ',' (by simp [hc])] at hcomma

/-- A list of addresses written by hand: each piece is blanks, possibly an address as `toText`
writes it, and blanks, and the pieces are joined by commas. -/
def renderPieces (items : List (String × Option Address × String)) : String :=
  ",".intercalate (items.map renderPiece)

/-- **Written addresses are read back**, whatever blanks stand around them and however many
empty pieces stand between them. -/
theorem parseList_renderPieces (items : List (String × Option Address × String))
    (hblank : ∀ x ∈ items, ∀ c ∈ x.1.toList ++ x.2.2.toList, isUnicodeBlank c = true) :
    parseList (renderPieces items) = .ok (items.filterMap (·.2.1)) := by
  -- the pieces are the written addresses, in order
  have hkept : ∀ l : List (String × Option Address × String),
      ((l.map fun x => (x.2.1.map toText).getD "").filter (· ≠ "")) = (l.filterMap (·.2.1)).map toText := by
    intro l
    induction l with
    | nil => rfl
    | cons x l ih =>
      obtain ⟨w, a, w'⟩ := x
      cases a with
      | none => simpa using ih
      | some a =>
        obtain ⟨cs, htext, hne, -⟩ := toText_chars a
        have hnonempty : a.toText ≠ "" := by
          rw [htext, Ne, ← String.ofList_nil, String.ofList_inj]
          exact hne
        simpa [hnonempty] using ih
  have hpieces : addressPieces (renderPieces items) = (items.filterMap (·.2.1)).map toText := by
    rw [← hkept items]
    cases items with
    | nil => rfl
    | cons x rest =>
      -- no piece holds a comma, so splitting on commas gives the pieces back
      have hcomma : ∀ l ∈ (x :: rest).map (String.toList ∘ renderPiece), ',' ∉ l := by
        intro l hl
        obtain ⟨y, hy, rfl⟩ := List.mem_map.mp hl
        exact comma_not_mem_renderPiece (hblank y hy)
      rw [addressPieces, renderPieces, String.toList_intercalate, List.map_map,
        show ",".toList = [','] from rfl, List.splitOn_intercalate ',' hcomma (by simp), List.map_map]
      refine congrArg (List.filter fun s => decide (s ≠ "")) (List.map_congr_left fun y hy => ?_)
      simp only [Function.comp_apply, String.ofList_toList]
      exact trimBlanks_piece y.2.1 (hblank y hy)
  rw [parseList_eq_mapM, hpieces, mapM_except_eq_ok_iff, List.forall₂_map_left_iff, List.forall₂_same]
  intro a _
  exact parse_toText a

end Address

/-! ### The case of the digits -/

/-- An uppercase hexadecimal letter in lowercase, and every other character as it is. -/
def lowerHexLetter (c : Char) : Char := if c ∈ "ABCDEF".toList then c.toLower else c

/-- The uppercase letters are digits, blanks neither before nor after lowering, and lowered
they stand for the same value and are no character of `0x`. -/
theorem upperHexLetter_facts : ∀ c ∈ "ABCDEF".toList, c ∈ hexDigitChars ∧
    c.toLower ∈ hexDigitChars ∧ c.toLower ∉ "0x".toList ∧ hexDigitValue c.toLower = hexDigitValue c ∧
    Address.isUnicodeBlank c = false ∧ Address.isUnicodeBlank c.toLower = false :=
  forall_mem_of_all_decide (by decide)

theorem isUnicodeBlank_lowerHexLetter (c : Char) :
    Address.isUnicodeBlank (lowerHexLetter c) = Address.isUnicodeBlank c := by
  by_cases h : c ∈ "ABCDEF".toList
  · obtain ⟨-, -, -, -, hb, hb'⟩ := upperHexLetter_facts c h
    rw [lowerHexLetter, if_pos h, hb, hb']
  · rw [lowerHexLetter, if_neg h]

theorem lowerHexLetter_mem_hexDigitChars {c : Char} :
    lowerHexLetter c ∈ hexDigitChars ↔ c ∈ hexDigitChars := by
  by_cases h : c ∈ "ABCDEF".toList
  · obtain ⟨hc, hl, -⟩ := upperHexLetter_facts c h
    rw [lowerHexLetter, if_pos h]
    exact iff_of_true hl hc
  · rw [lowerHexLetter, if_neg h]

theorem hexDigitValue_lowerHexLetter (c : Char) : hexDigitValue (lowerHexLetter c) = hexDigitValue c := by
  by_cases h : c ∈ "ABCDEF".toList
  · rw [lowerHexLetter, if_pos h]
    exact (upperHexLetter_facts c h).2.2.2.1
  · rw [lowerHexLetter, if_neg h]

/-- Only `0` lowers to `0`, and only `x` to `x`. -/
theorem eq_of_lowerHexLetter_eq {c d : Char} (hd : d ∈ "0x".toList) (h : lowerHexLetter c = d) :
    c = d := by
  by_cases hc : c ∈ "ABCDEF".toList
  · rw [lowerHexLetter, if_pos hc] at h
    exact absurd (h ▸ hd) (upperHexLetter_facts c hc).2.2.1
  · rwa [lowerHexLetter, if_neg hc] at h

theorem hexValue_map_lowerHexLetter (ds : List Char) : hexValue (ds.map lowerHexLetter) = hexValue ds := by
  rw [hexValue, hexValue, List.map_map]
  congr 3
  exact funext hexDigitValue_lowerHexLetter

/-- Lowering letters commutes with trimming, as no letter is a blank. -/
theorem trimBlanks_map_lowerHexLetter (s : String) :
    Address.trimBlanks (s.map lowerHexLetter) = (Address.trimBlanks s).map lowerHexLetter := by
  have hp : Address.isUnicodeBlank ∘ lowerHexLetter = Address.isUnicodeBlank :=
    funext isUnicodeBlank_lowerHexLetter
  rw [Address.trimBlanks, Address.trimBlanks, String.toList_map, List.dropWhile_map, hp,
    ← List.map_reverse, List.dropWhile_map, hp, ← List.map_reverse, String.map_eq_internal,
    String.toList_ofList]

theorem digits_of_map_lowerHexLetter {ds ds' : List Char} (h : ds.map lowerHexLetter = ds')
    (hlen : ds'.length = 40) (hhex : ∀ c ∈ ds', c ∈ hexDigitChars) :
    ds.length = 40 ∧ ∀ c ∈ ds, c ∈ hexDigitChars := by
  subst h
  exact ⟨by rwa [List.length_map] at hlen, fun c hc =>
    lowerHexLetter_mem_hexDigitChars.mp (hhex _ (List.mem_map_of_mem hc))⟩

theorem addressText_map_lowerHexLetter {s : String} {ds : List Char} (h : AddressText s ds) :
    AddressText (s.map lowerHexLetter) (ds.map lowerHexLetter) := by
  obtain ⟨hlen, hhex, htrim⟩ := h
  refine ⟨by rw [List.length_map, hlen], fun c hc => ?_, ?_⟩
  · obtain ⟨d, hd, rfl⟩ := List.mem_map.mp hc
    exact lowerHexLetter_mem_hexDigitChars.mpr (hhex d hd)
  · have h0 : lowerHexLetter '0' = '0' := by decide
    have hx : lowerHexLetter 'x' = 'x' := by decide
    rw [trimBlanks_map_lowerHexLetter, String.map_eq_internal]
    rcases htrim with h | h
    · left
      rw [h, String.toList_ofList]
    · right
      rw [h, Address.zero_x_append, Address.zero_x_append, String.toList_ofList, List.map_cons,
        List.map_cons, h0, hx]

theorem addressText_of_map_lowerHexLetter {s : String} {ds' : List Char}
    (h : AddressText (s.map lowerHexLetter) ds') :
    ∃ ds, AddressText s ds ∧ ds' = ds.map lowerHexLetter := by
  obtain ⟨hlen, hhex, htrim⟩ := h
  rw [trimBlanks_map_lowerHexLetter, String.map_eq_internal] at htrim
  rcases htrim with h | h
  · rw [String.ofList_inj] at h
    obtain ⟨hlen', hhex'⟩ := digits_of_map_lowerHexLetter h hlen hhex
    exact ⟨_, ⟨hlen', hhex', .inl String.ofList_toList.symm⟩, h.symm⟩
  · -- the trimmed text lowers to `0x` and the digits, so it is `0x` and digits itself
    rw [Address.zero_x_append, String.ofList_inj] at h
    obtain ⟨c0, rest, hcons, hc0, hrest⟩ := List.map_eq_cons_iff.mp h
    obtain ⟨cx, ds, rfl, hcx, hds⟩ := List.map_eq_cons_iff.mp hrest
    obtain ⟨hlen', hhex'⟩ := digits_of_map_lowerHexLetter hds hlen hhex
    have h0 := eq_of_lowerHexLetter_eq (by decide) hc0
    have hx := eq_of_lowerHexLetter_eq (by decide) hcx
    refine ⟨ds, ⟨hlen', hhex', .inr ?_⟩, hds.symm⟩
    rw [Address.zero_x_append, ← h0, ← hx, ← hcons, String.ofList_toList]

namespace Address

theorem eq_ofNat_of_val {a : Address} {n : Nat} (h : a.val = n) : a = ofNat n := by
  rw [← h, ofNat_val]

theorem val_ofNat_hexValue {s : String} {ds : List Char} (h : AddressText s ds) :
    (ofNat (hexValue ds)).val = hexValue ds := by
  obtain ⟨hlen, hhex, -⟩ := h
  have hdigits : ∀ d ∈ (ds.map hexDigitValue).reverse, d < 16 := by
    intro d hd
    obtain ⟨c, hc, rfl⟩ := List.mem_map.mp (List.mem_reverse.mp hd)
    exact (hexDigit_facts c (hhex c hc)).2.2.2.2.2.2
  have hlt : hexValue ds < Nat.pow 2 160 := by
    have := Nat.ofDigits_lt_base_pow_length (by decide) hdigits
    rw [List.length_reverse, List.length_map, hlen] at this
    simpa [hexValue, Nat.pow_eq] using this
  exact Nat.mod_eq_of_lt hlt

/-- **The case of the digits does not matter**: a text is read as the text with its uppercase
letters lowered. -/
theorem parse_map_lowerHexLetter (s : String) (a : Address) :
    parse (s.map lowerHexLetter) = .ok a ↔ parse s = .ok a := by
  rw [parse_eq_ok_iff, parse_eq_ok_iff]
  constructor
  · rintro ⟨ds', h, rfl⟩
    obtain ⟨ds, hds, rfl⟩ := addressText_of_map_lowerHexLetter h
    exact ⟨ds, hds, by rw [hexValue_map_lowerHexLetter]⟩
  · rintro ⟨ds, h, rfl⟩
    exact ⟨_, addressText_map_lowerHexLetter h, by rw [hexValue_map_lowerHexLetter]⟩

/-- **The grammar of configured addresses.** One address is read exactly from forty digits of
either case after an optional `0x`, blanks around, as the number they stand for, and is refused as
malformed otherwise; a list is read exactly when each of its trimmed non-empty pieces is an
address, and fails with the error of its first piece that is not; written addresses are read
back through blanks and empty pieces; and the case of the digits does not matter. -/
theorem parseList_reads_exactly_addressText :
    (∀ input a, parse input = .ok a ↔ ∃ ds, AddressText input ds ∧ a.val = hexValue ds) ∧
    (∀ input e, parse input = .error e → ∃ reason, e = .malformedAddress input reason) ∧
    (∀ input as, parseList input = .ok as ↔
      List.Forall₂ (fun p a => parse p = .ok a) (addressPieces input) as) ∧
    (∀ input e, parseList input = .error e ↔ ∃ pre p post, addressPieces input = pre ++ p :: post ∧
      (∀ q ∈ pre, ∃ ds, AddressText q ds) ∧ parse p = .error e) ∧
    (∀ items : List (String × Option Address × String),
      (∀ x ∈ items, ∀ c ∈ x.1.toList ++ x.2.2.toList, isUnicodeBlank c = true) →
      parseList (renderPieces items) = .ok (items.filterMap (·.2.1))) ∧
    (∀ s t a, s.map lowerHexLetter = t.map lowerHexLetter → (parse s = .ok a ↔ parse t = .ok a)) := by
  refine ⟨fun input a => ?_, fun input e h => (parse_eq_error h).2, fun _ _ => parseList_eq_ok_iff,
    fun _ _ => parseList_eq_error_iff, parseList_renderPieces, fun s t a hst => ?_⟩
  · rw [parse_eq_ok_iff]
    constructor
    · rintro ⟨ds, hds, rfl⟩
      exact ⟨ds, hds, val_ofNat_hexValue hds⟩
    · rintro ⟨ds, hds, hval⟩
      exact ⟨ds, hds, eq_ofNat_of_val hval⟩
  · rw [← parse_map_lowerHexLetter s, hst, parse_map_lowerHexLetter]

/-- Two addresses written with a blank before the first and an empty piece between them. -/
theorem padded_address_list_reads_back :
    parseList (renderPieces [(" ", some (repeatByte 0x11), ""), ("", none, "\t"),
      ("", some (repeatByte 0xab), " ")]) = .ok [repeatByte 0x11, repeatByte 0xab] :=
  parseList_reads_exactly_addressText.2.2.2.2.1 _ fun x hx =>
    forall_mem_of_all_decide (by revert x; decide)

end Address

end ChainWatch
