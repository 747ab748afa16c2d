import ChainWatch.Wire.Decode
import Mathlib.Data.String.Basic
import Mathlib.Data.List.Forall2
import Mathlib.Data.List.Nodup

/-!
# What a record decoder accepts

A record is read from an object by its members in the order they were written, a field named
twice being refused, and from an array by position. This module says exactly when `readRecord`
accepts a value, for records whose fields are all required, and what a field then reads:

* `readRecord_obj_eq_ok_iff`: a record is read from an object when no member is refused and no
  required field is missing; `firstRefusal_eq_none` says when no member is refused: no field is
  named twice and each field accepts the member of its name, and `firstRefusal_named_once` that
  this is all it takes of field names, so an object naming a field twice is refused
  (`readRecord_obj_repeated`), and one naming each field once is read
  (`readRecord_obj_of_named_once`);
* `readRecord_arr_eq_ok_iff`: a record of required fields is read from an array with one item for
  each field, each accepted by its field;
* `Json.get?_of_nodup`, `fieldOf_of_nodup`: in an object whose keys are all different, a field of
  the record is the one member of its name, `null` if none.

Payload decoders read their fields one by one, so the same facts are also given field by field:
a record from an object with all keys different and whose every field is met by its member
(`FieldRule.MetBy`) is read (`readRecord_obj_of_metBy`), and one field that refuses its member
fails the whole decoder, whatever else the object holds (`readRecord_obj_refused_bind`).

An object read as a map (`Json.fields`), as the inputs of a scenario are, has a member exactly for
each key, with the value of its last member of that key (`Json.mem_fields_iff`).
-/

namespace ChainWatch

/-! ### Objects as maps -/

namespace Json

variable {k : String}

/-- How a member is put into a list sorted by key: before the first greater key, in place of an
equal one, else further on. -/
theorem insertSorted_cons (m n : String × Json) (rest : List (String × Json)) :
    insertSorted m (n :: rest) =
      if m.1 < n.1 then m :: n :: rest else if m.1 = n.1 then m :: rest else n :: insertSorted m rest := by
  simp only [insertSorted, beq_iff_eq]

/-- Looking a key up in a list of members: the first member, if it has the key, else the rest. -/
theorem find?_cons_key (p : String × Json) (l : List (String × Json)) :
    (p :: l).find? (·.1 == k) = if p.1 = k then some p else l.find? (·.1 == k) := by
  by_cases hp : p.1 = k
  · rw [if_pos hp, List.find?_cons_of_pos (by simp [hp])]
  · rw [if_neg hp, List.find?_cons_of_neg (by simpa using hp)]

theorem find?_insertSorted (m : String × Json) (acc : List (String × Json)) :
    (insertSorted m acc).find? (·.1 == k) = if m.1 = k then some m else acc.find? (·.1 == k) := by
  induction acc with
  | nil => rw [insertSorted, find?_cons_key]
  | cons n rest ih =>
    rw [insertSorted_cons, find?_cons_key n]
    by_cases hlt : m.1 < n.1
    · rw [if_pos hlt, find?_cons_key, find?_cons_key]
    · by_cases heq : m.1 = n.1
      · -- the member takes the place of the one with its key
        rw [if_neg hlt, if_pos heq, find?_cons_key, ← heq]
        by_cases hm : m.1 = k <;> simp only [hm, if_true, if_false]
      · rw [if_neg hlt, if_neg heq, find?_cons_key, ih]
        by_cases hn : n.1 = k
        · have hm : m.1 ≠ k := hn ▸ heq
          rw [if_pos hn, if_neg hm, if_pos hn]
        · rw [if_neg hn, if_neg hn]

theorem find?_foldl_insertSorted (ms acc : List (String × Json)) :
    (ms.foldl (fun acc m => insertSorted m acc) acc).find? (·.1 == k) =
      (ms.reverse ++ acc).find? (·.1 == k) := by
  induction ms generalizing acc with
  | nil => rfl
  | cons m rest ih =>
    rw [List.foldl_cons, ih, List.reverse_cons, List.append_assoc, List.find?_append,
      List.find?_append, find?_insertSorted, List.singleton_append, find?_cons_key]

/-- Sorting keeps, for each key, the last member of that key. -/
theorem find?_sortedMembers (ms : List (String × Json)) :
    (sortedMembers ms).find? (·.1 == k) = ms.reverse.find? (·.1 == k) := by
  rw [sortedMembers, find?_foldl_insertSorted, List.append_nil]

theorem mem_insertSorted {m x : String × Json} {acc : List (String × Json)}
    (hx : x ∈ insertSorted m acc) : x = m ∨ x ∈ acc := by
  induction acc with
  | nil => simpa [insertSorted] using hx
  | cons n rest ih =>
    rw [insertSorted_cons] at hx
    split_ifs at hx
    · simpa using hx
    · simp only [List.mem_cons] at hx ⊢
      rcases hx with rfl | hx
      · exact .inl rfl
      · exact .inr (.inr hx)
    · simp only [List.mem_cons] at hx ⊢
      rcases hx with rfl | hx
      · exact .inr (.inl rfl)
      · rcases ih hx with h | h
        · exact .inl h
        · exact .inr (.inr h)

theorem pairwise_insertSorted (m : String × Json) {acc : List (String × Json)}
    (h : acc.Pairwise (·.1 < ·.1)) : (insertSorted m acc).Pairwise (·.1 < ·.1) := by
  induction acc with
  | nil => simp [insertSorted]
  | cons n rest ih =>
    rw [List.pairwise_cons] at h
    rw [insertSorted_cons]
    split_ifs with hlt heq
    · refine List.Pairwise.cons (fun x hx => ?_) (List.Pairwise.cons h.1 h.2)
      rcases List.mem_cons.mp hx with rfl | hx
      · exact hlt
      · exact lt_trans hlt (h.1 x hx)
    · exact List.Pairwise.cons (fun x hx => heq ▸ h.1 x hx) h.2
    · -- the member goes after a smaller key
      have hgt : n.1 < m.1 := lt_of_le_of_ne (not_lt.mp hlt) (Ne.symm heq)
      refine List.Pairwise.cons (fun x hx => ?_) (ih h.2)
      rcases mem_insertSorted hx with rfl | hx
      · exact hgt
      · exact h.1 x hx

/-- The members of an object in key order have strictly increasing keys. -/
theorem pairwise_sortedMembers (ms : List (String × Json)) :
    (sortedMembers ms).Pairwise (·.1 < ·.1) := by
  unfold sortedMembers
  suffices ∀ acc : List (String × Json), acc.Pairwise (·.1 < ·.1) →
      (ms.foldl (fun acc m => insertSorted m acc) acc).Pairwise (·.1 < ·.1) from this [] .nil
  induction ms with
  | nil => exact fun _ h => h
  | cons m rest ih => exact fun acc h => ih _ (pairwise_insertSorted m h)

theorem find?_of_mem_pairwise {l : List (String × Json)} (hl : l.Pairwise (·.1 < ·.1))
    {p : String × Json} (hp : p ∈ l) : l.find? (·.1 == p.1) = some p := by
  induction l with
  | nil => cases hp
  | cons q rest ih =>
    rw [List.pairwise_cons] at hl
    rcases List.mem_cons.mp hp with rfl | hp
    · simp
    · have hne : q.1 ≠ p.1 := ne_of_lt (hl.1 p hp)
      simp [hne, ih hl.2 hp]

/-- **An object read as a map** has a member exactly for each key, with the value of its last
member of that key. -/
theorem mem_fields_iff {ms : List (String × Json)} {v : Json} :
    (k, v) ∈ (obj ms).fields ↔ (obj ms).get? k = some v := by
  simp only [fields, get?]
  rw [← find?_sortedMembers]
  constructor
  · intro h
    rw [find?_of_mem_pairwise (pairwise_sortedMembers ms) h]
    rfl
  · intro h
    obtain ⟨p, hp, rfl⟩ := Option.map_eq_some_iff.mp h
    have hk : p.1 = k := by simpa using List.find?_some hp
    have hmem := List.mem_of_find?_eq_some hp
    rwa [← hk]

/-- In members whose keys are all different, a member is the one found by its key. -/
theorem find?_of_mem_nodup {l : List (String × Json)} (hl : (l.map Prod.fst).Nodup)
    {p : String × Json} (hp : p ∈ l) : l.find? (·.1 == p.1) = some p := by
  obtain ⟨q, hq⟩ : ∃ q, l.find? (·.1 == p.1) = some q :=
    Option.isSome_iff_exists.mp (List.find?_isSome.mpr ⟨p, hp, beq_self_eq_true _⟩)
  -- the member found has the key of `p`, and no two members share a key
  have hk : q.1 = p.1 := by simpa using List.find?_some hq
  rw [hq, List.inj_on_of_nodup_map hl (List.mem_of_find?_eq_some hq) hp hk]

/-- **In an object whose keys are all different**, the value of a key is that of its one member,
the first as well as the last. -/
theorem get?_of_nodup {ms : List (String × Json)} (hms : (ms.map Prod.fst).Nodup) (k : String) :
    (obj ms).get? k = (ms.find? (·.1 == k)).map (·.2) := by
  simp only [get?]
  cases hf : ms.find? (·.1 == k) with
  | none =>
    have hrev : ms.reverse.find? (·.1 == k) = none := by
      rw [List.find?_eq_none] at hf ⊢
      exact fun x hx => hf x (List.mem_reverse.mp hx)
    rw [hrev]
  | some p =>
    have hk : p.1 = k := by simpa using List.find?_some hf
    have hrev : (ms.reverse.map Prod.fst).Nodup := by
      rw [List.map_reverse]
      exact List.nodup_reverse.mpr hms
    rw [← hk, find?_of_mem_nodup hrev (List.mem_reverse.mpr (List.mem_of_find?_eq_some hf))]

/-- A key's value is the value of a member of the object. -/
theorem mem_of_get? {ms : List (String × Json)} {v : Json} (h : (obj ms).get? k = some v) :
    (k, v) ∈ ms := by
  obtain ⟨p, hp, rfl⟩ := Option.map_eq_some_iff.mp h
  have hk : p.1 = k := by simpa using List.find?_some hp
  rw [← hk]
  exact List.mem_reverse.mp (List.mem_of_find?_eq_some hp)

/-- In members whose keys are all different, at most one has a given key. -/
theorem length_filter_key_le_one {ms : List (String × Json)} (hms : (ms.map Prod.fst).Nodup)
    (k : String) : (ms.filter (·.1 == k)).length ≤ 1 := by
  induction ms with
  | nil => simp
  | cons p rest ih =>
    rw [List.map_cons, List.nodup_cons] at hms
    by_cases hp : p.1 = k
    · -- no later member has the key of the first
      have hnone : rest.filter (·.1 == k) = [] := by
        rw [List.filter_eq_nil_iff]
        intro q hq hqk
        have hkey : q.1 ∈ rest.map Prod.fst := List.mem_map_of_mem hq
        rw [show q.1 = p.1 by simpa [hp] using hqk] at hkey
        exact hms.1 hkey
      rw [List.filter_cons_of_pos (by simp [hp]), hnone]
      rfl
    · rw [List.filter_cons_of_neg (by simpa using hp)]
      exact ih hms.2

/-- The members of a key are exactly one when at most one has it and the first is that one. -/
theorem filter_key_eq_singleton_iff {ms : List (String × Json)} {k : String} {p : String × Json} :
    ms.filter (·.1 == k) = [p] ↔ (ms.filter (·.1 == k)).length ≤ 1 ∧ ms.find? (·.1 == k) = some p := by
  rw [← List.head?_filter]
  constructor
  · intro h
    rw [h]
    exact ⟨by simp, rfl⟩
  · rintro ⟨hle, hhead⟩
    cases hf : ms.filter (·.1 == k) with
    | nil =>
      rw [hf] at hhead
      cases hhead
    | cons q rest =>
      rw [hf, List.head?_cons, Option.some.injEq] at hhead
      rw [hf, List.length_cons] at hle
      rw [hhead, List.eq_nil_of_length_eq_zero (by omega : rest.length = 0)]

/-- The value found for a key is that of the first member of the key. -/
theorem find?_key_eq_some_iff {ms : List (String × Json)} {k : String} {v : Json} :
    (ms.find? (·.1 == k)).map (·.2) = some v ↔ ms.find? (·.1 == k) = some (k, v) := by
  constructor
  · intro h
    obtain ⟨p, hp, rfl⟩ := Option.map_eq_some_iff.mp h
    have hk : p.1 = k := by simpa using List.find?_some hp
    rw [hp, ← hk]
  · intro h
    rw [h]
    rfl

theorem getD_null_eq_nat {o : Option Json} {n : Nat} : o.getD .null = .nat n ↔ o = some (.nat n) := by
  cases o with
  | none => exact ⟨fun h => (nomatch h), fun h => (nomatch h)⟩
  | some v => exact ⟨fun h => congrArg some h, fun h => Option.some.inj h⟩

end Json

/-! ### Results -/

theorem Except.bind_eq_ok {ε α β : Type} {x : Except ε α} {f : α → Except ε β} {b : β} :
    x >>= f = .ok b ↔ ∃ a, x = .ok a ∧ f a = .ok b := by
  cases x with
  | error e => exact ⟨fun h => (nomatch h), fun ⟨_, h, _⟩ => (nomatch h)⟩
  | ok a => exact ⟨fun h => ⟨a, rfl, h⟩, fun ⟨_, h, hf⟩ => by cases h; exact hf⟩

theorem Except.map_eq_ok {ε α β : Type} {x : Except ε α} {f : α → β} {b : β} :
    x.map f = .ok b ↔ ∃ a, x = .ok a ∧ f a = b := by
  cases x with
  | error e => exact ⟨fun h => (nomatch h), fun ⟨_, h, _⟩ => (nomatch h)⟩
  | ok a => exact ⟨fun h => ⟨a, rfl, Except.ok.inj h⟩, fun ⟨_, h, hf⟩ => by cases h; rw [← hf]; rfl⟩

theorem Except.map_eq_error {ε α β : Type} {x : Except ε α} {f : α → β} {e : ε} :
    x.map f = .error e ↔ x = .error e := by
  cases x with
  | error e' =>
    show (Except.error e' : Except ε β) = .error e ↔ (Except.error e' : Except ε α) = .error e
    rw [Except.error.injEq, Except.error.injEq]
  | ok a => exact ⟨fun h => (nomatch h), fun h => (nomatch h)⟩

@[simp] theorem Except.ok_bind {ε α β : Type} (a : α) (f : α → Except ε β) :
    (Except.ok a : Except ε α) >>= f = f a := rfl

theorem Except.pure_eq_ok_iff {ε α : Type} {a b : α} : (pure a : Except ε α) = .ok b ↔ a = b :=
  ⟨fun h => Except.ok.inj h, fun h => h ▸ rfl⟩

/-! ### Fields -/

@[simp] theorem Decoder.u64_eq_ok_iff {j : Json} {n : Nat} : Decoder.u64 j = .ok n ↔ j = .nat n := by
  cases j <;> simp [Decoder.u64]

/-- A field's rule accepts a value exactly when the field's decoder reads it. -/
theorem FieldRule.check_of_eq_none_iff {α : Type} {name : String} {absence : Absence}
    {d : Decoder α} {j : Json} : (FieldRule.of name absence d).check j = none ↔ ∃ a, d j = .ok a := by
  simp only [FieldRule.of]
  split <;> simp_all

/-! ### Records from arrays -/

/-- **Fields by position.** When every field is required, the items from position `i` on are
read as the fields exactly when there is one item for each field and each field accepts its
item; the members are then the fields' names with their items. -/
theorem readPositional_eq_ok_iff {record : String} {count : Nat} {items : List Json} :
    ∀ {rules : List FieldRule} {i : Nat} {ms : List (String × Json)},
      (∀ r ∈ rules, r.absence = .required) → i + rules.length = count →
      (readPositional record count items i rules = .ok ms ↔
        (items.drop i).length = rules.length ∧
        List.Forall₂ (fun r v => r.check v = none) rules (items.drop i) ∧
        ms = List.zipWith (fun r v => (r.name, v)) rules (items.drop i)) := by
  intro rules
  induction rules with
  | nil =>
    intro i ms _ hcount
    rw [List.length_nil, Nat.add_zero] at hcount
    subst hcount
    simp only [readPositional, List.length_nil, List.length_drop, List.forall₂_nil_left_iff,
      List.drop_eq_nil_iff, List.zipWith_nil_left]
    split
    · simp only [reduceCtorEq, false_iff]
      omega
    · constructor
      · rintro ⟨⟩
        exact ⟨by omega, by omega, rfl⟩
      · rintro ⟨-, -, rfl⟩
        rfl
  | cons r rest ih =>
    intro i ms hreq hcount
    have hr : r.absence = .required := hreq r List.mem_cons_self
    simp only [readPositional]
    cases hv : items[i]? with
    | none =>
      -- no item is left for a required field
      have hdrop : items.drop i = [] := List.drop_eq_nil_iff.mpr (List.getElem?_eq_none_iff.mp hv)
      simp [hr, hdrop]
    | some v =>
      have hdrop : items.drop i = v :: items.drop (i + 1) := by
        obtain ⟨hi, rfl⟩ := List.getElem?_eq_some_iff.mp hv
        exact List.drop_eq_getElem_cons hi
      rw [hdrop]
      cases hc : r.check v with
      | some e => simp [hc]
      | none =>
        simp only [List.length_cons, Nat.add_right_cancel_iff, List.forall₂_cons, hc, true_and,
          List.zipWith_cons_cons, Except.map_eq_ok]
        have hrest : ∀ r' ∈ rest, r'.absence = .required := fun r' h' => hreq r' (List.mem_cons_of_mem r h')
        have hcount' : i + 1 + rest.length = count := by
          simp only [List.length_cons] at hcount
          omega
        constructor
        · rintro ⟨ms', hms', rfl⟩
          obtain ⟨hlen, hall, rfl⟩ := (ih hrest hcount').mp hms'
          exact ⟨hlen, hall, rfl⟩
        · rintro ⟨hlen, hall, rfl⟩
          exact ⟨_, (ih hrest hcount').mpr ⟨hlen, hall, rfl⟩, rfl⟩

/-- **A record from an array**, when every field is required: one item for each field, each
accepted by its field; the members are the fields' names with their items. -/
theorem readRecord_arr_eq_ok_iff {record : String} {rules : List FieldRule} {items : List Json}
    {ms : List (String × Json)} (hreq : ∀ r ∈ rules, r.absence = .required) :
    readRecord record rules (.arr items) = .ok ms ↔
      items.length = rules.length ∧ List.Forall₂ (fun r v => r.check v = none) rules items ∧
        ms = List.zipWith (fun r v => (r.name, v)) rules items := by
  rw [readRecord, readPositional_eq_ok_iff hreq (Nat.zero_add _), List.drop_zero]

/-! ### Records from objects -/

/-- **A record from an object**: no member is refused and no required field is missing; the
members are then those of the object, as written. -/
theorem readRecord_obj_eq_ok_iff {record : String} {rules : List FieldRule}
    {ms members : List (String × Json)} :
    readRecord record rules (.obj ms) = .ok members ↔
      members = ms ∧ firstRefusal rules [] ms = none ∧ firstMissing ms rules = none := by
  simp only [readRecord]
  cases firstRefusal rules [] ms with
  | some e => simp
  | none =>
    cases firstMissing ms rules with
    | some e => simp
    | none =>
      constructor
      · rintro ⟨⟩
        exact ⟨rfl, rfl, rfl⟩
      · rintro ⟨rfl, -, -⟩
        rfl

/-- No member is refused when no field is named twice, none that is named was named before, and
each field accepts the member of its name. -/
theorem firstRefusal_eq_none {rules : List FieldRule} {seen : List String}
    {members : List (String × Json)} (honce : ∀ r ∈ rules, (members.filter (·.1 == r.name)).length ≤ 1)
    (hseen : ∀ p ∈ members, ∀ r ∈ rules, r.name = p.1 → p.1 ∉ seen)
    (h : ∀ p ∈ members, ∀ r ∈ rules, r.name = p.1 → r.check p.2 = none) :
    firstRefusal rules seen members = none := by
  induction members generalizing seen with
  | nil => rfl
  | cons p rest ih =>
    obtain ⟨k, v⟩ := p
    have honce' : ∀ r ∈ rules, (rest.filter (·.1 == r.name)).length ≤ 1 := fun r hr =>
      Nat.le_trans (((List.sublist_cons_self (k, v) rest).filter _).length_le) (honce r hr)
    have hrest : ∀ q ∈ rest, ∀ r ∈ rules, r.name = q.1 → r.check q.2 = none :=
      fun q hq => h q (List.mem_cons_of_mem _ hq)
    simp only [firstRefusal]
    cases hr : rules.find? (·.name == k) with
    | none => exact ih honce' (fun q hq => hseen q (List.mem_cons_of_mem _ hq)) hrest
    | some r =>
      have hrules := List.mem_of_find?_eq_some hr
      have hname : r.name = k := by simpa using List.find?_some hr
      have hnew : k ∉ seen := hseen (k, v) List.mem_cons_self r hrules hname
      dsimp only
      rw [if_neg (by simpa using hnew), h (k, v) List.mem_cons_self r hrules hname]
      -- the rest is read with `k` named, which no later member names again
      refine ih honce' (fun q hq r' hr' hname' hmem => ?_) hrest
      rcases List.mem_cons.mp hmem with hqk | hqs
      · -- a second member of name `k` would make the field named twice
        have htwo := honce r hrules
        rw [hname, List.filter_cons_of_pos (by simp), List.length_cons] at htwo
        have hq' : q ∈ rest.filter (·.1 == k) := List.mem_filter.mpr ⟨hq, by simp [hqk]⟩
        have := List.length_pos_of_mem hq'
        omega
      · exact hseen q (List.mem_cons_of_mem _ hq) r' hr' hname' hqs

/-- Where no member is refused, a field is named at most once, and not at all when it was named
before. -/
theorem firstRefusal_named_once {rules : List FieldRule} {seen : List String}
    {members : List (String × Json)} (h : firstRefusal rules seen members = none) {k : String}
    (hk : (rules.find? (·.name == k)).isSome) :
    (members.filter (·.1 == k)).length ≤ 1 ∧ (k ∈ seen → members.filter (·.1 == k) = []) := by
  induction members generalizing seen with
  | nil => exact ⟨by simp, fun _ => rfl⟩
  | cons q rest ih =>
    obtain ⟨k', v⟩ := q
    simp only [firstRefusal] at h
    cases hr : rules.find? (·.name == k') with
    | none =>
      rw [hr] at h
      -- a member that names no field is not of the field's name
      have hne : k' ≠ k := by
        rintro rfl
        rw [hr] at hk
        cases hk
      rw [List.filter_cons_of_neg (by simpa using hne)]
      exact ih h
    | some r =>
      rw [hr] at h
      dsimp only at h
      split at h
      · cases h
      · rename_i hseen
        split at h
        · cases h
        · obtain ⟨hle, hnil⟩ := ih h
          by_cases hkk : k' = k
          · subst hkk
            rw [List.filter_cons_of_pos (by simp), hnil List.mem_cons_self]
            exact ⟨by simp, fun hmem => absurd (by simpa using hmem) hseen⟩
          · rw [List.filter_cons_of_neg (by simpa using hkk)]
            exact ⟨hle, fun hmem => hnil (List.mem_cons_of_mem _ hmem)⟩

/-- No required field is missing when the members name each required field. -/
theorem firstMissing_eq_none_of_required {rules : List FieldRule} {members : List (String × Json)}
    (h : ∀ r ∈ rules, r.absence = .required → (members.find? (·.1 == r.name)).isSome) :
    firstMissing members rules = none := by
  induction rules with
  | nil => rfl
  | cons r rest ih =>
    have hr : ¬(r.absence = .required ∧ (members.find? (·.1 == r.name)).isNone) := by
      rintro ⟨hreq, hnone⟩
      have hsome := h r List.mem_cons_self hreq
      rw [Option.isNone_iff_eq_none] at hnone
      rw [hnone] at hsome
      cases hsome
    simp only [firstMissing, if_neg hr]
    exact ih fun r' hr' => h r' (List.mem_cons_of_mem r hr')

/-- No required field is missing when the members name each of them. -/
theorem firstMissing_eq_none {rules : List FieldRule} {members : List (String × Json)}
    (h : ∀ r ∈ rules, (members.find? (·.1 == r.name)).isSome) : firstMissing members rules = none :=
  firstMissing_eq_none_of_required fun r hr _ => h r hr

/-- Where no member is refused, the first field of each member's name accepts it. -/
theorem check_of_firstRefusal_eq_none {rules : List FieldRule} {seen : List String}
    {members : List (String × Json)} (h : firstRefusal rules seen members = none)
    {p : String × Json} (hp : p ∈ members) :
    (rules.find? (·.name == p.1)).bind (·.check p.2) = none := by
  induction members generalizing seen with
  | nil => cases hp
  | cons q rest ih =>
    obtain ⟨k, v⟩ := q
    simp only [firstRefusal] at h
    cases hr : rules.find? (·.name == k) with
    | none =>
      rw [hr] at h
      rcases List.mem_cons.mp hp with rfl | hp
      · rw [hr]
        rfl
      · exact ih h hp
    | some r =>
      rw [hr] at h
      dsimp only at h
      split at h
      · cases h
      · split at h
        · cases h
        · rename_i hc
          rcases List.mem_cons.mp hp with rfl | hp
          · rw [hr, Option.bind_some]
            exact hc
          · exact ih h hp

/-- In an object whose keys are all different, a field of a record is the member of its name,
`null` if none. -/
theorem fieldOf_of_nodup {α : Type} {ms : List (String × Json)} (hms : (ms.map Prod.fst).Nodup)
    (name : String) (d : Decoder α) : fieldOf ms name d = d (((Json.obj ms).get? name).getD .null) := by
  rw [fieldOf, Json.get?_of_nodup hms]

theorem fieldOf_of_get? {α : Type} {ms : List (String × Json)} {name : String} {v : Json}
    (hms : (ms.map Prod.fst).Nodup) (d : Decoder α) (h : (Json.obj ms).get? name = some v) :
    fieldOf ms name d = d v := by
  rw [fieldOf_of_nodup hms, h, Option.getD_some]

/-- A field named by exactly one member is read from that member. -/
theorem fieldOf_of_filter {α : Type} {ms : List (String × Json)} {name : String} {v : Json}
    (d : Decoder α) (h : ms.filter (·.1 == name) = [(name, v)]) : fieldOf ms name d = d v := by
  rw [fieldOf, ← List.head?_filter, h]
  rfl

/-! ### Records from objects, field by field -/

/-- An object meets a field of a record when it gives the field a value the field accepts, or
leaves out a field that may be left out. -/
def FieldRule.MetBy (r : FieldRule) (ms : List (String × Json)) : Prop :=
  (∃ v, (Json.obj ms).get? r.name = some v ∧ r.check v = none) ∨
    ((Json.obj ms).get? r.name = none ∧ r.absence ≠ .required)

theorem FieldRule.metBy_of_get? {α : Type} {name : String} {absence : Absence} {d : Decoder α}
    {ms : List (String × Json)} {v : Json} {a : α} (h : (Json.obj ms).get? name = some v)
    (hd : d v = .ok a) : (FieldRule.of name absence d).MetBy ms :=
  .inl ⟨v, h, FieldRule.check_of_eq_none_iff.mpr ⟨a, hd⟩⟩

/-- **A record from an object that meets each of its fields**, when its keys are all different;
its members are then those of the object. -/
theorem readRecord_obj_of_metBy {record : String} {rules : List FieldRule} {ms : List (String × Json)}
    (hms : (ms.map Prod.fst).Nodup) (h : ∀ r ∈ rules, r.MetBy ms) :
    readRecord record rules (.obj ms) = .ok ms := by
  refine readRecord_obj_eq_ok_iff.mpr ⟨rfl, firstRefusal_eq_none (fun r _ => Json.length_filter_key_le_one hms r.name)
    (fun _ _ _ _ _ => List.not_mem_nil) ?_, firstMissing_eq_none_of_required ?_⟩
  · rintro ⟨k, w⟩ hp r hr hname
    -- the member is the one of its key
    have hfind : ms.find? (·.1 == k) = some (k, w) := Json.find?_of_mem_nodup hms hp
    have hw : (Json.obj ms).get? r.name = some w := by
      rw [Json.get?_of_nodup hms, hname, hfind]
      rfl
    rcases h r hr with ⟨v, hv, hc⟩ | ⟨hnone, -⟩
    · rw [hw, Option.some.injEq] at hv
      rw [hv]
      exact hc
    · rw [hw] at hnone
      cases hnone
  · intro r hr hreq
    rcases h r hr with ⟨v, hv, -⟩ | ⟨-, hopt⟩
    · rw [Json.get?_of_nodup hms] at hv
      obtain ⟨p, hp, -⟩ := Option.map_eq_some_iff.mp hv
      rw [hp]
      rfl
    · exact absurd hreq hopt

/-- **A record from an object that names each of its fields once**, with a value the field
accepts, whatever other members the object has. -/
theorem readRecord_obj_of_named_once {record : String} {rules : List FieldRule}
    {ms : List (String × Json)}
    (h : ∀ r ∈ rules, ∃ v, ms.filter (·.1 == r.name) = [(r.name, v)] ∧ r.check v = none) :
    readRecord record rules (.obj ms) = .ok ms := by
  have honce : ∀ r ∈ rules, (ms.filter (·.1 == r.name)).length ≤ 1 := by
    intro r hr
    obtain ⟨v, hv, -⟩ := h r hr
    rw [hv]
    exact Nat.le_refl 1
  refine readRecord_obj_eq_ok_iff.mpr ⟨rfl, firstRefusal_eq_none honce
    (fun _ _ _ _ _ => List.not_mem_nil) ?_, firstMissing_eq_none fun r hr => ?_⟩
  · -- a member named by a field is the one member of that name
    intro p hp r hr hname
    obtain ⟨v, hv, hc⟩ := h r hr
    have hmem : p ∈ ms.filter (·.1 == r.name) := List.mem_filter.mpr ⟨hp, by simp [hname]⟩
    rw [hv, List.mem_singleton] at hmem
    rw [hmem]
    exact hc
  · obtain ⟨v, hv, -⟩ := h r hr
    rw [← List.head?_filter, hv]
    rfl

/-- **A record is refused by an object that names one of its fields twice**, whatever the two
members hold. -/
theorem readRecord_obj_repeated {record : String} {rules : List FieldRule} {ms : List (String × Json)}
    {r : FieldRule} (hr : r ∈ rules) (h : 1 < (ms.filter (·.1 == r.name)).length) :
    ∃ e, readRecord record rules (.obj ms) = .error e := by
  cases hrec : readRecord record rules (.obj ms) with
  | error e => exact ⟨e, rfl⟩
  | ok members =>
    obtain ⟨-, hnone, -⟩ := readRecord_obj_eq_ok_iff.mp hrec
    have hk : (rules.find? (·.name == r.name)).isSome := List.find?_isSome.mpr ⟨r, hr, by simp⟩
    have hle := (firstRefusal_named_once hnone hk).1
    omega

example : readRecord "RpcResponse" [.of "id" .required Decoder.u64]
    (.obj [("id", .nat 1), ("id", .nat 2)]) = .error (.duplicateField "id") := by
  rfl

/-- **A record is refused by an object whose member its field refuses**, whatever else the
object holds: that member is refused when it is read, or an earlier member of its name is. -/
theorem readRecord_obj_refused {record : String} {rules : List FieldRule} {ms : List (String × Json)}
    {r : FieldRule} {v : Json} (hr : rules.find? (·.name == r.name) = some r)
    (hv : (Json.obj ms).get? r.name = some v) (hc : r.check v ≠ none) :
    ∃ e, readRecord record rules (.obj ms) = .error e := by
  cases hrec : readRecord record rules (.obj ms) with
  | error e => exact ⟨e, rfl⟩
  | ok members =>
    obtain ⟨-, hnone, -⟩ := readRecord_obj_eq_ok_iff.mp hrec
    have hcheck := check_of_firstRefusal_eq_none hnone (Json.mem_of_get? hv)
    rw [hr, Option.bind_some] at hcheck
    exact absurd hcheck hc

/-- A decoder that starts by reading a record fails on an object whose member a field of the
record refuses. -/
theorem readRecord_obj_refused_bind {β : Type} {record : String} {rules : List FieldRule}
    {ms : List (String × Json)} {f : List (String × Json) → Except DecodeError β} {r : FieldRule}
    {v : Json} (hc : r.check v ≠ none) (hv : (Json.obj ms).get? r.name = some v)
    (hr : rules.find? (·.name == r.name) = some r) :
    ∃ e, (readRecord record rules (.obj ms) >>= f) = .error e := by
  obtain ⟨e, he⟩ := readRecord_obj_refused hr hv hc
  exact ⟨e, by rw [he]; rfl⟩

end ChainWatch
