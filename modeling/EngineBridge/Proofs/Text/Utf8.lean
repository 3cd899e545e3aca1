import EngineBridge.Text.Utf8
import Mathlib.Data.List.Infix

/-!
Bytes and texts. A piece is a scalar exactly when its bytes are what the scalar is written as, so
the strict reading accepts what a text is written as and nothing else, and the lenient reading
gives every text back.
-/

namespace EngineBridge.Text.Utf8

open String (utf8EncodeChar)

theorem encode_eq (s : String) : encode s = s.toList.flatMap utf8EncodeChar := by
  rw [encode, String.toUTF8_eq_toByteArray, ← String.utf8Encode_toList, List.utf8Encode,
    List.toList_data_toByteArray]

theorem encode_ofList (cs : List Char) : encode (.ofList cs) = cs.flatMap utf8EncodeChar := by
  rw [encode_eq, String.toList_ofList]

/-- Which lead bytes there are: the number of bytes to follow is written in front of the payload,
and the range of the first of them keeps out what has a shorter form, surrogates and what is no
scalar. -/
inductive Lead.Of (b : UInt8) : Lead → Prop
  | two {p : Nat} : b.toNat = 0xC0 + p → 2 ≤ p → p < 32 → Of b ⟨1, p, 0x80, 0xBF⟩
  | three {p : Nat} {low high : UInt8} : b.toNat = 0xE0 + p → p < 16 →
      (p = 0 ∧ low.toNat = 0xA0 ∨ p ≠ 0 ∧ low.toNat = 0x80) →
      (p = 0xD ∧ high.toNat = 0x9F ∨ p ≠ 0xD ∧ high.toNat = 0xBF) → Of b ⟨2, p, low, high⟩
  | four {p : Nat} {low high : UInt8} : b.toNat = 0xF0 + p → p ≤ 4 →
      (p = 0 ∧ low.toNat = 0x90 ∨ p ≠ 0 ∧ low.toNat = 0x80) →
      (p = 4 ∧ high.toNat = 0x8F ∨ p ≠ 4 ∧ high.toNat = 0xBF) → Of b ⟨3, p, low, high⟩

theorem Lead.ofByte?_eq_some_iff {b : UInt8} {lead : Lead} :
    Lead.ofByte? b = some lead ↔ Lead.Of b lead := by
  unfold Lead.ofByte?
  simp only [Bool.and_eq_true, decide_eq_true_eq, beq_iff_eq, UInt8.le_iff_toNat_le,
    ← UInt8.toNat_inj, UInt8.reduceToNat]
  constructor
  · intro h
    split_ifs at h with h₁ h₂ h₃ h₄ h₅ h₆ h₇ <;> obtain rfl := Option.some.inj h
    · exact .two (by omega) (by omega) (by omega)
    · exact .three (by omega) (by omega) (.inl ⟨rfl, rfl⟩) (.inr ⟨nofun, rfl⟩)
    · exact .three (by omega) (by omega) (.inr ⟨nofun, rfl⟩) (.inl ⟨rfl, rfl⟩)
    · exact .three (by omega) (by omega) (.inr ⟨by omega, rfl⟩) (.inr ⟨by omega, rfl⟩)
    · exact .four (by omega) (by omega) (.inl ⟨rfl, rfl⟩) (.inr ⟨nofun, rfl⟩)
    · exact .four (by omega) (by omega) (.inr ⟨by omega, rfl⟩) (.inr ⟨by omega, rfl⟩)
    · exact .four (by omega) (by omega) (.inr ⟨nofun, rfl⟩) (.inl ⟨rfl, rfl⟩)
  · intro h
    cases h with
    | two hb hp hp' =>
      rw [if_pos (by omega), Option.some.injEq, Lead.mk.injEq]
      exact ⟨rfl, by omega, rfl, rfl⟩
    | three hb hp hlow hhigh =>
      rw [if_neg (by omega)]
      split_ifs with h₂ h₃ h₄
      · simp only [Option.some.injEq, Lead.mk.injEq, ← UInt8.toNat_inj, UInt8.reduceToNat, true_and]
        omega
      · simp only [Option.some.injEq, Lead.mk.injEq, ← UInt8.toNat_inj, UInt8.reduceToNat, true_and]
        omega
      · simp only [Option.some.injEq, Lead.mk.injEq, ← UInt8.toNat_inj, UInt8.reduceToNat, true_and]
        omega
      all_goals omega
    | four hb hp hlow hhigh =>
      rw [if_neg (by omega), if_neg (by omega), if_neg (by omega), if_neg (by omega)]
      split_ifs with h₅ h₆ h₇
      · simp only [Option.some.injEq, Lead.mk.injEq, ← UInt8.toNat_inj, UInt8.reduceToNat, true_and]
        omega
      · simp only [Option.some.injEq, Lead.mk.injEq, ← UInt8.toNat_inj, UInt8.reduceToNat, true_and]
        omega
      · simp only [Option.some.injEq, Lead.mk.injEq, ← UInt8.toNat_inj, UInt8.reduceToNat, true_and]
        omega
      · omega

theorem isContinuation_iff {b : UInt8} : isContinuation b = true ↔ b.toNat / 64 = 2 := by
  simp only [isContinuation, Bool.and_eq_true, decide_eq_true_eq, UInt8.le_iff_toNat_le,
    UInt8.reduceToNat]
  omega

theorem extend_add (value : Nat) (b : UInt8) (h : 0x80 ≤ b.toNat) :
    extend value b + 0x80 = value * 64 + b.toNat := by
  unfold extend
  omega

theorem finish_eq_scalar_iff {n width value w : Nat} {bs : Bytes} {c : Char} :
    finish width value n bs = .scalar c w ↔
      ∃ tail rest, bs = tail ++ rest ∧ tail.length = n ∧ (∀ b ∈ tail, isContinuation b = true) ∧
        w = width + n ∧ c = Char.ofNat (tail.foldl extend value) := by
  induction n generalizing width value bs with
  | zero =>
    simp only [finish, Piece.scalar.injEq, List.length_eq_zero_iff]
    constructor
    · rintro ⟨rfl, rfl⟩
      exact ⟨[], bs, rfl, rfl, nofun, rfl, rfl⟩
    · rintro ⟨tail, rest, -, rfl, -, rfl, rfl⟩
      exact ⟨rfl, rfl⟩
  | succ n ih =>
    cases bs with
    | nil =>
      simp only [finish, reduceCtorEq, false_iff]
      rintro ⟨tail, rest, hbs, hlength, -⟩
      obtain ⟨rfl, -⟩ := List.append_eq_nil_iff.mp hbs.symm
      cases hlength
    | cons b bs =>
      rw [finish]
      split_ifs with hb
      · rw [ih]
        constructor
        · rintro ⟨tail, rest, rfl, rfl, htail, rfl, rfl⟩
          exact ⟨b :: tail, rest, rfl, rfl, List.forall_mem_cons.mpr ⟨hb, htail⟩, by omega, rfl⟩
        · rintro ⟨tail, rest, hbs, hlength, htail, rfl, rfl⟩
          obtain ⟨x, tail, rfl⟩ := List.exists_cons_of_length_eq_add_one hlength
          obtain ⟨rfl, rfl⟩ := List.cons.inj hbs
          exact ⟨tail, rest, rfl, by simpa using hlength, (List.forall_mem_cons.mp htail).2,
            by omega, rfl⟩
      · simp only [false_iff]
        rintro ⟨tail, rest, hbs, hlength, htail, -⟩
        obtain ⟨x, tail, rfl⟩ := List.exists_cons_of_length_eq_add_one hlength
        obtain ⟨rfl, -⟩ := List.cons.inj hbs
        exact hb (htail b List.mem_cons_self)

theorem toNat_val_ofNat {n : Nat} (h : n.isValidChar) : (Char.ofNat n).val.toNat = n := by
  rw [Char.ofNat, dif_pos h]
  rfl

inductive Written (v : Nat) : Bytes → Prop
  | one {a : UInt8} : v < 0x80 → a.toNat = v → Written v [a]
  | two {a b : UInt8} : 0x80 ≤ v → v < 0x800 → a.toNat = 0xC0 + v / 64 →
      b.toNat = 0x80 + v % 64 → Written v [a, b]
  | three {a b c : UInt8} : 0x800 ≤ v → v < 0x10000 → a.toNat = 0xE0 + v / 4096 →
      b.toNat = 0x80 + v / 64 % 64 → c.toNat = 0x80 + v % 64 → Written v [a, b, c]
  | four {a b c d : UInt8} : 0x10000 ≤ v → v < 0x110000 → a.toNat = 0xF0 + v / 262144 →
      b.toNat = 0x80 + v / 4096 % 64 → c.toNat = 0x80 + v / 64 % 64 → d.toNat = 0x80 + v % 64 →
      Written v [a, b, c, d]

theorem written_utf8EncodeChar (c : Char) : Written c.val.toNat (utf8EncodeChar c) := by
  have hvalid : c.val.toNat.isValidChar := c.valid
  unfold Nat.isValidChar at hvalid
  unfold utf8EncodeChar
  dsimp only
  split_ifs with h₁ h₂ h₃
  · exact .one (by omega) (by rw [UInt8.toNat_ofNat']; omega)
  · refine .two (by omega) (by omega) ?_ ?_ <;> rw [UInt8.toNat_ofNat'] <;> omega
  · refine .three (by omega) (by omega) ?_ ?_ ?_ <;> rw [UInt8.toNat_ofNat'] <;> omega
  · refine .four (by omega) (by omega) ?_ ?_ ?_ ?_ <;> rw [UInt8.toNat_ofNat'] <;> omega

theorem Written.unique {v : Nat} {bs bs' : Bytes} (h : Written v bs) (h' : Written v bs') :
    bs = bs' := by
  cases h with
  | one => cases h' <;> simp only [List.cons.injEq, ← UInt8.toNat_inj, and_true] <;> omega
  | two => cases h' <;> simp only [List.cons.injEq, ← UInt8.toNat_inj, and_true] <;> omega
  | three => cases h' <;> simp only [List.cons.injEq, ← UInt8.toNat_inj, and_true] <;> omega
  | four => cases h' <;> simp only [List.cons.injEq, ← UInt8.toNat_inj, and_true] <;> omega

theorem utf8EncodeChar_ofNat {v : Nat} {bs : Bytes} (valid : v.isValidChar) (h : Written v bs) :
    utf8EncodeChar (Char.ofNat v) = bs := by
  have hwritten := written_utf8EncodeChar (Char.ofNat v)
  rw [toNat_val_ofNat valid] at hwritten
  exact hwritten.unique h

theorem utf8EncodeChar_of_piece {b : UInt8} {rest : Bytes} {c : Char} {w : Nat}
    (h : piece b rest = .scalar c w) :
    ∃ tail rest', rest = tail ++ rest' ∧ w = tail.length + 1 ∧ utf8EncodeChar c = b :: tail := by
  unfold piece at h
  split_ifs at h with hascii
  · obtain ⟨rfl, rfl⟩ := Piece.scalar.inj h
    simp only [UInt8.lt_iff_toNat_lt, UInt8.reduceToNat] at hascii
    exact ⟨[], rest, rfl, rfl, utf8EncodeChar_ofNat (.inl (by omega)) (.one hascii rfl)⟩
  · cases hlead : Lead.ofByte? b with
    | none => simp [hlead] at h
    | some lead =>
      cases rest with
      | nil => simp [hlead] at h
      | cons x rest =>
        simp only [hlead] at h
        split_ifs at h with hx
        obtain ⟨tail, rest', rfl, hlength, htail, rfl, rfl⟩ := finish_eq_scalar_iff.mp h
        simp only [Bool.and_eq_true, decide_eq_true_eq, UInt8.le_iff_toNat_le] at hx
        refine ⟨x :: tail, rest', rfl, by simp only [List.length_cons]; omega, ?_⟩
        cases Lead.ofByte?_eq_some_iff.mp hlead with
        | @two p hb hp hp' =>
          dsimp only [UInt8.reduceToNat] at hx hlength ⊢
          obtain rfl := List.length_eq_zero_iff.mp hlength
          have hvalue := extend_add p x hx.1
          rw [List.foldl_nil]
          exact utf8EncodeChar_ofNat (.inl (by omega))
            (.two (by omega) (by omega) (by omega) (by omega))
        | @three p low high hb hp hlow hhigh =>
          dsimp only at hx hlength ⊢
          obtain ⟨y, rfl⟩ := List.length_eq_one_iff.mp hlength
          have hy := isContinuation_iff.mp (htail y List.mem_cons_self)
          have hvalue := extend_add p x (by omega)
          have hvalue' := extend_add (extend p x) y (by omega)
          rw [List.foldl_cons, List.foldl_nil]
          refine utf8EncodeChar_ofNat ?_
            (.three (by omega) (by omega) (by omega) (by omega) (by omega))
          unfold Nat.isValidChar
          omega
        | @four p low high hb hp hlow hhigh =>
          dsimp only at hx hlength ⊢
          obtain ⟨y, z, rfl⟩ := List.length_eq_two.mp hlength
          have hy := isContinuation_iff.mp (htail y (by simp))
          have hz := isContinuation_iff.mp (htail z (by simp))
          have hvalue := extend_add p x (by omega)
          have hvalue' := extend_add (extend p x) y (by omega)
          have hvalue'' := extend_add (extend (extend p x) y) z (by omega)
          rw [List.foldl_cons, List.foldl_cons, List.foldl_nil]
          exact utf8EncodeChar_ofNat (.inr (by omega))
            (.four (by omega) (by omega) (by omega) (by omega) (by omega) (by omega))

theorem piece_of_lead {b : UInt8} {lead : Lead} (x : UInt8) (tail : Bytes) (hlead : Lead.Of b lead)
    (hlow : lead.low.toNat ≤ x.toNat) (hhigh : x.toNat ≤ lead.high.toNat)
    (hlength : tail.length + 1 = lead.following)
    (htail : ∀ y ∈ tail, isContinuation y = true) (rest : Bytes) :
    piece b (x :: tail ++ rest) =
      .scalar (Char.ofNat ((x :: tail).foldl extend lead.payload)) ((x :: tail).length + 1) := by
  have hb : ¬b < 0x80 := by
    simp only [UInt8.lt_iff_toNat_lt, UInt8.reduceToNat]
    cases hlead <;> omega
  have hx : (lead.low ≤ x && x ≤ lead.high) = true := by
    simp only [Bool.and_eq_true, decide_eq_true_eq, UInt8.le_iff_toNat_le]
    exact ⟨hlow, hhigh⟩
  simp only [piece, if_neg hb, Lead.ofByte?_eq_some_iff.mpr hlead, List.cons_append, hx, if_true]
  refine finish_eq_scalar_iff.mpr ⟨tail, rest, rfl, by omega, htail, ?_, rfl⟩
  simp only [List.length_cons]
  omega

theorem exists_bound (P : Prop) (a b : UInt8) :
    ∃ x : UInt8, P ∧ x.toNat = a.toNat ∨ ¬P ∧ x.toNat = b.toNat := by
  by_cases h : P
  · exact ⟨a, .inl ⟨h, rfl⟩⟩
  · exact ⟨b, .inr ⟨h, rfl⟩⟩

/-- What a scalar is written as is read as that scalar, whatever follows. -/
theorem piece_of_utf8EncodeChar {b : UInt8} {tail : Bytes} {c : Char}
    (h : utf8EncodeChar c = b :: tail) (rest : Bytes) :
    piece b (tail ++ rest) = .scalar c (tail.length + 1) := by
  have hwritten := written_utf8EncodeChar c
  have hvalid : c.val.toNat.isValidChar := c.valid
  rw [h] at hwritten
  have hchar : c = Char.ofNat c.val.toNat := (Char.ofNat_toNat c).symm
  generalize c.val.toNat = v at hwritten hvalid hchar
  unfold Nat.isValidChar at hvalid
  cases hwritten with
  | one hv ha =>
    have hascii : b < 0x80 := by
      simp only [UInt8.lt_iff_toNat_lt, UInt8.reduceToNat]
      omega
    rw [List.nil_append, piece, if_pos hascii, ha, ← hchar, List.length_nil]
  | @two a x hv hv' ha hx =>
    have hlead : Lead.Of b ⟨1, v / 64, 0x80, 0xBF⟩ := .two ha (by omega) (by omega)
    have hpiece := piece_of_lead x [] hlead (by simp only [UInt8.reduceToNat]; omega)
      (by simp only [UInt8.reduceToNat]; omega) rfl nofun rest
    have hvalue := extend_add (v / 64) x (by omega)
    rwa [List.foldl_cons, List.foldl_nil, show extend (v / 64) x = v by omega, ← hchar] at hpiece
  | @three a x y hv hv' ha hx hy =>
    obtain ⟨low, hlow⟩ := exists_bound (v / 4096 = 0) 0xA0 0x80
    obtain ⟨high, hhigh⟩ := exists_bound (v / 4096 = 0xD) 0x9F 0xBF
    simp only [UInt8.reduceToNat] at hlow hhigh
    have hlead : Lead.Of b ⟨2, v / 4096, low, high⟩ := .three ha (by omega) hlow hhigh
    have htail : ∀ z ∈ [y], isContinuation z = true := by
      simp only [List.mem_singleton, forall_eq, isContinuation_iff]
      omega
    have hpiece := piece_of_lead x [y] hlead (by dsimp only; omega) (by dsimp only; omega) rfl
      htail rest
    have hvalue := extend_add (v / 4096) x (by omega)
    have hvalue' := extend_add (extend (v / 4096) x) y (by omega)
    rwa [List.foldl_cons, List.foldl_cons, List.foldl_nil,
      show extend (extend (v / 4096) x) y = v by omega, ← hchar] at hpiece
  | @four a x y z hv hv' ha hx hy hz =>
    obtain ⟨low, hlow⟩ := exists_bound (v / 262144 = 0) 0x90 0x80
    obtain ⟨high, hhigh⟩ := exists_bound (v / 262144 = 4) 0x8F 0xBF
    simp only [UInt8.reduceToNat] at hlow hhigh
    have hlead : Lead.Of b ⟨3, v / 262144, low, high⟩ := .four ha (by omega) hlow hhigh
    have htail : ∀ t ∈ [y, z], isContinuation t = true := by
      simp only [List.mem_cons, List.not_mem_nil, or_false, forall_eq_or_imp, forall_eq,
        isContinuation_iff]
      omega
    have hpiece := piece_of_lead x [y, z] hlead (by dsimp only; omega) (by dsimp only; omega) rfl
      htail rest
    have hvalue := extend_add (v / 262144) x (by omega)
    have hvalue' := extend_add (extend (v / 262144) x) y (by omega)
    have hvalue'' :=
      extend_add (extend (extend (v / 262144) x) y) z (by omega)
    rwa [List.foldl_cons, List.foldl_cons, List.foldl_cons, List.foldl_nil,
      show extend (extend (extend (v / 262144) x) y) z = v by omega, ← hchar] at hpiece

theorem pieces_append (c : Char) (rest : Bytes) :
    pieces (utf8EncodeChar c ++ rest) = .scalar c c.utf8Size :: pieces rest := by
  obtain ⟨b, tail, h⟩ := List.exists_cons_of_ne_nil (String.utf8EncodeChar_ne_nil (c := c))
  have hsize : c.utf8Size = tail.length + 1 := by
    rw [← String.length_utf8EncodeChar, h, List.length_cons]
  rw [h, List.cons_append, pieces, piece_of_utf8EncodeChar h, hsize]
  simp [Piece.width]

theorem pieces_flatMap (cs : List Char) :
    pieces (cs.flatMap utf8EncodeChar) = cs.map fun c => .scalar c c.utf8Size := by
  induction cs with
  | nil => rw [List.flatMap_nil, pieces, List.map_nil]
  | cons c cs ih => rw [List.flatMap_cons, pieces_append, ih, List.map_cons]

theorem strict_scalars (offset : Nat) (cs : List Char) :
    strict offset (cs.map fun c => .scalar c c.utf8Size) = .ok cs := by
  induction cs generalizing offset with
  | nil => rfl
  | cons c cs ih =>
    rw [List.map_cons, strict, ih]
    rfl

theorem flatMap_of_strict {offset : Nat} {bs : Bytes} {cs : List Char}
    (h : strict offset (pieces bs) = .ok cs) : bs = cs.flatMap utf8EncodeChar := by
  fun_induction pieces bs generalizing offset cs with
  | case1 =>
    rw [strict] at h
    obtain rfl := Except.ok.inj h
    rfl
  | case2 b rest p =>
    rename_i ih
    have hpiece : piece b rest = p := rfl
    clear_value p
    cases p with
    | scalar c w =>
      obtain ⟨tail, rest', rfl, rfl, hencode⟩ := utf8EncodeChar_of_piece hpiece
      simp only [Piece.width, Nat.add_sub_cancel, List.drop_left, strict] at h ih
      cases hrest : strict (offset + (tail.length + 1)) (pieces rest') with
      | error f => simp [hrest, Except.map] at h
      | ok cs' =>
        simp only [hrest, Except.map, Except.ok.injEq] at h
        rw [← h, List.flatMap_cons, hencode, ← ih hrest, List.cons_append]
    | broken w => cases h
    | cut w => cases h

theorem decode_eq_ok_iff {bs : Bytes} {s : String} : decode bs = .ok s ↔ bs = encode s := by
  constructor
  · intro h
    unfold decode at h
    cases hstrict : strict 0 (pieces bs) with
    | error f => simp [hstrict, Except.map] at h
    | ok cs =>
      simp only [hstrict, Except.map, Except.ok.injEq] at h
      rw [← h, encode_ofList, flatMap_of_strict hstrict]
  · rintro rfl
    rw [decode, encode_eq, pieces_flatMap, strict_scalars]
    simp [Except.map]

@[simp] theorem decode_encode (s : String) : decode (encode s) = .ok s :=
  decode_eq_ok_iff.mpr rfl

@[simp] theorem decodeLossy_encode (s : String) : decodeLossy (encode s) = s := by
  rw [decodeLossy, encode_eq, pieces_flatMap, List.map_map]
  simp [Function.comp_def, Piece.char]

theorem encode_inj {s s' : String} : encode s = encode s' ↔ s = s' := by
  refine ⟨fun h => ?_, congrArg encode⟩
  have hdecode := decode_encode s
  rw [h, decode_encode] at hdecode
  exact (Except.ok.inj hdecode).symm

theorem zero_mem_utf8EncodeChar {c : Char} : 0 ∈ utf8EncodeChar c ↔ c = '\x00' := by
  have hwritten := written_utf8EncodeChar c
  constructor
  · intro h
    have hzero : c.val.toNat = 0 := by
      generalize utf8EncodeChar c = bs at h hwritten
      cases hwritten <;>
        simp only [List.mem_cons, List.not_mem_nil, or_false, ← UInt8.toNat_inj,
          UInt8.reduceToNat] at h <;> omega
    rw [← Char.ofNat_toNat c]
    show Char.ofNat c.val.toNat = _
    rw [hzero]
  · rintro rfl
    decide

theorem zero_mem_encode {s : String} : 0 ∈ encode s ↔ '\x00' ∈ s.toList := by
  rw [encode_eq, List.mem_flatMap]
  simp only [zero_mem_utf8EncodeChar, exists_eq_right]

end EngineBridge.Text.Utf8
