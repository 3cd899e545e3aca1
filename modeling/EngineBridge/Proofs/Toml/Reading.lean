import EngineBridge.Proofs.Text.Quoting
import EngineBridge.Toml.Cursor

/-!
Readers on texts whose front is known. What a reader gives, and that it stops right behind the
front, is said for any place in a text and for any rest behind the front.
-/

namespace EngineBridge.Toml.Read

open Text (Stops span_append stops_cons)

variable {α β : Type} {r s : Read α} {k : α → Read β} {P : α → Prop} {Q : β → Prop}
  {front front' rest cs : List Char} {p : Char → Bool} {c : Char}

theorem width_foldl (cs : List Char) (n : ℕ) :
    cs.foldl (fun n c => n + c.utf8Size) n = n + width cs := by
  induction cs generalizing n with
  | nil => rfl
  | cons c cs ih =>
    rw [width, List.foldl_cons, List.foldl_cons, ih, ih (0 + c.utf8Size)]
    omega

theorem width_append (cs ds : List Char) : width (cs ++ ds) = width cs + width ds := by
  rw [width, List.foldl_append, width_foldl]
  rfl

theorem width_singleton (c : Char) : width [c] = c.utf8Size := Nat.zero_add _

theorem width_pos (h : front ≠ []) : 0 < width front := by
  obtain ⟨c, cs, rfl⟩ := List.exists_cons_of_ne_nil h
  rw [← List.singleton_append, width_append, width_singleton]
  have := c.utf8Size_pos
  omega

/-- The reader takes the front of a text and gives something with the property. -/
def Takes (r : Read α) (front rest : List Char) (P : α → Prop) : Prop :=
  ∀ offset size, front.length ≤ size →
    ∃ a, r ⟨front ++ rest, offset, size⟩ = some (a, ⟨rest, offset + width front, size⟩) ∧ P a

def Fails (r : Read α) (cs : List Char) : Prop := ∀ offset size, r ⟨cs, offset, size⟩ = none

theorem takes_pure {a : α} (h : P a) : Takes (pure a) [] rest P :=
  fun _ _ _ => ⟨a, rfl, h⟩

theorem bind_run {offset size : ℕ} :
    (r >>= k) ⟨cs, offset, size⟩ = (r ⟨cs, offset, size⟩).bind fun (a, after) => k a after := rfl

theorem orElse_run {offset size : ℕ} :
    (r <|> s) ⟨cs, offset, size⟩ = (r ⟨cs, offset, size⟩ <|> s ⟨cs, offset, size⟩) := rfl

theorem Takes.bind (h : Takes r front (front' ++ rest) P)
    (hk : ∀ a, P a → Takes (k a) front' rest Q) : Takes (r >>= k) (front ++ front') rest Q := by
  intro offset size hsize
  rw [List.length_append] at hsize
  obtain ⟨a, hrun, ha⟩ := h offset size (by omega)
  obtain ⟨b, hrun', hb⟩ := hk a ha (offset + width front) size (by omega)
  refine ⟨b, ?_, hb⟩
  rw [width_append, ← Nat.add_assoc, List.append_assoc, bind_run, hrun]
  exact hrun'

theorem Takes.seq {r' : Read β} (h : Takes r front (front' ++ rest) P)
    (h' : Takes r' front' rest Q) : Takes (r >>= fun _ => r') (front ++ front') rest Q :=
  h.bind fun _ _ => h'

/-- A first step that consumes nothing. -/
theorem Takes.first (h : Takes r [] (front ++ rest) P)
    (hk : ∀ a, P a → Takes (k a) front rest Q) : Takes (r >>= k) front rest Q := h.bind hk

/-- A last step that consumes nothing. -/
theorem Takes.finish (h : Takes r front rest P) (hk : ∀ a, P a → Takes (k a) [] rest Q) :
    Takes (r >>= k) front rest Q := by
  have hbind := @Takes.bind _ _ _ _ _ _ front [] rest h hk
  rwa [List.append_nil] at hbind

theorem Takes.map {f : α → β} (h : Takes r front rest P) (imp : ∀ a, P a → Q (f a)) :
    Takes (f <$> r) front rest Q := h.finish fun a ha => takes_pure (imp a ha)

theorem Fails.bind (h : Fails r cs) (k : α → Read β) : Fails (r >>= k) cs := by
  intro offset size
  rw [bind_run, h]
  rfl

theorem Fails.map (h : Fails r cs) (f : α → β) : Fails (f <$> r) cs := by
  intro offset size
  change (r _).bind _ = _
  rw [h]
  rfl

theorem Takes.orElse (h : Takes r front rest P) (s : Read α) : Takes (r <|> s) front rest P := by
  intro offset size hsize
  obtain ⟨a, hrun, ha⟩ := h offset size hsize
  refine ⟨a, ?_, ha⟩
  rw [orElse_run, hrun]
  rfl

theorem Fails.orElse (h : Fails r (front ++ rest)) (hs : Takes s front rest P) :
    Takes (r <|> s) front rest P := by
  intro offset size hsize
  obtain ⟨a, hrun, ha⟩ := hs offset size hsize
  refine ⟨a, ?_, ha⟩
  rw [orElse_run, h, hrun]
  rfl

theorem Fails.or (h : Fails r cs) (hs : Fails s cs) : Fails (r <|> s) cs := by
  intro offset size
  rw [orElse_run, h, hs]
  rfl

theorem Fails.spanned (h : Fails r cs) : Fails (spanned r) cs := by
  intro offset size
  change (r _).bind _ = _
  rw [h]
  rfl

theorem takes_optional_of_fails (h : Fails r rest) : Takes (optional r) [] rest (· = none) :=
  Fails.orElse (h.map some) (takes_pure rfl)

/-! Characters. -/

theorem char_run {offset size : ℕ} : char p ⟨c :: rest, offset, size⟩ =
    if p c then some (c, ⟨rest, offset + c.utf8Size, size⟩) else none := by
  change (if p c = true then _ else _ : Read Char) _ = _
  split <;> rfl

theorem takeWhile_run {offset size : ℕ} : takeWhile p ⟨cs, offset, size⟩ =
    some ((cs.span p).1, ⟨(cs.span p).2, offset + width (cs.span p).1, size⟩) := rfl

theorem takes_char (h : p c) : Takes (char p) [c] rest (· = c) := by
  intro offset size _
  refine ⟨c, ?_, rfl⟩
  rw [List.singleton_append, char_run, if_pos h, width_singleton]

theorem takes_takeWhile (h : ∀ c ∈ front, p c) (stops : Stops p rest) :
    Takes (takeWhile p) front rest (· = front) := by
  intro offset size _
  refine ⟨front, ?_, rfl⟩
  rw [takeWhile_run, span_append h stops]

theorem takes_takeSome (h : ∀ c ∈ front, p c) (stops : Stops p rest) (hne : front ≠ []) :
    Takes (takeSome p) front rest (· = front) := by
  apply (takes_takeWhile h stops).finish
  intro cs hcs
  subst hcs
  rw [if_neg (by simpa using hne)]
  exact takes_pure rfl

theorem fails_takeSome (stops : Stops p cs) : Fails (takeSome p) cs := by
  intro offset size
  have hspan : cs.span p = ([], cs) := span_append (fun c hc => absurd hc List.not_mem_nil) stops
  rw [takeSome, bind_run, takeWhile_run, hspan]
  rfl

theorem takes_literal (front rest : List Char) :
    Takes (literal front) front rest fun _ => True := by
  induction front with
  | nil => exact takes_pure trivial
  | cons c front ih =>
    have hc : Takes (char (· = c)) [c] (front ++ rest) (· = c) := takes_char (by simp)
    exact hc.seq ih

theorem fails_literal {text : List Char} (h : ¬text <+: cs) : Fails (literal text) cs := by
  induction text generalizing cs with
  | nil => exact absurd List.nil_prefix h
  | cons d text ih =>
    intro offset size
    rw [literal, bind_run]
    cases cs with
    | nil => rfl
    | cons c cs =>
      rw [char_run]
      by_cases hc : c = d
      · subst hc
        have hrest : ¬text <+: cs := fun hprefix => h (List.cons_prefix_cons.mpr ⟨rfl, hprefix⟩)
        simpa using ih hrest _ _
      · simp [hc]

theorem fails_literal_cons {d : Char} {text : List Char} (h : c ≠ d) :
    Fails (literal (d :: text)) (c :: cs) :=
  fails_literal fun hprefix => h (List.cons_prefix_cons.mp hprefix).1.symm

theorem takes_exactly {digits : List Char} (h : ∀ c ∈ digits, p c) :
    Takes (exactly digits.length p) digits rest (· = digits) := by
  have hmap : ∀ (places : List ℕ) (digits : List Char), places.length = digits.length →
      (∀ c ∈ digits, p c) → Takes (places.mapM fun _ => char p) digits rest (· = digits) := by
    intro places
    induction places with
    | nil =>
      intro digits hlength _
      rw [List.length_eq_zero_iff.mp hlength.symm]
      exact takes_pure rfl
    | cons i places ih =>
      intro digits hlength h
      cases digits with
      | nil => cases hlength
      | cons d digits =>
        rw [List.mapM_cons]
        have hd : Takes (char p) [d] (digits ++ rest) (· = d) := takes_char (h d (by simp))
        apply hd.bind
        intro a ha
        apply (ih digits (by simpa using hlength) fun c hc => h c (by simp [hc])).finish
        intro as has
        exact takes_pure (by rw [ha, has])
  exact hmap _ _ List.length_range h

theorem takes_atEnd (cs : List Char) : Takes atEnd [] cs (· = cs.isEmpty) :=
  fun _ _ _ => ⟨cs.isEmpty, rfl, rfl⟩

/-! Repetition. -/

/-- As `Takes`, for the reader repeated until it fails. -/
def Repeats (r : Read α) (front rest : List Char) (P : List α → Prop) : Prop :=
  ∀ fuel offset size, front.length ≤ fuel → front.length ≤ size → ∃ as,
    manyFrom r fuel ⟨front ++ rest, offset, size⟩ = (as, ⟨rest, offset + width front, size⟩) ∧
      P as

theorem Repeats.mono {P' Q' : List α → Prop} (h : Repeats r front rest P')
    (imp : ∀ as, P' as → Q' as) : Repeats r front rest Q' := by
  intro fuel offset size hfuel hsize
  obtain ⟨as, hrun, has⟩ := h fuel offset size hfuel hsize
  exact ⟨as, hrun, imp as has⟩

theorem repeats_none (h : Fails r rest) : Repeats r [] rest (· = []) := by
  intro fuel offset size _ _
  refine ⟨[], ?_, rfl⟩
  cases fuel with
  | zero => rfl
  | succ fuel =>
    rw [List.nil_append, manyFrom, h]
    rfl

theorem Takes.repeats {P' : List α → Prop} (h : Takes r front (front' ++ rest) P)
    (hne : front ≠ []) (ih : Repeats r front' rest P') :
    Repeats r (front ++ front') rest fun as => ∃ a as', as = a :: as' ∧ P a ∧ P' as' := by
  intro fuel offset size hfuel hsize
  rw [List.length_append] at hfuel hsize
  have hlength := List.length_pos_iff.mpr hne
  obtain ⟨a, hrun, ha⟩ := h offset size (by omega)
  cases fuel with
  | zero => omega
  | succ fuel =>
    obtain ⟨as, hruns, has⟩ := ih fuel (offset + width front) size (by omega) (by omega)
    refine ⟨a :: as, ?_, a, as, rfl, ha, has⟩
    have hwidth := width_pos hne
    rw [List.append_assoc, manyFrom, hrun, width_append, ← Nat.add_assoc]
    simp only
    rw [if_neg (by omega), hruns]

theorem Repeats.takes {P' : List α → Prop} (h : Repeats r front rest P') :
    Takes (many r) front rest P' := by
  intro offset size hsize
  obtain ⟨as, hrun, has⟩ := h size offset size hsize hsize
  exact ⟨as, congrArg some hrun, has⟩

theorem takes_separated_one {between : Read Unit} (h : Takes r front rest P)
    (stops : Fails between rest) :
    Takes (separated r between) front rest fun as => ∃ a, as = [a] ∧ P a := by
  have hmany : Takes (many (between *> r)) [] rest (· = []) :=
    (repeats_none (stops.bind fun _ => r)).takes
  apply h.finish
  intro a ha
  apply hmany.finish
  intro as has
  exact takes_pure ⟨a, by rw [has], ha⟩

theorem takes_spanned (h : Takes r front rest P) :
    Takes (spanned r) front rest fun a => P a.1 := by
  intro offset size hsize
  obtain ⟨a, hrun, ha⟩ := h offset size hsize
  refine ⟨(a, ⟨offset, offset + width front⟩), ?_, ha⟩
  change (r _).bind _ = _
  rw [hrun]
  rfl

end EngineBridge.Toml.Read
