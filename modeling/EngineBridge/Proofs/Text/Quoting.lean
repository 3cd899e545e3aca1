import EngineBridge.Text.Digit
import Mathlib.Algebra.Group.Nat.Even
import Mathlib.Data.List.TakeDrop
import Mathlib.Data.List.TakeWhile

/-!
Texts between double quotes, as TOML and YAML both read them: what is neither a visible ASCII
character nor a quote nor a backslash is written as the eight digits of its number.
-/

namespace EngineBridge.Text

variable {cs front rest : List Char} {c : Char} {p : Char → Bool}

/-- Stands for itself between double quotes. -/
def isPlain (c : Char) : Bool := 0x20 < c.toNat && c.toNat < 0x7F && c != '"' && c != '\\'

def eightDigits (n : ℕ) : List Char :=
  (List.range 8).reverse.map fun i => Nat.digitChar (n / 16 ^ i % 16)

def escaped (c : Char) : List Char := if isPlain c then [c] else '\\' :: 'U' :: eightDigits c.toNat

def escapedText (cs : List Char) : List Char := cs.flatMap escaped

def quotedText (text : String) : List Char := '"' :: (escapedText text.toList ++ ['"'])

theorem hexDigit?_digitChar : ∀ d < 16, hexDigit? (Nat.digitChar d) = some d := by decide

theorem hexDigit?_digit (n i : ℕ) :
    hexDigit? (Nat.digitChar (n / 16 ^ i % 16)) = some (n / 16 ^ i % 16) :=
  hexDigit?_digitChar _ (Nat.mod_lt _ (by decide))

/-- From the number above a place to the number above the next one. -/
theorem div_mul_add_digit (n i : ℕ) : n / 16 ^ (i + 1) * 16 + n / 16 ^ i % 16 = n / 16 ^ i := by
  rw [pow_succ, ← Nat.div_div_eq_div_mul]
  exact Nat.div_add_mod' (n / 16 ^ i) 16

theorem foldl_digits (n places : ℕ) :
    (List.range places).reverse.foldl (fun v i => v * 16 + n / 16 ^ i % 16) (n / 16 ^ places) =
      n := by
  induction places with
  | zero => simp
  | succ places ih =>
    rw [List.range_succ, List.reverse_append, List.reverse_singleton, List.singleton_append,
      List.foldl_cons, div_mul_add_digit]
    exact ih

theorem eightDigits_value {n : ℕ} (h : n < 2 ^ 32) :
    (List.range 8).reverse.foldl (fun v i => v * 16 + n / 16 ^ i % 16) 0 = n := by
  have hnone : n / 16 ^ 8 = 0 := Nat.div_eq_of_lt h
  have hvalue := foldl_digits n 8
  rwa [hnone] at hvalue

theorem toNat_lt (c : Char) : c.toNat < 2 ^ 32 := c.val.toNat_lt

theorem escapedText_cons (c : Char) (cs : List Char) :
    escapedText (c :: cs) = escaped c ++ escapedText cs := rfl

theorem escapedText_append (cs ds : List Char) :
    escapedText (cs ++ ds) = escapedText cs ++ escapedText ds := List.flatMap_append

theorem escapedText_of_plain (h : ∀ c ∈ cs, isPlain c) : escapedText cs = cs := by
  induction cs with
  | nil => rfl
  | cons c cs ih =>
    rw [escapedText_cons, escaped, if_pos (h c List.mem_cons_self),
      ih fun c hc => h c (List.mem_cons_of_mem _ hc)]
    rfl

theorem length_le_escapedText (cs : List Char) : cs.length ≤ (escapedText cs).length := by
  induction cs with
  | nil => simp
  | cons c cs ih =>
    have hc : 0 < (escaped c).length := by
      rw [escaped]
      split <;> simp
    rw [escapedText_cons, List.length_append, List.length_cons]
    omega

theorem isPlain_digitChar (n i : ℕ) : isPlain (Nat.digitChar (n / 16 ^ i % 16)) = true := by
  have h : ∀ d < 16, isPlain (Nat.digitChar d) = true := by decide
  exact h _ (Nat.mod_lt _ (by decide))

theorem mem_escapedText (h : c ∈ escapedText cs) :
    isPlain c ∨ c = '\\' := by
  obtain ⟨d, -, hc⟩ := List.mem_flatMap.mp h
  rw [escaped] at hc
  split_ifs at hc with hplain
  · exact .inl (List.mem_singleton.mp hc ▸ hplain)
  · rcases List.mem_cons.mp hc with rfl | hc
    · exact .inr rfl
    rcases List.mem_cons.mp hc with rfl | hc
    · exact .inl (by decide)
    · obtain ⟨i, -, rfl⟩ := List.mem_map.mp hc
      exact .inl (isPlain_digitChar _ _)

/-- A text that does not go on with a character of a kind. -/
def Stops (p : Char → Bool) (cs : List Char) : Prop := ∀ c, cs.head? = some c → p c = false

theorem stops_cons : Stops p (c :: cs) ↔ p c = false := by simp [Stops]

theorem span_append (h : ∀ c ∈ front, p c) (stops : Stops p rest) :
    (front ++ rest).span p = (front, rest) := by
  have hrest : rest.takeWhile p = [] ∧ rest.dropWhile p = rest := by
    cases rest with
    | nil => simp
    | cons c rest => simp [stops_cons.mp stops]
  rw [List.span_eq_takeWhile_dropWhile, List.takeWhile_append_of_pos h,
    List.dropWhile_append_of_pos h, hrest.1, hrest.2, List.append_nil]

/-- The longest run of plain characters at the front of a text. -/
theorem exists_plain_front (cs : List Char) :
    ∃ front back, front ++ back = cs ∧ (∀ c ∈ front, isPlain c) ∧ Stops isPlain back := by
  refine ⟨cs.takeWhile isPlain, cs.dropWhile isPlain, List.takeWhile_append_dropWhile,
    fun c => List.mem_takeWhile_imp, ?_⟩
  intro c hc
  have hstop := List.head?_dropWhile_not isPlain cs
  simpa [hc] using hstop

end EngineBridge.Text
