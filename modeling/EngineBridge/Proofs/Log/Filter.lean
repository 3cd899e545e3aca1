import EngineBridge.Log.Filter
import Mathlib.Data.List.Basic
import Mathlib.Data.List.Induction
import Mathlib.Data.List.Lex
import Mathlib.Data.Prod.Lex
import Mathlib.Data.String.Basic

/-!
Which rule decides on an event. Of the directives for one scope the last one makes the rule, and of
the rules that fit an event the most specific one decides.
-/

namespace EngineBridge.Log

namespace Rule

variable {a b r r' : Rule} {rules rs : List Rule}

/-- The greater rule comes first: the one with the longer target, then the one with more fields,
and then the one whose text is greater. -/
def key (r : Rule) : ℕ ×ₗ ℕ ×ₗ List String :=
  toLex (r.specificity.1, toLex (r.specificity.2, r.scopeText))

theorem precedes_iff : a.precedes b ↔ b.key < a.key := by
  obtain ⟨m, n, hm⟩ : ∃ m n, a.specificity = (m, n) := ⟨_, _, rfl⟩
  obtain ⟨m', n', hm'⟩ : ∃ m n, b.specificity = (m, n) := ⟨_, _, rfl⟩
  simp only [key, Prod.Lex.toLex_lt_toLex, precedes, hm, hm']
  by_cases h : m = m' ∧ n = n'
  · obtain ⟨rfl, rfl⟩ := h
    simp
  · have hne : ((m, n) != (m', n')) = true := by simpa using h
    simp only [hne, if_true, Bool.or_eq_true, Bool.and_eq_true, decide_eq_true_eq, beq_iff_eq]
    omega

theorem sameScope_iff : a.sameScope b ↔ a.key = b.key := by
  obtain ⟨target, fields, threshold⟩ := a
  obtain ⟨target', fields', threshold'⟩ := b
  simp only [sameScope, key, specificity, scopeText, Bool.and_eq_true, beq_iff_eq, toLex_inj,
    Prod.mk.injEq, List.cons.injEq]
  constructor
  · rintro ⟨rfl, rfl⟩
    simp
  · rintro ⟨hlength, -, htext, hfields⟩
    refine ⟨?_, hfields⟩
    cases target with
    | none =>
      cases target' with
      | none => rfl
      | some t' => simp at hlength
    | some t =>
      cases target' with
      | none => simp at hlength
      | some t' => exact congrArg some htext

def Sorted (rules : List Rule) : Prop := rules.Pairwise fun a b => b.key < a.key

theorem insert_cons (r x : Rule) (rest : List Rule) : r.insert (x :: rest) =
    if r.key = x.key then r :: rest
    else if x.key < r.key then r :: x :: rest
    else x :: r.insert rest := by
  rw [insert]
  simp only [sameScope_iff, precedes_iff]

theorem mem_of_mem_insert (h : a ∈ r.insert rules) : a = r ∨ a ∈ rules := by
  induction rules with
  | nil => exact .inl (List.mem_singleton.mp h)
  | cons x rest ih =>
    rw [insert_cons] at h
    split_ifs at h
    · exact (List.mem_cons.mp h).imp_right (List.mem_cons_of_mem x)
    · exact List.mem_cons.mp h
    · rcases List.mem_cons.mp h with rfl | h
      · exact .inr List.mem_cons_self
      · exact (ih h).imp_right (List.mem_cons_of_mem x)

theorem Sorted.insert (sorted : Sorted rules) (r : Rule) : Sorted (r.insert rules) := by
  induction rules with
  | nil => exact List.pairwise_singleton _ r
  | cons x rest ih =>
    obtain ⟨first, rest_sorted⟩ := List.pairwise_cons.mp sorted
    rw [insert_cons]
    split_ifs with hsame hless
    · exact List.pairwise_cons.mpr ⟨fun a ha => hsame ▸ first a ha, rest_sorted⟩
    · refine List.pairwise_cons.mpr ⟨fun a ha => ?_, sorted⟩
      rcases List.mem_cons.mp ha with rfl | ha
      · exact hless
      · exact (first a ha).trans hless
    · refine List.pairwise_cons.mpr ⟨fun a ha => ?_, ih rest_sorted⟩
      rcases mem_of_mem_insert ha with rfl | ha
      · exact lt_of_le_of_ne (not_lt.mp hless) hsame
      · exact first a ha

/-- A rule replaces the one of its own scope and no other. -/
theorem Sorted.mem_insert_iff (sorted : Sorted rules) :
    a ∈ r.insert rules ↔ a = r ∨ a ∈ rules ∧ a.key ≠ r.key := by
  induction rules with
  | nil => simp [Rule.insert]
  | cons x rest ih =>
    obtain ⟨first, rest_sorted⟩ := List.pairwise_cons.mp sorted
    have others (hle : x.key ≤ r.key) : ∀ a ∈ rest, a.key ≠ r.key := fun a ha =>
      ((first a ha).trans_le hle).ne
    rw [insert_cons]
    split_ifs with hsame hless
    · simp only [List.mem_cons]
      constructor
      · rintro (rfl | ha)
        · exact .inl rfl
        · exact .inr ⟨.inr ha, others hsame.ge a ha⟩
      · rintro (rfl | ⟨rfl | ha, hne⟩)
        · exact .inl rfl
        · exact absurd hsame.symm hne
        · exact .inr ha
    · simp only [List.mem_cons]
      constructor
      · rintro (rfl | rfl | ha)
        · exact .inl rfl
        · exact .inr ⟨.inl rfl, hless.ne⟩
        · exact .inr ⟨.inr ha, others hless.le a ha⟩
      · rintro (rfl | ⟨h, -⟩)
        · exact .inl rfl
        · exact .inr h
    · rw [List.mem_cons, ih rest_sorted, List.mem_cons]
      constructor
      · rintro (rfl | rfl | ⟨ha, hne⟩)
        · exact .inr ⟨.inl rfl, fun h => hsame h.symm⟩
        · exact .inl rfl
        · exact .inr ⟨.inr ha, hne⟩
      · rintro (rfl | ⟨rfl | ha, hne⟩)
        · exact .inr (.inl rfl)
        · exact .inl rfl
        · exact .inr (.inr ⟨ha, hne⟩)

theorem insertAll_concat : insertAll (rs ++ [r]) = r.insert (insertAll rs) := List.foldl_append

theorem sorted_insertAll (rs : List Rule) : Sorted (insertAll rs) := by
  induction rs using List.reverseRecOn with
  | nil => exact .nil
  | append_singleton rs r ih => exact insertAll_concat ▸ ih.insert r

/-- The last of the rules for its scope. -/
def Stands (rs : List Rule) (r : Rule) : Prop :=
  ∃ before after, rs = before ++ r :: after ∧ ∀ r' ∈ after, r'.key ≠ r.key

theorem stands_concat_iff : Stands (rs ++ [r]) a ↔ a = r ∨ Stands rs a ∧ a.key ≠ r.key := by
  constructor
  · rintro ⟨before, after, h, last⟩
    rcases List.eq_nil_or_concat' after with rfl | ⟨after, r', rfl⟩
    · exact .inl (List.append_inj_right' h rfl |> List.cons.inj |>.1.symm)
    · have hsplit : rs ++ [r] = (before ++ a :: after) ++ [r'] := by simpa using h
      obtain ⟨rfl, hr⟩ := List.append_inj' hsplit rfl
      cases hr
      refine .inr ⟨⟨before, after, rfl, fun r' h => last r' (List.mem_append_left _ h)⟩, ?_⟩
      exact (last r (by simp)).symm
  · rintro (rfl | ⟨⟨before, after, rfl, last⟩, hne⟩)
    · exact ⟨rs, [], rfl, by simp⟩
    · refine ⟨before, after ++ [r], by simp, fun r' h => ?_⟩
      rcases List.mem_append.mp h with h | h
      · exact last r' h
      · exact List.mem_singleton.mp h ▸ hne.symm

theorem mem_insertAll_iff : a ∈ insertAll rs ↔ Stands rs a := by
  induction rs using List.reverseRecOn with
  | nil => exact iff_of_false List.not_mem_nil (by rintro ⟨before, after, h, -⟩; simp at h)
  | append_singleton rs r ih =>
    rw [insertAll_concat, (sorted_insertAll rs).mem_insert_iff, ih, stands_concat_iff]

/-- The first rule that fits is the greatest of them. -/
theorem Sorted.find?_eq_some_iff (sorted : Sorted rules) {p : Rule → Bool} :
    rules.find? p = some r ↔ r ∈ rules ∧ p r ∧ ∀ r' ∈ rules, p r' → r'.key ≤ r.key := by
  induction rules with
  | nil => simp
  | cons x rest ih =>
    obtain ⟨first, rest_sorted⟩ := List.pairwise_cons.mp sorted
    cases hx : p x with
    | true =>
      rw [List.find?_cons_of_pos hx]
      constructor
      · intro h
        cases h
        refine ⟨List.mem_cons_self, hx, fun r' h _ => ?_⟩
        rcases List.mem_cons.mp h with rfl | h
        · exact le_rfl
        · exact (first r' h).le
      · rintro ⟨h, -, greatest⟩
        rcases List.mem_cons.mp h with rfl | h
        · rfl
        · exact absurd (greatest x List.mem_cons_self hx) (first r h).not_ge
    | false =>
      rw [List.find?_cons_of_neg (by simp [hx]), ih rest_sorted]
      constructor
      · rintro ⟨h, hr, greatest⟩
        refine ⟨List.mem_cons_of_mem x h, hr, fun r' h' hr' => ?_⟩
        rcases List.mem_cons.mp h' with rfl | h'
        · simp [hx] at hr'
        · exact greatest r' h' hr'
      · rintro ⟨h, hr, greatest⟩
        rcases List.mem_cons.mp h with rfl | h
        · simp [hx] at hr
        · exact ⟨h, hr, fun r' h' => greatest r' (List.mem_cons_of_mem x h')⟩

end Rule

namespace Filter

variable {text : String} {f : Filter} {ds : List Directive} {e : Event}

/-- The rules that a list of directives gives, in their order: those without fields come first, and
one that only a span can meet gives none. Without any directive there is one for errors. -/
def given (ds : List Directive) : List Rule :=
  let rules := (ds.filter fun d => !d.isDynamic) ++ ds.filter Directive.isDynamic
    |>.filterMap Rule.ofDirective?
  if rules.isEmpty && (ds.filter Directive.isDynamic).isEmpty then [⟨none, [], some .error⟩]
  else rules

theorem ofDirectives_rules (ds : List Directive) :
    (ofDirectives ds).rules = Rule.insertAll (given ds) := by
  rw [ofDirectives, given]
  generalize hrules : List.filterMap Rule.ofDirective? _ = rules
  have hempty : (Rule.insertAll rules).isEmpty = rules.isEmpty := by
    rw [Bool.eq_iff_iff, List.isEmpty_iff, List.isEmpty_iff]
    constructor
    · intro h
      rcases List.eq_nil_or_concat' rules with rfl | ⟨rs, r, rfl⟩
      · rfl
      · have hr : r ∈ Rule.insertAll (rs ++ [r]) :=
          Rule.mem_insertAll_iff.mpr (Rule.stands_concat_iff.mpr (.inl rfl))
        rw [h] at hr
        cases hr
    · rintro rfl
      rfl
  rw [← hempty]
  split_ifs
  · rfl
  · rfl

/-- An event passes if the most specific rule that fits it lets its level through. -/
theorem ofDirectives_admits_iff : (ofDirectives ds).admits e ↔
    ∃ r, Rule.Stands (given ds) r ∧ r.fits e ∧
      (∀ r', Rule.Stands (given ds) r' → r'.fits e → r'.key ≤ r.key) ∧
      e.level.rank ≤ Threshold.rank r.threshold := by
  have sorted := Rule.sorted_insertAll (given ds)
  simp only [← Rule.mem_insertAll_iff]
  rw [admits, ofDirectives_rules]
  cases hfind : (Rule.insertAll (given ds)).find? (·.fits e) with
  | none =>
    rw [List.find?_eq_none] at hfind
    refine iff_of_false Bool.false_ne_true ?_
    rintro ⟨r, hr, hfits, -⟩
    exact hfind r hr hfits
  | some r =>
    obtain ⟨hr, hfits, greatest⟩ := sorted.find?_eq_some_iff.mp hfind
    simp only [decide_eq_true_eq]
    refine ⟨fun h => ⟨r, hr, hfits, greatest, h⟩, ?_⟩
    rintro ⟨r', hr', hfits', greatest', h⟩
    obtain rfl := Option.some.inj
      (hfind.symm.trans (sorted.find?_eq_some_iff.mpr ⟨hr', hfits', greatest'⟩))
    exact h

/-- The lenient reader reads what the strict one reads. -/
theorem parseLossy_of_parse (h : parse text = .ok f) : parseLossy text = f := by
  have kept : ∀ {parts : List (List Char)} {ds : List Directive},
      parts.mapM Directive.parse = .ok ds →
        parts.filterMap (fun part => (Directive.parse part).toOption) = ds := by
    intro parts
    induction parts with
    | nil =>
      rintro ds ⟨⟩
      rfl
    | cons part parts ih =>
      intro ds h
      rw [List.mapM_cons] at h
      cases hpart : Directive.parse part with
      | error e =>
        rw [hpart] at h
        cases h
      | ok d =>
        cases hparts : parts.mapM Directive.parse with
        | error e =>
          rw [hpart, hparts] at h
          cases h
        | ok rest =>
          rw [hpart, hparts] at h
          cases h
          rw [List.filterMap_cons, hpart, ih hparts]
          rfl
  rw [parse] at h
  cases hds : (parts text).mapM Directive.parse with
  | error e =>
    rw [hds] at h
    cases h
  | ok ds =>
    rw [hds] at h
    cases h
    rw [parseLossy, kept hds]

end Filter

end EngineBridge.Log
