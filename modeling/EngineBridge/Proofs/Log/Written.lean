import EngineBridge.Proofs.Log.Filter
import Mathlib.Data.String.Lemmas

/-!
What a filter of targets with levels lets through, from its text on.
-/

namespace EngineBridge.Text

open String (utf8Len)

theorem takeBytes?_append (front rest : List Char) :
    takeBytes? (utf8Len front) (front ++ rest) = some front := by
  induction front with
  | nil => rw [String.utf8Len_nil, takeBytes?]
  | cons c front ih =>
    obtain ⟨n, hn⟩ := Nat.exists_eq_add_one_of_ne_zero c.utf8Size_pos.ne'
    rw [String.utf8Len_cons, List.cons_append, hn, ← Nat.add_assoc, takeBytes?, hn,
      if_pos (by omega), Nat.add_assoc, Nat.add_sub_cancel, ih]
    rfl

theorem dropBytes?_append (front rest : List Char) :
    dropBytes? (utf8Len front) (front ++ rest) = some rest := by
  induction front with
  | nil => rw [String.utf8Len_nil, List.nil_append, dropBytes?]
  | cons c front ih =>
    obtain ⟨n, hn⟩ := Nat.exists_eq_add_one_of_ne_zero c.utf8Size_pos.ne'
    rw [String.utf8Len_cons, List.cons_append, hn, ← Nat.add_assoc, dropBytes?, hn,
      if_pos (by omega), Nat.add_assoc, Nat.add_sub_cancel, ih]

theorem slice?_part (front part rest : List Char) :
    slice? (front ++ part ++ rest) (utf8Len front) (utf8Len (front ++ part)) = some part := by
  rw [slice?, takeBytes?_append]
  exact dropBytes?_append front part

theorem dropWhile_of_head {p : Char → Bool} {cs : List Char}
    (h : ∀ c, cs.head? = some c → p c = false) : cs.dropWhile p = cs := by
  cases cs with
  | nil => rfl
  | cons c cs => simp [h c rfl]

theorem trim_eq_self {cs : List Char} (hfirst : ∀ c, cs.head? = some c → isBlankChar c = false)
    (hlast : ∀ c, cs.getLast? = some c → isBlankChar c = false) : trim cs = cs := by
  have hreverse : ∀ c, cs.reverse.head? = some c → isBlankChar c = false := by
    simpa [List.head?_reverse] using hlast
  rw [trim, dropWhile_of_head hfirst, dropWhile_of_head hreverse, List.reverse_reverse]

end EngineBridge.Text

namespace EngineBridge.Log

open String (utf8Len)

def Threshold.word : Threshold → String
  | none => "off"
  | some .error => "error"
  | some .warn => "warn"
  | some .info => "info"
  | some .debug => "debug"
  | some .trace => "trace"

theorem Threshold.parse_word (t : Threshold) : parse t.word = some t := by
  cases t with
  | none => decide +kernel
  | some level => cases level <;> decide +kernel

namespace Directive

variable {cs front rest : List Char} {d : Directive} {i since : ℕ} {mode mode' : Mode}

theorem slice_part (front part rest : List Char) :
    slice (front ++ part ++ rest) (utf8Len front) (utf8Len (front ++ part)) =
      .ok (String.ofList part) := by
  rw [slice, Text.slice?_part]

theorem scan_append {d' : Directive} (h : scan cs i front mode d = .ok (mode', d')) :
    scan cs i (front ++ rest) mode d = scan cs (i + utf8Len front) rest mode' d' := by
  induction front generalizing i mode d with
  | nil =>
    cases h
    rfl
  | cons c front ih =>
    rw [scan] at h
    rw [List.cons_append, scan]
    cases hstep : step cs i c mode d with
    | error e =>
      rw [hstep] at h
      cases h
    | ok next =>
      rw [hstep] at h
      rw [String.utf8Len_cons, Nat.add_comm (utf8Len front), ← Nat.add_assoc]
      exact ih h

theorem scan_level (rest : List Char) :
    scan cs i rest (.level since) d = .ok (.level since, d) := by
  induction rest generalizing i with
  | nil => rfl
  | cons c rest ih => exact ih

theorem scan_target (h : ∀ c ∈ rest, c ≠ '=' ∧ c ≠ '[') :
    scan cs i rest (.levelOrTarget since) d = .ok (.levelOrTarget since, d) := by
  induction rest generalizing i with
  | nil => rfl
  | cons c rest ih =>
    obtain ⟨hequals, hbracket⟩ := h c List.mem_cons_self
    have hstep : step cs i c (.levelOrTarget since) d = .ok (.levelOrTarget since, d) := by
      rw [step]
      · exact hequals
      · exact hbracket
    rw [scan, hstep]
    exact ih fun c hc => h c (List.mem_cons_of_mem _ hc)

end Directive

/-- A name that a directive may have for its target. -/
structure IsTarget (target : String) : Prop where
  chars : ∀ c ∈ target.toList, c ≠ '=' ∧ c ≠ '[' ∧ c ≠ ','
  first : ∃ c cs, target.toList = c :: cs ∧ Directive.startsTarget c ∧ Text.isBlankChar c = false

theorem IsTarget.head {name : String} (h : IsTarget name) {rest : List Char} {c : Char}
    (hc : (name.toList ++ rest).head? = some c) : Text.isBlankChar c = false := by
  obtain ⟨d, tail, hname, -, hd⟩ := h.first
  rw [hname] at hc
  cases hc
  exact hd

theorem IsTarget.ne_nil {name : String} (h : IsTarget name) : name.toList ≠ [] := by
  obtain ⟨c, tail, hname, -⟩ := h.first
  rw [hname]
  exact List.cons_ne_nil c tail

theorem Threshold.isTarget_word (t : Threshold) : IsTarget t.word := by
  have hchars : t.word.toList.all (fun c => c != '=' && c != '[' && c != ',') = true := by
    cases t with
    | none => decide
    | some level => cases level <;> decide
  refine ⟨fun c hc => by simpa [and_assoc] using List.all_eq_true.mp hchars c hc, ?_⟩
  cases t with
  | none => exact ⟨'o', _, rfl, by decide +kernel, by decide⟩
  | some level =>
    cases level with
    | error => exact ⟨'e', _, rfl, by decide +kernel, by decide⟩
    | warn => exact ⟨'w', _, rfl, by decide +kernel, by decide⟩
    | info => exact ⟨'i', _, rfl, by decide +kernel, by decide⟩
    | debug => exact ⟨'d', _, rfl, by decide +kernel, by decide⟩
    | trace => exact ⟨'t', _, rfl, by decide +kernel, by decide⟩

theorem Threshold.getLast?_word (t : Threshold) {c : Char} (h : t.word.toList.getLast? = some c) :
    Text.isBlankChar c = false := by
  cases t with
  | none =>
    cases h
    decide
  | some level =>
    cases level <;>
    · cases h
      decide

theorem Directive.scan_name {cs : List Char} {d : Directive} {name : String} (h : IsTarget name) :
    scan cs 0 name.toList .start d = .ok (.levelOrTarget 0, d) := by
  obtain ⟨c, tail, hname, hstarts, -⟩ := h.first
  have hchars := h.chars
  rw [hname] at hchars
  have hstep : step cs 0 c .start d = .ok (.levelOrTarget 0, d) := by
    rw [step]
    · rw [if_pos hstarts]
    · exact (hchars c List.mem_cons_self).2.1
  rw [hname, scan, hstep]
  apply scan_target
  intro c hc
  have hc := hchars c (List.mem_cons_of_mem _ hc)
  exact ⟨hc.1, hc.2.1⟩

/-- What stands from a place on up to the end of a directive. -/
theorem Directive.slice_tail (front part : List Char) :
    slice (front ++ part) (utf8Len front) (String.ofList (front ++ part)).utf8ByteSize =
      .ok (String.ofList part) := by
  have hslice := slice_part front part []
  rwa [List.append_nil, ← String.utf8ByteSize_ofList (front ++ part)] at hslice

theorem Directive.parse_bare (t : Threshold) :
    parse t.word.toList = .ok ⟨t, none, none, []⟩ := by
  have htrim : Text.trim t.word.toList = t.word.toList := by
    apply Text.trim_eq_self
    · intro c hc
      apply t.isTarget_word.head
      rwa [List.append_nil]
    · exact fun c => t.getLast?_word
  have htail : slice t.word.toList 0 (String.ofList t.word.toList).utf8ByteSize = .ok t.word :=
    (slice_tail [] t.word.toList).trans (by rw [String.ofList_toList])
  rw [parse, htrim, scan_name t.isTarget_word]
  simp only [bind, Except.bind, finish, htail, Threshold.parse_word]

theorem Directive.parse_targeted {target : String} (h : IsTarget target) (t : Threshold) :
    parse (target.toList ++ '=' :: t.word.toList) = .ok ⟨t, some target, none, []⟩ := by
  have htrim : Text.trim (target.toList ++ '=' :: t.word.toList) =
      target.toList ++ '=' :: t.word.toList := by
    apply Text.trim_eq_self
    · exact fun c => h.head
    · intro c hc
      rw [List.append_cons, List.getLast?_append_of_ne_nil _ t.isTarget_word.ne_nil] at hc
      exact t.getLast?_word hc
  have hname : slice (target.toList ++ '=' :: t.word.toList) 0 (0 + utf8Len target.toList) =
      .ok target := by
    have hslice := slice_part [] target.toList ('=' :: t.word.toList)
    rw [String.ofList_toList] at hslice
    rwa [Nat.zero_add]
  have htail : slice (target.toList ++ '=' :: t.word.toList) (0 + utf8Len target.toList + 1)
      (String.ofList (target.toList ++ '=' :: t.word.toList)).utf8ByteSize = .ok t.word := by
    have hslice := slice_tail (target.toList ++ ['=']) t.word.toList
    rw [List.append_assoc, String.utf8Len_append, String.ofList_toList] at hslice
    rw [Nat.zero_add]
    exact hslice
  have hword : t.word ≠ "" := by
    intro hempty
    exact t.isTarget_word.ne_nil (by rw [hempty]; rfl)
  rw [parse, htrim, scan_append (scan_name h), scan]
  simp only [step, hname, bind, Except.bind, scan_level, finish, htail, readThreshold, hword,
    if_false, Threshold.parse_word]

namespace Rule

/-- A rule without fields, as the text of a directive. -/
def text (r : Rule) : List Char :=
  match r.target with
  | none => r.threshold.word.toList
  | some target => target.toList ++ '=' :: r.threshold.word.toList

structure IsPlain (r : Rule) : Prop where
  target : ∀ target, r.target = some target → IsTarget target
  fields : r.fields = []

theorem parse_text {r : Rule} (h : r.IsPlain) :
    Directive.parse r.text = .ok ⟨r.threshold, r.target, none, []⟩ := by
  obtain ⟨target, fields, t⟩ := r
  cases target with
  | none => exact Directive.parse_bare t
  | some target => exact Directive.parse_targeted (h.target target rfl) t

variable {rules : List Rule}

theorem comma_notMem_text {r : Rule} (h : r.IsPlain) : ',' ∉ r.text := by
  obtain ⟨target, fields, t⟩ := r
  have hword : ',' ∉ t.word.toList := fun hmem => (t.isTarget_word.chars _ hmem).2.2 rfl
  cases target with
  | none => exact hword
  | some target =>
    have htarget : ',' ∉ target.toList := fun hmem =>
      ((h.target target rfl).chars _ hmem).2.2 rfl
    simp [text, hword, htarget]

theorem text_ne_nil (r : Rule) : r.text ≠ [] := by
  obtain ⟨target, fields, t⟩ := r
  cases target with
  | none => exact t.isTarget_word.ne_nil
  | some target => simp [text]

def texts (rules : List Rule) : String := String.ofList ([','].intercalate (rules.map text))

theorem parts_texts (h : ∀ r ∈ rules, r.IsPlain) (hne : rules ≠ []) :
    Filter.parts (texts rules) = rules.map text := by
  have hcomma : ∀ part ∈ rules.map text, ',' ∉ part := by
    intro part hpart
    obtain ⟨r, hr, rfl⟩ := List.mem_map.mp hpart
    exact comma_notMem_text (h r hr)
  rw [Filter.parts, texts, String.toList_ofList, Filter.splitComma,
    List.splitOn_intercalate ',' hcomma (by simpa using hne), List.filter_eq_self]
  intro part hpart
  obtain ⟨r, -, rfl⟩ := List.mem_map.mp hpart
  simpa using text_ne_nil r

def directive (r : Rule) : Directive := ⟨r.threshold, r.target, none, []⟩

theorem mapM_parse_text (h : ∀ r ∈ rules, r.IsPlain) :
    (rules.map text).mapM Directive.parse = .ok (rules.map directive) := by
  induction rules with
  | nil => rfl
  | cons r rules ih =>
    rw [List.map_cons, List.mapM_cons, parse_text (h r List.mem_cons_self),
      ih fun r hr => h r (List.mem_cons_of_mem _ hr)]
    rfl

theorem ofDirective?_directive {r : Rule} (h : r.IsPlain) : ofDirective? r.directive = some r := by
  obtain ⟨target, fields, t⟩ := r
  obtain rfl : fields = [] := h.fields
  rfl

theorem given_directives (h : ∀ r ∈ rules, r.IsPlain) (hne : rules ≠ []) :
    Filter.given (rules.map directive) = rules := by
  have hdynamic : (rules.map directive).filter Directive.isDynamic = [] := by
    simp [directive, Directive.isDynamic]
  have hstatic : (rules.map directive).filter (fun d => !d.isDynamic) = rules.map directive := by
    simp [List.filter_eq_self, directive, Directive.isDynamic]
  have hrules : (rules.map directive).filterMap ofDirective? = rules := by
    rw [List.filterMap_map]
    exact (List.filterMap_congr fun r hr => ofDirective?_directive (h r hr)).trans
      List.filterMap_some
  simp [Filter.given, hdynamic, hstatic, hrules, hne]

end Rule

/-- What a list of targets with levels lets through, from its text on: the last rule for a target
stands, and of the rules that fit an event the one with the longest target decides. -/
theorem Filter.parse_texts_admits_iff {rules : List Rule} (h : ∀ r ∈ rules, r.IsPlain)
    (hne : rules ≠ []) : ∃ f, parse (Rule.texts rules) = .ok f ∧ ∀ e, f.admits e ↔
      ∃ r, Rule.Stands rules r ∧ r.fits e ∧
        (∀ r', Rule.Stands rules r' → r'.fits e → r'.key ≤ r.key) ∧
        e.level.rank ≤ Threshold.rank r.threshold := by
  refine ⟨ofDirectives (rules.map Rule.directive), ?_, fun e => ?_⟩
  · rw [parse, Rule.parts_texts h hne, Rule.mapM_parse_text h]
    rfl
  · rw [ofDirectives_admits_iff, Rule.given_directives h hne]

end EngineBridge.Log
